import HomeAddons.Gateway.Delivery

/-!
# Weixin Gateway: no answer is discarded

An expiry is recorded twice, in the state of the identity and in the one of its runtime. A delivery
looks at the runtime before it waits for its locks and at the identity when it has them; stopping
the pollers writes the runtime only.

* `NoneDiscarded`: no answer to an active, bound recipient was suppressed, and every message that is
  not in the queue was refused, suppressed for another reason, or answered with all its chunks.
* `none_discarded`: so it is exactly if no delivery gets its locks while the identity of such a
  recipient is not active; a calm run keeps both records of an expiry in step.
-/

namespace HomeAddons.Gateway

open HomeAddons.Common

namespace DeliveryWorld

/-! ## What the log says -/

/-- The pieces of the answer to a message that were sent. -/
def piecesSent (messageId : String) (log : List DeliveryEvent) : ℕ :=
  log.countP fun e =>
    match e with
    | .sent id _ => id = messageId
    | _ => false

/-- The message was refused before the Controller had it, or suppressed for a recipient who is not
    an active, bound user any more, or all chunks of its answer were sent. -/
inductive Settled (log : List DeliveryEvent) (messageId : String) : Prop where
  | rejected (h : .rejected messageId ∈ log)
  | suppressed (reason : String) (h : .suppressed messageId reason false ∈ log)
  | answered (chunks : ℕ) (h : .finished messageId chunks ∈ log)
      (hsent : chunks ≤ piecesSent messageId log)

/-- No answer to an active, bound user was suppressed, and what is not settled is in the queue. -/
structure NoneDiscarded (w : DeliveryWorld) : Prop where
  bound : ∀ messageId reason, .suppressed messageId reason true ∉ w.log
  queued : ∀ messageId m, w.messages.get? messageId = some m →
    (m.state = .pendingController ∨ m.state = .controllerSubmitted) ∨ Settled w.log messageId

/-- A delivery that gets its locks finds the identity of an active, bound recipient active. -/
def IdentityActive (w : DeliveryWorld) : DeliveryStep → Prop
  | .authorize => ∀ messageId chunks m, w.phase = .waiting messageId chunks →
      w.messages.get? messageId = some m → w.store.boundSender m = true →
      (w.store.identities.get? (m.identityId.getD "")).any (fun i => i.state = .active) = true
  | _ => True

variable {w w' : DeliveryWorld}

theorem piecesSent_append (messageId : String) (log es : List DeliveryEvent) :
    piecesSent messageId log ≤ piecesSent messageId (log ++ es) := by
  unfold piecesSent
  rw [List.countP_append]
  omega

variable {messageId now id' : String} {errorCode : Option String} {e : DeliveryStep}
  {g g' : GatewayStore} {cfg : Config} {env : Env} {r : Json}

theorem Settled.append {log : List DeliveryEvent} (h : Settled log messageId)
    (es : List DeliveryEvent) : Settled (log ++ es) messageId := by
  cases h with
  | rejected h => exact .rejected (List.mem_append_left es h)
  | suppressed reason h => exact .suppressed reason (List.mem_append_left es h)
  | answered chunks h hsent =>
    exact .answered chunks (List.mem_append_left es h)
      (hsent.trans (piecesSent_append messageId log es))

/-! ## Answers that are not discarded -/

/-- The invariant of the runs: the pieces that a delivery counts are in the log. -/
structure Counted (w : DeliveryWorld) : Prop extends NoneDiscarded w where
  counted : ∀ messageId chunks pieces, w.phase = .sending messageId chunks pieces →
    pieces ≤ piecesSent messageId w.log

theorem Counted.quiet (h : Counted w) (hq : Quiet w w') : Counted w' where
  bound := by
    rw [hq.log]
    exact h.bound
  queued := by
    rw [hq.log, hq.messages]
    exact h.queued
  counted := by
    rw [hq.log, hq.phase]
    exact h.counted

/-- A step that leaves the rows and the log alone, and ends or begins an attempt. -/
theorem Counted.phase (h : Counted w) (hmessages : w'.messages = w.messages)
    (hlog : w'.log = w.log)
    (hphase : ∀ messageId chunks pieces, w'.phase = .sending messageId chunks pieces →
      pieces ≤ piecesSent messageId w.log) : Counted w' where
  bound := by
    rw [hlog]
    exact h.bound
  queued := by
    rw [hlog, hmessages]
    exact h.queued
  counted := by
    rw [hlog]
    exact hphase

/-- A row is marked after an event that settles its message. -/
theorem NoneDiscarded.mark (h : NoneDiscarded w) {state : MessageState} {jobId : Option String}
    {e : DeliveryEvent} (hbound : ∀ id reason, e ≠ .suppressed id reason true)
    (hstate : (state = .pendingController ∨ state = .controllerSubmitted) ∨
      Settled (w.log ++ [e]) messageId) :
    NoneDiscarded ((w.setMessage messageId state jobId errorCode).note e) where
  bound := by
    intro id reason hmem
    obtain hmem | hmem := List.mem_append.mp hmem
    · exact h.bound id reason hmem
    · exact hbound id reason (List.mem_singleton.mp hmem).symm
  queued := by
    intro id m hm
    simp only [note, setMessage, Table.get?_update_eq_some] at hm
    obtain ⟨m₀, hm₀, rfl⟩ := hm
    split_ifs with hid
    · subst hid
      exact hstate
    · exact (h.queued id m₀ hm₀).imp_right fun hs => hs.append [e]

theorem NoneDiscarded.note (h : NoneDiscarded w) {e : DeliveryEvent}
    (hbound : ∀ id reason, e ≠ .suppressed id reason true) : NoneDiscarded (w.note e) where
  bound := by
    intro id reason hmem
    obtain hmem | hmem := List.mem_append.mp hmem
    · exact h.bound id reason hmem
    · exact hbound id reason (List.mem_singleton.mp hmem).symm
  queued := fun id m hm => (h.queued id m hm).imp_right fun hs => hs.append [e]

/-- A change that leaves the delivery loop idle. -/
theorem NoneDiscarded.counted (h : NoneDiscarded w) (hidle : w.phase = .idle) : Counted w where
  toNoneDiscarded := h
  counted := fun messageId chunks pieces hphase => by
    rw [hidle] at hphase
    cases hphase

theorem submit_counted (h : Counted w) (hidle : w.phase = .idle) (messageId : String)
    (profileSupported : Bool) (outcome : Submission) :
    Counted (w.submit messageId profileSupported outcome) := by
  unfold submit
  split
  · exact h
  · rename_i m hm
    split
    · split
      · refine (h.mark (by intro _ _ he; cases he) (.inr (.rejected ?_))).counted hidle
        exact List.mem_append_right _ (List.mem_singleton_self _)
      · split
        · refine (h.mark (by intro _ _ he; cases he) (.inr (.rejected ?_))).counted hidle
          exact List.mem_append_right _ (List.mem_singleton_self _)
        · cases outcome with
          | refused => exact h
          | taken jobId =>
            exact (h.mark (by intro _ _ he; cases he) (.inl (.inr rfl))).counted hidle
          | unmarked => exact (h.note (by intro _ _ he; cases he)).counted hidle
    · exact h

theorem deliver_counted (h : Counted w) (messageId : String) (chunks : ℕ) :
    Counted (w.deliver messageId chunks) := by
  unfold deliver
  split
  · exact h
  · split
    · split
      · exact h
      · rename_i w₁ r hruntime
        have hq := (runtimeForIdentity_aside hruntime).quiet
        split
        · exact h.quiet hq
        · exact h.phase hq.messages hq.log (by intro _ _ _ hphase; cases hphase)
    · exact h

/-- Both locks are held: an answer to an active, bound recipient is suppressed if its identity is
    not active. -/
theorem authorizationSuppression_bound {m : QueuedMessage} (h : g.boundSender m = true) :
    g.authorizationSuppression m = none ↔
      (g.identities.get? (m.identityId.getD "")).any (fun i => i.state = .active) = true := by
  unfold GatewayStore.boundSender at h
  rw [Bool.and_eq_true, Bool.and_eq_true] at h
  obtain ⟨⟨hauthorized, hnamed⟩, hbound⟩ := h
  rw [Option.any_eq_true] at hbound
  obtain ⟨r, hroute, hidentity⟩ := hbound
  rw [decide_eq_true_eq] at hidentity
  have hid : g.identities.get? r.1.identityId = some r.1 := by
    unfold GatewayStore.identityRouteForPrincipal at hroute
    obtain ⟨b, -, hroute⟩ := Option.bind_eq_some_iff.mp hroute
    split at hroute
    · obtain ⟨i, hi, hr⟩ := Option.bind_eq_some_iff.mp hroute
      obtain rfl := Option.some.inj hr
      rw [Table.key_of_get? hi]
      exact hi
    · cases hroute
  unfold GatewayStore.authorizationSuppression
  cases hauth : g.authorizeStoredMessage m.userHash m.capabilityProfile with
  | error e =>
    rw [hauth] at hauthorized
    cases hauthorized
  | ok p =>
    dsimp only
    rw [if_pos (.inl hnamed), hroute, hidentity]
    simp [hid]

theorem authorize_counted (h : Counted w) (hactive : IdentityActive w .authorize) :
    Counted w.authorize := by
  unfold authorize
  split
  · rename_i messageId chunks hphase
    split
    · exact h.phase rfl rfl (by intro _ _ _ he; cases he)
    · rename_i m hm
      split
      · refine h.phase rfl rfl ?_
        intro _ _ _ he
        cases he
        exact Nat.zero_le _
      · rename_i reason hreason
        have hunbound : w.store.boundSender m = false := by
          by_contra hb
          rw [Bool.not_eq_false] at hb
          have := (authorizationSuppression_bound hb).mpr (hactive messageId chunks m hphase hm hb)
          rw [hreason] at this
          cases this
        rw [hunbound]
        have hmark : NoneDiscarded ((w.setMessage messageId .failed none (some reason)).note
            (.suppressed messageId reason false)) := by
          refine h.mark (by intro _ _ he; cases he) (.inr (.suppressed reason ?_))
          exact List.mem_append_right _ (List.mem_singleton_self _)
        exact NoneDiscarded.counted ⟨hmark.bound, hmark.queued⟩ rfl
  · exact h

theorem send_counted (h : Counted w) : Counted w.send := by
  unfold send
  split
  · rename_i messageId chunks pieces hphase
    split
    · exact h
    · rename_i m _
      have hnote := h.note (e := .sent messageId (w.store.ownedBySender m))
        (by intro _ _ he; cases he)
      refine ⟨⟨hnote.bound, hnote.queued⟩, ?_⟩
      intro _ _ _ he
      cases he
      have hcount := h.counted messageId chunks pieces hphase
      show pieces + 1 ≤ piecesSent messageId (w.log ++ [_])
      unfold piecesSent at hcount ⊢
      rw [List.countP_append, List.countP_singleton]
      simp only [decide_true, if_true]
      omega
  · exact h

theorem finish_counted (h : Counted w) (errorCode : Option String) :
    Counted (w.finish errorCode) := by
  unfold finish
  split
  · rename_i messageId chunks pieces hphase
    split
    · rename_i hchunks
      have hsent := (hchunks.trans (h.counted messageId chunks pieces hphase)).trans
        (piecesSent_append messageId w.log [.finished messageId chunks])
      have hmark : NoneDiscarded ((w.setMessage messageId
          (if errorCode = none then .completed else .failed) none errorCode).note
          (.finished messageId chunks)) := by
        refine h.mark (by intro _ _ he; cases he) (.inr (.answered chunks ?_ hsent))
        exact List.mem_append_right _ (List.mem_singleton_self _)
      exact NoneDiscarded.counted ⟨hmark.bound, hmark.queued⟩ rfl
    · exact h
  · exact h

theorem receive_counted (h : Counted w) (m : QueuedMessage) : Counted (w.receive m) := by
  unfold receive
  dsimp only
  split
  · rename_i messages hinsert
    refine ⟨⟨h.bound, ?_⟩, h.counted⟩
    intro id m' hm'
    obtain ⟨-, rfl⟩ | ⟨-, hm'⟩ := (Table.get?_insert?_eq_some hinsert).mp hm'
    · exact .inl (.inl rfl)
    · exact h.queued id m' hm'
  · exact h

theorem step_counted (h : Counted w) (he : IdentityActive w e) : Counted (step cfg w e) := by
  cases e with
  | receive m => exact receive_counted h m
  | submit messageId profileSupported outcome =>
    show Counted (if w.phase = .idle then _ else w)
    split_ifs with hidle
    · exact submit_counted h hidle messageId profileSupported outcome
    · exact h
  | deliver messageId chunks =>
    show Counted (if w.phase = .idle then _ else w)
    split_ifs
    · exact deliver_counted h messageId chunks
    · exact h
  | authorize => exact authorize_counted h he
  | send => exact send_counted h
  | abort => exact h.phase rfl rfl (by intro _ _ _ he; cases he)
  | finish errorCode => exact finish_counted h errorCode
  | expire id toPoller now => exact h.quiet (expireSession_aside w id toPoller now).quiet
  | startPollers conflicts unpaired now =>
    exact h.quiet (startPollers_aside w conflicts unpaired now).quiet
  | stopPollers now => exact h.quiet (stopPollers_aside w now).quiet
  | enablePollers enabled => exact h.quiet ⟨rfl, rfl, rfl⟩
  | restart env clean boot onDisk =>
    obtain ⟨hmessages, hphase, hlog⟩ := restart_messages w cfg env clean boot onDisk
    refine h.phase hmessages hlog ?_
    intro _ _ _ hsending
    cases hphase.symm.trans hsending
  | transferOwner env targetWxShort expected requestId confirmation mirrored =>
    show Counted (if w.isSending then w else _)
    split_ifs
    · exact h
    · exact h.quiet (transferOwner_quiet w cfg env targetWxShort expected requestId confirmation
        mirrored)
  | changeUserState env action wxShort expected requestId conflict unpaired =>
    show Counted (if w.isSending then w else _)
    split_ifs
    · exact h
    · exact h.quiet (changeUserState_quiet w cfg env action wxShort expected requestId conflict
        unpaired)

/-- An authorization outside of the condition suppresses the answer to a bound recipient. -/
theorem not_noneDiscarded (he : ¬ IdentityActive w e) : ¬ NoneDiscarded (step cfg w e) := by
  cases e with
  | authorize =>
    simp only [IdentityActive, not_forall] at he
    obtain ⟨messageId, chunks, m, hphase, hm, hbound, hinactive⟩ := he
    intro h
    have hsuppressed := mt (authorizationSuppression_bound hbound).mp hinactive
    obtain ⟨reason, hreason⟩ := Option.ne_none_iff_exists'.mp hsuppressed
    refine h.bound messageId reason ?_
    show _ ∈ w.authorize.log
    unfold authorize
    rw [hphase]
    dsimp only
    rw [hm]
    dsimp only
    rw [hreason, hbound]
    exact List.mem_append_right _ (List.mem_singleton_self _)
  | _ => exact absurd trivial he

/-! ### Expired sessions -/

/-- The identity is in the state `session_expired`. -/
def expired (w : DeliveryWorld) (identityId : String) : Prop :=
  ∃ i, w.store.identities.get? identityId = some i ∧ i.state = .sessionExpired

/-- Both records of an expiry agree, and no delivery waits for the locks of a message whose
    identity is expired. -/
structure Synced (w : DeliveryWorld) : Prop where
  marked : ∀ id i, w.store.identities.get? id = some i → i.state = .sessionExpired →
    i.runtimeState = PollerState.sessionExpired.text
  runtime : ∀ id r, w.service.runtimes.get? id = some r → w.expired id →
    r.pollerState = .sessionExpired
  service : ∀ id, w.service.identity = some id → w.expired id →
    w.service.pollerState = .sessionExpired
  waiting : ∀ messageId chunks, w.phase = .waiting messageId chunks →
    ∃ m, w.messages.get? messageId = some m ∧ ∀ id, m.identityId = some id → ¬ w.expired id

/-- The steps of a run with expiries, pauses and restarts in which no pollers are stopped while a
    session is expired, no session expires under a delivery that waits for its locks, and the
    identity of an active, bound recipient is active or its session expired. -/
def Calm (w : DeliveryWorld) : DeliveryStep → Prop
  | .expire id _ _ => ∀ messageId chunks m, w.phase = .waiting messageId chunks →
      w.messages.get? messageId = some m → m.identityId ≠ some id
  | .stopPollers _ => ∀ id, ¬ w.expired id
  | .restart _ clean _ _ => clean = true → ∀ id, ¬ w.expired id
  | .authorize => ∀ messageId chunks m, w.phase = .waiting messageId chunks →
      w.messages.get? messageId = some m → w.store.boundSender m = true →
      ∃ i, w.store.identities.get? (m.identityId.getD "") = some i ∧
        (i.state = .active ∨ i.state = .sessionExpired)
  | .transferOwner .. => False
  | .changeUserState .. => False
  | _ => True

theorem expired_setRuntimeState {id : String} {state : PollerState} :
    (w.setRuntimeState id state errorCode none now).expired id' ↔ w.expired id' := by
  unfold expired setRuntimeState GatewayStore.setIdentityRuntimeState
  simp only [Table.get?_update_eq_some, Option.getD_none]
  constructor
  · rintro ⟨i, ⟨i₀, hi₀, rfl⟩, hexpired⟩
    refine ⟨i₀, hi₀, ?_⟩
    split_ifs at hexpired <;> exact hexpired
  · rintro ⟨i, hi, hexpired⟩
    refine ⟨_, ⟨i, hi, rfl⟩, ?_⟩
    split_ifs <;> exact hexpired

/-- A new poller state of an identity whose session is not expired. -/
theorem Synced.setRuntimeState (h : Synced w) {id : String} (hid : ¬ w.expired id)
    (state : PollerState) (errorCode : Option String) (now : String) :
    Synced (w.setRuntimeState id state errorCode none now) where
  marked := by
    intro id' i hi hexpired
    have hw : w.expired id' := expired_setRuntimeState.mp ⟨i, hi, hexpired⟩
    have hne : id' ≠ id := fun he => hid (he ▸ hw)
    refine h.marked id' i ?_ hexpired
    rw [← hi]
    exact (Table.get?_update_of_ne _ hne _ (by intro _; rfl)).symm
  runtime := by
    intro id' r hr hexpired
    rw [expired_setRuntimeState] at hexpired
    have hne : id' ≠ id := fun he => hid (he ▸ hexpired)
    refine h.runtime id' r ?_ hexpired
    rw [← hr]
    exact (Table.get?_update_of_ne _ hne _ (by intro _; rfl)).symm
  service := by
    intro id' hid' hexpired
    rw [expired_setRuntimeState] at hexpired
    have hne : w.service.identity ≠ some id := fun he => by
      rw [show w.service.identity = some id' from hid'] at he
      exact hid (Option.some.inj he ▸ hexpired)
    show (if w.service.identity = some id then state else w.service.pollerState) = _
    rw [if_neg hne]
    exact h.service id' hid' hexpired
  waiting := by
    intro messageId chunks hphase
    obtain ⟨m, hm, hidentity⟩ := h.waiting messageId chunks hphase
    exact ⟨m, hm, fun id' hid' => mt expired_setRuntimeState.mp (hidentity id' hid')⟩

theorem Synced.setPolling (h : Synced w) (id : String) (polling : Bool) :
    Synced (w.setPolling id polling) where
  marked := h.marked
  runtime := by
    intro id' r hr hexpired
    simp only [DeliveryWorld.setPolling, Table.get?_update_eq_some] at hr
    obtain ⟨r₀, hr₀, rfl⟩ := hr
    have := h.runtime id' r₀ hr₀ hexpired
    split_ifs <;> exact this
  service := h.service
  waiting := h.waiting

theorem Synced.stopRuntimes (h : Synced w) (now : String) (ids : List String)
    (hcalm : ∀ id, ¬ w.expired id) : Synced (stopRuntimes now ids w) := by
  induction ids generalizing w with
  | nil => exact h
  | cons id ids ih =>
    refine ih ((h.setPolling id false).setRuntimeState (hcalm id) .stopped none now) ?_
    exact fun id' => mt expired_setRuntimeState.mp (hcalm id')

theorem expired_stopRuntimes {ids : List String} :
    (stopRuntimes now ids w).expired id' ↔ w.expired id' := by
  induction ids generalizing w with
  | nil => exact Iff.rfl
  | cons id ids ih => exact ih.trans expired_setRuntimeState

theorem Synced.stopPollers (h : Synced w) (now : String) (hcalm : ∀ id, ¬ w.expired id) :
    Synced (w.stopPollers now) ∧ ∀ id, ¬ (w.stopPollers now).expired id := by
  have hs := h.stopRuntimes now (w.service.runtimes.rows.map Runtime.identityId) hcalm
  have hn : ∀ id, ¬ (w.stopPollers now).expired id := fun id =>
    mt expired_stopRuntimes.mp (hcalm id)
  exact ⟨⟨hs.marked, hs.runtime, fun id _ he => absurd he (hn id), hs.waiting⟩, hn⟩

/-- Pollers are started for identities whose session is not expired. -/
theorem Synced.startRuntimes (h : Synced w) (conflicts unpaired : List String) (now : String)
    (ids : List String) : Synced (startRuntimes conflicts unpaired now ids w) := by
  induction ids generalizing w with
  | nil => exact h
  | cons id ids ih =>
    unfold DeliveryWorld.startRuntimes
    split
    · exact ih h
    · split
      · exact h
      · rename_i record hrecord
        split
        · rename_i hstate
          have hid : ¬ w.expired id := by
            rintro ⟨i, hi, hexpired⟩
            rw [hrecord] at hi
            obtain rfl := Option.some.inj hi
            rw [hexpired] at hstate
            exact hstate.elim nofun nofun
          split
          · exact ih (h.setRuntimeState hid _ _ now)
          · exact ih ((h.setRuntimeState hid _ _ now).setPolling id true)
        · exact ih h

theorem Synced.startPollers (h : Synced w) (conflicts unpaired : List String) (now : String) :
    Synced (w.startPollers conflicts unpaired now) := by
  unfold DeliveryWorld.startPollers
  split
  · rename_i hnone
    refine ⟨h.marked, h.runtime, ?_, h.waiting⟩
    intro id hid
    cases hnone.symm.trans hid
  · split
    · exact h
    · exact h.startRuntimes _ _ _ _

theorem Synced.expireSession (h : Synced w) {id : String}
    (hcalm : ∀ messageId chunks m, w.phase = .waiting messageId chunks →
      w.messages.get? messageId = some m → m.identityId ≠ some id) (toPoller : Bool)
    (now : String) : Synced (w.expireSession id toPoller now) := by
  unfold DeliveryWorld.expireSession
  split
  · exact h
  · refine Synced.setPolling ?_ id _
    have hexpired : ∀ id', id' ≠ id →
        ((w.setRuntimeState id .sessionExpired (some "session_expired") (some .sessionExpired)
          now).expired id' ↔ w.expired id') := by
      intro id' hne
      unfold expired
      simp only [DeliveryWorld.setRuntimeState, GatewayStore.setIdentityRuntimeState,
        Table.get?_update_of_ne _ hne]
    refine ⟨?_, ?_, ?_, ?_⟩
    · intro id' i hi hstate
      simp only [DeliveryWorld.setRuntimeState, GatewayStore.setIdentityRuntimeState,
        Table.get?_update_eq_some] at hi
      obtain ⟨i₀, hi₀, rfl⟩ := hi
      by_cases hid : id' = id
      · rw [if_pos hid]
      · rw [if_neg hid] at hstate ⊢
        exact h.marked id' i₀ hi₀ hstate
    · intro id' r hr he
      simp only [DeliveryWorld.setRuntimeState, Table.get?_update_eq_some] at hr
      obtain ⟨r₀, hr₀, rfl⟩ := hr
      split_ifs with hid
      · rfl
      · exact h.runtime id' r₀ hr₀ ((hexpired id' hid).mp he)
    · intro id' hid' he
      show (if w.service.identity = some id then _ else w.service.pollerState) = _
      split_ifs with hid
      · rfl
      · refine h.service id' hid' ((hexpired id' ?_).mp he)
        rintro rfl
        exact hid hid'
    · intro messageId chunks hphase
      obtain ⟨m, hm, hidentity⟩ := h.waiting messageId chunks hphase
      refine ⟨m, hm, fun id' hid' => ?_⟩
      have hne : id' ≠ id := fun he => hcalm messageId chunks m hphase hm (he ▸ hid')
      exact mt (hexpired id' hne).mp (hidentity id' hid')

/-! ### Restarts -/

theorem migrateIdentityAllowlist_identities {allowed : List String}
    (hs : g.migrateIdentityAllowlist cfg env allowed = .ok (g', r)) :
    g'.identities = g.identities := by
  simp only [GatewayStore.migrateIdentityAllowlist, bind_eq_ok] at hs
  obtain ⟨_, _, _, _, hs⟩ := hs
  split at hs
  · simp only [bind_eq_ok, pure_eq_ok, Prod.mk.injEq] at hs
    obtain ⟨_, _, rfl, _⟩ := hs
    rfl
  · rename_i allowed _ _ _ _
    simp only [bind_eq_ok] at hs
    obtain ⟨_, _, hs⟩ := hs
    cases allowed with
    | nil =>
      rw [pure_eq_ok, Prod.mk.injEq] at hs
      rw [← hs.1]
    | cons ownerId _ =>
      simp only [bind_eq_ok, pure_eq_ok, Prod.mk.injEq] at hs
      obtain ⟨g₁, hadd, rfl, _⟩ := hs
      obtain ⟨users, links, rfl⟩ := GatewayStore.addUser_tables hadd
      rfl

/-- The own identity of the service is not expired when it starts, and the others are as before. -/
theorem migrateLegacyIdentity_identities {id accountHash : String}
    (hs : g.migrateLegacyIdentity env id accountHash = .ok (g', r)) :
    (∀ i, g'.identities.get? id = some i → i.state ≠ .sessionExpired) ∧
      ∀ id', id' ≠ id → g'.identities.get? id' = g.identities.get? id' := by
  simp only [GatewayStore.migrateLegacyIdentity, bind_eq_ok, pure_eq_ok, Prod.mk.injEq] at hs
  obtain ⟨_, _, _, _, g₁, hupsert, g₂, hfold, rfl, _⟩ := hs
  have hidentities : g₂.identities = g₁.identities :=
    foldlM_ok (P := fun g' => g'.identities = g₁.identities)
      (fun _ _ _ _ heq hput => by
        rw [GatewayStore.putBinding_tables hput]
        exact heq) rfl hfold
  simp only [GatewayStore.upsertIdentity, bind_eq_ok, pure_eq_ok] at hupsert
  obtain ⟨_, _, rfl⟩ := hupsert
  rw [hidentities]
  dsimp only
  cases hget : g.identities.get? id with
  | none =>
    refine ⟨fun i hi => ?_, fun id' hne => ?_⟩
    · rw [Table.get?_upsert, Option.map_none, Option.getD_none, if_pos rfl] at hi
      cases hi
      exact nofun
    · rw [Table.get?_upsert, Option.map_none, Option.getD_none, if_neg hne]
  | some i₀ =>
    obtain rfl := Table.key_of_get? hget
    refine ⟨fun i hi => ?_, fun id' hne => ?_⟩
    · rw [Table.get?_upsert, Option.map_some, Option.getD_some, if_pos rfl] at hi
      cases hi
      dsimp only
      split_ifs with hrevoked
      · rw [hrevoked]
        exact nofun
      · exact nofun
    · rw [Table.get?_upsert, Option.map_some, Option.getD_some, if_neg hne]

/-- The runtimes of a new process agree with the store about the expired sessions. -/
theorem bootRuntimes_synced {boot : Option Boot} {onDisk : List String}
    (hmarked : ∀ id i, g.identities.get? id = some i → i.state = .sessionExpired →
      i.runtimeState = PollerState.sessionExpired.text)
    (hown : ∀ b ∈ boot, ∀ i, g.identities.get? b.identityId = some i → i.state ≠ .sessionExpired)
    {id : String} {r : Runtime} (hr : (bootRuntimes g boot onDisk).get? id = some r)
    {i : Identity} (hi : g.identities.get? id = some i) (hexpired : i.state = .sessionExpired) :
    r.pollerState = .sessionExpired := by
  suffices h : ∀ (ids : List String) (runtimes : Table Runtime.identityId),
      (∀ r, runtimes.get? id = some r → r.pollerState = .sessionExpired) →
      ∀ r, (ids.foldl (loadRuntime g) runtimes).get? id = some r →
        r.pollerState = .sessionExpired by
    refine h onDisk _ ?_ r hr
    intro r' hr'
    cases boot with
    | none => cases hr'
    | some b =>
      dsimp only at hr'
      rw [Table.get?_upsert] at hr'
      split_ifs at hr' with hid
      · rw [show id = b.identityId from hid] at hi
        exact absurd hexpired (hown b rfl i hi)
      · cases hr'
  intro ids
  induction ids with
  | nil => exact fun runtimes hstart r hr => hstart r hr
  | cons id' ids ih =>
    intro runtimes hstart
    refine ih (loadRuntime g runtimes id') ?_
    intro r' hr'
    unfold loadRuntime at hr'
    split at hr'
    · rename_i record _ hrecord
      split at hr'
      · exact hstart r' hr'
      · rw [Table.get?_upsert] at hr'
        split_ifs at hr' with hid
        · obtain rfl : id = id' := hid
          rw [hi] at hrecord
          cases hrecord
          cases hr'
          dsimp only
          rw [hmarked id i hi hexpired]
          rfl
        · exact hstart r' hr'
    · exact hstart r' hr'

theorem Synced.restart (h : Synced w) (cfg : Config) (env : Env) (clean : Bool)
    (boot : Option Boot) (onDisk : List String) (hcalm : clean = true → ∀ id, ¬ w.expired id) :
    Synced (w.restart cfg env clean boot onDisk) := by
  have hs : Synced (if clean then w.stopPollers (env.now 0) else w) := by
    split_ifs with hclean
    · exact (h.stopPollers _ (hcalm hclean)).1
    · exact h
  unfold DeliveryWorld.restart
  dsimp only
  generalize (if clean then w.stopPollers (env.now 0) else w) = w₁ at hs ⊢
  cases hboot : bootStore cfg env boot w₁.store with
  | error e => exact ⟨hs.marked, by simp, by simp, by simp⟩
  | ok g =>
    have hstore : (∀ b ∈ boot, ∀ i, g.identities.get? b.identityId = some i →
        i.state ≠ .sessionExpired) ∧ ∀ id i, g.identities.get? id = some i →
        i.state = .sessionExpired → w₁.store.identities.get? id = some i := by
      cases boot with
      | none =>
        cases hboot
        exact ⟨by simp, fun id i hi _ => hi⟩
      | some b =>
        simp only [bootStore, bind_eq_ok, pure_eq_ok] at hboot
        obtain ⟨⟨g₁, r₁⟩, hallow, ⟨g₂, r₂⟩, hlegacy, rfl⟩ := hboot
        obtain ⟨hown, hothers⟩ := migrateLegacyIdentity_identities hlegacy
        refine ⟨fun b' hb' => Option.some.inj hb' ▸ hown, fun id i hi hexpired => ?_⟩
        have hne : id ≠ b.identityId := fun he => hown i (he ▸ hi) hexpired
        rw [← migrateIdentityAllowlist_identities hallow, ← hothers id hne]
        exact hi
    obtain ⟨hown, hbefore⟩ := hstore
    have hmarked : ∀ id i, g.identities.get? id = some i → i.state = .sessionExpired →
        i.runtimeState = PollerState.sessionExpired.text :=
      fun id i hi hexpired => hs.marked id i (hbefore id i hi hexpired) hexpired
    refine ⟨hmarked, ?_, ?_, by simp⟩
    · rintro id r hr ⟨i, hi, hexpired⟩
      exact bootRuntimes_synced hmarked hown hr hi hexpired
    · rintro id hid ⟨i, hi, hexpired⟩
      obtain ⟨b, hb, rfl⟩ := Option.map_eq_some_iff.mp hid
      exact absurd hexpired (hown b hb i hi)

/-! ### Runs -/

/-- A step that leaves identities and runtimes alone. -/
theorem Synced.congr (h : Synced w) (hidentities : w'.store.identities = w.store.identities)
    (hservice : w'.service.identity = w.service.identity ∧
      w'.service.pollerState = w.service.pollerState ∧ w'.service.runtimes = w.service.runtimes)
    (hwaiting : ∀ messageId chunks, w'.phase = .waiting messageId chunks →
      ∃ m, w'.messages.get? messageId = some m ∧ ∀ id, m.identityId = some id → ¬ w.expired id) :
    Synced w' := by
  obtain ⟨hidentity, hstate, hruntimes⟩ := hservice
  have hexpired : ∀ id, w'.expired id ↔ w.expired id := fun id => by
    unfold expired
    rw [hidentities]
  refine ⟨?_, ?_, ?_, ?_⟩
  · rw [hidentities]
    exact h.marked
  · intro id r hr he
    rw [hruntimes] at hr
    exact h.runtime id r hr ((hexpired id).mp he)
  · intro id hid he
    rw [hidentity] at hid
    rw [hstate]
    exact h.service id hid ((hexpired id).mp he)
  · intro messageId chunks hphase
    obtain ⟨m, hm, hidentity⟩ := hwaiting messageId chunks hphase
    exact ⟨m, hm, fun id hid => mt (hexpired id).mp (hidentity id hid)⟩

theorem Synced.runtimeForIdentity (h : Synced w) {id : Option String} {r : Runtime}
    (hr : w.runtimeForIdentity id = some (w', r)) :
    Synced w' ∧ ∀ i, id = some i → w'.expired i → r.pollerState = .sessionExpired := by
  simp only [DeliveryWorld.runtimeForIdentity, Option.bind_eq_bind, Option.bind_eq_some_iff,
    Option.pure_def] at hr
  obtain ⟨id', hid', r₀, hr₀, hr⟩ := hr
  have hkey : r₀.identityId = id' := Table.key_of_get? hr₀
  split at hr
  · rename_i hown
    cases hr
    refine ⟨⟨h.marked, ?_, h.service, h.waiting⟩, ?_⟩
    · intro id₁ r₁ hr₁ he
      rw [Table.get?_upsert] at hr₁
      split_ifs at hr₁ with hid
      · cases hr₁
        have : id₁ = id' := hid.trans hkey
        exact h.service id₁ (this ▸ hown) he
      · exact h.runtime id₁ r₁ hr₁ he
    · rintro i rfl he
      cases hid'
      exact h.service _ hown he
  · cases hr
    refine ⟨h, ?_⟩
    rintro i rfl he
    cases hid'
    exact h.runtime _ _ hr₀ he

theorem submit_synced (h : Synced w) (hidle : w.phase = .idle) (messageId : String)
    (profileSupported : Bool) (outcome : Submission) :
    Synced (w.submit messageId profileSupported outcome) := by
  have hnot : ∀ w' : DeliveryWorld, w'.store = w.store → w'.service = w.service →
      w'.phase = w.phase → Synced w' := by
    intro w' hstore hservice hphase
    refine h.congr (by rw [hstore]) (by simp only [hservice, and_self]) ?_
    intro id chunks hwaiting
    cases (hphase.trans hidle).symm.trans hwaiting
  unfold submit
  split
  · exact h
  · split
    · split
      · exact hnot _ rfl rfl rfl
      · split
        · exact hnot _ rfl rfl rfl
        · cases outcome with
          | refused => exact h
          | taken jobId => exact hnot _ rfl rfl rfl
          | unmarked => exact hnot _ rfl rfl rfl
    · exact h

theorem authorize_synced (h : Synced w) : Synced w.authorize := by
  unfold authorize
  split
  · split
    · exact h.congr rfl ⟨rfl, rfl, rfl⟩ nofun
    · split
      · exact h.congr rfl ⟨rfl, rfl, rfl⟩ nofun
      · exact h.congr rfl ⟨rfl, rfl, rfl⟩ nofun
  · exact h

theorem send_synced (h : Synced w) : Synced w.send := by
  unfold send
  split
  · split
    · exact h
    · exact h.congr rfl ⟨rfl, rfl, rfl⟩ nofun
  · exact h

theorem finish_synced (h : Synced w) (errorCode : Option String) : Synced (w.finish errorCode) := by
  unfold finish
  split
  · split
    · exact h.congr rfl ⟨rfl, rfl, rfl⟩ nofun
    · exact h
  · exact h

theorem deliver_synced (h : Synced w) (messageId : String) (chunks : ℕ) :
    Synced (w.deliver messageId chunks) := by
  unfold deliver
  split
  · exact h
  · rename_i m hm
    split
    · split
      · exact h
      · rename_i w₁ r hruntime
        have hq := (runtimeForIdentity_aside hruntime).quiet
        obtain ⟨hs, hknown⟩ := h.runtimeForIdentity hruntime
        split
        · exact hs
        · rename_i hstate
          refine hs.congr rfl ⟨rfl, rfl, rfl⟩ ?_
          intro id chunks' hphase
          cases hphase
          rw [← hq.messages] at hm
          exact ⟨m, hm, fun i hi he => hstate (hknown i hi he)⟩
    · exact h

theorem step_synced (h : Synced w) (he : Calm w e) : Synced (step cfg w e) := by
  cases e with
  | receive m =>
    show Synced (w.receive m)
    unfold receive
    dsimp only
    split
    · rename_i messages hinsert
      refine h.congr rfl ⟨rfl, rfl, rfl⟩ ?_
      intro id chunks hphase
      obtain ⟨m', hm', hidentity⟩ := h.waiting id chunks hphase
      exact ⟨m', Table.get?_insert?_of_get? hinsert hm', hidentity⟩
    · exact h
  | submit messageId profileSupported outcome =>
    show Synced (if w.phase = .idle then _ else w)
    split_ifs with hidle
    · exact submit_synced h hidle messageId profileSupported outcome
    · exact h
  | deliver messageId chunks =>
    show Synced (if w.phase = .idle then _ else w)
    split_ifs
    · exact deliver_synced h messageId chunks
    · exact h
  | authorize => exact authorize_synced h
  | send => exact send_synced h
  | abort => exact h.congr rfl ⟨rfl, rfl, rfl⟩ nofun
  | finish errorCode => exact finish_synced h errorCode
  | expire id toPoller now => exact h.expireSession he toPoller now
  | startPollers conflicts unpaired now => exact h.startPollers conflicts unpaired now
  | stopPollers now => exact (h.stopPollers now he).1
  | enablePollers enabled => exact h.congr rfl ⟨rfl, rfl, rfl⟩ h.waiting
  | restart env clean boot onDisk => exact h.restart cfg env clean boot onDisk he
  | transferOwner env targetWxShort expected requestId confirmation mirrored => exact he.elim
  | changeUserState env action wxShort expected requestId conflict unpaired => exact he.elim

/-- In a calm run, a delivery that gets its locks finds the identity of its recipient active. -/
theorem identityActive_of_calm (h : Synced w) (he : Calm w e) : IdentityActive w e := by
  cases e with
  | authorize =>
    intro messageId chunks m hphase hm hbound
    obtain ⟨i, hi, hstate⟩ := he messageId chunks m hphase hm hbound
    have hactive : i.state = .active := by
      refine hstate.resolve_right fun hexpired => ?_
      obtain ⟨m', hm', hidentity⟩ := h.waiting messageId chunks hphase
      rw [hm] at hm'
      cases hm'
      unfold GatewayStore.boundSender at hbound
      rw [Bool.and_eq_true, Bool.and_eq_true] at hbound
      obtain ⟨id, hid, -⟩ := (Option.any_eq_true _ _).mp hbound.1.2
      rw [hid, Option.getD_some] at hi
      exact hidentity id hid ⟨i, hi, hexpired⟩
    rw [hi, Option.any_some, hactive]
    rfl
  | _ => trivial

/-- No answer to an active, bound recipient is discarded exactly if every delivery that gets its
    locks finds the identity of such a recipient active, and so it is in the calm runs. -/
theorem none_discarded (cfg : Config) (w : DeliveryWorld) (h : NoneDiscarded w)
    (hidle : w.phase = .idle) (es : List DeliveryStep) :
    (Throughout (step cfg) NoneDiscarded w es ↔ EveryStep (step cfg) IdentityActive w es) ∧
      (Synced w → EveryStep (step cfg) Calm w es → Throughout (step cfg) NoneDiscarded w es) := by
  have hiff : Throughout (step cfg) NoneDiscarded w es ↔ EveryStep (step cfg) IdentityActive w es :=
    throughout_iff_everyStep (step cfg) (I := Counted) (fun _ hc => hc.toNoneDiscarded)
      (fun _ _ hc he => step_counted hc he) (fun _ _ _ he => not_noneDiscarded he)
      (h.counted hidle)
  refine ⟨hiff, fun hs hcalm => hiff.mpr ?_⟩
  exact hcalm.imp (step cfg) (I := Synced) (fun _ _ hw he => step_synced hw he)
    (fun _ _ hw he => identityActive_of_calm hw he) hs

/-! ## A member whose session expires -/

def repliesConfig : Config where
  shortId kind value := kind ++ if value = userHash "owner" then "-AAAAAAAAAA" else "-BBBBBBBBBB"

def ownersIdentity : String := "ID-" ++ String.ofList (List.replicate 32 'a')

def membersIdentity : String := "ID-" ++ String.ofList (List.replicate 32 'b')

def repliesTime : String := "2026-01-01T00:00:00+00:00"

def repliesEnv : Env where
  now _ := repliesTime
  later _ := repliesTime
  principalId := "PR-3"
  token := "session-1"
  code := "0123456789ABCDEF0123456789ABCDEF"
  salt := []

/-- The owner and a member, each with an identity of its own whose poller runs. -/
def repliesStore : GatewayStore :=
  let user := fun name aliasName role principalId =>
    GatewayStore.created.newUser name ("conversation-" ++ name) aliasName role principalId
      repliesTime none
  let identity := fun identityId accountHash =>
    (⟨identityId, accountHash, .active, "polling", none, repliesTime, repliesTime, none⟩ : Identity)
  let binding := fun identityId principalId name =>
    (⟨identityId, principalId, name, .primary, .active, repliesTime, repliesTime⟩ : Binding)
  { GatewayStore.created with
    users := (Table.empty.upsert (user "owner" "管理员" .owner "PR-1")).upsert
      (user "member" "成员" .member "PR-2")
    identities := (Table.empty.upsert (identity ownersIdentity "account-1")).upsert
      (identity membersIdentity "account-2")
    bindings := (Table.empty.upsert (binding ownersIdentity "PR-1" "owner")).upsert
      (binding membersIdentity "PR-2" "member") }

def repliesWorld : DeliveryWorld where
  store := repliesStore
  service :=
    { identity := some ownersIdentity
      pollerState := .polling
      pollerEnabled := true
      ownerPairingEnabled := false
      runtimes := (Table.empty.upsert ⟨ownersIdentity, .polling, true⟩).upsert
        ⟨membersIdentity, .polling, true⟩ }
  messages := .empty
  phase := .idle
  log := []

def membersMessage : QueuedMessage :=
  ⟨"message-1", some (userHash "member"), .memberReadOnly, some membersIdentity, some "PR-2",
    .pendingController, none, none⟩

/-- The session of the member expires after its message was submitted. -/
def expiryRun : List DeliveryStep :=
  [.receive membersMessage, .submit "message-1" true (.taken "job-1"),
    .expire membersIdentity true repliesTime, .deliver "message-1" 1]

theorem none_discarded_expiry :
    Throughout (step repliesConfig) NoneDiscarded repliesWorld expiryRun :=
  (none_discarded repliesConfig repliesWorld
    ⟨fun _ _ h => absurd h List.not_mem_nil, fun _ _ h => by cases h⟩ rfl expiryRun).1.mpr
    ⟨trivial, trivial, trivial, trivial, trivial⟩

/-- The pollers are paused after that, and the answer is there. -/
def pauseRun : List DeliveryStep :=
  expiryRun ++ [.stopPollers repliesTime, .deliver "message-1" 1, .authorize]

theorem pause_discards :
    ¬ NoneDiscarded (runFrom (step repliesConfig) repliesWorld pauseRun) := by
  intro h
  have hlog : (runFrom (step repliesConfig) repliesWorld pauseRun).log =
      [.submitted "message-1" .memberReadOnly .memberReadOnly (some .memberReadOnly),
        .suppressed "message-1" "reply_suppressed_identity_unavailable" true] := by decide +kernel
  refine h.bound "message-1" "reply_suppressed_identity_unavailable" ?_
  rw [hlog]
  exact List.mem_cons_of_mem _ (List.mem_singleton_self _)

end DeliveryWorld

end HomeAddons.Gateway
