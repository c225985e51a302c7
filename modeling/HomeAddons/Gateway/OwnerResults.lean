import HomeAddons.Gateway.Replies

/-!
# Weixin Gateway: what was done for the owner

A job that was submitted with the profile of the owner keeps what it may disclose, whoever has the
role when its answer is there; the second look at the authority asks for the role only where the
answer belongs to a watch.

* `owner_results`: such an answer reaches the active owner, in the runs in which no delivery gets
  its locks for a sender who has become a member; no message is submitted above its authority.
-/

namespace HomeAddons.Gateway

open HomeAddons.Common

namespace DeliveryWorld

variable {w w' : DeliveryWorld}

/-! ## Answers for the owner -/

/-- The order of the profiles by what they permit. -/
def rank : CapabilityProfile → ℕ
  | .memberReadOnly => 0
  | .owner => 1
  | .ownerLegacy => 1

/-- The message was submitted as one of the owner. -/
def SubmittedAsOwner (log : List DeliveryEvent) (messageId : String) : Prop :=
  ∃ profile stored current, profile ≠ .memberReadOnly ∧
    .submitted messageId profile stored current ∈ log

/-- What is sent in answer to a message that was submitted as one of the owner is sent while the
    sender is the active owner. -/
def ToOwner (log : List DeliveryEvent) : DeliveryEvent → Prop
  | .sent messageId toOwner => SubmittedAsOwner log messageId → toOwner = true
  | _ => True

/-- A message is submitted with no more than its profile and the role of its sender permit. -/
def Within (_ : List DeliveryEvent) : DeliveryEvent → Prop
  | .submitted _ profile stored current => rank profile ≤ rank stored ∧
      ∀ role ∈ current, rank profile ≤ rank role
  | _ => True

/-- A delivery that gets its locks for a message that was submitted as one of the owner: the message
    names its sender, who has not become a member. -/
def OwnerKept (w : DeliveryWorld) : DeliveryStep → Prop
  | .authorize => ∀ messageId chunks m, w.phase = .waiting messageId chunks →
      w.messages.get? messageId = some m → SubmittedAsOwner w.log messageId →
      ∃ h, m.userHash.filter (· ≠ "") = some h ∧
        ∀ u, w.store.userByHash h = some u → u.status = .active → u.role = .owner
  | _ => True

/-- The invariant: a message that is being sent was not submitted as one of the owner, or its sender
    is the active owner. -/
structure OwnerResults (w : DeliveryWorld) : Prop where
  log : Always ToOwner w.log
  sending : ∀ messageId chunks pieces, w.phase = .sending messageId chunks pieces →
    ∃ m, w.messages.get? messageId = some m ∧
      (SubmittedAsOwner w.log messageId → w.store.ownedBySender m = true)

theorem submittedAsOwner_snoc {log : List DeliveryEvent} {e : DeliveryEvent} {messageId : String}
    (he : ∀ profile stored current, e ≠ .submitted messageId profile stored current) :
    SubmittedAsOwner (log ++ [e]) messageId ↔ SubmittedAsOwner log messageId := by
  unfold SubmittedAsOwner
  simp only [List.mem_append, List.mem_singleton]
  constructor
  · rintro ⟨profile, stored, current, hp, hmem | hmem⟩
    · exact ⟨profile, stored, current, hp, hmem⟩
    · exact absurd hmem.symm (he _ _ _)
  · rintro ⟨profile, stored, current, hp, hmem⟩
    exact ⟨profile, stored, current, hp, .inl hmem⟩

variable {e : DeliveryStep} {g : GatewayStore} {cfg : Config}

theorem ownedBySender_congr {g' : GatewayStore} (h : g'.users = g.users) (m : QueuedMessage) :
    g'.ownedBySender m = g.ownedBySender m := by
  unfold GatewayStore.ownedBySender GatewayStore.userByHash
  rw [h]

/-- Who gets past the second look at its authority is active. -/
theorem authorizeStoredMessage_active {m : QueuedMessage} {h : String}
    (hh : m.userHash.filter (· ≠ "") = some h) (hok : g.authorizationSuppression m = none) :
    ∃ u, g.userByHash h = some u ∧ u.status = .active := by
  unfold GatewayStore.authorizationSuppression GatewayStore.authorizeStoredMessage at hok
  rw [hh] at hok
  cases hu : g.userByHash h with
  | none =>
    simp only [hu] at hok
    cases hok
  | some u =>
    refine ⟨u, rfl, ?_⟩
    by_contra hactive
    simp only [hu, if_neg hactive] at hok
    cases hok

theorem OwnerResults.aside (h : OwnerResults w) (ha : Aside w w') : OwnerResults w' where
  log := by
    rw [ha.log]
    exact h.log
  sending := by
    intro messageId chunks pieces hphase
    rw [ha.phase] at hphase
    obtain ⟨m, hm, hown⟩ := h.sending messageId chunks pieces hphase
    rw [ha.messages, ha.log]
    exact ⟨m, hm, fun hs => (ownedBySender_congr ha.users m).trans (hown hs)⟩

theorem OwnerResults.not_sending (hlog : Always ToOwner w.log)
    (hphase : ∀ messageId chunks pieces, w.phase ≠ .sending messageId chunks pieces) :
    OwnerResults w := ⟨hlog, fun _ _ _ hs => absurd hs (hphase _ _ _)⟩

theorem submit_ownerResults (h : OwnerResults w) (hidle : w.phase = .idle) (messageId : String)
    (profileSupported : Bool) (outcome : Submission) :
    OwnerResults (w.submit messageId profileSupported outcome) := by
  have hnot : ∀ (w' : DeliveryWorld) (e : DeliveryEvent), w'.log = w.log ++ [e] →
      w'.phase = w.phase → ToOwner w.log e → OwnerResults w' := by
    intro w' e hlog hphase he
    refine .not_sending (by rw [hlog]; exact always_snoc.mpr ⟨h.log, he⟩) ?_
    rw [hphase, hidle]
    exact nofun
  unfold submit
  split
  · exact h
  · split
    · split
      · exact hnot _ _ rfl rfl trivial
      · split
        · exact hnot _ _ rfl rfl trivial
        · cases outcome with
          | refused => exact h
          | taken jobId => exact hnot _ _ rfl rfl trivial
          | unmarked => exact hnot _ _ rfl rfl trivial
    · exact h

theorem deliver_ownerResults (h : OwnerResults w) (messageId : String) (chunks : ℕ) :
    OwnerResults (w.deliver messageId chunks) := by
  unfold deliver
  split
  · exact h
  · split
    · split
      · exact h
      · rename_i w₁ r hruntime
        have hq := (runtimeForIdentity_aside hruntime)
        split
        · exact h.aside hq
        · refine .not_sending ?_ nofun
          show Always ToOwner w₁.log
          rw [hq.log]
          exact h.log
    · exact h

theorem authorize_ownerResults (h : OwnerResults w) (hkept : OwnerKept w .authorize) :
    OwnerResults w.authorize := by
  unfold authorize
  split
  · rename_i messageId chunks hphase
    split
    · exact .not_sending h.log nofun
    · rename_i m hm
      split
      · rename_i hok
        refine ⟨h.log, ?_⟩
        intro _ _ _ he
        cases he
        refine ⟨m, hm, fun hs => ?_⟩
        obtain ⟨d, hd, howner⟩ := hkept messageId chunks m hphase hm hs
        obtain ⟨u, hu, hactive⟩ := authorizeStoredMessage_active hd hok
        unfold GatewayStore.ownedBySender
        rw [hd, Option.any_some, hu, Option.any_some, decide_eq_true_eq]
        exact ⟨howner u hu hactive, hactive⟩
      · exact .not_sending (always_snoc.mpr ⟨h.log, trivial⟩) nofun
  · exact h

theorem send_ownerResults (h : OwnerResults w) : OwnerResults w.send := by
  unfold send
  split
  · rename_i messageId chunks pieces hphase
    obtain ⟨m, hm, hown⟩ := h.sending messageId chunks pieces hphase
    rw [hm]
    refine ⟨always_snoc.mpr ⟨h.log, hown⟩, ?_⟩
    intro _ _ _ he
    cases he
    exact ⟨m, hm, fun hs => hown ((submittedAsOwner_snoc (by intro _ _ _ he; cases he)).mp hs)⟩
  · exact h

theorem finish_ownerResults (h : OwnerResults w) (errorCode : Option String) :
    OwnerResults (w.finish errorCode) := by
  unfold finish
  split
  · split
    · exact .not_sending (always_snoc.mpr ⟨h.log, trivial⟩) nofun
    · exact h
  · exact h

/-- While a message is sent, the directory of the users does not change. -/
theorem OwnerResults.quiet (h : OwnerResults w) (hq : Quiet w w')
    (hsending : ¬ w.isSending = true) : OwnerResults w' := by
  refine .not_sending (by rw [hq.log]; exact h.log) ?_
  intro messageId chunks pieces hphase
  rw [hq.phase] at hphase
  refine hsending ?_
  unfold isSending
  rw [hphase]

theorem step_ownerResults (h : OwnerResults w) (he : OwnerKept w e) :
    OwnerResults (step cfg w e) := by
  cases e with
  | receive m =>
    show OwnerResults (w.receive m)
    unfold receive
    dsimp only
    split
    · rename_i messages hinsert
      refine ⟨h.log, ?_⟩
      intro messageId chunks pieces hphase
      obtain ⟨m', hm', hown⟩ := h.sending messageId chunks pieces hphase
      exact ⟨m', Table.get?_insert?_of_get? hinsert hm', hown⟩
    · exact h
  | submit messageId profileSupported outcome =>
    show OwnerResults (if w.phase = .idle then _ else w)
    split_ifs with hidle
    · exact submit_ownerResults h hidle messageId profileSupported outcome
    · exact h
  | deliver messageId chunks =>
    show OwnerResults (if w.phase = .idle then _ else w)
    split_ifs
    · exact deliver_ownerResults h messageId chunks
    · exact h
  | authorize => exact authorize_ownerResults h he
  | send => exact send_ownerResults h
  | abort => exact .not_sending h.log nofun
  | finish errorCode => exact finish_ownerResults h errorCode
  | expire id toPoller now => exact h.aside (expireSession_aside w id toPoller now)
  | startPollers conflicts unpaired now =>
    exact h.aside (startPollers_aside w conflicts unpaired now)
  | stopPollers now => exact h.aside (stopPollers_aside w now)
  | enablePollers enabled => exact h.aside ⟨rfl, rfl, rfl, rfl⟩
  | restart env clean boot onDisk =>
    obtain ⟨-, hphase, hlog⟩ := restart_messages w cfg env clean boot onDisk
    refine .not_sending ?_ fun _ _ _ hsending => ?_
    · show Always ToOwner (w.restart cfg env clean boot onDisk).log
      rw [hlog]
      exact h.log
    · cases hphase.symm.trans hsending
  | transferOwner env targetWxShort expected requestId confirmation mirrored =>
    show OwnerResults (if w.isSending then w else _)
    split_ifs with hsending
    · exact h
    · exact h.quiet (transferOwner_quiet w cfg env targetWxShort expected requestId confirmation
        mirrored) hsending
  | changeUserState env action wxShort expected requestId conflict unpaired =>
    show OwnerResults (if w.isSending then w else _)
    split_ifs with hsending
    · exact h
    · exact h.quiet (changeUserState_quiet w cfg env action wxShort expected requestId conflict
        unpaired) hsending

/-! ### Submissions -/

theorem authorizeStoredMessage_within {digest : Option String}
    {stored profile : CapabilityProfile}
    (hok : g.authorizeStoredMessage digest stored = .ok profile) :
    rank profile ≤ rank stored ∧ ∀ role ∈ (digest.filter fun h => h ≠ "").bind fun h =>
      (g.userByHash h).map fun u => u.role.profile, rank profile ≤ rank role := by
  unfold GatewayStore.authorizeStoredMessage at hok
  cases hd : digest.filter fun h => h ≠ "" with
  | none =>
    rw [hd] at hok
    dsimp only at hok
    split_ifs at hok with hlegacy
    cases hok
    rw [hlegacy]
    exact ⟨le_rfl, nofun⟩
  | some d =>
    rw [hd] at hok
    cases hu : g.userByHash d with
    | none =>
      simp only [hu] at hok
      cases hok
    | some u =>
      simp only [hu] at hok
      rw [Option.bind_some, hu, Option.map_some]
      split_ifs at hok with hactive hmember
      · cases hok
        exact ⟨Nat.zero_le _, fun _ _ => Nat.zero_le _⟩
      · cases hok
        rw [not_or] at hmember
        refine ⟨?_, fun role hrole => ?_⟩
        · cases stored with
          | memberReadOnly => exact absurd rfl hmember.1
          | owner => exact le_rfl
          | ownerLegacy => exact le_rfl
        · obtain rfl := Option.some.inj hrole
          cases hr : u.role with
          | owner => exact le_rfl
          | member => exact absurd (congrArg Role.profile hr) hmember.2

theorem submit_within (h : Always Within w.log) (messageId : String) (profileSupported : Bool)
    (outcome : Submission) :
    Always Within (w.submit messageId profileSupported outcome).log := by
  unfold submit
  split
  · exact h
  · split
    · split
      · exact always_snoc.mpr ⟨h, trivial⟩
      · rename_i hok
        have hwithin := authorizeStoredMessage_within hok
        split
        · exact always_snoc.mpr ⟨h, trivial⟩
        · cases outcome with
          | refused => exact h
          | taken jobId => exact always_snoc.mpr ⟨h, hwithin⟩
          | unmarked => exact always_snoc.mpr ⟨h, hwithin⟩
    · exact h

theorem deliver_log (w : DeliveryWorld) (messageId : String) (chunks : ℕ) :
    (w.deliver messageId chunks).log = w.log := by
  unfold deliver
  split
  · rfl
  · split
    · split
      · rfl
      · rename_i hruntime
        split <;> exact (runtimeForIdentity_aside hruntime).log
    · rfl

theorem step_within (h : Always Within w.log) : Always Within (step cfg w e).log := by
  cases e with
  | receive m =>
    show Always Within (w.receive m).log
    unfold receive
    dsimp only
    split <;> exact h
  | submit messageId profileSupported outcome =>
    show Always Within (if w.phase = .idle then _ else w).log
    split_ifs
    · exact submit_within h messageId profileSupported outcome
    · exact h
  | deliver messageId chunks =>
    show Always Within (if w.phase = .idle then _ else w).log
    split_ifs
    · rw [deliver_log]
      exact h
    · exact h
  | authorize =>
    show Always Within w.authorize.log
    unfold authorize
    split
    · split
      · exact h
      · split
        · exact h
        · exact always_snoc.mpr ⟨h, trivial⟩
    · exact h
  | send =>
    show Always Within w.send.log
    unfold send
    split
    · split
      · exact h
      · exact always_snoc.mpr ⟨h, trivial⟩
    · exact h
  | abort => exact h
  | finish errorCode =>
    show Always Within (w.finish errorCode).log
    unfold finish
    split
    · split
      · exact always_snoc.mpr ⟨h, trivial⟩
      · exact h
    · exact h
  | expire id toPoller now =>
    show Always Within (w.expireSession id toPoller now).log
    rw [(expireSession_aside w id toPoller now).log]
    exact h
  | startPollers conflicts unpaired now =>
    show Always Within (w.startPollers conflicts unpaired now).log
    rw [(startPollers_aside w conflicts unpaired now).log]
    exact h
  | stopPollers now =>
    show Always Within (w.stopPollers now).log
    rw [(stopPollers_aside w now).log]
    exact h
  | enablePollers enabled => exact h
  | restart env clean boot onDisk =>
    show Always Within (w.restart cfg env clean boot onDisk).log
    rw [(restart_messages w cfg env clean boot onDisk).2.2]
    exact h
  | transferOwner env targetWxShort expected requestId confirmation mirrored =>
    show Always Within (if w.isSending then w else _).log
    split_ifs
    · exact h
    · rw [(transferOwner_quiet w cfg env targetWxShort expected requestId confirmation
        mirrored).log]
      exact h
  | changeUserState env action wxShort expected requestId conflict unpaired =>
    show Always Within (if w.isSending then w else _).log
    split_ifs
    · exact h
    · rw [(changeUserState_quiet w cfg env action wxShort expected requestId conflict
        unpaired).log]
      exact h

/-- What is sent in answer to a message that was submitted as one of the owner reaches the active
    owner, in the runs in which no delivery gets its locks for a sender who became a member; and no
    message is submitted with more than its profile and the role of its sender permit. -/
theorem owner_results (cfg : Config) (w : DeliveryWorld) (hlog : w.log = [])
    (hidle : w.phase = .idle) (es : List DeliveryStep) :
    (EveryStep (step cfg) OwnerKept w es →
      Throughout (step cfg) (fun w => Always ToOwner w.log) w es) ∧
      Throughout (step cfg) (fun w => Always Within w.log) w es := by
  constructor
  · intro hkept
    have hstart : OwnerResults w := by
      refine .not_sending ?_ ?_
      · rw [hlog]
        exact always_nil
      · rw [hidle]
        exact nofun
    exact (throughout_of_everyStep (step cfg) (fun _ _ h he => step_ownerResults h he) hstart
      hkept).imp (step cfg) (fun _ h => h.log)
  · refine throughout_of_everyStep (step cfg) (I := fun w => Always Within w.log)
      (G := fun _ _ => True) (fun _ _ h _ => step_within h) ?_
      (everyStep_true (step cfg) (fun _ _ => trivial) w es)
    rw [hlog]
    exact always_nil

/-! ## An owner who is replaced -/

def ownersMessage : QueuedMessage :=
  ⟨"message-1", some (userHash "owner"), .owner, some ownersIdentity, some "PR-1",
    .pendingController, none, none⟩

/-- The member becomes the owner after a message of the owner was submitted. -/
def transferRun : List DeliveryStep :=
  [.receive ownersMessage, .submit "message-1" true (.taken "job-1"),
    .transferOwner repliesEnv "WX-BBBBBBBBBB" (.int 0) (.str "request-00000001") "TRANSFER_OWNER"
      true,
    .deliver "message-1" 1, .authorize, .send]

theorem owner_results_transfer :
    Throughout (step repliesConfig) (fun w => Always Within w.log) repliesWorld transferRun :=
  (owner_results repliesConfig repliesWorld rfl rfl transferRun).2

/-- The answer for the owner is sent to the sender of the message, who is a member by then. -/
theorem transfer_discloses :
    ¬ Always ToOwner (runFrom (step repliesConfig) repliesWorld transferRun).log := by
  intro h
  have hlog : (runFrom (step repliesConfig) repliesWorld transferRun).log =
      [.submitted "message-1" .owner .owner (some .owner), .sent "message-1" false] := by
    decide +kernel
  rw [hlog] at h
  have htoOwner := h [.submitted "message-1" .owner .owner (some .owner)]
    (.sent "message-1" false) [] rfl
    ⟨.owner, .owner, some .owner, nofun, List.mem_singleton_self _⟩
  cases htoOwner

end DeliveryWorld

end HomeAddons.Gateway
