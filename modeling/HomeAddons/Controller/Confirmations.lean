import HomeAddons.Common.Run
import HomeAddons.Controller.PrepareCar

/-!
# Codex Controller: what a confirmation of the car goes through

`ControllerService._dispatch` as far as it touches the confirmations (`service.py` 755–860), and
`ToolRouter._prepare_car_call` (`tool_proxy.py` 739–832), which is left at the calls of Home
Assistant: other messages, tool calls of a Turn and a stop of the process may come in between.

* `carStep_moves`: what one event does to the table of confirmations.
* `settles_iff`: exactly the messages that get as far as the table leave no confirmation of another
  message pending in their conversation.
* `CarInv.step`: a confirmation sends one request, unless its message executes it again.
* `prepareCar_lawful`: the two steps over every run.
-/

namespace HomeAddons.Controller

open HomeAddons.Common

/-! ## The events -/

/-- What `claim_next` hands out: `validate_job` passed its message and its conversation. -/
structure CarMessage where
  jobId : String
  input : JobInput
  jobId_ne : jobId ≠ ""
  messageId_ne : input.messageId ≠ ""
  conversation : isSha256Ref input.conversationKey = true

/-- What a dispatch meets outside the store: whether the tools are listed and the app-server is
    configured without an exception, the tools of the job, whether the tool it calls is configured
    and enabled at that moment, the time, and a new identifier. -/
structure DispatchEnv where
  prepared : Bool
  tools : List String
  callable : Bool
  mediaArchiveAuthorized : Bool
  now : Instant
  confirmationId : String

/-- An execution between its claim and its result; `sent` once the service was requested. -/
structure CarCall where
  confirmationId : String
  target : Bool
  sent : Bool

/-- The table, the context of the tool calls, the executions under way, and the confirmations for
    which a service of Home Assistant was requested. -/
structure CarWorld where
  confirmations : Confirmations
  active : Option ToolContext
  calls : List CarCall
  requests : List String

inductive CarEvent where
  /-- `_dispatch(job)` up to a call of Home Assistant. -/
  | dispatch (m : CarMessage) (env : DispatchEnv)
  /-- A tool call of a Turn, under the context that it read. -/
  | agent (context : ToolContext) (intent : CarIntent) (now : Instant) (confirmationId : String)
  /-- The `n`-th execution requests the service. -/
  | post (n : ℕ)
  /-- The `n`-th execution stores its result. -/
  | finish (n : ℕ) (result : ExecuteResult) (now : Instant)
  /-- The `n`-th execution ends with an exception. -/
  | abandon (n : ℕ)
  /-- `end_turn` or `clear_job` of the active context. -/
  | endContext
  /-- The process stops and starts again. -/
  | stop

/-- `PREPARE_CAR_CONFIRMATION_TTL_SECONDS`. -/
def prepareCarTtlSeconds : ℕ := 120

/-- `required_tool`. -/
def CarIntent.tool : CarIntent → String
  | .status => "aito_prepare_car_status"
  | .request _ => "aito_prepare_car_request"
  | .execute _ => "aito_prepare_car_execute"

namespace CarWorld

/-- Nothing has happened yet. -/
def empty : CarWorld := ⟨.empty, none, [], []⟩

variable (w : CarWorld)

/-- `aito_prepare_car_request`. -/
def callRequest (conversationKey messageId : String) (target : Bool) (now : Instant)
    (confirmationId : String) : CarWorld :=
  match w.confirmations.request conversationKey messageId target prepareCarTtlSeconds now
      confirmationId with
  | .ok t => { w with confirmations := t }
  | .error _ => w

/-- `aito_prepare_car_execute` up to the call of Home Assistant. -/
def callExecute (conversationKey messageId : String) (target : Bool) (now : Instant) : CarWorld :=
  let (t, reply) := w.confirmations.claimExecute conversationKey messageId target now
  match reply with
  | .ok (.executing id) => { w with confirmations := t, calls := w.calls ++ [⟨id, target, false⟩] }
  | _ => { w with confirmations := t }

/-- `_prepare_car_call(name, arguments)` (lines 739–832) for an owner. -/
def callCar (conversationKey messageId : String) (intent : CarIntent) (now : Instant)
    (confirmationId : String) : CarWorld :=
  match intent with
  | .status => w
  | .request target => w.callRequest conversationKey messageId target now confirmationId
  | .execute target => w.callExecute conversationKey messageId target now

/-- `cancel_pending_prepare_car(conversation_key, message_id)`. -/
def cancelCar (m : CarMessage) (now : Instant) : CarWorld :=
  { w with confirmations :=
      w.confirmations.cancelPending m.input.conversationKey m.input.messageId now }

/-- `_dispatch(job)` from the context on, up to a call of Home Assistant (lines 804–860). -/
def dispatchInContext (m : CarMessage) (env : DispatchEnv) : CarWorld :=
  match prepareCarIntent m.input with
  | none => w.cancelCar m env.now
  | some intent =>
    let w := if intent = .status then w.cancelCar m env.now else w
    if m.input.capabilityProfile ≠ .owner then w.cancelCar m env.now
    else if !env.tools.contains intent.tool then w
    else if !env.callable then w
    else w.callCar m.input.conversationKey m.input.messageId intent env.now env.confirmationId

/-- `_dispatch(job)` up to a call of Home Assistant (`service.py` 755–860). -/
def dispatch (m : CarMessage) (env : DispatchEnv) : CarWorld :=
  if !env.prepared || isNewThreadCommand m.input then
    { w with active := clearJob w.active m.jobId }
  else match beginJob w.active m.jobId m.input.messageId m.input.capabilityProfile
      m.input.conversationKey (some env.mediaArchiveAuthorized) with
  | .error _ => { w with active := clearJob w.active m.jobId }
  | .ok context => { w with active := some context }.dispatchInContext m env

/-- The `n`-th execution requests the service, which it does once. -/
def post (n : ℕ) : CarWorld :=
  match w.calls[n]? with
  | none => w
  | some call =>
    if call.sent then w
    else { w with
      calls := w.calls.set n { call with sent := true }
      requests := w.requests ++ [call.confirmationId] }

/-- The `n`-th execution stores its result. -/
def finish (n : ℕ) (result : ExecuteResult) (now : Instant) : CarWorld :=
  match w.calls[n]? with
  | none => w
  | some call => { w with
      confirmations := ((w.confirmations.finishExecute call.confirmationId result now).map
        Prod.fst).toOption.getD w.confirmations
      calls := w.calls.eraseIdx n }

/-- One event. -/
def step : CarEvent → CarWorld
  | .dispatch m env => w.dispatch m env
  | .agent context intent now confirmationId =>
    if context.capabilityProfile = .owner then
      w.callCar context.conversationKey context.messageId intent now confirmationId
    else w
  | .post n => w.post n
  | .finish n result now => w.finish n result now
  | .abandon n => { w with calls := w.calls.eraseIdx n }
  | .endContext => { w with active := none }
  | .stop => { w with active := none, calls := [] }

end CarWorld

/-! ## The law -/

/-- The execution that an event asks for. -/
def CarEvent.claim : CarEvent → Option CarClaim
  | .dispatch m env =>
    match prepareCarIntent m.input with
    | some (.execute target) => some ⟨m.input.conversationKey, m.input.messageId, target, env.now⟩
    | _ => none
  | .agent context (.execute target) now _ =>
    some ⟨context.conversationKey, context.messageId, target, now⟩
  | _ => none

/-- A confirmation that another message of the conversation asked for is pending. -/
def Awaits (m : CarMessage) (c : Confirmation) : Prop :=
  c.state = .pending ∧ c.conversationKey = m.input.conversationKey ∧
    c.requestMessageId ≠ m.input.messageId

instance (m : CarMessage) (c : Confirmation) : Decidable (Awaits m c) :=
  inferInstanceAs (Decidable (_ ∧ _ ∧ _))

/-- A conversation has one pending confirmation, and a confirmation one service request. -/
structure KeptCar (w : CarWorld) : Prop where
  one : ∀ a ∈ w.confirmations.rows, ∀ b ∈ w.confirmations.rows, a.state = .pending →
    b.state = .pending → a.conversationKey = b.conversationKey → a = b
  once : w.requests.Nodup

/-- What one event may do to a confirmation. -/
structure LawfulCar (w : CarWorld) (e : CarEvent) : Prop where
  /-- It is claimed by another message of its conversation, for its target and in time. -/
  claimed : ∀ c c', w.confirmations.get? c.confirmationId = some c →
    (w.step e).confirmations.get? c.confirmationId = some c' → c.state = .pending →
    c'.state = .executing → ∃ claim, e.claim = some claim ∧
      c'.executeMessageId = some claim.messageId ∧ claim.conversationKey = c.conversationKey ∧
      claim.messageId ≠ c.requestMessageId ∧ claim.target = c.targetOn ∧ claim.now < c.expiresAt
  /-- Claimed or given up, it is not claimed again. -/
  left : ∀ c, w.confirmations.get? c.confirmationId = some c → c.state ≠ .pending →
    ∃ c', (w.step e).confirmations.get? c.confirmationId = some c' ∧ c'.state ≠ .pending ∧
      c'.executeMessageId = c.executeMessageId
  /-- With a result, cancelled or expired, it does not change. -/
  closed : ∀ c, w.confirmations.get? c.confirmationId = some c → c.state.closed = true →
    (w.step e).confirmations.get? c.confirmationId = some c
  /-- No message leaves the confirmation that another one asked for pending. -/
  settles : ∀ m env, e = .dispatch m env → ∀ c, w.confirmations.get? c.confirmationId = some c →
    Awaits m c → ∃ c', (w.step e).confirmations.get? c.confirmationId = some c' ∧
      c'.state ≠ .pending

/-! ## The condition -/

namespace CarWorld

variable (w : CarWorld)

/-- No confirmation was asked for or claimed by the message. -/
def fresh (messageId : String) : Bool :=
  w.confirmations.rows.all fun c =>
    c.requestMessageId ≠ messageId ∧ c.executeMessageId ≠ some messageId

/-- The message is dispatched as far as the confirmations: it is no `/new`, nothing raises before,
    no context is left over, and the tool that an owner's request or confirmation calls for is
    there for a message without a confirmation. -/
def reaches (m : CarMessage) (env : DispatchEnv) : Bool :=
  env.prepared && !isNewThreadCommand m.input && w.active.isNone &&
    match prepareCarIntent m.input with
    | none | some .status => true
    | some intent => m.input.capabilityProfile ≠ .owner ||
        (env.tools.contains intent.tool && env.callable && w.fresh m.input.messageId &&
          (intent matches .execute _ || (w.confirmations.get? env.confirmationId).isNone))

/-- The message is not executing a confirmation already. -/
def idle (messageId : String) : Bool :=
  w.confirmations.rows.all fun c => c.executeMessageId = some messageId → c.state ≠ .executing

/-- A message that finds a confirmation of another one pending reaches it, and no message executes
    a confirmation that it is executing already. -/
def isOrdinary (e : CarEvent) : Bool :=
  (match e with
    | .dispatch m env => w.reaches m env || w.confirmations.rows.all fun c => ¬ Awaits m c
    | _ => true) &&
  match e.claim with
    | some claim => w.idle claim.messageId
    | none => true

end CarWorld

/-- The confirmation whose execution an event finishes. -/
def CarWorld.done (w : CarWorld) : CarEvent → Option String
  | .finish n _ _ => w.calls[n]?.map CarCall.confirmationId
  | _ => none

/-! ## What one event does to the table -/

open Confirmations

/-- Rows move, and a new confirmation may come to a conversation that has none pending. -/
def Grows (claim : Option CarClaim) (done : Option String) (t t' : Confirmations) : Prop :=
  ∃ t₁, t.Rewrites (Moves claim done) t₁ ∧ (t' = t₁ ∨ ∃ id k m target now,
    (∀ c ∈ t₁.rows, c.conversationKey = k → c.state ≠ .pending) ∧
    t₁.insert? (newConfirmation id k m target prepareCarTtlSeconds now) = some t')

namespace Grows

variable {claim : Option CarClaim} {done : Option String} {t t' : Confirmations}

theorem refl (claim : Option CarClaim) (done : Option String) (t : Confirmations) :
    Grows claim done t t := ⟨t, moves_refl claim done t, .inl rfl⟩

theorem of_moves (h : t.Rewrites (Moves claim done) t') : Grows claim done t t' := ⟨t', h, .inl rfl⟩

theorem of_none (h : Grows none none t t') : Grows claim done t t' := by
  obtain ⟨t₁, hmoves, hgrow⟩ := h
  exact ⟨t₁, hmoves.imp fun _ _ h => h.of_none claim done, hgrow⟩

/-- A confirmation is found again. -/
theorem get? (h : Grows claim done t t') {id : String} {c : Confirmation}
    (hc : t.get? id = some c) : ∃ c', t'.get? id = some c' ∧ Moves claim done c c' := by
  obtain ⟨t₁, hmoves, hgrow⟩ := h
  obtain ⟨c', hc', hmove⟩ := hmoves.get? (fun _ _ h => h.confirmationId) hc
  rcases hgrow with rfl | ⟨_, _, _, _, _, -, hinsert⟩
  · exact ⟨c', hc', hmove⟩
  · exact ⟨c', Table.get?_insert?_of_get? hinsert hc', hmove⟩

theorem onePending (h : Grows claim done t t') (hone : OnePending t) : OnePending t' := by
  obtain ⟨t₁, hmoves, hgrow⟩ := h
  have hone₁ := Moves.onePending hmoves hone
  rcases hgrow with rfl | ⟨id, k, m, target, now, hnone, hinsert⟩
  · exact hone₁
  · intro a ha b hb hap hbp hkey
    rw [Table.rows_insert? hinsert, List.mem_append, List.mem_singleton] at ha hb
    rcases ha with ha | rfl <;> rcases hb with hb | rfl
    · exact hone₁ a ha b hb hap hbp hkey
    · exact absurd hap (hnone a ha hkey)
    · exact absurd hbp (hnone b hb hkey.symm)
    · rfl

end Grows

namespace CarWorld

variable {w : CarWorld}

theorem callRequest_grows (k m : String) (target : Bool) (now : Instant) (id : String) :
    Grows none none w.confirmations (w.callRequest k m target now id).confirmations := by
  unfold callRequest
  cases h : w.confirmations.request k m target prepareCarTtlSeconds now id with
  | error _ => exact .refl _ _ _
  | ok t =>
    rcases request_cases h with rfl | ⟨t₁, hmoves, hnone, hinsert⟩
    · exact .refl _ _ _
    · exact ⟨t₁, hmoves, .inr ⟨id, k, m, target, now, hnone, hinsert⟩⟩

@[simp] theorem callExecute_confirmations (k m : String) (target : Bool) (now : Instant) :
    (w.callExecute k m target now).confirmations =
      (w.confirmations.claimExecute k m target now).1 := by
  unfold callExecute
  split
  split <;> simp_all

theorem callCar_grows (k m : String) (intent : CarIntent) (now : Instant) (id : String)
    (claim : Option CarClaim)
    (hclaim : ∀ target, intent = .execute target → claim = some ⟨k, m, target, now⟩) :
    Grows claim none w.confirmations (w.callCar k m intent now id).confirmations := by
  cases intent with
  | status => exact .refl _ _ _
  | request target => exact (callRequest_grows k m target now id).of_none
  | execute target =>
    rw [hclaim target rfl, callCar, callExecute_confirmations]
    exact .of_moves (claimExecute_moves k m target now)

theorem cancelCar_moves (m : CarMessage) (now : Instant) :
    w.confirmations.Rewrites (Moves none none) (w.cancelCar m now).confirmations :=
  cancelPending_moves _ _ _

theorem dispatchInContext_grows (m : CarMessage) (env : DispatchEnv) :
    Grows (CarEvent.dispatch m env).claim none w.confirmations
      (w.dispatchInContext m env).confirmations := by
  unfold dispatchInContext
  cases hintent : prepareCarIntent m.input with
  | none => exact .of_none (.of_moves (cancelCar_moves m env.now))
  | some intent =>
    by_cases hstatus : intent = .status
    · subst hstatus
      have hone := cancelCar_moves (w := w) m env.now
      dsimp only
      rw [if_pos rfl]
      split_ifs
      · exact .of_none (.of_moves (hone.trans (cancelCar_moves m env.now)
          fun _ _ _ h h' => h.trans h'))
      · exact .of_none (.of_moves hone)
      · exact .of_none (.of_moves hone)
      · exact .of_none (.of_moves hone)
    · dsimp only
      rw [if_neg hstatus]
      split_ifs
      · exact .of_none (.of_moves (cancelCar_moves m env.now))
      · exact .refl _ _ _
      · exact .refl _ _ _
      · refine callCar_grows _ _ _ _ _ _ fun target h => ?_
        subst h
        simp only [CarEvent.claim, hintent]

theorem dispatch_grows (m : CarMessage) (env : DispatchEnv) :
    Grows (CarEvent.dispatch m env).claim none w.confirmations
      (w.dispatch m env).confirmations := by
  unfold dispatch
  split
  · exact .refl _ _ _
  · split
    · exact .refl _ _ _
    · exact dispatchInContext_grows (w := { w with active := some _ }) m env

theorem post_confirmations (n : ℕ) : (w.post n).confirmations = w.confirmations := by
  unfold post
  split
  · rfl
  · split_ifs <;> rfl

theorem finish_moves (n : ℕ) (result : ExecuteResult) (now : Instant) :
    w.confirmations.Rewrites (Moves none (w.done (.finish n result now)))
      (w.finish n result now).confirmations := by
  unfold finish
  simp only [done]
  cases w.calls[n]? with
  | none => exact moves_refl _ _ _
  | some call =>
    dsimp only
    cases h : w.confirmations.finishExecute call.confirmationId result now with
    | error _ => exact moves_refl _ _ _
    | ok r => exact finishExecute_moves (r := r.2) h

/-- What one event does to the table of confirmations. -/
theorem carStep_moves (w : CarWorld) (e : CarEvent) :
    Grows e.claim (w.done e) w.confirmations (w.step e).confirmations := by
  cases e with
  | dispatch m env => exact dispatch_grows m env
  | agent context intent now id =>
    simp only [step]
    split_ifs
    · refine callCar_grows _ _ _ _ _ _ fun target h => ?_
      subst h
      rfl
    · exact .refl _ _ _
  | post n =>
    simp only [step, post_confirmations]
    exact .refl _ _ _
  | finish n result now => exact .of_moves (finish_moves n result now)
  | abandon n => exact .refl _ _ _
  | endContext => exact .refl _ _ _
  | stop => exact .refl _ _ _

/-! ## A message leaves nothing pending -/

/-- The confirmation is not pending. -/
def Settled (t : Confirmations) (id : String) : Prop :=
  ∃ c, t.get? id = some c ∧ c.state ≠ .pending

variable {claim : Option CarClaim} {t : Confirmations} {c : Confirmation} {m newId k : String}
  {env : DispatchEnv} {n : ℕ}

theorem Settled.grows {done : Option String} {t' : Confirmations} {id : String} (h : Settled t id)
    (hgrows : Grows claim done t t') : Settled t' id := by
  obtain ⟨c, hc, hstate⟩ := h
  obtain ⟨c', hc', hmove⟩ := hgrows.get? hc
  exact ⟨c', hc', (hmove.left hstate).1⟩

theorem settled_update {f : Confirmation → Confirmation}
    (hf : ∀ c, (f c).confirmationId = c.confirmationId) (hc : t.get? c.confirmationId = some c)
    (hstate : (f c).state ≠ .pending) : Settled (t.update c.confirmationId f hf) c.confirmationId :=
  ⟨f c, Table.get?_update_of_get? hc f hf, hstate⟩

theorem cancelPending_settles (hone : OnePending t) (hc : t.get? c.confirmationId = some c)
    (hpending : c.state = .pending) (hm : c.requestMessageId ≠ m) (now : Instant) :
    Settled (t.cancelPending c.conversationKey m now) c.confirmationId := by
  unfold cancelPending
  rw [pendingOf_eq hone (Table.mem_of_get? hc) hpending, Option.filter_some,
    if_pos (decide_eq_true hm)]
  exact settled_update _ hc nofun

/-- The message has neither asked for nor claimed a confirmation. -/
theorem fresh_iff : w.fresh m = true ↔ ∀ c ∈ w.confirmations.rows,
    c.requestMessageId ≠ m ∧ c.executeMessageId ≠ some m := by
  simp only [fresh, List.all_eq_true, decide_eq_true_eq]

theorem callExecute_settles (hone : OnePending w.confirmations)
    (hc : w.confirmations.get? c.confirmationId = some c) (hpending : c.state = .pending)
    (hm : m ≠ "") (hkey : isSha256Ref c.conversationKey = true) (hfresh : w.fresh m = true)
    (target : Bool) (now : Instant) :
    Settled (w.callExecute c.conversationKey m target now).confirmations c.confirmationId := by
  rw [fresh_iff] at hfresh
  have hreplay : (w.confirmations.rows.find? fun c => c.executeMessageId = some m) = none := by
    rw [List.find?_eq_none]
    exact fun r hr he => (hfresh r hr).2 (of_decide_eq_true he)
  have hreuse : (w.confirmations.rows.any fun c => c.requestMessageId = m) = false := by
    rw [Bool.eq_false_iff, ne_eq, List.any_eq_true]
    rintro ⟨r, hr, he⟩
    exact (hfresh r hr).1 (of_decide_eq_true he)
  rw [callExecute_confirmations, claimExecute, if_neg (not_not.mpr ⟨hkey, hm⟩), hreplay]
  dsimp only
  rw [hreuse, pendingOf_eq hone (Table.mem_of_get? hc) hpending]
  dsimp only
  rw [if_neg Bool.false_ne_true]
  split_ifs
  · exact settled_update (by intro _; rfl) hc (by rintro ⟨⟩)
  · exact settled_update (by intro _; rfl) hc (by rintro ⟨⟩)
  · exact settled_update (by intro _; rfl) hc (by rintro ⟨⟩)

theorem callRequest_settles (hc : w.confirmations.get? c.confirmationId = some c)
    (hpending : c.state = .pending) (hm : m ≠ "") (hkey : isSha256Ref c.conversationKey = true)
    (hfresh : w.fresh m = true) (hid : w.confirmations.get? newId = none) (target : Bool)
    (now : Instant) :
    Settled (w.callRequest c.conversationKey m target now newId).confirmations
      c.confirmationId := by
  rw [fresh_iff] at hfresh
  have hfound : (w.confirmations.rows.find? fun c =>
      c.requestMessageId = m ∨ c.executeMessageId = some m) = none := by
    rw [List.find?_eq_none]
    intro r hr he
    rcases of_decide_eq_true he with h | h
    · exact (hfresh r hr).1 h
    · exact (hfresh r hr).2 h
  obtain ⟨t', ht'⟩ : ∃ t', (w.confirmations.updateWhere
      (fun r => r.conversationKey = c.conversationKey ∧ r.state = .pending)
      (close .cancelled "SUPERSEDED" now)).insert? (newConfirmation newId c.conversationKey m target
        prepareCarTtlSeconds now) = some t' := by
    refine Table.insert?_of_get? ?_
    rw [Table.get?_updateWhere]
    show (w.confirmations.get? newId).map _ = none
    rw [hid]
    rfl
  have hrequest : w.confirmations.request c.conversationKey m target prepareCarTtlSeconds now
      newId = .ok t' := by
    unfold request
    rw [ensure_bind_of ⟨hkey, hm⟩, ensure_bind_of (by decide), hfound]
    dsimp only
    rw [ht']
    rfl
  unfold callRequest
  rw [hrequest]
  refine ⟨close .cancelled "SUPERSEDED" now c, Table.get?_insert?_of_get? ht' ?_, nofun⟩
  rw [Table.get?_updateWhere, hc, Option.map_some, if_pos (decide_eq_true ⟨rfl, hpending⟩)]

/-- A message that gets as far as the table leaves no confirmation of another message pending in
    its conversation. -/
theorem settles_of_reaches (hone : OnePending w.confirmations) {m : CarMessage}
    (hreaches : w.reaches m env = true) (hc : w.confirmations.get? c.confirmationId = some c)
    (hawaits : Awaits m c) : Settled (w.dispatch m env).confirmations c.confirmationId := by
  obtain ⟨hpending, hkey, hother⟩ := hawaits
  simp only [reaches, Bool.and_eq_true, Option.isNone_iff_eq_none, Bool.not_eq_true'] at hreaches
  obtain ⟨⟨⟨hprepared, hcommand⟩, hactive⟩, hintent⟩ := hreaches
  unfold dispatch beginJob
  rw [hprepared, hcommand, if_neg (by decide), ensure_bind_of ⟨m.jobId_ne, m.messageId_ne⟩,
    ensure_bind_of hactive]
  have hcancel : ∀ now, Settled (w.confirmations.cancelPending m.input.conversationKey
      m.input.messageId now) c.confirmationId :=
    fun now => hkey ▸ cancelPending_settles hone hc hpending hother now
  have hconversation : isSha256Ref c.conversationKey = true := hkey ▸ m.conversation
  show Settled (dispatchInContext _ m env).confirmations _
  unfold dispatchInContext
  cases hi : prepareCarIntent m.input with
  | none => exact hcancel env.now
  | some intent =>
    rw [hi] at hintent
    have hcall : intent ≠ .status → m.input.capabilityProfile = .owner →
        env.tools.contains intent.tool = true ∧ env.callable = true ∧
          w.fresh m.input.messageId = true ∧ (∀ target, intent = .request target →
            w.confirmations.get? env.confirmationId = none) := by
      intro hstatus howner
      cases intent <;> simp_all
    cases intent with
    | status =>
      dsimp only
      rw [if_pos rfl]
      split_ifs
      · exact (hcancel env.now).grows (.of_moves (cancelPending_moves _ _ _))
      · exact hcancel env.now
      · exact hcancel env.now
      · exact hcancel env.now
    | request target =>
      dsimp only
      rw [if_neg (show ¬ CarIntent.request target = .status from nofun)]
      by_cases howner : m.input.capabilityProfile = .owner
      · obtain ⟨htools, hcallable, hfresh, hnew⟩ := hcall nofun howner
        rw [if_neg (not_not.mpr howner), htools, hcallable, if_neg (by decide), if_neg (by decide)]
        rw [← hkey]
        exact callRequest_settles (w := { w with active := some _ }) hc hpending
          m.messageId_ne hconversation hfresh (hnew target rfl) target env.now
      · rw [if_pos howner]
        exact hcancel env.now
    | execute target =>
      dsimp only
      rw [if_neg (show ¬ CarIntent.execute target = .status from nofun)]
      by_cases howner : m.input.capabilityProfile = .owner
      · obtain ⟨htools, hcallable, hfresh, hnew⟩ := hcall nofun howner
        rw [if_neg (not_not.mpr howner), htools, hcallable, if_neg (by decide), if_neg (by decide)]
        rw [← hkey]
        exact callExecute_settles (w := { w with active := some _ }) hone hc hpending
          m.messageId_ne hconversation hfresh target env.now
      · rw [if_pos howner]
        exact hcancel env.now

theorem callExecute_of_not_fresh (hfresh : w.fresh m = false) (target : Bool) (now : Instant) :
    (w.callExecute k m target now).confirmations = w.confirmations := by
  have hrow : ∃ c ∈ w.confirmations.rows, c.requestMessageId = m ∨ c.executeMessageId = some m := by
    by_contra hnone
    refine Bool.false_ne_true (hfresh.symm.trans (fresh_iff.mpr fun c hc => ?_))
    exact ⟨fun h => hnone ⟨c, hc, .inl h⟩, fun h => hnone ⟨c, hc, .inr h⟩⟩
  rw [callExecute_confirmations, claimExecute]
  split
  · rfl
  · cases hreplay : w.confirmations.rows.find? fun c => c.executeMessageId = some m with
    | some replay =>
      dsimp only
      split
      · rfl
      · cases replay.result <;> rfl
    | none =>
      obtain ⟨c, hc, hm | hm⟩ := hrow
      · dsimp only
        rw [if_pos (List.any_eq_true.mpr ⟨c, hc, decide_eq_true hm⟩)]
      · exact absurd (decide_eq_true hm) (List.find?_eq_none.mp hreplay c hc)

theorem callRequest_of_not_fresh (h : w.fresh m = false ∨ w.confirmations.get? newId ≠ none)
    (target : Bool) (now : Instant) :
    (w.callRequest k m target now newId).confirmations = w.confirmations := by
  unfold callRequest
  cases hrequest : w.confirmations.request k m target prepareCarTtlSeconds now newId with
  | error _ => rfl
  | ok t =>
    simp only [request, bind_eq_ok] at hrequest
    obtain ⟨-, -, -, -, hrequest⟩ := hrequest
    cases hfound : w.confirmations.rows.find? fun c =>
        c.requestMessageId = m ∨ c.executeMessageId = some m with
    | some existing =>
      rw [hfound] at hrequest
      simp only [bind_eq_ok] at hrequest
      obtain ⟨-, -, hrequest⟩ := hrequest
      cases hrequest
      rfl
    | none =>
      rw [hfound] at hrequest
      dsimp only at hrequest
      rw [orRaise_eq_ok] at hrequest
      rcases h with hfresh | hid
      · refine absurd (fresh_iff.mpr fun c hc => ?_) (by rw [hfresh]; exact Bool.false_ne_true)
        have hc := List.find?_eq_none.mp hfound c hc
        rw [decide_eq_true_eq] at hc
        exact not_or.mp hc
      · have hnew := Table.get?_of_insert? hrequest
        rw [Table.get?_updateWhere, Option.map_eq_none_iff] at hnew
        exact absurd hnew hid

/-- A message that does not get as far leaves every confirmation as it was. -/
theorem stays_of_not_reaches {m : CarMessage} (hreaches : w.reaches m env = false) :
    (w.dispatch m env).confirmations = w.confirmations := by
  unfold dispatch
  split
  · rfl
  · next hbefore =>
    simp only [Bool.or_eq_true, not_or, Bool.not_eq_true', Bool.not_eq_false,
      Bool.not_eq_true] at hbefore
    split
    · rfl
    · next context hbegin =>
      simp only [beginJob, bind_eq_ok, ensure_eq_ok] at hbegin
      obtain ⟨-, -, -, hactive, -⟩ := hbegin
      rw [reaches, hbefore.1, hbefore.2, hactive] at hreaches
      unfold dispatchInContext
      cases hi : prepareCarIntent m.input with
      | none =>
        rw [hi] at hreaches
        cases hreaches
      | some intent =>
        cases intent with
        | status =>
          rw [hi] at hreaches
          cases hreaches
        | request target =>
          rw [hi] at hreaches
          dsimp only at hreaches ⊢
          rw [if_neg (show ¬ CarIntent.request target = .status by rintro ⟨⟩)]
          split_ifs with howner htools hcallable
          · rw [decide_eq_true howner] at hreaches
            cases hreaches
          · rfl
          · rfl
          · refine callRequest_of_not_fresh (w := { w with active := some context }) ?_ target
              env.now
            show w.fresh m.input.messageId = false ∨ w.confirmations.get? env.confirmationId ≠ none
            rw [Option.ne_none_iff_isSome]
            cases hfresh : w.fresh m.input.messageId <;> simp_all
        | execute target =>
          rw [hi] at hreaches
          dsimp only at hreaches ⊢
          rw [if_neg (show ¬ CarIntent.execute target = .status by rintro ⟨⟩)]
          split_ifs with howner htools hcallable
          · rw [decide_eq_true howner] at hreaches
            cases hreaches
          · rfl
          · rfl
          · refine callExecute_of_not_fresh (w := { w with active := some context }) ?_ target
              env.now
            show w.fresh m.input.messageId = false
            cases hfresh : w.fresh m.input.messageId <;> simp_all

/-- Exactly the messages that get as far, or find nothing to settle, leave nothing pending. -/
theorem settles_iff (hone : OnePending w.confirmations) (m : CarMessage) (env : DispatchEnv) :
    (∀ c, w.confirmations.get? c.confirmationId = some c → Awaits m c →
      Settled (w.dispatch m env).confirmations c.confirmationId) ↔
    w.reaches m env = true ∨ ∀ c ∈ w.confirmations.rows, ¬ Awaits m c := by
  constructor
  · intro h
    cases hreaches : w.reaches m env with
    | true => exact .inl rfl
    | false =>
      refine .inr fun c hc hawaits => ?_
      obtain ⟨c', hc', hsettled⟩ := h c (Table.mem_rows_iff.mp hc) hawaits
      rw [stays_of_not_reaches hreaches, Table.mem_rows_iff.mp hc, Option.some.injEq] at hc'
      exact hsettled (hc' ▸ hawaits.1)
  · rintro (hreaches | hnone) c hc hawaits
    · exact settles_of_reaches hone hreaches hc hawaits
    · exact absurd hawaits (hnone c (Table.mem_of_get? hc))

/-! ## One request for a confirmation -/

/-- What holds beside the law: an execution under way is of a confirmation that is executing, no two
    are of the same one, and a service was requested for no confirmation that is pending or whose
    execution has not come to it. -/
structure CarInv (w : CarWorld) : Prop where
  one : OnePending w.confirmations
  once : w.requests.Nodup
  calls : (w.calls.map CarCall.confirmationId).Nodup
  executing : ∀ call ∈ w.calls, ∃ c, w.confirmations.get? call.confirmationId = some c ∧
    c.state = .executing
  unsent : ∀ call ∈ w.calls, call.sent = false → call.confirmationId ∉ w.requests
  requested : ∀ id ∈ w.requests, Settled w.confirmations id

/-- When only the table changes. -/
theorem CarInv.of_grows {w w' : CarWorld} (h : CarInv w)
    (hgrows : Grows claim none w.confirmations w'.confirmations) (hcalls : w'.calls = w.calls)
    (hrequests : w'.requests = w.requests) : CarInv w' where
  one := hgrows.onePending h.one
  once := hrequests ▸ h.once
  calls := hcalls ▸ h.calls
  executing call hcall := by
    rw [hcalls] at hcall
    obtain ⟨c, hc, hstate⟩ := h.executing call hcall
    obtain ⟨c', hc', hmove⟩ := hgrows.get? hc
    rw [hmove.executing hstate nofun] at hc'
    exact ⟨c, hc', hstate⟩
  unsent := by
    rw [hcalls, hrequests]
    exact h.unsent
  requested id hid := (h.requested id (hrequests ▸ hid)).grows hgrows

/-- An execution that goes on is of a confirmation that its message was executing already, or of one
    that was pending. -/
theorem claimExecute_executing {id : String} {target : Bool} {now : Instant}
    (h : (t.claimExecute k m target now).2 = .ok (.executing id)) :
    (∃ c ∈ t.rows, c.executeMessageId = some m ∧ c.state = .executing) ∨
      ∃ c c', t.get? id = some c ∧ c.state = .pending ∧
        (t.claimExecute k m target now).1.get? id = some c' ∧ c'.state = .executing := by
  unfold claimExecute at h ⊢
  by_cases hcontext : isSha256Ref k = true ∧ m ≠ ""
  case neg =>
    rw [if_pos hcontext] at h
    cases h
  rw [if_neg (not_not.mpr hcontext)] at h ⊢
  cases hreplay : t.rows.find? fun c => c.executeMessageId = some m with
  | some replay =>
    rw [hreplay] at h
    dsimp only at h
    split at h
    · cases h
    · cases hresult : replay.result <;> rw [hresult] at h
      · dsimp only at h
        split_ifs at h with hstate
        · have hexecute := List.find?_some hreplay
          rw [decide_eq_true_eq] at hexecute
          exact .inl ⟨replay, List.mem_of_find?_eq_some hreplay, hexecute, hstate⟩
        · cases h
      · cases h
  | none =>
    rw [hreplay] at h
    dsimp only at h ⊢
    split at h
    · cases h
    · next hreuse =>
      rw [if_neg hreuse]
      cases hfound : t.pendingOf k with
      | none =>
        rw [hfound] at h
        cases h
      | some c =>
        obtain ⟨hc, hkey, hpending⟩ := pendingOf_some hfound
        rw [hfound] at h
        dsimp only at h ⊢
        split_ifs at h ⊢ with hexpired htarget
        · cases h
          exact .inr ⟨c, _, hc, hpending, Table.get?_update_of_get? hc _ (by intro _; rfl), rfl⟩

theorem CarInv.callExecute {w : CarWorld} (h : CarInv w) (hidle : w.idle m = true) (target : Bool)
    (now : Instant) : CarInv (w.callExecute k m target now) := by
  have htable : CarInv { w with
      confirmations := (w.confirmations.claimExecute k m target now).1 } :=
    h.of_grows (.of_moves (claimExecute_moves k m target now)) rfl rfl
  unfold CarWorld.callExecute
  split
  next t reply hclaim =>
  rw [hclaim] at htable
  split
  · next id =>
    have hreply : (w.confirmations.claimExecute k m target now).2 = .ok (.executing id) := by
      rw [hclaim]
    rcases claimExecute_executing hreply with
      ⟨c, hc, hexecute, hstate⟩ | ⟨c, c', hc, hpending, hc', hstate⟩
    · simp only [idle, List.all_eq_true, decide_eq_true_eq] at hidle
      exact absurd hstate (hidle c hc hexecute)
    · rw [hclaim] at hc'
      have hnew : id ∉ w.calls.map CarCall.confirmationId := by
        intro hid
        obtain ⟨call, hcall, rfl⟩ := List.mem_map.mp hid
        obtain ⟨c₁, hc₁, hexecuting⟩ := h.executing call hcall
        rw [hc, Option.some.injEq] at hc₁
        rw [← hc₁, hpending] at hexecuting
        cases hexecuting
      refine ⟨htable.one, htable.once, ?_, ?_, ?_, htable.requested⟩
      · rw [List.map_append, List.nodup_append]
        refine ⟨h.calls, List.nodup_singleton _, ?_⟩
        rintro a ha b hb rfl
        obtain rfl : a = id := List.mem_singleton.mp hb
        exact hnew ha
      · intro call hcall
        rw [List.mem_append, List.mem_singleton] at hcall
        rcases hcall with hcall | rfl
        · exact htable.executing call hcall
        · exact ⟨c', hc', hstate⟩
      · intro call hcall hsent
        rw [List.mem_append, List.mem_singleton] at hcall
        rcases hcall with hcall | rfl
        · exact h.unsent call hcall hsent
        · intro hid
          obtain ⟨c₁, hc₁, hsettled⟩ := h.requested id hid
          rw [hc, Option.some.injEq] at hc₁
          rw [← hc₁] at hsettled
          exact hsettled hpending
  · exact htable

theorem CarInv.callCar {w : CarWorld} (h : CarInv w) {intent : CarIntent}
    (hidle : ∀ target, intent = .execute target → w.idle m = true) (now : Instant) (id : String) :
    CarInv (w.callCar k m intent now id) := by
  cases intent with
  | status => exact h
  | request target =>
    refine h.of_grows (callRequest_grows k m target now id) ?_ ?_ <;>
    · unfold CarWorld.callCar callRequest
      dsimp only
      split <;> rfl
  | execute target => exact h.callExecute (hidle target rfl) target now

theorem CarInv.dispatch {w : CarWorld} (h : CarInv w) (m : CarMessage) (env : DispatchEnv)
    (hidle : ∀ claim, (CarEvent.dispatch m env).claim = some claim →
      w.idle claim.messageId = true) : CarInv (w.dispatch m env) := by
  have hactive : ∀ a, CarInv { w with active := a } := fun a => h.of_grows (.refl none _ _) rfl rfl
  have hcancel : ∀ {w : CarWorld}, CarInv w → CarInv (w.cancelCar m env.now) :=
    fun h => h.of_grows (.of_moves (cancelCar_moves m env.now)) rfl rfl
  unfold CarWorld.dispatch
  split
  · exact hactive _
  · split
    · exact hactive _
    · next context _ =>
      unfold dispatchInContext
      cases hi : prepareCarIntent m.input with
      | none => exact hcancel (hactive _)
      | some intent =>
        dsimp only
        by_cases hstatus : intent = .status
        · subst hstatus
          rw [if_pos rfl]
          split_ifs
          · exact hcancel (hcancel (hactive _))
          · exact hcancel (hactive _)
          · exact hcancel (hactive _)
          · exact hcancel (hactive _)
        · rw [if_neg hstatus]
          split_ifs
          · exact hcancel (hactive _)
          · exact hactive _
          · exact hactive _
          · refine CarInv.callCar (hactive _) (fun target ht => ?_) _ _
            subst ht
            exact hidle ⟨m.input.conversationKey, m.input.messageId, target, env.now⟩
              (by simp only [CarEvent.claim, hi])

/-- Two executions are of two confirmations. -/
theorem CarInv.index_inj {w : CarWorld} (h : CarInv w) {i j : ℕ} (hi : i < w.calls.length)
    (hj : j < w.calls.length) (hid : w.calls[i].confirmationId = w.calls[j].confirmationId) :
    i = j := by
  have hsame := List.inj_on_of_nodup_map h.calls (List.getElem_mem hi) (List.getElem_mem hj) hid
  exact (h.calls.of_map _).getElem_inj_iff.mp hsame

/-- Marking an execution as sent leaves its confirmation alone. -/
theorem map_set_sent {calls : List CarCall} {call : CarCall} (hcall : calls[n]? = some call) :
    (calls.set n { call with sent := true }).map CarCall.confirmationId =
      calls.map CarCall.confirmationId := by
  obtain ⟨hn, rfl⟩ := List.getElem?_eq_some_iff.mp hcall
  have hn' : n < (calls.map CarCall.confirmationId).length := by simpa using hn
  have hself := List.set_getElem_self hn'
  rw [List.getElem_map] at hself
  rw [List.map_set]
  exact hself

theorem CarInv.post {w : CarWorld} (h : CarInv w) (n : ℕ) : CarInv (w.post n) := by
  unfold CarWorld.post
  cases hcall : w.calls[n]? with
  | none => exact h
  | some call =>
    dsimp only
    split_ifs with hsent
    · exact h
    · rw [Bool.not_eq_true] at hsent
      obtain ⟨hn, hget⟩ := List.getElem?_eq_some_iff.mp hcall
      have hmem : call ∈ w.calls := List.mem_of_getElem? hcall
      have hother : ∀ call' ∈ w.calls.set n { call with sent := true }, call'.sent = false →
          call' ∈ w.calls ∧ call'.confirmationId ≠ call.confirmationId := by
        intro call' hcall' hunsent
        obtain ⟨i, hi, rfl⟩ := List.mem_iff_getElem.mp hcall'
        have hne : n ≠ i := by
          rintro rfl
          rw [List.getElem_set_self] at hunsent
          cases hunsent
        rw [List.getElem_set_ne hne] at hunsent ⊢
        rw [List.length_set] at hi
        refine ⟨List.getElem_mem _, fun hid => hne ?_⟩
        exact (h.index_inj hi hn (by rw [hid, hget])).symm
      refine ⟨h.one, ?_, (map_set_sent hcall).symm ▸ h.calls, ?_, ?_, ?_⟩
      · rw [List.nodup_append]
        refine ⟨h.once, List.nodup_singleton _, ?_⟩
        rintro a ha b hb rfl
        obtain rfl : a = call.confirmationId := List.mem_singleton.mp hb
        exact h.unsent call hmem hsent ha
      · intro call' hcall'
        have hid : call'.confirmationId ∈ w.calls.map CarCall.confirmationId :=
          map_set_sent hcall ▸ List.mem_map_of_mem hcall'
        obtain ⟨call₀, hcall₀, hid⟩ := List.mem_map.mp hid
        rw [← hid]
        exact h.executing call₀ hcall₀
      · intro call' hcall' hunsent hid
        obtain ⟨hcall', hne⟩ := hother call' hcall' hunsent
        rcases List.mem_append.mp hid with hid | hid
        · exact h.unsent call' hcall' hunsent hid
        · exact hne (List.mem_singleton.mp hid)
      · intro id hid
        rcases List.mem_append.mp hid with hid | hid
        · exact h.requested id hid
        · obtain ⟨c, hc, hstate⟩ := h.executing call hmem
          obtain rfl := List.mem_singleton.mp hid
          exact ⟨c, hc, by rw [hstate]; nofun⟩

/-- When an execution ends, the others are of other confirmations. -/
theorem CarInv.erase {w : CarWorld} (h : CarInv w)
    (hmoves : w.confirmations.Rewrites (Moves none (w.calls[n]?.map CarCall.confirmationId)) t) :
    CarInv { w with confirmations := t, calls := w.calls.eraseIdx n } := by
  have hsub : (w.calls.eraseIdx n).Sublist w.calls := List.eraseIdx_sublist _ _
  have hgrows : Grows none (w.calls[n]?.map CarCall.confirmationId) w.confirmations t :=
    .of_moves hmoves
  refine ⟨hgrows.onePending h.one, h.once, (hsub.map _).nodup h.calls, ?_,
    fun call hcall => h.unsent call (hsub.mem hcall),
    fun id hid => (h.requested id hid).grows hgrows⟩
  intro call hcall
  obtain ⟨i, hi, hne, rfl⟩ := List.mem_eraseIdx_iff_getElem.mp hcall
  obtain ⟨c, hc, hstate⟩ := h.executing _ (List.getElem_mem hi)
  obtain ⟨c', hc', hmove⟩ := hgrows.get? hc
  refine ⟨c, ?_, hstate⟩
  rw [hmove.executing hstate ?_] at hc'
  · exact hc'
  · intro hdone
    obtain ⟨call', hcall', hid⟩ := Option.map_eq_some_iff.mp hdone
    obtain ⟨hn, rfl⟩ := List.getElem?_eq_some_iff.mp hcall'
    rw [Table.key_of_get? hc] at hid
    exact hne (h.index_inj hi hn hid.symm)

theorem CarInv.step {w : CarWorld} (h : CarInv w) {e : CarEvent} (he : w.isOrdinary e = true) :
    CarInv (w.step e) := by
  have hidle : ∀ claim, e.claim = some claim → w.idle claim.messageId = true := by
    intro claim hclaim
    simp only [isOrdinary, Bool.and_eq_true, hclaim] at he
    exact he.2
  cases e with
  | dispatch m env => exact h.dispatch m env hidle
  | agent context intent now id =>
    simp only [CarWorld.step]
    split_ifs
    · refine h.callCar (fun target ht => ?_) now id
      subst ht
      exact hidle ⟨_, _, target, now⟩ rfl
    · exact h
  | post n => exact h.post n
  | finish n result now =>
    have hmoves := finish_moves (w := w) n result now
    simp only [CarWorld.step]
    unfold CarWorld.finish at hmoves ⊢
    split at hmoves
    · exact h
    · exact h.erase hmoves
  | abandon n => exact h.erase (moves_refl _ _ _)
  | endContext => exact h.of_grows (.refl none _ _) rfl rfl
  | stop => exact ⟨h.one, h.once, List.nodup_nil, fun _ hc => absurd hc List.not_mem_nil,
      fun _ hc => absurd hc List.not_mem_nil, h.requested⟩

theorem carInv_empty : CarInv .empty where
  one := fun _ h => absurd h List.not_mem_nil
  once := List.nodup_nil
  calls := List.nodup_nil
  executing := fun _ h => absurd h List.not_mem_nil
  unsent := fun _ h => absurd h List.not_mem_nil
  requested := fun _ h => absurd h List.not_mem_nil

/-- An event of the condition keeps to the law. -/
theorem CarInv.lawful {w : CarWorld} (h : CarInv w) {e : CarEvent} (he : w.isOrdinary e = true) :
    LawfulCar w e where
  claimed c c' hc hc' hpending hexecuting := by
    obtain ⟨c₁, hc₁, hmove⟩ := (carStep_moves w e).get? hc
    rw [hc', Option.some.injEq] at hc₁
    subst hc₁
    cases hmove with
    | same =>
      rw [hpending] at hexecuting
      cases hexecuting
    | @closes state code now _ hclosed =>
      rw [show state = .executing from hexecuting] at hclosed
      cases hclosed
    | @claims claim hclaim _ hkey hother htarget hnow =>
      exact ⟨claim, hclaim, rfl, hkey, hother, htarget, hnow⟩
    | finishes _ hstate =>
      rw [hpending] at hstate
      cases hstate
  left c hc hstate := by
    obtain ⟨c', hc', hmove⟩ := (carStep_moves w e).get? hc
    exact ⟨c', hc', hmove.left hstate⟩
  closed c hc hclosed := by
    obtain ⟨c', hc', hmove⟩ := (carStep_moves w e).get? hc
    exact hmove.closed hclosed ▸ hc'
  settles m env hm c hc hawaits := by
    subst hm
    simp only [isOrdinary, Bool.and_eq_true, Bool.or_eq_true, List.all_eq_true,
      decide_eq_true_eq] at he
    exact (settles_iff h.one m env).mpr he.1 c hc hawaits

end CarWorld

open CarWorld in
/-- Over every run in which a message that finds a confirmation of another one pending is
    dispatched as far as the confirmations, and no message executes a confirmation that it is
    executing already: a conversation has one pending confirmation, which only another of its
    messages claims, once, for its target and in time; no message in between leaves it pending; a
    confirmation sends one service request; and what has its result, is cancelled or expired does
    not change. -/
theorem prepareCar_lawful (events : List CarEvent)
    (h : EveryStep step (fun w e => w.isOrdinary e = true) .empty events) :
    Throughout step KeptCar .empty events ∧ EveryStep step LawfulCar .empty events := by
  constructor
  · exact (throughout_of_everyStep step (I := CarInv) (fun w e hw he => hw.step he) carInv_empty
      h).imp step fun w hw => ⟨hw.one, hw.once⟩
  · exact h.imp step (I := CarInv) (fun w e hw he => hw.step he) (fun w e hw he => hw.lawful he)
      carInv_empty

/-! ## Two runs -/

/-- An owner's message without attachments. -/
def ownerMessage (n : ℕ) (text : String) : CarMessage where
  jobId := "job-" ++ toString n
  input := ⟨"message-" ++ toString n, "sha256:" ++ String.ofList (List.replicate 64 'a'),
    "2026-07-01T08:00:00+08:00", text, [], ["text"], .owner⟩
  jobId_ne := by simp
  messageId_ne := by simp
  conversation := by
    show isSha256Ref ("sha256:" ++ String.ofList (List.replicate 64 'a')) = true
    decide +kernel

/-- All is available at `n` seconds. -/
def available (n : ℕ) (confirmationId : String) : DispatchEnv :=
  ⟨true, ["aito_prepare_car_status", "aito_prepare_car_request", "aito_prepare_car_execute"], true,
    false, seconds n, confirmationId⟩

/-- Two requests with a question in between, a confirmation and its execution. -/
def confirmedRun : List CarEvent :=
  [.dispatch (ownerMessage 1 "备车") (available 0 "PC-1"), .endContext,
    .dispatch (ownerMessage 2 "今天天气怎么样？") (available 10 "PC-2"), .endContext,
    .dispatch (ownerMessage 3 "请帮我开始备车。") (available 20 "PC-3"), .endContext,
    .dispatch (ownerMessage 4 "确认备车") (available 50 "PC-4"), .post 0,
    .finish 0 ⟨.submitted, none, true⟩ (seconds 51), .endContext]

theorem prepareCar_lawful_confirmed :
    (Throughout CarWorld.step KeptCar .empty confirmedRun ∧
      EveryStep CarWorld.step LawfulCar .empty confirmedRun) ∧
    (runFrom CarWorld.step .empty confirmedRun).requests = ["PC-3"] ∧
    (runFrom CarWorld.step .empty confirmedRun).confirmations.rows.map
      (fun c => (c.confirmationId, c.state)) = [("PC-1", .cancelled), ("PC-3", .submitted)] :=
  ⟨prepareCar_lawful confirmedRun (by decide +kernel), by decide +kernel⟩

/-- A request, `/new`, and the confirmation of the request. -/
def newThreadRun : List CarEvent :=
  [.dispatch (ownerMessage 1 "备车") (available 0 "PC-1"), .endContext,
    .dispatch (ownerMessage 2 "/new") (available 10 "PC-2"),
    .dispatch (ownerMessage 3 "确认备车") (available 50 "PC-3"), .post 0]

/-- `/new` leaves the request pending, and the message after it confirms it. -/
theorem newThread_keeps_pending :
    ¬ EveryStep CarWorld.step LawfulCar .empty newThreadRun ∧
    (runFrom CarWorld.step .empty newThreadRun).requests = ["PC-1"] ∧
    (runFrom CarWorld.step .empty newThreadRun).confirmations.rows.map
      (fun c => (c.requestMessageId, c.executeMessageId)) = [("message-1", some "message-3")] := by
  refine ⟨?_, by decide +kernel⟩
  rintro ⟨-, -, hcommand, -⟩
  have hrow : ∃ c, ((runFrom CarWorld.step .empty (newThreadRun.take 2)).confirmations.get?
      c.confirmationId = some c ∧ Awaits (ownerMessage 2 "/new") c) ∧
      (runFrom CarWorld.step .empty (newThreadRun.take 3)).confirmations.get? c.confirmationId =
        some c :=
    ⟨Confirmations.newConfirmation "PC-1" (ownerMessage 1 "").input.conversationKey "message-1" true
      prepareCarTtlSeconds 0, by decide +kernel⟩
  obtain ⟨c, ⟨hc, hawaits⟩, hstays⟩ := hrow
  obtain ⟨c', hc', hsettled⟩ := hcommand.settles _ _ rfl c hc hawaits
  have heq : some c = some c' := hstays.symm.trans hc'
  exact hsettled (Option.some.inj heq ▸ hawaits.1)

end HomeAddons.Controller
