import HomeAddons.Common.IsoTime
import HomeAddons.Common.Rowwise
import HomeAddons.Common.Text
import HomeAddons.Controller.Context
import HomeAddons.Controller.Jobs

/-!
# Codex Controller: preparing the car in two steps

The commands that `prepare_car.py` and `is_new_thread_command` recognize, and the calls of
`ControllerStore` on the table of confirmations (`store.py` 445–629).

* `Moves`: all that happens to a confirmation, whichever call is made.
* `request_cases`, `cancelPending_moves`, `claimExecute_moves`, `finishExecute_moves`: what the calls
  do to the table.
-/

namespace HomeAddons.Controller

open HomeAddons.Common

/-! ## Commands -/

/-- `text.strip() in NEW_THREAD_COMMANDS and attachments == []`. -/
def isNewThreadCommand (input : JobInput) : Bool :=
  (strip input.text = "打开新会话" || strip input.text = "/new") && input.attachments.isEmpty

/-- What a prepare-car command asks for. -/
inductive CarIntent where
  | status
  | request (target : Bool)
  | execute (target : Bool)
  deriving DecidableEq

/-- `re.sub(r"[\s，,。.!！?？;；:：]+", "", text.strip())`. -/
def withoutPunctuation (text : String) : String :=
  String.ofList ((strip text).toList.filter fun c =>
    !(isPySpace c || "，,。.!！?？;；:：".toList.contains c))

/-- The text without the first of the polite prefixes that it starts with. -/
def withoutPrefix (text : String) : String :=
  match ["请帮我", "帮我", "请问", "请"].find? fun p => p.toList.isPrefixOf text.toList with
  | some p => String.ofList (text.toList.drop p.length)
  | none => text

/-- `prepare_car_intent(payload)` (lines 62–85). -/
def prepareCarIntent (input : JobInput) : Option CarIntent :=
  if input.attachments.isEmpty then
    let normalized := withoutPrefix (withoutPunctuation input.text)
    if ["备车状态", "查看备车状态", "查询备车状态", "现在备车了吗", "备车开了吗"].contains normalized then
      some .status
    else if ["备车", "开始备车", "开启备车", "打开备车"].contains normalized then some (.request true)
    else if ["停止备车", "关闭备车", "结束备车"].contains normalized then some (.request false)
    else if ["确认备车", "确认开始备车", "确认开启备车"].contains normalized then some (.execute true)
    else if ["确认停止备车", "确认关闭备车", "确认结束备车"].contains normalized then
      some (.execute false)
    else none
  else none

/-! ## The table -/

inductive ConfirmationState where
  | pending
  | executing
  | submitted
  | failed
  | unknown
  | cancelled
  | expired
  deriving DecidableEq

/-- The states that are left no more. -/
def ConfirmationState.closed : ConfirmationState → Bool
  | .pending | .executing => false
  | _ => true

/-- The `status` of a result of an execution. -/
inductive ExecuteStatus where
  | submitted
  | alreadyConfirmed
  | failed
  | unknown
  deriving DecidableEq

/-- `state_by_status[status]`. -/
def ExecuteStatus.state : ExecuteStatus → ConfirmationState
  | .submitted | .alreadyConfirmed => .submitted
  | .failed => .failed
  | .unknown => .unknown

/-- What `_prepare_car_call` reports of an execution. -/
structure ExecuteResult where
  status : ExecuteStatus
  errorCode : Option String
  target : Bool
  deriving DecidableEq

/-- A row of `aito_prepare_car_confirmations`; its conversation is the one of a stored job. -/
structure Confirmation where
  confirmationId : String
  conversationKey : String
  requestMessageId : String
  executeMessageId : Option String
  targetOn : Bool
  state : ConfirmationState
  requestedAt : Instant
  expiresAt : Instant
  consumedAt : Option Instant
  completedAt : Option Instant
  result : Option ExecuteResult
  errorCode : Option String
  deriving DecidableEq

abbrev Confirmations := Table Confirmation.confirmationId

/-- `isoformat(timespec="seconds")` of an instant, read back. -/
def wholeSeconds (t : Instant) : Instant := t / 1000000 * 1000000

/-- An execution that a message asks for: in which conversation, with which target and when. -/
structure CarClaim where
  conversationKey : String
  messageId : String
  target : Bool
  now : Instant
  deriving DecidableEq

namespace Confirmations

variable (t : Confirmations)

/-- `SELECT … WHERE conversation_key=? AND state='pending'`. -/
def pendingOf (conversationKey : String) : Option Confirmation :=
  t.rows.find? fun c => c.conversationKey = conversationKey ∧ c.state = .pending

/-- The row that `prepare_car_request` inserts. -/
def newConfirmation (confirmationId conversationKey messageId : String) (targetOn : Bool)
    (ttlSeconds : ℕ) (now : Instant) : Confirmation where
  confirmationId := confirmationId
  conversationKey := conversationKey
  requestMessageId := messageId
  executeMessageId := none
  targetOn := targetOn
  state := .pending
  requestedAt := wholeSeconds now
  expiresAt := wholeSeconds (now + seconds ttlSeconds)
  consumedAt := none
  completedAt := none
  result := none
  errorCode := none

/-- `raise StoreError("prepare_car_idempotency_conflict", message, status=409)`. -/
def messageConflict (message : String) : Raise :=
  raising "prepare_car_idempotency_conflict" message 409

/-- `UPDATE … SET state=?,completed_at=?,error_code=?`. -/
def close (state : ConfirmationState) (errorCode : String) (now : Instant) (c : Confirmation) :
    Confirmation :=
  { c with state := state, completedAt := some (wholeSeconds now), errorCode := some errorCode }

/-- `prepare_car_request(conversation_key, message_id, target_on, ttl_seconds=…)` (lines 445–489);
    `confirmationId` is `f"PC-{uuid.uuid4().hex}"`. -/
def request (conversationKey messageId : String) (targetOn : Bool) (ttlSeconds : ℕ)
    (now : Instant) (confirmationId : String) : Except Raise Confirmations := do
  ensure (isSha256Ref conversationKey = true ∧ messageId ≠ "")
    (rejecting "prepare_car_context_invalid" "备车确认上下文无效")
  ensure (30 ≤ ttlSeconds ∧ ttlSeconds ≤ 300)
    (rejecting "prepare_car_request_invalid" "备车确认参数无效")
  match t.rows.find? fun c =>
      c.requestMessageId = messageId ∨ c.executeMessageId = some messageId with
  | some existing =>
    ensure (existing.requestMessageId = messageId ∧ existing.conversationKey = conversationKey ∧
      existing.targetOn = targetOn) (messageConflict "备车消息幂等冲突")
    return t
  | none =>
    let t := t.updateWhere (fun c => c.conversationKey = conversationKey ∧ c.state = .pending)
      (close .cancelled "SUPERSEDED" now)
    orRaise (t.insert?
      (newConfirmation confirmationId conversationKey messageId targetOn ttlSeconds now)) .integrity

/-- `cancel_prepare_car_pending(conversation_key, next_message_id)` (lines 491–512). -/
def cancelPending (conversationKey nextMessageId : String) (now : Instant) : Confirmations :=
  match (t.pendingOf conversationKey).filter fun c => c.requestMessageId ≠ nextMessageId with
  | none => t
  | some c => t.update c.confirmationId (close .cancelled "NEXT_MESSAGE_CANCELLED" now)

/-- What a claim that does not raise answers. -/
inductive ClaimReply where
  /-- The status is `executing`: the caller goes on. -/
  | executing (confirmationId : String)
  /-- The stored result of an earlier execution. -/
  | replayed (result : ExecuteResult)
  /-- The document of a claimed confirmation without a result. -/
  | closed (state : ConfirmationState)
  deriving DecidableEq

/-- `claim_prepare_car_execute(conversation_key, message_id, target_on)` (lines 514–590). The
    confirmation that turns out expired or mismatched is committed before the call raises. -/
def claimExecute (conversationKey messageId : String) (targetOn : Bool) (now : Instant) :
    Confirmations × Except Raise ClaimReply :=
  if ¬ (isSha256Ref conversationKey = true ∧ messageId ≠ "") then
    (t, .error (rejecting "prepare_car_context_invalid" "备车执行上下文无效"))
  else match t.rows.find? fun c => c.executeMessageId = some messageId with
  | some replay =>
    if ¬ (replay.conversationKey = conversationKey ∧ replay.targetOn = targetOn) then
      (t, .error (messageConflict "备车确认消息幂等冲突"))
    else match replay.result with
      | some result => (t, .ok (.replayed result))
      | none => (t, .ok (if replay.state = .executing then .executing replay.confirmationId
          else .closed replay.state))
  | none =>
    if t.rows.any fun c => c.requestMessageId = messageId then
      (t, .error (messageConflict "请求消息不能作为确认消息重用"))
    else match t.pendingOf conversationKey with
      | none => (t, .error (raising "CONFIRMATION_MISSING" "没有待确认的备车请求" 409))
      | some c =>
        if c.expiresAt ≤ now then
          (t.update c.confirmationId (close .expired "CONFIRMATION_EXPIRED" now),
            .error (raising "CONFIRMATION_EXPIRED" "备车确认已过期" 409))
        else if c.targetOn ≠ targetOn then
          (t.update c.confirmationId (close .cancelled "CONFIRMATION_ACTION_MISMATCH" now),
            .error (raising "CONFIRMATION_ACTION_MISMATCH" "备车确认动作不一致" 409))
        else
          (t.update c.confirmationId fun c => { c with
              state := .executing
              executeMessageId := some messageId
              consumedAt := some (wholeSeconds now) },
            .ok (.executing c.confirmationId))

/-- `finish_prepare_car_execute(confirmation_id, result)` (lines 592–629): the table and the result
    that is returned. -/
def finishExecute (confirmationId : String) (result : ExecuteResult) (now : Instant) :
    Except Raise (Confirmations × ExecuteResult) := do
  ensure (∀ e ∈ result.errorCode, e.length ≤ 128)
    (raising "prepare_car_result_invalid" "备车执行错误码无效" 500)
  let c ← orRaise (t.get? confirmationId)
    (raising "prepare_car_confirmation_missing" "备车确认记录不存在" 404)
  if c.state ≠ .executing then
    let replay ← orRaise c.result (raising "prepare_car_state_conflict" "备车确认状态冲突" 409)
    return (t, replay)
  else
    return (t.update confirmationId fun c => { c with
      state := result.status.state
      completedAt := some (wholeSeconds now)
      result := some result
      errorCode := result.errorCode }, result)

/-! ## What the calls do to a row -/

variable {t t' : Confirmations}

/-- What happens to a confirmation, when the claim of a message is served or the execution of a
    confirmation is done. -/
inductive Moves (claim : Option CarClaim) (done : Option String) (c : Confirmation) :
    Confirmation → Prop where
  | same : Moves claim done c c
  | closes {state code now} : c.state = .pending → state.closed = true →
      Moves claim done c (close state code now c)
  | claims {cl : CarClaim} : claim = some cl → c.state = .pending →
      cl.conversationKey = c.conversationKey → cl.messageId ≠ c.requestMessageId →
      cl.target = c.targetOn → cl.now < c.expiresAt → Moves claim done c { c with
        state := .executing
        executeMessageId := some cl.messageId
        consumedAt := some (wholeSeconds cl.now) }
  | finishes {result : ExecuteResult} {now} : done = some c.confirmationId →
      c.state = .executing → Moves claim done c { c with
        state := result.status.state
        completedAt := some (wholeSeconds now)
        result := some result
        errorCode := result.errorCode }

namespace Moves

variable {claim : Option CarClaim} {done : Option String} {c c' : Confirmation}

theorem confirmationId (h : Moves claim done c c') : c'.confirmationId = c.confirmationId := by
  cases h <;> rfl

theorem status_closed (s : ExecuteStatus) : s.state.closed = true := by
  cases s <;> rfl

/-- What is pending after a call was there and pending before. -/
theorem of_pending (h : Moves claim done c c') (hc : c'.state = .pending) : c' = c := by
  cases h with
  | same => rfl
  | @closes state code now _ hclosed =>
    rw [show state = .pending from hc] at hclosed
    cases hclosed
  | claims => cases hc
  | @finishes result now _ _ =>
    have hclosed := status_closed result.status
    rw [show result.status.state = .pending from hc] at hclosed
    cases hclosed

/-- What is not pending is neither claimed nor given up any more. -/
theorem left (h : Moves claim done c c') (hc : c.state ≠ .pending) :
    c'.state ≠ .pending ∧ c'.executeMessageId = c.executeMessageId := by
  cases h with
  | same => exact ⟨hc, rfl⟩
  | closes hpending => exact absurd hpending hc
  | claims _ hpending => exact absurd hpending hc
  | @finishes result now _ _ =>
    refine ⟨fun hpending => ?_, rfl⟩
    have hclosed := status_closed result.status
    rw [show result.status.state = .pending from hpending] at hclosed
    cases hclosed

theorem closed (h : Moves claim done c c') (hc : c.state.closed = true) : c' = c := by
  cases h with
  | same => rfl
  | closes hpending =>
    rw [hpending] at hc
    cases hc
  | claims _ hpending =>
    rw [hpending] at hc
    cases hc
  | finishes _ hexecuting =>
    rw [hexecuting] at hc
    cases hc

/-- An execution goes on until it is done. -/
theorem executing (h : Moves claim done c c') (hc : c.state = .executing)
    (hdone : done ≠ some c.confirmationId) : c' = c := by
  cases h with
  | same => rfl
  | closes hpending =>
    rw [hpending] at hc
    cases hc
  | claims _ hpending =>
    rw [hpending] at hc
    cases hc
  | finishes hid => exact absurd hid hdone

/-- Without a claim, one closing after another is one of them. -/
theorem trans {a b : Confirmation} (h : Moves none none c a) (h' : Moves none none a b) :
    Moves none none c b := by
  cases h with
  | same => exact h'
  | closes hpending hclosed =>
    rw [h'.closed hclosed]
    exact .closes hpending hclosed
  | claims hclaim => cases hclaim
  | finishes hdone => cases hdone

theorem of_none (claim : Option CarClaim) (done : Option String) (h : Moves none none c c') :
    Moves claim done c c' := by
  cases h with
  | same => exact .same
  | closes hpending hclosed => exact .closes hpending hclosed
  | claims hclaim => cases hclaim
  | finishes hdone => cases hdone

end Moves

variable {k : String} {c : Confirmation} {claim : Option CarClaim} {done : Option String}
  {now : Instant}

theorem pendingOf_some (h : t.pendingOf k = some c) :
    t.get? c.confirmationId = some c ∧ c.conversationKey = k ∧ c.state = .pending := by
  have hc := List.find?_some h
  simp only [decide_eq_true_eq] at hc
  exact ⟨Table.mem_rows_iff.mp (List.mem_of_find?_eq_some h), hc⟩

/-- A conversation has one pending confirmation. -/
def OnePending (t : Confirmations) : Prop :=
  ∀ a ∈ t.rows, ∀ b ∈ t.rows, a.state = .pending → b.state = .pending →
    a.conversationKey = b.conversationKey → a = b

/-- The pending confirmation of a conversation is found. -/
theorem pendingOf_eq (hone : OnePending t) (hc : c ∈ t.rows) (hpending : c.state = .pending) :
    t.pendingOf c.conversationKey = some c := by
  cases hfound : t.pendingOf c.conversationKey with
  | none =>
    rw [pendingOf, List.find?_eq_none] at hfound
    exact absurd ⟨rfl, hpending⟩ (of_decide_eq_false (Bool.eq_false_iff.mpr (hfound c hc)))
  | some c' =>
    obtain ⟨hc', hkey, hpending'⟩ := pendingOf_some hfound
    rw [hone c' (Table.mem_of_get? hc') c hc hpending' hpending hkey]

theorem Moves.onePending (h : t.Rewrites (Moves claim done) t') (hone : OnePending t) :
    OnePending t' := by
  intro a ha b hb hap hbp hkey
  obtain ⟨a₀, ha₀, hma⟩ := h.of_mem ha
  obtain ⟨b₀, hb₀, hmb⟩ := h.of_mem hb
  obtain rfl := hma.of_pending hap
  obtain rfl := hmb.of_pending hbp
  exact hone a ha₀ b hb₀ hap hbp hkey

theorem moves_refl (claim : Option CarClaim) (done : Option String) (t : Confirmations) :
    t.Rewrites (Moves claim done) t := Table.Rewrites.refl (fun _ => .same) t

/-- An update of a row that was found. -/
theorem moves_update {f : Confirmation → Confirmation}
    (hf : ∀ c, (f c).confirmationId = c.confirmationId) (hc : t.get? c.confirmationId = some c)
    (hmove : Moves claim done c (f c)) :
    t.Rewrites (Moves claim done) (t.update c.confirmationId f hf) := by
  refine Table.rewrites_update hf (fun _ => .same) fun r hr => ?_
  rw [hc, Option.some.injEq] at hr
  exact hr ▸ hmove

/-- A request supersedes what is pending in the conversation and adds its own confirmation. -/
theorem request_cases {m id : String} {target : Bool} {ttl : ℕ}
    (h : t.request k m target ttl now id = .ok t') :
    t' = t ∨ ∃ t₁, t.Rewrites (Moves none none) t₁ ∧
      (∀ c ∈ t₁.rows, c.conversationKey = k → c.state ≠ .pending) ∧
      t₁.insert? (newConfirmation id k m target ttl now) = some t' := by
  simp only [request, bind_eq_ok] at h
  obtain ⟨-, -, -, -, h⟩ := h
  cases hfound : t.rows.find? fun c => c.requestMessageId = m ∨ c.executeMessageId = some m with
  | some existing =>
    rw [hfound] at h
    simp only [bind_eq_ok] at h
    obtain ⟨-, -, h⟩ := h
    cases h
    exact .inl rfl
  | none =>
    rw [hfound] at h
    dsimp only at h
    rw [orRaise_eq_ok] at h
    refine .inr ⟨_, ?_, ?_, h⟩
    · refine Table.rewrites_updateWhere _ (fun _ _ _ => .same) fun c _ hc => ?_
      rw [decide_eq_true_eq] at hc
      exact .closes hc.2 rfl
    · intro c hc hkey hpending
      rw [Table.rows_updateWhere, List.mem_map] at hc
      obtain ⟨c₀, -, rfl⟩ := hc
      split_ifs at hkey hpending with hcond
      · cases hpending
      · exact hcond (decide_eq_true ⟨hkey, hpending⟩)

theorem cancelPending_moves (k m : String) (now : Instant) :
    t.Rewrites (Moves none none) (t.cancelPending k m now) := by
  unfold cancelPending
  cases hfound : (t.pendingOf k).filter fun c => c.requestMessageId ≠ m with
  | none => exact moves_refl _ _ t
  | some c =>
    rw [Option.filter_eq_some_iff] at hfound
    obtain ⟨hc, -, hpending⟩ := pendingOf_some hfound.1
    exact moves_update _ hc (.closes hpending rfl)

/-- All that a confirming message can do to the table. -/
theorem claimExecute_moves (k m : String) (target : Bool) (now : Instant) :
    t.Rewrites (Moves (some ⟨k, m, target, now⟩) none) (t.claimExecute k m target now).1 := by
  unfold claimExecute
  by_cases hcontext : isSha256Ref k = true ∧ m ≠ ""
  case neg =>
    rw [if_pos hcontext]
    exact moves_refl _ _ t
  rw [if_neg (not_not.mpr hcontext)]
  cases t.rows.find? fun c => c.executeMessageId = some m with
  | some replay =>
    dsimp only
    split
    · exact moves_refl _ _ t
    · cases replay.result <;> exact moves_refl _ _ t
  | none =>
    dsimp only
    split
    · exact moves_refl _ _ t
    · next hreuse =>
      cases hfound : t.pendingOf k with
      | none => exact moves_refl _ _ t
      | some c =>
        obtain ⟨hc, hkey, hpending⟩ := pendingOf_some hfound
        dsimp only
        split_ifs with hexpired htarget
        · exact moves_update (by intro _; rfl) hc (.closes hpending rfl)
        · exact moves_update (by intro _; rfl) hc (.closes hpending rfl)
        · refine moves_update (by intro _; rfl) hc (.claims rfl hpending hkey.symm
            (fun hm => hreuse ?_) (not_ne_iff.mp htarget).symm (not_le.mp hexpired))
          exact List.any_eq_true.mpr ⟨c, Table.mem_of_get? hc, decide_eq_true hm.symm⟩

theorem finishExecute_moves {id : String} {result r : ExecuteResult}
    (h : t.finishExecute id result now = .ok (t', r)) : t.Rewrites (Moves none (some id)) t' := by
  simp only [finishExecute, bind_eq_ok, orRaise_eq_ok] at h
  obtain ⟨-, -, c, hc, h⟩ := h
  split_ifs at h with hstate
  · rw [bind_eq_ok] at h
    obtain ⟨replay, -, h⟩ := h
    cases h
    exact moves_refl _ _ t
  · cases h
    obtain rfl := Table.key_of_get? hc
    exact moves_update _ hc (.finishes rfl (not_ne_iff.mp hstate))

end Confirmations

end HomeAddons.Controller
