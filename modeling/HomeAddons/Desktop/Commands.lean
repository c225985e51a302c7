import HomeAddons.Desktop.Rows

/-!
# Codex Desktop: commands and receipts

`DesktopStore.prepare_command`, `replay_command`, `active_command`, `mark_command`,
`complete_resource_command`, `ingest_receipt`, `sweep_commands` and `_recover_pending_commands`
(`desktop_store.py`, lines 427–744, 1014–1038 and 1202–1209).

A command is written down before it is published. Its state is written by the outcome of the
publishing, by receipts, by resource events, by the sweep and when the Controller starts.
-/

namespace HomeAddons.Desktop

open HomeAddons.Common
open HomeAddons.Controller (Raise raising)

/-- `RECEIPT_STATES`. -/
inductive ReceiptState where
  | accepted | confirmed | conflict | expired | failed | unknown | recoveryRequired
  deriving DecidableEq

def ReceiptState.command : ReceiptState → CommandState
  | .accepted => .accepted
  | .confirmed => .confirmed
  | .conflict => .conflict
  | .expired => .expired
  | .failed => .failed
  | .unknown => .unknown
  | .recoveryRequired => .recoveryRequired

/-- A receipt document. -/
structure ReceiptDoc where
  requestId : String
  runnerId : String
  hostRef : String
  threadRef : String
  action : Action
  state : ReceiptState
  errorCode : Option String
  threadRevision : ℕ
  turnRef : Option String
  projectRef : Option String
  collaborationModeId : Option String
  queueRef : Option String
  requestRef : Option String
  createdAt : String
  bodyDigest : String

/-- A time with a time zone, and its text. -/
structure Moment where
  instant : Instant
  text : String

/-- The row of a thread after a receipt: control is lost, or what is shown is out of date (lines
    710–739). -/
def Thread.receiptAt (t : Thread) (state : CommandState) (createdAt : String) : Thread :=
  match state with
  | .unknown | .recoveryRequired => { t with
      status := "recovery_required", controlState := "recovery_required", observedAt := createdAt }
  | .confirmed | .conflict => { t with
      controlState := "refresh_required", observedAt := createdAt }
  | _ => t

theorem Thread.receiptAt_threadRef (t : Thread) (state : CommandState) (createdAt : String) :
    (t.receiptAt state createdAt).threadRef = t.threadRef := by
  cases state <;> rfl

/-- `StoreError("desktop_request_conflict", …)`. -/
def requestConflict : Raise :=
  conflicting "desktop_request_conflict" "同一 Desktop request_id 使用了不同正文"

/-- `StoreError("desktop_command_unknown", …)`. -/
def commandUnknown (message : String) : Raise := raising "desktop_command_unknown" message 404

namespace DesktopStore

variable (s : DesktopStore)

/-! ## Commands -/

/-- `_prune_terminal_commands(connection)` (lines 1428–1438): the oldest rows that are not active
    make room for one more. -/
def pruneTerminalCommands : DesktopStore :=
  let excess := s.commands.rows.length + 1 - maxCommands
  let terminal := (s.commands.rows.filter fun c => !c.state.active).mergeSort
    fun a b => decide (a.updatedAt ≤ b.updatedAt)
  let gone := (terminal.take excess).map Command.requestId
  { s with commands := s.commands.deleteWhere fun c => gone.contains c.requestId }

/-- The row of a command that is written down. -/
def newCommand (d : CommandDoc) (intentDigest : String) : Command where
  document := d
  intentDigest := intentDigest
  state := .pending
  errorCode := none
  updatedAt := d.createdAt
  relayDeliveredAt := none
  runnerReceivedAt := none
  macConfirmedAt := none

/-- `prepare_command(command=…, intent_digest=…)` (lines 427–478); the flag says whether the
    command is new. -/
def prepareCommand (d : CommandDoc) (intentDigest : String) :
    Except Raise (DesktopStore × Command × Bool) :=
  match s.commands.get? d.requestId with
  | some c => do
    ensure (c.intentDigest = intentDigest) requestConflict
    return (s, c, false)
  | none => do
    let s₁ := if maxCommands ≤ s.commands.rows.length then s.pruneTerminalCommands else s
    ensure (s₁.commands.rows.length < maxCommands)
      (raising "desktop_command_capacity" "Desktop 命令容量已满" 507)
    ensure (¬ s₁.commands.rows.any fun c => c.document.bodyDigest = d.bodyDigest) .integrity
    let c := newCommand d intentDigest
    return ({ s₁ with commands := s₁.commands.upsert c }, c, true)

/-- `COALESCE(column, value)`. -/
def coalesce (column : Option String) (value : String) : Option String :=
  some (column.getD value)

/-- `mark_command(request_id, state=…, error_code=…, updated_at=…)` (lines 508–540). -/
def markCommand (requestId : String) (state : CommandState) (errorCode : Option String)
    (updatedAt : String) : Except Raise (DesktopStore × Command) := do
  let c ← orRaise (s.commands.get? requestId) (commandUnknown "Desktop 命令不存在")
  let delivered := if state = .submitted then coalesce c.relayDeliveredAt updatedAt
    else c.relayDeliveredAt
  let marked : Command := if c.state = .pending then
      { c with
        state := state
        errorCode := errorCode
        updatedAt := updatedAt
        relayDeliveredAt := delivered }
    else { c with relayDeliveredAt := delivered }
  return ({ s with commands := s.commands.upsert marked }, marked)

/-- `complete_resource_command(request_id, action=…, state=…, error_code=…, updated_at=…)` (lines
    542–577); `confirmed` is the state. -/
def completeResourceCommand (requestId : String) (action : Action) (confirmed : Bool)
    (errorCode : Option String) (updatedAt : String) : Except Raise (DesktopStore × Command) := do
  ensure (action.resource = true) (conflicting "desktop_action_invalid" "Desktop 资源动作无效")
  let c ← orRaise (s.commands.get? requestId) (commandUnknown "Desktop 资源请求不存在")
  ensure (c.document.action = action)
    (conflicting "desktop_identity_mismatch" "Desktop 资源结果与请求不一致")
  let completed : Command := if c.state = .pending ∨ c.state = .submitted ∨ c.state = .unknown then
      { c with
        state := if confirmed then .confirmed else .failed
        errorCode := errorCode
        updatedAt := updatedAt
        runnerReceivedAt := coalesce c.runnerReceivedAt updatedAt
        macConfirmedAt := coalesce c.macConfirmedAt updatedAt }
    else c
  return ({ s with commands := s.commands.upsert completed }, completed)

/-! ## Receipts -/

/-- `StoreError("desktop_receipt_binding_conflict", …)`. -/
def receiptBinding (message : String) : Raise :=
  conflicting "desktop_receipt_binding_conflict" message

/-- The stage of a receipt fits the last one of its request (lines 602–612). -/
def checkStage (d : ReceiptDoc) : Except Raise Unit :=
  let previous := (s.receipts.filter fun r => r.requestId = d.requestId).getLast?
  ensure (∀ r ∈ previous, r.state = .accepted ∧ d.state ≠ .accepted)
    (conflicting "desktop_receipt_conflict" "同一 Desktop request_id 收据阶段冲突")

/-- A receipt is one for the command (lines 613–663). -/
def checkReceipt (c : CommandDoc) (d : ReceiptDoc) : Except Raise Unit := do
  ensure (c.runnerId = d.runnerId ∧ c.hostRef = d.hostRef ∧ c.threadRef = d.threadRef ∧
      c.action = d.action) (receiptBinding "Desktop receipt 与命令绑定不一致")
  ensure (c.action = .collaborationModeUpdate → d.projectRef = c.projectRef)
    (receiptBinding "Desktop 计划模式收据与项目绑定不一致")
  ensure (d.collaborationModeId = c.collaborationModeId)
    (receiptBinding "Desktop 计划模式收据与命令绑定不一致")
  ensure (c.action = .queueUpdate ∨ c.action = .queueDelete ∨ c.action = .queueStart →
      d.queueRef = c.queueRef) (receiptBinding "Desktop 排队收据与命令绑定不一致")
  ensure (c.action = .respondRequest → d.requestRef = c.requestRef)
    (receiptBinding "Desktop 请求响应收据与命令绑定不一致")
  ensure (c.expectedThreadRevision ≤ d.threadRevision)
    (conflicting "desktop_receipt_revision_stale" "Desktop receipt revision 早于命令前提")

/-- The row of a command after a receipt (lines 691–709). -/
def received (c : Command) (d : ReceiptDoc) : Command := { c with
  state := d.state.command
  errorCode := d.errorCode
  updatedAt := d.createdAt
  runnerReceivedAt := if d.state = .accepted then coalesce c.runnerReceivedAt d.createdAt
    else c.runnerReceivedAt
  macConfirmedAt := if d.state = .confirmed then coalesce c.macConfirmedAt d.createdAt
    else c.macConfirmedAt }

/-- `UPDATE desktop_threads … WHERE thread_ref=? AND host_ref=? AND runner_id=?`. -/
def noteReceipt (d : ReceiptDoc) (state : CommandState) : DesktopStore :=
  let threads := s.threads.updateWhere
    (fun t => t.threadRef = d.threadRef ∧ t.hostRef = d.hostRef ∧ t.runnerId = d.runnerId)
    (fun t => t.receiptAt state d.createdAt) fun t => t.receiptAt_threadRef state d.createdAt
  { s with threads := threads }

/-- `_prune_receipts(connection)` (lines 1421–1426). -/
def pruneReceipts : DesktopStore :=
  { s with receipts := s.receipts.drop (s.receipts.length - maxReceipts) }

/-- The result of `ingest_receipt`. -/
structure ReceiptReply where
  duplicate : Bool
  orphan : Bool
  command : Option Command

/-- A receipt is written down, and what it says is done (lines 664–741). -/
def putReceipt (d : ReceiptDoc) (command : Option Command) : DesktopStore :=
  let state := if command.isSome then d.state.command else .recoveryRequired
  let s₁ : DesktopStore :=
    { s with receipts := s.receipts ++ [⟨d.requestId, state, d.bodyDigest⟩] }
  let s₂ := match command with
    | some c => { s₁ with commands := s₁.commands.upsert (received c d) }
    | none => s₁
  (s₂.noteReceipt d state).pruneReceipts

/-- `ingest_receipt(document)` (lines 579–744). -/
def ingestReceipt (d : ReceiptDoc) : Except Raise (DesktopStore × ReceiptReply) :=
  if s.receipts.any fun r => r.bodyDigest = d.bodyDigest then
    .ok (s, ⟨true, false, s.commands.get? d.requestId⟩)
  else
    match s.commands.get? d.requestId with
    | some c => do
      s.checkStage d
      checkReceipt c.document d
      return (s.putReceipt d (some c), ⟨false, false, some (received c d)⟩)
    | none => do
      s.checkStage d
      return (s.putReceipt d none, ⟨false, true, none⟩)

/-! ## Time -/

/-- The time of a command is over; a time that cannot be read is. -/
def overdue (now : Instant) (c : Command) : Bool :=
  match zonedInstant c.document.expiresAt with
  | some expiresAt => expiresAt ≤ now
  | none => true

/-- `state IN ('submitted','accepted')`, and the time is over. -/
def expired (now : Instant) (c : Command) : Bool :=
  (c.state = .submitted ∨ c.state = .accepted) ∧ overdue now c = true

/-- `sweep_commands(now=…)` (lines 1014–1038), and how many commands it marks. -/
def sweepCommands (now : Moment) : DesktopStore × ℕ :=
  let commands := s.commands.updateWhere (expired now.instant) fun c => { c with
    state := .unknown, errorCode := some "desktop_receipt_timeout", updatedAt := now.text }
  ({ s with commands := commands }, (s.commands.rows.filter (expired now.instant)).length)

/-- `_recover_pending_commands()` (lines 1202–1209), when the Controller starts. -/
def recoverPendingCommands (now : Moment) : DesktopStore :=
  let commands := s.commands.updateWhere (fun c => c.state = .pending) fun c => { c with
    state := .unknown
    errorCode := some "controller_restarted_before_delivery"
    updatedAt := now.text }
  { s with commands := commands }

end DesktopStore

end HomeAddons.Desktop
