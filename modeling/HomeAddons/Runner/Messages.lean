import HomeAddons.Runner.Registry

/-!
# Runner Center v2: messages of a Runner

`heartbeat`, `record_status` and `record_result` (`runner_store.py`, lines 928–1093, 1467–1695
and 1872–1934). A heartbeat is one transaction. A status or a result is two: `_record_message`
files it in the message log, and a second transaction, which checks the assignment again and
nothing else, writes the task. Between the two the call holds only its validated payload, a
`Message`; `recordStatus` and `recordResult` run the two back to back, and the store after the
first is kept when the second raises.
-/

namespace HomeAddons.Runner

open HomeAddons.Common

/-! ## `heartbeat` -/

/-- `StoreError("runner_assignment_stale", message)`. -/
def assignmentStale (message : String) : Raise := raising "runner_assignment_stale" message 409

/-- `StoreError("runner_policy_rejected", message)`. -/
def policyRejected (message : String) : Raise := raising "runner_policy_rejected" message 409

/-- `UPDATE runner_leases SET expires_at=?`. -/
@[grind] def renewedLease (expiresAt : Instant) (l : LeaseRow) : LeaseRow := { l with expiresAt := expiresAt }

/-- `UPDATE runner_tasks SET lease_expires_at=?`. -/
@[grind] def renewedTask (expiresAt : Instant) (t : TaskRow) : TaskRow :=
  { t with leaseExpiresAt := some expiresAt }

/-- The renewal of the lease by an online heartbeat (lines 1035–1065). -/
def renewLease (cfg : Config) (s : Store) (now : Instant) (runnerId taskId : String)
    (task : TaskRow) : Except Raise Store := do
  let stale := assignmentStale "Runner heartbeat active lease 无效"
  let leaseId ← orRaise task.leaseId stale
  ensure ((s.leases.get? leaseId).any fun l => l.taskId = taskId ∧ l.runnerId = runnerId ∧
    l.assignmentEpoch = task.assignmentEpoch ∧ l.state = LeaseState.active) stale
  let expiresAt := now + seconds cfg.leaseTtlSeconds
  let s := { s with
    leases := s.leases.update leaseId (renewedLease expiresAt) }
  return s.setTask taskId (renewedTask expiresAt)

/-- The assignment a heartbeat reports (lines 1013–1065). -/
def heartbeatAssignment (cfg : Config) (s : Store) (now : Instant) (row : RunnerRow)
    (msg : HeartbeatMessage) : Except Raise Store :=
  match msg.taskId with
  | none => do
    ensure (msg.assignmentEpoch.eqInt 0 ∧ msg.activeLeaseId.isNull)
      (assignmentStale "Runner heartbeat assignment 无效")
    return s
  | some taskId => do
    ensure (row.currentTaskId = some taskId) (assignmentStale "Runner heartbeat task 不匹配")
    let stale := assignmentStale "Runner heartbeat lease 不匹配"
    let task ← orRaise (s.tasks.get? taskId) stale
    ensure (task.assignedRunnerId = some msg.runnerId ∧
      msg.assignmentEpoch.eqInt task.assignmentEpoch ∧ msg.activeLeaseId.eqStr? task.leaseId) stale
    if msg.online ∧ task.state.active then renewLease cfg s now msg.runnerId taskId task
    else return s

/-- The work state a heartbeat leaves (lines 1066–1068). -/
@[grind] def heartbeatWork (row : RunnerRow) (requested : WorkState) : WorkState :=
  if row.currentTaskId.isSome ∧ requested = .idle then row.workState else requested

/-- The `UPDATE` of the Runner (lines 1069–1090). -/
def heartbeatRow (now : Instant) (msg : HeartbeatMessage) (agentVersion : String)
    (codexVersion : Option String) (r : RunnerRow) : RunnerRow :=
  { r with
    heartbeatSequence := msg.sequence, heartbeatDigest := some msg.bodyDigest,
    lastHeartbeatAt := if msg.online then some now else none, relayConnected := msg.online,
    protocolVersion := 2, agentVersion := some agentVersion, codexVersion := codexVersion,
    capabilities := msg.capabilities,
    selfCheck := some ⟨msg.selfCheck = "ok", none, some msg.selfCheck,
      (msg.errorCode.map Json.str).getD .null⟩,
    workState := heartbeatWork r msg.workState, updatedAt := now }

/-- The transaction of a heartbeat that is newer than the last one (lines 998–1092). -/
def heartbeatUpdate (cfg : Config) (s : Store) (now : Instant) (row : RunnerRow)
    (msg : HeartbeatMessage) : Except Raise Store := do
  ensure (within msg.projects row.allowedProjects) (policyRejected "Runner 上报项目超出白名单")
  ensure (within msg.labels row.labels) (policyRejected "Runner 上报标签超出策略")
  ensure (msg.os = row.os ∧ msg.arch = row.arch)
    (raising "runner_identity_mismatch" "Runner 平台身份不匹配" 409)
  ensure (msg.policyRevision.eqInt row.policyRevision)
    (policyRejected "Runner policy revision 已过期")
  let s ← heartbeatAssignment cfg s now row msg
  let agentVersion ← boundedText msg.agentVersion "agent_version" 64
  let codexVersion ← optionalText msg.codexVersion "codex_version" 64
  sqlInt msg.sequence
  return s.setRunner msg.runnerId (heartbeatRow now msg agentVersion codexVersion)

/-- `heartbeat(payload, credential=…)` (lines 928–1093). -/
def heartbeat (cfg : Config) (s : Store) (env : Env) (payload : Dict) (credential : Json) :
    Except Raise (Store × PublicRunner) := do
  let runnerId ← heartbeatEnvelope env payload
  verifyCredential s (.str runnerId) credential
  let msg ← heartbeatMessage payload runnerId
  let now := env.clock 1
  let row ← orRaise (s.runners.get? msg.runnerId) (raising "runner_not_found" "Runner 不存在" 404)
  ensure (row.heartbeatSequence ≤ msg.sequence)
    (raising "runner_sequence_stale" "heartbeat sequence 已过期" 409)
  if msg.sequence = row.heartbeatSequence then do
    ensure (row.heartbeatDigest = some msg.bodyDigest)
      (raising "runner_message_conflict" "同 sequence heartbeat 正文冲突" 409)
    return (s, publicRunner cfg row now)
  else do
    let s ← heartbeatUpdate cfg s now row msg
    let row ← s.runnerRow msg.runnerId
    return (s, publicRunner cfg row now)

/-! ## A status or a result between its transactions -/

/-- A validated status or result. -/
inductive Message where
  | status (m : StatusMessage)
  | result (m : ResultMessage)

namespace Message

def head : Message → MessageHead
  | .status m => m.head
  | .result m => m.head

def kind : Message → MessageKind
  | .status _ => .status
  | .result _ => .result

def state : Message → TaskState
  | .status m => m.state
  | .result m => m.state

/-- The primary key of the message in the log. -/
def key (m : Message) : MessageKey :=
  ⟨m.head.runnerId, m.head.taskId, m.kind, m.head.assignmentEpoch, m.head.sequence⟩

@[simp, grind =] theorem head_status (m : StatusMessage) : (Message.status m).head = m.head := rfl

@[simp, grind =] theorem head_result (m : ResultMessage) : (Message.result m).head = m.head := rfl

@[simp, grind =] theorem kind_status (m : StatusMessage) : (Message.status m).kind = .status := rfl

@[simp, grind =] theorem kind_result (m : ResultMessage) : (Message.result m).kind = .result := rfl

end Message

/-! ## `_record_message` -/

/-- The task row is held by the Runner, epoch and lease that the message names. -/
def MessageHead.holds (h : MessageHead) (task : TaskRow) : Bool :=
  task.assignedRunnerId = some h.runnerId ∧ task.assignmentEpoch = h.assignmentEpoch ∧
    h.leaseId.eqStr? task.leaseId

@[grind =] theorem MessageHead.holds_iff {h : MessageHead} {task : TaskRow} :
    h.holds task = true ↔ task.assignedRunnerId = some h.runnerId ∧
      task.assignmentEpoch = h.assignmentEpoch ∧ h.leaseId.eqStr? task.leaseId := by
  simp [holds]

/-- `task["state"]` refuses any later message of the kind (lines 1912–1915). -/
def immutableFor (kind : MessageKind) (state : TaskState) : Bool :=
  state = .recoveryRequired ∨
    (kind = .result ∧ (state.terminal ∨ state = .awaitingConfirmation))

@[grind =] theorem immutableFor_iff {kind : MessageKind} {state : TaskState} :
    immutableFor kind state = true ↔ state = .recoveryRequired ∨
      (kind = .result ∧ (state.terminal ∨ state = .awaitingConfirmation)) := by
  simp [immutableFor]

/-- `StoreError("runner_late_message", …)`. -/
def lateMessage : Raise :=
  raising "runner_late_message" "Runner task 已进入不可覆盖状态，迟到消息被拒绝" 409

/-- `INSERT INTO runner_messages`. -/
def Store.insertMessage (s : Store) (row : MessageRow) : Except Raise Store := do
  let t ← orRaise (s.messages.insert? row) .integrity
  return { s with messages := t }

/-- `_record_message(payload, kind=…)` (lines 1872–1922); the flag is the answer `duplicate`. -/
def recordMessage (s : Store) (now : Instant) (m : Message) : Except Raise (Store × Bool) := do
  sqlInt m.head.assignmentEpoch
  sqlInt m.head.sequence
  match s.messages.get? m.key with
  | some existing => do
    ensure (existing.bodyDigest = m.head.bodyDigest)
      (raising "runner_message_conflict" "同 epoch/sequence 正文冲突" 409)
    return (s, true)
  | none => do
    let task ← orRaise (s.tasks.get? m.head.taskId)
      (raising "runner_task_not_found" "Runner task 不存在" 404)
    ensure (m.head.holds task) (assignmentStale "Runner assignment epoch 已过期")
    ensure (task.sequence < m.head.sequence)
      (raising "runner_sequence_stale" "Runner sequence 已过期" 409)
    ensure (!immutableFor m.kind task.state) lateMessage
    let s ← s.insertMessage ⟨m.key, m.head.bodyDigest, now⟩
    return (s, false)

/-! ## The second transaction -/

/-- `_locked_assignment` (lines 1924–1934). -/
def lockedAssignment (s : Store) (h : MessageHead) : Except Raise TaskRow := do
  let task ← orRaise (s.tasks.get? h.taskId)
    (raising "runner_task_not_found" "Runner task 不存在" 404)
  ensure (h.holds task) (assignmentStale "Runner assignment epoch 已过期")
  return task

/-- The task after a status (lines 1515–1528). -/
@[grind] def statusTask (now : Instant) (m : StatusMessage) (t : TaskRow) : TaskRow :=
  { t with
    state := m.state, stage := some m.stage, candidateId := m.candidateId <|> t.candidateId,
    errorCode := m.errorCode, actionRequired := m.actionRequired,
    everRunning := m.state = .running || t.everRunning, sequence := m.head.sequence,
    updatedAt := now }

/-- `work_state='recovery_required',current_task_id=?`. -/
@[grind] def heldRunner (taskId : String) (now : Instant) (r : RunnerRow) : RunnerRow :=
  { r with workState := .recoveryRequired, currentTaskId := some taskId, updatedAt := now }

/-- The second transaction of `record_status` (lines 1511–1537). -/
def applyStatus (s : Store) (env : Env) (m : StatusMessage) : Except Raise Store := do
  let task ← lockedAssignment s m.head
  let now := env.clock 2
  let s := s.setTask m.head.taskId (statusTask now m)
  let s := if m.state = .recoveryRequired
    then s.setRunner m.head.runnerId (heldRunner m.head.taskId now) else s
  return s.event (env.clock 3) ("runner_task_" ++ m.state.text) (some m.head.runnerId)
    (some m.head.taskId) [("assignment_epoch", .int task.assignmentEpoch)]

/-- `action_required` of a result (line 1622). -/
def resultAction (state : TaskState) : Option String :=
  if state = .recoveryRequired then some "recovery_review"
  else if state = .awaitingConfirmation then some "clarification"
  else none

/-- The task after a result (lines 1607–1627). -/
@[grind] def resultTask (now : Instant) (m : ResultMessage) (t : TaskRow) : TaskRow :=
  { t with
    state := m.state, stage := some "handoff", summary := some m.summary,
    candidateId := some m.candidateId, branch := m.branch, commits := m.commits,
    resultHash := some m.resultHash, testSummary := m.testSummary,
    changedPathCount := some m.changedPathCount, nextActions := m.nextActions,
    errorCode := m.errorCode, actionRequired := resultAction m.state,
    sequence := m.head.sequence, updatedAt := now }

/-- `next_admin`: a draining Runner without a task is disabled. -/
@[grind] def drained (a : AdminState) : AdminState := if a = .draining then .disabled else a

/-- The Runner after a result (lines 1632–1640). -/
@[grind] def resultRunner (now : Instant) (m : ResultMessage) (r : RunnerRow) : RunnerRow :=
  { touchRunner now r with
    adminState := drained r.adminState
    workState := if m.state = .recoveryRequired then .recoveryRequired else .idle
    currentTaskId := if m.state = .recoveryRequired then some m.head.taskId else none }

theorem closedLease_leaseId (state : LeaseState) (now : Instant) (l : LeaseRow) :
    (closedLease state now l).leaseId = l.leaseId := rfl

/-- `UPDATE runner_leases SET state='released',… WHERE lease_id=? AND state='active'`. -/
def Store.releaseLease (s : Store) (leaseId : Option String) (now : Instant) : Store :=
  { s with
    leases := s.leases.updateWhere (fun l => leaseId = some l.leaseId ∧ l.state = .active)
      (closedLease .released now) (closedLease_leaseId .released now) }

/-- The second transaction of `record_result` (lines 1602–1640). -/
def applyResult (s : Store) (env : Env) (m : ResultMessage) : Except Raise Store := do
  let task ← lockedAssignment s m.head
  let now := env.clock 2
  let s := s.setTask m.head.taskId (resultTask now m)
  let s := s.releaseLease task.leaseId now
  let _ ← s.runnerRow m.head.runnerId
  let s := s.setRunner m.head.runnerId (resultRunner now m)
  return s.event (env.clock 3) ("runner_task_" ++ m.state.text) (some m.head.runnerId)
    (some m.head.taskId) [("candidate_present", .bool true)]

/-- The second transaction of a message. -/
def applyMessage (s : Store) (env : Env) : Message → Except Raise Store
  | .status m => applyStatus s env m
  | .result m => applyResult s env m

/-! ## The calls -/

/-- `work_task(task_id)` (lines 1697–1703), for a checked `task_id`. -/
def workTask (s : Store) (taskId : String) : Except Raise PublicTask := do
  let row ← orRaise (s.tasks.get? taskId) (raising "runner_task_not_found" "Runner task 不存在" 404)
  return publicTask row

/-- The identity of a result that `_reject_immutable_late_result` can read (lines 1651–1680). -/
def lateIdentity (payload : Dict) : Option (String × String × ℕ × String) := do
  guard ((payload.get "version").eqInt 2 ∧ (payload.get "message_type").eqStr "result")
  let runnerId ← (payload.get "runner_id").asStr?.filter runnerIdRe
  let taskId ← (payload.get "task_id").asStr?.filter taskIdRe
  let epoch ← intFrom 1 (payload.get "assignment_epoch")
  let _ ← intFrom 1 (payload.get "sequence")
  let leaseId ← (payload.get "lease_id").asStr?
  let bodyDigest ← (payload.get "body_digest").asStr?.filter sha256Re
  guard (bodyDigest = digest (.obj (payload.without "body_digest")))
  return (runnerId, taskId, epoch, leaseId)

/-- `_reject_immutable_late_result(payload, credential=…)` (lines 1643–1695). -/
def rejectImmutableLateResult (s : Store) (payload : Dict) (credential : Json) :
    Except Raise Unit :=
  match lateIdentity payload with
  | none => return ()
  | some (runnerId, taskId, epoch, leaseId) => do
    verifyCredential s (.str runnerId) credential
    ensure (!(s.tasks.get? taskId).any fun t => t.assignedRunnerId = some runnerId ∧
      t.assignmentEpoch = epoch ∧ t.leaseId = some leaseId ∧ resultStates.contains t.state)
      lateMessage

/-- `record_status` up to its first transaction (lines 1468–1508). -/
def arriveStatus (s : Store) (env : Env) (payload : Dict) (credential : Json) :
    Except Raise Message := do
  let runnerId ← statusEnvelope env payload
  verifyCredential s (.str runnerId) credential
  let m ← statusMessage payload
  return .status m

/-- `record_result` up to its first transaction (lines 1541–1600). -/
def arriveResult (s : Store) (env : Env) (payload : Dict) (credential : Json) :
    Except Raise Message := do
  rejectImmutableLateResult s payload credential
  let runnerId ← resultEnvelope env payload
  verifyCredential s (.str runnerId) credential
  let m ← resultMessage payload
  return .result m

/-- A message up to its first transaction. -/
def arrive (s : Store) (env : Env) (kind : MessageKind) (payload : Dict) (credential : Json) :
    Except Raise Message :=
  match kind with
  | .status => arriveStatus s env payload credential
  | .result => arriveResult s env payload credential

/-- The two transactions of a message, one after the other, and the answer of the call. -/
def deliver (s : Store) (env : Env) (m : Message) : Store × Except Raise PublicTask :=
  match recordMessage s (env.clock 1) m with
  | .error e => (s, .error e)
  | .ok (s, true) => (s, workTask s m.head.taskId)
  | .ok (s, false) =>
    match applyMessage s env m with
    | .error e => (s, .error e)
    | .ok s => (s, workTask s m.head.taskId)

/-- A message call: its validation and its two transactions. -/
def receive (s : Store) (env : Env) (kind : MessageKind) (payload : Dict) (credential : Json) :
    Store × Except Raise PublicTask :=
  match arrive s env kind payload credential with
  | .error e => (s, .error e)
  | .ok m => deliver s env m

/-- `record_status(payload, credential=…)` (lines 1467–1538). -/
def recordStatus (s : Store) (env : Env) (payload : Dict) (credential : Json) :
    Store × Except Raise PublicTask := receive s env .status payload credential

/-- `record_result(payload, credential=…)` (lines 1540–1641). -/
def recordResult (s : Store) (env : Env) (payload : Dict) (credential : Json) :
    Store × Except Raise PublicTask := receive s env .result payload credential

end HomeAddons.Runner
