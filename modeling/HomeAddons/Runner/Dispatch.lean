import HomeAddons.Runner.Registry

/-!
# Runner Center v2: tasks and dispatch

Owner commands, the scheduler and the life of a lease (`runner_store.py`, lines 1095–1465 and
1936–1964): `create_work_task`, `command_task`, `claim_next`, `mark_dispatched` and
`reschedule_undelivered`. The branch `command_task` takes is a function of its own,
`commandBranch`, and the statements of each branch follow it.
-/

namespace HomeAddons.Runner

open HomeAddons.Common

/-! ## Statements -/

/-- `INSERT INTO runner_tasks`; `create_request_id` is unique. -/
def Store.insertTask (s : Store) (row : TaskRow) : Except Raise Store := do
  ensure (s.tasks.rows.all fun t => t.createRequestId ≠ row.createRequestId) .integrity
  let t ← orRaise (s.tasks.insert? row) .integrity
  return { s with tasks := t }

/-- `INSERT INTO runner_leases`; a task has at most one active lease. -/
def Store.insertLease (s : Store) (row : LeaseRow) : Except Raise Store := do
  ensure (s.leases.rows.all fun l => l.taskId ≠ row.taskId ∨ l.state ≠ LeaseState.active) .integrity
  let t ← orRaise (s.leases.insert? row) .integrity
  return { s with leases := t }

/-- `INSERT INTO runner_command_requests`. -/
def Store.insertCommand (s : Store) (row : CommandRequestRow) : Except Raise Store := do
  let t ← orRaise (s.commandRequests.insert? row) .integrity
  return { s with commandRequests := t }

/-- `SELECT * FROM runner_tasks WHERE task_id=?`, for a row the call has just written. -/
def Store.taskRow (s : Store) (taskId : String) : Except Raise TaskRow :=
  orRaise (s.tasks.get? taskId) .type

/-- `state='expired',stage='expired'`. -/
@[grind] def expiredTask (now : Instant) (t : TaskRow) : TaskRow :=
  { t with state := .expired, stage := some "expired", updatedAt := now }

/-- `UPDATE runner_tasks SET state='expired',stage='expired',updated_at=? WHERE task_id=?`. -/
def Store.expireTask (s : Store) (now : Instant) (taskId : String) : Store :=
  s.setTask taskId (expiredTask now)

/-! ## `create_work_task` -/

/-- `"RW-" + hashlib.sha256(request_id.encode("utf-8")).hexdigest()[:20].upper()`. -/
def newTaskId (requestId : String) : String :=
  "RW-" ++ String.ofList (((sha256Hex requestId).toList.take 20).map Char.toUpper)

theorem isAlphanum_toUpper_of_isLowerHex {c : Char} (h : isLowerHex c) :
    c.toUpper.isAlphanum := by
  have hc : Char.ofNat c.toNat = c := Char.ofNat_toNat c
  have hrange : (48 ≤ c.toNat ∧ c.toNat ≤ 57) ∨ (97 ≤ c.toNat ∧ c.toNat ≤ 102) := by
    simpa [isLowerHex, Char.le_def, UInt32.le_iff_toNat_le] using h
  generalize c.toNat = n at *
  subst hc
  obtain ⟨h₁, h₂⟩ | ⟨h₁, h₂⟩ := hrange <;> interval_cases n <;> decide

/-- A new `task_id` is one. -/
theorem newTaskId_taskIdRe (requestId : String) : taskIdRe (newTaskId requestId) = true := by
  rw [taskIdRe, newTaskId, matchesAfter_append]
  obtain ⟨hlen, hall⟩ := sha256Hex_chars requestId
  rw [List.all_eq_true] at hall
  have halnum : ∀ c ∈ ((sha256Hex requestId).toList.take 20).map Char.toUpper, c.isAlphanum := by
    simp only [List.mem_map, forall_exists_index, and_imp]
    rintro _ c hc rfl
    exact isAlphanum_toUpper_of_isLowerHex (hall c (List.mem_of_mem_take hc))
  have hlen' : (((sha256Hex requestId).toList.take 20).map Char.toUpper).length = 20 := by
    simp [hlen]
  generalize ((sha256Hex requestId).toList.take 20).map Char.toUpper = cs at *
  cases cs with
  | nil => cases hlen'
  | cons c cs =>
    simp only [List.length_cons, List.mem_cons, forall_eq_or_imp] at hlen' halnum
    simp only [matchesRun, isIdChar, halnum.1, Bool.true_and, Bool.and_eq_true, List.all_eq_true,
      decide_eq_true_eq]
    refine ⟨⟨fun d hd => by simp [halnum.2 d hd], by omega⟩, by omega⟩

/-- The row `create_work_task` inserts: the columns it does not name take their defaults. -/
def newTaskRow (cfg : Config) (req : StartRequest) (now : Instant) : TaskRow :=
  { taskId := newTaskId req.requestId, createRequestId := req.requestId,
    principalHash := req.principalHash, projectAlias := req.project,
    instruction := req.instruction, instructionDigest := digest (.str req.instruction),
    state := .waitingRunner, stage := none, summary := none, candidateId := none, branch := none,
    commits := [], resultHash := none, testSummary := none, changedPathCount := none,
    nextActions := [], errorCode := none, actionRequired := none, preferredRunnerId := none,
    requiredLabels := [], requiredCapabilities := [], assignedRunnerId := none,
    assignmentEpoch := 0, leaseId := none, leaseExpiresAt := none, everRunning := false,
    sequence := 0, expiresAt := now + seconds cfg.taskTtlSeconds, createdAt := now,
    updatedAt := now }

/-- `create_work_task(payload)` (lines 1095–1136); the flag says that the call was a replay. -/
def createWorkTask (cfg : Config) (s : Store) (env : Env) (payload : Dict) :
    Except Raise (Store × PublicTask × Bool) := do
  let req ← startRequest payload
  let now := env.clock 0
  match s.commandRequests.get? req.requestId with
  | some existing => do
    ensure (existing.bodyDigest = req.bodyDigest ∧ existing.operation = "start")
      (raising "idempotency_conflict" "request_id 已用于不同 Runner 命令" 409)
    let task ← s.taskRow existing.taskId
    return (s, publicTask task, true)
  | none => do
    let row := newTaskRow cfg req now
    let s ← s.insertTask row
    let s ← s.insertCommand ⟨req.requestId, "start", req.bodyDigest, row.taskId, now⟩
    let s := s.event (env.clock 1) "runner_task_created" none (some row.taskId)
      [("project_alias", .str req.project)]
    let task ← s.taskRow row.taskId
    return (s, publicTask task, false)

/-! ## `command_task` -/

/-- What `command_task` does to the task once its guards have passed. -/
inductive CommandBranch where
  /-- `status`, and `cancel` of a task that has ended. -/
  | keep
  /-- `cancel` of a task in `awaiting_confirmation`. -/
  | cancelAwaiting
  /-- `cancel` of a task that a Runner holds: the Runner is asked. -/
  | askRunner
  /-- `cancel` of a task that no Runner holds. -/
  | cancelUnassigned
  /-- `continue` with the checked instruction, on the assigned Runner under the given lease. -/
  | resume (instruction runnerId leaseId : String)

/-- `StoreError("runner_relay_unavailable", …)`. -/
def relayUnavailable : Raise :=
  raising "runner_relay_unavailable" "Runner Relay 当前不可用" 503

/-- The branch of `cancel` (lines 1175–1203). -/
def cancelBranch (task : TaskRow) (controlAvailable : Bool) : Except Raise CommandBranch :=
  if task.state.terminal then return .keep
  else if task.state = .awaitingConfirmation then return .cancelAwaiting
  else if task.assignedRunnerId.isSome then do
    ensure controlAvailable relayUnavailable
    return .askRunner
  else return .cancelUnassigned

/-- The guards of `continue` (lines 1205–1224). -/
def continueBranch (cfg : Config) (s : Store) (now : Instant) (req : CommandRequest)
    (task : TaskRow) (controlAvailable : Bool) : Except Raise CommandBranch := do
  ensure controlAvailable relayUnavailable
  let instruction ← boundedText req.instruction "instruction" 12000
  ensure (task.state.terminal ∨ task.state = .awaitingConfirmation)
    (raising "runner_task_state_conflict" "仅终态 task 可以继续" 409)
  let noSession := raising "runner_task_state_conflict" "task 没有可恢复的 Runner Session" 409
  let runnerId ← orRaise task.assignedRunnerId noSession
  let leaseId ← orRaise task.leaseId noSession
  let unavailable := raising "runner_unavailable" "原 Runner 当前不可用于继续任务" 503
  let runner ← orRaise (s.runners.get? runnerId) unavailable
  ensure (runner.adminState = .enabled ∧ connectivity cfg runner now = .online) unavailable
  return .resume instruction runnerId leaseId

/-- The task a new command addresses, and its branch (lines 1170–1224). -/
def commandBranch (cfg : Config) (s : Store) (now : Instant) (req : CommandRequest)
    (controlAvailable : Bool) : Except Raise (TaskRow × CommandBranch) := do
  let notFound := raising "runner_task_not_found" "Runner task 不存在" 404
  let task ← orRaise (s.tasks.get? req.taskId) notFound
  ensure (task.principalHash = req.principalHash) notFound
  let branch ← match req.operation with
    | .status => pure .keep
    | .cancel => cancelBranch task controlAvailable
    | .continue => continueBranch cfg s now req task controlAvailable
  return (task, branch)

/-- `cancel` in `awaiting_confirmation` (lines 1178–1182): only the task is written. -/
@[grind] def dismissedTask (now : Instant) (t : TaskRow) : TaskRow :=
  { t with
    state := .cancelled, stage := some "cancelled", actionRequired := none, updatedAt := now }

/-- `cancel` of an assigned task (lines 1187–1190). -/
@[grind] def askedTask (now : Instant) (t : TaskRow) : TaskRow :=
  { t with actionRequired := some "等待 Runner 确认取消；未知结果不得转移", updatedAt := now }

/-- `continue`: the task (lines 1226–1236). -/
@[grind] def resumedTask (cfg : Config) (now : Instant) (instruction : String) (t : TaskRow) : TaskRow :=
  { t with
    instruction := instruction, instructionDigest := digest (.str instruction),
    state := .dispatched, stage := some "continuation", summary := none, candidateId := none,
    branch := none, commits := [], resultHash := none, testSummary := none,
    changedPathCount := none, nextActions := [], errorCode := none, actionRequired := none,
    leaseExpiresAt := some (now + seconds cfg.leaseTtlSeconds),
    expiresAt := now + seconds cfg.taskTtlSeconds, updatedAt := now }

/-- `state='active',expires_at=?,released_at=NULL`. -/
@[grind] def reopenedLease (expiresAt : Instant) (l : LeaseRow) : LeaseRow :=
  { l with state := .active, expiresAt := expiresAt, releasedAt := none }

/-- `continue`: the lease (lines 1237–1240); it must stay the only active one of its task. -/
def Store.reopenLease (s : Store) (leaseId : String) (expiresAt : Instant) :
    Except Raise Store := do
  let reopened := (s.leases.get? leaseId).map (·.taskId)
  ensure (s.leases.rows.all fun l =>
    l.leaseId = leaseId ∨ some l.taskId ≠ reopened ∨ l.state ≠ .active) .integrity
  return { s with
    leases := s.leases.update leaseId (reopenedLease expiresAt) }

/-- `work_state='busy',current_task_id=?`. -/
@[grind] def busyRunner (taskId : String) (now : Instant) (r : RunnerRow) : RunnerRow :=
  { r with workState := .busy, currentTaskId := some taskId, updatedAt := now }

/-- The statements of a branch. -/
def applyBranch (cfg : Config) (s : Store) (now : Instant) (taskId : String) :
    CommandBranch → Except Raise Store
  | .keep => return s
  | .cancelAwaiting => return s.setTask taskId (dismissedTask now)
  | .askRunner => return s.setTask taskId (askedTask now)
  | .cancelUnassigned => return s.withdraw now taskId
  | .resume instruction runnerId leaseId => do
    let s := s.setTask taskId (resumedTask cfg now instruction)
    let s ← s.reopenLease leaseId (now + seconds cfg.leaseTtlSeconds)
    return s.setRunner runnerId (busyRunner taskId now)

/-- `command_task(payload, control_available=…)` (lines 1138–1249). -/
def commandTask (cfg : Config) (s : Store) (env : Env) (payload : Dict)
    (controlAvailable : Bool) : Except Raise (Store × PublicTask × Bool) := do
  let req ← commandRequest payload
  let now := env.clock 0
  match s.commandRequests.get? req.requestId with
  | some replay => do
    ensure (replay.bodyDigest = req.bodyDigest ∧ replay.operation = req.operation.text)
      (raising "idempotency_conflict" "request_id 已用于不同 Runner 命令" 409)
    let task ← s.taskRow replay.taskId
    return (s, publicTask task, true)
  | none => do
    let (_, branch) ← commandBranch cfg s now req controlAvailable
    let s ← applyBranch cfg s now req.taskId branch
    let s ← s.insertCommand
      ⟨req.requestId, req.operation.text, req.bodyDigest, req.taskId, now⟩
    let s := s.event (env.clock 1) ("runner_task_" ++ req.operation.text) none (some req.taskId) []
    let task ← s.taskRow req.taskId
    return (s, publicTask task, false)

/-! ## `claim_next` -/

/-- `ORDER BY created_at,<id>`. -/
def byCreation {ρ : Type} (createdAt : ρ → Instant) (key : ρ → String) (a b : ρ) : Prop :=
  createdAt a < createdAt b ∨ (createdAt a = createdAt b ∧ key a ≤ key b)

instance {ρ : Type} (createdAt : ρ → Instant) (key : ρ → String) :
    DecidableRel (byCreation createdAt key) := fun _ _ => by unfold byCreation; infer_instance

/-- The waiting tasks in the order of the scheduler (lines 1301–1303). -/
def waitingTasks (s : Store) : List TaskRow :=
  (s.tasks.rows.filter fun t => t.state = .waitingRunner).insertionSort
    (byCreation TaskRow.createdAt TaskRow.taskId)

/-- The free Runners in the order of the scheduler (lines 1304–1306). -/
def idleRunners (s : Store) : List RunnerRow :=
  (s.runners.rows.filter fun r => r.archivedAt = none ∧ r.adminState = .enabled ∧
      r.workState = .idle ∧ r.currentTaskId = none).insertionSort
    (byCreation RunnerRow.createdAt RunnerRow.runnerId)

/-- The conditions under which a Runner may take a task (lines 1314–1323). -/
def eligible (cfg : Config) (now : Instant) (task : TaskRow) (runner : RunnerRow) : Bool :=
  connectivity cfg runner now = .online ∧
    (task.preferredRunnerId = none ∨ task.preferredRunnerId = some runner.runnerId) ∧
    runner.allowedProjects.contains task.projectAlias ∧
    within task.requiredLabels runner.labels ∧
    within task.requiredCapabilities runner.capabilities

/-- The loop of `claim_next` (lines 1309–1328): expired tasks are written as they are met, and
    the first task with an eligible Runner is selected together with the first such Runner. -/
def selectAssignment (cfg : Config) (now : Instant) (runners : List RunnerRow) :
    List TaskRow → Store → Store × Option (TaskRow × RunnerRow)
  | [], s => (s, none)
  | task :: tasks, s =>
    if task.expiresAt ≤ now then
      selectAssignment cfg now runners tasks (s.expireTask now task.taskId)
    else
      match runners.find? (eligible cfg now task) with
      | some runner => (s, some (task, runner))
      | none => selectAssignment cfg now runners tasks s

/-- The lease of a new assignment (lines 1332–1335). -/
def newLease (cfg : Config) (now : Instant) (task : TaskRow) (runnerId leaseId : String) :
    LeaseRow :=
  { leaseId := leaseId, taskId := task.taskId, runnerId := runnerId,
    assignmentEpoch := task.assignmentEpoch + 1, state := .active, createdAt := now,
    expiresAt := now + seconds cfg.leaseTtlSeconds, releasedAt := none }

/-- The task of a new assignment (lines 1336–1339). -/
@[grind] def assignedTask (lease : LeaseRow) (now : Instant) (t : TaskRow) : TaskRow :=
  { t with
    state := .leased, stage := some "dispatch", assignedRunnerId := some lease.runnerId,
    assignmentEpoch := lease.assignmentEpoch, leaseId := some lease.leaseId,
    leaseExpiresAt := some lease.expiresAt, sequence := 1, updatedAt := now }

/-- The `source` of a request or a control document. -/
def ownerSource (principalHash : String) : Json :=
  .obj [("channel", .str "weixin"), ("principal_hash", .str principalHash), ("role", .str "owner")]

/-- A document with its `body_digest`. -/
def withDigest (document : Dict) : Dict :=
  document ++ [("body_digest", .str (digest (.obj document)))]

/-- The request document of an assignment (lines 1352–1376). -/
def requestDocument (now : Instant) (task : TaskRow) (runner : RunnerRow) : Dict :=
  let text (x : Option String) : Json := (x.map Json.str).getD .null
  let time (x : Option Instant) : Json := (x.map fun t => Json.str (isoformat t)).getD .null
  withDigest
    [("version", .int 2), ("message_type", .str "request"),
      ("runner_id", text task.assignedRunnerId), ("task_id", .str task.taskId),
      ("assignment_epoch", .int task.assignmentEpoch), ("sequence", .int 1),
      ("created_at", .str (isoformat now)), ("expires_at", time task.leaseExpiresAt),
      ("message_id", .str ("MSG-" ++ task.taskId ++ "-" ++ toString task.assignmentEpoch)),
      ("lease_id", text task.leaseId), ("lease_expires_at", time task.leaseExpiresAt),
      ("project_alias", .str task.projectAlias), ("operation", .str "start"),
      ("instruction", .str task.instruction), ("policy_revision", .int runner.policyRevision),
      ("required_labels", .arr (task.requiredLabels.map Json.str)),
      ("source", ownerSource task.principalHash),
      ("authority", .str "owner_runner_development_v2")]

/-- What `claim_next` returns for an assignment. -/
structure Assignment where
  task : PublicTask
  request : Dict

/-- `claim_next()` (lines 1296–1377). The update of the waiting task always finds its row, so the
    rollback after `total_changes < 2` is not reached. -/
def claimNext (cfg : Config) (s : Store) (env : Env) :
    Except Raise (Store × Option Assignment) := do
  let now := env.clock 0
  match selectAssignment cfg now (idleRunners s) (waitingTasks s) s with
  | (s, none) => return (s, none)
  | (s, some (task, runner)) => do
    let lease := newLease cfg now task runner.runnerId (env.fresh 0 "LS" 12)
    let s ← s.insertLease lease
    let s := s.setTask task.taskId (assignedTask lease now)
    let s := s.setRunner runner.runnerId (busyRunner task.taskId now)
    let s := s.event (env.clock 1) "runner_task_leased" (some runner.runnerId) (some task.taskId)
      [("assignment_epoch", .int (task.assignmentEpoch + 1))]
    let task ← s.taskRow task.taskId
    return (s, some ⟨publicTask task, requestDocument now task runner⟩)

/-! ## `mark_dispatched` and `reschedule_undelivered` -/

/-- `state='dispatched',stage='relay',error_code=NULL,action_required=NULL`. -/
@[grind] def dispatchedTask (now : Instant) (t : TaskRow) : TaskRow :=
  { t with
    state := .dispatched, stage := some "relay", errorCode := none, actionRequired := none,
    updatedAt := now }

/-- `mark_dispatched(task_id)` through `_set_task_stage` (lines 1379–1386, 1936–1964). -/
def markDispatched (s : Store) (env : Env) (taskId : Json) : Except Raise (Store × PublicTask) := do
  let taskId ← taskIdOf taskId
  let row ← orRaise (s.tasks.get? taskId) (raising "runner_task_not_found" "Runner task 不存在" 404)
  ensure (row.state = .leased ∨ row.state = .dispatched)
    (raising "runner_task_state_conflict" "Runner task 状态冲突" 409)
  let s := s.setTask taskId (dispatchedTask (env.clock 0))
  let task ← s.taskRow taskId
  return (s, publicTask task)

/-- The arguments of `reschedule_undelivered`. -/
structure Delivery where
  taskId : String
  runnerId : String
  assignmentEpoch : ℕ
  leaseId : String

/-- `reschedule_undelivered`, lines 1398–1407. -/
def deliveryOf (taskId runnerId epoch leaseId : Json) : Except Raise Delivery := do
  let taskId ← taskIdOf taskId
  let runnerId ← runnerIdOf runnerId
  let epoch ← orRaise (intFrom 1 epoch) (invalid "Runner assignment 无效")
  let leaseId ← orRaise (leaseId.asStr?.filter safeIdRe) (invalid "Runner assignment 无效")
  return ⟨taskId, runnerId, epoch, leaseId⟩

/-- The delivery is known not to have reached a Runner that still holds it (lines 1420–1435). -/
def undelivered (s : Store) (d : Delivery) : Bool :=
  ((s.tasks.get? d.taskId).any fun t => (t.state = .leased ∨ t.state = .dispatched) ∧
    !t.everRunning ∧ t.assignedRunnerId = some d.runnerId ∧
    t.assignmentEpoch = d.assignmentEpoch ∧ t.leaseId = some d.leaseId) ∧
  ((s.leases.get? d.leaseId).any fun l => l.taskId = d.taskId ∧ l.runnerId = d.runnerId ∧
    l.assignmentEpoch = d.assignmentEpoch ∧ l.state = LeaseState.active) ∧
  ((s.runners.get? d.runnerId).any fun r => r.currentTaskId = some d.taskId ∧ r.workState = .busy)

/-- The task goes back to the queue (lines 1445–1448 and, without the error, 1854–1857). -/
@[grind] def requeuedTask (now : Instant) (errorCode actionRequired : Option String) (t : TaskRow) :
    TaskRow :=
  { t with
    state := .waitingRunner, stage := some "reschedule", assignedRunnerId := none,
    leaseId := none, leaseExpiresAt := none, errorCode := errorCode,
    actionRequired := actionRequired, updatedAt := now }

/-- `relay_connected=0,work_state='idle',current_task_id=NULL`. -/
@[grind] def unreachableRunner (now : Instant) (r : RunnerRow) : RunnerRow :=
  { r with
    relayConnected := false, workState := .idle, currentTaskId := none, updatedAt := now }

/-- The writes of `reschedule_undelivered` (lines 1441–1452). -/
def Store.requeueUndelivered (s : Store) (now : Instant) (d : Delivery) : Store :=
  let s := { s with
    leases := s.leases.updateWhere (fun l => l.leaseId = d.leaseId ∧ l.state = LeaseState.active)
      (closedLease .released now) }
  let s := s.setTask d.taskId (requeuedTask now (some "runner_offline") none)
  s.setRunner d.runnerId (unreachableRunner now)

/-- `reschedule_undelivered(task_id, runner_id=…, assignment_epoch=…, lease_id=…)`
    (lines 1388–1465). -/
def rescheduleUndelivered (s : Store) (env : Env) (taskId runnerId epoch leaseId : Json) :
    Except Raise (Store × PublicTask) := do
  let d ← deliveryOf taskId runnerId epoch leaseId
  ensure (undelivered s d)
    (raising "runner_task_state_conflict" "Runner task 已不再满足确定性未送达重排条件" 409)
  let s := s.requeueUndelivered (env.clock 0) d
  let s := s.event (env.clock 1) "runner_task_rescheduled_undelivered" (some d.runnerId)
    (some d.taskId)
    [("assignment_epoch", .int d.assignmentEpoch), ("reason", .str "runner_offline")]
  let task ← s.taskRow d.taskId
  return (s, publicTask task)

end HomeAddons.Runner
