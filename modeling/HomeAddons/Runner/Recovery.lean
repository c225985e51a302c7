import HomeAddons.Runner.Dispatch
import HomeAddons.Runner.Messages

/-!
# Runner Center v2: recovery and the sweep

`resolve_task_recovery` and `sweep` (`runner_store.py`, lines 1705–1866). The sweep reads the
tasks once and then writes task by task; it has no `ORDER BY`, so the order of its rows is an
argument of the model.
-/

namespace HomeAddons.Runner

open HomeAddons.Common

/-! ## `resolve_task_recovery` -/

/-- The `action_required` of a task that `sweep` takes to `recovery_required`. -/
def strandedAction : String := "Runner 失联且任务已运行，禁止自动转移"

/-- `conflicting_task` (lines 1744–1748). -/
def conflictingTask (s : Store) (runnerId taskId : String) : Bool :=
  s.tasks.rows.any fun t => t.assignedRunnerId = some runnerId ∧ t.taskId ≠ taskId ∧
    (t.state.active ∨ t.state = .recoveryRequired)

/-- `orphaned_recovery` (lines 1749–1755). -/
def orphanedRecovery (s : Store) (runner : RunnerRow) (task : TaskRow) : Bool :=
  runner.currentTaskId = none ∧ runner.workState = .idle ∧ task.stage = some "recovery" ∧
    task.actionRequired = some strandedAction ∧ !conflictingTask s runner.runnerId task.taskId

/-- `linked_recovery` (lines 1756–1759). -/
def linkedRecovery (runner : RunnerRow) (taskId : String) : Bool :=
  runner.currentTaskId = some taskId ∧ runner.workState = .recoveryRequired

/-- The task of a resolved recovery (lines 1767–1770). -/
@[grind] def resolvedTask (now : Instant) (t : TaskRow) : TaskRow :=
  { t with
    state := .failed, stage := some "recovery_resolved",
    errorCode := some "recovery_confirmed_failed", actionRequired := none, updatedAt := now }

/-- The Runner of a resolved recovery (lines 1775–1779). -/
@[grind] def resolvedRunner (now : Instant) (r : RunnerRow) : RunnerRow :=
  { touchRunner now r with
    adminState := drained r.adminState, workState := .idle, currentTaskId := none }

/-- The writes of `resolve_task_recovery` (lines 1767–1779). -/
def Store.resolveRecovery (s : Store) (now : Instant) (runnerId taskId : String) : Store :=
  ((s.setTask taskId (resolvedTask now)).closeLeases taskId .released now).setRunner runnerId
    (resolvedRunner now)

/-- `resolve_task_recovery(runner_id, payload)` (lines 1705–1811). -/
def resolveTaskRecovery (cfg : Config) (s : Store) (env : Env) (runnerId : Json)
    (payload : Dict) : Except Raise (Store × AdminResponse) := do
  let (req, taskId) ← recoveryRequest runnerId payload
  let now := env.clock 0
  let action := "resolve_task_recovery:" ++ taskId
  replayOr s req action fun runner => do
    let notFound := raising "runner_task_not_found" "Runner recovery task 不存在" 404
    let task ← orRaise (s.tasks.get? taskId) notFound
    ensure (task.assignedRunnerId = some req.runnerId) notFound
    ensure (task.state = .recoveryRequired ∧
        (linkedRecovery runner taskId ∨ orphanedRecovery s runner task))
      (raising "runner_task_state_conflict" "仅 recovery_required task 可以确认失败" 409)
    let s := s.resolveRecovery now req.runnerId taskId
    let s := s.event (env.clock 1) "runner_task_recovery_resolved" (some req.runnerId)
      (some taskId) [("resolution", .str "confirmed_failed")]
    let task ← s.taskRow taskId
    let runner ← s.runnerRow req.runnerId
    let response := { AdminResponse.ofRunner (publicRunner cfg runner now) with
      task := some (publicTask task), resolution := some "confirmed_failed" }
    let s ← s.saveAdminReplay (env.clock 2) req action response
    return (s, response)

/-! ## `sweep` -/

/-- The order in which a `SELECT` without `ORDER BY` returns its rows. -/
structure RowOrder where
  sort : List TaskRow → List TaskRow
  perm : ∀ rows, (sort rows).Perm rows

/-- The tasks that the sweep looks at (line 1826). -/
def sweptStates : List TaskState := [.waitingRunner, .leased, .dispatched, .queued, .running]

/-- A running task whose Runner is lost (lines 1837–1846). -/
def Store.strand (s : Store) (now : Instant) (runnerId taskId : String) : Store :=
  (s.setTask taskId (recoveryTask strandedAction now)).setRunner runnerId (heldRunner taskId now)

/-- `work_state='idle',current_task_id=NULL`. -/
@[grind] def freedRunner (now : Instant) (r : RunnerRow) : RunnerRow :=
  { r with workState := .idle, currentTaskId := none, updatedAt := now }

/-- A task that has not been running and whose Runner is lost (lines 1848–1861). -/
def Store.reclaim (s : Store) (now : Instant) (task : TaskRow) (runnerId : String) : Store :=
  ((s.closeLeases task.taskId .expired now).setTask task.taskId fun t =>
    requeuedTask now t.errorCode t.actionRequired t).setRunner runnerId (freedRunner now)

/-- The lease of a task has run out (line 1836). -/
def leaseExpired (now : Instant) (task : TaskRow) : Bool :=
  task.leaseExpiresAt.any fun t => t ≤ now

/-- One round of the sweep's loop (lines 1826–1861); `task` is the row the `SELECT` returned. -/
def sweepTask (cfg : Config) (now : Instant) (s : Store) (task : TaskRow) : Store :=
  if task.expiresAt ≤ now ∧ task.state = .waitingRunner then s.expireTask now task.taskId
  else
    match task.assignedRunnerId with
    | none => s
    | some runnerId =>
      match s.runners.get? runnerId with
      | none => s
      | some runner =>
        if connectivity cfg runner now = .offline ∧ leaseExpired now task then
          if task.everRunning then s.strand now runnerId task.taskId
          else s.reclaim now task runnerId
        else s

/-- The last statement of the sweep (lines 1862–1864): a drained Runner is disabled. -/
def Store.finishDraining (s : Store) (now : Instant) : Store :=
  { s with
    runners := s.runners.updateWhere
      (fun r => r.adminState = .draining ∧ r.currentTaskId = none)
      fun r => disabledRunner r.workState r.currentTaskId now r }

/-- `sweep()` (lines 1820–1866), with the rows in the given order. -/
def sweep (cfg : Config) (s : Store) (env : Env) (order : RowOrder) : Store :=
  let now := env.clock 0
  let rows := order.sort (s.tasks.rows.filter fun t => sweptStates.contains t.state)
  (rows.foldl (sweepTask cfg now) s).finishDraining now

end HomeAddons.Runner
