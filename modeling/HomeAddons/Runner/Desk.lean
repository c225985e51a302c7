import HomeAddons.Runner.System

/-!
# Runner Center v2: the dispatching desk

What the calls do to the tables that dispatching is about. The desk is the Runners, the tasks,
the leases and the message log; a `Move` is one thing a transaction may do to it, and
`Desk.Step` says under which conditions a move is made and what it leaves. Credentials,
enrollments and the idempotency tables are not on the desk, and a change of a Runner that keeps
its task, its work state and its revocation is the one move `registry`.

A transaction is one move, or none; only `claim_next` and `sweep` make several.
-/

namespace HomeAddons.Runner

open HomeAddons.Common

/-- The tables of dispatching. -/
structure Desk where
  runners : Table RunnerRow.runnerId
  tasks : Table TaskRow.taskId
  leases : Table LeaseRow.leaseId
  messages : Table MessageRow.key

/-- The desk of a store. -/
def Store.desk (s : Store) : Desk := ⟨s.runners, s.tasks, s.leases, s.messages⟩

/-- The desk of a new database. -/
def Desk.empty : Desk := ⟨.empty, .empty, .empty, .empty⟩

@[simp] theorem desk_runners (s : Store) : s.desk.runners = s.runners := rfl

@[simp] theorem desk_tasks (s : Store) : s.desk.tasks = s.tasks := rfl

@[simp] theorem desk_leases (s : Store) : s.desk.leases = s.leases := rfl

@[simp] theorem desk_messages (s : Store) : s.desk.messages = s.messages := rfl

@[simp] theorem desk_event (s : Store) (t : Instant) (e : String) (r k : Option String)
    (m : Dict) : (s.event t e r k m).desk = s.desk := rfl

/-- What dispatching reads of a Runner. -/
structure Seat where
  task : Option String
  work : WorkState
  deriving DecidableEq

@[grind] def RunnerRow.seat (r : RunnerRow) : Seat := ⟨r.currentTaskId, r.workState⟩

/-- A change of a Runner that dispatching does not see: it keeps its seat, stays revoked when it
    was, and its revision does not decrease. -/
structure RunnerRow.Kept (row row' : RunnerRow) : Prop where
  seat : row'.seat = row.seat
  revoked : row.adminState = .revoked → row'.adminState = .revoked
  revision : row.revision ≤ row'.revision

/-- The `runner_id` and the `revision` are such that a request can name them. -/
def RunnerRow.Nameable (row : RunnerRow) : Prop := runnerIdRe row.runnerId ∧ 1 ≤ row.revision

theorem RunnerRow.Kept.refl (row : RunnerRow) : row.Kept row := ⟨rfl, id, le_rfl⟩

/-- A change of the registry that dispatching does not see: every Runner is kept, and a new Runner
    has an empty seat. -/
def Administered (R R' : Table RunnerRow.runnerId) : Prop :=
  ∀ r, (R.get? r = none ∧
      ∀ row', R'.get? r = some row' → row'.seat = ⟨none, .idle⟩ ∧ row'.Nameable) ∨
    ∃ row row', R.get? r = some row ∧ R'.get? r = some row' ∧ row.Kept row'

theorem Administered.refl (R : Table RunnerRow.runnerId) : Administered R R := by
  intro r
  cases hg : R.get? r with
  | none => exact .inl ⟨rfl, by simp⟩
  | some row => exact .inr ⟨row, row, rfl, rfl, .refl row⟩

/-- An update of the rows that satisfy `p`. -/
theorem Administered.updateWhere (R : Table RunnerRow.runnerId) (p : RunnerRow → Bool)
    (f : RunnerRow → RunnerRow) (hf : ∀ row, (f row).runnerId = row.runnerId)
    (h : ∀ row ∈ R.rows, p row → row.Kept (f row)) : Administered R (R.updateWhere p f hf) := by
  intro r
  rw [Table.get?_updateWhere]
  cases hg : R.get? r with
  | none => exact .inl ⟨rfl, by simp⟩
  | some row =>
    refine .inr ⟨row, if p row then f row else row, rfl, rfl, ?_⟩
    split_ifs with hp
    · exact h row (Table.mem_of_get? hg) hp
    · exact .refl row

/-- An update of the row of one Runner. -/
theorem Administered.update (R : Table RunnerRow.runnerId) (r : String) (f : RunnerRow → RunnerRow)
    (hf : ∀ row, (f row).runnerId = row.runnerId)
    (h : ∀ row, R.get? r = some row → row.Kept (f row)) : Administered R (R.update r f hf) := by
  apply Administered.updateWhere
  intro row hrow hp
  have hr : row.runnerId = r := by simpa using hp
  exact h row (hr ▸ Table.mem_rows_iff.mp hrow)

/-- An insertion of a Runner with an empty seat. -/
theorem Administered.insert {R R' : Table RunnerRow.runnerId} {row : RunnerRow}
    (h : R.insert? row = some R') (hseat : row.seat = ⟨none, .idle⟩) (hname : row.Nameable) :
    Administered R R' := by
  intro r
  rw [Table.get?_insert? h]
  split_ifs with e
  · subst e
    refine .inl ⟨Table.get?_of_insert? h, ?_⟩
    rintro _ ⟨⟩
    exact ⟨hseat, hname⟩
  · exact Administered.refl R r

@[grind =] theorem mem_sweptStates (t : TaskState) : t ∈ sweptStates ↔ t = .waitingRunner ∨
    t = .leased ∨ t = .dispatched ∨ t = .queued ∨ t = .running := by
  cases t <;> decide

/-- One thing a transaction may do to the desk. -/
inductive Move where
  /-- A change of the registry that keeps the seats and the revocations. -/
  | registry
  /-- `update_runner` sets a revoked Runner to `disabled`. -/
  | reinstate (runnerId : String)
  /-- `create_work_task`. -/
  | enqueue (taskId : String)
  /-- A waiting task runs out of time, in `claim_next` or `sweep`. -/
  | expire (taskId : String)
  /-- `claim_next`. -/
  | assign (taskId runnerId : String)
  /-- `mark_dispatched`. -/
  | mark (taskId : String)
  /-- `reschedule_undelivered`. -/
  | unsend (taskId runnerId : String)
  /-- `cancel` of a task in `awaiting_confirmation`. -/
  | dismiss (taskId : String)
  /-- `cancel` of a task that a Runner holds. -/
  | ask (taskId : String)
  /-- `cancel` of a task that no Runner holds. -/
  | withdraw (taskId : String)
  /-- `continue`. -/
  | resume (taskId runnerId : String)
  /-- `heartbeat`, with the work state it asks for. -/
  | beat (runnerId : String) (requested : WorkState)
  /-- The first transaction of a message. -/
  | record (m : Message)
  /-- The second transaction of a message. -/
  | apply (m : Message)
  /-- `resolve_task_recovery`. -/
  | resolve (taskId runnerId : String)
  /-- `emergency_disable` of a Runner whose task has been running. -/
  | hold (taskId runnerId : String)
  /-- `emergency_disable` of a Runner whose task has not been running. -/
  | evict (taskId runnerId : String)
  /-- `sweep` finds the Runner of a task that has been running lost. -/
  | strand (task : TaskRow) (runnerId : String)
  /-- `sweep` finds the Runner of a task that has not been running lost. -/
  | reclaim (task : TaskRow) (runnerId : String)

theorem StatusMessage.state_cases (m : StatusMessage) : m.state = .queued ∨ m.state = .running ∨
    m.state = .awaitingConfirmation ∨ m.state = .recoveryRequired := by
  simpa [statusStates] using m.state_mem

theorem ResultMessage.state_cases (m : ResultMessage) :
    m.state = .completed ∨ m.state = .failed ∨ m.state = .cancelled ∨ m.state = .expired ∨
      m.state = .awaitingConfirmation ∨ m.state = .recoveryRequired := by
  simpa [resultStates, terminalTaskStates] using m.state_mem

/-- The guards of `_record_message` for a message that is not in the log (lines 1899–1916). -/
def Desk.Admits (d : Desk) (m : Message) : Prop :=
  d.messages.get? m.key = none ∧ ∃ task, d.tasks.get? m.head.taskId = some task ∧
    m.head.holds task ∧ task.sequence < m.head.sequence ∧ ¬ immutableFor m.kind task.state

/-- The seat after a heartbeat. -/
@[grind] def beatenSeat (row : RunnerRow) (requested : WorkState) : Seat :=
  ⟨row.currentTaskId, heartbeatWork row requested⟩

/-- The sweep looks at a task of the Runner (lines 1826–1833). -/
@[grind] def TaskRow.SweptFrom (task : TaskRow) (runnerId : String) : Prop :=
  task.state ∈ sweptStates ∧ task.assignedRunnerId = some runnerId

/-- The moves of the desk. -/
inductive Desk.Step (d : Desk) : Move → Desk → Prop where
  | registry {R} : Administered d.runners R → Step d .registry { d with runners := R }
  | reinstate {r row f} {k : ∀ x, (f x).runnerId = x.runnerId} : d.runners.get? r = some row →
      row.adminState = .revoked → (f row).seat = row.seat → (f row).adminState = .disabled →
      row.revision ≤ (f row).revision → Step d (.reinstate r) { d with runners := d.runners.update r f k }
  | enqueue {row T} : d.tasks.insert? row = some T → row.state = .waitingRunner →
      row.assignedRunnerId = none → row.leaseId = none → row.assignmentEpoch = 0 →
      row.sequence = 0 → taskIdRe row.taskId → Step d (.enqueue row.taskId) { d with tasks := T }
  | expire {t row} (now) : d.tasks.get? t = some row → row.state = .waitingRunner →
      Step d (.expire t) { d with tasks := d.tasks.update t (expiredTask now) }
  | assign {t r task runner lease L} (now) : d.tasks.get? t = some task →
      task.state = .waitingRunner → d.runners.get? r = some runner →
      runner.seat = ⟨none, .idle⟩ → runner.adminState = .enabled → runner.archivedAt = none →
      lease.taskId = t → lease.runnerId = r → lease.assignmentEpoch = task.assignmentEpoch + 1 →
      lease.state = .active → d.leases.insert? lease = some L →
      Step d (.assign t r) { d with
        runners := d.runners.update r (busyRunner t now)
        tasks := d.tasks.update t (assignedTask lease now)
        leases := L }
  | mark {t row} (now) : d.tasks.get? t = some row →
      row.state = .leased ∨ row.state = .dispatched →
      Step d (.mark t) { d with tasks := d.tasks.update t (dispatchedTask now) }
  | unsend {t r l row lease runner} (now error) : d.tasks.get? t = some row →
      row.state = .leased ∨ row.state = .dispatched → row.everRunning = false →
      row.assignedRunnerId = some r → row.leaseId = some l → d.leases.get? l = some lease →
      lease.taskId = t → d.runners.get? r = some runner → runner.seat = ⟨some t, .busy⟩ →
      Step d (.unsend t r) { d with
        runners := d.runners.update r (unreachableRunner now)
        tasks := d.tasks.update t (requeuedTask now error none)
        leases := d.leases.updateWhere (fun l' => l'.leaseId = l ∧ l'.state = .active)
          (closedLease .released now) }
  | dismiss {t row} (now) : d.tasks.get? t = some row → row.state = .awaitingConfirmation →
      Step d (.dismiss t) { d with tasks := d.tasks.update t (dismissedTask now) }
  | ask {t row} (now) : d.tasks.get? t = some row → ¬ row.state.terminal →
      row.state ≠ .awaitingConfirmation → row.assignedRunnerId.isSome →
      Step d (.ask t) { d with tasks := d.tasks.update t (askedTask now) }
  | withdraw {t row} (now) : d.tasks.get? t = some row → ¬ row.state.terminal →
      row.state ≠ .awaitingConfirmation → row.assignedRunnerId = none →
      Step d (.withdraw t) { d with
        tasks := d.tasks.update t (withdrawnTask now)
        leases := d.leases.updateWhere (fun l => l.taskId = t ∧ l.state = .active)
          (closedLease .released now) }
  | resume {t r l row runner cfg} (now instruction) : d.tasks.get? t = some row →
      row.state.terminal ∨ row.state = .awaitingConfirmation → row.assignedRunnerId = some r →
      row.leaseId = some l → d.runners.get? r = some runner → runner.adminState = .enabled →
      Step d (.resume t r) { d with
        runners := d.runners.update r (busyRunner t now)
        tasks := d.tasks.update t (resumedTask cfg now instruction)
        leases := d.leases.update l (reopenedLease (now + seconds cfg.leaseTtlSeconds)) }
  | beat {r row f} {w : WorkState} {k : ∀ x, (f x).runnerId = x.runnerId} :
      d.runners.get? r = some row → (f row).seat = beatenSeat row w →
      (f row).adminState = row.adminState → (f row).revision = row.revision →
      Step d (.beat r w) { d with runners := d.runners.update r f k }
  | renew {r t l row task lease f} {w : WorkState} {k : ∀ x, (f x).runnerId = x.runnerId}
      (expiresAt) : d.runners.get? r = some row → (f row).seat = beatenSeat row w →
      (f row).adminState = row.adminState → (f row).revision = row.revision →
      row.currentTaskId = some t → d.tasks.get? t = some task → task.assignedRunnerId = some r → task.leaseId = some l → task.state.active →
      d.leases.get? l = some lease → lease.taskId = t → lease.state = .active →
      Step d (.beat r w) { d with
        runners := d.runners.update r f k
        tasks := d.tasks.update t (renewedTask expiresAt)
        leases := d.leases.update l (renewedLease expiresAt) }
  | record {m M} (now) : d.Admits m →
      d.messages.insert? ⟨m.key, m.head.bodyDigest, now⟩ = some M →
      Step d (.record m) { d with messages := M }
  | status {task m} (now) : d.tasks.get? m.head.taskId = some task → m.head.holds task →
      Step d (.apply (.status m)) { d with
        runners := if m.state = .recoveryRequired
          then d.runners.update m.head.runnerId (heldRunner m.head.taskId now) else d.runners
        tasks := d.tasks.update m.head.taskId (statusTask now m) }
  | result {task m} (now) : d.tasks.get? m.head.taskId = some task → m.head.holds task →
      d.runners.get? m.head.runnerId ≠ none →
      Step d (.apply (.result m)) { d with
        runners := d.runners.update m.head.runnerId (resultRunner now m)
        tasks := d.tasks.update m.head.taskId (resultTask now m)
        leases := d.leases.updateWhere (fun l => task.leaseId = some l.leaseId ∧ l.state = .active)
          (closedLease .released now) }
  | resolve {t r row runner} (now) : d.tasks.get? t = some row → row.state = .recoveryRequired →
      row.assignedRunnerId = some r → d.runners.get? r = some runner →
      runner.currentTaskId = some t ∨ runner.currentTaskId = none →
      Step d (.resolve t r) { d with
        runners := d.runners.update r (resolvedRunner now)
        tasks := d.tasks.update t (resolvedTask now)
        leases := d.leases.updateWhere (fun l => l.taskId = t ∧ l.state = .active)
          (closedLease .released now) }
  | hold {t r runner row} (now action) : d.runners.get? r = some runner →
      runner.adminState ≠ .revoked → runner.currentTaskId = some t → d.tasks.get? t = some row → row.everRunning →
      Step d (.hold t r) { d with
        runners := d.runners.update r (disabledRunner .recoveryRequired (some t) now)
        tasks := d.tasks.update t (recoveryTask action now) }
  | evict {t r runner} (now) : d.runners.get? r = some runner → runner.adminState ≠ .revoked →
      runner.currentTaskId = some t →
      (∀ row, d.tasks.get? t = some row → row.everRunning = false) →
      Step d (.evict t r) { d with
        runners := d.runners.update r (disabledRunner .idle none now)
        tasks := d.tasks.update t (withdrawnTask now)
        leases := d.leases.updateWhere (fun l => l.taskId = t ∧ l.state = .active)
          (closedLease .released now) }
  | strand {task r} (now) : d.tasks.get? task.taskId = some task → task.SweptFrom r →
      task.everRunning → d.runners.get? r ≠ none →
      Step d (.strand task r) { d with
        runners := d.runners.update r (heldRunner task.taskId now)
        tasks := d.tasks.update task.taskId (recoveryTask strandedAction now) }
  | reclaim {task r} (now) : d.tasks.get? task.taskId = some task → task.SweptFrom r →
      task.everRunning = false → d.runners.get? r ≠ none →
      Step d (.reclaim task r) { d with
        runners := d.runners.update r (freedRunner now)
        tasks := d.tasks.update task.taskId
          (fun t => requeuedTask now t.errorCode t.actionRequired t)
        leases := d.leases.updateWhere (fun l => l.taskId = task.taskId ∧ l.state = .active)
          (closedLease .expired now) }

end HomeAddons.Runner
