import HomeAddons.Common.Lex
import HomeAddons.Runner.Assignment

/-!
# Runner Center v2: what the scheduler selects

`claim_next` (`runner_store.py`, lines 1296–1377) walks the waiting tasks in their order and for
each of them the free Runners in theirs, and expires tasks on its way.

* `Matches`, `First`: the pairs the constraints allow, and the first of them.
* `claimNext_exact`: nothing is assigned exactly when no pair matches, the first pair is assigned
  otherwise, and what else is written are the overdue tasks before it.
-/

namespace HomeAddons.Runner

open HomeAddons.Common

section Creation

variable {ρ : Type} {createdAt : ρ → Instant} {key : ρ → String}

instance : Std.Total (byCreation createdAt key) := inferInstanceAs (Std.Total (LexBy createdAt key))

instance : IsTrans ρ (byCreation createdAt key) := inferInstanceAs (IsTrans ρ (LexBy createdAt key))

/-- Two rows that come before each other have one key. -/
theorem byCreation_antisymm {a b : ρ} (h : byCreation createdAt key a b)
    (h' : byCreation createdAt key b a) : key a = key b :=
  LexBy.antisymm h h'

end Creation

/-! ## Pairs -/

variable (cfg : Config) (s : Store) (now : Instant)

/-- The task is waiting and not overdue, the Runner is free and online, and the constraints of the
    task allow it (lines 1301–1323). -/
structure Matches (task : TaskRow) (runner : RunnerRow) : Prop where
  task_mem : task ∈ s.tasks.rows
  waiting : task.state = .waitingRunner
  unexpired : now < task.expiresAt
  runner_mem : runner ∈ s.runners.rows
  unarchived : runner.archivedAt = none
  enabled : runner.adminState = .enabled
  idle : runner.workState = .idle
  unassigned : runner.currentTaskId = none
  online : connectivity cfg runner now = .online
  preferred : task.preferredRunnerId = none ∨ task.preferredRunnerId = some runner.runnerId
  project : task.projectAlias ∈ runner.allowedProjects
  labels : ∀ label ∈ task.requiredLabels, label ∈ runner.labels
  capabilities : ∀ capability ∈ task.requiredCapabilities, capability ∈ runner.capabilities

/-- The first task in `(created_at, task_id)` order that has a Runner, with the first of them in
    `(created_at, runner_id)` order. -/
structure First (task : TaskRow) (runner : RunnerRow) : Prop where
  isMatch : Matches cfg s now task runner
  task_first : ∀ task' runner', Matches cfg s now task' runner' →
    byCreation TaskRow.createdAt TaskRow.taskId task task'
  runner_first : ∀ runner', Matches cfg s now task runner' →
    byCreation RunnerRow.createdAt RunnerRow.runnerId runner runner'

theorem expiredTask_taskId (t : TaskRow) : (expiredTask now t).taskId = t.taskId := rfl

/-- The store in which the overdue waiting tasks that satisfy `p` are expired. -/
def Store.expireOverdue (p : TaskRow → Bool) : Store :=
  { s with
    tasks := s.tasks.updateWhere
      (fun t => t.state = .waitingRunner ∧ t.expiresAt ≤ now ∧ p t) (expiredTask now) (expiredTask_taskId now) }

/-- The task comes before another one in the order of the scheduler. -/
def TaskRow.precedes (task other : TaskRow) : Bool :=
  byCreation TaskRow.createdAt TaskRow.taskId task other ∧ task.taskId ≠ other.taskId

/-- A lease with this identifier can be given for a task. -/
def Store.canLease (leaseId taskId : String) : Prop :=
  s.leases.get? leaseId = none ∧ ∀ l ∈ s.leases.rows, l.taskId = taskId → l.state ≠ .active

/-- The store after the assignment of a task to a Runner (lines 1331–1350), with its new lease. -/
def Store.assigned (env : Env) (lease : LeaseRow) (leases : Table LeaseRow.leaseId) : Store :=
  let s := { s with leases := leases }
  let s := s.setTask lease.taskId (assignedTask lease (env.clock 0))
  let s := s.setRunner lease.runnerId (busyRunner lease.taskId (env.clock 0))
  s.event (env.clock 1) "runner_task_leased" (some lease.runnerId) (some lease.taskId)
    [("assignment_epoch", .int lease.assignmentEpoch)]

variable {cfg s now}

variable {t task : TaskRow} {r runner : RunnerRow} {p : TaskRow → Bool}

theorem mem_waitingTasks : t ∈ waitingTasks s ↔ t ∈ s.tasks.rows ∧ t.state = .waitingRunner := by
  rw [waitingTasks, List.mem_insertionSort, List.mem_filter, decide_eq_true_eq]

theorem mem_idleRunners_iff : r ∈ idleRunners s ↔ r ∈ s.runners.rows ∧
    r.archivedAt = none ∧ r.adminState = .enabled ∧ r.workState = .idle ∧
      r.currentTaskId = none := by
  rw [idleRunners, List.mem_insertionSort, List.mem_filter, decide_eq_true_eq]

/-- The filters of the scheduler are the constraints. -/
theorem matches_iff : Matches cfg s now t r ↔
    t ∈ waitingTasks s ∧ now < t.expiresAt ∧ r ∈ idleRunners s ∧ eligible cfg now t r = true := by
  rw [mem_waitingTasks, mem_idleRunners_iff, eligible, decide_eq_true_eq, within, within,
    List.all_eq_true, List.all_eq_true, List.contains_iff_mem]
  simp only [List.contains_iff_mem]
  constructor
  · intro h
    exact ⟨⟨h.task_mem, h.waiting⟩, h.unexpired,
      ⟨h.runner_mem, h.unarchived, h.enabled, h.idle, h.unassigned⟩, h.online, h.preferred,
      h.project, h.labels, h.capabilities⟩
  · rintro ⟨⟨h₁, h₂⟩, h₃, ⟨h₄, h₅, h₆, h₇, h₈⟩, h₉, h₁₀, h₁₁, h₁₂, h₁₃⟩
    exact ⟨h₁, h₂, h₃, h₄, h₅, h₆, h₇, h₈, h₉, h₁₀, h₁₁, h₁₂, h₁₃⟩

/-! ## The walk over the tasks -/

theorem expireOverdue_congr {q : TaskRow → Bool}
    (h : ∀ t ∈ s.tasks.rows, t.state = .waitingRunner → t.expiresAt ≤ now → p t = q t) :
    s.expireOverdue now p = s.expireOverdue now q := by
  unfold Store.expireOverdue Table.updateWhere
  congr 2
  refine List.map_congr_left fun t ht => ?_
  simp only [decide_eq_true_eq]
  by_cases hdue : t.state = .waitingRunner ∧ t.expiresAt ≤ now
  · rw [h t ht hdue.1 hdue.2]
  · rw [if_neg fun hp => hdue ⟨hp.1, hp.2.1⟩, if_neg fun hq => hdue ⟨hq.1, hq.2.1⟩]

theorem expireOverdue_none (h : ∀ t, p t = false) : s.expireOverdue now p = s := by
  have hrows : s.tasks.updateWhere (fun t => t.state = .waitingRunner ∧ t.expiresAt ≤ now ∧ p t)
      (expiredTask now) = s.tasks := by
    unfold Table.updateWhere
    congr 1
    conv_rhs => rw [← List.map_id s.tasks.rows]
    refine List.map_congr_left fun t _ => ?_
    rw [if_neg, id]
    rw [decide_eq_true_eq, h t]
    exact fun hp => absurd hp.2.2 Bool.false_ne_true
  unfold Store.expireOverdue
  rw [hrows]

/-- A task that is not overdue stays as it is. -/
theorem expireOverdue_of_unexpired {taskId : String} (h : s.tasks.get? taskId = some task)
    (hunexpired : now < task.expiresAt) :
    (s.expireOverdue now p).tasks.get? taskId = some task := by
  unfold Store.expireOverdue
  rw [Table.get?_updateWhere, h, Option.map_some, if_neg]
  rw [decide_eq_true_eq]
  exact fun hdue => absurd hunexpired (not_lt.mpr hdue.2.1)

/-- An overdue task is expired, and then the others. -/
theorem expireOverdue_expireTask (hget : s.tasks.get? task.taskId = some task)
    (hw : task.state = .waitingRunner) (hdue : task.expiresAt ≤ now) {ids : List String} :
    (s.expireTask now task.taskId).expireOverdue now (fun t => ids.contains t.taskId) =
      s.expireOverdue now (fun t => (task.taskId :: ids).contains t.taskId) := by
  unfold Store.expireOverdue Store.expireTask Store.setTask Table.update Table.updateWhere
  congr 2
  rw [List.map_map]
  refine List.map_congr_left fun t ht => ?_
  simp only [Function.comp_apply, decide_eq_true_eq, List.contains_iff_mem, List.mem_cons]
  by_cases hid : t.taskId = task.taskId
  · have hsame : t = task := by
      have hrow := Table.mem_rows_iff.mp ht
      rw [hid, hget, Option.some.injEq] at hrow
      exact hrow.symm
    subst hsame
    have hexpired : (expiredTask now t).state ≠ .waitingRunner := nofun
    rw [if_pos rfl, if_neg fun h => hexpired h.1, if_pos ⟨hw, hdue, .inl rfl⟩]
  · rw [if_neg hid]
    simp only [hid, false_or]

/-- The walk stops at the first task that is not overdue and has a Runner; the overdue tasks before
    it are expired. -/
theorem selectAssignment_split (runners : List RunnerRow) {tasks : List TaskRow}
    (h : Snapshot s (fun x => x.state = .waitingRunner) tasks) :
    ∃ before after, tasks = before ++ after ∧
      (∀ x ∈ before, x.expiresAt ≤ now ∨ runners.find? (eligible cfg now x) = none) ∧
      (selectAssignment cfg now runners tasks s).1 =
        s.expireOverdue now (fun t => (before.map TaskRow.taskId).contains t.taskId) ∧
      ((after = [] ∧ (selectAssignment cfg now runners tasks s).2 = none) ∨
        ∃ task rest runner, after = task :: rest ∧ now < task.expiresAt ∧
          runners.find? (eligible cfg now task) = some runner ∧
          (selectAssignment cfg now runners tasks s).2 = some (task, runner)) := by
  induction tasks generalizing s with
  | nil =>
    refine ⟨[], [], rfl, fun _ hx => absurd hx List.not_mem_nil, ?_, .inl ⟨rfl, rfl⟩⟩
    exact (expireOverdue_none fun _ => rfl).symm
  | cons task tasks ih =>
    obtain ⟨hget, hwaiting⟩ := h.stored task List.mem_cons_self
    rw [selectAssignment]
    split_ifs with hdue
    · obtain ⟨before, after, hsplit, hbefore, hstore, hfound⟩ :=
        ih (h.tail_of_frame fun t ht => expireTask_frame s now ht)
      refine ⟨task :: before, after, by rw [hsplit, List.cons_append], fun x hx => ?_, ?_, hfound⟩
      · obtain rfl | hx := List.mem_cons.mp hx
        · exact .inl hdue
        · exact hbefore x hx
      · rw [hstore, expireOverdue_expireTask hget hwaiting hdue]
        rfl
    · split
      · next runner hrunner =>
        refine ⟨[], task :: tasks, rfl, fun _ hx => absurd hx List.not_mem_nil, ?_,
          .inr ⟨task, tasks, runner, rfl, not_le.mp hdue, hrunner, rfl⟩⟩
        exact (expireOverdue_none fun _ => rfl).symm
      · next hnone =>
        obtain ⟨before, after, hsplit, hbefore, hstore, hfound⟩ := ih h.tail
        refine ⟨task :: before, after, by rw [hsplit, List.cons_append], fun x hx => ?_, ?_, hfound⟩
        · obtain rfl | hx := List.mem_cons.mp hx
          · exact .inr hnone
          · exact hbefore x hx
        · -- The task is not overdue, so it makes no difference that it is in the list.
          rw [hstore]
          refine expireOverdue_congr fun t ht _ hexpired => ?_
          rw [List.map_cons, List.contains_cons, beq_eq_false_iff_ne.mpr, Bool.false_or]
          intro hid
          have hrow := Table.mem_rows_iff.mp ht
          rw [hid, hget, Option.some.injEq] at hrow
          exact hdue (hrow ▸ hexpired)

/-- What the walk over all waiting tasks finds. -/
theorem selectAssignment_first : (∃ task runner,
    selectAssignment cfg now (idleRunners s) (waitingTasks s) s =
      (s.expireOverdue now (fun t => t.precedes task), some (task, runner)) ∧
      First cfg s now task runner) ∨
    (selectAssignment cfg now (idleRunners s) (waitingTasks s) s =
      (s.expireOverdue now (fun _ => true), none) ∧ ¬ ∃ task runner, Matches cfg s now task runner) := by
  obtain ⟨before, after, hsplit, hbefore, hstore, hfound⟩ :=
    @selectAssignment_split cfg s now (idleRunners s) _ (waitingTasks_snapshot s)
  have hsorted := List.pairwise_insertionSort (byCreation TaskRow.createdAt TaskRow.taskId)
    (s.tasks.rows.filter fun t => t.state = .waitingRunner)
  have hnodup := (waitingTasks_snapshot s).nodup
  rw [show (s.tasks.rows.filter fun t => t.state = .waitingRunner).insertionSort
    (byCreation TaskRow.createdAt TaskRow.taskId) = waitingTasks s from rfl, hsplit,
    List.pairwise_append] at hsorted
  rw [hsplit, List.map_append, List.nodup_append] at hnodup
  -- No task before the one that is found has a Runner.
  have hskipped : ∀ t r, Matches cfg s now t r → t ∉ before := by
    intro t r hm ht
    obtain ⟨-, hunexpired, hr, heligible⟩ := matches_iff.mp hm
    obtain hdue | hnone := hbefore t ht
    · exact absurd hunexpired (not_lt.mpr hdue)
    · rw [List.find?_eq_none] at hnone
      exact hnone r hr heligible
  obtain ⟨rfl, hnone⟩ | ⟨task, rest, runner, rfl, hunexpired, hrunner, hsome⟩ := hfound
  · refine .inr ⟨Prod.ext (hstore.trans (expireOverdue_congr fun t ht hw _ => ?_)) hnone, ?_⟩
    · rw [List.append_nil] at hsplit
      rw [List.contains_iff_mem, ← hsplit]
      exact List.mem_map_of_mem (mem_waitingTasks.mpr ⟨ht, hw⟩)
    · rintro ⟨t, r, hm⟩
      refine hskipped t r hm ?_
      rw [List.append_nil] at hsplit
      rw [← hsplit]
      exact (matches_iff.mp hm).1
  · obtain ⟨hfree, heligible, hfirst⟩ := find?_insertionSort hrunner
    have htask : task ∈ waitingTasks s := by
      rw [hsplit]
      exact List.mem_append_right _ List.mem_cons_self
    have hmatch : Matches cfg s now task runner :=
      matches_iff.mpr ⟨htask, hunexpired, (List.mem_insertionSort _).mpr hfree, heligible⟩
    have hwalked : ∀ t ∈ waitingTasks s, t ∈ before ∨ t = task ∨ t ∈ rest := fun t ht => by
      rw [hsplit, List.mem_append, List.mem_cons] at ht
      exact ht
    have hafter : ∀ t ∈ rest, byCreation TaskRow.createdAt TaskRow.taskId task t :=
      (List.pairwise_cons.mp hsorted.2.1).1
    refine .inl ⟨task, runner, Prod.ext (hstore.trans (expireOverdue_congr fun t ht hw _ => ?_)) hsome,
      hmatch, fun t r hm => ?_, fun r hm => hfirst r ?_ (matches_iff.mp hm).2.2.2⟩
    · rw [Bool.eq_iff_iff, List.contains_iff_mem, TaskRow.precedes, decide_eq_true_eq]
      constructor
      · intro hid
        obtain ⟨b, hb, hbid⟩ := List.mem_map.mp hid
        have hrow := (waitingTasks_snapshot s).stored b (hsplit ▸ List.mem_append_left _ hb)
        rw [hbid, Table.mem_rows_iff.mp ht, Option.some.injEq] at hrow
        rw [hrow.1]
        exact ⟨hsorted.2.2 b hb task List.mem_cons_self, hnodup.2.2 _ (List.mem_map_of_mem hb) _
          (List.mem_map_of_mem List.mem_cons_self)⟩
      · rintro ⟨hbefore, hid⟩
        obtain ht | rfl | ht := hwalked t (mem_waitingTasks.mpr ⟨ht, hw⟩)
        · exact List.mem_map_of_mem ht
        · exact absurd rfl hid
        · exact absurd (byCreation_antisymm hbefore (hafter t ht)) hid
    · obtain ht | rfl | ht := hwalked t (matches_iff.mp hm).1
      · exact absurd ht (hskipped t r hm)
      · exact (Std.Total.total (r := byCreation TaskRow.createdAt TaskRow.taskId) t t).elim id id
      · exact hafter t ht
    · exact (List.mem_insertionSort _).mp (matches_iff.mp hm).2.2.1

/-- There is only one first pair. -/
theorem First.unique {task' : TaskRow} {runner' : RunnerRow} (h : First cfg s now task runner)
    (h' : First cfg s now task' runner') : task = task' ∧ runner = runner' := by
  have hid := byCreation_antisymm (h.task_first _ _ h'.isMatch) (h'.task_first _ _ h.isMatch)
  have hrow := Table.mem_rows_iff.mp h.isMatch.task_mem
  rw [hid, Table.mem_rows_iff.mp h'.isMatch.task_mem, Option.some.injEq] at hrow
  subst hrow
  have hrunner := byCreation_antisymm (h.runner_first _ h'.isMatch) (h'.runner_first _ h.isMatch)
  have hrow := Table.mem_rows_iff.mp h.isMatch.runner_mem
  rw [hrunner, Table.mem_rows_iff.mp h'.isMatch.runner_mem, Option.some.injEq] at hrow
  exact ⟨rfl, hrow.symm⟩

/-! ## The assignment -/

/-- A waiting task of a reachable store has no active lease. -/
theorem canLease_iff_of_reachable (h : Reachable cfg s) (ht : task ∈ s.tasks.rows)
    (hw : task.state = .waitingRunner) {leaseId : String} :
    s.canLease leaseId task.taskId ↔ s.leases.get? leaseId = none := by
  refine ⟨And.left, fun hfree => ⟨hfree, fun l hl hid hactive => ?_⟩⟩
  have hget : s.tasks.get? task.taskId = some task := Table.mem_rows_iff.mp ht
  obtain ⟨row, hrow, hlease, -⟩ := h.sound.active l.leaseId l (Table.mem_rows_iff.mp hl) hactive
  rw [hid, desk_tasks, hget, Option.some.injEq] at hrow
  subst hrow
  have hnone := (h.sound.lease_iff _ _ hget).mpr (h.sound.waiting _ _ hget hw)
  rw [hnone] at hlease
  cases hlease

theorem insert?_eq_none {κ ρ : Type} [DecidableEq κ] {key : ρ → κ} {T : Table key} {r : ρ} :
    T.insert? r = none ↔ T.get? (key r) ≠ none := by
  rw [Table.insert?, Ne, Table.get?_eq_none]
  split_ifs with h <;> simp only [h, not_true_eq_false, not_false_eq_true]

/-- The two unique indexes of the leases (a lease identifier, an active lease of a task). -/
theorem insertLease_of_canLease {row : LeaseRow} (h : s.canLease row.leaseId row.taskId) :
    ∃ leases, s.leases.insert? row = some leases ∧
      s.insertLease row = .ok { s with leases := leases } := by
  obtain ⟨hfree, hactive⟩ := h
  rcases hT : s.leases.insert? row with _ | leases
  · exact absurd hfree (insert?_eq_none.mp hT)
  · refine ⟨leases, rfl, insertLease_eq_ok.mpr ⟨fun l hl => ?_, leases, hT, rfl⟩⟩
    exact not_or_of_imp (hactive l hl)

theorem insertLease_of_not_canLease {row : LeaseRow} (h : ¬ s.canLease row.leaseId row.taskId) :
    s.insertLease row = .error .integrity := by
  rcases hs : s.insertLease row with e | s'
  · unfold Store.insertLease at hs
    simp only [bind_eq_error, ensure_eq_error, orRaise_eq_error] at hs
    obtain ⟨-, rfl⟩ | ⟨_, -, ⟨-, rfl⟩ | ⟨_, -, hs⟩⟩ := hs
    · rfl
    · rfl
    · cases hs
  · obtain ⟨hactive, T, hT, -⟩ := insertLease_eq_ok.mp hs
    exact absurd ⟨Table.get?_of_insert? hT, fun l hl hid => (hactive l hl).resolve_left (not_not.mpr hid)⟩ h

variable {env : Env}

/-- What `claim_next` does when the walk has found a pair. -/
theorem claimNext_of_first (h : First cfg s (env.clock 0) task runner)
    (hwalk : selectAssignment cfg (env.clock 0) (idleRunners s) (waitingTasks s) s =
      (s.expireOverdue (env.clock 0) fun t => t.precedes task, some (task, runner))) :
    let lease := newLease cfg (env.clock 0) task runner.runnerId (env.fresh 0 "LS" 12)
    let row := assignedTask lease (env.clock 0) task
    (s.canLease lease.leaseId task.taskId → ∃ leases, s.leases.insert? lease = some leases ∧
      claimNext cfg s env =
        .ok ((s.expireOverdue (env.clock 0) fun t => t.precedes task).assigned env lease leases,
          some ⟨publicTask row, requestDocument (env.clock 0) row runner⟩)) ∧
      (¬ s.canLease lease.leaseId task.taskId → claimNext cfg s env = .error .integrity) := by
  intro lease row
  constructor
  · intro hcan
    obtain ⟨leases, hleases, hinsert⟩ := @insertLease_of_canLease
      (s.expireOverdue (env.clock 0) fun t => t.precedes task) lease hcan
    refine ⟨leases, hleases, ?_⟩
    have hrow : ((s.expireOverdue (env.clock 0) fun t => t.precedes task).assigned env lease
        leases).taskRow task.taskId = .ok row := by
      rw [taskRow_eq_ok]
      -- The task that is found is not overdue, so it has not been expired.
      have hkept := expireOverdue_of_unexpired (p := fun t => t.precedes task)
        (Table.mem_rows_iff.mp h.isMatch.task_mem) h.isMatch.unexpired
      exact Table.get?_update_of_get? hkept (assignedTask lease (env.clock 0)) fun _ => rfl
    unfold claimNext
    simp only [hwalk]
    rw [show newLease cfg (env.clock 0) task runner.runnerId (env.fresh 0 "LS" 12) = lease from rfl,
      hinsert, ok_bind]
    show (Store.taskRow _ _ >>= _) = _
    rw [show task.taskId = lease.taskId from rfl] at hrow ⊢
    exact congrArg (· >>= _) hrow
  · intro hcan
    have hinsert := @insertLease_of_not_canLease
      (s.expireOverdue (env.clock 0) fun t => t.precedes task) lease hcan
    unfold claimNext
    simp only [hwalk]
    rw [show newLease cfg (env.clock 0) task runner.runnerId (env.fresh 0 "LS" 12) = lease from rfl,
      hinsert]
    rfl

/-- `claim_next` returns nothing exactly when no waiting task that is not overdue has a free Runner
    that satisfies its constraints, and has then expired all overdue tasks. Otherwise there is a
    first pair; it assigns that one and has expired the overdue tasks before it. It fails only where
    the new lease identifier or an active lease of the task is in its way, and in a reachable store
    no waiting task has one. -/
theorem claimNext_exact (cfg : Config) (s : Store) (env : Env) :
    ((∃ s', claimNext cfg s env = .ok (s', none)) ↔
      ¬ ∃ task runner, Matches cfg s (env.clock 0) task runner) ∧
    (∀ s', claimNext cfg s env = .ok (s', none) →
      s' = s.expireOverdue (env.clock 0) fun _ => true) ∧
    ((∃ task runner, Matches cfg s (env.clock 0) task runner) →
      ∃ task runner, First cfg s (env.clock 0) task runner) ∧
    ∀ task runner, First cfg s (env.clock 0) task runner →
      let lease := newLease cfg (env.clock 0) task runner.runnerId (env.fresh 0 "LS" 12)
      let row := assignedTask lease (env.clock 0) task
      (s.canLease lease.leaseId task.taskId → ∃ leases, s.leases.insert? lease = some leases ∧
        claimNext cfg s env =
          .ok ((s.expireOverdue (env.clock 0) fun t => t.precedes task).assigned env lease leases,
            some ⟨publicTask row, requestDocument (env.clock 0) row runner⟩)) ∧
      (¬ s.canLease lease.leaseId task.taskId → claimNext cfg s env = .error .integrity) ∧
      (Reachable cfg s →
        (s.canLease lease.leaseId task.taskId ↔ s.leases.get? lease.leaseId = none)) := by
  obtain ⟨task, runner, hwalk, hfirst⟩ | ⟨hwalk, hnone⟩ :=
    @selectAssignment_first cfg s (env.clock 0)
  · have hpair : ∃ task runner, Matches cfg s (env.clock 0) task runner := ⟨_, _, hfirst.isMatch⟩
    obtain ⟨hcan, hcannot⟩ := claimNext_of_first hfirst hwalk
    have hsome : ∀ s', claimNext cfg s env ≠ .ok (s', none) := by
      intro s' h
      by_cases hlease : s.canLease (env.fresh 0 "LS" 12) task.taskId
      · obtain ⟨_, -, hok⟩ := hcan hlease
        rw [hok] at h
        cases h
      · rw [hcannot hlease] at h
        cases h
    refine ⟨⟨fun ⟨s', h⟩ => absurd h (hsome s'), fun h => absurd hpair h⟩,
      fun s' h => absurd h (hsome s'), fun _ => ⟨task, runner, hfirst⟩, fun task' runner' h => ?_⟩
    obtain ⟨rfl, rfl⟩ := hfirst.unique h
    exact ⟨hcan, hcannot, fun hreach =>
      canLease_iff_of_reachable hreach hfirst.isMatch.task_mem hfirst.isMatch.waiting⟩
  · have hok : claimNext cfg s env = .ok (s.expireOverdue (env.clock 0) fun _ => true, none) := by
      unfold claimNext
      simp only [hwalk]
      rfl
    refine ⟨⟨fun _ => hnone, fun _ => ⟨_, hok⟩⟩, fun s' h => ?_, fun h => absurd h hnone,
      fun task runner h => absurd ⟨_, _, h.isMatch⟩ hnone⟩
    rw [hok, Except.ok.injEq, Prod.mk.injEq] at h
    exact h.1.symm

end HomeAddons.Runner
