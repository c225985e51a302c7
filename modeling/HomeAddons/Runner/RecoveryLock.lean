import HomeAddons.Runner.Assignment

/-!
# Runner Center v2: the recovery lock

A Runner whose task is in `recovery_required` should be locked on that task until the owner
resolves the recovery. A heartbeat may unlock it (only the work state `idle` is ignored), and so
may every call that writes the Runner for another of its tasks; `recovery_kept` says that in a run
without such calls the lock holds from the moment a task enters recovery, that the scheduler passes
the Runner over, and that the recovery can be resolved at any time.
-/

namespace HomeAddons.Runner

open HomeAddons.Common

/-- The task is in recovery on the Runner. -/
def Desk.InRecovery (d : Desk) (t r : String) : Prop :=
  ∃ row, d.tasks.get? t = some row ∧ row.state = .recoveryRequired ∧ row.assignedRunnerId = some r

/-- The Runner is locked on the task. -/
def Desk.LockedOn (d : Desk) (r t : String) : Prop :=
  ∃ runner, d.runners.get? r = some runner ∧ runner.seat = ⟨some t, .recoveryRequired⟩

/-- Every Runner with a task in recovery is locked on it. -/
def Desk.Locked (d : Desk) : Prop := ∀ t r, d.InRecovery t r → d.LockedOn r t

/-- What a move must respect for the locks to hold. -/
def Desk.RespectsLock (d : Desk) : Move → Prop
  | .beat r w => ∀ t, d.InRecovery t r → w = .idle ∨ w = .recoveryRequired
  | .resume _ r | .strand _ r | .reclaim _ r => ∀ t, ¬ d.InRecovery t r
  | .apply (.status m) => m.state = .recoveryRequired → ∀ t, ¬ d.InRecovery t m.head.runnerId
  | .apply (.result m) => ∀ t, ¬ d.InRecovery t m.head.runnerId
  | _ => True

/-- The moves that take the task to recovery on the Runner. -/
def Move.Holds (t r : String) : Move → Prop
  | .apply m => m.state = .recoveryRequired ∧ m.head.taskId = t ∧ m.head.runnerId = r
  | .hold t' r' => t' = t ∧ r' = r
  | .strand x r' => x.taskId = t ∧ r' = r
  | _ => False

section Step

variable {d d' : Desk} {m : Move} {t r : String}

/-- A task in recovery was there before the move, or the move took it there. -/
theorem Desk.InRecovery.of_step (hs : Sound d) (h : d.Step m d') (hi : d'.InRecovery t r) :
    d.InRecovery t r ∨ m.Holds t r := by
  obtain ⟨row, hrow, hrec, hr⟩ := hi
  have hcurrent := hs.current
  unfold Desk.InRecovery
  cases h with
  | enqueue hT =>
    rw [Table.get?_insert? hT] at hrow
    grind
  | @status _ x now htask hholds =>
    rw [MessageHead.holds_iff] at hholds
    simp only [Table.get?_update_eq_some, Move.Holds] at *
    grind [Message.state]
  | @result _ x now htask hholds =>
    rw [MessageHead.holds_iff] at hholds
    simp only [Table.get?_update_eq_some, Move.Holds] at *
    grind [Message.state]
  | _ =>
    simp only [Table.get?_update_eq_some, Move.Holds] at *
    grind

/-- A lock is kept as long as the task stays in recovery. -/
theorem Desk.LockedOn.step (hl : d.LockedOn r t) (hi : d.InRecovery t r)
    (hi' : d'.InRecovery t r) (hm : d.RespectsLock m) (h : d.Step m d') : d'.LockedOn r t := by
  obtain ⟨runner, hrun, hseat⟩ := hl
  obtain ⟨row, hrow, hrec, hr⟩ := hi
  obtain ⟨row', hrow', hrec', hr'⟩ := hi'
  unfold Desk.LockedOn
  cases h with
  | registry hR =>
    obtain ⟨hnone, _⟩ | ⟨x, x', hx, hx', hkept⟩ := hR r
    · rw [hnone] at hrun
      cases hrun
    · rw [hrun] at hx
      cases hx
      exact ⟨x', hx', hkept.seat.trans hseat⟩
  | @status _ x now =>
    simp only [Desk.RespectsLock, Desk.InRecovery, not_exists, not_and] at hm
    refine ⟨runner, ?_, hseat⟩
    split_ifs with hx
    · have hne : r ≠ x.head.runnerId := by
        rintro rfl
        exact hm hx t row hrow hrec hr
      simpa [hne] using hrun
    · exact hrun
  | @result _ x =>
    simp only [Desk.RespectsLock, Desk.InRecovery, not_exists, not_and] at hm
    have hne : r ≠ x.head.runnerId := by
      rintro rfl
      exact hm t row hrow hrec hr
    exact ⟨runner, by simpa [hne] using hrun, hseat⟩
  | _ =>
    simp only [Desk.RespectsLock, Desk.InRecovery, forall_exists_index, and_imp, not_exists,
      not_and] at hm
    simp only [Table.get?_update_eq_some] at *
    grind

/-- A move that takes a task to recovery locks its Runner. -/
theorem Desk.LockedOn.of_holds (hs : Sound d) (hm : m.Holds t r) (h : d.Step m d') :
    d'.LockedOn r t := by
  unfold Desk.LockedOn
  cases h with
  | @status _ x now htask hholds =>
    obtain ⟨hrec, rfl, rfl⟩ := hm
    rw [MessageHead.holds_iff] at hholds
    obtain ⟨runner, hrun⟩ := Option.ne_none_iff_exists'.mp (hs.runner _ _ _ htask hholds.1)
    have hx : x.state = .recoveryRequired := hrec
    simp only [hx, if_true]
    exact ⟨heldRunner x.head.taskId now runner, by simp [hrun], rfl⟩
  | @result _ x now htask hholds hne =>
    obtain ⟨hrec, rfl, rfl⟩ := hm
    obtain ⟨runner, hrun⟩ := Option.ne_none_iff_exists'.mp hne
    have hx : x.state = .recoveryRequired := hrec
    exact ⟨resultRunner now x runner, by simp [hrun], by simp [RunnerRow.seat, resultRunner, hx]⟩
  | @hold _ _ runner _ now action hrun =>
    obtain ⟨rfl, rfl⟩ := hm
    exact ⟨disabledRunner .recoveryRequired (some _) now runner, by simp [hrun], rfl⟩
  | @strand task _ now _ _ _ hne =>
    obtain ⟨rfl, rfl⟩ := hm
    obtain ⟨runner, hrun⟩ := Option.ne_none_iff_exists'.mp hne
    exact ⟨heldRunner task.taskId now runner, by simp [hrun], rfl⟩
  | _ => exact hm.elim

theorem Locked.step (hs : Sound d) (hl : d.Locked) (hm : d.RespectsLock m) (h : d.Step m d') :
    d'.Locked := by
  intro t r hi'
  obtain hi | hholds := hi'.of_step hs h
  · exact (hl t r hi).step hi hi' hm h
  · exact .of_holds hs hholds h

/-- The moves that take the task out of recovery. -/
def Move.Releases (t : String) : Move → Prop
  | .resolve t' _ | .evict t' _ => t' = t
  | .apply m => m.head.taskId = t
  | _ => False

theorem Desk.InRecovery.step (hi : d.InRecovery t r) (hm : ¬ m.Releases t) (h : d.Step m d') :
    d'.InRecovery t r := by
  obtain ⟨row, hrow, hrec, hr⟩ := hi
  simp only [Move.Releases] at hm
  unfold Desk.InRecovery
  cases h with
  | enqueue hT => exact ⟨row, Table.get?_insert?_of_get? hT hrow, hrec, hr⟩
  | _ =>
    simp only [Table.get?_update_eq_some] at *
    grind

/-- What the identifiers on a desk are, and that a task in recovery has a Runner. -/
structure Desk.Addressable (d : Desk) : Prop where
  runner : ∀ r runner, d.runners.get? r = some runner → runner.Nameable
  task : ∀ t row, d.tasks.get? t = some row → taskIdRe t
  assigned : ∀ t row, d.tasks.get? t = some row → row.state = .recoveryRequired →
    row.assignedRunnerId ≠ none

theorem Addressable.runner_step (ha : d.Addressable) (h : d.Step m d') (r : String)
    (runner : RunnerRow) (hr : d'.runners.get? r = some runner) : runner.Nameable := by
  have hrunner := ha.runner
  unfold RunnerRow.Nameable at *
  cases h with
  | registry hR =>
    obtain ⟨_, hnew⟩ | ⟨x, x', hx, hx', hkept⟩ := hR r
    · exact (hnew runner hr).2
    · have hx'' := Table.key_of_get? hx
      have hr' := Table.key_of_get? hr
      have := hkept.revision
      grind
  | @reinstate r' row f k =>
    have hid := Table.key_of_get? hr
    simp only [Table.get?_update_eq_some] at *
    grind
  | @beat r' row f _ k | @renew r' _ _ row _ _ f _ k =>
    have hid := Table.key_of_get? hr
    simp only [Table.get?_update_eq_some] at *
    grind
  | status =>
    split_ifs at hr <;> simp only [Table.get?_update_eq_some] at * <;> grind
  | _ =>
    simp only [Table.get?_update_eq_some] at *
    grind

theorem Addressable.task_step (hs : Sound d) (ha : d.Addressable) (h : d.Step m d') (t : String)
    (row : TaskRow) (ht : d'.tasks.get? t = some row) :
    taskIdRe t ∧ (row.state = .recoveryRequired → row.assignedRunnerId ≠ none) := by
  have htask := ha.task
  have hassigned := ha.assigned
  have hcurrent := hs.current
  cases h with
  | enqueue hT =>
    rw [Table.get?_insert? hT] at ht
    grind
  | @status _ x now htask hholds | @result _ x now htask hholds =>
    rw [MessageHead.holds_iff] at hholds
    simp only [Table.get?_update_eq_some] at *
    grind
  | _ =>
    simp only [Table.get?_update_eq_some] at *
    grind

theorem Addressable.step (hs : Sound d) (ha : d.Addressable) (h : d.Step m d') : d'.Addressable :=
  ⟨Addressable.runner_step ha h, fun t row ht => (Addressable.task_step hs ha h t row ht).1,
    fun t row ht => (Addressable.task_step hs ha h t row ht).2⟩

theorem Addressable.empty : Desk.empty.Addressable := by
  constructor <;> simp [Desk.empty]

end Step

/-! ## The sweep -/

section Sweep

variable {cfg : Config} {s : Store} {now : Instant}

/-- The rows that a sweep is about to look at leave the locks alone: no Runner that it finds lost
    has a task in recovery, and after a task that has been running no other task of its Runner is
    found lost. -/
structure SparesLocks (cfg : Config) (s : Store) (now : Instant) (rows : List TaskRow) : Prop where
  free : ∀ x ∈ rows, ∀ r, Lost cfg s now x r → ∀ t, ¬ s.desk.InRecovery t r
  apart : rows.Pairwise fun x y => ∀ r, Lost cfg s now x r → x.everRunning → ¬ Lost cfg s now y r

variable {rows : List TaskRow}

/-- One round of the sweep spares the locks for the rounds that follow. -/
theorem SparesLocks.tail {x : TaskRow} (hs : Sound s.desk)
    (hsnap : Snapshot s (fun x => x.state ∈ sweptStates) (x :: rows))
    (h : SparesLocks cfg s now (x :: rows)) : SparesLocks cfg (sweepTask cfg now s x) now rows := by
  have hlost : ∀ y ∈ rows, ∀ r, Lost cfg (sweepTask cfg now s x) now y r → Lost cfg s now y r :=
    fun y hy r hl => hl.of_link (hsnap.tail.stored y hy).1 sweepTask_link
  obtain ⟨hhead, htail⟩ := List.pairwise_cons.mp h.apart
  constructor
  · intro y hy r hl t hi
    have hl := hlost y hy r hl
    obtain ⟨hget, hstate⟩ := hsnap.stored x List.mem_cons_self
    have hbefore : ¬ s.desk.InRecovery t r := h.free y (List.mem_cons_of_mem _ hy) r hl t
    obtain ⟨_, hsame | ⟨m, _, hstep, hm⟩⟩ := sweepTask_moves cfg now hget hstate
    · exact hbefore (hsame ▸ hi)
    · obtain hi | hholds := hi.of_step hs hstep
      · exact hbefore hi
      · obtain ⟨_, rfl⟩ | ⟨r', hx, ⟨rfl, hever⟩ | ⟨rfl, _⟩⟩ := hm
        · exact hholds
        · obtain ⟨_, rfl⟩ := hholds
          exact hhead y hy r' hx hever hl
        · exact hholds
  · exact htail.imp_of_mem fun hx hy hxy r hl hever hl' =>
      hxy r (hlost _ hx r hl) hever (hlost _ hy r hl')

theorem Locked.sweepRows (hsnap : Snapshot s (fun x => x.state ∈ sweptStates) rows)
    (hs : Sound s.desk) (hl : s.desk.Locked) (hspares : SparesLocks cfg s now rows) :
    Sound (rows.foldl (sweepTask cfg now) s).desk ∧
      (rows.foldl (sweepTask cfg now) s).desk.Locked := by
  induction rows generalizing s with
  | nil => exact ⟨hs, hl⟩
  | cons x rows ih =>
    rw [List.foldl_cons]
    obtain ⟨hget, hstate⟩ := hsnap.stored x List.mem_cons_self
    have hnext : Sound (sweepTask cfg now s x).desk ∧ (sweepTask cfg now s x).desk.Locked := by
      obtain ⟨_, hsame | ⟨m, _, hstep, hm⟩⟩ := sweepTask_moves cfg now hget hstate
      · rw [hsame]
        exact ⟨hs, hl⟩
      · refine ⟨hs.step hstep, Locked.step hs hl ?_ hstep⟩
        obtain ⟨_, rfl⟩ | ⟨r, hx, ⟨rfl, _⟩ | ⟨rfl, _⟩⟩ := hm
        · trivial
        · exact hspares.free x List.mem_cons_self r hx
        · exact hspares.free x List.mem_cons_self r hx
    exact ih (hsnap.tail_of_frame fun t ht => sweepTask_frame ht) hnext.1 hnext.2
      (hspares.tail hs hsnap)

/-- The rows of a sweep, in its order. -/
def sweptRows (s : Store) (order : RowOrder) : List TaskRow :=
  order.sort (s.tasks.rows.filter fun t => sweptStates.contains t.state)

theorem sweptRows_snapshot (s : Store) (order : RowOrder) :
    Snapshot s (fun x => x.state ∈ sweptStates) (sweptRows s order) := by
  have h := snapshot_of_perm (s := s)
    (order.perm (s.tasks.rows.filter fun t => sweptStates.contains t.state))
  exact ⟨fun x hx => ⟨(h.stored x hx).1, by simpa using (h.stored x hx).2⟩, h.nodup⟩

theorem Locked.sweep {env : Env} {order : RowOrder} (hs : Sound s.desk) (hl : s.desk.Locked)
    (hspares : SparesLocks cfg s (env.clock 0) (sweptRows s order)) :
    (Runner.sweep cfg s env order).desk.Locked := by
  obtain ⟨hs', hl'⟩ := Locked.sweepRows (sweptRows_snapshot s order) hs hl hspares
  exact Locked.step (m := .registry) hs' hl' trivial (finishDraining_moves _ _)

end Sweep

/-! ## Runs -/

section Calls

variable {cfg : Config} {s : Store} {c : Call}

/-- A call that respects the locks of the store it finds. -/
structure Call.KeepsRecovery (cfg : Config) (s : Store) (c : Call) : Prop where
  /-- A heartbeat of a Runner with a task in recovery asks for `idle` or `recovery_required`. -/
  beat : ∀ command row msg t, c = .command command → command.Beats cfg s row msg →
    s.desk.InRecovery t row.runnerId → msg.workState = .idle ∨ msg.workState = .recoveryRequired
  /-- `continue` finds no task in recovery on its Runner. -/
  resume : ∀ command t r, c = .command command → command.Continues cfg s t r →
    ∀ t', ¬ s.desk.InRecovery t' r
  /-- `emergency_disable` finds that a task in recovery has been running. -/
  stop : ∀ command row t, c = .command command → command.Stops s row →
    row.currentTaskId = some t → s.desk.InRecovery t row.runnerId → s.hasRun t
  /-- A result, or a `recovery_required` status, that passes its guards finds no task in recovery
      on its Runner. -/
  message : ∀ m, c.Admits s m → m.kind = .result ∨ m.state = .recoveryRequired →
    ∀ t, ¬ s.desk.InRecovery t m.head.runnerId
  /-- The rows of a sweep spare the locks. -/
  sweep : ∀ env order, c = .command (.sweep env order) →
    SparesLocks cfg s (env.clock 0) (sweptRows s order)

theorem Call.KeepsRecovery.keeps (hs : Sound s.desk) (hl : s.desk.Locked)
    (hc : c.KeepsRecovery cfg s) : (c.step cfg s).desk.Locked := by
  have hstep : ∀ d m d', Sound d ∧ d.Locked → d.RespectsLock m → d.Step m d' →
      Sound d' ∧ d'.Locked := fun _ _ _ hd hm h => ⟨hd.1.step h, Locked.step hd.1 hd.2 hm h⟩
  cases c with
  | command command =>
    by_cases hsweep : ∃ env order, command = .sweep env order
    · obtain ⟨env, order, rfl⟩ := hsweep
      exact Locked.sweep hs hl (hc.sweep env order rfl)
    · have hlost : ∀ x r, ¬ command.Loses cfg s x r := by
        rintro x r ⟨env, order, rfl, _⟩
        exact hsweep ⟨env, order, rfl⟩
      refine (Command.keeps (G := Desk.RespectsLock) hstep ?_ ?_ ⟨hs, hl⟩).2
      · intro m hm
        cases m with
        | beat r w =>
          obtain ⟨row, msg, hbeats, rfl, rfl⟩ := hm
          exact fun t ht => hc.beat command row msg t rfl hbeats ht
        | resume t r => exact hc.resume command t r rfl hm
        | strand x r | reclaim x r => exact absurd hm.1 (hlost x r)
        | apply m => exact hm.elim
        | _ => trivial
      · intro d m hsched hm
        cases m with
        | strand x r | reclaim x r => exact absurd hm.1 (hlost x r)
        | beat | resume | apply => exact hsched.elim
        | _ => trivial
  | message kind env payload credential =>
    refine (Call.keeps_message (G := Desk.RespectsLock) hstep rfl (fun _ _ => trivial) ?_
      ⟨hs, hl⟩).2
    intro m M hm
    cases m with
    | status m => exact fun hx => hc.message _ hm (.inr hx)
    | result m => exact hc.message _ hm (.inl rfl)

/-- A `resolve_task_recovery` of the task that succeeds. -/
def Call.ResolvesRecovery (cfg : Config) (s : Store) (c : Call) (t : String) : Prop :=
  ∃ env runnerId payload req s' x, c = .command (.resolveTaskRecovery env runnerId payload) ∧
    recoveryRequest runnerId payload = .ok (req, t) ∧
    resolveTaskRecovery cfg s env runnerId payload = .ok (s', x)

variable {t r : String} {row : TaskRow}

/-- A call that respects the locks takes a task out of recovery only by resolving it. -/
theorem Call.KeepsRecovery.stays (hs : Sound s.desk) (hc : c.KeepsRecovery cfg s)
    (hi : s.desk.InRecovery t r) (hres : ¬ c.ResolvesRecovery cfg s t) :
    (c.step cfg s).desk.InRecovery t r := by
  have hstep : ∀ (d : Desk) m d', d.InRecovery t r → ¬ m.Releases t → d.Step m d' →
      d'.InRecovery t r := fun _ _ _ hd hm h => hd.step hm h
  obtain ⟨row, hrow, hrec, hr⟩ := id hi
  cases c with
  | command command =>
    cases hexec : command.exec cfg s with
    | error e => simpa [Call.step, Command.step, hexec] using hi
    | ok s' =>
      refine Command.keeps (G := fun _ m => ¬ m.Releases t) hstep ?_ ?_ hi
      · intro m hm hrel
        cases m with
        | resolve t' r' =>
          obtain ⟨env, runnerId, payload, req, rfl, hreq, _⟩ := hm
          simp only [Command.exec, except_map_eq_ok] at hexec
          obtain ⟨x, hx, rfl⟩ := hexec
          exact hres ⟨env, runnerId, payload, req, x.1, x.2, rfl, hrel ▸ hreq, hx⟩
        | evict t' r' =>
          obtain ⟨runner, hstops, rfl, hcur, hrun⟩ := hm
          obtain rfl : t' = t := hrel
          obtain ⟨row', hrow', hassigned⟩ := hs.current _ _ _ (hstops.step cfg).1 hcur
          rw [hrow] at hrow'
          cases hrow'
          exact hrun (hc.stop command runner t' rfl hstops hcur ⟨row, hrow, hrec, hassigned⟩)
        | apply => exact hm.elim
        | _ => exact hrel
      · intro d m hsched _ hrel
        cases m with
        | resolve | evict | apply => exact hsched.elim
        | _ => exact hrel
  | message kind env payload credential =>
    refine Call.keeps_message (G := fun _ m => ¬ m.Releases t) hstep rfl (fun _ _ => id) ?_ hi
    intro m M hm hrel
    obtain ⟨_, _, _, _, _, _, _, _, task, htask, _, _, him⟩ := hm
    rw [show m.head.taskId = t from hrel] at htask
    rw [hrow] at htask
    cases htask
    exact him (immutableFor_iff.mpr (.inl hrec))

/-! ## What a lock means -/

/-- A task in recovery holds its Runner, the scheduler passes the Runner over, and the owner can
    resolve the recovery. -/
structure HeldForRecovery (cfg : Config) (s : Store) (t r : String) (runner : RunnerRow) :
    Prop where
  runner_get : s.runners.get? r = some runner
  current : runner.currentTaskId = some t
  work : runner.workState = .recoveryRequired
  unclaimed : ∀ env s' a, claimNext cfg s env = .ok (s', some a) →
    a.task.assignedRunnerId ≠ some r
  /-- Every valid request under the current revision and with a fresh `request_id` succeeds. -/
  resolvable : ∀ env runnerId payload req, recoveryRequest runnerId payload = .ok (req, t) →
    req.runnerId = r → req.revision = runner.revision →
    s.adminRequests.get? req.requestId = none →
    ∃ s' x, resolveTaskRecovery cfg s env runnerId payload = .ok (s', x)
  /-- There is a valid request under the current revision with every `request_id`. -/
  request : ∀ q, requestIdRe q → ∃ payload req,
    recoveryRequest (.str r) payload = .ok (req, t) ∧ req.runnerId = r ∧
      req.revision = runner.revision ∧ req.requestId = q

/-- The guards of `resolve_task_recovery` pass for a locked Runner. -/
theorem resolveTaskRecovery_of_locked {env : Env} {runnerId : Json} {payload : Dict}
    {req : AdminRequest} {runner : RunnerRow}
    (hreq : recoveryRequest runnerId payload = .ok (req, t))
    (hnew : s.adminRequests.get? req.requestId = none) (ht : s.tasks.get? t = some row)
    (hrec : row.state = .recoveryRequired) (hr : row.assignedRunnerId = some req.runnerId)
    (hrun : s.runners.get? req.runnerId = some runner) (hrev : req.revision = runner.revision)
    (hseat : runner.seat = ⟨some t, .recoveryRequired⟩) :
    ∃ s' x, resolveTaskRecovery cfg s env runnerId payload = .ok (s', x) := by
  have hlinked : linkedRecovery runner t = true := by
    simp only [RunnerRow.seat, Seat.mk.injEq] at hseat
    simp [linkedRecovery, hseat]
  have hlocked : lockedRunner s req.runnerId req.revision = .ok runner :=
    lockedRunner_eq_ok.mpr ⟨hrun, hrev.symm⟩
  set s₁ := (s.resolveRecovery (env.clock 0) req.runnerId t).event (env.clock 1)
    "runner_task_recovery_resolved" (some req.runnerId) (some t)
    [("resolution", .str "confirmed_failed")] with hs₁
  have htask₁ : s₁.taskRow t = .ok (resolvedTask (env.clock 0) row) := by
    simp [hs₁, Store.taskRow, Store.event, Store.resolveRecovery, Store.setRunner,
      Store.closeLeases, Store.setTask, ht]
  have hrun₁ : s₁.runnerRow req.runnerId = .ok (resolvedRunner (env.clock 0) runner) := by
    simp [hs₁, Store.runnerRow, Store.event, Store.resolveRecovery, Store.setRunner,
      Store.closeLeases, Store.setTask, hrun]
  have hnew₁ : s₁.adminRequests.get? req.requestId = none := hnew
  choose f hf _ using saveAdminReplay_of_new hnew₁
  simp only [resolveTaskRecovery, hreq, ok_bind, replayOr, adminReplay_eq_none.mpr hnew, hlocked,
    ht, orRaise_some, ensure_bind_of hr, ensure_bind_of (And.intro hrec (Or.inl hlinked)), ← hs₁,
    htask₁, hrun₁, hf]
  exact ⟨_, _, rfl⟩

/-- A request to resolve the recovery of the task. -/
def recoveryPayload (t : String) (revision : ℕ) (q : String) : Dict :=
  [("task_id", .str t), ("resolution", .str "confirmed_failed"), ("revision", .int revision),
    ("request_id", .str q)]

theorem recoveryRequest_payload {q : String} {revision : ℕ} (hr : runnerIdRe r) (ht : taskIdRe t)
    (hrev : 1 ≤ revision) (hq : requestIdRe q) :
    recoveryRequest (.str r) (recoveryPayload t revision q) =
      .ok (⟨r, revision, q, digest (.obj (recoveryPayload t revision q))⟩, t) := by
  have hkeys : (recoveryPayload t revision q).keysAre
      ["task_id", "resolution", "revision", "request_id"] = true := rfl
  have hresolution : ((recoveryPayload t revision q).get "resolution").eqStr
      "confirmed_failed" = true := rfl
  have htask : (recoveryPayload t revision q).get "task_id" = .str t := rfl
  have hrevision : (recoveryPayload t revision q).get "revision" = .int revision := rfl
  have hrequest : (recoveryPayload t revision q).get "request_id" = .str q := rfl
  have hint : intFrom 1 (.int revision) = some ⟨revision, hrev⟩ := intFrom_eq_some.mpr rfl
  simp only [recoveryRequest, hkeys, hresolution, htask, hrevision, hrequest, runnerIdOf, taskIdOf,
    requestIdOf, revisionOf, Json.asStr?, Option.filter_some, hr, ht, hq, hint, if_true,
    orRaise_some, ok_bind, ensure_bind_of (And.intro trivial trivial)]
  rfl

theorem HeldForRecovery.of_locked (hl : s.desk.Locked) (ha : s.desk.Addressable)
    (ht : s.tasks.get? t = some row) (hrec : row.state = .recoveryRequired) :
    ∃ r runner, row.assignedRunnerId = some r ∧ HeldForRecovery cfg s t r runner := by
  obtain ⟨r, hr⟩ := Option.ne_none_iff_exists'.mp (ha.assigned t row ht hrec)
  obtain ⟨runner, hrun, hseat⟩ := hl t r ⟨row, ht, hrec, hr⟩
  obtain ⟨hid, hrev⟩ := ha.runner r runner hrun
  have hkey : runner.runnerId = r := Table.key_of_get? hrun
  have hseat' := hseat
  simp only [RunnerRow.seat, Seat.mk.injEq] at hseat'
  refine ⟨r, runner, hr, hrun, hseat'.1, hseat'.2, ?_, ?_, ?_⟩
  · intro env s' a hclaim he
    obtain ⟨other, hother, _, hfree, hassigned⟩ := claimNext_runner hclaim
    have hsame : other.runnerId = r := Option.some.inj (hassigned.symm.trans he)
    rw [hsame, show s.runners.get? r = some runner from hrun] at hother
    cases hother
    rw [hseat] at hfree
    cases hfree
  · rintro env runnerId payload req hreq rfl hrevision hnew
    exact resolveTaskRecovery_of_locked hreq hnew ht hrec hr hrun hrevision hseat
  · intro q hq
    exact ⟨_, _, recoveryRequest_payload (hkey ▸ hid) (ha.task t row ht) hrev hq, rfl, rfl, rfl⟩

/-- In a run of calls from the empty store that respect the locks, every task in recovery is held
    for its recovery by its Runner in every state, and leaves it only by a successful
    `resolve_task_recovery`. -/
theorem recovery_kept (cfg : Config) (calls : List Call)
    (h : EveryStep (Call.step cfg) (fun s c => c.KeepsRecovery cfg s) Store.empty calls) :
    Throughout (Call.step cfg) (fun s => ∀ t row, s.tasks.get? t = some row →
        row.state = .recoveryRequired →
        ∃ r runner, row.assignedRunnerId = some r ∧ HeldForRecovery cfg s t r runner)
      Store.empty calls ∧
    EveryStep (Call.step cfg) (fun s c => ∀ t r, s.desk.InRecovery t r →
        ¬ c.ResolvesRecovery cfg s t → (c.step cfg s).desk.InRecovery t r) Store.empty calls := by
  have hstep : ∀ (s : Store) (c : Call), Sound s.desk ∧ s.desk.Locked ∧ s.desk.Addressable →
      c.KeepsRecovery cfg s →
      Sound (c.step cfg s).desk ∧ (c.step cfg s).desk.Locked ∧ (c.step cfg s).desk.Addressable := by
    rintro s c ⟨hs, hl, ha⟩ hc
    obtain ⟨hs', ha'⟩ := Call.keeps (I := fun d => Sound d ∧ d.Addressable)
      (fun _ _ _ hd hm => ⟨hd.1.step hm, Addressable.step hd.1 hd.2 hm⟩) c ⟨hs, ha⟩
    exact ⟨hs', hc.keeps hs hl, ha'⟩
  have h₀ : Sound Store.empty.desk ∧ Store.empty.desk.Locked ∧ Store.empty.desk.Addressable := by
    refine ⟨Sound.empty, ?_, Addressable.empty⟩
    rintro t r ⟨row, hrow, _⟩
    cases hrow
  constructor
  · refine (throughout_of_everyStep (Call.step cfg) hstep h₀ h).imp (Call.step cfg) ?_
    rintro s ⟨_, hl, ha⟩ t row ht hrec
    exact HeldForRecovery.of_locked hl ha ht hrec
  · exact EveryStep.imp (Call.step cfg) hstep (fun s c hs hc t r hi => hc.stays hs.1 hi) h₀ h

/-- A command that neither stops a Runner nor sweeps takes no task to recovery. -/
def Command.Harmless : Command → Prop
  | .adminAction .. | .sweep .. => False
  | _ => True

/-- On a desk without tasks in recovery every harmless command respects the locks, and there are
    none after it. -/
theorem Command.Harmless.keepsRecovery {c : Command} (hc : c.Harmless) (cfg : Config)
    (hs : Sound s.desk) (hnone : ∀ t r, ¬ s.desk.InRecovery t r) : (Call.command c).KeepsRecovery cfg s ∧
      Sound (c.step cfg s).desk ∧ ∀ t r, ¬ (c.step cfg s).desk.InRecovery t r := by
  constructor
  · refine ⟨fun _ _ _ t _ _ h => absurd h (hnone t _), fun _ _ _ _ _ t' => hnone t' _,
      fun _ _ t _ _ _ h => absurd h (hnone t _), fun _ _ _ t => hnone t _, ?_⟩
    rintro env order h
    cases h
    exact hc.elim
  · refine Command.keeps (I := fun d => Sound d ∧ ∀ t r, ¬ d.InRecovery t r)
      (G := fun _ m => ∀ t r, ¬ m.Holds t r) ?_ ?_ ?_ ⟨hs, hnone⟩
    · exact fun d m d' hd hm h => ⟨hd.1.step h, fun t r hi => (hi.of_step hd.1 h).elim (hd.2 t r) (hm t r)⟩
    · intro m hm t r hholds
      cases m with
      | apply m => exact hm
      | hold t' r' =>
        obtain ⟨_, ⟨_, _, _, _, rfl, _⟩, _⟩ := hm
        exact hc
      | strand x r' =>
        obtain ⟨⟨_, _, rfl, _⟩, _⟩ := hm
        exact hc
      | _ => exact hholds
    · intro d m _ hm t r hholds
      cases m with
      | apply m => exact hm
      | hold t' r' =>
        obtain ⟨_, ⟨_, _, _, _, rfl, _⟩, _⟩ := hm
        exact hc
      | strand x r' =>
        obtain ⟨⟨_, _, rfl, _⟩, _⟩ := hm
        exact hc
      | _ => exact hholds

theorem everyStep_harmless (cfg : Config) {cs : List Command} (hcs : ∀ c ∈ cs, c.Harmless) (hs : Sound s.desk)
    (hnone : ∀ t r, ¬ s.desk.InRecovery t r) :
    EveryStep (Call.step cfg) (fun s c => c.KeepsRecovery cfg s) s (cs.map .command) ∧
      ∀ t r, ¬ (runFrom (Call.step cfg) s (cs.map .command)).desk.InRecovery t r := by
  induction cs generalizing s with
  | nil => exact ⟨trivial, hnone⟩
  | cons c cs ih =>
    obtain ⟨hc, hs', hnone'⟩ := (hcs c List.mem_cons_self).keepsRecovery cfg hs hnone
    obtain ⟨hrest, hend⟩ := ih (fun c hc => hcs c (List.mem_cons_of_mem _ hc)) hs' hnone'
    exact ⟨⟨hc, hrest⟩, hend⟩

theorem recovery_kept_sample : Throughout (Call.step sampleConfig)
    (fun s => ∀ t row, s.tasks.get? t = some row → row.state = .recoveryRequired →
      ∃ r runner, row.assignedRunnerId = some r ∧ HeldForRecovery sampleConfig s t r runner)
    Store.empty (sampleCalls ++ [sampleStatus 2 .recoveryRequired]) := by
  have hempty : ∀ t r, ¬ Store.empty.desk.InRecovery t r := by
    rintro t r ⟨row, hrow, _⟩
    cases hrow
  have hsound : Sound Store.empty.desk := Sound.empty
  have hharmless : ∀ c ∈ enrollCalls ++ pulseCall 1 .idle :: startCalls, c.Harmless := by
    simp [enrollCalls, pulseCall, startCalls, Command.Harmless]
  obtain ⟨hcalls, hnone⟩ := everyStep_harmless sampleConfig hharmless hsound hempty
  have hstatus : (sampleStatus 2 .recoveryRequired).KeepsRecovery sampleConfig sampleStore :=
    ⟨fun _ _ _ _ h => (nomatch h), fun _ _ _ h => (nomatch h), fun _ _ _ h => (nomatch h),
      fun _ _ _ t => hnone t _, fun _ _ h => (nomatch h)⟩
  have hall : EveryStep (Call.step sampleConfig) (fun s c => c.KeepsRecovery sampleConfig s)
      Store.empty (sampleCalls ++ [sampleStatus 2 .recoveryRequired]) :=
    (everyStep_append (Call.step sampleConfig)).mpr ⟨hcalls, hstatus, trivial⟩
  exact (recovery_kept sampleConfig _ hall).1

/-- The Runner reports `busy` while its task is in recovery. -/
theorem not_held_after_pulse {v : View} (h : samplePair.Shows s v)
    (hstate : v.state = .recoveryRequired) :
    ¬ ∀ t row, ((pulseCall 2 .busy).step sampleConfig s).tasks.get? t = some row →
      row.state = .recoveryRequired → ∃ r runner, row.assignedRunnerId = some r ∧
        HeldForRecovery sampleConfig ((pulseCall 2 .busy).step sampleConfig s) t r runner := by
  obtain ⟨row, hrow, hassigned, _, _, _, hrec, _⟩ := h.task
  obtain ⟨runner, hrun, _, hlink, hseat⟩ := h.runner
  have hpulse : (pulseCall 2 .busy).step sampleConfig s = s.setRunner samplePair.runnerId
      (heartbeatRow ((sampleEnv 0).clock 1) (samplePulse 2 .busy).message "1" none) :=
    heartbeat_step sampleConfig (samplePulse_valid 2 (by decide) .busy) (by decide +kernel)
      h.credential hrun (by rw [hlink.heartbeatSequence]; decide) (by decide) hlink.os hlink.arch
      hlink.policyRevision
  rw [hpulse]
  intro hheld
  obtain ⟨r, runner', hr, hheld⟩ := hheld samplePair.taskId row hrow (hrec.trans hstate)
  obtain rfl : r = samplePair.runnerId := Option.some.inj (hr.symm.trans hassigned)
  have hset : (s.setRunner samplePair.runnerId (heartbeatRow ((sampleEnv 0).clock 1)
      (samplePulse 2 .busy).message "1" none)).runners.get? samplePair.runnerId =
      some (heartbeatRow ((sampleEnv 0).clock 1) (samplePulse 2 .busy).message "1" none runner) := by
    simp [Store.setRunner, hrun]
  obtain rfl := Option.some.inj (hheld.runner_get.symm.trans hset)
  have hwork := hheld.work
  simp [heartbeatRow, heartbeatWork, Pulse.message, samplePulse] at hwork

/-- A heartbeat that reports `busy` unlocks a Runner with a task in recovery. -/
theorem recovery_unlocked : ¬ Throughout (Call.step sampleConfig)
    (fun s => ∀ t row, s.tasks.get? t = some row → row.state = .recoveryRequired →
      ∃ r runner, row.assignedRunnerId = some r ∧ HeldForRecovery sampleConfig s t r runner)
    Store.empty
    (sampleCalls ++ [sampleStatus 2 .recoveryRequired, .command (pulseCall 2 .busy)]) := by
  intro h
  have hlast := last_of_sample h
  rw [runFrom_cons, runFrom_cons, runFrom_nil, Call.step_command] at hlast
  have hstatus := sampleStore_shows.sampleStatus 2 .recoveryRequired
    (by decide) (by decide) (by decide) (by decide)
  exact not_held_after_pulse hstatus rfl hlast

end Calls

end HomeAddons.Runner
