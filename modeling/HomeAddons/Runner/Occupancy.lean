import HomeAddons.Runner.Assignment

/-!
# Runner Center v2: who holds whom

Two laws about the pairing of tasks and Runners over whole runs of calls.

* `SingleOccupancy`: a Runner has at most one occupying task, and `current_task_id` is that task.
  `continue` does not ask whether the Runner is free, and a late status may wake a task that its
  Runner no longer holds; `singleOccupancy_iff` says that the law holds throughout exactly the
  runs in which neither happens.
* `HeldByLiveTasks`: a Runner never holds a task that has ended, and a task that has ended has no
  active lease. `cancel` of a task in `awaiting_confirmation` frees neither the Runner nor the
  lease; `heldByLiveTasks_iff` says that the law holds throughout exactly the runs in which such a
  task has neither.
-/

namespace HomeAddons.Runner

open HomeAddons.Common

/-! ## Single occupancy -/

/-- The states in which a task takes up its Runner. -/
def occupyingStates : List TaskState := [.leased, .dispatched, .queued, .running, .recoveryRequired]

def TaskState.occupies (t : TaskState) : Bool := occupyingStates.contains t

@[grind =] theorem TaskState.occupies_iff (t : TaskState) : t.occupies = true ↔ t = .leased ∨
    t = .dispatched ∨ t = .queued ∨ t = .running ∨ t = .recoveryRequired := by
  cases t <;> decide

/-- A task waits, takes up its Runner, awaits a confirmation or has ended. -/
theorem TaskState.cases_occupies (t : TaskState) : t = .waitingRunner ∨ t.occupies ∨
    t = .awaitingConfirmation ∨ t.terminal := by
  cases t <;> decide

/-- The task takes up the Runner. -/
def Desk.Occupies (d : Desk) (t r : String) : Prop :=
  ∃ row, d.tasks.get? t = some row ∧ row.state.occupies ∧ row.assignedRunnerId = some r

/-- The Runner holds the task in `current_task_id`. -/
def Desk.Holds (d : Desk) (r t : String) : Prop :=
  ∃ runner, d.runners.get? r = some runner ∧ runner.currentTaskId = some t

/-- Every Runner has at most one occupying task, and holds it. -/
structure SingleOccupancy (s : Store) : Prop where
  unique : ∀ r t t', s.desk.Occupies t r → s.desk.Occupies t' r → t = t'
  current : ∀ r t, s.desk.Occupies t r → s.desk.Holds r t

/-- Occupying tasks are held. -/
def Desk.Occupied (d : Desk) : Prop := ∀ r t, d.Occupies t r → d.Holds r t

variable {d d' : Desk} {r t : String}

theorem Desk.Holds.unique {t' : String} (h : d.Holds r t) (h' : d.Holds r t') : t = t' := by
  obtain ⟨runner, hr, ht⟩ := h
  obtain ⟨runner', hr', ht'⟩ := h'
  rw [hr] at hr'
  cases hr'
  rw [ht] at ht'
  exact Option.some.inj ht'

/-- At most one task per Runner follows from holding. -/
theorem singleOccupancy_iff_occupied {s : Store} : SingleOccupancy s ↔ s.desk.Occupied :=
  ⟨fun h => h.current, fun h => ⟨fun r _ _ ht ht' => (h r _ ht).unique (h r _ ht'), h⟩⟩

/-- What a move must respect for occupying tasks to stay held. -/
def Desk.RespectsOccupancy (d : Desk) : Move → Prop
  | .resume _ r => ∀ t, ¬ d.Occupies t r
  | .apply (.status m) =>
    ((m.state = .queued ∨ m.state = .running) → d.Holds m.head.runnerId m.head.taskId) ∧
    (m.state = .recoveryRequired → ∀ t, d.Occupies t m.head.runnerId → t = m.head.taskId)
  | .apply (.result m) => d.Occupies m.head.taskId m.head.runnerId
  | _ => True

/-- A Runner from which the sweep takes a task holds no other occupying task. -/
theorem Occupied.of_swept {task : TaskRow} {r' : String} (hs : Sound d) (ho : d.Occupied)
    (htask : d.tasks.get? task.taskId = some task) (hswept : task.SweptFrom r')
    (hocc : d.Occupies t r) (hne : t ≠ task.taskId) : r ≠ r' := by
  rintro rfl
  obtain ⟨hstate, hassigned⟩ := hswept
  have hswept_occ : task.state.occupies := by
    rw [mem_sweptStates] at hstate
    have hnot := hs.waiting _ task htask
    grind
  exact hne ((ho r t hocc).unique (ho r task.taskId ⟨task, htask, hswept_occ, hassigned⟩))

theorem Occupied.step {d d' : Desk} {m : Move} (hs : Sound d) (ho : d.Occupied)
    (hm : d.RespectsOccupancy m) (h : d.Step m d') : d'.Occupied := by
  rintro r t ⟨row, ht, hocc, hr⟩
  have hheld : ∀ x, d.tasks.get? t = some x → x.state.occupies → x.assignedRunnerId = some r →
      d.Holds r t := fun x hx hocc hr => ho r t ⟨x, hx, hocc, hr⟩
  unfold Desk.Holds
  cases h with
  | registry hR =>
    obtain ⟨runner, hrun, hc⟩ := hheld row ht hocc hr
    obtain ⟨hnone, _⟩ | ⟨x, x', hx, hx', hseat, _⟩ := hR r
    · rw [hnone] at hrun
      cases hrun
    · rw [hx] at hrun
      cases hrun
      exact ⟨x', hx', by grind⟩
  | enqueue hT hstate =>
    rw [Table.get?_insert? hT] at ht
    split_ifs at ht with htask
    · cases ht
      rw [hstate] at hocc
      cases hocc
    · exact hheld row ht hocc hr
  | @assign t' r' task runner lease L now htask hw hrun hseat =>
    rw [Table.get?_update_eq_some] at ht
    obtain ⟨x, hx, rfl⟩ := ht
    split_ifs at hocc hr with hself
    · subst hself
      have hr' : r = r' := by grind
      subst hr'
      exact ⟨busyRunner t now runner, by simp [hrun], rfl⟩
    · have hne : r ≠ r' := by
        rintro rfl
        obtain ⟨runner', hrun', hcur⟩ := hheld x hx hocc hr
        rw [hrun] at hrun'
        cases hrun'
        grind
      obtain ⟨runner', hrun', hcur⟩ := hheld x hx hocc hr
      exact ⟨runner', by simp [hne, hrun'], hcur⟩
  | @status _ m _ htask hholds =>
    have := m.state_cases
    simp only [Desk.RespectsOccupancy, Desk.Holds, Desk.Occupies, forall_exists_index, and_imp] at hm
    simp only [MessageHead.holds, decide_eq_true_eq] at hholds
    unfold Desk.Holds at hheld
    simp only [Table.get?_update_eq_some] at *
    split_ifs
    · obtain ⟨runner, hrun⟩ := Option.ne_none_iff_exists'.mp (hs.runner _ _ _ htask hholds.1)
      simp only [Table.get?_update_eq_some] at *
      clear ho hs
      grind
    · clear ho hs
      grind
  | @result _ m now htask hholds hrun =>
    rw [MessageHead.holds_iff] at hholds
    rw [Table.get?_update_eq_some] at ht
    obtain ⟨x, hx, rfl⟩ := ht
    split_ifs at hocc hr with hself
    · subst hself
      have hrec : m.state = .recoveryRequired := by
        have := m.state_cases
        grind
      have hr' : r = m.head.runnerId := by
        rw [hx] at htask
        cases htask
        exact Option.some.inj (hr.symm.trans hholds.1)
      subst hr'
      obtain ⟨runner, hrunner⟩ := Option.ne_none_iff_exists'.mp hrun
      exact ⟨resultRunner now m runner, by simp [hrunner], by simp [resultRunner, hrec]⟩
    · have hne : r ≠ m.head.runnerId := by
        rintro rfl
        exact hself ((ho _ _ ⟨x, hx, hocc, hr⟩).unique (ho _ _ hm))
      obtain ⟨runner', hrun', hcur⟩ := hheld x hx hocc hr
      exact ⟨runner', by simp [hne, hrun'], hcur⟩
  | resume =>
    simp only [Desk.RespectsOccupancy, Desk.Occupies] at hm
    unfold Desk.Holds at hheld
    simp only [Table.get?_update_eq_some] at *
    clear ho hs
    grind
  | @hold t' r' runner row' now action hrun _ hcur =>
    rw [Table.get?_update_eq_some] at ht
    obtain ⟨x, hx, rfl⟩ := ht
    have hx' : d.Holds r t ∨ r = r' ∧ t = t' := by
      split_ifs at hocc hr with hself
      · obtain ⟨y, hy, hassigned⟩ := hs.current r' runner t' hrun hcur
        grind
      · exact .inl (hheld x hx hocc hr)
    by_cases hr' : r = r'
    · subst hr'
      have htt : t = t' := by
        obtain hheld | ⟨_, rfl⟩ := hx'
        · exact hheld.unique ⟨runner, hrun, hcur⟩
        · rfl
      subst htt
      exact ⟨disabledRunner .recoveryRequired (some t) now runner, by simp [hrun], rfl⟩
    · obtain ⟨runner', hrun', hcur'⟩ := hx'.resolve_right fun h => hr' h.1
      exact ⟨runner', by simp [hr', hrun'], hcur'⟩
  | @strand task r' now htask hswept _ hne =>
    rw [Table.get?_update_eq_some] at ht
    obtain ⟨x, hx, rfl⟩ := ht
    obtain ⟨runner, hrun⟩ := Option.ne_none_iff_exists'.mp hne
    split_ifs at hocc hr with hself
    · subst hself
      have hr' : r = r' := by
        rw [hx] at htask
        cases htask
        exact Option.some.inj (hr.symm.trans hswept.2)
      subst hr'
      exact ⟨heldRunner task.taskId now runner, by simp [hrun], rfl⟩
    · have hne : r ≠ r' := Occupied.of_swept hs ho htask hswept ⟨x, hx, hocc, hr⟩ hself
      obtain ⟨runner', hrun', hcur⟩ := hheld x hx hocc hr
      exact ⟨runner', by simp [hne, hrun'], hcur⟩
  | @reclaim task r' now htask hswept =>
    rw [Table.get?_update_eq_some] at ht
    obtain ⟨x, hx, rfl⟩ := ht
    split_ifs at hocc hr with hself
    · cases hocc
    · have hne : r ≠ r' := Occupied.of_swept hs ho htask hswept ⟨x, hx, hocc, hr⟩ hself
      obtain ⟨runner', hrun', hcur⟩ := hheld x hx hocc hr
      exact ⟨runner', by simp [hne, hrun'], hcur⟩
  | _ =>
    unfold Desk.Holds at hheld
    simp only [Table.get?_update_eq_some] at *
    clear ho hs
    grind

/-- A `continue` on a Runner with an occupying task leaves that task without its Runner. -/
theorem Occupied.of_resume (h : d.Step (.resume t r) d') (ho : d'.Occupied) (t' : String) :
    ¬ d.Occupies t' r := by
  rintro ⟨row', ht', hocc, hr'⟩
  cases h with
  | @resume _ _ _ row runner _ now _ hrow hstate _ _ hrun =>
    have hne : t' ≠ t := by
      rintro rfl
      rw [hrow] at ht'
      grind
    obtain ⟨held, hheld, hcur⟩ := ho r t' ⟨row', by simpa [hne] using ht', hocc, hr'⟩
    simp only [Table.get?_update_self, hrun, Option.map_some, Option.some.injEq] at hheld
    subst hheld
    exact hne (Option.some.inj hcur).symm

/-- A status that wakes a task its Runner does not hold, or holds a Runner with another occupying
    task, leaves an occupying task without its Runner. -/
theorem Occupied.of_status {m : StatusMessage} (hs : Sound d) (h : d.Step (.apply (.status m)) d')
    (ho : d'.Occupied) : d.RespectsOccupancy (.apply (.status m)) := by
  cases h with
  | @status task _ now htask hholds =>
    rw [MessageHead.holds_iff] at hholds
    constructor
    · intro hwakes
      have hnot : m.state ≠ .recoveryRequired := by grind
      have hocc : (statusTask now m task).state.occupies := by grind
      obtain ⟨runner, hrun, hcur⟩ := ho m.head.runnerId m.head.taskId
        ⟨statusTask now m task, by simp [htask], hocc, hholds.1⟩
      exact ⟨runner, by simpa [hnot] using hrun, hcur⟩
    · rintro hrec t ⟨row, hrow, hocc, hr⟩
      by_contra hne
      obtain ⟨held, hheld, hcur⟩ := ho m.head.runnerId t ⟨row, by simpa [hne] using hrow, hocc, hr⟩
      obtain ⟨runner, hrun⟩ := Option.ne_none_iff_exists'.mp (hs.runner _ _ _ htask hholds.1)
      simp only [hrec, if_true, Table.get?_update_self, hrun, Option.map_some,
        Option.some.injEq] at hheld
      subst hheld
      exact hne (Option.some.inj hcur).symm

/-! ### Which calls keep it -/

section Calls

variable {cfg : Config} {s : Store} {c : Call}

/-- `continue` finds its Runner free of occupying tasks; a `queued` or `running` status comes for a
    task that its Runner holds, and a `recovery_required` one for the only occupying task. -/
def Call.RespectsOccupancy (cfg : Config) (s : Store) (c : Call) : Prop :=
  (∀ command t r, c = .command command → command.Continues cfg s t r →
    ∀ t', ¬ s.desk.Occupies t' r) ∧
  ∀ m, c.Admits s (.status m) →
    ((m.state = .queued ∨ m.state = .running) → s.desk.Holds m.head.runnerId m.head.taskId) ∧
    (m.state = .recoveryRequired → ∀ t, s.desk.Occupies t m.head.runnerId → t = m.head.taskId)

/-- A result that the guards let through is about a task that takes up its Runner. -/
theorem Desk.Admits.occupies {d : Desk} {m : ResultMessage} (hs : Sound d)
    (h : d.Admits (.result m)) : d.Occupies m.head.taskId m.head.runnerId := by
  obtain ⟨_, task, htask, hholds, _, him⟩ := h
  rw [MessageHead.holds_iff] at hholds
  rw [immutableFor_iff, Message.kind_result] at him
  have := hs.waiting _ _ htask
  have := task.state.cases_occupies
  exact ⟨task, htask, by grind, hholds.1⟩

theorem Call.RespectsOccupancy.keeps (hs : Sound s.desk) (ho : s.desk.Occupied)
    (hc : c.RespectsOccupancy cfg s) : (c.step cfg s).desk.Occupied := by
  have hstep : ∀ d m d', Sound d ∧ d.Occupied → d.RespectsOccupancy m → d.Step m d' →
      Sound d' ∧ d'.Occupied := fun _ _ _ hd hm h => ⟨hd.1.step h, Occupied.step hd.1 hd.2 hm h⟩
  cases c with
  | command c =>
    refine (Command.keeps hstep ?_ ?_ ⟨hs, ho⟩).2
    · intro m hm
      cases m with
      | resume t r => exact hc.1 c t r rfl hm
      | apply m => exact hm.elim
      | _ => trivial
    · intro d m hsched _
      cases m with
      | resume | apply => exact hsched.elim
      | _ => trivial
  | message kind env payload credential =>
    refine (Call.keeps_message hstep rfl (fun _ _ => trivial) ?_ ⟨hs, ho⟩).2
    intro m M hm
    cases m with
    | status m => exact hc.2 m hm
    | result m =>
      obtain ⟨_, _, _, _, _, _, _, hadmits⟩ := hm
      exact Desk.Admits.occupies (d := s.desk) hs hadmits

/-- A call that does not respect occupancy breaks single occupancy. -/
theorem Call.RespectsOccupancy.of_step (hs : Sound s.desk) (h : (c.step cfg s).desk.Occupied) :
    c.RespectsOccupancy cfg s := by
  constructor
  · rintro command t r rfl hcont
    exact Occupied.of_resume (hcont.resume hs) h
  · intro m hm
    obtain ⟨kind, env, payload, credential, hc, _⟩ := id hm
    obtain ⟨_, hno⟩ | ⟨m', hm', _, d, hrec, happ⟩ := message_moves cfg s hc
    · exact absurd hm (hno _)
    · obtain rfl := hm'.unique hm
      have hd := hs.step hrec
      cases hrec with
      | record =>
        have hrespects := Occupied.of_status hd happ h
        exact hrespects

/-- Single occupancy holds in every state of a run of calls from the empty store exactly when every
    call of the run respects it. -/
theorem singleOccupancy_iff (cfg : Config) (calls : List Call) :
    Throughout (Call.step cfg) SingleOccupancy Store.empty calls ↔
      EveryStep (Call.step cfg) (fun s c => c.RespectsOccupancy cfg s) Store.empty calls := by
  refine throughout_iff_everyStep (Call.step cfg) (I := fun s => Sound s.desk ∧ s.desk.Occupied)
    (fun s hs => singleOccupancy_iff_occupied.mpr hs.2) ?_ ?_ ⟨Sound.empty, ?_⟩
  · intro s c hs hc
    exact ⟨c.keeps (fun _ _ _ h => h.step) hs.1, hc.keeps hs.1 hs.2⟩
  · intro s c hs hc hsingle
    exact hc (.of_step hs.1 (singleOccupancy_iff_occupied.mp hsingle))
  · rintro r t ⟨row, hrow, _⟩
    cases hrow

/-- A late status wakes a task in `awaiting_confirmation` whose Runner is free again. -/
theorem singleOccupancy_late_status :
    ¬ Throughout (Call.step sampleConfig) SingleOccupancy Store.empty
      (sampleCalls ++ [sampleResult 2 .awaitingConfirmation, sampleStatus 3 .running]) := by
  intro h
  have hlast := last_of_sample h
  rw [runFrom_cons, runFrom_cons, runFrom_nil] at hlast
  have hresult := sampleStore_shows.sampleResult 2 .awaitingConfirmation
    (by decide) (by decide) (by decide) (by decide)
  have hstatus := hresult.sampleStatus 3 .running (by decide) (by decide)
    (by decide) (by decide)
  obtain ⟨row, hrow, hassigned, _, _, _, hstate, _⟩ := hstatus.task
  obtain ⟨runner, hrun, _, _, hseat⟩ := hstatus.runner
  have hrunning : row.state = .running := hstate
  rw [← desk_tasks] at hrow
  rw [← desk_runners] at hrun
  obtain ⟨runner', hrun', hcur⟩ := hlast.current samplePair.runnerId samplePair.taskId
    ⟨row, hrow, by simp [TaskState.occupies_iff, hrunning], hassigned⟩
  obtain rfl : runner' = runner := Option.some.inj (hrun'.symm.trans hrun)
  have hnone : runner'.currentTaskId = none := congrArg Seat.task hseat
  rw [hnone] at hcur
  cases hcur

end Calls

/-! ## Held by live tasks -/

/-- A Runner may hold a task in this state. -/
def TaskState.live (t : TaskState) : Bool := t.occupies || t = .awaitingConfirmation

@[grind =] theorem TaskState.live_iff (t : TaskState) :
    t.live = true ↔ t.occupies ∨ t = .awaitingConfirmation := by
  simp [live]

/-- The Runners hold live tasks of their own, and no ended task has an active lease. -/
structure Desk.HeldByLiveTasks (d : Desk) : Prop where
  held : ∀ r runner t, d.runners.get? r = some runner → runner.currentTaskId = some t →
    ∃ row, d.tasks.get? t = some row ∧ row.assignedRunnerId = some r ∧ row.state.live
  ended : ∀ t row, d.tasks.get? t = some row → row.state.terminal →
    ∀ l lease, d.leases.get? l = some lease → lease.taskId = t → lease.state ≠ .active

/-- No Runner holds the task and it has no active lease. -/
structure Desk.LetGo (d : Desk) (t : String) : Prop where
  held : ∀ r runner, d.runners.get? r = some runner → runner.currentTaskId ≠ some t
  leased : ∀ l lease, d.leases.get? l = some lease → lease.taskId = t → lease.state ≠ .active

/-- What a move must respect for Runners to hold live tasks only. -/
def Desk.RespectsHolding (d : Desk) : Move → Prop
  | .dismiss t => d.LetGo t
  | _ => True

section Step

variable {d d' : Desk} {m : Move}

theorem HeldByLiveTasks.held_step (hs : Sound d) (hl : d.HeldByLiveTasks)
    (hm : d.RespectsHolding m) (h : d.Step m d') (r : String) (runner : RunnerRow) (t : String)
    (hr : d'.runners.get? r = some runner) (hc : runner.currentTaskId = some t) :
    ∃ row, d'.tasks.get? t = some row ∧ row.assignedRunnerId = some r ∧ row.state.live := by
  have hheld := hl.held
  have hwaiting := hs.waiting
  cases h with
  | registry hR =>
    obtain ⟨_, hseat⟩ | ⟨row, row', hget, hget', hseat, _⟩ := hR r
    · have := (hseat runner hr).1
      grind
    · grind
  | enqueue hT =>
    have hnew := Table.get?_of_insert? hT
    simp only [Table.get?_insert? hT] at *
    grind
  | dismiss =>
    have hletgo := hm.held
    simp only [Table.get?_update_eq_some] at *
    grind
  | @status _ m _ htask hholds =>
    have := m.state_cases
    split_ifs at hr <;> simp only [Table.get?_update_eq_some] at * <;> grind
  | @result _ m _ htask hholds =>
    have := m.state_cases
    simp only [Table.get?_update_eq_some] at *
    grind
  | _ =>
    simp only [Table.get?_update_eq_some] at *
    grind

theorem HeldByLiveTasks.ended_step (hs : Sound d) (hl : d.HeldByLiveTasks)
    (hm : d.RespectsHolding m) (h : d.Step m d') (t : String) (row : TaskRow)
    (ht : d'.tasks.get? t = some row) (hterm : row.state.terminal) (l : String) (lease : LeaseRow)
    (hget : d'.leases.get? l = some lease) (htask : lease.taskId = t) : lease.state ≠ .active := by
  have hended := hl.ended
  have hnamed := hs.named
  have hactive := hs.active
  have hwaiting := hs.waiting
  have hiff := hs.lease_iff
  cases h with
  | enqueue hT =>
    have hnew := Table.get?_of_insert? hT
    simp only [Table.get?_insert? hT] at *
    grind
  | assign now _ _ _ _ _ _ _ _ _ _ hL =>
    simp only [Table.get?_update_eq_some, Table.get?_insert? hL] at *
    grind
  | dismiss =>
    have hletgo := hm.leased
    simp only [Table.get?_update_eq_some] at *
    grind
  | @status _ m _ htask hholds =>
    have := m.state_cases
    simp only [Table.get?_update_eq_some] at *
    grind
  | _ =>
    simp only [Table.get?_update_eq_some, Table.get?_updateWhere_eq_some] at *
    grind

theorem HeldByLiveTasks.step (hs : Sound d) (hl : d.HeldByLiveTasks) (hm : d.RespectsHolding m)
    (h : d.Step m d') : d'.HeldByLiveTasks :=
  ⟨HeldByLiveTasks.held_step hs hl hm h, HeldByLiveTasks.ended_step hs hl hm h⟩

/-- A task dismissed while it is held or leased has ended with its Runner or its lease. -/
theorem HeldByLiveTasks.of_dismiss {t : String} (h : d.Step (.dismiss t) d')
    (hl : d'.HeldByLiveTasks) : d.LetGo t := by
  cases h with
  | @dismiss _ row now hrow _ =>
    have hrow' : (d.tasks.update t (dismissedTask now)).get? t = some (dismissedTask now row) :=
      Table.get?_update_of_get? hrow _ _
    have hended : (dismissedTask now row).state.terminal := by grind
    constructor
    · intro r runner hrun hcur
      obtain ⟨row', hget, _, hlive⟩ := hl.held r runner t hrun hcur
      rw [hrow'] at hget
      cases hget
      grind
    · exact hl.ended t _ hrow' hended

end Step

section Calls

variable {cfg : Config} {s : Store} {c : Call}

/-- A `cancel` of a task in `awaiting_confirmation` finds it let go. -/
def Call.RespectsHolding (cfg : Config) (s : Store) (c : Call) : Prop :=
  ∀ command t, c = .command command → command.TakesBranch cfg s t .cancelAwaiting → s.desk.LetGo t

theorem Call.RespectsHolding.keeps (hs : Sound s.desk) (hl : s.desk.HeldByLiveTasks)
    (hc : c.RespectsHolding cfg s) : (c.step cfg s).desk.HeldByLiveTasks := by
  have hstep : ∀ d m d', Sound d ∧ d.HeldByLiveTasks → d.RespectsHolding m → d.Step m d' →
      Sound d' ∧ d'.HeldByLiveTasks :=
    fun _ _ _ hd hm h => ⟨hd.1.step h, HeldByLiveTasks.step hd.1 hd.2 hm h⟩
  cases c with
  | command c =>
    refine (Command.keeps hstep ?_ ?_ ⟨hs, hl⟩).2
    · intro m hm
      cases m with
      | dismiss t => exact hc c t rfl hm
      | _ => trivial
    · intro d m hsched _
      cases m with
      | dismiss => exact hsched.elim
      | _ => trivial
  | message kind env payload credential =>
    exact (Call.keeps_message hstep rfl (fun _ _ => trivial) (fun _ _ _ => trivial) ⟨hs, hl⟩).2

/-- The Runners hold live tasks only, and no ended task has an active lease, in every state of a
    run of calls from the empty store exactly when every `cancel` of a task in
    `awaiting_confirmation` in it finds the task let go. -/
theorem heldByLiveTasks_iff (cfg : Config) (calls : List Call) :
    Throughout (Call.step cfg) (fun s => s.desk.HeldByLiveTasks) Store.empty calls ↔
      EveryStep (Call.step cfg) (fun s c => c.RespectsHolding cfg s) Store.empty calls := by
  refine throughout_iff_everyStep (Call.step cfg) (I := fun s => Sound s.desk ∧
    s.desk.HeldByLiveTasks) (fun s hs => hs.2) ?_ ?_ ⟨Sound.empty, ?_⟩
  · intro s c hs hc
    exact ⟨c.keeps (fun _ _ _ h => h.step) hs.1, hc.keeps hs.1 hs.2⟩
  · intro s c hs hc hl
    refine hc fun command t e htakes => ?_
    subst e
    exact HeldByLiveTasks.of_dismiss htakes.dismiss hl
  · constructor
    · intro r runner t hr
      cases hr
    · intro t row ht
      cases ht

/-- A cancelled task keeps the Runner that reported `awaiting_confirmation` for it. -/
theorem heldByLiveTasks_cancel :
    ¬ Throughout (Call.step sampleConfig) (fun s => s.desk.HeldByLiveTasks) Store.empty
      (sampleCalls ++ [sampleStatus 2 .awaitingConfirmation, sampleCancel]) := by
  intro h
  have hlast := last_of_sample h
  rw [runFrom_cons, runFrom_cons, runFrom_nil] at hlast
  have hstatus := sampleStore_shows.sampleStatus 2 .awaitingConfirmation
    (by decide) (by decide) (by decide) (by decide)
  have hcancel := hstatus.sampleCancel (by
    rw [sampleStatus, message_commandRequests]
    exact sampleStore_commandRequests (by decide)) rfl
  obtain ⟨row, hrow, _, _, _, _, hstate, _⟩ := hcancel.task
  obtain ⟨runner, hrun, _, _, hseat⟩ := hcancel.runner
  rw [← desk_tasks] at hrow
  rw [← desk_runners] at hrun
  obtain ⟨row', hrow', _, hlive⟩ := hlast.held samplePair.runnerId runner samplePair.taskId hrun
    (congrArg Seat.task hseat)
  obtain rfl : row' = row := Option.some.inj (hrow'.symm.trans hrow)
  have hcancelled : row'.state = .cancelled := hstate
  simp [TaskState.live_iff, TaskState.occupies_iff, hcancelled] at hlive

end Calls

end HomeAddons.Runner
