import HomeAddons.Runner.Occupancy

/-!
# Runner Center v2: ended tasks

A task that has ended should keep its outcome until an explicit `continue`. `_record_message`
refuses a late result but not a late status, and `emergency_disable` does not ask whether the task
of the Runner has ended; `ended_iff` says that these are the only two ways in which a call changes
the outcome of an ended task. The invariant behind it, `HeldCancelled`, is that an ended task which
a Runner still holds was cancelled.
-/

namespace HomeAddons.Runner

open HomeAddons.Common

/-- What an ended task must keep. -/
structure Outcome where
  state : TaskState
  summary : Option String
  resultHash : Option String
  deriving DecidableEq

@[grind] def TaskRow.outcome (row : TaskRow) : Outcome := ⟨row.state, row.summary, row.resultHash⟩

/-- An ended task that a Runner holds was cancelled. -/
def Desk.HeldCancelled (d : Desk) : Prop :=
  ∀ r runner t row, d.runners.get? r = some runner → runner.currentTaskId = some t →
    d.tasks.get? t = some row → row.state.terminal → row.state = .cancelled

/-- The moves that do not give an ended task another outcome. -/
def Move.Spares (t : String) : Move → Prop
  | .resume t' _ | .hold t' _ => t' ≠ t
  | .apply m => m.head.taskId ≠ t
  | _ => True

section Step

variable {d d' : Desk} {m : Move}

theorem HeldCancelled.step (hs : Sound d) (hc : d.HeldCancelled) (h : d.Step m d') :
    d'.HeldCancelled := by
  intro r runner t row hr hcur ht hterm
  have hheld : ∀ r runner t row, d.runners.get? r = some runner → runner.currentTaskId = some t →
    d.tasks.get? t = some row → row.state.terminal → row.state = .cancelled := hc
  have hcurrent := hs.current
  have hwaiting := hs.waiting
  cases h with
  | registry hR =>
    obtain ⟨_, hseat⟩ | ⟨row, row', hget, hget', hseat, _⟩ := hR r
    · have := (hseat runner hr).1
      grind
    · grind
  | enqueue hT =>
    simp only [Table.get?_insert? hT] at *
    grind
  | @status _ m _ htask hholds =>
    have := m.state_cases
    split_ifs at hr <;> simp only [Table.get?_update_eq_some] at * <;> grind
  | @result _ m _ htask hholds =>
    simp only [Table.get?_update_eq_some] at *
    grind
  | _ =>
    simp only [Table.get?_update_eq_some] at *
    grind

/-- A move that spares an ended task leaves its outcome. -/
theorem Desk.Step.outcome (hs : Sound d) (hc : d.HeldCancelled) (h : d.Step m d') {t : String}
    {row : TaskRow} (hspares : m.Spares t) (ht : d.tasks.get? t = some row)
    (hterm : row.state.terminal) : ∃ row', d'.tasks.get? t = some row' ∧ row'.outcome = row.outcome := by
  have hheld : ∀ r runner t row, d.runners.get? r = some runner → runner.currentTaskId = some t →
    d.tasks.get? t = some row → row.state.terminal → row.state = .cancelled := hc
  have hwaiting := hs.waiting
  simp only [Move.Spares] at hspares
  cases h with
  | enqueue hT =>
    simp only [Table.get?_insert? hT] at *
    grind
  | _ =>
    simp only [Table.get?_update_eq_some] at *
    grind

/-- A status gives its task the state that it reports. -/
theorem Desk.Step.status_state {m : StatusMessage} (h : d.Step (.apply (.status m)) d') :
    ∃ row, d'.tasks.get? m.head.taskId = some row ∧ row.state = m.state := by
  cases h with
  | @status task _ now htask =>
    exact ⟨statusTask now m task, by simp [htask], rfl⟩

/-- A task that `emergency_disable` holds is in `recovery_required`. -/
theorem Desk.Step.hold_state {t r : String} (h : d.Step (.hold t r) d') :
    ∃ row, d'.tasks.get? t = some row ∧ row.state = .recoveryRequired := by
  cases h with
  | @hold _ _ _ row now action _ _ _ htask =>
    exact ⟨recoveryTask action now row, by simp [htask], rfl⟩

end Step

/-! ## Which calls spare an ended task -/

section Calls

variable {cfg : Config} {s : Store} {c : Call} {t : String} {row : TaskRow}

/-- The task has ended with this outcome, on a desk where held ended tasks were cancelled. -/
structure Desk.Ended (d : Desk) (t : String) (o : Outcome) : Prop where
  sound : Sound d
  held : d.HeldCancelled
  task : ∃ row, d.tasks.get? t = some row ∧ row.outcome = o
  terminal : o.state.terminal

theorem Desk.Ended.step {d d' : Desk} {m : Move} {o : Outcome} (he : d.Ended t o)
    (hspares : m.Spares t) (h : d.Step m d') : d'.Ended t o := by
  obtain ⟨row, hrow, rfl⟩ := he.task
  exact ⟨he.sound.step h, HeldCancelled.step he.sound he.held h,
    h.outcome he.sound he.held hspares hrow he.terminal, he.terminal⟩

/-- The call files no status of the task, and does not stop a Runner that holds the task when the
    task has been running. -/
def Call.SparesEnded (s : Store) (c : Call) (t : String) : Prop :=
  (∀ m, c.Admits s (.status m) → m.head.taskId ≠ t) ∧
  ∀ command runner, c = .command command → command.Stops s runner →
    runner.currentTaskId = some t → ¬ s.hasRun t

/-- A result of an ended task is not filed. -/
theorem Call.Admits.result_spares {m : ResultMessage} (h : c.Admits s (.result m))
    (hrow : s.tasks.get? t = some row) (hterm : row.state.terminal) : m.head.taskId ≠ t := by
  rintro rfl
  obtain ⟨_, _, _, _, _, _, _, _, task, htask, _, _, him⟩ := h
  rw [immutableFor_iff, Message.kind_result] at him
  rw [desk_tasks, Message.head_result, hrow] at htask
  cases htask
  exact him (.inr ⟨rfl, .inl hterm⟩)

theorem Call.SparesEnded.ended (he : s.desk.Ended t row.outcome)
    (hrow : s.tasks.get? t = some row)
    (hcontinue : ∀ command r, c = .command command → ¬ command.Continues cfg s t r)
    (hc : c.SparesEnded s t) : (c.step cfg s).desk.Ended t row.outcome := by
  have hstep : ∀ (d : Desk) (m : Move) (d' : Desk), d.Ended t row.outcome → m.Spares t →
      d.Step m d' → d'.Ended t row.outcome := fun _ _ _ hd hm h => hd.step hm h
  cases c with
  | command c =>
    refine Command.keeps (G := fun _ m => m.Spares t) hstep ?_ ?_ he
    · intro m hm
      cases m with
      | resume t' r =>
        rintro rfl
        exact hcontinue c r rfl hm
      | hold t' r =>
        rintro rfl
        obtain ⟨runner, hstops, _, hcur, hrun⟩ := hm
        exact hc.2 c runner rfl hstops hcur hrun
      | apply m => exact hm.elim
      | _ => trivial
    · intro d m hsched _
      cases m with
      | resume | hold | apply => exact hsched.elim
      | _ => trivial
  | message kind env payload credential =>
    refine Call.keeps_message (G := fun _ m => m.Spares t) hstep rfl (fun _ _ => trivial) ?_ he
    intro m M hm
    cases m with
    | status m => exact hc.1 m hm
    | result m => exact hm.result_spares hrow he.terminal

/-- A status that is filed, or a stopped Runner with the task when it has been running, takes an
    ended task out of its state. -/
theorem Call.SparesEnded.of_step (hrow : s.tasks.get? t = some row)
    (hterm : row.state.terminal)
    (h : ∃ row', (c.step cfg s).tasks.get? t = some row' ∧ row'.outcome = row.outcome) :
    c.SparesEnded s t := by
  obtain ⟨row', hrow', hsame⟩ := h
  have hstate : row'.state = row.state := congrArg Outcome.state hsame
  rw [← desk_tasks] at hrow'
  constructor
  · rintro m hm rfl
    obtain ⟨kind, env, payload, credential, hc, _⟩ := id hm
    obtain ⟨_, hno⟩ | ⟨m', hm', _, d, hrec, happ⟩ := message_moves cfg s hc
    · exact hno _ hm
    · obtain rfl := hm'.unique hm
      obtain ⟨row'', hrow'', hm⟩ := happ.status_state
      have := m.state_cases
      grind
  · rintro command runner rfl hstops hcur hrun
    obtain ⟨hget, now, s₁, hs₁, hdesk⟩ := hstops.step cfg
    obtain ⟨_, _, hmove⟩ := emergencyEffect_moves hget hs₁
    simp only [hcur, hrun, if_true] at hmove
    obtain ⟨row'', hrow'', hrec⟩ := hmove.2.hold_state
    rw [← hdesk] at hrow''
    change ((Call.command command).step cfg s).desk.tasks.get? t = some row'' at hrow''
    grind

/-- In a reachable store, a call other than a `continue` of an ended task leaves the state, the
    summary and the result hash of the task exactly when it spares the task. -/
theorem ended_iff (h : Reachable cfg s) (hrow : s.tasks.get? t = some row)
    (hterm : row.state.terminal)
    (hcontinue : ∀ command r, c = .command command → ¬ command.Continues cfg s t r) :
    (∃ row', (c.step cfg s).tasks.get? t = some row' ∧ row'.outcome = row.outcome) ↔
      c.SparesEnded s t := by
  constructor
  · exact .of_step hrow hterm
  · intro hc
    have he : Sound s.desk ∧ s.desk.HeldCancelled :=
      h.desk_invariant (I := fun d => Sound d ∧ d.HeldCancelled)
        (fun _ _ _ hd hm => ⟨hd.1.step hm, HeldCancelled.step hd.1 hd.2 hm⟩)
        ⟨Sound.empty, fun _ _ _ _ hr => by cases hr⟩
    exact (hc.ended ⟨he.1, he.2, ⟨row, hrow, rfl⟩, hterm⟩ hrow hcontinue).task

theorem ended_iff_sample : ∃ s row, s.tasks.get? samplePair.taskId = some row ∧
    row.state.terminal ∧
    ((∃ row', ((sampleStatus 3 .running).step sampleConfig s).tasks.get? samplePair.taskId =
        some row' ∧ row'.outcome = row.outcome) ↔
      (sampleStatus 3 .running).SparesEnded s samplePair.taskId) := by
  obtain ⟨s, hreach, hshows⟩ := sample_cancelled
  obtain ⟨row, hrow, _, _, _, _, hstate, _⟩ := hshows.task
  have hterm : row.state.terminal := by rw [hstate]; decide
  exact ⟨s, row, hrow, hterm, ended_iff hreach hrow hterm (fun _ _ h => by cases h)⟩

/-- A late status wakes a task that has been cancelled. -/
theorem ended_late_status : ∃ s row row', Reachable sampleConfig s ∧
    s.tasks.get? samplePair.taskId = some row ∧ row.state.terminal ∧
    ((sampleStatus 3 .running).step sampleConfig s).tasks.get? samplePair.taskId = some row' ∧
    row'.state ≠ row.state := by
  obtain ⟨s, hreach, hshows⟩ := sample_cancelled
  have hstatus := hshows.sampleStatus 3 .running (by decide) (by decide)
    (by decide) (by decide)
  obtain ⟨row, hrow, _, _, _, _, hstate, _⟩ := hshows.task
  obtain ⟨row', hrow', _, _, _, _, hstate', _⟩ := hstatus.task
  have hcancelled : row.state = .cancelled := hstate
  have hrunning : row'.state = .running := hstate'
  exact ⟨s, row, row', hreach, hrow, by rw [hcancelled]; decide, hrow',
    by rw [hcancelled, hrunning]; decide⟩

end Calls

end HomeAddons.Runner
