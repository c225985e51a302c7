import HomeAddons.Runner.Assignment

/-!
# Runner Center v2: messages in flight

A status or a result is two transactions: `_record_message` checks the sequence and the state of
the task and files the message, and the second transaction, which looks only at the assignment,
writes the task. Two laws about the interleaved system.

* `KeepsOrder`: sequences do not decrease within an epoch, and a message that is not newer than the
  task does not take it out of recovery or of an ended state. `keepsOrder_iff` says that the
  transactions keep the order exactly when the second transactions come in the order of the
  sequences.
* `Reflects`: a message that is answered as a duplicate has reached its task. `duplicate_iff` says
  that it has exactly when an update that covers it was committed and has not been undone since.
-/

namespace HomeAddons.Runner

open HomeAddons.Common

/-! ## The second transaction -/

/-- The result hash a message writes. -/
def Message.resultHash : Message → Option String
  | .status _ => none
  | .result m => some m.resultHash

@[simp, grind =] theorem Message.resultHash_status (m : StatusMessage) :
    (Message.status m).resultHash = none := rfl

@[simp, grind =] theorem Message.resultHash_result (m : ResultMessage) :
    (Message.result m).resultHash = some m.resultHash := rfl

/-- The task after the update of a message. -/
structure Message.Updated (m : Message) (row row' : TaskRow) : Prop where
  epoch : row'.assignmentEpoch = row.assignmentEpoch
  sequence : row'.sequence = m.head.sequence
  state : row'.state = m.state
  resultHash : row'.resultHash = (m.resultHash <|> row.resultHash)

section Apply

variable {d d' : Desk} {m : Message}

/-- The update of a message writes its task and no other. -/
theorem Desk.Step.apply_tasks (h : d.Step (.apply m) d') {row : TaskRow}
    (hrow : d.tasks.get? m.head.taskId = some row) :
    (∃ row', d'.tasks.get? m.head.taskId = some row' ∧ m.Updated row row') ∧
      ∀ t, t ≠ m.head.taskId → d'.tasks.get? t = d.tasks.get? t := by
  cases h with
  | @status task m now htask =>
    rw [Message.head_status] at hrow
    refine ⟨⟨statusTask now m row, by simp [hrow], rfl, rfl, rfl, rfl⟩, fun t ht => ?_⟩
    rw [Message.head_status] at ht
    simp [ht]
  | @result task m now htask =>
    rw [Message.head_result] at hrow
    refine ⟨⟨resultTask now m row, by simp [hrow], rfl, rfl, rfl, rfl⟩, fun t ht => ?_⟩
    rw [Message.head_result] at ht
    simp [ht]

end Apply

/-- A call in progress is about to write the task with this row. -/
def Center.Applies (x : Center) (e : Event) (m : Message) (row : TaskRow) : Prop :=
  ∃ i p, e = .apply i ∧ x.call? i true = some p ∧ p.message = m ∧
    x.store.tasks.get? m.head.taskId = some row ∧ m.head.holds row

variable {s : Store} {m : Message} {d d' : Desk} {x : Center} {e : Event} {row : TaskRow} {n : ℕ}

theorem applyMessage_holds {s' : Store} {env : Env} (h : applyMessage s env m = .ok s') :
    ∃ row, s.tasks.get? m.head.taskId = some row ∧ m.head.holds row := by
  cases m with
  | status m =>
    simp only [applyMessage, applyStatus, bind_eq_ok, lockedAssignment_eq_ok] at h
    obtain ⟨row, hrow, _⟩ := h
    exact ⟨row, hrow⟩
  | result m =>
    simp only [applyMessage, applyResult, bind_eq_ok, lockedAssignment_eq_ok] at h
    obtain ⟨row, hrow, _⟩ := h
    exact ⟨row, hrow⟩

/-- A call that still holds its task writes it. -/
theorem Center.Applies.step {x : Center} {e : Event} {m : Message} {row : TaskRow}
    (hs : Sound x.store.desk) (h : x.Applies e m row) (cfg : Config) :
    x.store.desk.Step (.apply m) (x.step cfg e).store.desk := by
  obtain ⟨i, p, rfl, hp, rfl, hrow, hholds⟩ := h
  have hassigned := (MessageHead.holds_iff.mp hholds).1
  obtain ⟨runner, hrun⟩ := Option.ne_none_iff_exists'.mp (hs.runner _ row _ hrow hassigned)
  obtain ⟨s', hs'⟩ := applyMessage_of_holds p.env hrow hholds hrun
  simp only [Center.step, hp, Option.elim_some, hs', committed_ok]
  exact (applyMessage_moves hs').2

/-- A transaction is a command, writes the task of a message, or leaves the tasks alone. -/
theorem Center.step_cases (cfg : Config) (x : Center) (e : Event) :
    (∃ c, e = .command c) ∨ (∃ m row, x.Applies e m row) ∨
      (x.step cfg e).store.tasks = x.store.tasks := by
  cases e with
  | command c => exact .inl ⟨c, rfl⟩
  | stop i => exact .inr (.inr rfl)
  | arrive kind env payload credential =>
    right; right
    simp only [Center.step]
    split <;> rfl
  | record i =>
    right; right
    simp only [Center.step]
    cases x.call? i false with
    | none => rfl
    | some p =>
      simp only [Option.elim_some, Center.record]
      split
      · next s' hrec =>
        obtain ⟨_, _, M, _, rfl⟩ := recordMessage_filed hrec
        rfl
      · next s' hrec => exact congrArg Store.tasks (recordMessage_duplicate hrec).1
      · rfl
  | apply i =>
    right
    simp only [Center.step]
    cases hp : x.call? i true with
    | none => exact .inr rfl
    | some p =>
      simp only [Option.elim_some]
      cases happ : applyMessage x.store p.env p.message with
      | error e => exact .inr rfl
      | ok s' =>
        left
        obtain ⟨row, hrow, hholds⟩ := applyMessage_holds happ
        exact ⟨p.message, row, i, p, rfl, hp, rfl, hrow, hholds⟩

/-! ## Order -/

/-- A state that a message must not take a task out of unless it is newer. -/
def TaskState.settled (t : TaskState) : Prop := t = .recoveryRequired ∨ t.terminal

/-- The second row is not older than the first: the epoch has grown, or has stayed and the sequence
    has not decreased. -/
@[grind] def TaskRow.NotAfter (row row' : TaskRow) : Prop :=
  row.assignmentEpoch < row'.assignmentEpoch ∨
    row.assignmentEpoch = row'.assignmentEpoch ∧ row.sequence ≤ row'.sequence

/-- No task of the second desk is older than on the first. -/
def Desk.Ordered (d d' : Desk) : Prop :=
  ∀ t row, d.tasks.get? t = some row → ∃ row', d'.tasks.get? t = some row' ∧ row.NotAfter row'

theorem Desk.Ordered.refl (d : Desk) : d.Ordered d :=
  fun _ row hrow => ⟨row, hrow, .inr ⟨rfl, le_rfl⟩⟩

theorem Desk.Ordered.trans {d₁ : Desk} (h : d.Ordered d₁) (h' : d₁.Ordered d') : d.Ordered d' := by
  intro t row hrow
  obtain ⟨row₁, hrow₁, hle⟩ := h t row hrow
  obtain ⟨row', hrow', hle'⟩ := h' t row₁ hrow₁
  exact ⟨row', hrow', by grind⟩

/-- Only the update of a message may write a smaller sequence. -/
theorem Desk.Step.ordered {m : Move} (h : d.Step m d') (hm : ∀ x, m ≠ .apply x) : d.Ordered d' := by
  intro t row hrow
  cases h with
  | enqueue hT =>
    have hnew := Table.get?_of_insert? hT
    simp only [Table.get?_insert? hT] at *
    grind
  | status | result => exact absurd rfl (hm _)
  | _ =>
    simp only [Table.get?_update_eq_some] at *
    grind

/-- A transaction keeps the order of messages: no sequence decreases within an epoch, and a message
    that is not newer than its task does not take it out of a settled state. -/
structure Center.KeepsOrder (cfg : Config) (x : Center) (e : Event) : Prop where
  ordered : x.store.desk.Ordered (x.step cfg e).store.desk
  settled : ∀ m row row', x.Applies e m row →
    (x.step cfg e).store.tasks.get? m.head.taskId = some row' → row.state.settled →
    m.head.sequence ≤ row.sequence → row'.state = row.state

/-- The update of a message is newer than its task, or as new and then not against the settled
    state of the task. -/
def Center.InOrder (x : Center) (e : Event) : Prop :=
  ∀ m row, x.Applies e m row → row.sequence < m.head.sequence ∨
    row.sequence = m.head.sequence ∧ (row.state.settled → m.state = row.state)

/-- A transaction is about to write the task of at most one message. -/
theorem Center.Applies.unique {m' : Message} {row' : TaskRow} (h : x.Applies e m row)
    (h' : x.Applies e m' row') : m' = m ∧ row' = row := by
  obtain ⟨i, p, rfl, hp, rfl, hrow, _⟩ := h
  obtain ⟨j, q, hij, hq, rfl, hrow', _⟩ := h'
  cases hij
  rw [hp] at hq
  cases hq
  rw [hrow] at hrow'
  cases hrow'
  exact ⟨rfl, rfl⟩

/-- The update of a message keeps the order exactly when it is in order. -/
theorem Center.Applies.keepsOrder_iff {cfg : Config} (hs : Sound x.store.desk)
    (h : x.Applies e m row) : x.KeepsOrder cfg e ↔ x.InOrder e := by
  obtain ⟨_, _, _, _, _, hrow, _⟩ := id h
  obtain ⟨⟨row', hrow', hup⟩, hother⟩ := (h.step hs cfg).apply_tasks hrow
  constructor
  · intro hk m₁ row₁ h₁
    obtain ⟨rfl, rfl⟩ := h.unique h₁
    obtain ⟨row'', hrow'', hle⟩ := hk.ordered _ row₁ hrow
    obtain rfl : row'' = row' := Option.some.inj (hrow''.symm.trans hrow')
    have hseq : row₁.sequence ≤ m₁.head.sequence := by
      have := hup.epoch
      have := hup.sequence
      grind
    rcases hseq.lt_or_eq with hlt | heq
    · exact .inl hlt
    · refine .inr ⟨heq, fun hsettled => ?_⟩
      rw [← hup.state]
      exact hk.settled m₁ row₁ row'' h hrow' hsettled heq.ge
  · intro hin
    have hmsg := hin m row h
    constructor
    · intro t row₁ hrow₁
      by_cases ht : t = m.head.taskId
      · subst ht
        obtain rfl : row₁ = row := Option.some.inj (hrow₁.symm.trans hrow)
        refine ⟨row', hrow', .inr ⟨hup.epoch.symm, ?_⟩⟩
        rw [hup.sequence]
        omega
      · exact ⟨row₁, (hother t ht).trans hrow₁, .inr ⟨rfl, le_rfl⟩⟩
    · intro m₁ row₁ row'' h₁ hrow'' hsettled hle
      obtain ⟨rfl, rfl⟩ := h.unique h₁
      obtain rfl : row'' = row' := Option.some.inj (hrow''.symm.trans hrow')
      rw [hup.state]
      exact (hmsg.resolve_left (by omega)).2 hsettled

/-- Commands keep the order. -/
theorem Command.ordered (cfg : Config) (s : Store) (c : Command) :
    s.desk.Ordered (c.step cfg s).desk := by
  refine Command.keeps (I := fun d => s.desk.Ordered d) (G := fun _ m => ∀ y, m ≠ .apply y)
    ?_ ?_ ?_ (.refl _)
  · intro d m d' hd hm hstep
    exact hd.trans (hstep.ordered hm)
  · rintro m hm y rfl
    exact hm
  · rintro d m hsched _ y rfl
    exact hsched

/-- A transaction keeps the order exactly when it is in order. -/
theorem Center.keepsOrder_iff (cfg : Config) (e : Event) (hs : Sound x.store.desk) :
    x.KeepsOrder cfg e ↔ x.InOrder e := by
  by_cases happ : ∃ m row, x.Applies e m row
  · obtain ⟨m, row, happ⟩ := happ
    exact happ.keepsOrder_iff hs
  · have hno : ∀ m row, ¬ x.Applies e m row := fun m row h => happ ⟨m, row, h⟩
    refine ⟨fun _ m row h => absurd h (hno m row),
      fun _ => ⟨?_, fun m row _ h => absurd h (hno m row)⟩⟩
    obtain ⟨c, rfl⟩ | h | htasks := Center.step_cases cfg x e
    · exact c.ordered cfg x.store
    · exact absurd h happ
    · intro t row hrow
      refine ⟨row, ?_, .inr ⟨rfl, le_rfl⟩⟩
      rwa [desk_tasks, htasks]

/-- In any interleaving of transactions from a new database, the transactions all keep the order of
    messages exactly when the second transactions are all in order. -/
theorem messageOrder_iff (cfg : Config) (events : List Event) :
    EveryStep (Center.step cfg) (fun x e => x.KeepsOrder cfg e) Center.empty events ↔
      EveryStep (Center.step cfg) (fun x e => x.InOrder e) Center.empty events :=
  everyStep_congr (Center.step cfg) (I := fun x => Sound x.store.desk)
    (fun x e hx => x.keeps (fun _ _ _ hs => hs.step) e hx)
    (fun x e hx => x.keepsOrder_iff cfg e hx) Sound.empty

/-! ## Duplicates -/

/-- The task reflects the message: its sequence is not smaller, and it has the hash of a result. -/
def Desk.Reflects (d : Desk) (m : Message) : Prop :=
  ∃ row, d.tasks.get? m.head.taskId = some row ∧ m.head.sequence ≤ row.sequence ∧
    ∀ hash, m.resultHash = some hash → row.resultHash = some hash

/-- The update of a message that covers `m`: of the same task, not older, and leaving the hash of
    the result that `m` may be. -/
def Center.Commits (x : Center) (e : Event) (m : Message) : Prop :=
  ∃ p row, x.Applies e p row ∧ p.head.taskId = m.head.taskId ∧
    m.head.sequence ≤ p.head.sequence ∧
    ∀ hash, m.resultHash = some hash → (p.resultHash <|> row.resultHash) = some hash

/-- `claim_next` assigns the task of `m` again, `continue` clears its result, or the update of an
    older message or of another result overwrites it. -/
def Center.Undoes (cfg : Config) (x : Center) (e : Event) (m : Message) : Prop :=
  (∃ c, e = .command c ∧ c.Claims cfg x.store m.head.taskId) ∨
  (∃ c r, e = .command c ∧ c.Continues cfg x.store m.head.taskId r ∧ m.resultHash.isSome) ∨
  ∃ p row, x.Applies e p row ∧ p.head.taskId = m.head.taskId ∧
    (p.head.sequence < m.head.sequence ∨
      ∃ hash hash', m.resultHash = some hash ∧ p.resultHash = some hash' ∧ hash' ≠ hash)

/-- The moves that leave what the task of `m` reflects. -/
def Move.Leaves (m : Message) : Move → Prop
  | .assign t _ => t ≠ m.head.taskId
  | .resume t _ => m.resultHash = none ∨ t ≠ m.head.taskId
  | .apply _ => False
  | _ => True

section Duplicates

variable {cfg : Config} {m : Message}

theorem Desk.Reflects.step {d d' : Desk} {mv : Move} (h : d.Reflects m) (hstep : d.Step mv d')
    (hm : mv.Leaves m) : d'.Reflects m := by
  obtain ⟨row, hrow, hseq, hhash⟩ := h
  simp only [Move.Leaves] at hm
  unfold Desk.Reflects
  cases hstep with
  | enqueue hT =>
    simp only [Table.get?_insert? hT] at *
    grind
  | status | result => exact hm.elim
  | _ =>
    simp only [Table.get?_update_eq_some] at *
    grind

variable {d d' : Desk}

/-- No move but the update of a message makes a task reflect one. -/
theorem Desk.Reflects.of_step {mv : Move} (hpos : 2 ≤ m.head.sequence) (h : d'.Reflects m)
    (hstep : d.Step mv d') (hm : ∀ y, mv ≠ .apply y) : d.Reflects m := by
  obtain ⟨row, hrow, hseq, hhash⟩ := h
  unfold Desk.Reflects
  cases hstep with
  | enqueue hT =>
    simp only [Table.get?_insert? hT] at *
    grind
  | status | result => exact absurd rfl (hm _)
  | _ =>
    simp only [Table.get?_update_eq_some] at *
    grind

/-- Assigned tasks are at sequence one or later, so messages in the log at two or later. -/
structure Desk.Numbered (d : Desk) : Prop where
  assigned : ∀ t row, d.tasks.get? t = some row → row.assignedRunnerId ≠ none → 1 ≤ row.sequence
  logged : ∀ k msg, d.messages.get? k = some msg → 2 ≤ k.sequence

theorem Numbered.empty : Desk.empty.Numbered := ⟨by simp [Desk.empty], by simp [Desk.empty]⟩

theorem Desk.Numbered.step {d d' : Desk} {mv : Move} (hn : d.Numbered) (h : d.Step mv d') :
    d'.Numbered := by
  have hassigned := hn.assigned
  have hlogged := hn.logged
  constructor
  · intro t row hrow hr
    cases h with
    | enqueue hT =>
      rw [Table.get?_insert? hT] at hrow
      grind
    | @status _ x =>
      have := x.head.sequence_pos
      simp only [Table.get?_update_eq_some] at *
      grind
    | @result _ x =>
      have := x.head.sequence_pos
      simp only [Table.get?_update_eq_some] at *
      grind
    | _ =>
      simp only [Table.get?_update_eq_some] at *
      grind
  · intro k msg hmsg
    cases h with
    | @record x M now hadmits hM =>
      obtain ⟨_, task, htask, hholds, hlt, _⟩ := hadmits
      rw [MessageHead.holds_iff] at hholds
      have := hassigned _ task htask (by simp [hholds.1])
      rw [Table.get?_insert? hM] at hmsg
      split_ifs at hmsg with hk
      · subst hk
        show 2 ≤ x.head.sequence
        omega
      · exact hlogged k msg hmsg
    | _ => exact hlogged k msg hmsg

/-- A claimed task starts at sequence one. -/
theorem Command.Claims.step {s : Store} {c : Command} {t : String} (h : c.Claims cfg s t) :
    ∃ row, (c.step cfg s).tasks.get? t = some row ∧ row.sequence = 1 := by
  obtain ⟨env, s', a, rfl, hs', rfl⟩ := h
  have hstep : (Command.claimNext env).step cfg s = s' := by
    simp [Command.step, Command.exec, hs', Except.map]
  rw [hstep]
  rcases hsa : selectAssignment cfg (env.clock 0) (idleRunners s) (waitingTasks s) s with
    ⟨s₁, _ | ⟨task, runner⟩⟩
  · simp [Runner.claimNext, hsa] at hs'
  · simp only [Runner.claimNext, hsa, bind_eq_ok, pure_eq_ok, Prod.mk.injEq, insertLease_eq_ok,
      taskRow_eq_ok, Option.some.injEq] at hs'
    obtain ⟨_, ⟨_, L, hL, rfl⟩, row, hrow, rfl, rfl⟩ := hs'
    have hid : row.taskId = task.taskId := Table.key_of_get? hrow
    rw [publicTask_taskId, hid]
    refine ⟨row, hrow, ?_⟩
    simp only [Store.event, Store.setTask, Store.setRunner, Table.get?_update_eq_some] at hrow
    obtain ⟨_, _, rfl⟩ := hrow
    simp [assignedTask]

theorem Desk.reflects_of_tasks (h : d'.tasks = d.tasks) : d'.Reflects m ↔ d.Reflects m := by
  unfold Desk.Reflects
  rw [h]

section Steps

variable {x : Center} {e : Event}

variable {p : Message} {row : TaskRow}

/-- The update of a message makes its task reflect `m` exactly when it covers `m`. -/
theorem Center.Applies.reflects_iff (hs : Sound x.store.desk) (h : x.Applies e p row)
    (ht : p.head.taskId = m.head.taskId) : (x.step cfg e).store.desk.Reflects m ↔
      m.head.sequence ≤ p.head.sequence ∧
        ∀ hash, m.resultHash = some hash → (p.resultHash <|> row.resultHash) = some hash := by
  obtain ⟨_, _, _, _, _, hrow, _⟩ := id h
  obtain ⟨⟨row', hrow', hup⟩, _⟩ := (h.step hs cfg).apply_tasks hrow
  rw [← hup.sequence, ← hup.resultHash]
  constructor
  · rintro ⟨row'', hrow'', hseq, hhash⟩
    rw [← ht, hrow'] at hrow''
    cases hrow''
    exact ⟨hseq, hhash⟩
  · rintro ⟨hseq, hhash⟩
    exact ⟨row', ht ▸ hrow', hseq, hhash⟩

/-- The update of a message leaves what other tasks reflect. -/
theorem Center.Applies.reflects_of_ne (hs : Sound x.store.desk) (h : x.Applies e p row)
    (ht : p.head.taskId ≠ m.head.taskId) :
    (x.step cfg e).store.desk.Reflects m ↔ x.store.desk.Reflects m := by
  obtain ⟨_, _, _, _, _, hrow, _⟩ := id h
  obtain ⟨_, hother⟩ := (h.step hs cfg).apply_tasks hrow
  unfold Desk.Reflects
  rw [hother _ ht.symm]

theorem Center.Commits.reflects (hs : Sound x.store.desk) (h : x.Commits e m) :
    (x.step cfg e).store.desk.Reflects m := by
  obtain ⟨p, row, happ, ht, hseq, hhash⟩ := h
  exact (happ.reflects_iff hs ht).mpr ⟨hseq, hhash⟩

/-- Only a covering update makes a task reflect a message. -/
theorem Center.Commits.of_reflects (hs : Sound x.store.desk) (hpos : 2 ≤ m.head.sequence)
    (hn : ¬ x.store.desk.Reflects m) (h : (x.step cfg e).store.desk.Reflects m) :
    x.Commits e m := by
  obtain ⟨c, rfl⟩ | ⟨p, row, happ⟩ | htasks := Center.step_cases cfg x e
  · refine absurd h (Command.keeps (I := fun d => ¬ d.Reflects m)
      (G := fun _ mv => ∀ y, mv ≠ .apply y) ?_ ?_ ?_ hn)
    · intro d mv d' hd hmv hstep hd'
      exact hd (hd'.of_step hpos hstep hmv)
    · rintro mv hmv y rfl
      exact hmv
    · rintro d mv hsched _ y rfl
      exact hsched
  · by_cases ht : p.head.taskId = m.head.taskId
    · obtain ⟨hseq, hhash⟩ := (happ.reflects_iff hs ht).mp h
      exact ⟨p, row, happ, ht, hseq, hhash⟩
    · exact absurd ((happ.reflects_of_ne hs ht).mp h) hn
  · exact absurd ((Desk.reflects_of_tasks htasks).mp h) hn

/-- A transaction that does not undo a message leaves what its task reflects. -/
theorem Center.reflects_of_not_undoes (hs : Sound x.store.desk) (h : x.store.desk.Reflects m)
    (hu : ¬ x.Undoes cfg e m) : (x.step cfg e).store.desk.Reflects m := by
  obtain ⟨c, rfl⟩ | ⟨p, row, happ⟩ | htasks := Center.step_cases cfg x e
  · have hleaves : ∀ mv, c.Issues cfg x.store mv → mv.Leaves m := by
      intro mv hmv
      cases mv with
      | assign t r =>
        rintro rfl
        exact hu (.inl ⟨c, rfl, hmv⟩)
      | resume t r =>
        by_contra hno
        obtain ⟨hhash, rfl⟩ : m.resultHash ≠ none ∧ t = m.head.taskId := by
          simpa [Move.Leaves] using hno
        exact hu (.inr (.inl ⟨c, r, rfl, hmv, Option.isSome_iff_ne_none.mpr hhash⟩))
      | apply y => exact hmv.elim
      | _ => trivial
    exact Command.keeps (I := fun d => d.Reflects m) (G := fun _ mv => mv.Leaves m)
      (fun d mv d' hd hmv hstep => hd.step hstep hmv) hleaves (fun _ mv _ => hleaves mv) h
  · by_cases ht : p.head.taskId = m.head.taskId
    · obtain ⟨row', hrow', _, hhash⟩ := h
      obtain ⟨_, _, _, _, _, hrow, _⟩ := id happ
      rw [ht] at hrow
      obtain rfl : row' = row := Option.some.inj (hrow'.symm.trans hrow)
      refine (happ.reflects_iff hs ht).mpr ⟨?_, ?_⟩
      · by_contra hlt
        exact hu (.inr (.inr ⟨p, row', happ, ht, .inl (by omega)⟩))
      · intro hash hm
        cases hp : p.resultHash with
        | none => simpa using hhash hash hm
        | some hash' =>
          by_contra hne
          exact hu (.inr (.inr ⟨p, row', happ, ht, .inr ⟨hash, hash', hm, hp, by simpa using hne⟩⟩))
    · exact (happ.reflects_of_ne hs ht).mpr h
  · exact (Desk.reflects_of_tasks htasks).mpr h

/-- A transaction that undoes a message leaves a task that does not reflect it. -/
theorem Center.Undoes.not_reflects (hs : Sound x.store.desk) (hpos : 2 ≤ m.head.sequence)
    (hu : x.Undoes cfg e m) : ¬ (x.step cfg e).store.desk.Reflects m := by
  obtain ⟨c, rfl, hclaims⟩ | ⟨c, r, rfl, hcont, hhash⟩ | ⟨p, row, happ, ht, hno⟩ := hu
  · rintro ⟨row, hrow, hseq, _⟩
    obtain ⟨row', hrow', hone⟩ := hclaims.step
    obtain rfl : row = row' := Option.some.inj (hrow.symm.trans hrow')
    omega
  · rintro ⟨row, hrow, _, hhash'⟩
    obtain ⟨hash, hm⟩ := Option.isSome_iff_exists.mp hhash
    have hmove : x.store.desk.Step (.resume m.head.taskId r) (c.step cfg x.store).desk :=
      hcont.resume hs
    change (c.step cfg x.store).desk.tasks.get? m.head.taskId = some row at hrow
    have hnone : row.resultHash = none := by
      generalize (c.step cfg x.store).desk = d' at hmove hrow
      cases hmove
      simp only [Table.get?_update_eq_some] at hrow
      grind
    rw [hnone] at hhash'
    cases hhash' hash hm
  · rw [happ.reflects_iff hs ht]
    rintro ⟨hseq, hhash⟩
    obtain hlt | ⟨hash, hash', hm, hp, hne⟩ := hno
    · omega
    · have := hhash hash hm
      rw [hp] at this
      exact hne (Option.some.inj this)

end Steps

/-- In any interleaving of transactions from a new database, when `_record_message` answers a
    message as a duplicate, the task reflects the message exactly when an update that covers it was
    committed and has not been undone since. -/
theorem duplicate_iff (cfg : Config) (events : List Event) {now : Instant} {s' : Store}
    (hdup : recordMessage (runFrom (Center.step cfg) Center.empty events).store now m =
      .ok (s', true)) :
    (runFrom (Center.step cfg) Center.empty events).store.desk.Reflects m ↔
      Established (Center.step cfg) (fun x e => x.Commits e m) (fun x e => x.Undoes cfg e m)
        Center.empty events := by
  have hpos : 2 ≤ m.head.sequence := by
    have hn : (runFrom (Center.step cfg) Center.empty events).store.desk.Numbered :=
      invariant_of_reachable (Center.step cfg) (I := fun x => x.store.desk.Numbered)
        (fun x e hx => x.keeps (fun _ _ _ hd h => hd.step h) e hx)
        (show Center.empty.store.desk.Numbered from Numbered.empty) ⟨events, rfl⟩
    obtain ⟨_, existing, hex⟩ := recordMessage_duplicate hdup
    exact hn.logged _ existing hex
  refine established_iff (Center.step cfg) (I := fun x => Sound x.store.desk)
    (P := fun x => x.store.desk.Reflects m)
    (fun x e hx => x.keeps (fun _ _ _ hs => hs.step) e hx) (fun x e hx hc => hc.reflects hx)
    (fun x e hx hn h => .of_reflects hx hpos hn h)
    (fun x e hx h hu => x.reflects_of_not_undoes hx h hu)
    (fun x e hx hu => hu.not_reflects hx hpos) Sound.empty ?_
  rintro ⟨row, hrow, _⟩
  cases hrow

end Duplicates

/-! ## Interleavings of the sample run -/

theorem runFrom_commands (cfg : Config) (s : Store) (cs : List Command) :
    runFrom (Center.step cfg) ⟨s, []⟩ (cs.map .command) =
      ⟨runFrom (Call.step cfg) s (cs.map .command), []⟩ := by
  induction cs generalizing s with
  | nil => rfl
  | cons c cs ih => exact ih _

/-- The transactions of the sample run. -/
def sampleEvents : List Event := (enrollCalls ++ pulseCall 1 .idle :: startCalls).map .command

theorem sampleEvents_run :
    runFrom (Center.step sampleConfig) Center.empty sampleEvents = ⟨sampleStore, []⟩ :=
  runFrom_commands sampleConfig Store.empty _

/-- The `running` status of the sample pair with a sequence. -/
def sampleMessage (n : ℕ) (h : 1 ≤ n) : Message :=
  .status ((sampleCover_valid h).status .running (by decide) "codex")

/-- The arrival of that status. -/
def sampleArrival (n : ℕ) : Event :=
  .arrive .status (sampleEnv 0) (withDigest (statusDocument (samplePair.cover n) .running "codex"))
    sampleCredential

/-- A store that has only filed messages since the sample run. -/
structure Store.Filing (s : Store) (last : ℕ) : Prop where
  tasks : s.tasks = sampleStore.tasks
  runners : s.runners = sampleStore.runners
  credentials : s.credentials = sampleStore.credentials
  log : ∀ k msg, s.messages.get? k = some msg → k.sequence ≤ last

theorem sampleStore_filing : sampleStore.Filing 1 := ⟨rfl, rfl, rfl, sampleStore_shows.log⟩

/-- The assignment of the sample task covers the messages of the sample pair. -/
theorem sampleMessage_holds (hpos : 1 ≤ n)
    (hassigned : row.assignedRunnerId = some samplePair.runnerId)
    (hepoch : row.assignmentEpoch = samplePair.assignmentEpoch)
    (hlease : row.leaseId = some samplePair.leaseId) : (sampleMessage n hpos).head.holds row := by
  rw [MessageHead.holds_iff, hassigned, hepoch, hlease]
  exact ⟨rfl, rfl, by simp [sampleMessage, Cover.Valid.status, Cover.Valid.head, Pair.cover,
    Json.eqStr?, Json.eqStr]⟩

/-- A newer status arrives and is filed. -/
theorem Store.Filing.file {last i : ℕ} (h : s.Filing last) (calls : List Pending)
    (hn : n ∈ [2, 3]) (hpos : 1 ≤ n) (hlast : last < n) (hi : i = calls.length) : ∃ s' M,
      s.messages.insert? ⟨(sampleMessage n hpos).key, (sampleMessage n hpos).head.bodyDigest,
        (sampleEnv 0).clock 1⟩ = some M ∧ s'.messages = M ∧
      runFrom (Center.step sampleConfig) ⟨s, calls⟩ [sampleArrival n, .record i] =
        ⟨s', calls ++ [⟨sampleEnv 0, sampleMessage n hpos, true⟩]⟩ ∧ s'.Filing n := by
  obtain ⟨row, hrow, hassigned, hepoch, hlease, _, hstate, hseq, _⟩ := sampleStore_shows.task
  obtain ⟨runner, hrun, hen, _⟩ := sampleStore_shows.runner
  have hcred : verifyCredential s (.str samplePair.runnerId) sampleCredential = .ok () :=
    verifyCredential_congr sampleStore_shows.credential h.credentials (by rw [h.runners, hrun])
      (by rw [hen]; decide)
  have harr : Runner.arrive s (sampleEnv 0) .status
      (withDigest (statusDocument (samplePair.cover n) .running "codex")) sampleCredential =
        .ok (sampleMessage n hpos) :=
    arriveStatus_ok (sampleCover_valid hpos) (by decide) rfl
      ((sampleDocuments_small n hn).1 .running (by decide)) hcred
  have hsmall : 2 ≤ n ∧ n < 2 ^ 63 := by
    simp only [List.mem_cons, List.not_mem_nil, or_false] at hn
    obtain rfl | rfl := hn <;> decide
  have hadmits : s.desk.Admits (sampleMessage n hpos) := by
    refine ⟨?_, row, (by rw [desk_tasks, h.tasks]; exact hrow),
      sampleMessage_holds hpos hassigned hepoch hlease, ?_, ?_⟩
    · cases hmsg : s.desk.messages.get? (sampleMessage n hpos).key with
      | none => rfl
      | some msg =>
        have : n ≤ last := h.log _ msg hmsg
        omega
    · rw [hseq]
      exact hsmall.1
    · rw [hstate]
      exact (by decide : ¬ immutableFor .status .leased = true)
  have hstorable : (sampleMessage n hpos).Storable := ⟨(by decide : (1 : ℕ) < 2 ^ 63), hsmall.2⟩
  obtain ⟨M, hM, hrec⟩ := recordMessage_of_admits ((sampleEnv 0).clock 1) hstorable hadmits
  refine ⟨{ s with messages := M }, M, hM, rfl, ?_, h.tasks, h.runners, h.credentials,
    fun k msg hk => ?_⟩
  · subst hi
    simp only [runFrom_cons, runFrom_nil, sampleArrival, Center.step, harr, Center.call?,
      List.getElem?_concat_length, Option.filter_some, decide_true, if_true, Option.elim_some,
      Center.record, hrec, List.set_append_right _ _ le_rfl, Nat.sub_self, List.set_cons_zero]
  · rw [Table.get?_insert? hM] at hk
    split_ifs at hk with e
    · exact e ▸ le_rfl
    · exact (h.log k msg hk).trans hlast.le

/-- A status that was answered as a duplicate although its second transaction never came. -/
def abandonedEvents : List Event := sampleEvents ++ ([sampleArrival 2, .record 0] ++ [.stop 0])

theorem abandoned_run : ∃ s, runFrom (Center.step sampleConfig) Center.empty abandonedEvents =
    ⟨s, []⟩ ∧ s.Filing 2 ∧ s.messages.get? (sampleMessage 2 (by decide)).key =
      some ⟨(sampleMessage 2 (by decide)).key, (sampleMessage 2 (by decide)).head.bodyDigest,
        (sampleEnv 0).clock 1⟩ := by
  obtain ⟨s, M, hM, rfl, hrun, hfiling⟩ :=
    sampleStore_filing.file [] (by decide : 2 ∈ [2, 3]) (by decide) (by decide) (i := 0) rfl
  refine ⟨s, ?_, hfiling, by simp [Table.get?_insert? hM]⟩
  rw [abandonedEvents, runFrom_append, sampleEvents_run, runFrom_append, hrun, runFrom_cons,
    runFrom_nil]
  rfl

theorem abandoned_duplicate : ∃ s', recordMessage
    (runFrom (Center.step sampleConfig) Center.empty abandonedEvents).store ((sampleEnv 0).clock 1)
      (sampleMessage 2 (by decide)) = .ok (s', true) := by
  obtain ⟨s, hrun, _, hget⟩ := abandoned_run
  have hint : (sampleMessage 2 (by decide)).Storable :=
    ⟨(by decide : (1 : ℕ) < 2 ^ 63), (by decide : (2 : ℕ) < 2 ^ 63)⟩
  refine ⟨s, ?_⟩
  rw [hrun]
  simpa [recordMessage, sqlInt, hget, Message.Storable] using hint

theorem abandoned_not_reflects :
    ¬ (runFrom (Center.step sampleConfig) Center.empty abandonedEvents).store.desk.Reflects
      (sampleMessage 2 (by decide)) := by
  obtain ⟨s, hrun, hfiling, _⟩ := abandoned_run
  obtain ⟨row, hrow, _, _, _, _, _, hseq, _⟩ := sampleStore_shows.task
  rw [hrun]
  rintro ⟨row', hrow', hle, _⟩
  have htask : (sampleMessage 2 (by decide)).head.taskId = samplePair.taskId := rfl
  rw [desk_tasks, hfiling.tasks, htask, hrow] at hrow'
  obtain rfl : row = row' := Option.some.inj hrow'
  rw [hseq] at hle
  exact absurd hle (by decide)

theorem duplicate_iff_sample : ¬ Established (Center.step sampleConfig)
    (fun x e => x.Commits e (sampleMessage 2 (by decide)))
    (fun x e => x.Undoes sampleConfig e (sampleMessage 2 (by decide))) Center.empty
    abandonedEvents := by
  obtain ⟨s', hdup⟩ := abandoned_duplicate
  exact (duplicate_iff sampleConfig abandonedEvents hdup).not.mp abandoned_not_reflects

/-- The process stops between the transactions of a status, and its retry is answered as a
    duplicate. -/
theorem duplicate_unapplied :
    (∃ s', recordMessage (runFrom (Center.step sampleConfig) Center.empty abandonedEvents).store
      ((sampleEnv 0).clock 1) (sampleMessage 2 (by decide)) = .ok (s', true)) ∧
    ¬ (runFrom (Center.step sampleConfig) Center.empty abandonedEvents).store.desk.Reflects
      (sampleMessage 2 (by decide)) :=
  ⟨abandoned_duplicate, abandoned_not_reflects⟩

/-- Two statuses whose second transactions come in the wrong order. -/
def crossedEvents : List Event := sampleEvents ++ ([sampleArrival 2, .record 0] ++
  ([sampleArrival 3, .record 1] ++ [.apply 1, .apply 0]))

/-- The update of a status leaves the assignment as it is. -/
theorem Center.Applies.status_task {m : StatusMessage} (hs : Sound x.store.desk)
    (h : x.Applies e (.status m) row) (cfg : Config) :
    ∃ now, (x.step cfg e).store.tasks.get? m.head.taskId = some (statusTask now m row) := by
  have hstep := h.step hs cfg
  obtain ⟨_, _, _, _, _, hrow, _⟩ := h
  rw [← desk_tasks]
  generalize (x.step cfg e).store.desk = d' at hstep ⊢
  cases hstep with
  | status now htask =>
    rw [Message.head_status] at hrow
    exact ⟨now, by simp [hrow]⟩

/-- The older of two filed statuses is written last. -/
theorem crossed_at (hs : Sound s.desk) (h : s.Filing 3) :
    ¬ EveryStep (Center.step sampleConfig) (fun x e => x.KeepsOrder sampleConfig e)
      ⟨s, [⟨sampleEnv 0, sampleMessage 2 (by decide), true⟩,
        ⟨sampleEnv 0, sampleMessage 3 (by decide), true⟩]⟩ [.apply 1, .apply 0] := by
  obtain ⟨row, hrow, hassigned, hepoch, hlease, _⟩ := sampleStore_shows.task
  set x : Center := ⟨s, [⟨sampleEnv 0, sampleMessage 2 (by decide), true⟩,
    ⟨sampleEnv 0, sampleMessage 3 (by decide), true⟩]⟩ with hx
  have happ : x.Applies (.apply 1) (sampleMessage 3 (by decide)) row :=
    ⟨1, _, rfl, rfl, rfl, (by rw [h.tasks]; exact hrow),
      sampleMessage_holds (by decide) hassigned hepoch hlease⟩
  obtain ⟨now, hnow⟩ := happ.status_task hs sampleConfig
  have hcalls : (x.step sampleConfig (.apply 1)).calls =
      [⟨sampleEnv 0, sampleMessage 2 (by decide), true⟩] := rfl
  have hs₁ : Sound (x.step sampleConfig (.apply 1)).store.desk := hs.step (happ.step hs sampleConfig)
  rintro ⟨_, hlast, _⟩
  generalize x.step sampleConfig (.apply 1) = x₁ at *
  have happ₁ : x₁.Applies (.apply 0) (sampleMessage 2 (by decide)) _ :=
    ⟨0, _, rfl, (by rw [Center.call?, hcalls]; rfl), rfl, hnow,
      sampleMessage_holds (by decide) hassigned hepoch hlease⟩
  obtain ⟨now', hnow'⟩ := happ₁.status_task hs₁ sampleConfig
  obtain ⟨row', hrow', hle⟩ := hlast.ordered _ _ hnow
  have hrow' : (x₁.step sampleConfig (.apply 0)).store.tasks.get? samplePair.taskId = some row' :=
    hrow'
  obtain rfl := Option.some.inj (hrow'.symm.trans hnow')
  obtain hlt | ⟨_, hle⟩ := hle
  · exact lt_irrefl _ hlt
  · exact absurd hle (by decide : ¬ 3 ≤ 2)

/-- Two statuses are filed in the order of their sequences and written in the other order. -/
theorem messageOrder_crossed : ¬ EveryStep (Center.step sampleConfig)
    (fun x e => x.KeepsOrder sampleConfig e) Center.empty crossedEvents := by
  obtain ⟨s, _, _, _, hrun, hfiling⟩ :=
    sampleStore_filing.file [] (by decide : 2 ∈ [2, 3]) (by decide) (by decide) (i := 0) rfl
  obtain ⟨s', _, _, _, hrun', hfiling'⟩ :=
    hfiling.file [⟨sampleEnv 0, sampleMessage 2 (by decide), true⟩] (by decide : 3 ∈ [2, 3])
      (by decide) (by decide) (i := 1) rfl
  have hsound : Sound s'.desk := by
    have h : Sound (runFrom (Center.step sampleConfig) Center.empty
        (sampleEvents ++ ([sampleArrival 2, .record 0] ++ [sampleArrival 3, .record 1]))).store.desk :=
      Center.sound ⟨_, rfl⟩
    rw [runFrom_append, sampleEvents_run, runFrom_append, hrun, List.nil_append, hrun'] at h
    exact h
  intro h
  rw [crossedEvents, everyStep_append, sampleEvents_run, everyStep_append, everyStep_append, hrun,
    List.nil_append, hrun'] at h
  exact crossed_at hsound hfiling' h.2.2.2

end HomeAddons.Runner
