import HomeAddons.Runner.Acceptance

/-!
# Runner Center v2: sound assignments

The invariant `Sound` of the desk: what the task, lease and Runner tables say about assignments
agrees in every reachable state, with or without message calls in progress. Each field has its
own step lemma; `Sound.step` puts them together, and `Reachable.sound` and `Center.sound` carry
the invariant along the runs of the two systems.

`lease_fencing` is its first consequence: leases are numbered by the epochs of their task, an
active lease agrees with its task, and a message that does not name the current assignment of its
task changes neither tasks nor leases.
-/

namespace HomeAddons.Runner

open HomeAddons.Common

/-! ## The invariant -/

/-- The epochs of the leases of a task, oldest first. -/
def leaseEpochs (L : Table LeaseRow.leaseId) (taskId : String) : List ℕ :=
  (L.rows.filter fun l => l.taskId = taskId).map LeaseRow.assignmentEpoch

/-- The epoch of a task; a task that does not exist has had no assignment. -/
def taskEpoch (T : Table TaskRow.taskId) (taskId : String) : ℕ :=
  ((T.get? taskId).map TaskRow.assignmentEpoch).getD 0

/-- The tables agree about assignments. -/
structure Sound (d : Desk) : Prop where
  /-- A waiting task is not assigned. -/
  waiting : ∀ t row, d.tasks.get? t = some row → row.state = .waitingRunner →
    row.assignedRunnerId = none
  /-- A task has a lease when it has a Runner. -/
  lease_iff : ∀ t row, d.tasks.get? t = some row →
    (row.leaseId = none ↔ row.assignedRunnerId = none)
  /-- The Runner of a task is registered. -/
  runner : ∀ t row r, d.tasks.get? t = some row → row.assignedRunnerId = some r →
    d.runners.get? r ≠ none
  /-- The lease of a task is the lease of its current assignment. -/
  named : ∀ t row l, d.tasks.get? t = some row → row.leaseId = some l →
    ∃ lease, d.leases.get? l = some lease ∧ lease.taskId = t ∧
      row.assignedRunnerId = some lease.runnerId ∧ lease.assignmentEpoch = row.assignmentEpoch
  /-- An active lease is the lease of its task and expires with it. -/
  active : ∀ l lease, d.leases.get? l = some lease → lease.state = .active →
    ∃ row, d.tasks.get? lease.taskId = some row ∧ row.leaseId = some l ∧
      row.leaseExpiresAt = some lease.expiresAt
  /-- The task a Runner holds exists and is assigned to it. -/
  current : ∀ r runner t, d.runners.get? r = some runner → runner.currentTaskId = some t →
    ∃ row, d.tasks.get? t = some row ∧ row.assignedRunnerId = some r
  /-- The leases of a task are numbered from one to its epoch. -/
  epochs : ∀ t, leaseEpochs d.leases t = List.range' 1 (taskEpoch d.tasks t)

theorem Sound.empty : Sound Desk.empty :=
  ⟨by simp [Desk.empty], by simp [Desk.empty], by simp [Desk.empty], by simp [Desk.empty],
    by simp [Desk.empty], by simp [Desk.empty],
    fun t => by simp [Desk.empty, leaseEpochs, Table.empty, taskEpoch, Table.get?]⟩

section Step

variable {d d' : Desk} {m : Move}

variable {lease : LeaseRow}

/-- The lease a row names and the leases that are active, as facts about one desk. -/
theorem Sound.active_eq {l : String} {row : TaskRow} (hs : Sound d)
    (hl : d.leases.get? l = some lease) (ha : lease.state = .active)
    (hrow : d.tasks.get? lease.taskId = some row) : row.leaseId = some l := by
  obtain ⟨row', hrow', hid, _⟩ := hs.active l lease hl ha
  rw [hrow] at hrow'
  cases hrow'
  exact hid

theorem Sound.waiting_step (hs : Sound d) (h : d.Step m d') (t : String) (row : TaskRow)
    (ht : d'.tasks.get? t = some row) (hw : row.state = .waitingRunner) :
    row.assignedRunnerId = none := by
  have hwaiting := hs.waiting
  cases h with
  | enqueue hT hstate hassigned =>
    rw [Table.get?_insert? hT] at ht
    grind
  | @status _ m =>
    have := m.state_cases
    simp only [Table.get?_update_eq_some] at *
    grind
  | @result _ m =>
    have := m.state_cases
    simp only [Table.get?_update_eq_some] at *
    grind
  | _ =>
    simp only [Table.get?_update_eq_some] at *
    grind

theorem Sound.lease_iff_step (hs : Sound d) (h : d.Step m d') (t : String) (row : TaskRow)
    (ht : d'.tasks.get? t = some row) : row.leaseId = none ↔ row.assignedRunnerId = none := by
  have hiff := hs.lease_iff
  cases h with
  | enqueue hT =>
    rw [Table.get?_insert? hT] at ht
    grind
  | _ =>
    simp only [Table.get?_update_eq_some] at *
    grind

/-- No move removes a Runner. -/
theorem Desk.Step.runner_mono (h : d.Step m d') {r : String} (hr : d.runners.get? r ≠ none) :
    d'.runners.get? r ≠ none := by
  cases h with
  | registry hR =>
    obtain ⟨h, _⟩ | ⟨row, row', _, h', _⟩ := hR r
    · exact absurd h hr
    · simp [h']
  | status =>
    simp only
    split_ifs
    · rwa [Table.get?_update_ne_none]
    · exact hr
  | _ => first | exact hr | rwa [Table.get?_update_ne_none]

theorem Sound.runner_step (hs : Sound d) (h : d.Step m d') (t : String) (row : TaskRow) (r : String)
    (ht : d'.tasks.get? t = some row) (hr : row.assignedRunnerId = some r) :
    d'.runners.get? r ≠ none := by
  apply h.runner_mono
  have hrunner := hs.runner
  cases h with
  | enqueue hT =>
    rw [Table.get?_insert? hT] at ht
    grind
  | _ =>
    simp only [Table.get?_update_eq_some] at *
    grind

theorem Sound.named_step (hs : Sound d) (h : d.Step m d') (t : String) (row : TaskRow) (l : String)
    (ht : d'.tasks.get? t = some row) (hl : row.leaseId = some l) :
    ∃ lease, d'.leases.get? l = some lease ∧ lease.taskId = t ∧
      row.assignedRunnerId = some lease.runnerId ∧ lease.assignmentEpoch = row.assignmentEpoch := by
  have hnamed := hs.named
  cases h with
  | enqueue hT =>
    rw [Table.get?_insert? hT] at ht
    grind
  | assign now _ _ _ _ _ _ _ _ _ _ hL =>
    -- a lease id that is new is not the lease of another task
    have hnew := Table.get?_of_insert? hL
    simp only [Table.get?_update_eq_some, Table.get?_insert? hL] at *
    grind
  | _ =>
    simp only [Table.get?_update_eq_some, Table.get?_updateWhere_eq_some] at *
    grind

theorem Sound.active_step (hs : Sound d) (h : d.Step m d') (l : String) (lease : LeaseRow)
    (hl : d'.leases.get? l = some lease) (ha : lease.state = .active) :
    ∃ row, d'.tasks.get? lease.taskId = some row ∧ row.leaseId = some l ∧
      row.leaseExpiresAt = some lease.expiresAt := by
  have hnamed := hs.named
  have hactive := hs.active
  have hwaiting := hs.waiting
  have hiff := hs.lease_iff
  cases h with
  | enqueue hT =>
    have hnew := Table.get?_of_insert? hT
    simp only [Table.get?_insert? hT] at *
    grind
  | assign now _ _ _ _ _ _ _ _ _ _ hL =>
    -- a waiting task has no active lease, so the new one is the only one
    simp only [Table.get?_update_eq_some, Table.get?_insert? hL] at *
    grind
  | _ =>
    simp only [Table.get?_update_eq_some, Table.get?_updateWhere_eq_some] at *
    grind

theorem Sound.current_step (hs : Sound d) (h : d.Step m d') (r : String) (runner : RunnerRow)
    (t : String) (hr : d'.runners.get? r = some runner) (hc : runner.currentTaskId = some t) :
    ∃ row, d'.tasks.get? t = some row ∧ row.assignedRunnerId = some r := by
  have hcurrent := hs.current
  have hwaiting := hs.waiting
  cases h with
  | registry hR =>
    obtain ⟨_, hseat⟩ | ⟨row, row', hget, hget', hseat, _⟩ := hR r
    · have := (hseat runner hr).1
      grind
    · grind
  | enqueue hT =>
    have hnew := Table.get?_of_insert? hT
    simp only [Table.get?_insert? hT] at *
    grind
  | @status _ m _ htask hholds =>
    simp only [MessageHead.holds, decide_eq_true_eq] at hholds
    split_ifs at hr
    · simp only [Table.get?_update_eq_some] at *
      grind
    · simp only [Table.get?_update_eq_some] at *
      grind
  | @result _ m _ htask hholds =>
    simp only [MessageHead.holds, decide_eq_true_eq] at hholds
    simp only [Table.get?_update_eq_some] at *
    grind
  | _ =>
    simp only [Table.get?_update_eq_some] at *
    grind

/-! ### Epochs -/

theorem leaseEpochs_updateWhere (L : Table LeaseRow.leaseId) (p : LeaseRow → Bool)
    (f : LeaseRow → LeaseRow) (hf : ∀ l, (f l).leaseId = l.leaseId)
    (htask : ∀ l, (f l).taskId = l.taskId) (hepoch : ∀ l, (f l).assignmentEpoch = l.assignmentEpoch)
    (t : String) : leaseEpochs (L.updateWhere p f hf) t = leaseEpochs L t := by
  have hcolumn := Table.map_rows_updateWhere L p f hf (fun l => (l.taskId, l.assignmentEpoch))
    fun l => by rw [htask, hepoch]
  have hepochs : ∀ M : Table LeaseRow.leaseId, leaseEpochs M t =
      ((M.rows.map fun l => (l.taskId, l.assignmentEpoch)).filter fun x => x.1 = t).map Prod.snd := by
    intro M
    rw [List.filter_map, List.map_map]
    rfl
  rw [hepochs, hepochs, hcolumn]

theorem leaseEpochs_update (L : Table LeaseRow.leaseId) (l : String)
    (f : LeaseRow → LeaseRow) (hf : ∀ l, (f l).leaseId = l.leaseId)
    (htask : ∀ l, (f l).taskId = l.taskId) (hepoch : ∀ l, (f l).assignmentEpoch = l.assignmentEpoch)
    (t : String) : leaseEpochs (L.update l f hf) t = leaseEpochs L t :=
  leaseEpochs_updateWhere L _ f hf htask hepoch t

/-- A new lease is the last one of its task. -/
theorem leaseEpochs_insert {L L' : Table LeaseRow.leaseId} (h : L.insert? lease = some L')
    (t : String) : leaseEpochs L' t =
      if t = lease.taskId then leaseEpochs L t ++ [lease.assignmentEpoch] else leaseEpochs L t := by
  unfold leaseEpochs
  rw [Table.rows_insert? h, List.filter_append, List.map_append]
  by_cases e : t = lease.taskId
  · simp [e]
  · have : ¬ lease.taskId = t := fun h => e h.symm
    simp [e, this]

/-- An update that leaves the epoch of the row alone. -/
theorem taskEpoch_update (T : Table TaskRow.taskId) (t : String) (f : TaskRow → TaskRow)
    (hf : ∀ x, (f x).taskId = x.taskId) (hepoch : ∀ x, (f x).assignmentEpoch = x.assignmentEpoch)
    (t' : String) : taskEpoch (T.update t f hf) t' = taskEpoch T t' := by
  unfold taskEpoch
  rw [Table.get?_update]
  cases T.get? t' <;> split_ifs <;> simp [hepoch]

theorem Sound.epochs_step (hs : Sound d) (h : d.Step m d') (t : String) :
    leaseEpochs d'.leases t = List.range' 1 (taskEpoch d'.tasks t) := by
  have hepochs := hs.epochs t
  cases h with
  | @enqueue row T hT _ _ _ hzero =>
    have hnew := Table.get?_of_insert? hT
    have : taskEpoch T t = taskEpoch d.tasks t := by
      unfold taskEpoch
      rw [Table.get?_insert? hT]
      split_ifs with e
      · simp [e, hnew, hzero]
      · rfl
    rwa [this]
  | @assign t' r task runner lease L now htask _ _ _ _ _ hlt _ hle _ hL =>
    rw [leaseEpochs_insert hL, hepochs]
    unfold taskEpoch
    rw [Table.get?_update]
    split_ifs with e e' e'
    · subst e
      have ht : d.tasks.get? lease.taskId = some task := hlt ▸ htask
      simp [ht, hle, assignedTask, List.range'_1_concat, Nat.add_comm 1]
    · exact absurd (e.trans hlt) e'
    · exact absurd (e'.trans hlt.symm) e
    · rfl
  | _ =>
    -- every other move keeps the epoch of each task and the task and epoch of each lease
    try rw [leaseEpochs_updateWhere]
    try rw [leaseEpochs_update]
    try rw [taskEpoch_update]
    · exact hepochs
    all_goals exact fun _ => rfl

theorem Sound.step (hs : Sound d) (h : d.Step m d') : Sound d' :=
  ⟨hs.waiting_step h, hs.lease_iff_step h, hs.runner_step h, hs.named_step h, hs.active_step h,
    hs.current_step h, hs.epochs_step h⟩

end Step

/-! ## Invariants of the desk along runs -/

section Runs

variable {cfg : Config} {s : Store} {I : Desk → Prop} {G : Desk → Move → Prop}

/-- A command keeps an invariant of the desk that its moves keep: the one move is made on the desk
    the command finds, scheduling moves on any desk on the way. -/
theorem Command.keeps (hstep : ∀ d m d', I d → G d m → d.Step m d' → I d') {c : Command}
    (hone : ∀ m, c.Issues cfg s m → G s.desk m)
    (hsched : ∀ d m, m.Scheduling → c.Issues cfg s m → G d m) (h : I s.desk) :
    I (c.step cfg s).desk := by
  obtain hsame | ⟨m, hm, hmove⟩ | ⟨ms, hpath, hms⟩ := c.moves cfg s
  · rwa [hsame]
  · exact hstep _ _ _ h (hone m hm) hmove
  · refine hpath.invariant (I := I) (G := fun m => m.Scheduling ∧ c.Issues cfg s m) ?_ hms h
    intro d m d' hI hm hmove
    exact hstep d m d' hI (hsched d m hm.1 hm.2) hmove

/-- A message call keeps an invariant of the desk that its two moves keep; when the second is made,
    only the message log has changed since the call began. -/
theorem Call.keeps_message (hstep : ∀ d m d', I d → G d m → d.Step m d' → I d') {c : Call}
    {kind : MessageKind} {env : Env} {payload : Dict} {credential : Json}
    (hc : c = .message kind env payload credential)
    (hrecord : ∀ m, c.Admits s m → G s.desk (.record m))
    (happly : ∀ m M, c.Admits s m → G { s.desk with messages := M } (.apply m)) (h : I s.desk) :
    I (c.step cfg s).desk := by
  obtain ⟨hsame, _⟩ | ⟨m, hadmits, _, d, hrec, happ⟩ := message_moves cfg s hc
  · rwa [hsame]
  · have hd := hstep _ _ _ h (hrecord m hadmits) hrec
    cases hrec with
    | record now _ hM => exact hstep _ _ _ hd (happly m _ hadmits) happ

/-- Every call keeps an invariant that every move keeps. -/
theorem Call.keeps (hstep : ∀ d m d', I d → d.Step m d' → I d') (c : Call) (h : I s.desk) :
    I (c.step cfg s).desk := by
  have hstep' : ∀ d m d', I d → True → d.Step m d' → I d' := fun d m d' hd _ => hstep d m d' hd
  cases c with
  | command c =>
    exact Command.keeps (G := fun _ _ => True) hstep' (fun _ _ => trivial) (fun _ _ _ _ => trivial) h
  | message kind env payload credential =>
    exact Call.keeps_message (G := fun _ _ => True) hstep' rfl (fun _ _ => trivial)
      (fun _ _ _ => trivial) h

/-- An invariant of the moves holds on the desk of every reachable store. -/
theorem Reachable.desk_invariant (hstep : ∀ d m d', I d → d.Step m d' → I d') (h₀ : I Desk.empty)
    (h : Reachable cfg s) : I s.desk :=
  invariant_of_reachable (Call.step cfg) (I := fun s => I s.desk)
    (fun _ c hs => Call.keeps hstep c hs) (show I Store.empty.desk from h₀) h

/-- An invariant of the moves is kept by every transaction of the interleaved system. -/
theorem Center.keeps (hstep : ∀ d m d', I d → d.Step m d' → I d') (x : Center) (e : Event)
    (h : I x.store.desk) : I (x.step cfg e).store.desk := by
  cases e with
  | command c => exact Call.keeps hstep (.command c) h
  | arrive kind env payload credential =>
    simp only [Center.step]
    split <;> exact h
  | record i =>
    simp only [Center.step]
    cases x.call? i false with
    | none => exact h
    | some p =>
      simp only [Option.elim_some, Center.record]
      split
      · next s' hrec =>
        obtain ⟨_, hadmits, M, hM, rfl⟩ := recordMessage_filed hrec
        exact hstep _ _ _ h (.record (d := x.store.desk) _ hadmits hM)
      · next s' hrec =>
        obtain ⟨rfl, _⟩ := recordMessage_duplicate hrec
        exact h
      · exact h
  | apply i =>
    simp only [Center.step]
    cases x.call? i true with
    | none => exact h
    | some p =>
      simp only [Option.elim_some]
      refine committed_ind (P := fun s => I s.desk) h ?_
      intro s' hs'
      exact hstep _ _ _ h (applyMessage_moves hs').2
  | stop i => exact h

end Runs

variable {cfg : Config} {s : Store} {payload : Dict} {h : MessageHead} {env : Env}
  {kind : MessageKind} {credential : Json}

theorem Reachable.sound (h : Reachable cfg s) : Sound s.desk :=
  h.desk_invariant (fun _ _ _ hs => hs.step) Sound.empty

/-- Assignments are sound also between the transactions of message calls in progress. -/
theorem Center.sound {x : Center} (h : ReachableFrom (Center.step cfg) Center.empty x) :
    Sound x.store.desk :=
  invariant_of_reachable (Center.step cfg) (I := fun x => Sound x.store.desk)
    (fun x e hx => x.keeps (fun _ _ _ hs => hs.step) e hx)
    (show Sound Center.empty.store.desk from Sound.empty) h

/-! ## Commands that get through -/

section Takes

variable {cfg : Config} {s : Store} {c : Command} {t r : String}

/-- A `cancel` that dismisses a task in `awaiting_confirmation` makes its move. -/
theorem Command.TakesBranch.dismiss (h : c.TakesBranch cfg s t .cancelAwaiting) :
    s.desk.Step (.dismiss t) (c.step cfg s).desk := by
  obtain ⟨now, s₁, hs₁, hdesk⟩ := h.step fun now => ⟨_, rfl⟩
  obtain ⟨env, payload, control, req, row, _, _, _, hb, rfl⟩ := h
  obtain ⟨hrow, hfits⟩ := commandBranch_fits hb
  rw [hdesk]
  exact (applyBranch_moves hrow hfits hs₁).2

/-- A `continue` whose guards pass makes its move: the lease it opens again is the only one of its
    task that can be active. -/
theorem Command.Continues.resume (hs : Sound s.desk) (h : c.Continues cfg s t r) :
    s.desk.Step (.resume t r) (c.step cfg s).desk := by
  obtain ⟨instruction, l, h⟩ := h
  obtain ⟨env, payload, control, req, row, _, _, _, hb, rfl⟩ := id h
  obtain ⟨hrow, hfits⟩ := commandBranch_fits hb
  obtain ⟨_, _, hl, _⟩ := id hfits
  obtain ⟨lease, hlease, htask, _⟩ := hs.named _ row l hrow hl
  obtain ⟨now, s₁, hs₁, hdesk⟩ := h.step fun now => by
    simp only [applyBranch, bind_eq_ok, pure_eq_ok, reopenLease_eq_ok]
    refine ⟨_, _, ⟨?_, rfl⟩, rfl⟩
    intro l' hl'
    have hget : s.leases.get? l'.leaseId = some l' := Table.mem_rows_iff.mp hl'
    by_cases hsame : l'.taskId = req.taskId ∧ l'.state = .active
    · obtain ⟨hsame, hactive⟩ := hsame
      have := hs.active_eq hget hactive (hsame ▸ hrow)
      grind
    · refine .inr ?_
      show some l'.taskId ≠ (s.leases.get? l).map _ ∨ l'.state ≠ .active
      rw [desk_leases] at hlease
      rw [hlease, Option.map_some, htask]
      grind
  rw [hdesk]
  exact (applyBranch_moves hrow hfits hs₁).2

end Takes

/-! ## Lease fencing -/

/-- A payload names the current assignment of the task with this row; the lease is under
    `lease_id` in a status or a result and under `active_lease_id` in a heartbeat. -/
def NamesAssignment (payload : Dict) (leaseKey : String) (row : TaskRow) : Prop :=
  (payload.get "runner_id").asStr? = row.assignedRunnerId ∧
    (payload.get "assignment_epoch").eqInt row.assignmentEpoch ∧
    (payload.get leaseKey).eqStr? row.leaseId

/-- A payload does not name the current assignment of the task it is about. -/
def Misdirected (s : Store) (payload : Dict) (leaseKey : String) : Prop :=
  ∀ t row, payload.get "task_id" = .str t → s.tasks.get? t = some row →
    ¬ NamesAssignment payload leaseKey row

theorem asStr?_eq_some {v : Json} {x : String} : v.asStr? = some x ↔ v = .str x := by
  cases v <;> simp [Json.asStr?]

/-- The head of a message is what its payload says. -/
theorem messageHead_payload (hh : messageHead payload = .ok h) :
    payload.get "runner_id" = .str h.runnerId ∧ payload.get "task_id" = .str h.taskId ∧
      payload.get "assignment_epoch" = .int h.assignmentEpoch ∧
      h.leaseId = payload.get "lease_id" := by
  simp only [messageHead, bind_eq_ok, pure_eq_ok, orRaise_eq_ok, runnerIdOf, taskIdOf,
    intFrom_eq_some, Option.filter_eq_some_iff, asStr?_eq_some] at hh
  obtain ⟨r, ⟨hr, _⟩, t, ⟨ht, _⟩, e, he, _, _, _, _, rfl⟩ := hh
  exact ⟨hr, ht, he, rfl⟩

/-- A message whose head holds a task row names its assignment. -/
theorem MessageHead.namesAssignment {row : TaskRow} (hh : messageHead payload = .ok h)
    (hholds : h.holds row) : NamesAssignment payload "lease_id" row := by
  obtain ⟨hr, _, he, hl⟩ := messageHead_payload hh
  simp only [MessageHead.holds, decide_eq_true_eq] at hholds
  refine ⟨?_, ?_, hl ▸ hholds.2.2⟩
  · rw [hr, hholds.1]
    rfl
  · rw [he, hholds.2.1]
    simp [Json.eqInt]

theorem arrive_messageHead {m : Message} (h : arrive s env kind payload credential = .ok m) :
    messageHead payload = .ok m.head := by
  cases kind with
  | status =>
    simp only [arrive, arriveStatus, bind_eq_ok, pure_eq_ok] at h
    obtain ⟨_, _, _, _, m', hm, rfl⟩ := h
    exact statusMessage_head hm
  | result =>
    simp only [arrive, arriveResult, bind_eq_ok, pure_eq_ok] at h
    obtain ⟨_, _, _, _, _, _, m', hm, rfl⟩ := h
    exact resultMessage_head hm

/-- A misdirected status or result writes nothing. -/
theorem misdirected_message (h : Misdirected s payload "lease_id") :
    (Call.message kind env payload credential).step cfg s = s := by
  obtain ⟨hsame, _⟩ | ⟨m, ⟨_, _, _, _, hc, harr, _, _, row, hrow, hholds, _⟩, _⟩ :=
    message_moves cfg s (c := .message kind env payload credential) rfl
  · exact hsame
  · cases hc
    have hhead := arrive_messageHead harr
    exact absurd (MessageHead.namesAssignment hhead hholds)
      (h _ row (messageHead_payload hhead).2.1 hrow)

/-- A misdirected heartbeat writes neither tasks nor leases. -/
theorem misdirected_heartbeat (h : Misdirected s payload "active_lease_id") :
    ((Command.heartbeat env payload credential).step cfg s).tasks = s.tasks ∧
      ((Command.heartbeat env payload credential).step cfg s).leases = s.leases := by
  refine committed_map_ind (P := fun s' => s'.tasks = s.tasks ∧ s'.leases = s.leases) ⟨rfl, rfl⟩
    fun hs' => ?_
  obtain rfl | ⟨row, msg, hbeats, hid, hmsg, hup⟩ := heartbeat_ok hs'
  · exact ⟨rfl, rfl⟩
  · obtain ⟨s₁, agent, codex, hs₁, rfl⟩ := heartbeatUpdate_ok hup
    obtain rfl | ⟨t, l, task, lease, hrenew, rfl⟩ := heartbeatAssignment_ok hs₁
    · exact ⟨rfl, rfl⟩
    · obtain ⟨hr, ht, he, hl⟩ := heartbeatMessage_payload hmsg
      have htask : payload.get "task_id" = .str t := asStr?_eq_some.mp (ht ▸ hrenew.named)
      refine absurd ⟨?_, he ▸ hrenew.epoch, hl ▸ hrenew.lease_named⟩ (h t task htask hrenew.task_get)
      obtain ⟨_, _, _, hc, henv, _⟩ := hbeats
      cases hc
      rw [hrenew.assigned, hr]
      simp only [heartbeatEnvelope, bind_eq_ok] at henv
      obtain ⟨_, _, _, _, _, _, henv⟩ := henv
      exact (runnerIdOf_eq_ok.mp henv).1

/-- Lease fencing. In every reachable store the leases of a task are told apart by their epochs,
    of which there are as many as its `assignment_epoch` says; an active lease agrees with its
    task on lease, Runner, epoch and expiry; and a status, a result or a heartbeat that does not
    name the current assignment of its task changes neither tasks nor leases. -/
theorem lease_fencing {cfg : Config} {s : Store} (h : Reachable cfg s) :
    (∀ a ∈ s.leases.rows, ∀ b ∈ s.leases.rows, a.taskId = b.taskId →
      a.assignmentEpoch = b.assignmentEpoch → a = b) ∧
    (∀ t row, s.tasks.get? t = some row →
      row.assignmentEpoch = (s.leases.rows.filter fun l => l.taskId = t).length) ∧
    (∀ l lease, s.leases.get? l = some lease → lease.state = .active →
      ∃ row, s.tasks.get? lease.taskId = some row ∧ row.leaseId = some l ∧
        row.assignedRunnerId = some lease.runnerId ∧ row.assignmentEpoch = lease.assignmentEpoch ∧
        row.leaseExpiresAt = some lease.expiresAt) ∧
    (∀ kind env payload credential, Misdirected s payload "lease_id" →
      ((Call.message kind env payload credential).step cfg s).tasks = s.tasks ∧
      ((Call.message kind env payload credential).step cfg s).leases = s.leases) ∧
    (∀ env payload credential, Misdirected s payload "active_lease_id" →
      ((Command.heartbeat env payload credential).step cfg s).tasks = s.tasks ∧
      ((Command.heartbeat env payload credential).step cfg s).leases = s.leases) := by
  have hs := h.sound
  refine ⟨?_, ?_, ?_, ?_, ?_⟩
  · intro a ha b hb htask hepoch
    have hnodup : (leaseEpochs s.leases a.taskId).Nodup := by
      rw [← desk_leases, hs.epochs]
      exact List.nodup_range'
    refine List.inj_on_of_nodup_map hnodup ?_ ?_ hepoch
    · simpa using ha
    · simpa [htask] using hb
  · intro t row hrow
    have hlen := congrArg List.length (hs.epochs t)
    simp only [leaseEpochs, List.length_map, List.length_range', taskEpoch, desk_tasks, hrow,
      desk_leases, Option.map_some, Option.getD_some] at hlen
    exact hlen.symm
  · intro l lease hl ha
    obtain ⟨row, hrow, hid, hexp⟩ := hs.active l lease hl ha
    obtain ⟨lease', hl', _, hr, he⟩ := hs.named _ row l hrow hid
    obtain rfl : lease = lease' := Option.some.inj (hl.symm.trans hl')
    exact ⟨row, hrow, hid, hr, he.symm, hexp⟩
  · intro kind env payload credential hmis
    rw [misdirected_message hmis]
    exact ⟨rfl, rfl⟩
  · intro env payload credential hmis
    exact misdirected_heartbeat hmis

theorem lease_fencing_sample : ∃ row, sampleStore.tasks.get? sampleTask = some row ∧
    row.assignmentEpoch = 1 ∧
    (sampleStore.leases.rows.filter fun l => l.taskId = sampleTask).length = 1 := by
  obtain ⟨row, hrow, _, hepoch, _⟩ := sampleStore_shows.task
  exact ⟨row, hrow, hepoch,
    ((lease_fencing sampleStore_reachable).2.1 sampleTask row hrow).symm.trans hepoch⟩

end HomeAddons.Runner
