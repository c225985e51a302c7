import HomeAddons.Runner.Inversion

/-!
# Runner Center v2: calls are moves of the desk

Every successful call of `RunnerStore` makes one move of the desk, or none; `claim_next` and
`sweep` make a path of scheduling moves. `Command.moves` and `Call.moves` collect the calls. The
predicates `Command.TakesBranch`, `Command.Stops` and so on say, by the code's own guards, when a
call is about to make the move of the same name; `Command.Issues` ties a move to its predicate.
-/

namespace HomeAddons.Runner

open HomeAddons.Common

variable {cfg : Config} {s s' : Store} {env : Env} {payload : Dict}

/-! ## When a call makes a move -/

/-- `command_task` is new, passes its guards on the task and takes the branch. -/
def Command.TakesBranch (cfg : Config) (s : Store) (c : Command) (taskId : String)
    (branch : CommandBranch) : Prop :=
  ∃ env payload controlAvailable req row, c = .commandTask env payload controlAvailable ∧
    commandRequest payload = .ok req ∧ s.commandRequests.get? req.requestId = none ∧
    commandBranch cfg s (env.clock 0) req controlAvailable = .ok (row, branch) ∧
    req.taskId = taskId

/-- A `continue` of the task on its Runner. -/
def Command.Continues (cfg : Config) (s : Store) (c : Command) (taskId runnerId : String) : Prop :=
  ∃ instruction leaseId, c.TakesBranch cfg s taskId (.resume instruction runnerId leaseId)

/-- `claim_next` answers an assignment of the task. -/
def Command.Claims (cfg : Config) (s : Store) (c : Command) (taskId : String) : Prop :=
  ∃ env s' a, c = .claimNext env ∧ Runner.claimNext cfg s env = .ok (s', some a) ∧ a.task.taskId = taskId

/-- `emergency_disable` is new and passes its guards on the Runner with this row. -/
def Command.Stops (s : Store) (c : Command) (row : RunnerRow) : Prop :=
  ∃ env runnerId payload req, c = .adminAction env runnerId payload .emergencyDisable ∧
    plainAdminRequest runnerId payload "Runner 管理请求字段无效" = .ok req ∧
    adminReplay s req "emergency_disable" = .ok none ∧
    lockedRunner s req.runnerId req.revision = .ok row ∧ row.adminState ≠ .revoked

/-- `reschedule_undelivered` passes its guards. -/
def Command.Reschedules (s : Store) (c : Command) (d : Delivery) : Prop :=
  ∃ env taskId runnerId epoch leaseId,
    c = .rescheduleUndelivered env taskId runnerId epoch leaseId ∧
    deliveryOf taskId runnerId epoch leaseId = .ok d ∧ undelivered s d

/-- A heartbeat of the Runner with this row that is newer than its last one and passes. -/
def Command.Beats (cfg : Config) (s : Store) (c : Command) (row : RunnerRow)
    (msg : HeartbeatMessage) : Prop :=
  ∃ env payload credential, c = .heartbeat env payload credential ∧
    heartbeatEnvelope env payload = .ok row.runnerId ∧
    verifyCredential s (.str row.runnerId) credential = .ok () ∧
    heartbeatMessage payload row.runnerId = .ok msg ∧
    s.runners.get? row.runnerId = some row ∧ row.heartbeatSequence < msg.sequence ∧
    (heartbeatUpdate cfg s (env.clock 1) row msg).isOk

/-- The sweep finds the Runner of the task offline and the lease of the task run out. -/
def Lost (cfg : Config) (s : Store) (now : Instant) (task : TaskRow) (runnerId : String) : Prop :=
  s.tasks.get? task.taskId = some task ∧ task.SweptFrom runnerId ∧ leaseExpired now task ∧
    ∃ runner, s.runners.get? runnerId = some runner ∧ connectivity cfg runner now = .offline

/-- A sweep that finds the task lost. -/
def Command.Loses (cfg : Config) (s : Store) (c : Command) (task : TaskRow) (runnerId : String) :
    Prop :=
  ∃ env order, c = .sweep env order ∧ Lost cfg s (env.clock 0) task runnerId

/-- `update_runner` is new, passes its guards on a revoked Runner and asks for `disabled`. -/
def Command.Reinstates (s : Store) (c : Command) (r : String) : Prop :=
  ∃ env runnerId payload req row plan, c = .updateRunner env runnerId payload ∧
    updateRequest runnerId payload = .ok req ∧ adminReplay s req "update" = .ok none ∧
    lockedRunner s req.runnerId req.revision = .ok row ∧ row.adminState = .revoked ∧
    updatePlan row payload = .ok plan ∧ plan.adminState = some .disabled ∧ req.runnerId = r

/-- `resolve_task_recovery` names the task and the Runner and is not a replay. -/
def Command.Resolves (s : Store) (c : Command) (taskId r : String) : Prop :=
  ∃ env runnerId payload req, c = .resolveTaskRecovery env runnerId payload ∧
    recoveryRequest runnerId payload = .ok (req, taskId) ∧
    adminReplay s req ("resolve_task_recovery:" ++ taskId) = .ok none ∧ req.runnerId = r

/-- What a command that makes a move says about it. -/
def Command.Issues (cfg : Config) (s : Store) (c : Command) : Move → Prop
  | .assign t _ => c.Claims cfg s t
  | .resume t r => c.Continues cfg s t r
  | .dismiss t => c.TakesBranch cfg s t .cancelAwaiting
  | .unsend t r => ∃ d, c.Reschedules s d ∧ d.taskId = t ∧ d.runnerId = r
  | .beat r w => ∃ row msg, c.Beats cfg s row msg ∧ row.runnerId = r ∧ msg.workState = w
  | .hold t r => ∃ row, c.Stops s row ∧ row.runnerId = r ∧ row.currentTaskId = some t ∧ s.hasRun t
  | .evict t r =>
    ∃ row, c.Stops s row ∧ row.runnerId = r ∧ row.currentTaskId = some t ∧ ¬ s.hasRun t
  | .strand task r => c.Loses cfg s task r ∧ task.everRunning
  | .reclaim task r => c.Loses cfg s task r ∧ task.everRunning = false
  | .reinstate r => c.Reinstates s r
  | .resolve t r => c.Resolves s t r
  | .record _ | .apply _ => False
  | _ => True

/-- The moves that `claim_next` and `sweep` make in the course of a transaction. -/
def Move.Scheduling : Move → Prop
  | .expire _ | .assign _ _ | .strand _ _ | .reclaim _ _ | .registry => True
  | _ => False

/-! ## Statements -/

/-- Credentials and enrollments are untouched. -/
structure Store.SameAccounts (s s' : Store) : Prop where
  credentials : s'.credentials = s.credentials
  enrollments : s'.enrollments = s.enrollments

theorem insertTask_eq_ok {row : TaskRow} : s.insertTask row = .ok s' ↔
    (∀ t ∈ s.tasks.rows, t.createRequestId ≠ row.createRequestId) ∧
      ∃ T, s.tasks.insert? row = some T ∧ { s with tasks := T } = s' := by
  simp [Store.insertTask]

theorem insertLease_eq_ok {row : LeaseRow} : s.insertLease row = .ok s' ↔
    (∀ l ∈ s.leases.rows, l.taskId ≠ row.taskId ∨ l.state ≠ .active) ∧
      ∃ T, s.leases.insert? row = some T ∧ { s with leases := T } = s' := by
  simp [Store.insertLease]

theorem insertCommand_eq_ok {row : CommandRequestRow} : s.insertCommand row = .ok s' ↔
    ∃ T, s.commandRequests.insert? row = some T ∧ { s with commandRequests := T } = s' := by
  simp [Store.insertCommand]

theorem insertMessage_eq_ok {row : MessageRow} : s.insertMessage row = .ok s' ↔
    ∃ T, s.messages.insert? row = some T ∧ { s with messages := T } = s' := by
  simp [Store.insertMessage]

/-! ## Owner commands -/

theorem createWorkTask_moves {x : PublicTask × Bool}
    (h : createWorkTask cfg s env payload = .ok (s', x)) :
    s.SameAccounts s' ∧ (s'.desk = s.desk ∨ ∃ t, s.desk.Step (.enqueue t) s'.desk) := by
  simp only [createWorkTask, bind_eq_ok] at h
  obtain ⟨req, _, h⟩ := h
  split at h
  · simp only [bind_eq_ok, pure_eq_ok, Prod.mk.injEq] at h
    obtain ⟨_, _, _, _, rfl, _⟩ := h
    exact ⟨⟨rfl, rfl⟩, .inl rfl⟩
  · simp only [bind_eq_ok, pure_eq_ok, Prod.mk.injEq, insertTask_eq_ok,
      insertCommand_eq_ok] at h
    obtain ⟨_, ⟨_, T, hT, rfl⟩, _, ⟨_, _, rfl⟩, _, _, rfl, _⟩ := h
    refine ⟨⟨rfl, rfl⟩, .inr ⟨_, Desk.Step.enqueue (d := s.desk) hT rfl rfl rfl rfl rfl
      (newTaskId_taskIdRe _)⟩⟩

/-- What the guards of a branch of `command_task` have established. -/
def CommandBranch.Fits (s : Store) (row : TaskRow) : CommandBranch → Prop
  | .keep => True
  | .cancelAwaiting => row.state = .awaitingConfirmation
  | .askRunner => ¬ row.state.terminal ∧ row.state ≠ .awaitingConfirmation ∧
      row.assignedRunnerId.isSome
  | .cancelUnassigned => ¬ row.state.terminal ∧ row.state ≠ .awaitingConfirmation ∧
      row.assignedRunnerId = none
  | .resume _ r l => (row.state.terminal ∨ row.state = .awaitingConfirmation) ∧
      row.assignedRunnerId = some r ∧ row.leaseId = some l ∧
      ∃ runner, s.runners.get? r = some runner ∧ runner.adminState = .enabled

variable {row runner : RunnerRow} {x : AdminResponse} {control : Bool} {branch : CommandBranch}
  {now : Instant} {req : AdminRequest} {t r : String} {s₁ : Store} {p : TaskRow → Prop}
  {rows : List TaskRow} {taskId runnerId credential : Json} {msg : HeartbeatMessage}
  {task : TaskRow} {h : MessageHead} {m : Message} {kind : MessageKind} {c : Call}

theorem cancelBranch_fits {row : TaskRow} (h : cancelBranch row control = .ok branch) :
    branch.Fits s row := by
  unfold cancelBranch at h
  split_ifs at h with hterm hawait hassigned
  · simp only [pure_eq_ok] at h
    subst h
    trivial
  · simp only [pure_eq_ok] at h
    subst h
    exact hawait
  · simp only [bind_eq_ok, ensure_eq_ok, pure_eq_ok] at h
    obtain ⟨_, _, rfl⟩ := h
    exact ⟨hterm, hawait, hassigned⟩
  · simp only [pure_eq_ok] at h
    subst h
    exact ⟨hterm, hawait, by simpa using hassigned⟩

theorem continueBranch_fits {req : CommandRequest} {row : TaskRow}
    (h : continueBranch cfg s now req row control = .ok branch) : branch.Fits s row := by
  simp only [continueBranch, bind_eq_ok, ensure_eq_ok, orRaise_eq_ok, pure_eq_ok] at h
  obtain ⟨_, _, instruction, _, _, hstate, r, hr, l, hl, runner, hrun, _, ⟨hen, _⟩, rfl⟩ := h
  exact ⟨hstate, hr, hl, runner, hrun, hen⟩

theorem commandBranch_fits {req : CommandRequest} {row : TaskRow}
    (h : commandBranch cfg s now req control = .ok (row, branch)) :
    s.tasks.get? req.taskId = some row ∧ branch.Fits s row := by
  simp only [commandBranch, bind_eq_ok, ensure_eq_ok, orRaise_eq_ok] at h
  obtain ⟨row', hrow, _, _, h⟩ := h
  split at h <;> simp only [bind_eq_ok, pure_eq_ok, Prod.mk.injEq] at h
  · obtain ⟨_, rfl, rfl, rfl⟩ := h
    exact ⟨hrow, trivial⟩
  · obtain ⟨_, hb, rfl, rfl⟩ := h
    exact ⟨hrow, cancelBranch_fits hb⟩
  · obtain ⟨_, hb, rfl, rfl⟩ := h
    exact ⟨hrow, continueBranch_fits hb⟩

theorem reopenLease_eq_ok {l : String} {expiresAt : Instant} :
    s.reopenLease l expiresAt = .ok s' ↔
      (∀ l' ∈ s.leases.rows, l'.leaseId = l ∨
        some l'.taskId ≠ (s.leases.get? l).map (·.taskId) ∨ l'.state ≠ .active) ∧
      { s with leases := s.leases.update l (reopenedLease expiresAt) } = s' := by
  simp [Store.reopenLease]

/-- The statements of a branch make the move of the branch. -/
theorem applyBranch_moves {row : TaskRow} (hrow : s.tasks.get? t = some row)
    (hfits : branch.Fits s row) (h : applyBranch cfg s now t branch = .ok s') :
    s.SameAccounts s' ∧ match branch with
      | .keep => s'.desk = s.desk
      | .cancelAwaiting => s.desk.Step (.dismiss t) s'.desk
      | .askRunner => s.desk.Step (.ask t) s'.desk
      | .cancelUnassigned => s.desk.Step (.withdraw t) s'.desk
      | .resume _ r _ => s.desk.Step (.resume t r) s'.desk := by
  cases branch with
  | keep =>
    simp only [applyBranch, pure_eq_ok] at h
    subst h
    exact ⟨⟨rfl, rfl⟩, rfl⟩
  | cancelAwaiting =>
    simp only [applyBranch, pure_eq_ok] at h
    subst h
    exact ⟨⟨rfl, rfl⟩, .dismiss (d := s.desk) now hrow hfits⟩
  | askRunner =>
    simp only [applyBranch, pure_eq_ok] at h
    subst h
    obtain ⟨hterm, hawait, hassigned⟩ := hfits
    exact ⟨⟨rfl, rfl⟩, .ask (d := s.desk) now hrow hterm hawait hassigned⟩
  | cancelUnassigned =>
    simp only [applyBranch, pure_eq_ok] at h
    subst h
    obtain ⟨hterm, hawait, hassigned⟩ := hfits
    exact ⟨⟨rfl, rfl⟩, .withdraw (d := s.desk) now hrow hterm hawait hassigned⟩
  | resume instruction r l =>
    simp only [applyBranch, bind_eq_ok, pure_eq_ok, reopenLease_eq_ok] at h
    obtain ⟨_, ⟨_, rfl⟩, rfl⟩ := h
    obtain ⟨hstate, hr, hl, runner, hrun, hen⟩ := hfits
    exact ⟨⟨rfl, rfl⟩, .resume (d := s.desk) now instruction hrow hstate hr hl hrun hen⟩

/-- `command_task` answered a known request, or took a branch on the task. -/
theorem commandTask_ok {x : PublicTask × Bool}
    (h : commandTask cfg s env payload control = .ok (s', x)) :
    s' = s ∨ ∃ req row branch s₁, commandRequest payload = .ok req ∧
      s.commandRequests.get? req.requestId = none ∧
      commandBranch cfg s (env.clock 0) req control = .ok (row, branch) ∧
      applyBranch cfg s (env.clock 0) req.taskId branch = .ok s₁ ∧
      s'.desk = s₁.desk ∧ s₁.SameAccounts s' := by
  simp only [commandTask, bind_eq_ok] at h
  obtain ⟨req, hreq, h⟩ := h
  split at h
  · simp only [bind_eq_ok, pure_eq_ok, Prod.mk.injEq] at h
    obtain ⟨_, _, _, _, rfl, _⟩ := h
    exact .inl rfl
  · next hnew =>
    simp only [bind_eq_ok, pure_eq_ok, Prod.mk.injEq, insertCommand_eq_ok] at h
    obtain ⟨⟨row, branch⟩, hb, s₁, happ, _, ⟨_, _, rfl⟩, _, _, rfl, _⟩ := h
    exact .inr ⟨req, row, branch, s₁, hreq, hnew, hb, happ, rfl, ⟨rfl, rfl⟩⟩

/-- The statements of a branch write neither the command requests nor the set of tasks. -/
theorem applyBranch_frame (h : applyBranch cfg s now t branch = .ok s₁) :
    s₁.commandRequests = s.commandRequests ∧
      ∀ t', s.tasks.get? t' ≠ none → s₁.tasks.get? t' ≠ none := by
  cases branch with
  | resume instruction r l =>
    simp only [applyBranch, bind_eq_ok, pure_eq_ok, reopenLease_eq_ok] at h
    obtain ⟨_, ⟨_, rfl⟩, rfl⟩ := h
    refine ⟨rfl, fun t' ht' => ?_⟩
    show (s.tasks.update t _).get? t' ≠ none
    rwa [Table.get?_update_ne_none]
  | keep =>
    simp only [applyBranch, pure_eq_ok] at h
    subst h
    exact ⟨rfl, fun t' => id⟩
  | _ =>
    simp only [applyBranch, pure_eq_ok] at h
    subst h
    refine ⟨rfl, fun t' ht' => ?_⟩
    show (s.tasks.update t _).get? t' ≠ none
    rwa [Table.get?_update_ne_none]

/-- A new command whose guards pass and whose statements do not raise succeeds. -/
theorem Command.TakesBranch.step {c : Command} {t : String} {branch : CommandBranch}
    (h : c.TakesBranch cfg s t branch)
    (happ : ∀ now, ∃ s', applyBranch cfg s now t branch = .ok s') :
    ∃ now s₁, applyBranch cfg s now t branch = .ok s₁ ∧ (c.step cfg s).desk = s₁.desk := by
  obtain ⟨env, payload, control, req, row, rfl, hreq, hnew, hb, rfl⟩ := h
  obtain ⟨s₁, hs₁⟩ := happ (env.clock 0)
  obtain ⟨hrow, _⟩ := commandBranch_fits hb
  obtain ⟨hcommands, htasks⟩ := applyBranch_frame hs₁
  refine ⟨env.clock 0, s₁, hs₁, ?_⟩
  obtain ⟨T, hT⟩ := Table.insert?_of_get? (T := s₁.commandRequests)
    (r := ⟨req.requestId, req.operation.text, req.bodyDigest, req.taskId, env.clock 0⟩)
    (by rw [hcommands]; exact hnew)
  obtain ⟨row', hrow'⟩ : ∃ row', s₁.tasks.get? req.taskId = some row' :=
    Option.ne_none_iff_exists'.mp (htasks _ (by simp [hrow]))
  simp [Command.step, Command.exec, Runner.commandTask, hreq, hnew, hb, hs₁, Store.insertCommand, hT,
    Store.taskRow, Store.event, hrow', Except.map, committed, Store.desk]

theorem Store.SameAccounts.trans (h : s.SameAccounts s₁) (h' : s₁.SameAccounts s') :
    s.SameAccounts s' :=
  ⟨h'.credentials.trans h.credentials, h'.enrollments.trans h.enrollments⟩

theorem commandTask_moves {x : PublicTask × Bool}
    (h : commandTask cfg s env payload control = .ok (s', x)) :
    s.SameAccounts s' ∧ (s'.desk = s.desk ∨
      ∃ m, (Command.commandTask env payload control).Issues cfg s m ∧ s.desk.Step m s'.desk) := by
  obtain rfl | ⟨req, row, branch, s₁, hreq, hnew, hb, happ, hdesk, hacc⟩ := commandTask_ok h
  · exact ⟨⟨rfl, rfl⟩, .inl rfl⟩
  · obtain ⟨hrow, hfits⟩ := commandBranch_fits hb
    obtain ⟨hacc₁, hmove⟩ := applyBranch_moves hrow hfits happ
    refine ⟨hacc₁.trans hacc, ?_⟩
    rw [hdesk]
    have htakes : (Command.commandTask env payload control).TakesBranch cfg s req.taskId branch :=
      ⟨env, payload, control, req, row, rfl, hreq, hnew, hb, rfl⟩
    cases branch with
    | keep => exact .inl hmove
    | cancelAwaiting => exact .inr ⟨.dismiss req.taskId, htakes, hmove⟩
    | askRunner => exact .inr ⟨.ask req.taskId, trivial, hmove⟩
    | cancelUnassigned => exact .inr ⟨.withdraw req.taskId, trivial, hmove⟩
    | resume instruction r l => exact .inr ⟨.resume req.taskId r, ⟨instruction, l, htakes⟩, hmove⟩

/-! ## The scheduler -/

/-- Rows of the task table, each with the given property and none twice. -/
structure Snapshot (s : Store) (p : TaskRow → Prop) (rows : List TaskRow) : Prop where
  stored : ∀ x ∈ rows, s.tasks.get? x.taskId = some x ∧ p x
  nodup : (rows.map TaskRow.taskId).Nodup

theorem Snapshot.tail {x : TaskRow} (h : Snapshot s p (x :: rows)) : Snapshot s p rows :=
  ⟨fun y hy => h.stored y (List.mem_cons_of_mem _ hy), (List.nodup_cons.mp h.nodup).2⟩

/-- A write to the first row leaves the others as the snapshot has them. -/
theorem Snapshot.tail_of_frame {x : TaskRow} (h : Snapshot s p (x :: rows))
    (hframe : ∀ t, t ≠ x.taskId → s'.tasks.get? t = s.tasks.get? t) : Snapshot s' p rows := by
  refine ⟨fun y hy => ?_, h.tail.nodup⟩
  have hne : y.taskId ≠ x.taskId := by
    intro e
    exact (List.nodup_cons.mp h.nodup).1 (e ▸ List.mem_map_of_mem hy)
  rw [hframe _ hne]
  exact h.tail.stored y hy

/-- A selection of the task table, in any order, is a snapshot. -/
theorem snapshot_of_perm {p : TaskRow → Bool} (h : rows.Perm (s.tasks.rows.filter p)) :
    Snapshot s (fun x => p x) rows := by
  refine ⟨fun x hx => ?_, ?_⟩
  · have hmem := List.mem_filter.mp (h.mem_iff.mp hx)
    exact ⟨Table.mem_rows_iff.mp hmem.1, hmem.2⟩
  · rw [(h.map TaskRow.taskId).nodup_iff]
    exact (List.filter_sublist.map _).nodup s.tasks.nodup

theorem expireTask_frame (s : Store) (now : Instant) {t' : String} (h : t' ≠ t) :
    (s.expireTask now t).tasks.get? t' = s.tasks.get? t' :=
  Table.get?_update_of_ne _ h _ (by intro _; rfl)

/-- What the loop of `claim_next` leaves. -/
structure Selection (s s' : Store) (runners : List RunnerRow) (tasks : List TaskRow)
    (found : Option (TaskRow × RunnerRow)) : Prop where
  path : ∃ ms, Path Desk.Step s.desk ms s'.desk ∧ ∀ m ∈ ms, ∃ t, m = .expire t
  accounts : s.SameAccounts s'
  runners_eq : s'.runners = s.runners
  stored : ∀ task runner, found = some (task, runner) →
    s'.tasks.get? task.taskId = some task ∧ task ∈ tasks ∧ runner ∈ runners

theorem selectAssignment_selection (cfg : Config) (now : Instant) (runners : List RunnerRow)
    {tasks : List TaskRow} (h : Snapshot s (fun x => x.state = .waitingRunner) tasks) :
    Selection s (selectAssignment cfg now runners tasks s).1 runners tasks
      (selectAssignment cfg now runners tasks s).2 := by
  induction tasks generalizing s with
  | nil =>
    exact ⟨⟨[], .nil _, by simp⟩, ⟨rfl, rfl⟩, rfl, by simp [selectAssignment]⟩
  | cons task tasks ih =>
    obtain ⟨hstored, hwaiting⟩ := h.stored task List.mem_cons_self
    rw [selectAssignment]
    split_ifs with hexp
    · have ih' := ih (h.tail_of_frame fun t ht => expireTask_frame s now ht)
      obtain ⟨ms, hpath, hms⟩ := ih'.path
      have hstep : s.desk.Step (.expire task.taskId) (s.expireTask now task.taskId).desk :=
        .expire (d := s.desk) now hstored hwaiting
      refine ⟨⟨_, .cons hstep hpath, ?_⟩,
        ⟨ih'.accounts.credentials, ih'.accounts.enrollments⟩, ih'.runners_eq, ?_⟩
      · intro m hm
        obtain rfl | hm := List.mem_cons.mp hm
        · exact ⟨_, rfl⟩
        · exact hms m hm
      · intro x r hx
        obtain ⟨hx, hmem, hr⟩ := ih'.stored x r hx
        exact ⟨hx, List.mem_cons_of_mem _ hmem, hr⟩
    · split
      · next runner hfound =>
        refine ⟨⟨[], .nil _, by simp⟩, ⟨rfl, rfl⟩, rfl, ?_⟩
        rintro x r ⟨⟩
        exact ⟨hstored, List.mem_cons_self, List.mem_of_find?_eq_some hfound⟩
      · have ih' := ih h.tail
        refine ⟨ih'.path, ih'.accounts, ih'.runners_eq, ?_⟩
        intro x r hx
        obtain ⟨hx, hmem, hr⟩ := ih'.stored x r hx
        exact ⟨hx, List.mem_cons_of_mem _ hmem, hr⟩

theorem waitingTasks_snapshot (s : Store) :
    Snapshot s (fun x => x.state = .waitingRunner) (waitingTasks s) := by
  have h := snapshot_of_perm (s := s)
    (List.perm_insertionSort (byCreation TaskRow.createdAt TaskRow.taskId)
      (s.tasks.rows.filter fun t => t.state = .waitingRunner))
  exact ⟨fun x hx => ⟨(h.stored x hx).1, by simpa using (h.stored x hx).2⟩, h.nodup⟩

/-- A Runner the scheduler considers is enabled, not archived and has an empty seat. -/
theorem mem_idleRunners (h : runner ∈ idleRunners s) :
    s.runners.get? runner.runnerId = some runner ∧ runner.archivedAt = none ∧
      runner.adminState = .enabled ∧ runner.seat = ⟨none, .idle⟩ := by
  have hmem := (List.mem_insertionSort _).mp h
  simp only [List.mem_filter, decide_eq_true_eq] at hmem
  obtain ⟨hrow, harch, hen, hwork, hcur⟩ := hmem
  exact ⟨Table.mem_rows_iff.mp hrow, harch, hen, by simp [RunnerRow.seat, hwork, hcur]⟩

/-- `claim_next` expires tasks and then, perhaps, assigns one to a Runner with an empty seat. -/
theorem claimNext_moves {x : Option Assignment} (h : claimNext cfg s env = .ok (s', x)) :
    s.SameAccounts s' ∧ ∃ ms, Path Desk.Step s.desk ms s'.desk ∧
      ∀ m ∈ ms, (∃ t, m = .expire t) ∨ ∃ r a, m = .assign a.task.taskId r ∧ x = some a := by
  have hsel := selectAssignment_selection cfg (env.clock 0) (idleRunners s)
    (waitingTasks_snapshot s)
  obtain ⟨ms, hpath, hms⟩ := hsel.path
  rcases hsa : selectAssignment cfg (env.clock 0) (idleRunners s) (waitingTasks s) s with
    ⟨s₁, _ | ⟨task, runner⟩⟩
  · rw [hsa] at hsel hpath
    simp only [claimNext, hsa, pure_eq_ok, Prod.mk.injEq] at h
    obtain ⟨rfl, _⟩ := h
    exact ⟨hsel.accounts, ms, hpath, fun m hm => .inl (hms m hm)⟩
  · rw [hsa] at hsel hpath
    simp only [claimNext, hsa, bind_eq_ok, pure_eq_ok, Prod.mk.injEq, insertLease_eq_ok] at h
    obtain ⟨_, ⟨_, L, hL, rfl⟩, task', htask', rfl, rfl⟩ := h
    obtain ⟨hstored, htask, hrunner⟩ := hsel.stored task runner rfl
    obtain ⟨hrow, harch, hen, hseat⟩ := mem_idleRunners hrunner
    have hwaiting := ((waitingTasks_snapshot s).stored task htask).2
    have hassign : s₁.desk.Step (.assign task.taskId runner.runnerId) _ :=
      .assign (d := s₁.desk) (env.clock 0) hstored hwaiting
        (by rw [desk_runners, hsel.runners_eq]; exact hrow) hseat hen harch rfl rfl rfl rfl hL
    refine ⟨⟨hsel.accounts.credentials, hsel.accounts.enrollments⟩, _,
      hpath.append (.single hassign), ?_⟩
    intro m hm
    obtain hm | hm := List.mem_append.mp hm
    · exact .inl (hms m hm)
    · rw [List.mem_singleton] at hm
      have hid : task'.taskId = task.taskId := Table.key_of_get? (taskRow_eq_ok.mp htask')
      refine .inr ⟨runner.runnerId, _, ?_, rfl⟩
      rw [hm, publicTask_taskId, hid]

/-- `claim_next` assigns to an enabled Runner with an empty seat. -/
theorem claimNext_runner {a : Assignment} (h : claimNext cfg s env = .ok (s', some a)) :
    ∃ runner, s.runners.get? runner.runnerId = some runner ∧ runner.adminState = .enabled ∧
      runner.seat = ⟨none, .idle⟩ ∧ a.task.assignedRunnerId = some runner.runnerId := by
  have hsel := selectAssignment_selection cfg (env.clock 0) (idleRunners s)
    (waitingTasks_snapshot s)
  rcases hsa : selectAssignment cfg (env.clock 0) (idleRunners s) (waitingTasks s) s with
    ⟨s₁, _ | ⟨task, runner⟩⟩
  · simp [claimNext, hsa] at h
  · rw [hsa] at hsel
    simp only [claimNext, hsa, bind_eq_ok, pure_eq_ok, Prod.mk.injEq, insertLease_eq_ok,
      Option.some.injEq, taskRow_eq_ok] at h
    obtain ⟨_, ⟨_, L, hL, rfl⟩, row, hrow, rfl, rfl⟩ := h
    obtain ⟨_, _, hrunner⟩ := hsel.stored task runner rfl
    obtain ⟨hget, _, hen, hseat⟩ := mem_idleRunners hrunner
    refine ⟨runner, hget, hen, hseat, ?_⟩
    simp only [Store.event, Store.setTask, Store.setRunner, Table.get?_update_eq_some] at hrow
    obtain ⟨_, _, rfl⟩ := hrow
    simp [publicTask, assignedTask, newLease]

theorem markDispatched_moves {x : PublicTask} (h : markDispatched s env taskId = .ok (s', x)) :
    s.SameAccounts s' ∧ ∃ t, s.desk.Step (.mark t) s'.desk := by
  simp only [markDispatched, bind_eq_ok, pure_eq_ok, Prod.mk.injEq, orRaise_eq_ok,
    ensure_eq_ok] at h
  obtain ⟨t, _, row, hrow, _, hstate, _, _, rfl, _⟩ := h
  exact ⟨⟨rfl, rfl⟩, t, .mark (d := s.desk) _ hrow hstate⟩

theorem rescheduleUndelivered_moves {epoch leaseId : Json} {x : PublicTask}
    (h : rescheduleUndelivered s env taskId runnerId epoch leaseId = .ok (s', x)) (cfg : Config) :
    s.SameAccounts s' ∧ ∃ m,
      (Command.rescheduleUndelivered env taskId runnerId epoch leaseId).Issues cfg s m ∧
        s.desk.Step m s'.desk := by
  simp only [rescheduleUndelivered, bind_eq_ok, pure_eq_ok, Prod.mk.injEq, ensure_eq_ok] at h
  obtain ⟨d, hd, _, hund, _, _, rfl, _⟩ := h
  have hissue : (Command.rescheduleUndelivered env taskId runnerId epoch leaseId).Issues cfg s
      (.unsend d.taskId d.runnerId) :=
    ⟨d, ⟨env, taskId, runnerId, epoch, leaseId, rfl, hd, hund⟩, rfl, rfl⟩
  refine ⟨⟨rfl, rfl⟩, .unsend d.taskId d.runnerId, hissue, ?_⟩
  simp only [undelivered, decide_eq_true_eq, Option.any_eq_true, Bool.not_eq_true'] at hund
  obtain ⟨⟨row, hrow, hstate, hever, hr, hepoch, hl⟩, ⟨lease, hlease, htask, _⟩, runner, hrun,
    hcur, hwork⟩ := hund
  exact .unsend (d := s.desk) _ _ hrow hstate hever hr hl hlease htask hrun
    (by simp [RunnerRow.seat, hcur, hwork])

/-! ## Registry calls -/

theorem createEnrollment_moves (h : createEnrollment cfg s env payload = .ok (s', x)) :
    s'.desk = s.desk ∨ s.desk.Step .registry s'.desk := by
  obtain rfl | ⟨req, T, E, _, hT, _, _, hR, _, _, ho⟩ := createEnrollment_ok h
  · exact .inl rfl
  · right
    have : s'.desk = { s.desk with runners := T } := by
      simp [Store.desk, hR, ho.tasks, ho.leases, ho.messages]
    rw [this]
    exact .registry (.insert hT rfl ⟨fresh_runnerIdRe env 0, le_rfl⟩)

/-- A registry call that rewrites the row of one Runner. -/
theorem registry_of_update {f : RunnerRow → RunnerRow} {k : ∀ x, (f x).runnerId = x.runnerId}
    (hR : s'.runners = s.runners.update r f k) (ho : s.Others s')
    (hkeep : ∀ row, s.runners.get? r = some row → row.Kept (f row)) :
    s.desk.Step .registry s'.desk := by
  have : s'.desk = { s.desk with runners := s.runners.update r f k } := by
    simp [Store.desk, hR, ho.tasks, ho.leases, ho.messages]
  rw [this]
  exact .registry (.update _ _ _ _ hkeep)

/-- An `UPDATE` of one Runner that dispatching does not see. -/
theorem setRunner_moves (s : Store) (r : String) (f : RunnerRow → RunnerRow)
    (hf : ∀ x, (f x).runnerId = x.runnerId)
    (hkeep : ∀ row, s.runners.get? r = some row → row.Kept (f row)) :
    s.desk.Step .registry (s.setRunner r f hf).desk :=
  .registry (.update _ _ _ hf hkeep)

theorem redeemEnrollment_moves (h : redeemEnrollment cfg s env payload = .ok (s', x)) :
    s.desk.Step .registry s'.desk := by
  obtain ⟨req, e, C, _, _, _, hR, _, _, ho⟩ := redeemEnrollment_ok h
  exact registry_of_update hR ho fun _ _ => ⟨rfl, id, Nat.le_succ _⟩

theorem revokeEnrollment_moves (h : revokeEnrollment cfg s env runnerId payload = .ok (s', x)) :
    s'.desk = s.desk ∨ s.desk.Step .registry s'.desk := by
  obtain rfl | ⟨r, e, _, hR, _, _, ho⟩ := revokeEnrollment_ok h
  · exact .inl rfl
  · exact .inr (registry_of_update hR ho fun _ _ => ⟨rfl, id, Nat.le_succ _⟩)

theorem regenerateEnrollment_moves
    (h : regenerateEnrollment cfg s env runnerId payload = .ok (s', x)) :
    s'.desk = s.desk ∨ s.desk.Step .registry s'.desk := by
  obtain rfl | ⟨req, E, _, _, _, _, _, hR, _, _, ho⟩ := regenerateEnrollment_ok h
  · exact .inl rfl
  · exact .inr (registry_of_update hR ho fun _ _ => ⟨rfl, id, Nat.le_succ _⟩)

/-- The target of an update: `enabled` needs a Runner that is not revoked, `disabled` does not. -/
theorem adminTarget_ok {value : Json} {target : AdminState}
    (h : adminTarget row value = .ok target) :
    (target = .enabled ∧ row.adminState ≠ .revoked) ∨
      (target = .disabled ∧ row.currentTaskId = none ∧ row.workState ≠ .recoveryRequired) := by
  simp only [adminTarget, bind_eq_ok] at h
  obtain ⟨text, _, h⟩ := h
  split_ifs at h <;> simp only [bind_eq_ok, ensure_eq_ok, pure_eq_ok] at h
  · obtain ⟨_, ⟨hstate, _⟩, rfl⟩ := h
    refine .inl ⟨rfl, ?_⟩
    rintro e
    simp [e] at hstate
  · obtain ⟨_, hfree, rfl⟩ := h
    exact .inr ⟨rfl, hfree⟩

theorem updatePlan_adminState {plan : RunnerUpdate} (h : updatePlan row payload = .ok plan) :
    plan.adminState = none ∨
      (plan.adminState = some .enabled ∧ row.adminState ≠ .revoked) ∨
      plan.adminState = some .disabled := by
  simp only [updatePlan, bind_eq_ok, ensure_eq_ok, pure_eq_ok] at h
  obtain ⟨_, _, _, _, _, _, target, htarget, _, _, rfl⟩ := h
  unfold whenGiven at htarget
  split_ifs at htarget
  · simp only [except_map_eq_ok] at htarget
    obtain ⟨a, ha, rfl⟩ := htarget
    obtain ⟨rfl, hr⟩ | ⟨rfl, _⟩ := adminTarget_ok ha
    · exact .inr (.inl ⟨rfl, hr⟩)
    · exact .inr (.inr rfl)
  · simp only [pure_eq_ok] at htarget
    exact .inl htarget.symm

@[simp] theorem RunnerUpdate.apply_seat (plan : RunnerUpdate) (now : Instant) (r : RunnerRow) :
    (plan.apply now r).seat = r.seat := rfl

theorem updateRunner_moves (h : updateRunner cfg s env runnerId payload = .ok (s', x)) :
    s'.desk = s.desk ∨ ∃ m, (Command.updateRunner env runnerId payload).Issues cfg s m ∧
      s.desk.Step m s'.desk := by
  obtain rfl | ⟨req, row, plan, hreq, hnew, hrow, hplan, hR, _, _, ho⟩ := updateRunner_ok h
  · exact .inl rfl
  · right
    have hget := (lockedRunner_eq_ok.mp hrow).1
    by_cases hrev : row.adminState = .revoked ∧ plan.adminState = some .disabled
    · refine ⟨.reinstate req.runnerId,
        ⟨env, runnerId, payload, req, row, plan, rfl, hreq, hnew, hrow, hrev.1, hplan, hrev.2, rfl⟩,
        ?_⟩
      have : s'.desk =
          { s.desk with runners := s.runners.update req.runnerId (plan.apply (env.clock 0)) } := by
        simp [Store.desk, hR, ho.tasks, ho.leases, ho.messages]
      rw [this]
      exact .reinstate (d := s.desk) hget hrev.1 rfl (by simp [RunnerUpdate.apply, hrev.2])
        (Nat.le_succ _)
    · refine ⟨.registry, trivial, registry_of_update hR ho ?_⟩
      intro row' hrow'
      obtain rfl : row' = row := by rw [hget] at hrow'; exact (Option.some.inj hrow').symm
      refine ⟨rfl, fun hr => ?_, Nat.le_succ _⟩
      obtain hp | ⟨_, hne⟩ | hp := updatePlan_adminState hplan
      · simp [RunnerUpdate.apply, hp, hr]
      · exact absurd hr hne
      · exact absurd ⟨hr, hp⟩ hrev

theorem adminReplay_eq_none {action : String} :
    adminReplay s req action = .ok none ↔ s.adminRequests.get? req.requestId = none := by
  unfold adminReplay
  split <;> simp [*]

/-- The answer of a request that is new can be stored. -/
theorem saveAdminReplay_of_new (h : s.adminRequests.get? req.requestId = none) (now : Instant)
    (action : String) (response : AdminResponse) :
    ∃ s', s.saveAdminReplay now req action response = .ok s' ∧ s'.desk = s.desk := by
  obtain ⟨T, hT⟩ := Table.insert?_of_get? (T := s.adminRequests)
    (r := ⟨req.requestId, action, req.bodyDigest, req.runnerId, response, now⟩) h
  exact ⟨_, saveAdminReplay_eq_ok.mpr ⟨T, hT, rfl⟩, rfl⟩

/-- An update of a revoked Runner to `disabled` whose guards pass succeeds. -/
theorem Command.Reinstates.step {c : Command} {r : String} (h : c.Reinstates s r) (cfg : Config) :
    ∃ row, (c.step cfg s).runners.get? r = some row ∧ row.adminState = .disabled := by
  obtain ⟨env, runnerId, payload, req, row, plan, rfl, hreq, hnew, hrow, hrev, hplan, hdis, rfl⟩ := h
  have hget := (lockedRunner_eq_ok.mp hrow).1
  set s₁ := (s.setRunner req.runnerId (plan.apply (env.clock 0))).event (env.clock 1)
    "runner_updated" (some req.runnerId) none plan.metadata with hs₁
  have hget₁ : s₁.runners.get? req.runnerId = some (plan.apply (env.clock 0) row) := by
    simp [hs₁, Store.event, Store.setRunner, hget]
  have hrow₁ : s₁.runnerRow req.runnerId = .ok (plan.apply (env.clock 0) row) :=
    runnerRow_eq_ok.mpr hget₁
  have hnew₁ : s₁.adminRequests.get? req.requestId = none := adminReplay_eq_none.mp hnew
  choose f hf hdesk using saveAdminReplay_of_new hnew₁
  refine ⟨plan.apply (env.clock 0) row, ?_, by simp [RunnerUpdate.apply, hdis]⟩
  rw [← hget₁]
  simp only [Command.step, Command.exec, Runner.updateRunner, hreq, replayOr, hnew, hrow, hplan,
    ok_bind, ← hs₁]
  simp only [hrow₁, hf, committed, Except.map, ok_bind]
  exact congrArg (fun d => d.runners.get? req.runnerId) (hdesk _ _ _)

/-- `emergency_disable` holds or evicts the task of the Runner, when it has one. -/
theorem emergencyEffect_moves (hrow : s.runners.get? row.runnerId = some row)
    (h : emergencyEffect s now row = .ok s') :
    row.adminState ≠ .revoked ∧ s.SameAccounts s' ∧ match row.currentTaskId with
      | none => s.desk.Step .registry s'.desk
      | some t => if s.hasRun t then (∃ task, s.tasks.get? t = some task) ∧
            s.desk.Step (.hold t row.runnerId) s'.desk
          else s.desk.Step (.evict t row.runnerId) s'.desk := by
  simp only [emergencyEffect, bind_eq_ok, ensure_eq_ok] at h
  obtain ⟨_, hrev, h⟩ := h
  refine ⟨hrev, ?_⟩
  cases hcur : row.currentTaskId with
  | none =>
    simp only [hcur, pure_eq_ok] at h
    subst h
    refine ⟨⟨rfl, rfl⟩, ?_⟩
    refine setRunner_moves _ _ _ _ ?_
    intro row' hrow'
    obtain rfl : row' = row := by rw [hrow] at hrow'; exact (Option.some.inj hrow').symm
    exact ⟨by simp [RunnerRow.seat, disabledRunner, hcur], fun hr => absurd hr hrev,
      Nat.le_succ _⟩
  | some t =>
    simp only [hcur] at h
    split_ifs at h with hrun
    · simp only [pure_eq_ok] at h
      subst h
      simp only [hrun, if_true]
      simp only [Store.hasRun, Option.any_eq_true] at hrun
      obtain ⟨task, htask, hever⟩ := hrun
      exact ⟨⟨rfl, rfl⟩, ⟨task, htask⟩, .hold (d := s.desk) _ _ hrow hrev hcur htask hever⟩
    · simp only [pure_eq_ok] at h
      subst h
      simp only [hrun]
      refine ⟨⟨rfl, rfl⟩, .evict (d := s.desk) _ hrow hrev hcur ?_⟩
      intro task htask
      rw [desk_tasks] at htask
      simpa [Store.hasRun, htask] using hrun

/-- The five actions of `_admin_action` are moves; only `emergency_disable` moves a task. -/
theorem adminAction_moves {action : AdminAction}
    (h : adminAction cfg s env runnerId payload action = .ok (s', x)) :
    s'.desk = s.desk ∨ ∃ m, (Command.adminAction env runnerId payload action).Issues cfg s m ∧
      s.desk.Step m s'.desk := by
  obtain rfl | ⟨req, row, s₁, extra, hreq, hnew, hrow, heff, hdesk, _⟩ := adminAction_ok h
  · exact .inl rfl
  · right
    have hid := lockedRunner_runnerId hrow
    have hget : s.runners.get? row.runnerId = some row := hid ▸ (lockedRunner_eq_ok.mp hrow).1
    have same : ∀ row', s.runners.get? row.runnerId = some row' → row' = row := by
      intro row' hrow'
      rw [hget] at hrow'
      exact (Option.some.inj hrow').symm
    rw [hdesk]
    cases action with
    | drain =>
      simp only [adminEffect, except_map_eq_ok, drainEffect_eq_ok, Prod.mk.injEq] at heff
      obtain ⟨_, ⟨hen, rfl⟩, rfl, _⟩ := heff
      refine ⟨.registry, trivial, setRunner_moves _ _ _ _ fun row' hrow' => ?_⟩
      rw [same row' hrow']
      exact ⟨rfl, fun hr => (by rw [hen] at hr; cases hr), Nat.le_succ _⟩
    | emergencyDisable =>
      simp only [adminEffect, except_map_eq_ok, Prod.mk.injEq] at heff
      obtain ⟨_, heff, rfl, _⟩ := heff
      obtain ⟨hrev, _, hmove⟩ := emergencyEffect_moves hget heff
      have hstops : (Command.adminAction env runnerId payload .emergencyDisable).Stops s row :=
        ⟨env, runnerId, payload, req, rfl, hreq, hnew, hrow, hrev⟩
      split at hmove
      · exact ⟨.registry, trivial, hmove⟩
      · next t hcur =>
        split_ifs at hmove with hrun
        · exact ⟨.hold t row.runnerId, ⟨row, hstops, rfl, hcur, hrun⟩, hmove.2⟩
        · exact ⟨.evict t row.runnerId, ⟨row, hstops, rfl, hcur, hrun⟩, hmove⟩
    | rotateCredential =>
      simp only [adminEffect, except_map_eq_ok, Prod.mk.injEq] at heff
      obtain ⟨⟨_, _⟩, heff, rfl, _⟩ := heff
      obtain ⟨_, _, C, _, rfl⟩ := rotateEffect_ok heff
      exact ⟨.registry, trivial, setRunner_moves s _ _ _ fun _ _ => ⟨rfl, id, Nat.le_succ _⟩⟩
    | delete =>
      simp only [adminEffect, except_map_eq_ok, deleteEffect_eq_ok, Prod.mk.injEq] at heff
      obtain ⟨_, ⟨_, rfl⟩, rfl, _⟩ := heff
      exact ⟨.registry, trivial, setRunner_moves s _ _ _ fun _ _ => ⟨rfl, fun _ => rfl, Nat.le_succ _⟩⟩
    | selfCheck =>
      simp only [adminEffect, except_map_eq_ok, selfCheckEffect_eq_ok, Prod.mk.injEq] at heff
      obtain ⟨_, ⟨_, rfl⟩, rfl, _⟩ := heff
      exact ⟨.registry, trivial, setRunner_moves s _ _ _ fun _ _ => ⟨rfl, id, Nat.le_succ _⟩⟩

/-- An `emergency_disable` whose guards pass succeeds. -/
theorem Command.Stops.step {c : Command} {row : RunnerRow} (h : c.Stops s row) (cfg : Config) :
    s.runners.get? row.runnerId = some row ∧ ∃ now s₁,
      emergencyEffect s now row = .ok s₁ ∧ (c.step cfg s).desk = s₁.desk := by
  obtain ⟨env, runnerId, payload, req, rfl, hreq, hnew, hrow, hrev⟩ := h
  have hid := lockedRunner_runnerId hrow
  have hget : s.runners.get? row.runnerId = some row := hid ▸ (lockedRunner_eq_ok.mp hrow).1
  obtain ⟨s₁, hs₁, hframe⟩ : ∃ s₁, emergencyEffect s (env.clock 0) row = .ok s₁ ∧
      s₁.adminRequests = s.adminRequests ∧ s₁.runners.get? row.runnerId ≠ none := by
    simp only [emergencyEffect, ensure_bind_of hrev]
    split
    · exact ⟨_, rfl, rfl, by simp [Store.setRunner, hget]⟩
    · split_ifs
      · exact ⟨_, rfl, rfl, by simp [Store.setRunner, Store.holdForRecovery, Store.setTask, hget]⟩
      · exact ⟨_, rfl, rfl, by
          simp [Store.setRunner, Store.withdraw, Store.closeLeases, Store.setTask, hget]⟩
  refine ⟨hget, env.clock 0, s₁, hs₁, ?_⟩
  obtain ⟨hadmin, hrunner⟩ := hframe
  obtain ⟨row', hrow'⟩ := Option.ne_none_iff_exists'.mp hrunner
  rw [hid] at hrow'
  have hnew' : s₁.adminRequests.get? req.requestId = none := hadmin ▸ adminReplay_eq_none.mp hnew
  choose f hf hdesk using saveAdminReplay_of_new (s := s₁.event (env.clock 1)
    "runner_emergency_disable" (some req.runnerId) row.currentTaskId []) hnew'
  have hrow'' : (s₁.event (env.clock 1) "runner_emergency_disable" (some req.runnerId)
      row.currentTaskId []).runnerRow req.runnerId = .ok row' := runnerRow_eq_ok.mpr hrow'
  simp only [Command.step, Command.exec, Runner.adminAction, hreq, replayOr, AdminAction.text, hnew,
    hrow, adminEffect, hs₁, Except.map, ok_bind]
  simp [hrow'', hf, committed, hdesk]

/-! ## Heartbeats -/

/-- The fields of a heartbeat that are only compared are those of its payload. -/
theorem heartbeatMessage_payload (h : heartbeatMessage payload r = .ok msg) : msg.runnerId = r ∧
      msg.taskId = (payload.get "task_id").asStr? ∧
      msg.assignmentEpoch = payload.get "assignment_epoch" ∧
      msg.activeLeaseId = payload.get "active_lease_id" := by
  simp only [heartbeatMessage, bind_eq_ok, pure_eq_ok] at h
  obtain ⟨_, _, _, _, _, _, _, _, _, _, _, _, _, _, _, _, _, _, _, _, _, _, _, _, _, _, rfl⟩ := h
  exact ⟨rfl, rfl, rfl, rfl⟩

/-- The lease a heartbeat renews is the active lease of the task that it names and its Runner
    holds. -/
structure Renewal (s : Store) (row : RunnerRow) (msg : HeartbeatMessage) (t l : String)
    (task : TaskRow) (lease : LeaseRow) : Prop where
  named : msg.taskId = some t
  current : row.currentTaskId = some t
  task_get : s.tasks.get? t = some task
  assigned : task.assignedRunnerId = some msg.runnerId
  epoch : msg.assignmentEpoch.eqInt task.assignmentEpoch
  lease_named : msg.activeLeaseId.eqStr? task.leaseId
  lease_id : task.leaseId = some l
  active : task.state.active
  lease_get : s.leases.get? l = some lease
  lease_task : lease.taskId = t
  lease_active : lease.state = .active

theorem heartbeatAssignment_ok (h : heartbeatAssignment cfg s now row msg = .ok s') :
    s' = s ∨ ∃ t l task lease, Renewal s row msg t l task lease ∧
      s' = { s with
        leases := s.leases.update l (renewedLease (now + seconds cfg.leaseTtlSeconds))
        tasks := s.tasks.update t (renewedTask (now + seconds cfg.leaseTtlSeconds)) } := by
  unfold heartbeatAssignment at h
  split at h
  · simp only [bind_eq_ok, pure_eq_ok] at h
    obtain ⟨_, _, rfl⟩ := h
    exact .inl rfl
  · next t ht =>
    simp only [bind_eq_ok, ensure_eq_ok, orRaise_eq_ok] at h
    obtain ⟨_, hcur, task, htask, _, ⟨hassigned, hepoch, hnamed⟩, h⟩ := h
    split_ifs at h with hactive
    · simp only [renewLease, bind_eq_ok, ensure_eq_ok, orRaise_eq_ok, pure_eq_ok,
        Option.any_eq_true, decide_eq_true_eq] at h
      obtain ⟨l, hl, _, ⟨lease, hlease, htaskId, _, _, hlactive⟩, rfl⟩ := h
      exact .inr ⟨t, l, task, lease, ⟨ht, hcur, htask, hassigned, hepoch, hnamed, hl, hactive.2,
        hlease, htaskId, hlactive⟩, rfl⟩
    · simp only [pure_eq_ok] at h
      exact .inl h.symm

/-- A heartbeat that passes rewrites its Runner, after the renewal of the lease it reports. -/
theorem heartbeatUpdate_ok (h : heartbeatUpdate cfg s now row msg = .ok s') : ∃ s₁ agent codex,
      heartbeatAssignment cfg s now row msg = .ok s₁ ∧
      s' = s₁.setRunner msg.runnerId (heartbeatRow now msg agent codex) := by
  simp only [heartbeatUpdate, bind_eq_ok, pure_eq_ok] at h
  obtain ⟨_, _, _, _, _, _, _, _, s₁, hs₁, agent, _, codex, _, _, _, rfl⟩ := h
  exact ⟨s₁, agent, codex, hs₁, rfl⟩

theorem heartbeatUpdate_moves (hrow : s.runners.get? msg.runnerId = some row)
    (h : heartbeatUpdate cfg s now row msg = .ok s') :
    s.SameAccounts s' ∧ s.desk.Step (.beat msg.runnerId msg.workState) s'.desk := by
  obtain ⟨s₁, agent, codex, hs₁, rfl⟩ := heartbeatUpdate_ok h
  have hseat : (heartbeatRow now msg agent codex row).seat = beatenSeat row msg.workState := rfl
  obtain rfl | ⟨t, l, task, lease, hrenew, rfl⟩ := heartbeatAssignment_ok hs₁
  · exact ⟨⟨rfl, rfl⟩, .beat (d := s₁.desk) (f := heartbeatRow now msg agent codex)
      (k := fun _ => rfl) hrow hseat rfl rfl⟩
  · exact ⟨⟨rfl, rfl⟩, .renew (d := s.desk) (f := heartbeatRow now msg agent codex)
      (k := fun _ => rfl) _ hrow hseat rfl rfl hrenew.current hrenew.task_get hrenew.assigned
      hrenew.lease_id hrenew.active hrenew.lease_get hrenew.lease_task hrenew.lease_active⟩

/-- A heartbeat repeated its last one, or passed as a newer one. -/
theorem heartbeat_ok {x : PublicRunner} (h : heartbeat cfg s env payload credential = .ok (s', x)) :
    s' = s ∨ ∃ row msg, (Command.heartbeat env payload credential).Beats cfg s row msg ∧
      msg.runnerId = row.runnerId ∧ heartbeatMessage payload row.runnerId = .ok msg ∧
      heartbeatUpdate cfg s (env.clock 1) row msg = .ok s' := by
  simp only [heartbeat, bind_eq_ok, orRaise_eq_ok, ensure_eq_ok] at h
  obtain ⟨r, henv, _, hcred, msg, hmsg, row, hrow, _, hseq, h⟩ := h
  have hr := (heartbeatMessage_payload hmsg).1
  have hid : row.runnerId = r := hr ▸ Table.key_of_get? hrow
  split_ifs at h with hdup <;> simp only [bind_eq_ok, pure_eq_ok, Prod.mk.injEq] at h
  · obtain ⟨_, _, rfl, _⟩ := h
    exact .inl rfl
  · obtain ⟨s₁, hup, _, _, rfl, _⟩ := h
    subst hid
    exact .inr ⟨row, msg, ⟨env, payload, credential, rfl, henv, hcred, hmsg, hr ▸ hrow,
      lt_of_le_of_ne hseq (Ne.symm hdup), by rw [hup]; rfl⟩, hr, hmsg, hup⟩

theorem heartbeat_moves {x : PublicRunner}
    (h : heartbeat cfg s env payload credential = .ok (s', x)) :
    s.SameAccounts s' ∧ (s'.desk = s.desk ∨
      ∃ m, (Command.heartbeat env payload credential).Issues cfg s m ∧ s.desk.Step m s'.desk) := by
  obtain rfl | ⟨row, msg, hbeats, hid, _, hup⟩ := heartbeat_ok h
  · exact ⟨⟨rfl, rfl⟩, .inl rfl⟩
  · have hrow : s.runners.get? msg.runnerId = some row := by
      obtain ⟨_, _, _, _, _, _, _, hrow, _⟩ := hbeats
      rwa [hid]
    obtain ⟨hacc, hstep⟩ := heartbeatUpdate_moves hrow hup
    exact ⟨hacc, .inr ⟨.beat msg.runnerId msg.workState, ⟨row, msg, hbeats, hid.symm, rfl⟩, hstep⟩⟩

/-! ## Recovery -/

theorem recoveryRequest_runnerId (h : recoveryRequest runnerId payload = .ok (req, t)) :
    runnerIdOf runnerId = .ok req.runnerId ∧ taskIdOf (payload.get "task_id") = .ok t := by
  simp only [recoveryRequest, bind_eq_ok, pure_eq_ok, Prod.mk.injEq] at h
  obtain ⟨_, _, r, hr, t, ht, _, _, _, _, rfl, rfl⟩ := h
  exact ⟨hr, ht⟩

theorem resolveTaskRecovery_moves
    (h : resolveTaskRecovery cfg s env runnerId payload = .ok (s', x)) :
    s.SameAccounts s' ∧ (s'.desk = s.desk ∨
      ∃ m, (Command.resolveTaskRecovery env runnerId payload).Issues cfg s m ∧
        s.desk.Step m s'.desk) := by
  simp only [resolveTaskRecovery, bind_eq_ok, replayOr_eq_ok] at h
  obtain ⟨⟨req, t⟩, hreq, ⟨_, rfl⟩ | ⟨hnew, runner, hrow, h⟩⟩ := h
  · exact ⟨⟨rfl, rfl⟩, .inl rfl⟩
  · simp only [orRaise_eq_ok, ensure_eq_ok, pure_eq_ok, Prod.mk.injEq,
      saveAdminReplay_eq_ok] at h
    obtain ⟨task, htask, _, hassigned, _, ⟨hstate, hlink⟩, _, _, _, _, _, ⟨_, _, rfl⟩, rfl, _⟩ := h
    refine ⟨⟨rfl, rfl⟩, .inr ⟨.resolve t req.runnerId,
      ⟨env, runnerId, payload, req, rfl, hreq, hnew, rfl⟩, ?_⟩⟩
    refine .resolve (d := s.desk) _ htask hstate hassigned (lockedRunner_eq_ok.mp hrow).1 ?_
    obtain hl | ho := hlink
    · simp only [linkedRecovery, decide_eq_true_eq] at hl
      exact .inl hl.1
    · simp only [orphanedRecovery, decide_eq_true_eq] at ho
      exact .inr ho.1

/-! ## The sweep -/

/-- What one round of the sweep does: nothing, or it expires a waiting task, or it finds the
    Runner of the task lost. -/
theorem sweepTask_cases (cfg : Config) (now : Instant) (s : Store) (task : TaskRow) :
    sweepTask cfg now s task = s ∨
    (task.state = .waitingRunner ∧ sweepTask cfg now s task = s.expireTask now task.taskId) ∨
    ∃ r runner, task.assignedRunnerId = some r ∧ s.runners.get? r = some runner ∧
      connectivity cfg runner now = .offline ∧ leaseExpired now task ∧
      ((task.everRunning ∧ sweepTask cfg now s task = s.strand now r task.taskId) ∨
        (task.everRunning = false ∧ sweepTask cfg now s task = s.reclaim now task r)) := by
  by_cases hexp : task.expiresAt ≤ now ∧ task.state = .waitingRunner
  · exact .inr (.inl ⟨hexp.2, by rw [sweepTask, if_pos hexp]⟩)
  · rw [sweepTask, if_neg hexp]
    cases hr : task.assignedRunnerId with
    | none => exact .inl rfl
    | some r =>
      cases hrun : s.runners.get? r with
      | none => exact .inl (by simp only [hrun])
      | some runner =>
        simp only [hrun]
        split_ifs with hlost hever
        · exact .inr (.inr ⟨r, runner, rfl, hrun, hlost.1, hlost.2, .inl ⟨hever, rfl⟩⟩)
        · exact .inr (.inr ⟨r, runner, rfl, hrun, hlost.1, hlost.2,
            .inr ⟨by simpa using hever, rfl⟩⟩)
        · exact .inl rfl

/-- One round of the sweep makes at most one move, on its own task. -/
theorem sweepTask_moves (cfg : Config) (now : Instant)
    (hget : s.tasks.get? task.taskId = some task) (hstate : task.state ∈ sweptStates) :
    s.SameAccounts (sweepTask cfg now s task) ∧
      ((sweepTask cfg now s task).desk = s.desk ∨ ∃ m, m.Scheduling ∧
        s.desk.Step m (sweepTask cfg now s task).desk ∧
        ((∃ t, m = .expire t) ∨ ∃ r, Lost cfg s now task r ∧
          ((m = .strand task r ∧ task.everRunning) ∨
            (m = .reclaim task r ∧ task.everRunning = false)))) := by
  obtain h | ⟨hw, h⟩ | ⟨r, runner, hr, hrun, hoff, hexp, ⟨hever, h⟩ | ⟨hever, h⟩⟩ :=
    sweepTask_cases cfg now s task <;> rw [h]
  · exact ⟨⟨rfl, rfl⟩, .inl rfl⟩
  · exact ⟨⟨rfl, rfl⟩, .inr ⟨.expire task.taskId, trivial, .expire (d := s.desk) now hget hw,
      .inl ⟨_, rfl⟩⟩⟩
  · exact ⟨⟨rfl, rfl⟩, .inr ⟨.strand task r, trivial,
      .strand (d := s.desk) now hget ⟨hstate, hr⟩ hever (by simp [hrun]),
      .inr ⟨r, ⟨hget, ⟨hstate, hr⟩, hexp, runner, hrun, hoff⟩, .inl ⟨rfl, hever⟩⟩⟩⟩
  · exact ⟨⟨rfl, rfl⟩, .inr ⟨.reclaim task r, trivial,
      .reclaim (d := s.desk) now hget ⟨hstate, hr⟩ hever (by simp [hrun]),
      .inr ⟨r, ⟨hget, ⟨hstate, hr⟩, hexp, runner, hrun, hoff⟩, .inr ⟨rfl, hever⟩⟩⟩⟩

/-- A round of the sweep writes no task but its own. -/
theorem sweepTask_frame (h : t ≠ task.taskId) :
    (sweepTask cfg now s task).tasks.get? t = s.tasks.get? t := by
  obtain h' | ⟨_, h'⟩ | ⟨r, runner, _, _, _, _, ⟨_, h'⟩ | ⟨_, h'⟩⟩ :=
    sweepTask_cases cfg now s task <;> rw [h']
  · exact expireTask_frame s now h
  · exact Table.get?_update_of_ne s.tasks h (recoveryTask strandedAction now) fun _ => rfl
  · exact Table.get?_update_of_ne s.tasks h
      (fun t => requeuedTask now t.errorCode t.actionRequired t) fun _ => rfl

/-- The columns that say whether a Runner is connected. -/
def RunnerRow.link (r : RunnerRow) : Bool × Option Instant := (r.relayConnected, r.lastHeartbeatAt)

theorem connectivity_congr {row' : RunnerRow} (h : row'.link = row.link) (now : Instant) :
    connectivity cfg row' now = connectivity cfg row now := by
  simp only [RunnerRow.link, Prod.mk.injEq] at h
  simp only [connectivity, h.1, h.2]

theorem link_update (R : Table RunnerRow.runnerId) (r : String) (f : RunnerRow → RunnerRow)
    (hf : ∀ x, (f x).runnerId = x.runnerId) (hlink : ∀ x, (f x).link = x.link) (r' : String) :
    ((R.update r f hf).get? r').map RunnerRow.link = (R.get? r').map RunnerRow.link := by
  rw [Table.get?_update]
  split_ifs
  · rw [Option.map_map]
    exact Option.map_congr fun x _ => hlink x
  · rfl

/-- A round of the sweep leaves every Runner connected as it was. -/
theorem sweepTask_link (r : String) :
    ((sweepTask cfg now s task).runners.get? r).map RunnerRow.link =
      (s.runners.get? r).map RunnerRow.link := by
  obtain h | ⟨_, h⟩ | ⟨r', runner, _, _, _, _, ⟨_, h⟩ | ⟨_, h⟩⟩ :=
    sweepTask_cases cfg now s task <;> rw [h]
  · rfl
  · exact link_update s.runners r' (heldRunner task.taskId now) (fun _ => rfl) (fun _ => rfl) r
  · exact link_update s.runners r' (freedRunner now) (fun _ => rfl) (fun _ => rfl) r

/-- What was lost after some rounds of the sweep was lost before them. -/
theorem Lost.of_link (h : Lost cfg s' now task r) (htask : s.tasks.get? task.taskId = some task)
    (hlink : ∀ r, (s'.runners.get? r).map RunnerRow.link = (s.runners.get? r).map RunnerRow.link) :
    Lost cfg s now task r := by
  obtain ⟨_, hswept, hexp, runner, hrun, hoff⟩ := h
  have hl := hlink r
  rw [hrun] at hl
  cases hr : s.runners.get? r with
  | none => simp [hr] at hl
  | some row =>
    simp only [hr, Option.map_some, Option.some.injEq] at hl
    exact ⟨htask, hswept, hexp, row, hr, by rw [← connectivity_congr hl]; exact hoff⟩

/-- The rounds of a sweep make a path of moves, each on a row of the snapshot that was lost when
    the sweep began. -/
theorem sweepRows_moves (cfg : Config) (now : Instant)
    (h : Snapshot s (fun x => x.state ∈ sweptStates) rows) :
    s.SameAccounts (rows.foldl (sweepTask cfg now) s) ∧
      ∃ ms, Path Desk.Step s.desk ms (rows.foldl (sweepTask cfg now) s).desk ∧
        ∀ m ∈ ms, m.Scheduling ∧ ((∃ t, m = .expire t) ∨ ∃ task r, task ∈ rows ∧
          Lost cfg s now task r ∧ ((m = .strand task r ∧ task.everRunning) ∨
            (m = .reclaim task r ∧ task.everRunning = false))) := by
  induction rows generalizing s with
  | nil => exact ⟨⟨rfl, rfl⟩, [], .nil _, by simp⟩
  | cons task rows ih =>
    rw [List.foldl_cons]
    obtain ⟨hget, hstate⟩ := h.stored task List.mem_cons_self
    obtain ⟨hacc, hmove⟩ := sweepTask_moves cfg now hget hstate
    obtain ⟨hacc', ms, hpath, hms⟩ := ih (h.tail_of_frame fun t ht => sweepTask_frame ht)
    refine ⟨hacc.trans hacc', ?_⟩
    have later : ∀ m ∈ ms, m.Scheduling ∧ ((∃ t, m = .expire t) ∨
        ∃ x r, x ∈ task :: rows ∧ Lost cfg s now x r ∧ ((m = .strand x r ∧ x.everRunning) ∨
          (m = .reclaim x r ∧ x.everRunning = false))) := by
      intro m hm
      obtain ⟨hsched, hexp | ⟨x, r, hx, hlost, hm⟩⟩ := hms m hm
      · exact ⟨hsched, .inl hexp⟩
      · exact ⟨hsched, .inr ⟨x, r, List.mem_cons_of_mem _ hx,
          hlost.of_link (h.tail.stored x hx).1 sweepTask_link, hm⟩⟩
    obtain hsame | ⟨m, hsched, hstep, hm⟩ := hmove
    · exact ⟨ms, hsame ▸ hpath, later⟩
    · refine ⟨m :: ms, .cons hstep hpath, ?_⟩
      intro m' hm'
      obtain rfl | hm' := List.mem_cons.mp hm'
      · exact ⟨hsched, hm.imp id fun ⟨r, hr⟩ => ⟨task, r, List.mem_cons_self, hr⟩⟩
      · exact later m' hm'

/-- The last statement of the sweep is seen by no task. -/
theorem finishDraining_moves (s : Store) (now : Instant) :
    s.desk.Step .registry (s.finishDraining now).desk := by
  refine .registry (.updateWhere _ _ (fun r => disabledRunner r.workState r.currentTaskId now r)
    (fun _ => rfl) ?_)
  intro row _ hp
  simp only [decide_eq_true_eq] at hp
  exact ⟨rfl, fun hr => (by rw [hp.1] at hr; cases hr), Nat.le_succ _⟩

theorem sweep_moves (order : RowOrder) :
    s.SameAccounts (sweep cfg s env order) ∧
      ∃ ms, Path Desk.Step s.desk ms (sweep cfg s env order).desk ∧
        ∀ m ∈ ms, m.Scheduling ∧ (Command.sweep env order).Issues cfg s m := by
  have hsnap := snapshot_of_perm (s := s)
    (order.perm (s.tasks.rows.filter fun t => sweptStates.contains t.state))
  obtain ⟨hacc, ms, hpath, hms⟩ := sweepRows_moves cfg (env.clock 0)
    ⟨fun x hx => ⟨(hsnap.stored x hx).1, by simpa using (hsnap.stored x hx).2⟩, hsnap.nodup⟩
  refine ⟨⟨hacc.credentials, hacc.enrollments⟩, ms ++ [.registry],
    hpath.append (.single (finishDraining_moves _ _)), ?_⟩
  intro m hm
  obtain hm | hm := List.mem_append.mp hm
  · obtain ⟨hsched, ⟨t, rfl⟩ | ⟨x, r, _, hlost, ⟨rfl, hx⟩ | ⟨rfl, hx⟩⟩⟩ := hms m hm
    · exact ⟨hsched, trivial⟩
    · exact ⟨hsched, ⟨env, order, rfl, hlost⟩, hx⟩
    · exact ⟨hsched, ⟨env, order, rfl, hlost⟩, hx⟩
  · rw [List.mem_singleton] at hm
    subst hm
    exact ⟨trivial, trivial⟩

/-! ## Messages -/

theorem runnerIdOf_eq_ok {value : Json} :
    runnerIdOf value = .ok r ↔ value.asStr? = some r ∧ runnerIdRe r := by
  simp [runnerIdOf, Option.filter_eq_some_iff]

/-- A verified credential belongs to a registered Runner that is not revoked. -/
theorem verifyCredential_ok (h : verifyCredential s (.str r) credential = .ok ()) :
    ∃ runner, s.runners.get? r = some runner ∧ runner.adminState ≠ .revoked := by
  simp only [verifyCredential, bind_eq_ok, orRaise_eq_ok, ensure_eq_ok, runnerIdOf_eq_ok,
    Json.asStr?, Option.some.injEq] at h
  obtain ⟨_, ⟨rfl, _⟩, _, _, _, _, runner, hrun, hne⟩ := h
  exact ⟨runner, hrun, hne⟩

theorem messageHead_runnerId (hh : messageHead payload = .ok h) :
    runnerIdOf (payload.get "runner_id") = .ok h.runnerId := by
  simp only [messageHead, bind_eq_ok, pure_eq_ok] at hh
  obtain ⟨r, hr, _, _, _, _, _, _, _, _, rfl⟩ := hh
  exact hr

theorem statusEnvelope_runnerId (h : statusEnvelope env payload = .ok r) :
    runnerIdOf (payload.get "runner_id") = .ok r := by
  simp only [statusEnvelope, bind_eq_ok, pure_eq_ok] at h
  obtain ⟨_, _, _, _, _, _, _, _, r', hr, _, _, rfl⟩ := h
  exact hr

theorem resultEnvelope_runnerId (h : resultEnvelope env payload = .ok r) :
    runnerIdOf (payload.get "runner_id") = .ok r := by
  simp only [resultEnvelope, bind_eq_ok, pure_eq_ok] at h
  obtain ⟨_, _, _, _, _, _, _, _, r', hr, _, _, rfl⟩ := h
  exact hr

theorem statusMessage_head {m : StatusMessage} (h : statusMessage payload = .ok m) :
    messageHead payload = .ok m.head := by
  simp only [statusMessage, bind_eq_ok] at h
  obtain ⟨_, _, _, _, _, _, h⟩ := h
  split_ifs at h <;> simp only [bind_eq_ok, pure_eq_ok] at h
  · obtain ⟨_, _, _, _, _, _, head, hh, rfl⟩ := h
    exact hh
  · obtain ⟨_, _, _, _, _, _, _, _, head, hh, rfl⟩ := h
    exact hh

theorem resultMessage_head {m : ResultMessage} (h : resultMessage payload = .ok m) :
    messageHead payload = .ok m.head := by
  simp only [resultMessage, bind_eq_ok, pure_eq_ok] at h
  obtain ⟨_, _, _, _, _, _, _, _, _, _, _, _, _, _, _, _, _, _, _, _, _, _, _, _, _, _, head, hh,
    rfl⟩ := h
  exact hh

/-- A message that arrives is of the kind of its call and comes from a registered Runner. -/
theorem arrive_ok (h : arrive s env kind payload credential = .ok m) :
    m.kind = kind ∧ ∃ runner, s.runners.get? m.head.runnerId = some runner ∧
      runner.adminState ≠ .revoked := by
  cases kind with
  | status =>
    simp only [arrive, arriveStatus, bind_eq_ok, pure_eq_ok] at h
    obtain ⟨r, henv, _, hcred, m', hm, rfl⟩ := h
    have hr := messageHead_runnerId (statusMessage_head hm)
    rw [statusEnvelope_runnerId henv] at hr
    injection hr with hr
    subst hr
    exact ⟨rfl, verifyCredential_ok hcred⟩
  | result =>
    simp only [arrive, arriveResult, bind_eq_ok, pure_eq_ok] at h
    obtain ⟨_, _, r, henv, _, hcred, m', hm, rfl⟩ := h
    have hr := messageHead_runnerId (resultMessage_head hm)
    rw [resultEnvelope_runnerId henv] at hr
    injection hr with hr
    subst hr
    exact ⟨rfl, verifyCredential_ok hcred⟩

/-- The integers of a message are integers for SQLite. -/
def Message.Storable (m : Message) : Prop :=
  m.head.assignmentEpoch < 2 ^ 63 ∧ m.head.sequence < 2 ^ 63

/-- A message that `_record_message` recognised is in the log. -/
theorem recordMessage_duplicate (h : recordMessage s now m = .ok (s', true)) : s' = s ∧
      ∃ existing, s.messages.get? m.key = some existing := by
  simp only [recordMessage, bind_eq_ok] at h
  obtain ⟨_, _, _, _, h⟩ := h
  split at h
  · next existing hex =>
    simp only [bind_eq_ok, pure_eq_ok, Prod.mk.injEq] at h
    obtain ⟨_, _, rfl, _⟩ := h
    exact ⟨rfl, existing, hex⟩
  · simp [bind_eq_ok] at h

/-- A message that `_record_message` filed has passed its guards. -/
theorem recordMessage_filed (h : recordMessage s now m = .ok (s', false)) :
    m.Storable ∧ s.desk.Admits m ∧ ∃ M,
      s.messages.insert? ⟨m.key, m.head.bodyDigest, now⟩ = some M ∧
      s' = { s with messages := M } := by
  simp only [recordMessage, sqlInt, bind_eq_ok, ensure_eq_ok] at h
  obtain ⟨_, hepoch, _, hseq, h⟩ := h
  split at h
  · simp at h
  · next hnew =>
    simp only [bind_eq_ok, ensure_eq_ok, orRaise_eq_ok, pure_eq_ok, Prod.mk.injEq,
      insertMessage_eq_ok, Bool.not_eq_true'] at h
    obtain ⟨task, htask, _, hholds, _, hlt, _, him, _, ⟨M, hM, rfl⟩, rfl, _⟩ := h
    exact ⟨⟨hepoch, hseq⟩, ⟨hnew, task, htask, hholds, hlt, by simp [him]⟩, M, hM, rfl⟩

/-- A message call leaves the tables of requests alone. -/
theorem receive_requestTables (s : Store) (env : Env) (kind : MessageKind) (payload : Dict)
    (credential : Json) {s' : Store} (hs' : (receive s env kind payload credential).1 = s') :
    s'.enrollments = s.enrollments ∧ s'.adminRequests = s.adminRequests ∧
      s'.commandRequests = s.commandRequests := by
  subst hs'
  unfold receive
  split
  · exact ⟨rfl, rfl, rfl⟩
  · next m _ =>
    unfold deliver
    split
    · exact ⟨rfl, rfl, rfl⟩
    · next hrec =>
      obtain ⟨rfl, _⟩ := recordMessage_duplicate hrec
      exact ⟨rfl, rfl, rfl⟩
    · next hrec =>
      obtain ⟨_, _, M, _, rfl⟩ := recordMessage_filed hrec
      split
      · exact ⟨rfl, rfl, rfl⟩
      · next happ =>
        cases m with
        | status m =>
          simp only [applyMessage, applyStatus, bind_eq_ok, pure_eq_ok] at happ
          obtain ⟨_, _, rfl⟩ := happ
          split_ifs <;> exact ⟨rfl, rfl, rfl⟩
        | result m =>
          simp only [applyMessage, applyResult, bind_eq_ok, pure_eq_ok] at happ
          obtain ⟨_, _, _, _, rfl⟩ := happ
          exact ⟨rfl, rfl, rfl⟩

/-- A storable message that the guards let through is filed. -/
theorem recordMessage_of_admits (now : Instant) (hstore : m.Storable) (hadmits : s.desk.Admits m) :
    ∃ M,
      s.messages.insert? ⟨m.key, m.head.bodyDigest, now⟩ = some M ∧
      recordMessage s now m = .ok ({ s with messages := M }, false) := by
  obtain ⟨hnew, task, htask, hholds, hlt, him⟩ := hadmits
  obtain ⟨M, hM⟩ := Table.insert?_of_get? (T := s.messages)
    (r := ⟨m.key, m.head.bodyDigest, now⟩) hnew
  refine ⟨M, hM, ?_⟩
  simp only [desk_messages, desk_tasks] at hnew htask
  simpa [recordMessage, sqlInt, hnew, htask, ensure_of hholds, ensure_of hlt, him, hM,
    Store.insertMessage, Message.Storable] using hstore

theorem lockedAssignment_eq_ok :
    lockedAssignment s h = .ok task ↔ s.tasks.get? h.taskId = some task ∧ h.holds task := by
  simp only [lockedAssignment, bind_eq_ok, orRaise_eq_ok, ensure_eq_ok, pure_eq_ok]
  constructor
  · rintro ⟨a, ha, _, hh, rfl⟩
    exact ⟨ha, hh⟩
  · rintro ⟨ha, hh⟩
    exact ⟨task, ha, (), hh, rfl⟩

/-- The second transaction is a move. -/
theorem applyMessage_moves (h : applyMessage s env m = .ok s') :
    s.SameAccounts s' ∧ s.desk.Step (.apply m) s'.desk := by
  cases m with
  | status m =>
    simp only [applyMessage, applyStatus, bind_eq_ok, pure_eq_ok, lockedAssignment_eq_ok] at h
    obtain ⟨task, ⟨htask, hholds⟩, rfl⟩ := h
    have hstep := Desk.Step.status (d := s.desk) (m := m) (env.clock 2) htask hholds
    by_cases hrec : m.state = .recoveryRequired
    · simp only [hrec, if_true] at hstep ⊢
      exact ⟨⟨rfl, rfl⟩, hstep⟩
    · simp only [hrec, if_false] at hstep ⊢
      exact ⟨⟨rfl, rfl⟩, hstep⟩
  | result m =>
    simp only [applyMessage, applyResult, bind_eq_ok, pure_eq_ok, lockedAssignment_eq_ok,
      runnerRow_eq_ok] at h
    obtain ⟨task, ⟨htask, hholds⟩, runner, hrun, rfl⟩ := h
    refine ⟨⟨rfl, rfl⟩, .result (d := s.desk) (m := m) (env.clock 2) htask hholds ?_⟩
    rw [desk_runners, show s.runners.get? m.head.runnerId = some runner from hrun]
    simp

/-- The second transaction of a message that still holds its task does not raise. -/
theorem applyMessage_of_holds (env : Env) (htask : s.tasks.get? m.head.taskId = some task)
    (hholds : m.head.holds task) (hrun : s.runners.get? m.head.runnerId = some runner) :
    ∃ s', applyMessage s env m = .ok s' := by
  cases m with
  | status m =>
    have hlock : lockedAssignment s m.head = .ok task :=
      lockedAssignment_eq_ok.mpr ⟨htask, hholds⟩
    simp only [applyMessage, applyStatus, hlock, ok_bind]
    exact ⟨_, rfl⟩
  | result m =>
    have hlock : lockedAssignment s m.head = .ok task :=
      lockedAssignment_eq_ok.mpr ⟨htask, hholds⟩
    have hrow : ((s.setTask m.head.taskId (resultTask (env.clock 2) m)).releaseLease task.leaseId
        (env.clock 2)).runnerRow m.head.runnerId = .ok runner := runnerRow_eq_ok.mpr hrun
    simp only [applyMessage, applyResult, hlock, ok_bind, hrow]
    exact ⟨_, rfl⟩

/-- A message call is about to pass its first transaction. -/
def Call.Admits (s : Store) (c : Call) (m : Message) : Prop :=
  ∃ kind env payload credential, c = .message kind env payload credential ∧
    arrive s env kind payload credential = .ok m ∧ m.Storable ∧ s.desk.Admits m

theorem Call.Admits.unique {m' : Message} (h : c.Admits s m) (h' : c.Admits s m') : m = m' := by
  obtain ⟨_, _, _, _, rfl, harr, _⟩ := h
  obtain ⟨_, _, _, _, hc, harr', _⟩ := h'
  cases hc
  rw [harr] at harr'
  exact Except.ok.inj harr'

/-- A message call either passes both transactions or writes nothing. -/
theorem message_moves (cfg : Config) (s : Store) (hc : c = .message kind env payload credential) :
    (c.step cfg s = s ∧ ∀ m, ¬ c.Admits s m) ∨
    ∃ m, c.Admits s m ∧ s.SameAccounts (c.step cfg s) ∧ ∃ d, s.desk.Step (.record m) d ∧
      d.Step (.apply m) (c.step cfg s).desk := by
  have hstep : c.step cfg s = (receive s env kind payload credential).1 := by rw [hc]; rfl
  rw [hstep]
  unfold receive
  cases harr : arrive s env kind payload credential with
  | error e =>
    refine .inl ⟨rfl, ?_⟩
    rintro m ⟨_, _, _, _, hc', harr', _⟩
    cases hc.symm.trans hc'
    rw [harr] at harr'
    cases harr'
  | ok m =>
    by_cases hadm : m.Storable ∧ s.desk.Admits m
    · right
      obtain ⟨hstore, hadm⟩ := hadm
      obtain ⟨_, runner, hrun, _⟩ := arrive_ok harr
      obtain ⟨M, hM, hrec⟩ := recordMessage_of_admits (env.clock 1) hstore hadm
      obtain ⟨_, task, htask, hholds, _⟩ := id hadm
      obtain ⟨s', hs'⟩ := applyMessage_of_holds (s := { s with messages := M }) env
        htask hholds hrun
      obtain ⟨hacc, hmove⟩ := applyMessage_moves hs'
      have hrun : (deliver s env m).1 = s' := by simp only [deliver, hrec, hs']
      rw [hrun]
      exact ⟨m, ⟨_, _, _, _, hc, harr, hstore, hadm⟩, ⟨hacc.credentials, hacc.enrollments⟩, _,
        .record (d := s.desk) _ hadm hM, hmove⟩
    · left
      constructor
      · simp only [deliver]
        split
        · rfl
        · next s₁ hrec => exact (recordMessage_duplicate hrec).1
        · next s₁ hrec =>
          obtain ⟨hstore, hadm', _⟩ := recordMessage_filed hrec
          exact absurd ⟨hstore, hadm'⟩ hadm
      · rintro m' ⟨_, _, _, _, hc', harr', hstore, hadm'⟩
        cases hc.symm.trans hc'
        rw [harr] at harr'
        cases harr'
        exact hadm ⟨hstore, hadm'⟩

/-! ## All calls -/

/-- A command makes no move, one move that it issues, or a path of scheduling moves. -/
def Command.Moved (cfg : Config) (s : Store) (c : Command) (d : Desk) : Prop :=
  d = s.desk ∨ (∃ m, c.Issues cfg s m ∧ s.desk.Step m d) ∨
    ∃ ms, Path Desk.Step s.desk ms d ∧ ∀ m ∈ ms, m.Scheduling ∧ c.Issues cfg s m

theorem Command.Moved.one {c : Command} {d : Desk}
    (h : d = s.desk ∨ ∃ m, c.Issues cfg s m ∧ s.desk.Step m d) : c.Moved cfg s d :=
  h.imp id .inl

/-- Every command is a move of the desk, a path of scheduling moves, or neither. -/
theorem Command.moves (cfg : Config) (s : Store) (c : Command) :
    c.Moved cfg s (c.step cfg s).desk := by
  have hkeep {α : Type} {c : Command} {x : Except Raise (Store × α)}
      (hx : ∀ {s' a}, x = .ok (s', a) → c.Moved cfg s s'.desk) :
      c.Moved cfg s (committed s (x.map Prod.fst)).desk :=
    committed_map_ind (P := fun s' => c.Moved cfg s s'.desk) (.inl rfl) hx
  cases c with
  | createEnrollment env payload =>
    exact hkeep fun h => .one ((createEnrollment_moves h).imp id fun hm => ⟨.registry, trivial, hm⟩)
  | redeemEnrollment env payload =>
    exact hkeep fun h => .one (.inr ⟨.registry, trivial, redeemEnrollment_moves h⟩)
  | updateRunner env runnerId payload => exact hkeep fun h => .one (updateRunner_moves h)
  | revokeEnrollment env runnerId payload =>
    exact hkeep fun h => .one ((revokeEnrollment_moves h).imp id fun hm => ⟨.registry, trivial, hm⟩)
  | regenerateEnrollment env runnerId payload =>
    exact hkeep fun h =>
      .one ((regenerateEnrollment_moves h).imp id fun hm => ⟨.registry, trivial, hm⟩)
  | adminAction env runnerId payload action => exact hkeep fun h => .one (adminAction_moves h)
  | heartbeat env payload credential => exact hkeep fun h => .one (heartbeat_moves h).2
  | createWorkTask env payload =>
    exact hkeep fun h =>
      .one ((createWorkTask_moves h).2.imp id fun ⟨t, hm⟩ => ⟨.enqueue t, trivial, hm⟩)
  | commandTask env payload control => exact hkeep fun h => .one (commandTask_moves h).2
  | claimNext env =>
    refine hkeep fun h => ?_
    obtain ⟨_, ms, hpath, hms⟩ := claimNext_moves h
    refine .inr (.inr ⟨ms, hpath, fun m hm => ?_⟩)
    obtain ⟨t, rfl⟩ | ⟨r, a, rfl, rfl⟩ := hms m hm
    · exact ⟨trivial, trivial⟩
    · exact ⟨trivial, env, _, a, rfl, h, rfl⟩
  | markDispatched env taskId =>
    refine hkeep fun h => ?_
    obtain ⟨_, t, hm⟩ := markDispatched_moves h
    exact .one (.inr ⟨.mark t, trivial, hm⟩)
  | rescheduleUndelivered env taskId runnerId epoch leaseId =>
    exact hkeep fun h => .one (.inr (rescheduleUndelivered_moves h cfg).2)
  | resolveTaskRecovery env runnerId payload =>
    exact hkeep fun h => .one (resolveTaskRecovery_moves h).2
  | sweep env order => exact .inr (.inr (sweep_moves order).2)

end HomeAddons.Runner
