import HomeAddons.Runner.Assignment

/-!
# Runner Center v2: executed work

A task whose Runner has proved that it executed it, by a `running` status or by any result, should
never go to another Runner. The code protects the tasks with `ever_running`, which only a `running`
status sets: `continue` may make a task dispatched again that has a result but never reported
`running`, and `reschedule_undelivered`, `emergency_disable` and `sweep` take such a task away from
its Runner. `executed_stays` says that nothing else does.
-/

namespace HomeAddons.Runner

open HomeAddons.Common

/-- The message proves that its Runner has executed the task. -/
def Message.ProvesExecution : Message → Prop
  | .status m => m.state = .running
  | .result _ => True

/-- The task is in the assignment that the head names. -/
def Desk.Assigned (d : Desk) (h : MessageHead) : Prop :=
  ∃ row, d.tasks.get? h.taskId = some row ∧ row.assignedRunnerId = some h.runnerId ∧
    row.assignmentEpoch = h.assignmentEpoch

/-- The task is in the assignment that the head names and has been running. -/
def Desk.HasRun (d : Desk) (h : MessageHead) : Prop :=
  ∃ row, d.tasks.get? h.taskId = some row ∧ row.assignedRunnerId = some h.runnerId ∧
    row.assignmentEpoch = h.assignmentEpoch ∧ row.everRunning

/-- The message log has a result of the assignment that the head names. -/
def Desk.Finished (d : Desk) (h : MessageHead) : Prop :=
  ∃ seq, d.messages.get? ⟨h.runnerId, h.taskId, .result, h.assignmentEpoch, seq⟩ ≠ none

/-- The moves that take a task away from its Runner. -/
def Move.Transfers (t : String) : Move → Prop
  | .unsend t' _ | .evict t' _ => t' = t
  | .reclaim task _ => task.taskId = t
  | _ => False

section Step

variable {d d' : Desk} {m : Move} {head : MessageHead}

/-- A task that has been running stays with its Runner. -/
theorem Desk.HasRun.step (hs : Sound d) (hrun : d.HasRun head) (h : d.Step m d') :
    d'.HasRun head := by
  obtain ⟨row, hrow, hr, he, hever⟩ := hrun
  have hwaiting := hs.waiting
  unfold Desk.HasRun
  cases h with
  | enqueue hT =>
    simp only [Table.get?_insert? hT] at *
    grind
  | _ =>
    simp only [Table.get?_update_eq_some] at *
    grind

/-- Only three moves take a task away from its Runner. -/
theorem Desk.Assigned.step (hs : Sound d) (ha : d.Assigned head)
    (hm : ¬ m.Transfers head.taskId) (h : d.Step m d') : d'.Assigned head := by
  obtain ⟨row, hrow, hr, he⟩ := ha
  have hwaiting := hs.waiting
  simp only [Move.Transfers] at hm
  unfold Desk.Assigned
  cases h with
  | enqueue hT =>
    simp only [Table.get?_insert? hT] at *
    grind
  | _ =>
    simp only [Table.get?_update_eq_some] at *
    grind

/-- The message log only grows. -/
theorem Desk.Finished.step (hf : d.Finished head) (h : d.Step m d') : d'.Finished head := by
  obtain ⟨seq, hmsg⟩ := hf
  refine ⟨seq, ?_⟩
  cases h with
  | record _ _ hM =>
    rw [Table.get?_insert? hM]
    split_ifs
    · simp
    · exact hmsg
  | _ => exact hmsg

end Step

/-! ## Runs -/

section Runs

variable {cfg : Config} {s : Store} {c : Call} {head : MessageHead} {env : Env}

/-- The command is about to take the task, which has not been running, away from its Runner. -/
def Command.Transfers (cfg : Config) (s : Store) (c : Command) (t : String) : Prop :=
  (∃ d, c.Reschedules s d ∧ d.taskId = t) ∨
  (∃ runner, c.Stops s runner ∧ runner.currentTaskId = some t ∧ ¬ s.hasRun t) ∨
  ∃ task r, c.Loses cfg s task r ∧ task.everRunning = false ∧ task.taskId = t

theorem Command.Issues.transfers {c : Command} {m : Move} {t : String} (hm : c.Issues cfg s m)
    (ht : m.Transfers t) : c.Transfers cfg s t := by
  cases m with
  | unsend t' r =>
    obtain ⟨d, hd, rfl, _⟩ := hm
    exact .inl ⟨d, hd, ht⟩
  | evict t' r =>
    obtain ⟨runner, hstops, _, hcur, hrun⟩ := hm
    cases ht
    exact .inr (.inl ⟨runner, hstops, hcur, hrun⟩)
  | reclaim task r =>
    obtain ⟨hloses, hever⟩ := hm
    exact .inr (.inr ⟨task, r, hloses, hever, ht⟩)
  | _ => exact ht.elim

/-- The call does not take a task that has a result of its current assignment away from its
    Runner. -/
def Call.KeepsExecuted (cfg : Config) (s : Store) (c : Call) : Prop :=
  ∀ command head, c = .command command → s.desk.Assigned head → s.desk.Finished head →
    ¬ command.Transfers cfg s head.taskId

/-- The assignment that the head names is proved executed, by `ever_running` or by a result. -/
structure Store.Executed (s : Store) (head : MessageHead) : Prop where
  sound : Sound s.desk
  proof : s.desk.HasRun head ∨ (s.desk.Assigned head ∧ s.desk.Finished head)

theorem Store.Executed.step (he : s.Executed head) (hc : c.KeepsExecuted cfg s) :
    (c.step cfg s).Executed head := by
  have hsound : Sound (c.step cfg s).desk := c.keeps (fun _ _ _ h => h.step) he.sound
  refine ⟨hsound, ?_⟩
  obtain hrun | hfin := he.proof
  · left
    exact (c.keeps (I := fun d => Sound d ∧ d.HasRun head)
      (fun _ _ _ hd h => ⟨hd.1.step h, hd.2.step hd.1 h⟩) ⟨he.sound, hrun⟩).2
  · right
    have hstep : ∀ (d : Desk) (m : Move) (d' : Desk),
        Sound d ∧ d.Assigned head ∧ d.Finished head → ¬ m.Transfers head.taskId → d.Step m d' →
          Sound d' ∧ d'.Assigned head ∧ d'.Finished head :=
      fun _ _ _ hd hm h => ⟨hd.1.step h, hd.2.1.step hd.1 hm h, hd.2.2.step h⟩
    cases c with
    | command c =>
      have hno : ∀ m, c.Issues cfg s m → ¬ m.Transfers head.taskId :=
        fun m hm ht => hc c head rfl hfin.1 hfin.2 (hm.transfers ht)
      exact (Command.keeps (G := fun _ m => ¬ m.Transfers head.taskId) hstep hno
        (fun _ m _ => hno m) ⟨he.sound, hfin⟩).2
    | message kind env payload credential =>
      exact (Call.keeps_message (G := fun _ m => ¬ m.Transfers head.taskId) hstep rfl
        (fun _ _ => id) (fun _ _ _ => id) ⟨he.sound, hfin⟩).2

/-- An accepted message that proves execution leaves its assignment proved. -/
theorem Call.Admits.executed {m : Message} (hs : Sound s.desk) (hm : c.Admits s m)
    (hproof : m.ProvesExecution) : (c.step cfg s).Executed m.head := by
  refine ⟨c.keeps (fun _ _ _ h => h.step) hs, ?_⟩
  obtain ⟨kind, env, payload, credential, hc, _⟩ := id hm
  obtain ⟨_, hno⟩ | ⟨m', hm', _, d, hrec, happ⟩ := message_moves cfg s hc
  · exact absurd hm (hno m)
  · obtain rfl := hm'.unique hm
    generalize (c.step cfg s).desk = d' at happ
    cases m' with
    | status m =>
      left
      cases happ with
      | @status task _ now htask hholds =>
        rw [MessageHead.holds_iff] at hholds
        exact ⟨statusTask now m task, by simp [htask], hholds.1, hholds.2.1,
          by simp [statusTask, show m.state = .running from hproof]⟩
    | result m =>
      right
      have hlog : d.Finished m.head := by
        cases hrec with
        | record _ _ hM =>
          refine ⟨m.head.sequence, ?_⟩
          rw [Table.get?_insert? hM]
          simp [Message.key]
      cases happ with
      | @result task _ now htask hholds =>
        rw [MessageHead.holds_iff] at hholds
        exact ⟨⟨resultTask now m task, by simp [htask], hholds.1, hholds.2.1⟩, hlog⟩

/-- The assignment of an executed task stands: the task is not waiting, and its Runner and epoch
    are those of the message. -/
def Store.Stays (s : Store) (head : MessageHead) : Prop :=
  ∃ row, s.tasks.get? head.taskId = some row ∧ row.state ≠ .waitingRunner ∧
    row.assignmentEpoch = head.assignmentEpoch ∧ row.assignedRunnerId = some head.runnerId

theorem Store.Executed.stays (he : s.Executed head) : s.Stays head := by
  obtain ⟨row, hrow, hr, hepoch⟩ : s.desk.Assigned head := by
    obtain ⟨row, hrow, hr, hepoch, _⟩ | ⟨ha, _⟩ := he.proof
    · exact ⟨row, hrow, hr, hepoch⟩
    · exact ha
  refine ⟨row, hrow, fun hw => ?_, hepoch, hr⟩
  rw [he.sound.waiting _ row hrow hw] at hr
  cases hr

/-- Once a message that proves execution has been accepted, its assignment stands in every state of
    every later run of calls that take no task with a result away from its Runner. -/
theorem executed_stays (h : Reachable cfg s) {m : Message} (hm : c.Admits s m)
    (hproof : m.ProvesExecution) {calls : List Call}
    (hcalls : EveryStep (Call.step cfg) (fun s c => c.KeepsExecuted cfg s) (c.step cfg s) calls) :
    Throughout (Call.step cfg) (fun s => s.Stays m.head) (c.step cfg s) calls := by
  have hrun : Throughout (Call.step cfg) (fun s => s.Executed m.head) (c.step cfg s) calls :=
    throughout_of_everyStep (Call.step cfg) (fun _ _ hs hc => hs.step hc)
      (hm.executed h.sound hproof) hcalls
  exact hrun.imp (Call.step cfg) fun _ hs => hs.stays

theorem executed_stays_sample : ∃ m, (sampleStatus 2 .running).Admits sampleStore m ∧
    Throughout (Call.step sampleConfig) (fun s => s.Stays m.head)
      ((sampleStatus 2 .running).step sampleConfig sampleStore)
      [sampleStatus 3 .awaitingConfirmation] := by
  have hstatus := sampleStore_shows.status (sampleCover_valid (n := 2) (by decide))
    .running (by decide) "codex" rfl
    ((sampleDocuments_small 2 (by decide)).1 .running (by decide)) (by decide) (by decide) (by decide)
    sampleConfig
  exact ⟨_, hstatus.1, executed_stays sampleStore_reachable hstatus.1 rfl
    ⟨fun _ _ h => (by cases h), trivial⟩⟩

variable {p : Pair} {v : View}

/-- After a `continue` of an ended task of an online Runner. -/
theorem Pair.Shows.continue (hs : Sound s.desk) (h : p.Shows s v) {q : String}
    (hq : Named q p.taskId p.principalHash) (hnew : s.commandRequests.get? q = none)
    (hterm : v.state.terminal) (env : Env) (hclock : env.clock 0 = 1767225600000000)
    (cfg : Config) :
    p.Shows ((Command.commandTask env (continuePayload q p.taskId p.principalHash "go on") true).step
        cfg s)
      { v with
        state := .dispatched
        seat := ⟨some p.taskId, .busy⟩
        lease := .active } := by
  obtain ⟨row, hrow, hassigned, hepoch, hlease, hprincipal, hstate, hsequence, hever⟩ := h.task
  obtain ⟨runner, hrun, hen, hlink, hseat⟩ := h.runner
  obtain ⟨lease, hl, htask, hholder, hepoch', _⟩ := h.lease
  have hcont : (Command.commandTask env (continuePayload q p.taskId p.principalHash "go on")
      true).Continues cfg s p.taskId p.runnerId := by
    refine ⟨"go on", p.leaseId, _, _, _, _, row, rfl, commandRequest_continue hq, hnew, ?_, rfl⟩
    have htext : boundedText (.str "go on") "instruction" 12000 = .ok "go on" := by decide +kernel
    have hended : row.state.terminal = true ∨ row.state = .awaitingConfirmation :=
      .inl (hstate ▸ hterm)
    have honline : connectivity cfg runner (env.clock 0) = .online := by
      have hsince := hlink.link
      simp only [RunnerRow.link, Prod.mk.injEq] at hsince
      simp [connectivity, hsince.1, hsince.2, hclock, seconds]
    simp only [commandBranch, hrow, orRaise_some, ok_bind, ensure_bind_of hprincipal,
      continueBranch, ensure_bind_of trivial, htext, ensure_bind_of hended, hassigned, hlease, hrun,
      ensure_bind_of (And.intro hen honline)]
    rfl
  have hcred := (commandTask_accounts cfg s env (continuePayload q p.taskId p.principalHash "go on")
    true).credentials
  have hmove := hcont.resume hs
  generalize Command.step cfg s _ = s' at *
  have hrunner : ∃ row, s'.desk.runners.get? p.runnerId = some row ∧ row.adminState = .enabled ∧
      row.Online ∧ row.seat = ⟨some p.taskId, .busy⟩ := by
    generalize s'.desk = d' at hmove
    cases hmove with
    | resume now => exact ⟨busyRunner p.taskId now runner, by simp [hrun], hen,
      ⟨hlink.1, hlink.2, hlink.3, hlink.4, hlink.5⟩, rfl⟩
  refine ⟨?_, hrunner, ?_, ?_, ?_⟩
  · rw [← desk_tasks]
    generalize s'.desk = d' at hmove
    cases hmove with
    | @resume _ _ _ _ _ cfg' now instruction =>
      exact ⟨resumedTask cfg' now instruction row, by simp [hrow], hassigned, hepoch, hlease,
        hprincipal, rfl, hsequence, hever⟩
  · rw [← desk_leases]
    generalize s'.desk = d' at hmove
    cases hmove with
    | @resume _ _ l row' _ cfg' now instruction hrow' _ _ hl' =>
      obtain rfl : row = row' := Option.some.inj (hrow.symm.trans hrow')
      obtain rfl : p.leaseId = l := Option.some.inj (hlease.symm.trans hl')
      exact ⟨reopenedLease (now + seconds cfg'.leaseTtlSeconds) lease, by simp [hl], htask, hholder,
        hepoch', rfl⟩
  · obtain ⟨row', hrow', hen', _⟩ := hrunner
    exact verifyCredential_congr h.credential hcred hrow' (by rw [hen']; decide)
  · rw [← desk_messages]
    generalize s'.desk = d' at hmove
    cases hmove with
    | resume => exact h.log

/-- After a `reschedule_undelivered` of a dispatched task that has not been running. -/
theorem Pair.Shows.reschedule (h : p.Shows s v) (ht : taskIdRe p.taskId)
    (hr : runnerIdRe p.runnerId) (he : 1 ≤ p.assignmentEpoch) (hl : safeIdRe p.leaseId)
    (hstate : v.state = .dispatched) (hever : v.everRunning = false)
    (hseat : v.seat = ⟨some p.taskId, .busy⟩) (hlease : v.lease = .active) (env : Env)
    (cfg : Config) :
    ∃ row, ((Command.rescheduleUndelivered env (.str p.taskId) (.str p.runnerId)
      (.int p.assignmentEpoch) (.str p.leaseId)).step cfg s).tasks.get? p.taskId = some row ∧
      row.state = .waitingRunner := by
  obtain ⟨row, hrow, hassigned, hepoch, hleaseId, _, hstate', _, hever'⟩ := h.task
  obtain ⟨runner, hrun, _, _, hseat'⟩ := h.runner
  obtain ⟨lease, hget, htask, hholder, hepoch', hactive⟩ := h.lease
  have hd : deliveryOf (.str p.taskId) (.str p.runnerId) (.int p.assignmentEpoch) (.str p.leaseId) =
      .ok ⟨p.taskId, p.runnerId, p.assignmentEpoch, p.leaseId⟩ := by
    simp only [deliveryOf, taskIdOf_str ht, runnerIdOf_str hr, intFrom_int he, Json.asStr?,
      Option.filter_some, hl, if_true, orRaise_some, ok_bind]
    rfl
  have hund : undelivered s ⟨p.taskId, p.runnerId, p.assignmentEpoch, p.leaseId⟩ = true := by
    have hcur : runner.currentTaskId = some p.taskId ∧ runner.workState = .busy := by
      rw [hseat, RunnerRow.seat, Seat.mk.injEq] at hseat'
      exact hseat'
    simp [undelivered, hrow, hrun, hget, hassigned, hepoch, hleaseId, htask, hholder, hepoch', hcur,
      hstate', hstate, hever', hever, hactive, hlease]
  refine ⟨requeuedTask (env.clock 0) (some "runner_offline") none row, ?_, rfl⟩
  set s₁ := (s.requeueUndelivered (env.clock 0)
    ⟨p.taskId, p.runnerId, p.assignmentEpoch, p.leaseId⟩).event (env.clock 1)
    "runner_task_rescheduled_undelivered" (some p.runnerId) (some p.taskId)
    [("assignment_epoch", .int p.assignmentEpoch), ("reason", .str "runner_offline")] with hs₁
  have hrow₁ : s₁.tasks.get? p.taskId =
      some (requeuedTask (env.clock 0) (some "runner_offline") none row) := by
    simp [hs₁, Store.event, Store.requeueUndelivered, Store.setTask, Store.setRunner, hrow]
  simp only [Command.step, Command.exec, Runner.rescheduleUndelivered, hd, ok_bind,
    ensure_bind_of hund, ← hs₁, Store.taskRow, hrow₁, orRaise_some]
  exact hrow₁

/-- A result does not set `ever_running`: after a `continue` an undelivered request sends the task
    back to the queue. -/
theorem executed_requeued : ∃ m, (sampleResult 2 .completed).Admits sampleStore m ∧
    m.ProvesExecution ∧ m.head.taskId = samplePair.taskId ∧
    ¬ Throughout (Call.step sampleConfig) (fun s => s.Stays m.head)
      ((sampleResult 2 .completed).step sampleConfig sampleStore)
      [.command (.commandTask (sampleEnv 0)
          (continuePayload "continue-1" samplePair.taskId samplePair.principalHash "go on") true),
        .command (.rescheduleUndelivered (sampleEnv 0) (.str samplePair.taskId)
          (.str samplePair.runnerId) (.int samplePair.assignmentEpoch) (.str samplePair.leaseId))] := by
  have hresult := sampleStore_shows.result (sampleCover_valid (n := 2) (by decide))
    (sampleReport_valid .completed (by decide))
    (sampleResult_small 2 (by decide) .completed (by decide)) (by decide) (by decide) (by decide)
    sampleConfig
  refine ⟨_, hresult.1, trivial, rfl, fun h => ?_⟩
  have hsound := Reachable.sound
    (sampleStore_reachable.next (Call.step sampleConfig) (sampleResult 2 .completed))
  have hcont := hresult.2.continue hsound (sampleNamed "continue-1" (by decide +kernel))
    (by
      rw [sampleResult, message_commandRequests]
      exact sampleStore_commandRequests (by decide)) (by decide) (sampleEnv 0) rfl
    sampleConfig
  obtain ⟨row, hrow, hwaiting⟩ := hcont.reschedule (newTaskId_taskIdRe "start-01")
    (fresh_runnerIdRe (sampleEnv 0) 0) le_rfl (by decide +kernel) rfl rfl rfl rfl (sampleEnv 0)
    sampleConfig
  have hlast := h.last
  rw [runFrom_cons, runFrom_cons, runFrom_nil, Call.step_command] at hlast
  obtain ⟨row', hrow', hne, _⟩ := hlast
  obtain rfl : row' = row := Option.some.inj (hrow'.symm.trans hrow)
  exact hne hwaiting

end Runs

end HomeAddons.Runner
