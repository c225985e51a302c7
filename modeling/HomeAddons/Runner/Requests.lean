import HomeAddons.Common.Replay
import HomeAddons.Runner.Accounts

/-!
# Runner Center v2: repeated requests

The administrative calls and the owner's commands as requests with a `request_id`. Three tables
file them: `runner_enrollments` for `create_enrollment`, `runner_admin_requests` for the calls on a
Runner, `runner_command_requests` for the commands. `Store.memo` reads all three as one memo whose
key is a table and a `request_id`; `Request.replayed` says that every request is replayed by it, and
`Call.remembers` that no call of the store ever forgets an entry.

`retry_insensitive` is the consequence for two calls with an arbitrary history between them. The
tables do not know of each other: `request_id_per_table`.
-/

namespace HomeAddons.Runner

open HomeAddons.Common

/-! ## Requests -/

/-- The calls that take a `request_id`. -/
inductive Request where
  | createEnrollment (payload : Dict)
  | updateRunner (runnerId : Json) (payload : Dict)
  | adminAction (runnerId : Json) (payload : Dict) (action : AdminAction)
  | revokeEnrollment (runnerId : Json) (payload : Dict)
  | regenerateEnrollment (runnerId : Json) (payload : Dict)
  | resolveTaskRecovery (runnerId : Json) (payload : Dict)
  | createWorkTask (payload : Dict)
  | commandTask (payload : Dict)

/-- The tables that file a `request_id`. -/
inductive Ledger where
  | enrollments | adminRequests | commandRequests
  deriving DecidableEq

/-- What a request answers. -/
inductive Answer where
  | admin (response : AdminResponse)
  | task (task : PublicTask)

/-- What a call reads from outside: the clock, the random bytes and `control_available`. -/
structure Surroundings where
  env : Env
  controlAvailable : Bool

namespace Request

/-- The name of the method. -/
def operation : Request → String
  | createEnrollment _ => "create_enrollment"
  | updateRunner _ _ => "update_runner"
  | adminAction _ _ .drain => "drain"
  | adminAction _ _ .emergencyDisable => "emergency_disable"
  | adminAction _ _ .rotateCredential => "rotate_credential"
  | adminAction _ _ .delete => "delete_runner"
  | adminAction _ _ .selfCheck => "request_self_check"
  | revokeEnrollment _ _ => "revoke_enrollment"
  | regenerateEnrollment _ _ => "regenerate_enrollment"
  | resolveTaskRecovery _ _ => "resolve_task_recovery"
  | createWorkTask _ => "create_work_task"
  | commandTask _ => "command_task"

/-- The argument `payload`. -/
def payload : Request → Dict
  | createEnrollment p | updateRunner _ p | adminAction _ p _ | revokeEnrollment _ p
  | regenerateEnrollment _ p | resolveTaskRecovery _ p | createWorkTask p | commandTask p => p

/-- The argument `runner_id`, for the calls that have one. -/
def runner : Request → Option Json
  | updateRunner r _ | adminAction r _ _ | revokeEnrollment r _ | regenerateEnrollment r _
  | resolveTaskRecovery r _ => some r
  | createEnrollment _ | createWorkTask _ | commandTask _ => none

/-- The table in which the call looks its `request_id` up. -/
def ledger : Request → Ledger
  | createEnrollment _ => .enrollments
  | updateRunner _ _ | adminAction _ _ _ | revokeEnrollment _ _ | regenerateEnrollment _ _
  | resolveTaskRecovery _ _ => .adminRequests
  | createWorkTask _ | commandTask _ => .commandRequests

/-- The call of a request. -/
def call (cfg : Config) (q : Request) (u : Surroundings) (s : Store) :
    Except Raise (Store × Answer) :=
  let admin (x : Except Raise (Store × AdminResponse)) : Except Raise (Store × Answer) :=
    x.map fun r => (r.1, .admin r.2)
  let task (x : Except Raise (Store × PublicTask × Bool)) : Except Raise (Store × Answer) :=
    x.map fun r => (r.1, .task r.2.1)
  match q with
  | createEnrollment p => admin (Runner.createEnrollment cfg s u.env p)
  | updateRunner r p => admin (Runner.updateRunner cfg s u.env r p)
  | adminAction r p a => admin (Runner.adminAction cfg s u.env r p a)
  | revokeEnrollment r p => admin (Runner.revokeEnrollment cfg s u.env r p)
  | regenerateEnrollment r p => admin (Runner.regenerateEnrollment cfg s u.env r p)
  | resolveTaskRecovery r p => admin (Runner.resolveTaskRecovery cfg s u.env r p)
  | createWorkTask p => task (Runner.createWorkTask cfg s u.env p)
  | commandTask p => task (Runner.commandTask cfg s u.env p u.controlAvailable)

/-- The request as a step of the store. -/
def command (q : Request) (u : Surroundings) : Command :=
  match q with
  | createEnrollment p => .createEnrollment u.env p
  | updateRunner r p => .updateRunner u.env r p
  | adminAction r p a => .adminAction u.env r p a
  | revokeEnrollment r p => .revokeEnrollment u.env r p
  | regenerateEnrollment r p => .regenerateEnrollment u.env r p
  | resolveTaskRecovery r p => .resolveTaskRecovery u.env r p
  | createWorkTask p => .createWorkTask u.env p
  | commandTask p => .commandTask u.env p u.controlAvailable

theorem exec_command (cfg : Config) (q : Request) (u : Surroundings) (s : Store) :
    (q.command u).exec cfg s = (q.call cfg u s).map Prod.fst := by
  have h : ∀ {α : Type} (x : Except Raise (Store × α)) (f : Store × α → Answer),
      x.map Prod.fst = (x.map fun r => (r.1, f r)).map Prod.fst := by
    intro α x f
    cases x <;> rfl
  cases q <;> exact h _ _

variable {cfg : Config} {q : Request} {u : Surroundings} {s : Store}

/-- A successful request is the step it makes. -/
theorem step_of_ok {s' : Store} {a : Answer} (h : q.call cfg u s = .ok (s', a)) :
    (q.command u).step cfg s = s' := by
  rw [Command.step, exec_command, h]
  rfl

/-- A request that raises changes no table. -/
theorem step_of_error {e : Raise} (h : q.call cfg u s = .error e) :
    (q.command u).step cfg s = s := by
  rw [Command.step, exec_command, h]
  rfl

end Request

/-! ## The memo -/

/-- What a table files under a `request_id`: which operation it was, the digest of its body and, in
    `runner_admin_requests`, the Runner. -/
structure Memo where
  operation : String
  bodyDigest : String
  runnerId : Option String

/-- `SELECT * FROM runner_enrollments WHERE request_id=?`. -/
def requestedIn (E : Table EnrollmentRow.enrollmentId) (requestId : String) :
    Option EnrollmentRow :=
  E.rows.find? fun e => e.requestId = requestId

/-- The entry of a table under a `request_id`. -/
def Store.memo (s : Store) (key : Ledger × String) : Option Memo :=
  match key.1 with
  | .enrollments => (requestedIn s.enrollments key.2).map fun e => ⟨"create_enrollment", e.requestDigest, none⟩
  | .adminRequests => (s.adminRequests.get? key.2).map fun r => ⟨r.action, r.bodyDigest, some r.runnerId⟩
  | .commandRequests => (s.commandRequests.get? key.2).map fun r => ⟨r.operation, r.bodyDigest, none⟩

/-- The entry of an administrative request. -/
def AdminRequest.entry (req : AdminRequest) (action : String) : String × Memo :=
  (req.requestId, ⟨action, req.bodyDigest, some req.runnerId⟩)

/-- The `request_id` of a valid request and the entry it files. -/
def Request.entry : Request → Except Raise (String × Memo)
  | createEnrollment p => do
    let req ← enrollmentRequest p
    return (req.requestId, ⟨"create_enrollment", req.bodyDigest, none⟩)
  | updateRunner r p => return (← updateRequest r p).entry "update"
  | adminAction r p a =>
    return (← plainAdminRequest r p "Runner 管理请求字段无效").entry a.text
  | revokeEnrollment r p =>
    return (← plainAdminRequest r p "撤销注册请求字段无效").entry "revoke_enrollment"
  | regenerateEnrollment r p =>
    return (← plainAdminRequest r p "重新生成注册请求字段无效").entry "regenerate_enrollment"
  | resolveTaskRecovery r p => do
    let (req, taskId) ← recoveryRequest r p
    return req.entry ("resolve_task_recovery:" ++ taskId)
  | createWorkTask p => do
    let req ← startRequest p
    return (req.requestId, ⟨"start", req.bodyDigest, none⟩)
  | commandTask p => do
    let req ← commandRequest p
    return (req.requestId, ⟨req.operation.text, req.bodyDigest, none⟩)

/-- No token and no credential is shown. -/
def AdminResponse.SecretFree (r : AdminResponse) : Prop :=
  (∀ e, r.enrollment = some e → e.token = none) ∧ ∀ c, r.credential = some c → c.secret = none

/-- No token and no credential is shown; a task never shows any. -/
def Answer.SecretFree : Answer → Prop
  | admin response => response.SecretFree
  | task _ => True

/-- What the tables file can be answered from: the Runner of an enrollment and the task of a command
    are there, and a stored response has no secret. -/
structure Store.Filed (s : Store) : Prop where
  enrollments : ∀ q e, requestedIn s.enrollments q = some e → s.runners.get? e.runnerId ≠ none
  commands : ∀ q row, s.commandRequests.get? q = some row → s.tasks.get? row.taskId ≠ none
  responses : ∀ q row, s.adminRequests.get? q = some row → row.response.SecretFree

theorem Store.Filed.empty : Store.empty.Filed :=
  ⟨fun _ _ h => (nomatch h), fun _ _ h => (nomatch h), fun _ _ h => (nomatch h)⟩

/-! ## What a call does to the tables of requests -/

/-- The tables of requests. -/
structure RequestTables where
  enrollments : Table EnrollmentRow.enrollmentId
  adminRequests : Table AdminRequestRow.requestId
  commandRequests : Table CommandRequestRow.requestId

/-- The tables of requests of a store. -/
def Store.requests (s : Store) : RequestTables :=
  ⟨s.enrollments, s.adminRequests, s.commandRequests⟩

/-- What a call may do to the tables of requests: enrollments keep what names their request, and at
    most one row is added to each of the others. -/
structure Store.Files (s s' : Store) : Prop where
  enrollments : ∀ q e, requestedIn s.enrollments q = some e → ∃ e', requestedIn s'.enrollments q = some e' ∧
    e'.requestDigest = e.requestDigest
  adminRequests : s'.adminRequests = s.adminRequests ∨ ∃ row,
    s.adminRequests.insert? row = some s'.adminRequests ∧ row.response.SecretFree
  commandRequests : s'.commandRequests = s.commandRequests ∨ ∃ row,
    s.commandRequests.insert? row = some s'.commandRequests ∧ s'.tasks.get? row.taskId ≠ none

section Files

variable {cfg : Config} {s s' : Store} {env : Env}

/-- A call that writes none of the tables. -/
theorem Store.Files.of_requests (h : s'.requests = s.requests) : s.Files s' := by
  have henr : s'.enrollments = s.enrollments := congrArg RequestTables.enrollments h
  exact ⟨fun _ e he => ⟨e, henr ▸ he, rfl⟩, .inl (congrArg RequestTables.adminRequests h),
    .inl (congrArg RequestTables.commandRequests h)⟩

theorem Store.Files.refl (s : Store) : s.Files s := .of_requests rfl

/-- An update of enrollments that keeps what names their request. -/
theorem requestedIn_updateWhere (E : Table EnrollmentRow.enrollmentId) (p : EnrollmentRow → Bool)
    (f : EnrollmentRow → EnrollmentRow) (hf : ∀ e, (f e).enrollmentId = e.enrollmentId)
    (hid : ∀ e, (f e).requestId = e.requestId) (q : String) :
    requestedIn (E.updateWhere p f hf) q =
      (requestedIn E q).map fun e => if p e then f e else e := by
  have hpred : ∀ e : EnrollmentRow, (if p e then f e else e).requestId = e.requestId := by
    intro e
    split_ifs
    · exact hid e
    · rfl
  simp only [requestedIn, Table.rows_updateWhere, List.find?_map, Function.comp_def, hpred]

variable {E : Table EnrollmentRow.enrollmentId} {q : String} {e : EnrollmentRow} {payload : Dict}
  {x : AdminResponse} {runnerId taskId : Json} {action : AdminAction}

/-- The enrollment of a request after an update that keeps what it was filed with. -/
theorem requested_of_updateWhere {p : EnrollmentRow → Bool} (f : EnrollmentRow → EnrollmentRow)
    (hf : ∀ e, (f e).enrollmentId = e.enrollmentId) (hid : ∀ e, (f e).requestId = e.requestId)
    (hdigest : ∀ e, (f e).requestDigest = e.requestDigest) (he : requestedIn E q = some e) :
    ∃ e', requestedIn (E.updateWhere p f hf) q = some e' ∧
      e'.requestDigest = e.requestDigest := by
  rw [requestedIn_updateWhere E p f hf hid, he]
  refine ⟨if p e then f e else e, rfl, ?_⟩
  split_ifs
  · exact hdigest e
  · rfl

/-- A new enrollment stands behind the ones that are there. -/
theorem requestedIn_insert {E' : Table EnrollmentRow.enrollmentId} {row : EnrollmentRow}
    (h : E.insert? row = some E') (he : requestedIn E q = some e) : requestedIn E' q = some e := by
  rw [requestedIn, Table.rows_insert? h, List.find?_append]
  rw [requestedIn] at he
  rw [he]
  rfl

/-- A call that writes no enrollment and files at most one command, on a task that is there. -/
theorem Store.Files.of_command (henr : s'.enrollments = s.enrollments)
    (hadmin : s'.adminRequests = s.adminRequests)
    (hcommand : s'.commandRequests = s.commandRequests ∨ ∃ row,
      s.commandRequests.insert? row = some s'.commandRequests ∧
        s'.tasks.get? row.taskId ≠ none) : s.Files s' :=
  ⟨fun _ e he => ⟨e, henr ▸ he, rfl⟩, .inl hadmin, hcommand⟩

/-- A call that writes no enrollment and files at most one response. -/
theorem Store.Files.of_admin (henr : s'.enrollments = s.enrollments)
    (hadmin : s'.adminRequests = s.adminRequests ∨ ∃ row,
      s.adminRequests.insert? row = some s'.adminRequests ∧ row.response.SecretFree)
    (hcommand : s'.commandRequests = s.commandRequests) : s.Files s' :=
  ⟨fun _ e he => ⟨e, henr ▸ he, rfl⟩, hadmin, .inl hcommand⟩

/-- The answer of a call that only shows the Runner has no secret. -/
theorem AdminResponse.ofRunner_secretFree (runner : PublicRunner) :
    (AdminResponse.ofRunner runner).SecretFree := by
  constructor <;> simp [AdminResponse.ofRunner]

theorem createEnrollment_files (h : createEnrollment cfg s env payload = .ok (s', x)) :
    s.Files s' := by
  simp only [createEnrollment, bind_eq_ok] at h
  obtain ⟨req, hreq, h⟩ := h
  split at h
  · simp only [bind_eq_ok, pure_eq_ok, Prod.mk.injEq] at h
    obtain ⟨_, _, _, _, rfl, _⟩ := h
    exact .refl s
  · simp only [bind_eq_ok, pure_eq_ok, Prod.mk.injEq, insertRunner_eq_ok,
      insertEnrollment_eq_ok] at h
    obtain ⟨_, ⟨T, hT, rfl⟩, _, ⟨hnew, E, hE, rfl⟩, _, _, rfl, _⟩ := h
    exact ⟨fun q e he => ⟨e, requestedIn_insert hE he, rfl⟩, .inl rfl, .inl rfl⟩

theorem redeemEnrollment_files (h : redeemEnrollment cfg s env payload = .ok (s', x)) :
    s.Files s' := by
  simp only [redeemEnrollment, bind_eq_ok, pure_eq_ok, Prod.mk.injEq, insertCredential_eq_ok] at h
  obtain ⟨req, hreq, e, he, _, ⟨_, C, hC, rfl⟩, _, _, rfl, _⟩ := h
  exact ⟨fun _ e' he' => requested_of_updateWhere (claimedEnrollment (env.clock 0)) (fun _ => rfl)
    (fun _ => rfl) (fun _ => rfl) he', .inl rfl, .inl rfl⟩

theorem updateRunner_files (h : updateRunner cfg s env runnerId payload = .ok (s', x)) :
    s.Files s' := by
  simp only [updateRunner, bind_eq_ok, replayOr_eq_ok] at h
  obtain ⟨req, hreq, ⟨_, rfl⟩ | ⟨_, row, hrow, h⟩⟩ := h
  · exact .refl s
  · simp only [pure_eq_ok, Prod.mk.injEq, saveAdminReplay_eq_ok] at h
    obtain ⟨plan, hplan, _, _, _, ⟨T, hT, rfl⟩, rfl, _⟩ := h
    exact .of_admin rfl (.inr ⟨_, hT, AdminResponse.ofRunner_secretFree _⟩) rfl

theorem revokeEnrollment_files (h : revokeEnrollment cfg s env runnerId payload = .ok (s', x)) :
    s.Files s' := by
  simp only [revokeEnrollment, bind_eq_ok, replayOr_eq_ok] at h
  obtain ⟨req, _, ⟨_, rfl⟩ | ⟨_, row, hrow, h⟩⟩ := h
  · exact .refl s
  · simp only [ensure_eq_ok, orRaise_eq_ok, pure_eq_ok, Prod.mk.injEq,
      saveAdminReplay_eq_ok] at h
    obtain ⟨_, _, e, he, _, _, _, _, _, _, _, ⟨T, hT, rfl⟩, rfl, _⟩ := h
    exact ⟨fun _ e' he' => requested_of_updateWhere (revokedEnrollment (env.clock 0))
      (fun _ => rfl) (fun _ => rfl) (fun _ => rfl) he', .inr ⟨_, hT, AdminResponse.ofRunner_secretFree _⟩,
      .inl rfl⟩

theorem regenerateEnrollment_files
    (h : regenerateEnrollment cfg s env runnerId payload = .ok (s', x)) : s.Files s' := by
  simp only [regenerateEnrollment, bind_eq_ok, replayOr_eq_ok] at h
  obtain ⟨req, _, ⟨_, rfl⟩ | ⟨_, row, hrow, h⟩⟩ := h
  · exact .refl s
  · simp only [ensure_eq_ok, pure_eq_ok, Prod.mk.injEq, saveAdminReplay_eq_ok,
      insertEnrollment_eq_ok] at h
    obtain ⟨_, _, _, ⟨_, E, hE, rfl⟩, _, _, _, ⟨T, hT, rfl⟩, rfl, _⟩ := h
    refine ⟨fun q e he => ?_, .inr ⟨_, hT, ?_, ?_⟩, .inl rfl⟩
    · -- the open enrollments are revoked, then the new one is added behind them
      obtain ⟨e', he', hdigest⟩ := requested_of_updateWhere (revokedEnrollment (env.clock 0))
        (fun _ => rfl) (fun _ => rfl) (fun _ => rfl) he
      exact ⟨e', requestedIn_insert hE he', hdigest⟩
    · rintro _ ⟨⟩
      rfl
    · rintro _ ⟨⟩

/-- An action of `_admin_action` writes none of the tables of requests. -/
theorem adminEffect_requests {row : RunnerRow} {extra : AdminExtra}
    (h : adminEffect s env row action = .ok (s', extra)) : s'.requests = s.requests := by
  cases action with
  | emergencyDisable =>
    simp only [adminEffect, except_map_eq_ok, emergencyEffect, bind_eq_ok, Prod.mk.injEq] at h
    obtain ⟨_, ⟨_, _, h⟩, rfl, _⟩ := h
    split at h
    · simp only [pure_eq_ok] at h
      subst h
      rfl
    · split_ifs at h <;> simp only [pure_eq_ok] at h <;> subst h <;> rfl
  | rotateCredential =>
    simp only [adminEffect, except_map_eq_ok, Prod.mk.injEq] at h
    obtain ⟨⟨_, _⟩, h, rfl, _⟩ := h
    obtain ⟨_, _, C, _, rfl⟩ := rotateEffect_ok h
    rfl
  | drain =>
    simp only [adminEffect, except_map_eq_ok, drainEffect_eq_ok, Prod.mk.injEq] at h
    obtain ⟨_, ⟨_, rfl⟩, rfl, _⟩ := h
    rfl
  | delete =>
    simp only [adminEffect, except_map_eq_ok, deleteEffect_eq_ok, Prod.mk.injEq] at h
    obtain ⟨_, ⟨_, rfl⟩, rfl, _⟩ := h
    rfl
  | selfCheck =>
    simp only [adminEffect, except_map_eq_ok, selfCheckEffect_eq_ok, Prod.mk.injEq] at h
    obtain ⟨_, ⟨_, rfl⟩, rfl, _⟩ := h
    rfl

theorem adminAction_files (h : adminAction cfg s env runnerId payload action = .ok (s', x)) :
    s.Files s' := by
  simp only [adminAction, bind_eq_ok, replayOr_eq_ok] at h
  obtain ⟨req, hreq, ⟨_, rfl⟩ | ⟨_, row, hrow, h⟩⟩ := h
  · exact .refl s
  · simp only [pure_eq_ok, Prod.mk.injEq, saveAdminReplay_eq_ok] at h
    obtain ⟨⟨s₁, extra⟩, heff, _, _, _, ⟨T, hT, rfl⟩, rfl, _⟩ := h
    have hsame := adminEffect_requests heff
    have hadmin : s₁.adminRequests = s.adminRequests := congrArg RequestTables.adminRequests hsame
    refine .of_admin (congrArg RequestTables.enrollments hsame)
      (.inr ⟨_, hadmin ▸ hT, ?_, ?_⟩) (congrArg RequestTables.commandRequests hsame)
    · rintro _ ⟨⟩
    · intro c hc
      obtain ⟨c', _, rfl⟩ := Option.map_eq_some_iff.mp hc
      rfl

theorem createWorkTask_files {x : PublicTask × Bool}
    (h : createWorkTask cfg s env payload = .ok (s', x)) : s.Files s' := by
  simp only [createWorkTask, bind_eq_ok] at h
  obtain ⟨req, hreq, h⟩ := h
  split at h
  · simp only [bind_eq_ok, pure_eq_ok, Prod.mk.injEq] at h
    obtain ⟨_, _, _, _, rfl, _⟩ := h
    exact .refl s
  · simp only [bind_eq_ok, pure_eq_ok, Prod.mk.injEq, insertTask_eq_ok, insertCommand_eq_ok,
      taskRow_eq_ok] at h
    obtain ⟨_, ⟨_, T, hT, rfl⟩, _, ⟨C, hC, rfl⟩, task, htask, rfl, _⟩ := h
    refine .of_command rfl rfl (.inr ⟨_, hC, fun hnone => ?_⟩)
    cases hnone.symm.trans htask

theorem commandTask_files {control : Bool} {x : PublicTask × Bool}
    (h : commandTask cfg s env payload control = .ok (s', x)) : s.Files s' := by
  simp only [commandTask, bind_eq_ok] at h
  obtain ⟨req, hreq, h⟩ := h
  split at h
  · simp only [bind_eq_ok, pure_eq_ok, Prod.mk.injEq] at h
    obtain ⟨_, _, _, _, rfl, _⟩ := h
    exact .refl s
  · simp only [bind_eq_ok, pure_eq_ok, Prod.mk.injEq, insertCommand_eq_ok, taskRow_eq_ok] at h
    obtain ⟨⟨row, branch⟩, hb, s₁, happ, _, ⟨C, hC, rfl⟩, task, htask, rfl, _⟩ := h
    have hsame : s₁.requests = s.requests := by
      cases branch with
      | resume instruction r l =>
        simp only [applyBranch, bind_eq_ok, pure_eq_ok, reopenLease_eq_ok] at happ
        obtain ⟨_, ⟨_, rfl⟩, rfl⟩ := happ
        rfl
      | _ =>
        simp only [applyBranch, pure_eq_ok] at happ
        subst happ
        rfl
    have hcommand : s₁.commandRequests = s.commandRequests :=
      congrArg RequestTables.commandRequests hsame
    refine .of_command (congrArg RequestTables.enrollments hsame)
      (congrArg RequestTables.adminRequests hsame) (.inr ⟨_, hcommand ▸ hC, fun hnone => ?_⟩)
    cases hnone.symm.trans htask

theorem resolveTaskRecovery_files
    (h : resolveTaskRecovery cfg s env runnerId payload = .ok (s', x)) : s.Files s' := by
  simp only [resolveTaskRecovery, bind_eq_ok, replayOr_eq_ok] at h
  obtain ⟨⟨req, t⟩, hreq, ⟨_, rfl⟩ | ⟨_, runner, hrow, h⟩⟩ := h
  · exact .refl s
  · simp only [orRaise_eq_ok, ensure_eq_ok, pure_eq_ok, Prod.mk.injEq,
      saveAdminReplay_eq_ok] at h
    obtain ⟨_, _, _, _, _, _, _, _, _, _, _, ⟨T, hT, rfl⟩, rfl, _⟩ := h
    refine .of_admin rfl (.inr ⟨_, hT, ?_, ?_⟩) rfl <;> rintro _ ⟨⟩

theorem heartbeat_requests {credential : Json} {x : PublicRunner}
    (h : heartbeat cfg s env payload credential = .ok (s', x)) : s'.requests = s.requests := by
  obtain rfl | ⟨row, msg, _, _, _, hup⟩ := heartbeat_ok h
  · rfl
  · obtain ⟨s₁, agent, codex, hs₁, rfl⟩ := heartbeatUpdate_ok hup
    obtain rfl | ⟨t, l, task, lease, _, rfl⟩ := heartbeatAssignment_ok hs₁
    · rfl
    · rfl

theorem selectAssignment_requests (cfg : Config) (now : Instant) (runners : List RunnerRow)
    (tasks : List TaskRow) (s : Store) :
    (selectAssignment cfg now runners tasks s).1.requests = s.requests := by
  induction tasks generalizing s with
  | nil => rfl
  | cons task tasks ih =>
    rw [selectAssignment]
    split_ifs
    · rw [ih]
      rfl
    · split
      · rfl
      · exact ih s

theorem claimNext_requests {x : Option Assignment} (h : claimNext cfg s env = .ok (s', x)) :
    s'.requests = s.requests := by
  have hsel := selectAssignment_requests cfg (env.clock 0) (idleRunners s) (waitingTasks s) s
  rcases hsa : selectAssignment cfg (env.clock 0) (idleRunners s) (waitingTasks s) s with
    ⟨s₁, _ | ⟨task, runner⟩⟩
  · simp only [claimNext, hsa, pure_eq_ok, Prod.mk.injEq] at h
    obtain ⟨rfl, _⟩ := h
    rwa [hsa] at hsel
  · simp only [claimNext, hsa, bind_eq_ok, pure_eq_ok, Prod.mk.injEq, insertLease_eq_ok] at h
    obtain ⟨_, ⟨_, L, _, rfl⟩, _, _, rfl, _⟩ := h
    rw [hsa] at hsel
    exact hsel

theorem sweep_requests (cfg : Config) (s : Store) (env : Env) (order : RowOrder) :
    (sweep cfg s env order).requests = s.requests := by
  have hround : ∀ s task, (sweepTask cfg (env.clock 0) s task).requests = s.requests := by
    intro s task
    obtain h | ⟨_, h⟩ | ⟨_, _, _, _, _, _, ⟨_, h⟩ | ⟨_, h⟩⟩ :=
      sweepTask_cases cfg (env.clock 0) s task <;> rw [h] <;> rfl
  have hrounds : ∀ (rows : List TaskRow) (s : Store),
      (rows.foldl (sweepTask cfg (env.clock 0)) s).requests = s.requests := by
    intro rows
    induction rows with
    | nil => exact fun _ => rfl
    | cons task rows ih => exact fun s => (ih _).trans (hround s task)
  exact hrounds _ s

theorem receive_requests (s : Store) (env : Env) (kind : MessageKind) (payload : Dict)
    (credential : Json) : (receive s env kind payload credential).1.requests = s.requests := by
  obtain ⟨henr, hadmin, hcommand⟩ := receive_requestTables s env kind payload credential rfl
  rw [Store.requests, henr, hadmin, hcommand, Store.requests]

theorem markDispatched_requests {x : PublicTask} (h : markDispatched s env taskId = .ok (s', x)) :
    s'.requests = s.requests := by
  simp only [markDispatched, bind_eq_ok, pure_eq_ok, Prod.mk.injEq] at h
  obtain ⟨_, _, _, _, _, _, _, _, rfl, _⟩ := h
  rfl

theorem rescheduleUndelivered_requests {epoch leaseId : Json} {x : PublicTask}
    (h : rescheduleUndelivered s env taskId runnerId epoch leaseId = .ok (s', x)) :
    s'.requests = s.requests := by
  simp only [rescheduleUndelivered, bind_eq_ok, pure_eq_ok, Prod.mk.injEq] at h
  obtain ⟨_, _, _, _, _, _, rfl, _⟩ := h
  rfl

theorem Command.files (cfg : Config) (s : Store) (c : Command) : s.Files (c.step cfg s) := by
  have hkeep {α : Type} {x : Except Raise (Store × α)}
      (hx : ∀ {s' a}, x = .ok (s', a) → s.Files s') : s.Files (committed s (x.map Prod.fst)) :=
    committed_map_ind (.refl s) hx
  cases c with
  | createEnrollment => exact hkeep createEnrollment_files
  | redeemEnrollment => exact hkeep redeemEnrollment_files
  | updateRunner => exact hkeep updateRunner_files
  | revokeEnrollment => exact hkeep revokeEnrollment_files
  | regenerateEnrollment => exact hkeep regenerateEnrollment_files
  | adminAction => exact hkeep adminAction_files
  | heartbeat => exact hkeep fun h => .of_requests (heartbeat_requests h)
  | createWorkTask => exact hkeep createWorkTask_files
  | commandTask => exact hkeep commandTask_files
  | claimNext => exact hkeep fun h => .of_requests (claimNext_requests h)
  | markDispatched => exact hkeep fun h => .of_requests (markDispatched_requests h)
  | rescheduleUndelivered => exact hkeep fun h => .of_requests (rescheduleUndelivered_requests h)
  | resolveTaskRecovery => exact hkeep resolveTaskRecovery_files
  | sweep env order => exact .of_requests (sweep_requests cfg s env order)

theorem Call.files (cfg : Config) (s : Store) (c : Call) : s.Files (c.step cfg s) := by
  cases c with
  | command c => exact c.files cfg s
  | message kind env payload credential =>
    exact .of_requests (receive_requests s env kind payload credential)

/-- A call keeps every entry of the memo. -/
theorem Store.Files.remembers (h : s.Files s') : Remembers Store.memo s s' := by
  rintro ⟨ledger, q⟩ e he
  cases ledger with
  | enrollments =>
    obtain ⟨row, hrow, rfl⟩ := Option.map_eq_some_iff.mp he
    obtain ⟨row', hrow', hdigest⟩ := h.enrollments q row hrow
    simp [Store.memo, hrow', hdigest]
  | adminRequests =>
    obtain ⟨row, hrow, rfl⟩ := Option.map_eq_some_iff.mp he
    obtain hsame | ⟨_, hins, _⟩ := h.adminRequests
    · rwa [Store.memo, hsame]
    · simp [Store.memo, Table.get?_insert?_of_get? hins hrow]
  | commandRequests =>
    obtain ⟨row, hrow, rfl⟩ := Option.map_eq_some_iff.mp he
    obtain hsame | ⟨_, hins, _⟩ := h.commandRequests
    · rwa [Store.memo, hsame]
    · simp [Store.memo, Table.get?_insert?_of_get? hins hrow]

/-- No call of the store forgets a request. -/
theorem Call.remembers (cfg : Config) (s : Store) (c : Call) :
    Remembers Store.memo s (c.step cfg s) := (c.files cfg s).remembers

/-- No move removes a task. -/
theorem Desk.Step.task_mono {d d' : Desk} {m : Move} (h : d.Step m d') {t : String}
    (ht : d.tasks.get? t ≠ none) : d'.tasks.get? t ≠ none := by
  cases h with
  | enqueue hT =>
    obtain ⟨row, hrow⟩ := Option.ne_none_iff_exists'.mp ht
    simp [Table.get?_insert?_of_get? hT hrow]
  | _ => first | exact ht | rwa [Table.get?_update_ne_none]

/-- What is filed can be answered from in every reachable store. -/
theorem Reachable.filed (h : Reachable cfg s) : s.Filed := by
  have hparts : (∀ q row, s.commandRequests.get? q = some row → s.tasks.get? row.taskId ≠ none) ∧
      ∀ q row, s.adminRequests.get? q = some row → row.response.SecretFree := by
    refine invariant_of_reachable (Call.step cfg) (I := fun s =>
      (∀ q row, s.commandRequests.get? q = some row → s.tasks.get? row.taskId ≠ none) ∧
        ∀ q row, s.adminRequests.get? q = some row → row.response.SecretFree) ?_
      ⟨Store.Filed.empty.commands, Store.Filed.empty.responses⟩ h
    rintro s c ⟨hcommands, hresponses⟩
    have hfiles := c.files cfg s
    constructor
    · intro q row hrow
      have hkept : ∀ t, s.tasks.get? t ≠ none → (c.step cfg s).tasks.get? t ≠ none := fun t =>
        Call.keeps (I := fun d => d.tasks.get? t ≠ none) (fun _ _ _ hd hs => hs.task_mono hd) c
      obtain hsame | ⟨new, hins, hnew⟩ := hfiles.commandRequests
      · exact hkept _ (hcommands q row (hsame ▸ hrow))
      · obtain ⟨_, rfl⟩ | ⟨_, hold⟩ := (Table.get?_insert?_eq_some hins).mp hrow
        · exact hnew
        · exact hkept _ (hcommands q row hold)
    · intro q row hrow
      obtain hsame | ⟨new, hins, hnew⟩ := hfiles.adminRequests
      · exact hresponses q row (hsame ▸ hrow)
      · obtain ⟨_, rfl⟩ | ⟨_, hold⟩ := (Table.get?_insert?_eq_some hins).mp hrow
        · exact hnew
        · exact hresponses q row hold
  refine ⟨fun q e he => ?_, hparts.1, hparts.2⟩
  exact (Reachable.accounts_sound h).enrolled e.enrollmentId e (Table.mem_rows_iff.mp (List.mem_of_find?_eq_some he))

end Files

/-! ## Every request is replayed by the memo -/

section Replays

variable {cfg : Config} {s s' : Store}

variable {req : AdminRequest} {action : String} {q : Request} {m : Memo} {r : Json} {p : Dict}

/-- A request of a Runner is stored once its call has run. -/
theorem replayOr_memo {x : AdminResponse}
    {call : RunnerRow → Except Raise (Store × AdminResponse)}
    (hcall : ∀ row s' x, call row = .ok (s', x) →
      ∃ s₁ now r, Store.saveAdminReplay s₁ now req action r = .ok s')
    (h : replayOr s req action call = .ok (s', x)) :
    s'.memo (.adminRequests, req.requestId) = some (req.entry action).2 := by
  obtain ⟨hreplay, rfl⟩ | ⟨_, row, _, h⟩ := replayOr_eq_ok.mp h
  · unfold adminReplay at hreplay
    split at hreplay
    · simp only [pure_eq_ok, reduceCtorEq] at hreplay
    · next stored hget =>
      simp only [bind_eq_ok, ensure_eq_ok, pure_eq_ok] at hreplay
      obtain ⟨_, ⟨haction, hdigest, hrunner⟩, _⟩ := hreplay
      simp [Store.memo, hget, AdminRequest.entry, haction, hdigest, hrunner]
  · obtain ⟨s₁, now, r, hsave⟩ := hcall row s' x h
    obtain ⟨T, hT, rfl⟩ := saveAdminReplay_eq_ok.mp hsave
    simp [Store.memo, Table.get?_insert? hT, AdminRequest.entry]

/-- A call on a Runner that stores what it answers is replayed. -/
theorem AdminRequest.replayed
    (whole : Surroundings → Store → Except Raise (Store × AdminResponse))
    {call : Surroundings → Store → RunnerRow → Except Raise (Store × AdminResponse)}
    (hwhole : ∀ u s, whole u s = replayOr s req action (call u s))
    (hcall : ∀ u s row s' x, call u s row = .ok (s', x) →
      ∃ s₁ now r, Store.saveAdminReplay s₁ now req action r = .ok s') :
    Replayed Store.Filed Store.memo (.adminRequests, req.requestId)
      (fun e => e = (req.entry action).2) (fun _ a => a.SecretFree)
      fun u s => (whole u s).map fun r => (r.1, Answer.admin r.2) where
  files u s s' a _ h := by
    obtain ⟨⟨s₁, x⟩, hrun, heq⟩ := except_map_eq_ok.mp h
    cases heq
    rw [hwhole] at hrun
    exact ⟨_, replayOr_memo (hcall u s) hrun, rfl⟩
  replays u s e hs he hmine := by
    obtain ⟨row, hrow, rfl⟩ := Option.map_eq_some_iff.mp he
    simp only [AdminRequest.entry, Memo.mk.injEq, Option.some.injEq] at hmine
    refine ⟨.admin row.response, ?_, hs.responses _ row hrow⟩
    simp only at hrow
    simp only [hwhole, replayOr, adminReplay, hrow, hmine, and_self, ensure_of, ok_bind]
    rfl
  rejects u s e he hmine := by
    obtain ⟨row, hrow, rfl⟩ := Option.map_eq_some_iff.mp he
    simp only [AdminRequest.entry, Memo.mk.injEq, Option.some.injEq] at hmine
    refine ⟨raising "idempotency_conflict" "request_id 已用于不同 Runner 管理请求" 409, ?_⟩
    simp only at hrow
    simp only [hwhole, replayOr, adminReplay, hrow, ensure, if_neg hmine]
    rfl

/-- A request of the table of commands: the lookup, then the call. -/
theorem commandReplayed {q operation bodyDigest : String}
    (call : Surroundings → Store → Except Raise (Store × PublicTask × Bool))
    (hnew : ∀ u s s' x, s.commandRequests.get? q = none → call u s = .ok (s', x) →
      ∃ row, s'.commandRequests.get? q = some row ∧ row.operation = operation ∧
        row.bodyDigest = bodyDigest)
    (hold : ∀ u s row, s.commandRequests.get? q = some row →
      call u s = (do
        ensure (row.bodyDigest = bodyDigest ∧ row.operation = operation)
          (raising "idempotency_conflict" "request_id 已用于不同 Runner 命令" 409)
        let task ← s.taskRow row.taskId
        return (s, publicTask task, true))) :
    Replayed Store.Filed Store.memo (.commandRequests, q) (fun e => e = ⟨operation, bodyDigest, none⟩)
      (fun _ a => a.SecretFree)
      fun u s => (call u s).map fun r => (r.1, Answer.task r.2.1) where
  files u s s' a _ h := by
    obtain ⟨⟨s₁, x⟩, hrun, heq⟩ := except_map_eq_ok.mp h
    cases heq
    refine ⟨_, ?_, rfl⟩
    cases hget : s.commandRequests.get? q with
    | none =>
      obtain ⟨row, hrow, hoperation, hdigest⟩ := hnew u s s₁ x hget hrun
      simp [Store.memo, hrow, hoperation, hdigest]
    | some row =>
      rw [hold u s row hget] at hrun
      simp only [bind_eq_ok, ensure_eq_ok, pure_eq_ok, Prod.mk.injEq] at hrun
      obtain ⟨_, ⟨hdigest, hoperation⟩, _, _, rfl, _⟩ := hrun
      simp [Store.memo, hget, hoperation, hdigest]
  replays u s e hs he hmine := by
    obtain ⟨row, hrow, rfl⟩ := Option.map_eq_some_iff.mp he
    simp only [Memo.mk.injEq, and_true] at hmine
    simp only at hrow
    obtain ⟨task, htask⟩ := Option.ne_none_iff_exists'.mp (hs.commands q row hrow)
    refine ⟨.task (publicTask task), ?_, trivial⟩
    rw [hold u s row hrow, ensure_bind_of ⟨hmine.2, hmine.1⟩, Store.taskRow, htask]
    rfl
  rejects u s e he hmine := by
    obtain ⟨row, hrow, rfl⟩ := Option.map_eq_some_iff.mp he
    simp only [Memo.mk.injEq, and_true] at hmine
    simp only at hrow
    refine ⟨raising "idempotency_conflict" "request_id 已用于不同 Runner 命令" 409, ?_⟩
    rw [hold u s row hrow, ensure, if_neg fun h => hmine h.symm]
    rfl

/-- `create_enrollment` is replayed by the table of enrollments. -/
theorem enrollmentReplayed (cfg : Config) {payload : Dict} {req : EnrollmentRequest}
    (hreq : enrollmentRequest payload = .ok req) :
    Replayed Store.Filed Store.memo (.enrollments, req.requestId)
      (fun e => e = ⟨"create_enrollment", req.bodyDigest, none⟩) (fun _ a => a.SecretFree)
      ((Request.createEnrollment payload).call cfg) where
  files u s s' a _ h := by
    obtain ⟨⟨s₁, x⟩, hrun, heq⟩ := except_map_eq_ok.mp h
    cases heq
    refine ⟨_, ?_, rfl⟩
    simp only [createEnrollment, hreq, ok_bind] at hrun
    split at hrun
    · next row hget =>
      simp only [bind_eq_ok, ensure_eq_ok, pure_eq_ok, Prod.mk.injEq] at hrun
      obtain ⟨_, hdigest, _, _, rfl, _⟩ := hrun
      simp [Store.memo, requestedIn, hget, hdigest]
    · next hnone =>
      simp only [bind_eq_ok, pure_eq_ok, Prod.mk.injEq, insertRunner_eq_ok,
        insertEnrollment_eq_ok] at hrun
      obtain ⟨_, ⟨_, _, rfl⟩, _, ⟨_, E, hE, rfl⟩, _, _, rfl, _⟩ := hrun
      simp [Store.memo, requestedIn, Store.event, Table.rows_insert? hE, hnone, newEnrollmentRow]
  replays u s e hs he hmine := by
    obtain ⟨row, hrow, rfl⟩ := Option.map_eq_some_iff.mp he
    simp only [Memo.mk.injEq, and_true, true_and] at hmine
    simp only at hrow
    obtain ⟨runner, hrunner⟩ := Option.ne_none_iff_exists'.mp (hs.enrollments _ row hrow)
    rw [requestedIn] at hrow
    have hanswer : ∃ x, createEnrollment cfg s u.env payload = .ok (s, x) ∧ x.SecretFree := by
      simp only [createEnrollment, hreq, ok_bind, hrow, ensure_bind_of hmine, Store.runnerRow,
        hrunner, orRaise_some]
      refine ⟨_, rfl, ?_, ?_⟩
      · rintro _ ⟨⟩
        rfl
      · rintro _ ⟨⟩
    obtain ⟨x, hx, hfree⟩ := hanswer
    exact ⟨.admin x, by rw [Request.call, hx]; rfl, hfree⟩
  rejects u s e he hmine := by
    obtain ⟨row, hrow, rfl⟩ := Option.map_eq_some_iff.mp he
    simp only [Memo.mk.injEq, and_true, true_and] at hmine
    simp only [requestedIn] at hrow
    refine ⟨raising "idempotency_conflict" "request_id 已用于不同 Runner 注册" 409, ?_⟩
    simp only [Request.call, createEnrollment, hreq, ok_bind, hrow, ensure, if_neg hmine]
    rfl

/-- Every valid request is replayed by the memo. -/
theorem Request.replayed (cfg : Config) {id : String} (h : q.entry = .ok (id, m)) :
    Replayed Store.Filed Store.memo (q.ledger, id) (fun e => e = m) (fun _ a => a.SecretFree)
      (q.call cfg) := by
  cases q <;> simp only [Request.entry, bind_eq_ok, pure_eq_ok, Prod.mk.injEq] at h
  case createEnrollment p =>
    obtain ⟨req, hreq, rfl, rfl⟩ := h
    exact enrollmentReplayed cfg hreq
  case updateRunner r p =>
    obtain ⟨req, hreq, heq⟩ := h
    cases heq
    refine AdminRequest.replayed (fun u s => Runner.updateRunner cfg s u.env r p)
      (fun u s => by rw [Runner.updateRunner, hreq]; rfl) fun u s row s' x h => ?_
    simp only [bind_eq_ok, pure_eq_ok, Prod.mk.injEq] at h
    obtain ⟨_, _, _, _, _, hsave, rfl, _⟩ := h
    exact ⟨_, _, _, hsave⟩
  case adminAction r p a =>
    obtain ⟨req, hreq, heq⟩ := h
    cases heq
    refine AdminRequest.replayed (fun u s => Runner.adminAction cfg s u.env r p a)
      (fun u s => by rw [Runner.adminAction, hreq]; rfl) fun u s row s' x h => ?_
    simp only [bind_eq_ok, pure_eq_ok, Prod.mk.injEq] at h
    obtain ⟨_, _, _, _, _, hsave, rfl, _⟩ := h
    exact ⟨_, _, _, hsave⟩
  case revokeEnrollment r p =>
    obtain ⟨req, hreq, heq⟩ := h
    cases heq
    refine AdminRequest.replayed (fun u s => Runner.revokeEnrollment cfg s u.env r p)
      (fun u s => by rw [Runner.revokeEnrollment, hreq]; rfl) fun u s row s' x h => ?_
    simp only [bind_eq_ok, pure_eq_ok, Prod.mk.injEq] at h
    obtain ⟨_, _, _, _, _, _, _, _, _, _, _, hsave, rfl, _⟩ := h
    exact ⟨_, _, _, hsave⟩
  case regenerateEnrollment r p =>
    obtain ⟨req, hreq, heq⟩ := h
    cases heq
    refine AdminRequest.replayed (fun u s => Runner.regenerateEnrollment cfg s u.env r p)
      (fun u s => by rw [Runner.regenerateEnrollment, hreq]; rfl) fun u s row s' x h => ?_
    simp only [bind_eq_ok, pure_eq_ok, Prod.mk.injEq] at h
    obtain ⟨_, _, _, _, _, _, _, hsave, rfl, _⟩ := h
    exact ⟨_, _, _, hsave⟩
  case resolveTaskRecovery r p =>
    obtain ⟨⟨req, t⟩, hreq, heq⟩ := h
    cases heq
    refine AdminRequest.replayed (fun u s => Runner.resolveTaskRecovery cfg s u.env r p)
      (fun u s => by rw [Runner.resolveTaskRecovery, hreq]; rfl) fun u s row s' x h => ?_
    simp only [bind_eq_ok, pure_eq_ok, Prod.mk.injEq] at h
    obtain ⟨_, _, _, _, _, _, _, _, _, _, _, hsave, rfl, _⟩ := h
    exact ⟨_, _, _, hsave⟩
  case createWorkTask p =>
    obtain ⟨req, hreq, rfl, rfl⟩ := h
    refine commandReplayed (fun u s => Runner.createWorkTask cfg s u.env p)
      (fun u s s' x hnone h => ?_) fun u s row hrow => ?_
    · simp only [Runner.createWorkTask, hreq, ok_bind, hnone, bind_eq_ok, pure_eq_ok, Prod.mk.injEq,
        insertCommand_eq_ok] at h
      obtain ⟨_, _, _, ⟨C, hC, rfl⟩, _, _, rfl, _⟩ := h
      exact ⟨_, (Table.get?_insert? hC _).trans (if_pos rfl), rfl, rfl⟩
    · simp only [Runner.createWorkTask, hreq, ok_bind, hrow]
  case commandTask p =>
    obtain ⟨req, hreq, rfl, rfl⟩ := h
    refine commandReplayed (fun u s => Runner.commandTask cfg s u.env p u.controlAvailable)
      (fun u s s' x hnone h => ?_) fun u s row hrow => ?_
    · simp only [Runner.commandTask, hreq, ok_bind, hnone, bind_eq_ok, pure_eq_ok, Prod.mk.injEq,
        insertCommand_eq_ok] at h
      obtain ⟨_, _, _, _, _, ⟨C, hC, rfl⟩, _, _, rfl, _⟩ := h
      exact ⟨_, (Table.get?_insert? hC _).trans (if_pos rfl), rfl, rfl⟩
    · simp only [Runner.commandTask, hreq, ok_bind, hrow]

/-- A request whose call succeeds is valid. -/
theorem Request.entry_of_ok {u : Surroundings} {a : Answer} (h : q.call cfg u s = .ok (s', a)) :
    ∃ id m, q.entry = .ok (id, m) := by
  cases q <;> obtain ⟨_, h, _⟩ := except_map_eq_ok.mp h
  case createEnrollment p =>
    obtain ⟨req, hreq, _⟩ := bind_eq_ok.mp h
    exact ⟨_, _, by rw [Request.entry, hreq]; rfl⟩
  case updateRunner r p =>
    obtain ⟨req, hreq, _⟩ := bind_eq_ok.mp h
    exact ⟨_, _, by rw [Request.entry, hreq]; rfl⟩
  case adminAction r p a =>
    obtain ⟨req, hreq, _⟩ := bind_eq_ok.mp h
    exact ⟨_, _, by rw [Request.entry, hreq]; rfl⟩
  case revokeEnrollment r p =>
    obtain ⟨req, hreq, _⟩ := bind_eq_ok.mp h
    exact ⟨_, _, by rw [Request.entry, hreq]; rfl⟩
  case regenerateEnrollment r p =>
    obtain ⟨req, hreq, _⟩ := bind_eq_ok.mp h
    exact ⟨_, _, by rw [Request.entry, hreq]; rfl⟩
  case resolveTaskRecovery r p =>
    obtain ⟨req, hreq, _⟩ := bind_eq_ok.mp h
    exact ⟨_, _, by rw [Request.entry, hreq]; rfl⟩
  case createWorkTask p =>
    obtain ⟨req, hreq, _⟩ := bind_eq_ok.mp h
    exact ⟨_, _, by rw [Request.entry, hreq]; rfl⟩
  case commandTask p =>
    obtain ⟨req, hreq, _⟩ := bind_eq_ok.mp h
    exact ⟨_, _, by rw [Request.entry, hreq]; rfl⟩

/-- A valid request on a Runner, as its payload gives it. -/
theorem adminRequest_payload (h : adminRequest r p = .ok req) :
    p.get "request_id" = .str req.requestId ∧
      req.bodyDigest = digest (.obj p) ∧ r = .str req.runnerId := by
  simp only [adminRequest, bind_eq_ok, pure_eq_ok] at h
  obtain ⟨runner, hrunner, _, _, id, hid, rfl⟩ := h
  simp only [requestIdOf, orRaise_eq_ok, Option.filter_eq_some_iff, asStr?_eq_some] at hid
  exact ⟨hid.1, rfl, asStr?_eq_some.mp (runnerIdOf_eq_ok.mp hrunner).1⟩

theorem plainAdminRequest_payload {message : String} (h : plainAdminRequest r p message = .ok req) :
    p.get "request_id" = .str req.requestId ∧
      req.bodyDigest = digest (.obj p) ∧ r = .str req.runnerId := by
  simp only [plainAdminRequest, bind_eq_ok] at h
  obtain ⟨_, _, h⟩ := h
  exact adminRequest_payload h

theorem requestIdOf_eq_ok {v : Json} {id : String} (h : requestIdOf v = .ok id) : v = .str id := by
  simp only [requestIdOf, orRaise_eq_ok, Option.filter_eq_some_iff, asStr?_eq_some] at h
  exact h.1

/-- The entry of a request names its `request_id`, the digest of its payload and its Runner. -/
theorem Request.entry_payload {id : String} (h : q.entry = .ok (id, m)) :
    q.payload.get "request_id" = .str id ∧ m.bodyDigest = digest (.obj q.payload) ∧
      q.runner = m.runnerId.map Json.str := by
  cases q <;> simp only [Request.entry, bind_eq_ok, pure_eq_ok, Prod.mk.injEq,
    AdminRequest.entry] at h
  case createEnrollment p =>
    obtain ⟨req, hreq, rfl, rfl⟩ := h
    simp only [enrollmentRequest, bind_eq_ok, pure_eq_ok] at hreq
    obtain ⟨_, _, _, _, _, _, _, _, _, _, _, _, _, _, _, _, id, hid, rfl⟩ := hreq
    exact ⟨requestIdOf_eq_ok hid, rfl, rfl⟩
  case updateRunner r p =>
    obtain ⟨req, hreq, rfl, rfl⟩ := h
    simp only [updateRequest, bind_eq_ok] at hreq
    obtain ⟨_, _, hreq⟩ := hreq
    obtain ⟨hid, hdigest, rfl⟩ := adminRequest_payload hreq
    exact ⟨hid, hdigest, rfl⟩
  case resolveTaskRecovery r p =>
    obtain ⟨⟨req, t⟩, hreq, rfl, rfl⟩ := h
    have hrunner := asStr?_eq_some.mp (runnerIdOf_eq_ok.mp (recoveryRequest_runnerId hreq).1).1
    simp only [recoveryRequest, bind_eq_ok, pure_eq_ok, Prod.mk.injEq] at hreq
    obtain ⟨_, _, _, _, _, _, _, _, id, hid, rfl, _⟩ := hreq
    exact ⟨requestIdOf_eq_ok hid, rfl, congrArg some hrunner⟩
  case createWorkTask p =>
    obtain ⟨req, hreq, rfl, rfl⟩ := h
    simp only [startRequest, bind_eq_ok, pure_eq_ok] at hreq
    obtain ⟨_, _, id, hid, _, _, _, _, _, _, _, _, _, _, rfl⟩ := hreq
    exact ⟨requestIdOf_eq_ok hid, rfl, rfl⟩
  case commandTask p =>
    obtain ⟨req, hreq, rfl, rfl⟩ := h
    simp only [commandRequest, bind_eq_ok, pure_eq_ok] at hreq
    obtain ⟨_, _, _, _, _, _, id, hid, _, _, _, _, _, _, _, _, rfl⟩ := hreq
    exact ⟨requestIdOf_eq_ok hid, rfl, rfl⟩
  all_goals
    obtain ⟨req, hreq, rfl, rfl⟩ := h
    obtain ⟨hid, hdigest, rfl⟩ := plainAdminRequest_payload hreq
    exact ⟨hid, hdigest, rfl⟩

/-- The labels of `runner_admin_requests` with the methods that file them; `resolve_task_recovery`
    adds its task to the label. -/
def adminLabels : List (String × String) :=
  [("update", "update_runner"), ("revoke_enrollment", "revoke_enrollment"),
    ("regenerate_enrollment", "regenerate_enrollment"), ("drain", "drain"),
    ("emergency_disable", "emergency_disable"), ("rotate_credential", "rotate_credential"),
    ("delete", "delete_runner"), ("self_check", "request_self_check")]

/-- The method that filed a label in a table. -/
def Ledger.method : Ledger → String → String
  | .enrollments, _ => "create_enrollment"
  | .adminRequests, label => (adminLabels.lookup label).getD "resolve_task_recovery"
  | .commandRequests, label => if label = "start" then "create_work_task" else "command_task"

/-- The entry of a request names its method. -/
theorem Request.entry_method {id : String} (h : q.entry = .ok (id, m)) :
    q.ledger.method m.operation = q.operation := by
  cases q <;> simp only [Request.entry, bind_eq_ok, pure_eq_ok, Prod.mk.injEq,
    AdminRequest.entry] at h <;> obtain ⟨req, _, _, rfl⟩ := h
  case adminAction a _ _ => cases a <;> rfl
  case resolveTaskRecovery r p =>
    have hlabel : ∀ x : String, x.toList.take 3 ≠ "res".toList →
        ("resolve_task_recovery:" ++ req.2 == x) = false := by
      intro x hx
      rw [beq_eq_false_iff_ne]
      rintro rfl
      exact hx (by simp)
    simp only [Request.ledger, Ledger.method, Request.operation, adminLabels, List.lookup]
    repeat rw [hlabel _ (by decide)]
    rfl
  case commandTask p => cases req.operation <;> rfl
  all_goals rfl

/-! ## Retries -/

/-- Retry insensitivity. From any reachable store, once a request has succeeded and whatever the
    store has done since: the request itself, in any surroundings, answers without a secret and
    changes no table; and a request of the same table with its `request_id` and another body digest,
    method or Runner raises and changes no table. -/
theorem retry_insensitive {cfg : Config} {s s₁ : Store} {q : Request} {u : Surroundings} {a : Answer}
    (hs : Reachable cfg s) (hcall : q.call cfg u s = .ok (s₁, a)) (calls : List Call) :
    (∀ u', (∃ a', q.call cfg u' (runFrom (Call.step cfg) s₁ calls) =
          .ok (runFrom (Call.step cfg) s₁ calls, a') ∧ a'.SecretFree) ∧
        (q.command u').step cfg (runFrom (Call.step cfg) s₁ calls) =
          runFrom (Call.step cfg) s₁ calls) ∧
    ∀ (q' : Request) u', q'.ledger = q.ledger →
      q'.payload.get "request_id" = q.payload.get "request_id" →
      (digest (.obj q'.payload) ≠ digest (.obj q.payload) ∨ q'.operation ≠ q.operation ∨
        q'.runner ≠ q.runner) →
      (∃ e, q'.call cfg u' (runFrom (Call.step cfg) s₁ calls) = .error e) ∧
        (q'.command u').step cfg (runFrom (Call.step cfg) s₁ calls) =
          runFrom (Call.step cfg) s₁ calls := by
  obtain ⟨id, m, hentry⟩ := Request.entry_of_ok hcall
  obtain ⟨hid, hdigest, hrunner⟩ := Request.entry_payload hentry
  have hreach : Reachable cfg (runFrom (Call.step cfg) s₁ calls) := by
    obtain ⟨before, rfl⟩ := hs
    refine ⟨before ++ .command (q.command u) :: calls, ?_⟩
    rw [runFrom_append, runFrom_cons, Call.step_command, Request.step_of_ok hcall]
  have hkeep : Remembers Store.memo s₁ (runFrom (Call.step cfg) s₁ calls) :=
    .run (fun s c => c.remembers cfg s) s₁ calls
  constructor
  · intro u'
    obtain ⟨_, a', _, ha', hfree⟩ := (Request.replayed cfg hentry).retry hs.filed hreach.filed
      hcall hkeep u'
    exact ⟨⟨a', ha', hfree⟩, Request.step_of_ok ha'⟩
  · intro q' u' hledger hsame hother
    have herr : ∃ e, q'.call cfg u' (runFrom (Call.step cfg) s₁ calls) = .error e := by
      cases hcall' : q'.call cfg u' (runFrom (Call.step cfg) s₁ calls) with
      | error e => exact ⟨e, rfl⟩
      | ok x =>
        -- a request that gets through is valid, so its entry differs from the filed one
        obtain ⟨id', m', hentry'⟩ := Request.entry_of_ok hcall'
        obtain ⟨hid', hdigest', hrunner'⟩ := Request.entry_payload hentry'
        have hm : m ≠ m' := by
          rintro rfl
          rcases hother with h | h | h
          · exact h (hdigest'.symm.trans hdigest)
          · refine h ?_
            rw [← Request.entry_method hentry, ← Request.entry_method hentry', hledger]
          · exact h (hrunner'.trans hrunner.symm)
        have hkey : (q'.ledger, id') = (q.ledger, id) := by
          rw [hid, hid'] at hsame
          cases hsame
          rw [hledger]
        obtain ⟨e, he⟩ := (Request.replayed cfg hentry).conflict
          (hkey ▸ Request.replayed cfg hentry') (fun e hmine hmine' => hm (hmine ▸ hmine')) hs.filed
          hcall hkeep u'
        exact ⟨e, hcall'.symm.trans he⟩
    obtain ⟨e, he⟩ := herr
    exact ⟨⟨e, he⟩, Request.step_of_error he⟩

/-- An enrollment and a task under one `request_id`. -/
def sharedEnrollment : Request :=
  .createEnrollment [("display_name", .str "runner"), ("os", .str "linux"), ("arch", .str "amd64"),
    ("labels", .arr []), ("allowed_projects", .arr [.str "site"]), ("max_concurrency", .int 1),
    ("request_id", .str "shared-1")]

def sharedStart : Request :=
  .createWorkTask [("version", .int 2), ("request_id", .str "shared-1"),
    ("operation", .str "start"), ("source", ownerSource samplePrincipal),
    ("project_alias", .str "site"), ("instruction", .str "build")]

def sampleSurroundings : Surroundings := ⟨sampleEnv 0, true⟩

theorem shared_facts :
    ((sharedEnrollment.call sampleConfig sampleSurroundings Store.empty).toOption.any fun x =>
      x.1.tasks.rows.length = 0 ∧
      (sharedStart.call sampleConfig sampleSurroundings x.1).toOption.any fun y =>
        y.1.tasks.rows.length = 1) = true := by
  decide +kernel

theorem retry_insensitive_sample : ∃ s₁ a a',
    sharedEnrollment.call sampleConfig sampleSurroundings Store.empty = .ok (s₁, a) ∧
      sharedEnrollment.call sampleConfig sampleSurroundings s₁ = .ok (s₁, a') ∧ a'.SecretFree := by
  obtain ⟨⟨s₁, a⟩, hcall, _⟩ := (Option.any_eq_true _ _).mp shared_facts
  have hcall := toOption_eq_some.mp hcall
  obtain ⟨a', ha', hfree⟩ :=
    ((retry_insensitive (ReachableFrom.refl _ _) hcall []).1 sampleSurroundings).1
  exact ⟨s₁, a, a', hcall, ha', hfree⟩

/-- A `request_id` that is stored in one table is new to another. -/
theorem request_id_per_table : ∃ s₁ a s₂ a',
    sharedEnrollment.call sampleConfig sampleSurroundings Store.empty = .ok (s₁, a) ∧
      sharedStart.payload.get "request_id" = sharedEnrollment.payload.get "request_id" ∧
      sharedStart.operation ≠ sharedEnrollment.operation ∧
      sharedStart.call sampleConfig sampleSurroundings s₁ = .ok (s₂, a') ∧ s₂.tasks ≠ s₁.tasks := by
  obtain ⟨⟨s₁, a⟩, hcall, h⟩ := (Option.any_eq_true _ _).mp shared_facts
  obtain ⟨hempty, h⟩ := of_decide_eq_true h
  obtain ⟨⟨s₂, a'⟩, hcall', hone⟩ := (Option.any_eq_true _ _).mp h
  have hone := of_decide_eq_true hone
  refine ⟨s₁, a, s₂, a', toOption_eq_some.mp hcall, rfl, by decide, toOption_eq_some.mp hcall', ?_⟩
  intro hsame
  rw [hsame, hempty] at hone
  cases hone

end Replays

end HomeAddons.Runner
