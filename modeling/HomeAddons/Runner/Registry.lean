import HomeAddons.Runner.Payload
import HomeAddons.Runner.Store

/-!
# Runner Center v2: the registry

Enrollments, credentials and the administration of Runners (`runner_store.py`, lines 317–915 and
2104–2130). A call is a function of the store, of what it reads from outside and of its
arguments; it returns the committed store with its answer, or the exception that rolled its
transaction back.

The insertions carry the unique indexes of the tables, and `replayOr` is the idempotency shared
by the administrative calls: a stored `request_id` answers with the stored response, an unknown
one runs under the runner's current revision.
-/

namespace HomeAddons.Runner

open HomeAddons.Common

/-! ## Statements -/

/-- `UPDATE runner_registry SET … WHERE runner_id=?`. -/
def Store.setRunner (s : Store) (runnerId : String) (f : RunnerRow → RunnerRow)
    (hf : ∀ r, (f r).runnerId = r.runnerId := by intro _; exact id rfl) : Store :=
  { s with runners := s.runners.update runnerId f hf }

/-- `UPDATE runner_tasks SET … WHERE task_id=?`. -/
def Store.setTask (s : Store) (taskId : String) (f : TaskRow → TaskRow)
    (hf : ∀ t, (f t).taskId = t.taskId := by intro _; exact id rfl) : Store :=
  { s with tasks := s.tasks.update taskId f hf }

/-- `state=?,released_at=?`. -/
@[grind] def closedLease (state : LeaseState) (now : Instant) (l : LeaseRow) : LeaseRow :=
  { l with state := state, releasedAt := some now }

/-- `UPDATE runner_leases SET state=?,released_at=? WHERE task_id=? AND state='active'`. -/
def Store.closeLeases (s : Store) (taskId : String) (state : LeaseState) (now : Instant) : Store :=
  { s with
    leases := s.leases.updateWhere (fun l => l.taskId = taskId ∧ l.state = .active)
      (closedLease state now) }

/-- `state='revoked',revoked_at=?`. -/
@[grind] def revokedCredential (now : Instant) (c : CredentialRow) : CredentialRow :=
  { c with state := .revoked, revokedAt := some now }

/-- `UPDATE runner_credentials SET state='revoked',… WHERE runner_id=? AND state='active'`. -/
def Store.revokeCredentials (s : Store) (runnerId : String) (now : Instant) : Store :=
  { s with
    credentials := s.credentials.updateWhere (fun c => c.runnerId = runnerId ∧ c.state = .active)
      (revokedCredential now) }

/-- `INSERT INTO runner_registry`. -/
def Store.insertRunner (s : Store) (row : RunnerRow) : Except Raise Store := do
  let t ← orRaise (s.runners.insert? row) .integrity
  return { s with runners := t }

/-- `INSERT INTO runner_credentials`; `secret_digest` is unique. -/
def Store.insertCredential (s : Store) (row : CredentialRow) : Except Raise Store := do
  ensure (s.credentials.rows.all fun c => c.secretDigest ≠ row.secretDigest) .integrity
  let t ← orRaise (s.credentials.insert? row) .integrity
  return { s with credentials := t }

/-- `INSERT INTO runner_enrollments`; `token_digest` and `request_id` are unique. -/
def Store.insertEnrollment (s : Store) (row : EnrollmentRow) : Except Raise Store := do
  ensure (s.enrollments.rows.all fun e =>
    e.tokenDigest ≠ row.tokenDigest ∧ e.requestId ≠ row.requestId) .integrity
  let t ← orRaise (s.enrollments.insert? row) .integrity
  return { s with enrollments := t }

/-- A new Runner of `create_enrollment`: the columns it does not name take their defaults. -/
def newRunnerRow (runnerId : String) (req : EnrollmentRequest) (now : Instant) : RunnerRow :=
  { runnerId := runnerId, displayName := req.displayName, adminState := .pending,
    workState := .idle, protocolVersion := 2, agentVersion := none, codexVersion := none,
    os := req.os, arch := req.arch, labels := req.labels, allowedProjects := req.projects,
    capabilities := [], maxConcurrency := 1, policyRevision := 1, revision := 1,
    selfCheck := none, lastHeartbeatAt := none, heartbeatSequence := 0, heartbeatDigest := none,
    relayConnected := false, currentTaskId := none, archivedAt := none, createdAt := now,
    updatedAt := now }

/-- A fresh enrollment row: neither claimed nor revoked. -/
def newEnrollmentRow (enrollmentId runnerId token requestId requestDigest : String)
    (now : Instant) : EnrollmentRow :=
  { enrollmentId := enrollmentId, runnerId := runnerId, tokenDigest := secretDigest token,
    requestId := requestId, requestDigest := requestDigest,
    expiresAt := now + seconds 900, claimedAt := none, revokedAt := none, createdAt := now }

/-- A fresh credential row. -/
def newCredentialRow (credentialId runnerId secret : String) (now : Instant) : CredentialRow :=
  { credentialId := credentialId, runnerId := runnerId, secretDigest := secretDigest secret,
    state := .active, createdAt := now, revokedAt := none }

/-- `claimed_at=?`. -/
@[grind] def claimedEnrollment (now : Instant) (e : EnrollmentRow) : EnrollmentRow :=
  { e with claimedAt := some now }

/-- `revoked_at=?`. -/
@[grind] def revokedEnrollment (now : Instant) (e : EnrollmentRow) : EnrollmentRow :=
  { e with revokedAt := some now }

/-- The answer of a call that only shows the Runner. -/
def AdminResponse.ofRunner (runner : PublicRunner) : AdminResponse :=
  { runner := runner, enrollment := none, credential := none, selfCheckQueued := false,
    task := none, resolution := none }

/-- `SELECT * FROM runner_registry WHERE runner_id=?`, for a row the call has just written. -/
def Store.runnerRow (s : Store) (runnerId : String) : Except Raise RunnerRow :=
  orRaise (s.runners.get? runnerId) .type

/-! ## Enrollment -/

/-- `create_enrollment(payload)` (lines 317–409). -/
def createEnrollment (cfg : Config) (s : Store) (env : Env) (payload : Dict) :
    Except Raise (Store × AdminResponse) := do
  let req ← enrollmentRequest payload
  let now := env.clock 0
  match s.enrollments.rows.find? fun e => e.requestId = req.requestId with
  | some existing => do
    ensure (existing.requestDigest = req.bodyDigest)
      (raising "idempotency_conflict" "request_id 已用于不同 Runner 注册" 409)
    let row ← s.runnerRow existing.runnerId
    let enrollment := publicEnrollment existing now
    return (s, { AdminResponse.ofRunner { publicRunner cfg row now with
        enrollment := some enrollment } with
      enrollment := some ⟨enrollment.state, none, enrollment.expiresAt, none⟩ })
  | none => do
    let runnerId := env.fresh 0 "RN" 16
    let enrollmentId := env.fresh 1 "ENR" 12
    let token := env.fresh 2 "ENROLL" 24
    let expiresAt := now + seconds 900
    let s ← s.insertRunner (newRunnerRow runnerId req now)
    let s ← s.insertEnrollment
      (newEnrollmentRow enrollmentId runnerId token req.requestId req.bodyDigest now)
    let s := s.event (env.clock 1) "runner_enrollment_created" (some runnerId) none
      [("os", .str req.os), ("arch", .str req.arch)]
    let row ← s.runnerRow runnerId
    return (s, { AdminResponse.ofRunner { publicRunner cfg row now with
        enrollment := some ⟨"pending", expiresAt⟩ } with
      enrollment := some ⟨"pending", some token, expiresAt, some runnerId⟩ })

/-- The checks of `redeem_enrollment` inside its transaction (lines 443–479): the enrollment. -/
def redeemable (s : Store) (req : RedeemRequest) (now : Instant) :
    Except Raise EnrollmentRow := do
  let enrollment ← orRaise (s.enrollments.rows.find? fun e =>
      e.tokenDigest = secretDigest req.token ∧ e.runnerId = req.runnerId)
    (raising "enrollment_invalid" "Runner enrollment 无效" 404)
  ensure (enrollment.claimedAt = none)
    (raising "enrollment_replayed" "Runner enrollment 已领取" 409)
  ensure (enrollment.revokedAt = none)
    (raising "enrollment_revoked" "Runner enrollment 已撤销" 409)
  ensure (now < enrollment.expiresAt)
    (raising "enrollment_expired" "Runner enrollment 已过期" 409)
  let runner ← orRaise (s.runners.get? req.runnerId) .assertion
  ensure (runner.adminState ≠ .revoked ∧ req.os.eqStr runner.os ∧ req.arch.eqStr runner.arch)
    (raising "enrollment_identity_mismatch" "Runner enrollment 身份不匹配" 409)
  ensure (within req.projects runner.allowedProjects)
    (raising "runner_policy_rejected" "Runner 上报项目超出白名单" 409)
  ensure (within req.labels runner.labels)
    (raising "runner_policy_rejected" "Runner 上报标签超出策略" 409)
  ensure (req.policyRevision = runner.policyRevision)
    (raising "runner_policy_rejected" "Runner policy revision 已过期" 409)
  return enrollment

/-- The Runner after `redeem_enrollment` (lines 485–491). -/
def redeemedRunner (req : RedeemRequest) (now : Instant) (r : RunnerRow) : RunnerRow :=
  { r with
    protocolVersion := 2, agentVersion := some req.agentVersion,
    codexVersion := some req.codexVersion, capabilities := req.capabilities,
    selfCheck := some ⟨req.selfCheckOk, some req.checks, none, req.selfCheckError⟩,
    updatedAt := now, revision := r.revision + 1 }

/-- `redeem_enrollment(payload)` (lines 411–503). -/
def redeemEnrollment (cfg : Config) (s : Store) (env : Env) (payload : Dict) :
    Except Raise (Store × AdminResponse) := do
  let req ← redeemRequest payload
  let now := env.clock 0
  let credential := env.fresh 0 "CRED" 24
  let credentialId := env.fresh 1 "CR" 12
  let enrollment ← redeemable s req now
  let s := { s with
    enrollments := s.enrollments.update enrollment.enrollmentId (claimedEnrollment now) }
  let s ← s.insertCredential (newCredentialRow credentialId req.runnerId credential now)
  let s := s.setRunner req.runnerId (redeemedRunner req now)
  let s := s.event (env.clock 1) "runner_enrollment_redeemed" (some req.runnerId) none
    [("self_check_ok", .bool req.selfCheckOk)]
  let row ← s.runnerRow req.runnerId
  return (s, { AdminResponse.ofRunner { publicRunner cfg row now with
      enrollment := some ⟨"claimed", enrollment.expiresAt⟩ } with
    credential := some ⟨credentialId, some credential⟩ })

/-! ## Idempotent administration -/

/-- `_admin_replay` (lines 2112–2118). -/
def adminReplay (s : Store) (req : AdminRequest) (action : String) :
    Except Raise (Option AdminResponse) :=
  match s.adminRequests.get? req.requestId with
  | none => return none
  | some row => do
    ensure (row.action = action ∧ row.bodyDigest = req.bodyDigest ∧ row.runnerId = req.runnerId)
      (raising "idempotency_conflict" "request_id 已用于不同 Runner 管理请求" 409)
    return some row.response

/-- `_locked_runner` (lines 2104–2110). -/
def lockedRunner (s : Store) (runnerId : String) (revision : ℕ) : Except Raise RunnerRow := do
  let row ← orRaise (s.runners.get? runnerId)
    (raising "runner_not_found" "Runner 不存在" 404)
  ensure (row.revision = revision)
    (raising "revision_conflict" "Runner revision 已变化，请刷新后重试" 409)
  return row

/-- `_save_admin_replay` (lines 2120–2124). -/
def Store.saveAdminReplay (s : Store) (now : Instant) (req : AdminRequest) (action : String)
    (response : AdminResponse) : Except Raise Store := do
  let t ← orRaise (s.adminRequests.insert?
    ⟨req.requestId, action, req.bodyDigest, req.runnerId, response, now⟩) .integrity
  return { s with adminRequests := t }

/-- The stored answer of a known `request_id`, or the call on the runner's row under its current
    revision. -/
def replayOr (s : Store) (req : AdminRequest) (action : String)
    (call : RunnerRow → Except Raise (Store × AdminResponse)) :
    Except Raise (Store × AdminResponse) := do
  match ← adminReplay s req action with
  | some response => return (s, response)
  | none => do
    let row ← lockedRunner s req.runnerId req.revision
    call row

/-! ## `update_runner` -/

/-- The `updates` that `update_runner` collects. -/
structure RunnerUpdate where
  displayName : Option String
  labels : Option (List String)
  allowedProjects : Option (List String)
  adminState : Option AdminState

/-- The target of an `admin_state` update (lines 601–614). -/
def adminTarget (row : RunnerRow) (value : Json) : Except Raise AdminState := do
  let target ← oneOf value ["enabled", "disabled"]
    (raising "runner_state_invalid" "PATCH 只允许启用或停用" 409)
  if target = "enabled" then do
    ensure ((row.adminState = .pending ∨ row.adminState = .disabled) ∧
      (row.selfCheck.map (·.ok)) = some true)
      (raising "runner_state_conflict" "Runner 未通过自检或当前状态不能启用" 409)
    return .enabled
  else do
    ensure (row.currentTaskId = none ∧ row.workState ≠ .recoveryRequired)
      (raising "runner_state_conflict" "活动或恢复中的 Runner 必须先排空" 409)
    return .disabled

/-- A field of the payload, checked when it is there. -/
def whenGiven {α : Type} (payload : Dict) (key : String) (check : Json → Except Raise α) :
    Except Raise (Option α) :=
  if payload.has key then (check (payload.get key)).map some else return none

/-- The updates of `update_runner` (lines 585–618). -/
def updatePlan (row : RunnerRow) (payload : Dict) : Except Raise RunnerUpdate := do
  let displayName ← whenGiven payload "display_name" (boundedText · "display_name" 80)
  let labels ← whenGiven payload "labels" (safeValues · "labels" labelRe 32)
  let projects ← whenGiven payload "allowed_projects" fun v => do
    let projects ← safeValues v "allowed_projects" projectRe 32
    ensure (projects ≠ []) (invalid "Runner 至少需要一个项目白名单")
    return projects
  let adminState ← whenGiven payload "admin_state" (adminTarget row)
  ensure (displayName.isSome ∨ labels.isSome ∨ projects.isSome ∨ adminState.isSome)
    (invalid "没有可更新字段")
  return ⟨displayName, labels, projects, adminState⟩

/-- The `UPDATE` of `update_runner` (lines 620–624). -/
def RunnerUpdate.apply (u : RunnerUpdate) (now : Instant) (r : RunnerRow) : RunnerRow :=
  { r with
    displayName := u.displayName.getD r.displayName
    labels := u.labels.getD r.labels
    allowedProjects := u.allowedProjects.getD r.allowedProjects
    policyRevision := if u.allowedProjects.isSome then r.policyRevision + 1 else r.policyRevision
    adminState := u.adminState.getD r.adminState
    revision := r.revision + 1
    updatedAt := now }

/-- The metadata of the `runner_updated` event. -/
def RunnerUpdate.metadata (u : RunnerUpdate) : Dict :=
  (if u.labels.isSome then [("labels_changed", .bool true)] else []) ++
  (if u.allowedProjects.isSome then [("projects_changed", .bool true)] else []) ++
  (match u.adminState with
    | some .enabled => [("admin_state", .str "enabled")]
    | some _ => [("admin_state", .str "disabled")]
    | none => [])

/-- `update_runner(runner_id, payload)` (lines 570–630). -/
def updateRunner (cfg : Config) (s : Store) (env : Env) (runnerId : Json) (payload : Dict) :
    Except Raise (Store × AdminResponse) := do
  let req ← updateRequest runnerId payload
  replayOr s req "update" fun row => do
    let update ← updatePlan row payload
    let now := env.clock 0
    let s := s.setRunner req.runnerId (update.apply now)
    let s := s.event (env.clock 1) "runner_updated" (some req.runnerId) none update.metadata
    let row ← s.runnerRow req.runnerId
    let response := AdminResponse.ofRunner (publicRunner cfg row now)
    let s ← s.saveAdminReplay (env.clock 2) req "update" response
    return (s, response)

/-! ## `revoke_enrollment` and `regenerate_enrollment` -/

/-- `SELECT * FROM runner_enrollments WHERE runner_id=? ORDER BY created_at DESC,rowid DESC
    LIMIT 1`. -/
def latestEnrollment (s : Store) (runnerId : String) : Option EnrollmentRow :=
  (s.enrollments.rows.filter fun e => e.runnerId = runnerId).foldl
    (fun best e => match best with
      | none => some e
      | some b => if b.createdAt ≤ e.createdAt then some e else some b) none

/-- `UPDATE runner_registry SET revision=revision+1,updated_at=?`. -/
@[grind] def touchRunner (now : Instant) (r : RunnerRow) : RunnerRow :=
  { r with revision := r.revision + 1, updatedAt := now }

/-- `revoke_enrollment(runner_id, payload)` (lines 647–696). -/
def revokeEnrollment (cfg : Config) (s : Store) (env : Env) (runnerId : Json) (payload : Dict) :
    Except Raise (Store × AdminResponse) := do
  let req ← plainAdminRequest runnerId payload "撤销注册请求字段无效"
  let now := env.clock 0
  replayOr s req "revoke_enrollment" fun row => do
    let conflict := raising "enrollment_state_conflict" "当前 Runner 没有可撤销的 enrollment" 409
    ensure (row.adminState ≠ .revoked) conflict
    let enrollment ← orRaise (latestEnrollment s req.runnerId) conflict
    ensure (enrollmentState enrollment now = "pending") conflict
    let s := { s with
      enrollments := s.enrollments.update enrollment.enrollmentId (revokedEnrollment now) }
    let s := s.setRunner req.runnerId (touchRunner now)
    let s := s.event (env.clock 1) "runner_enrollment_revoked" (some req.runnerId) none []
    let row ← s.runnerRow req.runnerId
    let revoked ← orRaise (s.enrollments.get? enrollment.enrollmentId) .type
    let response := AdminResponse.ofRunner { publicRunner cfg row now with
      enrollment := some (publicEnrollment revoked now) }
    let s ← s.saveAdminReplay (env.clock 2) req "revoke_enrollment" response
    return (s, response)

/-- `regenerate_enrollment(runner_id, payload)` (lines 698–797). -/
def regenerateEnrollment (cfg : Config) (s : Store) (env : Env) (runnerId : Json)
    (payload : Dict) : Except Raise (Store × AdminResponse) := do
  let req ← plainAdminRequest runnerId payload "重新生成注册请求字段无效"
  let now := env.clock 0
  let expiresAt := now + seconds 900
  let enrollmentId := env.fresh 0 "ENR" 12
  let token := env.fresh 1 "ENROLL" 24
  replayOr s req "regenerate_enrollment" fun row => do
    ensure ((row.adminState = .pending ∨ row.adminState = .disabled) ∧ row.currentTaskId = none ∧
        (s.enrollments.rows.all fun e => e.runnerId ≠ req.runnerId ∨ e.claimedAt = none) ∧
        (s.credentials.rows.all fun c => c.runnerId ≠ req.runnerId ∨ c.state ≠ .active))
      (raising "enrollment_state_conflict"
        "已注册 Runner 不能重新生成 enrollment，请使用凭据轮换" 409)
    let s := { s with
      enrollments := s.enrollments.updateWhere
        (fun e => e.runnerId = req.runnerId ∧ e.claimedAt = none ∧ e.revokedAt = none)
        (revokedEnrollment now) }
    let s ← s.insertEnrollment
      (newEnrollmentRow enrollmentId req.runnerId token req.requestId req.bodyDigest now)
    let s := s.setRunner req.runnerId (touchRunner now)
    let s := s.event (env.clock 1) "runner_enrollment_regenerated" (some req.runnerId) none []
    let row ← s.runnerRow req.runnerId
    let runner := { publicRunner cfg row now with enrollment := some ⟨"pending", expiresAt⟩ }
    let answer (token : Option String) : AdminResponse :=
      { AdminResponse.ofRunner runner with
        enrollment := some ⟨"pending", token, expiresAt, some req.runnerId⟩ }
    let s ← s.saveAdminReplay (env.clock 2) req "regenerate_enrollment" (answer none)
    return (s, answer (some token))

/-! ## `_admin_action` -/

/-- The actions of `_admin_action`. -/
inductive AdminAction where
  | drain | emergencyDisable | rotateCredential | delete | selfCheck
  deriving DecidableEq

def AdminAction.text : AdminAction → String
  | .drain => "drain"
  | .emergencyDisable => "emergency_disable"
  | .rotateCredential => "rotate_credential"
  | .delete => "delete"
  | .selfCheck => "self_check"

/-- The Chinese texts of `runner_state_conflict`. -/
def stateConflict (message : String) : Raise := raising "runner_state_conflict" message 409

/-- What an action adds to its answer. -/
structure AdminExtra where
  credential : Option IssuedCredential
  selfCheckQueued : Bool

/-- `admin_state=?`, with a new revision. -/
@[grind] def administered (target : AdminState) (now : Instant) (r : RunnerRow) : RunnerRow :=
  { touchRunner now r with adminState := target }

/-- `drain` (lines 813–821). -/
def drainEffect (s : Store) (now : Instant) (row : RunnerRow) : Except Raise Store := do
  ensure (row.adminState = .enabled) (stateConflict "只有 enabled Runner 可以排空")
  return s.setRunner row.runnerId
    (administered (if row.currentTaskId.isSome then .draining else .disabled) now)

/-- `state='recovery_required',stage='recovery',action_required=?`. -/
@[grind] def recoveryTask (action : String) (now : Instant) (t : TaskRow) : TaskRow :=
  { t with
    state := .recoveryRequired, stage := some "recovery", actionRequired := some action,
    updatedAt := now }

/-- `state='cancelled',…,assigned_runner_id=NULL,lease_id=NULL,lease_expires_at=NULL`. -/
@[grind] def withdrawnTask (now : Instant) (t : TaskRow) : TaskRow :=
  { t with
    state := .cancelled, stage := some "cancelled", assignedRunnerId := none, leaseId := none,
    leaseExpiresAt := none, updatedAt := now }

/-- The task of an emergency-disabled Runner when it has been running (lines 832–836). -/
def Store.holdForRecovery (s : Store) (now : Instant) (taskId : String) : Store :=
  s.setTask taskId (recoveryTask "人工核对 Runner 与工作树后再继续" now)

/-- The task of an emergency-disabled Runner when it has not been running (lines 839–846). -/
def Store.withdraw (s : Store) (now : Instant) (taskId : String) : Store :=
  (s.setTask taskId (withdrawnTask now)).closeLeases taskId .released now

/-- `SELECT * FROM runner_tasks WHERE task_id=?` finds a task that has been running. -/
def Store.hasRun (s : Store) (taskId : String) : Bool :=
  (s.tasks.get? taskId).any (·.everRunning)

/-- `admin_state='disabled',work_state=?,current_task_id=?`. -/
@[grind] def disabledRunner (work : WorkState) (task : Option String) (now : Instant) (r : RunnerRow) :
    RunnerRow :=
  { touchRunner now r with adminState := .disabled, workState := work, currentTaskId := task }

/-- `emergency_disable` (lines 822–850). -/
def emergencyEffect (s : Store) (now : Instant) (row : RunnerRow) : Except Raise Store := do
  ensure (row.adminState ≠ .revoked) (stateConflict "已吊销 Runner 不能操作")
  match row.currentTaskId with
  | none => return s.setRunner row.runnerId (disabledRunner row.workState none now)
  | some taskId =>
    if s.hasRun taskId then
      return (s.holdForRecovery now taskId).setRunner row.runnerId
        (disabledRunner .recoveryRequired (some taskId) now)
    else
      return (s.withdraw now taskId).setRunner row.runnerId (disabledRunner .idle none now)

/-- `rotate_credential` (lines 851–880). -/
def rotateEffect (s : Store) (env : Env) (row : RunnerRow) :
    Except Raise (Store × IssuedCredential) := do
  let now := env.clock 0
  ensure (row.adminState ≠ .revoked) (stateConflict "已吊销 Runner 不能轮换凭据")
  ensure (s.credentials.rows.any fun c => c.runnerId = row.runnerId ∧ c.state = .active)
    (stateConflict "Runner 尚未领取长期凭据，不能执行凭据轮换")
  let secret := env.fresh 0 "CRED" 24
  let credentialId := env.fresh 1 "CR" 12
  let s := s.revokeCredentials row.runnerId now
  let s ← s.insertCredential (newCredentialRow credentialId row.runnerId secret now)
  return (s.setRunner row.runnerId (touchRunner now), ⟨credentialId, some secret⟩)

/-- `delete` (lines 881–892). -/
def deleteEffect (s : Store) (now : Instant) (row : RunnerRow) : Except Raise Store := do
  ensure (row.adminState = .disabled ∧ row.currentTaskId = none ∧ row.workState = .idle)
    (raising "runner_delete_conflict" "仅允许删除已停用且无活动/恢复任务的 Runner" 409)
  return (s.revokeCredentials row.runnerId now).setRunner row.runnerId fun r =>
    { administered .revoked now r with archivedAt := some now }

/-- `self_check` (lines 893–901). -/
def selfCheckEffect (s : Store) (now : Instant) (row : RunnerRow) : Except Raise Store := do
  ensure (row.adminState ≠ .revoked) (stateConflict "已吊销 Runner 不能自检")
  return s.setRunner row.runnerId (touchRunner now)

/-- The branch of `_admin_action` for an action. -/
def adminEffect (s : Store) (env : Env) (row : RunnerRow) :
    AdminAction → Except Raise (Store × AdminExtra)
  | .drain => (drainEffect s (env.clock 0) row).map fun s => (s, ⟨none, false⟩)
  | .emergencyDisable => (emergencyEffect s (env.clock 0) row).map fun s => (s, ⟨none, false⟩)
  | .rotateCredential => (rotateEffect s env row).map fun sc => (sc.1, ⟨some sc.2, false⟩)
  | .delete => (deleteEffect s (env.clock 0) row).map fun s => (s, ⟨none, false⟩)
  | .selfCheck => (selfCheckEffect s (env.clock 0) row).map fun s => (s, ⟨none, true⟩)

/-- `_admin_action(runner_id, payload, action)` (lines 797–913); `drain`, `emergency_disable`,
    `rotate_credential`, `delete_runner` and `request_self_check` are its five actions. -/
def adminAction (cfg : Config) (s : Store) (env : Env) (runnerId : Json) (payload : Dict)
    (action : AdminAction) : Except Raise (Store × AdminResponse) := do
  let req ← plainAdminRequest runnerId payload "Runner 管理请求字段无效"
  let now := env.clock 0
  replayOr s req action.text fun row => do
    let (s, extra) ← adminEffect s env row action
    let s := s.event (env.clock 1) ("runner_" ++ action.text) (some req.runnerId)
      row.currentTaskId []
    let row ← s.runnerRow req.runnerId
    let answer (credential : Option IssuedCredential) : AdminResponse :=
      { AdminResponse.ofRunner (publicRunner cfg row now) with
        credential := credential, selfCheckQueued := extra.selfCheckQueued }
    let hidden := extra.credential.map fun c => { c with secret := none }
    let s ← s.saveAdminReplay (env.clock 2) req action.text (answer hidden)
    return (s, answer extra.credential)

/-! ## `verify_credential` -/

/-- `verify_credential(runner_id, secret)` (lines 915–926). -/
def verifyCredential (s : Store) (runnerId secret : Json) : Except Raise Unit := do
  let runnerId ← runnerIdOf runnerId
  let secret ← orRaise (secret.asStr?.filter fun t => 32 ≤ t.length)
    (raising "runner_not_authorized" "Runner 凭据无效" 401)
  let refused := raising "runner_not_authorized" "Runner 凭据已吊销或无效" 401
  let _ ← orRaise (s.credentials.rows.find? fun c =>
    c.runnerId = runnerId ∧ c.secretDigest = secretDigest secret ∧ c.state = .active) refused
  let runner ← orRaise (s.runners.get? runnerId) refused
  ensure (runner.adminState ≠ .revoked) refused

end HomeAddons.Runner
