import HomeAddons.Common.Table
import HomeAddons.Runner.Types

/-!
# Runner Center v2: the tables

The rows of the tables `RunnerStore._migrate` creates (lines 161–302), the store made of them,
and the views `_public_runner`, `_public_enrollment` and `_public_task` that calls return.

A time column is the instant its ISO text names, a `…_json` column the value it dumps, a column
with an enumeration of states that enumeration. Rows are never deleted, so a table in insertion
order is a table in `rowid` order.
-/

namespace HomeAddons.Runner

open HomeAddons.Common

/-- `self_check_json`: `redeem_enrollment` writes `checks`, `heartbeat` writes `status`. -/
structure SelfCheck where
  ok : Bool
  checks : Option (List String)
  status : Option String
  errorCode : Json

/-- A row of `runner_registry`. -/
structure RunnerRow where
  runnerId : String
  displayName : String
  adminState : AdminState
  workState : WorkState
  protocolVersion : ℕ
  agentVersion : Option String
  codexVersion : Option String
  os : String
  arch : String
  labels : List String
  allowedProjects : List String
  capabilities : List String
  maxConcurrency : ℕ
  policyRevision : ℕ
  revision : ℕ
  selfCheck : Option SelfCheck
  lastHeartbeatAt : Option Instant
  heartbeatSequence : ℕ
  heartbeatDigest : Option String
  relayConnected : Bool
  currentTaskId : Option String
  archivedAt : Option Instant
  createdAt : Instant
  updatedAt : Instant

/-- A row of `runner_credentials`. -/
structure CredentialRow where
  credentialId : String
  runnerId : String
  secretDigest : String
  state : CredentialState
  createdAt : Instant
  revokedAt : Option Instant

/-- A row of `runner_enrollments`. -/
structure EnrollmentRow where
  enrollmentId : String
  runnerId : String
  tokenDigest : String
  requestId : String
  requestDigest : String
  expiresAt : Instant
  claimedAt : Option Instant
  revokedAt : Option Instant
  createdAt : Instant

/-- A row of `runner_tasks`. -/
structure TaskRow where
  taskId : String
  createRequestId : String
  principalHash : String
  projectAlias : String
  instruction : String
  instructionDigest : String
  state : TaskState
  stage : Option String
  summary : Option String
  candidateId : Option String
  branch : Option String
  commits : List String
  resultHash : Option String
  testSummary : Option String
  changedPathCount : Option ℕ
  nextActions : List String
  errorCode : Option String
  actionRequired : Option String
  preferredRunnerId : Option String
  requiredLabels : List String
  requiredCapabilities : List String
  assignedRunnerId : Option String
  assignmentEpoch : ℕ
  leaseId : Option String
  leaseExpiresAt : Option Instant
  everRunning : Bool
  sequence : ℕ
  expiresAt : Instant
  createdAt : Instant
  updatedAt : Instant

/-- A row of `runner_leases`. -/
structure LeaseRow where
  leaseId : String
  taskId : String
  runnerId : String
  assignmentEpoch : ℕ
  state : LeaseState
  createdAt : Instant
  expiresAt : Instant
  releasedAt : Option Instant

/-- The primary key of `runner_messages`. -/
structure MessageKey where
  runnerId : String
  taskId : String
  kind : MessageKind
  assignmentEpoch : ℕ
  sequence : ℕ
  deriving DecidableEq

/-- A row of `runner_messages`. -/
structure MessageRow where
  key : MessageKey
  bodyDigest : String
  createdAt : Instant

/-- A row of `runner_command_requests`. -/
structure CommandRequestRow where
  requestId : String
  operation : String
  bodyDigest : String
  taskId : String
  createdAt : Instant

/-- A row of `runner_events`. -/
structure EventRow where
  runnerId : Option String
  taskId : Option String
  eventType : String
  metadata : Dict
  createdAt : Instant

/-! ## What calls return -/

/-- `_public_enrollment(row, now=…)` (lines 2007–2021), or the same three keys written out. -/
structure PublicEnrollment where
  state : String
  expiresAt : Instant

/-- `connectivity_state`. -/
inductive Connectivity where
  | online | stale | offline
  deriving DecidableEq

/-- `_public_runner(row, now=…)` (lines 1966–1991), with the `enrollment` some calls add. -/
structure PublicRunner where
  runnerId : String
  displayName : String
  adminState : AdminState
  connectivityState : Connectivity
  workState : WorkState
  protocolVersion : ℕ
  agentVersion : Option String
  codexVersion : Option String
  os : String
  arch : String
  labels : List String
  allowedProjects : List String
  capabilities : List String
  maxConcurrency : ℕ
  policyRevision : ℕ
  revision : ℕ
  selfCheck : Option SelfCheck
  lastHeartbeatAt : Option Instant
  currentTaskId : Option String
  archived : Bool
  createdAt : Instant
  updatedAt : Instant
  enrollment : Option PublicEnrollment

/-- The `enrollment` of `create_enrollment` and `regenerate_enrollment`: `token` is present
    exactly when `secret_available` is true. -/
structure IssuedEnrollment where
  state : String
  token : Option String
  expiresAt : Instant
  runnerId : Option String

/-- The `credential` of `redeem_enrollment` and `rotate_credential`: `secret` is present exactly
    when `secret_available` is true. -/
structure IssuedCredential where
  credentialId : String
  secret : Option String

/-- `_public_task(row)` (lines 2023–2050): it shows these columns of the row. -/
structure PublicTask where
  requestId : String
  taskId : String
  state : TaskState
  updatedAt : Instant
  stage : Option String
  summary : Option String
  candidateId : Option String
  branch : Option String
  commits : List String
  resultHash : Option String
  testSummary : Option String
  changedPathCount : Option ℕ
  nextActions : List String
  errorCode : Option String
  actionRequired : Option String
  assignedRunnerId : Option String
  assignmentEpoch : ℕ
  leaseId : Option String
  leaseExpiresAt : Option Instant
  projectAlias : String
  createdAt : Instant
  expiresAt : Instant

/-- What an administrative call answers and `response_json` keeps. -/
structure AdminResponse where
  runner : PublicRunner
  enrollment : Option IssuedEnrollment
  credential : Option IssuedCredential
  selfCheckQueued : Bool
  task : Option PublicTask
  resolution : Option String

/-- A row of `runner_admin_requests`. -/
structure AdminRequestRow where
  requestId : String
  action : String
  bodyDigest : String
  runnerId : String
  response : AdminResponse
  createdAt : Instant

/-! ## The store -/

/-- The database of `RunnerStore`. -/
structure Store where
  runners : Table RunnerRow.runnerId
  credentials : Table CredentialRow.credentialId
  enrollments : Table EnrollmentRow.enrollmentId
  tasks : Table TaskRow.taskId
  leases : Table LeaseRow.leaseId
  messages : Table MessageRow.key
  commandRequests : Table CommandRequestRow.requestId
  adminRequests : Table AdminRequestRow.requestId
  events : List EventRow

/-- The store after `_migrate` on a new database file. -/
def Store.empty : Store :=
  { runners := .empty, credentials := .empty, enrollments := .empty, tasks := .empty,
    leases := .empty, messages := .empty, commandRequests := .empty, adminRequests := .empty,
    events := [] }

/-- `_event(connection, event_type, …)` (lines 2126–2130). -/
def Store.event (s : Store) (at_ : Instant) (eventType : String) (runnerId taskId : Option String)
    (metadata : Dict) : Store :=
  { s with events := s.events ++ [⟨runnerId, taskId, eventType, metadata, at_⟩] }

/-- `_connectivity(row, now)` (lines 2089–2102). -/
def connectivity (cfg : Config) (row : RunnerRow) (now : Instant) : Connectivity :=
  if !row.relayConnected then .offline
  else match row.lastHeartbeatAt with
    | none => .offline
    | some value =>
      let age := max 0 (now - value)
      if age ≤ seconds cfg.onlineAfterSeconds then .online
      else if age ≤ seconds cfg.offlineAfterSeconds then .stale
      else .offline

/-- `_public_runner(row, now=now)`. -/
def publicRunner (cfg : Config) (row : RunnerRow) (now : Instant) : PublicRunner :=
  { runnerId := row.runnerId, displayName := row.displayName, adminState := row.adminState,
    connectivityState := connectivity cfg row now, workState := row.workState,
    protocolVersion := row.protocolVersion, agentVersion := row.agentVersion,
    codexVersion := row.codexVersion, os := row.os, arch := row.arch, labels := row.labels,
    allowedProjects := row.allowedProjects, capabilities := row.capabilities,
    maxConcurrency := row.maxConcurrency, policyRevision := row.policyRevision,
    revision := row.revision, selfCheck := row.selfCheck, lastHeartbeatAt := row.lastHeartbeatAt,
    currentTaskId := row.currentTaskId, archived := row.archivedAt.isSome,
    createdAt := row.createdAt, updatedAt := row.updatedAt, enrollment := none }

/-- The `state` of `_public_enrollment`. -/
def enrollmentState (row : EnrollmentRow) (now : Instant) : String :=
  if row.claimedAt.isSome then "claimed"
  else if row.revokedAt.isSome then "revoked"
  else if row.expiresAt ≤ now then "expired"
  else "pending"

/-- `_public_enrollment(row, now=now)`. -/
def publicEnrollment (row : EnrollmentRow) (now : Instant) : PublicEnrollment :=
  { state := enrollmentState row now, expiresAt := row.expiresAt }

/-- `_public_task(row)`. -/
def publicTask (row : TaskRow) : PublicTask :=
  { requestId := row.createRequestId, taskId := row.taskId, state := row.state,
    updatedAt := row.updatedAt, stage := row.stage, summary := row.summary,
    candidateId := row.candidateId, branch := row.branch, commits := row.commits,
    resultHash := row.resultHash, testSummary := row.testSummary,
    changedPathCount := row.changedPathCount, nextActions := row.nextActions,
    errorCode := row.errorCode, actionRequired := row.actionRequired,
    assignedRunnerId := row.assignedRunnerId, assignmentEpoch := row.assignmentEpoch,
    leaseId := row.leaseId, leaseExpiresAt := row.leaseExpiresAt,
    projectAlias := row.projectAlias, createdAt := row.createdAt, expiresAt := row.expiresAt }

@[simp] theorem publicTask_taskId (row : TaskRow) : (publicTask row).taskId = row.taskId := rfl

end HomeAddons.Runner
