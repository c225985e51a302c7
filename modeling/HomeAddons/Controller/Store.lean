import HomeAddons.Common.Digest
import HomeAddons.Common.Json
import HomeAddons.Common.Result
import HomeAddons.Common.Table

/-!
# Codex Controller: the tables

The tables of `ControllerStore` (`store.py`) that a job goes through: conversations, jobs and the
artifacts of jobs, with the constraints of their schema.

A call runs in one `BEGIN IMMEDIATE` transaction: it returns the next state, or raises and leaves
the state alone.
-/

namespace HomeAddons.Controller

open HomeAddons.Common

/-! ## Exceptions and surroundings -/

/-- `StoreError(code, message, status=…)`. -/
structure StoreError where
  code : String
  message : String
  status : ℕ
  deriving DecidableEq

/-- How a call can end without a value. All but the first are not raised by the store itself. -/
inductive Raise where
  | store (e : StoreError)
  /-- `sqlite3.IntegrityError`. -/
  | integrity
  /-- `TypeError: unhashable type`. -/
  | type
  /-- `OverflowError`, from a `timedelta` out of range. -/
  | overflow
  /-- `ToolProxyError(code, message)`. -/
  | tool (code message : String)
  deriving DecidableEq

/-- `raise StoreError(code, message, status=status)`. -/
def raising (code message : String) (status : ℕ) : Raise := .store ⟨code, message, status⟩

/-- `raise StoreError(code, message)`; the default status is 400. -/
def rejecting (code message : String) : Raise := raising code message 400

/-- What a store is opened with, and `str(…)` of a `list` or a `dict`. -/
structure Settings where
  maxQueue : ℕ
  maxResultChars : ℕ
  repr : Json → String

/-- What a call reads of the time: `utc_now()`, `shanghai_now_iso()` and `shanghai_after(…)`, which
    is `none` where it overflows. -/
structure Clock where
  utcNow : String
  shanghaiNow : String
  shanghaiAfter : ℚ → Option String

/-! ## Rows -/

inductive CapabilityProfile where
  | ownerLegacy
  | owner
  | memberReadOnly
  deriving DecidableEq

def CapabilityProfile.text : CapabilityProfile → String
  | .ownerLegacy => "owner_legacy"
  | .owner => "owner"
  | .memberReadOnly => "member_read_only"

inductive JobState where
  | queued
  | running
  | completed
  | failed
  | cancelled
  | recoveryRequired
  deriving DecidableEq

/-- `ACTIVE_STATES`. -/
def JobState.active : JobState → Bool
  | .queued | .running | .recoveryRequired => true
  | .completed | .failed | .cancelled => false

/-- `state IN ('running','recovery_required')`: the job keeps the others waiting. -/
def JobState.occupies : JobState → Bool
  | .running | .recoveryRequired => true
  | .queued | .completed | .failed | .cancelled => false

/-- `FINAL_STATES`. -/
def JobState.final (s : JobState) : Bool := !s.active

/-- An attachment of a job as `validate_job` keeps it. Its size is an `int`, hence possibly a
    `bool`. -/
structure AttachmentInput where
  attachmentRef : String
  mediaType : String
  sizeBytes : Json
  sha256 : String
  displayName : Option String

/-- What `validate_job` returns. -/
structure JobInput where
  messageId : String
  conversationKey : String
  receivedAt : String
  text : String
  attachments : List AttachmentInput
  replyCapabilities : List String
  capabilityProfile : CapabilityProfile

/-- A row of `conversations`. -/
structure Conversation where
  conversationKey : String
  threadId : Option String
  createdAt : String
  updatedAt : String

/-- A row of `jobs`; `input_json` is the document it dumps. -/
structure Job where
  jobId : String
  messageId : String
  conversationKey : String
  threadId : Option String
  turnId : Option String
  state : JobState
  inputDigest : String
  input : JobInput
  resultText : Option String
  resultSummary : Option String
  errorCode : Option String
  errorType : Option String
  upstreamHttpStatus : Option ℤ
  retryable : Bool
  outputObserved : Bool
  toolActivityObserved : Bool
  artifactObserved : Bool
  retryNotBefore : Option String
  attempt : ℕ
  capabilityProfile : CapabilityProfile
  createdAt : String
  startedAt : Option String
  finishedAt : Option String

/-- A row of `job_artifacts`. -/
structure Artifact where
  artifactId : String
  jobId : String
  storageName : String
  sizeBytes : ℕ
  sha256 : String
  expiresAt : String

/-- The tables. -/
structure ControllerStore where
  conversations : Table Conversation.conversationKey
  jobs : Table Job.jobId
  artifacts : Table Artifact.artifactId

namespace ControllerStore

/-- The store of a new database. -/
def empty : ControllerStore := ⟨.empty, .empty, .empty⟩

variable (s : ControllerStore)

/-- The rows of `jobs` that satisfy `p`. -/
def jobsWhere (p : Job → Bool) : List Job := s.jobs.rows.filter p

/-- `SELECT … FROM jobs WHERE turn_id=? AND state='running'`. -/
def runningTurn (turnId : String) : Option Job :=
  s.jobs.rows.find? fun j => j.turnId = some turnId ∧ j.state = .running

/-- `SELECT … FROM jobs WHERE job_id=? AND state='running'`. -/
def runningJob (jobId : String) : Option Job :=
  (s.jobs.get? jobId).filter fun j => j.state = .running

/-- `SELECT 1 FROM job_artifacts WHERE job_id=? LIMIT 1`. -/
def hasArtifact (jobId : String) : Bool := s.artifacts.rows.any fun a => a.jobId = jobId

/-- `UPDATE jobs SET … WHERE job_id=?`. -/
def updateJob (jobId : String) (f : Job → Job)
    (hf : ∀ j, (f j).jobId = j.jobId := by intro _; rfl) : ControllerStore :=
  { s with jobs := s.jobs.update jobId f hf }

@[simp] theorem updateJob_jobs (jobId : String) (f : Job → Job) (hf : ∀ j, (f j).jobId = j.jobId) :
    (s.updateJob jobId f hf).jobs = s.jobs.update jobId f hf := rfl

theorem runningJob_eq_some {jobId : String} {j : Job} :
    s.runningJob jobId = some j ↔ s.jobs.get? jobId = some j ∧ j.state = .running := by
  simp [runningJob, Option.filter_eq_some_iff]

theorem runningTurn_some {turnId : String} {j : Job} (h : s.runningTurn turnId = some j) :
    s.jobs.get? j.jobId = some j ∧ j.turnId = some turnId ∧ j.state = .running := by
  have hj := List.find?_some h
  simp only [decide_eq_true_eq] at hj
  exact ⟨Table.mem_rows_iff.mp (List.mem_of_find?_eq_some h), hj⟩

end ControllerStore

end HomeAddons.Controller
