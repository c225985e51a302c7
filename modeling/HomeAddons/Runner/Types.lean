import HomeAddons.Common.Digest
import HomeAddons.Common.IsoTime
import HomeAddons.Common.Json
import HomeAddons.Common.Result

/-!
# Runner Center v2: states, errors and configuration

The vocabulary of `runner_store.py` (lines 19–130): the state columns as enumerations with the
texts the database and the messages use, the exceptions a call can end with, the validated
constructor arguments of `RunnerStore`, and what a call takes from its surroundings (the
successive readings of `self.clock()` and the results of `secrets.token_bytes`).
-/

namespace HomeAddons.Runner

open HomeAddons.Common

/-! ## State columns -/

/-- `ADMIN_STATES` (line 20). -/
inductive AdminState where
  | pending | enabled | draining | disabled | revoked
  deriving DecidableEq

/-- `WORK_STATES` (line 21). -/
inductive WorkState where
  | idle | busy | recoveryRequired | error
  deriving DecidableEq

/-- `TASK_STATES` (lines 41–55). -/
inductive TaskState where
  | waitingRunner | leased | dispatched | queued | running | awaitingConfirmation
  | completed | failed | cancelled | expired | recoveryRequired
  deriving DecidableEq

/-- The values of `runner_leases.state`. -/
inductive LeaseState where
  | active | released | expired
  deriving DecidableEq

/-- The values of `runner_credentials.state`. -/
inductive CredentialState where
  | active | revoked
  deriving DecidableEq

/-- The values of `runner_messages.kind`. -/
inductive MessageKind where
  | status | result
  deriving DecidableEq

def WorkState.text : WorkState → String
  | .idle => "idle"
  | .busy => "busy"
  | .recoveryRequired => "recovery_required"
  | .error => "error"

/-- The work state a text names. -/
def WorkState.ofText? (s : String) : Option WorkState :=
  [WorkState.idle, .busy, .recoveryRequired, .error].find? fun w => w.text = s

def TaskState.text : TaskState → String
  | .waitingRunner => "waiting_runner"
  | .leased => "leased"
  | .dispatched => "dispatched"
  | .queued => "queued"
  | .running => "running"
  | .awaitingConfirmation => "awaiting_confirmation"
  | .completed => "completed"
  | .failed => "failed"
  | .cancelled => "cancelled"
  | .expired => "expired"
  | .recoveryRequired => "recovery_required"

/-- The state among `states` that a text names. -/
def TaskState.ofText? (states : List TaskState) (s : String) : Option { t // t ∈ states } :=
  states.attach.find? fun t => t.1.text = s

/-- `TERMINAL_TASK_STATES` (line 56). -/
def terminalTaskStates : List TaskState := [.completed, .failed, .cancelled, .expired]

/-- `ACTIVE_TASK_STATES` (line 57). -/
def activeTaskStates : List TaskState :=
  [.leased, .dispatched, .queued, .running, .awaitingConfirmation]

/-- `task["state"] in TERMINAL_TASK_STATES`. -/
def TaskState.terminal (t : TaskState) : Bool := terminalTaskStates.contains t

/-- `task["state"] in ACTIVE_TASK_STATES`. -/
def TaskState.active (t : TaskState) : Bool := activeTaskStates.contains t

@[grind =] theorem TaskState.terminal_iff (t : TaskState) : t.terminal = true ↔
    t = .completed ∨ t = .failed ∨ t = .cancelled ∨ t = .expired := by
  cases t <;> decide

@[grind =] theorem TaskState.active_iff (t : TaskState) : t.active = true ↔
    t = .leased ∨ t = .dispatched ∨ t = .queued ∨ t = .running ∨ t = .awaitingConfirmation := by
  cases t <;> decide

/-- The states a `record_status` payload may carry (line 1485). -/
def statusStates : List TaskState := [.queued, .running, .awaitingConfirmation, .recoveryRequired]

/-- The states a `record_result` payload may carry (line 1563). -/
def resultStates : List TaskState := terminalTaskStates ++ [.awaitingConfirmation, .recoveryRequired]

/-- `RUNNER_CAPABILITIES` (lines 22–40). -/
def runnerCapabilities : List String :=
  ["registered_projects", "worktree", "codex_exec_json", "codex_resume", "continue", "cancel",
    "expiry", "recovery_required", "summary_only_result", "non_force_git", "assignment_epoch",
    "lease", "self_check", "desktop_takeover_v1", "desktop_host_v1"]

/-! ## Exceptions -/

/-- `StoreError(code, message, status=…)`. -/
structure StoreError where
  code : String
  message : String
  status : ℕ
  deriving DecidableEq

/-- How a call can end without a value. All but the first are not raised by the store itself. -/
inductive Raise where
  | store (e : StoreError)
  /-- `sqlite3.IntegrityError`: a primary key or a unique index is violated. -/
  | integrity
  /-- `TypeError: unhashable type`. -/
  | type
  /-- `OverflowError`, from a `datetime` or from an integer that SQLite cannot hold. -/
  | overflow
  /-- `AssertionError`. -/
  | assertion
  deriving DecidableEq

/-- `raise StoreError(code, message, status=status)`. -/
def raising (code message : String) (status : ℕ) : Raise := .store ⟨code, message, status⟩

/-- `StoreError("runner_payload_invalid", message)`; the default status is 400. -/
def invalid (message : String) : Raise := raising "runner_payload_invalid" message 400

/-! ## Configuration and surroundings -/

/-- The arguments `RunnerStore.__init__` accepts (lines 126–151). -/
structure Config where
  onlineAfterSeconds : ℕ
  offlineAfterSeconds : ℕ
  leaseTtlSeconds : ℕ
  taskTtlSeconds : ℕ
  online_pos : 1 ≤ onlineAfterSeconds
  online_lt_offline : onlineAfterSeconds < offlineAfterSeconds
  leaseTtl_mem : 5 ≤ leaseTtlSeconds ∧ leaseTtlSeconds ≤ 3600
  taskTtl_mem : 60 ≤ taskTtlSeconds ∧ taskTtlSeconds ≤ 86400

/-- What one call reads from outside: the `k`-th value of `self.clock()` and the `k`-th value of
    `secrets.token_bytes(n)` during the call. Nothing is assumed about either: the clock may
    jump and tokens may repeat. -/
structure Env where
  clock : ℕ → Instant
  tokenBytes : ℕ → (n : ℕ) → Vector UInt8 n

/-- `_opaque(prefix, size)` on the given random bytes (lines 91–93). -/
def opaqueId (label : String) (bytes : List UInt8) : String :=
  label ++ "-" ++ String.ofList (base32 bytes)

/-- The `k`-th `_opaque(label, size)` of a call. -/
def Env.fresh (env : Env) (k : ℕ) (label : String) (size : ℕ) : String :=
  opaqueId label (env.tokenBytes k size).toList

/-- `_digest(value)` (lines 83–84). -/
def digest (value : Json) : String := "sha256:" ++ sha256Hex (canonical value)

/-- `_secret_digest(value)` (lines 87–88). -/
def secretDigest (value : String) : String := sha256Hex value

end HomeAddons.Runner
