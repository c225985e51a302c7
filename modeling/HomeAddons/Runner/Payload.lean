import HomeAddons.Common.Text
import HomeAddons.Runner.Types

/-!
# Runner Center v2: validation of requests

What the calls of `RunnerStore` check about their arguments before they open a transaction, in
the order of the source, with the codes and messages of the errors. Each validated request is a
structure of the values the transaction then uses.

* `boundedText`, `safeValues`, `capabilitiesOf` and the `…_RE` patterns (lines 58–124).
* `validateEnvelope`: the checks shared by all messages of a Runner (lines 2052–2087).
* one `…Request` structure and one function per call.
-/

namespace HomeAddons.Runner

open HomeAddons.Common

/-! ## Patterns -/

/-- `[A-Za-z0-9._:-]`. -/
def isIdChar (c : Char) : Bool := c.isAlphanum || c = '.' || c = '_' || c = ':' || c = '-'

/-- `[a-z0-9]`. -/
def isLowerAlnum (c : Char) : Bool := ('a' ≤ c ∧ c ≤ 'z') ∨ c.isDigit

/-- `fullmatch` of `^head tail{least,most}$` on the characters. -/
def matchesRun (head tail : Char → Bool) (least most : ℕ) : List Char → Bool
  | [] => false
  | c :: cs => head c && cs.all tail && least ≤ cs.length && cs.length ≤ most

/-- `fullmatch` of `^label tail$`, where `tail` matches the characters after the label. -/
def matchesAfter (label : String) (tail : List Char → Bool) (s : String) : Bool :=
  match label.toList.isPrefixOf? s.toList with
  | some rest => tail rest
  | none => false

@[simp] theorem matchesAfter_append (label : String) (tail : List Char → Bool) (cs : List Char) :
    matchesAfter label tail (label ++ String.ofList cs) = tail cs := by
  have h : label.toList.isPrefixOf? (label.toList ++ cs) = some cs :=
    List.isPrefixOf?_eq_some_iff_append_eq.mpr rfl
  simp [matchesAfter, h]

/-- `SAFE_ID_RE`. -/
def safeIdRe (s : String) : Bool := matchesRun Char.isAlphanum isIdChar 0 255 s.toList

/-- `RUNNER_ID_RE`. -/
def runnerIdRe : String → Bool :=
  matchesAfter "RN-" fun cs => cs.all isBase32 && 20 ≤ cs.length && cs.length ≤ 32

/-- A new `runner_id` is one. -/
theorem fresh_runnerIdRe (env : Env) (k : ℕ) : runnerIdRe (env.fresh k "RN" 16) = true := by
  obtain ⟨hlen, hall⟩ := base32_chars (env.tokenBytes k 16).toList
  rw [Vector.length_toList] at hlen
  have hid : env.fresh k "RN" 16 = "RN-" ++ String.ofList (base32 (env.tokenBytes k 16).toList) := rfl
  rw [runnerIdRe, hid, matchesAfter_append]
  simp [hall, hlen]

/-- `TASK_ID_RE`. -/
def taskIdRe : String → Bool := matchesAfter "RW-" (matchesRun Char.isAlphanum isIdChar 0 124)

/-- `REQUEST_ID_RE`. -/
def requestIdRe (s : String) : Bool := matchesRun Char.isAlphanum isIdChar 7 127 s.toList

/-- `PROJECT_RE`. -/
def projectRe (s : String) : Bool :=
  matchesRun isLowerAlnum (fun c => isLowerAlnum c || c = '-') 0 63 s.toList

/-- `LABEL_RE`. -/
def labelRe (s : String) : Bool :=
  matchesRun isLowerAlnum (fun c => isLowerAlnum c || c = '.' || c = '_' || c = '-') 0 63 s.toList

/-- `SHA256_RE`. -/
def sha256Re : String → Bool :=
  matchesAfter "sha256:" fun cs => cs.length = 64 && cs.all isLowerHex

/-- `[a-f0-9]{7,64}` (line 1593). -/
def commitRe (s : String) : Bool :=
  s.toList.all isLowerHex && 7 ≤ s.toList.length && s.toList.length ≤ 64

/-- The pattern of a `branch` (line 1596). -/
def branchRe (s : String) : Bool :=
  matchesRun Char.isAlphanum
    (fun c => c.isAlphanum || c = '.' || c = '_' || c = '/' || c = '-') 0 254 s.toList

/-! ## Texts and lists -/

/-- A control character other than a newline, a carriage return or a tab. -/
def isBadControl (c : Char) : Bool := c.toNat < 32 ∧ c ≠ '\n' ∧ c ≠ '\r' ∧ c ≠ '\t'

/-- `_bounded_text(value, name, maximum=maximum)` (lines 96–103). -/
def boundedText (value : Json) (name : String) (maximum : ℕ) : Except Raise String := do
  let text ← orRaise value.asStr? (invalid (name ++ " 无效"))
  ensure (strip text ≠ "" ∧ text.length ≤ maximum) (invalid (name ++ " 无效"))
  ensure (!text.toList.any isBadControl) (invalid (name ++ " 包含无效控制字符"))
  return strip text

/-- `_bounded_text(value, name, maximum=maximum, required=False)`. -/
def optionalText (value : Json) (name : String) (maximum : ℕ) : Except Raise (Option String) :=
  if value.isNull then return none
  else do
    let text ← orRaise value.asStr? (invalid (name ++ " 无效"))
    ensure (text.length ≤ maximum) (invalid (name ++ " 无效"))
    ensure (!text.toList.any isBadControl) (invalid (name ++ " 包含无效控制字符"))
    return some (strip text)

/-- The strings of a JSON list, when all its items are strings that match `re`. -/
def stringsMatching (re : String → Bool) (items : List Json) : Option (List String) :=
  items.mapM fun v => v.asStr?.filter re

/-- `sorted(set(values))`. -/
def sortedDistinct (values : List String) : List String := values.dedup.insertionSort (· ≤ ·)

/-- `_safe_values(value, name, pattern, maximum=maximum)` (lines 106–115). -/
def safeValues (value : Json) (name : String) (re : String → Bool) (maximum : ℕ) :
    Except Raise (List String) := do
  let items ← orRaise value.asList? (invalid (name ++ " 无效"))
  ensure (items.length ≤ maximum) (invalid (name ++ " 无效"))
  let values ← orRaise (stringsMatching re items) (invalid (name ++ " 无效"))
  return sortedDistinct values

/-- `set(xs) <= set(ys)`. -/
def within (xs ys : List String) : Bool := xs.all ys.contains

/-- `_capabilities(value)` (lines 118–122). -/
def capabilitiesOf (value : Json) : Except Raise (List String) := do
  let values ← safeValues value "capabilities" labelRe 32
  ensure (within values runnerCapabilities) (invalid "capabilities 包含未知能力")
  return values

/-- `value in names`, where an unhashable value is a `TypeError`. -/
def memberOf (value : Json) (names : List String) : Except Raise Bool :=
  orRaise (value.inStrings names) .type

/-- An optional string that matches `re`, or the error. -/
def optionalMatch (value : Json) (re : String → Bool) (e : Raise) :
    Except Raise (Option String) :=
  if value.isNull then return none
  else do
    let s ← orRaise (value.asStr?.filter re) e
    return some s

/-! ## Identifiers -/

/-- `_request_id(value)` (lines 2138–2142). -/
def requestIdOf (value : Json) : Except Raise String :=
  orRaise (value.asStr?.filter requestIdRe) (invalid "request_id 无效")

/-- `_runner_id(value)` (lines 2144–2148). -/
def runnerIdOf (value : Json) : Except Raise String :=
  orRaise (value.asStr?.filter runnerIdRe) (invalid "runner_id 无效")

/-- `_task_id(value)` (lines 2150–2154). -/
def taskIdOf (value : Json) : Except Raise String :=
  orRaise (value.asStr?.filter taskIdRe) (invalid "task_id 无效")

/-- An integer that is not a `bool` and at least `least`. -/
def intFrom (least : ℕ) (value : Json) : Option { n : ℕ // least ≤ n } :=
  value.asInt?.bind fun n => if h : (least : ℤ) ≤ n then some ⟨n.toNat, by omega⟩ else none

theorem intFrom_eq_some {least : ℕ} {value : Json} {n : { n : ℕ // least ≤ n }} :
    intFrom least value = some n ↔ value = .int n.1 := by
  obtain ⟨n, hn⟩ := n
  cases value <;> simp only [intFrom, Json.asInt?, Option.bind_some, Option.bind_none, reduceCtorEq,
    Option.dite_none_right_eq_some, Option.some.injEq, Subtype.mk.injEq, Json.int.injEq]
  constructor
  · rintro ⟨_, rfl⟩
    omega
  · rintro rfl
    exact ⟨by omega, by omega⟩

/-- `_revision(value)` (lines 2132–2136). -/
def revisionOf (value : Json) : Except Raise ℕ := do
  let revision ← orRaise (intFrom 1 value) (invalid "revision 无效")
  return revision

/-- An integer that SQLite can store. -/
def sqlInt (n : ℕ) : Except Raise Unit := ensure (n < 2 ^ 63) .overflow

/-! ## Times of a message -/

/-- `_parse_time(str(value))`: only a string can name an aware time. -/
def timeOf (value : Json) : Except TimeError Instant :=
  match value.asStr? with
  | some s => parseTime s
  | none => .error .value

/-- A time of a message: `ValueError` becomes the given error, `OverflowError` is not caught. -/
def messageTime (value : Json) (e : Raise) : Except Raise Instant :=
  match timeOf value with
  | .ok t => .ok t
  | .error .value => .error e
  | .error .overflow => .error .overflow

/-! ## The envelope of a message -/

/-- `_validate_envelope(payload, message_type, heartbeat=…)` (lines 2052–2087). -/
def validateEnvelope (env : Env) (payload : Dict) (messageType : String) (heartbeat : Bool) :
    Except Raise Unit := do
  ensure ((payload.get "version").eqInt 2 ∧ (payload.get "message_type").eqStr messageType)
    (raising "runner_protocol_unsupported" "Runner message version/type 无效" 409)
  let _ ← runnerIdOf (payload.get "runner_id")
  if heartbeat ∧ (payload.get "task_id").isNull then
    ensure ((payload.get "assignment_epoch").eqInt 0)
      (raising "runner_assignment_stale" "Runner heartbeat epoch 无效" 409)
  else do
    let _ ← taskIdOf (payload.get "task_id")
    let _ ← orRaise (intFrom 1 (payload.get "assignment_epoch"))
      (raising "runner_sequence_invalid" "Runner assignment epoch 无效" 400)
  let _ ← orRaise (intFrom 1 (payload.get "sequence"))
    (raising "runner_sequence_invalid" "Runner sequence 无效" 400)
  let createdAt ← messageTime (payload.get "created_at") (invalid "Runner message 时间无效")
  let expiresAt ← messageTime (payload.get "expires_at") (invalid "Runner message 时间无效")
  ensure (createdAt < expiresAt ∧ expiresAt - createdAt ≤ seconds 3600)
    (invalid "Runner message TTL 无效")
  ensure (env.clock 0 < expiresAt) (raising "runner_message_expired" "Runner message 已过期" 409)
  ensure ((payload.get "body_digest").eqStr (digest (.obj (payload.without "body_digest"))))
    (raising "runner_digest_invalid" "Runner body digest 无效" 400)
  ensure ((canonical (.obj payload)).utf8ByteSize ≤ 32 * 1024) (invalid "Runner message 过大")

/-! ## Registry requests -/

/-- A string among `names`, or the error. -/
def oneOf (value : Json) (names : List String) (e : Raise) : Except Raise String := do
  let known ← memberOf value names
  ensure known e
  return value.asStr?.getD ""

/-- The validated payload of `create_enrollment`. -/
structure EnrollmentRequest where
  displayName : String
  os : String
  arch : String
  labels : List String
  projects : List String
  requestId : String
  bodyDigest : String

/-- `create_enrollment`, lines 318–337. -/
def enrollmentRequest (payload : Dict) : Except Raise EnrollmentRequest := do
  ensure (payload.keysAre ["display_name", "os", "arch", "labels", "allowed_projects",
    "max_concurrency", "request_id"]) (invalid "新增 Runner 字段无效")
  let displayName ← boundedText (payload.get "display_name") "display_name" 80
  let os ← oneOf (payload.get "os") ["macos", "linux"] (invalid "Runner 平台无效")
  let arch ← oneOf (payload.get "arch") ["amd64", "aarch64"] (invalid "Runner 平台无效")
  let labels ← safeValues (payload.get "labels") "labels" labelRe 32
  let projects ← safeValues (payload.get "allowed_projects") "allowed_projects" projectRe 32
  ensure (projects ≠ []) (invalid "Runner 至少需要一个项目白名单")
  ensure ((payload.get "max_concurrency").eqInt 1) (invalid "v2 首期每个 Runner 并发必须为 1")
  let requestId ← requestIdOf (payload.get "request_id")
  return ⟨displayName, os, arch, labels, projects, requestId, digest (.obj payload)⟩

/-- The validated payload of `redeem_enrollment`; `os` and `arch` are only compared. -/
structure RedeemRequest where
  token : String
  runnerId : String
  agentVersion : String
  codexVersion : String
  os : Json
  arch : Json
  capabilities : List String
  projects : List String
  labels : List String
  policyRevision : ℕ
  selfCheckOk : Bool
  checks : List String
  selfCheckError : Json

/-- `redeem_enrollment`, lines 413–436. -/
def redeemRequest (payload : Dict) : Except Raise RedeemRequest := do
  ensure (payload.keysAre ["token", "runner_id", "protocol_version", "agent_version",
    "codex_version", "os", "arch", "capabilities", "projects", "labels", "policy_revision",
    "self_check"]) (invalid "Runner enrollment 字段无效")
  let token ← boundedText (payload.get "token") "token" 256
  let runnerId ← runnerIdOf (payload.get "runner_id")
  ensure ((payload.get "protocol_version").eqInt 2)
    (raising "runner_protocol_unsupported" "Runner 协议版本不兼容" 409)
  let agentVersion ← boundedText (payload.get "agent_version") "agent_version" 64
  let codexVersion ← boundedText (payload.get "codex_version") "codex_version" 64
  let capabilities ← capabilitiesOf (payload.get "capabilities")
  let projects ← safeValues (payload.get "projects") "projects" projectRe 32
  let labels ← safeValues (payload.get "labels") "labels" labelRe 32
  let policyRevision ← orRaise (intFrom 1 (payload.get "policy_revision"))
    (invalid "policy_revision 无效")
  let selfCheck ← orRaise (payload.get "self_check").asDict? (invalid "self_check 无效")
  ensure (selfCheck.keysWithin ["ok", "checks", "error_code"]) (invalid "self_check 无效")
  let ok ← orRaise (selfCheck.get "ok").asBool? (invalid "self_check.ok 无效")
  let items ← orRaise (if selfCheck.has "checks" then (selfCheck.get "checks").asList? else some [])
    (invalid "self_check.checks 无效")
  ensure (items.length ≤ 32) (invalid "self_check.checks 无效")
  let checks ← orRaise (stringsMatching labelRe items) (invalid "self_check.checks 无效")
  return ⟨token, runnerId, agentVersion, codexVersion, payload.get "os", payload.get "arch",
    capabilities, projects, labels, policyRevision, ok, sortedDistinct checks,
    selfCheck.get "error_code"⟩

/-- The validated arguments of an administrative call. -/
structure AdminRequest where
  runnerId : String
  revision : ℕ
  requestId : String
  bodyDigest : String

/-- The identifiers of an administrative call. -/
def adminRequest (runnerId : Json) (payload : Dict) : Except Raise AdminRequest := do
  let runnerId ← runnerIdOf runnerId
  let revision ← revisionOf (payload.get "revision")
  let requestId ← requestIdOf (payload.get "request_id")
  return ⟨runnerId, revision, requestId, digest (.obj payload)⟩

/-- An administrative call whose payload is exactly `revision` and `request_id` (lines 646–651,
    698–703, 798–803). -/
def plainAdminRequest (runnerId : Json) (payload : Dict) (message : String) :
    Except Raise AdminRequest := do
  ensure (payload.keysAre ["revision", "request_id"]) (invalid message)
  adminRequest runnerId payload

/-- `update_runner`, lines 571–577. -/
def updateRequest (runnerId : Json) (payload : Dict) : Except Raise AdminRequest := do
  ensure (payload.keysWithin ["admin_state", "display_name", "labels", "allowed_projects",
      "revision", "request_id"] ∧ payload.hasAll ["revision", "request_id"])
    (invalid "Runner 更新字段无效")
  adminRequest runnerId payload

/-- `resolve_task_recovery`, lines 1712–1719: the request and the task it names. -/
def recoveryRequest (runnerId : Json) (payload : Dict) : Except Raise (AdminRequest × String) := do
  ensure (payload.keysAre ["task_id", "resolution", "revision", "request_id"] ∧
    (payload.get "resolution").eqStr "confirmed_failed") (invalid "Runner recovery 解决字段无效")
  let runner ← runnerIdOf runnerId
  let taskId ← taskIdOf (payload.get "task_id")
  let revision ← revisionOf (payload.get "revision")
  let requestId ← requestIdOf (payload.get "request_id")
  return (⟨runner, revision, requestId, digest (.obj payload)⟩, taskId)

/-! ## Commands -/

/-- `StoreError("runner_command_invalid", message)`. -/
def commandInvalid (message : String) : Raise := raising "runner_command_invalid" message 400

/-- The validated payload of `create_work_task`. -/
structure StartRequest where
  requestId : String
  principalHash : String
  project : String
  instruction : String
  bodyDigest : String

/-- `create_work_task`, lines 1096–1110. -/
def startRequest (payload : Dict) : Except Raise StartRequest := do
  ensure (payload.keysAre ["version", "request_id", "operation", "source", "project_alias",
      "instruction"] ∧ (payload.get "version").eqInt 2 ∧ (payload.get "operation").eqStr "start")
    (commandInvalid "Runner Manager start 请求无效")
  let requestId ← requestIdOf (payload.get "request_id")
  let source ← orRaise (payload.get "source").asDict? (commandInvalid "Runner Manager source 无效")
  ensure (source.keysAre ["channel", "principal_hash", "role"] ∧
    (source.get "channel").eqStr "weixin" ∧ (source.get "role").eqStr "owner")
    (commandInvalid "Runner Manager source 无效")
  let principalHash ← orRaise ((source.get "principal_hash").asStr?.filter sha256Re)
    (commandInvalid "Runner Manager principal 无效")
  let project ← orRaise ((payload.get "project_alias").asStr?.filter projectRe)
    (commandInvalid "Runner Manager project 无效")
  let instruction ← boundedText (payload.get "instruction") "instruction" 12000
  return ⟨requestId, principalHash, project, instruction, digest (.obj payload)⟩

/-- The operations of `command_task`. -/
inductive Operation where
  | status | cancel | continue
  deriving DecidableEq

def Operation.text : Operation → String
  | .status => "status"
  | .cancel => "cancel"
  | .continue => "continue"

/-- The keys `command_task` expects for an operation (lines 1145–1149). -/
def Operation.keys : Operation → List String
  | .status => ["version", "request_id", "operation", "source", "task_id"]
  | .cancel => ["version", "request_id", "operation", "source", "task_id"]
  | .continue => ["version", "request_id", "operation", "source", "task_id", "instruction"]

/-- The validated payload of `command_task`; the instruction of a `continue` is checked later. -/
structure CommandRequest where
  operation : Operation
  requestId : String
  taskId : String
  principalHash : String
  instruction : Json
  bodyDigest : String

/-- `command_task`, lines 1144–1158. -/
def commandRequest (payload : Dict) : Except Raise CommandRequest := do
  let value := payload.get "operation"
  ensure value.hashable .type
  let operation ← orRaise
    ([Operation.status, .cancel, .continue].find? fun o => value.eqStr o.text)
    (commandInvalid "Runner Manager 命令无效")
  ensure (payload.keysAre operation.keys ∧ (payload.get "version").eqInt 2)
    (commandInvalid "Runner Manager 命令无效")
  let requestId ← requestIdOf (payload.get "request_id")
  let taskId ← taskIdOf (payload.get "task_id")
  let source ← orRaise (payload.get "source").asDict? (commandInvalid "Runner Manager source 无效")
  ensure ((source.get "channel").eqStr "weixin" ∧ (source.get "role").eqStr "owner")
    (commandInvalid "Runner Manager source 无效")
  let principalHash ← orRaise ((source.get "principal_hash").asStr?.filter sha256Re)
    (commandInvalid "Runner Manager source 无效")
  return ⟨operation, requestId, taskId, principalHash, payload.get "instruction",
    digest (.obj payload)⟩

/-! ## Messages of a Runner -/

/-- The validated payload of `heartbeat`; the fields of type `Json` are only compared. -/
structure HeartbeatMessage where
  runnerId : String
  taskId : Option String
  assignmentEpoch : Json
  sequence : ℕ
  bodyDigest : String
  online : Bool
  agentVersion : Json
  codexVersion : Json
  os : String
  arch : String
  labels : List String
  projects : List String
  capabilities : List String
  workState : WorkState
  activeLeaseId : Json
  selfCheck : String
  policyRevision : Json
  errorCode : Option String

/-- `heartbeat` before the credential is verified (lines 930–963). -/
def heartbeatEnvelope (env : Env) (payload : Dict) : Except Raise String := do
  let required := ["version", "message_type", "runner_id", "task_id", "assignment_epoch",
    "sequence", "created_at", "expires_at", "body_digest", "online", "protocol_version",
    "agent_version", "codex_version", "os", "arch", "labels", "allowed_projects", "capabilities",
    "queue_depth", "work_state", "active_lease_id", "self_check", "policy_revision", "updated_at"]
  ensure (payload.hasAll required ∧ payload.keysWithin (required ++ ["error_code"]))
    (invalid "Runner heartbeat 字段无效")
  validateEnvelope env payload "heartbeat" true
  let _ ← messageTime (payload.get "updated_at") (invalid "Runner heartbeat updated_at 无效")
  runnerIdOf (payload.get "runner_id")

/-- `heartbeat` after the credential is verified (lines 966–988). -/
def heartbeatMessage (payload : Dict) (runnerId : String) : Except Raise HeartbeatMessage := do
  let sequence ← orRaise (intFrom 1 (payload.get "sequence"))
    (raising "runner_sequence_invalid" "Runner sequence 无效" 400)
  ensure ((payload.get "protocol_version").eqInt 2) (invalid "Runner heartbeat 状态无效")
  let work ← oneOf (payload.get "work_state") ["idle", "busy", "recovery_required", "error"]
    (invalid "Runner heartbeat 状态无效")
  let workState ← orRaise (WorkState.ofText? work) (invalid "Runner heartbeat 状态无效")
  let os ← oneOf (payload.get "os") ["macos", "linux"] (invalid "Runner heartbeat 平台无效")
  let arch ← oneOf (payload.get "arch") ["amd64", "aarch64"] (invalid "Runner heartbeat 平台无效")
  let online ← orRaise (payload.get "online").asBool? (invalid "Runner online 状态无效")
  let _ ← orRaise (intFrom 0 (payload.get "queue_depth")) (invalid "Runner queue_depth 无效")
  let capabilities ← capabilitiesOf (payload.get "capabilities")
  let projects ← safeValues (payload.get "allowed_projects") "allowed_projects" projectRe 64
  let labels ← safeValues (payload.get "labels") "labels" labelRe 32
  let selfCheck ← oneOf (payload.get "self_check") ["ok", "warning", "error"]
    (invalid "heartbeat self_check 无效")
  let errorCode ← optionalMatch (payload.get "error_code") safeIdRe
    (invalid "heartbeat error_code 无效")
  return ⟨runnerId, (payload.get "task_id").asStr?, payload.get "assignment_epoch", sequence,
    (payload.get "body_digest").asStr?.getD "", online, payload.get "agent_version",
    payload.get "codex_version", os, arch, labels, projects, capabilities, workState,
    payload.get "active_lease_id", selfCheck, payload.get "policy_revision", errorCode⟩

/-- What `_record_message` and `_locked_assignment` read of a status or a result. -/
structure MessageHead where
  runnerId : String
  taskId : String
  assignmentEpoch : ℕ
  sequence : ℕ
  sequence_pos : 1 ≤ sequence
  leaseId : Json
  bodyDigest : String

/-- The fields of the head, once `_validate_envelope` has accepted the message. -/
def messageHead (payload : Dict) : Except Raise MessageHead := do
  let runnerId ← runnerIdOf (payload.get "runner_id")
  let taskId ← taskIdOf (payload.get "task_id")
  let epoch ← orRaise (intFrom 1 (payload.get "assignment_epoch"))
    (raising "runner_sequence_invalid" "Runner epoch/sequence 无效" 400)
  let sequence ← orRaise (intFrom 1 (payload.get "sequence"))
    (raising "runner_sequence_invalid" "Runner epoch/sequence 无效" 400)
  let bodyDigest ← orRaise ((payload.get "body_digest").asStr?.filter sha256Re)
    (raising "runner_digest_invalid" "Runner body digest 无效" 400)
  return ⟨runnerId, taskId, epoch, sequence.1, sequence.2, payload.get "lease_id", bodyDigest⟩

/-- The validated payload of `record_status`. -/
structure StatusMessage where
  head : MessageHead
  state : TaskState
  state_mem : state ∈ statusStates
  stage : String
  candidateId : Option String
  errorCode : Option String
  actionRequired : Option String

/-- `record_status` before the credential is verified (lines 1468–1493). -/
def statusEnvelope (env : Env) (payload : Dict) : Except Raise String := do
  let required := ["version", "message_type", "runner_id", "task_id", "assignment_epoch",
    "sequence", "created_at", "expires_at", "body_digest", "lease_id", "state", "stage",
    "updated_at"]
  ensure (payload.hasAll required ∧ payload.keysWithin (required ++
    ["queue_position", "candidate_id", "error_code", "action_required"]))
    (invalid "Runner status 字段无效")
  let _ ← oneOf (payload.get "state") (statusStates.map TaskState.text)
    (invalid "Runner status 字段无效")
  validateEnvelope env payload "status" false
  let _ ← messageTime (payload.get "updated_at") (invalid "Runner status updated_at 无效")
  let runnerId ← runnerIdOf (payload.get "runner_id")
  let _ ← taskIdOf (payload.get "task_id")
  return runnerId

/-- `record_status` after the credential is verified (lines 1494–1508). -/
def statusMessage (payload : Dict) : Except Raise StatusMessage := do
  let stage ← oneOf (payload.get "stage") ["waiting_runner", "preflight", "queued", "workspace",
    "codex", "verify", "git", "handoff", "recovery"] (invalid "Runner status stage 无效")
  let candidateId ← optionalMatch (payload.get "candidate_id") sha256Re
    (invalid "Runner status candidate_id 无效")
  let errorCode ← optionalMatch (payload.get "error_code") safeIdRe
    (invalid "Runner status error_code 无效")
  let actionRequired ← if (payload.get "action_required").isNull then pure none
    else do
      let action ← oneOf (payload.get "action_required")
        ["clarification", "production_confirmation", "recovery_review"]
        (invalid "Runner status action_required 无效")
      pure (some action)
  ensure ((payload.get "queue_position").isNull ∨ (intFrom 0 (payload.get "queue_position")).isSome)
    (invalid "Runner status queue_position 无效")
  let state ← orRaise ((payload.get "state").asStr?.bind (TaskState.ofText? statusStates))
    (invalid "Runner status 字段无效")
  let head ← messageHead payload
  return ⟨head, state.1, state.2, stage, candidateId, errorCode, actionRequired⟩

/-- The validated payload of `record_result`. -/
structure ResultMessage where
  head : MessageHead
  state : TaskState
  state_mem : state ∈ resultStates
  summary : String
  testSummary : Option String
  candidateId : String
  resultHash : String
  changedPathCount : ℕ
  nextActions : List String
  commits : List String
  branch : Option String
  errorCode : Option String

/-- `record_result` between the late-result check and the credential (lines 1542–1571). -/
def resultEnvelope (env : Env) (payload : Dict) : Except Raise String := do
  let required := ["version", "message_type", "runner_id", "task_id", "assignment_epoch",
    "sequence", "created_at", "expires_at", "body_digest", "lease_id", "state", "finished_at",
    "summary", "commits", "changed_path_count", "next_actions", "candidate_id", "result_hash"]
  ensure (payload.hasAll required ∧
    payload.keysWithin (required ++ ["branch", "test_summary", "error_code"]))
    (invalid "Runner result 字段无效")
  let _ ← oneOf (payload.get "state") (resultStates.map TaskState.text)
    (invalid "Runner result 字段无效")
  validateEnvelope env payload "result" false
  let _ ← messageTime (payload.get "finished_at") (invalid "Runner result finished_at 无效")
  let runnerId ← runnerIdOf (payload.get "runner_id")
  let _ ← taskIdOf (payload.get "task_id")
  return runnerId

/-- `record_result` after the credential is verified (lines 1573–1600). -/
def resultMessage (payload : Dict) : Except Raise ResultMessage := do
  let summary ← boundedText (payload.get "summary") "summary" 6000
  let testSummary ← optionalText (payload.get "test_summary") "test_summary" 3000
  let candidateId ← orRaise ((payload.get "candidate_id").asStr?.filter sha256Re)
    (invalid "candidate_id 无效")
  let identity := digest (.obj ((payload.without "body_digest").without "result_hash"))
  ensure ((payload.get "result_hash").eqStr identity)
    (raising "runner_digest_invalid" "result_hash 无效" 400)
  let changed ← orRaise ((intFrom 0 (payload.get "changed_path_count")).filter (·.1 ≤ 100000))
    (invalid "changed_path_count 无效")
  let actionItems ← orRaise ((payload.get "next_actions").asList?.filter (·.length ≤ 16))
    (invalid "next_actions 无效")
  let actions ← orRaise (stringsMatching (fun a => a ≠ "" ∧ a.length ≤ 500) actionItems)
    (invalid "next_actions 无效")
  let commitItems ← orRaise ((payload.get "commits").asList?.filter (·.length ≤ 32))
    (invalid "commits 无效")
  ensure (commitItems.all Json.hashable) .type
  let commits ← orRaise ((stringsMatching commitRe commitItems).filter fun c => c.Nodup)
    (invalid "commits 无效")
  let branch ← optionalMatch (payload.get "branch") branchRe (invalid "branch 无效")
  let errorCode ← optionalMatch (payload.get "error_code") safeIdRe (invalid "error_code 无效")
  let state ← orRaise ((payload.get "state").asStr?.bind (TaskState.ofText? resultStates))
    (invalid "Runner result 字段无效")
  let head ← messageHead payload
  return ⟨head, state.1, state.2, summary, testSummary, candidateId, identity, changed, actions,
    commits.insertionSort (· ≤ ·), branch, errorCode⟩

end HomeAddons.Runner
