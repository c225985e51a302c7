import HomeAddons.Controller.Store

/-!
# Codex Controller: the calls on a job

`validate_job` and the calls of `ControllerStore` that write a row of `jobs`
(`store.py` 326–424, 638–953 and 1130–1214), and the step of a store that takes one of them.
-/

namespace HomeAddons.Controller

open HomeAddons.Common

/-! ## `validate_job` -/

/-- `bool(v)`. -/
def truthy : Json → Bool
  | .null => false
  | .bool b => b
  | .int n => n ≠ 0
  | .float value _ => value ≠ some 0
  | .str s => s ≠ ""
  | .arr items => !items.isEmpty
  | .obj items => !items.isEmpty

/-- `str(v)`. -/
def strOf (cfg : Settings) : Json → String
  | .null => "None"
  | .bool b => if b then "True" else "False"
  | .int n => toString n
  | .float _ "NaN" => "nan"
  | .float _ "Infinity" => "inf"
  | .float _ "-Infinity" => "-inf"
  | .float _ text => text
  | .str s => s
  | v => cfg.repr v

/-- `isinstance(v, int)`, which a `bool` is as well. -/
def asIntegral? : Json → Option ℤ
  | .int n => some n
  | .bool b => some (if b then 1 else 0)
  | _ => none

/-- `re.fullmatch(r"sha256:[a-f0-9]{64}", s)`, which `CONVERSATION_RE` asks for as well. -/
def isSha256Ref (s : String) : Bool :=
  "sha256:".toList.isPrefixOf s.toList && (s.toList.drop 7).length = 64 &&
    (s.toList.drop 7).all isLowerHex

/-- `isinstance(v, str)` and the guard on it. -/
def textWhere (v : Json) (p : String → Bool) (e : Raise) : Except Raise String :=
  orRaise (v.asStr?.filter p) e

/-- `raise StoreError("invalid_job", message)`. -/
def invalidJob (message : String) : Raise := rejecting "invalid_job" message

/-- `v not in names`, which raises on an unhashable `v`. -/
def ensureIn (v : Json) (names : List String) (e : Raise) : Except Raise Unit :=
  match v.inStrings names with
  | none => .error .type
  | some b => ensure (b = true) e

/-- One round of the loop over the attachments (lines 348–372). -/
def validateAttachment (cfg : Settings) (v : Json) : Except Raise AttachmentInput := do
  let attachment ← orRaise v.asDict? (invalidJob "附件元数据无效")
  let reference ← textWhere (attachment.get "attachment_ref")
    (fun s => 16 ≤ s.length ∧ s.length ≤ 256) (invalidJob "attachment_ref 无效")
  ensureIn (attachment.get "media_type") ["image", "file", "video", "audio"]
    (invalidJob "media_type 无效")
  let mediaType ← orRaise (attachment.get "media_type").asStr? (invalidJob "media_type 无效")
  let size := attachment.get "size_bytes"
  ensure ((asIntegral? size).any (fun n => 1 ≤ n ∧ n ≤ 50 * 1024 * 1024) = true)
    (invalidJob "附件大小无效")
  let digest ← textWhere (attachment.get "sha256") isSha256Ref (invalidJob "附件摘要无效")
  let name := attachment.get "display_name"
  return ⟨reference, mediaType, size, digest,
    if truthy name then some ((strOf cfg name).take 255).toString else none⟩

/-- `set(reply_capabilities).issubset({…})` and `sorted(set(reply_capabilities))`. -/
def validateCapabilities (v : Json) : Except Raise (List String) := do
  let items ← orRaise v.asList? (invalidJob "reply_capabilities 无效")
  ensure (items.all Json.hashable = true) .type
  ensure (items.all (fun c => ["text", "image", "file"].any c.eqStr) = true)
    (invalidJob "reply_capabilities 无效")
  return ["file", "image", "text"].filter fun c => items.any fun v => v.eqStr c

/-- The capability profile of a payload; `owner_legacy` is only what its absence means. -/
def validateProfile (payload : Dict) : Except Raise CapabilityProfile :=
  if payload.has "capability_profile" then do
    let v := payload.get "capability_profile"
    ensureIn v ["owner", "member_read_only"]
      (rejecting "invalid_capability_profile" "作业能力画像无效")
    return if v.eqStr "owner" then .owner else .memberReadOnly
  else .ok .ownerLegacy

/-- `validate_job(payload)` (lines 326–385). -/
def validateJob (cfg : Settings) (payload : Json) : Except Raise JobInput := do
  let d ← orRaise (payload.asDict?.filter fun d => (d.get "version").eqInt 1)
    (invalidJob "作业版本无效")
  let messageId ← textWhere (d.get "message_id") (fun s => 1 ≤ s.length ∧ s.length ≤ 256)
    (invalidJob "message_id 无效")
  let conversationKey ← textWhere (d.get "conversation_key") isSha256Ref
    (invalidJob "conversation_key 无效")
  let receivedAt ← textWhere (d.get "received_at") (fun s => s.length ≤ 64)
    (invalidJob "received_at 无效")
  let text ← textWhere (d.get "text") (fun s => s.length ≤ 32000) (invalidJob "text 无效")
  let attachments ← orRaise ((d.get "attachments").asList?.filter fun l => l.length ≤ 16)
    (invalidJob "attachments 无效")
  let attachments ← attachments.mapM (validateAttachment cfg)
  let replyCapabilities ← validateCapabilities (d.get "reply_capabilities")
  let capabilityProfile ← validateProfile d
  return ⟨messageId, conversationKey, receivedAt, text, attachments, replyCapabilities,
    capabilityProfile⟩

/-- The normalized attachment. -/
def AttachmentInput.json (a : AttachmentInput) : Json := .obj (
  [("attachment_ref", .str a.attachmentRef), ("media_type", .str a.mediaType),
    ("size_bytes", a.sizeBytes), ("sha256", .str a.sha256)] ++
  (a.displayName.map fun name => ("display_name", Json.str name)).toList)

/-- The normalized job. -/
def JobInput.json (input : JobInput) : Json := .obj [
  ("version", .int 1), ("message_id", .str input.messageId),
  ("conversation_key", .str input.conversationKey), ("received_at", .str input.receivedAt),
  ("text", .str input.text), ("attachments", .arr (input.attachments.map AttachmentInput.json)),
  ("reply_capabilities", .arr (input.replyCapabilities.map Json.str)),
  ("capability_profile", .str input.capabilityProfile.text)]

/-- `hashlib.sha256(canonical_json(normalized).encode("utf-8")).hexdigest()`. -/
def JobInput.digest (input : JobInput) : String := sha256Hex (canonical input.json)

/-! ## Rows and arguments of the calls -/

/-- The row that `create_job` inserts. -/
def newJob (input : JobInput) (jobId now : String) : Job where
  jobId := jobId
  messageId := input.messageId
  conversationKey := input.conversationKey
  threadId := none
  turnId := none
  state := .queued
  inputDigest := input.digest
  input := input
  resultText := none
  resultSummary := none
  errorCode := none
  errorType := none
  upstreamHttpStatus := none
  retryable := false
  outputObserved := false
  toolActivityObserved := false
  artifactObserved := false
  retryNotBefore := none
  attempt := 0
  capabilityProfile := input.capabilityProfile
  createdAt := now
  startedAt := none
  finishedAt := none

/-- `ORDER BY created_at, job_id`. -/
def comesBefore (a b : Job) : Bool :=
  a.createdAt < b.createdAt || (a.createdAt = b.createdAt && a.jobId ≤ b.jobId)

/-- The first of two rows of that order. -/
def earlier (best : Option Job) (j : Job) : Option Job :=
  match best with
  | none => some j
  | some b => if comesBefore b j then some b else some j

/-- The `UPDATE` of `claim_next`. -/
def claimed (now : String) (j : Job) : Job := { j with
  state := .running
  startedAt := some now
  finishedAt := none
  attempt := j.attempt + 1
  errorCode := none
  errorType := none
  upstreamHttpStatus := none
  retryable := false
  outputObserved := false
  toolActivityObserved := false
  artifactObserved := false
  retryNotBefore := none }

/-- What a notification says was seen of a turn. -/
structure Observations where
  output : Bool
  toolActivity : Bool
  artifact : Bool

/-- `re.fullmatch(r"[a-z0-9_]{1,64}", s)`. -/
def isErrorName (s : String) : Bool :=
  1 ≤ s.length ∧ s.length ≤ 64 ∧
    s.toList.all fun c => ('a' ≤ c ∧ c ≤ 'z') ∨ ('0' ≤ c ∧ c ≤ '9') ∨ c = '_'

/-- A status of HTTP, or nothing. -/
def httpStatus (status : Option ℤ) : Option ℤ := status.filter fun n => 100 ≤ n ∧ n ≤ 599

/-- The arguments of `complete_turn` beside the turn; the default of `max_attempts` is 3. -/
structure Completion where
  status : String
  errorCode : Option String
  errorType : Option String
  upstreamHttpStatus : Option ℤ
  retryable : Option Bool
  retryDelaySeconds : Option ℚ
  maxAttempts : ℤ
  observed : Observations

/-- `"completed" if … else "cancelled" if … else "failed"`. -/
def Completion.state (c : Completion) : JobState :=
  if c.status = "completed" then .completed
  else if c.status = "interrupted" then .cancelled
  else .failed

/-- `value or default` for a text that may be missing. -/
def orDefault (value : Option String) (default : Option String) : Option String :=
  match value.filter (· ≠ "") with
  | some v => some v
  | none => default

/-- `safe_type`. -/
def Completion.safeType (c : Completion) (j : Job) : Option String :=
  match c.errorType.filter isErrorName with
  | some t => some t
  | none => orDefault j.errorType (some "unknown")

/-- `safe_code`. -/
def Completion.safeCode (c : Completion) (j : Job) : Option String :=
  match c.errorCode.filter isErrorName with
  | some e => some e
  | none => orDefault j.errorCode (if c.state = .failed then some "turn_failed" else none)

/-- `safe_status`. -/
def Completion.safeStatus (c : Completion) (j : Job) : Option ℤ :=
  match httpStatus c.upstreamHttpStatus with
  | some n => some n
  | none => j.upstreamHttpStatus

/-- The flags of the row and the arguments together. -/
def Completion.effective (c : Completion) (j : Job) : Observations where
  output := j.outputObserved || c.observed.output
  toolActivity := j.toolActivityObserved || c.observed.toolActivity
  artifact := j.artifactObserved || c.observed.artifact

/-- The `UPDATE` that puts a job back into the queue. -/
def requeued (c : Completion) (notBefore : String) (j : Job) : Job := { j with
  state := .queued
  turnId := none
  startedAt := none
  finishedAt := none
  resultText := none
  resultSummary := none
  errorCode := c.safeCode j
  errorType := c.safeType j
  upstreamHttpStatus := c.safeStatus j
  retryable := true
  outputObserved := false
  toolActivityObserved := false
  artifactObserved := false
  retryNotBefore := some notBefore }

/-- The `UPDATE` that ends a job. -/
def ended (c : Completion) (hasArtifact : Bool) (now : String) (j : Job) : Job :=
  let seen := c.effective j
  let failed : Bool := c.state = .failed
  { j with
    state := c.state
    errorCode := if failed then c.safeCode j else c.errorCode
    errorType := if failed then c.safeType j else none
    upstreamHttpStatus := if failed then c.safeStatus j else none
    retryable := failed && c.retryable.getD j.retryable
    outputObserved := seen.output
    toolActivityObserved := seen.toolActivity
    artifactObserved := seen.artifact || hasArtifact
    retryNotBefore := none
    finishedAt := some now }

/-- `RECOVERY_RESOLUTIONS`. -/
def recoveryResolution (resolution : String) : Option (JobState × Option String) :=
  if resolution = "confirmed_completed" then some (.completed, none)
  else if resolution = "confirmed_failed" then some (.failed, some "recovery_review_failed")
  else if resolution = "cancelled" then some (.cancelled, some "recovery_review_cancelled")
  else none

/-- `raise StoreError("job_state_conflict", message, status=409)`. -/
def jobStateConflict (message : String) : Raise := raising "job_state_conflict" message 409

namespace ControllerStore

variable (cfg : Settings) (s : ControllerStore)

/-! ## Queueing and claiming -/

/-- `create_job(payload)` (lines 387–424); `jobId` is `str(uuid.uuid4())`. -/
def createJob (payload : Json) (jobId now : String) : Except Raise (ControllerStore × Job) := do
  let input ← validateJob cfg payload
  match s.jobs.rows.find? fun j => j.messageId = input.messageId with
  | some existing =>
    ensure (existing.inputDigest = input.digest)
      (raising "idempotency_conflict" "同一 message_id 对应不同请求" 409)
    return (s, existing)
  | none =>
    ensure ((s.jobsWhere fun j => j.state.active).length < cfg.maxQueue)
      (raising "queue_full" "任务队列已满" 429)
    let conversations := (s.conversations.insert? ⟨input.conversationKey, none, now, now⟩).getD
      s.conversations
    let jobs ← orRaise (s.jobs.insert? (newJob input jobId now)) .integrity
    return ({ s with conversations := conversations, jobs := jobs }, newJob input jobId now)

/-- `SELECT * FROM jobs WHERE state = 'queued' ORDER BY created_at, job_id LIMIT 1`. -/
def nextQueued : Option Job :=
  (s.jobsWhere fun j => j.state = .queued).foldl earlier none

/-- `claim_next()` (lines 638–661). -/
def claimNext (clock : Clock) : ControllerStore × Option Job :=
  if s.jobs.rows.any fun j => j.state.occupies then (s, none)
  else match s.nextQueued with
    | none => (s, none)
    | some j =>
      if j.retryNotBefore.any fun t => clock.shanghaiNow < t then (s, none)
      else (s.updateJob j.jobId (claimed clock.utcNow), some (claimed clock.utcNow j))

/-! ## A running job -/

/-- `UPDATE conversations SET thread_id=? WHERE conversation_key=?`, with the unique index of the
    threads. -/
def setConversationThread (conversationKey threadId now : String) :
    Except Raise ControllerStore := do
  ensure (¬ ∃ c ∈ s.conversations.rows,
    c.threadId = some threadId ∧ c.conversationKey ≠ conversationKey) .integrity
  return { s with conversations := s.conversations.update conversationKey fun c =>
    { c with threadId := some threadId, updatedAt := now } }

/-- `assign_thread(job_id, thread_id)` (lines 663–676). -/
def assignThread (jobId threadId now : String) : Except Raise ControllerStore := do
  ensure (threadId ≠ "") (raising "thread_unavailable" "Thread ID 为空" 502)
  let j ← orRaise (s.runningJob jobId) (jobStateConflict "作业不在运行状态")
  let s ← s.setConversationThread j.conversationKey threadId now
  return s.updateJob jobId fun j => { j with threadId := some threadId }

/-- `complete_new_thread(job_id, thread_id, result_text)` (lines 678–708). -/
def completeNewThread (jobId threadId resultText now : String) : Except Raise ControllerStore := do
  ensure (threadId ≠ "") (raising "thread_unavailable" "Thread ID 为空" 502)
  let j ← orRaise (s.runningJob jobId) (jobStateConflict "作业不在运行状态")
  let s ← s.setConversationThread j.conversationKey threadId now
  return s.updateJob jobId fun j => { j with
    threadId := some threadId
    state := .completed
    resultText := some (resultText.take cfg.maxResultChars).toString
    errorCode := none
    finishedAt := some now }

/-- `complete_direct_result(job_id, result_text, …)` (lines 710–737). -/
def completeDirectResult (jobId resultText now : String) : Except Raise ControllerStore := do
  let _ ← orRaise (s.runningJob jobId) (jobStateConflict "作业不在运行状态")
  return s.updateJob jobId fun j => { j with
    state := .completed
    resultText := some (resultText.take cfg.maxResultChars).toString
    errorCode := none
    finishedAt := some now }

/-- `assign_turn(job_id, turn_id)` (lines 755–766), with the unique index of the turns. -/
def assignTurn (jobId turnId : String) : Except Raise ControllerStore := do
  ensure (turnId ≠ "") (raising "turn_state_unknown" "Turn ID 为空" 502)
  let _ ← orRaise (s.runningJob jobId) (jobStateConflict "无法绑定 Turn")
  ensure (¬ ∃ j ∈ s.jobs.rows, j.turnId = some turnId ∧ j.jobId ≠ jobId) .integrity
  return s.updateJob jobId fun j => { j with turnId := some turnId }

/-! ## A running turn -/

/-- `set_result_text(turn_id, text)` (lines 768–780). -/
def setResultText (turnId text : String) : ControllerStore × Bool :=
  match s.runningTurn turnId with
  | none => (s, false)
  | some j => (s.updateJob j.jobId fun j => { j with
      resultText := some (text.take cfg.maxResultChars).toString
      outputObserved := true }, true)

/-- `observe_turn_activity(turn_id, …)` (lines 782–816). -/
def observeTurnActivity (turnId : String) (o : Observations) : ControllerStore × Bool :=
  match s.runningTurn turnId with
  | none => (s, false)
  | some j => (s.updateJob j.jobId fun j => { j with
      outputObserved := j.outputObserved || o.output
      toolActivityObserved := j.toolActivityObserved || o.toolActivity
      artifactObserved := j.artifactObserved || o.artifact }, true)

/-- `observe_turn_error(turn_id, …)` (lines 818–855). -/
def observeTurnError (turnId errorType errorCode : String) (upstreamHttpStatus : Option ℤ)
    (retryable : Bool) : ControllerStore × Bool :=
  match s.runningTurn turnId with
  | none => (s, false)
  | some j => (s.updateJob j.jobId fun j => { j with
      errorType := some (if isErrorName errorType then errorType else "unknown")
      errorCode := some (if isErrorName errorCode then errorCode else "turn_failed")
      upstreamHttpStatus := httpStatus upstreamHttpStatus
      retryable := retryable }, true)

/-- `can_retry` (lines 898–907). -/
def canRetry (c : Completion) (j : Job) : Bool :=
  let seen := c.effective j
  c.state = .failed && c.retryDelaySeconds.isSome && c.retryable.getD j.retryable &&
    j.attempt < max 1 c.maxAttempts && !seen.output && !seen.toolActivity && !seen.artifact &&
    !s.hasArtifact j.jobId

/-- `complete_turn(turn_id, turn_status, …)` (lines 857–953). -/
def completeTurn (turnId : String) (c : Completion) (clock : Clock) :
    Except Raise (ControllerStore × Bool) :=
  match s.runningTurn turnId with
  | none => .ok (s, false)
  | some j =>
    if s.canRetry c j then do
      let notBefore ← orRaise (c.retryDelaySeconds.bind clock.shanghaiAfter) .overflow
      return (s.updateJob j.jobId (requeued c notBefore), true)
    else .ok (s.updateJob j.jobId (ended c (s.hasArtifact j.jobId) clock.utcNow), true)

/-! ## Failure and recovery -/

/-- `fail_claimed(job_id, error_code, uncertain=…)` (lines 1130–1138); the event it writes refers to
    the job. -/
def failClaimed (jobId errorCode : String) (uncertain : Bool) (now : String) :
    Except Raise ControllerStore := do
  ensure ((s.jobs.get? jobId).isSome = true) .integrity
  match s.runningJob jobId with
  | none => return s
  | some _ => return s.updateJob jobId fun j => { j with
      state := if uncertain then .recoveryRequired else .failed
      errorCode := some errorCode
      finishedAt := some now }

/-- `retry_overloaded(job_id, …)` (lines 1140–1166). -/
def retryOverloaded (jobId : String) (maxAttempts : ℤ) (retryDelaySeconds : ℚ) (clock : Clock) :
    Except Raise (ControllerStore × Bool) :=
  match (s.runningJob jobId).filter fun j => (j.attempt : ℤ) < maxAttempts with
  | none => .ok (s, false)
  | some _ => do
    let notBefore ← orRaise (clock.shanghaiAfter retryDelaySeconds) .overflow
    return (s.updateJob jobId fun j => { j with
      state := .queued
      turnId := none
      startedAt := none
      finishedAt := none
      errorCode := some "app_server_overloaded"
      errorType := some "server_overloaded"
      retryable := true
      retryNotBefore := some notBefore }, true)

/-- `recover_running()` (lines 1168–1177). -/
def recoverRunning (now : String) : ControllerStore :=
  { s with jobs := s.jobs.updateWhere (fun j => j.state = .running) fun j => { j with
      state := .recoveryRequired
      errorCode := some "turn_state_unknown"
      finishedAt := some now } }

/-- `resolve_recovery(job_id, resolution)` (lines 1179–1203). -/
def resolveRecovery (jobId resolution now : String) : Except Raise ControllerStore := do
  let (state, errorCode) ← orRaise (recoveryResolution resolution)
    (rejecting "invalid_recovery_resolution" "恢复核对结论无效")
  let j ← orRaise (s.jobs.get? jobId) (raising "job_not_found" "作业不存在" 404)
  ensure (j.state = .recoveryRequired) (jobStateConflict "作业不在恢复核对状态")
  return s.updateJob jobId fun j => { j with
    state := state, errorCode := errorCode, finishedAt := some now }

/-- `cancel_queued(job_id)` (lines 1205–1214). -/
def cancelQueued (jobId now : String) : ControllerStore × Bool :=
  match (s.jobs.get? jobId).filter fun j => j.state = .queued with
  | none => (s, false)
  | some _ => (s.updateJob jobId fun j => { j with
      state := .cancelled, finishedAt := some now }, true)

end ControllerStore

end HomeAddons.Controller
