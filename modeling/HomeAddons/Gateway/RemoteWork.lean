import HomeAddons.Common.IsoTime
import HomeAddons.Common.Run
import HomeAddons.Gateway.Store

/-!
# Weixin Gateway: Remote Work over MQTT

The Mac agent reports on a task by status and result documents. The Gateway checks a document
(`remote_work.py`), records it as an event and lets the task follow it (`store.py`,
`record_remote_work_event`); a result has a reply queued.

* `validateIncomingDocument`, `recordRemoteWorkEvent` and the calls around them.
* `WorkEvent`: a status or result document that passes the check.
* `taskEvent_cases`: what recording an event can do.
-/

namespace HomeAddons.Gateway.RemoteWork

open HomeAddons.Common

/-! ## Topics and states -/

/-- The topics the Gateway subscribes to. -/
inductive Topic where
  | status
  | result
  | agent
  deriving DecidableEq, Repr

def Topic.text : Topic → String
  | .status => "home/codex-work/v1/status"
  | .result => "home/codex-work/v1/result"
  | .agent => "home/codex-work/v1/agent"

def Topic.ofText? (text : String) : Option Topic :=
  [Topic.status, .result, .agent].find? fun t => t.text = text

/-- `TASK_STATES`. -/
inductive WorkState where
  | waitingMac
  | queued
  | running
  | awaitingConfirmation
  | completed
  | failed
  | cancelled
  | expired
  | recoveryRequired
  deriving DecidableEq, Repr

def WorkState.text : WorkState → String
  | .waitingMac => "waiting_mac"
  | .queued => "queued"
  | .running => "running"
  | .awaitingConfirmation => "awaiting_confirmation"
  | .completed => "completed"
  | .failed => "failed"
  | .cancelled => "cancelled"
  | .expired => "expired"
  | .recoveryRequired => "recovery_required"

def WorkState.all : List WorkState :=
  [.waitingMac, .queued, .running, .awaitingConfirmation, .completed, .failed, .cancelled, .expired,
    .recoveryRequired]

def WorkState.ofText? (text : String) : Option WorkState :=
  WorkState.all.find? fun s => s.text = text

/-- `TERMINAL_STATES`. -/
def WorkState.isTerminal (s : WorkState) : Bool :=
  s = .completed ∨ s = .failed ∨ s = .cancelled ∨ s = .expired ∨ s = .recoveryRequired

@[simp] theorem Topic.ofText?_text (t : Topic) : Topic.ofText? t.text = some t := by
  cases t <;> rfl

variable {text : String}

theorem Topic.text_of_ofText? {t : Topic} (h : Topic.ofText? text = some t) : text = t.text := by
  have htext : t.text = text := by simpa using List.find?_some h
  exact htext.symm

theorem WorkState.ofText?_isSome (h : text ∈ WorkState.all.map WorkState.text) :
    (WorkState.ofText? text).isSome = true := by
  obtain ⟨s, hs, rfl⟩ := List.mem_map.mp h
  exact List.find?_isSome.mpr ⟨s, hs, decide_eq_true rfl⟩

/-! ## The check of a document -/

/-- How receiving a message can fail. -/
inductive Refusal where
  /-- `RemoteWorkValidationError(code, message)`. -/
  | validation (code message : String)
  | raised (e : Raise)
  /-- `KeyError`, from a document that was not checked. -/
  | key
  deriving DecidableEq

/-- `RemoteWorkValidationError("invalid_payload", message)`. -/
def invalid (message : String) : Refusal := .validation "invalid_payload" message

/-- `value in names` for a set of strings, which raises on a `list` or a `dict`. -/
def ensureIn (value : Json) (names : List String) (e : Refusal) : Except Refusal Unit :=
  match value.inStrings names with
  | some b => ensure (b = true) e
  | none => .error (.raised .type)

/-- `fullmatch` of a first character and a tail of bounded length. -/
def matchesTail (head tail : Char → Bool) (least most : ℕ) : List Char → Bool
  | [] => false
  | c :: cs => head c && cs.all tail && least ≤ cs.length && cs.length ≤ most

/-- `_TASK_ID_RE`. -/
def isTaskId (text : String) : Bool :=
  match "RW-".toList.isPrefixOf? text.toList with
  | some cs => cs.all (fun c => c.isAlphanum || c = '_' || c = '-') && 8 ≤ cs.length &&
      cs.length ≤ 64
  | none => false

/-- `_AGENT_ID_RE`. -/
def isAgentId (text : String) : Bool :=
  matchesTail Char.isAlphanum (fun c => c.isAlphanum || "._:-".toList.contains c) 2 127 text.toList

/-- `sha256:[0-9a-f]{64}`. -/
def isResultHash (text : String) : Bool :=
  match "sha256:".toList.isPrefixOf? text.toList with
  | some cs => cs.all isLowerHex && cs.length = 64
  | none => false

/-- `_validate_optional_string(value, name, max_length)`. -/
def validateOptionalString (value : Json) (name : String) (maxLength : ℕ) : Except Refusal Unit :=
  ensure (value.isNull = true ∨ (value.asStr?.any fun s => s.length ≤ maxLength) = true)
    (invalid (name ++ " is invalid"))

/-- `_validate_sequence(value, name, minimum=minimum)`. -/
def validateSequence (value : Json) (name : String) (minimum : ℤ) : Except Refusal Unit :=
  ensure ((value.asInt?.any fun n => minimum ≤ n ∧ n ≤ 2 ^ 31 - 1) = true)
    (invalid (name ++ " is invalid"))

/-- `_parse_time(value, name)`. -/
def parseTime (value : Json) (name : String) : Except Refusal Unit := do
  let text ← orRaise value.asStr? (invalid (name ++ " is invalid"))
  let (_, offset) ← orRaise (fromIsoformat text) (invalid (name ++ " is invalid"))
  ensure (offset.isSome = true) (invalid (name ++ " needs a timezone"))

/-- A count from 0 to 10000. -/
def isCount (value : Json) : Bool := value.asInt?.any fun n => 0 ≤ n ∧ n ≤ 10000

/-- A list of at most `most` strings, each of which satisfies `p`. -/
def isTextList (value : Json) (most : ℕ) (p : String → Bool) : Bool :=
  value.asList?.any fun items => items.length ≤ most ∧ items.all fun v => v.asStr?.any p

/-- `_FORBIDDEN_RESULT_KEYS`. -/
def forbiddenResultKeys : List String :=
  ["source", "sources", "diff", "patch", "raw_jsonl", "reasoning", "prompt", "logs", "stdout",
    "stderr"]

/-- `_validate_task_document_common(payload)`. -/
def validateTaskDocumentCommon (payload : Dict) : Except Refusal Unit := do
  ensure ((payload.get "version").eqInt 1 = true)
    (.validation "version_unsupported" "version is unsupported")
  ensure (((payload.get "task_id").asStr?.any isTaskId) = true)
    (.validation "task_id_invalid" "task id is invalid")
  validateSequence (payload.get "run_seq") "run_seq" 1
  validateSequence (payload.get "sequence") "sequence" 1
  ensureIn (payload.get "state") (WorkState.all.map WorkState.text)
    (.validation "state_invalid" "task state is invalid")

def agentFields : List String :=
  ["version", "online", "protocol_version", "agent_version", "codex_version", "capabilities",
    "queue_depth", "active_task_id", "updated_at"]

/-- The agent's document (lines 304–335). -/
def validateAgent (payload : Dict) : Except Refusal Unit := do
  ensure (payload.keysAre agentFields = true) (invalid "agent fields are invalid")
  ensure ((payload.get "version").eqInt 1 = true ∧ (payload.get "protocol_version").eqInt 1 = true)
    (.validation "version_unsupported" "version is unsupported")
  ensure ((payload.get "online").asBool?.isSome = true) (invalid "online must be boolean")
  parseTime (payload.get "updated_at") "updated_at"
  ensure (((payload.get "agent_version").asStr?.any isAgentId) = true)
    (invalid "agent version is invalid")
  ensure ((payload.get "codex_version").isNull = true ∨
      ((payload.get "codex_version").asStr?.any fun s => s.length ≤ 128) = true)
    (invalid "Codex version is invalid")
  ensure (isTextList (payload.get "capabilities") 32 (fun s => s ≠ "" ∧ s.length ≤ 64) = true)
    (invalid "capabilities are invalid")
  ensure (isCount (payload.get "queue_depth") = true) (invalid "queue depth is invalid")
  ensure ((payload.get "active_task_id").isNull = true ∨
      ((payload.get "active_task_id").asStr?.any isTaskId) = true)
    (.validation "task_id_invalid" "active task id is invalid")

def statusRequired : List String :=
  ["version", "task_id", "run_seq", "sequence", "state", "stage", "updated_at"]

def statusStages : List String :=
  ["waiting_mac", "preflight", "queued", "workspace", "codex", "verify", "git", "handoff",
    "recovery"]

/-- A status document (lines 337–354). -/
def validateStatus (payload : Dict) : Except Refusal Unit := do
  ensure (payload.hasAll statusRequired = true ∧
      payload.keysWithin (statusRequired ++ ["queue_position", "error_code", "action_required"]) =
        true) (invalid "status fields are invalid")
  validateTaskDocumentCommon payload
  ensureIn (payload.get "stage") statusStages (invalid "status stage is invalid")
  parseTime (payload.get "updated_at") "updated_at"
  ensure ((payload.get "queue_position").isNull = true ∨
      isCount (payload.get "queue_position") = true) (invalid "queue position is invalid")
  validateOptionalString (payload.get "error_code") "error_code" 128
  validateOptionalString (payload.get "action_required") "action_required" 1000

def resultRequired : List String :=
  ["version", "task_id", "run_seq", "sequence", "state", "finished_at", "summary", "commits",
    "changed_path_count", "next_actions", "result_hash"]

def resultStates : List String :=
  ["awaiting_confirmation", "completed", "failed", "cancelled", "expired", "recovery_required"]

/-- A result document (lines 357–393). -/
def validateResult (payload : Dict) : Except Refusal Unit := do
  ensure (payload.hasAll resultRequired = true ∧
      payload.keysWithin (resultRequired ++ ["branch", "test_summary", "error_code"]) = true)
    (invalid "result fields are invalid")
  validateTaskDocumentCommon payload
  ensureIn (payload.get "state") resultStates
    (.validation "state_invalid" "result state is invalid")
  parseTime (payload.get "finished_at") "finished_at"
  validateOptionalString (payload.get "summary") "summary" 6000
  validateOptionalString (payload.get "branch") "branch" 256
  validateOptionalString (payload.get "test_summary") "test_summary" 3000
  validateOptionalString (payload.get "error_code") "error_code" 128
  ensure (isTextList (payload.get "commits") 20 (fun s => s.length ≤ 128) = true)
    (invalid "commits are invalid")
  ensure (isCount (payload.get "changed_path_count") = true)
    (invalid "changed path count is invalid")
  ensure (isTextList (payload.get "next_actions") 20 (fun s => s.length ≤ 1000) = true)
    (invalid "next actions are invalid")
  ensure (((payload.get "result_hash").asStr?.any isResultHash) = true)
    (invalid "result hash is invalid")

/-- `validate_incoming_document(topic, payload)`. -/
def validateIncomingDocument (topic : String) (document : Json) : Except Refusal Dict := do
  let payload ← orRaise document.asDict? (invalid "payload must be an object")
  ensure ((payload.all fun kv => !forbiddenResultKeys.contains kv.1) = true)
    (.validation "privacy_payload_rejected" "payload contains forbidden detail")
  match Topic.ofText? topic with
  | some .agent => validateAgent payload
  | some .status => validateStatus payload
  | some .result => validateResult payload
  | none => .error (.validation "topic_invalid" "incoming topic is invalid")
  return payload

/-! ## What the store reads of a document -/

/-- The task, the place in the sequence and the state that a document speaks of. -/
structure Head where
  taskId : String
  runSeq : ℤ
  sequence : ℤ
  state : WorkState
  deriving DecidableEq

/-- `payload["task_id"]`, `payload["run_seq"]`, `payload["sequence"]` and `payload["state"]`. -/
def head? (payload : Dict) : Option Head := do
  let taskId ← (payload.get "task_id").asStr?
  let runSeq ← (payload.get "run_seq").asInt?
  let sequence ← (payload.get "sequence").asInt?
  let state ← (payload.get "state").asStr?.bind WorkState.ofText?
  return ⟨taskId, runSeq, sequence, state⟩

/-- `payload_digest`. -/
def payloadDigest (payload : Dict) : String := sha256Hex (canonical (.obj payload))

/-- The text that `event_id` is the digest of. -/
def eventText (topic : Topic) (taskId : String) (runSeq sequence : ℤ) : String :=
  topic.text ++ ":" ++ taskId ++ ":" ++ toString runSeq ++ ":" ++ toString sequence

def eventId (topic : Topic) (taskId : String) (runSeq sequence : ℤ) : String :=
  sha256Hex (eventText topic taskId runSeq sequence)

/-! ## The tables -/

/-- A row of `remote_work_tasks`. -/
structure RemoteTask where
  taskId : String
  sourceMessageId : String
  senderId : String
  userHash : String
  projectAlias : String
  instructionDigest : String
  state : WorkState := .waitingMac
  runSeq : ℤ := 0
  sequence : ℤ := 0
  stage : Option String := none
  lastStatusJson : Option String := none
  lastResultJson : Option String := none
  createdAt : String
  expiresAt : String
  updatedAt : String
  identityId : Option String
  principalId : Option String
  deriving DecidableEq

inductive OutboxState where
  | pending
  | published
  | failed
  deriving DecidableEq, Repr

/-- A row of `remote_work_outbox`. -/
structure OutboxRow where
  messageId : String
  taskId : String
  topic : String
  payloadJson : String
  payloadDigest : String
  state : OutboxState := .pending
  attempts : ℕ := 0
  lastError : Option String := none
  createdAt : String
  publishedAt : Option String := none
  deriving DecidableEq

inductive ReplyState where
  | none
  | pending
  | sent
  | suppressed
  deriving DecidableEq, Repr

/-- A row of `remote_work_events`. -/
structure RemoteEvent where
  eventId : String
  taskId : String
  topic : Topic
  runSeq : ℤ
  sequence : ℤ
  payloadDigest : String
  payloadJson : String
  replyState : ReplyState
  replyError : Option String := none
  createdAt : String
  deriving DecidableEq

/-- The row of `remote_work_agent`. -/
structure AgentRow where
  online : Bool
  updatedAt : String
  payloadDigest : String
  payloadJson : String
  deriving DecidableEq

structure WorkStore where
  tasks : Table RemoteTask.taskId
  outbox : Table OutboxRow.messageId
  events : Table RemoteEvent.eventId
  agent : Option AgentRow

def WorkStore.empty : WorkStore := ⟨.empty, .empty, .empty, none⟩

/-! ## Recording an event -/

inductive Outcome where
  | recorded
  | duplicate
  | stale
  deriving DecidableEq, Repr

/-- What `record_remote_work_event` returns. -/
structure Receipt where
  outcome : Outcome
  taskId : Option String := none
  agent : Bool := false
  replyPending : Option Bool := none
  deriving DecidableEq

/-- `(run_seq, sequence)`, in the order of tuples. -/
abbrev Pair := ℤ ×ₗ ℤ

def pair (runSeq sequence : ℤ) : Pair := toLex (runSeq, sequence)

def RemoteTask.pair (t : RemoteTask) : Pair := RemoteWork.pair t.runSeq t.sequence

/-- The test for the pairs in the order of tuples. -/
def precedes (runSeq sequence runSeq' sequence' : ℤ) : Bool :=
  runSeq < runSeq' ∨ (runSeq = runSeq' ∧ sequence < sequence')

namespace WorkStore

variable (s : WorkStore)

/-- The row of an agent document (lines 2688–2703). -/
def recordAgent (payload : Dict) : WorkStore × Receipt :=
  let digest := payloadDigest payload
  if s.agent.map AgentRow.payloadDigest = some digest then (s, { outcome := .duplicate })
  else
    let row : AgentRow := {
      online := (payload.get "online").asBool?.getD false
      updatedAt := (payload.get "updated_at").asStr?.getD ""
      payloadDigest := digest
      payloadJson := canonical (.obj payload) }
    ({ s with agent := some row }, { outcome := .recorded, agent := true })

/-- The row of the event at a place in the sequence of a topic. -/
def eventAt (topic : Topic) (taskId : String) (runSeq sequence : ℤ) : Option RemoteEvent :=
  s.events.rows.find? fun e =>
    e.taskId = taskId ∧ e.topic = topic ∧ e.runSeq = runSeq ∧ e.sequence = sequence

/-- The row of a new event: a result has a reply pending. -/
def newEvent (now : String) (topic : Topic) (head : Head) (payload : Dict) : RemoteEvent where
  eventId := eventId topic head.taskId head.runSeq head.sequence
  taskId := head.taskId
  topic := topic
  runSeq := head.runSeq
  sequence := head.sequence
  payloadDigest := payloadDigest payload
  payloadJson := canonical (.obj payload)
  replyState := if topic = .result then .pending else .none
  createdAt := now

/-- The `UPDATE` of the task by an event. -/
def followed (now : String) (topic : Topic) (head : Head) (payload : Dict) (t : RemoteTask) :
    RemoteTask :=
  { t with
    state := head.state
    runSeq := head.runSeq
    sequence := head.sequence
    stage := (payload.get "stage").asStr?
    lastStatusJson := if topic = .status then some (canonical (.obj payload)) else t.lastStatusJson
    lastResultJson := if topic = .result then some (canonical (.obj payload)) else t.lastResultJson
    updatedAt := now }

/-- A status or result document (lines 2707–2763). -/
def recordTaskEvent (now : String) (topic : Topic) (head : Head) (payload : Dict) :
    Except Refusal (WorkStore × Receipt) := do
  let task ← orRaise (s.tasks.get? head.taskId)
    (.raised (raising "remote_work_task_unknown" "Remote Work 事件 task 未知" 404))
  match s.eventAt topic head.taskId head.runSeq head.sequence with
  | some existing => do
    ensure (existing.payloadDigest = payloadDigest payload)
      (.raised (raising "remote_work_event_conflict" "Remote Work 事件序号正文冲突" 409))
    return (s, { outcome := .duplicate, taskId := some head.taskId })
  | none =>
    if precedes head.runSeq head.sequence task.runSeq task.sequence then
      return (s, { outcome := .stale, taskId := some head.taskId })
    else if (head.runSeq = task.runSeq ∧ head.sequence = task.sequence) ∧
        ¬ (task.runSeq = 0 ∧ task.sequence = 0) then
      return (s, { outcome := .stale, taskId := some head.taskId })
    else do
      ensure (¬ (task.state.isTerminal = true ∧ head.runSeq ≤ task.runSeq))
        (.raised (raising "remote_work_state_conflict" "Remote Work 终态不能回退" 409))
      let row := newEvent now topic head payload
      let events ← orRaise (s.events.insert? row) (.raised .integrity)
      let tasks := s.tasks.update head.taskId (followed now topic head payload)
      return ({ s with events := events, tasks := tasks }, {
        outcome := .recorded, taskId := some head.taskId
        replyPending := some (row.replyState = .pending) })

/-- `record_remote_work_event(topic, payload)`. -/
def recordRemoteWorkEvent (now : String) (topic : String) (payload : Dict) :
    Except Refusal (WorkStore × Receipt) :=
  match Topic.ofText? topic with
  | some .agent => .ok (s.recordAgent payload)
  | some topic => do
    let head ← orRaise (head? payload) .key
    s.recordTaskEvent now topic head payload
  | none => .error (.raised (rejecting "remote_work_topic_invalid" "Remote Work 入站主题无效"))

/-- `mark_remote_work_reply(event_id, sent=sent, error_code=error_code)`. -/
def markRemoteWorkReply (identifier : String) (sent : Bool) (errorCode : Option String) :
    WorkStore :=
  { s with
    events := s.events.updateWhere
      (fun e => e.eventId = identifier ∧ e.replyState = .pending)
      (fun e => { e with
        replyState := if sent then .sent else .suppressed
        replyError := errorCode }) }

/-- The rows that `_expire_remote_work_tasks` expires at a time. -/
def expires (now : String) (t : RemoteTask) : Bool :=
  (t.state = .waitingMac ∨ t.state = .queued) ∧ t.expiresAt ≤ now

/-- `expire_remote_work_tasks()`. -/
def expireRemoteWorkTasks (now : String) : WorkStore :=
  { s with
    tasks := s.tasks.updateWhere (expires now) fun t =>
      { t with state := .expired, updatedAt := now } }

/-! ## Commands -/

/-- What `enqueue_remote_work_command` is given, and whether the user of the digest exists. -/
structure Command where
  isRequest : Bool
  payload : Dict
  senderId : String
  userDigest : String
  identityId : Option String
  principalId : Option String
  registered : Bool

/-- The row of a requested task. -/
def Command.task (c : Command) (now identifier taskId : String) : RemoteTask where
  taskId := taskId
  sourceMessageId := identifier
  senderId := c.senderId
  userHash := c.userDigest
  projectAlias := (c.payload.get "project_alias").asStr?.getD ""
  instructionDigest := sha256Hex ((c.payload.get "instruction").asStr?.getD "")
  createdAt := (c.payload.get "created_at").asStr?.getD ""
  expiresAt := (c.payload.get "expires_at").asStr?.getD ""
  updatedAt := now
  identityId := c.identityId
  principalId := c.principalId

def Command.topic (c : Command) : String :=
  if c.isRequest then "home/codex-work/v1/request" else "home/codex-work/v1/control"

/-- `remote_work_task_not_found`. -/
def taskNotFound : Refusal :=
  .raised (raising "remote_work_task_not_found" "Remote Work task 不存在" 404)

/-- The task of a command: a request creates it, a control needs it (lines 2566–2598). -/
def commandTask (c : Command) (now identifier taskId : String) :
    Except Refusal (Table RemoteTask.taskId) :=
  match c.isRequest, s.tasks.get? taskId with
  | true, some _ =>
    .error (.raised (raising "remote_work_task_conflict" "Remote Work task 已存在" 409))
  | true, none => do
    ensure (c.registered = true ∧ ∀ t ∈ s.tasks.rows, t.sourceMessageId ≠ identifier)
      (.raised .integrity)
    orRaise (s.tasks.insert? (c.task now identifier taskId)) (.raised .integrity)
  | false, none => .error taskNotFound
  | false, some task => do
    ensure (task.userHash = c.userDigest) taskNotFound
    ensure (c.identityId = none ∨ task.identityId = c.identityId) taskNotFound
    ensure (c.principalId = none ∨ task.principalId = c.principalId) taskNotFound
    return s.tasks

/-- `enqueue_remote_work_command(…)`: the next state, the task and whether the command was known. -/
def enqueueRemoteWorkCommand (c : Command) (now : String) :
    Except Refusal (WorkStore × RemoteTask × Bool) := do
  let name := if c.isRequest then "message_id" else "control_id"
  let identifier ← orRaise (c.payload.get name).asStr?
    (.raised (rejecting "remote_work_payload_invalid" "Remote Work 出站标识无效"))
  let taskId ← orRaise (c.payload.get "task_id").asStr?
    (.raised (rejecting "remote_work_payload_invalid" "Remote Work 出站标识无效"))
  match s.outbox.get? identifier with
  | some existing => do
    ensure (existing.payloadDigest = payloadDigest c.payload)
      (.raised (raising "remote_work_idempotency_conflict" "Remote Work 消息 ID 正文冲突" 409))
    -- `assert task is not None`
    let task ← orRaise (s.tasks.get? taskId) .key
    return (s, task, true)
  | none => do
    let tasks ← s.commandTask c now identifier taskId
    let outbox ← orRaise (s.outbox.insert? {
      messageId := identifier
      taskId := taskId
      topic := c.topic
      payloadJson := canonical (.obj c.payload)
      payloadDigest := payloadDigest c.payload
      createdAt := now }) (.raised .integrity)
    let task ← orRaise (tasks.get? taskId) .key
    return ({ s with tasks := tasks, outbox := outbox }, task, false)

/-- `mark_remote_work_outbox(message_id, success=success, error_code=error_code)`. -/
def markRemoteWorkOutbox (messageId : String) (success : Bool) (errorCode : Option String)
    (now : String) : WorkStore :=
  { s with
    outbox := s.outbox.update messageId fun row =>
      { row with
        state := if success then .published else .failed
        attempts := row.attempts + 1
        lastError := errorCode
        publishedAt := if success then some now else none } }

end WorkStore

/-! ## The adapter -/

/-- A message from the broker: its topic, the size of its payload and what `json.loads` makes of
    it. -/
structure Message where
  topic : String
  size : ℕ
  document : Option Json

/-- One round of `_worker_loop`: a message that is not recorded is not acknowledged. -/
def work (s : WorkStore) (now : String) (m : Message) : Except Refusal (WorkStore × Receipt) := do
  ensure (m.size ≤ 64 * 1024) (.validation "payload_too_large" "payload is too large")
  let document ← orRaise m.document (.validation "invalid_json" "")
  let validated ← validateIncomingDocument m.topic document
  s.recordRemoteWorkEvent now m.topic validated

/-- What the Gateway does about Remote Work. -/
inductive WorkOp where
  | enqueue (c : WorkStore.Command) (now : String)
  | markOutbox (messageId : String) (success : Bool) (errorCode : Option String) (now : String)
  | receive (m : Message) (now : String)
  | markReply (identifier : String) (sent : Bool) (errorCode : Option String)
  | expire (now : String)

/-- One step; a call that raises leaves the store alone. -/
def step (s : WorkStore) : WorkOp → WorkStore
  | .enqueue c now => ((s.enqueueRemoteWorkCommand c now).map Prod.fst).toOption.getD s
  | .markOutbox messageId success errorCode now =>
    s.markRemoteWorkOutbox messageId success errorCode now
  | .receive m now => ((work s now m).map Prod.fst).toOption.getD s
  | .markReply identifier sent errorCode => s.markRemoteWorkReply identifier sent errorCode
  | .expire now => s.expireRemoteWorkTasks now

end HomeAddons.Gateway.RemoteWork
