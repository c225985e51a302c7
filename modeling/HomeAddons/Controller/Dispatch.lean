import HomeAddons.Controller.Tools

/-!
# Codex Controller: one dispatch

`ControllerService._dispatch` (`service.py` 755–947) as one run: the commands that are served without
the agent, the start of a Turn, and what is made of an exception. Every request to another program
either succeeds, is refused, or takes effect with its answer lost.
-/

namespace HomeAddons.Controller

open HomeAddons.Common

/-! ## Surroundings and state -/

/-- How a request to the app-server ends: with its result, with an error of that code, or taken with
    its reply lost. -/
inductive Rpc where
  | result (v : Json)
  | refused (code : Option ℤ)
  | lost

/-- `thread/start`, `thread/resume` or `thread/fork`. -/
inductive ThreadMethod where
  | start
  | resume
  | fork
  deriving DecidableEq

/-- How `TurnMediaManager.prepare` ends. -/
inductive Prepared where
  | items
  | rejected (code : String)
  | broken

/-- A request that changes something elsewhere. -/
inductive Write where
  | thread (method : ThreadMethod)
  | turn
  | memo (request : MemoRequest)
  | car (target : Bool)

/-- What one dispatch meets. The snapshots of the policy, the answers to its requests and the
    notifications that are buffered when a Turn is bound are given. -/
structure Services extends TextEnv where
  config : RouterConfig
  hub : List HubDefinition
  catalogPolicy : Option (List String)
  callPolicy : String → Option (List String)
  fingerprint : List String → CapabilityProfile → String
  thread : ThreadMethod → Rpc
  turn : Rpc
  memo : MemoRequest → Exchange
  carState : Exchange
  carService : Bool → Exchange
  media : Prepared
  pending : List Notice
  shortId : String → Option String
  now : Instant
  confirmationId : String
  moment : Moment

/-- What is kept between dispatches: the tables, the context of the tools, the Threads that the
    app-server client has loaded with the instructions they run under, and those it may fork. -/
structure Desk where
  store : ControllerStore
  confirmations : Confirmations
  active : Option ToolContext
  loadedThreads : List (String × String)
  forkableThreads : List String

/-- The state of a dispatch, with the writes that have taken effect. -/
structure Dispatching extends Desk where
  turnStarted : Bool
  writes : List Write

abbrev Work := EStateM Fault Dispatching

namespace Work

variable {α : Type}

/-- A call of the store or of the context. -/
def raise (x : Except Raise α) : Work α :=
  match x with
  | .ok a => pure a
  | .error e => throw e.fault

/-- A computation that may raise. -/
def lift (x : Except Fault α) : Work α :=
  match x with
  | .ok a => pure a
  | .error e => throw e

/-- A transaction on the tables of the jobs. -/
def onStore (f : ControllerStore → Except Raise ControllerStore) : Work Unit := do
  let store ← raise (f (← get).store)
  modify fun s => { s with store := store }

/-- `try: … finally: …`, for a `finally` that only changes the state. -/
def atEnd (p : Work α) (f : Dispatching → Dispatching) : Work α := fun s =>
  match p s with
  | .ok a s' => .ok a (f s')
  | .error e s' => .error e (f s')

/-- A request with these writes, which took effect or not. -/
def took (effect : Bool) (ws : List Write) : Work Unit :=
  modify fun s => if effect then { s with writes := s.writes ++ ws } else s

end Work

/-! ## The app-server -/

/-- The request did what it says. -/
def Rpc.tookEffect : Rpc → Bool
  | .refused _ => false
  | _ => true

/-- `request(method, params)` (`app_server.py` 313–337): only an error that the app-server sends is
    definitive. -/
def Rpc.reply : Rpc → Except Fault Json
  | .result v => .ok v
  | .lost => .error (.appServer "app_server_protocol_error" false)
  | .refused code =>
    .error (if code = some (-32099) then .appServer "app_server_protocol_error" false
      else .appServer
        (if code = some (-32001) then "app_server_overloaded" else "app_server_request_failed") true)

/-- `result.get(field).get("id")`, a text that is not empty. -/
def resultId (v : Json) (field : String) : Option String :=
  (((v.asDict?.bind fun d => (d.get field).asDict?).bind fun d => (d.get "id").asStr?).filter
    (· ≠ ""))

section

variable (env : Services)

/-- One request of the app-server. -/
def appRequest (rpc : Rpc) (ws : List Write) : Work Json := do
  Work.took rpc.tookEffect ws
  Work.lift rpc.reply

/-- `raise AppServerError("thread_unavailable", …)`. -/
def threadUnavailable : Fault := .appServer "thread_unavailable" false

/-- `_start_thread_locked()` (`app_server.py` 400–416) under the instructions with a fingerprint. -/
def startThread (fingerprint : String) : Work String := do
  let v ← appRequest (env.thread .start) [.thread .start]
  let threadId ← Work.lift (orRaise (resultId v "thread") threadUnavailable)
  modify fun s => { s with
    loadedThreads := (threadId, fingerprint) :: s.loadedThreads
    forkableThreads := s.forkableThreads.filter (· ≠ threadId) }
  return threadId

/-- `resume_thread(thread_id)` (`app_server.py` 418–445). -/
def resumeThread (threadId fingerprint : String) : Work String := do
  let s ← get
  let loaded := s.loadedThreads.lookup threadId
  if loaded = some fingerprint then return threadId
  else if loaded.isSome ∧ threadId ∉ s.forkableThreads then startThread env fingerprint
  else
    let method := if loaded.isNone then ThreadMethod.resume else .fork
    let v ← appRequest (env.thread method) (if method = .fork then [.thread .fork] else [])
    let loadedId ← Work.lift (orRaise ((resultId v "thread").filter fun t =>
      if method = .resume then t = threadId else t ≠ threadId) threadUnavailable)
    modify fun s => { s with
      loadedThreads := (loadedId, fingerprint) :: s.loadedThreads
      forkableThreads := loadedId :: s.forkableThreads }
    return loadedId

/-- `start_turn(thread_id, …)` (`app_server.py` 450–473). -/
def startTurn (threadId : String) : Work String := do
  let v ← appRequest env.turn [.turn]
  let turnId ← Work.lift (orRaise (resultId v "turn") (.appServer "turn_state_unknown" false))
  modify fun s => { s with forkableThreads := threadId :: s.forkableThreads }
  return turnId

/-! ## Tool calls -/

/-- `record_tool_invocation(…)` for a known tool, as far as a job is concerned. -/
def ControllerStore.recordToolActivity (s : ControllerStore) (jobId : Option String) :
    ControllerStore :=
  match jobId with
  | some jobId => { s with
      jobs := s.jobs.updateWhere (fun j => j.jobId = jobId ∧ j.state = .running) fun j =>
        { j with toolActivityObserved := true } }
  | none => s

/-- `_memo_call(name, arguments)` (lines 834–902). -/
def memoCall (name : String) (arguments : Dict) : Work Dict := do
  let request ← Work.lift (memoRequest env.config (← get).active name arguments)
  Work.took (request.isWrite && (env.memo request).tookEffect) [.memo request]
  Work.lift (requestMemoJson (env.memo request))

/-- `call(name, arguments)` (lines 526–566) around what the call does. -/
def toolCall {α : Type} (name : String) (body : Work α) : Work α := do
  let context := (← get).active
  Work.atEnd (do
    let _ ← Work.lift (authorizeTool env.config env.hub (env.callPolicy name) (← get).active name)
    body) fun s => { s with store := s.store.recordToolActivity (context.map (·.jobId)) }

/-! ## The car -/

/-- `safe_entity_state(document)` (`prepare_car.py` 151–168): the fields that are read here. -/
structure EntityState where
  entityState : String
  commandState : Json
  commandErrorCode : Json

/-- `"status": "available"`. -/
def EntityState.available (e : EntityState) : Bool := e.entityState = "on" || e.entityState = "off"

/-- `safe_entity_state(document)`. -/
def safeEntityState (document : Json) : Except CarError EntityState := do
  let d ← orRaise document.asDict? (.car "HA_RESPONSE_INVALID" false)
  ensure ((d.get "entity_id").eqStr "switch.wen_jie_m8zeng_cheng_max" = true)
    (.car "HA_ENTITY_MISMATCH" false)
  let known ← orRaise ((d.get "state").inStrings ["on", "off", "unavailable", "unknown"]) .internal
  ensure (known = true) (.car "HA_STATE_INVALID" false)
  let state ← orRaise (d.get "state").asStr? (.car "HA_STATE_INVALID" false)
  let attributes := dictOf (d.get "attributes")
  return ⟨state, attributes.get "command_state", attributes.get "command_error_code"⟩

/-- The state of the entity, or an error. -/
def readCar : Except CarError EntityState := requestHomeAssistant false env.carState >>= safeEntityState

/-- `status_result_text(result)` (`prepare_car.py` 138–148). -/
def statusResultText (state : Option EntityState) : String :=
  match state.filter (·.available) with
  | none => "AITO 备车状态当前不可用。"
  | some e =>
    let label := if e.entityState = "on" then "备车已开启" else "备车已停止"
    let command := if truthy e.commandState then strOf env.toSettings e.commandState else "idle"
    label ++ "；命令状态：" ++ command ++ "。" ++
      if truthy e.commandErrorCode then
        " 最近错误：" ++ strOf env.toSettings e.commandErrorCode ++ "。" else ""

/-- `action_label(target_on)`. -/
def actionLabel (target : Bool) : String := if target then "开始备车" else "停止备车"

/-- `request_result_text(result, target_on)` (`prepare_car.py` 96–105). -/
def requestResultText (c : Option Confirmation) (replay target : Bool) : String :=
  match c with
  | some c =>
    if c.state = .pending then
      "准备" ++ actionLabel target ++ "。请在 2 分钟内回复“" ++
        (if target then "确认备车" else "确认停止备车") ++ "”。\n发送任何其他消息会自动取消本次确认。" ++
        if replay then "\n这条微信已处理过，没有重复创建确认。" else ""
    else "无法创建备车确认：" ++ c.errorCode.getD "None" ++ "。"
  | none => "无法创建备车确认：REQUEST_FAILED。"

/-- `messages` of `execute_result_text`. -/
def executeMessages : List (String × String) :=
  [("CONFIRMATION_MISSING", "当前没有等待确认的备车请求，请先发送“备车”或“停止备车”。"),
    ("CONFIRMATION_EXPIRED", "备车确认已过期，请重新发送备车请求。"),
    ("CONFIRMATION_ACTION_MISMATCH", "确认动作与待处理备车请求不一致，已拒绝执行。"),
    ("HA_ENTITY_UNAVAILABLE", "AITO 备车实体当前不可用，未发送车辆命令。"),
    ("HA_API_UNAVAILABLE", "Home Assistant 备车接口当前不可用，未发送车辆命令。")]

/-- The text for a code. -/
def executeErrorText (errorCode : Option String) : String :=
  let code := ((errorCode.filter (· ≠ ""))).getD "EXECUTION_FAILED"
  (executeMessages.lookup code).getD ("备车请求未执行：" ++ code ++ "。")

/-- What `_prepare_car_call` answers to an execution. -/
inductive ExecuteAnswer where
  | result (r : ExecuteResult) (replay : Bool)
  | closed (state : ConfirmationState) (errorCode : Option String)
  | rejected (code : String)

/-- `execute_result_text(result, target_on)` (`prepare_car.py` 108–135). -/
def executeResultText (answer : ExecuteAnswer) (target : Bool) : String :=
  match answer with
  | .result ⟨.submitted, _, _⟩ replay =>
    "已向 Home Assistant 提交" ++ actionLabel target ++
      "请求。服务受理不代表车辆已完成，请以 AITO 回读的 confirmed 状态为准。" ++
      if replay then " 这条确认已处理过，没有重复调用车辆。" else ""
  | .closed .submitted _ =>
    "已向 Home Assistant 提交" ++ actionLabel target ++
      "请求。服务受理不代表车辆已完成，请以 AITO 回读的 confirmed 状态为准。" ++
      " 这条确认已处理过，没有重复调用车辆。"
  | .result ⟨.alreadyConfirmed, _, _⟩ _ =>
    "当前 AITO 回读已经确认处于“" ++ actionLabel target ++ "”目标状态，没有重复发送命令。"
  | .result ⟨.unknown, _, _⟩ _ | .closed .unknown _ =>
    "备车请求结果未知，为避免重复控制车辆不会自动重试；请稍后查询备车状态。"
  | .result ⟨.failed, errorCode, _⟩ _ => executeErrorText errorCode
  | .closed _ errorCode => executeErrorText errorCode
  | .rejected code => executeErrorText (some code)

/-- `raise ToolProxyError(exc.code, str(exc)) from exc` for a `StoreError`. -/
def Raise.asTool : Raise → Fault
  | .store e => .tool e.code e.message
  | e => e.fault

/-- `aito_prepare_car_request` (lines 766–776). -/
def requestCar (context : ToolContext) (target : Bool) : Work String := do
  let t := (← get).confirmations
  let isOf := fun c : Confirmation => decide (c.requestMessageId = context.messageId ∨
    c.executeMessageId = some context.messageId)
  match t.request context.conversationKey context.messageId target prepareCarTtlSeconds env.now
      env.confirmationId with
  | .error e => throw e.asTool
  | .ok t' =>
    modify fun s => { s with confirmations := t' }
    return requestResultText (t'.rows.find? isOf) (t.rows.any isOf) target

/-- `finish_prepare_car_execute(confirmation_id, result)`. -/
def finishCar (confirmationId : String) (status : ExecuteStatus) (errorCode : Option String)
    (target : Bool) : Work ExecuteAnswer := do
  let s ← get
  let (t, r) ← Work.raise (s.confirmations.finishExecute confirmationId ⟨status, errorCode, target⟩
    env.now)
  set { s with confirmations := t }
  return .result r ((s.confirmations.get? confirmationId).any fun c => c.state ≠ .executing)

/-- An execution after its claim (lines 789–832). -/
def executeClaimed (confirmationId : String) (target : Bool) : Work ExecuteAnswer := do
  match readCar env with
  | .error .internal => throw .internal
  | .error (.car code _) => finishCar env confirmationId .failed (some code) target
  | .ok e =>
    if !e.available then finishCar env confirmationId .failed (some "HA_ENTITY_UNAVAILABLE") target
    else if e.entityState = (if target then "on" else "off") ∧ e.commandState.eqStr "confirmed" then
      finishCar env confirmationId .alreadyConfirmed none target
    else
      Work.took (env.carService target).tookEffect [.car target]
      match requestHomeAssistant true (env.carService target) with
      | .error .internal => throw .internal
      | .error (.car code outcomeUnknown) =>
        finishCar env confirmationId (if outcomeUnknown then .unknown else .failed) (some code) target
      | .ok _ => finishCar env confirmationId .submitted none target

/-- `aito_prepare_car_execute` (lines 777–832). -/
def executeCar (context : ToolContext) (target : Bool) : Work ExecuteAnswer := do
  let s ← get
  let (t, reply) := s.confirmations.claimExecute context.conversationKey context.messageId target
    env.now
  set { s with confirmations := t }
  match reply with
  | .error (.store e) =>
    if ["CONFIRMATION_MISSING", "CONFIRMATION_EXPIRED", "CONFIRMATION_ACTION_MISMATCH"].contains
        e.code then return .rejected e.code
    else throw (.tool e.code e.message)
  | .error e => throw e.fault
  | .ok (.replayed r) => return .result r true
  | .ok (.closed state) =>
    return .closed state ((t.rows.find? fun c =>
      c.executeMessageId = some context.messageId).bind (·.errorCode))
  | .ok (.executing confirmationId) => executeClaimed env confirmationId target

/-- `_prepare_car_call(name, arguments)` (lines 739–832), with the text that is made of its
    result. -/
def carCall (intent : CarIntent) : Work String := do
  ensureWork (env.config.prepareCar = true) (.tool "prepare_car_unavailable" "备车工具未配置")
  let context ← Work.lift (orRaise ((← get).active.filter fun c => c.capabilityProfile = .owner)
    (notAllowed "只有 owner 可以调用备车工具"))
  match intent with
  | .status => match readCar env with
    | .ok e => return statusResultText env (some e)
    | .error (.car ..) => return statusResultText env none
    | .error .internal => throw .internal
  | .request target => requestCar env context target
  | .execute target => return executeResultText (← executeCar env context target) target
where
  ensureWork (c : Prop) [Decidable c] (e : Fault) : Work Unit := Work.lift (ensure c e)

/-! ## Commands that need no agent -/

/-- A memo command that is served directly. -/
inductive MemoCommand where
  | create (arguments : Dict)
  | list (arguments : Dict)
  | complete (query : String)

/-- Which memo command a job is served as (lines 861–905). -/
def memoCommand (tools : List String) (input : JobInput) : Except Fault (Option MemoCommand) := do
  let mayWrite := input.capabilityProfile = .owner ∨ input.capabilityProfile = .ownerLegacy
  match ← directMemoCreateArguments env.toTextEnv input with
  | some arguments =>
    if "memo_create" ∈ tools ∧ mayWrite then return some (.create arguments)
    else return reading tools input mayWrite
  | none => return reading tools input mayWrite
where
  /-- The commands that begin with a listing. -/
  reading (tools : List String) (input : JobInput) (mayWrite : Bool) : Option MemoCommand :=
    match directMemoListArguments input with
    | some arguments =>
      if "memo_list" ∈ tools then some (.list arguments) else completing tools input mayWrite
    | none => completing tools input mayWrite
  completing (tools : List String) (input : JobInput) (mayWrite : Bool) : Option MemoCommand :=
    (directMemoCompleteQuery input).bind fun query =>
      if "memo_list" ∈ tools ∧ "memo_complete" ∈ tools ∧ mayWrite = true then some (.complete query)
      else none

/-- The arguments of the listing before a memo is completed. -/
def pendingListing : Dict := [("status", .str "pending"), ("limit", .int 100)]

/-- `complete_direct_result(job_id, text, …)`. -/
def completeDirect (job : Job) (text : String) : Work Unit :=
  Work.onStore fun s => s.completeDirectResult env.toSettings job.jobId text env.moment.utcNow

/-- A memo is completed: the memos are listed, and the one that matches is marked
    (lines 889–905). -/
def completeMemo (query : String) : Work String := do
  let listed ← toolCall env "memo_list" (memoCall env "memo_list" pendingListing)
  match matchingPendingMemos env.toTextEnv (← Work.lift (memoRecords listed)) query with
  | [] => return "没有找到未完成的备忘录：" ++ query ++ "。"
  | [memo] =>
    let completed ← toolCall env "memo_complete"
      (memoCall env "memo_complete" [("id", memo.get "id")])
    return memoCompleteResultText env.toTextEnv completed memo
  | _ => return "找到多条未完成备忘录与“" ++ query ++ "”匹配，请说得更具体。"

/-- A memo command, with the text that answers it. -/
def serveMemo : MemoCommand → Work String
  | .create arguments => do
    let result ← toolCall env "memo_create" (memoCall env "memo_create" arguments)
    Work.lift (memoCreateResultText env.toTextEnv result arguments)
  | .list arguments => do
    let result ← toolCall env "memo_list" (memoCall env "memo_list" arguments)
    Work.lift (memoListResultText env.toTextEnv result)
  | .complete query => completeMemo env query

/-- `cancel_pending_prepare_car(conversation_key, message_id)`. -/
def cancelPendingCar (job : Job) : Work Unit :=
  modify fun s => { s with confirmations :=
    s.confirmations.cancelPending job.conversationKey job.input.messageId env.now }

/-- A question for the state gives a pending confirmation up (lines 814–822). -/
def cancelBeforeStatus (job : Job) (intent : CarIntent) : Work Unit :=
  if intent = .status then cancelPendingCar env job else pure ()

/-- A command for the car (lines 812–860). -/
def serveCar (tools : List String) (job : Job) (intent : CarIntent) : Work String := do
  cancelBeforeStatus env job intent
  if job.input.capabilityProfile ≠ .owner then
    cancelPendingCar env job
    return "当前微信成员没有备车控制权限。"
  else if intent.tool ∉ tools then return "AITO 备车控制当前不可用，未发送车辆命令。"
  else toolCall env intent.tool (carCall env intent)

/-! ## A Turn -/

/-- `_flush_turn_events(turn_id)` (lines 955–960): the completion comes last. -/
def flushTurnEvents (turnId : String) : List Notice :=
  let events := env.pending.filter fun n => n.turnId = turnId
  events.filter (!·.isCompleted) ++ events.filter (·.isCompleted)

/-- `handle_notification(message, allow_buffer=False)` of a buffered message. -/
def handleBuffered (s : Dispatching) (n : Notice) : Dispatching :=
  match n with
  | .seen turnId first rest =>
    let run := fun store c => (StoreCall.run env.toSettings store turnId c).1
    { s with store := (first :: rest).foldl run s.store }
  | .completed turnId e =>
    let attempt := ((s.store.turnAttempt turnId).filter (· ≠ 0)).getD 1
    { s with
      active := endTurn s.active turnId
      store := (e.complete s.store turnId attempt env.moment).1 }

/-- The Thread of the conversation, which is started or resumed (lines 906–915). -/
def openThread (fingerprint : String) (job : Job) : Work String := do
  let threadId ← match (← get).store.conversations.get? job.conversationKey |>.bind (·.threadId) with
    | none => startThread env fingerprint
    | some threadId => resumeThread env threadId fingerprint
  Work.onStore fun s => s.assignThread job.jobId threadId env.moment.utcNow
  return threadId

/-- `turn_media.prepare(job_id, payload)`. -/
def prepareMedia : Work Unit :=
  match env.media with
  | .items => pure ()
  | .rejected code => throw (.media code)
  | .broken => throw .internal

/-- The Turn of a job (lines 906–927). -/
def serveTurn (fingerprint : String) (job : Job) : Work Unit := do
  let threadId ← openThread env fingerprint job
  prepareMedia env
  let turnId ← startTurn env threadId
  let active ← Work.raise (bindTurn (← get).active job.jobId turnId)
  modify fun s => { s with active := active, turnStarted := true }
  Work.onStore fun s => s.assignTurn job.jobId turnId
  modify fun s => (flushTurnEvents env turnId).foldl (handleBuffered env) s

/-! ## The dispatch -/

/-- `effective_tools` (lines 763–771). -/
def effectiveTools (job : Job) : List String :=
  availableTools env.config env.hub env.catalogPolicy job.input.capabilityProfile
    (hasExplicitMediaArchiveIntent job.input.text job.input.attachments)

/-- `打开新会话`: a Thread is started and the job is done (lines 784–789). -/
def serveNewThread (fingerprint : String) (job : Job) : Work Unit := do
  let threadId ← startThread env fingerprint
  let short ← Work.lift (orRaise (env.shortId threadId) (.store "display_secret_invalid"))
  Work.onStore fun s => s.completeNewThread env.toSettings job.jobId threadId
    ("新会话已建立。下一条消息将使用当前 Codex 配置和工具目录。\nThread：" ++ short) env.moment.utcNow

/-- The context of the tools for a job (lines 790–797). -/
def jobContext (active : Option ToolContext) (job : Job) : Except Raise ToolContext :=
  beginJob active job.jobId job.input.messageId job.input.capabilityProfile job.conversationKey
    (some (hasExplicitMediaArchiveIntent job.input.text job.input.attachments))

/-- The body of `_dispatch(job)` (lines 757–927). -/
def dispatchBody (job : Job) : Work Unit := do
  let tools := effectiveTools env job
  let fingerprint := env.fingerprint tools job.input.capabilityProfile
  if isNewThreadCommand job.input then serveNewThread env fingerprint job
  else
    let context ← Work.raise (jobContext (← get).active job)
    modify fun s => { s with active := some context }
    match prepareCarIntent job.input with
    | some intent => completeDirect env job (← serveCar env tools job intent)
    | none =>
      cancelPendingCar env job
      match ← Work.lift (memoCommand env tools job.input) with
      | some command => completeDirect env job (← serveMemo env command)
      | none => serveTurn env fingerprint job

/-- `uncertain` of the handlers of `_dispatch`. -/
def Fault.uncertain : Fault → Bool
  | .appServer _ definitive => !definitive
  | .store _ | .internal => true
  | .media _ | .tool .. => false

/-- The code that `fail_claimed` stores. -/
def Fault.code : Fault → String
  | .appServer code _ | .store code | .media code | .tool code _ => code
  | .internal => "controller_internal_error"

/-- The handlers of `_dispatch` (lines 928–947); an exception of `fail_claimed` leaves the job as
    it is. -/
def settle (job : Job) (f : Fault) (s : ControllerStore) : ControllerStore :=
  let failed := ((s.failClaimed job.jobId f.code f.uncertain env.moment.utcNow).toOption).getD s
  if f = .appServer "app_server_overloaded" true then
    match s.retryOverloaded job.jobId 3 (retryDelaySeconds job.attempt env.moment.jitter)
        env.moment.clock with
    | .ok (s', true) => s'
    | _ => failed
  else failed

/-- The `finally` of `_dispatch` (lines 948–953). -/
def leave (job : Job) (s : Dispatching) : Dispatching :=
  if s.turnStarted then s else { s with active := clearJob s.active job.jobId }

/-- `_dispatch(job)`. -/
def dispatch (job : Job) (d : Desk) : Dispatching :=
  match dispatchBody env job ⟨d, false, []⟩ with
  | .ok _ s => leave job s
  | .error f s => leave job { s with store := settle env job f s.store }

end

end HomeAddons.Controller
