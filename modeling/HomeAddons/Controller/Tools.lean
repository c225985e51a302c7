import HomeAddons.Common.Stoppable
import HomeAddons.Controller.Confirmations
import HomeAddons.Controller.Notices

/-!
# Codex Controller: the tools that a dispatch calls itself

`ToolRouter` (`tool_proxy.py`) for the memos and the car: which tools there are and who may call
them, the requests, and what is made of the answers. What a service does and answers is part of the
surroundings; the requests that took effect are counted in the state.

* `authorizeTool`, `availableTools`: the policy.
* `MemoRequest`, `requestMemoJson`, `requestHomeAssistant`: one request of a service.
* `call`: a tool call of `_dispatch`.
-/

namespace HomeAddons.Controller

open HomeAddons.Common

/-! ## Definitions -/

inductive ToolService where
  | renovationHub
  | operationsBroker
  | familyMemo
  | prepareCar
  deriving DecidableEq

/-- `ToolDefinition`, as far as the router reads it. -/
structure ToolDefinition where
  name : String
  service : ToolService
  transport : String
  requiresJobContext : Bool
  idempotentWrite : Bool

/-- `_memo(name, …)`. -/
def memoTool (name : String) (readOnly : Bool) : ToolDefinition :=
  ⟨name, .familyMemo, "json", !readOnly, name = "memo_create"⟩

/-- `_operation(name, …)`. -/
def operationTool (name : String) : ToolDefinition := ⟨name, .operationsBroker, "json", false, false⟩

/-- `_aito(name, …)`. -/
def aitoTool (name : String) (readOnly : Bool) : ToolDefinition :=
  ⟨name, .prepareCar, "json", true, !readOnly⟩

/-- `MEMO_DEFINITIONS`. -/
def memoDefinitions : List ToolDefinition :=
  [memoTool "memo_create" false, memoTool "memo_list" true, memoTool "memo_update" false,
    memoTool "memo_complete" false, memoTool "memo_cancel" false]

/-- `OPERATION_DEFINITIONS`. -/
def operationDefinitions : List ToolDefinition :=
  ["ha_operations_propose_restart", "ha_operations_authorization_request",
    "ha_operations_authorization_status", "ha_operations_execute_restart",
    "ha_operations_execution_status"].map operationTool

/-- `AITO_PREPARE_CAR_DEFINITIONS`. -/
def prepareCarDefinitions : List ToolDefinition :=
  [aitoTool "aito_prepare_car_status" true, aitoTool "aito_prepare_car_request" false,
    aitoTool "aito_prepare_car_execute" false]

/-- `PREPARE_CAR_TOOL_NAMES`. -/
def prepareCarToolNames : List String := prepareCarDefinitions.map (·.name)

/-- `MEMBER_ALLOWED_TOOL_NAMES`. -/
def memberAllowedToolNames : List String :=
  ["ledger_show", "ledger_query", "ledger_summary", "renovation_dashboard",
    "renovation_project_list", "renovation_stage_list", "renovation_area_list",
    "renovation_timeline", "memo_list"]

/-- The names that `TOOL_NAME_RE` accepts begin so. -/
def isHubName (name : String) : Bool :=
  "ledger_".toList.isPrefixOf name.toList || "renovation_".toList.isPrefixOf name.toList

/-- A definition of a validated manifest. -/
structure HubDefinition extends ToolDefinition where
  isHub : service = .renovationHub
  named : isHubName name = true

/-- What the router is started with: which services have an address and credentials. -/
structure RouterConfig where
  hub : Bool
  gateway : Bool
  operations : Bool
  memo : Bool
  prepareCar : Bool

/-- `tool_definitions()`. -/
def toolDefinitions (hub : List HubDefinition) : List ToolDefinition :=
  hub.map (·.toToolDefinition) ++ memoDefinitions ++ operationDefinitions ++ prepareCarDefinitions

/-- `_tool_definition(name)`. -/
def toolDefinition? (hub : List HubDefinition) (name : String) : Option ToolDefinition :=
  (toolDefinitions hub).find? fun d => d.name = name

/-- A definition is of a configured service (lines 298–313). -/
def RouterConfig.configures (config : RouterConfig) (d : ToolDefinition) : Bool :=
  match d.service with
  | .renovationHub => config.hub && (d.transport ≠ "gateway_attachment" || config.gateway)
  | .operationsBroker => config.operations
  | .familyMemo => config.memo
  | .prepareCar => config.prepareCar

/-- `configured_tools()`. -/
def configuredTools (config : RouterConfig) (hub : List HubDefinition) : List String :=
  ((toolDefinitions hub).filter config.configures).map (·.name)

/-- `available_tools(capability_profile, media_archive_authorized=…)` (lines 320–339); `policy` is
    the snapshot, which may not be readable. -/
def availableTools (config : RouterConfig) (hub : List HubDefinition)
    (policy : Option (List String)) (profile : CapabilityProfile) (archive : Bool) : List String :=
  match policy with
  | none => []
  | some enabled => ((configuredTools config hub).filter enabled.contains).filter fun name =>
      (match profile with
        | .memberReadOnly => memberAllowedToolNames.contains name
        | .ownerLegacy => !prepareCarToolNames.contains name
        | .owner => true) && (archive || name ≠ "renovation_media_ingest")

/-- `raise ToolProxyError("tool_not_allowed_for_profile", message)`. -/
def notAllowed (message : String) : Fault := .tool "tool_not_allowed_for_profile" message

/-- `_authorize_tool(name)` (lines 602–635). -/
def authorizeTool (config : RouterConfig) (hub : List HubDefinition) (policy : Option (List String))
    (context : Option ToolContext) (name : String) : Except Fault ToolDefinition := do
  let d ← orRaise (toolDefinition? hub name) (.tool "unknown_tool" "工具不在允许清单")
  let profile := context.map (·.capabilityProfile)
  ensure (name ∈ prepareCarToolNames → profile = some .owner)
    (notAllowed "只有 owner 可以调用备车工具")
  ensure (profile = some .memberReadOnly → name ∈ memberAllowedToolNames)
    (notAllowed "当前微信成员没有调用该工具的权限")
  ensure (name ∈ configuredTools config hub) (.tool "tool_unconfigured" "工具所属内部服务未配置")
  let enabled ← orRaise policy (.tool "tool_policy_invalid" "工具策略不可用")
  ensure (name ∈ enabled) (.tool "tool_disabled" "工具已由管理员关闭")
  ensure (d.requiresJobContext = true → context.isSome = true)
    (.tool "tool_context_unavailable" "该工具只能在活动 Controller 作业中调用")
  ensure (d.transport = "gateway_media_stream" →
      context.bind (·.mediaArchiveAuthorized) ≠ some false)
    (.tool "media_archive_not_authorized" "只有用户明确请求归档到装修档案时才能保存该附件")
  return d

/-! ## Answers of a service -/

/-- The body of an answer, as it is read. -/
inductive Reply where
  | tooLarge
  /-- Not JSON. -/
  | invalid
  /-- `json.loads` raises something else. -/
  | unreadable
  | document (v : Json)

/-- How a request ends: the service does what it was asked and its answer is read, it refuses with
    an HTTP status, or it does what it was asked and the answer is lost. -/
inductive Exchange where
  | answered (reply : Reply)
  /-- The body is `none` unless it is a JSON document of the right type and size. -/
  | refused (status : ℕ) (body : Option Json)
  /-- `URLError`, `TimeoutError` or `OSError`, and otherwise any other exception. -/
  | lost (unavailable : Bool)

/-- The service did what it was asked. -/
def Exchange.tookEffect : Exchange → Bool
  | .refused .. => false
  | _ => true

/-- `SAFE_UPSTREAM_ERROR_CODES`. -/
def safeUpstreamErrorCodes : List String :=
  ["area_not_found", "attachment_consumed", "attachment_digest_mismatch", "attachment_expired",
    "attachment_invalid", "attachment_missing", "attachment_not_found", "idempotency_conflict",
    "invalid_amount", "invalid_date", "invalid_date_range", "invalid_datetime",
    "invalid_idempotency_key", "invalid_input", "invalid_content", "invalid_due_at",
    "invalid_memo_id", "invalid_patch", "invalid_priority", "invalid_tags", "media_invalid",
    "media_link_invalid", "media_missing", "media_not_found", "media_not_ready",
    "media_size_invalid", "media_type_rejected", "memo_not_found", "payment_has_refunds",
    "payment_not_found", "project_not_found", "refund_exceeds_payment", "stage_not_found",
    "transaction_not_found", "version_conflict", "version_required", "writer_disabled"]

/-- A control character. -/
def isControl (c : Char) : Bool := c.toNat < 32 || c.toNat = 127

/-- `_safe_structured_http_error(exc)` (lines 1112–1143). -/
def safeStructuredHttpError (status : ℕ) (body : Option Json) : Option Fault := do
  let document ← body.bind (·.asDict?)
  let error ← (document.get "error").asDict?
  let code ← (error.get "code").asStr?
  let message ← (error.get "message").asStr?
  if [400, 404, 409, 410, 422].contains status ∧ document.keysAre ["error"] = true ∧
      error.keysAre ["code", "message"] = true ∧ safeUpstreamErrorCodes.contains code = true ∧
      1 ≤ message.length ∧ message.length ≤ 500 ∧ message = strip message ∧
      message.toList.any isControl = false then
    return .tool code message
  else none

/-- `_request_memo_json(…)` (lines 1058–1109). -/
def requestMemoJson : Exchange → Except Fault Dict
  | .answered .tooLarge => .error (.tool "memo_response_too_large" "家庭备忘录响应过大")
  | .answered .invalid => .error (.tool "memo_invalid_response" "家庭备忘录响应无效")
  | .answered .unreadable => .error .internal
  | .answered (.document v) =>
    orRaise v.asDict? (.tool "memo_invalid_response" "家庭备忘录响应不是对象")
  | .refused status body => .error (match safeStructuredHttpError status body with
      | some e => e
      | none =>
        if status = 401 then .tool "memo_not_authorized" "家庭备忘录接口认证失败"
        else if status = 503 then .tool "memo_unavailable" "家庭备忘录接口尚未配置"
        else .tool "memo_rejected" s!"家庭备忘录接口拒绝请求：HTTP {status}")
  | .lost true => .error (.tool "memo_unavailable" "家庭备忘录接口不可用")
  | .lost false => .error .internal

/-- `HomeAssistantPrepareCarError(code, outcome_unknown=…)`, or any other exception. -/
inductive CarError where
  | car (code : String) (outcomeUnknown : Bool)
  | internal
  deriving DecidableEq

/-- `request_home_assistant_json(method, …)` (`prepare_car.py` 171–228). -/
def requestHomeAssistant (post : Bool) : Exchange → Except CarError Json
  | .answered .tooLarge => .error (.car "HA_RESPONSE_TOO_LARGE" false)
  | .answered .invalid => .error (.car "HA_RESPONSE_INVALID" post)
  | .answered .unreadable => .error .internal
  | .answered (.document v) => .ok v
  | .refused status _ => .error (.car s!"HA_HTTP_{status}" false)
  | .lost true => .error (.car "HA_API_UNAVAILABLE" post)
  | .lost false => .error .internal

/-! ## Requests for memos -/

/-- A request to the memos. -/
inductive MemoRequest where
  | create (payload : Dict)
  | list (query : List (String × String))
  | update (memoId : String) (payload : Dict)
  | complete (memoId : String)
  | cancel (memoId : String)

/-- All but a listing change the memos. -/
def MemoRequest.isWrite : MemoRequest → Bool
  | .list _ => false
  | _ => true

/-- `raise ToolProxyError("invalid_arguments", message)`. -/
def invalidArguments (message : String) : Fault := .tool "invalid_arguments" message

/-- `_require_allowed_keys(arguments, allowed, required)`. -/
def requireAllowedKeys (arguments : Dict) (allowed required : List String) : Except Fault Unit :=
  ensure (arguments.hasAll required = true ∧ arguments.keysWithin allowed = true)
    (invalidArguments "家庭备忘录工具参数字段不匹配")

/-- `_require_exact_keys(arguments, expected)`. -/
def requireExactKeys (arguments : Dict) (expected : List String) : Except Fault Unit :=
  ensure (arguments.keysAre expected = true) (invalidArguments "工具参数字段不匹配")

/-- `_memo_id(value)`. -/
def memoId (v : Json) : Except Fault String :=
  orRaise (v.asStr?.filter fun s => "memo-".toList.isPrefixOf s.toList && s.length = 37 &&
    (s.toList.drop 5).all isLowerHex) (invalidArguments "备忘录 ID 无效")

/-- `_memo_text(value, field, minimum, maximum)`. -/
def memoText (v : Json) (field : String) (minimum maximum : ℕ) : Except Fault String := do
  let text ← orRaise v.asStr? (invalidArguments s!"{field} 必须是字符串")
  ensure (minimum ≤ (strip text).length ∧ (strip text).length ≤ maximum)
    (invalidArguments s!"{field} 长度无效")
  return strip text

/-- `MEMO_DUE_AT_RE`. -/
def memoDueAt : Pattern Unit := do
  let _ ← Pattern.chars isDecimal 4 (some 4)
  let _ ← Pattern.lit "-"
  let _ ← Pattern.chars isDecimal 2 (some 2)
  let _ ← Pattern.lit "-"
  let _ ← Pattern.chars isDecimal 2 (some 2)
  let _ ← Pattern.lit "T"
  let _ ← Pattern.chars isDecimal 2 (some 2)
  let _ ← Pattern.lit ":"
  let _ ← Pattern.chars isDecimal 2 (some 2)
  let _ ← Pattern.lit ":"
  let _ ← Pattern.chars isDecimal 2 (some 2)
  let _ ← Pattern.lit "+08:00"
  return ()

/-- A field that is present, checked. -/
def memoField (arguments : Dict) (field : String) (check : Json → Except Fault Json) :
    Except Fault Dict :=
  if arguments.has field then do
    let v ← check (arguments.get field)
    return [(field, v)]
  else .ok []

/-- `None`, or a text between two lengths. -/
def memoTextOrNone (field : String) (maximum : ℕ) (v : Json) : Except Fault Json :=
  if v.isNull then .ok .null else do
    let text ← memoText v field 1 maximum
    return .str text

/-- `_normalize_memo_fields(arguments, allow_id=…, require_change=…)` (lines 929–958); an unhashable
    priority is a `TypeError`. -/
def normalizeMemoFields (arguments : Dict) (allowId requireChange : Bool) : Except Fault Dict := do
  let title ← memoField arguments "title" (memoTextOrNone "title" 200)
  let content ← memoField arguments "content" fun v => do
    let text ← memoText v "content" 1 2000
    return .str text
  let priority ← memoField arguments "priority" fun v => do
    let known ← orRaise (v.inStrings ["low", "normal", "high", "urgent"]) .internal
    ensure (known = true) (invalidArguments "priority 不在允许范围")
    return v
  let category ← memoField arguments "category" (memoTextOrNone "category" 100)
  let dueAt ← memoField arguments "due_at" fun v => do
    ensure (v.isNull = true ∨ (v.asStr?.any fun s => (Pattern.fullmatch memoDueAt s).isSome) = true)
      (invalidArguments "due_at 必须使用 Asia/Shanghai ISO 8601 时间")
    return v
  let payload := title ++ content ++ priority ++ category ++ dueAt
  ensure (requireChange = true → payload ≠ [])
    (invalidArguments "修改备忘录至少需要一个变更字段")
  ensure (allowId = true ∨ arguments.has "id" = false) (invalidArguments "新增备忘录不接受 id")
  return payload

/-- `_memo_source_message_id()`. -/
def memoSourceMessageId (context : Option ToolContext) : Except Fault String := do
  let c ← orRaise (context.filter fun c => c.messageId ≠ "")
    (.tool "tool_context_unavailable" "新增备忘录需要当前微信消息上下文")
  return "wechat:" ++ sha256Hex c.messageId

/-- `query` of `memo_list`. -/
def memoListQuery (arguments : Dict) : Except Fault (List (String × String)) := do
  let status := arguments.get "status"
  let known ← orRaise ((if status.isNull then some true else
    status.inStrings ["pending", "completed", "cancelled"])) Fault.internal
  ensure (known = true) (invalidArguments "备忘录状态无效")
  let category ← if (arguments.get "category").isNull then pure none else
    some <$> memoText (arguments.get "category") "category" 1 100
  let date := arguments.get "date"
  ensure (date.isNull = true ∨ date.eqStr "today" = true) (invalidArguments "备忘录日期筛选无效")
  let overdue := arguments.get "overdue"
  ensure (overdue.isNull = true ∨ overdue.asBool?.isSome = true)
    (invalidArguments "overdue 必须是布尔值")
  let limit ← orRaise ((if arguments.has "limit" then (arguments.get "limit").asInt? else some 100)
    |>.filter fun n => 1 ≤ n ∧ n ≤ 100) (invalidArguments "limit 必须在 1 到 100 之间")
  return (status.asStr?.map fun s => ("status", s)).toList ++
    (category.map fun c => ("category", c)).toList ++ (date.asStr?.map fun d => ("date", d)).toList ++
    (overdue.asBool?.map fun b => ("overdue", if b then "true" else "false")).toList ++
    [("limit", toString limit)]

/-- `_memo_call(name, arguments)` up to the request (lines 834–890). -/
def memoRequest (config : RouterConfig) (context : Option ToolContext) (name : String)
    (arguments : Dict) : Except Fault MemoRequest := do
  ensure (name ∈ memoDefinitions.map (·.name))
    (.tool "unknown_tool" "家庭备忘录工具不在允许清单")
  ensure (config.memo = true) (.tool "memo_unavailable" "家庭备忘录接口未配置")
  if name = "memo_create" then
    requireAllowedKeys arguments ["title", "content", "priority", "category", "due_at"] ["content"]
    let payload ← normalizeMemoFields arguments false false
    let source ← memoSourceMessageId context
    return .create (payload ++ [("source", .str "wechat"), ("source_message_id", .str source)])
  else if name = "memo_list" then
    requireAllowedKeys arguments ["status", "category", "date", "overdue", "limit"] []
    return .list (← memoListQuery arguments)
  else if name = "memo_update" then
    requireAllowedKeys arguments ["id", "title", "content", "priority", "category", "due_at"] ["id"]
    let memo ← memoId (arguments.get "id")
    return .update memo (← normalizeMemoFields arguments true true)
  else
    requireAllowedKeys arguments ["id"] ["id"]
    let memo ← memoId (arguments.get "id")
    return if name = "memo_complete" then .complete memo else .cancel memo

end HomeAddons.Controller
