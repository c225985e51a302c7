import HomeAddons.Common.IsoZone
import HomeAddons.Common.Pattern
import HomeAddons.Common.Words
import HomeAddons.Gateway.RemoteWork

/-!
# Weixin Gateway: `/work` commands

A message that begins with `/work` is parsed into a command, of which a document is built: for the
Runner Manager (`remote_work_v2.py`) or for the agent of the first version (`remote_work.py`). Both
grammars are alike and bound an instruction in characters; both builders check the document again
and bound its encoding in bytes.

* `selectWorkRoute`, `buildRunnerManagerRequest`: the second version.
* `V1.parseWorkCommand`, `V1.buildCommandDocument`: the first version.
-/

namespace HomeAddons.Gateway.WorkCommands

open HomeAddons.Common RemoteWork

/-! ## Commands -/

inductive Operation where
  | start
  | status
  | continue
  | cancel
  deriving DecidableEq

def Operation.text : Operation → String
  | .start => "start"
  | .status => "status"
  | .continue => "continue"
  | .cancel => "cancel"

/-- `WorkCommand`, of which both modules have one. -/
structure WorkCommand where
  operation : Operation
  projectAlias : Option String := none
  taskId : Option String := none
  instruction : Option String := none
  deriving DecidableEq

/-- How a parser ends without a command. -/
inductive ParseRaise where
  /-- `WorkCommandError(code, message)`. -/
  | command (code message : String)
  /-- `IndexError`. -/
  | index

def supportedProjects : List String := ["renovation-hub"]

/-- The texts of a line split at whitespace. -/
def tokensOf (text : String) : List String := (words (strip text).toList).map String.ofList

/-- `stripped.split(None, n)[n].strip()`. -/
def instructionOf (n : ℕ) (text : String) : Except ParseRaise String := do
  let rest ← orRaise (splitMax n (strip text).toList)[n]? .index
  return strip (String.ofList rest)

/-- The commands behind `/work`, for both grammars. -/
def parseAction (deployMessage : String) (isTask : String → Bool)
    (validateInstruction : String → Except ParseRaise Unit) (text action : String)
    (tail : List String) : Except ParseRaise WorkCommand :=
  if action = "deploy" then
    .error (.command "production_confirmation_required" deployMessage)
  else if action = "status" then
    match tail with
    | [taskId] =>
      if isTask taskId then .ok { operation := .status, taskId := taskId }
      else .error (.command "work_task_id_invalid" "请使用 /work status <task_id>。")
    | _ => .error (.command "work_task_id_invalid" "请使用 /work status <task_id>。")
  else if action = "cancel" then
    match tail with
    | [taskId] =>
      if isTask taskId then .ok { operation := .cancel, taskId := taskId }
      else .error (.command "work_task_id_invalid" "请使用 /work cancel <task_id>。")
    | _ => .error (.command "work_task_id_invalid" "请使用 /work cancel <task_id>。")
  else if action = "continue" then
    match tail with
    | taskId :: _ :: _ =>
      if isTask taskId then do
        let instruction ← instructionOf 3 text
        validateInstruction instruction
        return { operation := .continue, taskId := taskId, instruction := instruction }
      else .error (.command "work_command_invalid"
        "请使用 /work continue <task_id> <补充要求>。")
    | _ => .error (.command "work_command_invalid" "请使用 /work continue <task_id> <补充要求>。")
  else if action ∉ supportedProjects then
    .error (.command "work_project_unknown" "当前只注册了 renovation-hub 项目别名。")
  else if tail = [] then
    .error (.command "work_instruction_required" "开发任务不能为空。")
  else do
    let instruction ← instructionOf 2 text
    validateInstruction instruction
    return { operation := .start, projectAlias := action, instruction := instruction }

/-- A text whose first word is `/work`; other texts remain ordinary chat. -/
def parseText (deployMessage : String) (isTask : String → Bool)
    (validateInstruction : String → Except ParseRaise Unit) (text : String) :
    Except ParseRaise (Option WorkCommand) :=
  match tokensOf text with
  | "/work" :: action :: tail =>
    some <$> parseAction deployMessage isTask validateInstruction text action tail
  | ["/work"] => .error (.command "work_command_invalid" "请使用 /work renovation-hub <任务>。")
  | _ => .ok none

/-! ## What an instruction of the second version must not name -/

section Forbidden

open Pattern

/-- What `\b` tells apart of the characters outside of ASCII: `c.isalnum()`. -/
abbrev WordChars := Char → Bool

/-- `\w`. -/
def isWord (isAlnum : WordChars) (c : Char) : Bool := c.isAlphanum || c = '_' || isAlnum c

/-- `(?:^|c)p` somewhere in the text. -/
def behind {α : Type} (c : Char → Bool) (p : Pattern α) (text : List Char) : Bool :=
  !(p text).isEmpty || text.tails.any fun
    | x :: rest => c x && !(p rest).isEmpty
    | [] => false

/-- `p` somewhere in the text. -/
def somewhere {α : Type} (p : Pattern α) (text : List Char) : Bool :=
  text.tails.any fun rest => !(p rest).isEmpty

/-- A character of a class. -/
def one (c : Char → Bool) : Pattern String := chars c 1 (some 1)

/-- `[\s,{]`. -/
def opensItem (c : Char) : Bool := isPySpace c || c = ',' || c = '\x7b'

/-- `--?(?:names)(?:\s|=|:)`. -/
def flag (names : List String) : Pattern String := do
  let _ ← lit "-"
  let _ ← opt (lit "-")
  let _ ← oneOf names
  one fun c => isPySpace c || c = '=' || c = ':'

/-- `['"]?(?:names)['"]?\s*[:=]`. -/
def assignment (names : List String) : Pattern String := do
  let _ ← opt (one fun c => c = '\'' || c = '"')
  let _ ← oneOf names
  let _ ← opt (one fun c => c = '\'' || c = '"')
  let _ ← chars isPySpace 0 none
  one fun c => c = ':' || c = '='

/-- `[/\\]`. -/
def slash : Pattern String := one fun c => c = '/' || c = '\\'

/-- `[A-Za-z0-9._-]`, of a text in small letters. -/
def isPathChar (c : Char) : Bool := c.isLower || c.isDigit || c = '.' || c = '_' || c = '-'

/-- `\.\.?[/\\]|~[/\\]|[A-Za-z]:[/\\]|\\\\`. -/
def pathStart : Pattern String :=
  (do
    let _ ← lit "."
    let _ ← opt (lit ".")
    slash) <|>
  (do
    let _ ← lit "~"
    slash) <|>
  (do
    let _ ← one Char.isLower
    let _ ← lit ":"
    slash) <|>
  lit "\\\\"

/-- `/(?:[A-Za-z0-9._-]+/)+[A-Za-z0-9._-]+`; a search finds it where it finds one round of the
    group. -/
def absolutePath : Pattern String := do
  let _ ← lit "/"
  let _ ← chars isPathChar 1 none
  let _ ← lit "/"
  chars isPathChar 1 none

/-- `(?:bash|…|cmd(?:\.exe)?)\s+-?c\b`. -/
def shellCall (isAlnum : WordChars) : Pattern Unit := do
  let _ ← oneOf ["bash", "zsh", "sh", "fish", "powershell", "pwsh", "cmd.exe", "cmd"]
  let _ ← chars isPySpace 1 none
  let _ ← opt (lit "-")
  let _ ← lit "c"
  fun rest => if rest.head?.any (isWord isAlnum) then [] else [((), rest)]

/-- `git@[^\s:]+:`. -/
def gitAddress : Pattern String := do
  let _ ← lit "git@"
  let _ ← chars (fun c => !isPySpace c && c ≠ ':') 1 none
  lit ":"

/-- `$`. -/
def atEnd : Pattern String := fun rest => if rest.isEmpty then [("", rest)] else []

/-- `--?deploy(?:\s|=|:|$)`. -/
def deployFlag : Pattern String := do
  let _ ← lit "-"
  let _ ← opt (lit "-")
  let _ ← lit "deploy"
  one (fun c => isPySpace c || c = '=' || c = ':') <|> atEnd

/-- `_FORBIDDEN_INSTRUCTION_PATTERNS` on a text in small letters, each with its code and its
    message. A `\b` before a letter asks for no letter in front of it. -/
def forbiddenPatterns (isAlnum : WordChars) : List (String × String × (List Char → Bool)) :=
  let paths := ["path", "cwd", "worktree"]
  let commands := ["shell", "command", "cmd"]
  let refs := ["gitref", "git-ref", "git_ref", "ref", "branch", "tag"]
  let remotes := ["remote", "repo", "repository"]
  let isBoundary := fun c => !isWord isAlnum c
  [("work_path_forbidden", "微信任务不能指定任意路径或工作树。", fun text =>
      behind isPySpace (flag paths) text || behind opensItem (assignment paths) text ||
        behind isPySpace pathStart text || behind isPySpace absolutePath text),
    ("work_shell_forbidden", "微信任务不能指定 Shell 或任意命令。", fun text =>
      behind isPySpace (flag commands) text || behind opensItem (assignment commands) text ||
        behind isPySpace (shellCall isAlnum) text || somewhere (oneOf ["$(", "\x60"]) text),
    ("work_model_forbidden", "微信任务不能指定模型。", fun text =>
      behind opensItem (oneOf ["--model", "-model"]) text ||
        behind opensItem (assignment ["model"]) text),
    ("work_sandbox_forbidden", "微信任务不能指定 sandbox。", fun text =>
      behind opensItem (oneOf ["--sandbox", "-sandbox"]) text ||
        behind opensItem (assignment ["sandbox"]) text),
    ("work_git_ref_forbidden", "微信任务不能指定 Git ref、分支或标签。", fun text =>
      behind isPySpace (flag refs) text || behind opensItem (assignment refs) text ||
        behind isBoundary (oneOf ["refs/heads/", "refs/tags/"]) text),
    ("work_remote_forbidden", "微信任务不能指定仓库 remote、URL 或网络地址。", fun text =>
      behind isPySpace (flag remotes) text || behind opensItem (assignment remotes) text ||
        somewhere (oneOf ["https://", "http://", "ssh://"]) text ||
        behind isBoundary gitAddress text || behind isPySpace (lit "origin/") text),
    ("production_confirmation_required", "微信任务不能请求部署；生产发布需要独立受控确认。",
      behind isPySpace deployFlag)]

end Forbidden

/-- The small letter that a letter matches where the case is ignored; four letters outside of ASCII
    match `i`, `s` and `k`. -/
def ignoreCase (c : Char) : Char :=
  if c.toNat = 0x130 ∨ c.toNat = 0x131 then 'i'
  else if c.toNat = 0x17F then 's'
  else if c.toNat = 0x212A then 'k'
  else c.toLower

/-- `_has_forbidden_control(value)`. -/
def hasForbiddenControl (value : String) : Bool :=
  value.toList.any fun c => c.toNat < 32 && c ≠ '\n' && c ≠ '\r' && c ≠ '\t'

/-! ## The second version -/

/-- The checks of `_validate_instruction_value(value)`, with the code and the message of the
    error. -/
def checkInstruction (isAlnum : WordChars) (value : Json) : Except (String × String) String := do
  let text ← orRaise (value.asStr?.filter fun s => strip s ≠ "")
    ("work_instruction_required", "开发任务不能为空。")
  ensure (text.length ≤ 12000) ("work_instruction_too_long", "开发任务不能超过 12000 个字符。")
  ensure (hasForbiddenControl text = false)
    ("work_instruction_invalid", "开发任务包含无效控制字符。")
  let small := text.toList.map ignoreCase
  match (forbiddenPatterns isAlnum).find? fun p => p.2.2 small with
  | some (code, message, _) => .error (code, message)
  | none => return text

/-- `_validate_instruction_value(value)`. -/
def validateInstructionValue (isAlnum : WordChars) (value : Json) : Except Refusal String :=
  (checkInstruction isAlnum value).mapError fun e => .validation e.1 e.2

/-- `_validate_instruction(instruction)`. -/
def validateInstruction (isAlnum : WordChars) (instruction : String) : Except ParseRaise Unit :=
  ((checkInstruction isAlnum (.str instruction)).mapError fun e => .command e.1 e.2).map fun _ => ()

/-- `[A-Za-z0-9][A-Za-z0-9._:-]{0,most}`. -/
def isOpaque (most : ℕ) (cs : List Char) : Bool :=
  matchesTail Char.isAlphanum (fun c => c.isAlphanum || "._:-".toList.contains c) 0 most cs

/-- `_TASK_ID_RE`. -/
def isTaskId (text : String) : Bool :=
  match "RW-".toList.isPrefixOf? text.toList with
  | some cs => isOpaque 124 cs
  | none => false

/-- `is_exact_work_command(text)`. -/
def isExactWorkCommand (text : Json) : Bool :=
  text.asStr?.any fun s => ((splitMax 1 (strip s).toList)[0]?).any fun w => w = "/work".toList

/-- `parse_work_command(text)`. -/
def parseWorkCommand (isAlnum : WordChars) (text : String) :
    Except ParseRaise (Option WorkCommand) :=
  parseText "Runner Manager 不接受微信部署命令；生产发布需要独立受控确认。" isTaskId
    (validateInstruction isAlnum) text

inductive Route where
  | ordinary
  | v1
  | v2
  | reject
  deriving DecidableEq

/-- `RouteDecision`. -/
structure RouteDecision where
  route : Route
  reason : String
  command : Option WorkCommand := none
  errorCode : Option String := none
  publicMessage : Option String := none
  deriving DecidableEq

/-- `_rejected(code, message, reason=…)`. -/
def rejected (code message reason : String) : RouteDecision where
  route := .reject
  reason := reason
  errorCode := code
  publicMessage := message

/-- `select_work_route(text, role=…, has_attachments=…, v2_enabled=…, v1_available=…)`; `none` is an
    exception. -/
def selectWorkRoute (isAlnum : WordChars) (text : Json) (role : String)
    (hasAttachments v2Enabled v1Available : Bool) : Option RouteDecision :=
  if isExactWorkCommand text = false then
    some { route := .ordinary, reason := "not_exact_work_command" }
  else if v2Enabled = false then
    if v1Available then some { route := .v1, reason := "v2_disabled_v1_selected" }
    else some (rejected "remote_work_disabled" "Remote Work 当前未启用；普通微信消息不受影响。"
      "v2_disabled_v1_unavailable")
  else
    match parseWorkCommand isAlnum (text.asStr?.getD "") with
    | .error (.command code message) => some (rejected code message "v2_command_rejected")
    | .error .index => none
    | .ok none => none
    | .ok (some command) =>
      if hasAttachments then some (rejected "work_attachments_unsupported"
        "Runner Manager 命令不能携带附件；请把要求写在命令正文中。" "v2_attachment_rejected")
      else if role ≠ "owner" then
        some (rejected "work_owner_required" "当前账号没有 /work 权限。" "v2_owner_required")
      else some { route := .v2, reason := "v2_selected", command := command }

/-- `_validate_opaque_id(value, name)`. -/
def validateOpaqueId (value name : String) : Except Refusal Unit :=
  ensure (isOpaque 255 value.toList = true)
    (.validation "source_id_invalid" (name ++ " is invalid"))

/-- `build_request_id(identity_id=…, message_id=…)`. -/
def buildRequestId (identityId messageId : String) : Except Refusal String := do
  validateOpaqueId identityId "identity_id"
  validateOpaqueId messageId "message_id"
  let digest := sha256Hex
    ("weixin-runner-manager-v2\x00" ++ identityId ++ "\x00" ++ messageId)
  return "WRV2-" ++ String.ofList (digest.toList.take 32)

/-- `_REQUEST_ID_RE`. -/
def isRequestId (text : String) : Bool :=
  match "WRV2-".toList.isPrefixOf? text.toList with
  | some cs => cs.all isLowerHex && cs.length = 32
  | none => false

/-- `_normalise_principal_hash(value)`. -/
def normalisePrincipalHash (value : Json) : Except Refusal String := do
  let error := .validation "source_invalid" "principal hash is invalid"
  let text ← orRaise value.asStr? error
  let digest := ("sha256:".toList.isPrefixOf? text.toList).getD text.toList
  ensure (digest.all isLowerHex = true ∧ digest.length = 64) error
  return "sha256:" ++ String.ofList digest

/-- `required_by_operation`. -/
def requiredFields : List (String × List String) :=
  let common := ["version", "request_id", "operation", "source"]
  [("start", common ++ ["project_alias", "instruction"]), ("status", common ++ ["task_id"]),
    ("continue", common ++ ["task_id", "instruction"]), ("cancel", common ++ ["task_id"])]

/-- `validate_runner_manager_request(payload)`. -/
def validateRunnerManagerRequest (isAlnum : WordChars) (payload : Dict) : Except Refusal Dict := do
  let operation := payload.get "operation"
  ensureIn operation (requiredFields.map Prod.fst)
    (.validation "operation_invalid" "Runner Manager operation is invalid")
  let required := (requiredFields.lookup (operation.asStr?.getD "")).getD []
  ensure (payload.keysAre required = true) (invalid "Runner Manager request fields are invalid")
  ensure ((payload.get "version").eqInt 2 = true)
    (.validation "version_unsupported" "Runner Manager version is unsupported")
  ensure ((payload.get "request_id").asStr?.any isRequestId = true)
    (.validation "request_id_invalid" "Runner Manager request ID is invalid")
  let source ← orRaise ((payload.get "source").asDict?.filter fun d =>
      d.keysAre ["channel", "principal_hash", "role"])
    (.validation "source_invalid" "Runner Manager source is invalid")
  ensure ((source.get "channel").eqStr "weixin" = true ∧ (source.get "role").eqStr "owner" = true)
    (.validation "source_invalid" "Runner Manager source is invalid")
  let _ ← normalisePrincipalHash (source.get "principal_hash")
  if operation.eqStr "start" then do
    ensureIn (payload.get "project_alias") supportedProjects
      (.validation "work_project_unknown" "Runner Manager project is unknown")
    let _ ← validateInstructionValue isAlnum (payload.get "instruction")
  else do
    ensure ((payload.get "task_id").asStr?.any isTaskId = true)
      (.validation "work_task_id_invalid" "Runner Manager task ID is invalid")
    if operation.eqStr "continue" then
      let _ ← validateInstructionValue isAlnum (payload.get "instruction")
  ensure ((canonical (.obj payload)).utf8ByteSize ≤ 32768)
    (.validation "payload_too_large" "Runner Manager document is too large")
  return payload

/-- `RunnerManagerRequest`. -/
structure RunnerManagerRequest where
  method : String := "POST"
  path : String := "/internal/v2/runner-manager/work"
  requestId : String
  body : Dict
  bodyDigest : String

/-- The body that `build_runner_manager_request` puts together. -/
def requestBody (command : WorkCommand) (requestId principalHash : String) : Dict :=
  let source : Dict := [("channel", .str "weixin"), ("principal_hash", .str principalHash),
    ("role", .str "owner")]
  let common : Dict := [("version", .int 2), ("request_id", .str requestId),
    ("operation", .str command.operation.text), ("source", .obj source)]
  match command.operation with
  | .start => common ++ [("project_alias", optionalText command.projectAlias),
      ("instruction", optionalText command.instruction)]
  | .continue => common ++ [("task_id", optionalText command.taskId),
      ("instruction", optionalText command.instruction)]
  | .status | .cancel => common ++ [("task_id", optionalText command.taskId)]

/-- `build_runner_manager_request(command, identity_id=…, message_id=…, principal_hash=…)`. -/
def buildRunnerManagerRequest (isAlnum : WordChars) (command : WorkCommand)
    (identityId messageId principalHash : String) : Except Refusal RunnerManagerRequest := do
  let requestId ← buildRequestId identityId messageId
  let principalHash ← normalisePrincipalHash (.str principalHash)
  let validated ← validateRunnerManagerRequest isAlnum
    (requestBody command requestId principalHash)
  return {
    requestId := requestId
    body := validated
    bodyDigest := "sha256:" ++ sha256Hex (canonical (.obj validated)) }

/-! ## The first version -/

namespace V1

/-- `_validate_instruction(instruction)`. -/
def validateInstruction (instruction : String) : Except ParseRaise Unit := do
  ensure (instruction ≠ "") (.command "work_instruction_required" "开发任务不能为空。")
  ensure (instruction.length ≤ 12000)
    (.command "work_instruction_too_long" "开发任务不能超过 12000 个字符。")

/-- `parse_work_command(text)`. -/
def parseWorkCommand (text : String) : Except ParseRaise (Option WorkCommand) :=
  parseText "微信远程开发 V1 不执行部署；请另行建立生产发布包并确认目标。" RemoteWork.isTaskId
    validateInstruction text

/-- `_MESSAGE_ID_RE`. -/
def isMessageId (text : String) : Bool :=
  matchesTail Char.isAlphanum (fun c => c.isAlphanum || "._:-".toList.contains c) 7 127 text.toList

/-- `_parse_time(value, name)`. -/
def timeOf (value : Json) (name : String) : Except Refusal Instant := do
  let text ← orRaise value.asStr? (invalid (name ++ " is invalid"))
  let (wall, offset) ← orRaise (fromIsoformat text) (invalid (name ++ " is invalid"))
  let offset ← orRaise offset (invalid (name ++ " needs a timezone"))
  return wall - offset

/-- `_validate_common(payload, id_field=…)`. -/
def validateCommon (payload : Dict) (idField : String) : Except Refusal Unit := do
  ensure ((payload.get "version").eqInt 1 = true)
    (.validation "version_unsupported" "version is unsupported")
  ensure ((payload.get idField).asStr?.any isMessageId = true)
    (.validation "message_id_invalid" "message id is invalid")
  ensure ((payload.get "task_id").asStr?.any RemoteWork.isTaskId = true)
    (.validation "task_id_invalid" "task id is invalid")
  let created ← timeOf (payload.get "created_at") "created_at"
  let expires ← timeOf (payload.get "expires_at") "expires_at"
  ensure (created < expires ∧ expires - created ≤ 3600 * 1000000)
    (.validation "expiry_invalid" "expiry window is invalid")
  ensure ((String.ofList (printed (.obj payload))).utf8ByteSize ≤ 32768)
    (.validation "payload_too_large" "payload is too large")

/-- `_validate_instruction_value(value)`. -/
def validateInstructionValue (value : Json) : Except Refusal Unit :=
  ensure (value.asStr?.any (fun s => strip s ≠ "" ∧ s.length ≤ 12000) = true)
    (.validation "instruction_invalid" "instruction is invalid")

/-- The topics of the commands. -/
inductive CommandTopic where
  | request
  | control
  deriving DecidableEq

def requestFields : List String :=
  ["version", "message_id", "task_id", "created_at", "expires_at", "project_alias", "operation",
    "instruction", "source", "authority"]

def controlFields : List String :=
  ["version", "control_id", "task_id", "created_at", "expires_at", "action", "source", "authority"]

/-- `validate_outgoing_document(topic, payload)`. -/
def validateOutgoingDocument (topic : CommandTopic) (payload : Dict) : Except Refusal Dict := do
  let required := match topic with
    | .request => requestFields
    | .control =>
      if (payload.get "action").eqStr "continue" then controlFields ++ ["instruction"]
      else controlFields
  ensure (payload.keysAre required = true) (invalid "Remote Work command fields are invalid")
  validateCommon payload (if topic = .request then "message_id" else "control_id")
  ensure ((payload.get "authority").eqStr "owner_local_development_v1" = true)
    (.validation "authority_invalid" "authority is invalid")
  let source ← orRaise ((payload.get "source").asDict?.filter fun d =>
      d.keysAre ["channel", "principal_hash", "role"])
    (.validation "source_invalid" "source is invalid")
  ensure ((source.get "channel").eqStr "weixin" = true ∧ (source.get "role").eqStr "owner" = true)
    (.validation "source_invalid" "source is invalid")
  ensure ((source.get "principal_hash").asStr?.any isResultHash = true)
    (.validation "source_invalid" "principal hash is invalid")
  match topic with
  | .request => do
    ensure ((payload.get "operation").eqStr "start" = true)
      (.validation "operation_invalid" "request operation is invalid")
    ensureIn (payload.get "project_alias") supportedProjects
      (.validation "operation_invalid" "request operation is invalid")
    validateInstructionValue (payload.get "instruction")
  | .control => do
    ensureIn (payload.get "action") ["continue", "cancel"]
      (.validation "operation_invalid" "control operation is invalid")
    if (payload.get "action").eqStr "continue" then
      validateInstructionValue (payload.get "instruction")
    else ensure (payload.has "instruction" = false) (invalid "cancel instruction is forbidden")
  return payload

/-- How `build_command_document` ends without a document. -/
inductive BuildRaise where
  | refused (e : Refusal)
  /-- `OverflowError`, from a time after the year 9999. -/
  | overflow
  /-- `ValueError("status commands do not create MQTT documents")`. -/
  | value

/-- The document of a command; `created` and `expires` are the texts of the times. -/
def commandDocument (command : WorkCommand)
    (messageId taskId principalHash created expires : String) : Dict :=
  let source : Dict := [("channel", .str "weixin"),
    ("principal_hash", .str ("sha256:" ++ principalHash)), ("role", .str "owner")]
  match command.operation with
  | .start =>
    [("version", .int 1), ("message_id", .str messageId), ("task_id", .str taskId),
      ("created_at", .str created), ("expires_at", .str expires),
      ("project_alias", optionalText command.projectAlias), ("operation", .str "start"),
      ("instruction", optionalText command.instruction), ("source", .obj source),
      ("authority", .str "owner_local_development_v1")]
  | operation =>
    [("version", .int 1), ("control_id", .str messageId), ("task_id", .str taskId),
      ("created_at", .str created), ("expires_at", .str expires),
      ("action", .str operation.text), ("source", .obj source),
      ("authority", .str "owner_local_development_v1")] ++
      if operation = .continue then [("instruction", optionalText command.instruction)] else []

/-- `build_command_document(command, message_id=…, task_id=…, principal_hash=…, now=…,
    ttl_seconds=…)`; `now` is a local time with its offset in minutes. -/
def buildCommandDocument (command : WorkCommand) (messageId taskId principalHash : String)
    (now : ℤ) (offset : ℤ) (ttlSeconds : ℤ) : Except BuildRaise (CommandTopic × Dict) := do
  let created := isoformatAt offset now
  ensure (inYears (now + ttlSeconds * 1000000) = true) .overflow
  let expires := isoformatAt offset (now + ttlSeconds * 1000000)
  ensure (command.operation ≠ .status) .value
  let topic := if command.operation = .start then CommandTopic.request else .control
  match validateOutgoingDocument topic
      (commandDocument command messageId taskId principalHash created expires) with
  | .ok document => return (topic, document)
  | .error e => throw (.refused e)

end V1

end HomeAddons.Gateway.WorkCommands
