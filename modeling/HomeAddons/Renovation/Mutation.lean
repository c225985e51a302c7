import HomeAddons.Renovation.Ledger

/-!
# Renovation Hub: `mutate`

The unified mutation tool of `hub.py` (lines 600–1033): a preview digests the current documents of
its targets, and an apply that presents the digest writes the patch to one target after the other.
-/

namespace HomeAddons.Renovation

open HomeAddons.Common

/-! ## Arguments -/

/-- `MUTATION_TARGET_TYPES`. -/
inductive TargetType where
  | project | stage | area | event | transaction
  deriving DecidableEq

def TargetType.text : TargetType → String
  | .project => "project"
  | .stage => "stage"
  | .area => "area"
  | .event => "event"
  | .transaction => "transaction"

/-- The target type a text names. -/
def TargetType.ofText? (s : String) : Option TargetType :=
  [TargetType.project, .stage, .area, .event, .transaction].find? fun t => t.text = s

/-- The fields of a target that a patch may name (lines 681–687). -/
def TargetType.patchable : TargetType → List String
  | .project => ["name", "timezone", "budget_cents", "status"]
  | .stage => ["name", "position", "status", "color", "planned_start", "planned_end",
      "actual_start", "actual_end"]
  | .area => ["name", "position", "status"]
  | .event => ["project_id", "stage_id", "area_id", "event_type", "title", "description",
      "occurred_at", "status"]
  | .transaction => ["amount_cents", "occurred_on", "main_category", "merchant", "note",
      "is_deposit", "tags", "grouped_tags", "project_id", "stage_id", "area_id"]

/-- `PROJECT_STATUSES`, `STAGE_STATUSES`, `AREA_STATUSES` and `EVENT_STATUSES`. -/
def TargetType.statuses : TargetType → List String
  | .project => ["active", "completed", "archived"]
  | .stage => ["planned", "active", "completed", "archived"]
  | .area => ["active", "archived"]
  | .event => ["active", "voided"]
  | .transaction => []

/-- `EVENT_TYPES`. -/
def eventTypes : List String := ["progress", "note", "decision", "inspection", "milestone"]

/-- `_choice(value, field, allowed)` for a set of texts. -/
def choiceOf (value : Json) (field : String) (allowed : List String) : Except Raise String :=
  choice value field fun s => if s ∈ allowed then some s else none

/-- `_mutation_target_ids(value)` (lines 661–668). -/
def mutationTargetIds (cfg : Config) (value : Json) : Except Raise (List String) := do
  let error := rejecting "invalid_input" "target_ids 必须是 1 到 100 个 ID"
  let items ← orRaise value.asList? error
  ensure (items ≠ [] ∧ items.length ≤ 100) error
  let result ← items.mapM (text cfg · "target_id" 64 true)
  ensure result.Nodup (rejecting "invalid_input" "target_ids 不能重复")
  return result

/-- `_optional_id(value, field)`. -/
def optionalId (cfg : Config) (value : Json) (field : String) : Except Raise (Option String) :=
  if value.isNull || value.eqStr "" then return none
  else some <$> text cfg value field 64 true

/-- `_datetime(value, "occurred_at")`. -/
def datetime (value : Json) : Except Raise String := do
  let wording := " 必须是带时区的 ISO 8601"
  let s ← orRaise value.asStr? (rejecting "invalid_datetime" ("occurred_at" ++ wording))
  datetimeText s "occurred_at" wording

/-- How many characters a text field may have. -/
def textMaximum (targetType : TargetType) (field : String) : ℕ :=
  match field with
  | "name" => if targetType = .project then 120 else 100
  | "timezone" => 64
  | "color" => 32
  | "main_category" => 80
  | "merchant" => 200
  | "note" => 2000
  | "title" => 160
  | _ => 4000

/-- One field of a patch (lines 696–739). -/
def cleanMutationValue (cfg : Config) (targetType : TargetType) (field : String) (raw : Json) :
    Except Raise Json :=
  match field with
  | "amount_cents" => .int <$> positiveCents raw
  | "budget_cents" => .int <$> integerBetween raw 0 100000000000
      (rejecting "invalid_input" "budget_cents 必须是非负整数分")
  | "occurred_on" => .str <$> validateDate raw "occurred_on"
  | "planned_start" | "planned_end" | "actual_start" | "actual_end" =>
    if raw.isNull || raw.eqStr "" then return .null else .str <$> validateDate raw field
  | "occurred_at" => .str <$> datetime raw
  | "project_id" | "stage_id" | "area_id" =>
    if targetType = .transaction ∨ field ≠ "project_id" then
      optionalStr <$> optionalId cfg raw field
    else .str <$> text cfg raw field 64 true
  | "position" => .int <$> integerBetween raw 0 10000
      (rejecting "invalid_input" "position 必须是 0 到 10000 的整数")
  | "status" => .str <$> choiceOf raw field targetType.statuses
  | "event_type" => .str <$> choiceOf raw field eventTypes
  | "is_deposit" => .bool <$> orRaise raw.asBool?
      (rejecting "invalid_input" "is_deposit 必须是布尔值")
  | "tags" => (fun tags => .arr (tags.map .str)) <$> normalizeTags cfg raw
  | "grouped_tags" => (fun tags => GroupedTags.document tags.2) <$> normalizeGroupedTags cfg raw
  | "name" | "timezone" | "color" | "main_category" | "merchant" | "note" | "title"
  | "description" =>
    .str <$> text cfg raw field (textMaximum targetType field)
      (field = "name" ∨ field = "main_category" ∨ field = "title")
  | _ => .error (rejecting "invalid_input" ("不支持字段：" ++ field))

/-- `clean[field] = …` for one field of a patch. -/
def cleanMutationField (cfg : Config) (targetType : TargetType) (clean : Dict)
    (item : String × Json) : Except Raise Dict :=
  Dict.assigned clean item.1 <$> cleanMutationValue cfg targetType item.1 item.2

/-- `_clean_mutation_patch(target_type, value)` (lines 677–740). -/
def cleanMutationPatch (cfg : Config) (targetType : TargetType) (value : Json) :
    Except Raise Dict := do
  let error := rejecting "invalid_input" "patch 必须是非空对象"
  let patch ← orRaise value.asDict? error
  ensure (patch ≠ []) error
  let unknown := ((patch.map Prod.fst).filter fun field => field ∉ targetType.patchable)
  ensure (unknown = []) (rejecting "invalid_input"
    (targetType.text ++ " 不支持字段：" ++ joinWith ", " (unknown.insertionSort (· ≤ ·))))
  ensure (¬ (patch.has "tags" ∧ patch.has "grouped_tags"))
    (rejecting "invalid_input" "tags 与 grouped_tags 不能同时修改")
  patch.foldlM (cleanMutationField cfg targetType) []

/-- The arguments that a preview and an apply share. -/
structure Mutation where
  targetType : TargetType
  targetIds : List String
  reason : String
  patch : Dict

/-- `mutate`, lines 609–613, without the mode. -/
def mutation (cfg : Config) (payload : Dict) : Except Raise Mutation := do
  let targetType ← choice (payload.get "target_type") "target_type" TargetType.ofText?
  let targetIds ← mutationTargetIds cfg (payload.get "target_ids")
  let reason ← text cfg (payload.get "reason") "reason" 500 true
  let patch ← cleanMutationPatch cfg targetType (payload.get "patch")
  return ⟨targetType, targetIds, reason, patch⟩

/-! ## The candidates -/

/-- The table of a target type other than `transaction`. -/
def Hub.objects (h : Hub) : TargetType → Table HubObject.id
  | .project => h.projects
  | .stage => h.stages
  | .area => h.areas
  | .event => h.events
  | .transaction => Table.empty

def Hub.setObjects (h : Hub) (targetType : TargetType) (table : Table HubObject.id) : Hub :=
  match targetType with
  | .project => { h with projects := table }
  | .stage => { h with stages := table }
  | .area => { h with areas := table }
  | .event => { h with events := table }
  | .transaction => h

def HubObject.document (o : HubObject) : Dict :=
  ("id", .str o.id) :: o.items ++ [("version", .int o.version)]

/-- `_mutation_record(connection, target_type, object_id)` (lines 742–752). -/
def Hub.mutationRecord (h : Hub) (targetType : TargetType) (id : String) : Except Raise Dict :=
  if targetType = .transaction then do
    let row ← orRaise (h.activePayment id) (raising "payment_not_found" "付款不存在或已撤销" 404)
    h.transactionDocument row
  else do
    let o ← orRaise ((h.objects targetType).get? id) (raising "not_found" "对象不存在" 404)
    return o.document

/-- The fields of a patch that go to the context of a transaction. -/
def contextFields : List String := ["project_id", "stage_id", "area_id"]

/-- The `context` of a document, and `{}` for none. -/
def contextOf (document : Dict) : Dict := (document.get "context").asDict?.getD []

/-- A field of the context after a patch. -/
def picked (patch current : Dict) (field : String) : Json :=
  if patch.has field then patch.get field else current.get field

/-- `int(context_before.get("version") or 0) + 1`. -/
def raisedVersion (current : Dict) : Json := .int ((current.get "version").asInt?.getD 0 + 1)

/-- The `context` after a patch (lines 777–808). -/
def candidateContext (before patch : Dict) : Except Raise Json :=
  let current := contextOf before
  if patch.any fun kv => kv.1 ∈ contextFields then do
    let projectId := picked patch current "project_id"
    let stageId := picked patch current "stage_id"
    let areaId := picked patch current "area_id"
    ensure (¬ (projectId.isNull ∧ (truthy stageId ∨ truthy areaId)))
      (rejecting "invalid_input" "没有项目归属时不能保留阶段或空间")
    if projectId.isNull then return .null
    else return .obj [("project_id", projectId), ("stage_id", stageId), ("area_id", areaId),
      ("version", if current = [] then .int 1 else raisedVersion current),
      ("updated_at", current.get "updated_at")]
  else if current = [] then return .null
  else return .obj (Dict.assigned current "version" (raisedVersion current))

/-- A document whose version is that of the context it gets. -/
def withContext (document : Dict) (context : Json) : Dict :=
  let current := context.asDict?.getD []
  Dict.assigned (Dict.assigned document "context" context) "version"
    (if current.has "version" then current.get "version" else .int 1)

/-- `_validate_mutation_candidate(…)` (lines 812–856). -/
def Hub.validateMutationCandidate (h : Hub) (targetType : TargetType) (before after patch : Dict) :
    Except Raise Unit :=
  match targetType with
  | .stage =>
    ensure (¬ ((after.get "status").eqStr "active" ∧ h.stages.rows.any fun o =>
        (before.get "project_id").eqStr? (o.items.get "project_id").asStr? ∧
          (o.items.get "status").eqStr "active" ∧ !(before.get "id").eqStr o.id))
      (raising "stage_active_conflict" "同一项目只能有一个进行中阶段" 409)
  | .event =>
    h.validateContextRefs ((after.get "project_id").asStr?.getD "") (after.get "stage_id").asStr?
      (after.get "area_id").asStr?
  | .transaction => do
    let context := contextOf after
    if context ≠ [] then
      h.validateContextRefs ((context.get "project_id").asStr?.getD "")
        (context.get "stage_id").asStr? (context.get "area_id").asStr?
    ensure (patch.has "amount_cents" →
        h.refunded ((before.get "id").asStr?.getD "") ≤ (patch.get "amount_cents").asInt?.getD 0)
      (raising "refund_exceeds_payment" "付款金额不能低于累计退款" 409)
  | _ => return ()

/-- `_mutation_candidate(…)` (lines 754–810). -/
def Hub.mutationCandidate (h : Hub) (targetType : TargetType) (before patch : Dict) :
    Except Raise Dict :=
  if targetType = .transaction then do
    let v2 := (before.get "ledger_format_version").eqInt 2
    ensure (v2 ∨ !patch.has "grouped_tags")
      (rejecting "invalid_input" "v1 付款不能使用 grouped_tags")
    ensure (¬ (v2 ∧ (patch.has "main_category" ∨ patch.has "tags")))
      (rejecting "invalid_input" "v2 付款不能使用 legacy 分类或标签")
    let columns := patch.filter fun kv => kv.1 ∉ contextFields
    let context ← candidateContext before patch
    let after := withContext (Dict.merged before columns) context
    h.validateMutationCandidate targetType before after patch
    return after
  else do
    let after := Dict.merged before patch
    h.validateMutationCandidate targetType before after patch
    return after

/-- An item of a prepared mutation. -/
structure MutationItem where
  id : String
  before : Dict
  after : Dict

/-- One round of the loop of `_prepare_mutation`. -/
def Hub.prepareItem (h : Hub) (targetType : TargetType) (patch : Dict) (id : String) :
    Except Raise MutationItem := do
  let before ← h.mutationRecord targetType id
  let after ← h.mutationCandidate targetType before patch
  return ⟨id, before, after⟩

/-- What the digest of a mutation covers. -/
def mutationSubject (u : Mutation) (items : List MutationItem) : Json :=
  .obj [("target_type", .str u.targetType.text), ("target_ids", .arr (u.targetIds.map .str)),
    ("patch", .obj u.patch), ("before", .arr (items.map fun item => .obj item.before))]

def mutationDigest (u : Mutation) (items : List MutationItem) : String :=
  "sha256:" ++ digestJson (mutationSubject u items)

/-- `_prepare_mutation(connection, target_type, target_ids, patch)` (lines 858–882). -/
def Hub.prepareMutation (h : Hub) (u : Mutation) : Except Raise (List MutationItem × String) := do
  let items ← u.targetIds.mapM (h.prepareItem u.targetType u.patch)
  return (items, mutationDigest u items)

/-- The value of a field of a document, for a transaction with the fields of its context. -/
def fieldValue (targetType : TargetType) (document : Dict) (field : String) : Json :=
  if targetType = .transaction ∧ field ∈ contextFields then (contextOf document).get field
  else document.get field

/-- `_mutation_diff(…)` (lines 884–903). -/
def mutationDiff (u : Mutation) (item : MutationItem) : Json :=
  .obj [("id", .str item.id),
    ("version", if item.before.has "version" then item.before.get "version" else .int 1),
    ("changes", .obj (u.patch.map fun kv =>
      (kv.1, .obj [("before", fieldValue u.targetType item.before kv.1),
        ("after", fieldValue u.targetType item.after kv.1)])))]

/-- `_mutation_preview_result(…)` (lines 905–924). -/
def mutationPreviewResult (u : Mutation) (items : List MutationItem) (digest : String) : Json :=
  .obj [("mode", .str "preview"), ("target_type", .str u.targetType.text),
    ("target_ids", .arr (u.targetIds.map .str)), ("count", .int items.length),
    ("changes", .arr (items.map (mutationDiff u))), ("patch", .obj u.patch),
    ("reason", .str u.reason), ("preview_digest", .str digest),
    ("requires_confirmation", .bool true),
    ("confirmation_hint", .str "回复“确认修改”后再应用这批变更")]

/-! ## The apply -/

/-- The fields of a patch that are columns of `transactions`. -/
def transactionColumns : List String :=
  ["amount_cents", "occurred_on", "main_category", "merchant", "note", "is_deposit"]

/-- The row that the `UPDATE` of an apply leaves; a patch without columns does not update it. -/
def Transaction.patched (patch : Dict) (now : String) (t : Transaction) : Transaction :=
  if transactionColumns.any patch.has then
    { t with
      amountCents := (patch.get "amount_cents").asInt?.getD t.amountCents
      occurredOn := (patch.get "occurred_on").asStr?.getD t.occurredOn
      mainCategory := (patch.get "main_category").asStr?.getD t.mainCategory
      merchant := (patch.get "merchant").asStr?.getD t.merchant
      note := (patch.get "note").asStr?.getD t.note
      isDeposit := (patch.get "is_deposit").asBool?.getD t.isDeposit
      updatedAt := now }
  else t

theorem Transaction.patched_id (patch : Dict) (now : String) (t : Transaction) :
    (t.patched patch now).id = t.id := by
  unfold Transaction.patched
  split_ifs <;> rfl

/-- The context that an apply writes (lines 957–987): a candidate without a context deletes it. -/
def Hub.applyContext (h : Hub) (id : String) (candidate : Json) (now : String) : Hub :=
  match candidate with
  | .obj items =>
    let context : Dict := items
    let version := match h.contexts.get? id with
      | some current => current.version + 1
      | none => 1
    { h with contexts := h.contexts.upsert ⟨id, (context.get "project_id").asStr?.getD "",
        (context.get "stage_id").asStr?, (context.get "area_id").asStr?, version, now⟩ }
  | _ => { h with contexts := h.contexts.erase id }

/-- The tags that an apply writes. -/
def Hub.applyTags (cfg : Config) (h : Hub) (id : String) (patch : Dict) (now : ℕ → String) :
    Except Raise Hub := do
  let h ←
    if patch.has "tags" then
      h.setTags cfg id (((patch.get "tags").asList?.getD []).filterMap Json.asStr?) .v1 now
    else pure h
  if patch.has "grouped_tags" then
    let tags ← normalizeGroupedTags cfg (patch.get "grouped_tags")
    h.setTags cfg id tags.1 .v2 now
  else return h

/-- `_apply_mutation(…)` for one transaction (lines 929–1000). -/
def applyTransaction (cfg : Config) (env : Env) (actorHash key : String) (u : Mutation)
    (item : MutationItem) (h : Hub) : Except Raise (Hub × Dict) := do
  let row ← orRaise (h.activePayment item.id)
    (raising "payment_not_found" "付款不存在或已撤销" 404)
  let h := h.setTransaction item.id (Transaction.patched u.patch (env.now 0))
    (Transaction.patched_id _ _)
  let h ← h.applyTags cfg item.id u.patch fun k => env.now (k + 3)
  let h := h.applyContext item.id (item.after.get "context") (env.now 1)
  let after ← h.transactionDocument (row.patched u.patch (env.now 0))
  return (h.audit (env.now 2) "mutate_transaction" item.id actorHash key u.reason
    (some item.before) after, after)

/-- The row that the `UPDATE` of an object leaves. -/
def HubObject.patched (patch : Dict) (now : String) (o : HubObject) : HubObject :=
  let items := Dict.assigned (Dict.merged o.items patch) "updated_at" (.str now)
  { o with columns := items.map fun kv => (kv.1, Column.ofJson kv.2), version := o.version + 1 }

/-- The unique indexes of `stages` and `areas`: the name within a project, and one active stage. -/
def uniqueColumns (targetType : TargetType) (table : Table HubObject.id) : Bool :=
  let named := table.rows.map fun o =>
    ((o.items.get "project_id").asStr?, (o.items.get "name").asStr?)
  let active := (table.rows.filter fun o => (o.items.get "status").eqStr "active").map fun o =>
    (o.items.get "project_id").asStr?
  match targetType with
  | .stage => named.Nodup ∧ active.Nodup
  | .area => named.Nodup
  | _ => true

/-- `_apply_mutation(…)` for one object (lines 1002–1032). -/
def applyObject (env : Env) (actorHash key : String) (u : Mutation) (item : MutationItem)
    (h : Hub) : Except Raise (Hub × Dict) := do
  h.validateMutationCandidate u.targetType item.before item.after u.patch
  let o ← orRaise (((h.objects u.targetType).get? item.id).filter fun o =>
      (item.before.get "version").eqInt o.version)
    (raising "version_conflict" "对象已被其他请求修改" 409)
  let table := (h.objects u.targetType).update item.id (HubObject.patched u.patch (env.now 0))
  ensure (uniqueColumns u.targetType table)
    (raising (u.targetType.text ++ "_conflict") "对象名称或状态冲突" 409)
  let after := (o.patched u.patch (env.now 0)).document
  return ((h.setObjects u.targetType table).domainAudit (env.now 1)
    ("mutate_" ++ u.targetType.text) u.targetType.text item.id actorHash key
    (some (.obj item.before)) (some (.obj after)) u.reason, after)

/-- What the `k`-th round of a loop reads from outside. -/
def Env.round (env : Env) (k : ℕ) : Env := { env with now := fun i => env.now (100 * k + i) }

/-- One round of the loop of `_apply_mutation`, with the results so far. -/
def applyItem (cfg : Config) (env : Env) (actorHash key : String) (u : Mutation)
    (acc : Hub × List Dict) (item : MutationItem) : Except Raise (Hub × List Dict) := do
  let env := env.round acc.2.length
  let (h, after) ←
    if u.targetType = .transaction then applyTransaction cfg env actorHash key u item acc.1
    else applyObject env actorHash key u item acc.1
  return (h, acc.2 ++ [after])

/-- The `operation` of an apply. -/
def mutateOperation (cfg : Config) (env : Env) (actorHash key : String) (u : Mutation)
    (previewDigest : String) (h : Hub) : Except Raise (Hub × Json) := do
  let (items, digest) ← h.prepareMutation u
  ensure (digest = previewDigest)
    (raising "preview_stale" "预览对应的数据已变化，请重新生成预览" 409)
  let (h, results) ← items.foldlM (applyItem cfg env actorHash key u) (h, [])
  return (h, .obj [("mode", .str "apply"), ("target_type", .str u.targetType.text),
    ("target_ids", .arr (u.targetIds.map .str)), ("count", .int results.length),
    ("items", .arr (results.map .obj)), ("preview_digest", .str previewDigest)])

/-- `mutate(payload, actor_hash=actor_hash)` in the mode `preview`, the default. -/
def mutatePreview (cfg : Config) (h : Hub) (payload : Dict) : Except Raise Json := do
  let u ← mutation cfg payload
  let (items, digest) ← h.prepareMutation u
  return mutationPreviewResult u items digest

/-- `mutate(payload, actor_hash=actor_hash)` in the mode `apply` (lines 600–659). -/
def mutateApply (cfg : Config) (h : Hub) (env : Env) (payload : Dict) (actorHash : String) :
    Except Raise (Hub × Json × Bool) := do
  let u ← mutation cfg payload
  ensure ((payload.get "confirmed").asBool? = some true)
    (raising "confirmation_required" "应用变更前必须明确确认预览内容" 409)
  let previewDigest ← text cfg (payload.get "preview_digest") "preview_digest" 71 true
  let key ← idempotencyKey (payload.get "idempotency_key")
  runIdempotent cfg h env key
    (.obj [("tool", .str "renovation_mutate"), ("target_type", .str u.targetType.text),
      ("target_ids", .arr (u.targetIds.map .str)), ("patch", .obj u.patch),
      ("reason", .str u.reason), ("preview_digest", .str previewDigest)])
    (mutateOperation cfg env actorHash key u previewDigest)

/-- `_choice(payload.get("mode", "preview"), "mode", {"preview", "apply"})`. -/
def mutationMode (payload : Dict) : Except Raise String :=
  if payload.has "mode" then choiceOf (payload.get "mode") "mode" ["preview", "apply"]
  else return "preview"

/-- `mutate(payload, actor_hash=actor_hash)`. -/
def mutate (cfg : Config) (h : Hub) (env : Env) (payload : Dict) (actorHash : String) :
    Except Raise (Hub × Json × Bool) := do
  let mode ← mutationMode payload
  if mode = "preview" then
    let result ← mutatePreview cfg h payload
    return (h, result, false)
  else mutateApply cfg h env payload actorHash

end HomeAddons.Renovation
