import HomeAddons.Controller.ToolPolicy

/-!
# Codex Controller: the manifest of the Hub

Model of `validate_hub_manifest` (`hub_manifest.py`, lines 73–226). A document that has a lone surrogate
cannot be encoded and is refused first, so the documents here have none.

* `validateTool`, `validateHubManifest`: the checks, in their order.
* `ManifestTool`: a tool that has passed them carries what it is to be of the Hub.
* `ValidatedHubManifest.definitions`: the definitions that the router takes over.
-/

namespace HomeAddons.Controller

open HomeAddons.Common

/-- What a validation raises. -/
inductive ManifestFault where
  /-- `HubManifestError(code, message)`. -/
  | invalid (code message : String)
  | typeError
  deriving DecidableEq

/-! ## Constants (lines 13–45) -/

def manifestFields : List String :=
  ["version", "service", "scope", "catalog_revision", "catalog_digest", "tools"]

/-- `ANNOTATION_KEYS`. -/
def annotationKeys : List String :=
  ["readOnlyHint", "destructiveHint", "idempotentHint", "openWorldHint"]

/-- `TOOL_REQUIRED_KEYS`; there are no optional ones. -/
def toolRequiredKeys : List String :=
  ["name", "display_name", "description", "risk_type", "transport", "exposure",
    "requires_job_context", "idempotent_write", "inputSchema", "annotations"]

/-- `TRANSPORTS`. -/
def transports : List String := ["json", "gateway_attachment", "gateway_media_stream"]

/-! ## Tools -/

/-- `RISK_TYPES`. -/
inductive RiskType where
  | read
  | write
  deriving DecidableEq

def RiskType.text : RiskType → String
  | read => "read"
  | write => "write"

/-- An entry that has been validated. -/
structure ManifestTool where
  name : String
  named : isManifestName name = true
  displayName : String
  description : String
  riskType : RiskType
  transport : String
  requiresJobContext : Bool
  idempotentWrite : Bool
  /-- A tool that reads declares nothing of a write. -/
  reads : riskType = .read → transport = "json" ∧ requiresJobContext = false ∧ idempotentWrite = false
  inputSchema : Json
  annotations : Dict

/-- The entry as it is stored and hashed. -/
def ManifestTool.document (t : ManifestTool) : Json :=
  .obj [("name", .str t.name), ("display_name", .str t.displayName),
    ("description", .str t.description), ("risk_type", .str t.riskType.text),
    ("transport", .str t.transport), ("exposure", .str "mcp"),
    ("requires_job_context", .bool t.requiresJobContext),
    ("idempotent_write", .bool t.idempotentWrite), ("inputSchema", t.inputSchema),
    ("annotations", .obj t.annotations)]

mutual

/-- `canonical_json(value)` does not raise: there is no NaN and no infinity. -/
def isFinite : Json → Bool
  | .float value _ => value.isSome
  | .arr items => itemsFinite items
  | .obj items => pairsFinite items
  | _ => true

def itemsFinite : List Json → Bool
  | [] => true
  | v :: vs => isFinite v && itemsFinite vs

def pairsFinite : List (String × Json) → Bool
  | [] => true
  | (_, v) :: kvs => isFinite v && pairsFinite kvs

end

/-- `_bounded_string(value, field=field, maximum=maximum)`. -/
def boundedString (value : Json) (field : String) (maximum : ℕ) : Except ManifestFault String := do
  let text ← orRaise value.asStr? (.invalid "manifest_tool_invalid" s!"Hub manifest {field} 无效")
  ensure (text ≠ "" ∧ text.length ≤ maximum)
    (.invalid "manifest_tool_invalid" s!"Hub manifest {field} 无效")
  ensure (strip text = text ∧ text.toList.any isControl = false)
    (.invalid "manifest_tool_invalid" s!"Hub manifest {field} 包含无效字符")
  return text

/-- `_validate_annotations(value, risk_type, idempotent_write=idempotent_write)`. -/
def validateAnnotations (value : Json) (riskType : RiskType) (idempotentWrite : Bool) :
    Except ManifestFault Dict := do
  let d ← orRaise (value.asDict?.filter fun d => d.keysAre annotationKeys)
    (.invalid "manifest_annotations_invalid" "Hub manifest annotations 字段无效")
  ensure (∀ key ∈ annotationKeys, (d.get key).asBool?.isSome = true)
    (.invalid "manifest_annotations_invalid" "Hub manifest annotations 类型无效")
  let expectedReadOnly : Bool := riskType = .read
  ensure ((d.get "readOnlyHint").asBool? = some expectedReadOnly ∧
      (expectedReadOnly = true → (d.get "destructiveHint").asBool? = some false) ∧
      (d.get "idempotentHint").asBool? = some (expectedReadOnly || idempotentWrite) ∧
      (d.get "openWorldHint").asBool? = some false)
    (.invalid "manifest_annotations_invalid" "Hub manifest annotations 与风险类型不一致")
  return ["destructiveHint", "idempotentHint", "openWorldHint", "readOnlyHint"].map fun key =>
    (key, d.get key)

/-- `_validate_schema(value, require_closed=require_closed)`; the schema that is encoded and decoded
    again is the same document. -/
def validateSchema (value : Json) (requireClosed : Bool) : Except ManifestFault Json := do
  let d ← orRaise (value.asDict?.filter fun d => (d.get "type").eqStr "object")
    (.invalid "manifest_schema_invalid" "Hub manifest inputSchema 必须是 object Schema")
  ensure (isFinite value = true)
    (.invalid "manifest_schema_invalid" "Hub manifest inputSchema 不是有效 JSON")
  ensure ((canonical value).utf8ByteSize ≤ 64 * 1024)
    (.invalid "manifest_schema_invalid" "Hub manifest inputSchema 过大")
  let properties ← orRaise (if d.has "properties" then (d.get "properties").asDict? else some [])
    (.invalid "manifest_schema_invalid" "Hub manifest inputSchema 字段无效")
  let required ← orRaise (if d.has "required" then (d.get "required").asList? else some [])
    (.invalid "manifest_schema_invalid" "Hub manifest inputSchema 字段无效")
  ensure (∀ name ∈ required, name.asStr?.any properties.has = true)
    (.invalid "manifest_schema_invalid" "Hub manifest inputSchema required 无效")
  ensure (requireClosed = true → (d.get "additionalProperties").asBool? = some false)
    (.invalid "manifest_schema_invalid" "Hub manifest inputSchema 必须拒绝未知字段")
  return value

/-- A name of the business namespace. -/
def manifestName? (v : Json) : Option {name : String // isManifestName name = true} :=
  v.asStr?.bind fun name => if h : isManifestName name = true then some ⟨name, h⟩ else none

/-- `risk_type` as it is declared; an array or an object cannot be looked up. -/
def riskType? (v : Json) : Option RiskType :=
  if v.eqStr "read" then some .read else if v.eqStr "write" then some .write else none

/-- `_validate_tool(value, require_closed_schema=require_closed_schema)` (lines 118–183). -/
def validateTool (value : Json) (requireClosedSchema : Bool) : Except ManifestFault ManifestTool := do
  let d ← orRaise (value.asDict?.filter fun d => d.keysAre toolRequiredKeys)
    (.invalid "manifest_tool_invalid" "Hub manifest 工具字段集合无效")
  let name ← orRaise (manifestName? (d.get "name"))
    (.invalid "manifest_tool_name_invalid" "Hub manifest 工具名不在业务命名空间")
  let displayName ← boundedString (d.get "display_name") "display_name" 80
  let description ← boundedString (d.get "description") "description" 2000
  ensure ((d.get "risk_type").hashable = true) .typeError
  let riskType ← orRaise (riskType? (d.get "risk_type"))
    (.invalid "manifest_risk_invalid" "Hub manifest risk_type 无效")
  ensure ((d.get "transport").hashable = true) .typeError
  let transport ← orRaise (transports.find? (d.get "transport").eqStr)
    (.invalid "manifest_transport_invalid" "Hub manifest transport 无效")
  let requiresJobContext ← orRaise (d.get "requires_job_context").asBool?
    (.invalid "manifest_tool_invalid" "Hub manifest 写入属性类型无效")
  let idempotentWrite ← orRaise (d.get "idempotent_write").asBool?
    (.invalid "manifest_tool_invalid" "Hub manifest 写入属性类型无效")
  ensure ((d.get "exposure").eqStr "mcp" = true)
    (.invalid "manifest_exposure_invalid" "Hub manifest exposure 无效")
  if hreads : riskType = .read →
      transport = "json" ∧ requiresJobContext = false ∧ idempotentWrite = false then
    ensure (riskType = .write → requiresJobContext = idempotentWrite)
      (.invalid "manifest_risk_invalid" "Hub manifest 写工具的上下文和幂等声明不一致")
    ensure (transport ≠ "json" →
        riskType = .write ∧ requiresJobContext = true ∧ idempotentWrite = true)
      (.invalid "manifest_transport_invalid" "Hub manifest 受控附件传输必须是上下文内幂等写入")
    ensure (transport = "gateway_media_stream" → name.1 = "renovation_media_ingest")
      (.invalid "manifest_transport_invalid" "Hub manifest 媒体流传输工具不受支持")
    let inputSchema ← validateSchema (d.get "inputSchema") requireClosedSchema
    let annotations ← validateAnnotations (d.get "annotations") riskType idempotentWrite
    return ⟨name.1, name.2, displayName, description, riskType, transport, requiresJobContext,
      idempotentWrite, hreads, inputSchema, annotations⟩
  else .error (.invalid "manifest_risk_invalid" "Hub manifest 只读工具声明了写入能力")

/-! ## Manifests -/

/-- `ValidatedHubManifest`; the document is made of the other fields. -/
structure ValidatedHubManifest where
  tools : List ManifestTool
  revision : ℤ
  digest : String

/-- The payload of `manifest_digest`: the normalized document without its digest. -/
def manifestPayload (tools : List ManifestTool) (revision : ℤ) : Json :=
  .obj [("version", .int 1), ("service", .str "renovation_hub"), ("scope", .str "business"),
    ("catalog_revision", .int revision), ("tools", .arr (tools.map ManifestTool.document))]

/-- `validate_hub_manifest(value, require_closed_schema=require_closed_schema)`. -/
def validateHubManifest (value : Json) (requireClosedSchema : Bool) :
    Except ManifestFault ValidatedHubManifest := do
  let d ← orRaise value.asDict? (.invalid "manifest_invalid" "Hub manifest 不是对象")
  ensure (d.keysAre manifestFields = true)
    (.invalid "manifest_invalid" "Hub manifest 顶层字段无效")
  ensure (isFinite value = true) (.invalid "manifest_invalid" "Hub manifest 不是有效 JSON")
  ensure ((canonical value).utf8ByteSize ≤ 1024 * 1024)
    (.invalid "manifest_too_large" "Hub manifest 超过大小上限")
  ensure ((d.get "version").eqInt 1 ∧ (d.get "service").eqStr "renovation_hub" ∧
      (d.get "scope").eqStr "business")
    (.invalid "manifest_identity_invalid" "Hub manifest 身份无效")
  let revision ← orRaise ((d.get "catalog_revision").asInt?.filter fun n => 1 ≤ n)
    (.invalid "manifest_revision_invalid" "Hub manifest revision 无效")
  let digest ← orRaise ((d.get "catalog_digest").asStr?.filter isSha256Ref)
    (.invalid "manifest_digest_invalid" "Hub manifest digest 格式无效")
  let tools ← orRaise ((d.get "tools").asList?.filter fun tools =>
      1 ≤ tools.length ∧ tools.length ≤ 256)
    (.invalid "manifest_tools_invalid" "Hub manifest 工具数量无效")
  let normalized ← tools.mapM fun tool => validateTool tool requireClosedSchema
  ensure (normalized.map ManifestTool.name).Nodup
    (.invalid "manifest_duplicate_tool" "Hub manifest 包含重复工具")
  let sorted := normalized.insertionSort fun a b => a.name ≤ b.name
  ensure ("sha256:" ++ sha256Hex (canonical (manifestPayload sorted revision)) = digest)
    (.invalid "manifest_digest_mismatch" "Hub manifest digest 不一致")
  return ⟨sorted, revision, digest⟩

/-! ## Definitions -/

theorem isHubName_of_isManifestName {name : String} (h : isManifestName name = true) :
    isHubName name = true := by
  simp only [isManifestName, List.any_cons, List.any_nil, Bool.or_false, Bool.or_eq_true,
    Bool.and_eq_true] at h
  rw [isHubName, Bool.or_eq_true]
  obtain h | h := h
  · exact .inl h.1.1.1
  · exact .inr h.1.1.1

/-- `tool_definition_from_manifest(tool)`. -/
def ManifestTool.definition (t : ManifestTool) : HubDefinition where
  name := t.name
  service := .renovationHub
  transport := t.transport
  requiresJobContext := t.requiresJobContext
  idempotentWrite := t.idempotentWrite
  isHub := rfl
  named := isHubName_of_isManifestName t.named

/-- `manifest.definitions`. -/
def ValidatedHubManifest.definitions (m : ValidatedHubManifest) : List HubDefinition :=
  m.tools.map ManifestTool.definition

/-- The names of the Controller's own definitions whose `risk_type` is `read_only`. -/
def localReadOnlyNames : List String := ["memo_list", "aito_prepare_car_status"]

/-- `definition.read_only` of the definition of a name. -/
def ValidatedHubManifest.isReadOnly (m : ValidatedHubManifest) (name : String) : Bool :=
  match m.tools.find? fun t => t.name = name with
  | some t => t.riskType = .read
  | none => localReadOnlyNames.contains name

end HomeAddons.Controller
