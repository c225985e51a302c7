import HomeAddons.Controller.Tools

/-!
# Codex Controller: the tool policy

The catalogue of tools and the switches of the administrator (`store.py` 1282–1538): four tables
that the synchronisation with the Hub and the administrator write.

* `applyHubManifest`, `recordHubManifestError`, `updateToolPolicy`: the calls that write.
* `toolPolicySnapshot`: the enabled tools and the revision.
-/

namespace HomeAddons.Controller

open HomeAddons.Common

/-! ## Rows -/

/-- The row of `hub_manifest_state`: the last manifest that was good, and the last error. -/
structure ManifestState where
  document : Option Json
  catalogDigest : Option String
  hubRevision : Option ℕ
  synchronizedAt : Option String
  errorCode : Option String
  errorAt : Option String

/-- A row of `hub_tool_history`. -/
structure HistoryRow where
  toolName : String
  retired : Bool

/-- A row of `tool_policies`. -/
structure PolicyRow where
  toolName : String
  enabled : Bool
  revision : ℕ
  updatedAt : String

/-- What `update_tool_policy` answers and `response_json` keeps. -/
structure PolicyResponse where
  toolName : String
  enabled : Bool
  revision : ℕ
  requestId : String
  deriving DecidableEq

/-- A row of `admin_mutations`. -/
structure MutationRow where
  requestId : String
  scope : String
  requestDigest : String
  response : PolicyResponse
  createdAt : String

/-- The tables of the tool policy, with the `catalog_revision` of `tool_policy_meta`. -/
structure PolicyStore where
  catalogRevision : ℕ
  policies : Table PolicyRow.toolName
  mutations : Table MutationRow.requestId
  manifest : ManifestState
  history : Table HistoryRow.toolName

/-! ## Names of tools -/

/-- The names in `BOOTSTRAP_HUB_DEFINITIONS`. -/
def bootstrapHubNames : List String :=
  ["ledger_add_payment", "ledger_add_refund", "ledger_correct_payment", "ledger_undo",
    "ledger_attach", "ledger_show", "ledger_query", "ledger_summary", "ledger_generate_chart",
    "ledger_export", "ledger_verify_export", "ledger_import_inspect", "ledger_import_shadow",
    "renovation_project_create", "renovation_project_update", "renovation_project_list",
    "renovation_stage_create", "renovation_stage_update", "renovation_stage_list",
    "renovation_area_create", "renovation_area_update", "renovation_area_list",
    "renovation_event_create", "renovation_event_update", "renovation_timeline",
    "renovation_dashboard", "renovation_media_ingest"]

/-- The names of the tools that the Controller defines itself. -/
def localNames : Finset String :=
  ((memoDefinitions ++ prepareCarDefinitions ++ operationDefinitions).map (·.name)).toFinset

/-- `re.fullmatch(r"(?:ledger|renovation)_[a-z0-9_]{1,79}", name)`. -/
def isManifestName (name : String) : Bool :=
  ["ledger_", "renovation_"].any fun label =>
    let rest := name.toList.drop label.length
    label.toList.isPrefixOf name.toList && 1 ≤ rest.length && rest.length ≤ 79 &&
      rest.all fun c => ('a' ≤ c ∧ c ≤ 'z') ∨ ('0' ≤ c ∧ c ≤ '9') ∨ c = '_'

/-- `raise StoreError("hub_manifest_invalid", message, status=503)`. -/
def manifestInvalid (message : String) : Raise := raising "hub_manifest_invalid" message 503

/-- The loop of `_manifest_names`. -/
def manifestNamesFrom (names : List String) : List Json → Except Raise (List String)
  | [] => .ok names
  | tool :: tools => do
    let name ← orRaise ((tool.asDict?.bind fun t => (t.get "name").asStr?).filter isManifestName)
      (manifestInvalid "Hub last-good manifest 工具名损坏")
    ensure (name ∉ names) (manifestInvalid "Hub last-good manifest 工具重复")
    manifestNamesFrom (names ++ [name]) tools

/-- `_manifest_names(document)` (lines 1282–1297). -/
def manifestNames (document : Json) : Except Raise (List String) := do
  let tools ← orRaise (document.asDict?.bind fun d => (d.get "tools").asList?)
    (manifestInvalid "Hub last-good manifest 损坏")
  let names ← manifestNamesFrom [] tools
  ensure (names ≠ []) (manifestInvalid "Hub last-good manifest 工具为空")
  return names

/-- `raise StoreError("tool_policy_invalid", message, status=503)`. -/
def policyInvalid (message : String) : Raise := raising "tool_policy_invalid" message 503

/-! ## Arguments -/

/-- What `apply_hub_manifest` reads of a document. -/
structure Manifest where
  document : Json
  names : List String
  catalogDigest : String
  hubRevision : ℕ

/-- The checks of `apply_hub_manifest` (lines 1345–1351). -/
def manifestOf (document : Json) : Except Raise Manifest := do
  let names ← manifestNames document
  let d := document.asDict?.getD []
  let digest ← orRaise ((d.get "catalog_digest").asStr?.filter isSha256Ref)
    (manifestInvalid "Hub manifest digest 无效")
  let revision ← orRaise ((d.get "catalog_revision").asInt?.filter fun n => 1 ≤ n)
    (manifestInvalid "Hub manifest revision 无效")
  ensure (revision < 2 ^ 63) .overflow
  return ⟨document, names, digest, revision.toNat⟩

/-- `re.fullmatch(r"[a-z0-9_]{1,64}", s)`. -/
def isErrorCode (s : String) : Bool :=
  1 ≤ s.length && s.length ≤ 64 &&
    s.toList.all fun c => ('a' ≤ c ∧ c ≤ 'z') ∨ ('0' ≤ c ∧ c ≤ '9') ∨ c = '_'

/-- `REQUEST_ID_RE`. -/
def isRequestId (s : String) : Bool :=
  8 ≤ s.length && s.length ≤ 128 && s.toList.all fun c => c.isAlphanum || c = '_' || c = '-'

/-- The arguments of `update_tool_policy` that passed their checks. -/
structure PolicyUpdate where
  toolName : String
  enabled : Bool
  revision : ℕ
  requestId : String

/-- The scope of an update. -/
def PolicyUpdate.scope (u : PolicyUpdate) : String := "tool_policy:" ++ u.toolName

/-- `request_digest` (lines 1480–1485). -/
def PolicyUpdate.digest (u : PolicyUpdate) : String := sha256Hex (canonical (.obj
  [("scope", .str u.scope), ("enabled", .bool u.enabled), ("revision", .int u.revision)]))

/-- The answer to an update that is carried out. -/
def PolicyUpdate.response (u : PolicyUpdate) : PolicyResponse :=
  ⟨u.toolName, u.enabled, u.revision + 1, u.requestId⟩

namespace PolicyStore

/-! ## Reading -/

variable (s : PolicyStore)

/-- The names of the Hub's tools: those of the last good manifest, or the built-in ones. -/
def hubNames : Except Raise (List String) :=
  match s.manifest.document with
  | none => .ok bootstrapHubNames
  | some document => manifestNames document

/-- `active_tool_names()` (lines 1315–1328). -/
def activeToolNames : Except Raise (Finset String) := do
  return (← s.hubNames).toFinset ∪ localNames

/-- `historical_tool_names()` (lines 1330–1342). -/
def historicalToolNames : Finset String :=
  (s.history.rows.map HistoryRow.toolName).toFinset ∪ localNames

/-- The checks on a row of `tool_policies`. -/
def checkPolicy (row : PolicyRow) : Except Raise Unit := do
  ensure (row.toolName ∈ s.historicalToolNames) (policyInvalid "工具策略包含未知工具")
  ensure (1 ≤ row.revision ∧ row.revision ≤ s.catalogRevision) (policyInvalid "工具策略版本越界")

/-- The checks on all rows; their order only decides which of the errors is raised. -/
def checkPolicies : Except Raise Unit := do
  let _ ← s.policies.rows.mapM s.checkPolicy

/-- The policy switches the tool off. -/
def disables (name : String) : Bool := (s.policies.get? name).any fun row => !row.enabled

/-- `tool_policy_snapshot()` (lines 1429–1457). -/
def toolPolicySnapshot : Except Raise (ℕ × Finset String) := do
  ensure (1 ≤ s.catalogRevision) (policyInvalid "工具策略版本损坏")
  let active ← s.activeToolNames
  s.checkPolicies
  return (s.catalogRevision, active.filter fun name => !s.disables name)

/-! ## Writing -/

/-- The history after a manifest: all are retired, then those of the manifest are back. -/
def noteNames (names : List String) : Table HistoryRow.toolName :=
  names.foldl (fun T name => T.upsert ⟨name, false⟩)
    (s.history.updateWhere (fun _ => true) fun row => { row with retired := true })

/-- `apply_hub_manifest(document)` (lines 1344–1395). -/
def applyHubManifest (document : Json) (now : String) : Except Raise PolicyStore := do
  let m ← manifestOf document
  return { s with
    manifest := ⟨some m.document, some m.catalogDigest, some m.hubRevision, some now, none, none⟩
    history := s.noteNames m.names
    catalogRevision :=
      if s.manifest.catalogDigest = some m.catalogDigest then s.catalogRevision
      else s.catalogRevision + 1 }

/-- `record_hub_manifest_error(error_code)` (lines 1397–1408). -/
def recordHubManifestError (errorCode : Json) (now : String) : PolicyStore :=
  let bounded := (errorCode.asStr?.filter isErrorCode).getD "hub_manifest_sync_failed"
  { s with manifest := { s.manifest with errorCode := some bounded, errorAt := some now } }

/-- The checks on the arguments (lines 1470–1479). -/
def policyUpdate (toolName : String) (enabled revision requestId : Json) :
    Except Raise PolicyUpdate := do
  ensure (toolName ∈ (← s.activeToolNames)) (raising "tool_not_found" "工具不存在" 404)
  let enabled ← orRaise enabled.asBool? (rejecting "invalid_tool_policy" "enabled 必须是布尔值")
  let revision ← orRaise (revision.asInt?.filter fun n => 1 ≤ n)
    (rejecting "invalid_tool_policy" "revision 无效")
  let requestId ← orRaise (requestId.asStr?.filter isRequestId)
    (rejecting "invalid_request_id" "request_id 无效")
  return ⟨toolName, enabled, revision.toNat, requestId⟩

/-- The writes of an update (lines 1511–1535). -/
def carryOut (u : PolicyUpdate) (now : String) : Except Raise PolicyStore := do
  let mutations ← orRaise (s.mutations.insert? ⟨u.requestId, u.scope, u.digest, u.response, now⟩)
    .integrity
  return { s with
    catalogRevision := u.revision + 1
    policies := s.policies.upsert ⟨u.toolName, u.enabled, u.revision + 1, now⟩
    mutations := mutations }

/-- `update_tool_policy(tool_name, enabled=…, revision=…, request_id=…)` (lines 1462–1538). -/
def updateToolPolicy (toolName : String) (enabled revision requestId : Json) (now : String) :
    Except Raise (PolicyStore × PolicyResponse) := do
  let u ← s.policyUpdate toolName enabled revision requestId
  match s.mutations.get? u.requestId with
  | some stored =>
    ensure (stored.requestDigest = u.digest)
      (raising "idempotency_conflict" "request_id 已用于不同管理请求" 409)
    return (s, stored.response)
  | none =>
    ensure (1 ≤ s.catalogRevision) (policyInvalid "工具策略元数据损坏")
    s.checkPolicies
    ensure (s.catalogRevision = u.revision)
      (raising "revision_conflict" "工具目录版本已变化，请刷新后重试" 409)
    return (← s.carryOut u now, u.response)

/-- The store that `_initialize` makes of a new file. -/
def new : PolicyStore where
  catalogRevision := 1
  policies := .empty
  mutations := .empty
  manifest := ⟨none, none, none, none, none, none⟩
  history := bootstrapHubNames.foldl (fun T name => T.upsert ⟨name, false⟩) .empty

/-- A restart: the built-in names that are missing are noted. -/
def restart : PolicyStore := { s with
  history := bootstrapHubNames.foldl (fun T name => (T.insert? ⟨name, false⟩).getD T) s.history }

end PolicyStore

/-- What happens to the tables. -/
inductive PolicyOp where
  | applyManifest (document : Json) (now : String)
  | recordError (errorCode : Json) (now : String)
  | update (toolName : String) (enabled revision requestId : Json) (now : String)
  | restart

/-- The tables after it: a call that raises leaves them alone. -/
def PolicyStore.step (s : PolicyStore) : PolicyOp → PolicyStore
  | .applyManifest document now => (s.applyHubManifest document now).toOption.getD s
  | .recordError errorCode now => s.recordHubManifestError errorCode now
  | .update toolName enabled revision requestId now =>
    ((s.updateToolPolicy toolName enabled revision requestId now).toOption.map Prod.fst).getD s
  | .restart => s.restart

end HomeAddons.Controller
