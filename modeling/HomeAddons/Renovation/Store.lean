import HomeAddons.Common.Run
import HomeAddons.Common.Table
import HomeAddons.Renovation.Types

/-!
# Renovation Hub: the database and the idempotent write

The tables of the database, the guard of the writer and `_run_idempotent` (`ledger.py`, lines
560–628), through which every write tool but `attach_content` goes.

* `runIdempotent_eq_ok`: a write that returns has replayed a known key or has carried out its
  operation under a new one.
-/

namespace HomeAddons.Renovation

open HomeAddons.Common

/-! ## Rows -/

/-- `WRITER_MODES`; a manifest is in one of the five states from `migration_prepared` on to
    `primary_writer`. -/
inductive WriterMode where
  | uninitialized | readOnly | shadowValidated | migrationPrepared | sourceFrozen | primarySeeded
  | cutoverReady | primaryWriter | suspended
  deriving DecidableEq

def WriterMode.text : WriterMode → String
  | .uninitialized => "uninitialized"
  | .readOnly => "read_only"
  | .shadowValidated => "shadow_validated"
  | .migrationPrepared => "migration_prepared"
  | .sourceFrozen => "source_frozen"
  | .primarySeeded => "primary_seeded"
  | .cutoverReady => "cutover_ready"
  | .primaryWriter => "primary_writer"
  | .suspended => "suspended"

/-- The rows of `metadata` that the writer reads or writes. -/
structure Metadata where
  writerMode : WriterMode
  writerGeneration : ℕ
  activeManifestId : String
  lastWriteAt : String

/-- A row of `cutover_manifests`, as the writer sees it. -/
structure Manifest where
  id : String
  state : WriterMode
  writerGeneration : ℕ

/-- A row of `writer_leases`. -/
structure Lease where
  manifestId : String
  generation : ℕ
  active : Bool

/-- A row of `idempotency_keys`. -/
structure KeyRow where
  key : String
  requestDigest : String
  result : Json
  createdAt : String

/-- A row of `audit_log`; its `id` is its place in the log. -/
structure AuditRow where
  action : String
  targetType : String
  targetId : String
  actorHash : String
  idempotencyKey : String
  reason : String
  before : Option Json
  after : Option Json
  createdAt : String

/-- A value of a column: `NULL`, an integer or a text. -/
inductive Column where
  | null
  | int (n : ℤ)
  | text (s : String)
  deriving DecidableEq

def Column.json : Column → Json
  | .null => .null
  | .int n => .int n
  | .text s => .str s

/-- What an `UPDATE` stores for a value of a clean patch. -/
def Column.ofJson : Json → Column
  | .int n => .int n
  | .str s => .text s
  | _ => .null

@[simp] theorem Column.ofJson_json (c : Column) : Column.ofJson c.json = c := by
  cases c <;> rfl

/-- A row of `projects`, `stages`, `areas` or `events`: the statements that write these tables are
    put together from the fields of a request, so the columns other than `id` and `version` are a
    list of their names with their values. -/
structure HubObject where
  id : String
  columns : List (String × Column)
  version : ℕ

/-- The columns as items of a document. -/
def HubObject.items (o : HubObject) : Dict := o.columns.map fun kv => (kv.1, kv.2.json)

/-! ### Transactions -/

inductive TransactionType where
  | payment | refund
  deriving DecidableEq

inductive TransactionStatus where
  | active | voided
  deriving DecidableEq

/-- `ledger_format_version`. -/
inductive FormatVersion where
  | v1 | v2
  deriving DecidableEq

/-- The number of a version. -/
def FormatVersion.number : FormatVersion → ℤ
  | .v1 => 1
  | .v2 => 2

/-- A row of `transactions`. -/
structure Transaction where
  id : String
  legacyId : Option ℤ
  type : TransactionType
  amountCents : ℤ
  occurredOn : String
  mainCategory : String
  merchant : String
  note : String
  isDeposit : Bool
  originalPaymentId : Option String
  status : TransactionStatus
  voidReason : String
  sourceRef : String
  createdAt : String
  updatedAt : String
  ledgerFormatVersion : FormatVersion
  portableId : Option ℤ

/-- A row of `tags`. -/
structure Tag where
  normalized : String
  displayName : String

/-- A row of `transaction_tags`. -/
structure TagLink where
  transactionId : String
  tagNormalized : String
  position : ℕ
  dimension : Option String
  tagValue : Option String
  createdAt : String

/-- A row of `transaction_context`. -/
structure Context where
  transactionId : String
  projectId : String
  stageId : Option String
  areaId : Option String
  version : ℕ
  updatedAt : String

/-! ### Quotes -/

/-- `REQUEST_STATUSES`. -/
inductive RequestStatus where
  | inquiry | quoted | reviewRequired | selected | purchased | closed | archived
  deriving DecidableEq

def RequestStatus.text : RequestStatus → String
  | .inquiry => "inquiry"
  | .quoted => "quoted"
  | .reviewRequired => "review_required"
  | .selected => "selected"
  | .purchased => "purchased"
  | .closed => "closed"
  | .archived => "archived"

/-- The request status a text names. -/
def RequestStatus.ofText? (s : String) : Option RequestStatus :=
  [RequestStatus.inquiry, .quoted, .reviewRequired, .selected, .purchased, .closed,
    .archived].find? fun x => x.text = s

/-- `OFFER_STATUSES`. -/
inductive OfferStatus where
  | quoted | reviewRequired | selected | rejected | expired | purchased
  deriving DecidableEq

def OfferStatus.text : OfferStatus → String
  | .quoted => "quoted"
  | .reviewRequired => "review_required"
  | .selected => "selected"
  | .rejected => "rejected"
  | .expired => "expired"
  | .purchased => "purchased"

/-- A clean specification: distinct keys with their texts. -/
abbrev Specification := List (String × String)

/-- The columns of `quote_requests` that a caller sets. -/
structure RequestFields where
  projectId : String
  title : String
  category : String
  description : String
  specification : Specification
  quantityMilli : Option ℤ
  unit : String
  status : RequestStatus
  followUpAt : Option String
  sourceRef : String
  note : String

/-- A row of `quote_requests`. -/
structure QuoteRequest where
  id : String
  fields : RequestFields
  selectedOfferId : Option String
  version : ℕ
  createdAt : String
  updatedAt : String

/-- The columns of `quote_offers` that a caller sets. -/
structure OfferFields where
  requestId : String
  supplierName : String
  contactName : String
  contactPhone : String
  supplierAddress : String
  quotedAt : Option String
  validUntil : Option String
  subtotalCents : Option ℤ
  taxCents : ℤ
  shippingCents : ℤ
  installationCents : ℤ
  discountCents : ℤ
  totalCents : Option ℤ
  quantityMilli : Option ℤ
  unit : String
  unitPriceCents : Option ℤ
  priceIncludesTax : Bool
  leadTimeDays : Option ℤ
  brand : String
  model : String
  specification : Specification
  paymentTerms : String
  warranty : String
  note : String
  status : OfferStatus
  extractionConfidence : Option ℤ
  sourceRef : String

/-- A row of `quote_offers`; the currency is always `CNY`. -/
structure QuoteOffer where
  id : String
  fields : OfferFields
  version : ℕ
  createdAt : String
  updatedAt : String

/-! ## The database -/

/-- The database. -/
structure Hub where
  metadata : Metadata
  manifests : Table Manifest.id
  leases : Table Lease.manifestId
  keys : Table KeyRow.key
  auditLog : List AuditRow
  projects : Table HubObject.id
  stages : Table HubObject.id
  areas : Table HubObject.id
  events : Table HubObject.id
  transactions : Table Transaction.id
  tags : Table Tag.normalized
  tagLinks : List TagLink
  contexts : Table Context.transactionId
  quoteRequests : Table QuoteRequest.id
  quoteOffers : Table QuoteOffer.id

/-- The manifest, the generation and the lease of the writer agree (lines 564–586). -/
def Hub.leaseValid (h : Hub) : Bool :=
  match h.manifests.get? h.metadata.activeManifestId, h.leases.rows.find? Lease.active with
  | some manifest, some lease =>
    manifest.state = .primaryWriter ∧ manifest.writerGeneration = h.metadata.writerGeneration ∧
      lease.manifestId = manifest.id ∧ lease.generation = h.metadata.writerGeneration
  | _, _ => false

/-- `_require_writer(connection)`. -/
def Hub.requireWriter (cfg : Config) (h : Hub) : Except Raise Unit := do
  ensure (h.metadata.writerMode = .primaryWriter)
    (raising "writer_disabled" ("当前 writer mode 为 " ++ h.metadata.writerMode.text) 409)
  ensure (cfg.enforceCutoverManifest → h.leaseValid)
    (raising "writer_lease_invalid" "正式 writer 的 manifest、generation 或 lease 不一致" 409)

/-- A write with this key is not a replay, and the writer is held. -/
def Hub.Open (cfg : Config) (h : Hub) (key : String) : Prop :=
  h.keys.get? key = none ∧ h.requireWriter cfg = .ok ()

/-- What a write leaves when it is carried out: the key with its result, and `last_write_at`. -/
def Hub.filed (h : Hub) (keys : Table KeyRow.key) (now : String) : Hub :=
  { h with keys := keys, metadata := { h.metadata with lastWriteAt := now } }

/-- `_run_idempotent(key=key, request=request, operation=operation)` (lines 594–628); the flag
    says whether the result is a replay. An exception rolls the transaction back. -/
def runIdempotent (cfg : Config) (h : Hub) (env : Env) (key : String) (request : Json)
    (operation : Hub → Except Raise (Hub × Json)) : Except Raise (Hub × Json × Bool) :=
  let requestDigest := digestJson request
  match h.keys.get? key with
  | some existing => do
    ensure (existing.requestDigest = requestDigest)
      (raising "idempotency_conflict" "同一幂等键对应不同请求" 409)
    return (h, existing.result, true)
  | none => do
    h.requireWriter cfg
    let (h, result) ← operation h
    let keys ← orRaise (h.keys.insert? ⟨key, requestDigest, result, env.filedAt⟩) .integrity
    return (h.filed keys (env.writtenAt), result, false)

/-- `_validate_context_refs(connection, project_id, None, None)`. -/
def Hub.projectExists (h : Hub) (projectId : String) : Except Raise Unit :=
  ensure (h.projects.get? projectId ≠ none) (raising "project_not_found" "项目不存在" 404)

/-- `_domain_audit(…)`, and `_audit(…)` with the target type `transaction`. -/
def Hub.domainAudit (h : Hub) (now action targetType targetId actorHash key : String)
    (before after : Option Json) (reason : String) : Hub :=
  { h with auditLog := h.auditLog ++ [{
      action := action, targetType := targetType, targetId := targetId,
      actorHash := String.ofList (actorHash.toList.take 128), idempotencyKey := key,
      reason := String.ofList (reason.toList.take 500), before := before, after := after,
      createdAt := now }] }

variable {cfg : Config} {h : Hub} {env : Env} {request : Json}
  {operation : Hub → Except Raise (Hub × Json)}

/-- A write that returns is a replay of a known key, or carried out its operation under a new one
    and filed the result. -/
theorem runIdempotent_eq_ok {key : String} {x : Hub × Json × Bool} :
    runIdempotent cfg h env key request operation = .ok x ↔
      (∃ row, h.keys.get? key = some row ∧ row.requestDigest = digestJson request ∧
        x = (h, row.result, true)) ∨
      (h.Open cfg key ∧ ∃ h₁ result keys, operation h = .ok (h₁, result) ∧
        h₁.keys.insert? ⟨key, digestJson request, result, env.filedAt⟩ = some keys ∧
        x = (h₁.filed keys (env.writtenAt), result, false)) := by
  unfold runIdempotent Hub.Open
  cases hkey : h.keys.get? key with
  | some row => simp [@eq_comm _ x]
  | none => cases hw : h.requireWriter cfg <;> simp [@eq_comm _ x]

/-- An operation that is carried out under a new key and leaves the keys alone. -/
theorem runIdempotent_of_open {h₁ : Hub} {key : String} {result : Json} (hopen : h.Open cfg key)
    (hop : operation h = .ok (h₁, result)) (hkeys : h₁.keys = h.keys) :
    ∃ keys, runIdempotent cfg h env key request operation =
      .ok (h₁.filed keys env.writtenAt, result, false) := by
  obtain ⟨keys, hins⟩ := Table.insert?_of_get? (T := h₁.keys)
    (r := ⟨key, digestJson request, result, env.filedAt⟩) (by rw [hkeys]; exact hopen.1)
  exact ⟨keys, runIdempotent_eq_ok.mpr (.inr ⟨hopen, h₁, result, keys, hop, hins, rfl⟩)⟩

/-! ## A sample store -/

/-- A store whose texts are all in normal form. -/
def sampleConfig : Config := ⟨⟨id, id, id⟩, 20971520, false⟩

/-- What a call reads whose new rows get this identifier. -/
def sampleEnv (id : String) : Env :=
  ⟨fun _ => "2026-08-01T00:00:00Z", fun _ => id, "2026-08-01T00:00:00Z", "2026-08-01T00:00:00Z",
    "2026-08-01"⟩

/-- A store with one project and nothing in it. -/
def sampleHub : Hub where
  metadata := ⟨.primaryWriter, 0, "", ""⟩
  manifests := Table.empty
  leases := Table.empty
  keys := Table.empty
  auditLog := []
  projects := ⟨[⟨"project-01", [("name", .text "Home"), ("timezone", .text "Asia/Shanghai"),
    ("budget_cents", .int 0), ("status", .text "active"),
    ("created_at", .text "2026-08-01T00:00:00Z"), ("updated_at", .text "2026-08-01T00:00:00Z")], 1⟩],
    by simp⟩
  stages := Table.empty
  areas := Table.empty
  events := Table.empty
  transactions := Table.empty
  tags := Table.empty
  tagLinks := []
  contexts := Table.empty
  quoteRequests := Table.empty
  quoteOffers := Table.empty

theorem sampleHub_open (key : String) : sampleHub.Open sampleConfig key := ⟨rfl, rfl⟩

end HomeAddons.Renovation
