import HomeAddons.Renovation.Store

/-!
# Renovation Hub: payments and refunds

The ledger tools of `ledger.py` (lines 641–1028) as `RenovationHubStore` runs them, with the hooks
of `hub.py` (lines 206–388) for the context of a transaction. What a tool does after its
transaction, the portable export and its flags in `metadata`, is not part of this module.

* `normalizeTags`, `normalizeGroupedTags`, `Hub.setTags`: tags and the tables that hold them.
* `Hub.transactionDocument`: `_row_json`.
* `addPayment`, `addRefund`, `correctPayment`, `undo`: the tools.
-/

namespace HomeAddons.Renovation

open HomeAddons.Common

/-! ## Fields -/

/-- `_positive_cents(value)`. -/
def positiveCents (value : Json) : Except Raise ℤ := do
  let error := rejecting "invalid_amount" "金额必须是正整数分"
  let n ← orRaise value.asInt? error
  ensure (0 < n) error
  ensure (n ≤ 10000000000) (rejecting "invalid_amount" "金额超过允许上限")
  return n

/-- `bool(value)`. -/
def truthy : Json → Bool
  | .null => false
  | .bool b => b
  | .int n => n ≠ 0
  | .float value _ => value ≠ some 0
  | .str s => s ≠ ""
  | .arr items => !items.isEmpty
  | .obj items => !items.isEmpty

/-! ## Tags -/

/-- `TAG_DIMENSIONS`. -/
def tagDimensions : List String :=
  ["主题", "空间", "专业", "性质", "渠道", "品牌", "生态", "阶段", "状态"]

/-- One round of the loop of `normalize_tags`; `seen` holds the folded tags of the result. -/
def normalizeTag (cfg : Config) (result : List String) (raw : Json) :
    Except Raise (List String) := do
  let tag ← text cfg raw "tag" 20 true
  ensure (cfg.unicode.casefold tag ∉ result.map cfg.unicode.casefold)
    (rejecting "invalid_tags" "标签规范化后重复")
  return result ++ [tag]

/-- `normalize_tags(value)` (lines 133–149). -/
def normalizeTags (cfg : Config) (value : Json) : Except Raise (List String) :=
  if value.isNull then return []
  else do
    let error := rejecting "invalid_tags" "标签必须是最多 8 个文本值"
    let items ← orRaise value.asList? error
    ensure (items.length ≤ 8) error
    items.foldlM (normalizeTag cfg) []

/-- Labels by dimension. -/
abbrev GroupedTags := List (String × List String)

def GroupedTags.document (g : GroupedTags) : Json :=
  .obj (g.map fun kv => (kv.1, .arr (kv.2.map .str)))

/-- The key under which a v2 tag is stored. -/
def groupedKey (cfg : Config) (tag : String) : String :=
  cfg.unicode.casefold (cfg.unicode.nfkc tag)

/-- One label of a dimension: the tags so far and the labels of the dimension. -/
def normalizeLabel (cfg : Config) (dimension : String) (acc : List String × List String)
    (raw : Json) : Except Raise (List String × List String) := do
  let label ← text cfg raw "tag" 40 true
  let tag := dimension ++ ":" ++ label
  ensure (tag.length ≤ 40) (rejecting "invalid_tags" "分组标签超过长度上限")
  ensure (groupedKey cfg tag ∉ acc.1.map (groupedKey cfg))
    (rejecting "invalid_tags" "分组标签规范化后重复")
  return (acc.1 ++ [tag], acc.2 ++ [label])

/-- One dimension of the loop of `normalize_grouped_tags`. -/
def normalizeDimension (cfg : Config) (value : Dict) (acc : List String × GroupedTags)
    (dimension : String) : Except Raise (List String × GroupedTags) := do
  let raw ← orRaise (if value.has dimension then (value.get dimension).asList? else some [])
    (rejecting "invalid_tags" (dimension ++ " 必须是文本数组"))
  let (flattened, labels) ← raw.foldlM (normalizeLabel cfg dimension) (acc.1, [])
  return (flattened, if labels = [] then acc.2 else acc.2 ++ [(dimension, labels)])

/-- `normalize_grouped_tags(value)` (lines 152–182): the flat tags and the labels by dimension. -/
def normalizeGroupedTags (cfg : Config) (value : Json) :
    Except Raise (List String × GroupedTags) := do
  let value ← orRaise value.asDict?
    (rejecting "invalid_tags" "grouped_tags 必须是按固定维度分组的对象")
  ensure (value.keysWithin tagDimensions) (rejecting "invalid_tags" "grouped_tags 包含未知维度")
  let result ← tagDimensions.foldlM (normalizeDimension cfg value) ([], [])
  ensure (result.1.length ≤ 24) (rejecting "invalid_tags" "分组标签最多 24 个")
  return result

/-- `tag.partition(":")`, when there is a colon. -/
def partitionColon (tag : String) : Option (String × String) :=
  let head := tag.toList.takeWhile fun c => c ≠ ':'
  match tag.toList.drop head.length with
  | [] => none
  | _ :: rest => some (String.ofList head, String.ofList rest)

/-- The dimension and the label of a v2 tag. -/
def readTag (tag : String) : Option (String × String) :=
  (partitionColon tag).filter fun p => p.1 ∈ tagDimensions ∧ p.2 ≠ ""

/-- `result.setdefault(dimension, []).append(label)`. -/
def GroupedTags.append (g : GroupedTags) (dimension label : String) : GroupedTags :=
  if g.any fun kv => kv.1 = dimension then
    g.map fun kv => if kv.1 = dimension then (kv.1, kv.2 ++ [label]) else kv
  else g ++ [(dimension, [label])]

/-- `portable.grouped_tags(values)`; `none` is its `PortableArchiveError`. -/
def readGroupedTags (tags : List String) : Option GroupedTags :=
  tags.foldlM (fun g tag => (readTag tag).map fun p => g.append p.1 p.2) []

/-- The key under which a tag is stored. -/
def tagKey (cfg : Config) (ledgerFormatVersion : FormatVersion) (tag : String) : String :=
  cfg.unicode.casefold
    (if ledgerFormatVersion = .v2 then cfg.unicode.nfkc tag else cfg.unicode.nfc tag)

/-- One round of the loop of `_set_tags`. -/
def Hub.setTag (cfg : Config) (transactionId : String) (ledgerFormatVersion : FormatVersion)
    (now : ℕ → String) (h : Hub) (item : String × ℕ) : Except Raise Hub := do
  let (tag, position) := item
  let normalized := tagKey cfg ledgerFormatVersion tag
  let parts ←
    if ledgerFormatVersion = .v2 then
      some <$> orRaise (readTag tag) (rejecting "invalid_tags" "v2 标签必须使用固定维度:值")
    else pure none
  ensure (¬ h.tagLinks.any fun l => l.transactionId = transactionId ∧ l.tagNormalized = normalized)
    .integrity
  return { h with
    tags := h.tags.upsert ⟨normalized, tag⟩
    tagLinks := h.tagLinks ++ [⟨transactionId, normalized, position, parts.map Prod.fst,
      parts.map Prod.snd, now position⟩] }

/-- `_set_tags(connection, transaction_id, tags, ledger_format_version=…)` (lines 641–670). -/
def Hub.setTags (cfg : Config) (h : Hub) (transactionId : String) (tags : List String)
    (ledgerFormatVersion : FormatVersion) (now : ℕ → String) : Except Raise Hub :=
  tags.zipIdx.foldlM (Hub.setTag cfg transactionId ledgerFormatVersion now)
    { h with tagLinks := h.tagLinks.filter fun l => l.transactionId ≠ transactionId }

/-- `_tags(connection, transaction_id)` (lines 672–677). -/
def Hub.tagNames (h : Hub) (transactionId : String) : List String :=
  let links := h.tagLinks.filter fun l => l.transactionId = transactionId
  let rows := links.filterMap fun l =>
    (h.tags.get? l.tagNormalized).map fun t => (l.position, t.displayName)
  (rows.insertionSort fun a b => a.1 < b.1 ∨ (a.1 = b.1 ∧ a.2 ≤ b.2)).map Prod.snd

/-! ## Documents -/

def TransactionType.text : TransactionType → String
  | .payment => "payment"
  | .refund => "refund"

def TransactionStatus.text : TransactionStatus → String
  | .active => "active"
  | .voided => "voided"

def Context.document (c : Context) : Json :=
  .obj [("project_id", .str c.projectId), ("stage_id", optionalStr c.stageId),
    ("area_id", optionalStr c.areaId), ("version", .int c.version),
    ("updated_at", .str c.updatedAt)]

/-- The columns of a transaction, with `is_deposit` as a truth value. -/
def Transaction.document (t : Transaction) : Dict :=
  [("id", .str t.id), ("legacy_id", optionalInt t.legacyId), ("type", .str t.type.text),
    ("amount_cents", .int t.amountCents), ("occurred_on", .str t.occurredOn),
    ("main_category", .str t.mainCategory), ("merchant", .str t.merchant), ("note", .str t.note),
    ("is_deposit", .bool t.isDeposit), ("original_payment_id", optionalStr t.originalPaymentId),
    ("status", .str t.status.text), ("void_reason", .str t.voidReason),
    ("source_ref", .str t.sourceRef), ("created_at", .str t.createdAt),
    ("updated_at", .str t.updatedAt), ("ledger_format_version", .int t.ledgerFormatVersion.number),
    ("portable_id", optionalInt t.portableId)]

/-- What `_row_json` reads in place of the columns: a refund has the category, the version and the
    tags of its payment. -/
def Hub.inherited (h : Hub) (t : Transaction) : Transaction × List String :=
  match t.type, t.originalPaymentId with
  | .refund, some payment =>
    match h.transactions.get? payment with
    | some original =>
      ({ t with mainCategory := original.mainCategory,
                ledgerFormatVersion := original.ledgerFormatVersion }, h.tagNames payment)
    | none => ({ t with mainCategory := "", ledgerFormatVersion := .v1 }, h.tagNames payment)
  | _, _ => (t, h.tagNames t.id)

/-- `f"{amount_cents / 100:.2f}"` for an amount of cents that is not negative. -/
def amountText (cents : ℤ) : String :=
  toString (cents.toNat / 100) ++ "." ++ padded 2 (cents.toNat % 100)

/-- The version of the context, and 1 for a transaction without one. -/
def contextVersion (context : Option Context) : ℕ := (context.map Context.version).getD 1

/-- The item `grouped_tags` of a document, for a v2 row. -/
def groupedItem (ledgerFormatVersion : FormatVersion) (tags : List String) : Except Raise Dict :=
  if ledgerFormatVersion = .v2 then
    (fun g => [("grouped_tags", GroupedTags.document g)]) <$>
      orRaise (readGroupedTags tags) (rejecting "invariant_mismatch" "主库 v2 标签结构损坏")
  else return []

/-- `_row_json(connection, row)` (`ledger.py`, lines 679–703, and `hub.py`, lines 379–388). -/
def Hub.transactionDocument (h : Hub) (row : Transaction) : Except Raise Dict := do
  let (t, tags) := h.inherited row
  let grouped ← groupedItem t.ledgerFormatVersion tags
  let context := h.contexts.get? row.id
  return t.document ++ [("tags", .arr (tags.map .str))] ++ grouped ++
    [("amount", .str (amountText t.amountCents)),
      ("context", (context.map Context.document).getD .null),
      ("version", .int (contextVersion context))]

/-- `_audit(…)`. -/
def Hub.audit (h : Hub) (now action targetId actorHash key reason : String) (before : Option Dict)
    (after : Dict) : Hub :=
  h.domainAudit now action "transaction" targetId actorHash key (before.map .obj)
    (some (.obj after)) reason

/-! ## Look-ups -/

/-- `_next_portable_id(connection, "transactions")`. -/
def Hub.nextPortableId (h : Hub) : ℤ :=
  (h.transactions.rows.filterMap Transaction.portableId).foldl max 0 + 1

/-- `SELECT * FROM transactions WHERE id=? AND type='payment' AND status='active'`. -/
def Hub.activePayment (h : Hub) (id : String) : Option Transaction :=
  (h.transactions.get? id).filter fun t => t.type = .payment ∧ t.status = .active

def Hub.setTransaction (h : Hub) (id : String) (f : Transaction → Transaction)
    (hf : ∀ t, (f t).id = t.id := by intro _; rfl) : Hub :=
  { h with transactions := h.transactions.update id f hf }

/-- The active refunds of a payment. -/
def Hub.activeRefunds (h : Hub) (paymentId : String) : List Transaction :=
  h.transactions.rows.filter fun t =>
    t.type = .refund ∧ t.status = .active ∧ t.originalPaymentId = some paymentId

/-- `SELECT coalesce(sum(amount_cents),0) … WHERE type='refund' AND status='active' AND
    original_payment_id=?`. -/
def Hub.refunded (h : Hub) (paymentId : String) : ℤ :=
  ((h.activeRefunds paymentId).map Transaction.amountCents).sum

/-- `_validate_context_refs(connection, project_id, stage_id, area_id)`. -/
def Hub.validateContextRefs (h : Hub) (projectId : String) (stageId areaId : Option String) :
    Except Raise Unit := do
  h.projectExists projectId
  let belongs (table : Table HubObject.id) (id : Option String) : Bool :=
    match id with
    | none => true
    | some "" => true
    | some id => (table.get? id).any fun o => (o.items.get "project_id").eqStr projectId
  ensure (belongs h.stages stageId) (raising "stage_not_found" "阶段不存在或不属于项目" 404)
  ensure (belongs h.areas areaId) (raising "area_not_found" "空间不存在或不属于项目" 404)

/-! ## The hooks of the hub -/

/-- `_after_transaction_insert(connection, transaction_id, payload, original_payment_id=…)`. -/
def Hub.afterTransactionInsert (cfg : Config) (h : Hub) (now transactionId : String)
    (payload : Dict) (originalPaymentId : Option String) : Except Raise Hub := do
  let projectId ← textOrNone cfg (payload.get "project_id") "project_id" 64
  let stageId ← textOrNone cfg (payload.get "stage_id") "stage_id" 64
  let areaId ← textOrNone cfg (payload.get "area_id") "area_id" 64
  let inherited := match projectId with
    | none => originalPaymentId.bind h.contexts.get?
    | some _ => none
  let given := projectId.map fun p => (p, stageId, areaId)
  let context := given.orElse fun _ => inherited.map fun c => (c.projectId, c.stageId, c.areaId)
  match context with
  | none => return h
  | some (projectId, stageId, areaId) =>
    h.validateContextRefs projectId stageId areaId
    let contexts ← orRaise
      (h.contexts.insert? ⟨transactionId, projectId, stageId, areaId, 1, now⟩) .integrity
    return { h with contexts := contexts }

/-- `_validate_transaction_version(connection, transaction_id, payload)`. -/
def Hub.validateTransactionVersion (h : Hub) (transactionId : String) (payload : Dict) :
    Except Raise Unit :=
  if payload.has "version" then do
    let expected ← version (payload.get "version")
    ensure ((h.contexts.get? transactionId).map Context.version = some expected)
      (raising "version_conflict" "账目已被其他请求修改" 409)
  else return ()

/-- A context after one more edit. -/
def Context.bumped (now : String) (c : Context) : Context :=
  { c with version := c.version + 1, updatedAt := now }

/-- `_after_transaction_update(connection, transaction_id, payload)`. -/
def Hub.afterTransactionUpdate (h : Hub) (now transactionId : String) (payload : Dict) :
    Except Raise Hub :=
  if payload.has "version" then do
    h.validateTransactionVersion transactionId payload
    return { h with contexts := h.contexts.update transactionId (Context.bumped now) }
  else return h

/-! ## `add_payment` -/

/-- The clean fields of `add_payment`. -/
structure PaymentFields where
  amountCents : ℤ
  occurredOn : String
  mainCategory : String
  merchant : String
  note : String
  isDeposit : Bool
  tags : List String
  groupedTags : Option GroupedTags
  ledgerFormatVersion : FormatVersion
  sourceRef : String

/-- The ledger version of a payment and what it says about its category and tags (lines 771–783). -/
def paymentClass (cfg : Config) (payload : Dict) :
    Except Raise (List String × Option GroupedTags × String × FormatVersion) := do
  let given := payload.get "ledger_format_version"
  ensure given.hashable .type
  ensure (given.isNull ∨ given.eqInt 1 ∨ given.eqInt 2)
    (rejecting "invalid_input" "ledger_format_version 只能是 1 或 2")
  if given.eqInt 2 || payload.has "grouped_tags" then
    let value := if payload.has "grouped_tags" then payload.get "grouped_tags" else .obj []
    let (tags, grouped) ← normalizeGroupedTags cfg value
    let mainCategory ← text cfg (payload.get "main_category") "main_category" 80 false
    ensure (mainCategory = "") (rejecting "invalid_input" "v2 付款不使用 main_category")
    return (tags, some grouped, mainCategory, .v2)
  else
    let tags ← normalizeTags cfg (payload.get "tags")
    let mainCategory ← text cfg (payload.get "main_category") "main_category" 80 true
    return (tags, none, mainCategory, .v1)

/-- `add_payment`, lines 771–796. -/
def paymentFields (cfg : Config) (payload : Dict) : Except Raise PaymentFields := do
  let (tags, grouped, mainCategory, ledgerFormatVersion) ← paymentClass cfg payload
  let amountCents ← positiveCents (payload.get "amount_cents")
  let occurredOn ← validateDate (payload.get "occurred_on") "occurred_on"
  let merchant ← text cfg (payload.get "merchant") "merchant" 200 false
  let note ← text cfg (payload.get "note") "note" 2000 false
  let isDeposit := truthy (payload.get "is_deposit")
  let sourceRef ← text cfg (payload.get "source_ref") "source_ref" 256 false
  return ⟨amountCents, occurredOn, mainCategory, merchant, note, isDeposit, tags, grouped,
    ledgerFormatVersion, sourceRef⟩

def PaymentFields.document (p : PaymentFields) : Dict :=
  [("amount_cents", .int p.amountCents), ("occurred_on", .str p.occurredOn),
    ("main_category", .str p.mainCategory), ("merchant", .str p.merchant), ("note", .str p.note),
    ("is_deposit", .bool p.isDeposit), ("tags", .arr (p.tags.map .str)),
    ("grouped_tags", (p.groupedTags.map GroupedTags.document).getD .null),
    ("ledger_format_version", .int p.ledgerFormatVersion.number), ("source_ref", .str p.sourceRef)]

/-- The raw context fields that a request of `add_payment` or `add_refund` is digested with. -/
def contextArguments (payload : Dict) : Dict :=
  [("project_id", payload.get "project_id"), ("stage_id", payload.get "stage_id"),
    ("area_id", payload.get "area_id")]

/-- The row that `add_payment` inserts. -/
def PaymentFields.row (p : PaymentFields) (id now : String) (portableId : ℤ) : Transaction where
  id := id
  legacyId := none
  type := .payment
  amountCents := p.amountCents
  occurredOn := p.occurredOn
  mainCategory := p.mainCategory
  merchant := p.merchant
  note := p.note
  isDeposit := p.isDeposit
  originalPaymentId := none
  status := .active
  voidReason := ""
  sourceRef := p.sourceRef
  createdAt := now
  updatedAt := now
  ledgerFormatVersion := p.ledgerFormatVersion
  portableId := some portableId

/-- The `operation` of `add_payment`. -/
def addPaymentOperation (cfg : Config) (env : Env) (payload : Dict) (actorHash key : String)
    (clean : PaymentFields) (h : Hub) : Except Raise (Hub × Json) := do
  let row := clean.row (env.uuid 0) (env.now 0) h.nextPortableId
  let transactions ← orRaise (h.transactions.insert? row) .integrity
  let h ← { h with transactions := transactions }.setTags cfg row.id clean.tags
    clean.ledgerFormatVersion fun k => env.now (k + 3)
  let h ← h.afterTransactionInsert cfg (env.now 1) row.id payload none
  let result ← h.transactionDocument row
  return (h.audit (env.now 2) "add_payment" row.id actorHash key "" none result, .obj result)

/-- `add_payment(payload, actor_hash=actor_hash)` (lines 769–844). -/
def addPayment (cfg : Config) (h : Hub) (env : Env) (payload : Dict) (actorHash : String) :
    Except Raise (Hub × Json × Bool) := do
  let key ← idempotencyKey (payload.get "idempotency_key")
  let clean ← paymentFields cfg payload
  runIdempotent cfg h env key
    (.obj (("tool", .str "ledger_add_payment") :: clean.document ++ contextArguments payload))
    (addPaymentOperation cfg env payload actorHash key clean)

/-! ## `add_refund` -/

/-- The clean fields of `add_refund`. -/
structure RefundFields where
  originalPaymentId : String
  amountCents : ℤ
  occurredOn : String
  note : String
  sourceRef : String

/-- `add_refund`, lines 848–854. -/
def refundFields (cfg : Config) (payload : Dict) : Except Raise RefundFields := do
  let originalPaymentId ←
    text cfg (payload.get "original_payment_id") "original_payment_id" 64 true
  let amountCents ← positiveCents (payload.get "amount_cents")
  let occurredOn ← validateDate (payload.get "occurred_on") "occurred_on"
  let note ← text cfg (payload.get "note") "note" 2000 false
  let sourceRef ← text cfg (payload.get "source_ref") "source_ref" 256 false
  return ⟨originalPaymentId, amountCents, occurredOn, note, sourceRef⟩

def RefundFields.document (r : RefundFields) : Dict :=
  [("original_payment_id", .str r.originalPaymentId), ("amount_cents", .int r.amountCents),
    ("occurred_on", .str r.occurredOn), ("note", .str r.note), ("source_ref", .str r.sourceRef)]

/-- The row that `add_refund` inserts. -/
def RefundFields.row (r : RefundFields) (payment : Transaction) (id now : String)
    (portableId : ℤ) : Transaction where
  id := id
  legacyId := none
  type := .refund
  amountCents := r.amountCents
  occurredOn := r.occurredOn
  mainCategory := ""
  merchant := ""
  note := r.note
  isDeposit := false
  originalPaymentId := some payment.id
  status := .active
  voidReason := ""
  sourceRef := r.sourceRef
  createdAt := now
  updatedAt := now
  ledgerFormatVersion := payment.ledgerFormatVersion
  portableId := some portableId

/-- The `operation` of `add_refund`. -/
def addRefundOperation (cfg : Config) (env : Env) (payload : Dict) (actorHash key : String)
    (clean : RefundFields) (h : Hub) : Except Raise (Hub × Json) := do
  let payment ← orRaise (h.activePayment clean.originalPaymentId)
    (raising "payment_not_found" "原付款不存在或已撤销" 404)
  ensure (h.refunded payment.id + clean.amountCents ≤ payment.amountCents)
    (raising "refund_exceeds_payment" "累计退款超过原付款" 409)
  let row := clean.row payment (env.uuid 0) (env.now 0) h.nextPortableId
  let transactions ← orRaise (h.transactions.insert? row) .integrity
  let h ← { h with transactions := transactions }.afterTransactionInsert cfg (env.now 1) row.id
    payload (some payment.id)
  let result ← h.transactionDocument row
  return (h.audit (env.now 2) "add_refund" row.id actorHash key "" none result, .obj result)

/-- `add_refund(payload, actor_hash=actor_hash)` (lines 846–912). -/
def addRefund (cfg : Config) (h : Hub) (env : Env) (payload : Dict) (actorHash : String) :
    Except Raise (Hub × Json × Bool) := do
  let key ← idempotencyKey (payload.get "idempotency_key")
  let clean ← refundFields cfg payload
  runIdempotent cfg h env key
    (.obj (("tool", .str "ledger_add_refund") :: clean.document ++ contextArguments payload))
    (addRefundOperation cfg env payload actorHash key clean)

/-! ## `correct_payment` -/

/-- The clean changes of `correct_payment`. -/
structure PaymentChanges where
  amountCents : Option ℤ
  occurredOn : Option String
  merchant : Option String
  note : Option String
  isDeposit : Option Bool
  mainCategory : Option String
  tags : Option (List String)

/-- A field of `changes`, read by its validator when it is there. -/
def changed {α : Type} (changes : Dict) (field : String) (read : Json → Except Raise α) :
    Except Raise (Option α) :=
  if changes.has field then some <$> read (changes.get field) else return none

/-- What `correct_payment` validates before it opens a transaction. -/
structure Correction where
  key : String
  paymentId : String
  changes : Dict
  reason : String
  clean : PaymentChanges

/-- `correct_payment`, lines 915–931. -/
def correction (cfg : Config) (payload : Dict) : Except Raise Correction := do
  let key ← idempotencyKey (payload.get "idempotency_key")
  let paymentId ← text cfg (payload.get "payment_id") "payment_id" 64 true
  let error := rejecting "invalid_input" "changes 必须是非空对象"
  let changes ← orRaise (payload.get "changes").asDict? error
  ensure (changes ≠ []) error
  let reason ← text cfg (payload.get "reason") "reason" 500 true
  let amountCents ← changed changes "amount_cents" positiveCents
  let occurredOn ← changed changes "occurred_on" (validateDate · "occurred_on")
  let merchant ← changed changes "merchant" (text cfg · "merchant" 200 false)
  let note ← changed changes "note" (text cfg · "note" 2000 false)
  let isDeposit ← changed changes "is_deposit" fun value => return truthy value
  return ⟨key, paymentId, changes, reason,
    ⟨amountCents, occurredOn, merchant, note, isDeposit, none, none⟩⟩

/-- The fields that a correction of a payment of this version may change. -/
def correctable (ledgerFormatVersion : FormatVersion) : List String :=
  ["amount_cents", "occurred_on", "merchant", "note", "is_deposit"] ++
    if ledgerFormatVersion = .v2 then ["grouped_tags"] else ["main_category", "tags"]

/-- The changes with the category and the tags, which are read in the way of the version of the
    payment (lines 938–957). -/
def Correction.complete (cfg : Config) (u : Correction) (ledgerFormatVersion : FormatVersion) :
    Except Raise PaymentChanges := do
  ensure (u.changes.keysWithin (correctable ledgerFormatVersion))
    (rejecting "invalid_input" "changes 包含与账本版本不兼容的字段")
  if ledgerFormatVersion = .v1 then
    let mainCategory ← changed u.changes "main_category" (text cfg · "main_category" 80 true)
    let tags ← changed u.changes "tags" (normalizeTags cfg)
    return { u.clean with mainCategory := mainCategory, tags := tags }
  else
    let tags ← changed u.changes "grouped_tags" (normalizeGroupedTags cfg)
    return { u.clean with tags := tags.map Prod.fst }

/-- `columns` is empty. -/
def PaymentChanges.noColumns (c : PaymentChanges) : Bool :=
  c.amountCents.isNone && c.occurredOn.isNone && c.merchant.isNone && c.note.isNone &&
    c.isDeposit.isNone && c.mainCategory.isNone

/-- The row that the `UPDATE` of `correct_payment` leaves. -/
def Transaction.corrected (c : PaymentChanges) (now : String) (t : Transaction) : Transaction :=
  if c.noColumns then t
  else { t with
    amountCents := c.amountCents.getD t.amountCents
    occurredOn := c.occurredOn.getD t.occurredOn
    merchant := c.merchant.getD t.merchant
    note := c.note.getD t.note
    isDeposit := c.isDeposit.getD t.isDeposit
    mainCategory := c.mainCategory.getD t.mainCategory
    updatedAt := now }

theorem Transaction.corrected_id (c : PaymentChanges) (now : String) (t : Transaction) :
    (t.corrected c now).id = t.id := by
  unfold Transaction.corrected
  split_ifs <;> rfl

/-- The tags of a correction, when it has any (lines 976–984). -/
def Hub.replaceTags (cfg : Config) (h : Hub) (transactionId : String) (tags : Option (List String))
    (ledgerFormatVersion : FormatVersion) (now : ℕ → String) : Except Raise Hub :=
  match tags with
  | some tags => h.setTags cfg transactionId tags ledgerFormatVersion now
  | none => return h

/-- The `operation` of `correct_payment`. -/
def correctPaymentOperation (cfg : Config) (env : Env) (payload : Dict) (actorHash : String)
    (u : Correction) (h : Hub) : Except Raise (Hub × Json) := do
  let row ← orRaise (h.activePayment u.paymentId)
    (raising "payment_not_found" "付款不存在或已撤销" 404)
  let clean ← u.complete cfg row.ledgerFormatVersion
  h.validateTransactionVersion u.paymentId payload
  let before ← h.transactionDocument row
  ensure (∀ amount ∈ clean.amountCents, h.refunded u.paymentId ≤ amount)
    (raising "refund_exceeds_payment" "付款金额不能低于累计退款" 409)
  let after := row.corrected clean (env.now 0)
  let h := h.setTransaction u.paymentId (Transaction.corrected clean (env.now 0))
    (Transaction.corrected_id _ _)
  let h ← h.replaceTags cfg u.paymentId clean.tags row.ledgerFormatVersion fun k => env.now (k + 3)
  let h ← h.afterTransactionUpdate (env.now 1) u.paymentId payload
  let result ← h.transactionDocument after
  return (h.audit (env.now 2) "correct_payment" u.paymentId actorHash u.key u.reason (some before)
    result, .obj result)

/-- `correct_payment(payload, actor_hash=actor_hash)` (lines 914–996). -/
def correctPayment (cfg : Config) (h : Hub) (env : Env) (payload : Dict) (actorHash : String) :
    Except Raise (Hub × Json × Bool) := do
  let u ← correction cfg payload
  runIdempotent cfg h env u.key
    (.obj [("tool", .str "ledger_correct_payment"), ("payment_id", .str u.paymentId),
      ("version", payload.get "version"), ("changes", .obj u.changes), ("reason", .str u.reason)])
    (correctPaymentOperation cfg env payload actorHash u)

/-! ## `undo` -/

/-- What `undo` validates before it opens a transaction. -/
structure Undo where
  key : String
  transactionId : String
  reason : String

/-- `undo`, lines 999–1001. -/
def undoing (cfg : Config) (payload : Dict) : Except Raise Undo := do
  let key ← idempotencyKey (payload.get "idempotency_key")
  let transactionId ← text cfg (payload.get "transaction_id") "transaction_id" 64 true
  let reason ← text cfg (payload.get "reason") "reason" 500 true
  return ⟨key, transactionId, reason⟩

/-- The row that the `UPDATE` of `undo` leaves. -/
def Transaction.undone (reason now : String) (t : Transaction) : Transaction :=
  { t with status := .voided, voidReason := reason, updatedAt := now }

/-- The `operation` of `undo`. -/
def undoOperation (env : Env) (payload : Dict) (actorHash : String) (u : Undo) (h : Hub) :
    Except Raise (Hub × Json) := do
  let row ← orRaise ((h.transactions.get? u.transactionId).filter fun t => t.status = .active)
    (raising "transaction_not_found" "流水不存在或已撤销" 404)
  h.validateTransactionVersion u.transactionId payload
  let before ← h.transactionDocument row
  ensure (row.type = .payment → h.activeRefunds u.transactionId = [])
    (raising "payment_has_refunds" "付款存在有效退款，不能直接撤销" 409)
  let h := h.setTransaction u.transactionId (Transaction.undone u.reason (env.now 0))
  let h ← h.afterTransactionUpdate (env.now 1) u.transactionId payload
  let result ← h.transactionDocument (row.undone u.reason (env.now 0))
  return (h.audit (env.now 2) "undo" u.transactionId actorHash u.key u.reason (some before) result,
    .obj result)

/-- `undo(payload, actor_hash=actor_hash)` (lines 998–1028). -/
def undo (cfg : Config) (h : Hub) (env : Env) (payload : Dict) (actorHash : String) :
    Except Raise (Hub × Json × Bool) := do
  let u ← undoing cfg payload
  runIdempotent cfg h env u.key
    (.obj [("tool", .str "ledger_undo"), ("transaction_id", .str u.transactionId),
      ("version", payload.get "version"), ("reason", .str u.reason)])
    (undoOperation env payload actorHash u)

end HomeAddons.Renovation
