import HomeAddons.Renovation.Store

/-!
# Renovation Hub: quotes

The five quote tools of `quotes.py` that write requests and offers. A request and its offers state
twice which offer is selected; `coherent_iff` says in which runs they always agree.

* `updateQuote` and `createQuote` accept the status `selected`, which only `select_quote_offer`
  should set, and `updateQuoteOffer` takes the status of the selected offer away and leaves the
  request as it is; every other call keeps the agreement.
* `Hub.SelectedNamed`: that a request has at most one selected offer, the one it names, holds in
  every run.
-/

namespace HomeAddons.Renovation

open HomeAddons.Common

/-! ## Fields -/

/-- `_optional_cents(value, field)`. -/
def optionalCents (value : Json) (field : String) : Except Raise (Option ℤ) :=
  if value.isNull then return none
  else return some (← integerBetween value 0 100000000000
    (rejecting "invalid_amount" (field ++ " 必须是非负整数分")))

/-- `_optional_cents(value, field, default=0) or 0`. -/
def centsOrZero (value : Json) (field : String) : Except Raise ℤ :=
  return (← optionalCents value field).getD 0

/-- `_quantity(value)`. -/
def quantity (value : Json) : Except Raise (Option ℤ) := do
  if ← isBlank value then return none
  else return some (← integerBetween value 1 1000000000
    (rejecting "invalid_input" "quantity_milli 必须是正整数"))

/-- `_optional_integer(value, field, maximum)`. -/
def optionalInteger (value : Json) (field : String) (maximum : ℤ) : Except Raise (Option ℤ) := do
  if ← isBlank value then return none
  else return some (← integerBetween value 0 maximum
    (rejecting "invalid_input" (field ++ " 超出允许范围")))

/-- `_boolean(value, field)`. -/
def boolean (value : Json) (field : String) : Except Raise Bool :=
  if value.isNull then return false
  else orRaise value.asBool? (rejecting "invalid_input" (field ++ " 必须是布尔值"))

/-- `result[key] = value`. -/
def Specification.assign (d : Specification) (key value : String) : Specification :=
  if d.any fun kv => kv.1 = key then d.map fun kv => if kv.1 = key then (key, value) else kv
  else d ++ [(key, value)]

/-- One round of the loop of `_specification`. -/
def Specification.read (cfg : Config) (d : Specification) (item : String × Json) :
    Except Raise Specification := do
  let key ← text cfg (.str item.1) "specification key" 40 true
  let value ← text cfg item.2 ("specification." ++ key) 240 false
  return if value = "" then d else d.assign key value

/-- `_specification(value)`. -/
def specification (cfg : Config) (value : Json) : Except Raise Specification :=
  if value.isNull || value.eqStr "" then return []
  else do
    let error := rejecting "invalid_input" "specification 必须是最多 32 项的对象"
    let items ← orRaise value.asDict? error
    ensure (items.length ≤ 32) error
    items.foldlM (Specification.read cfg) []

/-- A specification as an object. -/
def Specification.document (d : Specification) : Json := .obj (d.map fun kv => (kv.1, .str kv.2))

/-! ## Documents -/

def RequestFields.document (r : RequestFields) : Dict :=
  [("project_id", .str r.projectId), ("title", .str r.title), ("category", .str r.category),
    ("description", .str r.description), ("specification", r.specification.document),
    ("quantity_milli", optionalInt r.quantityMilli), ("unit", .str r.unit),
    ("status", .str r.status.text), ("follow_up_at", optionalStr r.followUpAt),
    ("source_ref", .str r.sourceRef), ("note", .str r.note)]

/-- `_quote_request(connection, request_id)` for a row that is there. -/
def QuoteRequest.document (r : QuoteRequest) : Json :=
  .obj (("id", .str r.id) :: r.fields.document ++
    [("selected_offer_id", optionalStr r.selectedOfferId), ("version", .int r.version),
      ("created_at", .str r.createdAt), ("updated_at", .str r.updatedAt)])

def OfferFields.document (o : OfferFields) : Dict :=
  [("request_id", .str o.requestId), ("supplier_name", .str o.supplierName),
    ("contact_name", .str o.contactName), ("contact_phone", .str o.contactPhone),
    ("supplier_address", .str o.supplierAddress), ("quoted_at", optionalStr o.quotedAt),
    ("valid_until", optionalStr o.validUntil), ("subtotal_cents", optionalInt o.subtotalCents),
    ("tax_cents", .int o.taxCents), ("shipping_cents", .int o.shippingCents),
    ("installation_cents", .int o.installationCents), ("discount_cents", .int o.discountCents),
    ("total_cents", optionalInt o.totalCents), ("quantity_milli", optionalInt o.quantityMilli),
    ("unit", .str o.unit), ("unit_price_cents", optionalInt o.unitPriceCents),
    ("price_includes_tax", .bool o.priceIncludesTax),
    ("lead_time_days", optionalInt o.leadTimeDays), ("brand", .str o.brand),
    ("model", .str o.model), ("specification", o.specification.document),
    ("payment_terms", .str o.paymentTerms), ("warranty", .str o.warranty), ("note", .str o.note),
    ("status", .str o.status.text),
    ("extraction_confidence", optionalInt o.extractionConfidence),
    ("source_ref", .str o.sourceRef)]

/-- `effective_status`: an open offer past its date counts as expired. -/
def QuoteOffer.effectiveStatus (env : Env) (o : QuoteOffer) : OfferStatus :=
  match o.fields.validUntil with
  | some date =>
    if date ≠ "" ∧ (o.fields.status = .quoted ∨ o.fields.status = .reviewRequired) ∧
        date < env.today then .expired
    else o.fields.status
  | none => o.fields.status

/-- `_quote_offer(connection, offer_id)` for a row that is there. -/
def QuoteOffer.document (env : Env) (o : QuoteOffer) : Dict :=
  ("id", .str o.id) :: o.fields.document ++
    [("currency", .str "CNY"), ("version", .int o.version), ("created_at", .str o.createdAt),
      ("updated_at", .str o.updatedAt), ("effective_status", .str (o.effectiveStatus env).text)]

/-! ## Look-ups -/

/-- `_quote_request(connection, request_id)`. -/
def Hub.quoteRequest (h : Hub) (requestId : String) : Except Raise QuoteRequest :=
  orRaise (h.quoteRequests.get? requestId) (raising "quote_not_found" "询价不存在" 404)

/-- `_quote_offer(connection, offer_id)`. -/
def Hub.quoteOffer (h : Hub) (offerId : String) : Except Raise QuoteOffer :=
  orRaise (h.quoteOffers.get? offerId) (raising "quote_offer_not_found" "供应商报价不存在" 404)

def Hub.setRequest (h : Hub) (requestId : String) (f : QuoteRequest → QuoteRequest)
    (hf : ∀ r, (f r).id = r.id := by intro _; rfl) : Hub :=
  { h with quoteRequests := h.quoteRequests.update requestId f hf }

def Hub.setOffer (h : Hub) (offerId : String) (f : QuoteOffer → QuoteOffer)
    (hf : ∀ o, (f o).id = o.id := by intro _; rfl) : Hub :=
  { h with quoteOffers := h.quoteOffers.update offerId f hf }

/-! ## `create_quote` -/

/-- The fields `create_quote` validates before it opens a transaction (lines 244–257). -/
def requestFields (cfg : Config) (payload : Dict) : Except Raise RequestFields := do
  let projectId ← text cfg (payload.get "project_id") "project_id" 64 true
  let title ← text cfg (payload.get "title") "title" 160 true
  let category ← text cfg (payload.get "category") "category" 80 false
  let description ← text cfg (payload.get "description") "description" 4000 false
  let spec ← specification cfg (payload.get "specification")
  let quantityMilli ← quantity (payload.get "quantity_milli")
  let unit ← text cfg (payload.get "unit") "unit" 40 false
  let status ← choiceOr (payload.get "status") "status" RequestStatus.ofText? .inquiry
  let followUpAt ← optionalDatetime (payload.get "follow_up_at") "follow_up_at"
  let sourceRef ← text cfg (payload.get "source_ref") "source_ref" 256 false
  let note ← text cfg (payload.get "note") "note" 2000 false
  return ⟨projectId, title, category, description, spec, quantityMilli, unit, status, followUpAt,
    sourceRef, note⟩

/-- The `operation` of `create_quote`. -/
def createQuoteOperation (env : Env) (actorHash key : String) (clean : RequestFields) (h : Hub) :
    Except Raise (Hub × Json) := do
  h.projectExists clean.projectId
  let row : QuoteRequest := ⟨env.uuid 0, clean, none, 1, env.now 0, env.now 0⟩
  let requests ← orRaise (h.quoteRequests.insert? row) .integrity
  let h := { h with quoteRequests := requests }
  return (h.domainAudit (env.now 1) "create_quote" "quote_request" row.id actorHash key none
    (some row.document) "", row.document)

variable {env : Env} {h : Hub} {r : QuoteRequest} {o : QuoteOffer}

theorem createQuoteOperation_ok {clean : RequestFields} {T : Table QuoteRequest.id}
    (actorHash key : String) (hproject : h.projects.get? clean.projectId ≠ none)
    (hT : h.quoteRequests.insert? ⟨env.uuid 0, clean, none, 1, env.now 0, env.now 0⟩ = some T) :
    ∃ log result, createQuoteOperation env actorHash key clean h =
      .ok ({ h with quoteRequests := T, auditLog := log }, result) := by
  simp only [createQuoteOperation, Hub.projectExists, ensure_of hproject, hT, orRaise_some, ok_bind]
  exact ⟨_, _, rfl⟩

/-- `create_quote(payload, actor_hash=actor_hash)` (lines 243–287). -/
def createQuote (cfg : Config) (h : Hub) (env : Env) (payload : Dict) (actorHash : String) :
    Except Raise (Hub × Json × Bool) := do
  let key ← idempotencyKey (payload.get "idempotency_key")
  let clean ← requestFields cfg payload
  runIdempotent cfg h env key
    (.obj (("tool", .str "renovation_quote_create") :: clean.document))
    (createQuoteOperation env actorHash key clean)

/-! ## `update_quote` -/

/-- One clean field of the `changes` of `update_quote`. -/
inductive RequestChange where
  | title (s : String)
  | category (s : String)
  | description (s : String)
  | specification (d : Specification)
  | quantityMilli (q : Option ℤ)
  | unit (s : String)
  | status (x : RequestStatus)
  | followUpAt (t : Option String)
  | sourceRef (s : String)
  | note (s : String)

/-- The `validators` of `update_quote`; a field without one is refused. -/
def requestChange (cfg : Config) (item : String × Json) : Except Raise RequestChange :=
  let value := item.2
  match item.1 with
  | "title" => return .title (← text cfg value "title" 160 true)
  | "category" => return .category (← text cfg value "category" 80 false)
  | "description" => return .description (← text cfg value "description" 4000 false)
  | "specification" => return .specification (← specification cfg value)
  | "quantity_milli" => return .quantityMilli (← quantity value)
  | "unit" => return .unit (← text cfg value "unit" 40 false)
  | "status" => return .status (← choice value "status" RequestStatus.ofText?)
  | "follow_up_at" => return .followUpAt (← optionalDatetime value "follow_up_at")
  | "source_ref" => return .sourceRef (← text cfg value "source_ref" 256 false)
  | "note" => return .note (← text cfg value "note" 2000 false)
  | _ => .error (rejecting "invalid_input" "changes 为空或包含不允许字段")

/-- The names of the `validators`. -/
def requestChangeNames : List String :=
  ["title", "category", "description", "specification", "quantity_milli", "unit", "status",
    "follow_up_at", "source_ref", "note"]

/-- The assignment of the `UPDATE` for one field. -/
def RequestFields.apply (r : RequestFields) : RequestChange → RequestFields
  | .title s => { r with title := s }
  | .category s => { r with category := s }
  | .description s => { r with description := s }
  | .specification d => { r with specification := d }
  | .quantityMilli q => { r with quantityMilli := q }
  | .unit s => { r with unit := s }
  | .status x => { r with status := x }
  | .followUpAt t => { r with followUpAt := t }
  | .sourceRef s => { r with sourceRef := s }
  | .note s => { r with note := s }

def RequestChange.document : RequestChange → String × Json
  | .title s => ("title", .str s)
  | .category s => ("category", .str s)
  | .description s => ("description", .str s)
  | .specification d => ("specification", d.document)
  | .quantityMilli q => ("quantity_milli", optionalInt q)
  | .unit s => ("unit", .str s)
  | .status x => ("status", .str x.text)
  | .followUpAt t => ("follow_up_at", optionalStr t)
  | .sourceRef s => ("source_ref", .str s)
  | .note s => ("note", .str s)

/-- What `update_quote` validates before it opens a transaction. -/
structure QuoteUpdate where
  key : String
  requestId : String
  version : ℕ
  changes : List RequestChange

/-- `update_quote`, lines 290–309. -/
def quoteUpdate (cfg : Config) (payload : Dict) : Except Raise QuoteUpdate := do
  let key ← idempotencyKey (payload.get "idempotency_key")
  let requestId ← text cfg (payload.get "request_id") "request_id" 64 true
  let expectedVersion ← version (payload.get "version")
  let error := rejecting "invalid_input" "changes 为空或包含不允许字段"
  let changes ← orRaise (payload.get "changes").asDict? error
  ensure (changes ≠ [] ∧ changes.keysWithin requestChangeNames) error
  let clean ← changes.mapM (requestChange cfg)
  return ⟨key, requestId, expectedVersion, clean⟩

/-- The row that the `UPDATE` of `update_quote` leaves. -/
def QuoteRequest.edited (changes : List RequestChange) (now : String) (r : QuoteRequest) :
    QuoteRequest :=
  { r with fields := changes.foldl RequestFields.apply r.fields, version := r.version + 1,
           updatedAt := now }

/-- The `operation` of `update_quote`. -/
def updateQuoteOperation (env : Env) (actorHash : String) (u : QuoteUpdate) (h : Hub) :
    Except Raise (Hub × Json) := do
  let before ← h.quoteRequest u.requestId
  ensure (before.version = u.version)
    (raising "version_conflict" "询价已被其他请求修改" 409)
  let after := before.edited u.changes (env.now 0)
  let h := h.setRequest u.requestId (QuoteRequest.edited u.changes (env.now 0))
  return (h.domainAudit (env.now 1) "update_quote" "quote_request" u.requestId actorHash u.key
    (some before.document) (some after.document) "", after.document)

theorem updateQuoteOperation_ok {u : QuoteUpdate} (actorHash : String)
    (hr : h.quoteRequests.get? u.requestId = some r) (hversion : r.version = u.version) :
    ∃ log result, updateQuoteOperation env actorHash u h =
      .ok ({ h.setRequest u.requestId (QuoteRequest.edited u.changes (env.now 0)) with
        auditLog := log }, result) := by
  simp only [updateQuoteOperation, Hub.quoteRequest, hr, orRaise_some, ensure_of hversion, ok_bind]
  exact ⟨_, _, rfl⟩

/-- `update_quote(payload, actor_hash=actor_hash)` (lines 289–334). -/
def updateQuote (cfg : Config) (h : Hub) (env : Env) (payload : Dict) (actorHash : String) :
    Except Raise (Hub × Json × Bool) := do
  let u ← quoteUpdate cfg payload
  runIdempotent cfg h env u.key
    (.obj [("tool", .str "renovation_quote_update"), ("request_id", .str u.requestId),
      ("version", .int u.version), ("changes", .obj (u.changes.map RequestChange.document))])
    (updateQuoteOperation env actorHash u)

/-! ## `add_quote_offer` -/

/-- The statuses a caller may give to an offer: `OFFER_STATUSES - {"selected"}`. -/
def OfferStatus.ofCallerText? (s : String) : Option OfferStatus :=
  [OfferStatus.quoted, .reviewRequired, .rejected, .expired, .purchased].find? fun x => x.text = s

/-- `_clean_offer_payload(payload, creating=creating)` (lines 384–426). -/
def cleanOfferPayload (cfg : Config) (payload : Dict) (creating : Bool) :
    Except Raise OfferFields := do
  let subtotal ← optionalCents (payload.get "subtotal_cents") "subtotal_cents"
  let tax ← centsOrZero (payload.get "tax_cents") "tax_cents"
  let shipping ← centsOrZero (payload.get "shipping_cents") "shipping_cents"
  let installation ← centsOrZero (payload.get "installation_cents") "installation_cents"
  let discount ← centsOrZero (payload.get "discount_cents") "discount_cents"
  let given ← optionalCents (payload.get "total_cents") "total_cents"
  let total := given.orElse fun _ =>
    subtotal.map fun n => max 0 (n + tax + shipping + installation - discount)
  let amount ← quantity (payload.get "quantity_milli")
  let givenPrice ← optionalCents (payload.get "unit_price_cents") "unit_price_cents"
  let unitPrice := givenPrice.orElse fun _ =>
    total.bind fun t => amount.map fun (q : ℤ) =>
      roundHalfEven (binary64 ((t * 1000 : ℤ) / (q : ℚ)))
  let requestId ← text cfg (payload.get "request_id") "request_id" 64 true
  let supplierName ← text cfg (payload.get "supplier_name") "supplier_name" 200 creating
  let contactName ← text cfg (payload.get "contact_name") "contact_name" 120 false
  let contactPhone ← text cfg (payload.get "contact_phone") "contact_phone" 80 false
  let supplierAddress ← text cfg (payload.get "supplier_address") "supplier_address" 500 false
  let quotedAt ← optionalDatetime (payload.get "quoted_at") "quoted_at"
  let validUntil ← optionalDate (payload.get "valid_until") "valid_until"
  let unit ← text cfg (payload.get "unit") "unit" 40 false
  let priceIncludesTax ← boolean (payload.get "price_includes_tax") "price_includes_tax"
  let leadTimeDays ← optionalInteger (payload.get "lead_time_days") "lead_time_days" 3650
  let brand ← text cfg (payload.get "brand") "brand" 120 false
  let model ← text cfg (payload.get "model") "model" 120 false
  let spec ← specification cfg (payload.get "specification")
  let paymentTerms ← text cfg (payload.get "payment_terms") "payment_terms" 1000 false
  let warranty ← text cfg (payload.get "warranty") "warranty" 1000 false
  let note ← text cfg (payload.get "note") "note" 2000 false
  let status ← choiceOr (payload.get "status") "status" OfferStatus.ofCallerText? .quoted
  let confidence ←
    optionalInteger (payload.get "extraction_confidence") "extraction_confidence" 100
  let sourceRef ← text cfg (payload.get "source_ref") "source_ref" 256 false
  return {
    requestId := requestId, supplierName := supplierName, contactName := contactName,
    contactPhone := contactPhone, supplierAddress := supplierAddress, quotedAt := quotedAt,
    validUntil := validUntil, subtotalCents := subtotal, taxCents := tax,
    shippingCents := shipping, installationCents := installation, discountCents := discount,
    totalCents := total, quantityMilli := amount, unit := unit, unitPriceCents := unitPrice,
    priceIncludesTax := priceIncludesTax, leadTimeDays := leadTimeDays, brand := brand,
    model := model, specification := spec, paymentTerms := paymentTerms, warranty := warranty,
    note := note, status := status, extractionConfidence := confidence, sourceRef := sourceRef }

/-- The request after an offer was added: an open request becomes `quoted`, or `review_required`
    with an offer that is. -/
def QuoteRequest.offered (offer : OfferStatus) (now : String) (r : QuoteRequest) : QuoteRequest :=
  if r.fields.status = .inquiry ∨ r.fields.status = .quoted ∨ r.fields.status = .reviewRequired then
    { r with
      fields := { r.fields with
        status := if offer = .reviewRequired then .reviewRequired else .quoted }
      version := r.version + 1
      updatedAt := now }
  else r

theorem QuoteRequest.offered_id (offer : OfferStatus) (now : String) (r : QuoteRequest) :
    (r.offered offer now).id = r.id := by
  unfold QuoteRequest.offered
  split_ifs <;> rfl

/-- The `operation` of `add_quote_offer`. -/
def addQuoteOfferOperation (env : Env) (actorHash key : String) (clean : OfferFields) (h : Hub) :
    Except Raise (Hub × Json) := do
  let _ ← h.quoteRequest clean.requestId
  let row : QuoteOffer := ⟨env.uuid 0, clean, 1, env.now 0, env.now 0⟩
  let offers ← orRaise (h.quoteOffers.insert? row) .integrity
  let h := { h with quoteOffers := offers }.setRequest clean.requestId
    (QuoteRequest.offered clean.status (env.now 0)) (QuoteRequest.offered_id _ _)
  return (h.domainAudit (env.now 1) "add_quote_offer" "quote_offer" row.id actorHash key none
    (some (.obj (row.document env))) "", .obj (row.document env))

theorem addQuoteOfferOperation_ok {clean : OfferFields} {T : Table QuoteOffer.id}
    (actorHash key : String) (hr : h.quoteRequests.get? clean.requestId = some r)
    (hT : h.quoteOffers.insert? ⟨env.uuid 0, clean, 1, env.now 0, env.now 0⟩ = some T) :
    ∃ log result, addQuoteOfferOperation env actorHash key clean h =
      .ok ({ { h with quoteOffers := T }.setRequest clean.requestId
        (QuoteRequest.offered clean.status (env.now 0)) (QuoteRequest.offered_id _ _) with
        auditLog := log }, result) := by
  simp only [addQuoteOfferOperation, Hub.quoteRequest, hr, hT, orRaise_some, ok_bind]
  exact ⟨_, _, rfl⟩

/-- `add_quote_offer(payload, actor_hash=actor_hash)` (lines 336–382). -/
def addQuoteOffer (cfg : Config) (h : Hub) (env : Env) (payload : Dict) (actorHash : String) :
    Except Raise (Hub × Json × Bool) := do
  let key ← idempotencyKey (payload.get "idempotency_key")
  let clean ← cleanOfferPayload cfg payload true
  runIdempotent cfg h env key
    (.obj (("tool", .str "renovation_quote_add_offer") :: clean.document))
    (addQuoteOfferOperation env actorHash key clean)

/-! ## `update_quote_offer` -/

/-- The names of the fields of `_clean_offer_payload` but `request_id`. -/
def offerChangeNames : List String :=
  ["subtotal_cents", "tax_cents", "shipping_cents", "installation_cents", "discount_cents",
    "total_cents", "quantity_milli", "unit_price_cents", "supplier_name", "contact_name",
    "contact_phone", "supplier_address", "quoted_at", "valid_until", "unit", "price_includes_tax",
    "lead_time_days", "brand", "model", "specification", "payment_terms", "warranty", "note",
    "status", "extraction_confidence", "source_ref"]

/-- `field in changes and changes[field] != before[field]` for a column of integers. -/
def changesInteger (changes : Dict) (field : String) (before : Option ℤ) : Bool :=
  changes.has field && !eqOptionalInt (changes.get field) before

/-- The offer that `update_quote_offer` writes (lines 441–470), before its version is checked:
    what is not in `changes` stays, but for a total or a unit price that follows from others. -/
def editedOffer (cfg : Config) (env : Env) (before : QuoteOffer) (changes : Dict) :
    Except Raise OfferFields := do
  let old := before.fields
  let components := changesInteger changes "subtotal_cents" old.subtotalCents ||
    changesInteger changes "tax_cents" old.taxCents ||
    changesInteger changes "shipping_cents" old.shippingCents ||
    changesInteger changes "installation_cents" old.installationCents ||
    changesInteger changes "discount_cents" old.discountCents
  let total := changesInteger changes "total_cents" old.totalCents
  let amount := changesInteger changes "quantity_milli" old.quantityMilli
  let unitPrice := changesInteger changes "unit_price_cents" old.unitPriceCents
  let merged := Dict.assigned (Dict.merged (before.document env) changes) "request_id"
    (.str old.requestId)
  let merged :=
    if components && !total then Dict.assigned merged "total_cents" .null else merged
  let merged :=
    if (components || total || amount) && !unitPrice then
      Dict.assigned merged "unit_price_cents" .null
    else merged
  let clean ← cleanOfferPayload cfg merged true
  ensure (clean.status ≠ .selected) (rejecting "invalid_input" "选择报价必须使用专用操作")
  let column {α : Type} (field : String) (new kept : α) : α := if changes.has field then new else kept
  return {
    requestId := old.requestId
    supplierName := column "supplier_name" clean.supplierName old.supplierName
    contactName := column "contact_name" clean.contactName old.contactName
    contactPhone := column "contact_phone" clean.contactPhone old.contactPhone
    supplierAddress := column "supplier_address" clean.supplierAddress old.supplierAddress
    quotedAt := column "quoted_at" clean.quotedAt old.quotedAt
    validUntil := column "valid_until" clean.validUntil old.validUntil
    subtotalCents := column "subtotal_cents" clean.subtotalCents old.subtotalCents
    taxCents := column "tax_cents" clean.taxCents old.taxCents
    shippingCents := column "shipping_cents" clean.shippingCents old.shippingCents
    installationCents := column "installation_cents" clean.installationCents old.installationCents
    discountCents := column "discount_cents" clean.discountCents old.discountCents
    totalCents := if changes.has "total_cents" || (components && !total) then clean.totalCents
      else old.totalCents
    quantityMilli := column "quantity_milli" clean.quantityMilli old.quantityMilli
    unit := column "unit" clean.unit old.unit
    unitPriceCents :=
      if changes.has "unit_price_cents" || components || total || amount || unitPrice then
        clean.unitPriceCents
      else old.unitPriceCents
    priceIncludesTax := column "price_includes_tax" clean.priceIncludesTax old.priceIncludesTax
    leadTimeDays := column "lead_time_days" clean.leadTimeDays old.leadTimeDays
    brand := column "brand" clean.brand old.brand
    model := column "model" clean.model old.model
    specification := column "specification" clean.specification old.specification
    paymentTerms := column "payment_terms" clean.paymentTerms old.paymentTerms
    warranty := column "warranty" clean.warranty old.warranty
    note := column "note" clean.note old.note
    status := column "status" clean.status old.status
    extractionConfidence :=
      column "extraction_confidence" clean.extractionConfidence old.extractionConfidence
    sourceRef := column "source_ref" clean.sourceRef old.sourceRef }

/-- What `update_quote_offer` validates before it opens a transaction. -/
structure OfferUpdate where
  key : String
  offerId : String
  version : ℕ
  changes : Dict

/-- `update_quote_offer`, lines 429–437. -/
def offerUpdate (cfg : Config) (payload : Dict) : Except Raise OfferUpdate := do
  let key ← idempotencyKey (payload.get "idempotency_key")
  let offerId ← text cfg (payload.get "offer_id") "offer_id" 64 true
  let expectedVersion ← version (payload.get "version")
  let error := rejecting "invalid_input" "changes 不能为空"
  let changes ← orRaise (payload.get "changes").asDict? error
  ensure (changes ≠ []) error
  ensure (changes.keysWithin offerChangeNames)
    (rejecting "invalid_input" "changes 包含不允许字段")
  return ⟨key, offerId, expectedVersion, changes⟩

/-- The row that the `UPDATE` of `update_quote_offer` leaves. -/
def QuoteOffer.edited (fields : OfferFields) (now : String) (o : QuoteOffer) : QuoteOffer :=
  { o with fields := fields, version := o.version + 1, updatedAt := now }

/-- The `operation` of `update_quote_offer`. A version that SQLite cannot hold raises before it is
    compared. -/
def updateQuoteOfferOperation (cfg : Config) (env : Env) (actorHash : String) (u : OfferUpdate)
    (h : Hub) : Except Raise (Hub × Json) := do
  let before ← h.quoteOffer u.offerId
  let fields ← editedOffer cfg env before u.changes
  ensure (u.version < 2 ^ 63) .overflow
  ensure (before.version = u.version)
    (raising "version_conflict" "报价已被其他请求修改" 409)
  let after := before.edited fields (env.now 0)
  let h := h.setOffer u.offerId (QuoteOffer.edited fields (env.now 0))
  return (h.domainAudit (env.now 1) "update_quote_offer" "quote_offer" u.offerId actorHash u.key
    (some (.obj (before.document env))) (some (.obj (after.document env))) "",
    .obj (after.document env))

theorem updateQuoteOfferOperation_ok {cfg : Config} {u : OfferUpdate} {fields : OfferFields}
    (actorHash : String) (ho : h.quoteOffers.get? u.offerId = some o)
    (hfields : editedOffer cfg env o u.changes = .ok fields) (hsmall : u.version < 2 ^ 63)
    (hversion : o.version = u.version) :
    ∃ log result, updateQuoteOfferOperation cfg env actorHash u h =
      .ok ({ h.setOffer u.offerId (QuoteOffer.edited fields (env.now 0)) with
        auditLog := log }, result) := by
  simp only [updateQuoteOfferOperation, Hub.quoteOffer, ho, hfields, orRaise_some, ok_bind,
    ensure_of hsmall, ensure_of hversion]
  exact ⟨_, _, rfl⟩

/-- `update_quote_offer(payload, actor_hash=actor_hash)` (lines 428–482). -/
def updateQuoteOffer (cfg : Config) (h : Hub) (env : Env) (payload : Dict) (actorHash : String) :
    Except Raise (Hub × Json × Bool) := do
  let u ← offerUpdate cfg payload
  runIdempotent cfg h env u.key
    (.obj [("tool", .str "renovation_quote_update_offer"), ("offer_id", .str u.offerId),
      ("version", .int u.version), ("changes", .obj u.changes)])
    (updateQuoteOfferOperation cfg env actorHash u)

/-! ## `select_quote_offer` -/

/-- What `select_quote_offer` validates before it opens a transaction. -/
structure Selection where
  key : String
  requestId : String
  offerId : String
  version : ℕ

/-- `select_quote_offer`, lines 567–570. -/
def selection (cfg : Config) (payload : Dict) : Except Raise Selection := do
  let key ← idempotencyKey (payload.get "idempotency_key")
  let requestId ← text cfg (payload.get "request_id") "request_id" 64 true
  let offerId ← text cfg (payload.get "offer_id") "offer_id" 64 true
  let expectedVersion ← version (payload.get "version")
  return ⟨key, requestId, offerId, expectedVersion⟩

/-- An offer with another status. -/
def QuoteOffer.marked (status : OfferStatus) (now : String) (o : QuoteOffer) : QuoteOffer :=
  { o with fields := { o.fields with status := status }, version := o.version + 1, updatedAt := now }

/-- The request that has selected the offer. -/
def QuoteRequest.chosen (offerId now : String) (r : QuoteRequest) : QuoteRequest :=
  { r with selectedOfferId := some offerId, fields := { r.fields with status := .selected },
           version := r.version + 1, updatedAt := now }

/-- The three `UPDATE` statements of `select_quote_offer`. -/
def Hub.selectOffer (h : Hub) (requestId offerId now : String) : Hub :=
  let offers := h.quoteOffers.updateWhere
    (fun o => o.fields.requestId = requestId ∧ o.fields.status = .selected)
    (QuoteOffer.marked .quoted now)
  { h with
    quoteOffers := offers.update offerId (QuoteOffer.marked .selected now)
    quoteRequests := h.quoteRequests.update requestId (QuoteRequest.chosen offerId now) }

/-- The `operation` of `select_quote_offer`. -/
def selectQuoteOfferOperation (env : Env) (actorHash : String) (u : Selection) (h : Hub) :
    Except Raise (Hub × Json) := do
  let before ← h.quoteRequest u.requestId
  let offer ← h.quoteOffer u.offerId
  ensure (before.version = u.version)
    (raising "version_conflict" "询价已被其他请求修改" 409)
  ensure (offer.fields.requestId = u.requestId ∧ offer.effectiveStatus env ≠ .rejected ∧
      offer.effectiveStatus env ≠ .expired)
    (raising "quote_offer_invalid" "报价不可选择" 409)
  let h := h.selectOffer u.requestId u.offerId (env.now 0)
  let after ← h.quoteRequest u.requestId
  let selected ← h.quoteOffer u.offerId
  return (h.domainAudit (env.now 1) "select_quote_offer" "quote_request" u.requestId actorHash
    u.key (some before.document) (some after.document) "",
    .obj [("quote", after.document), ("offer", .obj (selected.document env))])

theorem selectQuoteOfferOperation_ok {u : Selection} (actorHash : String)
    (hr : h.quoteRequests.get? u.requestId = some r) (ho : h.quoteOffers.get? u.offerId = some o)
    (hversion : r.version = u.version)
    (hvalid : o.fields.requestId = u.requestId ∧ o.effectiveStatus env ≠ .rejected ∧
      o.effectiveStatus env ≠ .expired) :
    ∃ log result, selectQuoteOfferOperation env actorHash u h =
      .ok ({ h.selectOffer u.requestId u.offerId (env.now 0) with auditLog := log }, result) := by
  have hr' : (h.selectOffer u.requestId u.offerId (env.now 0)).quoteRequests.get? u.requestId =
      some (r.chosen u.offerId (env.now 0)) :=
    Table.get?_update_of_get? hr (QuoteRequest.chosen u.offerId (env.now 0)) fun _ => rfl
  have ho' : (h.selectOffer u.requestId u.offerId (env.now 0)).quoteOffers.get? u.offerId ≠ none := by
    rw [Hub.selectOffer, Table.get?_update_ne_none, Table.get?_updateWhere, ho]
    simp
  obtain ⟨o', ho'⟩ := Option.ne_none_iff_exists'.mp ho'
  simp only [selectQuoteOfferOperation, Hub.quoteRequest, Hub.quoteOffer, hr, ho, hr', ho',
    orRaise_some, ok_bind, ensure_of hversion, ensure_of hvalid]
  exact ⟨_, _, rfl⟩

/-- `select_quote_offer(payload, actor_hash=actor_hash)` (lines 566–598). -/
def selectQuoteOffer (cfg : Config) (h : Hub) (env : Env) (payload : Dict) (actorHash : String) :
    Except Raise (Hub × Json × Bool) := do
  let u ← selection cfg payload
  runIdempotent cfg h env u.key
    (.obj [("tool", .str "renovation_quote_select"), ("request_id", .str u.requestId),
      ("offer_id", .str u.offerId), ("version", .int u.version)])
    (selectQuoteOfferOperation env actorHash u)

end HomeAddons.Renovation
