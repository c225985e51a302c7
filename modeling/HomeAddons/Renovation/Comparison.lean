import HomeAddons.Common.Lex
import HomeAddons.Renovation.Selection

/-!
# Renovation Hub: the best offer of a request

`_quote_summary`, `show_quote` and `compare_quote` (`quotes.py`, lines 515–564). The summary takes
the least total of the offers that are not stored as rejected or expired; the comparison looks for
its best offer among those that do not count as rejected or expired today.

* `compareQuote_agrees_iff`: the two agree exactly when every offer that has lapsed, with a total,
  is not cheaper than some offer that has not.
-/

namespace HomeAddons.Renovation

open HomeAddons.Common

/-- The order of the integers as the computable one. -/
local instance (priority := high) intPreorder : Preorder ℤ :=
  Int.instLinearOrder.toPartialOrder.toPreorder

/-! ## Media of a request -/

/-- `quote_media_links.role`. -/
inductive QuoteMediaRole where
  | source | product | quoteSheet | businessCard | address | other
  deriving DecidableEq

/-- A row of `quote_media_links` with what a quote shows of its row of `media_assets`. -/
structure QuoteMedia where
  requestId : String
  offerId : Option String
  role : QuoteMediaRole
  linkedAt : String
  mediaId : String
  isImage : Bool
  originalFilename : String
  previewName : Option String

/-- `cover_media`. -/
structure CoverMedia where
  id : String
  originalFilename : String
  previewUrl : String

/-- `CASE quote_media_links.role WHEN …`. -/
def QuoteMediaRole.rank : QuoteMediaRole → ℕ
  | .product => 0
  | .quoteSheet => 1
  | _ => 2

/-- `if row["preview_name"]`. -/
def QuoteMedia.hasPreview (m : QuoteMedia) : Bool := m.previewName.any fun name => name ≠ ""

def QuoteMedia.cover (m : QuoteMedia) : CoverMedia :=
  ⟨m.mediaId, m.originalFilename,
    "/api/v1/media/" ++ m.mediaId ++ if m.hasPreview then "/preview" else "/content"⟩

/-- The cover of a request: the first image by role and time. -/
def coverMedia (media : List QuoteMedia) (requestId : String) : Option CoverMedia :=
  ((media.filter fun m => m.requestId = requestId ∧ m.isImage).insertionSort
    (LexBy (fun m : QuoteMedia => m.role.rank) QuoteMedia.linkedAt)).head?.map QuoteMedia.cover

/-- `_quote_media(connection, request_id)`. -/
def quoteMedia (media : List QuoteMedia) (requestId : String) : List QuoteMedia :=
  (media.filter fun m => m.requestId = requestId).insertionSort
    (LexBy QuoteMedia.linkedAt QuoteMedia.mediaId)

/-! ## Summary and comparison -/

/-- The offers of a request, `ORDER BY created_at,id`. -/
def Hub.offersOf (h : Hub) (requestId : String) : List QuoteOffer :=
  (h.quoteOffers.rows.filter fun o => o.fields.requestId = requestId).insertionSort
    (LexBy QuoteOffer.createdAt QuoteOffer.id)

/-- `status NOT IN ('rejected','expired')`. -/
def OfferStatus.counts (s : OfferStatus) : Bool := s ≠ .rejected && s ≠ .expired

/-- `_quote_summary`: the row of the request and what is told of its offers. -/
structure QuoteSummary where
  request : QuoteRequest
  offerCount : ℕ
  bestTotalCents : Option ℤ
  supplierNames : List String
  cover : Option CoverMedia

/-- The offers that the summary counts. -/
def Hub.countedOffers (h : Hub) (requestId : String) : List QuoteOffer :=
  h.quoteOffers.rows.filter fun o => o.fields.requestId = requestId ∧ o.fields.status.counts

/-- `min(total_cents)` of the offers that are counted. -/
def Hub.bestTotalCents (h : Hub) (requestId : String) : Option ℤ :=
  ((h.countedOffers requestId).filterMap fun o => o.fields.totalCents).min?

/-- `_quote_summary(connection, request_id)` (lines 515–549). -/
def Hub.quoteSummary (h : Hub) (media : List QuoteMedia) (requestId : String) :
    Except Raise QuoteSummary := do
  let request ← h.quoteRequest requestId
  return {
    request := request
    offerCount := (h.countedOffers requestId).length
    bestTotalCents := h.bestTotalCents requestId
    supplierNames := (h.offersOf requestId).map fun o => o.fields.supplierName
    cover := coverMedia media requestId }

/-- What `show_quote` returns. -/
structure ShownQuote where
  quote : QuoteSummary
  offers : List QuoteOffer
  media : List QuoteMedia

/-- `show_quote(request_id)` (lines 551–556). -/
def Hub.showQuote (cfg : Config) (h : Hub) (media : List QuoteMedia) (requestId : Json) :
    Except Raise ShownQuote := do
  let requestId ← text cfg requestId "request_id" 64 true
  let quote ← h.quoteSummary media requestId
  return ⟨quote, h.offersOf requestId, quoteMedia media requestId⟩

/-- What `compare_quote` adds to it. -/
structure Comparison extends ShownQuote where
  bestOfferId : Option String
  unitPricesComparable : Bool

/-- An offer with a total that does not count as rejected or expired. -/
def QuoteOffer.comparable (env : Env) (o : QuoteOffer) : Bool :=
  o.fields.totalCents.isSome && (o.effectiveStatus env).counts

/-- `(item["total_cents"], item["id"])` of an offer that has a total. -/
def QuoteOffer.price (o : QuoteOffer) : ℤ ×ₗ String := toLex (o.fields.totalCents.getD 0, o.id)

/-- The truth of `offer["quantity_milli"]`. -/
def QuoteOffer.hasQuantity (o : QuoteOffer) : Bool := o.fields.quantityMilli.any fun n => n ≠ 0

/-- `compare_quote(request_id)` (lines 558–564). -/
def Hub.compareQuote (cfg : Config) (env : Env) (h : Hub) (media : List QuoteMedia)
    (requestId : Json) : Except Raise Comparison := do
  let result ← h.showQuote cfg media requestId
  let comparable := result.offers.filter (QuoteOffer.comparable env)
  let units := ((comparable.filter fun o => o.fields.unit ≠ "" && o.hasQuantity).map
    fun o => o.fields.unit).dedup
  return {
    result with
    bestOfferId := (comparable.argmin QuoteOffer.price).map QuoteOffer.id
    unitPricesComparable := units.length ≤ 1 && comparable.all QuoteOffer.hasQuantity }

/-! ## Agreement -/

/-- The offer that is marked as the best has the total that is shown, and there is the one if and
    only if there is the other. -/
def Comparison.Agrees (c : Comparison) : Prop :=
  (c.bestOfferId = none ↔ c.quote.bestTotalCents = none) ∧
    ∀ o ∈ c.offers, c.bestOfferId = some o.id → o.fields.totalCents = c.quote.bestTotalCents

/-- The offer is open, and its date is over. -/
def QuoteOffer.lapsed (env : Env) (o : QuoteOffer) : Prop :=
  (o.fields.status = .quoted ∨ o.fields.status = .reviewRequired) ∧
    ∃ date, o.fields.validUntil = some date ∧ date ≠ "" ∧ date < env.today

variable {env : Env} {o : QuoteOffer} {h : Hub} {requestId : String} {n : ℤ} {c : Comparison}

theorem QuoteOffer.effectiveStatus_of_lapsed (ho : o.lapsed env) :
    o.effectiveStatus env = .expired := by
  obtain ⟨hopen, date, hdate, hne, hpast⟩ := ho
  rw [effectiveStatus, hdate]
  exact if_pos ⟨hne, hopen, hpast⟩

theorem QuoteOffer.effectiveStatus_of_not_lapsed (ho : ¬ o.lapsed env) :
    o.effectiveStatus env = o.fields.status := by
  unfold effectiveStatus
  split
  · next date hdate =>
    rw [if_neg]
    rintro ⟨hne, hopen, hpast⟩
    exact ho ⟨hopen, date, hdate, hne, hpast⟩
  · rfl

/-- An offer that has not lapsed is comparable if and only if the summary takes its total. -/
theorem QuoteOffer.comparable_iff : o.comparable env = true ↔
    o.fields.totalCents ≠ none ∧ o.fields.status.counts = true ∧ ¬ o.lapsed env := by
  rw [comparable, Bool.and_eq_true, Option.isSome_iff_ne_none]
  refine and_congr_right fun _ => ?_
  by_cases hlapsed : o.lapsed env
  · rw [effectiveStatus_of_lapsed hlapsed]
    simp [hlapsed, OfferStatus.counts]
  · rw [effectiveStatus_of_not_lapsed hlapsed]
    simp [hlapsed]

theorem QuoteOffer.counts_of_lapsed (ho : o.lapsed env) : o.fields.status.counts = true := by
  obtain ⟨hopen | hopen, -⟩ := ho <;> rw [hopen] <;> rfl

theorem Hub.mem_offersOf :
    o ∈ h.offersOf requestId ↔ o ∈ h.quoteOffers.rows ∧ o.fields.requestId = requestId := by
  rw [offersOf, List.mem_insertionSort, List.mem_filter, decide_eq_true_eq]

theorem Hub.mem_countedOffers :
    o ∈ h.countedOffers requestId ↔ o ∈ h.offersOf requestId ∧ o.fields.status.counts = true := by
  rw [countedOffers, List.mem_filter, decide_eq_true_eq, mem_offersOf, and_assoc]

/-- The total that is shown is the least one of the offers that are counted. -/
theorem Hub.bestTotalCents_eq_some :
    h.bestTotalCents requestId = some n ↔
      (∃ o ∈ h.offersOf requestId, o.fields.status.counts = true ∧ o.fields.totalCents = some n) ∧
      ∀ o ∈ h.offersOf requestId, o.fields.status.counts = true →
        ∀ m, o.fields.totalCents = some m → n ≤ m := by
  rw [bestTotalCents, List.min?_eq_some_iff]
  simp only [List.mem_filterMap, mem_countedOffers]
  constructor
  · rintro ⟨⟨o, ⟨ho, hcounts⟩, hn⟩, hle⟩
    exact ⟨⟨o, ho, hcounts, hn⟩, fun o ho hcounts m hm => hle m ⟨o, ⟨ho, hcounts⟩, hm⟩⟩
  · rintro ⟨⟨o, ho, hcounts, hn⟩, hle⟩
    refine ⟨⟨o, ⟨ho, hcounts⟩, hn⟩, ?_⟩
    rintro m ⟨o, ⟨ho, hcounts⟩, hm⟩
    exact hle o ho hcounts m hm

theorem Hub.bestTotalCents_eq_none :
    h.bestTotalCents requestId = none ↔
      ∀ o ∈ h.offersOf requestId, o.fields.status.counts = true → o.fields.totalCents = none := by
  rw [bestTotalCents, List.min?_eq_none_iff, List.filterMap_eq_nil_iff]
  simp only [mem_countedOffers, and_imp]

/-- The offer that is marked is comparable, and no comparable offer has a smaller total. -/
theorem best_spec {env : Env} {offers : List QuoteOffer} {o : QuoteOffer}
    (ho : (offers.filter (QuoteOffer.comparable env)).argmin QuoteOffer.price = some o) :
    o ∈ offers ∧ o.comparable env = true ∧ ∃ n, o.fields.totalCents = some n ∧
      ∀ o' ∈ offers, o'.comparable env = true → ∀ m, o'.fields.totalCents = some m → n ≤ m := by
  obtain ⟨hmem, hcomparable⟩ := List.mem_filter.mp (List.argmin_mem ho)
  obtain ⟨n, hn⟩ := Option.ne_none_iff_exists'.mp (QuoteOffer.comparable_iff.mp hcomparable).1
  refine ⟨hmem, hcomparable, n, hn, fun o' ho' hcomparable' m hm => ?_⟩
  have hle : o.price ≤ o'.price :=
    List.le_of_mem_argmin (List.mem_filter.mpr ⟨ho', hcomparable'⟩) ho
  rw [QuoteOffer.price, QuoteOffer.price, hn, hm, Prod.Lex.toLex_le_toLex] at hle
  obtain hlt | ⟨heq, -⟩ := hle
  · exact hlt.le
  · exact heq.le

/-- What the comparison and the summary in it are made of. -/
theorem Hub.compareQuote_ok {cfg : Config} {media : List QuoteMedia} {requestId : Json}
    (hc : h.compareQuote cfg env media requestId = .ok c) :
    ∃ id, text cfg requestId "request_id" 64 true = .ok id ∧ c.offers = h.offersOf id ∧
      c.bestOfferId = (((h.offersOf id).filter (QuoteOffer.comparable env)).argmin
        QuoteOffer.price).map QuoteOffer.id ∧
      c.quote.bestTotalCents = h.bestTotalCents id := by
  simp only [compareQuote, showQuote, quoteSummary, bind_eq_ok, pure_eq_ok] at hc
  obtain ⟨_, ⟨id, hid, _, ⟨request, -, rfl⟩, rfl⟩, rfl⟩ := hc
  exact ⟨id, hid, rfl, rfl, rfl⟩

/-- Every lapsed offer of the request that the summary takes has a comparable offer beside it that
    is not dearer. -/
def Hub.LapsedOutbid (env : Env) (h : Hub) (requestId : String) : Prop :=
  ∀ o ∈ h.offersOf requestId, o.lapsed env → ∀ n, o.fields.totalCents = some n →
    ∃ o' ∈ h.offersOf requestId, o'.fields.status.counts = true ∧ ¬ o'.lapsed env ∧
      ∃ m, o'.fields.totalCents = some m ∧ m ≤ n

theorem Hub.offer_eq {o' : QuoteOffer} (ho : o ∈ h.offersOf requestId)
    (ho' : o' ∈ h.offersOf requestId) (hid : o.id = o'.id) : o = o' := by
  have hget := Table.mem_rows_iff.mp (Hub.mem_offersOf.mp ho).1
  have hget' := Table.mem_rows_iff.mp (Hub.mem_offersOf.mp ho').1
  rw [hid, hget'] at hget
  exact (Option.some.inj hget).symm

/-- The two agree when the total that is shown is the total of the best offer. -/
theorem Comparison.agrees_iff {best : Option QuoteOffer}
    (hoffers : c.offers = h.offersOf requestId) (hbest : c.bestOfferId = best.map QuoteOffer.id)
    (htotal : ∀ o ∈ best, o ∈ h.offersOf requestId ∧ o.fields.totalCents ≠ none) :
    c.Agrees ↔ c.quote.bestTotalCents = best.bind fun o => o.fields.totalCents := by
  rw [Agrees, hoffers, hbest]
  cases best with
  | none => simp
  | some b =>
    obtain ⟨hb, hsome⟩ := htotal b rfl
    rw [Option.map_some, Option.bind_some]
    constructor
    · rintro ⟨-, hsame⟩
      exact (hsame b hb rfl).symm
    · intro heq
      refine ⟨by simp [heq, hsome], fun o ho hid => ?_⟩
      rw [Hub.offer_eq ho hb (Option.some.inj hid).symm, heq]

/-- Beside every offer that is counted there is a comparable one that is not dearer. -/
theorem Hub.LapsedOutbid.exists_comparable (hout : h.LapsedOutbid env requestId)
    (ho : o ∈ h.offersOf requestId) (hcounts : o.fields.status.counts = true)
    (hn : o.fields.totalCents = some n) :
    ∃ o' ∈ h.offersOf requestId, o'.comparable env = true ∧
      ∃ m, o'.fields.totalCents = some m ∧ m ≤ n := by
  by_cases hlapsed : o.lapsed env
  · obtain ⟨o', ho', hcounts', hopen, m, hm, hle⟩ := hout o ho hlapsed n hn
    exact ⟨o', ho', QuoteOffer.comparable_iff.mpr ⟨by simp [hm], hcounts', hopen⟩, m, hm, hle⟩
  · exact ⟨o, ho, QuoteOffer.comparable_iff.mpr ⟨by simp [hn], hcounts, hlapsed⟩, n, hn, le_rfl⟩

/-- The total shown is that of the best offer exactly when the lapsed offers are outbid. -/
theorem Hub.bestTotalCents_eq_iff :
    (h.bestTotalCents requestId = (((h.offersOf requestId).filter
      (QuoteOffer.comparable env)).argmin QuoteOffer.price).bind fun o => o.fields.totalCents) ↔
    h.LapsedOutbid env requestId := by
  have hspec := @best_spec env (h.offersOf requestId)
  constructor
  · intro heq o ho hlapsed n hn
    -- the lapsed offer is counted, so that there is a best offer, with the total shown
    have hcounts := QuoteOffer.counts_of_lapsed hlapsed
    obtain ⟨least, hleast⟩ : ∃ least, h.bestTotalCents requestId = some least := by
      rw [← Option.ne_none_iff_exists', ne_eq, Hub.bestTotalCents_eq_none]
      intro hnone
      rw [hnone o ho hcounts] at hn
      cases hn
    rw [hleast] at heq
    obtain ⟨b, hb, hbtotal⟩ := Option.bind_eq_some_iff.mp heq.symm
    obtain ⟨hbmem, hcomparable, -⟩ := hspec hb
    obtain ⟨-, hbcounts, hopen⟩ := QuoteOffer.comparable_iff.mp hcomparable
    exact ⟨b, hbmem, hbcounts, hopen, least, hbtotal,
      (Hub.bestTotalCents_eq_some.mp hleast).2 o ho hcounts n hn⟩
  · intro hout
    cases hb : ((h.offersOf requestId).filter (QuoteOffer.comparable env)).argmin
        QuoteOffer.price with
    | none =>
      rw [Option.bind_none, Hub.bestTotalCents_eq_none]
      intro o ho hcounts
      by_contra hsome
      obtain ⟨n, hn⟩ := Option.ne_none_iff_exists'.mp hsome
      obtain ⟨o', ho', hcomparable, -⟩ := hout.exists_comparable ho hcounts hn
      rw [List.argmin_eq_none, List.filter_eq_nil_iff] at hb
      exact hb o' ho' hcomparable
    | some b =>
      obtain ⟨hbmem, hcomparable, n, hn, hle⟩ := hspec hb
      rw [Option.bind_some, hn, Hub.bestTotalCents_eq_some]
      refine ⟨⟨b, hbmem, (QuoteOffer.comparable_iff.mp hcomparable).2.1, hn⟩,
        fun o ho hcounts m hm => ?_⟩
      obtain ⟨o', ho', hcomparable', k, hk, hkm⟩ := hout.exists_comparable ho hcounts hm
      exact (hle o' ho' hcomparable' k hk).trans hkm

/-- The comparison agrees with the summary exactly when every lapsed offer of the request is
    outbid. -/
theorem compareQuote_agrees_iff {cfg : Config} {env : Env} {h : Hub} {media : List QuoteMedia}
    {requestId : Json} {c : Comparison} (hc : h.compareQuote cfg env media requestId = .ok c) :
    c.Agrees ↔ ∃ id, text cfg requestId "request_id" 64 true = .ok id ∧ h.LapsedOutbid env id := by
  obtain ⟨id, hid, hoffers, hbest, htotal⟩ := Hub.compareQuote_ok hc
  have hagrees := Comparison.agrees_iff hoffers hbest fun o ho => by
    obtain ⟨hmem, hcomparable, -⟩ := best_spec ho
    exact ⟨hmem, (QuoteOffer.comparable_iff.mp hcomparable).1⟩
  rw [hagrees, htotal, Hub.bestTotalCents_eq_iff]
  constructor
  · exact fun hout => ⟨id, hid, hout⟩
  · rintro ⟨id', hid', hout⟩
    rw [hid] at hid'
    cases hid'
    exact hout

/-! ### A request with one offer -/

/-- An offer of 50.00 that holds until a date. -/
def offerPayload (validUntil : String) : Dict :=
  [("idempotency_key", .str "quote-offer-0001"), ("request_id", .str "quote-01"),
    ("supplier_name", .str "Tile shop"), ("total_cents", .int 5000),
    ("valid_until", .str validUntil)]

/-- The calls that store the request and its offer. -/
def offerCalls (validUntil : String) : List QuoteCall :=
  [.create (sampleEnv "quote-01") (createPayload .null) "page",
    .addOffer (sampleEnv "offer-01") (offerPayload validUntil) "page"]

def quotedHub (validUntil : String) : Hub :=
  (offerCalls validUntil).foldl (QuoteCall.step sampleConfig) sampleHub

def quotedComparison (validUntil : String) : Except Raise Comparison :=
  (quotedHub validUntil).compareQuote sampleConfig (sampleEnv "") [] (.str "quote-01")

theorem quotedHub_facts :
    ((quotedComparison "2026-08-31").toOption.any fun _ =>
      (text sampleConfig (.str "quote-01") "request_id" 64 true).toOption = some "quote-01" ∧
      (quotedHub "2026-08-31").quoteOffers.rows.map (fun o => o.fields.validUntil) =
        [some "2026-08-31"]) ∧
    (quotedComparison "2026-07-31").toOption.any fun c =>
      c.bestOfferId = none ∧ c.quote.bestTotalCents = some 5000 := by
  decide +kernel

/-- An offer that still holds. -/
theorem compareQuote_agrees_quoted :
    ∃ c, quotedComparison "2026-08-31" = .ok c ∧ c.Agrees := by
  obtain ⟨hfacts, -⟩ := quotedHub_facts
  rw [Option.any_eq_true] at hfacts
  obtain ⟨c, hc, hfacts⟩ := hfacts
  rw [decide_eq_true_eq] at hfacts
  obtain ⟨hid, hdates⟩ := hfacts
  refine ⟨c, toOption_eq_some.mp hc, (compareQuote_agrees_iff (toOption_eq_some.mp hc)).mpr
    ⟨"quote-01", toOption_eq_some.mp hid, ?_⟩⟩
  rintro o ho ⟨-, date, hdate, -, hpast⟩
  have hmem := List.mem_map_of_mem (f := fun o : QuoteOffer => o.fields.validUntil)
    (Hub.mem_offersOf.mp ho).1
  rw [hdates, List.mem_singleton, hdate] at hmem
  rw [Option.some.inj hmem] at hpast
  exact absurd hpast (by decide +kernel)

/-- A lapsed offer is shown as the best total, and no offer is the best one. -/
theorem lapsed_best_total :
    ∃ c, quotedComparison "2026-07-31" = .ok c ∧ ¬ c.Agrees := by
  obtain ⟨-, hfacts⟩ := quotedHub_facts
  rw [Option.any_eq_true] at hfacts
  obtain ⟨c, hc, hfacts⟩ := hfacts
  rw [decide_eq_true_eq] at hfacts
  obtain ⟨hbest, htotal⟩ := hfacts
  refine ⟨c, toOption_eq_some.mp hc, fun hagrees => ?_⟩
  rw [hagrees.1.mp hbest] at htotal
  cases htotal

end HomeAddons.Renovation
