import HomeAddons.Common.Lex
import HomeAddons.Renovation.Versions

/-!
# Renovation Hub: queries and summaries

`query` and `summary` (`ledger.py`, lines 1184–1251) with the filters of the hub (`hub.py`, lines
1161–1181): the rows are selected by their columns, put in order and cut at the limit, and only then
looked at as they are shown, a refund with the category of its payment.

* `Hub.query_rows`: what a query returns.
* `Hub.summary_net_iff`: the net amount is the matching payments without their refunds exactly when
  what the limit cuts off and the refunds that do not match with their payment cancel out.
-/

namespace HomeAddons.Renovation

open HomeAddons.Common

/-! ## Filters -/

/-- The filters of a query, as texts; an empty text is one that is not given. -/
structure Filters where
  type : String := ""
  status : String := ""
  mainCategory : String := ""
  start : String := ""
  stop : String := ""
  keyword : String := ""
  tag : String := ""
  projectId : String := ""
  stageId : String := ""
  areaId : String := ""

/-- The filters as a query reads them. -/
structure Criteria where
  type : String
  status : String
  mainCategory : String
  start : Option String
  stop : Option String
  keyword : String
  tag : String
  projectId : Option String
  stageId : Option String
  areaId : Option String

/-- A filter on a date, when it is given. -/
def dateBound (value field : String) : Except Raise (Option String) :=
  if value = "" then return none else some <$> validateDate (.str value) field

/-- A filter on the context, when it is given. -/
def contextValue (cfg : Config) (value field : String) : Except Raise (Option String) :=
  if value = "" then return none else some <$> text cfg (.str value) field 64 true

/-- The columns are as the filters say (lines 1188–1200). -/
def Criteria.selects (c : Criteria) (t : Transaction) : Bool :=
  (c.type = "" ∨ t.type.text = c.type) ∧ (c.status = "" ∨ t.status.text = c.status) ∧
    (c.mainCategory = "" ∨ t.mainCategory = c.mainCategory) ∧
    (∀ start ∈ c.start, start ≤ t.occurredOn) ∧ ∀ stop ∈ c.stop, t.occurredOn ≤ stop

/-! ## Items -/

/-- A transaction as it is shown. -/
structure LedgerItem where
  row : Transaction
  tags : List String
  context : Option Context

/-- What the document of a row is made of. -/
def Hub.shown (h : Hub) (row : Transaction) : LedgerItem :=
  ⟨(h.inherited row).1, (h.inherited row).2, h.contexts.get? row.id⟩

/-- `_row_json(connection, row)`, as the item that a query goes on with. -/
def Hub.item (h : Hub) (row : Transaction) : Except Raise LedgerItem := do
  let _ ← h.transactionDocument row
  return h.shown row

/-- The keyword is part of the merchant, the note or the category (lines 1211–1213). -/
def Criteria.mentions (cfg : Config) (c : Criteria) (i : LedgerItem) : Bool :=
  c.keyword = "" ∨ (cfg.unicode.casefold c.keyword).toList <:+:
    (cfg.unicode.casefold (joinWith " " [i.row.merchant, i.row.note, i.row.mainCategory])).toList

/-- The item carries the tag (lines 1214–1215). -/
def Criteria.tagged (cfg : Config) (c : Criteria) (i : LedgerItem) : Bool :=
  c.tag = "" ∨ cfg.unicode.casefold c.tag ∈ i.tags.map cfg.unicode.casefold

/-- `item.get("context") and item["context"].get(field) == value`. -/
def LedgerItem.inContext (value : Option String) (column : Context → Option String)
    (i : LedgerItem) : Bool :=
  value.all fun value => (i.context.bind column) = some value

/-- The item is in the project, the stage and the area of the filters. -/
def Criteria.placed (c : Criteria) (i : LedgerItem) : Bool :=
  i.inContext c.projectId (fun x => some x.projectId) && i.inContext c.stageId Context.stageId &&
    i.inContext c.areaId Context.areaId

/-- The item is as the filters say. -/
def Criteria.keeps (cfg : Config) (c : Criteria) (i : LedgerItem) : Bool :=
  c.mentions cfg i && c.tagged cfg i && c.placed i

/-! ## Queries -/

/-- The rows that a query reads, in their order, before its limit. -/
def Hub.selected (h : Hub) (c : Criteria) : List Transaction :=
  (h.transactions.rows.filter c.selects).insertionSort
    (LexBy Transaction.occurredOn Transaction.id)

/-- The filters of the ledger as it reads them, without a context. -/
def Filters.ledgerCriteria (cfg : Config) (f : Filters) (limit : ℤ) : Except Raise Criteria := do
  let start ← dateBound f.start "start"
  let stop ← dateBound f.stop "end"
  ensure (1 ≤ limit ∧ limit ≤ 1000) (rejecting "invalid_input" "limit 必须为 1 到 1000")
  let keyword ← text cfg (.str f.keyword) "keyword" 100 false
  let tag ← text cfg (.str f.tag) "tag" 40 false
  return ⟨f.type, f.status, f.mainCategory, start, stop, keyword, tag, none, none, none⟩

/-- `LedgerStore.query(filters)` (lines 1184–1216). -/
def Hub.ledgerQuery (cfg : Config) (h : Hub) (f : Filters) (limit : ℤ) :
    Except Raise (List LedgerItem) := do
  let c ← f.ledgerCriteria cfg limit
  let items ← ((h.selected c).take limit.toNat).mapM h.item
  return (items.filter (c.mentions cfg)).filter (c.tagged cfg)

/-- `RenovationHubStore.query(filters)` (`hub.py`, lines 1161–1181). -/
def Hub.query (cfg : Config) (h : Hub) (f : Filters) (limit : ℤ) :
    Except Raise (List LedgerItem) :=
  if f.projectId = "" ∧ f.stageId = "" ∧ f.areaId = "" then h.ledgerQuery cfg f limit
  else do
    let items ← h.ledgerQuery cfg f 1000
    let projectId ← contextValue cfg f.projectId "project_id"
    let stageId ← contextValue cfg f.stageId "stage_id"
    let areaId ← contextValue cfg f.areaId "area_id"
    let items := items.filter fun i => i.inContext projectId (fun x => some x.projectId)
    let items := items.filter fun i => i.inContext stageId Context.stageId
    let items := items.filter fun i => i.inContext areaId Context.areaId
    ensure (1 ≤ limit ∧ limit ≤ 1000) (rejecting "invalid_input" "limit 必须为 1 到 1000")
    return items.take limit.toNat

/-! ## Summaries -/

/-- Amounts by name, in the order in which the names came. -/
abbrev Totals := List (String × ℤ)

/-- `totals.get(name, 0)`. -/
def Totals.total (totals : Totals) (name : String) : ℤ := (totals.lookup name).getD 0

/-- `totals[name] = totals.get(name, 0) + amount`. -/
def Totals.add (totals : Totals) (name : String) (amount : ℤ) : Totals :=
  if totals.any fun kv => kv.1 = name then
    totals.map fun kv => if kv.1 = name then (kv.1, kv.2 + amount) else kv
  else totals ++ [(name, amount)]

/-- `bucket[value] = bucket.get(value, 0) + amount` for `dimensions.setdefault(dimension, {})`. -/
def addToDimension (dimensions : List (String × Totals)) (dimension value : String) (amount : ℤ) :
    List (String × Totals) :=
  if dimensions.any fun kv => kv.1 = dimension then
    dimensions.map fun kv => if kv.1 = dimension then (kv.1, kv.2.add value amount) else kv
  else dimensions ++ [(dimension, Totals.add [] value amount)]

/-- The result of a summary; its other texts are fixed. -/
structure Summary where
  netAmountCents : ℤ
  categoryTotals : Totals
  tagTotals : Totals
  dimensions : List (String × Totals)
  transactionCount : ℕ

/-- The amount with its sign. -/
def Transaction.signed (t : Transaction) : ℤ :=
  if t.type = .refund then -t.amountCents else t.amountCents

/-- The category under which an item is counted. -/
def LedgerItem.category (i : LedgerItem) : String :=
  if i.row.mainCategory = "" then "未分类" else i.row.mainCategory

/-- One tag of an item (lines 1236–1240). -/
def Summary.addTag (i : LedgerItem) (s : Summary) (tag : String) : Summary :=
  let s := { s with tagTotals := s.tagTotals.add tag i.row.signed }
  if i.row.ledgerFormatVersion = .v2 then
    let (dimension, value) := (partitionColon tag).getD (tag, "")
    { s with dimensions := addToDimension s.dimensions dimension value i.row.signed }
  else s

/-- One round of the loop of `summary` (lines 1228–1240). -/
def Summary.addItem (s : Summary) (i : LedgerItem) : Summary :=
  let s := { s with netAmountCents := s.netAmountCents + i.row.signed }
  let s := if i.row.ledgerFormatVersion = .v1 then
      { s with categoryTotals := s.categoryTotals.add i.category i.row.signed }
    else s
  i.tags.foldl (Summary.addTag i) s

/-- The loop of `summary`. -/
def summarize (items : List LedgerItem) : Summary :=
  items.foldl Summary.addItem
    ⟨0, [], [], tagDimensions.map fun dimension => (dimension, []), items.length⟩

/-- `summary(filters)` (lines 1218–1251). -/
def Hub.summary (cfg : Config) (h : Hub) (f : Filters) : Except Raise Summary :=
  summarize <$> h.query cfg { f with status := "active" } 1000

/-! ## What a query returns -/

variable {cfg : Config} {h : Hub} {f : Filters}

/-- The filters as a query of the hub reads them. -/
def Filters.criteria (cfg : Config) (f : Filters) : Except Raise Criteria := do
  let c ← f.ledgerCriteria cfg 1000
  let projectId ← contextValue cfg f.projectId "project_id"
  let stageId ← contextValue cfg f.stageId "stage_id"
  let areaId ← contextValue cfg f.areaId "area_id"
  return { c with projectId := projectId, stageId := stageId, areaId := areaId }

variable {limit : ℤ} {c : Criteria} {rows : List Transaction} {items : List LedgerItem} {α : Type}

theorem Filters.ledgerCriteria_ok (hs : f.ledgerCriteria cfg limit = .ok c) :
    c.status = f.status ∧ c.projectId = none ∧ c.stageId = none ∧ c.areaId = none := by
  simp only [Filters.ledgerCriteria, bind_eq_ok, pure_eq_ok] at hs
  obtain ⟨_, _, _, _, _, _, _, _, _, _, rfl⟩ := hs
  exact ⟨rfl, rfl, rfl, rfl⟩

theorem mapM_item (hs : rows.mapM h.item = .ok items) : items = rows.map h.shown := by
  have hitems := mapM_ok hs
  clear hs
  induction hitems with
  | nil => rfl
  | cons hitem _ ih =>
    simp only [Hub.item, bind_eq_ok, pure_eq_ok] at hitem
    obtain ⟨_, _, rfl⟩ := hitem
    rw [ih, List.map_cons]

/-- The selected rows with a property are in the order of all selected rows. -/
theorem Hub.selected_filter {p : Transaction → Bool} :
    (h.selected c).filter p = (h.transactions.rows.filter fun t => c.selects t && p t).insertionSort
      (LexBy Transaction.occurredOn Transaction.id) := by
  unfold Hub.selected
  rw [filter_insertionSort, List.filter_filter]
  · exact congrArg _ (List.filter_congr fun t _ => Bool.and_comm _ _)
  · intro a ha b hb hab hba
    exact List.inj_on_of_nodup_map h.transactions.nodup (List.mem_of_mem_filter ha)
      (List.mem_of_mem_filter hb) (LexBy.antisymm hab hba)

/-- The number of rows that a query reads: the limit is put off when there is a context. -/
def Filters.rowLimit (f : Filters) (limit : ℤ) : ℕ :=
  if f.projectId = "" ∧ f.stageId = "" ∧ f.areaId = "" then limit.toNat else 1000

theorem Filters.ledgerCriteria_limit (hs : f.ledgerCriteria cfg limit = .ok c) :
    (1 ≤ limit ∧ limit ≤ 1000) ∧ f.ledgerCriteria cfg 1000 = .ok c := by
  have hmost : (1 : ℤ) ≤ 1000 ∧ (1000 : ℤ) ≤ 1000 := by decide
  simp only [Filters.ledgerCriteria, bind_eq_ok, ensure_eq_ok, pure_eq_ok] at hs ⊢
  obtain ⟨start, hstart, stop, hstop, u, hlimit, hs⟩ := hs
  exact ⟨hlimit, start, hstart, stop, hstop, u, hmost, hs⟩

/-- A query reads the first rows, keeps those of them that are as the filters say, and returns the
    first ones of these. -/
theorem Hub.query_rows (hs : h.query cfg f limit = .ok items) :
    (1 ≤ limit ∧ limit ≤ 1000) ∧ ∃ c, f.criteria cfg = .ok c ∧ c.status = f.status ∧
      items = ((((h.selected c).take (f.rowLimit limit)).map h.shown).filter
        (c.keeps cfg)).take limit.toNat := by
  have hledger : ∀ limit items, h.ledgerQuery cfg f limit = .ok items →
      (1 ≤ limit ∧ limit ≤ 1000) ∧ ∃ c, f.ledgerCriteria cfg 1000 = .ok c ∧
      items = (((h.selected c).take limit.toNat).map h.shown).filter fun i =>
        c.tagged cfg i && c.mentions cfg i := by
    intro limit items hs
    simp only [Hub.ledgerQuery, bind_eq_ok, pure_eq_ok] at hs
    obtain ⟨c, hc, shown, hshown, rfl⟩ := hs
    obtain ⟨hlimit, hc⟩ := Filters.ledgerCriteria_limit hc
    refine ⟨hlimit, c, hc, ?_⟩
    rw [List.filter_filter, mapM_item hshown]
  unfold Hub.query at hs
  unfold Filters.rowLimit
  split_ifs at hs ⊢ with hnone
  · obtain ⟨hlimit, c, hc, rfl⟩ := hledger limit items hs
    obtain ⟨hstatus, hproject, hstage, harea⟩ := Filters.ledgerCriteria_ok hc
    refine ⟨hlimit, c, ?_, hstatus, ?_⟩
    · obtain ⟨hp, hs, ha⟩ := hnone
      rw [Filters.criteria, hc, hp, hs, ha]
      exact congrArg Except.ok (by cases c; simp_all)
    · have hlength : (((h.selected c).take limit.toNat).map h.shown).length ≤ limit.toNat := by
        rw [List.length_map]
        exact List.length_take_le _ _
      rw [List.take_of_length_le ((List.length_filter_le _ _).trans hlength)]
      refine List.filter_congr fun i _ => ?_
      rw [Criteria.keeps, Criteria.placed, hproject, hstage, harea, Bool.and_comm (c.tagged cfg i)]
      exact (Bool.and_true _).symm
  · simp only [bind_eq_ok, pure_eq_ok] at hs
    obtain ⟨items₀, hitems, projectId, hp, stageId, hs₁, areaId, ha, _, hlimit, rfl⟩ := hs
    obtain ⟨-, c, hc, rfl⟩ := hledger 1000 items₀ hitems
    refine ⟨ensure_eq_ok.mp hlimit,
      { c with projectId := projectId, stageId := stageId, areaId := areaId }, ?_,
      (Filters.ledgerCriteria_ok hc).1, ?_⟩
    · rw [Filters.criteria, hc, hp, hs₁, ha]
      rfl
    · rw [List.filter_filter, List.filter_filter, List.filter_filter]
      refine congrArg _ (List.filter_congr fun i _ => ?_)
      show (i.inContext areaId Context.areaId && i.inContext stageId Context.stageId &&
        i.inContext projectId (fun x => some x.projectId) && (c.tagged cfg i && c.mentions cfg i)) =
        (c.mentions cfg i && c.tagged cfg i && (i.inContext projectId (fun x => some x.projectId) &&
          i.inContext stageId Context.stageId && i.inContext areaId Context.areaId))
      ac_rfl

/-- A query of the first thousand rows shows those of them that are as the filters say. -/
theorem Hub.query_ok (hs : h.query cfg f 1000 = .ok items) :
    ∃ c, f.criteria cfg = .ok c ∧ c.status = f.status ∧
      items = (((h.selected c).take 1000).map h.shown).filter (c.keeps cfg) := by
  obtain ⟨-, c, hc, hstatus, rfl⟩ := Hub.query_rows hs
  have hrows : f.rowLimit 1000 = 1000 := ite_self _
  have hlength : (((h.selected c).take 1000).map h.shown).length ≤ 1000 := by
    rw [List.length_map]
    exact List.length_take_le _ _
  refine ⟨c, hc, hstatus, ?_⟩
  rw [hrows]
  exact List.take_of_length_le ((List.length_filter_le _ _).trans hlength)

/-! ## The net amount -/

/-- The sum of amounts with their sign. -/
def signedTotal (rows : List Transaction) : ℤ := (rows.map Transaction.signed).sum

/-- The matching rows, whether they are within the limit or not. -/
def Hub.matching (cfg : Config) (h : Hub) (c : Criteria) : List Transaction :=
  (h.selected c).filter fun t => c.keeps cfg (h.shown t)

/-- What is shown of a row has its type and its amount. -/
theorem Hub.shown_signed (row : Transaction) : (h.shown row).row.signed = row.signed := by
  show (h.inherited row).1.signed = row.signed
  unfold Hub.inherited
  split
  · split <;> rfl
  · rfl

theorem Summary.addTag_net (i : LedgerItem) (tags : List String) (s : Summary) :
    (tags.foldl (Summary.addTag i) s).netAmountCents = s.netAmountCents ∧
      (tags.foldl (Summary.addTag i) s).categoryTotals = s.categoryTotals := by
  induction tags generalizing s with
  | nil => exact ⟨rfl, rfl⟩
  | cons tag tags ih =>
    rw [List.foldl_cons, (ih _).1, (ih _).2]
    unfold Summary.addTag
    dsimp only
    split_ifs <;> exact ⟨rfl, rfl⟩

theorem Summary.addItem_net (s : Summary) (i : LedgerItem) :
    (s.addItem i).netAmountCents = s.netAmountCents + i.row.signed := by
  unfold Summary.addItem
  dsimp only
  rw [(Summary.addTag_net _ _ _).1]
  split_ifs <;> rfl

theorem Summary.addItems_net (items : List LedgerItem) (s : Summary) :
    (items.foldl Summary.addItem s).netAmountCents =
      s.netAmountCents + (items.map fun i => i.row.signed).sum := by
  induction items generalizing s with
  | nil => exact (add_zero _).symm
  | cons i items ih => rw [List.foldl_cons, ih, Summary.addItem_net, List.map_cons, List.sum_cons, add_assoc]

theorem summarize_net (items : List LedgerItem) :
    (summarize items).netAmountCents = (items.map fun i => i.row.signed).sum :=
  (Summary.addItems_net items _).trans (zero_add _)

/-- A summary is about the matching rows within the limit. -/
theorem Hub.summary_ok {s : Summary} (hs : h.summary cfg f = .ok s) :
    ∃ c, { f with status := "active" }.criteria cfg = .ok c ∧ c.status = "active" ∧
      s = summarize ((((h.selected c).take 1000).filter fun t =>
        c.keeps cfg (h.shown t)).map h.shown) := by
  obtain ⟨items, hitems, rfl⟩ := map_eq_ok.mp hs
  obtain ⟨c, hc, hstatus, rfl⟩ := Hub.query_ok hitems
  exact ⟨c, hc, hstatus, by rw [List.filter_map]; rfl⟩

theorem Hub.summary_net : (summarize (rows.map h.shown)).netAmountCents = signedTotal rows := by
  rw [summarize_net, List.map_map, signedTotal]
  congr 1
  exact List.map_congr_left fun t _ => Hub.shown_signed t

/-! ### Payments and their refunds -/

/-- The row is an active refund. -/
def Transaction.isActiveRefund (t : Transaction) : Bool := t.type = .refund ∧ t.status = .active

/-- The payments that match the filters. -/
def Hub.matchingPayments (cfg : Config) (h : Hub) (c : Criteria) : List Transaction :=
  (h.matching cfg c).filter fun t => t.type = .payment

/-- The refund belongs to a payment that matches the filters. -/
def Hub.belongs (cfg : Config) (h : Hub) (c : Criteria) (t : Transaction) : Bool :=
  (h.matchingPayments cfg c).any fun p => t.originalPaymentId = some p.id

/-- The matching payments without the active refunds that belong to them. -/
def Hub.expectedNet (cfg : Config) (h : Hub) (c : Criteria) : ℤ :=
  ((h.matchingPayments cfg c).map Transaction.amountCents).sum -
    ((h.matchingPayments cfg c).map fun p => h.refunded p.id).sum

/-- The active refunds of matching payments that do not match themselves. -/
def Hub.missedRefunds (cfg : Config) (h : Hub) (c : Criteria) : List Transaction :=
  h.transactions.rows.filter fun t => t.isActiveRefund && h.belongs cfg c t &&
    !(c.selects t && c.keeps cfg (h.shown t))

/-- The matching refunds whose payments do not match. -/
def Hub.foreignRefunds (cfg : Config) (h : Hub) (c : Criteria) : List Transaction :=
  h.transactions.rows.filter fun t => t.isActiveRefund && !h.belongs cfg c t &&
    (c.selects t && c.keeps cfg (h.shown t))

/-- The matching rows beyond the limit. -/
def Hub.cutRows (cfg : Config) (h : Hub) (c : Criteria) : List Transaction :=
  ((h.selected c).drop 1000).filter fun t => c.keeps cfg (h.shown t)

/-- The amounts of rows. -/
def amounts (rows : List Transaction) : ℤ := (rows.map Transaction.amountCents).sum

/-- The sum over a part of a list and the sum over the rest of it. -/
theorem sum_filter_not (f : α → ℤ) (p : α → Bool) (l : List α) :
    ((l.filter p).map f).sum + ((l.filter fun x => !p x).map f).sum = (l.map f).sum := by
  induction l with
  | nil => rfl
  | cons a l ih =>
    rw [List.map_cons, List.sum_cons, ← ih]
    cases hp : p a
    · rw [List.filter_cons_of_neg (by rw [hp]; exact Bool.false_ne_true),
        List.filter_cons_of_pos (by rw [hp]; rfl), List.map_cons, List.sum_cons]
      ring
    · rw [List.filter_cons_of_pos hp, List.filter_cons_of_neg (by rw [hp]; exact Bool.false_ne_true),
        List.map_cons, List.sum_cons]
      ring

/-- The sum over two parts of a list that have nothing in common. -/
theorem sum_filter_or (f : α → ℤ) {p q : α → Bool} {l : List α}
    (hdisjoint : ∀ x ∈ l, p x = true → q x = false) :
    ((l.filter fun x => p x || q x).map f).sum =
      ((l.filter p).map f).sum + ((l.filter q).map f).sum := by
  rw [← sum_filter_not f p (l.filter fun x => p x || q x), List.filter_filter, List.filter_filter]
  congr 3
  · exact List.filter_congr fun x _ => by cases p x <;> simp
  · refine List.filter_congr fun x hx => ?_
    cases hp : p x
    · simp
    · simp [hdisjoint x hx hp]

/-- The refunds of payments, payment by payment and all together. -/
theorem sum_refunded {payments : List Transaction} (hnodup : (payments.map Transaction.id).Nodup) :
    (payments.map fun p => h.refunded p.id).sum =
      amounts (h.transactions.rows.filter fun t => t.isActiveRefund &&
        payments.any fun p => t.originalPaymentId = some p.id) := by
  induction payments with
  | nil => simp [amounts]
  | cons p payments ih =>
    rw [List.map_cons, List.nodup_cons] at hnodup
    rw [List.map_cons, List.sum_cons, ih hnodup.2, amounts, amounts, Hub.refunded, Hub.activeRefunds,
      ← sum_filter_or]
    · congr 2
      refine List.filter_congr fun t _ => ?_
      simp only [Transaction.isActiveRefund, List.any_cons, Bool.and_or_distrib_left,
        Bool.decide_and, Bool.and_assoc]
    · intro t _ ht
      obtain ⟨_, _, horiginal⟩ := of_decide_eq_true ht
      rw [Bool.and_eq_false_iff, List.any_eq_false]
      refine .inr fun q hq hsame => hnodup.1 ?_
      have hid : p.id = q.id := Option.some.inj (horiginal.symm.trans (of_decide_eq_true hsame))
      rw [hid]
      exact List.mem_map_of_mem hq

section Net

variable {c : Criteria}

theorem Criteria.selects_active (hstatus : c.status = "active") {t : Transaction}
    (ht : c.selects t = true) : t.status = .active := by
  obtain ⟨_, hs, _⟩ := of_decide_eq_true ht
  rw [hstatus] at hs
  cases ht : t.status with
  | active => rfl
  | voided =>
    rw [ht] at hs
    exact absurd hs (by decide)

theorem signedTotal_append (rows rows' : List Transaction) :
    signedTotal (rows ++ rows') = signedTotal rows + signedTotal rows' := by
  rw [signedTotal, List.map_append, List.sum_append]
  rfl

/-- The rows in their order are the rows of the table. -/
theorem Hub.matching_perm : (h.matching cfg c).Perm
    (h.transactions.rows.filter fun t => c.selects t && c.keeps cfg (h.shown t)) := by
  refine ((List.perm_insertionSort _ _).filter _).trans (.of_eq ?_)
  rw [List.filter_filter]
  exact List.filter_congr fun t _ => Bool.and_comm _ _

theorem Hub.matchingPayments_nodup : ((h.matchingPayments cfg c).map Transaction.id).Nodup := by
  have hmatching : (h.matching cfg c).Perm _ := Hub.matching_perm
  have hperm := hmatching.filter fun t => t.type = .payment
  rw [Hub.matchingPayments, (hperm.map Transaction.id).nodup_iff]
  exact ((List.filter_sublist.trans List.filter_sublist).map Transaction.id).nodup
    h.transactions.nodup

/-- The payments count with their amounts and the refunds against them. -/
theorem signedTotal_eq (rows : List Transaction) :
    signedTotal rows = amounts (rows.filter fun t => t.type = .payment) -
      amounts (rows.filter fun t => t.type = .refund) := by
  induction rows with
  | nil => rfl
  | cons t rows ih =>
    rw [signedTotal, List.map_cons, List.sum_cons]
    rw [signedTotal] at ih
    rw [ih, Transaction.signed]
    cases ht : t.type <;> simp [amounts, ht] <;> ring

/-- The matching rows count for the matching payments without their refunds, but for the refunds
    that do not match with their payment. -/
theorem Hub.matching_signedTotal (hstatus : c.status = "active") :
    signedTotal (h.matching cfg c) = h.expectedNet cfg c +
      amounts (h.missedRefunds cfg c) - amounts (h.foreignRefunds cfg c) := by
  have hexpected : h.expectedNet cfg c = amounts (h.matchingPayments cfg c) -
      amounts (h.transactions.rows.filter fun t => t.isActiveRefund && h.belongs cfg c t) := by
    rw [Hub.expectedNet, sum_refunded Hub.matchingPayments_nodup]
    rfl
  have hmatching : amounts ((h.matching cfg c).filter fun t => t.type = .refund) =
      amounts ((h.transactions.rows.filter fun t => c.selects t && c.keeps cfg (h.shown t)).filter
        fun t => t.type = .refund) :=
    ((Hub.matching_perm.filter _).map _).sum_eq
  -- A matching refund is an active one.
  have hactive : ∀ t, (decide (t.type = .refund) && (c.selects t && c.keeps cfg (h.shown t))) =
      (t.isActiveRefund && (c.selects t && c.keeps cfg (h.shown t))) := by
    intro t
    cases hs : c.selects t with
    | false => simp
    | true =>
      have hstate := Criteria.selects_active hstatus hs
      cases hk : c.keeps cfg (h.shown t) <;> simp [Transaction.isActiveRefund, hstate]
  have hrefunds : amounts ((h.matching cfg c).filter fun t => t.type = .refund) =
      amounts (h.transactions.rows.filter fun t => t.isActiveRefund && h.belongs cfg c t &&
        (c.selects t && c.keeps cfg (h.shown t))) + amounts (h.foreignRefunds cfg c) := by
    rw [hmatching, List.filter_filter, List.filter_congr fun t _ => hactive t, amounts,
      ← sum_filter_not Transaction.amountCents (h.belongs cfg c), List.filter_filter,
      List.filter_filter, amounts, amounts, Hub.foreignRefunds]
    congr 3 <;> refine List.filter_congr fun t _ => ?_ <;> ac_rfl
  have hbelonging : amounts (h.transactions.rows.filter fun t =>
        t.isActiveRefund && h.belongs cfg c t) =
      amounts (h.transactions.rows.filter fun t => t.isActiveRefund && h.belongs cfg c t &&
        (c.selects t && c.keeps cfg (h.shown t))) + amounts (h.missedRefunds cfg c) := by
    rw [amounts, ← sum_filter_not Transaction.amountCents
      (fun t => c.selects t && c.keeps cfg (h.shown t)), List.filter_filter, List.filter_filter,
      amounts, amounts, Hub.missedRefunds]
    congr 3 <;> refine List.filter_congr fun t _ => ?_ <;> ac_rfl
  rw [signedTotal_eq, hrefunds, hexpected, hbelonging, Hub.matchingPayments]
  ring

/-- The net amount of a summary is that of the matching payments without their refunds exactly when
    the refunds that do not match with their payments, and the rows that the limit cuts off, cancel
    out. -/
theorem Hub.summary_net_iff {s : Summary} (hs : h.summary cfg f = .ok s) :
    ∃ c, { f with status := "active" }.criteria cfg = .ok c ∧
      (s.netAmountCents = h.expectedNet cfg c ↔ amounts (h.missedRefunds cfg c) =
        amounts (h.foreignRefunds cfg c) + signedTotal (h.cutRows cfg c)) := by
  obtain ⟨c, hc, hstatus, rfl⟩ := Hub.summary_ok hs
  refine ⟨c, hc, ?_⟩
  have hsplit : signedTotal (h.matching cfg c) =
      signedTotal (((h.selected c).take 1000).filter fun t => c.keeps cfg (h.shown t)) +
        signedTotal (h.cutRows cfg c) := by
    rw [← signedTotal_append, Hub.cutRows, ← List.filter_append, List.take_append_drop]
    rfl
  rw [Hub.summary_net]
  rw [Hub.matching_signedTotal hstatus] at hsplit
  constructor <;> intro heq <;> linarith

end Net

end HomeAddons.Renovation
