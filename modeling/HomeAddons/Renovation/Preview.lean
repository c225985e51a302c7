import HomeAddons.Renovation.Patches

/-!
# Renovation Hub: what an apply does to its targets

* `mutateOperation_rewritten`, `mutateOperation_updated`: the row of a target before and after.
* `Rewritten.patched`, `Rewritten.kept`, `Updated.patched`, `Updated.kept`: its fields.
* `Hub.prepareItem_patched`: the fields of the patch in a candidate.
-/

namespace HomeAddons.Renovation

open HomeAddons.Common

variable {cfg : Config} {h h' : Hub} {env : Env} {actorHash key digest : String} {u : Mutation}
  {result : Json}

/-! ## The document of a payment -/

variable {row : Transaction} {items : List MutationItem} {results : List Dict} {item : MutationItem}
  {f now p : String} {patch : Dict} {o : HubObject} {acc acc' : Hub × List Dict}

theorem Hub.transactionDocument_payment {document : Dict} (hpayment : row.type = .payment) :
    h.transactionDocument row = .ok document ↔
      ∃ grouped, groupedItem row.ledgerFormatVersion (h.tagNames row.id) = .ok grouped ∧
        document = row.document ++ ([("tags", .arr ((h.tagNames row.id).map .str))] ++ (grouped ++
          [("amount", .str (amountText row.amountCents)),
            ("context", ((h.contexts.get? row.id).map Context.document).getD .null),
            ("version", .int (contextVersion (h.contexts.get? row.id)))])) := by
  have hinherited : h.inherited row = (row, h.tagNames row.id) := by
    unfold Hub.inherited
    rw [hpayment]
  simp only [Hub.transactionDocument, hinherited, bind_eq_ok, pure_eq_ok, List.append_assoc,
    @eq_comm _ document]

/-- The document of a payment depends on its row, its context and its tags. -/
theorem Hub.transactionDocument_congr (hpayment : row.type = .payment)
    (htags : h'.tagNames row.id = h.tagNames row.id)
    (hcontext : h'.contexts.get? row.id = h.contexts.get? row.id) :
    h'.transactionDocument row = h.transactionDocument row := by
  have hinherited : ∀ h : Hub, h.inherited row = (row, h.tagNames row.id) := by
    intro h
    unfold Hub.inherited
    rw [hpayment]
  simp only [Hub.transactionDocument, hinherited, htags, hcontext]

/-! ## What an apply does to one payment -/

/-- The payment of an item before and after the apply of a patch. -/
structure Rewritten (cfg : Config) (u : Mutation) (h h' : Hub) (item : MutationItem)
    (row : Transaction) (now : String) (after : Dict) : Prop where
  id : row.id = item.id
  payment : row.type = .payment
  before : h.activePayment item.id = some row
  read : h.transactionDocument row = .ok item.before
  candidate : h.mutationCandidate .transaction item.before u.patch = .ok item.after
  row' : h'.activePayment item.id = some (row.patched u.patch now)
  left : h'.transactionDocument (row.patched u.patch now) = .ok after
  context : ∀ f ∈ contextFields, (contextItems (h'.contexts.get? item.id)).get f =
    picked u.patch (contextItems (h.contexts.get? item.id)) f
  tagsRead : u.patch.has "grouped_tags" = true → tagsWritten cfg u.patch ≠ none
  tagsKept : tagsWritten cfg u.patch = none → h'.tagNames item.id = h.tagNames item.id
  tagsGiven : ∀ v tags, tagsWritten cfg u.patch = some (v, tags) → h'.tagNames item.id = tags

theorem mutateOperation_rewritten (hu : u.Clean cfg) (htype : u.targetType = .transaction)
    (hnodup : u.targetIds.Nodup) (htidy : h.Tidy)
    (hitems : u.targetIds.mapM (h.prepareItem u.targetType u.patch) = .ok items)
    (hfold : items.foldlM (applyItem cfg env actorHash key u) (h, []) = .ok (h', results))
    (hitem : item ∈ items) : ∃ row now after, Rewritten cfg u h h' item row now after := by
  rw [← Hub.prepareItems_ids hitems] at hnodup
  obtain ⟨_, hrecord, hcandidate⟩ := Hub.prepareItem_ok (Hub.prepareItem_of_mem hitems hitem)
  rw [htype] at hrecord hcandidate
  simp only [Hub.mutationRecord, if_true, bind_eq_ok, orRaise_eq_ok] at hrecord
  obtain ⟨row, hrow, hdocument⟩ := hrecord
  obtain ⟨hget, hpayment, hactive⟩ := Hub.activePayment_eq_some.mp hrow
  have hid : row.id = item.id := Table.key_of_get? hget
  obtain ⟨l₁, l₂, acc₁, acc₂, rfl, hfold₁, happly, hfold₂⟩ := foldlM_mem hitem hfold
  rw [List.map_append, List.map_cons, List.nodup_append, List.nodup_cons] at hnodup
  obtain ⟨_, ⟨hafter, _⟩, hbefore⟩ := hnodup
  -- the rounds before and after the one of this payment do not touch it
  have h₁ : Untouched cfg u.patch h acc₁.1 item.id :=
    applyItems_untouched hu htype (fun other hother heq => hbefore _ (List.mem_map_of_mem hother) _
      List.mem_cons_self heq.symm) hfold₁
  have h₂ : Untouched cfg u.patch acc₂.1 h' item.id :=
    applyItems_untouched (p := item.id) hu htype
      (fun other hother heq => hafter (heq ▸ List.mem_map_of_mem hother)) hfold₂
  obtain ⟨after, happly⟩ := applyItem_transaction htype happly
  obtain ⟨row₁, hrow₁, heq, hleft⟩ := applyTransaction_ok happly
  obtain rfl : row₁ = row := by
    rw [Hub.activePayment, h₁.view.row] at hrow₁
    exact Option.some.inj (hrow₁.symm.trans hrow)
  obtain ⟨now, hnow⟩ : ∃ now, now = (env.round acc₁.2.length).now 0 := ⟨_, rfl⟩
  rw [← hnow] at hleft
  have hpatched := Transaction.patched_keeps u.patch now row₁
  have hid' : (row₁.patched u.patch now).id = item.id := (Transaction.patched_id _ _ _).trans hid
  obtain ⟨htags, hread, hkept, hgiven⟩ : h'.tagNames item.id = acc₂.1.tagNames item.id ∧
      (u.patch.has "grouped_tags" = true → tagsWritten cfg u.patch ≠ none) ∧
      (tagsWritten cfg u.patch = none → h'.tagNames item.id = h.tagNames item.id) ∧
      ∀ v tags, tagsWritten cfg u.patch = some (v, tags) → h'.tagNames item.id = tags := by
    obtain ⟨hno, hno', htags₃, hlinks₃⟩ | ⟨v, tags, h₄, h₅, _, hw, _, _, hs, htags₃, hlinks₃⟩ :=
      applyTransaction_tags hu happly
    · have hnone : tagsWritten cfg u.patch = none := tagsWritten_eq_none hno hno'
      have htable : h'.tags = acc₂.1.tags := h₂.spelling hnone
      have hlinks : h'.linksOf item.id = acc₂.1.linksOf item.id := h₂.view.links
      have hlinks₁ : acc₂.1.linksOf item.id = h.linksOf item.id := by
        rw [Hub.linksOf, hlinks₃]
        exact h₁.view.links
      refine ⟨Hub.tagNames_congr hlinks fun _ _ => by rw [htable], fun hg => absurd hg hno',
        fun _ => ?_, fun v tags hw => ?_⟩
      · refine Hub.tagNames_congr (hlinks.trans hlinks₁) fun _ _ => ?_
        rw [htable, htags₃, h₁.spelling hnone]
      · rw [hnone] at hw
        cases hw
    · have htagged₅ := Hub.setTags_tagged hs
      have htagged₃ : acc₂.1.Tagged cfg item.id v tags :=
        ⟨by rw [Hub.linksOf, hlinks₃]; exact htagged₅.links, by rw [htags₃]; exact htagged₅.spelled⟩
      have htagged := h₂.tagged v tags hw htagged₃
      refine ⟨htagged.tagNames.trans htagged₃.tagNames.symm, fun _ => by rw [hw]; exact Option.some_ne_none _,
        fun hno => ?_, fun v' tags' hw' => ?_⟩
      · rw [hno] at hw
        cases hw
      · rw [hw] at hw'
        cases hw'
        exact htagged.tagNames
  refine ⟨row₁, now, after, hid, hpayment, hrow, hdocument, hcandidate, ?_, ?_, ?_, hread, hkept,
    hgiven⟩
  · rw [Hub.activePayment_eq_some, h₂.view.row, heq]
    refine ⟨?_, hpatched.1.trans hpayment, hpatched.2.trans hactive⟩
    rw [hnow]
    exact Table.get?_update_of_get? (h₁.view.row.trans hget) _ (Transaction.patched_id _ _)
  · rw [← hleft]
    refine Hub.transactionDocument_congr (hpatched.1.trans hpayment) ?_ ?_
    · rw [hid']
      exact htags
    · rw [hid']
      exact h₂.view.context
  · intro f hf
    have hitem' := Hub.mutationCandidate_context hcandidate
    have hcontext : contextOf item.before = contextItems (h.contexts.get? item.id) := by
      rw [contextOf, Hub.transactionDocument_context hdocument, hid]
      rfl
    rw [h₂.view.context, heq]
    exact Hub.applyContext_items hu htype (fun c hc => htidy _ c hc) hcontext hitem' hf

/-! ## Fields of the document -/

/-- The fields of a target that go with the fields of a patch or with every write. -/
def Mutation.following (u : Mutation) : List String :=
  ["version", "updated_at"] ++
    (if u.targetType = .transaction then ["context"] else []) ++
    (if u.patch.has "amount_cents" then ["amount"] else []) ++
    (if u.patch.has "grouped_tags" then ["tags"] else [])

theorem groupedItem_has {v : FormatVersion} {tags : List String} {grouped : Dict}
    (hs : groupedItem v tags = .ok grouped) :
    grouped.has f = true ↔ v = .v2 ∧ f = "grouped_tags" := by
  unfold groupedItem at hs
  split_ifs at hs with hv
  · simp only [map_eq_ok] at hs
    obtain ⟨g, _, rfl⟩ := hs
    simp [Dict.has, hv]
  · cases hs
    simp [Dict.has, hv]

theorem Transaction.patched_document_get (hno : ¬ patch.has f = true) (hf : f ≠ "updated_at") :
    Dict.get (row.patched patch now).document f = row.document.get f := by
  have hnull := Dict.get_of_not_has hno
  unfold Transaction.patched
  split_ifs
  · by_cases hcolumn : f ∈ transactionColumns
    · simp only [transactionColumns, List.mem_cons, List.not_mem_nil, or_false] at hcolumn
      rcases hcolumn with rfl | rfl | rfl | rfl | rfl | rfl <;>
        simp [Transaction.document, Dict.get_cons, hnull, Json.asInt?, Json.asStr?, Json.asBool?]
    · simp only [transactionColumns, List.mem_cons, List.not_mem_nil, or_false, not_or] at hcolumn
      obtain ⟨h₁, h₂, h₃, h₄, h₅, h₆⟩ := hcolumn
      simp only [Transaction.document, Dict.get_cons, h₁, h₂, h₃, h₄, h₅, h₆, hf, if_false]
  · rfl

theorem Transaction.patched_amountCents (hno : ¬ patch.has "amount_cents" = true) :
    (row.patched patch now).amountCents = row.amountCents := by
  unfold Transaction.patched
  split_ifs
  · simp [Dict.get_of_not_has hno, Json.asInt?]
  · rfl

theorem Transaction.patched_ledgerFormatVersion (patch : Dict) (now : String) (row : Transaction) :
    (row.patched patch now).ledgerFormatVersion = row.ledgerFormatVersion := by
  unfold Transaction.patched
  split_ifs <;> rfl

section Fields

variable {item : MutationItem} {row : Transaction} {now f : String} {after : Dict}

theorem Rewritten.fieldValue_context (hr : Rewritten cfg u h h' item row now after)
    (hf : f ∈ contextFields) : fieldValue .transaction item.before f =
        (contextItems (h.contexts.get? item.id)).get f ∧
      fieldValue .transaction after f = picked u.patch (contextItems (h.contexts.get? item.id)) f := by
  rw [fieldValue, if_pos ⟨rfl, hf⟩, fieldValue, if_pos ⟨rfl, hf⟩, ← hr.context f hf, contextOf,
    contextOf, Hub.transactionDocument_context hr.read, Hub.transactionDocument_context hr.left,
    Transaction.patched_id, hr.id]
  exact ⟨rfl, rfl⟩

/-- Grouped tags are for v2 payments, and tags are for the others. -/
theorem Rewritten.tagsOf (hr : Rewritten cfg u h h' item row now after) :
    (row.ledgerFormatVersion = .v2 → ¬ u.patch.has "tags" = true) ∧
      (u.patch.has "grouped_tags" = true → row.ledgerFormatVersion = .v2) := by
  have hcandidate := hr.candidate
  obtain ⟨grouped, _, hread⟩ := (Hub.transactionDocument_payment hr.payment).mp hr.read
  have hversion : item.before.get "ledger_format_version" =
      .int row.ledgerFormatVersion.number := by
    rw [hread, Dict.get_append_eq, if_pos (by rfl)]
    rfl
  unfold Hub.mutationCandidate at hcandidate
  rw [if_pos rfl, hversion] at hcandidate
  simp only [bind_eq_ok, ensure_eq_ok] at hcandidate
  obtain ⟨_, hgrouped, _, hlegacy, _⟩ := hcandidate
  constructor
  · rintro hv htags
    exact hlegacy ⟨by rw [hv]; rfl, .inr htags⟩
  · intro hhas
    rw [hhas] at hgrouped
    cases hv : row.ledgerFormatVersion with
    | v2 => rfl
    | v1 =>
      rw [hv] at hgrouped
      exact absurd hgrouped (by decide)

/-- A field that a patch does not name, and that does not go with one that it names, is as
    before. -/
theorem Rewritten.kept (hr : Rewritten cfg u h h' item row now after)
    (htype : u.targetType = .transaction) (hno : ¬ u.patch.has f = true)
    (hf : f ∉ u.following) :
    fieldValue .transaction after f = fieldValue .transaction item.before f := by
  by_cases hcontext : f ∈ contextFields
  · obtain ⟨hbefore, hafter⟩ := hr.fieldValue_context hcontext
    rw [hbefore, hafter, picked, if_neg hno]
  · simp only [Mutation.following, htype, if_true, List.mem_append, List.mem_cons,
      List.not_mem_nil, or_false, not_or] at hf
    obtain ⟨⟨⟨⟨hversion, hupdated⟩, hcontext'⟩, hamount⟩, htags⟩ := hf
    obtain ⟨grouped, hgrouped, hread⟩ := (Hub.transactionDocument_payment hr.payment).mp hr.read
    obtain ⟨grouped', hgrouped', hleft⟩ := (Hub.transactionDocument_payment
      ((Transaction.patched_keeps _ _ _).1.trans hr.payment)).mp hr.left
    rw [fieldValue, if_neg fun hc => hcontext hc.2, fieldValue, if_neg fun hc => hcontext hc.2,
      hread, hleft, Transaction.patched_id, hr.id]
    simp only [Dict.get_append_eq]
    have hcolumns : Dict.has (row.patched u.patch now).document f = Dict.has row.document f := rfl
    rw [hcolumns, Transaction.patched_document_get hno hupdated]
    by_cases htag : f = "tags"
    · subst htag
      have hgrouped₀ : ¬ u.patch.has "grouped_tags" = true := fun hg => by simp [hg] at htags
      rw [hr.tagsKept (tagsWritten_eq_none hno hgrouped₀)]
      rfl
    · have hB : ∀ names : List String, Dict.has [("tags", Json.arr (names.map .str))] f = false := by
        intro names
        simp [Dict.has, htag]
      rw [hB, hB, if_neg Bool.false_ne_true, if_neg Bool.false_ne_true]
      by_cases hgroup : f = "grouped_tags"
      · subst hgroup
        have hsame : grouped' = grouped := by
          rw [Transaction.patched_ledgerFormatVersion, Transaction.patched_id, hr.id] at hgrouped'
          rw [hr.id] at hgrouped
          by_cases hv : row.ledgerFormatVersion = .v2
          · have htags₀ : ¬ u.patch.has "tags" = true := hr.tagsOf.1 hv
            rw [hr.tagsKept (tagsWritten_eq_none htags₀ hno)] at hgrouped'
            exact Except.ok.inj (hgrouped'.symm.trans hgrouped)
          · rw [groupedItem, if_neg hv] at hgrouped hgrouped'
            exact Except.ok.inj (hgrouped'.symm.trans hgrouped)
        rw [hsame]
        split_ifs <;> rfl
      · have hC : ∀ {v names g}, groupedItem v names = .ok g → g.has f = false := fun hs =>
          Bool.eq_false_iff.mpr fun hhas => hgroup ((groupedItem_has hs).mp hhas).2
        rw [hC hgrouped, hC hgrouped', if_neg Bool.false_ne_true, if_neg Bool.false_ne_true]
        simp only [Dict.get_cons, hversion, hcontext', if_false]
        by_cases hcents : f = "amount"
        · subst hcents
          have hcents₀ : ¬ u.patch.has "amount_cents" = true := fun hc => by simp [hc] at hamount
          rw [Transaction.patched_amountCents hcents₀]
        · rw [if_neg hcents, if_neg hcents]

theorem Transaction.patched_document_column {patch : Dict} (hhas : patch.has f = true)
    (hf : f ∈ transactionColumns) :
    Dict.get (row.patched patch now).document f = match f with
      | "amount_cents" => .int ((patch.get "amount_cents").asInt?.getD row.amountCents)
      | "is_deposit" => .bool ((patch.get "is_deposit").asBool?.getD row.isDeposit)
      | f => .str ((patch.get f).asStr?.getD ((row.document.get f).asStr?.getD "")) := by
  unfold Transaction.patched
  rw [if_pos (List.any_eq_true.mpr ⟨f, hf, hhas⟩)]
  simp only [transactionColumns, List.mem_cons, List.not_mem_nil, or_false] at hf
  rcases hf with rfl | rfl | rfl | rfl | rfl | rfl <;> rfl

theorem Mutation.Clean.mem_patchable (hu : u.Clean cfg) (htype : u.targetType = .transaction)
    (hhas : u.patch.has f = true) :
    f ∈ transactionColumns ∨ f = "tags" ∨ f = "grouped_tags" ∨ f ∈ contextFields := by
  have hf := hu.patchable f hhas
  rw [htype] at hf
  simp only [TargetType.patchable, transactionColumns, contextFields, List.mem_cons,
    List.not_mem_nil, or_false] at hf ⊢
  tauto

/-- A field that a patch names has the value of the patch. -/
theorem Rewritten.patched (hU : cfg.unicode.Lawful)
    (hr : Rewritten cfg u h h' item row now after) (hu : u.Clean cfg)
    (htype : u.targetType = .transaction) (hhas : u.patch.has f = true) :
    fieldValue .transaction after f = u.patch.get f := by
  obtain ⟨grouped, hgrouped, hleft⟩ := (Hub.transactionDocument_payment
    ((Transaction.patched_keeps _ _ _).1.trans hr.payment)).mp hr.left
  rw [Transaction.patched_ledgerFormatVersion, Transaction.patched_id, hr.id] at hgrouped
  obtain hf | rfl | rfl | hf := hu.mem_patchable htype hhas
  · have hcolumn : f ∉ contextFields ∧ Dict.has (row.patched u.patch now).document f = true := by
      simp only [transactionColumns, List.mem_cons, List.not_mem_nil, or_false] at hf
      rcases hf with rfl | rfl | rfl | rfl | rfl | rfl <;> exact ⟨by decide, rfl⟩
    rw [fieldValue, if_neg fun hc => hcolumn.1 hc.2, hleft, Dict.get_append_eq, if_pos hcolumn.2,
      Transaction.patched_document_column hhas hf]
    simp only [transactionColumns, List.mem_cons, List.not_mem_nil, or_false] at hf
    rcases hf with rfl | rfl | rfl | rfl | rfl | rfl
    · obtain ⟨n, hn⟩ := hu.int hhas
      rw [hn]
      rfl
    · obtain ⟨s, hs⟩ := hu.str hhas (by decide)
      simp [hs, Json.asStr?]
    · obtain ⟨s, hs⟩ := hu.str hhas (by decide)
      simp [hs, Json.asStr?]
    · obtain ⟨s, hs⟩ := hu.str hhas (by decide)
      simp [hs, Json.asStr?]
    · obtain ⟨s, hs⟩ := hu.str hhas (by decide)
      simp [hs, Json.asStr?]
    · obtain ⟨b, hb⟩ := hu.bool hhas
      rw [hb]
      rfl
  · obtain ⟨tags, htags⟩ := hu.tags hhas
    have hwritten : tagsWritten cfg u.patch = some (.v1, tags) := by
      rw [tagsWritten, if_pos hhas, htags]
      simp [Json.asList?, List.filterMap_map, Function.comp_def, Json.asStr?]
    rw [fieldValue, if_neg (by decide), hleft, Dict.get_append_eq,
      if_neg (by simp [Transaction.document, Dict.has]), Dict.get_append_eq, if_pos (by rfl),
      Transaction.patched_id, hr.id, hr.tagsGiven _ _ hwritten, htags]
    rfl
  · obtain ⟨raw, result, hresult, hget⟩ := hu.groupedTags hhas
    have hno : ¬ u.patch.has "tags" = true := fun htags => hu.oneOfTags ⟨htags, hhas⟩
    have hwritten : tagsWritten cfg u.patch = some (.v2, result.1) := by
      have hsome := hr.tagsRead hhas
      rw [tagsWritten, if_neg hno, if_pos hhas, hget] at hsome ⊢
      cases hread : normalizeGroupedTags cfg result.2.document with
      | error e =>
        rw [hread] at hsome
        exact absurd rfl hsome
      | ok result' =>
        rw [normalizeGroupedTags_document hU hresult hread]
        rfl
    rw [hr.tagsGiven _ _ hwritten, groupedItem, if_pos (hr.tagsOf.2 hhas),
      readGroupedTags_normalize hresult] at hgrouped
    simp only [orRaise_some, map_eq_ok, Except.ok.injEq, exists_eq_left'] at hgrouped
    subst hgrouped
    rw [fieldValue, if_neg (by decide), hleft, Dict.get_append_eq,
      if_neg (by simp [Transaction.document, Dict.has]), Dict.get_append_eq,
      if_neg (by simp [Dict.has]), Dict.get_append_eq, if_pos (by rfl), hget]
    rfl
  · rw [(hr.fieldValue_context hf).2, picked, if_pos hhas]

end Fields

/-! ## Objects -/

theorem HubObject.items_get (o : HubObject) (f : String) : ∃ c : Column, o.items.get f = c.json := by
  have hmap : o.items = (o.columns.map fun kv => (kv.1, kv.2.json)) := rfl
  rw [hmap]
  generalize o.columns = columns
  induction columns with
  | nil => exact ⟨.null, rfl⟩
  | cons kv columns ih =>
    rw [List.map_cons, Dict.get_cons]
    split_ifs
    · exact ⟨kv.2, rfl⟩
    · exact ih

theorem HubObject.document_get (hf : f ≠ "version") :
    o.document.get f = if f = "id" then .str o.id else o.items.get f := by
  rw [HubObject.document, List.cons_append, Dict.get_cons, Dict.get_append_eq]
  split_ifs with hid hhas
  · rfl
  · rfl
  · rw [Dict.get_of_not_has hhas, Dict.get_cons, if_neg hf]
    rfl

theorem HubObject.patched_items_get (hf : f ≠ "updated_at") : (o.patched patch now).items.get f =
      (Column.ofJson (Dict.get (Dict.merged o.items patch) f)).json := by
  have hitems : (o.patched patch now).items = (Dict.assigned (Dict.merged o.items patch)
      "updated_at" (.str now)).map fun kv => (kv.1, (Column.ofJson kv.2).json) := by
    simp [HubObject.items, HubObject.patched, List.map_map, Function.comp_def]
  rw [hitems, Dict.get_map (g := fun v => (Column.ofJson v).json) rfl, Dict.get_assigned hf]

/-- The row of an item before and after the apply of a patch. -/
structure Updated (u : Mutation) (h h' : Hub) (item : MutationItem) (o : HubObject) (now : String) :
    Prop where
  before : (h.objects u.targetType).get? item.id = some o
  read : item.before = o.document
  after : (h'.objects u.targetType).get? item.id = some (o.patched u.patch now)

theorem Hub.objects_setObjects (targetType : TargetType) (htype : targetType ≠ .transaction)
    (T : Table HubObject.id) : (h.setObjects targetType T).objects targetType = T := by
  cases targetType <;> first | rfl | exact absurd rfl htype

theorem applyItem_objects (htype : u.targetType ≠ .transaction)
    (hs : applyItem cfg env actorHash key u acc item = .ok acc') :
    (p ≠ item.id → (acc'.1.objects u.targetType).get? p = (acc.1.objects u.targetType).get? p) ∧
    ∃ now, (acc'.1.objects u.targetType).get? item.id =
      ((acc.1.objects u.targetType).get? item.id).map (HubObject.patched u.patch now) := by
  obtain ⟨after, hs⟩ := applyItem_object htype hs
  obtain ⟨o, ho, _, heq⟩ := applyObject_ok hs
  have hobjects : acc'.1.objects u.targetType = (acc.1.objects u.targetType).update item.id
      (HubObject.patched u.patch ((env.round acc.2.length).now 0)) (HubObject.patched_id _ _) := by
    rw [heq]
    exact (Hub.objects_setObjects (h := acc.1) u.targetType htype _)
  constructor
  · intro hp
    show (acc'.1.objects u.targetType).get? p = _
    rw [hobjects]
    exact Table.get?_update_of_ne _ hp _ (HubObject.patched_id _ _)
  · refine ⟨(env.round acc.2.length).now 0, ?_⟩
    show (acc'.1.objects u.targetType).get? item.id = _
    rw [hobjects]
    exact Table.get?_update_self _ _ _ (HubObject.patched_id _ _)

theorem applyItems_objects (htype : u.targetType ≠ .transaction)
    (hp : ∀ item ∈ items, p ≠ item.id)
    (hfold : items.foldlM (applyItem cfg env actorHash key u) acc = .ok acc') :
    (acc'.1.objects u.targetType).get? p = (acc.1.objects u.targetType).get? p :=
  foldlM_ok (P := fun acc₁ => (acc₁.1.objects u.targetType).get? p =
      (acc.1.objects u.targetType).get? p)
    (fun item hitem _ _ heq hround =>
      ((applyItem_objects htype hround).1 (hp item hitem)).trans heq) rfl hfold

theorem mutateOperation_updated (htype : u.targetType ≠ .transaction) (hnodup : u.targetIds.Nodup)
    (hitems : u.targetIds.mapM (h.prepareItem u.targetType u.patch) = .ok items)
    (hfold : items.foldlM (applyItem cfg env actorHash key u) (h, []) = .ok (h', results))
    (hitem : item ∈ items) : ∃ o now, Updated u h h' item o now := by
  rw [← Hub.prepareItems_ids hitems] at hnodup
  obtain ⟨_, hrecord, _⟩ := Hub.prepareItem_ok (Hub.prepareItem_of_mem hitems hitem)
  rw [Hub.mutationRecord, if_neg htype] at hrecord
  simp only [bind_eq_ok, orRaise_eq_ok, pure_eq_ok] at hrecord
  obtain ⟨o, ho, hdocument⟩ := hrecord
  obtain ⟨l₁, l₂, acc₁, acc₂, rfl, hfold₁, happly, hfold₂⟩ := foldlM_mem hitem hfold
  rw [List.map_append, List.map_cons, List.nodup_append, List.nodup_cons] at hnodup
  obtain ⟨_, ⟨hafter, _⟩, hbefore⟩ := hnodup
  have h₁ := applyItems_objects (p := item.id) htype (fun other hother heq =>
    hbefore _ (List.mem_map_of_mem hother) _ List.mem_cons_self heq.symm) hfold₁
  have h₂ := applyItems_objects (p := item.id) htype
    (fun other hother heq => hafter (heq ▸ List.mem_map_of_mem hother)) hfold₂
  obtain ⟨now, hnow⟩ := (applyItem_objects (p := item.id) htype happly).2
  refine ⟨o, now, ho, hdocument.symm, ?_⟩
  rw [h₂, hnow, h₁, ho]
  rfl

section Objects

variable {item : MutationItem} {o : HubObject} {now f : String}

theorem Updated.kept (hr : Updated u h h' item o now) (hno : ¬ u.patch.has f = true)
    (hf : f ∉ u.following) : (o.patched u.patch now).document.get f = item.before.get f := by
  simp only [Mutation.following, List.mem_append, List.mem_cons, List.not_mem_nil, or_false,
    not_or] at hf
  obtain ⟨⟨⟨⟨hversion, hupdated⟩, _⟩, _⟩, _⟩ := hf
  rw [hr.read, HubObject.document_get hversion, HubObject.document_get hversion]
  split_ifs
  · rfl
  · obtain ⟨c, hc⟩ := o.items_get f
    rw [HubObject.patched_items_get hupdated, Dict.get_merged (Bool.eq_false_iff.mpr hno), hc,
      Column.ofJson_json]

theorem Updated.patched (hu : u.Clean cfg) (htype : u.targetType ≠ .transaction)
    (hhas : u.patch.has f = true) : (o.patched u.patch now).document.get f = u.patch.get f := by
  have hf := hu.patchable f hhas
  have hne : f ≠ "id" ∧ f ≠ "version" ∧ f ≠ "updated_at" := by
    refine ⟨?_, ?_, ?_⟩ <;>
    · rintro rfl
      revert hf
      cases u.targetType <;> decide
  obtain ⟨raw, hraw⟩ := hu.read f hhas
  obtain ⟨c, hc⟩ := cleanMutationValue_column htype hf hraw
  rw [HubObject.document_get hne.2.1, if_neg hne.1, HubObject.patched_items_get hne.2.2,
    Dict.get_merged_of_has hhas, hc, Column.ofJson_json]

end Objects

/-! ## The candidate of a preview -/

/-- A field that a patch names has the value of the patch in the candidate. -/
theorem Hub.prepareItem_patched (hu : u.Clean cfg) (htidy : h.Tidy) {id : String}
    (hitem : h.prepareItem u.targetType u.patch id = .ok item) (hhas : u.patch.has f = true) :
    fieldValue u.targetType item.after f = u.patch.get f := by
  obtain ⟨_, hrecord, hcandidate⟩ := Hub.prepareItem_ok hitem
  by_cases htype : u.targetType = .transaction
  · rw [htype] at hrecord hcandidate ⊢
    have hcontext := Hub.mutationCandidate_context hcandidate
    by_cases hf : f ∈ contextFields
    · simp only [Hub.mutationRecord, if_true, bind_eq_ok, orRaise_eq_ok] at hrecord
      obtain ⟨row, _, hdocument⟩ := hrecord
      have hbefore : contextOf item.before = contextItems (h.contexts.get? row.id) := by
        rw [contextOf, Hub.transactionDocument_context hdocument]
        rfl
      rw [fieldValue, if_pos ⟨rfl, hf⟩, contextOf,
        (candidateContext_get hu htype (fun c hc => htidy _ c hc) hbefore hcontext).1 f hf, picked,
        if_pos hhas]
    · unfold Hub.mutationCandidate at hcandidate
      rw [if_pos rfl] at hcandidate
      simp only [bind_eq_ok, pure_eq_ok] at hcandidate
      obtain ⟨_, _, _, _, context, _, _, _, heq⟩ := hcandidate
      have hne : f ≠ "context" ∧ f ≠ "version" := by
        have hmem := hu.patchable f hhas
        rw [htype] at hmem
        constructor <;>
        · rintro rfl
          revert hmem
          decide
      have hcolumns : Dict.has (u.patch.filter fun kv => kv.1 ∉ contextFields) f = true := by
        rw [Dict.has_iff] at hhas ⊢
        obtain ⟨kv, hkv, rfl⟩ := List.mem_map.mp hhas
        exact List.mem_map_of_mem (List.mem_filter.mpr ⟨hkv, by simpa using hf⟩)
      rw [fieldValue, if_neg fun hc => hf hc.2, ← heq, withContext, Dict.get_assigned hne.2,
        Dict.get_assigned hne.1, Dict.get_merged_of_has hcolumns]
      exact Dict.get_filter (p := fun k => k ∉ contextFields) (by simpa using hf)
  · rw [Hub.mutationCandidate, if_neg htype] at hcandidate
    simp only [bind_eq_ok, pure_eq_ok] at hcandidate
    obtain ⟨_, _, heq⟩ := hcandidate
    rw [fieldValue, if_neg fun hc => htype hc.1, ← heq, Dict.get_merged_of_has hhas]

end HomeAddons.Renovation
