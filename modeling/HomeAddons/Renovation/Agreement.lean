import HomeAddons.Renovation.Preview

/-!
# Renovation Hub: an apply does what its preview showed

* `mutationDigest_inj`: a digest fixes the targets, the patch and the documents before.
* `mutateOperation_elsewhere`: what an apply leaves alone.
* `mutate_agrees`: the apply of a preview does what the preview showed.
-/

namespace HomeAddons.Renovation

open HomeAddons.Common

variable {cfg : Config} {h h' : Hub} {u : Mutation}

/-! ## What a digest covers -/

variable {s actorHash digest now : String} {items items₀ : List MutationItem} {u₀ : Mutation}
  {env : Env} {item : MutationItem} {after payload : Dict} {result : Json}

theorem strip_eq_self (hs : ∀ c ∈ s.toList, isPySpace c = false) : strip s = s := by
  have hdrop : ∀ l : List Char, (∀ c ∈ l, isPySpace c = false) → l.dropWhile isPySpace = l := by
    intro l hl
    cases l with
    | nil => rfl
    | cons c l => rw [List.dropWhile_cons_of_neg (by simp [hl c List.mem_cons_self])]
  rw [strip, hdrop _ hs, hdrop _ (by simpa using hs), List.reverse_reverse, String.ofList_toList]

theorem mutationDigest_chars (u : Mutation) (items : List MutationItem) :
    ∀ c ∈ (mutationDigest u items).toList, c.toNat < 128 ∧ isPySpace c = false := by
  have hhex : ∀ c, isLowerHex c = true → c.toNat < 128 ∧ isPySpace c = false := by
    intro c hc
    simp only [isLowerHex, decide_eq_true_eq, Char.le_def, UInt32.le_iff_toNat_le] at hc
    have hdigits : (48 ≤ c.toNat ∧ c.toNat ≤ 57) ∨ (97 ≤ c.toNat ∧ c.toNat ≤ 102) := hc
    refine ⟨by omega, ?_⟩
    simp only [isPySpace, decide_eq_false_iff_not]
    omega
  intro c hc
  rw [mutationDigest, String.toList_append, List.mem_append] at hc
  obtain hc | hc := hc
  · have hhead : "sha256:".toList.all (fun c => decide (c.toNat < 128) && !isPySpace c) = true := by
      decide
    simpa using List.all_eq_true.mp hhead c hc
  · exact hhex c (List.all_eq_true.mp (sha256Hex_chars _).2 c hc)

/-- A digest that a caller presents is compared as it is. -/
theorem text_mutationDigest (hU : cfg.unicode.Lawful)
    (hs : text cfg (.str (mutationDigest u items)) "preview_digest" 71 true = .ok s) :
    s = mutationDigest u items := by
  have hchars := mutationDigest_chars u items
  simp only [text, bind_eq_ok, ensure_eq_ok, pure_eq_ok, orRaise_eq_ok] at hs
  obtain ⟨t, ht, _, _, _, _, rfl⟩ := hs
  cases ht
  rw [hU.nfc_ascii _ fun c hc => (hchars c hc).1, strip_eq_self fun c hc => (hchars c hc).2]

theorem exactPairs_append {d d' : Dict} (hd : exactPairs d = true) (hd' : exactPairs d' = true) :
    exactPairs (d ++ d') = true := by
  rw [exactPairs_iff] at hd hd' ⊢
  intro kv hkv
  obtain hkv | hkv := List.mem_append.mp hkv
  · exact hd kv hkv
  · exact hd' kv hkv

theorem optionalInt_exact (x : Option ℤ) : (optionalInt x).exact = true := by
  cases x <;> rfl

theorem Context.document_exact (c : Context) : c.document.exact = true := by
  rw [Context.document, Json.exact, exactPairs_iff]
  intro kv hkv
  simp only [List.mem_cons, List.not_mem_nil, or_false] at hkv
  rcases hkv with rfl | rfl | rfl | rfl | rfl <;> first | rfl | exact optionalStr_exact _

theorem Hub.transactionDocument_exact {row : Transaction} {document : Dict}
    (hs : h.transactionDocument row = .ok document) : exactPairs document = true := by
  simp only [Hub.transactionDocument, bind_eq_ok, pure_eq_ok] at hs
  obtain ⟨grouped, hgrouped, rfl⟩ := hs
  refine exactPairs_append (exactPairs_append (exactPairs_append ?_ ?_) ?_) ?_
  · rw [exactPairs_iff]
    intro kv hkv
    simp only [Transaction.document, List.mem_cons, List.not_mem_nil, or_false] at hkv
    rcases hkv with rfl | rfl | rfl | rfl | rfl | rfl | rfl | rfl | rfl | rfl | rfl | rfl | rfl |
      rfl | rfl | rfl | rfl <;> first | rfl | exact optionalStr_exact _ | exact optionalInt_exact _
  · simp [exactPairs, Json.exact, exactItems_str]
  · unfold groupedItem at hgrouped
    split_ifs at hgrouped
    · simp only [map_eq_ok] at hgrouped
      obtain ⟨g, _, rfl⟩ := hgrouped
      simp [exactPairs, GroupedTags.document_exact]
    · cases hgrouped
      rfl
  · rw [exactPairs_iff]
    intro kv hkv
    simp only [List.mem_cons, List.not_mem_nil, or_false] at hkv
    rcases hkv with rfl | rfl | rfl
    · rfl
    · cases h.contexts.get? row.id with
      | none => rfl
      | some c => exact c.document_exact
    · rfl

theorem HubObject.document_exact (o : HubObject) : exactPairs o.document = true := by
  refine exactPairs_append (d := ("id", .str o.id) :: o.items) ?_ rfl
  rw [exactPairs_iff]
  intro kv hkv
  obtain rfl | hkv := List.mem_cons.mp hkv
  · rfl
  · obtain ⟨x, _, rfl⟩ := List.mem_map.mp hkv
    cases x.2 <;> rfl

theorem Mutation.Clean.exact (hu : u.Clean cfg) : exactPairs u.patch = true := by
  rw [exactPairs_iff]
  intro kv hkv
  obtain ⟨raw, hraw⟩ := hu.read kv.1 (Dict.has_iff.mpr (List.mem_map_of_mem hkv))
  have hget : u.patch.get kv.1 = kv.2 := by
    rw [Dict.get, lookup_of_mem hu.nodup (v := kv.2) hkv, Option.getD_some]
  rw [← hget]
  exact cleanMutationValue_exact hraw

theorem Hub.prepareItems_exact
    (hitems : u.targetIds.mapM (h.prepareItem u.targetType u.patch) = .ok items) :
    ∀ item ∈ items, exactPairs item.before = true := by
  intro item hitem
  obtain ⟨_, hrecord, _⟩ := Hub.prepareItem_ok (Hub.prepareItem_of_mem hitems hitem)
  unfold Hub.mutationRecord at hrecord
  split_ifs at hrecord
  · obtain ⟨row, _, hdocument⟩ := bind_eq_ok.mp hrecord
    exact Hub.transactionDocument_exact hdocument
  · obtain ⟨o, _, hdocument⟩ := bind_eq_ok.mp hrecord
    rw [← pure_eq_ok.mp hdocument]
    exact o.document_exact

theorem mutationSubject_exact (hu : u.Clean cfg)
    (hitems : ∀ item ∈ items, exactPairs item.before = true) :
    (mutationSubject u items).exact = true := by
  rw [mutationSubject, Json.exact, exactPairs_iff]
  intro kv hkv
  simp only [List.mem_cons, List.not_mem_nil, or_false] at hkv
  rcases hkv with rfl | rfl | rfl | rfl
  · rfl
  · exact exactItems_str _
  · exact hu.exact
  · rw [Json.exact, exactItems_iff]
    intro v hv
    obtain ⟨item, hitem, rfl⟩ := List.mem_map.mp hv
    exact hitems item hitem

/-- SHA-256 gives two documents with different dumps one digest. -/
def Collide (a b : Json) : Prop := digestJson a = digestJson b ∧ canonical a ≠ canonical b

/-- The subjects of a preview and of an apply are the same: the targets, the patch and the
    documents before. -/
structure SameSubject (u u₀ : Mutation) (items items₀ : List MutationItem) : Prop where
  targetType : u.targetType = u₀.targetType
  targetIds : u.targetIds = u₀.targetIds
  patch : (Json.obj u.patch).Same (.obj u₀.patch)
  before : List.Forall₂ (fun item item₀ => (Json.obj item.before).Same (.obj item₀.before))
    items items₀

/-- Two mutations with one digest are about the same targets, patch and documents. -/
theorem mutationDigest_inj (hu : u.Clean cfg) (hu₀ : u₀.Clean cfg)
    (hitems : ∀ item ∈ items, exactPairs item.before = true)
    (hitems₀ : ∀ item ∈ items₀, exactPairs item.before = true)
    (hno : ¬ Collide (mutationSubject u items) (mutationSubject u₀ items₀))
    (hdigest : mutationDigest u items = mutationDigest u₀ items₀) :
    SameSubject u u₀ items items₀ := by
  have hsha : digestJson (mutationSubject u items) = digestJson (mutationSubject u₀ items₀) := by
    rwa [mutationDigest, mutationDigest, String.append_right_inj] at hdigest
  have hdump : canonical (mutationSubject u items) = canonical (mutationSubject u₀ items₀) := by
    by_contra hne
    exact hno ⟨hsha, hne⟩
  have hsame : (mutationSubject u items).Same (mutationSubject u₀ items₀) :=
    canonical_inj (mutationSubject_exact hu hitems) (mutationSubject_exact hu₀ hitems₀) hdump
  have hget := Json.Same.get hsame (by simp) (by simp)
  refine ⟨?_, ?_, hget "patch", ?_⟩
  · have htext : u.targetType.text = u₀.targetType.text := Json.Same.str (hget "target_type")
    revert htext
    cases u.targetType <;> cases u₀.targetType <;> decide
  · have hids : List.Forall₂ Json.Same (u.targetIds.map .str) (u₀.targetIds.map .str) :=
      Json.Same.arr (hget "target_ids")
    rw [List.forall₂_map_left_iff, List.forall₂_map_right_iff] at hids
    exact List.forall₂_eq_eq_eq ▸ hids.imp fun _ _ => Json.Same.str
  · have hbefore : List.Forall₂ Json.Same (items.map fun item => .obj item.before)
        (items₀.map fun item => .obj item.before) := Json.Same.arr (hget "before")
    rwa [List.forall₂_map_left_iff, List.forall₂_map_right_iff] at hbefore

/-! ## Everything else -/

/-- The tag is one that an apply of the patch writes. -/
def Respelled (cfg : Config) (patch : Dict) (k : String) : Prop :=
  ∃ v tags, tagsWritten cfg patch = some (v, tags) ∧ ∃ tag ∈ tags, tagKey cfg v tag = k

/-- What an apply leaves alone: the rows of other targets, of other tables and of other tags. -/
structure Elsewhere (cfg : Config) (u : Mutation) (h h' : Hub) : Prop where
  transactions : ∀ p, (u.targetType = .transaction → p ∉ u.targetIds) → h.SameView h' p
  objects : ∀ targetType p, (u.targetType = targetType → p ∉ u.targetIds) →
    (h'.objects targetType).get? p = (h.objects targetType).get? p
  spelling : ∀ k, ¬ Respelled cfg u.patch k → h'.tags.get? k = h.tags.get? k
  quoteRequests : h'.quoteRequests = h.quoteRequests
  quoteOffers : h'.quoteOffers = h.quoteOffers
  manifests : h'.manifests = h.manifests
  leases : h'.leases = h.leases

theorem Elsewhere.refl (u : Mutation) (h : Hub) : Elsewhere cfg u h h :=
  ⟨fun _ _ => ⟨rfl, rfl, rfl⟩, fun _ _ _ => rfl, fun _ _ => rfl, rfl, rfl, rfl, rfl⟩

theorem Elsewhere.trans {h₁ h₂ : Hub} (he : Elsewhere cfg u h h₁) (he' : Elsewhere cfg u h₁ h₂) :
    Elsewhere cfg u h h₂ where
  transactions p hp :=
    have hv := he.transactions p hp
    have hv' := he'.transactions p hp
    ⟨hv'.row.trans hv.row, hv'.context.trans hv.context, hv'.links.trans hv.links⟩
  objects targetType p hp := (he'.objects targetType p hp).trans (he.objects targetType p hp)
  spelling k hk := (he'.spelling k hk).trans (he.spelling k hk)
  quoteRequests := he'.quoteRequests.trans he.quoteRequests
  quoteOffers := he'.quoteOffers.trans he.quoteOffers
  manifests := he'.manifests.trans he.manifests
  leases := he'.leases.trans he.leases

/-- Rows of other objects, and of tables that the target type does not name. -/
theorem Hub.setObjects_get? {targetType other : TargetType} {T : Table HubObject.id} {p : String}
    (hp : targetType = other → T.get? p = (h.objects other).get? p) :
    ((h.setObjects targetType T).objects other).get? p = (h.objects other).get? p := by
  by_cases heq : targetType = other
  · subst heq
    by_cases htype : targetType = .transaction
    · subst htype
      rfl
    · rw [Hub.objects_setObjects _ htype, hp rfl]
  · cases targetType <;> cases other <;> first | rfl | exact absurd rfl heq

theorem applyTransaction_elsewhere {key : String} (hu : u.Clean cfg)
    (htype : u.targetType = .transaction) (hitem : item.id ∈ u.targetIds)
    (hs : applyTransaction cfg env actorHash key u item h = .ok (h', after)) :
    Elsewhere cfg u h h' := by
  obtain ⟨_, _, heq, _⟩ := applyTransaction_ok hs
  have hview : ∀ p, (u.targetType = .transaction → p ∉ u.targetIds) → h.SameView h' p := by
    intro p hp
    have hne : p ≠ item.id := by
      rintro rfl
      exact hp htype hitem
    exact (applyTransaction_untouched hu hne hs).view
  have hspelling : ∀ k, ¬ Respelled cfg u.patch k → h'.tags.get? k = h.tags.get? k := by
    intro k hk
    obtain ⟨_, _, htags, _⟩ | ⟨v, tags, h₀, h₁, now, hw, ht₀, _, hs₁, ht₁, _⟩ :=
      applyTransaction_tags hu hs
    · rw [htags]
    · rw [ht₁, Hub.setTags_tags_of_not_mem hs₁, ht₀]
      intro tag htag hkey
      exact hk ⟨v, tags, hw, tag, htag, hkey⟩
  refine ⟨hview, ?_, hspelling, ?_, ?_, ?_, ?_⟩
  · intro targetType p _
    rw [heq]
    cases targetType <;> rfl
  all_goals
    rw [heq]
    rfl

theorem applyObject_elsewhere {key : String} (hitem : item.id ∈ u.targetIds)
    (hs : applyObject env actorHash key u item h = .ok (h', after)) : Elsewhere cfg u h h' := by
  obtain ⟨_, _, _, heq⟩ := applyObject_ok hs
  have hobjects : ∀ targetType p, (u.targetType = targetType → p ∉ u.targetIds) →
      (h'.objects targetType).get? p = (h.objects targetType).get? p := by
    intro targetType p hp
    rw [heq]
    refine Hub.setObjects_get? (h := h) fun htarget => ?_
    subst htarget
    have hne : p ≠ item.id := by
      rintro rfl
      exact hp rfl hitem
    exact Table.get?_update_of_ne _ hne _ (HubObject.patched_id _ _)
  have hrest : h'.transactions = h.transactions ∧ h'.contexts = h.contexts ∧
      h'.tagLinks = h.tagLinks ∧ h'.tags = h.tags ∧ h'.quoteRequests = h.quoteRequests ∧
      h'.quoteOffers = h.quoteOffers ∧ h'.manifests = h.manifests ∧ h'.leases = h.leases := by
    rw [heq]
    cases u.targetType <;> exact ⟨rfl, rfl, rfl, rfl, rfl, rfl, rfl, rfl⟩
  obtain ⟨htransactions, hcontexts, hlinks, htags, hrequests, hoffers, hmanifests, hleases⟩ := hrest
  refine ⟨fun p _ => ⟨?_, ?_, ?_⟩, hobjects, fun k _ => by rw [htags], hrequests, hoffers,
    hmanifests, hleases⟩
  · rw [htransactions]
  · rw [hcontexts]
  · rw [Hub.linksOf, hlinks, Hub.linksOf]

theorem applyItem_elsewhere {key : String} {acc acc' : Hub × List Dict} (hu : u.Clean cfg)
    (hitem : item.id ∈ u.targetIds) (hs : applyItem cfg env actorHash key u acc item = .ok acc') :
    Elsewhere cfg u acc.1 acc'.1 := by
  obtain ⟨after, ⟨htype, hs⟩ | ⟨htype, hs⟩⟩ := applyItem_ok hs
  · exact applyTransaction_elsewhere hu htype hitem hs
  · exact applyObject_elsewhere hitem hs

/-- An apply leaves the rest of the database alone. -/
theorem mutateOperation_elsewhere {key : String} (hu : u.Clean cfg)
    (hop : mutateOperation cfg env actorHash key u digest h = .ok (h', result)) :
    Elsewhere cfg u h h' := by
  obtain ⟨items, results, hitems, _, hfold⟩ := mutateOperation_ok hop
  have hids := Hub.prepareItems_ids hitems
  refine foldlM_ok (P := fun acc : Hub × List Dict => Elsewhere cfg u h acc.1) ?_ (.refl u h) hfold
  intro item hitem acc acc' he hround
  refine he.trans (applyItem_elsewhere hu ?_ hround)
  rw [← hids]
  exact List.mem_map_of_mem hitem

/-- The document of another target is as before, unless a tag that it carries is respelled. -/
theorem Elsewhere.record (he : Elsewhere cfg u h h') {targetType : TargetType} {p : String}
    (hp : u.targetType = targetType → p ∉ u.targetIds)
    (htags : targetType = .transaction → ∀ l ∈ h.linksOf p, ¬ Respelled cfg u.patch l.tagNormalized) :
    h'.mutationRecord targetType p = h.mutationRecord targetType p := by
  unfold Hub.mutationRecord
  split_ifs with htype
  · have hview := he.transactions p (fun hu => hp (hu.trans htype.symm))
    have hactive : h'.activePayment p = h.activePayment p := by
      rw [Hub.activePayment, hview.row, Hub.activePayment]
    rw [hactive]
    cases hrow : h.activePayment p with
    | none => rfl
    | some row =>
      obtain ⟨hget, hpayment, _⟩ := Hub.activePayment_eq_some.mp hrow
      have hid : row.id = p := Table.key_of_get? hget
      refine Hub.transactionDocument_congr hpayment ?_ ?_
      · rw [hid]
        exact Hub.tagNames_congr hview.links fun l hl => he.spelling _ (htags htype l hl)
      · rw [hid]
        exact hview.context
  · rw [he.objects targetType p hp]

/-! ## The states of a ledger -/

/-- The states of a ledger that starts without contexts: its tools are called, and in between other
    tools may change everything but the contexts, or give a transaction a context without a stage
    and an area. -/
inductive Hub.Reached (cfg : Config) : Hub → Prop where
  | empty {h : Hub} (hnone : h.contexts = Table.empty) : Reached cfg h
  | call {h : Hub} (c : LedgerCall) (hh : Reached cfg h) : Reached cfg (c.step cfg h)
  | other {h h' : Hub} (hh : Reached cfg h)
      (hcontexts : ∀ id context, h'.contexts.get? id = some context →
        h.contexts.get? id = some context ∨ context.stageId = none ∧ context.areaId = none) :
      Reached cfg h'

theorem textOrNone_ne {value : Json} {field : String} {maximum : ℕ} {x : Option String}
    (hs : textOrNone cfg value field maximum = .ok x) : x ≠ some "" := by
  simp only [textOrNone, bind_eq_ok, pure_eq_ok] at hs
  obtain ⟨s, _, rfl⟩ := hs
  split_ifs with hempty <;> simp [hempty]

theorem Hub.Tidy.insert (htidy : h.Tidy) {c : Context} {T : Table Context.transactionId}
    (hT : h.contexts.insert? c = some T) (hc : c.stageId ≠ some "" ∧ c.areaId ≠ some "")
    {id : String} {context : Context} (hget : T.get? id = some context) :
    context.stageId ≠ some "" ∧ context.areaId ≠ some "" := by
  rw [Table.get?_insert? hT] at hget
  split_ifs at hget
  · cases hget
    exact hc
  · exact htidy id context hget

theorem Hub.afterTransactionInsert_tidy (htidy : h.Tidy) {id : String} {original : Option String}
    (hs : h.afterTransactionInsert cfg now id payload original = .ok h') : h'.Tidy := by
  simp only [Hub.afterTransactionInsert, bind_eq_ok] at hs
  obtain ⟨project, _, stage, hstage, area, harea, hs⟩ := hs
  split at hs
  · cases hs
    exact htidy
  · next p s a hcontext =>
    simp only [bind_eq_ok, orRaise_eq_ok, pure_eq_ok] at hs
    obtain ⟨_, _, T, hT, rfl⟩ := hs
    refine fun _ _ => htidy.insert hT ?_
    cases project with
    | some q =>
      cases hcontext
      exact ⟨textOrNone_ne hstage, textOrNone_ne harea⟩
    | none =>
      -- a refund without a project of its own has the context of its payment
      simp only [Option.map_none, Option.orElse_none, Option.map_eq_some_iff,
        Option.bind_eq_some_iff] at hcontext
      obtain ⟨c, ⟨_, _, hc⟩, heq⟩ := hcontext
      cases heq
      exact htidy _ c hc

theorem Hub.Tidy.congr (htidy : h.Tidy) (hcontexts : h'.contexts = h.contexts) : h'.Tidy := by
  intro id context hget
  rw [hcontexts] at hget
  exact htidy id context hget

theorem Hub.reversioned_tidy (htidy : h.Tidy) {id : String}
    (hcontexts : h'.contexts = h.reversioned now id payload) : h'.Tidy := by
  intro p context hget
  rw [hcontexts, Hub.reversioned_get?] at hget
  split_ifs at hget
  · obtain ⟨c, hc, rfl⟩ := Option.map_eq_some_iff.mp hget
    exact htidy p c hc
  · exact htidy p context hget

/-- The candidate of a target names no empty stage or area. -/
theorem Hub.prepareItem_tidy (hu : u.Clean cfg) (htype : u.targetType = .transaction)
    (htidy : h.Tidy) {id : String} (hitem : h.prepareItem u.targetType u.patch id = .ok item) :
    ∀ f ∈ ["stage_id", "area_id"],
      (Dict.get ((item.after.get "context").asDict?.getD []) f).asStr? ≠ some "" := by
  intro f hf
  obtain ⟨_, hrecord, hcandidate⟩ := Hub.prepareItem_ok hitem
  rw [htype] at hrecord hcandidate
  simp only [Hub.mutationRecord, if_true, bind_eq_ok, orRaise_eq_ok] at hrecord
  obtain ⟨row, _, hdocument⟩ := hrecord
  have hbefore : contextOf item.before = contextItems (h.contexts.get? row.id) := by
    rw [contextOf, Hub.transactionDocument_context hdocument]
    rfl
  have hfields : f ∈ contextFields ∧ f ≠ "project_id" := by
    revert hf f
    decide
  have hrow : ∀ c, h.contexts.get? row.id = some c → c.stageId ≠ some "" ∧ c.areaId ≠ some "" :=
    fun c hc => htidy _ c hc
  obtain ⟨x, hx, hne⟩ := picked_get hu htype hfields.1 hrow
  rw [(candidateContext_get hu htype hrow hbefore (Hub.mutationCandidate_context hcandidate)).1 f
    hfields.1, hx]
  cases x with
  | none => simp [optionalStr, Json.asStr?]
  | some s => exact hne hfields.2

theorem Hub.applyContext_tidy (htidy : h.Tidy) {id : String} {candidate : Json}
    (hcandidate : ∀ f ∈ ["stage_id", "area_id"],
      (Dict.get (candidate.asDict?.getD []) f).asStr? ≠ some "") :
    (h.applyContext id candidate now).Tidy := by
  intro p context hget
  unfold Hub.applyContext at hget
  split at hget
  · simp only [Table.get?_upsert] at hget
    split_ifs at hget
    · cases hget
      exact ⟨hcandidate "stage_id" (by decide), hcandidate "area_id" (by decide)⟩
    · exact htidy p context hget
  · simp only [Table.get?_erase] at hget
    split_ifs at hget
    exact htidy p context hget

theorem mutateOperation_tidy {key : String} (hu : u.Clean cfg) (htidy : h.Tidy)
    (hop : mutateOperation cfg env actorHash key u digest h = .ok (h', result)) : h'.Tidy := by
  obtain ⟨items, results, hitems, _, hfold⟩ := mutateOperation_ok hop
  refine foldlM_ok (P := fun acc : Hub × List Dict => acc.1.Tidy) ?_ htidy hfold
  intro item hitem acc acc' hacc hround
  obtain ⟨after, ⟨htype, hround⟩ | ⟨htype, hround⟩⟩ := applyItem_ok hround
  · obtain ⟨_, _, heq, _⟩ := applyTransaction_ok hround
    have hcandidate := Hub.prepareItem_tidy hu htype htidy (Hub.prepareItem_of_mem hitems hitem)
    have htidy₁ : (acc.1.applyContext item.id (item.after.get "context")
        ((env.round acc.2.length).now 1)).Tidy := Hub.applyContext_tidy hacc hcandidate
    refine htidy₁.congr ?_
    rw [heq]
    rfl
  · obtain ⟨_, _, _, heq⟩ := applyObject_ok hround
    refine hacc.congr ?_
    rw [heq]
    exact Hub.setObjects_contexts _ _

theorem LedgerCall.Carries.tidy {c : LedgerCall} (hc : c.Carries cfg h h') (htidy : h.Tidy) :
    h'.Tidy := by
  cases hc with
  | addPayment _ hop =>
    simp only [addPaymentOperation, bind_eq_ok, orRaise_eq_ok, pure_eq_ok, Prod.mk.injEq] at hop
    obtain ⟨T, _, h₁, hs₁, h₂, hs₂, _, _, rfl, _⟩ := hop
    refine Hub.Tidy.congr (h := h₂) (Hub.afterTransactionInsert_tidy (h := h₁) (htidy.congr ?_) hs₂) rfl
    rw [Hub.setTags_frame hs₁]
  | addRefund _ hop =>
    simp only [addRefundOperation, bind_eq_ok, orRaise_eq_ok, ensure_eq_ok, pure_eq_ok,
      Prod.mk.injEq] at hop
    obtain ⟨_, _, _, _, T, _, h₁, hs₁, _, _, rfl, _⟩ := hop
    exact Hub.Tidy.congr (h := h₁) (Hub.afterTransactionInsert_tidy
      (h := { h with transactions := T }) (htidy.congr rfl) hs₁) rfl
  | correctPayment _ hop =>
    obtain ⟨_, _, _, _, _, _, heq⟩ := correctPaymentOperation_ok hop
    exact Hub.reversioned_tidy htidy (by rw [heq]; rfl)
  | undo _ hop =>
    obtain ⟨_, _, _, _, _, heq⟩ := undoOperation_ok hop
    exact Hub.reversioned_tidy htidy (by rw [heq]; rfl)
  | mutate hu hop => exact mutateOperation_tidy (mutation_clean hu) htidy hop

theorem Hub.Reached.tidy (hh : h.Reached cfg) : h.Tidy := by
  induction hh with
  | empty hnone =>
    intro id context hget
    rw [hnone] at hget
    cases hget
  | call c _ ih =>
    obtain heq | ⟨h₁, keys, now, hcarries, heq⟩ := c.step_cases cfg _
    · rw [heq]
      exact ih
    · rw [heq]
      exact (hcarries.tidy ih).congr rfl
  | other _ hcontexts ih =>
    intro id context hget
    obtain hget | ⟨hstage, harea⟩ := hcontexts id context hget
    · exact ih id context hget
    · rw [hstage, harea]
      exact ⟨by simp, by simp⟩

/-! ## The apply of a preview -/

/-- The target of an item of a preview, before and after the apply: it was as previewed, the fields
    of the patch are as previewed, and the fields that do not go with them are as before. -/
def Agreed (u : Mutation) (h h' : Hub) (item : MutationItem) : Prop :=
  ∃ before after, h.mutationRecord u.targetType item.id = .ok before ∧
    (Json.obj before).Same (.obj item.before) ∧
    h'.mutationRecord u.targetType item.id = .ok after ∧
    (∀ f, u.patch.has f = true →
      (fieldValue u.targetType after f).Same (fieldValue u.targetType item.after f)) ∧
    ∀ f, ¬ u.patch.has f = true → f ∉ u.following →
      fieldValue u.targetType after f = fieldValue u.targetType before f

/-- An apply patches the documents that it has read. -/
theorem mutateOperation_patches {key : String} (hU : cfg.unicode.Lawful) (hu : u.Clean cfg)
    (hnodup : u.targetIds.Nodup) (htidy : h.Tidy) {results : List Dict}
    (hitems : u.targetIds.mapM (h.prepareItem u.targetType u.patch) = .ok items)
    (hfold : items.foldlM (applyItem cfg env actorHash key u) (h, []) = .ok (h', results))
    (hitem : item ∈ items) :
    ∃ after, h'.mutationRecord u.targetType item.id = .ok after ∧
      (∀ f, u.patch.has f = true → fieldValue u.targetType after f = u.patch.get f) ∧
      ∀ f, ¬ u.patch.has f = true → f ∉ u.following →
        fieldValue u.targetType after f = fieldValue u.targetType item.before f := by
  by_cases htype : u.targetType = .transaction
  · obtain ⟨row, now, after, hr⟩ :=
      mutateOperation_rewritten hu htype hnodup htidy hitems hfold hitem
    refine ⟨after, ?_, fun f hhas => ?_, fun f hno hf => ?_⟩
    · rw [htype, Hub.mutationRecord, if_pos rfl, hr.row']
      exact hr.left
    · rw [htype]
      exact hr.patched hU hu htype hhas
    · rw [htype]
      exact hr.kept htype hno hf
  · obtain ⟨o, now, hr⟩ := mutateOperation_updated htype hnodup hitems hfold hitem
    have hfield : ∀ (d : Dict) f, fieldValue u.targetType d f = d.get f :=
      fun d f => if_neg fun hc => htype hc.1
    refine ⟨(o.patched u.patch now).document, ?_, fun f hhas => ?_, fun f hno hf => ?_⟩
    · rw [Hub.mutationRecord, if_neg htype, hr.after]
      rfl
    · rw [hfield]
      exact Updated.patched hu htype hhas
    · rw [hfield, hfield]
      exact hr.kept hno hf

/-- The apply of a digest does to the targets what the preview with that digest has shown. -/
theorem mutateOperation_agreed {key : String} (hU : cfg.unicode.Lawful) {h₀ : Hub}
    (hu : u.Clean cfg) (hnodup : u.targetIds.Nodup) (htidy : h.Tidy) (hu₀ : u₀.Clean cfg)
    (htidy₀ : h₀.Tidy)
    (hitems₀ : u₀.targetIds.mapM (h₀.prepareItem u₀.targetType u₀.patch) = .ok items₀)
    (hitems : u.targetIds.mapM (h.prepareItem u.targetType u.patch) = .ok items)
    (hno : ¬ Collide (mutationSubject u items) (mutationSubject u₀ items₀))
    (hop : mutateOperation cfg env actorHash key u (mutationDigest u₀ items₀) h = .ok (h', result)) :
    SameSubject u u₀ items items₀ ∧ ∀ item ∈ items₀, Agreed u h h' item := by
  obtain ⟨items', results, hitems', hdigest, hfold⟩ := mutateOperation_ok hop
  obtain rfl : items = items' := Except.ok.inj (hitems.symm.trans hitems')
  have hsame := mutationDigest_inj hu hu₀ (Hub.prepareItems_exact hitems)
    (Hub.prepareItems_exact hitems₀) hno hdigest
  refine ⟨hsame, fun item₀ hitem₀ => ?_⟩
  -- the item of the apply with the same identifier
  obtain ⟨item, hitem, hid, hbefore⟩ : ∃ item ∈ items, item.id = item₀.id ∧
      (Json.obj item.before).Same (.obj item₀.before) := by
    have hids : items.map MutationItem.id = items₀.map MutationItem.id := by
      rw [Hub.prepareItems_ids hitems, Hub.prepareItems_ids hitems₀, hsame.targetIds]
    have hall := hsame.before
    clear hitems hitems' hitems₀ hfold hdigest hno hsame hop
    induction hall with
    | nil => cases hitem₀
    | cons hhead _ ih =>
      obtain ⟨hid, hids⟩ := List.cons.inj hids
      obtain rfl | hmem := List.mem_cons.mp hitem₀
      · exact ⟨_, List.mem_cons_self, hid, hhead⟩
      · obtain ⟨item, hitem, hrest⟩ := ih hmem hids
        exact ⟨item, List.mem_cons_of_mem _ hitem, hrest⟩
  obtain ⟨after, hafter, hpatched, hkept⟩ :=
    mutateOperation_patches hU hu hnodup htidy hitems hfold hitem
  obtain ⟨_, hrecord, _⟩ := Hub.prepareItem_ok (Hub.prepareItem_of_mem hitems hitem)
  unfold Agreed
  rw [← hid]
  refine ⟨item.before, after, hrecord, hbefore, hafter, fun f hhas => ?_, hkept⟩
  have hpatch := hsame.patch
  have hhas₀ : u₀.patch.has f = true := by
    rw [← hpatch.has, hhas]
  rw [hpatched f hhas, hsame.targetType, Hub.prepareItem_patched hu₀ htidy₀
    (Hub.prepareItem_of_mem hitems₀ hitem₀) hhas₀]
  exact hpatch.get hu.nodup hu₀.nodup f

/-- A preview and the apply of its digest, from any two states of a ledger: an apply that raises or
    is a replay changes nothing, and one that is carried out does to its targets what the preview
    has shown and leaves the other documents alone, unless SHA-256 confuses the two. -/
theorem mutate_agrees (hU : cfg.unicode.Lawful) {h₀ : Hub} (hh₀ : h₀.Reached cfg)
    (hh : h.Reached cfg) (env : Env) {payload₀ payload : Dict} (actorHash : String) {preview : Json}
    (hpreview : mutatePreview cfg h₀ payload₀ = .ok preview)
    (hmode : mutationMode payload = .ok "apply")
    (hdigest : payload.get "preview_digest" = (preview.asDict?.getD []).get "preview_digest") :
    ∃ u₀ items₀ digest, h₀.prepareMutation u₀ = .ok (items₀, digest) ∧
      preview = mutationPreviewResult u₀ items₀ digest ∧
      (∀ e, mutate cfg h env payload actorHash = .error e →
        (LedgerCall.mutate env payload actorHash).step cfg h = h) ∧
      ∀ h' result replayed, mutate cfg h env payload actorHash = .ok (h', result, replayed) →
        if replayed then h' = h
        else ∃ u items digest', h.prepareMutation u = .ok (items, digest') ∧
          (Collide (mutationSubject u items) (mutationSubject u₀ items₀) ∨
            SameSubject u u₀ items items₀ ∧ (∀ item ∈ items₀, Agreed u h h' item) ∧
            Elsewhere cfg u h h' ∧ ∀ targetType p, (u.targetType = targetType → p ∉ u.targetIds) →
              (targetType = .transaction →
                ∀ l ∈ h.linksOf p, ¬ Respelled cfg u.patch l.tagNormalized) →
              h'.mutationRecord targetType p = h.mutationRecord targetType p) := by
  simp only [mutatePreview, Hub.prepareMutation, bind_eq_ok, pure_eq_ok] at hpreview
  obtain ⟨u₀, hu₀, _, ⟨items₀, hitems₀, rfl⟩, rfl⟩ := hpreview
  refine ⟨u₀, items₀, _, ?_, rfl, fun e he => ?_, fun h' result replayed hcall => ?_⟩
  · simp only [Hub.prepareMutation, bind_eq_ok, pure_eq_ok]
    exact ⟨items₀, hitems₀, rfl⟩
  · have hexec : (LedgerCall.mutate env payload actorHash).exec cfg h = .error e := he
    rw [LedgerCall.step, hexec]
  · have hshown : payload.get "preview_digest" = .str (mutationDigest u₀ items₀) := hdigest
    simp only [mutate, hmode, bind_eq_ok, Except.ok.injEq, exists_eq_left'] at hcall
    rw [if_neg (by decide)] at hcall
    simp only [mutateApply, bind_eq_ok, hshown] at hcall
    obtain ⟨u, hu, _, _, digest, hread, key, _, hrun⟩ := hcall
    obtain rfl := text_mutationDigest hU hread
    obtain ⟨_, _, _, heq⟩ | ⟨_, h₁, _, keys, hop, _, heq⟩ := runIdempotent_eq_ok.mp hrun
    · cases heq
      rfl
    · cases heq
      rw [if_neg Bool.false_ne_true]
      obtain ⟨items, _, hitems, _, _⟩ := mutateOperation_ok hop
      refine ⟨u, items, mutationDigest u items, ?_, ?_⟩
      · simp only [Hub.prepareMutation, bind_eq_ok, pure_eq_ok]
        exact ⟨items, hitems, rfl⟩
      · by_cases hno : Collide (mutationSubject u items) (mutationSubject u₀ items₀)
        · exact .inl hno
        · have hclean := mutation_clean hu
          obtain ⟨hsame, hagreed⟩ := mutateOperation_agreed hU hclean (mutation_nodup hu) hh.tidy
            (mutation_clean hu₀) hh₀.tidy hitems₀ hitems hno hop
          have helsewhere := mutateOperation_elsewhere hclean hop
          -- filing the key changes no document
          have hfiled : Elsewhere cfg u h (h₁.filed keys env.writtenAt) :=
            ⟨fun p hp => have hv := helsewhere.transactions p hp
              ⟨hv.row, hv.context, hv.links⟩, helsewhere.objects, helsewhere.spelling,
              helsewhere.quoteRequests, helsewhere.quoteOffers, helsewhere.manifests,
              helsewhere.leases⟩
          exact .inr ⟨hsame, hagreed, hfiled, fun _ _ hp htags => hfiled.record hp htags⟩

/-! ### A tag with two spellings -/

/-- A store whose tags do not tell upper from lower case. -/
def foldingConfig : Config :=
  ⟨⟨id, id, fun s => String.ofList (s.toList.map Char.toLower)⟩, 20971520, false⟩

theorem foldingConfig_lawful : foldingConfig.unicode.Lawful := ⟨fun _ _ => rfl, fun _ => rfl⟩

def taggedPayment (key tag : String) : Dict :=
  [("idempotency_key", .str key), ("amount_cents", .int 10000), ("occurred_on", .str "2026-08-01"),
    ("main_category", .str "Kitchen"), ("tags", .arr [.str tag]), ("project_id", .str "project-01")]

/-- Two payments, one of them with a tag in lower case. -/
def taggedHub : Hub :=
  let h := (LedgerCall.addPayment (sampleEnv "payment-01") (taggedPayment "add-payment-000001" "tile")
    "page").step foldingConfig sampleHub
  (LedgerCall.addPayment (sampleEnv "payment-02") (taggedPayment "add-payment-000002" "oven")
    "page").step foldingConfig h

theorem taggedHub_reached : taggedHub.Reached foldingConfig := by
  have hempty : sampleHub.Reached foldingConfig := .empty rfl
  unfold taggedHub
  exact (hempty.call _).call _

/-- Gives the first payment the tag of the second, with a capital letter. -/
def respellPayload (rest : Dict) : Dict :=
  [("target_type", .str "transaction"), ("target_ids", .arr [.str "payment-01"]),
    ("patch", .obj [("tags", .arr [.str "Oven"])]), ("reason", .str "retag")] ++ rest

/-- What the preview of the new tag answers. -/
def respellPreview : Json :=
  (mutatePreview foldingConfig taggedHub (respellPayload [])).toOption.getD .null

def respellApply : Dict :=
  respellPayload [("mode", .str "apply"), ("confirmed", .bool true),
    ("preview_digest", (respellPreview.asDict?.getD []).get "preview_digest"),
    ("idempotency_key", .str "mutate-payment-01")]

/-- The tags in the document of the second payment. -/
def Hub.shownTags (h : Hub) : Option (List String) :=
  (h.mutationRecord .transaction "payment-02").toOption.map fun document =>
    ((document.get "tags").asList?.getD []).filterMap Json.asStr?

theorem respell_facts :
    (mutatePreview foldingConfig taggedHub (respellPayload [])).toOption.isSome ∧
    ((mutate foldingConfig taggedHub (sampleEnv "") respellApply "page").toOption.any fun x =>
      !x.2.2 && decide (taggedHub.shownTags = some ["oven"] ∧ x.1.shownTags = some ["Oven"])) := by
  decide +kernel

theorem respell_reply :
    mutatePreview foldingConfig taggedHub (respellPayload []) = .ok respellPreview := by
  obtain ⟨preview, hx⟩ := Option.isSome_iff_exists.mp respell_facts.1
  rw [respellPreview, hx]
  exact toOption_eq_some.mp hx

/-- Another payment, which is no target, changes: it carries the tag in the other spelling. -/
theorem respelled_elsewhere : ∃ preview h' result,
    mutatePreview foldingConfig taggedHub (respellPayload []) = .ok preview ∧
    respellApply.get "preview_digest" = (preview.asDict?.getD []).get "preview_digest" ∧
    mutate foldingConfig taggedHub (sampleEnv "") respellApply "page" = .ok (h', result, false) ∧
    h'.mutationRecord .transaction "payment-02" ≠
      taggedHub.mutationRecord .transaction "payment-02" := by
  obtain ⟨⟨h', result, replayed⟩, hx, hfacts⟩ := (Option.any_eq_true _ _).mp respell_facts.2
  simp only [Bool.and_eq_true, Bool.not_eq_true', decide_eq_true_eq] at hfacts
  obtain ⟨rfl, hbefore, hafter⟩ := hfacts
  refine ⟨respellPreview, h', result, respell_reply, rfl, toOption_eq_some.mp hx, fun heq => ?_⟩
  have hsame : h'.shownTags = taggedHub.shownTags := by
    rw [Hub.shownTags, heq, Hub.shownTags]
  rw [hbefore, hafter] at hsame
  exact absurd hsame (by decide)

theorem mutate_agrees_respell : ∃ u₀ items₀ digest h' result,
    taggedHub.prepareMutation u₀ = .ok (items₀, digest) ∧
      respellPreview = mutationPreviewResult u₀ items₀ digest ∧
      mutate foldingConfig taggedHub (sampleEnv "") respellApply "page" = .ok (h', result, false) ∧
      ∃ u items digest', taggedHub.prepareMutation u = .ok (items, digest') := by
  obtain ⟨⟨h', result, replayed⟩, hx, hfacts⟩ := (Option.any_eq_true _ _).mp respell_facts.2
  simp only [Bool.and_eq_true, Bool.not_eq_true', decide_eq_true_eq] at hfacts
  obtain ⟨rfl, -⟩ := hfacts
  have hmode : mutationMode respellApply = .ok "apply" := rfl
  obtain ⟨u₀, items₀, digest, hitems, hpreview, -, hcall⟩ :=
    mutate_agrees foldingConfig_lawful taggedHub_reached taggedHub_reached (sampleEnv "") "page"
      respell_reply hmode rfl
  obtain ⟨u, items, digest', hprepared, -⟩ := hcall h' result false (toOption_eq_some.mp hx)
  exact ⟨u₀, items₀, digest, h', result, hitems, hpreview, toOption_eq_some.mp hx, u, items, digest',
    hprepared⟩

end HomeAddons.Renovation
