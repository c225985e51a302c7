import HomeAddons.Renovation.Writes

/-!
# Renovation Hub: the tags of a transaction

A tag is stored under a key that does not depend on its spelling, and all transactions that carry
the tag share the spelling. `setTags` gives a transaction its tags and leaves the links of the
others alone; the spelling of a tag that it writes changes for all of them.

* `Hub.setTags_links_of_ne`, `Hub.setTags_tags_of_not_mem`: what `setTags` leaves alone.
* `Hub.Tagged.tagNames`: a transaction that carries tags is shown with them, in their order.
* `readGroupedTags_normalize`: the grouped tags of a document are those that were written.
-/

namespace HomeAddons.Renovation

open HomeAddons.Common

variable {cfg : Config} {h h' : Hub} {id : String} {v : FormatVersion} {now : ℕ → String}

/-! ## Writing tags -/

/-- The links of a transaction. -/
def Hub.linksOf (h : Hub) (id : String) : List TagLink :=
  h.tagLinks.filter fun l => l.transactionId = id

/-- The transaction has links to these tags, in this order, and they are spelled like this. -/
structure Hub.Tagged (cfg : Config) (h : Hub) (id : String) (v : FormatVersion)
    (tags : List String) : Prop where
  links : (h.linksOf id).map (fun l => (l.tagNormalized, l.position)) =
    tags.zipIdx.map fun x => (tagKey cfg v x.1, x.2)
  spelled : ∀ tag ∈ tags, h.tags.get? (tagKey cfg v tag) = some ⟨tagKey cfg v tag, tag⟩

theorem Hub.setTag_ok {item : String × ℕ} (hs : h.setTag cfg id v now item = .ok h') :
    (∀ l ∈ h.tagLinks, l.transactionId = id → l.tagNormalized ≠ tagKey cfg v item.1) ∧
    (∃ l : TagLink, l.transactionId = id ∧ l.tagNormalized = tagKey cfg v item.1 ∧
      l.position = item.2 ∧ h'.tagLinks = h.tagLinks ++ [l]) ∧
    h'.tags = h.tags.upsert ⟨tagKey cfg v item.1, item.1⟩ := by
  unfold Hub.setTag at hs
  dsimp only at hs
  split_ifs at hs <;> simp only [bind_eq_ok, map_eq_ok, ensure_eq_ok, pure_eq_ok] at hs <;>
    obtain ⟨_, _, _, hfree, rfl⟩ := hs <;>
    refine ⟨?_, ⟨_, rfl, rfl, rfl, rfl⟩, rfl⟩ <;>
    · intro l hl hid hkey
      exact hfree (List.any_eq_true.mpr ⟨l, hl, by simp [hid, hkey]⟩)

/-- What the rounds of `setTags` do to the tables of the tags. -/
theorem Hub.setTag_rounds {items : List (String × ℕ)}
    (hs : items.foldlM (Hub.setTag cfg id v now) h = .ok h') :
    (∃ new, h'.tagLinks = h.tagLinks ++ new ∧ (∀ l ∈ new, l.transactionId = id) ∧
      new.map (fun l => (l.tagNormalized, l.position)) =
        items.map fun x => (tagKey cfg v x.1, x.2)) ∧
    (∀ k, (∀ x ∈ items, tagKey cfg v x.1 ≠ k) → h'.tags.get? k = h.tags.get? k) ∧
    (∀ x ∈ items, ∀ l ∈ h.tagLinks, l.transactionId = id → l.tagNormalized ≠ tagKey cfg v x.1) ∧
    ∀ x ∈ items, h'.tags.get? (tagKey cfg v x.1) = some ⟨tagKey cfg v x.1, x.1⟩ := by
  induction items generalizing h with
  | nil =>
    cases hs
    refine ⟨⟨[], by simp, by simp, rfl⟩, fun _ _ => rfl, by simp, by simp⟩
  | cons item items ih =>
    rw [List.foldlM_cons, bind_eq_ok] at hs
    obtain ⟨h₁, hitem, hs⟩ := hs
    obtain ⟨hfree, ⟨l, hid, hkey, hpos, hlinks⟩, htags⟩ := Hub.setTag_ok hitem
    obtain ⟨⟨new, hnew, hown, hmap⟩, hothers, hfresh, hspelled⟩ := ih hs
    -- the link of this round keeps its key away from the later rounds
    have hapart : ∀ x ∈ items, tagKey cfg v x.1 ≠ tagKey cfg v item.1 := by
      intro x hx heq
      refine hfresh x hx l ?_ hid (hkey.trans heq.symm)
      rw [hlinks]
      exact List.mem_append_right _ List.mem_cons_self
    refine ⟨⟨l :: new, ?_, ?_, ?_⟩, ?_, ?_, ?_⟩
    · rw [hnew, hlinks, List.append_assoc, List.singleton_append]
    · intro l' hl'
      obtain rfl | hl' := List.mem_cons.mp hl'
      · exact hid
      · exact hown l' hl'
    · rw [List.map_cons, List.map_cons, hmap, hkey, hpos]
    · intro k hk
      rw [hothers k fun x hx => hk x (List.mem_cons_of_mem _ hx), htags, Table.get?_upsert,
        if_neg (hk item List.mem_cons_self).symm]
    · intro x hx l' hl'
      obtain rfl | hx := List.mem_cons.mp hx
      · exact hfree l' hl'
      · refine hfresh x hx l' ?_
        rw [hlinks]
        exact List.mem_append_left _ hl'
    · intro x hx
      obtain rfl | hx := List.mem_cons.mp hx
      · rw [hothers _ hapart, htags, Table.get?_upsert, if_pos rfl]
      · exact hspelled x hx

section SetTags

variable {tags : List String} (hs : h.setTags cfg id tags v now = .ok h')

include hs

theorem Hub.setTags_tagged : h'.Tagged cfg id v tags := by
  obtain ⟨⟨new, hnew, hown, hmap⟩, _, _, hspelled⟩ := Hub.setTag_rounds hs
  refine ⟨?_, ?_⟩
  · have hold : (h.tagLinks.filter fun l => l.transactionId ≠ id).filter
        (fun l => l.transactionId = id) = [] := by
      rw [List.filter_eq_nil_iff]
      intro l hl
      simpa using (List.mem_filter.mp hl).2
    have hall : new.filter (fun l => l.transactionId = id) = new := by
      rw [List.filter_eq_self]
      intro l hl
      simpa using hown l hl
    rw [Hub.linksOf, hnew, List.filter_append, hold, hall, List.nil_append, hmap]
  · intro tag htag
    obtain ⟨i, hi⟩ := List.mem_iff_getElem?.mp htag
    exact hspelled (tag, i) (List.mk_mem_zipIdx_iff_getElem?.mpr hi)

theorem Hub.setTags_links_of_ne {i : String} (hi : i ≠ id) : h'.linksOf i = h.linksOf i := by
  obtain ⟨⟨new, hnew, hown, hmap⟩, _⟩ := Hub.setTag_rounds hs
  have hnone : new.filter (fun l => l.transactionId = i) = [] := by
    rw [List.filter_eq_nil_iff]
    intro l hl
    simpa [hown l hl] using hi.symm
  rw [Hub.linksOf, hnew, List.filter_append, hnone, List.append_nil, List.filter_filter, Hub.linksOf]
  congr 1
  funext l
  by_cases hl : l.transactionId = i <;> simp [hl, hi]

theorem Hub.setTags_tags_of_not_mem {k : String} (hk : ∀ tag ∈ tags, tagKey cfg v tag ≠ k) :
    h'.tags.get? k = h.tags.get? k := by
  obtain ⟨_, hothers, _⟩ := Hub.setTag_rounds hs
  refine hothers k ?_
  rintro ⟨tag, i⟩ hx
  exact hk tag (List.fst_mem_of_mem_zipIdx hx)

end SetTags

/-! ## Reading tags -/

/-- A transaction that carries tags is shown with them. -/
theorem Hub.Tagged.tagNames {tags : List String} (hc : h.Tagged cfg id v tags) :
    h.tagNames id = tags := by
  have hrows : ((h.linksOf id).filterMap fun l =>
      (h.tags.get? l.tagNormalized).map fun t => (l.position, t.displayName)) =
      tags.zipIdx.map fun x => (x.2, x.1) := by
    have hlinks := congrArg (List.filterMap fun x : String × ℕ =>
      (h.tags.get? x.1).map fun t => (x.2, t.displayName)) hc.links
    rw [List.filterMap_map, List.filterMap_map] at hlinks
    refine hlinks.trans ?_
    rw [← List.filterMap_eq_map]
    apply List.filterMap_congr
    rintro ⟨tag, i⟩ hx
    simp [hc.spelled tag (List.fst_mem_of_mem_zipIdx hx)]
  have hsorted : (tags.zipIdx.map fun x => (x.2, x.1)).Pairwise
      fun a b => a.1 < b.1 ∨ (a.1 = b.1 ∧ a.2 ≤ b.2) := by
    rw [List.pairwise_map, List.pairwise_iff_getElem]
    intro i j hi hj hij
    simp [hij]
  show ((List.filterMap _ (h.linksOf id)).insertionSort _).map Prod.snd = tags
  rw [hrows, hsorted.insertionSort_eq, List.map_map]
  exact List.zipIdx_map_fst 0 tags

/-- What is shown of the tags of a transaction depends on its links and on the spelling of their
    tags. -/
theorem Hub.tagNames_congr (hlinks : h'.linksOf id = h.linksOf id)
    (hspelled : ∀ l ∈ h.linksOf id, h'.tags.get? l.tagNormalized = h.tags.get? l.tagNormalized) :
    h'.tagNames id = h.tagNames id := by
  have hrows : (h.linksOf id).filterMap (fun l =>
        (h'.tags.get? l.tagNormalized).map fun t => (l.position, t.displayName)) =
      (h.linksOf id).filterMap fun l =>
        (h.tags.get? l.tagNormalized).map fun t => (l.position, t.displayName) :=
    List.filterMap_congr fun l hl => by rw [hspelled l hl]
  show ((List.filterMap _ (h'.linksOf id)).insertionSort _).map Prod.snd =
    ((List.filterMap _ (h.linksOf id)).insertionSort _).map Prod.snd
  rw [hlinks, hrows]

/-! ## Grouped tags -/

/-- The tags of a choice of labels for each dimension. -/
def flattened (labels : String → List String) (dimensions : List String) : List String :=
  dimensions.flatMap fun d => (labels d).map fun label => d ++ ":" ++ label

/-- The document of a choice of labels for each dimension. -/
def groupedBy (labels : String → List String) (dimensions : List String) : GroupedTags :=
  dimensions.filterMap fun d => if labels d = [] then none else some (d, labels d)

/-- The labels of a dimension, as `normalize_grouped_tags` reads them. -/
def ReadsLabels (cfg : Config) (value : Dict) (d : String) (labels : List String) : Prop :=
  ∃ raw, (if value.has d then (value.get d).asList? else some []) = some raw ∧
    List.Forall₂ (fun item label => text cfg item "tag" 40 true = .ok label) raw labels

variable {d label : String} {dimensions labels : List String} {result : List String × GroupedTags}
  {g : GroupedTags}

theorem normalizeLabel_rounds {raw : List Json} {acc acc' : List String × List String}
    (hs : raw.foldlM (normalizeLabel cfg d) acc = .ok acc') :
    ∃ labels, List.Forall₂ (fun item label => text cfg item "tag" 40 true = .ok label) raw labels ∧
      acc'.1 = acc.1 ++ labels.map (fun label => d ++ ":" ++ label) ∧ acc'.2 = acc.2 ++ labels := by
  induction raw generalizing acc with
  | nil =>
    cases hs
    exact ⟨[], .nil, by simp, by simp⟩
  | cons item raw ih =>
    rw [List.foldlM_cons, bind_eq_ok] at hs
    obtain ⟨acc₁, hitem, hs⟩ := hs
    simp only [normalizeLabel, bind_eq_ok, ensure_eq_ok, pure_eq_ok] at hitem
    obtain ⟨label, hlabel, _, _, _, _, rfl⟩ := hitem
    obtain ⟨labels, hlabels, h₁, h₂⟩ := ih hs
    exact ⟨label :: labels, .cons hlabel hlabels, by simp [h₁], by simp [h₂]⟩

theorem normalizeDimension_rounds {value : Dict} {acc acc' : List String × GroupedTags}
    (hnodup : dimensions.Nodup)
    (hs : dimensions.foldlM (normalizeDimension cfg value) acc = .ok acc') :
    ∃ labels : String → List String, (∀ d ∈ dimensions, ReadsLabels cfg value d (labels d)) ∧
      acc'.1 = acc.1 ++ flattened labels dimensions ∧
      acc'.2 = acc.2 ++ groupedBy labels dimensions := by
  induction dimensions generalizing acc with
  | nil =>
    cases hs
    exact ⟨fun _ => [], by simp, by simp [flattened], by simp [groupedBy]⟩
  | cons d dimensions ih =>
    rw [List.foldlM_cons, bind_eq_ok] at hs
    obtain ⟨acc₁, hd, hs⟩ := hs
    simp only [normalizeDimension, bind_eq_ok, orRaise_eq_ok, pure_eq_ok] at hd
    obtain ⟨raw, hraw, ⟨flat, own⟩, hown, rfl⟩ := hd
    obtain ⟨own', hown', h₁, h₂⟩ := normalizeLabel_rounds hown
    obtain rfl : own = own' := h₂.trans (List.nil_append own')
    rw [List.nodup_cons] at hnodup
    obtain ⟨labels, hlabels, h₃, h₄⟩ := ih hnodup.2 hs
    have hne : ∀ x ∈ dimensions, Function.update labels d own x = labels x := by
      intro x hx
      refine Function.update_of_ne ?_ _ _
      rintro rfl
      exact hnodup.1 hx
    refine ⟨Function.update labels d own, ?_, ?_, ?_⟩
    · intro x hx
      obtain rfl | hx := List.mem_cons.mp hx
      · rw [Function.update_self]
        exact ⟨raw, hraw, hown'⟩
      · rw [hne x hx]
        exact hlabels x hx
    · rw [h₃, h₁, flattened, flattened, List.flatMap_cons, Function.update_self, List.append_assoc]
      congr 2
      exact List.flatMap_congr fun x hx => by rw [hne x hx]
    · rw [h₄, groupedBy, groupedBy, List.filterMap_cons, Function.update_self]
      have hrest : dimensions.filterMap (fun x => if Function.update labels d own x = [] then none
          else some (x, Function.update labels d own x)) =
          dimensions.filterMap fun x => if labels x = [] then none else some (x, labels x) :=
        List.filterMap_congr fun x hx => by rw [hne x hx]
      rw [hrest]
      by_cases hempty : own = [] <;> simp [hempty]

theorem normalizeGroupedTags_ok {value : Json} (hs : normalizeGroupedTags cfg value = .ok result) :
    ∃ (items : Dict) (labels : String → List String), value = .obj items ∧
      (∀ d ∈ tagDimensions, ReadsLabels cfg items d (labels d)) ∧
      result = (flattened labels tagDimensions, groupedBy labels tagDimensions) := by
  simp only [normalizeGroupedTags, bind_eq_ok, orRaise_eq_ok, ensure_eq_ok, pure_eq_ok] at hs
  obtain ⟨items, hitems, _, _, result', hs, _, _, rfl⟩ := hs
  obtain ⟨labels, hlabels, h₁, h₂⟩ := normalizeDimension_rounds (by decide) hs
  refine ⟨items, labels, ?_, hlabels, Prod.ext h₁ h₂⟩
  cases value <;> simp_all [Json.asDict?]

/-! ### Reading grouped tags back -/

theorem GroupedTags.append_new (hd : ∀ kv ∈ g, kv.1 ≠ d) :
    g.append d label = g ++ [(d, [label])] := by
  rw [GroupedTags.append, if_neg]
  rw [List.any_eq_true]
  rintro ⟨kv, hkv, heq⟩
  exact hd kv hkv (by simpa using heq)

theorem GroupedTags.append_last (hd : ∀ kv ∈ g, kv.1 ≠ d) :
    GroupedTags.append (g ++ [(d, labels)]) d label = g ++ [(d, labels ++ [label])] := by
  rw [GroupedTags.append, if_pos (by simp), List.map_append]
  congr 1
  · conv_rhs => rw [← List.map_id g]
    apply List.map_congr_left
    intro kv hkv
    rw [if_neg (hd kv hkv), id]
  · simp

theorem readTag_grouped (hd : d ∈ tagDimensions) (hlabel : label ≠ "") :
    readTag (d ++ ":" ++ label) = some (d, label) := by
  have hcolon : ∀ d ∈ tagDimensions, d.toList.all (· ≠ ':') = true := by decide
  have htake : ((d ++ ":" ++ label).toList.takeWhile fun c => c ≠ ':') = d.toList := by
    rw [String.toList_append, String.toList_append, List.append_assoc,
      List.takeWhile_append_of_pos]
    · simp
    · intro c hc
      exact List.all_eq_true.mp (hcolon d hd) c hc
  have hparts : partitionColon (d ++ ":" ++ label) = some (d, label) := by
    simp only [partitionColon, htake]
    simp
  rw [readTag, hparts, Option.filter_some, if_pos (by simp [hd, hlabel])]

/-- The labels of one dimension, read after the dimensions before it. -/
theorem readGroupedTags_dimension (hd : d ∈ tagDimensions) (hg : ∀ kv ∈ g, kv.1 ≠ d)
    (hlabels : ∀ label ∈ labels, label ≠ "") :
    (labels.map fun label => d ++ ":" ++ label).foldlM
      (fun g tag => (readTag tag).map fun p => g.append p.1 p.2) g =
      some (if labels = [] then g else g ++ [(d, labels)]) := by
  have hrest : ∀ rest read : List String, (∀ label ∈ rest, label ≠ "") →
      (rest.map fun label => d ++ ":" ++ label).foldlM
        (fun g tag => (readTag tag).map fun p => g.append p.1 p.2) (g ++ [(d, read)]) =
        some (g ++ [(d, read ++ rest)]) := by
    intro rest
    induction rest with
    | nil =>
      intro read _
      rw [List.append_nil]
      rfl
    | cons label rest ih =>
      intro read hne
      rw [List.map_cons, List.foldlM_cons, readTag_grouped hd (hne label List.mem_cons_self)]
      show List.foldlM _ (GroupedTags.append _ d label) _ = _
      rw [GroupedTags.append_last hg, ih _ fun l hl => hne l (List.mem_cons_of_mem _ hl),
        List.append_assoc, List.singleton_append]
  cases labels with
  | nil => rfl
  | cons label rest =>
    rw [List.map_cons, List.foldlM_cons, readTag_grouped hd (hlabels label List.mem_cons_self),
      if_neg (List.cons_ne_nil _ _)]
    show List.foldlM _ (GroupedTags.append _ d label) _ = _
    rw [GroupedTags.append_new hg, hrest rest [label]
      fun l hl => hlabels l (List.mem_cons_of_mem _ hl), List.singleton_append]

theorem readGroupedTags_flattened {labels : String → List String}
    (hlabels : ∀ d ∈ tagDimensions, ∀ label ∈ labels d, label ≠ "") :
    readGroupedTags (flattened labels tagDimensions) = some (groupedBy labels tagDimensions) := by
  have hfold : ∀ (dimensions : List String) (g : GroupedTags), dimensions.Nodup →
      (∀ d ∈ dimensions, d ∈ tagDimensions) → (∀ kv ∈ g, kv.1 ∉ dimensions) →
      (flattened labels dimensions).foldlM
        (fun g tag => (readTag tag).map fun p => g.append p.1 p.2) g =
        some (g ++ groupedBy labels dimensions) := by
    intro dimensions
    induction dimensions with
    | nil =>
      intro g _ _ _
      simp [flattened, groupedBy]
    | cons d dimensions ih =>
      intro g hnodup hsub hg
      rw [List.nodup_cons] at hnodup
      have hd := hsub d List.mem_cons_self
      rw [flattened, List.flatMap_cons, List.foldlM_append, readGroupedTags_dimension hd
        (fun kv hkv heq => hg kv hkv (heq ▸ List.mem_cons_self)) (hlabels d hd), Option.bind_eq_bind,
        Option.bind_some]
      have hstart : ∀ kv ∈ (if labels d = [] then g else g ++ [(d, labels d)]),
          kv.1 ∉ dimensions := by
        intro kv hkv
        split_ifs at hkv
        · exact fun hmem => hg kv hkv (List.mem_cons_of_mem _ hmem)
        · obtain hkv | hkv := List.mem_append.mp hkv
          · exact fun hmem => hg kv hkv (List.mem_cons_of_mem _ hmem)
          · rw [List.mem_singleton.mp hkv]
            exact hnodup.1
      have htail := ih _ hnodup.2 (fun x hx => hsub x (List.mem_cons_of_mem _ hx)) hstart
      rw [flattened] at htail
      rw [htail, groupedBy, groupedBy, List.filterMap_cons]
      by_cases hempty : labels d = [] <;> simp [hempty]
  exact hfold tagDimensions [] (by decide) (fun _ hd => hd) (by simp)

theorem ReadsLabels.text {value : Dict} (hr : ReadsLabels cfg value d labels) :
    ∀ label ∈ labels, ∃ item, text cfg item "tag" 40 true = .ok label := by
  obtain ⟨raw, hraw, hall⟩ := hr
  clear hraw
  induction hall with
  | nil => simp
  | cons hitem _ ih =>
    intro label hlabel
    obtain rfl | hlabel := List.mem_cons.mp hlabel
    · exact ⟨_, hitem⟩
    · exact ih label hlabel

theorem ReadsLabels.ne {value : Dict} (hr : ReadsLabels cfg value d labels) :
    ∀ label ∈ labels, label ≠ "" := by
  intro label hlabel
  obtain ⟨item, htext⟩ := hr.text label hlabel
  exact text_ne htext

/-- The grouped tags of a document are those that were written. -/
theorem readGroupedTags_normalize {value : Json}
    (hs : normalizeGroupedTags cfg value = .ok result) :
    readGroupedTags result.1 = some result.2 := by
  obtain ⟨items, labels, _, hlabels, rfl⟩ := normalizeGroupedTags_ok hs
  exact readGroupedTags_flattened fun d hd => (hlabels d hd).ne

/-! ### Normal forms -/

/-- The items of the document of grouped tags. -/
def GroupedTags.items (g : GroupedTags) : Dict := g.map fun kv => (kv.1, .arr (kv.2.map .str))

theorem groupedBy_has {labels : String → List String} :
    (groupedBy labels dimensions).items.has d = true ↔ d ∈ dimensions ∧ labels d ≠ [] := by
  simp only [Dict.has, GroupedTags.items, List.contains_eq_mem, decide_eq_true_eq, List.map_map,
    List.mem_map, groupedBy, List.mem_filterMap, Function.comp_apply]
  constructor
  · rintro ⟨kv, ⟨x, hx, hkv⟩, rfl⟩
    split_ifs at hkv with hempty
    cases hkv
    exact ⟨hx, hempty⟩
  · rintro ⟨hd, hne⟩
    exact ⟨(d, labels d), ⟨d, hd, if_neg hne⟩, rfl⟩

theorem groupedBy_get {labels : String → List String} (hnodup : dimensions.Nodup)
    (hd : d ∈ dimensions) (hne : labels d ≠ []) :
    (groupedBy labels dimensions).items.get d = .arr ((labels d).map .str) := by
  induction dimensions with
  | nil => cases hd
  | cons x dimensions ih =>
    rw [List.nodup_cons] at hnodup
    obtain rfl | hd := List.mem_cons.mp hd
    · rw [groupedBy, List.filterMap_cons, if_neg hne, GroupedTags.items, List.map_cons,
        Dict.get_cons, if_pos rfl]
    · have hx : d ≠ x := fun heq => hnodup.1 (heq ▸ hd)
      have htail := ih hnodup.2 hd
      rw [groupedBy, List.filterMap_cons]
      by_cases hempty : labels x = []
      · rw [if_pos hempty]
        exact htail
      · rw [if_neg hempty, GroupedTags.items, List.map_cons, Dict.get_cons, if_neg hx]
        exact htail

/-- Grouped tags that were read once are read as they are. -/
theorem normalizeGroupedTags_document (hU : cfg.unicode.Lawful) {value : Json}
    {result' : List String × GroupedTags} (hs : normalizeGroupedTags cfg value = .ok result)
    (hs' : normalizeGroupedTags cfg result.2.document = .ok result') : result' = result := by
  obtain ⟨items, labels, _, hlabels, rfl⟩ := normalizeGroupedTags_ok hs
  obtain ⟨items', labels', heq, hlabels', rfl⟩ := normalizeGroupedTags_ok hs'
  obtain rfl : (groupedBy labels tagDimensions).items = items' := by
    injection heq
  have hsame : ∀ d ∈ tagDimensions, labels' d = labels d := by
    intro d hd
    obtain ⟨raw, hraw, hall⟩ := hlabels' d hd
    have hfixed : ∀ (own own' : List String),
        (∀ label ∈ own, ∃ item, text cfg item "tag" 40 true = .ok label) →
        List.Forall₂ (fun item label => text cfg item "tag" 40 true = .ok label)
          (own.map .str) own' → own' = own := by
      intro own
      induction own with
      | nil =>
        intro own' _ hall
        cases hall
        rfl
      | cons label own ih =>
        intro own' htext hall
        rw [List.map_cons] at hall
        cases hall with
        | cons hlabel hall =>
          obtain ⟨item, hitem⟩ := htext label List.mem_cons_self
          rw [text_text hU hitem] at hlabel
          rw [Except.ok.inj hlabel, ih _ (fun l hl => htext l (List.mem_cons_of_mem _ hl)) hall]
    by_cases hempty : labels d = []
    · have hno : ¬ (groupedBy labels tagDimensions).items.has d = true :=
        fun hhas => (groupedBy_has.mp hhas).2 hempty
      rw [if_neg hno] at hraw
      cases hraw
      rw [hempty, List.forall₂_nil_left_iff.mp hall]
    · rw [if_pos (groupedBy_has.mpr ⟨hd, hempty⟩), groupedBy_get (by decide) hd hempty] at hraw
      cases hraw
      exact hfixed _ _ (hlabels d hd).text hall
  rw [Prod.mk.injEq, flattened, flattened, groupedBy, groupedBy]
  constructor
  · exact List.flatMap_congr fun d hd => by rw [hsame d hd]
  · exact List.filterMap_congr fun d hd => by rw [hsame d hd]

end HomeAddons.Renovation
