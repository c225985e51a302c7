import HomeAddons.Common.Canonical
import HomeAddons.Renovation.Tags
import HomeAddons.Renovation.Versions

/-!
# Renovation Hub: patches and the rounds of an apply

* `Mutation.Clean`: what `_clean_mutation_patch` establishes of a patch.
* `Hub.applyContext_items`: the context that an apply leaves is the one of the candidate.
-/

namespace HomeAddons.Renovation

open HomeAddons.Common

/-! ## Clean patches -/

/-- What is known of the fields of a patch that was read from a request. -/
structure Mutation.Clean (cfg : Config) (u : Mutation) : Prop where
  nodup : (u.patch.map Prod.fst).Nodup
  patchable : ∀ f, u.patch.has f = true → f ∈ u.targetType.patchable
  read : ∀ f, u.patch.has f = true →
    ∃ raw, cleanMutationValue cfg u.targetType f raw = .ok (u.patch.get f)
  oneOfTags : ¬ (u.patch.has "tags" = true ∧ u.patch.has "grouped_tags" = true)

variable {cfg : Config}

variable {targetType : TargetType} {patch : Dict} {f : String} {raw v : Json}

theorem cleanMutationPatch_ok {value : Json}
    (hs : cleanMutationPatch cfg targetType value = .ok patch) :
    Mutation.Clean cfg ⟨targetType, [], "", patch⟩ := by
  simp only [cleanMutationPatch, bind_eq_ok, orRaise_eq_ok, ensure_eq_ok] at hs
  obtain ⟨raw, _, _, _, _, hknown, _, htags, hfold⟩ := hs
  have hfields := foldlM_ok (P := fun clean : Dict => (clean.map Prod.fst).Nodup ∧
      (∀ f, clean.has f = true → f ∈ raw.map Prod.fst ∧
        ∃ given, cleanMutationValue cfg targetType f given = .ok (clean.get f)))
    (fun item hitem clean clean' hclean hround => by
      simp only [cleanMutationField, map_eq_ok] at hround
      obtain ⟨v, hv, rfl⟩ := hround
      refine ⟨Dict.nodup_assigned hclean.1, ?_⟩
      intro f hf
      by_cases heq : f = item.1
      · subst heq
        rw [Dict.get_assigned_self]
        exact ⟨List.mem_map_of_mem hitem, item.2, hv⟩
      · rw [Dict.get_assigned heq]
        exact hclean.2 f ((Dict.has_assigned.mp hf).resolve_right heq))
    ⟨by simp, by simp [Dict.has]⟩ hfold
  refine ⟨hfields.1, ?_, fun f hf => (hfields.2 f hf).2, ?_⟩
  · intro f hf
    have hmem := (hfields.2 f hf).1
    by_contra hno
    exact List.filter_eq_nil_iff.mp hknown f hmem (by simpa using hno)
  · rintro ⟨htag, hgroup⟩
    refine htags ⟨?_, ?_⟩
    · exact Dict.has_iff.mpr (hfields.2 _ htag).1
    · exact Dict.has_iff.mpr (hfields.2 _ hgroup).1

theorem mutation_clean {payload : Dict} {u : Mutation} (hu : mutation cfg payload = .ok u) :
    u.Clean cfg := by
  simp only [mutation, bind_eq_ok, pure_eq_ok] at hu
  obtain ⟨_, _, _, _, _, _, _, hpatch, rfl⟩ := hu
  obtain ⟨h₁, h₂, h₃, h₄⟩ := cleanMutationPatch_ok hpatch
  exact ⟨h₁, h₂, h₃, h₄⟩

theorem exactItems_str (texts : List String) : exactItems (texts.map .str) = true := by
  rw [exactItems_iff]
  intro v hv
  obtain ⟨s, _, rfl⟩ := List.mem_map.mp hv
  rfl

theorem GroupedTags.document_exact (g : GroupedTags) : g.document.exact = true := by
  rw [GroupedTags.document, Json.exact, exactPairs_iff]
  intro kv hkv
  obtain ⟨x, _, rfl⟩ := List.mem_map.mp hkv
  exact exactItems_str x.2

theorem optionalStr_exact (x : Option String) : (optionalStr x).exact = true := by
  cases x <;> rfl

/-- A clean value is no `float` and has none in it. -/
theorem cleanMutationValue_exact (hs : cleanMutationValue cfg targetType f raw = .ok v) :
    v.exact = true := by
  unfold cleanMutationValue at hs
  split at hs <;> try split_ifs at hs
  all_goals first
    | (simp only [map_eq_ok] at hs
       obtain ⟨x, _, rfl⟩ := hs
       first
         | rfl
         | exact optionalStr_exact _
         | exact exactItems_str _
         | exact GroupedTags.document_exact _)
    | cases hs <;> rfl

/-- A clean value of an object is a value of a column. -/
theorem cleanMutationValue_column (htype : targetType ≠ .transaction)
    (hf : f ∈ targetType.patchable) (hs : cleanMutationValue cfg targetType f raw = .ok v) :
    ∃ c : Column, v = c.json := by
  unfold cleanMutationValue at hs
  split at hs <;> try split_ifs at hs
  all_goals first
    | (simp only [map_eq_ok] at hs
       obtain ⟨x, _, rfl⟩ := hs
       first
         | exact ⟨.int _, rfl⟩
         | exact ⟨.text _, rfl⟩
         | (cases x
            · exact ⟨.null, rfl⟩
            · exact ⟨.text _, rfl⟩)
         | (exfalso
            cases targetType <;> simp_all [TargetType.patchable]))
    | (cases hs
       exact ⟨.null, rfl⟩)
    | cases hs

section Values

variable {u : Mutation} {f : String}

/-- The values of a clean patch of a transaction, by what is stored for them. -/
theorem Mutation.Clean.int (hu : u.Clean cfg) (hf : u.patch.has "amount_cents" = true) :
    ∃ n, u.patch.get "amount_cents" = .int n := by
  obtain ⟨raw, hraw⟩ := hu.read _ hf
  obtain ⟨n, _, hn⟩ := map_eq_ok.mp hraw
  exact ⟨n, hn.symm⟩

theorem Mutation.Clean.bool (hu : u.Clean cfg) (hf : u.patch.has "is_deposit" = true) :
    ∃ b, u.patch.get "is_deposit" = .bool b := by
  obtain ⟨raw, hraw⟩ := hu.read _ hf
  obtain ⟨b, _, hb⟩ := map_eq_ok.mp hraw
  exact ⟨b, hb.symm⟩

theorem Mutation.Clean.str (hu : u.Clean cfg) (hf : u.patch.has f = true)
    (hmem : f ∈ ["occurred_on", "main_category", "merchant", "note"]) :
    ∃ s, u.patch.get f = .str s := by
  obtain ⟨raw, hraw⟩ := hu.read _ hf
  simp only [List.mem_cons, List.not_mem_nil, or_false] at hmem
  rcases hmem with rfl | rfl | rfl | rfl <;>
  · obtain ⟨s, _, hs⟩ := map_eq_ok.mp hraw
    exact ⟨s, hs.symm⟩

theorem Mutation.Clean.tags (hu : u.Clean cfg) (hf : u.patch.has "tags" = true) :
    ∃ tags : List String, u.patch.get "tags" = .arr (tags.map .str) := by
  obtain ⟨raw, hraw⟩ := hu.read _ hf
  obtain ⟨tags, _, htags⟩ := map_eq_ok.mp hraw
  exact ⟨tags, htags.symm⟩

theorem Mutation.Clean.groupedTags (hu : u.Clean cfg) (hf : u.patch.has "grouped_tags" = true) :
    ∃ raw result, normalizeGroupedTags cfg raw = .ok result ∧
      u.patch.get "grouped_tags" = result.2.document := by
  obtain ⟨raw, hraw⟩ := hu.read _ hf
  obtain ⟨result, hresult, heq⟩ := map_eq_ok.mp hraw
  exact ⟨raw, result, hresult, heq.symm⟩

/-- A field of the context of a transaction. -/
theorem cleanMutationValue_context {targetType : TargetType} {raw : Json}
    (htype : targetType = .transaction) (hmem : f ∈ contextFields) :
    cleanMutationValue cfg targetType f raw = optionalStr <$> optionalId cfg raw f := by
  simp only [contextFields, List.mem_cons, List.not_mem_nil, or_false] at hmem
  obtain rfl | rfl | rfl := hmem <;>
  · exact if_pos (.inl htype)

theorem Mutation.Clean.context (hu : u.Clean cfg) (htype : u.targetType = .transaction)
    (hf : u.patch.has f = true) (hmem : f ∈ contextFields) :
    ∃ x : Option String, u.patch.get f = optionalStr x ∧ x ≠ some "" := by
  obtain ⟨raw, hraw⟩ := hu.read _ hf
  rw [cleanMutationValue_context htype hmem, map_eq_ok] at hraw
  obtain ⟨x, hx, heq⟩ := hraw
  refine ⟨x, heq.symm, ?_⟩
  rintro rfl
  unfold optionalId at hx
  split_ifs at hx
  · cases hx
  · simp only [map_eq_ok, Option.some.injEq] at hx
    obtain ⟨s, hs, rfl⟩ := hx
    exact text_ne hs rfl

end Values

/-! ## The context of a target -/

/-- No context names an empty stage or area. -/
def Hub.Tidy (h : Hub) : Prop :=
  ∀ id context, h.contexts.get? id = some context →
    context.stageId ≠ some "" ∧ context.areaId ≠ some ""

variable {h : Hub} {u : Mutation}

theorem contextItems_get {context : Option Context} (hf : f ∈ contextFields)
    (htidy : ∀ c, context = some c → c.stageId ≠ some "" ∧ c.areaId ≠ some "") :
    ∃ x : Option String, (contextItems context).get f = optionalStr x ∧
      (f ≠ "project_id" → x ≠ some "") := by
  cases context with
  | none => exact ⟨none, rfl, by simp⟩
  | some c =>
    obtain ⟨hstage, harea⟩ := htidy c rfl
    simp only [contextFields, List.mem_cons, List.not_mem_nil, or_false] at hf
    rcases hf with rfl | rfl | rfl
    · exact ⟨some c.projectId, rfl, by simp⟩
    · exact ⟨c.stageId, rfl, fun _ => hstage⟩
    · exact ⟨c.areaId, rfl, fun _ => harea⟩

theorem picked_get {context : Option Context} {f : String} (hu : u.Clean cfg)
    (htype : u.targetType = .transaction) (hf : f ∈ contextFields)
    (htidy : ∀ c, context = some c → c.stageId ≠ some "" ∧ c.areaId ≠ some "") :
    ∃ x : Option String, picked u.patch (contextItems context) f = optionalStr x ∧
      (f ≠ "project_id" → x ≠ some "") := by
  unfold picked
  split_ifs with hhas
  · obtain ⟨x, hx, hne⟩ := hu.context htype hhas hf
    exact ⟨x, hx, fun _ => hne⟩
  · exact contextItems_get hf htidy

section Candidate

variable {context : Option Context} {before : Dict} {candidate : Json} {f : String}
  (hu : u.Clean cfg) (htype : u.targetType = .transaction)
  (htidy : ∀ c, context = some c → c.stageId ≠ some "" ∧ c.areaId ≠ some "")
  (hbefore : contextOf before = contextItems context)
  (hs : candidateContext before u.patch = .ok candidate)

include hu htype htidy hbefore hs

/-- The candidate has the context fields of the patch and, beyond them, those of the context
    before; without a project it is `None`. -/
theorem candidateContext_get :
    (∀ f ∈ contextFields, (candidate.asDict?.getD []).get f =
      picked u.patch (contextItems context) f) ∧
    (candidate = .null ∨
      ∃ items p, candidate = .obj items ∧ Dict.get items "project_id" = .str p) := by
  obtain ⟨project, hproject, _⟩ := picked_get (f := "project_id") hu htype (by decide) htidy
  obtain ⟨stage, hstage, hstage'⟩ := picked_get (f := "stage_id") hu htype (by decide) htidy
  obtain ⟨area, harea, harea'⟩ := picked_get (f := "area_id") hu htype (by decide) htidy
  unfold candidateContext at hs
  rw [hbefore] at hs
  dsimp only at hs
  by_cases hfields : (u.patch.any fun kv => kv.1 ∈ contextFields) = true
  · rw [if_pos hfields, bind_eq_ok] at hs
    obtain ⟨_, hcond, hs⟩ := hs
    rw [ensure_eq_ok, hproject, hstage, harea] at hcond
    cases project with
    | none =>
      rw [hproject] at hs
      cases hs
      -- without a project there is neither a stage nor an area
      have hstage₀ : stage = none := by
        cases stage with
        | none => rfl
        | some s => exact absurd ⟨rfl, .inl (by simpa [optionalStr, truthy] using hstage')⟩ hcond
      have harea₀ : area = none := by
        cases area with
        | none => rfl
        | some s => exact absurd ⟨rfl, .inr (by simpa [optionalStr, truthy] using harea')⟩ hcond
      refine ⟨fun g hg => ?_, .inl rfl⟩
      simp only [contextFields, List.mem_cons, List.not_mem_nil, or_false] at hg
      rcases hg with rfl | rfl | rfl
      · rw [hproject]
        rfl
      · rw [hstage, hstage₀]
        rfl
      · rw [harea, harea₀]
        rfl
    | some p =>
      rw [if_neg (by simp [hproject, optionalStr, Json.isNull]), pure_eq_ok] at hs
      subst hs
      refine ⟨fun g hg => ?_, .inr ⟨_, p, rfl, hproject⟩⟩
      simp only [contextFields, List.mem_cons, List.not_mem_nil, or_false] at hg
      rcases hg with rfl | rfl | rfl <;> rfl
  · rw [if_neg hfields] at hs
    have hpick : ∀ g ∈ contextFields, picked u.patch (contextItems context) g =
        (contextItems context).get g := by
      intro g hg
      rw [picked, if_neg]
      rw [Dict.has_iff]
      intro hmem
      obtain ⟨kv, hkv, rfl⟩ := List.mem_map.mp hmem
      exact hfields (List.any_eq_true.mpr ⟨kv, hkv, by simpa using hg⟩)
    cases context with
    | none =>
      cases hs
      refine ⟨fun g hg => ?_, .inl rfl⟩
      rw [hpick g hg]
      rfl
    | some c =>
      rw [if_neg (show contextItems (some c) ≠ [] from List.cons_ne_nil _ _), pure_eq_ok] at hs
      subst hs
      have hget : ∀ g ∈ contextFields, Dict.get (Dict.assigned (contextItems (some c)) "version"
          (raisedVersion (contextItems (some c)))) g = (contextItems (some c)).get g := by
        intro g hg
        refine Dict.get_assigned ?_
        rintro rfl
        revert hg
        decide
      refine ⟨fun g hg => (hget g hg).trans (hpick g hg).symm, .inr ⟨_, c.projectId, rfl, ?_⟩⟩
      exact hget "project_id" (by decide)

/-- The context that an apply leaves is that of the candidate. -/
theorem Hub.applyContext_items {id now : String} (hf : f ∈ contextFields) :
    (contextItems ((h.applyContext id candidate now).contexts.get? id)).get f =
      picked u.patch (contextItems context) f := by
  obtain ⟨hget, rfl | ⟨items, p, rfl, hp⟩⟩ := candidateContext_get hu htype htidy hbefore hs
  · simp only [Hub.applyContext, Table.get?_erase, if_true]
    exact hget f hf
  · obtain ⟨stage, hstage, _⟩ := picked_get (f := "stage_id") hu htype (by decide) htidy
    obtain ⟨area, harea, _⟩ := picked_get (f := "area_id") hu htype (by decide) htidy
    have hstage₁ := (hget "stage_id" (by decide)).trans hstage
    have harea₁ := (hget "area_id" (by decide)).trans harea
    simp only [Json.asDict?, Option.getD_some] at hstage₁ harea₁ hget
    rw [← hget f hf]
    simp only [Hub.applyContext, Table.get?_upsert, if_true]
    simp only [contextFields, List.mem_cons, List.not_mem_nil, or_false] at hf
    rcases hf with rfl | rfl | rfl
    · rw [hp]
      rfl
    · rw [hstage₁]
      cases stage <;> rfl
    · rw [harea₁]
      cases area <;> rfl

end Candidate

/-! ## The rounds of an apply -/

/-- The tags that an apply of the patch gives to its targets. -/
def tagsWritten (cfg : Config) (patch : Dict) : Option (FormatVersion × List String) :=
  if patch.has "tags" then
    some (.v1, ((patch.get "tags").asList?.getD []).filterMap Json.asStr?)
  else if patch.has "grouped_tags" then
    (normalizeGroupedTags cfg (patch.get "grouped_tags")).toOption.map fun result => (.v2, result.1)
  else none

theorem tagsWritten_eq_none (htags : ¬ patch.has "tags" = true)
    (hgrouped : ¬ patch.has "grouped_tags" = true) : tagsWritten cfg patch = none := by
  rw [tagsWritten, if_neg htags, if_neg hgrouped]

section Rounds

variable {h' : Hub} {env : Env} {actorHash key p : String}

theorem Hub.applyTags_ok {id : String} {now : ℕ → String} (hu : u.Clean cfg)
    (hs : h.applyTags cfg id u.patch now = .ok h') :
    (¬ u.patch.has "tags" = true ∧ ¬ u.patch.has "grouped_tags" = true ∧ h' = h) ∨
      ∃ v tags, tagsWritten cfg u.patch = some (v, tags) ∧ h.setTags cfg id tags v now = .ok h' := by
  unfold Hub.applyTags at hs
  dsimp only at hs
  unfold tagsWritten
  by_cases htags : u.patch.has "tags" = true
  · have hgrouped : ¬ u.patch.has "grouped_tags" = true := fun hg => hu.oneOfTags ⟨htags, hg⟩
    rw [if_pos htags] at hs
    obtain ⟨h₁, hs₁, hs⟩ := bind_eq_ok.mp hs
    rw [if_neg hgrouped] at hs
    cases hs
    exact .inr ⟨_, _, if_pos htags, hs₁⟩
  · rw [if_neg htags] at hs ⊢
    by_cases hgrouped : u.patch.has "grouped_tags" = true
    · simp only [pure_bind] at hs
      rw [if_pos hgrouped] at hs ⊢
      obtain ⟨result, hresult, hs⟩ := bind_eq_ok.mp hs
      exact .inr ⟨.v2, result.1, by rw [hresult]; rfl, hs⟩
    · simp only [pure_bind] at hs
      rw [if_neg hgrouped] at hs ⊢
      cases hs
      exact .inl ⟨htags, hgrouped, rfl⟩

/-- What the document of a transaction is made of, the spelling of its tags apart. -/
structure Hub.SameView (h h' : Hub) (p : String) : Prop where
  row : h'.transactions.get? p = h.transactions.get? p
  context : h'.contexts.get? p = h.contexts.get? p
  links : h'.linksOf p = h.linksOf p

/-- What is known of a transaction `p` after rounds of other targets. -/
structure Untouched (cfg : Config) (patch : Dict) (h h' : Hub) (p : String) : Prop where
  view : h.SameView h' p
  spelling : tagsWritten cfg patch = none → h'.tags = h.tags
  tagged : ∀ v tags, tagsWritten cfg patch = some (v, tags) → h.Tagged cfg p v tags →
    h'.Tagged cfg p v tags

theorem Untouched.refl (patch : Dict) (h : Hub) : Untouched cfg patch h h p :=
  ⟨⟨rfl, rfl, rfl⟩, fun _ => rfl, fun _ _ _ hc => hc⟩

theorem Untouched.trans {patch : Dict} {h₁ h₂ : Hub} (hd : Untouched cfg patch h h₁ p)
    (hd' : Untouched cfg patch h₁ h₂ p) : Untouched cfg patch h h₂ p where
  view := ⟨hd'.view.row.trans hd.view.row, hd'.view.context.trans hd.view.context,
    hd'.view.links.trans hd.view.links⟩
  spelling hno := (hd'.spelling hno).trans (hd.spelling hno)
  tagged v tags hw hc := hd'.tagged v tags hw (hd.tagged v tags hw hc)

variable {item : MutationItem} {after : Dict} {acc acc' : Hub × List Dict}

/-- The tags that the round of a transaction writes. -/
theorem applyTransaction_tags (hu : u.Clean cfg)
    (hs : applyTransaction cfg env actorHash key u item h = .ok (h', after)) :
    (¬ u.patch.has "tags" = true ∧ ¬ u.patch.has "grouped_tags" = true ∧ h'.tags = h.tags ∧
        h'.tagLinks = h.tagLinks) ∨
      ∃ v tags h₀ h₁ now, tagsWritten cfg u.patch = some (v, tags) ∧
        h₀.tags = h.tags ∧ h₀.tagLinks = h.tagLinks ∧
        Hub.setTags cfg h₀ item.id tags v now = .ok h₁ ∧
        h'.tags = h₁.tags ∧ h'.tagLinks = h₁.tagLinks := by
  simp only [applyTransaction, bind_eq_ok, orRaise_eq_ok, pure_eq_ok, Prod.mk.injEq] at hs
  obtain ⟨row, hrow, h₁, hs₁, _, _, rfl, _⟩ := hs
  rw [Hub.applyContext_frame]
  obtain ⟨hno, hno', rfl⟩ | ⟨v, tags, hwritten, hs₁⟩ := Hub.applyTags_ok hu hs₁
  · exact .inl ⟨hno, hno', rfl, rfl⟩
  · exact .inr ⟨v, tags, h.setTransaction item.id (Transaction.patched u.patch (env.now 0))
      (Transaction.patched_id _ _), h₁, _, hwritten, rfl, rfl, hs₁, rfl, rfl⟩

theorem applyTransaction_untouched (hu : u.Clean cfg) (hp : p ≠ item.id)
    (hs : applyTransaction cfg env actorHash key u item h = .ok (h', after)) :
    Untouched cfg u.patch h h' p := by
  have hrow : h'.transactions.get? p = h.transactions.get? p ∧
      h'.contexts.get? p = h.contexts.get? p := by
    obtain ⟨row, _, heq, _⟩ := applyTransaction_ok hs
    rw [heq]
    exact ⟨Table.get?_update_of_ne _ hp _ (Transaction.patched_id _ _),
      Hub.applyContext_get?_of_ne hp⟩
  obtain ⟨hno, hno', htags, hlinks⟩ | ⟨v, tags, h₀, h₁, now, hw, ht₀, hl₀, hs₁, ht₁, hl₁⟩ :=
    applyTransaction_tags hu hs
  · refine ⟨⟨hrow.1, hrow.2, ?_⟩, fun _ => htags, fun v tags hw _ => ?_⟩
    · rw [Hub.linksOf, hlinks, Hub.linksOf]
    · rw [tagsWritten_eq_none hno hno'] at hw
      cases hw
  · have hlinks : h'.linksOf p = h.linksOf p := by
      have := Hub.setTags_links_of_ne hs₁ hp
      rwa [Hub.linksOf, ← hl₁, Hub.linksOf, hl₀] at this
    refine ⟨⟨hrow.1, hrow.2, hlinks⟩, fun hno => ?_, fun v' tags' hw' hc => ?_⟩
    · rw [hno] at hw
      cases hw
    · rw [hw] at hw'
      cases hw'
      refine ⟨by rw [hlinks]; exact hc.links, ?_⟩
      rw [ht₁]
      exact (Hub.setTags_tagged hs₁).spelled

theorem applyItem_untouched (hu : u.Clean cfg) (htype : u.targetType = .transaction)
    (hp : p ≠ item.id) (hs : applyItem cfg env actorHash key u acc item = .ok acc') :
    Untouched cfg u.patch acc.1 acc'.1 p := by
  obtain ⟨after, hs⟩ := applyItem_transaction htype hs
  exact applyTransaction_untouched hu hp hs

theorem applyItems_untouched {items : List MutationItem} (hu : u.Clean cfg)
    (htype : u.targetType = .transaction) (hp : ∀ item ∈ items, p ≠ item.id)
    (hfold : items.foldlM (applyItem cfg env actorHash key u) acc = .ok acc') :
    Untouched cfg u.patch acc.1 acc'.1 p :=
  foldlM_ok (P := fun acc₁ => Untouched cfg u.patch acc.1 acc₁.1 p)
    (fun item hitem _ _ hd hround => hd.trans (applyItem_untouched hu htype (hp item hitem) hround))
    (.refl _ _) hfold

end Rounds

end HomeAddons.Renovation
