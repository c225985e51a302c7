import HomeAddons.Desktop.Snapshots

/-!
# Codex Desktop: what a refresh may say

A snapshot that is taken in the place of one of the same revision does not go back, and does not
say that a thread can be controlled again when its control revision is the same.

* `Continues`: how the body that is taken goes on from the one that is there.
* `sameRevisionRefresh_continues`, `mappingChanges_continues`, `latchedBody_continues`: it does.
* `verdict_continues`: what is taken of a snapshot of a known thread.
-/

namespace HomeAddons.Desktop

open HomeAddons.Common

/-- A nullable column does not go back: `NULL` comes before every value. -/
def NotBefore {α : Type} [LE α] (x y : Option α) : Prop := ∀ a ∈ x, ∃ b ∈ y, a ≤ b

variable {α : Type}

theorem NotBefore.refl [Preorder α] (x : Option α) : NotBefore x x :=
  fun a ha => ⟨a, ha, le_refl a⟩

theorem NotBefore.none [LE α] (y : Option α) : NotBefore none y :=
  fun _ ha => nomatch ha

theorem NotBefore.trans [Preorder α] {x y z : Option α} (h : NotBefore x y) (h' : NotBefore y z) :
    NotBefore x z := by
  intro a ha
  obtain ⟨b, hb, hab⟩ := h a ha
  obtain ⟨c, hc, hbc⟩ := h' b hb
  exact ⟨c, hc, hab.trans hbc⟩

theorem NotBefore.antisymm {α : Type} [PartialOrder α] {x y : Option α} (h : NotBefore x y)
    (h' : NotBefore y x) : x = y := by
  cases x with
  | none =>
    cases y with
    | none => rfl
    | some b =>
      obtain ⟨a, ha, -⟩ := h' b rfl
      cases ha
  | some a =>
    obtain ⟨b, rfl, hab⟩ := h a rfl
    obtain ⟨c, hc, hba⟩ := h' b rfl
    cases hc
    rw [le_antisymm hab hba]

/-- The state that a body says is one in which a thread can be controlled. -/
def Ready (state : String) : Prop := state = "ready"

instance (state : String) : Decidable (Ready state) := inferInstanceAs (Decidable (state = _))

/-- The control revision of a body does not go back, and as long as it is the same a thread does not
    become ready. -/
def Continues (existing incoming : Dict) : Prop :=
  NotBefore (controlOf existing) (controlOf incoming) ∧
    (controlOf incoming = controlOf existing → Ready (stateOf incoming) → Ready (stateOf existing))

section Bodies

variable {existing incoming body host : Dict} {field : String}

theorem validControl_state (h : validControl body = true) :
    ∃ state, body.get "control_state" = .str state := by
  rw [validControl, Bool.and_eq_true] at h
  obtain ⟨state, hstate, -⟩ := (Option.any_eq_true _ _).mp h.2
  refine ⟨state, ?_⟩
  unfold Json.asStr? at hstate
  split at hstate
  · next heq =>
    cases hstate
    exact heq
  · cases hstate

theorem validControl_revision (h : validControl body = true) :
    body.get "control_revision" = .null ∨ ∃ n, 0 ≤ n ∧ body.get "control_revision" = .int n := by
  rw [validControl, Bool.and_eq_true, Bool.or_eq_true] at h
  obtain hnull | hrevision := h.1
  · unfold Json.isNull at hnull
    split at hnull
    · next heq => exact .inl heq
    · cases hnull
  · unfold revision? at hrevision
    split at hrevision
    · next n heq =>
      split at hrevision
      · next hn => exact .inr ⟨n, hn, heq⟩
      · cases hrevision
    · cases hrevision

theorem stateOf_congr (h : incoming.get "control_state" = existing.get "control_state") :
    stateOf incoming = stateOf existing := by
  rw [stateOf, stateOf, h]

theorem Continues.of_eq (hcontrol : controlOf incoming = controlOf existing)
    (hstate : stateOf incoming = stateOf existing) : Continues existing incoming :=
  ⟨hcontrol ▸ NotBefore.refl _, fun _ hready => hstate ▸ hready⟩

/-- Of the fields that are not among the changes the values are equal. -/
theorem pyEq_of_notMem_controlChanges (h : field ∉ controlChanges existing incoming) :
    (existing.get field).pyEq (incoming.get field) = true := by
  by_cases hfield : field ∈ fieldsOf existing incoming
  · by_contra hne
    refine h (List.mem_filter.mpr ⟨hfield, ?_⟩)
    rw [Bool.not_eq_true] at hne
    rw [hne]
    rfl
  · have hnone : ∀ d : Dict, field ∉ d.map Prod.fst → d.get field = .null := by
      intro d hd
      have hlookup : d.lookup field = none := by
        have hhas : ¬ d.has field = true := fun hhas => hd (List.contains_iff_mem.mp hhas)
        rw [← lookup_isSome, Bool.not_eq_true] at hhas
        exact Option.not_isSome_iff_eq_none.mp (ne_true_of_eq_false hhas)
      rw [Dict.get, hlookup]
      rfl
    rw [fieldsOf, List.mem_append, not_or] at hfield
    rw [hnone _ hfield.1, hnone _ hfield.2]
    rfl

theorem pyEq_of_notMem_mappingChanges (h : field ∉ mappingChanges existing incoming) :
    (existing.get field).pyEq (incoming.get field) = true := by
  refine pyEq_of_notMem_controlChanges fun hmem => h ?_
  obtain ⟨hfield, hne⟩ := List.mem_filter.mp hmem
  refine List.mem_filter.mpr ⟨hfield, ?_⟩
  rw [hne, Bool.or_true]

/-- Equal values of the two fields are the same values. -/
theorem Continues.of_pyEq (he : validControl existing = true) (hi : validControl incoming = true)
    (hcontrol : (existing.get "control_revision").pyEq (incoming.get "control_revision") = true)
    (hstate : (existing.get "control_state").pyEq (incoming.get "control_state") = true) :
    Continues existing incoming := by
  refine Continues.of_eq ?_ (stateOf_congr ?_)
  · unfold controlOf
    obtain hnull | ⟨n, -, hn⟩ := validControl_revision he <;>
      obtain hnull' | ⟨m, -, hm⟩ := validControl_revision hi
    · rw [hnull, hnull']
    · rw [hnull, hm] at hcontrol
      cases hcontrol
    · rw [hn, hnull'] at hcontrol
      cases hcontrol
    · rw [hn, hm] at hcontrol
      have heq : m = n := of_decide_eq_true (by simpa [Json.pyEq, Json.eqBy, Json.pyLeaf,
        Json.eqInt] using hcontrol)
      rw [hn, hm, heq]
  · obtain ⟨state, hs⟩ := validControl_state hi
    rw [hs] at hstate ⊢
    exact (Json.pyEq_str.mp hstate).symm

/-- The same dump. -/
theorem Continues.of_sameDump (h : Json.sameDump (.obj existing) (.obj incoming) = true) :
    Continues existing incoming := by
  refine Continues.of_eq (Json.sameDump_asInt? (sameDump_get h "control_revision")).symm ?_
  have hstate := Json.sameDump_asStr? (sameDump_get h "control_state")
  have hstrOr : ∀ v w : Json, v.asStr? = w.asStr? → strOr v "recovery_required" =
      strOr w "recovery_required" := by
    intro v w hvw
    cases v <;> cases w <;> simp_all [Json.asStr?, strOr]
  rw [stateOf, stateOf, hstrOr _ _ hstate]

/-- In none of the states that say so a thread can be controlled. -/
theorem not_ready_of_inStates {states : List String}
    (hstates : ∀ state ∈ states, ¬ Ready (stateOf [("control_state", .str state)]))
    (h : inStates (body.get "control_state") states = true) : ¬ Ready (stateOf body) := by
  obtain ⟨state, hmem, heq⟩ := List.any_eq_true.mp h
  unfold Json.eqStr at heq
  split at heq
  · next text hget =>
    rw [beq_iff_eq.mp heq] at hget
    rw [@stateOf_congr [("control_state", .str state)] _ hget]
    exact hstates state hmem
  · cases heq

theorem not_ready_of_nonWritable
    (h : inStates (body.get "control_state") nonWritableControlStates = true) :
    ¬ Ready (stateOf body) := not_ready_of_inStates (by decide +kernel) h

theorem not_ready_of_safetyDegraded
    (h : inStates (body.get "control_state") safetyDegradedControlStates = true) :
    ¬ Ready (stateOf body) := not_ready_of_inStates (by decide +kernel) h

/-! ## Refreshes -/

/-- The refreshes that `_same_revision_refresh` takes go on from what is there. -/
theorem sameRevisionRefresh_continues (he : validControl existing = true)
    (hi : validControl incoming = true)
    (h : sameRevisionRefresh existing incoming = some .refreshed) :
    Continues existing incoming := by
  unfold sameRevisionRefresh at h
  extract_lets changed unwritable nullable at h
  have hunwritable : unwritable = true → ¬ Ready (stateOf incoming) := fun hu =>
    not_ready_of_nonWritable (Bool.and_eq_true _ _ ▸ hu).2
  split at h
  · cases h
  split at h
  · next hempty =>
    have hnot : ∀ field, field ∉ controlChanges existing incoming := by
      rw [List.isEmpty_iff] at hempty
      rw [show controlChanges existing incoming = [] from hempty]
      exact fun _ => List.not_mem_nil
    exact Continues.of_pyEq he hi (pyEq_of_notMem_controlChanges (hnot _))
      (pyEq_of_notMem_controlChanges (hnot _))
  split at h
  · next hnull =>
    -- Without a control revision: only between states in which a thread cannot be controlled.
    have hnone : nullable = true → unwritable = true → Continues existing incoming := by
      intro hn hu
      have hexisting : existing.get "control_revision" = .null := by
        obtain heq | ⟨n, -, heq⟩ := validControl_revision he
        · exact heq
        · simp [nullable, heq, Json.isNull] at hn
      refine ⟨?_, fun _ hready => absurd hready (hunwritable hu)⟩
      rw [controlOf, hexisting]
      exact NotBefore.none _
    split at h
    · next hcond =>
      simp only [Bool.and_eq_true] at hcond
      exact hnone hcond.1.1.1 hcond.1.2
    split at h
    · next hcond =>
      simp only [Bool.and_eq_true] at hcond
      exact hnone hcond.1.1 hcond.2
    split at h <;> cases h
  · next hnull =>
    split at h
    · cases h
    · next n hn =>
      have hincoming : controlOf incoming = some n := by
        obtain heq | ⟨m, hm, heq⟩ := validControl_revision hi
        · rw [heq] at hn
          cases hn
        · rw [heq, revision?, if_pos hm, Option.some.injEq] at hn
          rw [controlOf, heq, ← hn]
          rfl
      split at h
      · next hnull' =>
        have hexisting : controlOf existing = none := by
          obtain heq | ⟨m, -, heq⟩ := validControl_revision he
          · rw [controlOf, heq]
            rfl
          · rw [heq] at hnull'
            cases hnull'
        refine ⟨hexisting ▸ NotBefore.none _, fun heq => ?_⟩
        rw [hincoming, hexisting] at heq
        cases heq
      split at h
      · cases h
      · next m hm =>
        have hexisting : controlOf existing = some m := by
          obtain heq | ⟨k, hk, heq⟩ := validControl_revision he
          · rw [heq] at hm
            cases hm
          · rw [heq, revision?, if_pos hk, Option.some.injEq] at hm
            rw [controlOf, heq, ← hm]
            rfl
        split at h
        · cases h
        split at h
        · cases h
        · next hlt hne =>
          rw [Continues, hincoming, hexisting]
          refine ⟨fun a ha => ?_, fun heq => absurd (Option.some.inj heq) hne⟩
          cases ha
          exact ⟨n, rfl, by omega⟩

/-- A refresh that only says that control was lost says so. -/
theorem sameRevisionRefresh_latched
    (h : sameRevisionRefresh existing incoming = some .degradedLatched) :
    ¬ Ready (stateOf incoming) := by
  unfold sameRevisionRefresh at h
  extract_lets changed unwritable nullable at h
  split at h
  · cases h
  split at h
  · cases h
  split at h
  · split at h
    · cases h
    split at h
    · cases h
    split at h
    · next hcond =>
      simp only [Bool.and_eq_true] at hcond
      exact not_ready_of_safetyDegraded hcond.2
    · cases h
  · split at h
    · cases h
    split at h
    · cases h
    split at h
    · cases h
    split at h
    · cases h
    split at h <;> cases h

variable {fields : List String} {enriched : Bool}

/-- The fields that are not copied stay. -/
theorem get_copyFields (h : field ∉ fields) :
    (copyFields existing body fields).get field = existing.get field := by
  unfold copyFields
  induction fields generalizing existing with
  | nil => rfl
  | cons f fields ih =>
    rw [List.mem_cons, not_or] at h
    rw [List.foldl_cons, ih h.2, get_assign, if_neg h.1]

theorem Continues.of_copyFields (hrevision : "control_revision" ∉ fields)
    (hstate : "control_state" ∉ fields) (h : Continues (copyFields existing body fields) incoming) :
    Continues existing incoming := by
  have hcontrol : controlOf (copyFields existing body fields) = controlOf existing := by
    rw [controlOf, controlOf, get_copyFields hrevision]
  rw [Continues, hcontrol, stateOf_congr (get_copyFields hstate)] at h
  exact h

theorem validControl_congr
    (hrevision : incoming.get "control_revision" = existing.get "control_revision")
    (hstate : incoming.get "control_state" = existing.get "control_state") :
    validControl incoming = validControl existing := by
  rw [validControl, validControl, hrevision, hstate]

/-- What stays of the old body when only the loss of control is taken. -/
theorem get_latchedBody {enriched : Bool} : (latchedBody existing body enriched).get
      "control_revision" = existing.get "control_revision" ∧
    (latchedBody existing body enriched).get "control_state" = body.get "control_state" := by
  rw [latchedBody, get_assign, get_assign, if_neg (by decide), if_pos rfl]
  refine ⟨?_, rfl⟩
  cases enriched with
  | true => exact get_copyFields (by decide)
  | false => rfl

theorem latchedBody_continues (h : ¬ Ready (stateOf body)) :
    Continues existing (latchedBody existing body enriched) := by
  obtain ⟨hrevision, hstate⟩ := @get_latchedBody existing body enriched
  refine ⟨?_, fun _ hready => ?_⟩
  · rw [controlOf, controlOf, hrevision]
    exact NotBefore.refl _
  · rw [stateOf_congr hstate] at hready
    exact absurd hready h

theorem validControl_latchedBody (he : validControl existing = true)
    (hb : validControl body = true) : validControl (latchedBody existing body enriched) = true := by
  obtain ⟨hrevision, hstate⟩ := @get_latchedBody existing body enriched
  rw [validControl, Bool.and_eq_true] at he hb ⊢
  rw [hrevision, hstate]
  exact ⟨he.1, hb.2⟩

end Bodies

/-! ## Verdicts -/

section Verdicts

variable {t : Thread} {row : Option Snapshot} {d : SnapshotDoc} {sequence seq : Option ℕ}
  {body : Dict} {status : Ingested} {enriched : Bool} {refresh : Option Refresh}

/-- The body that is taken of a snapshot goes on from the one that is there, and only when it is its
    own the thread can be ready. -/
structure GoesOn (t : Thread) (d : SnapshotDoc) (body : Dict) : Prop where
  continues : Continues t.snapshot body
  valid : validControl body = true
  own : Ready (stateOf body) → body = d.body

theorem GoesOn.of_continues (h : Continues t.snapshot d.body) : GoesOn t d d.body :=
  ⟨h, d.valid, fun _ => rfl⟩

/-- So does the one that only says that control was lost. -/
theorem goesOn_latchedBody (ht : validControl t.snapshot = true)
    (h : ¬ Ready (stateOf d.body)) : GoesOn t d (latchedBody t.snapshot d.body enriched) where
  continues := latchedBody_continues h
  valid := validControl_latchedBody ht d.valid
  own hready := by
    rw [stateOf_congr get_latchedBody.2] at hready
    exact absurd hready h

/-- What the end of the comparison takes goes on from what is there. -/
theorem refreshVerdict_continues (ht : validControl t.snapshot = true)
    (hrefreshed : refresh = some .refreshed → Continues t.snapshot d.body)
    (hlatched : refresh = some .degradedLatched → ¬ Ready (stateOf d.body))
    (h : refreshVerdict t d sequence enriched refresh = .ok (.taken seq body status)) :
    status ≠ .stored ∧ seq = sequence ∧ GoesOn t d body := by
  unfold refreshVerdict at h
  split at h
  · cases h
  · cases h
    exact ⟨by decide, rfl, goesOn_latchedBody ht (hlatched rfl)⟩
  · cases h
    exact ⟨by decide, rfl, .of_continues (hrefreshed rfl)⟩
  · split at h
    · next hdump =>
      cases h
      exact ⟨by decide, rfl, .of_continues (Continues.of_sameDump hdump)⟩
    · cases h

/-- The sets of fields that a later sequence may change have no control field. -/
theorem mappingChanges_continues (ht : validControl t.snapshot = true)
    (h : refreshableFields.any fun fields =>
      (mappingChanges t.snapshot d.body).all fields.contains) : Continues t.snapshot d.body := by
  obtain ⟨fields, hfields, hall⟩ := List.any_eq_true.mp h
  have hnot : ∀ field, field ∉ fields → field ∉ mappingChanges t.snapshot d.body :=
    fun field hfield hmem => hfield (List.contains_iff_mem.mp (List.all_eq_true.mp hall field hmem))
  have hcontrol : ∀ fields ∈ refreshableFields,
      "control_revision" ∉ fields ∧ "control_state" ∉ fields := by decide
  obtain ⟨hrevision, hstate⟩ := hcontrol fields hfields
  exact Continues.of_pyEq ht d.valid (pyEq_of_notMem_mappingChanges (hnot _ hrevision))
    (pyEq_of_notMem_mappingChanges (hnot _ hstate))

/-- Only a capable host refreshes a snapshot of the time before there were sequences. -/
theorem legacySequenceRefresh_eq {existing incoming host : Dict} {r : Refresh}
    (h : legacySequenceRefresh existing incoming host = some r) :
    sameRevisionRefresh (copyFields existing incoming legacySequenceEnrichmentFields) incoming =
      some r := by
  unfold legacySequenceRefresh at h
  extract_lets capable reasoning at h
  split at h
  · cases h
  · exact h

/-- What is taken of a snapshot of the revision that is there goes on from it. -/
theorem sameRevisionVerdict_continues (ht : validControl t.snapshot = true)
    (h : sameRevisionVerdict t row d = .ok (.taken seq body status)) :
    status ≠ .stored ∧ NotBefore t.snapshotSequence seq ∧ GoesOn t d body := by
  have hsame := sameRevisionRefresh_continues ht d.valid
  have hlost := @sameRevisionRefresh_latched t.snapshot d.body
  unfold sameRevisionVerdict at h
  split at h
  · obtain ⟨hstatus, rfl, hcontinues⟩ := refreshVerdict_continues ht hsame hlost h
    exact ⟨hstatus, NotBefore.refl _, hcontinues⟩
  · next n hn hnone =>
    have hnot := NotBefore.none (some n)
    split at h
    · have hvalid : validControl
          (copyFields t.snapshot d.body legacySequenceEnrichmentFields) = true := by
        rw [@validControl_congr t.snapshot _ (get_copyFields (by decide))
          (get_copyFields (by decide))]
        exact ht
      obtain ⟨hstatus, rfl, hcontinues⟩ := refreshVerdict_continues ht
        (fun hr => Continues.of_copyFields (by decide) (by decide)
          (sameRevisionRefresh_continues hvalid d.valid (legacySequenceRefresh_eq hr)))
        (fun hr => sameRevisionRefresh_latched (legacySequenceRefresh_eq hr)) h
      exact ⟨hstatus, hnone ▸ hnot, hcontinues⟩
    · obtain ⟨hstatus, rfl, hcontinues⟩ := refreshVerdict_continues ht (fun hr => by cases hr)
        (fun hr => by cases hr) h
      exact ⟨hstatus, hnone ▸ hnot, hcontinues⟩
  · next n m hn hm =>
    have hle : ¬ n < m → NotBefore t.snapshotSequence (some n) := by
      intro hlt a ha
      rw [hm, Option.mem_some_iff] at ha
      exact ⟨n, rfl, ha ▸ Nat.le_of_not_lt hlt⟩
    split at h
    · cases h
    next hlt =>
      split at h
      · split at h
        · next hdump =>
          cases h
          exact ⟨by decide, hle hlt, .of_continues (Continues.of_sameDump hdump)⟩
        · cases h
      · extract_lets changed at h
        split at h
        · next hfields =>
          rw [Bool.and_eq_true] at hfields
          obtain ⟨hstatus, rfl, hcontinues⟩ := refreshVerdict_continues ht
            (fun _ => mappingChanges_continues ht hfields.2) (fun hr => by cases hr) h
          exact ⟨hstatus, hle hlt, hcontinues⟩
        · obtain ⟨hstatus, rfl, hcontinues⟩ := refreshVerdict_continues ht hsame hlost h
          exact ⟨hstatus, hle hlt, hcontinues⟩

/-- What is taken of a snapshot of a thread that is known: of a later revision all, and of the
    revision that is there what goes on from it. -/
theorem verdict_taken (ht : validControl t.snapshot = true)
    (hnew : d.threadRevision = t.threadRevision → t.snapshotDigest ≠ some d.bodyDigest)
    (h : verdict t row d = .ok (.taken seq body status)) :
    (t.threadRevision < d.threadRevision ∧ status = .stored ∧ validControl body = true) ∨
    (t.threadRevision = d.threadRevision ∧ status ≠ .stored ∧
      NotBefore t.snapshotSequence seq ∧ GoesOn t d body) := by
  unfold verdict at h
  split at h
  · cases h
  next hlt =>
    split at h
    · cases h
    split at h
    · next hsame => exact .inr ⟨hsame.1.symm, sameRevisionVerdict_continues ht h⟩
    · next hother =>
      cases h
      refine .inl ⟨?_, rfl, d.valid⟩
      have hne : d.threadRevision ≠ t.threadRevision := fun heq => hother ⟨heq, hnew heq⟩
      omega

/-- A snapshot that is taken is not answered as one that is not. -/
theorem verdict_status (h : verdict t row d = .ok (.taken seq body status)) :
    status ≠ .staleIgnored ∧ status ≠ .duplicate := by
  have hrefresh : ∀ {sequence enriched refresh},
      refreshVerdict t d sequence enriched refresh = .ok (.taken seq body status) →
      status ≠ .staleIgnored ∧ status ≠ .duplicate := by
    intro sequence enriched refresh h
    unfold refreshVerdict at h
    split at h
    · cases h
    · cases h
      decide
    · cases h
      decide
    · split at h
      · cases h
        decide
      · cases h
  unfold verdict at h
  split at h
  · cases h
  split at h
  · cases h
  split at h
  · unfold sameRevisionVerdict at h
    split at h
    · exact hrefresh h
    · split at h
      · exact hrefresh h
      · exact hrefresh h
    · split at h
      · cases h
      split at h
      · split at h
        · cases h
          decide
        · cases h
      · extract_lets changed at h
        split at h
        · exact hrefresh h
        · exact hrefresh h
  · cases h
    decide

end Verdicts

end HomeAddons.Desktop
