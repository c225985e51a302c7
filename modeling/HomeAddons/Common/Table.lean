import Mathlib

/-!
# Keyed tables

A table is the list of its rows in insertion order, together with the proof that no two rows
have the same key: `insert?` refuses a row whose key is taken (a primary key), `updateWhere` may
rewrite every column but the key, `deleteWhere` and `erase` delete rows.

* `get?_insert?`, `get?_updateWhere`, `get?_update`, `get?_erase`: what a later lookup sees.
* `mem_rows_iff`: a row is in the table iff it is what its key looks up.
* `view_insert?`, `view_upsert`, `view_update`: the same, for what a table shows of its rows.
-/

namespace HomeAddons.Common

variable {κ ρ : Type*} [DecidableEq κ]

/-- Rows in insertion order, no two with the same key. -/
structure Table (key : ρ → κ) where
  rows : List ρ
  nodup : (rows.map key).Nodup

namespace Table

variable {key : ρ → κ}

/-- The table with no rows. -/
def empty : Table key := ⟨[], by simp⟩

/-- `SELECT … WHERE key = k`. -/
def get? (T : Table key) (k : κ) : Option ρ := T.rows.find? fun r => key r = k

/-- `INSERT`: `none` is the violation of the primary key. -/
def insert? (T : Table key) (r : ρ) : Option (Table key) :=
  if h : key r ∈ T.rows.map key then none
  else some ⟨T.rows ++ [r], by
    rw [List.map_append, List.nodup_append]
    refine ⟨T.nodup, by simp, ?_⟩
    intro a ha b hb hab
    simp only [List.map_cons, List.map_nil, List.mem_singleton] at hb
    exact h (hb ▸ hab ▸ ha)⟩

/-- `UPDATE … SET f WHERE p` for an `f` that leaves the key alone. -/
def updateWhere (T : Table key) (p : ρ → Bool) (f : ρ → ρ)
    (hf : ∀ r, key (f r) = key r := by intro _; exact id rfl) : Table key :=
  ⟨T.rows.map fun r => if p r then f r else r, by
    have : (T.rows.map fun r => if p r then f r else r).map key = T.rows.map key := by
      rw [List.map_map]
      apply List.map_congr_left
      intro r _
      simp only [Function.comp_apply]
      split_ifs
      · exact hf r
      · rfl
    rw [this]
    exact T.nodup⟩

/-- `UPDATE … SET f WHERE key = k`. -/
def update (T : Table key) (k : κ) (f : ρ → ρ)
    (hf : ∀ r, key (f r) = key r := by intro _; exact id rfl) : Table key :=
  T.updateWhere (fun r => key r = k) f hf

/-- `INSERT … ON CONFLICT DO UPDATE`: the row takes the place of the one with its key. -/
def upsert (T : Table key) (r : ρ) : Table key :=
  if h : key r ∈ T.rows.map key then
    ⟨T.rows.map fun r' => if key r' = key r then r else r', by
      have : (T.rows.map fun r' => if key r' = key r then r else r').map key = T.rows.map key := by
        rw [List.map_map]
        apply List.map_congr_left
        intro r' _
        simp only [Function.comp_apply]
        split_ifs with e
        · exact e.symm
        · rfl
      rw [this]
      exact T.nodup⟩
  else ⟨T.rows ++ [r], by
    rw [List.map_append, List.nodup_append]
    refine ⟨T.nodup, by simp, ?_⟩
    intro a ha b hb hab
    simp only [List.map_cons, List.map_nil, List.mem_singleton] at hb
    exact h (hb ▸ hab ▸ ha)⟩

/-- `DELETE … WHERE p`. -/
def deleteWhere (T : Table key) (p : ρ → Bool) : Table key :=
  ⟨T.rows.filter fun r => !p r, (List.filter_sublist.map key).nodup T.nodup⟩

/-- `DELETE … WHERE key = k`. -/
def erase (T : Table key) (k : κ) : Table key :=
  ⟨T.rows.filter fun r => key r ≠ k, (List.filter_sublist.map key).nodup T.nodup⟩

@[simp] theorem get?_empty (k : κ) : (empty : Table key).get? k = none := rfl

variable {T T' : Table key} {k k' : κ} {r r' : ρ} {f : ρ → ρ} {hf : ∀ r, key (f r) = key r}

@[grind →] theorem key_of_get? (h : T.get? k = some r) : key r = k := by
  simpa using List.find?_some h

theorem mem_of_get? (h : T.get? k = some r) : r ∈ T.rows :=
  List.mem_of_find?_eq_some h

theorem get?_eq_none : T.get? k = none ↔ k ∉ T.rows.map key := by
  simp [get?]

/-- A row is in the table iff its key looks it up. -/
theorem mem_rows_iff : r ∈ T.rows ↔ T.get? (key r) = some r := by
  constructor
  · intro hr
    cases hg : T.get? (key r) with
    | none => exact absurd (List.mem_map_of_mem hr) (get?_eq_none.mp hg)
    | some r' =>
      rw [List.inj_on_of_nodup_map T.nodup (mem_of_get? hg) hr (key_of_get? hg)]
  · exact mem_of_get?

theorem get?_insert? (h : T.insert? r = some T') (k : κ) :
    T'.get? k = if k = key r then some r else T.get? k := by
  unfold insert? at h
  split_ifs at h with hk
  cases h
  simp only [get?, List.find?_append]
  by_cases e : k = key r
  · subst e
    have : T.rows.find? (fun r' => key r' = key r) = none := get?_eq_none.mpr hk
    simp [this]
  · have : ¬ key r = k := fun h => e h.symm
    simp [e, this]

theorem get?_insert?_eq_some (h : T.insert? r = some T') :
    T'.get? k = some r' ↔ (k = key r ∧ r' = r) ∨ (k ≠ key r ∧ T.get? k = some r') := by
  rw [get?_insert? h]
  split_ifs with e <;> simp [e, @eq_comm _ r']

@[grind →] theorem get?_of_insert? (h : T.insert? r = some T') : T.get? (key r) = none := by
  unfold insert? at h
  split_ifs at h with hk
  exact get?_eq_none.mpr hk

/-- An insertion keeps the rows that are there. -/
theorem get?_insert?_of_get? (h : T.insert? r = some T') (hk : T.get? k = some r') :
    T'.get? k = some r' := by
  rw [get?_insert?_eq_some h]
  refine .inr ⟨?_, hk⟩
  rintro rfl
  rw [get?_of_insert? h] at hk
  cases hk

theorem rows_insert? (h : T.insert? r = some T') : T'.rows = T.rows ++ [r] := by
  unfold insert? at h
  split_ifs at h
  cases h
  rfl

theorem insert?_of_get? (h : T.get? (key r) = none) : ∃ T', T.insert? r = some T' := by
  unfold insert?
  rw [dif_neg (get?_eq_none.mp h)]
  exact ⟨_, rfl⟩

theorem get?_updateWhere (T : Table key) (p : ρ → Bool) (f : ρ → ρ)
    (hf : ∀ r, key (f r) = key r) (k : κ) :
    (T.updateWhere p f hf).get? k = (T.get? k).map fun r => if p r then f r else r := by
  have hk : ∀ r, key (if p r then f r else r) = key r := fun r => by split_ifs <;> simp [hf]
  simp only [get?, updateWhere, List.find?_map, Function.comp_def, hk]

@[simp] theorem get?_update (T : Table key) (k : κ) (f : ρ → ρ)
    (hf : ∀ r, key (f r) = key r) (k' : κ) :
    (T.update k f hf).get? k' = if k' = k then (T.get? k').map f else T.get? k' := by
  rw [update, get?_updateWhere]
  cases hg : T.get? k' with
  | none => simp
  | some r =>
    have hr : key r = k' := key_of_get? hg
    by_cases e : k' = k <;> simp [hr, e]

theorem get?_update_self (T : Table key) (k : κ) (f : ρ → ρ) (hf : ∀ r, key (f r) = key r) :
    (T.update k f hf).get? k = (T.get? k).map f := by simp

theorem get?_update_of_ne (T : Table key) (h : k' ≠ k) (f : ρ → ρ) (hf : ∀ r, key (f r) = key r) :
    (T.update k f hf).get? k' = T.get? k' := by simp [h]

/-- What a lookup finds after an update is what it found before, rewritten when it is the row. -/
theorem get?_update_eq_some : (T.update k f hf).get? k' = some r' ↔
      ∃ r, T.get? k' = some r ∧ r' = if k' = k then f r else r := by
  rw [get?_update]
  cases T.get? k' <;> split_ifs <;> simp [@eq_comm _ r']

theorem get?_updateWhere_eq_some {p : ρ → Bool} : (T.updateWhere p f hf).get? k = some r' ↔
      ∃ r, T.get? k = some r ∧ r' = if p r then f r else r := by
  rw [get?_updateWhere]
  simp [@eq_comm _ r']

/-- An update of a row that is there. -/
theorem get?_update_of_get? (h : T.get? k = some r) (f : ρ → ρ) (hf : ∀ r, key (f r) = key r) :
    (T.update k f hf).get? k = some (f r) := by
  rw [get?_update_self, h]
  rfl

theorem get?_update_ne_none : (T.update k f hf).get? k' ≠ none ↔ T.get? k' ≠ none := by
  rw [get?_update]
  split_ifs <;> simp

@[simp] theorem get?_upsert (T : Table key) (r : ρ) (k : κ) :
    (T.upsert r).get? k = if k = key r then some r else T.get? k := by
  unfold upsert
  split_ifs with hr hk hk
  · subst hk
    obtain ⟨r', hr', hkey⟩ := List.mem_map.mp hr
    have hfound : T.get? (key r) = some r' := by
      rw [← hkey]
      exact mem_rows_iff.mp hr'
    simp only [get?, List.find?_map, Function.comp_def] at hfound ⊢
    have heq : (fun r' => decide (key (if key r' = key r then r else r') = key r)) =
        fun r' => decide (key r' = key r) := by
      funext r'
      split_ifs with e <;> simp [e]
    rw [heq, hfound]
    simp [hkey]
  · have hne : ¬ key r = k := fun e => hk e.symm
    simp only [get?, List.find?_map, Function.comp_def]
    have heq : (fun r' => decide (key (if key r' = key r then r else r') = k)) =
        fun r' => decide (key r' = k) := by
      funext r'
      split_ifs with e
      · simp [e]
      · rfl
    rw [heq]
    cases hf : T.rows.find? fun r' => decide (key r' = k) with
    | none => rfl
    | some r' =>
      have hr' : key r' = k := by simpa using List.find?_some hf
      rw [Option.map_some, if_neg (by rw [hr']; exact hk)]
  · subst hk
    have hnone : T.rows.find? (fun r' => key r' = key r) = none := get?_eq_none.mpr hr
    simp [get?, List.find?_append, hnone]
  · have hne : ¬ key r = k := fun e => hk e.symm
    simp [get?, List.find?_append, hne]

@[simp] theorem get?_erase (T : Table key) (k k' : κ) :
    (T.erase k).get? k' = if k' = k then none else T.get? k' := by
  simp only [get?, erase, List.find?_filter]
  split_ifs with h
  · subst h
    simp
  · congr 1
    funext r
    by_cases hr : key r = k' <;> simp [hr, h]

@[simp] theorem get?_deleteWhere (T : Table key) (p : ρ → Bool) (k : κ) :
    (T.deleteWhere p).get? k = (T.get? k).filter fun r => !p r := by
  cases hk : T.get? k with
  | none =>
    rw [Option.filter_none, get?_eq_none]
    exact fun hmem => get?_eq_none.mp hk ((List.filter_sublist.map key).mem hmem)
  | some r =>
    obtain rfl := key_of_get? hk
    rw [Option.filter_some]
    split_ifs with hp
    · exact mem_rows_iff.mp (List.mem_filter.mpr ⟨mem_of_get? hk, hp⟩)
    · rw [get?_eq_none, List.mem_map]
      rintro ⟨r', hr', hkey⟩
      obtain ⟨hmem, hp'⟩ := List.mem_filter.mp hr'
      rw [List.inj_on_of_nodup_map T.nodup hmem (mem_of_get? hk) hkey] at hp'
      exact hp hp'

/-- An update of a row that is there, in its place. -/
theorem rows_update_of_get? (h : T.get? k = some r) (f : ρ → ρ) (hf : ∀ r, key (f r) = key r) :
    ∃ l₁ l₂, T.rows = l₁ ++ r :: l₂ ∧
      (T.update k f hf).rows = l₁ ++ f r :: l₂ := by
  obtain ⟨l₁, l₂, hrows⟩ := List.append_of_mem (mem_of_get? h)
  obtain rfl := key_of_get? h
  refine ⟨l₁, l₂, hrows, ?_⟩
  have hnodup := T.nodup
  rw [hrows, List.map_append, List.map_cons, List.nodup_append, List.nodup_cons] at hnodup
  obtain ⟨-, ⟨hafter, -⟩, hbefore⟩ := hnodup
  have hother : ∀ l : List ρ, key r ∉ l.map key →
      (l.map fun r' => if key r' = key r then f r' else r') = l := by
    intro l hl
    refine (List.map_congr_left fun r' hr' => ?_).trans (List.map_id l)
    exact if_neg fun e : key r' = key r => hl (e ▸ List.mem_map_of_mem hr')
  show (T.rows.map fun r' => if decide (key r' = key r) = true then f r' else r') = _
  simp only [decide_eq_true_eq]
  rw [hrows, List.map_append, List.map_cons, if_pos rfl, hother l₁, hother l₂ hafter]
  exact fun hmem => hbefore _ hmem _ List.mem_cons_self rfl

theorem mem_upsert : r' ∈ (T.upsert r).rows ↔ r' = r ∨ (r' ∈ T.rows ∧ key r' ≠ key r) := by
  rw [mem_rows_iff, mem_rows_iff, get?_upsert]
  split_ifs with hkey
  · rw [Option.some.injEq]
    exact ⟨fun h => .inl h.symm, fun h => (h.resolve_right fun h => h.2 hkey).symm⟩
  · refine ⟨fun h => .inr ⟨h, hkey⟩, ?_⟩
    rintro (rfl | h)
    · exact absurd rfl hkey
    · exact h.1

theorem mem_erase : r ∈ (T.erase k).rows ↔ r ∈ T.rows ∧ key r ≠ k := by
  rw [erase, List.mem_filter, decide_eq_true_eq]

/-- The rows around a row that is there have other keys. -/
theorem split_of_get? (h : T.get? k = some r) :
    ∃ l₁ l₂, T.rows = l₁ ++ r :: l₂ ∧ (∀ r' ∈ l₁, key r' ≠ k) ∧ ∀ r' ∈ l₂, key r' ≠ k := by
  obtain ⟨l₁, l₂, hrows⟩ := List.append_of_mem (mem_of_get? h)
  obtain rfl := key_of_get? h
  have hnodup := T.nodup
  rw [hrows, List.map_append, List.map_cons, List.nodup_append, List.nodup_cons] at hnodup
  obtain ⟨-, ⟨hafter, -⟩, hbefore⟩ := hnodup
  refine ⟨l₁, l₂, hrows, fun r' hr' => ?_, fun r' hr' heq => ?_⟩
  · exact hbefore _ (List.mem_map_of_mem hr') _ List.mem_cons_self
  · exact hafter (heq ▸ List.mem_map_of_mem hr')

/-- The row that takes the place of one stands where that stood. -/
theorem rows_upsert_of_get? {r₀ : ρ} (h : T.get? (key r) = some r₀) :
    ∃ l₁ l₂, T.rows = l₁ ++ r₀ :: l₂ ∧ (T.upsert r).rows = l₁ ++ r :: l₂ := by
  obtain ⟨l₁, l₂, hrows, h₁, h₂⟩ := split_of_get? h
  have hkey : key r ∈ T.rows.map key := by
    rw [← key_of_get? h]
    exact List.mem_map_of_mem (mem_of_get? h)
  have hother : ∀ l : List ρ, (∀ r' ∈ l, key r' ≠ key r) →
      (l.map fun r' => if key r' = key r then r else r') = l := fun l hl =>
    (List.map_congr_left fun r' hr' => if_neg (hl r' hr')).trans (List.map_id l)
  refine ⟨l₁, l₂, hrows, ?_⟩
  rw [upsert, dif_pos hkey]
  show (T.rows.map fun r' => if key r' = key r then r else r') = _
  rw [hrows, List.map_append, List.map_cons, if_pos (key_of_get? h), hother l₁ h₁, hother l₂ h₂]

theorem rows_upsert_of_none (h : T.get? (key r) = none) : (T.upsert r).rows = T.rows ++ [r] := by
  rw [upsert, dif_neg (get?_eq_none.mp h)]

theorem rows_erase_of_get? (h : T.get? k = some r) :
    ∃ l₁ l₂, T.rows = l₁ ++ r :: l₂ ∧ (T.erase k).rows = l₁ ++ l₂ := by
  obtain ⟨l₁, l₂, hrows, h₁, h₂⟩ := split_of_get? h
  have hother : ∀ l : List ρ, (∀ r' ∈ l, key r' ≠ k) → l.filter (fun r' => key r' ≠ k) = l :=
    fun l hl => List.filter_eq_self.mpr fun r' hr' => decide_eq_true (hl r' hr')
  refine ⟨l₁, l₂, hrows, ?_⟩
  show T.rows.filter (fun r' => key r' ≠ k) = _
  rw [hrows, List.filter_append, List.filter_cons_of_neg (by simp [key_of_get? h]), hother l₁ h₁,
    hother l₂ h₂]

omit [DecidableEq κ] in
theorem rows_updateWhere (T : Table key) (p : ρ → Bool) (f : ρ → ρ)
    (hf : ∀ r, key (f r) = key r) :
    (T.updateWhere p f hf).rows = T.rows.map fun r => if p r then f r else r := rfl

omit [DecidableEq κ] in
/-- A column that the update does not write has the same values in the same order. -/
theorem map_rows_updateWhere {γ : Type*} (T : Table key) (p : ρ → Bool) (f : ρ → ρ)
    (hf : ∀ r, key (f r) = key r) (c : ρ → γ) (hc : ∀ r, c (f r) = c r) :
    (T.updateWhere p f hf).rows.map c = T.rows.map c := by
  rw [rows_updateWhere, List.map_map]
  apply List.map_congr_left
  intro r _
  simp only [Function.comp_apply]
  split_ifs
  · exact hc r
  · rfl

/-! ## Views -/

section View

variable {γ : Type*}

/-- What a table shows of its rows. -/
def view (T : Table key) (π : ρ → γ) : κ → Option γ := fun k => (T.get? k).map π

variable {T : Table key} {k : κ} (π : ρ → γ)

variable {r : ρ} {f : ρ → ρ}

theorem view_of_get? (h : T.get? k = some r) : T.view π k = some (π r) := by
  rw [view, h]
  rfl

theorem view_of_get?_none (h : T.get? k = none) : T.view π k = none := by
  rw [view, h]
  rfl

theorem view_insert? {T' : Table key} (h : T.insert? r = some T') :
    T'.view π = Function.update (T.view π) (key r) (some (π r)) := by
  funext k
  rw [view, get?_insert? h, Function.update_apply]
  split_ifs <;> rfl

theorem view_upsert (r : ρ) :
    (T.upsert r).view π = Function.update (T.view π) (key r) (some (π r)) := by
  funext k
  rw [view, get?_upsert, Function.update_apply]
  split_ifs <;> rfl

theorem view_update (hf : ∀ r, key (f r) = key r) (h : T.get? k = some r) :
    (T.update k f hf).view π = Function.update (T.view π) k (some (π (f r))) := by
  funext k'
  rw [view, get?_update, Function.update_apply]
  split_ifs with hk
  · rw [hk, h]
    rfl
  · rfl

/-- An update that leaves alone what is shown. -/
theorem view_updateWhere {p : ρ → Bool} (hf : ∀ r, key (f r) = key r) (hπ : ∀ r, π (f r) = π r) :
    (T.updateWhere p f hf).view π = T.view π := by
  funext k'
  rw [view, get?_updateWhere, Option.map_map]
  refine Option.map_congr fun r _ => ?_
  rw [Function.comp_apply]
  split_ifs
  · exact hπ r
  · rfl

end View

end Table

end HomeAddons.Common
