import HomeAddons.Common.Table

/-!
# Tables that change row by row

`Rewrites R T T'` says that `T'` is `T` with every row replaced by one that `R` relates it to:
what an `UPDATE` does to a table. What is known of `R` then gives what the update keeps.

* `rewrites_updateWhere`, `rewrites_update`: an update rewrites by what it does to the rows it hits.
* `Rewrites.get?`, `Rewrites.mem`, `Rewrites.forall`: rows are found again, and keep what `R` keeps.
* `Rewrites.count_le`, `count_insert?`, `count_update_le`: how many rows have a property.
* `Rewrites.unique`, `unique_insert?`: a unique column stays unique.
-/

namespace HomeAddons.Common.Table

variable {κ ρ γ : Type} [DecidableEq κ] {key : ρ → κ}

/-- Every row is replaced by one related to it. -/
def Rewrites (R : ρ → ρ → Prop) (T T' : Table key) : Prop := List.Forall₂ R T.rows T'.rows

/-- The number of rows with a property. -/
def count (T : Table key) (p : ρ → Bool) : ℕ := (T.rows.filter p).length

/-- No two rows have the same value in a column, rows without a value apart. -/
def Unique (T : Table key) (c : ρ → Option γ) : Prop :=
  ∀ a ∈ T.rows, ∀ b ∈ T.rows, ∀ v, c a = some v → c b = some v → a = b

section Rewrites

variable {R : ρ → ρ → Prop} {T T' : Table key}

omit [DecidableEq κ] in
theorem Rewrites.refl (hR : ∀ r, R r r) (T : Table key) : Rewrites R T T := by
  have h : ∀ l : List ρ, List.Forall₂ R l l := fun l => by
    induction l with
    | nil => exact .nil
    | cons r l ih => exact .cons (hR r) ih
  exact h T.rows

variable {S : ρ → ρ → Prop} {p : ρ → Bool} {f : ρ → ρ} {k : κ} {r : ρ}

omit [DecidableEq κ] in
theorem Rewrites.trans {Q : ρ → ρ → Prop} {T'' : Table key} (h : Rewrites R T T')
    (h' : Rewrites S T' T'') (hQ : ∀ a b c, R a b → S b c → Q a c) : Rewrites Q T T'' := by
  have hlist : ∀ l l' l'' : List ρ, List.Forall₂ R l l' → List.Forall₂ S l' l'' →
      List.Forall₂ Q l l'' := by
    intro l l' l'' hl
    induction hl generalizing l'' with
    | nil =>
      rintro ⟨⟩
      exact .nil
    | cons hR _ ih =>
      rintro (_ | ⟨hS, hl'⟩)
      exact .cons (hQ _ _ _ hR hS) (ih _ hl')
  exact hlist _ _ _ h h'

omit [DecidableEq κ] in
theorem Rewrites.imp (h : Rewrites R T T') (hS : ∀ a b, R a b → S a b) :
    Rewrites S T T' := List.Forall₂.imp hS h

omit [DecidableEq κ] in
theorem rewrites_updateWhere (hf : ∀ r, key (f r) = key r)
    (hkeep : ∀ r ∈ T.rows, p r = false → R r r) (hset : ∀ r ∈ T.rows, p r = true → R r (f r)) :
    Rewrites R T (T.updateWhere p f hf) := by
  unfold Rewrites
  rw [rows_updateWhere, List.forall₂_map_right_iff, List.forall₂_same]
  intro r hr
  cases hp : p r with
  | false => simpa using hkeep r hr hp
  | true => simpa using hset r hr hp

theorem rewrites_update (hf : ∀ r, key (f r) = key r) (hR : ∀ r, R r r)
    (hset : ∀ r, T.get? k = some r → R r (f r)) : Rewrites R T (T.update k f hf) := by
  refine rewrites_updateWhere hf (fun r _ _ => hR r) fun r hr hp => hset r ?_
  rw [← of_decide_eq_true hp]
  exact mem_rows_iff.mp hr

omit [DecidableEq κ] in
/-- A row of the first table becomes a row of the second. -/
theorem Rewrites.mem (h : Rewrites R T T') (hr : r ∈ T.rows) : ∃ r' ∈ T'.rows, R r r' := by
  obtain ⟨n, hn, rfl⟩ := List.mem_iff_getElem.mp hr
  have hlen := h.length_eq
  exact ⟨T'.rows[n], List.getElem_mem _, h.get hn (hlen ▸ hn)⟩

omit [DecidableEq κ] in
/-- A row of the second table was a row of the first. -/
theorem Rewrites.of_mem (h : Rewrites R T T') {r' : ρ} (hr : r' ∈ T'.rows) :
    ∃ r ∈ T.rows, R r r' := by
  obtain ⟨n, hn, rfl⟩ := List.mem_iff_getElem.mp hr
  have hlen := h.length_eq
  exact ⟨T.rows[n], List.getElem_mem _, h.get (hlen ▸ hn) hn⟩

/-- Rewriting that keeps the keys finds every row again. -/
theorem Rewrites.get? (h : Rewrites R T T') (hkey : ∀ r r', R r r' → key r' = key r)
    (hr : T.get? k = some r) : ∃ r', T'.get? k = some r' ∧ R r r' := by
  obtain ⟨r', hr', hR⟩ := h.mem (mem_of_get? hr)
  refine ⟨r', ?_, hR⟩
  rw [← key_of_get? hr, ← hkey r r' hR]
  exact mem_rows_iff.mp hr'

omit [DecidableEq κ] in
theorem Rewrites.forall {P : ρ → Prop} (h : Rewrites R T T') (hP : ∀ r r', R r r' → P r → P r')
    (hT : ∀ r ∈ T.rows, P r) : ∀ r ∈ T'.rows, P r := by
  intro r' hr'
  obtain ⟨r, hr, hR⟩ := h.of_mem hr'
  exact hP r r' hR (hT r hr)

omit [DecidableEq κ] in
/-- When no row comes to have the property, no more rows have it. -/
theorem Rewrites.count_le (h : Rewrites R T T') (hp : ∀ r r', R r r' → p r' = true → p r = true) :
    T'.count p ≤ T.count p := by
  have hlist : ∀ l l' : List ρ, List.Forall₂ R l l' →
      (l'.filter p).length ≤ (l.filter p).length := by
    intro l l' hl
    induction hl with
    | nil => exact Nat.le_refl _
    | @cons r r' l l' hR _ ih =>
      simp only [List.filter_cons]
      split_ifs with h' h
      · simpa using ih
      · exact absurd (hp r r' hR h') h
      · rw [List.length_cons]
        omega
      · exact ih
  exact hlist _ _ h

omit [DecidableEq κ] in
/-- A column that rewriting leaves alone or empties stays unique. -/
theorem Rewrites.unique {c : ρ → Option γ} (h : Rewrites R T T')
    (hc : ∀ r r', R r r' → c r' = c r ∨ c r' = none) (hT : T.Unique c) : T'.Unique c := by
  intro a' ha' b' hb' v hav hbv
  obtain ⟨n, hn, rfl⟩ := List.mem_iff_getElem.mp ha'
  obtain ⟨m, hm, rfl⟩ := List.mem_iff_getElem.mp hb'
  have hlen : T.rows.length = T'.rows.length := h.length_eq
  have hback : ∀ k (hk : k < T.rows.length) (hk' : k < T'.rows.length),
      c T'.rows[k] = some v → c T.rows[k] = some v := by
    intro k hk hk' hv
    rcases hc T.rows[k] T'.rows[k] (h.get hk hk') with heq | hnone
    · rw [← heq, hv]
    · rw [hnone] at hv
      cases hv
  have hn' : n < T.rows.length := by omega
  have hm' : m < T.rows.length := by omega
  have hrow := hT _ (List.getElem_mem hn') _ (List.getElem_mem hm') v (hback n hn' hn hav)
    (hback m hm' hm hbv)
  have hnodup : T.rows.Nodup := T.nodup.of_map key
  obtain rfl : n = m := hnodup.getElem_inj_iff.mp hrow
  rfl

end Rewrites

variable {T T' : Table key}

variable {p : ρ → Bool} {r : ρ} {k : κ}

omit [DecidableEq κ] in
theorem count_eq_zero : T.count p = 0 ↔ ∀ r ∈ T.rows, p r = false := by
  unfold count
  rw [List.length_eq_zero_iff, List.filter_eq_nil_iff]
  simp only [Bool.not_eq_true]

/-- A new row counts once. -/
theorem count_insert? (h : T.insert? r = some T') :
    T'.count p = T.count p + if p r then 1 else 0 := by
  unfold count
  rw [rows_insert? h, List.filter_append, List.length_append, List.filter_singleton]
  cases p r <;> rfl

/-- An update of one row counts at most once more. -/
theorem count_update_le {f : ρ → ρ} (hf : ∀ r, key (f r) = key r) (p : ρ → Bool) :
    (T.update k f hf).count p ≤ T.count p + 1 := by
  unfold count
  cases hk : T.get? k with
  | none =>
    have hsame : (T.update k f hf).rows = T.rows := by
      refine (List.map_congr_left fun r hr => ?_).trans (List.map_id _)
      refine if_neg fun e => ?_
      rw [← of_decide_eq_true e, mem_rows_iff.mp hr] at hk
      cases hk
    rw [hsame]
    omega
  | some r =>
    obtain ⟨l₁, l₂, hrows, hrows'⟩ := rows_update_of_get? hk f hf
    rw [hrows, hrows']
    rw [List.filter_append, List.filter_append, List.length_append, List.length_append,
      List.filter_cons, List.filter_cons]
    split_ifs <;> grind

/-- A row that takes the place of another counts instead of it. -/
theorem count_upsert_of_get? {r₀ : ρ} (h : T.get? (key r) = some r₀) (p : ρ → Bool) :
    (T.upsert r).count p + (p r₀).toNat = T.count p + (p r).toNat := by
  obtain ⟨l₁, l₂, hrows, hrows'⟩ := rows_upsert_of_get? h
  unfold count
  rw [hrows, hrows', List.filter_append, List.filter_append, List.length_append, List.length_append,
    List.filter_cons, List.filter_cons]
  cases p r <;> cases p r₀ <;> simp <;> omega

theorem count_upsert_of_none (h : T.get? (key r) = none) (p : ρ → Bool) :
    (T.upsert r).count p = T.count p + (p r).toNat := by
  unfold count
  rw [rows_upsert_of_none h, List.filter_append, List.length_append, List.filter_singleton]
  cases p r <;> rfl

/-- A row that goes counts no more. -/
theorem count_erase_of_get? (h : T.get? k = some r) (p : ρ → Bool) :
    (T.erase k).count p + (p r).toNat = T.count p := by
  obtain ⟨l₁, l₂, hrows, hrows'⟩ := rows_erase_of_get? h
  unfold count
  rw [hrows, hrows', List.filter_append, List.filter_append, List.length_append, List.length_append,
    List.filter_cons]
  cases p r <;> grind

theorem unique_insert? {c : ρ → Option γ} (h : T.insert? r = some T')
    (hc : ∀ a ∈ T.rows, ∀ v, c a = some v → c r ≠ some v) (hT : T.Unique c) : T'.Unique c := by
  intro a ha b hb v hav hbv
  rw [rows_insert? h, List.mem_append, List.mem_singleton] at ha hb
  rcases ha with ha | rfl <;> rcases hb with hb | rfl
  · exact hT a ha b hb v hav hbv
  · exact absurd hbv (hc a ha v hav)
  · exact absurd hav (hc b hb v hbv)
  · rfl

end HomeAddons.Common.Table
