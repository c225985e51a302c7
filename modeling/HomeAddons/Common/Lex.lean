import Mathlib

/-!
# Rows in the order of two columns

`ORDER BY first,second`: the order of rows by one column and then by another, and what a search, a
filter and a limit find in rows that are sorted by it.

* `find?_insertionSort`: the first row that satisfies a condition is the least one.
* `filter_insertionSort`: a part of the sorted rows is the sorted part.
* `mem_take_insertionSort`: the rows within a limit are those with fewer rows before them.
* `exists_sorted_take_iff`: what the beginning of an ordered list is.
* `limited_iff`: when a limit under the order of a column is one under the order of values.
-/

namespace HomeAddons.Common

variable {ρ α β : Type*} [LinearOrder α] [LinearOrder β] {first : ρ → α} {second : ρ → β}

/-- `ORDER BY first,second`. -/
def LexBy (first : ρ → α) (second : ρ → β) (a b : ρ) : Prop :=
  first a < first b ∨ (first a = first b ∧ second a ≤ second b)

instance : DecidableRel (LexBy first second) := fun _ _ => by unfold LexBy; infer_instance

instance : Std.Total (LexBy first second) where
  total a b := by
    obtain hlt | heq | hlt := lt_trichotomy (first a) (first b)
    · exact .inl (.inl hlt)
    · exact (le_total (second a) (second b)).imp (fun h => .inr ⟨heq, h⟩)
        fun h => .inr ⟨heq.symm, h⟩
    · exact .inr (.inl hlt)

instance : IsTrans ρ (LexBy first second) where
  trans a b c hab hbc := by
    obtain hab | ⟨hab, hsecond⟩ := hab <;> obtain hbc | ⟨hbc, hsecond'⟩ := hbc
    · exact .inl (hab.trans hbc)
    · exact .inl (hbc ▸ hab)
    · exact .inl (hab ▸ hbc)
    · exact .inr ⟨hab.trans hbc, hsecond.trans hsecond'⟩

/-- Rows that come before each other agree in the second column. -/
theorem LexBy.antisymm {a b : ρ} (h : LexBy first second a b) (h' : LexBy first second b a) :
    second a = second b := by
  obtain h | ⟨heq, hle⟩ := h <;> obtain h' | ⟨heq', hle'⟩ := h'
  · exact absurd (h.trans h') (lt_irrefl _)
  · exact absurd (heq' ▸ h) (lt_irrefl _)
  · exact absurd (heq ▸ h') (lt_irrefl _)
  · exact le_antisymm hle hle'

section Sorted

variable {r : ρ → ρ → Prop} [DecidableRel r] [Std.Total r] [IsTrans ρ r] {p : ρ → Bool}
  {l : List ρ}

variable {a : ρ} {n : ℕ}

/-- What `find?` finds in a sorted list is not after any other item that it could have found. -/
theorem find?_insertionSort (h : (l.insertionSort r).find? p = some a) :
    a ∈ l ∧ p a = true ∧ ∀ b ∈ l, p b = true → r a b := by
  obtain ⟨hp, before, after, hsplit, hbefore⟩ := List.find?_eq_some_iff_append.mp h
  have hsorted := List.pairwise_insertionSort r l
  have hmem : ∀ b, b ∈ l ↔ b ∈ before ++ a :: after := fun b => by
    rw [← hsplit, List.mem_insertionSort]
  rw [hsplit, List.pairwise_append] at hsorted
  refine ⟨(hmem a).mpr (List.mem_append_right _ List.mem_cons_self), hp, fun b hb hpb => ?_⟩
  obtain hb | hb := List.mem_append.mp ((hmem b).mp hb)
  · have hnot := hbefore b hb
    rw [hpb] at hnot
    cases hnot
  · obtain rfl | hb := List.mem_cons.mp hb
    · exact (Std.Total.total (r := r) b b).elim id id
    · exact List.rel_of_pairwise_cons hsorted.2.1 hb

/-- A part of the sorted rows is the sorted part, where no two rows are in each other's place. -/
theorem filter_insertionSort (hanti : ∀ a ∈ l, ∀ b ∈ l, r a b → r b a → a = b) :
    (l.insertionSort r).filter p = (l.filter p).insertionSort r := by
  have hperm : ((l.insertionSort r).filter p).Perm ((l.filter p).insertionSort r) :=
    ((List.perm_insertionSort r l).filter p).trans (List.perm_insertionSort r _).symm
  refine List.Perm.eq_of_pairwise ?_ ((List.pairwise_insertionSort r l).filter p)
    (List.pairwise_insertionSort r _) hperm
  intro a b ha hb
  exact hanti a ((List.mem_insertionSort r).mp (List.mem_of_mem_filter ha)) b
    (List.mem_of_mem_filter ((List.mem_insertionSort r).mp hb))

/-- A limit that is put on the rows of a part takes the first ones of the part, where the cut before
    leaves enough of them or cuts none of them off. -/
theorem take_filter_take {m : ℕ}
    (hcut : ∀ a ∈ l.drop n, p a = true → m ≤ ((l.take n).filter p).length) :
    ((l.take n).filter p).take m = (l.filter p).take m := by
  have hsplit : (l.take n).filter p ++ (l.drop n).filter p = l.filter p := by
    rw [← List.filter_append, List.take_append_drop]
  rw [← hsplit, List.take_append]
  cases hrest : (l.drop n).filter p with
  | nil => rw [List.take_nil, List.append_nil]
  | cons a rest =>
    obtain ⟨ha, hkept⟩ := List.mem_filter.mp (hrest ▸ List.mem_cons_self : a ∈ (l.drop n).filter p)
    rw [Nat.sub_eq_zero_of_le (hcut a ha hkept), List.take_zero, List.append_nil]

/-- The rows of a part that are within the limit of the whole are the first ones of the part. -/
theorem filter_take_prefix (n : ℕ) : (l.take n).filter p <+: (l.filter p).take n := by
  have hsplit : (l.take n).filter p ++ (l.drop n).filter p = l.filter p := by
    rw [← List.filter_append, List.take_append_drop]
  have hlength : ((l.take n).filter p).length ≤ n :=
    (List.length_filter_le _ _).trans (List.length_take_le _ _)
  exact List.prefix_take_iff.mpr ⟨⟨_, hsplit⟩, hlength⟩

/-- The rows within a limit are those with fewer rows before them. -/
theorem mem_take_insertionSort (hanti : a ∈ l → ∀ b ∈ l, r b a → r a b → b = a) (hnodup : l.Nodup) :
    a ∈ (l.insertionSort r).take n ↔
      a ∈ l ∧ (l.filter fun b => r b a ∧ ¬ r a b).length < n := by
  by_cases ha : a ∈ l
  · obtain ⟨before, after, hsplit⟩ := List.append_of_mem ((List.mem_insertionSort r).mpr ha)
    have hsorted := List.pairwise_insertionSort r l
    have hdistinct := (List.perm_insertionSort r l).nodup_iff.mpr hnodup
    have hmem : ∀ b ∈ before ++ a :: after, b ∈ l := fun b hb => by
      rwa [← hsplit, List.mem_insertionSort] at hb
    rw [hsplit] at hsorted hdistinct
    rw [List.pairwise_append] at hsorted
    obtain ⟨-, htail, hbefore⟩ := hsorted
    obtain ⟨-, -, hdisjoint⟩ := List.nodup_append.mp hdistinct
    -- The rows in front of `a` are those that come before it.
    have hfilter : (l.filter fun b => r b a ∧ ¬ r a b).length = before.length := by
      rw [← ((List.perm_insertionSort r l).filter _).length_eq, hsplit, List.filter_append,
        List.filter_eq_self.mpr, List.filter_eq_nil_iff.mpr, List.append_nil]
      · intro b hb
        rw [decide_eq_true_eq, not_and_not_right]
        obtain rfl | hb := List.mem_cons.mp hb
        · exact id
        · exact fun _ => List.rel_of_pairwise_cons htail hb
      · intro b hb
        rw [decide_eq_true_eq]
        have hba := hbefore b hb a List.mem_cons_self
        refine ⟨hba, fun hab => ?_⟩
        exact hdisjoint b hb a List.mem_cons_self
          (hanti ha b (hmem b (List.mem_append_left _ hb)) hba hab)
    rw [hfilter, hsplit, List.take_append, List.mem_append]
    refine ⟨fun h => ⟨ha, ?_⟩, fun ⟨_, hlt⟩ => .inr ?_⟩
    · by_contra hle
      obtain h | h := h
      · exact hdisjoint a (List.mem_of_mem_take h) a List.mem_cons_self rfl
      · rw [Nat.sub_eq_zero_of_le (not_lt.mp hle), List.take_zero] at h
        cases h
    · obtain ⟨k, hk⟩ := Nat.exists_eq_add_of_lt hlt
      rw [hk, show before.length + k + 1 - before.length = k + 1 by omega, List.take_succ_cons]
      exact List.mem_cons_self
  · refine iff_of_false (fun h => ha ?_) fun h => ha h.1
    exact (List.mem_insertionSort r).mp (List.mem_of_mem_take h)

end Sorted

/-- A list of distinct rows is the beginning of some way to put a list in order, up to a limit,
    exactly when it is in order and no row that is left out belongs between its rows, and none is
    left out below the limit. -/
theorem exists_sorted_take_iff {r : ρ → ρ → Prop} [DecidableRel r] [Std.Total r] [IsTrans ρ r]
    {l items : List ρ} (hl : l.Nodup) (hitems : items.Nodup) {n : ℕ} (hn : items.length ≤ n) :
    (∃ s : List ρ, s.Perm l ∧ s.Pairwise r ∧ items = s.take n) ↔
      (∀ a ∈ items, a ∈ l) ∧ items.Pairwise r ∧
        ∀ b ∈ l, b ∉ items → n ≤ items.length ∧ ∀ a ∈ items, r a b := by
  classical
  constructor
  · rintro ⟨s, hperm, hsorted, rfl⟩
    refine ⟨fun a ha => hperm.mem_iff.mp (List.mem_of_mem_take ha),
      hsorted.sublist (List.take_sublist _ _), fun b hb hout => ?_⟩
    rw [← hperm.mem_iff, ← List.take_append_drop n s, List.mem_append] at hb
    have hdrop := hb.resolve_left hout
    have hlt : n < s.length := by
      by_contra hle
      rw [List.drop_eq_nil_of_le (not_lt.mp hle)] at hdrop
      cases hdrop
    rw [← List.take_append_drop n s, List.pairwise_append] at hsorted
    exact ⟨by rw [List.length_take_of_le hlt.le], fun a ha => hsorted.2.2 a ha b hdrop⟩
  · rintro ⟨hsub, hsorted, hout⟩
    have hmem : ∀ b, b ∈ (l.filter (· ∉ items)).insertionSort r ↔ b ∈ l ∧ b ∉ items := by
      intro b
      rw [List.mem_insertionSort, List.mem_filter, decide_eq_true_eq]
    have hrest : ((l.filter (· ∉ items)).insertionSort r).Nodup :=
      (List.perm_insertionSort r _).nodup_iff.mpr (hl.filter _)
    refine ⟨items ++ (l.filter (· ∉ items)).insertionSort r, ?_, ?_, ?_⟩
    · refine (List.perm_ext_iff_of_nodup (List.nodup_append.mpr ⟨hitems, hrest, ?_⟩) hl).mpr ?_
      · rintro a ha b hb rfl
        exact ((hmem a).mp hb).2 ha
      · intro a
        rw [List.mem_append, hmem]
        exact ⟨fun h => h.elim (hsub a) And.left, fun h => or_iff_not_imp_left.mpr (⟨h, ·⟩)⟩
    · refine List.pairwise_append.mpr ⟨hsorted, List.pairwise_insertionSort r _, fun a ha b hb => ?_⟩
      obtain ⟨hb, hnot⟩ := (hmem b).mp hb
      exact (hout b hb hnot).2 a ha
    · rw [List.take_append, List.take_of_length_le hn]
      cases hcut : (l.filter (· ∉ items)).insertionSort r with
      | nil => rw [List.take_nil, List.append_nil]
      | cons b rest =>
        obtain ⟨hb, hnot⟩ := (hmem b).mp (hcut ▸ List.mem_cons_self)
        rw [Nat.sub_eq_zero_of_le (hout b hb hnot).1, List.take_zero, List.append_nil]

/-! ## A limit under another order -/

section Limited

variable {γ : Type*} [LinearOrder γ] {sel wanted : ρ → Bool} {value : ρ → γ} {l : List ρ} {n : ℕ}

/-- Some order of the rows that agree in the column has the row within the limit: so many rows come
    before it in any case. -/
def CanShow (first : ρ → α) (sel : ρ → Bool) (l : List ρ) (n : ℕ) (a : ρ) : Prop :=
  a ∈ l ∧ sel a = true ∧ ((l.filter sel).filter fun b => first b < first a).length < n

variable {tie : ρ → ℕ} {a : ρ}

/-- The rows that come before a row within the limit are within it. -/
theorem mem_take_of_lt {b : ρ} (ha : a ∈ ((l.filter sel).insertionSort (LexBy first tie)).take n)
    (hb : b ∈ l.filter sel) (hlt : first b < first a) :
    b ∈ ((l.filter sel).insertionSort (LexBy first tie)).take n := by
  have hsorted := List.pairwise_insertionSort (LexBy first tie) (l.filter sel)
  have hmem := (List.mem_insertionSort (LexBy first tie)).mpr hb
  rw [← List.take_append_drop n ((l.filter sel).insertionSort _)] at hsorted hmem
  obtain hb | hb := List.mem_append.mp hmem
  · exact hb
  · obtain hlt' | ⟨heq, -⟩ := (List.pairwise_append.mp hsorted).2.2 a ha b hb
    · exact absurd (hlt.trans hlt') (lt_irrefl _)
    · exact absurd hlt heq.not_gt

theorem canShow_of_mem_take (hl : l.Nodup)
    (ha : a ∈ ((l.filter sel).insertionSort (LexBy first tie)).take n) :
    CanShow first sel l n a := by
  have hmem := (List.mem_insertionSort (LexBy first tie)).mp (List.mem_of_mem_take ha)
  refine ⟨(List.mem_filter.mp hmem).1, (List.mem_filter.mp hmem).2, ?_⟩
  have hsub : (a :: (l.filter sel).filter fun b => first b < first a) ⊆
      ((l.filter sel).insertionSort (LexBy first tie)).take n := by
    rw [List.cons_subset]
    refine ⟨ha, fun b hb => ?_⟩
    obtain ⟨hb, hlt⟩ := List.mem_filter.mp hb
    exact mem_take_of_lt ha hb (of_decide_eq_true hlt)
  have hnodup : (a :: (l.filter sel).filter fun b => first b < first a).Nodup := by
    refine List.nodup_cons.mpr ⟨fun h => ?_, (hl.filter _).filter _⟩
    exact lt_irrefl _ (of_decide_eq_true (List.mem_filter.mp h).2)
  exact (List.subperm_of_subset hnodup hsub).length_le.trans (List.length_take_le _ _)

theorem exists_mem_take (hl : l.Nodup) (ha : CanShow first sel l n a) :
    ∃ tie : ρ → ℕ, a ∈ ((l.filter sel).insertionSort (LexBy first tie)).take n := by
  classical
  obtain ⟨hmem, hsel, hlt⟩ := ha
  refine ⟨fun b => if b = a then 0 else 1, (mem_take_insertionSort ?_ (hl.filter _)).mpr
    ⟨List.mem_filter.mpr ⟨hmem, hsel⟩, ?_⟩⟩
  · intro _ b _ hba hab
    have htie := LexBy.antisymm hba hab
    rw [if_pos rfl] at htie
    exact of_not_not fun hne => by rw [if_neg hne] at htie; cases htie
  · refine lt_of_eq_of_lt (congrArg List.length (List.filter_congr fun b _ => ?_)) hlt
    refine decide_eq_decide.mpr ⟨fun ⟨hba, hab⟩ => ?_, fun h => ⟨.inl h, fun hab => ?_⟩⟩
    · obtain hlt | ⟨heq, hle⟩ := hba
      · exact hlt
      · exact absurd (.inr ⟨heq.symm, (if_pos rfl).trans_le (Nat.zero_le _)⟩) hab
    · obtain hlt' | ⟨heq, -⟩ := hab
      · exact lt_irrefl _ (h.trans hlt')
      · exact absurd h heq.not_gt

/-- The column orders rows as their values do once it never puts a greater value first. -/
theorem forall_lt_imp_le_iff (first : ρ → α) (value : ρ → γ) {P : ρ → Prop}
    (htie : ∀ a b, P a → P b → (first a = first b ↔ value a = value b)) :
    (∀ a b, P a → P b → first a < first b → value a ≤ value b) ↔
      ∀ a b, P a → P b → (first a ≤ first b ↔ value a ≤ value b) := by
  constructor
  · intro h a b ha hb
    obtain hlt | heq | hgt := lt_trichotomy (first a) (first b)
    · exact iff_of_true hlt.le (h a b ha hb hlt)
    · exact iff_of_true heq.le ((htie a b ha hb).mp heq).le
    · refine iff_of_false hgt.not_ge fun hle => hgt.ne' ?_
      exact (htie a b ha hb).mpr (le_antisymm hle (h b a hb ha hgt))
  · intro h a b ha hb hlt
    exact (h a b ha hb).mp hlt.le

/-- Rows are selected and put in order by a column, and cut off. Whichever order the rows that agree
    in the column come in, they are the first ones of the wanted rows by their values exactly when
    every row that can be shown is wanted, such rows are in the order of their values, and a wanted
    row is left out only for rows that come before it. -/
theorem limited_iff (first : ρ → α) (value : ρ → γ) (hl : l.Nodup)
    (htie : ∀ a ∈ l, ∀ b ∈ l, first a = first b → value a = value b) :
    (∀ tie : ρ → ℕ, ∃ s : List ρ, s.Perm (l.filter wanted) ∧
      s.Pairwise (fun a b => value a ≤ value b) ∧
        ((l.filter sel).insertionSort (LexBy first tie)).take n = s.take n) ↔
    (∀ a, CanShow first sel l n a → wanted a = true) ∧
      (∀ a b, CanShow first sel l n a → CanShow first sel l n b → first a < first b →
        value a ≤ value b) ∧
      ∀ b ∈ l, wanted b = true → ¬ CanShow first sel l n b → n ≤ (l.filter sel).length ∧
        ∀ a, CanShow first sel l n a → value a ≤ value b := by
  let r : ρ → ρ → Prop := fun a b => value a ≤ value b
  have : DecidableRel r := fun a b => inferInstanceAs (Decidable (value a ≤ value b))
  have : Std.Total r := ⟨fun a b => le_total (value a) (value b)⟩
  have : IsTrans ρ r := ⟨fun _ _ _ hab hbc => le_trans hab hbc⟩
  have hnodup : ∀ tie : ρ → ℕ, ((l.filter sel).insertionSort (LexBy first tie)).Nodup := fun tie =>
    (List.perm_insertionSort _ _).nodup_iff.mpr (hl.filter _)
  have htake := fun tie : ρ → ℕ => exists_sorted_take_iff (r := r) (n := n) (hl.filter wanted)
    ((hnodup tie).sublist (List.take_sublist n _)) (List.length_take_le _ _)
  rw [forall_congr' htake]
  constructor
  · intro hall
    refine ⟨fun a ha => ?_, fun a b ha hb hlt => ?_, fun b hb hwanted hnot => ⟨?_, fun a ha => ?_⟩⟩
    · obtain ⟨tie, htake⟩ := exists_mem_take hl ha
      exact (List.mem_filter.mp ((hall tie).1 a htake)).2
    · obtain ⟨tie, hbtake⟩ := exists_mem_take hl hb
      have hatake := mem_take_of_lt hbtake (List.mem_filter.mpr ⟨ha.1, ha.2.1⟩) hlt
      have hsorted := (List.pairwise_insertionSort (LexBy first tie) (l.filter sel)).sublist
        (List.take_sublist n _)
      have hvalues : (((l.filter sel).insertionSort (LexBy first tie)).take n).Pairwise
          fun a b => first a < first b → value a ≤ value b :=
        (hall tie).2.1.imp fun {a b} (hle : value a ≤ value b) (_ : first a < first b) => hle
      refine List.Pairwise.forall_of_forall_of_flip (fun a _ hlt => absurd hlt (lt_irrefl _))
        hvalues (hsorted.imp fun hlex hlt => ?_) hatake hbtake hlt
      obtain hlt' | ⟨heq, -⟩ := hlex
      · exact absurd (hlt.trans hlt') (lt_irrefl _)
      · exact absurd hlt heq.not_gt
    · have hout : b ∉ ((l.filter sel).insertionSort (LexBy first fun _ => 0)).take n :=
        fun h => hnot (canShow_of_mem_take hl h)
      have hfull := ((hall fun _ => 0).2.2 b (List.mem_filter.mpr ⟨hb, hwanted⟩) hout).1
      rw [List.length_take, List.length_insertionSort] at hfull
      exact hfull.trans (min_le_right _ _)
    · obtain ⟨tie, htake⟩ := exists_mem_take hl ha
      have hout : b ∉ ((l.filter sel).insertionSort (LexBy first tie)).take n :=
        fun h => hnot (canShow_of_mem_take hl h)
      exact ((hall tie).2.2 b (List.mem_filter.mpr ⟨hb, hwanted⟩) hout).2 a htake
  · rintro ⟨hwanted, horder, hcut⟩ tie
    have hle : ∀ a b, CanShow first sel l n a → CanShow first sel l n b → LexBy first tie a b →
        value a ≤ value b := by
      intro a b ha hb hlex
      obtain hlt | ⟨heq, -⟩ := hlex
      · exact horder a b ha hb hlt
      · exact (htie a ha.1 b hb.1 heq).le
    have hsorted := List.pairwise_insertionSort (LexBy first tie) (l.filter sel)
    refine ⟨fun a ha => ?_, ?_, fun b hb hout => ?_⟩
    · have hcan := canShow_of_mem_take hl ha
      exact List.mem_filter.mpr ⟨hcan.1, hwanted a hcan⟩
    · exact (hsorted.sublist (List.take_sublist n _)).imp_of_mem fun ha hb hlex =>
        hle _ _ (canShow_of_mem_take hl ha) (canShow_of_mem_take hl hb) hlex
    · obtain ⟨hb, hwants⟩ := List.mem_filter.mp hb
      by_cases hcan : CanShow first sel l n b
      · -- The row is cut off, and the limit is reached.
        have hmem := (List.mem_insertionSort (LexBy first tie)).mpr
          (List.mem_filter.mpr ⟨hb, hcan.2.1⟩)
        rw [← List.take_append_drop n ((l.filter sel).insertionSort _)] at hsorted hmem
        have hdrop := (List.mem_append.mp hmem).resolve_left hout
        refine ⟨?_, fun a ha => hle a b (canShow_of_mem_take hl ha) hcan
          ((List.pairwise_append.mp hsorted).2.2 a ha b hdrop)⟩
        by_contra hshort
        have hall : ((l.filter sel).insertionSort (LexBy first tie)).length ≤ n := by
          rw [List.length_take] at hshort
          omega
        rw [List.drop_eq_nil_of_le hall] at hdrop
        cases hdrop
      · obtain ⟨hfull, hbefore⟩ := hcut b hb hwants hcan
        refine ⟨?_, fun a ha => hbefore a (canShow_of_mem_take hl ha)⟩
        rw [List.length_take, List.length_insertionSort]
        exact le_min le_rfl hfull

end Limited

end HomeAddons.Common
