import Mathlib

/-!
# Sliding windows

A list of items, each with a time. `AtMost time w n p l` says that no closed window of width `w`
holds more than `n` of the items that satisfy `p`.

* `AtMost.add`: an item may be added when fewer than `n` are not older than it by the width.
* `AtMost.perm`, `AtMost.sublist`: the order does not matter, and items may go.
* `AtMost.apart`: with `n = 1`, any two items are further apart than the width.
* `Sparse w n l`: the same of a list of times and half-open windows; `Sparse.add` adds one.
-/

namespace HomeAddons.Common

variable {α τ : Type*} [AddCommGroup τ] [LinearOrder τ] [IsOrderedAddMonoid τ]

/-- At most `n` of the items that satisfy `p` lie in any closed window of width `w`. -/
def AtMost (time : α → τ) (w : τ) (n : ℕ) (p : α → Bool) (l : List α) : Prop :=
  ∀ a, l.countP (fun x => p x && decide (a ≤ time x ∧ time x ≤ a + w)) ≤ n

namespace AtMost

variable {time : α → τ} {w : τ} {n : ℕ} {p : α → Bool} {l l' : List α} {r : α}

omit [IsOrderedAddMonoid τ] in
theorem nil : AtMost time w n p [] := fun _ => Nat.zero_le _

omit [IsOrderedAddMonoid τ] in
theorem perm (h : AtMost time w n p l) (hp : l.Perm l') : AtMost time w n p l' := by
  intro a
  rw [← hp.countP_eq]
  exact h a

omit [IsOrderedAddMonoid τ] in
theorem sublist (h : AtMost time w n p l) (hs : l'.Sublist l) : AtMost time w n p l' :=
  fun a => (hs.countP_le).trans (h a)

/-- An item may be added when fewer than `n` of the others are at most the width older, or younger
    than it is. -/
theorem add (h : AtMost time w n p l)
    (hfew : p r = true → l.countP (fun x => p x && decide (time r - w ≤ time x)) < n) :
    AtMost time w n p (l ++ [r]) := by
  intro a
  rw [List.countP_append, List.countP_singleton]
  split_ifs with hr
  · rw [Bool.and_eq_true, decide_eq_true_eq] at hr
    obtain ⟨hpr, _, hle⟩ := hr
    have hsub : l.countP (fun x => p x && decide (a ≤ time x ∧ time x ≤ a + w)) ≤
        l.countP (fun x => p x && decide (time r - w ≤ time x)) := by
      refine List.countP_mono_left fun x _ hx => ?_
      rw [Bool.and_eq_true, decide_eq_true_eq] at hx ⊢
      exact ⟨hx.1, (sub_le_iff_le_add.mpr hle).trans hx.2.1⟩
    exact Nat.succ_le_of_lt (hsub.trans_lt (hfew hpr))
  · exact h a

/-- When a window holds one item at most, two items are further apart than its width. -/
theorem apart (h : AtMost time w 1 p l) :
    l.Pairwise fun x y => p x = true → p y = true → time x + w < time y ∨ time y + w < time x := by
  induction l with
  | nil => exact .nil
  | cons x l ih =>
    refine .cons (fun y hy hx hpy => ?_) (ih (h.sublist (List.sublist_cons_self x l)))
    by_contra hc
    rw [not_or, not_lt, not_lt] at hc
    have hw : 0 ≤ w ∨ w < 0 := le_or_gt 0 w
    obtain hw | hw := hw
    · have hmin := h (min (time x) (time y))
      have hone : 1 ≤ l.countP fun z => p z &&
          decide (min (time x) (time y) ≤ time z ∧ time z ≤ min (time x) (time y) + w) := by
        refine List.countP_pos_iff.mpr ⟨y, hy, ?_⟩
        rw [Bool.and_eq_true, decide_eq_true_eq, ← min_add_add_right]
        exact ⟨hpy, min_le_right _ _, le_min hc.1 (le_add_of_nonneg_right hw)⟩
      rw [List.countP_cons_of_pos] at hmin
      · omega
      · rw [Bool.and_eq_true, decide_eq_true_eq, ← min_add_add_right]
        exact ⟨hx, min_le_left _ _, le_min (le_add_of_nonneg_right hw) hc.2⟩
    · have hxy : time y < time x := lt_of_le_of_lt hc.1 (add_lt_of_neg_right _ hw)
      have hyx : time x < time y := lt_of_le_of_lt hc.2 (add_lt_of_neg_right _ hw)
      exact lt_asymm hxy hyx

end AtMost

/-- No half-open window of width `w` holds more than `n` of the times. -/
def Sparse (w : τ) (n : ℕ) (l : List τ) : Prop :=
  ∀ a, l.countP (fun t => decide (a ≤ t ∧ t < a + w)) ≤ n

namespace Sparse

variable {w : τ} {n : ℕ} {l : List τ} {t : τ}

omit [IsOrderedAddMonoid τ] in
theorem nil : Sparse w n ([] : List τ) := fun _ => Nat.zero_le _

omit [IsOrderedAddMonoid τ] in
/-- A time may be added when every window around it has room. -/
theorem add (h : Sparse w n l) (hfew : ∀ a, a ≤ t → t < a + w →
    l.countP (fun t' => decide (a ≤ t' ∧ t' < a + w)) < n) : Sparse w n (l ++ [t]) := by
  intro a
  rw [List.countP_append, List.countP_singleton]
  split_ifs with ht
  · rw [decide_eq_true_eq] at ht
    exact hfew a ht.1 ht.2
  · exact h a

end Sparse

end HomeAddons.Common
