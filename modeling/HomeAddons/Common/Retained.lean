import Mathlib

/-!
# Logs that are kept in part

A log grows at its end and its items have increasing stamps; of the items that satisfy a predicate
only the newest are kept. Readers go through the kept items of a scope page by page, from the last
stamp that they have seen.

* `dropOldest`, `keepNewest`: what pruning leaves.
* `Retains`: a scope of the log is kept beyond a horizon, and the horizon is not further than that.
* `Retains.append`, `Retains.prune`: a new item, and pruning.
* `Retains.page_iff`: a page has all of the log up to its end exactly when the horizon is not beyond
  the reader.
-/

namespace HomeAddons.Common

variable {α : Type}

/-! ## Pruning -/

/-- Without the first `n` items that satisfy `p`. -/
def dropOldest (p : α → Bool) : ℕ → List α → List α
  | 0, l => l
  | _ + 1, [] => []
  | n + 1, a :: l => if p a then dropOldest p n l else a :: dropOldest p (n + 1) l

/-- The items that satisfy `p` beyond the last `n` of them. -/
def surplus (p : α → Bool) (n : ℕ) (l : List α) : List α :=
  (l.filter p).take ((l.filter p).length - n)

/-- Of the items that satisfy `p` the last `n`, and all others. -/
def keepNewest (p : α → Bool) (n : ℕ) (l : List α) : List α :=
  dropOldest p ((l.filter p).length - n) l

variable {p q : α → Bool} {l : List α} {a b : α}

@[simp] theorem dropOldest_zero : dropOldest p 0 l = l := by
  cases l <;> rfl

theorem dropOldest_sublist (n : ℕ) (l : List α) : (dropOldest p n l).Sublist l := by
  induction l generalizing n with
  | nil => cases n <;> exact List.Sublist.refl _
  | cons a l ih =>
    cases n with
    | zero => exact List.Sublist.refl _
    | succ n =>
      rw [dropOldest]
      split
      · exact (ih n).cons a
      · exact (ih (n + 1)).cons_cons a

theorem keepNewest_sublist (n : ℕ) (l : List α) : (keepNewest p n l).Sublist l :=
  dropOldest_sublist _ l

theorem filter_dropOldest (n : ℕ) (l : List α) :
    (dropOldest p n l).filter p = (l.filter p).drop n := by
  induction l generalizing n with
  | nil => cases n <;> rfl
  | cons a l ih =>
    cases n with
    | zero => rfl
    | succ n =>
      rw [dropOldest]
      by_cases hp : p a = true
      · rw [if_pos hp, ih, List.filter_cons_of_pos hp, List.drop_succ_cons]
      · rw [if_neg hp, List.filter_cons_of_neg hp, List.filter_cons_of_neg hp, ih]

theorem mem_dropOldest_of_not (hp : ¬ p a = true) (n : ℕ) : a ∈ dropOldest p n l ↔ a ∈ l := by
  induction l generalizing n with
  | nil => cases n <;> rfl
  | cons b l ih =>
    cases n with
    | zero => rfl
    | succ n =>
      rw [dropOldest]
      split
      · next hb =>
        rw [ih, List.mem_cons, or_iff_right]
        rintro rfl
        exact hp hb
      · rw [List.mem_cons, List.mem_cons, ih]

variable {n : ℕ}

/-- What is kept is what is not surplus. -/
theorem mem_keepNewest (hl : l.Nodup) : a ∈ keepNewest p n l ↔ a ∈ l ∧ a ∉ surplus p n l := by
  unfold keepNewest surplus
  generalize (l.filter p).length - n = k
  by_cases hp : p a = true
  · have hkept : a ∈ dropOldest p k l ↔ a ∈ (l.filter p).drop k := by
      rw [← filter_dropOldest, List.mem_filter]
      exact ⟨fun h => ⟨h, hp⟩, fun h => h.1⟩
    have hnodup := hl.filter p
    rw [← List.take_append_drop k (l.filter p), List.nodup_append] at hnodup
    have hmem : a ∈ l ↔ a ∈ (l.filter p).take k ∨ a ∈ (l.filter p).drop k := by
      rw [← List.mem_append, List.take_append_drop, List.mem_filter]
      exact ⟨fun h => ⟨h, hp⟩, fun h => h.1⟩
    rw [hkept, hmem]
    constructor
    · exact fun h => ⟨.inr h, fun h' => hnodup.2.2 a h' a h rfl⟩
    · exact fun ⟨h, hn⟩ => h.resolve_left hn
  · rw [mem_dropOldest_of_not hp]
    exact ⟨fun h => ⟨h, fun h' => hp (List.mem_filter.mp (List.mem_of_mem_take h')).2⟩,
      fun h => h.1⟩

theorem mem_surplus (h : a ∈ surplus p n l) : a ∈ l ∧ p a = true :=
  List.mem_filter.mp (List.mem_of_mem_take h)

/-- Where there is a surplus something is kept. -/
theorem exists_kept_of_surplus (hn : 0 < n) (h : a ∈ surplus p n l) :
    ∃ b ∈ keepNewest p n l, p b = true := by
  have hlong : n < (l.filter p).length := by
    by_contra hle
    rw [surplus, Nat.sub_eq_zero_of_le (Nat.le_of_not_lt hle), List.take_zero] at h
    exact List.not_mem_nil h
  have hlength : ((keepNewest p n l).filter p).length = n := by
    rw [keepNewest, filter_dropOldest, List.length_drop]
    omega
  obtain ⟨b, hb⟩ := List.exists_mem_of_length_pos (hlength ▸ hn)
  exact ⟨b, List.mem_filter.mp hb⟩

/-- What is surplus comes before what is kept. -/
theorem pairwise_surplus {R : α → α → Prop} (hl : l.Pairwise R) (ha : a ∈ surplus p n l)
    (hb : b ∈ keepNewest p n l) (hp : p b = true) : R a b := by
  have hkept : b ∈ (l.filter p).drop ((l.filter p).length - n) := by
    rw [← filter_dropOldest, List.mem_filter]
    exact ⟨hb, hp⟩
  have hfilter := hl.filter p
  rw [← List.take_append_drop ((l.filter p).length - n) (l.filter p), List.pairwise_append]
    at hfilter
  exact hfilter.2.2 a ha b hkept

/-- Nothing is surplus of a list that is short enough. -/
theorem surplus_of_length_le (h : l.length ≤ n) : surplus p n l = [] := by
  rw [surplus, Nat.sub_eq_zero_of_le (Nat.le_trans (List.length_filter_le p l) h), List.take_zero]

theorem keepNewest_of_length_le (h : l.length ≤ n) : keepNewest p n l = l := by
  rw [keepNewest, Nat.sub_eq_zero_of_le (Nat.le_trans (List.length_filter_le p l) h), dropOldest_zero]

/-- The first item is surplus when there is one too many. -/
theorem surplus_cons (hl : ∀ b ∈ a :: l, p b = true) : surplus p l.length (a :: l) = [a] := by
  rw [surplus, List.filter_eq_self.mpr hl, List.length_cons, Nat.add_sub_cancel_left]
  rfl

theorem keepNewest_cons (hl : ∀ b ∈ a :: l, p b = true) :
    keepNewest p l.length (a :: l) = l := by
  rw [keepNewest, List.filter_eq_self.mpr hl, List.length_cons, Nat.add_sub_cancel_left, dropOldest,
    if_pos (hl a List.mem_cons_self), dropOldest_zero]

/-! ## What is kept of a log -/

section Retains

variable {stamp : α → ℕ} {log kept : List α} {horizon : ℕ}

/-- Of the items of a scope `q` in the log those beyond the horizon are kept, and if there is a
    horizon the item at it is not. -/
structure Retains (q : α → Bool) (stamp : α → ℕ) (log kept : List α) (horizon : ℕ) : Prop where
  sub : kept.Sublist log
  recent : ∀ a ∈ log, q a = true → horizon < stamp a → a ∈ kept
  above : ∀ a ∈ kept, q a = true → horizon < stamp a
  lost : horizon = 0 ∨ ∃ a ∈ log, q a = true ∧ stamp a = horizon

/-- A log that nothing was pruned of. -/
theorem Retains.refl (h : ∀ a ∈ log, 0 < stamp a) : Retains q stamp log log 0 where
  sub := List.Sublist.refl _
  recent _ ha _ _ := ha
  above a ha _ := h a ha
  lost := .inl rfl

/-- A new item is kept. -/
theorem Retains.append (h : Retains q stamp log kept horizon) (hb : q b = true → horizon < stamp b) :
    Retains q stamp (log ++ [b]) (kept ++ [b]) horizon where
  sub := h.sub.append_right [b]
  recent a ha hq hlt := by
    rw [List.mem_append] at ha ⊢
    exact ha.imp_left fun ha => h.recent a ha hq hlt
  above a ha hq := by
    rw [List.mem_append, List.mem_singleton] at ha
    obtain ha | rfl := ha
    · exact h.above a ha hq
    · exact hb hq
  lost := h.lost.imp_right fun ⟨a, ha, hqa⟩ => ⟨a, List.mem_append_left _ ha, hqa⟩

/-- Pruning moves the horizon to the last item of the scope that is pruned. -/
theorem Retains.prune (h : Retains q stamp log kept horizon)
    (hlog : log.Pairwise fun a b => stamp a < stamp b) {n horizon' : ℕ}
    (hscope : (∃ a ∈ surplus p n kept, q a = true) → ∀ a ∈ kept, q a = true → p a = true)
    (hle : horizon ≤ horizon')
    (hall : ∀ a ∈ surplus p n kept, q a = true → stamp a ≤ horizon')
    (hlast : horizon' = horizon ∨ ∃ a ∈ surplus p n kept, q a = true ∧ stamp a = horizon') :
    Retains q stamp log (keepNewest p n kept) horizon' where
  sub := (keepNewest_sublist n kept).trans h.sub
  recent a ha hq hlt := by
    have hsorted := hlog.sublist h.sub
    have hnodup : kept.Nodup := by
      refine hsorted.imp fun {a b} hab heq => ?_
      rw [heq] at hab
      exact Nat.lt_irrefl _ hab
    have hkept := h.recent a ha hq (Nat.lt_of_le_of_lt hle hlt)
    exact (mem_keepNewest hnodup).mpr
      ⟨hkept, fun hs => Nat.not_le.mpr hlt (hall a hs hq)⟩
  above a ha hq := by
    have hkept := (keepNewest_sublist n kept).mem ha
    obtain heq | ⟨b, hb, hqb, hstamp⟩ := hlast
    · rw [heq]
      exact h.above a hkept hq
    · have hsorted := hlog.sublist h.sub
      have hbefore := pairwise_surplus hsorted hb ha (hscope ⟨b, hb, hqb⟩ a hkept hq)
      rw [← hstamp]
      exact hbefore
  lost := by
    obtain heq | ⟨b, hb, hqb, hstamp⟩ := hlast
    · rw [heq]
      exact h.lost
    · exact .inr ⟨b, h.sub.mem (mem_surplus hb).1, hqb, hstamp⟩

/-! ## Pages -/

/-- The first items of the scope after a stamp. -/
def pageAfter (q : α → Bool) (stamp : α → ℕ) (c limit : ℕ) (l : List α) : List α :=
  (l.filter fun a => q a && decide (c < stamp a)).take limit

/-- The stamp of the last item of a page, or where the reader was. -/
def nextStamp (stamp : α → ℕ) (c : ℕ) (page : List α) : ℕ :=
  (page.getLast?.map stamp).getD c

theorem pageAfter_sublist (c limit : ℕ) : (pageAfter q stamp c limit l).Sublist l :=
  (List.take_sublist _ _).trans List.filter_sublist

variable {c limit : ℕ}

theorem mem_pageAfter (h : a ∈ pageAfter q stamp c limit l) : a ∈ l ∧ q a = true ∧ c < stamp a := by
  have hfilter := List.mem_filter.mp (List.mem_of_mem_take h)
  rw [Bool.and_eq_true, decide_eq_true_eq] at hfilter
  exact hfilter

theorem nextStamp_mem {c : ℕ} {page : List α} (h : page ≠ []) :
    ∃ a ∈ page, stamp a = nextStamp stamp c page := by
  refine ⟨page.getLast h, List.getLast_mem h, ?_⟩
  rw [nextStamp, List.getLast?_eq_getLast_of_ne_nil h]
  rfl

/-- No item of a page is later than its last one. -/
theorem le_nextStamp (hl : l.Pairwise fun a b => stamp a < stamp b)
    (h : a ∈ pageAfter q stamp c limit l) :
    stamp a ≤ nextStamp stamp c (pageAfter q stamp c limit l) := by
  have hne := List.ne_nil_of_mem h
  have hsorted := hl.sublist (@pageAfter_sublist _ q _ stamp c limit)
  rw [nextStamp, List.getLast?_eq_getLast_of_ne_nil hne]
  rw [← List.dropLast_append_getLast hne, List.mem_append, List.mem_singleton] at h
  rw [← List.dropLast_append_getLast hne, List.pairwise_append] at hsorted
  obtain h | h := h
  · exact Nat.le_of_lt (hsorted.2.2 a h _ (List.mem_singleton_self _))
  · rw [h]
    exact Nat.le_refl _

/-- A page has every item of the scope up to its last one. -/
theorem mem_pageAfter_of_le (hl : l.Pairwise fun a b => stamp a < stamp b)
    (hne : pageAfter q stamp c limit l ≠ []) (ha : a ∈ l) (hq : q a = true) (hc : c < stamp a)
    (hle : stamp a ≤ nextStamp stamp c (pageAfter q stamp c limit l)) :
    a ∈ pageAfter q stamp c limit l := by
  have hmem : a ∈ l.filter fun a => q a && decide (c < stamp a) :=
    List.mem_filter.mpr ⟨ha, by rw [hq, decide_eq_true hc]; rfl⟩
  have hsorted := hl.filter fun a => q a && decide (c < stamp a)
  rw [← List.take_append_drop limit (l.filter _), List.mem_append] at hmem
  rw [← List.take_append_drop limit (l.filter _), List.pairwise_append] at hsorted
  refine hmem.resolve_right fun hdrop => ?_
  obtain ⟨b, hb, hstamp⟩ := @nextStamp_mem _ stamp c _ hne
  rw [← hstamp] at hle
  exact Nat.not_lt.mpr hle (hsorted.2.2 b hb a hdrop)

/-- A reader is at `position` and asks for what comes after `c`. The page has every item of the
    scope in the log after the position and up to its end exactly when the horizon is not beyond
    the position. -/
theorem Retains.page_iff (h : Retains q stamp log kept horizon)
    (hlog : log.Pairwise fun a b => stamp a < stamp b) {position : ℕ} (hc : c ≤ position)
    (hne : pageAfter q stamp c limit kept ≠ []) :
    (∀ a ∈ log, q a = true → position < stamp a →
        stamp a ≤ nextStamp stamp c (pageAfter q stamp c limit kept) →
        a ∈ pageAfter q stamp c limit kept) ↔ horizon ≤ position := by
  constructor
  · intro hall
    by_contra hbeyond
    have hbeyond := Nat.lt_of_not_le hbeyond
    obtain rfl | ⟨a, ha, hq, hstamp⟩ := h.lost
    · exact absurd hbeyond (Nat.not_lt_zero _)
    · -- The page ends after the item at the horizon, which is lost.
      obtain ⟨b, hb, hlast⟩ := @nextStamp_mem _ stamp c _ hne
      have hkept := mem_pageAfter hb
      have hend := h.above b hkept.1 hkept.2.1
      have hin := hall a ha hq (hstamp ▸ hbeyond)
        (by rw [hstamp, ← hlast]; exact Nat.le_of_lt hend)
      have hlost := h.above a (mem_pageAfter hin).1 hq
      rw [hstamp] at hlost
      exact Nat.lt_irrefl _ hlost
  · intro hle a ha hq hlt hend
    exact mem_pageAfter_of_le (hlog.sublist h.sub) hne
      (h.recent a ha hq (Nat.lt_of_le_of_lt hle hlt)) hq (Nat.lt_of_le_of_lt hc hlt) hend

end Retains

end HomeAddons.Common
