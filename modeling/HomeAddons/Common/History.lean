import Mathlib

/-!
# Histories

What a program did is the list of its events, the oldest first.

* `Since on off log`: an event of the one kind is in the log and none of the other kind after it.
* `Always A log`: every event of the log was admissible after the events before it.
* `since_append`, `always_append`: what further events change.
-/

namespace HomeAddons.Common

variable {α : Type}

/-- An event `on` is in the log and no event `off` after it. -/
def Since (on off : α → Prop) (log : List α) : Prop :=
  ∃ l₁ e l₂, log = l₁ ++ e :: l₂ ∧ on e ∧ ∀ x ∈ l₂, ¬ off x

/-- Every event of the log is admissible after the ones before it. -/
def Always (A : List α → α → Prop) (log : List α) : Prop :=
  ∀ l₁ e l₂, log = l₁ ++ e :: l₂ → A l₁ e

variable {on off : α → Prop} {A : List α → α → Prop} {log es : List α} {e : α}

theorem not_since_nil : ¬ Since on off [] := by
  rintro ⟨l₁, e, l₂, hlog, -⟩
  exact List.append_ne_nil_of_right_ne_nil l₁ (List.cons_ne_nil e l₂) hlog.symm

theorem always_nil : Always A [] := fun l₁ e l₂ hlog =>
  absurd hlog.symm (List.append_ne_nil_of_right_ne_nil l₁ (List.cons_ne_nil e l₂))

theorem since_snoc : Since on off (log ++ [e]) ↔ on e ∨ (Since on off log ∧ ¬ off e) := by
  constructor
  · rintro ⟨l₁, x, l₂, hlog, hon, hoff⟩
    obtain rfl | ⟨l₂, y, rfl⟩ := List.eq_nil_or_concat' l₂
    · obtain ⟨-, hx⟩ := List.append_inj' hlog rfl
      obtain rfl := List.singleton_inj.mp hx
      exact .inl hon
    · rw [← List.cons_append, ← List.append_assoc] at hlog
      obtain ⟨rfl, hy⟩ := List.append_inj' hlog rfl
      obtain rfl := List.singleton_inj.mp hy
      exact .inr ⟨⟨l₁, x, l₂, rfl, hon, fun z hz => hoff z (List.mem_append_left _ hz)⟩,
        hoff _ (List.mem_append_right _ (List.mem_singleton_self _))⟩
  · rintro (hon | ⟨⟨l₁, x, l₂, rfl, hon, hoff⟩, hnot⟩)
    · exact ⟨log, e, [], rfl, hon, fun x hx => absurd hx List.not_mem_nil⟩
    · refine ⟨l₁, x, l₂ ++ [e], ?_, hon, ?_⟩
      · rw [List.append_assoc, List.cons_append]
      · intro z hz
        obtain hz | hz := List.mem_append.mp hz
        · exact hoff z hz
        · rw [List.mem_singleton.mp hz]
          exact hnot

/-- Events that are not `on` only end what was so before. -/
theorem since_append (hes : ∀ x ∈ es, ¬ on x) :
    Since on off (log ++ es) ↔ Since on off log ∧ ∀ x ∈ es, ¬ off x := by
  induction es using List.reverseRecOn with
  | nil => simp
  | append_singleton es e ih =>
    rw [← List.append_assoc, since_snoc,
      ih fun x hx => hes x (List.mem_append_left _ hx)]
    have he : ¬ on e := hes e (List.mem_append_right _ (List.mem_singleton_self e))
    simp only [he, false_or, List.mem_append, List.mem_singleton, or_imp, forall_and, forall_eq,
      and_assoc]

theorem always_snoc : Always A (log ++ [e]) ↔ Always A log ∧ A log e := by
  constructor
  · intro h
    refine ⟨fun l₁ x l₂ hlog => h l₁ x (l₂ ++ [e]) ?_, h log e [] rfl⟩
    rw [hlog, List.append_assoc, List.cons_append]
  · rintro ⟨h, he⟩ l₁ x l₂ hlog
    obtain rfl | ⟨l₂, y, rfl⟩ := List.eq_nil_or_concat' l₂
    · obtain ⟨rfl, hx⟩ := List.append_inj' hlog rfl
      obtain rfl := List.singleton_inj.mp hx
      exact he
    · rw [← List.cons_append, ← List.append_assoc] at hlog
      obtain ⟨rfl, -⟩ := List.append_inj' hlog rfl
      exact h l₁ x l₂ rfl

/-- Events that are admissible whatever was before them. -/
theorem always_append (h : Always A log) (hes : ∀ x ∈ es, ∀ l, A l x) : Always A (log ++ es) := by
  induction es using List.reverseRecOn with
  | nil => rwa [List.append_nil]
  | append_singleton es e ih =>
    rw [← List.append_assoc, always_snoc]
    exact ⟨ih fun x hx => hes x (List.mem_append_left _ hx),
      hes e (List.mem_append_right _ (List.mem_singleton_self e)) _⟩

end HomeAddons.Common
