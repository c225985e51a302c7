import Mathlib

/-!
# Raising and returning

A call that may raise is an `Except ε α`. `ensure c e` is the guard `if not c: raise e`,
`orRaise` is a lookup that raises when there is nothing to return. The `simp` set turns
"this chain of guards and lookups returned `b`" into the conjunction of what every link said,
so that a guarded program is inverted by one `simp`.
-/

namespace HomeAddons.Common

variable {ε α β : Type}

/-- `if not c: raise e`. -/
def ensure (c : Prop) [Decidable c] (e : ε) : Except ε Unit := if c then .ok () else .error e

/-- The value of a lookup, or `raise e`. -/
def orRaise (x : Option α) (e : ε) : Except ε α :=
  match x with
  | some a => .ok a
  | none => .error e

variable {x : Except ε α} {f : α → Except ε β} {b : β} {σ : Type} {l : List α} {s s' : σ} {a : α}
  {bs : List β} {c : Prop} {e e' : ε}

@[simp] theorem bind_eq_ok : (x >>= f) = .ok b ↔ ∃ a, x = .ok a ∧ f a = .ok b := by
  cases x <;> simp [bind, Except.bind]

/-- What holds of all results of a program holds when it holds after every first step. -/
theorem forall_ok_bind {P : β → Prop} (h : ∀ a, x = .ok a → ∀ b, f a = .ok b → P b) :
    ∀ b, (x >>= f) = .ok b → P b := by
  intro b hb
  obtain ⟨a, ha, hb⟩ := bind_eq_ok.mp hb
  exact h a ha b hb

/-- What every round of a loop keeps, the loop keeps. -/
theorem foldlM_ok {f : σ → α → Except ε σ} {P : σ → Prop}
    (hstep : ∀ a ∈ l, ∀ s s', P s → f s a = .ok s' → P s') (hs : P s)
    (hfold : l.foldlM f s = .ok s') : P s' := by
  induction l generalizing s with
  | nil =>
    cases hfold
    exact hs
  | cons a l ih =>
    rw [List.foldlM_cons, bind_eq_ok] at hfold
    obtain ⟨s₁, hs₁, hfold⟩ := hfold
    exact ih (fun a ha => hstep a (List.mem_cons_of_mem _ ha))
      (hstep a List.mem_cons_self s s₁ hs hs₁) hfold

/-- A loop over a list with `a` in it is a loop before `a`, the round of `a` and a loop after it. -/
theorem foldlM_mem {f : σ → α → Except ε σ} (ha : a ∈ l) (hfold : l.foldlM f s = .ok s') :
    ∃ l₁ l₂ s₁ s₂, l = l₁ ++ a :: l₂ ∧
      l₁.foldlM f s = .ok s₁ ∧ f s₁ a = .ok s₂ ∧ l₂.foldlM f s₂ = .ok s' := by
  obtain ⟨l₁, l₂, rfl⟩ := List.append_of_mem ha
  rw [List.foldlM_append, bind_eq_ok] at hfold
  obtain ⟨s₁, hs₁, hfold⟩ := hfold
  rw [List.foldlM_cons, bind_eq_ok] at hfold
  obtain ⟨s₂, hs₂, hfold⟩ := hfold
  exact ⟨l₁, l₂, s₁, s₂, rfl, hs₁, hs₂, hfold⟩

/-- The results of a loop, one for each item. -/
theorem mapM_ok (h : l.mapM f = .ok bs) : List.Forall₂ (fun a b => f a = .ok b) l bs := by
  induction l generalizing bs with
  | nil =>
    cases h
    exact .nil
  | cons a l ih =>
    rw [List.mapM_cons, bind_eq_ok] at h
    obtain ⟨b, hb, h⟩ := h
    rw [bind_eq_ok] at h
    obtain ⟨bs, hbs, h⟩ := h
    cases h
    exact .cons hb (ih hbs)

/-- A result of a loop is that of an item. -/
theorem mem_of_mapM_ok (h : l.mapM f = .ok bs) (hb : b ∈ bs) : ∃ a ∈ l, f a = .ok b := by
  have hall := mapM_ok h
  clear h
  induction hall with
  | nil => cases hb
  | cons hitem _ ih =>
    obtain rfl | hb := List.mem_cons.mp hb
    · exact ⟨_, List.mem_cons_self, hitem⟩
    · obtain ⟨a, ha, hitem⟩ := ih hb
      exact ⟨a, List.mem_cons_of_mem _ ha, hitem⟩

@[simp] theorem map_eq_ok {f : α → β} : (f <$> x) = .ok b ↔ ∃ a, x = .ok a ∧ f a = b := by
  cases x <;> simp [Functor.map, Except.map]

/-- A call that also returns a value ends in this state. -/
theorem fst_eq_ok {x : Except ε (α × β)} : Prod.fst <$> x = .ok a ↔ ∃ b, x = .ok (a, b) := by
  simp

@[simp] theorem except_map_eq_ok {f : α → β} :
    x.map f = .ok b ↔ ∃ a, x = .ok a ∧ f a = b := map_eq_ok

@[simp] theorem ok_bind (a : α) (f : α → Except ε β) : (Except.ok a >>= f) = f a := rfl

@[simp] theorem error_bind (e : ε) (f : α → Except ε β) :
    ((Except.error e : Except ε α) >>= f) = .error e := rfl

theorem toOption_eq_some : x.toOption = some a ↔ x = .ok a := by
  cases x <;> simp [Except.toOption]

@[simp] theorem ensure_eq_ok [Decidable c] {u : Unit} : ensure c e = .ok u ↔ c := by
  unfold ensure
  split_ifs with h <;> simp [h]

/-! What a chain of guards and lookups raises. -/

theorem bind_eq_error : (x >>= f) = .error e ↔ x = .error e ∨ ∃ a, x = .ok a ∧ f a = .error e := by
  cases x <;> simp [bind, Except.bind]

theorem ensure_eq_error [Decidable c] : ensure c e = .error e' ↔ ¬ c ∧ e = e' := by
  unfold ensure
  split_ifs with h <;> simp [h]

theorem orRaise_eq_error {x : Option α} : orRaise x e = .error e' ↔ x = none ∧ e = e' := by
  cases x <;> simp [orRaise]

theorem ensure_of [Decidable c] (h : c) (e : ε) : ensure c e = .ok () := by
  simp [h]

theorem ensure_bind_of [Decidable c] (h : c) (e : ε) (f : Unit → Except ε β) :
    (ensure c e >>= f) = f () := by
  rw [ensure_of h]; rfl

@[simp] theorem orRaise_eq_ok {x : Option α} : orRaise x e = .ok a ↔ x = some a := by
  cases x <;> simp [orRaise]

@[simp] theorem orRaise_some (a : α) (e : ε) : orRaise (some a) e = .ok a := rfl

@[simp] theorem pure_eq_ok {b : α} : (pure a : Except ε α) = .ok b ↔ a = b := by
  simp [pure, Except.pure]

end HomeAddons.Common
