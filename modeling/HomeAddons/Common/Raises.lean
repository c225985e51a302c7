import HomeAddons.Common.Result

/-!
# What a chain of checks raises

`Raises P x` says that the call `x` raises an exception of the kind `P`. The `simp` set takes a chain
of guards and lookups apart: it raises such an exception iff one of its links does after all the
links before it have returned.

* `StopsAt good bad l`: the first element of `l` that is not good is bad.
* `raises_mapM`: a loop raises iff it stops at an element that raises.
-/

namespace HomeAddons.Common

variable {ε α β : Type} {P : ε → Prop}

/-- The call raises an exception of the kind `P`. -/
def Raises (P : ε → Prop) (x : Except ε α) : Prop := ∃ e, x = .error e ∧ P e

@[simp] theorem raises_ok (a : α) : ¬ Raises P (.ok a) := by
  rintro ⟨e, h, -⟩
  cases h

variable {e : ε} {x : Except ε α} {f : α → Except ε β} {l : List α}

@[simp] theorem raises_error : Raises P (.error e : Except ε α) ↔ P e := by
  constructor
  · rintro ⟨e', h, he⟩
    cases h
    exact he
  · exact fun he => ⟨e, rfl, he⟩

@[simp] theorem raises_pure (a : α) : ¬ Raises P (pure a : Except ε α) := raises_ok a

@[simp] theorem raises_bind :
    Raises P (x >>= f) ↔ Raises P x ∨ ∃ a, x = .ok a ∧ Raises P (f a) := by
  cases x with
  | ok a =>
    rw [ok_bind]
    constructor
    · exact fun h => .inr ⟨a, rfl, h⟩
    · rintro (h | ⟨a', ha, h⟩)
      · exact absurd h (raises_ok a)
      · cases ha
        exact h
  | error e =>
    rw [error_bind, raises_error, raises_error]
    constructor
    · exact .inl
    · rintro (h | ⟨a, ha, -⟩)
      · exact h
      · cases ha

@[simp] theorem raises_map {f : α → β} : Raises P (f <$> x) ↔ Raises P x := by
  cases x with
  | ok a => exact iff_of_false (raises_ok (f a)) (raises_ok a)
  | error e => exact raises_error.trans raises_error.symm

@[simp] theorem raises_ensure {c : Prop} [Decidable c] : Raises P (ensure c e) ↔ ¬ c ∧ P e := by
  unfold ensure
  split_ifs with h <;> simp [h]

@[simp] theorem raises_orRaise {x : Option α} : Raises P (orRaise x e) ↔ x = none ∧ P e := by
  cases x with
  | none => simp [orRaise]
  | some a => simp

/-! ## Loops -/

/-- The first element that is not good is bad. -/
def StopsAt (good bad : α → Prop) (l : List α) : Prop :=
  ∃ before a after, l = before ++ a :: after ∧ (∀ b ∈ before, good b) ∧ bad a

section

variable {good bad : α → Prop}

@[simp] theorem stopsAt_nil : ¬ StopsAt good bad [] := by
  rintro ⟨before, a, after, h, -⟩
  exact List.append_ne_nil_of_right_ne_nil before (List.cons_ne_nil a after) h.symm

variable {l : List α}

@[simp] theorem stopsAt_cons {a : α} :
    StopsAt good bad (a :: l) ↔ bad a ∨ good a ∧ StopsAt good bad l := by
  constructor
  · rintro ⟨before, b, after, h, hgood, hbad⟩
    cases before with
    | nil =>
      cases h
      exact .inl hbad
    | cons c before =>
      cases h
      exact .inr ⟨hgood _ List.mem_cons_self, before, b, after, rfl,
        fun d hd => hgood d (List.mem_cons_of_mem _ hd), hbad⟩
  · rintro (hbad | ⟨ha, before, b, after, rfl, hgood, hbad⟩)
    · exact ⟨[], a, l, rfl, fun b hb => absurd hb List.not_mem_nil, hbad⟩
    · refine ⟨a :: before, b, after, rfl, ?_, hbad⟩
      rw [List.forall_mem_cons]
      exact ⟨ha, hgood⟩

theorem stopsAt_append {l' : List α} : StopsAt good bad (l ++ l') ↔
    StopsAt good bad l ∨ (∀ a ∈ l, good a) ∧ StopsAt good bad l' := by
  induction l with
  | nil => simp
  | cons a l ih =>
    rw [List.cons_append, stopsAt_cons, stopsAt_cons, ih, List.forall_mem_cons]
    tauto

theorem stopsAt_congr {good' bad' : α → Prop} (hgood : ∀ a, good a ↔ good' a)
    (hbad : ∀ a, bad a ↔ bad' a) : StopsAt good bad l ↔ StopsAt good' bad' l := by
  rw [funext fun a => propext (hgood a), funext fun a => propext (hbad a)]

end

/-- A loop returns iff every round of it does. -/
theorem returns_mapM : (∃ bs, l.mapM f = .ok bs) ↔ ∀ a ∈ l, ∃ b, f a = .ok b := by
  induction l with
  | nil => simp
  | cons a l ih =>
    rw [List.mapM_cons, List.forall_mem_cons, ← ih]
    simp

/-- A loop raises iff it stops at an element whose round raises. -/
theorem raises_mapM :
    Raises P (l.mapM f) ↔ StopsAt (fun a => ∃ b, f a = .ok b) (fun a => Raises P (f a)) l := by
  induction l with
  | nil => simp
  | cons a l ih =>
    rw [List.mapM_cons, stopsAt_cons, ← ih]
    simp only [raises_bind, raises_pure, and_false, exists_false, or_false, exists_and_right]

end HomeAddons.Common
