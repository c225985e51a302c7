import HomeAddons.Common.Result
import HomeAddons.Common.Run

/-!
# Idempotent calls

A service keeps a memo of the requests it has carried out: `memo s k` is what it filed under the
key `k`. A call is `Replayed` by its memo when it files an entry with its own fingerprint, answers
a key that holds such an entry from the entry, and raises on a key that holds any other.

* `Replayed.retry`: a call that has succeeded once succeeds again after any run that keeps the
  memo; it leaves the state alone, and its answer is the one the entry gives.
* `Replayed.conflict`: after such a run a call with another fingerprint raises.
-/

namespace HomeAddons.Common

variable {σ ι κ μ υ α β ε : Type}

/-- A step keeps what the memo holds. -/
def Remembers (memo : σ → κ → Option μ) (s s' : σ) : Prop :=
  ∀ k e, memo s k = some e → memo s' k = some e

namespace Remembers

variable {memo : σ → κ → Option μ} {s s₁ s' : σ}

theorem refl (s : σ) : Remembers memo s s := fun _ _ h => h

theorem trans (h : Remembers memo s s₁) (h' : Remembers memo s₁ s') : Remembers memo s s' :=
  fun k e he => h' k e (h k e he)

/-- A step that does not change the memo. -/
theorem of_eq (h : ∀ k, memo s' k = memo s k) : Remembers memo s s' := by
  intro k e he
  rwa [h]

/-- A run of steps that keep the memo keeps it. -/
theorem run {step : σ → ι → σ} (hstep : ∀ s i, Remembers memo s (step s i)) (s : σ)
    (is : List ι) : Remembers memo s (runFrom step s is) := by
  induction is generalizing s with
  | nil => exact refl s
  | cons i is ih => exact (hstep s i).trans (ih _)

end Remembers

/-- The call of a request, in any surroundings `u : υ` and from any state in `I`, as the memo sees
    it: `mine` are the entries with the fingerprint of the request, `echo` says which answers an
    entry gives. -/
structure Replayed (I : σ → Prop) (memo : σ → κ → Option μ) (key : κ) (mine : μ → Prop)
    (echo : μ → α → Prop) (call : υ → σ → Except ε (σ × α)) : Prop where
  files : ∀ u s s' a, I s → call u s = .ok (s', a) → ∃ e, memo s' key = some e ∧ mine e
  replays : ∀ u s e, I s → memo s key = some e → mine e → ∃ a, call u s = .ok (s, a) ∧ echo e a
  rejects : ∀ u s e, memo s key = some e → ¬ mine e → ∃ err, call u s = .error err

namespace Replayed

variable {I : σ → Prop} {memo : σ → κ → Option μ} {key : κ} {mine mine' : μ → Prop}
  {echo : μ → α → Prop} {echo' : μ → β → Prop} {call : υ → σ → Except ε (σ × α)}
  {call' : υ → σ → Except ε (σ × β)} {u : υ} {s s₁ s₂ : σ} {a : α}

/-- A call that has succeeded replays in every later state. -/
theorem retry (h : Replayed I memo key mine echo call) (hs : I s) (hs₂ : I s₂)
    (hcall : call u s = .ok (s₁, a)) (hkeep : Remembers memo s₁ s₂) (u' : υ) :
    ∃ e a', memo s₁ key = some e ∧ call u' s₂ = .ok (s₂, a') ∧ echo e a' := by
  obtain ⟨e, he, hmine⟩ := h.files u s s₁ a hs hcall
  obtain ⟨a', ha', hecho⟩ := h.replays u' s₂ e hs₂ (hkeep key e he) hmine
  exact ⟨e, a', he, ha', hecho⟩

/-- A key that a call has filed is refused to every call with another fingerprint. -/
theorem conflict (h : Replayed I memo key mine echo call)
    (h' : Replayed I memo key mine' echo' call') (hapart : ∀ e, mine e → ¬ mine' e) (hs : I s)
    (hcall : call u s = .ok (s₁, a)) (hkeep : Remembers memo s₁ s₂) (u' : υ) :
    ∃ err, call' u' s₂ = .error err := by
  obtain ⟨e, he, hmine⟩ := h.files u s s₁ a hs hcall
  exact h'.rejects u' s₂ e (hkeep key e he) (hapart e hmine)

end Replayed

end HomeAddons.Common
