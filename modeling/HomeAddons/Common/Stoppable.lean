import Mathlib

/-!
# Programs that may stop

A program changes a state and returns a value, or it stops on the way, with an exception or because
the process ends, and the state stays as it is then.

* `Exits P p Q E`: from a state in `P`, the program returns in `Q` or stops in `E`.
* `Exits.bind`, `Exits.ite`, `Exits.tryCatch`, `Exits.conseq`: the rules of composition.
* `Exits.returns`: what a program that cannot stop returns.
-/

namespace HomeAddons.Common

variable {σ ε α β : Type}

/-- From a state in `P`, the program returns in `Q` or stops in `E`. -/
def Exits (P : σ → Prop) (p : EStateM ε σ α) (Q : α → σ → Prop) (E : ε → σ → Prop) : Prop :=
  ∀ s, P s → match p s with
    | .ok a s' => Q a s'
    | .error e s' => E e s'

namespace Exits

variable {P P' : σ → Prop} {p q : EStateM ε σ α} {f : α → EStateM ε σ β} {R Q Q' : α → σ → Prop}
  {S : β → σ → Prop} {S' : σ → Prop} {E E' : ε → σ → Prop}

theorem conseq (h : Exits P p Q E) (hP : ∀ s, P' s → P s) (hQ : ∀ a s, Q a s → Q' a s)
    (hE : ∀ e s, E e s → E' e s) : Exits P' p Q' E' := by
  intro s hs
  have hp := h s (hP s hs)
  cases hrun : p s with
  | ok a s' =>
    rw [hrun] at hp
    exact hQ a s' hp
  | error e s' =>
    rw [hrun] at hp
    exact hE e s' hp

theorem pre (h : Exits P p Q E) (hP : ∀ s, P' s → P s) : Exits P' p Q E :=
  h.conseq hP (fun _ _ hq => hq) fun _ _ he => he

theorem pure {a : α} (h : ∀ s, P s → Q a s) : Exits P (pure a) Q E := h

theorem throw {e : ε} (h : ∀ s, P s → E e s) : Exits P (throw e) Q E := h

theorem bind (hp : Exits P p R E) (hf : ∀ a, Exits (R a) (f a) S E) : Exits P (p >>= f) S E := by
  intro s hs
  have hrun := hp s hs
  show match EStateM.bind p f s with
    | .ok a s' => S a s'
    | .error e s' => E e s'
  unfold EStateM.bind
  cases hps : p s with
  | ok a s' =>
    rw [hps] at hrun
    exact hf a s' hrun
  | error e s' =>
    rw [hps] at hrun
    exact hrun

theorem modify {f : σ → σ} (h : ∀ s, P s → S' (f s)) :
    Exits P (modify f : EStateM ε σ PUnit) (fun _ => S') E := h

theorem set {t : σ} (h : ∀ s, P s → S' t) : Exits P (set t : EStateM ε σ PUnit) (fun _ => S') E := h

/-- An exception is handled in the state in which it was raised. -/
theorem tryCatch {h : ε → EStateM ε σ α} (hp : Exits P p Q E') (hh : ∀ e, Exits (E' e) (h e) Q E) :
    Exits P (tryCatch p h) Q E := by
  intro s hs
  have hrun := hp s hs
  show match EStateM.tryCatch p h s with
    | .ok a s' => Q a s'
    | .error e s' => E e s'
  unfold EStateM.tryCatch
  dsimp only
  cases hps : p s with
  | ok a s' =>
    rw [hps] at hrun
    exact hrun
  | error e s' =>
    rw [hps] at hrun
    exact hh e s' hrun

/-- A program that first reads the state. -/
theorem get_bind {f : σ → EStateM ε σ β} (h : ∀ s, P s → Exits (fun s' => s' = s) (f s) S E) :
    Exits P (get >>= f) S E := fun s hs => h s hs s rfl

theorem ite {c : Prop} [Decidable c] (hp : c → Exits P p Q E) (hq : ¬ c → Exits P q Q E) :
    Exits P (if c then p else q) Q E := by
  split_ifs with hc
  · exact hp hc
  · exact hq hc

/-- A program may be looked at from each state that it can start in. -/
theorem of_state (h : ∀ s, P s → Exits (fun s' => s' = s) p Q E) : Exits P p Q E :=
  fun s hs => h s hs s rfl

/-- A program that cannot stop returns. -/
theorem returns (h : Exits P p Q fun _ _ => False) {s : σ} (hs : P s) :
    ∃ a s', p s = .ok a s' ∧ Q a s' := by
  have hrun := h s hs
  cases hps : p s with
  | ok a s' =>
    rw [hps] at hrun
    exact ⟨a, s', rfl, hrun⟩
  | error e s' =>
    rw [hps] at hrun
    exact hrun.elim

end Exits

end HomeAddons.Common
