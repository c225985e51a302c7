import Mathlib

/-!
# Runs of a deterministic system

A system is a step function `σ → ι → σ`; a run is a start state and a list of inputs.
`Throughout P` says that `P` holds in every state of the run, `EveryStep G` that every step is
taken from a state and with an input that satisfy `G`.

* `throughout_of_everyStep`: an invariant kept by every `G`-step holds in every state.
* `throughout_iff_everyStep`: when moreover every step outside `G` breaks `P`, the runs in
  which `P` holds throughout are exactly the runs all of whose steps are in `G`.
* `countSteps`: how many steps of the run there are of one kind; `countSteps_crossing`: what never
  decreases crosses a bound at most once.
* `established_iff`: a property that the first state lacks holds at the end of a run exactly when
  some step established it and no later step disturbed it.
* `Path R s ls s'`: the labels `ls` lead from `s` to `s'` in the labelled relation `R`, one step
  after the other.
-/

namespace HomeAddons.Common

variable {σ ι : Type} (step : σ → ι → σ)

/-- The last state of the run. -/
def runFrom (s : σ) (is : List ι) : σ := is.foldl step s

/-- `P` holds in every state of the run, the first and the last included. -/
def Throughout (P : σ → Prop) : σ → List ι → Prop
  | s, [] => P s
  | s, i :: is => P s ∧ Throughout P (step s i) is

/-- Every step of the run is taken from a state and with an input that satisfy `G`. -/
def EveryStep (G : σ → ι → Prop) : σ → List ι → Prop
  | _, [] => True
  | s, i :: is => G s i ∧ EveryStep G (step s i) is

/-- `s` is the last state of some run from `s₀`. -/
def ReachableFrom (s₀ s : σ) : Prop := ∃ is, s = runFrom step s₀ is

@[simp] theorem runFrom_nil (s : σ) : runFrom step s [] = s := rfl

@[simp] theorem runFrom_cons (s : σ) (i : ι) (is : List ι) :
    runFrom step s (i :: is) = runFrom step (step s i) is := rfl

theorem runFrom_append (s : σ) (is js : List ι) :
    runFrom step s (is ++ js) = runFrom step (runFrom step s is) js := List.foldl_append

variable {P I : σ → Prop} {s s₀ : σ} {is js : List ι} {G H : σ → ι → Prop} {f : σ → ℕ}

theorem Throughout.head (h : Throughout step P s is) : P s := by
  cases is with
  | nil => exact h
  | cons i is => exact h.1

theorem Throughout.last (h : Throughout step P s is) : P (runFrom step s is) := by
  induction is generalizing s with
  | nil => exact h
  | cons i is ih => exact ih h.2

theorem Throughout.imp {Q : σ → Prop} (hPQ : ∀ s, P s → Q s) (h : Throughout step P s is) :
    Throughout step Q s is := by
  induction is generalizing s with
  | nil => exact hPQ s h
  | cons i is ih => exact ⟨hPQ s h.1, ih h.2⟩

theorem throughout_append :
    Throughout step P s (is ++ js) ↔
      Throughout step P s is ∧ Throughout step P (runFrom step s is) js := by
  induction is generalizing s with
  | nil => exact ⟨fun h => ⟨h.head, h⟩, fun h => h.2⟩
  | cons i is ih => simp [Throughout, ih, and_assoc]

theorem everyStep_append :
    EveryStep step G s (is ++ js) ↔
      EveryStep step G s is ∧ EveryStep step G (runFrom step s is) js := by
  induction is generalizing s with
  | nil => simp [EveryStep]
  | cons i is ih => simp [EveryStep, ih, and_assoc]

theorem everyStep_true (h : ∀ s i, G s i) (s : σ) (is : List ι) : EveryStep step G s is := by
  induction is generalizing s with
  | nil => trivial
  | cons i is ih => exact ⟨h s i, ih _⟩

theorem everyStep_of_forall {G : ι → Prop} (h : ∀ i ∈ is, G i) (s : σ) :
    EveryStep step (fun _ i => G i) s is := by
  induction is generalizing s with
  | nil => trivial
  | cons i is ih =>
    exact ⟨h i List.mem_cons_self, ih (fun i hi => h i (List.mem_cons_of_mem _ hi)) _⟩

theorem everyStep_and :
    EveryStep step (fun s i => G s i ∧ H s i) s is ↔
      EveryStep step G s is ∧ EveryStep step H s is := by
  induction is generalizing s with
  | nil => simp [EveryStep]
  | cons i is ih => simp only [EveryStep, ih, and_and_and_comm]

/-- What follows from a property of the state before a step holds of every step of a run in which
    the property holds throughout. -/
theorem Throughout.everyStep (h : ∀ s i, P s → H s i) (hP : Throughout step P s is) :
    EveryStep step H s is := by
  induction is generalizing s with
  | nil => trivial
  | cons i is ih => exact ⟨h s i hP.1, ih hP.2⟩

/-- Conditions on steps that agree in every state of an invariant agree on runs. -/
theorem everyStep_congr {G' : σ → ι → Prop} (hI : ∀ s i, I s → I (step s i))
    (h : ∀ s i, I s → (G s i ↔ G' s i)) (h₀ : I s) :
    EveryStep step G s is ↔ EveryStep step G' s is := by
  induction is generalizing s with
  | nil => exact Iff.rfl
  | cons i is ih => exact and_congr (h s i h₀) (ih (hI s i h₀))

/-- An invariant that every step in `G` keeps holds in every state of a run of such steps. -/
theorem throughout_of_everyStep (hstep : ∀ s i, I s → G s i → I (step s i)) (h₀ : I s)
    (hG : EveryStep step G s is) : Throughout step I s is := by
  induction is generalizing s with
  | nil => exact h₀
  | cons i is ih => exact ⟨h₀, ih (hstep s i h₀ hG.1) hG.2⟩

/-- What every step in `G` from the invariant satisfies, every step of a run of such steps does. -/
theorem EveryStep.imp (hstep : ∀ s i, I s → G s i → I (step s i)) (h : ∀ s i, I s → G s i → H s i)
    (h₀ : I s) (hG : EveryStep step G s is) : EveryStep step H s is := by
  induction is generalizing s with
  | nil => trivial
  | cons i is ih => exact ⟨h s i h₀ hG.1, ih (hstep s i h₀ hG.1) hG.2⟩

theorem invariant_of_everyStep (hstep : ∀ s i, I s → G s i → I (step s i)) (h₀ : I s)
    (hG : EveryStep step G s is) : I (runFrom step s is) :=
  (throughout_of_everyStep step hstep h₀ hG).last

/-- An invariant that every step keeps holds in every reachable state. -/
theorem invariant_of_reachable (hstep : ∀ s i, I s → I (step s i)) (h₀ : I s₀)
    (h : ReachableFrom step s₀ s) : I s := by
  obtain ⟨is, rfl⟩ := h
  exact invariant_of_everyStep step (G := fun _ _ => True) (fun s i hs _ => hstep s i hs) h₀
    (everyStep_true step (fun _ _ => trivial) _ _)

theorem ReachableFrom.refl (s₀ : σ) : ReachableFrom step s₀ s₀ := ⟨[], rfl⟩

theorem ReachableFrom.next (h : ReachableFrom step s₀ s) (i : ι) :
    ReachableFrom step s₀ (step s i) := by
  obtain ⟨is, rfl⟩ := h
  exact ⟨is ++ [i], by rw [runFrom_append]; rfl⟩

/-- When the invariant implies `P`, is kept by the steps in `G`, and every other step from it
    breaks `P`, then `P` holds throughout exactly the runs whose steps are all in `G`. -/
theorem throughout_iff_everyStep (hP : ∀ s, I s → P s) (hstep : ∀ s i, I s → G s i → I (step s i))
    (hbad : ∀ s i, I s → ¬ G s i → ¬ P (step s i)) (h₀ : I s) :
    Throughout step P s is ↔ EveryStep step G s is := by
  constructor
  · intro h
    induction is generalizing s with
    | nil => trivial
    | cons i is ih =>
      have hG : G s i := by
        by_contra hn
        exact hbad s i h₀ hn h.2.head
      exact ⟨hG, ih (hstep s i h₀ hG) h.2⟩
  · intro hG
    exact (throughout_of_everyStep step hstep h₀ hG).imp step hP

/-- The same, with a property of the steps beside the one of the states: from the invariant, the
    steps in `G` are those that have the one and keep the other. -/
theorem sound_iff_everyStep {Q : σ → ι → Prop} (hP : ∀ s, I s → P s)
    (hstep : ∀ s i, I s → G s i → I (step s i))
    (hiff : ∀ s i, I s → ((P (step s i) ∧ Q s i) ↔ G s i)) (h₀ : I s) :
    (Throughout step P s is ∧ EveryStep step Q s is) ↔ EveryStep step G s is := by
  constructor
  · rintro ⟨hthroughout, hQ⟩
    induction is generalizing s with
    | nil => trivial
    | cons i is ih =>
      have hG : G s i := (hiff s i h₀).mp ⟨hthroughout.2.head, hQ.1⟩
      exact ⟨hG, ih (hstep s i h₀ hG) hthroughout.2 hQ.2⟩
  · intro hG
    exact ⟨(throughout_of_everyStep step hstep h₀ hG).imp step hP,
      hG.imp step hstep (fun s i hs hg => ((hiff s i hs).mpr hg).2) h₀⟩

/-- Conditions that can be decided in every state can be decided on a run. -/
instance Throughout.decidable {P : σ → Prop} [∀ s, Decidable (P s)] :
    (s : σ) → (is : List ι) → Decidable (Throughout step P s is)
  | s, [] => inferInstanceAs (Decidable (P s))
  | s, i :: is => @instDecidableAnd (P s) _ _ (Throughout.decidable (step s i) is)

instance EveryStep.decidable {G : σ → ι → Prop} [∀ s i, Decidable (G s i)] :
    (s : σ) → (is : List ι) → Decidable (EveryStep step G s is)
  | _, [] => inferInstanceAs (Decidable True)
  | s, i :: is => @instDecidableAnd (G s i) _ _ (EveryStep.decidable (step s i) is)

/-- How many steps of the run are taken from a state and with an input that satisfy `G`. -/
def countSteps (G : σ → ι → Bool) : σ → List ι → ℕ
  | _, [] => 0
  | s, i :: is => (G s i).toNat + countSteps G (step s i) is

theorem countSteps_append {G : σ → ι → Bool} :
    countSteps step G s (is ++ js) =
      countSteps step G s is + countSteps step G (runFrom step s is) js := by
  induction is generalizing s with
  | nil => exact (Nat.zero_add _).symm
  | cons i is ih => simp only [List.cons_append, countSteps, ih, runFrom_cons, Nat.add_assoc]

theorem countSteps_snoc {G : σ → ι → Bool} {i : ι} :
    countSteps step G s (is ++ [i]) =
      countSteps step G s is + (G (runFrom step s is) i).toNat := countSteps_append step

/-- Kinds of steps that agree in every state of an invariant are equally frequent. -/
theorem countSteps_congr {G G' : σ → ι → Bool} (hI : ∀ s i, I s → I (step s i))
    (h : ∀ s i, I s → G s i = G' s i) (h₀ : I s) :
    countSteps step G s is = countSteps step G' s is := by
  induction is generalizing s with
  | nil => rfl
  | cons i is ih =>
    unfold countSteps
    rw [h s i h₀, ih (hI s i h₀)]

/-- What never decreases along a step never decreases along a run. -/
theorem le_runFrom (hI : ∀ s i, I s → I (step s i)) (hmono : ∀ s i, I s → f s ≤ f (step s i))
    (h₀ : I s) : f s ≤ f (runFrom step s is) := by
  induction is generalizing s with
  | nil => exact Nat.le_refl _
  | cons i is ih => exact Nat.le_trans (hmono s i h₀) (ih (hI s i h₀))

/-- What never decreases crosses a bound at most once, and does when it ends up beyond it. -/
theorem countSteps_crossing (hI : ∀ s i, I s → I (step s i))
    (hmono : ∀ s i, I s → f s ≤ f (step s i)) (k : ℕ) (h₀ : I s) :
    countSteps step (fun s i => decide (f s < k ∧ k ≤ f (step s i))) s is =
      if f s < k ∧ k ≤ f (runFrom step s is) then 1 else 0 := by
  induction is generalizing s with
  | nil =>
    rw [if_neg fun h => absurd h.2 (Nat.not_le.mpr h.1)]
    rfl
  | cons i is ih =>
    have hstep := hmono s i h₀
    have hrest : f (step s i) ≤ f (runFrom step (step s i) is) :=
      le_runFrom step hI hmono (hI s i h₀)
    rw [countSteps, ih (hI s i h₀), runFrom_cons]
    by_cases hnow : f s < k ∧ k ≤ f (step s i)
    · rw [decide_eq_true hnow, if_neg fun h => absurd hnow.2 (Nat.not_le.mpr h.1),
        if_pos ⟨hnow.1, Nat.le_trans hnow.2 hrest⟩]
      rfl
    · rw [decide_eq_false hnow, Bool.toNat_false, Nat.zero_add]
      refine if_congr ⟨fun h => ⟨?_, h.2⟩, fun h => ⟨?_, h.2⟩⟩ rfl rfl
      · omega
      · have hfar : ¬ k ≤ f (step s i) := fun hk => hnow ⟨h.1, hk⟩
        omega

/-- Some step of the run establishes and no later step disturbs. -/
def Established (Est Dis : σ → ι → Prop) : σ → List ι → Prop
  | _, [] => False
  | s, i :: is => (Est s i ∧ EveryStep step (fun s i => ¬ Dis s i) (step s i) is) ∨
      Established Est Dis (step s i) is

/-- When, from the states in `I`, the steps in `Est` are those that bring `P` about and the steps
    in `Dis` are those that end it, `P` holds at the end of a run exactly when it was established
    and not disturbed. -/
theorem established_iff {Est Dis : σ → ι → Prop} (hI : ∀ s i, I s → I (step s i))
    (hest : ∀ s i, I s → Est s i → P (step s i))
    (hcross : ∀ s i, I s → ¬ P s → P (step s i) → Est s i)
    (hkeep : ∀ s i, I s → P s → ¬ Dis s i → P (step s i))
    (hdis : ∀ s i, I s → Dis s i → ¬ P (step s i)) (h₀ : I s) (hn : ¬ P s) :
    P (runFrom step s is) ↔ Established step Est Dis s is := by
  have hfrom : ∀ (is : List ι) (s : σ), I s → P (runFrom step s is) →
      (P s ∧ EveryStep step (fun s i => ¬ Dis s i) s is) ∨ Established step Est Dis s is := by
    intro is
    induction is with
    | nil => exact fun s _ hP => .inl ⟨hP, trivial⟩
    | cons i is ih =>
      intro s hs hP
      obtain ⟨hPi, hsteps⟩ | hlater := ih (step s i) (hI s i hs) hP
      · by_cases hPs : P s
        · exact .inl ⟨hPs, fun hd => hdis s i hs hd hPi, hsteps⟩
        · exact .inr (.inl ⟨hcross s i hs hPs hPi, hsteps⟩)
      · exact .inr (.inr hlater)
  constructor
  · intro hP
    exact (hfrom is s h₀ hP).resolve_left fun h => hn h.1
  · clear hn
    intro h
    induction is generalizing s with
    | nil => exact h.elim
    | cons i is ih =>
      obtain ⟨hE, hsteps⟩ | hlater := h
      · exact (invariant_of_everyStep step (I := fun s => I s ∧ P s)
          (fun s i hs hd => ⟨hI s i hs.1, hkeep s i hs.1 hs.2 hd⟩)
          ⟨hI s i h₀, hest s i h₀ hE⟩ hsteps).2
      · exact ih (hI s i h₀) hlater

/-! ## Labelled relations -/

section Path

variable {R : σ → ι → σ → Prop}

/-- The labels lead from the first state to the second. -/
inductive Path (R : σ → ι → σ → Prop) : σ → List ι → σ → Prop where
  | nil (s : σ) : Path R s [] s
  | cons {s s₁ s' : σ} {l : ι} {ls : List ι} : R s l s₁ → Path R s₁ ls s' → Path R s (l :: ls) s'

variable {s s' : σ} {ls : List ι}

theorem Path.single {l : ι} (h : R s l s') : Path R s [l] s' := .cons h (.nil s')

theorem Path.append {s₁ : σ} {ls' : List ι} (h : Path R s ls s₁) (h' : Path R s₁ ls' s') :
    Path R s (ls ++ ls') s' := by
  induction h with
  | nil s => exact h'
  | cons hstep _ ih => exact .cons hstep (ih h')

/-- An invariant kept by the steps with a label in `G` is kept along a path of such labels. -/
theorem Path.invariant {I : σ → Prop} {G : ι → Prop}
    (hstep : ∀ s l s', I s → G l → R s l s' → I s') (h : Path R s ls s') (hG : ∀ l ∈ ls, G l)
    (h₀ : I s) : I s' := by
  induction h with
  | nil s => exact h₀
  | cons hs _ ih =>
    exact ih (fun l hl => hG l (List.mem_cons_of_mem _ hl))
      (hstep _ _ _ h₀ (hG _ List.mem_cons_self) hs)

end Path

end HomeAddons.Common
