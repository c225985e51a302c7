import Mathlib

/-!
# Programs between other programs

A program that shares a state with others is a tree of atomic transactions on the state and of
queries whose replies it does not choose (a clock, a lock, a remote service). `Runs` executes it with
any steps of the others between two of its own.

* `Runs.of_done`, `Runs.of_transact`, `Runs.of_ask`: what a run begins with.
* `Runs.of_bind`: a run of a sequence is a run of its parts.
* `Program.alone`, `runs_alone`: the run that nobody interferes with.
-/

namespace HomeAddons.Common

/-- A program over a shared state `σ` that asks queries. -/
inductive Program (σ : Type) (Query : Type) (Reply : Query → Type) (α : Type) where
  | done (a : α)
  /-- One transaction: what it makes of the state, and what follows from what it read. -/
  | transact (commit : σ → σ) (next : σ → Program σ Query Reply α)
  | ask (q : Query) (next : Reply q → Program σ Query Reply α)

namespace Program

variable {σ Query : Type} {Reply : Query → Type} {α β : Type}

/-- `p` and then `f` of what it returns. -/
def bind (p : Program σ Query Reply α) (f : α → Program σ Query Reply β) :
    Program σ Query Reply β :=
  match p with
  | done a => f a
  | transact commit next => transact commit fun s => (next s).bind f
  | ask q next => ask q fun r => (next r).bind f

end Program

section Runs

variable {σ Query : Type} {Reply : Query → Type} {α β : Type}

/-- The program runs from the first state to the last one, with the replies it was given; between
    its own transactions the others take any number of steps. -/
inductive Runs (others : σ → σ → Prop) :
    Program σ Query Reply α → σ → List (Sigma Reply) → α → σ → Prop where
  | done (a : α) (s : σ) : Runs others (.done a) s [] a s
  | other {p : Program σ Query Reply α} {s s' t : σ} {replies : List (Sigma Reply)} {a : α}
      (h : others s s') (hrun : Runs others p s' replies a t) : Runs others p s replies a t
  | transact {commit : σ → σ} {next : σ → Program σ Query Reply α} {s t : σ}
      {replies : List (Sigma Reply)} {a : α} (hrun : Runs others (next s) (commit s) replies a t) :
      Runs others (.transact commit next) s replies a t
  | ask {q : Query} {next : Reply q → Program σ Query Reply α} {s t : σ}
      {replies : List (Sigma Reply)} {a : α} (r : Reply q)
      (hrun : Runs others (next r) s replies a t) :
      Runs others (.ask q next) s (⟨q, r⟩ :: replies) a t

namespace Runs

open Relation

variable {others : σ → σ → Prop} {s t : σ} {replies : List (Sigma Reply)} {a : α}

/-- Nothing is left but steps of the others. -/
theorem of_done {b : α} (h : Runs others (.done b : Program σ Query Reply α) s replies a t) :
    replies = [] ∧ a = b ∧ ReflTransGen others s t := by
  generalize hp : (.done b : Program σ Query Reply α) = p at h
  induction h with
  | done a s =>
    cases hp
    exact ⟨rfl, rfl, .refl⟩
  | other hstep _ ih =>
    obtain ⟨hreplies, ha, hsteps⟩ := ih hp
    exact ⟨hreplies, ha, .head hstep hsteps⟩
  | transact _ _ => cases hp
  | ask _ _ _ => cases hp

/-- The transaction takes place in a state that the others have led to. -/
theorem of_transact {commit : σ → σ} {next : σ → Program σ Query Reply α}
    (h : Runs others (.transact commit next) s replies a t) :
    ∃ s', ReflTransGen others s s' ∧ Runs others (next s') (commit s') replies a t := by
  generalize hp : (.transact commit next : Program σ Query Reply α) = p at h
  induction h with
  | done a s => cases hp
  | other hstep _ ih =>
    obtain ⟨s', hsteps, hrun⟩ := ih hp
    exact ⟨s', .head hstep hsteps, hrun⟩
  | transact hrun _ =>
    cases hp
    exact ⟨_, .refl, hrun⟩
  | ask _ _ _ => cases hp

/-- The query is answered in a state that the others have led to. -/
theorem of_ask {q : Query} {next : Reply q → Program σ Query Reply α}
    (h : Runs others (.ask q next) s replies a t) :
    ∃ r rest s', replies = ⟨q, r⟩ :: rest ∧ ReflTransGen others s s' ∧
      Runs others (next r) s' rest a t := by
  generalize hp : (.ask q next : Program σ Query Reply α) = p at h
  induction h with
  | done a s => cases hp
  | other hstep _ ih =>
    obtain ⟨r, rest, s', hreplies, hsteps, hrun⟩ := ih hp
    exact ⟨r, rest, s', hreplies, .head hstep hsteps, hrun⟩
  | transact _ _ => cases hp
  | ask r hrun _ =>
    cases hp
    exact ⟨r, _, _, rfl, .refl, hrun⟩

/-- A run of a sequence is a run of its first part and then one of the second. -/
theorem of_bind {p : Program σ Query Reply α} {f : α → Program σ Query Reply β} {b : β}
    (h : Runs others (p.bind f) s replies b t) :
    ∃ a first second s', replies = first ++ second ∧ Runs others p s first a s' ∧
      Runs others (f a) s' second b t := by
  generalize hp : p.bind f = q at h
  induction h generalizing p with
  | done b s =>
    cases p with
    | done a =>
      have hnext : f a = .done b := hp
      exact ⟨a, [], [], s, rfl, .done a s, hnext ▸ .done b s⟩
    | transact commit next => cases hp
    | ask q next => cases hp
  | other hstep _ ih =>
    obtain ⟨a, first, second, s', hreplies, hfirst, hsecond⟩ := ih hp
    exact ⟨a, first, second, s', hreplies, .other hstep hfirst, hsecond⟩
  | @transact commit next s t replies b hrun ih =>
    cases p with
    | done a =>
      have hnext : f a = .transact commit next := hp
      exact ⟨a, [], replies, s, rfl, .done a s, hnext ▸ .transact hrun⟩
    | transact commit next =>
      cases hp
      obtain ⟨a, first, second, s', hreplies, hfirst, hsecond⟩ := ih rfl
      exact ⟨a, first, second, s', hreplies, .transact hfirst, hsecond⟩
    | ask q next => cases hp
  | @ask q next s t replies b r hrun ih =>
    cases p with
    | done a =>
      have hnext : f a = .ask q next := hp
      exact ⟨a, [], ⟨q, r⟩ :: replies, s, rfl, .done a s, hnext ▸ .ask r hrun⟩
    | transact commit next => cases hp
    | ask q next =>
      cases hp
      obtain ⟨a, first, second, s', rfl, hfirst, hsecond⟩ := ih rfl
      exact ⟨a, _ :: first, second, s', rfl, .ask r hfirst, hsecond⟩

end Runs

/-- The program runs alone, and every query is answered by the same function. -/
def Program.alone (answer : ∀ q, Reply q) :
    Program σ Query Reply α → σ → List (Sigma Reply) × α × σ
  | .done a, s => ([], a, s)
  | .transact commit next, s => (next s).alone answer (commit s)
  | .ask q next, s =>
    let (replies, rest) := (next (answer q)).alone answer s
    (⟨q, answer q⟩ :: replies, rest)

theorem runs_alone {others : σ → σ → Prop} (answer : ∀ q, Reply q)
    (p : Program σ Query Reply α) (s : σ) :
    Runs others p s (p.alone answer s).1 (p.alone answer s).2.1 (p.alone answer s).2.2 := by
  induction p generalizing s with
  | done a => exact .done a s
  | transact commit next ih => exact .transact (ih s (commit s))
  | ask q next ih => exact .ask (answer q) (ih (answer q) s)

theorem mem_alone_ask (answer : ∀ q, Reply q) (q : Query) (next : Reply q → Program σ Query Reply α)
    (s : σ) : ⟨q, answer q⟩ ∈ ((Program.ask q next).alone answer s).1 :=
  List.mem_cons_self

theorem reply_of_alone {answer : ∀ q, Reply q} {p : Program σ Query Reply α} {s : σ}
    {q : Query} {r : Reply q} (h : ⟨q, r⟩ ∈ (p.alone answer s).1) : r = answer q := by
  induction p generalizing s with
  | done a => exact absurd h List.not_mem_nil
  | transact commit next ih => exact ih s h
  | ask q' next ih =>
    obtain h | h := List.mem_cons.mp h
    · cases h
      rfl
    · exact ih (answer q') h

end Runs

end HomeAddons.Common
