import HomeAddons.Common.Run
import HomeAddons.Runner.Recovery

/-!
# Runner Center v2: the system

`RunnerStore` as a transition system. A `Command` is a call that is one `BEGIN IMMEDIATE`
transaction; a status or a result is two. The system has two granularities:

* `Call.step`: whole calls, one after the other, on the store.
* `Center.step`: single transactions of any number of message calls in progress, interleaved with
  each other and with commands; a call in progress may also stop between its transactions.

`receive_eq_center` says that a whole message call is its arrival followed by its two
transactions. Calls that write nothing (`verify_credential` and the read-only views) are not
steps.
-/

namespace HomeAddons.Runner

open HomeAddons.Common

/-! ## Whole calls -/

/-- A call of `RunnerStore` that is one transaction. -/
inductive Command where
  | createEnrollment (env : Env) (payload : Dict)
  | redeemEnrollment (env : Env) (payload : Dict)
  | updateRunner (env : Env) (runnerId : Json) (payload : Dict)
  | revokeEnrollment (env : Env) (runnerId : Json) (payload : Dict)
  | regenerateEnrollment (env : Env) (runnerId : Json) (payload : Dict)
  | adminAction (env : Env) (runnerId : Json) (payload : Dict) (action : AdminAction)
  | heartbeat (env : Env) (payload : Dict) (credential : Json)
  | createWorkTask (env : Env) (payload : Dict)
  | commandTask (env : Env) (payload : Dict) (controlAvailable : Bool)
  | claimNext (env : Env)
  | markDispatched (env : Env) (taskId : Json)
  | rescheduleUndelivered (env : Env) (taskId runnerId epoch leaseId : Json)
  | resolveTaskRecovery (env : Env) (runnerId : Json) (payload : Dict)
  | sweep (env : Env) (order : RowOrder)

/-- The committed store of a command, or what it raises. -/
def Command.exec (cfg : Config) (s : Store) : Command → Except Raise Store
  | createEnrollment env payload => (Runner.createEnrollment cfg s env payload).map Prod.fst
  | redeemEnrollment env payload => (Runner.redeemEnrollment cfg s env payload).map Prod.fst
  | updateRunner env runnerId payload =>
    (Runner.updateRunner cfg s env runnerId payload).map Prod.fst
  | revokeEnrollment env runnerId payload =>
    (Runner.revokeEnrollment cfg s env runnerId payload).map Prod.fst
  | regenerateEnrollment env runnerId payload =>
    (Runner.regenerateEnrollment cfg s env runnerId payload).map Prod.fst
  | adminAction env runnerId payload action =>
    (Runner.adminAction cfg s env runnerId payload action).map Prod.fst
  | heartbeat env payload credential =>
    (Runner.heartbeat cfg s env payload credential).map Prod.fst
  | createWorkTask env payload => (Runner.createWorkTask cfg s env payload).map Prod.fst
  | commandTask env payload controlAvailable =>
    (Runner.commandTask cfg s env payload controlAvailable).map Prod.fst
  | claimNext env => (Runner.claimNext cfg s env).map Prod.fst
  | markDispatched env taskId => (Runner.markDispatched s env taskId).map Prod.fst
  | rescheduleUndelivered env taskId runnerId epoch leaseId =>
    (Runner.rescheduleUndelivered s env taskId runnerId epoch leaseId).map Prod.fst
  | resolveTaskRecovery env runnerId payload =>
    (Runner.resolveTaskRecovery cfg s env runnerId payload).map Prod.fst
  | sweep env order => .ok (Runner.sweep cfg s env order)

/-- The store that a raise leaves as it was. -/
def committed (s : Store) (x : Except Raise Store) : Store :=
  match x with
  | .ok s' => s'
  | .error _ => s

/-- The store after a command: an exception rolls its transaction back. -/
def Command.step (cfg : Config) (s : Store) (c : Command) : Store := committed s (c.exec cfg s)

/-- A call of `RunnerStore` that writes. -/
inductive Call where
  | command (c : Command)
  | message (kind : MessageKind) (env : Env) (payload : Dict) (credential : Json)

/-- The store after a call. -/
def Call.step (cfg : Config) (s : Store) : Call → Store
  | command c => c.step cfg s
  | message kind env payload credential => (receive s env kind payload credential).1

/-- The store is the last one of some sequence of calls on a new database. -/
def Reachable (cfg : Config) (s : Store) : Prop := ReachableFrom (Call.step cfg) Store.empty s

@[simp] theorem committed_ok (s s' : Store) : committed s (.ok s') = s' := rfl

@[simp] theorem committed_error (s : Store) (e : Raise) : committed s (.error e) = s := rfl

variable {P : Store → Prop} {s : Store}

/-- A predicate that is kept by every success of a command is kept by the command. -/
theorem committed_ind {x : Except Raise Store} (h : P s) (hx : ∀ s', x = .ok s' → P s') :
    P (committed s x) := by
  cases x with
  | error e => exact h
  | ok s' => exact hx s' rfl

/-- The same for a transaction that also returns a value. -/
theorem committed_map_ind {α : Type} {x : Except Raise (Store × α)} (h : P s)
    (hx : ∀ {s' a}, x = .ok (s', a) → P s') : P (committed s (x.map Prod.fst)) := by
  obtain _ | ⟨s', a⟩ := x
  · exact h
  · exact hx rfl

/-! ## Transactions -/

/-- A message call in progress: after its validation, or between its transactions. -/
structure Pending where
  env : Env
  message : Message
  recorded : Bool

/-- The store and the message calls in progress. -/
structure Center where
  store : Store
  calls : List Pending

/-- What may happen next. The index names the call in progress. -/
inductive Event where
  | command (c : Command)
  /-- A message call begins and validates its payload. -/
  | arrive (kind : MessageKind) (env : Env) (payload : Dict) (credential : Json)
  /-- The transaction of `_record_message`. -/
  | record (i : ℕ)
  /-- The second transaction. -/
  | apply (i : ℕ)
  /-- The call goes no further, as when the process stops. -/
  | stop (i : ℕ)

/-- The `i`-th call in progress, when it has passed its first transaction or not. -/
def Center.call? (x : Center) (i : ℕ) (recorded : Bool) : Option Pending :=
  x.calls[i]?.filter fun p => p.recorded = recorded

/-- The transaction of `_record_message` for a call in progress: it goes on only when the message
    was recorded. -/
def Center.record (x : Center) (i : ℕ) (p : Pending) : Center :=
  match recordMessage x.store (p.env.clock 1) p.message with
  | .ok (s, false) => ⟨s, x.calls.set i { p with recorded := true }⟩
  | .ok (s, true) => ⟨s, x.calls.eraseIdx i⟩
  | .error _ => ⟨x.store, x.calls.eraseIdx i⟩

/-- One step of the system. -/
def Center.step (cfg : Config) (x : Center) : Event → Center
  | .command c => { x with store := c.step cfg x.store }
  | .arrive kind env payload credential =>
    match Runner.arrive x.store env kind payload credential with
    | .ok m => { x with calls := x.calls ++ [⟨env, m, false⟩] }
    | .error _ => x
  | .record i => (x.call? i false).elim x (x.record i)
  | .apply i => (x.call? i true).elim x fun p =>
    ⟨committed x.store (applyMessage x.store p.env p.message), x.calls.eraseIdx i⟩
  | .stop i => { x with calls := x.calls.eraseIdx i }

/-- The system on a new database. -/
def Center.empty : Center := ⟨Store.empty, []⟩

/-- A whole message call is its arrival and its two transactions. -/
theorem receive_eq_center (cfg : Config) (s : Store) (env : Env) (kind : MessageKind)
    (payload : Dict) (credential : Json) :
    runFrom (Center.step cfg) ⟨s, []⟩ [.arrive kind env payload credential, .record 0, .apply 0] =
      ⟨(receive s env kind payload credential).1, []⟩ := by
  simp only [runFrom_cons, runFrom_nil, Center.step, receive]
  cases Runner.arrive s env kind payload credential with
  | error e => rfl
  | ok m =>
    simp only [Center.call?, List.nil_append, List.getElem?_cons_zero, Option.filter_some,
      decide_true, if_true, Option.elim_some, Center.record, deliver]
    rcases recordMessage s (env.clock 1) m with e | ⟨s₁, _ | _⟩
    · rfl
    · simp only [List.set_cons_zero, List.getElem?_cons_zero, Option.filter_some, decide_true,
        if_true, Option.elim_some, List.eraseIdx_cons_zero]
      cases applyMessage s₁ env m <;> rfl
    · rfl

/-- The transactions of a whole call when no other call is in progress. -/
def Call.events : Call → List Event
  | command c => [.command c]
  | message kind env payload credential => [.arrive kind env payload credential, .record 0, .apply 0]

end HomeAddons.Runner
