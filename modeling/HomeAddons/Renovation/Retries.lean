import HomeAddons.Common.Replay
import HomeAddons.Renovation.Categories

/-!
# Renovation Hub: a ledger tool is called again

What the keys of `_run_idempotent` (`ledger.py`, lines 594–628) leave for later calls.

* `LedgerCall.exactly_once`: a repeated call writes nothing and returns the first result.
* `LedgerCall.rows_kept`: no call deletes a transaction or changes its kind.
-/

namespace HomeAddons.Renovation.LedgerCall

open HomeAddons.Common

variable {cfg : Config} {h h₁ : Hub} {c : LedgerCall} {key : String} {request : Json}
  {x : Hub × Json × Bool}

/-- The call at another time, for another actor. -/
def again (env : Env) (actorHash : String) : LedgerCall → LedgerCall
  | .addPayment _ payload _ => .addPayment env payload actorHash
  | .addRefund _ payload _ => .addRefund env payload actorHash
  | .correctPayment _ payload _ => .correctPayment env payload actorHash
  | .undo _ payload _ => .undo env payload actorHash
  | .mutate _ payload _ => .mutate env payload actorHash

def IsPreview : LedgerCall → Prop
  | .mutate _ payload _ => mutationMode payload = .ok "preview"
  | _ => False

/-- Whenever it is made, the call runs under the key as the request. -/
def Files (cfg : Config) (c : LedgerCall) (key : String) (request : Json) : Prop :=
  ∀ h env actorHash, ∃ operation,
    (c.again env actorHash).exec cfg h = runIdempotent cfg h env key request operation ∧
    ∀ h₁ result, operation h = .ok (h₁, result) → h₁.keys = h.keys

theorem Carries.keys (hc : c.Carries cfg h h₁) : h₁.keys = h.keys := by
  cases hc with
  | addPayment hclean hop =>
    obtain ⟨T, C, -, -, heq⟩ := addPaymentOperation_ok hop
    exact (congrArg Hub.keys heq).trans rfl
  | addRefund hclean hop =>
    obtain ⟨payment, T, C, -, -, -, -, heq⟩ := addRefundOperation_ok hop
    exact (congrArg Hub.keys heq).trans rfl
  | correctPayment hu hop =>
    obtain ⟨row, clean, -, -, -, -, heq⟩ := correctPaymentOperation_ok hop
    exact (congrArg Hub.keys heq).trans rfl
  | undo hu hop =>
    obtain ⟨row, -, -, -, -, heq⟩ := undoOperation_ok hop
    exact (congrArg Hub.keys heq).trans rfl
  | @mutate _ _ _ _ _ u _ _ hu hop =>
    obtain ⟨items, results, -, -, hfold⟩ := mutateOperation_ok hop
    refine foldlM_ok (P := fun acc => acc.1.keys = h.keys) ?_ rfl hfold
    intro item _ acc acc' hacc hitem
    obtain ⟨after, ⟨-, hs⟩ | ⟨-, hs⟩⟩ := applyItem_ok hitem
    · obtain ⟨row, -, heq, -⟩ := applyTransaction_ok hs
      exact (congrArg Hub.keys heq).trans hacc
    · obtain ⟨o, -, -, heq⟩ := applyObject_ok hs
      rw [heq]
      cases u.targetType <;> exact hacc

/-- A call that returns has the arguments of a request. -/
theorem files (hx : c.exec cfg h = .ok x) (hc : ¬ c.IsPreview) :
    ∃ key request, c.Files cfg key request := by
  cases c with
  | addPayment env payload actorHash =>
    simp only [exec, Renovation.addPayment, bind_eq_ok] at hx
    obtain ⟨key, hkey, clean, hclean, -⟩ := hx
    simp only [Files, again, exec, Renovation.addPayment, hkey, hclean, ok_bind]
    exact ⟨_, _, fun h env _ => ⟨_, rfl, fun _ _ hop => (Carries.addPayment hclean hop).keys⟩⟩
  | addRefund env payload actorHash =>
    simp only [exec, Renovation.addRefund, bind_eq_ok] at hx
    obtain ⟨key, hkey, clean, hclean, -⟩ := hx
    simp only [Files, again, exec, Renovation.addRefund, hkey, hclean, ok_bind]
    exact ⟨_, _, fun h env _ => ⟨_, rfl, fun _ _ hop => (Carries.addRefund hclean hop).keys⟩⟩
  | correctPayment env payload actorHash =>
    simp only [exec, Renovation.correctPayment, bind_eq_ok] at hx
    obtain ⟨u, hu, -⟩ := hx
    simp only [Files, again, exec, Renovation.correctPayment, hu, ok_bind]
    exact ⟨_, _, fun h env _ => ⟨_, rfl, fun _ _ hop => (Carries.correctPayment hu hop).keys⟩⟩
  | undo env payload actorHash =>
    simp only [exec, Renovation.undo, bind_eq_ok] at hx
    obtain ⟨u, hu, -⟩ := hx
    simp only [Files, again, exec, Renovation.undo, hu, ok_bind]
    exact ⟨_, _, fun h env _ => ⟨_, rfl, fun _ _ hop => (Carries.undo hu hop).keys⟩⟩
  | mutate env payload actorHash =>
    simp only [exec, Renovation.mutate, bind_eq_ok] at hx
    obtain ⟨mode, hmode, hx⟩ := hx
    have happly : mode ≠ "preview" := by
      rintro rfl
      exact hc hmode
    rw [if_neg happly] at hx
    simp only [mutateApply, bind_eq_ok] at hx
    obtain ⟨u, hu, _, hconfirmed, digest, hdigest, key, hkey, -⟩ := hx
    simp only [Files, again, exec, Renovation.mutate, mutateApply, hmode, if_neg happly, hu,
      hconfirmed, hdigest, hkey, ok_bind]
    exact ⟨_, _, fun h env _ => ⟨_, rfl, fun _ _ hop => (Carries.mutate hu hop).keys⟩⟩

/-- A call that returns is filed under its key, and no other key is lost. -/
theorem Files.filed (hf : c.Files cfg key request) (hx : c.exec cfg h = .ok x) :
    Remembers (fun h : Hub => h.keys.get?) h x.1 ∧ ∃ row, x.1.keys.get? key = some row ∧
      row.requestDigest = digestJson request ∧ row.result = x.2.1 := by
  obtain ⟨env, actorHash, hsame⟩ : ∃ env actorHash, c.again env actorHash = c := by
    cases c <;> exact ⟨_, _, rfl⟩
  obtain ⟨operation, hrun, hkeys⟩ := hf h env actorHash
  rw [hsame, hx] at hrun
  obtain ⟨row, hrow, hdigest, rfl⟩ | ⟨-, h₁, result, keys, hop, hinsert, rfl⟩ :=
    runIdempotent_eq_ok.mp hrun.symm
  · exact ⟨.refl h, row, hrow, hdigest, rfl⟩
  · rw [hkeys h₁ _ hop] at hinsert
    refine ⟨fun k row hrow => Table.get?_insert?_of_get? hinsert hrow, _,
      (Table.get?_insert? hinsert key).trans (if_pos rfl), rfl, rfl⟩

theorem step_remembers (cfg : Config) (h : Hub) (c : LedgerCall) :
    Remembers (fun h : Hub => h.keys.get?) h (c.step cfg h) := by
  unfold step
  cases hx : c.exec cfg h with
  | error e => exact .refl h
  | ok x =>
    by_cases hc : c.IsPreview
    · cases c with
      | mutate env payload actorHash =>
        simp only [exec, Renovation.mutate, show mutationMode payload = _ from hc, ok_bind, if_true,
          bind_eq_ok, pure_eq_ok] at hx
        obtain ⟨_, -, rfl⟩ := hx
        exact .refl h
      | _ => exact hc.elim
    · obtain ⟨key, request, hf⟩ := files hx hc
      exact (hf.filed hx).1

/-- Whatever has been called since a call returned, the same call writes nothing and returns the
    first result, and its key is refused to a call with another request. -/
theorem exactly_once (hx : c.exec cfg h = .ok x) (hc : ¬ c.IsPreview) (calls : List LedgerCall) :
    ∃ key request, c.Files cfg key request ∧ ∀ h', h' = runFrom (step cfg) x.1 calls →
      (∀ env actorHash, (c.again env actorHash).exec cfg h' = .ok (h', x.2.1, true)) ∧
      ∀ c' request', Files cfg c' key request' → digestJson request' ≠ digestJson request →
        ∀ env actorHash, (c'.again env actorHash).exec cfg h' =
          .error (raising "idempotency_conflict" "同一幂等键对应不同请求" 409) := by
  obtain ⟨key, request, hf⟩ := files hx hc
  obtain ⟨-, row, hrow, hdigest, hresult⟩ := hf.filed hx
  refine ⟨key, request, hf, ?_⟩
  rintro h' rfl
  have hkept := Remembers.run (step_remembers cfg) x.1 calls key row hrow
  constructor
  · intro env actorHash
    obtain ⟨operation, hrun, -⟩ := hf (runFrom (step cfg) x.1 calls) env actorHash
    rw [hrun, ← hresult]
    exact runIdempotent_eq_ok.mpr (.inl ⟨row, hkept, hdigest, rfl⟩)
  · intro c' request' hf' hne env actorHash
    obtain ⟨operation, hrun, -⟩ := hf' (runFrom (step cfg) x.1 calls) env actorHash
    rw [hrun, runIdempotent]
    simp only [hkept, hdigest, ensure, if_neg (Ne.symm hne)]
    rfl

/-- A payment that is added again after it has been corrected. -/
theorem exactly_once_payment : ∃ result,
    (addPayment (sampleEnv "payment-02") paymentPayload "agent").exec sampleConfig
        (unversionedNote.step sampleConfig paidHub) =
      .ok (unversionedNote.step sampleConfig paidHub, result, true) := by
  have hok : ((addPayment (sampleEnv "payment-01") paymentPayload "page").exec sampleConfig
      sampleHub).toOption.isSome = true := by
    decide +kernel
  obtain ⟨x, hx⟩ := Option.isSome_iff_exists.mp hok
  rw [toOption_eq_some] at hx
  obtain ⟨key, request, -, hlater⟩ := exactly_once hx id [unversionedNote]
  have hpaid : paidHub = x.1 := by
    rw [paidHub, step, hx]
  rw [hpaid]
  exact ⟨_, (hlater _ rfl).1 (sampleEnv "payment-02") "agent"⟩

/-- A later state has every transaction, as far as an edit may change it. -/
def KeepsRows (h h' : Hub) : Prop :=
  ∀ id t, h.transactions.get? id = some t →
    ∃ t', h'.transactions.get? id = some t' ∧ t.Evolves t'

/-- The ledger only grows. -/
theorem rows_kept (cfg : Config) (h : Hub) (calls : List LedgerCall) :
    KeepsRows h (runFrom (step cfg) h calls) := by
  induction calls generalizing h with
  | nil => exact fun id t ht => ⟨t, ht, .refl t⟩
  | cons c calls ih =>
    have hstep : KeepsRows h (c.step cfg h) := by
      obtain heq | ⟨h₁, keys, now, hc, heq⟩ := c.step_cases cfg h
      · rw [heq]
        exact fun id t ht => ⟨t, ht, .refl t⟩
      · rw [heq]
        exact hc.grows.kept
    intro id t ht
    obtain ⟨t₁, ht₁, hevolves₁⟩ := hstep id t ht
    obtain ⟨t₂, ht₂, hevolves₂⟩ := ih (c.step cfg h) id t₁ ht₁
    exact ⟨t₂, ht₂, hevolves₁.trans hevolves₂⟩

end HomeAddons.Renovation.LedgerCall
