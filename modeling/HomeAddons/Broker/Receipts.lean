import HomeAddons.Broker.Replay

/-!
# A receipt authorises one execution

* `authorised_once`: in every database that calls lead to, an execution has its own consumed
  receipt, which names what is executed (`authorization.py`, lines 835–1185).
* `claims_kept`: no call rewrites a proposal or a claim.
-/

namespace HomeAddons.Broker

open HomeAddons.Common

/-- Every execution has a consumed receipt for its action and hash. -/
def Store.Backed (s : Store) : Prop :=
  ∀ k e, s.executions.get? k = some e → ∃ r, s.receipts.get? e.receiptId = some r ∧
    r.actionId = k ∧ r.proposalHash = e.proposalHash ∧ r.consumedAt.isSome

theorem Store.Change.backed {s s' : Store} (h : s.Change s') (hs : s.Backed) : s'.Backed := by
  cases h with
  | receipt hinsert =>
    intro k e he
    obtain ⟨r, hr, hmatch⟩ := hs k e he
    exact ⟨r, Table.get?_insert?_of_get? hinsert hr, hmatch⟩
  | @execution e r q p T hinsert hreceipt hrequest hnative hproposal haction hhash hkey now L =>
    intro k e' he'
    simp only [Table.get?_update]
    obtain ⟨rfl, rfl⟩ | ⟨-, he'⟩ := (Table.get?_insert?_eq_some hinsert).mp he'
    · rw [if_pos rfl, hreceipt]
      exact ⟨_, rfl, haction, hhash, rfl⟩
    · obtain ⟨r', hr', hmatch⟩ := hs k e' he'
      rw [hr']
      split_ifs
      · exact ⟨_, rfl, hmatch.1, hmatch.2.1, rfl⟩
      · exact ⟨r', rfl, hmatch⟩
  | executions p f hf hsame =>
    intro k e he
    simp only [Table.get?_updateWhere_eq_some] at he
    obtain ⟨e₀, he₀, hset⟩ := he
    obtain ⟨r, hr, haction, hhash, hconsumed⟩ := hs k e₀ he₀
    have hids : e₀.SameClaim e := by
      rw [hset]
      split
      · exact hsame e₀
      · exact .refl e₀
    exact ⟨r, hids.ids.2.1 ▸ hr, haction, hhash.trans hids.ids.2.2.1.symm, hconsumed⟩
  | _ => exact hs

/-- What is executed was authorised, and a receipt has one execution. -/
structure Store.AuthorisedOnce (s : Store) : Prop where
  execution : ∀ k e, s.executions.get? k = some e → ∃ r q p,
    s.receipts.get? e.receiptId = some r ∧ s.requests.get? r.approvalId = some q ∧
    s.proposals.get? k = some p ∧ r.consumedAt.isSome ∧ r.actionId = k ∧ q.actionId = k ∧
    r.proposalHash = e.proposalHash ∧ q.proposalHash = e.proposalHash ∧
    p.proposalHash = e.proposalHash ∧ p.idempotencyKey = e.idempotencyKey
  once : ∀ k k' e e', s.executions.get? k = some e → s.executions.get? k' = some e' →
    e.receiptId = e'.receiptId → k = k'

theorem authorised_once (py : Python) (calls : List StoreCall) :
    (runFrom (StoreCall.run py) Store.initial calls).AuthorisedOnce := by
  have hreach : (runFrom (StoreCall.run py) Store.initial calls).Reachable py := ⟨calls, rfl⟩
  have hsound := reachable_sound hreach
  have hbacked := invariant_of_reachable (StoreCall.run py) (I := Store.Backed)
    (fun s c hs => (c.change py s).backed hs) (fun k e h => by cases h) hreach
  constructor
  · intro k e he
    obtain ⟨r, hr, haction, hhash, hconsumed⟩ := hbacked k e he
    obtain ⟨q, hq, hqaction, hqhash⟩ := hsound.receipts _ r hr
    obtain ⟨p, hp, hphash, hkey⟩ := hsound.executions k e he
    exact ⟨r, q, p, hr, hq, hp, hconsumed, haction, hqaction ▸ haction, hhash, hqhash ▸ hhash,
      hphash, hkey⟩
  · intro k k' e e' he he' hsame
    obtain ⟨r, hr, haction, -⟩ := hbacked k e he
    obtain ⟨r', hr', haction', -⟩ := hbacked k' e' he'
    rw [hsame, hr', Option.some.injEq] at hr
    rw [← haction, ← haction', hr]

/-- From any database, calls keep every proposal and the columns of every claim. -/
theorem claims_kept (py : Python) (s : Store) (calls : List StoreCall) :
    s.Keeps (runFrom (StoreCall.run py) s calls) := by
  induction calls generalizing s with
  | nil => exact .refl s
  | cons c calls ih => exact (c.change py s).keeps.trans (ih (c.run py s))

end HomeAddons.Broker
