import HomeAddons.Renovation.Categories

/-!
# Renovation Hub: the refunds of a payment

* `Hub.refunded_update`: what the edit of a row does to what is refunded of a payment.
* `Hub.Conserved.edit`: a payment may be edited while it covers its refunds.
* `refunds_conserved`: in every state of a ledger, the active refunds belong to active payments
  and do not exceed them.
-/

namespace HomeAddons.Renovation

open HomeAddons.Common

variable {cfg : Config} {h h' : Hub} {id p : String} {t row : Transaction}

/-! ## What is refunded -/

/-- What the row adds to the refunds of the payment. -/
def Transaction.share (t : Transaction) (p : String) : ℤ :=
  if t.type = .refund ∧ t.status = .active ∧ t.originalPaymentId = some p then t.amountCents else 0

theorem Transaction.share_payment (ht : t.type = .payment) (p : String) : t.share p = 0 :=
  if_neg fun hc => by rw [ht] at hc; cases hc.1

theorem Hub.refunded_eq (h : Hub) (p : String) :
    h.refunded p = (h.transactions.rows.map fun t => t.share p).sum := by
  unfold Hub.refunded Hub.activeRefunds
  induction h.transactions.rows with
  | nil => rfl
  | cons t rows ih =>
    rw [List.map_cons, List.sum_cons, ← ih, Transaction.share]
    by_cases ht : t.type = .refund ∧ t.status = .active ∧ t.originalPaymentId = some p <;>
      simp [ht]

/-- The edit of a row adds to the refunds what the row adds after it instead of before. -/
theorem Hub.refunded_update {f : Transaction → Transaction} (hf : ∀ t, (f t).id = t.id)
    (ht : h.transactions.get? id = some t) (hT : h'.transactions = h.transactions.update id f hf)
    (p : String) : h'.refunded p + t.share p = h.refunded p + (f t).share p := by
  obtain ⟨l₁, l₂, hrows, hrows'⟩ := Table.rows_update_of_get? ht f hf
  rw [h'.refunded_eq, h.refunded_eq, hT, hrows', hrows]
  simp only [List.map_append, List.map_cons, List.sum_append, List.sum_cons]
  ring

theorem Hub.refunded_insert (hT : h.transactions.insert? row = some h'.transactions) (p : String) :
    h'.refunded p = h.refunded p + row.share p := by
  rw [h'.refunded_eq, h.refunded_eq, Table.rows_insert? hT, List.map_append, List.sum_append,
    List.map_singleton, List.sum_singleton]

/-! ## One call -/

/-- Every active refund belongs to an active payment of its format, and the active refunds of a
    payment do not exceed it. -/
structure Hub.Conserved (h : Hub) : Prop where
  backed : ∀ id t, h.transactions.get? id = some t → t.type = .refund → t.status = .active →
    ∃ p payment, t.originalPaymentId = some p ∧ h.activePayment p = some payment ∧
      payment.ledgerFormatVersion = t.ledgerFormatVersion
  bounded : ∀ p payment, h.activePayment p = some payment → h.refunded p ≤ payment.amountCents

theorem Hub.Conserved.congr (hc : h.Conserved) (hT : h'.transactions = h.transactions) :
    h'.Conserved := by
  have hactive : ∀ p, h'.activePayment p = h.activePayment p := fun p => by
    rw [Hub.activePayment, Hub.activePayment, hT]
  refine ⟨fun id t ht htype hstatus => ?_, fun p payment hp => ?_⟩
  · rw [hT] at ht
    obtain ⟨p, payment, horiginal, hp, hformat⟩ := hc.backed id t ht htype hstatus
    exact ⟨p, payment, horiginal, (hactive p).trans hp, hformat⟩
  · rw [h'.refunded_eq, hT, ← h.refunded_eq]
    exact hc.bounded p payment ((hactive p).symm.trans hp)

/-- Only payments that are there have refunds. -/
theorem Hub.Conserved.refunded_new (hc : h.Conserved) (hp : h.activePayment p = none) :
    h.refunded p = 0 := by
  have hnone : h.activeRefunds p = [] := by
    refine List.filter_eq_nil_iff.mpr fun t ht hrefund => ?_
    obtain ⟨htype, hstatus, horiginal⟩ := of_decide_eq_true hrefund
    obtain ⟨q, payment, hq, hactive, -⟩ :=
      hc.backed t.id t (Table.mem_rows_iff.mp ht) htype hstatus
    obtain rfl : p = q := Option.some.inj (horiginal.symm.trans hq)
    rw [hp] at hactive
    cases hactive
  rw [Hub.refunded, hnone]
  rfl

/-- An active payment may be edited while it covers its refunds. -/
theorem Hub.Conserved.edit (hc : h.Conserved) {f : Transaction → Transaction}
    (hf : ∀ t, (f t).id = t.id) (ht : h.activePayment id = some t)
    (hT : h'.transactions = h.transactions.update id f hf)
    (hkeep : (f t).type = t.type ∧ (f t).status = t.status)
    (hformat : (f t).ledgerFormatVersion = t.ledgerFormatVersion)
    (hamount : h.refunded id ≤ (f t).amountCents) :
    h'.Conserved ∧ ∀ p, h'.refunded p = h.refunded p := by
  obtain ⟨hget, htype, hstatus⟩ := Hub.activePayment_eq_some.mp ht
  have hrefunded : ∀ p, h'.refunded p = h.refunded p := fun p => by
    have hsum := Hub.refunded_update hf hget hT p
    rwa [Transaction.share_payment htype, Transaction.share_payment (hkeep.1.trans htype),
      add_zero, add_zero] at hsum
  have hget' : ∀ q, h'.transactions.get? q = if q = id then some (f t) else
      h.transactions.get? q := fun q => by
    rw [hT, Table.get?_update]
    split_ifs with hq
    · rw [hq, hget]
      rfl
    · rfl
  have hactive : ∀ q, h'.activePayment q = if q = id then some (f t) else h.activePayment q := by
    intro q
    unfold Hub.activePayment
    rw [hget']
    split_ifs
    · simp [hkeep, htype, hstatus]
    · rfl
  refine ⟨⟨fun q r hr hrefund hr' => ?_, fun q payment hq => ?_⟩, hrefunded⟩
  · rw [hget'] at hr
    split_ifs at hr with hq
    · obtain rfl := Option.some.inj hr
      rw [hkeep.1, htype] at hrefund
      cases hrefund
    · obtain ⟨p, payment, horiginal, hp, hsame⟩ := hc.backed q r hr hrefund hr'
      by_cases hpid : p = id
      · obtain rfl : t = payment := Option.some.inj (ht.symm.trans (hpid ▸ hp))
        exact ⟨p, f t, horiginal, (hactive p).trans (if_pos hpid), hformat.trans hsame⟩
      · exact ⟨p, payment, horiginal, (hactive p).trans ((if_neg hpid).trans hp), hsame⟩
  · rw [hrefunded]
    rw [hactive] at hq
    split_ifs at hq with hqid
    · rw [hqid, ← Option.some.inj hq]
      exact hamount
    · exact hc.bounded q payment hq

/-- A new row that is a payment, or a refund which its payment covers. -/
theorem Hub.Conserved.insert (hc : h.Conserved)
    (hT : h.transactions.insert? row = some h'.transactions)
    (hrow : row.type = .payment ∧ 0 < row.amountCents ∨ row.type = .refund ∧
      ∃ payment, h.activePayment payment.id = some payment ∧
        row.originalPaymentId = some payment.id ∧
        payment.ledgerFormatVersion = row.ledgerFormatVersion ∧
        h.refunded payment.id + row.amountCents ≤ payment.amountCents) : h'.Conserved := by
  have hnew : h.transactions.get? row.id = none := Table.get?_of_insert? hT
  have hkept : ∀ p payment, h.activePayment p = some payment → h'.activePayment p = some payment :=
    fun p payment hp => (Hub.activePayment_insert hT rfl
      (by rw [(Hub.activePayment_eq_some.mp hp).1]; exact Option.some_ne_none payment)).trans hp
  refine ⟨fun q r hr hrefund hactive => ?_, fun q payment hq => ?_⟩
  · rw [Table.get?_insert? hT] at hr
    split_ifs at hr
    · obtain rfl := Option.some.inj hr
      obtain ⟨hpayment, -⟩ | ⟨-, payment, hp, horiginal, hformat, -⟩ := hrow
      · rw [hpayment] at hrefund
        cases hrefund
      · exact ⟨payment.id, payment, horiginal, hkept _ _ hp, hformat⟩
    · obtain ⟨p, payment, horiginal, hp, hsame⟩ := hc.backed q r hr hrefund hactive
      exact ⟨p, payment, horiginal, hkept p payment hp, hsame⟩
  · obtain ⟨hget, htype, hstatus⟩ := Hub.activePayment_eq_some.mp hq
    rw [Hub.refunded_insert hT]
    rw [Table.get?_insert? hT] at hget
    split_ifs at hget with hid
    · -- The new row is a payment, which has no refunds yet.
      obtain rfl := Option.some.inj hget
      obtain ⟨-, hpositive⟩ | ⟨hrefund, -⟩ := hrow
      · rw [hc.refunded_new (by rw [Hub.activePayment, hid, hnew]; rfl),
          Transaction.share_payment htype, zero_add]
        exact hpositive.le
      · rw [htype] at hrefund
        cases hrefund
    · have hold : h.activePayment q = some payment :=
        Hub.activePayment_eq_some.mpr ⟨hget, htype, hstatus⟩
      have hbound := hc.bounded q payment hold
      unfold Transaction.share
      split_ifs with hshare
      · obtain ⟨hpayment, -⟩ | ⟨-, payment', hp, horiginal, -, hsum⟩ := hrow
        · rw [hpayment] at hshare
          cases hshare.1
        · obtain rfl : payment'.id = q := Option.some.inj (horiginal.symm.trans hshare.2.2)
          obtain rfl : payment' = payment := Option.some.inj (hp.symm.trans hold)
          exact hsum
      · rwa [add_zero]

/-- A row is voided which is no payment with refunds. -/
theorem Hub.Conserved.void (hc : h.Conserved) (hcategorised : h.Categorised) {reason now : String}
    (ht : h.transactions.get? id = some t) (hfree : t.type = .payment → h.activeRefunds id = [])
    (hT : h'.transactions = h.transactions.update id (Transaction.undone reason now)
      (Transaction.undone_id _ _)) : h'.Conserved := by
  have hget' : ∀ q, q ≠ id → h'.transactions.get? q = h.transactions.get? q := fun q hq => by
    rw [hT, Table.get?_update, if_neg hq]
  have hvoided : h'.transactions.get? id = some (t.undone reason now) := by
    rw [hT, Table.get?_update, if_pos rfl, ht]
    rfl
  refine ⟨fun q r hr hrefund hactive => ?_, fun q payment hq => ?_⟩
  · have hq : q ≠ id := by
      rintro rfl
      obtain rfl := Option.some.inj (hvoided.symm.trans hr)
      cases hactive
    rw [hget' q hq] at hr
    obtain ⟨p, payment, horiginal, hp, hsame⟩ := hc.backed q r hr hrefund hactive
    obtain ⟨hget, htype, -⟩ := Hub.activePayment_eq_some.mp hp
    have hpid : p ≠ id := by
      rintro rfl
      obtain rfl : t = payment := Option.some.inj (ht.symm.trans hget)
      have hmem : r ∈ h.activeRefunds p :=
        List.mem_filter.mpr ⟨Table.mem_of_get? hr, decide_eq_true ⟨hrefund, hactive, horiginal⟩⟩
      rw [hfree htype] at hmem
      cases hmem
    exact ⟨p, payment, horiginal, by rw [Hub.activePayment, hget' p hpid]; exact hp, hsame⟩
  · obtain ⟨hget, htype, hstatus⟩ := Hub.activePayment_eq_some.mp hq
    have hqid : q ≠ id := by
      rintro rfl
      obtain rfl := Option.some.inj (hvoided.symm.trans hget)
      cases hstatus
    rw [hget' q hqid] at hget
    have hbound := hc.bounded q payment (Hub.activePayment_eq_some.mpr ⟨hget, htype, hstatus⟩)
    have hsum := Hub.refunded_update (Transaction.undone_id _ _) ht hT q
    have hzero : (t.undone reason now).share q = 0 := if_neg fun hc => by cases hc.2.1
    have hshare : 0 ≤ t.share q := by
      unfold Transaction.share
      split_ifs
      · exact (hcategorised id t ht).positive.le
      · exact le_rfl
    rw [hzero] at hsum
    omega

section Calls

variable {env : Env} {payload : Dict} {actorHash key : String} {result : Json}

/-- What an apply found of the refunds of a payment whose amount it changes. -/
theorem Hub.prepareItem_refunded {u : Mutation} {item : MutationItem}
    (htype : u.targetType = .transaction)
    (hs : h.prepareItem u.targetType u.patch item.id = .ok item)
    (hhas : u.patch.has "amount_cents" = true) :
    h.refunded item.id ≤ (u.patch.get "amount_cents").asInt?.getD 0 := by
  obtain ⟨_, hrecord, hcandidate⟩ := Hub.prepareItem_ok hs
  rw [htype] at hrecord hcandidate
  simp only [Hub.mutationRecord, if_true, bind_eq_ok, orRaise_eq_ok] at hrecord
  obtain ⟨row, hrow, hdocument⟩ := hrecord
  obtain ⟨hget, hpayment, -⟩ := Hub.activePayment_eq_some.mp hrow
  obtain ⟨_, _, hbefore⟩ := (Hub.transactionDocument_payment hpayment).mp hdocument
  have hid : item.before.get "id" = .str item.id := by
    rw [hbefore, ← Table.key_of_get? hget]
    rfl
  simp only [Hub.mutationCandidate, if_true, bind_eq_ok, ensure_eq_ok] at hcandidate
  obtain ⟨_, _, _, _, _, _, _, hvalid, _⟩ := hcandidate
  have hensured : (u.patch.has "amount_cents" = true → h.refunded item.id ≤
      (u.patch.get "amount_cents").asInt?.getD 0) := by
    unfold Hub.validateMutationCandidate at hvalid
    dsimp only at hvalid
    rw [hid] at hvalid
    split_ifs at hvalid
    · obtain ⟨_, -, hvalid⟩ := bind_eq_ok.mp hvalid
      exact ensure_eq_ok.mp hvalid
    · exact ensure_eq_ok.mp hvalid
  exact hensured hhas

/-- A patched amount is the one of the patch. -/
theorem Transaction.patched_amount {u : Mutation} (hu : u.Clean cfg) {now : String}
    (hhas : u.patch.has "amount_cents" = true) :
    (t.patched u.patch now).amountCents = (u.patch.get "amount_cents").asInt?.getD 0 := by
  obtain ⟨n, hn⟩ := hu.int hhas
  unfold Transaction.patched
  rw [if_pos (List.any_eq_true.mpr ⟨_, by decide, hhas⟩), hn]
  rfl

theorem mutateOperation_conserved {u : Mutation} {digest : String} (hu : u.Clean cfg)
    (hs : mutateOperation cfg env actorHash key u digest h = .ok (h', result))
    (hc : h.Conserved) : h'.Conserved := by
  obtain ⟨items, results, hitems, -, hfold⟩ := mutateOperation_ok hs
  -- The rounds leave the refunds of every payment as they were when the items were prepared.
  have hrounds := foldlM_ok (P := fun acc : Hub × List Dict =>
      acc.1.Conserved ∧ ∀ p, acc.1.refunded p = h.refunded p) ?_ ⟨hc, fun _ => rfl⟩ hfold
  · exact hrounds.1
  · intro item hitem acc acc' hacc hround
    obtain ⟨after, ⟨htype, hround⟩ | ⟨htype, hround⟩⟩ := applyItem_ok hround
    · obtain ⟨row, hrow, heq, -⟩ := applyTransaction_ok hround
      have hamount : acc.1.refunded item.id ≤
          (row.patched u.patch ((env.round acc.2.length).now 0)).amountCents := by
        by_cases hhas : u.patch.has "amount_cents" = true
        · rw [hacc.2, Transaction.patched_amount hu hhas]
          exact Hub.prepareItem_refunded htype (Hub.prepareItem_of_mem hitems hitem) hhas
        · rw [Transaction.patched_amountCents hhas]
          exact hacc.1.bounded _ row hrow
      obtain ⟨hkept, hsame⟩ : acc'.1.Conserved ∧ ∀ p, acc'.1.refunded p = acc.1.refunded p :=
        hacc.1.edit (Transaction.patched_id u.patch _) hrow (by rw [heq]; rfl)
          (Transaction.patched_keeps _ _ _) (Transaction.patched_ledgerFormatVersion _ _ _) hamount
      exact ⟨hkept, fun p => (hsame p).trans (hacc.2 p)⟩
    · obtain ⟨_, _, _, heq⟩ := applyObject_ok hround
      have hsame : acc'.1.transactions = acc.1.transactions := by
        rw [heq]
        cases u.targetType <;> rfl
      refine ⟨hacc.1.congr hsame, fun p => ?_⟩
      rw [← hacc.2 p, Hub.refunded_eq, hsame, ← Hub.refunded_eq]

theorem LedgerCall.Carries.conserved {c : LedgerCall} (hcarries : c.Carries cfg h h')
    (hcategorised : h.Categorised) (hc : h.Conserved) : h'.Conserved := by
  cases hcarries with
  | addPayment hclean hop =>
    obtain ⟨T, _, hT, _, heq⟩ := addPaymentOperation_ok hop
    exact hc.insert (hT.trans (by rw [heq]; rfl)) (.inl ⟨rfl, (paymentFields_ok hclean).1⟩)
  | addRefund hclean hop =>
    obtain ⟨payment, T, _, hpayment, hsum, hT, _, heq⟩ := addRefundOperation_ok hop
    have hid := Table.key_of_get? (Hub.activePayment_eq_some.mp hpayment).1
    refine hc.insert (hT.trans (by rw [heq]; rfl)) (.inr ⟨rfl, payment, ?_, rfl, rfl, hsum⟩)
    rw [show payment.id = _ from hid]
    exact hpayment
  | correctPayment hu hop =>
    obtain ⟨row, clean, hrow, hclean, -, hsum, heq⟩ := correctPaymentOperation_ok hop
    refine (hc.edit (Transaction.corrected_id clean _) hrow (by rw [heq]; rfl)
      (Transaction.corrected_keeps _ _ _) ?_ ?_).1
    · unfold Transaction.corrected
      split_ifs <;> rfl
    · unfold Transaction.corrected
      split_ifs
      · exact hc.bounded _ row hrow
      · show _ ≤ clean.amountCents.getD row.amountCents
        cases hamount : clean.amountCents with
        | none => exact hc.bounded _ row hrow
        | some amount => exact hsum amount hamount
  | undo hu hop =>
    obtain ⟨row, hrow, _, _, hfree, heq⟩ := undoOperation_ok hop
    exact hc.void hcategorised hrow hfree (by rw [heq]; rfl)
  | mutate hu hop => exact mutateOperation_conserved (mutation_clean hu) hop hc

/-- In every state of a ledger the active refunds belong to active payments, which cover them. -/
theorem refunds_conserved (hh : h.Booked cfg) : h.Conserved := by
  induction hh with
  | empty hnone =>
    refine ⟨fun id t ht => ?_, fun p payment hp => ?_⟩
    · rw [hnone] at ht
      cases ht
    · rw [Hub.activePayment, hnone] at hp
      cases hp
  | @call h c hbooked ih =>
    obtain heq | ⟨h₁, keys, now, hc, heq⟩ := c.step_cases cfg h
    · rwa [heq]
    · rw [heq]
      exact (hc.conserved hbooked.categorised ih).congr rfl
  | other _ hsame ih => exact ih.congr hsame

theorem refunds_conserved_refunded : refundedHub.Conserved :=
  refunds_conserved refundedHub_booked

end Calls

end HomeAddons.Renovation
