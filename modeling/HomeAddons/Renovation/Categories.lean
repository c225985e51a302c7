import HomeAddons.Renovation.Agreement
import HomeAddons.Renovation.Summary

/-!
# Renovation Hub: totals by category

A payment of the first format has a category and one of the second has none; a refund has none of its
own and is shown with that of its payment.

* `Hub.Booked.categorised`: that holds in every state of a ledger.
* `Hub.category_total_iff`: when a summary of one category agrees with the total of the category.
* `summary_exact_iff`: when the summaries of a ledger are exact.
-/

namespace HomeAddons.Renovation

open HomeAddons.Common

variable {cfg : Config} {h h' : Hub}

/-! ## The states of a ledger -/

/-- The states of a ledger that starts without transactions: its tools are called, and in between
    other tools may change everything but the transactions. -/
inductive Hub.Booked (cfg : Config) : Hub → Prop where
  | empty {h : Hub} (hnone : h.transactions = Table.empty) : Booked cfg h
  | call {h : Hub} (c : LedgerCall) (hh : Booked cfg h) : Booked cfg (c.step cfg h)
  | other {h h' : Hub} (hh : Booked cfg h) (hsame : h'.transactions = h.transactions) : Booked cfg h'

/-- The amount and the category of a row. -/
structure Transaction.Categorised (h : Hub) (t : Transaction) : Prop where
  positive : 0 < t.amountCents
  payment : t.type = .payment → (t.mainCategory = "" ↔ t.ledgerFormatVersion = .v2)
  refund : t.type = .refund → t.mainCategory = "" ∧ ∃ p payment, t.originalPaymentId = some p ∧
    h.transactions.get? p = some payment ∧ payment.type = .payment

/-- Every row of the ledger has a positive amount and the category that goes with its kind. -/
def Hub.Categorised (h : Hub) : Prop :=
  ∀ id t, h.transactions.get? id = some t → t.Categorised h

/-- What an edit may do to a row. -/
structure Transaction.Evolves (t t' : Transaction) : Prop where
  type : t'.type = t.type
  format : t'.ledgerFormatVersion = t.ledgerFormatVersion
  original : t'.originalPaymentId = t.originalPaymentId
  positive : 0 < t.amountCents → 0 < t'.amountCents
  refund : t.type = .refund → t'.mainCategory = t.mainCategory
  category : (t.mainCategory = "" ↔ t.ledgerFormatVersion = .v2) →
    (t'.mainCategory = "" ↔ t.ledgerFormatVersion = .v2)

theorem Transaction.Evolves.refl (t : Transaction) : t.Evolves t :=
  ⟨rfl, rfl, rfl, fun hp => hp, fun _ => rfl, fun hc => hc⟩

theorem Transaction.Evolves.trans {t t₁ t₂ : Transaction} (he : t.Evolves t₁)
    (he' : t₁.Evolves t₂) : t.Evolves t₂ where
  type := he'.type.trans he.type
  format := he'.format.trans he.format
  original := he'.original.trans he.original
  positive hp := he'.positive (he.positive hp)
  refund hr := (he'.refund (he.type.trans hr)).trans (he.refund hr)
  category hc := by
    have hcategory := he'.category (by rw [he.format]; exact he.category hc)
    rwa [he.format] at hcategory

/-- Every row is still there, and a new row is one that the ledger may have. -/
structure Hub.Grows (h h' : Hub) : Prop where
  kept : ∀ id t, h.transactions.get? id = some t →
    ∃ t', h'.transactions.get? id = some t' ∧ t.Evolves t'
  new : ∀ id t', h'.transactions.get? id = some t' →
    h.transactions.get? id ≠ none ∨ t'.Categorised h

theorem Hub.Grows.categorised (hg : h.Grows h') (hh : h.Categorised) : h'.Categorised := by
  -- The payment of a refund stays.
  have hrefund : ∀ t : Transaction, t.Categorised h → t.Categorised h' := by
    intro t ht
    refine ⟨ht.positive, ht.payment, fun htype => ?_⟩
    obtain ⟨hcategory, p, payment, horiginal, hpayment, hptype⟩ := ht.refund htype
    obtain ⟨payment', hpayment', he⟩ := hg.kept p payment hpayment
    exact ⟨hcategory, p, payment', horiginal, hpayment', he.type.trans hptype⟩
  intro id t' ht'
  obtain hold | hnew := hg.new id t' ht'
  · obtain ⟨t, ht⟩ := Option.ne_none_iff_exists'.mp hold
    obtain ⟨t₁, ht₁, he⟩ := hg.kept id t ht
    obtain rfl : t₁ = t' := Option.some.inj (ht₁.symm.trans ht')
    have hc := hrefund t (hh id t ht)
    refine ⟨he.positive hc.positive, fun htype => ?_, fun htype => ?_⟩
    · rw [he.format]
      exact he.category (hc.payment (he.type.symm.trans htype))
    · obtain ⟨hcategory, p, payment, horiginal, hrest⟩ := hc.refund (he.type.symm.trans htype)
      exact ⟨(he.refund (he.type.symm.trans htype)).trans hcategory, p, payment,
        he.original.trans horiginal, hrest⟩
  · exact hrefund t' hnew

/-- An edit of one row. -/
theorem Hub.Grows.of_update {id : String} {g : Transaction → Transaction}
    (hg : ∀ t, (g t).id = t.id) (hT : h'.transactions = h.transactions.update id g hg)
    (he : ∀ t, h.transactions.get? id = some t → t.Evolves (g t)) : h.Grows h' := by
  constructor
  · intro i t ht
    rw [hT, Table.get?_update]
    split_ifs with heq
    · subst heq
      exact ⟨g t, by rw [ht]; rfl, he t ht⟩
    · exact ⟨t, ht, .refl t⟩
  · intro i t' ht'
    refine .inl fun hnone => ?_
    rw [hT, Table.get?_update, hnone] at ht'
    split_ifs at ht'
    cases ht'

/-- A new row. -/
theorem Hub.Grows.of_insert {row : Transaction} {T : Table Transaction.id}
    (hT : h.transactions.insert? row = some T) (hh : h'.transactions = T)
    (hrow : row.Categorised h) : h.Grows h' := by
  constructor
  · intro i t ht
    exact ⟨t, by rw [hh]; exact Table.get?_insert?_of_get? hT ht, .refl t⟩
  · intro i t' ht'
    rw [hh, Table.get?_insert? hT] at ht'
    split_ifs at ht'
    · cases ht'
      exact .inr hrow
    · exact .inl (by rw [ht']; exact Option.some_ne_none t')

/-! ## The tools -/

section Tools

variable {env : Env} {payload : Dict} {actorHash key : String} {result : Json}

theorem positiveCents_pos {value : Json} {n : ℤ} (hs : positiveCents value = .ok n) : 0 < n := by
  simp only [positiveCents, bind_eq_ok, orRaise_eq_ok, ensure_eq_ok, pure_eq_ok] at hs
  obtain ⟨_, _, _, hpos, _, _, rfl⟩ := hs
  exact hpos

variable {clean : PaymentFields} {u : Mutation} {now : String} {t : Transaction}

/-- A payment of the first format is filed with a category, one of the second without. -/
theorem paymentFields_ok (hs : paymentFields cfg payload = .ok clean) :
    0 < clean.amountCents ∧ (clean.mainCategory = "" ↔ clean.ledgerFormatVersion = .v2) := by
  simp only [paymentFields, bind_eq_ok, pure_eq_ok] at hs
  obtain ⟨⟨tags, grouped, category, v⟩, hclass, amount, hamount, _, _, _, _, _, _, _, _, rfl⟩ := hs
  refine ⟨positiveCents_pos hamount, ?_⟩
  unfold paymentClass at hclass
  simp only [bind_eq_ok, ensure_eq_ok] at hclass
  obtain ⟨_, _, _, _, hclass⟩ := hclass
  by_cases hv2 : ((payload.get "ledger_format_version").eqInt 2 || payload.has "grouped_tags") = true
  · rw [if_pos hv2] at hclass
    simp only [bind_eq_ok, ensure_eq_ok, pure_eq_ok, Prod.mk.injEq] at hclass
    obtain ⟨_, _, _, _, _, hempty, _, _, rfl, rfl⟩ := hclass
    exact ⟨fun _ => rfl, fun _ => hempty⟩
  · rw [if_neg hv2] at hclass
    simp only [bind_eq_ok, pure_eq_ok, Prod.mk.injEq] at hclass
    obtain ⟨_, _, _, hcategory, _, _, rfl, rfl⟩ := hclass
    exact ⟨fun hempty => absurd hempty (text_ne hcategory), by rintro ⟨⟩⟩

theorem addPaymentOperation_grows (hclean : paymentFields cfg payload = .ok clean)
    (hs : addPaymentOperation cfg env payload actorHash key clean h = .ok (h', result)) :
    h.Grows h' := by
  obtain ⟨T, C, hT, _, heq⟩ := addPaymentOperation_ok hs
  obtain ⟨hpos, hcategory⟩ := paymentFields_ok hclean
  refine .of_insert hT (by rw [heq]; rfl) ⟨hpos, fun _ => hcategory, nofun⟩

theorem addRefundOperation_grows {clean : RefundFields}
    (hclean : refundFields cfg payload = .ok clean)
    (hs : addRefundOperation cfg env payload actorHash key clean h = .ok (h', result)) :
    h.Grows h' := by
  obtain ⟨payment, T, C, hpayment, _, hT, _, heq⟩ := addRefundOperation_ok hs
  obtain ⟨hget, htype, _⟩ := Hub.activePayment_eq_some.mp hpayment
  have hid : payment.id = clean.originalPaymentId := Table.key_of_get? hget
  have hpos : 0 < clean.amountCents := by
    simp only [refundFields, bind_eq_ok, pure_eq_ok] at hclean
    obtain ⟨_, _, _, hamount, _, _, _, _, _, _, rfl⟩ := hclean
    exact positiveCents_pos hamount
  refine .of_insert hT (by rw [heq]; rfl) ⟨hpos, (by rintro ⟨⟩), fun _ => ⟨rfl, payment.id, payment, rfl, ?_,
    htype⟩⟩
  rw [hid]
  exact hget

theorem changed_ok {α : Type} {changes : Dict} {field : String} {read : Json → Except Raise α}
    {x : Option α} (hs : changed changes field read = .ok x) :
    ∀ a ∈ x, ∃ value, read value = .ok a := by
  unfold changed at hs
  split_ifs at hs
  · obtain ⟨a, ha, rfl⟩ := map_eq_ok.mp hs
    rintro _ ⟨⟩
    exact ⟨_, ha⟩
  · cases hs
    exact nofun

/-- What a correction changes of the amount and the category. -/
theorem correction_ok {u : Correction} {v : FormatVersion} {clean : PaymentChanges}
    (hu : correction cfg payload = .ok u) (hs : u.complete cfg v = .ok clean) :
    (∀ amount ∈ clean.amountCents, 0 < amount) ∧
      ∀ category ∈ clean.mainCategory, category ≠ "" ∧ v = .v1 := by
  simp only [correction, bind_eq_ok, pure_eq_ok] at hu
  obtain ⟨_, _, _, _, _, _, _, _, _, _, amount, hamount, _, _, _, _, _, _, _, _, rfl⟩ := hu
  have hpos : ∀ a ∈ amount, 0 < a := fun a ha =>
    (changed_ok hamount a ha).elim fun _ hread => positiveCents_pos hread
  simp only [Correction.complete, bind_eq_ok, ensure_eq_ok] at hs
  obtain ⟨_, _, hs⟩ := hs
  split_ifs at hs with hv <;> simp only [bind_eq_ok, pure_eq_ok] at hs
  · obtain ⟨category, hcategory, _, _, rfl⟩ := hs
    refine ⟨hpos, fun s hs => ?_⟩
    obtain ⟨_, hread⟩ := changed_ok hcategory s hs
    exact ⟨text_ne hread, hv⟩
  · obtain ⟨_, _, rfl⟩ := hs
    exact ⟨hpos, by simp⟩

theorem Transaction.corrected_evolves {clean : PaymentChanges} (htype : t.type = .payment)
    (hamount : ∀ amount ∈ clean.amountCents, 0 < amount)
    (hcategory : ∀ category ∈ clean.mainCategory, category ≠ "" ∧ t.ledgerFormatVersion = .v1) :
    t.Evolves (t.corrected clean now) := by
  unfold Transaction.corrected
  split_ifs
  · exact .refl t
  · refine ⟨rfl, rfl, rfl, fun hpos => ?_, fun hr => ?_, fun hc => ?_⟩
    · show 0 < clean.amountCents.getD t.amountCents
      cases ha : clean.amountCents with
      | none => exact hpos
      | some amount => exact hamount amount ha
    · rw [htype] at hr
      cases hr
    · show clean.mainCategory.getD t.mainCategory = "" ↔ _
      cases hm : clean.mainCategory with
      | none => exact hc
      | some category =>
        obtain ⟨hne, hv⟩ := hcategory category hm
        rw [hv]
        exact ⟨fun heq => absurd heq hne, nofun⟩

theorem correctPaymentOperation_grows {u : Correction} (hu : correction cfg payload = .ok u)
    (hs : correctPaymentOperation cfg env payload actorHash u h = .ok (h', result)) :
    h.Grows h' := by
  obtain ⟨row, clean, hrow, hclean, _, _, heq⟩ := correctPaymentOperation_ok hs
  obtain ⟨hget, htype, _⟩ := Hub.activePayment_eq_some.mp hrow
  obtain ⟨hamount, hcategory⟩ := correction_ok hu hclean
  refine .of_update (Transaction.corrected_id clean (env.now 0)) (by rw [heq]; rfl) ?_
  intro t ht
  rw [hget] at ht
  cases ht
  exact Transaction.corrected_evolves htype hamount hcategory

theorem undoOperation_grows {u : Undo}
    (hs : undoOperation env payload actorHash u h = .ok (h', result)) : h.Grows h' := by
  obtain ⟨_, _, _, _, _, heq⟩ := undoOperation_ok hs
  refine .of_update (Transaction.undone_id u.reason (env.now 0)) (by rw [heq]; rfl) ?_
  exact fun t _ => ⟨rfl, rfl, rfl, fun hp => hp, fun _ => rfl, fun hc => hc⟩

/-! ### An apply -/

theorem Transaction.patched_evolves (hu : u.Clean cfg) (htype : t.type = .payment)
    (hv : u.patch.has "main_category" = true → t.ledgerFormatVersion = .v1) :
    t.Evolves (t.patched u.patch now) := by
  unfold Transaction.patched
  split_ifs
  · refine ⟨rfl, rfl, rfl, fun hpos => ?_, fun hr => ?_, fun hc => ?_⟩
    · show 0 < (u.patch.get "amount_cents").asInt?.getD t.amountCents
      by_cases hhas : u.patch.has "amount_cents" = true
      · obtain ⟨raw, hraw⟩ := hu.read _ hhas
        obtain ⟨n, hn, heq⟩ := map_eq_ok.mp hraw
        rw [← heq]
        exact positiveCents_pos hn
      · rw [Dict.get_of_not_has hhas]
        exact hpos
    · rw [htype] at hr
      cases hr
    · show (u.patch.get "main_category").asStr?.getD t.mainCategory = "" ↔ _
      by_cases hhas : u.patch.has "main_category" = true
      · obtain ⟨raw, hraw⟩ := hu.read _ hhas
        obtain ⟨s, hs, heq⟩ := map_eq_ok.mp hraw
        rw [← heq, hv hhas]
        exact ⟨fun hempty => absurd hempty (text_ne hs), nofun⟩
      · rw [Dict.get_of_not_has hhas]
        exact hc
  · exact .refl t

/-- A patch of a category is for a payment of the first format. -/
theorem Hub.prepareItem_format {item : MutationItem} {row : Transaction}
    (htype : u.targetType = .transaction)
    (hs : h.prepareItem u.targetType u.patch item.id = .ok item)
    (hrow : h.transactions.get? item.id = some row) (hhas : u.patch.has "main_category" = true) :
    row.ledgerFormatVersion = .v1 := by
  obtain ⟨_, hrecord, hcandidate⟩ := Hub.prepareItem_ok hs
  rw [htype] at hrecord hcandidate
  simp only [Hub.mutationRecord, if_true, bind_eq_ok, orRaise_eq_ok] at hrecord
  obtain ⟨row', hrow', hdocument⟩ := hrecord
  obtain ⟨hget, hpayment, _⟩ := Hub.activePayment_eq_some.mp hrow'
  obtain rfl : row' = row := Option.some.inj (hget.symm.trans hrow)
  obtain ⟨grouped, _, hbefore⟩ := (Hub.transactionDocument_payment hpayment).mp hdocument
  have hformat : item.before.get "ledger_format_version" =
      .int row'.ledgerFormatVersion.number := by
    rw [hbefore]
    rfl
  simp only [Hub.mutationCandidate, if_true, bind_eq_ok, ensure_eq_ok] at hcandidate
  obtain ⟨_, _, _, hlegacy, _⟩ := hcandidate
  cases hv : row'.ledgerFormatVersion with
  | v1 => rfl
  | v2 =>
    rw [hformat, hv] at hlegacy
    exact absurd ⟨rfl, .inl hhas⟩ hlegacy

theorem mutateOperation_grows {digest : String} (hu : u.Clean cfg)
    (hs : mutateOperation cfg env actorHash key u digest h = .ok (h', result)) : h.Grows h' := by
  obtain ⟨items, results, hitems, _, hfold⟩ := mutateOperation_ok hs
  have hrounds := foldlM_ok (P := fun acc : Hub × List Dict =>
      (∀ id t, h.transactions.get? id = some t →
        ∃ t', acc.1.transactions.get? id = some t' ∧ t.Evolves t') ∧
      ∀ id, acc.1.transactions.get? id ≠ none → h.transactions.get? id ≠ none) ?_
    ⟨fun _ t ht => ⟨t, ht, .refl t⟩, fun _ hne => hne⟩ hfold
  · exact ⟨hrounds.1, fun id t' ht' =>
      .inl (hrounds.2 id (by rw [ht']; exact Option.some_ne_none t'))⟩
  · intro item hitem acc acc' hacc hround
    obtain ⟨after, ⟨htype, hround⟩ | ⟨htype, hround⟩⟩ := applyItem_ok hround
    · obtain ⟨row, hrow, heq, _⟩ := applyTransaction_ok hround
      obtain ⟨hget, hpayment, _⟩ := Hub.activePayment_eq_some.mp hrow
      obtain ⟨t₀, ht₀⟩ := Option.ne_none_iff_exists'.mp
        (hacc.2 item.id (by rw [hget]; exact Option.some_ne_none row))
      obtain ⟨t₁, ht₁, he₀⟩ := hacc.1 item.id t₀ ht₀
      obtain rfl : t₁ = row := Option.some.inj (ht₁.symm.trans hget)
      have hv : u.patch.has "main_category" = true → t₁.ledgerFormatVersion = .v1 := fun hhas =>
        he₀.format.trans (Hub.prepareItem_format htype (Hub.prepareItem_of_mem hitems hitem) ht₀ hhas)
      have hgrows : acc.1.Grows acc'.1 := by
        refine .of_update (Transaction.patched_id u.patch _) (by rw [heq]; rfl) ?_
        intro t ht
        obtain rfl : t₁ = t := Option.some.inj (ht₁.symm.trans ht)
        exact Transaction.patched_evolves hu hpayment hv
      refine ⟨fun id t ht => ?_, fun id hne => hacc.2 id fun hnone => ?_⟩
      · obtain ⟨t', ht', he⟩ := hacc.1 id t ht
        obtain ⟨t'', ht'', he'⟩ := hgrows.kept id t' ht'
        exact ⟨t'', ht'', he.trans he'⟩
      · refine hne ?_
        rw [heq]
        show (Table.update _ _ _ (Transaction.patched_id u.patch _)).get? id = none
        rw [Table.get?_update, hnone]
        split_ifs <;> rfl
    · obtain ⟨_, _, _, heq⟩ := applyObject_ok hround
      have hsame : acc'.1.transactions = acc.1.transactions := by
        rw [heq]
        cases u.targetType <;> rfl
      show (∀ id t, _ → ∃ t', acc'.1.transactions.get? id = some t' ∧ _) ∧
        ∀ id, acc'.1.transactions.get? id ≠ none → _
      rw [hsame]
      exact hacc

theorem LedgerCall.Carries.grows {c : LedgerCall} (hc : c.Carries cfg h h') : h.Grows h' := by
  cases hc with
  | addPayment hclean hop => exact addPaymentOperation_grows hclean hop
  | addRefund hclean hop => exact addRefundOperation_grows hclean hop
  | correctPayment hu hop => exact correctPaymentOperation_grows hu hop
  | undo hu hop => exact undoOperation_grows hop
  | mutate hu hop => exact mutateOperation_grows (mutation_clean hu) hop

/-- Every row of a ledger has a positive amount and the category that goes with its kind. -/
theorem Hub.Booked.categorised (hh : h.Booked cfg) : h.Categorised := by
  induction hh with
  | empty hnone =>
    intro id t ht
    rw [hnone] at ht
    cases ht
  | @call h c _ ih =>
    obtain heq | ⟨h₁, keys, now, hc, heq⟩ := c.step_cases cfg h
    · rwa [heq]
    · rw [heq]
      exact fun id t ht =>
        have hrow := hc.grows.categorised ih id t ht
        ⟨hrow.positive, hrow.payment, hrow.refund⟩
  | other _ hsame ih =>
    intro id t ht
    rw [hsame] at ht
    obtain ⟨hpos, hpayment, hrefund⟩ := ih id t ht
    exact ⟨hpos, hpayment, by rwa [hsame]⟩

end Tools

/-! ## Totals -/

theorem Totals.total_cons (kv : String × ℤ) (totals : Totals) (name : String) :
    Totals.total (kv :: totals) name = if name = kv.1 then kv.2 else totals.total name := by
  obtain ⟨k, v⟩ := kv
  rw [Totals.total, List.lookup_cons]
  by_cases hk : name = k
  · rw [if_pos hk, beq_iff_eq.mpr hk]
    rfl
  · rw [if_neg hk, beq_eq_false_iff_ne.mpr hk]
    rfl

variable {totals : Totals} {name other : String} {amount : ℤ}

theorem Totals.total_append (hnew : ∀ kv ∈ totals, kv.1 ≠ name) :
    Totals.total (totals ++ [(name, amount)]) other =
      totals.total other + if other = name then amount else 0 := by
  induction totals with
  | nil =>
    rw [List.nil_append, Totals.total_cons]
    exact (zero_add _).symm
  | cons kv totals ih =>
    rw [List.cons_append, Totals.total_cons, Totals.total_cons,
      ih fun other hother => hnew other (List.mem_cons_of_mem _ hother)]
    by_cases hk : other = kv.1
    · rw [if_pos hk, if_pos hk, if_neg (hk ▸ hnew kv List.mem_cons_self), add_zero]
    · rw [if_neg hk, if_neg hk]

theorem Totals.total_replaced (hold : ∃ kv ∈ totals, kv.1 = name) :
    Totals.total (totals.map fun kv => if kv.1 = name then (kv.1, kv.2 + amount) else kv) other =
      totals.total other + if other = name then amount else 0 := by
  induction totals with
  | nil =>
    obtain ⟨_, hkv, _⟩ := hold
    cases hkv
  | cons kv totals ih =>
    rw [List.map_cons, Totals.total_cons, Totals.total_cons]
    by_cases hname : kv.1 = name
    · rw [if_pos hname]
      by_cases hother : other = kv.1
      · rw [if_pos hother, if_pos hother, if_pos (hother.trans hname)]
      · rw [if_neg hother, if_neg hother, if_neg fun heq => hother (heq.trans hname.symm), add_zero]
        -- The entries under other names stay as they are.
        clear ih hold
        induction totals with
        | nil => rfl
        | cons kv' totals ih =>
          rw [List.map_cons, Totals.total_cons, Totals.total_cons, ih]
          by_cases hname' : kv'.1 = name
          · have hne : ¬ other = kv'.1 := fun heq => hother (heq.trans (hname'.trans hname.symm))
            rw [if_pos hname', if_neg hne, if_neg hne]
          · rw [if_neg hname']
    · have hrest : ∃ kv ∈ totals, kv.1 = name := by
        obtain ⟨kv', hkv', heq⟩ := hold
        obtain rfl | hkv' := List.mem_cons.mp hkv'
        · exact absurd heq hname
        · exact ⟨kv', hkv', heq⟩
      rw [if_neg hname, ih hrest]
      by_cases hother : other = kv.1
      · rw [if_pos hother, if_pos hother, if_neg fun heq => hname (hother.symm.trans heq), add_zero]
      · rw [if_neg hother, if_neg hother]

/-- One more amount under a name. -/
theorem Totals.total_add (totals : Totals) (name other : String) (amount : ℤ) :
    (totals.add name amount).total other =
      totals.total other + if other = name then amount else 0 := by
  unfold Totals.add
  by_cases hany : (totals.any fun kv => kv.1 = name) = true
  · rw [if_pos hany]
    obtain ⟨kv, hkv, heq⟩ := List.any_eq_true.mp hany
    exact Totals.total_replaced ⟨kv, hkv, of_decide_eq_true heq⟩
  · rw [if_neg hany]
    exact Totals.total_append fun kv hkv heq =>
      hany (List.any_eq_true.mpr ⟨kv, hkv, decide_eq_true heq⟩)

theorem Summary.addItem_category (s : Summary) (i : LedgerItem) (name : String) :
    (s.addItem i).categoryTotals.total name = s.categoryTotals.total name +
      if i.row.ledgerFormatVersion = .v1 ∧ i.category = name then i.row.signed else 0 := by
  unfold Summary.addItem
  dsimp only
  rw [(Summary.addTag_net _ _ _).2]
  by_cases hv : i.row.ledgerFormatVersion = .v1
  · rw [if_pos hv, Totals.total_add]
    simp only [hv, true_and, @eq_comm _ name]
  · rw [if_neg hv, if_neg fun h => hv h.1, add_zero]

theorem summarize_category (items : List LedgerItem) (name : String) :
    (summarize items).categoryTotals.total name = ((items.filter fun i =>
      i.row.ledgerFormatVersion = .v1 ∧ i.category = name).map fun i => i.row.signed).sum := by
  have hfold : ∀ s : Summary, (items.foldl Summary.addItem s).categoryTotals.total name =
      s.categoryTotals.total name + ((items.filter fun i =>
        i.row.ledgerFormatVersion = .v1 ∧ i.category = name).map fun i => i.row.signed).sum := by
    induction items with
    | nil => exact fun _ => (add_zero _).symm
    | cons i items ih =>
      intro s
      rw [List.foldl_cons, ih, Summary.addItem_category, List.filter_cons]
      simp only [decide_eq_true_eq]
      split_ifs
      · rw [List.map_cons, List.sum_cons, add_assoc]
      · rw [add_zero]
  exact (hfold _).trans (zero_add _)

/-! ## A category and its total -/

/-- The active rows of a category, or all of them. -/
def activeRows (category : String) : Criteria :=
  ⟨"", "active", category, none, none, "", "", none, none, none⟩

/-- The rows that the summary of a category counts. -/
def Hub.counted (h : Hub) (category : String) : List Transaction :=
  (h.selected (activeRows category)).take 1000

section Category

variable {name : String}

theorem activeRows_criteria (hU : cfg.unicode.Lawful) (name : String) :
    Filters.criteria cfg { mainCategory := name, status := "active" } = .ok (activeRows name) := by
  have htext : ∀ field maximum, text cfg (.str "") field maximum false = .ok "" := by
    intro field maximum
    have hnfc : cfg.unicode.nfc "" = "" := hU.nfc_ascii "" fun _ hc => absurd hc List.not_mem_nil
    simp only [text, bind_eq_ok, ensure_eq_ok, pure_eq_ok, orRaise_eq_ok]
    refine ⟨"", rfl, (), fun hr => Bool.false_ne_true hr.1, (), ?_, ?_⟩
    · show (strip (cfg.unicode.nfc "")).length ≤ maximum
      rw [hnfc]
      exact Nat.zero_le _
    · rw [hnfc]
      rfl
  simp only [Filters.criteria, Filters.ledgerCriteria, dateBound, contextValue, htext, if_true]
  rfl

theorem activeRows_keeps (i : LedgerItem) : (activeRows name).keeps cfg i = true := by
  unfold Criteria.keeps Criteria.mentions Criteria.tagged Criteria.placed LedgerItem.inContext
  simp [activeRows]

variable {s : Summary} {t : Transaction}

/-- What the summary of a category, or of everything, counts. -/
theorem Hub.summary_counted (hU : cfg.unicode.Lawful)
    (hs : h.summary cfg { mainCategory := name } = .ok s) :
    s = summarize ((h.counted name).map h.shown) := by
  obtain ⟨c, hc, -, rfl⟩ := Hub.summary_ok hs
  rw [activeRows_criteria hU] at hc
  cases hc
  rw [List.filter_eq_self.mpr fun t _ => activeRows_keeps (h.shown t)]
  rfl

/-- The rows of a category are those of all rows that have it. -/
theorem Hub.selected_category (hname : name ≠ "") :
    h.selected (activeRows name) =
      (h.selected (activeRows "")).filter fun t => t.mainCategory = name := by
  rw [Hub.selected_filter, Hub.selected]
  refine congrArg _ (List.filter_congr fun t _ => ?_)
  simp [Criteria.selects, activeRows, hname]

/-- A payment is shown with its own category, and a refund with that of its payment. -/
theorem Transaction.Categorised.shown (ht : t.Categorised h) (hh : h.Categorised)
    (hname : name ≠ "") :
    ((h.shown t).row.ledgerFormatVersion = .v1 ∧ (h.shown t).category = name) ↔
      (h.shown t).row.mainCategory = name := by
  -- What is shown has a category exactly when it is of the first format.
  have hformat : (h.shown t).row.mainCategory = "" ↔ (h.shown t).row.ledgerFormatVersion = .v2 := by
    cases htype : t.type with
    | payment =>
      have hshown : (h.shown t).row = t := by
        show (h.inherited t).1 = t
        rw [Hub.inherited, htype]
      rw [hshown]
      exact ht.payment htype
    | refund =>
      obtain ⟨_, p, payment, horiginal, hpayment, hptype⟩ := ht.refund htype
      have hshown : (h.shown t).row = { t with
          mainCategory := payment.mainCategory, ledgerFormatVersion := payment.ledgerFormatVersion } := by
        show (h.inherited t).1 = _
        simp only [Hub.inherited, htype, horiginal, hpayment]
      rw [hshown]
      exact (hh p payment hpayment).payment hptype
  unfold LedgerItem.category
  constructor
  · rintro ⟨hv, hcategory⟩
    rwa [if_neg fun hempty => by rw [hformat.mp hempty] at hv; cases hv] at hcategory
  · intro hcategory
    have hne : (h.shown t).row.mainCategory ≠ "" := hcategory ▸ hname
    refine ⟨?_, by rwa [if_neg hne]⟩
    cases hv : (h.shown t).row.ledgerFormatVersion with
    | v1 => rfl
    | v2 => exact absurd (hformat.mpr hv) hne

/-- A row has the category itself exactly when it is a payment that is shown with it. -/
theorem Transaction.Categorised.column (ht : t.Categorised h) (hname : name ≠ "") :
    t.mainCategory = name ↔ t.type = .payment ∧ (h.shown t).row.mainCategory = name := by
  cases htype : t.type with
  | payment =>
    have hshown : (h.shown t).row = t := by
      show (h.inherited t).1 = t
      rw [Hub.inherited, htype]
    rw [hshown]
    exact ⟨fun heq => ⟨rfl, heq⟩, And.right⟩
  | refund =>
    rw [(ht.refund htype).1]
    exact ⟨fun heq => absurd heq.symm hname, nofun⟩

theorem amounts_eq_zero {rows : List Transaction} (hpos : ∀ t ∈ rows, 0 < t.amountCents) :
    0 ≤ amounts rows ∧ (amounts rows = 0 ↔ rows = []) := by
  induction rows with
  | nil => exact ⟨le_rfl, fun _ => rfl, fun _ => rfl⟩
  | cons t rows ih =>
    obtain ⟨hnonneg, -⟩ := ih fun t' ht' => hpos t' (List.mem_cons_of_mem _ ht')
    have ht := hpos t List.mem_cons_self
    rw [amounts] at hnonneg
    rw [amounts, List.map_cons, List.sum_cons]
    refine ⟨by linarith, fun heq => ?_, fun heq => absurd heq (List.cons_ne_nil _ _)⟩
    exact absurd heq (by linarith)

theorem amounts_append (rows rows' : List Transaction) :
    amounts (rows ++ rows') = amounts rows + amounts rows' := by
  rw [amounts, List.map_append, List.sum_append]
  rfl

/-- Rows that are all payments count with their amounts. -/
theorem signedTotal_payments {rows : List Transaction} (hrows : ∀ t ∈ rows, t.type = .payment) :
    signedTotal rows = amounts rows := by
  rw [signedTotal, amounts]
  congr 1
  refine List.map_congr_left fun t ht => ?_
  rw [Transaction.signed, if_neg]
  rw [hrows t ht]
  rintro ⟨⟩

theorem Hub.counted_mem (ht : t ∈ h.counted name) : h.transactions.get? t.id = some t := by
  have hmem := (List.mem_insertionSort _).mp (List.mem_of_mem_take ht)
  exact Table.mem_rows_iff.mp (List.mem_of_mem_filter hmem)

theorem Hub.counted_nodup : (h.counted name).Nodup := by
  have hrows : h.transactions.rows.Nodup := List.Nodup.of_map Transaction.id h.transactions.nodup
  refine (List.take_sublist _ _).nodup ?_
  exact (List.perm_insertionSort _ _).nodup_iff.mpr (List.filter_sublist.nodup hrows)

/-- The total of a category counts the rows that are shown with it. -/
theorem Hub.category_total (hh : h.Categorised) (hname : name ≠ "") :
    (summarize ((h.counted "").map h.shown)).categoryTotals.total name =
      signedTotal ((h.counted "").filter fun t => (h.shown t).row.mainCategory = name) := by
  rw [summarize_category, List.filter_map, List.map_map, signedTotal]
  have hfilter : (h.counted "").filter ((fun i : LedgerItem =>
        decide (i.row.ledgerFormatVersion = .v1 ∧ i.category = name)) ∘ h.shown) =
      (h.counted "").filter fun t => (h.shown t).row.mainCategory = name := by
    refine List.filter_congr fun t ht => ?_
    exact decide_eq_decide.mpr ((hh t.id t (Hub.counted_mem ht)).shown hh hname)
  rw [hfilter]
  congr 1
  exact List.map_congr_left fun t _ => Hub.shown_signed t

/-- The summary of a category agrees with its total exactly when no payment of the category that it
    counts is beyond the first thousand rows, and none of these is a refund of the category. -/
theorem Hub.category_total_iff (hU : cfg.unicode.Lawful) (hh : h.Booked cfg) (hname : name ≠ "")
    {s₀ : Summary} (hs : h.summary cfg { mainCategory := name } = .ok s)
    (hs₀ : h.summary cfg {} = .ok s₀) :
    s.netAmountCents = s₀.categoryTotals.total name ↔
      (∀ t ∈ h.counted name, t ∈ h.counted "") ∧
      ∀ t ∈ h.counted "", t.type = .refund → (h.shown t).row.mainCategory ≠ name := by
  have hcategorised := hh.categorised
  obtain rfl := Hub.summary_counted hU hs
  obtain rfl : s₀ = summarize ((h.counted "").map h.shown) := Hub.summary_counted hU hs₀
  -- The payments of the category among the first rows are the first ones that its summary counts.
  obtain ⟨rest, hrest⟩ : ((h.counted "").filter fun t => t.mainCategory = name) <+:
      h.counted name := by
    rw [Hub.counted, Hub.counted, Hub.selected_category hname]
    exact filter_take_prefix 1000
  have hnodup : (h.counted name).Nodup := Hub.counted_nodup
  have hcolumn : ∀ t ∈ h.counted name, t.mainCategory = name := by
    intro t ht
    rw [Hub.counted, Hub.selected_category hname] at ht
    have hp := List.of_mem_filter (List.mem_of_mem_take ht)
    simpa using hp
  have hpayments : ∀ t ∈ h.counted name, t.type = .payment := fun t ht =>
    (((hcategorised _ t (Hub.counted_mem ht)).column hname).mp (hcolumn t ht)).1
  have hshown : ((h.counted "").filter fun t => (h.shown t).row.mainCategory = name).filter
      (fun t => t.type = .payment) = (h.counted "").filter fun t => t.mainCategory = name := by
    rw [List.filter_filter]
    refine List.filter_congr fun t ht => ?_
    rw [← Bool.decide_and]
    exact decide_eq_decide.mpr ((hcategorised _ t (Hub.counted_mem ht)).column hname).symm
  -- Both sides count these payments; what is left are the others and the refunds.
  rw [Hub.summary_net, Hub.category_total hcategorised hname, signedTotal_payments hpayments,
    signedTotal_eq, hshown, ← hrest, amounts_append]
  obtain ⟨hrestNonneg, hrestZero⟩ := @amounts_eq_zero rest fun t ht =>
    (hcategorised _ t (Hub.counted_mem (hrest ▸ List.mem_append_right _ ht))).positive
  obtain ⟨hrefundNonneg, hrefundZero⟩ := @amounts_eq_zero
    (((h.counted "").filter fun t => (h.shown t).row.mainCategory = name).filter
      fun t => t.type = .refund) fun t ht =>
    (hcategorised _ t (Hub.counted_mem (List.mem_of_mem_filter (List.mem_of_mem_filter ht)))).positive
  constructor
  · intro heq
    have hrestNil := hrestZero.mp (by linarith)
    have hrefundNil := hrefundZero.mp (by linarith)
    refine ⟨fun t ht => ?_, fun t ht htype hcategory => ?_⟩
    · rw [hrestNil, List.append_nil] at ht
      exact List.mem_of_mem_filter ht
    · have hmem : t ∈ ((h.counted "").filter fun t => (h.shown t).row.mainCategory = name).filter
          fun t => t.type = .refund :=
        List.mem_filter.mpr ⟨List.mem_filter.mpr ⟨ht, decide_eq_true hcategory⟩,
          decide_eq_true htype⟩
      rw [hrefundNil] at hmem
      cases hmem
  · rintro ⟨hwithin, hrefunds⟩
    have hrestNil : rest = [] := by
      rw [List.eq_nil_iff_forall_not_mem]
      intro t ht
      have hmem : t ∈ h.counted name := hrest ▸ List.mem_append_right _ ht
      rw [← hrest, List.nodup_append] at hnodup
      exact hnodup.2.2 t (List.mem_filter.mpr ⟨hwithin t (List.mem_append_right _ ht),
        decide_eq_true (hcolumn t hmem)⟩) t ht rfl
    have hrefundNil : ((h.counted "").filter fun t => (h.shown t).row.mainCategory = name).filter
        (fun t => t.type = .refund) = [] := by
      rw [List.filter_eq_nil_iff]
      intro t ht htype
      obtain ⟨hmem, hcategory⟩ := List.mem_filter.mp ht
      exact hrefunds t hmem (of_decide_eq_true htype) (of_decide_eq_true hcategory)
    rw [hrestNil, hrefundNil]
    rfl

end Category

/-! ## The dashboard -/

/-- A text column of an object. -/
def HubObject.textColumn (o : HubObject) (field : String) : Option String :=
  (o.items.get field).asStr?

/-- The objects of a project whose status satisfies a condition. -/
def ofProject (table : Table HubObject.id) (projectId : String) (p : String → Bool) :
    List HubObject :=
  table.rows.filter fun o => o.textColumn "project_id" = some projectId ∧
    (o.textColumn "status").any p

/-- The latest active events of a project, with the names of their stages and areas:
    `timeline({"project_id": project_id, "status": "active", "limit": 8})`. -/
def Hub.recentEvents (h : Hub) (projectId : String) :
    List (HubObject × Option String × Option String) :=
  let events := (ofProject h.events projectId (· = "active")).insertionSort fun a b =>
    LexBy (fun o => (o.textColumn "occurred_at").getD "") HubObject.id b a
  (events.take 8).map fun e =>
    (e, ((e.textColumn "stage_id").bind h.stages.get?).bind (·.textColumn "name"),
      ((e.textColumn "area_id").bind h.areas.get?).bind (·.textColumn "name"))

/-- The result of `dashboard`; the ratio is the quotient that is rounded to a float. -/
structure Dashboard where
  project : HubObject
  activeStage : Option HubObject
  stages : ℕ
  areas : ℕ
  events : ℕ
  ledger : Summary
  budgetRemainingCents : ℤ
  budgetUsedRatio : Option ℚ
  recentEvents : List (HubObject × Option String × Option String)

/-- `budget_cents` of a project. -/
def HubObject.budgetCents (o : HubObject) : ℤ := (o.items.get "budget_cents").asInt?.getD 0

/-- `dashboard(project_id)` (`hub.py`, lines 1183–1203). -/
def Hub.dashboard (cfg : Config) (h : Hub) (projectId : String) : Except Raise Dashboard := do
  let projectId ← text cfg (.str projectId) "project_id" 64 true
  let project ← orRaise (h.projects.get? projectId) (raising "not_found" "对象不存在" 404)
  let ledger ← h.summary cfg { projectId := projectId }
  let budget := project.budgetCents
  return {
    project := project
    activeStage := (ofProject h.stages projectId (· = "active")).head?
    stages := (ofProject h.stages projectId (· ≠ "archived")).length
    areas := (ofProject h.areas projectId (· ≠ "archived")).length
    events := (ofProject h.events projectId (· = "active")).length
    ledger := ledger
    budgetRemainingCents := budget - ledger.netAmountCents
    budgetUsedRatio := if budget = 0 then none else some (ledger.netAmountCents / budget)
    recentEvents := h.recentEvents projectId }

/-- When the summaries of a ledger are exact: for every filter, for every category, and what the
    dashboard makes of them. -/
theorem summary_exact_iff (hU : cfg.unicode.Lawful) (hh : h.Booked cfg) :
    (∀ f s, h.summary cfg f = .ok s → ∃ c, { f with status := "active" }.criteria cfg = .ok c ∧
      (s.netAmountCents = h.expectedNet cfg c ↔ amounts (h.missedRefunds cfg c) =
        amounts (h.foreignRefunds cfg c) + signedTotal (h.cutRows cfg c))) ∧
    (∀ name s s₀, name ≠ "" → h.summary cfg { mainCategory := name } = .ok s →
      h.summary cfg {} = .ok s₀ → (s.netAmountCents = s₀.categoryTotals.total name ↔
        (∀ t ∈ h.counted name, t ∈ h.counted "") ∧
        ∀ t ∈ h.counted "", t.type = .refund → (h.shown t).row.mainCategory ≠ name)) ∧
    ∀ projectId d, h.dashboard cfg projectId = .ok d → ∃ clean,
      text cfg (.str projectId) "project_id" 64 true = .ok clean ∧
      h.projects.get? clean = some d.project ∧
      h.summary cfg { projectId := clean } = .ok d.ledger ∧
      d.budgetRemainingCents = d.project.budgetCents - d.ledger.netAmountCents := by
  refine ⟨fun f s hs => Hub.summary_net_iff hs, fun name s s₀ hname hs hs₀ =>
    Hub.category_total_iff hU hh hname hs hs₀, fun projectId d hd => ?_⟩
  simp only [Hub.dashboard, bind_eq_ok, orRaise_eq_ok, pure_eq_ok] at hd
  obtain ⟨clean, hclean, project, hproject, ledger, hledger, rfl⟩ := hd
  exact ⟨clean, hclean, hproject, hledger, rfl⟩

/-! ### A category with a refund -/

/-- A payment for the kitchen of which a part came back. -/
def refundedHub : Hub :=
  let h := (LedgerCall.addPayment (sampleEnv "payment-01") (taggedPayment "add-payment-000001" "tile")
    "page").step sampleConfig sampleHub
  (LedgerCall.addRefund (sampleEnv "refund-01") [("idempotency_key", .str "add-refund-0000001"),
    ("original_payment_id", .str "payment-01"), ("amount_cents", .int 3000),
    ("occurred_on", .str "2026-08-02")] "page").step sampleConfig h

theorem refundedHub_booked : refundedHub.Booked sampleConfig := by
  have hempty : sampleHub.Booked sampleConfig := .empty rfl
  unfold refundedHub
  exact (hempty.call _).call _

theorem refundedHub_facts :
    ((refundedHub.summary sampleConfig { mainCategory := "Kitchen" }).toOption.any fun s =>
      (refundedHub.summary sampleConfig {}).toOption.any fun s₀ =>
        decide (s.netAmountCents = 10000 ∧ s₀.categoryTotals.total "Kitchen" = 7000)) = true := by
  decide +kernel

/-- The summary of the category does not see the refund that its total counts. -/
theorem refunded_category : refundedHub.Booked sampleConfig ∧ ∃ s s₀,
    refundedHub.summary sampleConfig { mainCategory := "Kitchen" } = .ok s ∧
    refundedHub.summary sampleConfig {} = .ok s₀ ∧
    s.netAmountCents ≠ s₀.categoryTotals.total "Kitchen" := by
  obtain ⟨s, hs, hfacts⟩ := (Option.any_eq_true _ _).mp refundedHub_facts
  obtain ⟨s₀, hs₀, hfacts⟩ := (Option.any_eq_true _ _).mp hfacts
  obtain ⟨hnet, htotal⟩ := of_decide_eq_true hfacts
  refine ⟨refundedHub_booked, s, s₀, toOption_eq_some.mp hs, toOption_eq_some.mp hs₀, ?_⟩
  rw [hnet, htotal]
  decide

theorem summary_exact_iff_refunded : ∃ s s₀,
    refundedHub.summary sampleConfig { mainCategory := "Kitchen" } = .ok s ∧
    refundedHub.summary sampleConfig {} = .ok s₀ ∧
    ¬ ((∀ t ∈ refundedHub.counted "Kitchen", t ∈ refundedHub.counted "") ∧
      ∀ t ∈ refundedHub.counted "", t.type = .refund →
        (refundedHub.shown t).row.mainCategory ≠ "Kitchen") := by
  obtain ⟨s, hs, hfacts⟩ := (Option.any_eq_true _ _).mp refundedHub_facts
  obtain ⟨s₀, hs₀, hfacts⟩ := (Option.any_eq_true _ _).mp hfacts
  obtain ⟨hnet, htotal⟩ := of_decide_eq_true hfacts
  have hok := toOption_eq_some.mp hs
  have hok₀ := toOption_eq_some.mp hs₀
  refine ⟨s, s₀, hok, hok₀, fun hnone => ?_⟩
  have heq := ((summary_exact_iff ⟨fun _ _ => rfl, fun _ => rfl⟩ refundedHub_booked).2.1 "Kitchen"
    s s₀ (by decide) hok hok₀).mpr hnone
  rw [hnet, htotal] at heq
  exact absurd heq (by decide)

end HomeAddons.Renovation
