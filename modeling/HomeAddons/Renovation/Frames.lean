import HomeAddons.Renovation.Agreement

/-!
# Renovation Hub: what a write does to the documents of other transactions

A ledger tool writes the transactions that it is about. The documents of the others depend on it
only through the spelling of the tags that they share.

* `LedgerCall.Carries.view`: the rows, contexts and links of the others are not written.
* `LedgerCall.Carries.spelling`: a tag is respelled only as the call spells it.
* `LedgerCall.exec_frame`: the documents of the others.
-/

namespace HomeAddons.Renovation

open HomeAddons.Common

variable {cfg : Config} {h h' : Hub}

/-! ## The document of a transaction -/

/-- The transaction whose tags a document shows: a refund has those of its payment. -/
def Transaction.tagOwner (t : Transaction) : String :=
  match t.type, t.originalPaymentId with
  | .refund, some payment => payment
  | _, _ => t.id

/-- The document of a transaction depends on its context, on the row and the links of the
    transaction whose tags it shows, and on the spelling of these tags. -/
theorem Hub.transactionDocument_congr_of_view {row : Transaction}
    (hcontext : h'.contexts.get? row.id = h.contexts.get? row.id)
    (hrow : h'.transactions.get? row.tagOwner = h.transactions.get? row.tagOwner)
    (htags : h'.tagNames row.tagOwner = h.tagNames row.tagOwner) :
    h'.transactionDocument row = h.transactionDocument row := by
  have hinherited : h'.inherited row = h.inherited row := by
    unfold Hub.inherited
    unfold Transaction.tagOwner at hrow htags
    split
    · next payment htype horiginal =>
      simp only [htype, horiginal] at hrow htags
      rw [hrow, htags]
    · next hother =>
      split at htags
      · next payment htype horiginal => exact absurd horiginal (hother payment htype)
      · rw [htags]
  unfold Hub.transactionDocument
  rw [hinherited, hcontext]

/-! ## The subject of a call and the tags that it spells -/

namespace LedgerCall

/-- The call is about this transaction. -/
def Concerns (cfg : Config) (p : String) : LedgerCall → Prop
  | .addPayment env _ _ => env.uuid 0 = p
  | .addRefund env _ _ => env.uuid 0 = p
  | .correctPayment _ payload _ => ∃ u, correction cfg payload = .ok u ∧ u.paymentId = p
  | .undo _ payload _ => ∃ u, undoing cfg payload = .ok u ∧ u.transactionId = p
  | .mutate _ payload _ => ∃ u, mutation cfg payload = .ok u ∧ u.targetType = .transaction ∧
      p ∈ u.targetIds

/-- The tags that a call gives to the transactions that it is about. -/
def tagsGiven (cfg : Config) (h : Hub) : LedgerCall → Option (FormatVersion × List String)
  | .addPayment _ payload _ =>
    (paymentFields cfg payload).toOption.map fun clean => (clean.ledgerFormatVersion, clean.tags)
  | .addRefund _ _ _ => none
  | .correctPayment _ payload _ => do
    let u ← (correction cfg payload).toOption
    let row ← h.activePayment u.paymentId
    let clean ← (u.complete cfg row.ledgerFormatVersion).toOption
    let tags ← clean.tags
    return (row.ledgerFormatVersion, tags)
  | .undo _ _ _ => none
  | .mutate _ payload _ => do
    let u ← (mutation cfg payload).toOption
    if u.targetType = .transaction then tagsWritten cfg u.patch else none

/-- The call stores a tag with this key in this spelling. -/
def Spells (cfg : Config) (h : Hub) (c : LedgerCall) (k tag : String) : Prop :=
  ∃ v tags, c.tagsGiven cfg h = some (v, tags) ∧ tag ∈ tags ∧ tagKey cfg v tag = k

end LedgerCall

/-- A tag is spelled as before or as one of these tags. -/
def Hub.RespelledBy (cfg : Config) (h h' : Hub) (v : FormatVersion) (tags : List String) : Prop :=
  ∀ k, h'.tags.get? k = h.tags.get? k ∨
    ∃ tag ∈ tags, tagKey cfg v tag = k ∧ h'.tags.get? k = some ⟨k, tag⟩

theorem Hub.setTags_respelledBy {id : String} {v : FormatVersion} {tags : List String}
    {now : ℕ → String} (hs : h.setTags cfg id tags v now = .ok h') :
    h.RespelledBy cfg h' v tags := by
  intro k
  by_cases hk : ∃ tag ∈ tags, tagKey cfg v tag = k
  · obtain ⟨tag, htag, rfl⟩ := hk
    exact .inr ⟨tag, htag, rfl, (Hub.setTags_tagged hs).spelled tag htag⟩
  · exact .inl (Hub.setTags_tags_of_not_mem hs fun tag htag hkey => hk ⟨tag, htag, hkey⟩)

/-! ## The operations -/

section Operations

variable {env : Env} {payload : Dict} {actorHash key p : String} {result : Json}

theorem addPaymentOperation_tags {clean : PaymentFields}
    (hs : addPaymentOperation cfg env payload actorHash key clean h = .ok (h', result)) :
    (∀ i ≠ env.uuid 0, h'.linksOf i = h.linksOf i) ∧
      h.RespelledBy cfg h' clean.ledgerFormatVersion clean.tags := by
  simp only [addPaymentOperation, bind_eq_ok, orRaise_eq_ok, pure_eq_ok, Prod.mk.injEq] at hs
  obtain ⟨T, _, h₁, hs₁, h₂, hs₂, _, _, rfl, _⟩ := hs
  have hsame : h₂.tags = h₁.tags ∧ h₂.tagLinks = h₁.tagLinks := by
    obtain rfl | ⟨_, _, _, _, rfl⟩ := Hub.afterTransactionInsert_ok hs₂ <;> exact ⟨rfl, rfl⟩
  refine ⟨fun i hi => ?_, fun k => ?_⟩
  · have hlinks := Hub.setTags_links_of_ne hs₁ hi
    rwa [Hub.linksOf, ← hsame.2] at hlinks
  · have htags := Hub.setTags_respelledBy hs₁ k
    rwa [← hsame.1] at htags

theorem addRefundOperation_tags {clean : RefundFields}
    (hs : addRefundOperation cfg env payload actorHash key clean h = .ok (h', result)) :
    h'.tagLinks = h.tagLinks ∧ h'.tags = h.tags := by
  simp only [addRefundOperation, bind_eq_ok, orRaise_eq_ok, ensure_eq_ok, pure_eq_ok,
    Prod.mk.injEq] at hs
  obtain ⟨_, _, _, _, T, _, h₁, hs₁, _, _, rfl, _⟩ := hs
  obtain rfl | ⟨_, _, _, _, rfl⟩ := Hub.afterTransactionInsert_ok hs₁ <;> exact ⟨rfl, rfl⟩

theorem undoOperation_tags {u : Undo}
    (hs : undoOperation env payload actorHash u h = .ok (h', result)) :
    h'.tagLinks = h.tagLinks ∧ h'.tags = h.tags := by
  simp only [undoOperation, bind_eq_ok, orRaise_eq_ok, ensure_eq_ok, pure_eq_ok,
    Prod.mk.injEq] at hs
  obtain ⟨_, _, _, _, _, _, _, _, h₁, hs₁, _, _, rfl, _⟩ := hs
  rw [Hub.afterTransactionUpdate_ok hs₁]
  split_ifs <;> exact ⟨rfl, rfl⟩

/-- A correction gives its payment tags only when it has some. -/
theorem correctPaymentOperation_tags {u : Correction}
    (hs : correctPaymentOperation cfg env payload actorHash u h = .ok (h', result)) :
    ∃ row clean, h.activePayment u.paymentId = some row ∧
      u.complete cfg row.ledgerFormatVersion = .ok clean ∧
      (∀ i ≠ u.paymentId, h'.linksOf i = h.linksOf i) ∧
      (clean.tags = none → h'.tags = h.tags) ∧
      ∀ tags, clean.tags = some tags → h.RespelledBy cfg h' row.ledgerFormatVersion tags := by
  simp only [correctPaymentOperation, bind_eq_ok, orRaise_eq_ok, ensure_eq_ok, pure_eq_ok,
    Prod.mk.injEq] at hs
  obtain ⟨row, hrow, clean, hclean, _, _, _, _, _, _, h₁, hs₁, h₂, hs₂, _, _, rfl, _⟩ := hs
  have hsame : h₂.tags = h₁.tags ∧ h₂.tagLinks = h₁.tagLinks := by
    rw [Hub.afterTransactionUpdate_ok hs₂]
    split_ifs <;> exact ⟨rfl, rfl⟩
  refine ⟨row, clean, hrow, hclean, ?_⟩
  cases htags : clean.tags with
  | none =>
    rw [htags] at hs₁
    cases hs₁
    refine ⟨fun i _ => ?_, fun _ => hsame.1, by simp⟩
    rw [Hub.linksOf, Hub.audit, Hub.domainAudit, hsame.2]
    rfl
  | some tags =>
    rw [htags] at hs₁
    refine ⟨fun i hi => ?_, by simp, ?_⟩
    · have hlinks := Hub.setTags_links_of_ne hs₁ hi
      rwa [Hub.linksOf, ← hsame.2] at hlinks
    · rintro _ ⟨⟩ k
      have hspelled := Hub.setTags_respelledBy hs₁ k
      rwa [← hsame.1] at hspelled

/-- A tag is spelled as before or as the patch of an apply spells it. -/
def Hub.RespelledByPatch (cfg : Config) (u : Mutation) (h h' : Hub) : Prop :=
  ∀ k, h'.tags.get? k = h.tags.get? k ∨ ∃ v tags, u.targetType = .transaction ∧
    tagsWritten cfg u.patch = some (v, tags) ∧
    ∃ tag ∈ tags, tagKey cfg v tag = k ∧ h'.tags.get? k = some ⟨k, tag⟩

variable {u : Mutation}

theorem applyItem_respelled {acc acc' : Hub × List Dict} {item : MutationItem} (hu : u.Clean cfg)
    (hs : applyItem cfg env actorHash key u acc item = .ok acc') :
    acc.1.RespelledByPatch cfg u acc'.1 := by
  intro k
  obtain ⟨after, ⟨htype, hs⟩ | ⟨htype, hs⟩⟩ := applyItem_ok hs
  · obtain ⟨_, _, htags, _⟩ | ⟨v, tags, h₀, h₂, now, hw, ht₀, _, hs₂, ht₂, _⟩ :=
      applyTransaction_tags hu hs
    · exact .inl (by rw [htags])
    · have hspelled := Hub.setTags_respelledBy hs₂ k
      rw [ht₀, ← ht₂] at hspelled
      exact hspelled.imp_right fun hnew => ⟨v, tags, htype, hw, hnew⟩
  · obtain ⟨_, _, _, heq⟩ := applyObject_ok hs
    refine .inl ?_
    rw [heq]
    cases u.targetType <;> rfl

theorem mutateOperation_respelled {digest : String} (hu : u.Clean cfg)
    (hop : mutateOperation cfg env actorHash key u digest h = .ok (h', result)) :
    h.RespelledByPatch cfg u h' := by
  obtain ⟨items, results, _, _, hfold⟩ := mutateOperation_ok hop
  refine foldlM_ok (P := fun acc : Hub × List Dict => h.RespelledByPatch cfg u acc.1) ?_
    (fun k => .inl rfl) hfold
  intro item _ acc acc' hr hround k
  obtain heq | hnew := applyItem_respelled hu hround k
  · rw [heq]
    exact hr k
  · exact .inr hnew

end Operations

/-! ## Calls -/

section Calls

variable {c : LedgerCall} {h₁ : Hub} {p : String}

namespace LedgerCall

/-- The transactions that a call is not about are not written. -/
theorem Carries.view (hc : c.Carries cfg h h₁) (hp : ¬ c.Concerns cfg p) : h.SameView h₁ p := by
  cases hc with
  | @addPayment env payload actorHash key clean h₁ result hclean hop =>
    obtain ⟨T, C, hT, hC, heq⟩ := addPaymentOperation_ok hop
    have hne : p ≠ env.uuid 0 := Ne.symm hp
    refine ⟨?_, ?_, (addPaymentOperation_tags hop).1 p hne⟩
    · rw [heq]
      exact (Table.get?_insert? hT p).trans (if_neg hne)
    · rw [heq]
      exact hC p hne
  | @addRefund env payload actorHash key clean h₁ result hclean hop =>
    obtain ⟨_, T, C, _, _, hT, hC, heq⟩ := addRefundOperation_ok hop
    have hne : p ≠ env.uuid 0 := Ne.symm hp
    refine ⟨?_, ?_, ?_⟩
    · rw [heq]
      exact (Table.get?_insert? hT p).trans (if_neg hne)
    · rw [heq]
      exact hC p hne
    · rw [Hub.linksOf, (addRefundOperation_tags hop).1, Hub.linksOf]
  | @correctPayment env payload actorHash u h₁ result hu hop =>
    obtain ⟨_, _, _, _, _, _, heq⟩ := correctPaymentOperation_ok hop
    obtain ⟨_, _, _, _, hlinks, _⟩ := correctPaymentOperation_tags hop
    have hne : p ≠ u.paymentId := fun heq => hp ⟨u, hu, heq.symm⟩
    refine ⟨?_, ?_, hlinks p hne⟩
    · rw [heq]
      exact Table.get?_update_of_ne _ hne _ (Transaction.corrected_id _ _)
    · rw [heq]
      exact (h.reversioned_get? _ _ p payload).trans (if_neg fun heq => hne heq.2)
  | @undo env payload actorHash u h₁ result hu hop =>
    obtain ⟨_, _, _, _, _, heq⟩ := undoOperation_ok hop
    have hne : p ≠ u.transactionId := fun heq => hp ⟨u, hu, heq.symm⟩
    refine ⟨?_, ?_, ?_⟩
    · rw [heq]
      exact Table.get?_update_of_ne _ hne _ (Transaction.undone_id _ _)
    · rw [heq]
      exact (h.reversioned_get? _ _ p payload).trans (if_neg fun heq => hne heq.2)
    · rw [Hub.linksOf, (undoOperation_tags hop).1, Hub.linksOf]
  | @mutate env payload actorHash key digest u h₁ result hu hop =>
    exact (mutateOperation_elsewhere (mutation_clean hu) hop).transactions p
      fun htype hmem => hp ⟨u, hu, htype, hmem⟩

/-- A tag is spelled as before or as the call spells it. -/
theorem Carries.spelling (hc : c.Carries cfg h h₁) (k : String) :
    h₁.tags.get? k = h.tags.get? k ∨
      ∃ tag, c.Spells cfg h k tag ∧ h₁.tags.get? k = some ⟨k, tag⟩ := by
  cases hc with
  | @addPayment env payload actorHash key clean h₁ result hclean hop =>
    refine ((addPaymentOperation_tags hop).2 k).imp_right ?_
    rintro ⟨tag, htag, hkey, hnew⟩
    exact ⟨tag, ⟨clean.ledgerFormatVersion, clean.tags, by rw [tagsGiven, hclean]; rfl, htag, hkey⟩,
      hnew⟩
  | addRefund hclean hop => exact .inl (by rw [(addRefundOperation_tags hop).2])
  | @correctPayment env payload actorHash u h₁ result hu hop =>
    obtain ⟨row, clean, hrow, hcomplete, _, hnone, hsome⟩ := correctPaymentOperation_tags hop
    cases htags : clean.tags with
    | none => exact .inl (by rw [hnone htags])
    | some tags =>
      refine (hsome tags htags k).imp_right ?_
      rintro ⟨tag, htag, hkey, hnew⟩
      refine ⟨tag, ⟨row.ledgerFormatVersion, tags, ?_, htag, hkey⟩, hnew⟩
      rw [tagsGiven, hu]
      show (h.activePayment u.paymentId).bind _ = _
      rw [hrow]
      show (u.complete cfg row.ledgerFormatVersion).toOption.bind _ = _
      rw [hcomplete]
      show clean.tags.bind _ = _
      rw [htags]
      rfl
  | undo hu hop => exact .inl (by rw [(undoOperation_tags hop).2])
  | @mutate env payload actorHash key digest u h₁ result hu hop =>
    refine (mutateOperation_respelled (mutation_clean hu) hop k).imp_right ?_
    rintro ⟨v, tags, htype, hw, tag, htag, hkey, hnew⟩
    refine ⟨tag, ⟨v, tags, ?_, htag, hkey⟩, hnew⟩
    rw [tagsGiven, hu]
    show (if u.targetType = .transaction then _ else _) = _
    rw [if_pos htype, hw]

end LedgerCall

/-- The spelling of the tags is what the two states do not share. -/
structure Framed (cfg : Config) (c : LedgerCall) (h h' : Hub) (row : Transaction) : Prop where
  stored : h'.transactions.get? row.id = some row
  /-- The document is the one that the state before shows with the tags as they are spelled now. -/
  document : h'.transactionDocument row = { h with tags := h'.tags }.transactionDocument row
  spelling : ∀ l ∈ h.linksOf row.tagOwner,
    h'.tags.get? l.tagNormalized = h.tags.get? l.tagNormalized ∨
      ∃ tag, c.Spells cfg h l.tagNormalized tag ∧
        h'.tags.get? l.tagNormalized = some ⟨l.tagNormalized, tag⟩
  /-- Nothing changes where the call spells the tags of the document as they are spelled. -/
  unchanged : (∀ l ∈ h.linksOf row.tagOwner, ∀ tag, c.Spells cfg h l.tagNormalized tag →
      h.tags.get? l.tagNormalized = some ⟨l.tagNormalized, tag⟩) →
    h'.transactionDocument row = h.transactionDocument row

/-- A call that returns changes the document of a transaction that it is not about, and whose
    payment it is not about either, in nothing but the spelling of its tags. -/
theorem LedgerCall.exec_frame {x : Hub × Json × Bool} {row : Transaction}
    (hx : c.exec cfg h = .ok x) (hrow : h.transactions.get? row.id = some row)
    (hself : ¬ c.Concerns cfg row.id) (howner : ¬ c.Concerns cfg row.tagOwner) :
    Framed cfg c h x.1 row := by
  obtain heq | ⟨h₁, keys, now, result, hc, hx₁⟩ := exec_ok hx
  · rw [heq]
    exact ⟨hrow, rfl, fun _ _ => .inl rfl, fun _ => rfl⟩
  · rw [hx] at hx₁
    cases hx₁
    have hview := hc.view hself
    have hviewOwner := hc.view howner
    refine ⟨hview.row.trans hrow, ?_, fun l _ => hc.spelling l.tagNormalized, fun hsame => ?_⟩
    · refine Hub.transactionDocument_congr_of_view hview.context hviewOwner.row ?_
      exact Hub.tagNames_congr hviewOwner.links fun _ _ => rfl
    · refine Hub.transactionDocument_congr_of_view hview.context hviewOwner.row ?_
      refine Hub.tagNames_congr hviewOwner.links fun l hl => ?_
      obtain heq | ⟨tag, hspells, hnew⟩ := hc.spelling l.tagNormalized
      · exact heq
      · exact hnew.trans (hsame l hl tag hspells).symm

end Calls

/-! ### A payment that respells the tag of another -/

/-- One payment with a tag in lower case. -/
def ovenHub : Hub :=
  (LedgerCall.addPayment (sampleEnv "payment-01") (taggedPayment "add-payment-000001" "oven")
    "page").step foldingConfig sampleHub

/-- A second payment with the same tag, with a capital letter. -/
def secondOven : LedgerCall :=
  .addPayment (sampleEnv "payment-02") (taggedPayment "add-payment-000002" "Oven") "page"

/-- The tags of a document. -/
def tagsIn (document : Except Raise Dict) : Option (List String) :=
  document.toOption.map fun d => ((d.get "tags").asList?.getD []).filterMap Json.asStr?

theorem secondOven_facts :
    ((secondOven.exec foldingConfig ovenHub).toOption.any fun x => !x.2.2 &&
      (ovenHub.transactions.get? "payment-01").any fun row =>
        decide (row.id = "payment-01" ∧ row.tagOwner = "payment-01" ∧
          tagsIn (ovenHub.transactionDocument row) = some ["oven"] ∧
          tagsIn (x.1.transactionDocument row) = some ["Oven"])) = true := by
  decide +kernel

/-- The first payment is shown with the tag as the second one spells it. -/
theorem secondOven_respells : ∃ h' result row,
    secondOven.exec foldingConfig ovenHub = .ok (h', result, false) ∧
    ovenHub.transactions.get? row.id = some row ∧
    ¬ secondOven.Concerns foldingConfig row.id ∧ ¬ secondOven.Concerns foldingConfig row.tagOwner ∧
    h'.transactionDocument row ≠ ovenHub.transactionDocument row := by
  obtain ⟨⟨h', result, replayed⟩, hx, hfacts⟩ := (Option.any_eq_true _ _).mp secondOven_facts
  simp only [Bool.and_eq_true, Bool.not_eq_true'] at hfacts
  obtain ⟨rfl, hrow⟩ := hfacts
  obtain ⟨row, hget, hrow⟩ := (Option.any_eq_true _ _).mp hrow
  obtain ⟨hid, howner, hbefore, hafter⟩ := of_decide_eq_true hrow
  have hother : ¬ secondOven.Concerns foldingConfig "payment-01" :=
    show ¬ "payment-02" = "payment-01" by decide
  refine ⟨h', result, row, toOption_eq_some.mp hx, by rw [hid]; exact hget, by rwa [hid],
    by rwa [howner], fun heq => ?_⟩
  rw [heq, hbefore] at hafter
  exact absurd hafter (by decide)

theorem exec_frame_secondOven : ∃ x row, secondOven.exec foldingConfig ovenHub = .ok x ∧
    Framed foldingConfig secondOven ovenHub x.1 row := by
  obtain ⟨x, hx, hfacts⟩ := (Option.any_eq_true _ _).mp secondOven_facts
  obtain ⟨row, hget, hrow⟩ := (Option.any_eq_true _ _).mp (Bool.and_eq_true_iff.mp hfacts).2
  obtain ⟨hid, howner, -⟩ := of_decide_eq_true hrow
  have hother : ¬ secondOven.Concerns foldingConfig "payment-01" :=
    show ¬ "payment-02" = "payment-01" by decide
  have hok := toOption_eq_some.mp hx
  exact ⟨x, row, hok, LedgerCall.exec_frame hok (by rw [hid]; exact hget) (by rwa [hid])
    (by rwa [howner])⟩

end HomeAddons.Renovation
