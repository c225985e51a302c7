import HomeAddons.Renovation.Mutation

/-!
# Renovation Hub: what the ledger tools write

One lemma for each operation: what must hold when it returns, and what it leaves in `transactions`
and in `transaction_context`. The proofs about the ledger use these lemmas and do not unfold the
operations.
-/

namespace HomeAddons.Renovation

open HomeAddons.Common

section Operations

variable {cfg : Config} {h h' : Hub} {env : Env} {payload : Dict} {actorHash key : String}

/-! ## Tags and contexts -/

variable {v : FormatVersion} {now : ℕ → String} {item : MutationItem} {patch after : Dict}
  {u : Mutation} {p : String} {result : Json} {acc acc' : Hub × List Dict} {targetType : TargetType}
  {ids : List String} {items : List MutationItem}

/-- A tag writes only the tags. -/
theorem Hub.setTag_frame {id : String} {item : String × ℕ}
    (hs : h.setTag cfg id v now item = .ok h') :
    h' = { h with tags := h'.tags, tagLinks := h'.tagLinks } := by
  unfold Hub.setTag at hs
  dsimp only at hs
  split_ifs at hs <;> simp only [bind_eq_ok, map_eq_ok, ensure_eq_ok, pure_eq_ok] at hs <;>
    obtain ⟨_, _, _, _, rfl⟩ := hs <;> rfl

theorem Hub.setTags_frame {id : String} {tags : List String}
    (hs : h.setTags cfg id tags v now = .ok h') :
    h' = { h with tags := h'.tags, tagLinks := h'.tagLinks } := by
  have hfold : ∀ (items : List (String × ℕ)) (h₁ : Hub),
      items.foldlM (Hub.setTag cfg id v now) h₁ = .ok h' →
        h' = { h₁ with tags := h'.tags, tagLinks := h'.tagLinks } := by
    intro items
    induction items with
    | nil =>
      intro h₁ hok
      cases hok
      rfl
    | cons item items ih =>
      intro h₁ hok
      rw [List.foldlM_cons, bind_eq_ok] at hok
      obtain ⟨h₂, hitem, hok⟩ := hok
      rw [ih h₂ hok, Hub.setTag_frame hitem]
  unfold Hub.setTags at hs
  rw [hfold _ _ hs]

theorem Hub.replaceTags_frame {id : String} {tags : Option (List String)}
    (hs : h.replaceTags cfg id tags v now = .ok h') :
    h' = { h with tags := h'.tags, tagLinks := h'.tagLinks } := by
  cases tags with
  | some tags => exact Hub.setTags_frame hs
  | none =>
    cases hs
    rfl

theorem Hub.applyTags_frame {id : String} (hs : h.applyTags cfg id patch now = .ok h') :
    h' = { h with tags := h'.tags, tagLinks := h'.tagLinks } := by
  have hgrouped : ∀ h₁ : Hub, (if patch.has "grouped_tags" then do
        let tags ← normalizeGroupedTags cfg (patch.get "grouped_tags")
        h₁.setTags cfg id tags.1 .v2 now
      else return h₁) = .ok h' → h' = { h₁ with tags := h'.tags, tagLinks := h'.tagLinks } := by
    intro h₁ hs₁
    split_ifs at hs₁
    · obtain ⟨tags, _, hs₁⟩ := bind_eq_ok.mp hs₁
      exact Hub.setTags_frame hs₁
    · cases hs₁
      rfl
  unfold Hub.applyTags at hs
  dsimp only at hs
  by_cases htags : patch.has "tags" = true
  · rw [if_pos htags] at hs
    obtain ⟨h₁, hs₁, hs⟩ := bind_eq_ok.mp hs
    rw [hgrouped h₁ hs, Hub.setTags_frame hs₁]
  · rw [if_neg htags] at hs
    exact hgrouped h hs

/-- The hook after an insertion may give the new transaction a context, with version 1. -/
theorem Hub.afterTransactionInsert_ok {now id : String} {original : Option String}
    (hs : h.afterTransactionInsert cfg now id payload original = .ok h') :
    h' = h ∨ ∃ c T, c.transactionId = id ∧ h.contexts.insert? c = some T ∧
      h' = { h with contexts := T } := by
  simp only [Hub.afterTransactionInsert, bind_eq_ok] at hs
  obtain ⟨_, _, _, _, _, _, hs⟩ := hs
  split at hs
  · cases hs
    exact .inl rfl
  · simp only [bind_eq_ok, orRaise_eq_ok, pure_eq_ok] at hs
    obtain ⟨_, _, T, hT, rfl⟩ := hs
    exact .inr ⟨_, T, rfl, hT, rfl⟩

/-- The version that a payload carries is the one of the context. -/
theorem Hub.validateTransactionVersion_ok {id : String} {u : Unit} :
    h.validateTransactionVersion id payload = .ok u ↔ (payload.has "version" = true →
      ∃ expected, version (payload.get "version") = .ok expected ∧
        (h.contexts.get? id).map Context.version = some expected) := by
  unfold Hub.validateTransactionVersion
  split_ifs with hv <;> simp [hv]

theorem Hub.afterTransactionUpdate_ok {now id : String}
    (hs : h.afterTransactionUpdate now id payload = .ok h') :
    h' = if payload.has "version" then
      { h with contexts := h.contexts.update id (Context.bumped now) fun _ => rfl } else h := by
  unfold Hub.afterTransactionUpdate at hs
  split_ifs at hs ⊢ with hv
  · simp only [bind_eq_ok, pure_eq_ok] at hs
    obtain ⟨_, _, rfl⟩ := hs
    rfl
  · cases hs
    rfl

/-- A hub that differs from another in nothing but the rows a ledger tool may write. -/
def Hub.relogged (h h' : Hub) (transactions : Table Transaction.id)
    (contexts : Table Context.transactionId) : Hub :=
  { h with transactions := transactions, contexts := contexts, tags := h'.tags,
           tagLinks := h'.tagLinks, auditLog := h'.auditLog }

theorem Hub.activePayment_eq_some {id : String} {t : Transaction} :
    h.activePayment id = some t ↔
      h.transactions.get? id = some t ∧ t.type = .payment ∧ t.status = .active := by
  simp [Hub.activePayment, Option.filter_eq_some_iff]

/-- An edit of a row that leaves its type and its status alone. -/
theorem Hub.activePayment_update {id : String} {f : Transaction → Transaction}
    (hf : ∀ t, (f t).id = t.id) (hT : h'.transactions = h.transactions.update id f hf)
    (hkeep : ∀ t, (f t).type = t.type ∧ (f t).status = t.status) :
    (h'.activePayment p).isSome = (h.activePayment p).isSome := by
  unfold Hub.activePayment
  rw [hT, Table.get?_update]
  split_ifs
  · cases h.transactions.get? p with
    | none => rfl
    | some t =>
      obtain ⟨htype, hstatus⟩ := hkeep t
      by_cases ht : t.type = .payment ∧ t.status = .active <;> simp [htype, hstatus, ht]
  · rfl

/-- An insertion leaves the rows that are there alone. -/
theorem Hub.activePayment_insert {row : Transaction} {T : Table Transaction.id}
    (hT : h.transactions.insert? row = some T) (hh : h'.transactions = T)
    (hp : h.transactions.get? p ≠ none) : h'.activePayment p = h.activePayment p := by
  obtain ⟨t, ht⟩ := Option.ne_none_iff_exists'.mp hp
  rw [Hub.activePayment, Hub.activePayment, hh, Table.get?_insert?_of_get? hT ht, ht]

theorem Transaction.undone_id (reason now : String) (t : Transaction) :
    (t.undone reason now).id = t.id := rfl

theorem Context.bumped_transactionId (now : String) (c : Context) :
    (c.bumped now).transactionId = c.transactionId := rfl

theorem Transaction.corrected_keeps (c : PaymentChanges) (now : String) (t : Transaction) :
    (t.corrected c now).type = t.type ∧ (t.corrected c now).status = t.status := by
  unfold Transaction.corrected
  split_ifs <;> exact ⟨rfl, rfl⟩

theorem Transaction.patched_keeps (patch : Dict) (now : String) (t : Transaction) :
    (t.patched patch now).type = t.type ∧ (t.patched patch now).status = t.status := by
  unfold Transaction.patched
  split_ifs <;> exact ⟨rfl, rfl⟩

/-! ## The ledger tools -/

theorem addPaymentOperation_ok {clean : PaymentFields}
    (hs : addPaymentOperation cfg env payload actorHash key clean h = .ok (h', result)) :
    ∃ T C, h.transactions.insert? (clean.row (env.uuid 0) (env.now 0) h.nextPortableId) = some T ∧
      (∀ i ≠ env.uuid 0, C.get? i = h.contexts.get? i) ∧ h' = h.relogged h' T C := by
  simp only [addPaymentOperation, bind_eq_ok, orRaise_eq_ok, pure_eq_ok, Prod.mk.injEq] at hs
  obtain ⟨T, hT, h₁, hs₁, h₂, hs₂, _, _, rfl, _⟩ := hs
  have h₁eq := Hub.setTags_frame hs₁
  obtain rfl | ⟨c, C, hc, hC, rfl⟩ := Hub.afterTransactionInsert_ok hs₂
  · refine ⟨T, h.contexts, hT, fun _ _ => rfl, ?_⟩
    rw [h₁eq]
    rfl
  · rw [h₁eq] at hC
    refine ⟨T, C, hT, ?_, ?_⟩
    · intro i hi
      exact (Table.get?_insert? hC i).trans (if_neg (by rw [hc]; exact hi))
    · rw [h₁eq]
      rfl

theorem addRefundOperation_ok {clean : RefundFields}
    (hs : addRefundOperation cfg env payload actorHash key clean h = .ok (h', result)) :
    ∃ payment T C, h.activePayment clean.originalPaymentId = some payment ∧
      h.refunded payment.id + clean.amountCents ≤ payment.amountCents ∧
      h.transactions.insert? (clean.row payment (env.uuid 0) (env.now 0) h.nextPortableId) =
        some T ∧
      (∀ i ≠ env.uuid 0, C.get? i = h.contexts.get? i) ∧ h' = h.relogged h' T C := by
  simp only [addRefundOperation, bind_eq_ok, orRaise_eq_ok, ensure_eq_ok, pure_eq_ok,
    Prod.mk.injEq] at hs
  obtain ⟨payment, hpayment, _, hsum, T, hT, h₁, hs₁, _, _, rfl, _⟩ := hs
  obtain rfl | ⟨c, C, hc, hC, rfl⟩ := Hub.afterTransactionInsert_ok hs₁
  · exact ⟨payment, T, h.contexts, hpayment, hsum, hT, fun _ _ => rfl, rfl⟩
  · refine ⟨payment, T, C, hpayment, hsum, hT, ?_, rfl⟩
    intro i hi
    exact (Table.get?_insert? hC i).trans (if_neg (by rw [hc]; exact hi))

/-- The contexts after an edit of a transaction: a payload with a version raises it. -/
def Hub.reversioned (h : Hub) (now id : String) (payload : Dict) : Table Context.transactionId :=
  if payload.has "version" then
    h.contexts.update id (Context.bumped now) (Context.bumped_transactionId _)
  else h.contexts

theorem Hub.reversioned_get? (h : Hub) (now id p : String) (payload : Dict) :
    (h.reversioned now id payload).get? p = if payload.has "version" ∧ p = id then
      (h.contexts.get? p).map (Context.bumped now) else h.contexts.get? p := by
  unfold Hub.reversioned
  by_cases hversion : payload.has "version" = true <;> simp [hversion]

theorem correctPaymentOperation_ok {u : Correction}
    (hs : correctPaymentOperation cfg env payload actorHash u h = .ok (h', result)) :
    ∃ row clean, h.activePayment u.paymentId = some row ∧
      u.complete cfg row.ledgerFormatVersion = .ok clean ∧
      h.validateTransactionVersion u.paymentId payload = .ok () ∧
      (∀ amount ∈ clean.amountCents, h.refunded u.paymentId ≤ amount) ∧
      h' = h.relogged h' (h.transactions.update u.paymentId
          (Transaction.corrected clean (env.now 0)) (Transaction.corrected_id _ _))
        (h.reversioned (env.now 1) u.paymentId payload) := by
  simp only [correctPaymentOperation, bind_eq_ok, orRaise_eq_ok, ensure_eq_ok, pure_eq_ok,
    Prod.mk.injEq] at hs
  obtain ⟨row, hrow, clean, hclean, _, hversion, _, _, _, hsum, h₁, hs₁, h₂, hs₂, _, _, rfl, _⟩ :=
    hs
  refine ⟨row, clean, hrow, hclean, hversion, hsum, ?_⟩
  rw [Hub.afterTransactionUpdate_ok hs₂, Hub.replaceTags_frame hs₁]
  unfold Hub.reversioned
  split_ifs <;> rfl

theorem undoOperation_ok {u : Undo}
    (hs : undoOperation env payload actorHash u h = .ok (h', result)) :
    ∃ row, h.transactions.get? u.transactionId = some row ∧ row.status = .active ∧
      h.validateTransactionVersion u.transactionId payload = .ok () ∧
      (row.type = .payment → h.activeRefunds u.transactionId = []) ∧
      h' = h.relogged h' (h.transactions.update u.transactionId
          (Transaction.undone u.reason (env.now 0)) (Transaction.undone_id _ _))
        (h.reversioned (env.now 1) u.transactionId payload) := by
  simp only [undoOperation, bind_eq_ok, orRaise_eq_ok, Option.filter_eq_some_iff,
    decide_eq_true_eq, ensure_eq_ok, pure_eq_ok, Prod.mk.injEq] at hs
  obtain ⟨row, ⟨hrow, hactive⟩, _, hversion, _, _, _, hfree, h₁, hs₁, _, _, rfl, _⟩ := hs
  refine ⟨row, hrow, hactive, hversion, hfree, ?_⟩
  rw [Hub.afterTransactionUpdate_ok hs₁]
  unfold Hub.reversioned
  split_ifs <;> rfl

/-! ## `mutate` -/

theorem Hub.applyContext_frame {id now : String} {candidate : Json} :
    h.applyContext id candidate now =
      { h with contexts := (h.applyContext id candidate now).contexts } := by
  unfold Hub.applyContext
  split <;> rfl

theorem applyTransaction_ok
    (hs : applyTransaction cfg env actorHash key u item h = .ok (h', after)) :
    ∃ row, h.activePayment item.id = some row ∧
      h' = h.relogged h' (h.transactions.update item.id (Transaction.patched u.patch (env.now 0))
          (Transaction.patched_id _ _))
        (h.applyContext item.id (item.after.get "context") (env.now 1)).contexts ∧
      h'.transactionDocument (row.patched u.patch (env.now 0)) = .ok after := by
  simp only [applyTransaction, bind_eq_ok, orRaise_eq_ok, pure_eq_ok, Prod.mk.injEq] at hs
  obtain ⟨row, hrow, h₁, hs₁, _, hafter, rfl, rfl⟩ := hs
  refine ⟨row, hrow, ?_, hafter⟩
  rw [Hub.applyContext_frame, Hub.applyTags_frame hs₁]
  unfold Hub.applyContext
  split <;> rfl

theorem HubObject.patched_id (patch : Dict) (now : String) (o : HubObject) :
    (o.patched patch now).id = o.id := rfl

theorem applyObject_ok (hs : applyObject env actorHash key u item h = .ok (h', after)) :
    ∃ o, (h.objects u.targetType).get? item.id = some o ∧
      (item.before.get "version").eqInt o.version = true ∧
      h' = { h.setObjects u.targetType ((h.objects u.targetType).update item.id
          (HubObject.patched u.patch (env.now 0)) (HubObject.patched_id _ _)) with auditLog := h'.auditLog } := by
  simp only [applyObject, bind_eq_ok, orRaise_eq_ok, Option.filter_eq_some_iff, ensure_eq_ok,
    pure_eq_ok, Prod.mk.injEq] at hs
  obtain ⟨_, _, o, ⟨ho, hversion⟩, _, _, rfl, _⟩ := hs
  refine ⟨o, ho, hversion, ?_⟩
  cases u.targetType <;> rfl

/-- A round patches a transaction or an object. -/
theorem applyItem_ok (hs : applyItem cfg env actorHash key u acc item = .ok acc') : ∃ after,
      u.targetType = .transaction ∧ applyTransaction cfg (env.round acc.2.length) actorHash key u item
        acc.1 = .ok (acc'.1, after) ∨
      ¬ u.targetType = .transaction ∧ applyObject (env.round acc.2.length) actorHash key u item
        acc.1 = .ok (acc'.1, after) := by
  unfold applyItem at hs
  dsimp only at hs
  split_ifs at hs with htype <;> simp only [bind_eq_ok, pure_eq_ok] at hs <;>
    obtain ⟨⟨h₁, after⟩, hs, rfl⟩ := hs
  · exact ⟨after, .inl ⟨htype, hs⟩⟩
  · exact ⟨after, .inr ⟨htype, hs⟩⟩

theorem applyItem_transaction (htype : u.targetType = .transaction)
    (hs : applyItem cfg env actorHash key u acc item = .ok acc') : ∃ after,
      applyTransaction cfg (env.round acc.2.length) actorHash key u item acc.1 = .ok (acc'.1, after) := by
  obtain ⟨after, ⟨-, hs⟩ | ⟨hne, -⟩⟩ := applyItem_ok hs
  · exact ⟨after, hs⟩
  · exact absurd htype hne

theorem applyItem_object (htype : ¬ u.targetType = .transaction)
    (hs : applyItem cfg env actorHash key u acc item = .ok acc') : ∃ after,
      applyObject (env.round acc.2.length) actorHash key u item acc.1 = .ok (acc'.1, after) := by
  obtain ⟨after, ⟨heq, -⟩ | ⟨-, hs⟩⟩ := applyItem_ok hs
  · exact absurd heq htype
  · exact ⟨after, hs⟩

/-- A successful apply prepared its items from the state it started in, found the digest that it
    was given, and then wrote one item after the other. -/
theorem mutateOperation_ok {previewDigest : String}
    (hs : mutateOperation cfg env actorHash key u previewDigest h = .ok (h', result)) :
    ∃ items results, u.targetIds.mapM (h.prepareItem u.targetType u.patch) = .ok items ∧
      mutationDigest u items = previewDigest ∧
      items.foldlM (applyItem cfg env actorHash key u) (h, []) = .ok (h', results) := by
  simp only [mutateOperation, Hub.prepareMutation, bind_eq_ok, ensure_eq_ok, pure_eq_ok,
    Prod.mk.injEq] at hs
  obtain ⟨x, ⟨items, hitems, rfl⟩, _, hdigest, y, hfold, hh, _⟩ := hs
  rw [← hh]
  exact ⟨items, y.2, hitems, hdigest, hfold⟩

theorem Hub.prepareItem_ok {id : String} (hs : h.prepareItem targetType patch id = .ok item) :
    item.id = id ∧ h.mutationRecord targetType id = .ok item.before ∧
      h.mutationCandidate targetType item.before patch = .ok item.after := by
  simp only [Hub.prepareItem, bind_eq_ok, pure_eq_ok] at hs
  obtain ⟨before, hbefore, after, hafter, rfl⟩ := hs
  exact ⟨rfl, hbefore, hafter⟩

/-- The items of a mutation have the identifiers of its targets, in the same order. -/
theorem Hub.prepareItems_ids (hs : ids.mapM (h.prepareItem targetType patch) = .ok items) :
    items.map MutationItem.id = ids := by
  have hitems := mapM_ok hs
  clear hs
  induction hitems with
  | nil => rfl
  | cons hitem _ ih => rw [List.map_cons, (Hub.prepareItem_ok hitem).1, ih]

theorem Hub.prepareItem_of_mem (hs : ids.mapM (h.prepareItem targetType patch) = .ok items)
    (hitem : item ∈ items) : h.prepareItem targetType patch item.id = .ok item := by
  have hitems := mapM_ok hs
  clear hs
  induction hitems with
  | nil => cases hitem
  | cons hhead _ ih =>
    obtain rfl | hitem := List.mem_cons.mp hitem
    · rwa [(Hub.prepareItem_ok hhead).1]
    · exact ih hitem

theorem mutation_nodup {payload : Dict} (hu : mutation cfg payload = .ok u) :
    u.targetIds.Nodup := by
  simp only [mutation, bind_eq_ok, pure_eq_ok] at hu
  obtain ⟨_, _, ids, hids, _, _, _, _, rfl⟩ := hu
  simp only [mutationTargetIds, bind_eq_ok, ensure_eq_ok, pure_eq_ok] at hids
  obtain ⟨_, _, _, _, _, _, _, hnodup, rfl⟩ := hids
  exact hnodup

end Operations

/-! ## Calls -/

/-- A call of a tool that writes transactions, with its arguments and its surroundings. -/
inductive LedgerCall where
  | addPayment (env : Env) (payload : Dict) (actorHash : String)
  | addRefund (env : Env) (payload : Dict) (actorHash : String)
  | correctPayment (env : Env) (payload : Dict) (actorHash : String)
  | undo (env : Env) (payload : Dict) (actorHash : String)
  | mutate (env : Env) (payload : Dict) (actorHash : String)

namespace LedgerCall

/-- What the call returns, with the database that it leaves. -/
def exec (cfg : Config) (h : Hub) : LedgerCall → Except Raise (Hub × Json × Bool)
  | .addPayment env payload actorHash => Renovation.addPayment cfg h env payload actorHash
  | .addRefund env payload actorHash => Renovation.addRefund cfg h env payload actorHash
  | .correctPayment env payload actorHash => Renovation.correctPayment cfg h env payload actorHash
  | .undo env payload actorHash => Renovation.undo cfg h env payload actorHash
  | .mutate env payload actorHash => Renovation.mutate cfg h env payload actorHash

/-- The database after the call; a call that raises leaves it alone. -/
def step (cfg : Config) (h : Hub) (c : LedgerCall) : Hub :=
  match c.exec cfg h with
  | .ok (h', _) => h'
  | .error _ => h

/-- The call is carried out: its operation turns the first database into the second. -/
inductive Carries (cfg : Config) (h : Hub) : LedgerCall → Hub → Prop where
  | addPayment {env : Env} {payload : Dict} {actorHash key : String} {clean : PaymentFields}
      {h' : Hub} {result : Json} (hclean : paymentFields cfg payload = .ok clean)
      (hop : addPaymentOperation cfg env payload actorHash key clean h = .ok (h', result)) :
      Carries cfg h (.addPayment env payload actorHash) h'
  | addRefund {env : Env} {payload : Dict} {actorHash key : String} {clean : RefundFields}
      {h' : Hub} {result : Json} (hclean : refundFields cfg payload = .ok clean)
      (hop : addRefundOperation cfg env payload actorHash key clean h = .ok (h', result)) :
      Carries cfg h (.addRefund env payload actorHash) h'
  | correctPayment {env : Env} {payload : Dict} {actorHash : String} {u : Correction} {h' : Hub}
      {result : Json} (hu : correction cfg payload = .ok u)
      (hop : correctPaymentOperation cfg env payload actorHash u h = .ok (h', result)) :
      Carries cfg h (.correctPayment env payload actorHash) h'
  | undo {env : Env} {payload : Dict} {actorHash : String} {u : Undo} {h' : Hub} {result : Json}
      (hu : undoing cfg payload = .ok u)
      (hop : undoOperation env payload actorHash u h = .ok (h', result)) :
      Carries cfg h (.undo env payload actorHash) h'
  | mutate {env : Env} {payload : Dict} {actorHash key digest : String} {u : Mutation} {h' : Hub}
      {result : Json} (hu : mutation cfg payload = .ok u)
      (hop : mutateOperation cfg env actorHash key u digest h = .ok (h', result)) :
      Carries cfg h (.mutate env payload actorHash) h'

/-- The call returns, and it is the one that carries its operation out: not a replay, a preview or
    a call that raises. -/
def Commits (cfg : Config) (h : Hub) (c : LedgerCall) : Prop :=
  ∃ h₁ keys now result, c.Carries cfg h h₁ ∧
    c.exec cfg h = .ok (h₁.filed keys now, result, false)

/-- A call that returns leaves the database alone or is carried out. -/
theorem exec_ok {cfg : Config} {h : Hub} {c : LedgerCall} {x : Hub × Json × Bool}
    (hx : c.exec cfg h = .ok x) : x.1 = h ∨ c.Commits cfg h := by
  have hrun : ∀ {env : Env} {key : String} {request : Json}
      {operation : Hub → Except Raise (Hub × Json)},
      runIdempotent cfg h env key request operation = .ok x →
      (∀ h₁ result, operation h = .ok (h₁, result) → c.Carries cfg h h₁) →
      x.1 = h ∨ c.Commits cfg h := by
    intro env key request operation hok hcarries
    obtain ⟨_, _, _, rfl⟩ | ⟨_, h₁, result, keys, hop, _, rfl⟩ := runIdempotent_eq_ok.mp hok
    · exact .inl rfl
    · exact .inr ⟨h₁, keys, _, result, hcarries h₁ result hop, hx⟩
  cases c with
  | addPayment env payload actorHash =>
    have hx₁ := hx
    simp only [exec, Renovation.addPayment, bind_eq_ok] at hx₁
    obtain ⟨key, _, clean, hclean, hx₁⟩ := hx₁
    exact hrun hx₁ fun _ _ hop => .addPayment hclean hop
  | addRefund env payload actorHash =>
    have hx₁ := hx
    simp only [exec, Renovation.addRefund, bind_eq_ok] at hx₁
    obtain ⟨key, _, clean, hclean, hx₁⟩ := hx₁
    exact hrun hx₁ fun _ _ hop => .addRefund hclean hop
  | correctPayment env payload actorHash =>
    have hx₁ := hx
    simp only [exec, Renovation.correctPayment, bind_eq_ok] at hx₁
    obtain ⟨u, hu, hx₁⟩ := hx₁
    exact hrun hx₁ fun _ _ hop => .correctPayment hu hop
  | undo env payload actorHash =>
    have hx₁ := hx
    simp only [exec, Renovation.undo, bind_eq_ok] at hx₁
    obtain ⟨u, hu, hx₁⟩ := hx₁
    exact hrun hx₁ fun _ _ hop => .undo hu hop
  | mutate env payload actorHash =>
    have hx₁ := hx
    simp only [exec, Renovation.mutate, bind_eq_ok] at hx₁
    obtain ⟨mode, _, hx₁⟩ := hx₁
    split_ifs at hx₁
    · simp only [bind_eq_ok, pure_eq_ok] at hx₁
      obtain ⟨_, _, rfl⟩ := hx₁
      exact .inl rfl
    · simp only [mutateApply, bind_eq_ok] at hx₁
      obtain ⟨u, hu, _, _, digest, _, key, _, hx₁⟩ := hx₁
      exact hrun hx₁ fun _ _ hop => .mutate hu hop

theorem step_cases (cfg : Config) (h : Hub) (c : LedgerCall) :
    c.step cfg h = h ∨ ∃ h₁ keys now, c.Carries cfg h h₁ ∧ c.step cfg h = h₁.filed keys now := by
  unfold step
  cases hx : c.exec cfg h with
  | error e => exact .inl rfl
  | ok x =>
    obtain heq | ⟨h₁, keys, now, result, hcarries, hx'⟩ := exec_ok hx
    · exact .inl heq
    · rw [hx] at hx'
      cases hx'
      exact .inr ⟨h₁, keys, now, hcarries, rfl⟩

end LedgerCall

end HomeAddons.Renovation
