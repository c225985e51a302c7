import HomeAddons.Renovation.Writes

/-!
# Renovation Hub: the version of a payment

The context of a payment carries a version, which `correct_payment` checks when its caller presents
one. `overtaken_iff` says exactly which edits let a version that a client has read pass the check
after the payment was edited by another client.

* `mutateOperation_contexts_of_mem`: the version that an apply gives to its targets.
* `LedgerCall.Carries.names`: after an edit the context has a version exactly when the edit
  `Repeats` it.
* `LedgerCall.Carries.others`: no other call changes the version of an active payment.
-/

namespace HomeAddons.Renovation

open HomeAddons.Common

section Contexts

variable {cfg : Config} {h h' : Hub} {env : Env} {actorHash key : String}

@[simp] theorem Hub.setObjects_contexts (targetType : TargetType) (T : Table HubObject.id) :
    (h.setObjects targetType T).contexts = h.contexts := by
  cases targetType <;> rfl

/-- The version that the context of a transaction gets from an apply. -/
def nextVersion (context : Option Context) (candidate : Json) : Option ℕ :=
  match candidate with
  | .obj _ => some ((context.map fun c => c.version + 1).getD 1)
  | _ => none

variable {now i : String} {candidate : Json} {acc acc' : Hub × List Dict} {item : MutationItem}
  {context : Option Context} {patch before : Dict}

theorem Hub.applyContext_get? {id : String} :
    ((h.applyContext id candidate now).contexts.get? id).map Context.version =
      nextVersion (h.contexts.get? id) candidate := by
  unfold Hub.applyContext nextVersion
  cases candidate with
  | obj items => cases hc : h.contexts.get? id <;> simp
  | _ => simp

theorem Hub.applyContext_get?_of_ne {id : String} (hi : i ≠ id) :
    (h.applyContext id candidate now).contexts.get? i = h.contexts.get? i := by
  unfold Hub.applyContext
  cases candidate <;> simp [hi]

/-- One round of an apply leaves the contexts of other transactions alone. -/
theorem applyItem_contexts_of_ne {u : Mutation} (hi : u.targetType = .transaction → i ≠ item.id)
    (hs : applyItem cfg env actorHash key u acc item = .ok acc') :
    acc'.1.contexts.get? i = acc.1.contexts.get? i := by
  obtain ⟨after, ⟨htype, hs⟩ | ⟨htype, hs⟩⟩ := applyItem_ok hs
  · obtain ⟨row, _, heq, _⟩ := applyTransaction_ok hs
    rw [heq]
    exact Hub.applyContext_get?_of_ne (hi htype)
  · obtain ⟨o, _, _, heq⟩ := applyObject_ok hs
    rw [heq]
    simp

/-- The round of a transaction gives its context the next version. -/
theorem applyItem_contexts {u : Mutation} (htype : u.targetType = .transaction)
    (hs : applyItem cfg env actorHash key u acc item = .ok acc') :
    (acc'.1.contexts.get? item.id).map Context.version =
      nextVersion (acc.1.contexts.get? item.id) (item.after.get "context") := by
  obtain ⟨after, hs⟩ := applyItem_transaction htype hs
  obtain ⟨row, _, heq, _⟩ := applyTransaction_ok hs
  rw [heq]
  exact Hub.applyContext_get?

theorem applyItem_activePayment {u : Mutation} {p : String}
    (hs : applyItem cfg env actorHash key u acc item = .ok acc') :
    (acc'.1.activePayment p).isSome = (acc.1.activePayment p).isSome := by
  obtain ⟨after, ⟨htype, hs⟩ | ⟨htype, hs⟩⟩ := applyItem_ok hs
  · obtain ⟨row, _, heq, _⟩ := applyTransaction_ok hs
    rw [heq]
    exact Hub.activePayment_update (Transaction.patched_id _ _) rfl
      (Transaction.patched_keeps u.patch _)
  · obtain ⟨o, _, _, heq⟩ := applyObject_ok hs
    rw [heq]
    cases u.targetType <;> rfl

/-! ## The candidate of an apply -/

/-- The document of a transaction has the context of its row. -/
theorem Hub.transactionDocument_context {row : Transaction} {document : Dict}
    (hs : h.transactionDocument row = .ok document) :
    document.get "context" = ((h.contexts.get? row.id).map Context.document).getD .null := by
  simp only [Hub.transactionDocument, bind_eq_ok, pure_eq_ok] at hs
  obtain ⟨grouped, hgrouped, rfl⟩ := hs
  have hno : Dict.has grouped "context" = false := by
    unfold groupedItem at hgrouped
    split_ifs at hgrouped
    · simp only [map_eq_ok] at hgrouped
      obtain ⟨g, _, rfl⟩ := hgrouped
      rfl
    · cases hgrouped
      rfl
  rw [List.append_assoc, List.append_assoc, Dict.get_append (by rfl), Dict.get_append (by rfl),
    Dict.get_append hno]
  rfl

/-- The payment has a project after the patch. -/
def keepsProject (context : Option Context) (patch : Dict) : Bool :=
  if patch.has "project_id" then !(patch.get "project_id").isNull else context.isSome

/-- What `contextOf` finds in a document with this context. -/
def contextItems (context : Option Context) : Dict :=
  ((context.map Context.document).getD .null).asDict?.getD []

theorem keepsProject_eq :
    keepsProject context patch = !(picked patch (contextItems context) "project_id").isNull := by
  unfold keepsProject picked
  split_ifs
  · rfl
  · cases context <;> rfl

theorem candidateContext_nextVersion (hbefore : contextOf before = contextItems context)
    (hs : candidateContext before patch = .ok candidate) :
    nextVersion context candidate = if keepsProject context patch then
      some ((context.map fun c => c.version + 1).getD 1) else none := by
  unfold candidateContext at hs
  rw [hbefore] at hs
  dsimp only at hs
  by_cases hfields : (patch.any fun kv => kv.1 ∈ contextFields) = true
  · rw [if_pos hfields, bind_eq_ok] at hs
    obtain ⟨_, _, hs⟩ := hs
    rw [keepsProject_eq]
    split_ifs at hs with hnull
    · cases hs
      simp [hnull, nextVersion]
    · rw [pure_eq_ok] at hs
      subst hs
      simp [hnull, nextVersion]
    · rw [pure_eq_ok] at hs
      subst hs
      simp [hnull, nextVersion]
  · rw [if_neg hfields] at hs
    have hproject : patch.has "project_id" = false := by
      simp only [Dict.has, List.contains_eq_mem, decide_eq_false_iff_not, List.mem_map]
      rintro ⟨kv, hkv, heq⟩
      exact hfields (List.any_eq_true.mpr ⟨kv, hkv, by simp [heq, contextFields]⟩)
    rw [keepsProject, hproject]
    cases context with
    | none =>
      cases hs
      rfl
    | some c =>
      cases hs
      rfl

theorem Hub.mutationCandidate_context {after : Dict}
    (hs : h.mutationCandidate .transaction before patch = .ok after) :
    candidateContext before patch = .ok (after.get "context") := by
  unfold Hub.mutationCandidate at hs
  rw [if_pos rfl] at hs
  simp only [bind_eq_ok, pure_eq_ok] at hs
  obtain ⟨_, _, _, _, context, hcontext, _, _, rfl⟩ := hs
  rw [hcontext, withContext, Dict.get_assigned (by decide), Dict.get_assigned_self]

/-! ## An apply -/

variable {u : Mutation} {digest p : String} {result : Json}

theorem mutateOperation_activePayment
    (hs : mutateOperation cfg env actorHash key u digest h = .ok (h', result)) :
    (h'.activePayment p).isSome = (h.activePayment p).isSome := by
  obtain ⟨items, results, _, _, hfold⟩ := mutateOperation_ok hs
  exact foldlM_ok (P := fun acc => (acc.1.activePayment p).isSome = (h.activePayment p).isSome)
    (fun item _ acc acc' heq hitem => (applyItem_activePayment hitem).trans heq) rfl hfold

/-- The rounds of other targets leave a context alone. -/
theorem applyItems_contexts {items : List MutationItem}
    (hno : ∀ item ∈ items, u.targetType = .transaction → p ≠ item.id)
    (hfold : items.foldlM (applyItem cfg env actorHash key u) acc = .ok acc') :
    acc'.1.contexts.get? p = acc.1.contexts.get? p := by
  induction items generalizing acc with
  | nil =>
    cases hfold
    rfl
  | cons item items ih =>
    rw [List.foldlM_cons, bind_eq_ok] at hfold
    obtain ⟨acc₁, happly, hfold⟩ := hfold
    rw [ih (fun other hother => hno other (List.mem_cons_of_mem _ hother)) hfold]
    exact applyItem_contexts_of_ne (hno item List.mem_cons_self) happly

theorem mutateOperation_contexts_of_not_mem
    (hp : u.targetType = .transaction → p ∉ u.targetIds)
    (hs : mutateOperation cfg env actorHash key u digest h = .ok (h', result)) :
    h'.contexts.get? p = h.contexts.get? p := by
  obtain ⟨items, results, hitems, _, hfold⟩ := mutateOperation_ok hs
  refine applyItems_contexts ?_ hfold
  rintro item hitem htype rfl
  refine hp htype ?_
  rw [← Hub.prepareItems_ids hitems]
  exact List.mem_map_of_mem hitem

/-- An apply gives the context of each of its targets the next version. -/
theorem mutateOperation_contexts_of_mem (htype : u.targetType = .transaction)
    (hnodup : u.targetIds.Nodup) (hp : p ∈ u.targetIds)
    (hs : mutateOperation cfg env actorHash key u digest h = .ok (h', result)) :
    (h.activePayment p).isSome ∧ (h'.contexts.get? p).map Context.version =
      if keepsProject (h.contexts.get? p) u.patch then
        some (((h.contexts.get? p).map fun c => c.version + 1).getD 1) else none := by
  obtain ⟨items, results, hitems, _, hfold⟩ := mutateOperation_ok hs
  have hids := Hub.prepareItems_ids hitems
  rw [← hids] at hp hnodup
  obtain ⟨item, hitem, rfl⟩ := List.mem_map.mp hp
  obtain ⟨_, hrecord, hcandidate⟩ := Hub.prepareItem_ok (Hub.prepareItem_of_mem hitems hitem)
  rw [htype] at hrecord hcandidate
  simp only [Hub.mutationRecord, if_true, bind_eq_ok, orRaise_eq_ok] at hrecord
  obtain ⟨row, hrow, hdocument⟩ := hrecord
  have hid : row.id = item.id := Table.key_of_get? (Hub.activePayment_eq_some.mp hrow).1
  obtain ⟨l₁, l₂, acc₁, acc₂, rfl, hfold₁, happly, hfold₂⟩ := foldlM_mem hitem hfold
  rw [List.map_append, List.map_cons, List.nodup_append, List.nodup_cons] at hnodup
  obtain ⟨_, ⟨hafter, _⟩, hbefore⟩ := hnodup
  -- the rounds before and after the one of this payment leave its context alone
  have h₁ : acc₁.1.contexts.get? item.id = h.contexts.get? item.id :=
    applyItems_contexts (fun other hother _ heq => hbefore _ (List.mem_map_of_mem hother) _
      List.mem_cons_self heq.symm) hfold₁
  have h₂ : h'.contexts.get? item.id = acc₂.1.contexts.get? item.id :=
    applyItems_contexts (p := item.id)
      (fun other hother _ heq => hafter (heq ▸ List.mem_map_of_mem hother)) hfold₂
  refine ⟨by rw [hrow]; rfl, ?_⟩
  rw [h₂, applyItem_contexts htype happly, h₁]
  refine candidateContext_nextVersion ?_ (Hub.mutationCandidate_context hcandidate)
  rw [contextOf, Hub.transactionDocument_context hdocument, hid]
  rfl

theorem applyItem_transactions (hp : acc.1.transactions.get? p ≠ none)
    (hs : applyItem cfg env actorHash key u acc item = .ok acc') :
    acc'.1.transactions.get? p ≠ none := by
  obtain ⟨after, ⟨htype, hs⟩ | ⟨htype, hs⟩⟩ := applyItem_ok hs
  · obtain ⟨row, _, heq, _⟩ := applyTransaction_ok hs
    rw [heq, Hub.relogged]
    dsimp only
    rwa [Table.get?_update_ne_none]
  · obtain ⟨o, _, _, heq⟩ := applyObject_ok hs
    rw [heq]
    cases u.targetType <;> exact hp

end Contexts

/-! ## Edits of a payment -/

section Edits

variable {cfg : Config} {h h₁ : Hub} {p : String} {v : ℕ} {c : LedgerCall}

namespace LedgerCall

/-- The call corrects the payment or applies a patch to it. -/
def Names (cfg : Config) (p : String) : LedgerCall → Prop
  | .correctPayment _ payload _ => ∃ u, correction cfg payload = .ok u ∧ u.paymentId = p
  | .mutate _ payload _ => ∃ u, mutation cfg payload = .ok u ∧ u.targetType = .transaction ∧
      p ∈ u.targetIds
  | _ => False

/-- The call is a correction of the payment that carries this version. -/
def Presents (cfg : Config) (p : String) (v : ℕ) : LedgerCall → Prop
  | .correctPayment _ payload _ => (∃ u, correction cfg payload = .ok u ∧ u.paymentId = p) ∧
      payload.has "version" = true ∧ version (payload.get "version") = .ok v
  | _ => False

/-- An edit of the payment after which its context has this version: a correction without a version
    leaves the version as it is, every other edit raises it by one, and a patch that gives a
    payment its first context, or gives it one again, starts with 1. -/
inductive Repeats (cfg : Config) (p : String) (v : ℕ) (h : Hub) : LedgerCall → Prop where
  | unversioned {env : Env} {payload : Dict} {actorHash : String} {context : Context}
      (hcontext : h.contexts.get? p = some context) (hno : payload.has "version" = false)
      (hv : context.version = v) : Repeats cfg p v h (.correctPayment env payload actorHash)
  | versioned {env : Env} {payload : Dict} {actorHash : String} {context : Context}
      (hcontext : h.contexts.get? p = some context) (hversion : payload.has "version" = true)
      (hv : context.version + 1 = v) : Repeats cfg p v h (.correctPayment env payload actorHash)
  | patched {env : Env} {payload : Dict} {actorHash : String} {context : Context} {u : Mutation}
      (hcontext : h.contexts.get? p = some context) (hu : mutation cfg payload = .ok u)
      (hkeeps : keepsProject (some context) u.patch = true) (hv : context.version + 1 = v) :
      Repeats cfg p v h (.mutate env payload actorHash)
  | placed {env : Env} {payload : Dict} {actorHash : String} {u : Mutation}
      (hcontext : h.contexts.get? p = none) (hu : mutation cfg payload = .ok u)
      (hkeeps : keepsProject none u.patch = true) (hv : v = 1) :
      Repeats cfg p v h (.mutate env payload actorHash)

/-- A payment that is there stays. -/
theorem Carries.transactions (hc : c.Carries cfg h h₁) (hp : h.transactions.get? p ≠ none) :
    h₁.transactions.get? p ≠ none := by
  cases hc with
  | addPayment hclean hop =>
    obtain ⟨T, C, hT, _, heq⟩ := addPaymentOperation_ok hop
    obtain ⟨t, ht⟩ := Option.ne_none_iff_exists'.mp hp
    rw [heq]
    exact ne_of_eq_of_ne (Table.get?_insert?_of_get? hT ht) (Option.some_ne_none t)
  | addRefund hclean hop =>
    obtain ⟨_, T, C, _, _, hT, _, heq⟩ := addRefundOperation_ok hop
    obtain ⟨t, ht⟩ := Option.ne_none_iff_exists'.mp hp
    rw [heq]
    exact ne_of_eq_of_ne (Table.get?_insert?_of_get? hT ht) (Option.some_ne_none t)
  | correctPayment hu hop =>
    obtain ⟨_, _, _, _, _, _, heq⟩ := correctPaymentOperation_ok hop
    rw [heq, Hub.relogged]
    dsimp only
    rwa [Table.get?_update_ne_none]
  | undo hu hop =>
    obtain ⟨_, _, _, _, _, heq⟩ := undoOperation_ok hop
    rw [heq, Hub.relogged]
    dsimp only
    rwa [Table.get?_update_ne_none]
  | mutate hu hop =>
    obtain ⟨items, results, _, _, hfold⟩ := mutateOperation_ok hop
    exact foldlM_ok (P := fun acc => acc.1.transactions.get? p ≠ none)
      (fun item _ acc acc' => applyItem_transactions) hp hfold

theorem Carries.others (hc : c.Carries cfg h h₁) (hp : h.transactions.get? p ≠ none)
    (hno : ¬ c.Names cfg p) (hactive : (h₁.activePayment p).isSome) :
    (h.activePayment p).isSome ∧ h₁.contexts.get? p = h.contexts.get? p := by
  obtain ⟨t, ht⟩ := Option.ne_none_iff_exists'.mp hp
  cases hc with
  | @addPayment env payload actorHash key clean h₁ result hclean hop =>
    obtain ⟨T, C, hT, hC, heq⟩ := addPaymentOperation_ok hop
    have hne : p ≠ env.uuid 0 := fun heq' => hp (heq' ▸ Table.get?_of_insert? hT)
    rw [heq] at hactive ⊢
    rw [Hub.activePayment_insert hT rfl hp] at hactive
    exact ⟨hactive, hC p hne⟩
  | @addRefund env payload actorHash key clean h₁ result hclean hop =>
    obtain ⟨payment, T, C, _, _, hT, hC, heq⟩ := addRefundOperation_ok hop
    have hne : p ≠ env.uuid 0 := fun heq' => hp (heq' ▸ Table.get?_of_insert? hT)
    rw [heq] at hactive ⊢
    rw [Hub.activePayment_insert hT rfl hp] at hactive
    exact ⟨hactive, hC p hne⟩
  | @correctPayment env payload actorHash u h₁ result hu hop =>
    have hne : p ≠ u.paymentId := fun heq' => hno ⟨u, hu, heq'.symm⟩
    obtain ⟨row, clean, _, _, _, _, heq⟩ := correctPaymentOperation_ok hop
    rw [heq] at hactive ⊢
    rw [Hub.activePayment_update (h := h) (Transaction.corrected_id _ _) rfl
      (Transaction.corrected_keeps _ _)] at hactive
    refine ⟨hactive, ?_⟩
    rw [Hub.relogged]
    exact (h.reversioned_get? _ _ p payload).trans (if_neg fun heq' => hne heq'.2)
  | @undo env payload actorHash u h₁ result hu hop =>
    obtain ⟨row, hrow, _, _, _, heq⟩ := undoOperation_ok hop
    have hne : p ≠ u.transactionId := by
      rintro rfl
      rw [heq, Hub.activePayment, Hub.relogged, Table.get?_update_of_get? hrow] at hactive
      simp [Transaction.undone] at hactive
    rw [heq] at hactive ⊢
    rw [Hub.activePayment, Hub.relogged, Table.get?_update_of_ne _ hne] at hactive
    refine ⟨hactive, ?_⟩
    rw [Hub.relogged]
    exact (h.reversioned_get? _ _ p payload).trans (if_neg fun heq' => hne heq'.2)
  | @mutate env payload actorHash key digest u h₁ result hu hop =>
    rw [mutateOperation_activePayment hop] at hactive
    exact ⟨hactive, mutateOperation_contexts_of_not_mem
      (fun htype hmem => hno ⟨u, hu, htype, hmem⟩) hop⟩

/-- An edit of the payment leaves its context with this version exactly when it repeats it. -/
theorem Carries.names (hc : c.Carries cfg h h₁) (hname : c.Names cfg p) :
    (h.activePayment p).isSome ∧ (h₁.activePayment p).isSome ∧
      ((h₁.contexts.get? p).map Context.version = some v ↔ c.Repeats cfg p v h) := by
  cases hc with
  | addPayment hclean hop => exact hname.elim
  | addRefund hclean hop => exact hname.elim
  | undo hu hop => exact hname.elim
  | @correctPayment env payload actorHash u h₁ result hu hop =>
    obtain ⟨u', hu', rfl⟩ := hname
    obtain rfl : u = u' := Except.ok.inj (hu.symm.trans hu')
    obtain ⟨row, clean, hrow, _, _, _, heq⟩ := correctPaymentOperation_ok hop
    have hactive : (h.activePayment u.paymentId).isSome := by rw [hrow]; rfl
    rw [heq]
    refine ⟨hactive, ?_, ?_⟩
    · rwa [Hub.activePayment_update (h := h) (Transaction.corrected_id _ _) rfl
        (Transaction.corrected_keeps _ _)]
    · rw [Hub.relogged, Hub.reversioned_get?]
      by_cases hversion : payload.has "version" = true
      · rw [if_pos ⟨hversion, rfl⟩, Option.map_map, Option.map_eq_some_iff]
        constructor
        · rintro ⟨context, hcontext, hv⟩
          exact .versioned hcontext hversion hv
        · rintro (⟨hcontext, hno, hv⟩ | ⟨hcontext, _, hv⟩)
          · rw [hversion] at hno
            cases hno
          · exact ⟨_, hcontext, hv⟩
      · rw [if_neg fun heq' => hversion heq'.1, Option.map_eq_some_iff]
        constructor
        · rintro ⟨context, hcontext, hv⟩
          exact .unversioned hcontext (Bool.eq_false_iff.mpr hversion) hv
        · rintro (⟨hcontext, _, hv⟩ | ⟨hcontext, hyes, hv⟩)
          · exact ⟨_, hcontext, hv⟩
          · exact absurd hyes hversion
  | @mutate env payload actorHash key digest u h₁ result hu hop =>
    obtain ⟨u', hu', htype, hmem⟩ := hname
    obtain rfl : u = u' := Except.ok.inj (hu.symm.trans hu')
    obtain ⟨hactive, hversion⟩ := mutateOperation_contexts_of_mem htype (mutation_nodup hu) hmem hop
    refine ⟨hactive, by rwa [mutateOperation_activePayment hop], ?_⟩
    rw [hversion]
    constructor
    · intro hv
      split_ifs at hv with hkeeps
      cases hcontext : h.contexts.get? p with
      | none =>
        rw [hcontext] at hv hkeeps
        exact .placed hcontext hu hkeeps (Option.some.inj hv).symm
      | some context =>
        rw [hcontext] at hv hkeeps
        exact .patched hcontext hu hkeeps (Option.some.inj hv)
    · rintro (_ | _ | ⟨hcontext, hu', hkeeps, hv⟩ | ⟨hcontext, hu', hkeeps, hv⟩)
      · obtain rfl : u = _ := Except.ok.inj (hu.symm.trans hu')
        rw [hcontext, if_pos hkeeps]
        exact congrArg some hv
      · obtain rfl : u = _ := Except.ok.inj (hu.symm.trans hu')
        rw [hcontext, if_pos hkeeps]
        exact congrArg some hv.symm

/-- A correction that presents a version and is carried out finds the context at that version. -/
theorem Commits.presents (hc : c.Commits cfg h) (hv : c.Presents cfg p v) :
    (h.activePayment p).isSome ∧ (h.contexts.get? p).map Context.version = some v := by
  obtain ⟨h₁, _, _, _, hc, _⟩ := hc
  cases hc with
  | correctPayment hu hop =>
    obtain ⟨⟨u', hu', rfl⟩, hhas, hpresented⟩ := hv
    obtain rfl := Except.ok.inj (hu.symm.trans hu')
    obtain ⟨row, clean, hrow, _, hversion, _⟩ := correctPaymentOperation_ok hop
    obtain ⟨expected, hexpected, hcontext⟩ := Hub.validateTransactionVersion_ok.mp hversion hhas
    obtain rfl : v = expected := Except.ok.inj (hpresented.symm.trans hexpected)
    exact ⟨by rw [hrow]; rfl, hcontext⟩
  | _ => exact hv.elim

/-- A call that is not carried out leaves the database alone. -/
theorem step_of_not_commits (hc : ¬ c.Commits cfg h) : c.step cfg h = h := by
  unfold step
  cases hx : c.exec cfg h with
  | error e => rfl
  | ok x => exact (exec_ok hx).resolve_right hc

theorem Commits.step (hc : c.Commits cfg h) :
    ∃ h₁ keys now, c.Carries cfg h h₁ ∧ c.step cfg h = h₁.filed keys now := by
  obtain ⟨h₁, keys, now, result, hc, hx⟩ := hc
  refine ⟨h₁, keys, now, hc, ?_⟩
  rw [LedgerCall.step, hx]

end LedgerCall

/-! ## Two clients -/

/-- A client has read the payment; `edited` says that an edit of it was carried out since then. -/
structure Watched where
  hub : Hub
  edited : Prop

/-- The next call of any client. -/
def Watched.step (cfg : Config) (p : String) (w : Watched) (c : LedgerCall) : Watched :=
  ⟨c.step cfg w.hub, w.edited ∨ c.Names cfg p ∧ c.Commits cfg w.hub⟩

/-- The version that the client read passes the check, although the payment was edited. -/
def Watched.Overtaken (p : String) (v : ℕ) (w : Watched) : Prop :=
  w.edited ∧ (w.hub.activePayment p).isSome ∧
    (w.hub.contexts.get? p).map Context.version = some v

/-- The call is an edit of the payment that is carried out and repeats the version. -/
def LedgerCall.Reissues (cfg : Config) (p : String) (v : ℕ) (w : Watched) (c : LedgerCall) :
    Prop :=
  c.Names cfg p ∧ c.Commits cfg w.hub ∧ c.Repeats cfg p v w.hub

/-- The version that a client has read passes the check after an edit exactly when some edit
    repeats it. When no edit does, a correction that presents the version is carried out only if
    the payment was not edited since it was read. -/
theorem overtaken_iff (hp : h.transactions.get? p ≠ none) (calls : List LedgerCall) :
    (Throughout (Watched.step cfg p) (fun w => ¬ w.Overtaken p v) ⟨h, False⟩ calls ↔
      EveryStep (Watched.step cfg p) (fun w c => ¬ c.Reissues cfg p v w) ⟨h, False⟩ calls) ∧
    (EveryStep (Watched.step cfg p) (fun w c => ¬ c.Reissues cfg p v w) ⟨h, False⟩ calls →
      EveryStep (Watched.step cfg p)
        (fun w c => c.Presents cfg p v → c.Commits cfg w.hub → ¬ w.edited) ⟨h, False⟩ calls) := by
  have hiff : Throughout (Watched.step cfg p) (fun w => ¬ w.Overtaken p v) ⟨h, False⟩ calls ↔
      EveryStep (Watched.step cfg p) (fun w c => ¬ c.Reissues cfg p v w) ⟨h, False⟩ calls := by
    refine throughout_iff_everyStep (Watched.step cfg p)
      (I := fun w => ¬ w.Overtaken p v ∧ w.hub.transactions.get? p ≠ none)
      (fun w hw => hw.1) ?_ ?_ ⟨fun hw => hw.1, hp⟩
    · rintro ⟨h, edited⟩ c ⟨hw, hp⟩ hkeep
      rw [Watched.step]
      by_cases hc : c.Commits cfg h
      · obtain ⟨h₁, keys, now, hcarries, heq⟩ := hc.step
        rw [heq]
        refine ⟨?_, hcarries.transactions hp⟩
        rintro ⟨hedited, hactive, hversion⟩
        by_cases hname : c.Names cfg p
        · exact hkeep ⟨hname, hc, (hcarries.names hname).2.2.mp hversion⟩
        · obtain ⟨hactive₀, hcontext⟩ := hcarries.others hp hname hactive
          refine hw ⟨hedited.resolve_right fun h => hname h.1, hactive₀, ?_⟩
          exact (congrArg (Option.map Context.version) hcontext.symm).trans hversion
      · rw [LedgerCall.step_of_not_commits hc]
        refine ⟨fun hover => hw ⟨hover.1.resolve_right fun h => hc h.2, hover.2⟩, hp⟩
    · rintro ⟨h, edited⟩ c ⟨hw, hp⟩ hbad
      obtain ⟨hname, hc, hrepeats⟩ := not_not.mp hbad
      obtain ⟨h₁, keys, now, hcarries, heq⟩ := hc.step
      obtain ⟨_, hactive, hversion⟩ := hcarries.names hname
      rw [not_not, Watched.step, heq]
      exact ⟨.inr ⟨hname, hc⟩, hactive, hversion.mpr hrepeats⟩
  refine ⟨hiff, fun hsteps => (hiff.mpr hsteps).everyStep _ ?_⟩
  intro w c hw hv hc hedited
  exact hw ⟨hedited, hc.presents hv⟩

/-- A payment of a project. -/
def paymentPayload : Dict :=
  [("idempotency_key", .str "add-payment-000001"), ("amount_cents", .int 10000),
    ("occurred_on", .str "2026-08-01"), ("main_category", .str "Kitchen"),
    ("project_id", .str "project-01")]

/-- A store with one payment, whose context has version 1. -/
def paidHub : Hub :=
  (LedgerCall.addPayment (sampleEnv "payment-01") paymentPayload "page").step sampleConfig sampleHub

/-- A new note for the payment. -/
def notePayload (key : String) (rest : Dict) : Dict :=
  [("idempotency_key", .str key), ("payment_id", .str "payment-01"),
    ("changes", .obj [("note", .str "paid")]), ("reason", .str "note")] ++ rest

/-- A correction that does not say which version it has read. -/
def unversionedNote : LedgerCall :=
  .correctPayment (sampleEnv "") (notePayload "correct-payment-1" []) "page"

/-- A correction that has read version 1. -/
def versionedNote : LedgerCall :=
  .correctPayment (sampleEnv "") (notePayload "correct-payment-2" [("version", .int 1)]) "page"

theorem paidHub_facts : (paidHub.transactions.get? "payment-01").isSome ∧
    (paidHub.contexts.get? "payment-01").map Context.version = some 1 := by
  decide +kernel

theorem overtaken_iff_note : Throughout (Watched.step sampleConfig "payment-01")
    (fun w => ¬ w.Overtaken "payment-01" 1) ⟨paidHub, False⟩ [versionedNote] := by
  refine (overtaken_iff (Option.isSome_iff_ne_none.mp paidHub_facts.1) _).1.mpr ⟨?_, trivial⟩
  rintro ⟨_, _, hrepeats⟩
  obtain ⟨_, hcontext⟩ := paidHub_facts
  cases hrepeats with
  | unversioned _ hno _ => cases hno
  | versioned hget _ hv =>
    dsimp only at hget
    rw [hget] at hcontext
    have := Option.some.inj hcontext
    omega

theorem LedgerCall.Commits.of_correctPayment {env : Env} {payload : Dict} {actorHash : String}
    (hx : (Renovation.correctPayment cfg h env payload actorHash).toOption.any fun x => !x.2.2) :
    (LedgerCall.correctPayment env payload actorHash).Commits cfg h := by
  obtain ⟨⟨h', result, replayed⟩, hx, hfresh⟩ := (Option.any_eq_true _ _).mp hx
  have hok := toOption_eq_some.mp hx
  simp only [Renovation.correctPayment, bind_eq_ok] at hok
  obtain ⟨u, hu, hrun⟩ := hok
  obtain ⟨_, _, _, heq⟩ | ⟨_, h₁, _, keys, hop, _, heq⟩ := runIdempotent_eq_ok.mp hrun
  · cases heq
    cases hfresh
  · cases heq
    exact ⟨h₁, keys, _, _, .correctPayment hu hop, toOption_eq_some.mp hx⟩

/-- A correction without a version goes unnoticed by a client that presents the one it has read. -/
theorem unversioned_overtaken : ¬ EveryStep (Watched.step sampleConfig "payment-01")
    (fun w c => c.Presents sampleConfig "payment-01" 1 → c.Commits sampleConfig w.hub →
      ¬ w.edited) ⟨paidHub, False⟩ [unversionedNote, versionedNote] := by
  rintro ⟨_, hsecond, _⟩
  refine hsecond ⟨⟨_, rfl, rfl⟩, rfl, rfl⟩ (.of_correctPayment (by decide +kernel))
    (.inr ⟨⟨_, rfl, rfl⟩, .of_correctPayment (by decide +kernel)⟩)

end Edits

end HomeAddons.Renovation
