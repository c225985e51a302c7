import HomeAddons.Broker.Execution

/-!
# A replayed execution request

An execution that has been claimed stays claimed: no method of the store deletes a row or rewrites
the columns of a claim, and a proposal is never rewritten. So a later call with the request of a
claim finds both, whatever the threads of the broker have done in between.

* `StoreCall.change`: everything a method can do to the database.
* `Store.Sound`, `reachable_sound`: every execution has the proposal of its request.
* `Store.Keeps`: a claim and a proposal stay.
* `execute_replay`: a replay asks the Supervisor for nothing and writes nothing, and while the
  proposal has not expired it returns the stored execution iff the manager admits the proposal and
  the lock is free.

The call looks at the expiry of the proposal before it looks for the execution, and so does nothing
else: `claimExecution` looks for it first.
-/

namespace HomeAddons.Broker

open HomeAddons.Common

/-! ## What other threads do -/

/-- A call of a method that writes. -/
inductive StoreCall where
  | registerEvidence (evidence : Value) (now : Datetime)
  | createNativeProposal (intent : Value) (policy : ProposalPolicy) (baselineEtag : String)
      (now : Datetime) (token : String)
  | createRequestFromNativeProposal (request : Value) (now : Datetime) (token : String)
  | createRequest (validated : LegacyRequest) (now : Datetime) (token : String)
  | getRequest (approvalId : String) (now : Datetime)
  | authorize (approvalId expectedProposalHash userIdHash : String) (credentialId : List UInt8)
      (now : Datetime) (token : String)
  | claimExecution (claim : Claim) (now : Datetime) (tokens : String × String)
  | updateExecution (actionId : String) (expected : List ExecutionState) (state : ExecutionState)
      (now : Datetime) (preflight postflight : Option Json) (errorCode : Option String)
      (finished : Bool)
  | heartbeatExecutionLeases (actionId instanceId : String) (now : Datetime) (ttl : ℕ)
  | resolveRecovery (actionId : String) (conclusion : RecoveryConclusion) (now : Datetime)
  /-- A start of the broker. -/
  | recoverIncompleteExecutions (now : Datetime)

/-- What a call makes of the database. -/
def StoreCall.run (py : Python) (s : Store) : StoreCall → Store
  | registerEvidence evidence now => { s with evidence := s.evidence.step py (evidence, now) }
  | createNativeProposal intent policy baselineEtag now token =>
    (atomic (Store.createNativeProposal intent policy baselineEtag now token) s).1
  | createRequestFromNativeProposal request now token =>
    (atomic (Store.createRequestFromNativeProposal request now token) s).1
  | createRequest validated now token => (atomic (Store.createRequest validated now token) s).1
  | getRequest approvalId now => (atomic (Store.getRequest approvalId now) s).1
  | authorize approvalId hash user credentialId now token =>
    (atomic (Store.authorize approvalId hash user credentialId now token) s).1
  | claimExecution claim now tokens => (Store.claimExecution claim now tokens s).1
  | updateExecution actionId expected state now preflight postflight errorCode finished =>
    (atomic (Store.updateExecution actionId expected state now preflight postflight errorCode
      finished) s).1
  | heartbeatExecutionLeases actionId instanceId now ttl =>
    (atomic (Store.heartbeatExecutionLeases actionId instanceId now ttl) s).1
  | resolveRecovery actionId conclusion now =>
    (atomic (Store.resolveRecovery actionId conclusion now) s).1
  | recoverIncompleteExecutions now => s.recoverIncompleteExecutions now

/-- A database that calls have led to. -/
def Store.Reachable (py : Python) (s : Store) : Prop :=
  ReachableFrom (StoreCall.run py) Store.initial s

/-- One call of another thread. -/
def Others (py : Python) (s s' : Store) : Prop := ∃ c : StoreCall, s' = c.run py s

/-! ## What a call can do -/

/-- The columns of the claim are the same; the state and what belongs to it may differ. -/
def ExecutionRow.SameClaim (e e' : ExecutionRow) : Prop :=
  e' = { e with
    state := e'.state, preflight := e'.preflight, postflight := e'.postflight
    errorCode := e'.errorCode, recoveryResolution := e'.recoveryResolution
    recoveryEvidenceHash := e'.recoveryEvidenceHash, recoveryResolvedAt := e'.recoveryResolvedAt
    updatedAt := e'.updatedAt, finishedAt := e'.finishedAt }

theorem ExecutionRow.SameClaim.refl (e : ExecutionRow) : e.SameClaim e := rfl

variable {e' : ExecutionRow} {token approvalId actionId : String} {now : Datetime} {s' : Store}
  {d : ExecutionDocument} {q : RequestRow} {p : ProposalRow}

theorem ExecutionRow.SameClaim.trans {e e'' : ExecutionRow} (h : e.SameClaim e')
    (h' : e'.SameClaim e'') : e.SameClaim e'' := by
  rw [SameClaim] at h h' ⊢
  rw [h', h]

theorem ExecutionRow.SameClaim.ids {e : ExecutionRow} (h : e.SameClaim e') :
    e'.actionId = e.actionId ∧ e'.receiptId = e.receiptId ∧ e'.proposalHash = e.proposalHash ∧
      e'.idempotencyKey = e.idempotencyKey := by
  rw [SameClaim] at h
  rw [h]
  exact ⟨rfl, rfl, rfl, rfl⟩

/-- Everything a method does to the tables. -/
inductive Store.Change : Store → Store → Prop where
  | nothing (s : Store) : Change s s
  | evidence (s : Store) (E : Registry) : Change s { s with evidence := E }
  | proposal {s : Store} {p : ProposalRow} {T : Table ProposalRow.actionId}
      (hinsert : s.proposals.insert? p = some T) (htype : p.actionType = "restart_addon")
      (hversion : p.proposalVersion = 2) (hexpires : IsSecondText p.expiresAt) :
      Change s { s with proposals := T }
  | request {s : Store} {q : RequestRow} {T : Table RequestRow.approvalId}
      (hinsert : s.requests.insert? q = some T)
      (hnative : q.proposalOrigin = "broker_native" →
        ∃ p, s.proposals.get? q.actionId = some p ∧ q.proposalHash = p.proposalHash) :
      Change s { s with requests := T }
  | requestState (s : Store) (approvalId : String) (state : RequestState) :
      Change s { s with requests := s.requests.update approvalId fun q => { q with state := state } }
  | receipt {s : Store} {r : ReceiptRow} {q : RequestRow} {T : Table ReceiptRow.receiptId}
      (hinsert : s.receipts.insert? r = some T) (hrequest : s.requests.get? r.approvalId = some q)
      (haction : r.actionId = q.actionId) (hhash : r.proposalHash = q.proposalHash)
      (state : RequestState) :
      Change s { s with
        receipts := T, requests := s.requests.update r.approvalId fun q => { q with state := state } }
  | execution {s : Store} {e : ExecutionRow} {r : ReceiptRow} {q : RequestRow} {p : ProposalRow}
      {T : Table ExecutionRow.actionId} (hinsert : s.executions.insert? e = some T)
      (hreceipt : s.receipts.get? e.receiptId = some r)
      (hrequest : s.requests.get? r.approvalId = some q)
      (hnative : q.proposalOrigin = "broker_native")
      (hproposal : s.proposals.get? r.actionId = some p) (haction : r.actionId = e.actionId)
      (hhash : r.proposalHash = e.proposalHash) (hkey : p.idempotencyKey = e.idempotencyKey)
      (now : String) (leases : Table LeaseRow.leaseId) :
      Change s { s with
        receipts := s.receipts.update e.receiptId fun r => { r with consumedAt := some now }
        executions := T, leases := leases }
  | executions (s : Store) (p : ExecutionRow → Bool) (f : ExecutionRow → ExecutionRow)
      (hf : ∀ e, (f e).actionId = e.actionId) (hsame : ∀ e : ExecutionRow, e.SameClaim (f e))
      (leases : Table LeaseRow.leaseId) :
      Change s { s with executions := s.executions.updateWhere p f hf, leases := leases }
  | leases (s : Store) (leases : Table LeaseRow.leaseId) : Change s { s with leases := leases }

/-- A method that writes nothing when it raises changes what it changes when it returns. -/
theorem atomic_change {α : Type} {f : Store → Except Raise (Store × α)} {s : Store}
    (h : ∀ s' a, f s = .ok (s', a) → s.Change s') : s.Change (atomic f s).1 := by
  unfold atomic
  cases hf : f s with
  | ok r => exact h r.1 r.2 hf
  | error e => exact .nothing s

theorem createNativeProposal_change {intent : Value} {policy : ProposalPolicy}
    {baselineEtag : String} {s : Store} {d : ProposalDocument}
    (h : s.createNativeProposal intent policy baselineEtag now token = .ok (s', d)) :
    s.Change s' := by
  simp only [Store.createNativeProposal, bind_eq_ok, ensure_eq_ok] at h
  obtain ⟨validated, -, -, -, expiresAt, -, evidence, -, h⟩ := h
  split at h
  · simp only [bind_eq_ok, ensure_eq_ok, pure_eq_ok, Prod.mk.injEq] at h
    obtain ⟨-, -, -, -, rfl, -⟩ := h
    exact .nothing s
  · simp only [bind_eq_ok, ensure_eq_ok, orRaise_eq_ok, pure_eq_ok, Prod.mk.injEq] at h
    obtain ⟨-, -, T, hinsert, -, -, rfl, -⟩ := h
    exact .proposal hinsert rfl rfl
      ⟨wholeSecond expiresAt.1, inYears_wholeSecond expiresAt.2, wholeSecond_mod _, rfl⟩

theorem createRequestFromNativeProposal_change {request : Value} {s : Store}
    (h : s.createRequestFromNativeProposal request now token = .ok (s', q)) : s.Change s' := by
  simp only [Store.createRequestFromNativeProposal, bind_eq_ok, orRaise_eq_ok, ensure_eq_ok] at h
  obtain ⟨actionId, -, p, hp, -, -, -, -, h⟩ := h
  split at h
  · simp only [bind_eq_ok, ensure_eq_ok, pure_eq_ok, Prod.mk.injEq] at h
    obtain ⟨-, -, rfl, -⟩ := h
    exact .nothing s
  · simp only [bind_eq_ok, orRaise_eq_ok, pure_eq_ok, Prod.mk.injEq] at h
    obtain ⟨T, hinsert, rfl, -⟩ := h
    refine .request hinsert fun _ => ⟨p, ?_, rfl⟩
    show s.proposals.get? p.actionId = some p
    rw [Table.key_of_get? hp]
    exact hp

theorem createRequest_change {validated : LegacyRequest} {s : Store}
    (h : s.createRequest validated now token = .ok (s', q)) : s.Change s' := by
  unfold Store.createRequest at h
  split at h
  · simp only [bind_eq_ok, ensure_eq_ok, pure_eq_ok, Prod.mk.injEq] at h
    obtain ⟨-, -, rfl, -⟩ := h
    exact .nothing s
  · simp only [bind_eq_ok, orRaise_eq_ok, pure_eq_ok, Prod.mk.injEq] at h
    obtain ⟨T, hinsert, rfl, -⟩ := h
    refine .request hinsert fun hnative => ?_
    have hlegacy : "legacy_envelope" = "broker_native" := hnative
    exact absurd hlegacy (by decide)

theorem getRequest_change {s : Store} (h : s.getRequest approvalId now = .ok (s', q)) :
    s.Change s' := by
  simp only [Store.getRequest, bind_eq_ok, ensure_eq_ok, orRaise_eq_ok] at h
  obtain ⟨-, -, row, -, expiresAt, -, h⟩ := h
  split at h
  · simp only [pure_eq_ok, Prod.mk.injEq] at h
    obtain ⟨rfl, -⟩ := h
    exact .requestState s approvalId .expired
  · simp only [pure_eq_ok, Prod.mk.injEq] at h
    obtain ⟨rfl, -⟩ := h
    exact .nothing s

theorem authorize_change {hash user : String} {credentialId : List UInt8} {s : Store}
    {r : ReceiptRow} (h : s.authorize approvalId hash user credentialId now token = .ok (s', r)) :
    s.Change s' := by
  simp only [Store.authorize, bind_eq_ok, ensure_eq_ok, orRaise_eq_ok, pure_eq_ok,
    Prod.mk.injEq] at h
  obtain ⟨q, hq, -, -, -, -, -, -, -, -, -, -, T, hinsert, rfl, -⟩ := h
  exact .receipt hinsert hq rfl rfl .authorized

theorem insertExecution_change {claim : Claim} {expires : Datetime} {tokens : String × String}
    {s : Store} {a : ExecutionDocument × Bool}
    (h : s.insertExecution claim now expires tokens = .ok (s', a)) : s.Change s' := by
  simp only [Store.insertExecution, bind_eq_ok, ensure_eq_ok, orRaise_eq_ok, pure_eq_ok,
    Prod.mk.injEq, Prod.exists] at h
  obtain ⟨r, p, hcheck, -, -, T, hinsert, L, -, L', -, rfl, -⟩ := h
  simp only [Store.checkReceipt, bind_eq_ok, ensure_eq_ok, orRaise_eq_ok] at hcheck
  obtain ⟨r', hr, q, hq, p', hp, -, hnative, -, hmatch, -, -, -, -, -, -, -, -, -, -, -, -, hcheck⟩ :=
    hcheck
  split at hcheck
  · cases hcheck
  · simp only [bind_eq_ok, ensure_eq_ok, pure_eq_ok, Prod.mk.injEq] at hcheck
    obtain ⟨-, -, rfl, rfl⟩ := hcheck
    exact .execution hinsert hr hq hnative hp hmatch.1 hmatch.2.1 hmatch.2.2 _ L'

theorem claimExecution_change (claim : Claim) (now : Datetime) (tokens : String × String)
    (s : Store) : s.Change (Store.claimExecution claim now tokens s).1 := by
  unfold Store.claimExecution
  split
  · exact .nothing s
  · dsimp only
    split
    · split <;> exact .nothing s
    · split
      · exact .executions s _ _ _ (by intro e; rfl) _
      · refine atomic_change fun s' a h => ?_
        simp only [bind_eq_ok, ensure_eq_ok] at h
        obtain ⟨-, -, -, -, h⟩ := h
        exact insertExecution_change h

theorem updateExecution_change {expected : List ExecutionState} {state : ExecutionState}
    {preflight postflight : Option Json} {errorCode : Option String} {finished : Bool} {s : Store}
    (h : s.updateExecution actionId expected state now preflight postflight errorCode finished =
      .ok (s', d)) : s.Change s' := by
  simp only [Store.updateExecution, bind_eq_ok, ensure_eq_ok, orRaise_eq_ok, pure_eq_ok,
    Prod.mk.injEq] at h
  obtain ⟨row, -, -, -, rfl, -⟩ := h
  exact .executions s _ _ _ (by intro e; rfl) _

theorem heartbeatExecutionLeases_change {instanceId : String} {ttl : ℕ} {s : Store} {u : Unit}
    (h : s.heartbeatExecutionLeases actionId instanceId now ttl = .ok (s', u)) : s.Change s' := by
  simp only [Store.heartbeatExecutionLeases, bind_eq_ok, ensure_eq_ok, pure_eq_ok,
    Prod.mk.injEq] at h
  obtain ⟨-, -, -, -, rfl, -⟩ := h
  exact .leases s _

theorem resolveRecovery_change {conclusion : RecoveryConclusion} {s : Store}
    (h : s.resolveRecovery actionId conclusion now = .ok (s', d)) : s.Change s' := by
  simp only [Store.resolveRecovery, bind_eq_ok, ensure_eq_ok, orRaise_eq_ok, pure_eq_ok,
    Prod.mk.injEq] at h
  obtain ⟨row, -, -, -, -, -, rfl, -⟩ := h
  exact .executions s _ _ _ (by intro e; rfl) _

/-- Everything a call of a method can do. -/
theorem StoreCall.change (py : Python) (s : Store) (c : StoreCall) : s.Change (c.run py s) := by
  cases c with
  | registerEvidence evidence now => exact .evidence s _
  | createNativeProposal intent policy baselineEtag now token =>
    exact atomic_change fun s' a => createNativeProposal_change
  | createRequestFromNativeProposal request now token =>
    exact atomic_change fun s' a => createRequestFromNativeProposal_change
  | createRequest validated now token => exact atomic_change fun s' a => createRequest_change
  | getRequest approvalId now => exact atomic_change fun s' a => getRequest_change
  | authorize approvalId hash user credentialId now token =>
    exact atomic_change fun s' a => authorize_change
  | claimExecution claim now tokens => exact claimExecution_change claim now tokens s
  | updateExecution actionId expected state now preflight postflight errorCode finished =>
    exact atomic_change fun s' a => updateExecution_change
  | heartbeatExecutionLeases actionId instanceId now ttl =>
    exact atomic_change fun s' a => heartbeatExecutionLeases_change
  | resolveRecovery actionId conclusion now =>
    exact atomic_change fun s' a => resolveRecovery_change
  | recoverIncompleteExecutions now => exact .executions s _ _ _ (by intro e; rfl) _

/-! ## What stays -/

/-- A later database has every proposal and every claim. -/
structure Store.Keeps (s s' : Store) : Prop where
  proposals : ∀ k p, s.proposals.get? k = some p → s'.proposals.get? k = some p
  executions : ∀ k e, s.executions.get? k = some e →
    ∃ e', s'.executions.get? k = some e' ∧ e.SameClaim e'

theorem Store.Keeps.refl (s : Store) : s.Keeps s where
  proposals _ _ h := h
  executions _ e h := ⟨e, h, .refl e⟩

theorem Store.Keeps.trans {s s'' : Store} (h : s.Keeps s') (h' : s'.Keeps s'') :
    s.Keeps s'' where
  proposals k p hp := h'.proposals k p (h.proposals k p hp)
  executions k e he := by
    obtain ⟨e', he', hsame⟩ := h.executions k e he
    obtain ⟨e'', he'', hsame'⟩ := h'.executions k e' he'
    exact ⟨e'', he'', hsame.trans hsame'⟩

/-- No change takes a proposal or a claim away. -/
theorem Store.Change.keeps {s s' : Store} (h : s.Change s') : s.Keeps s' := by
  cases h with
  | nothing => exact .refl s
  | evidence => exact ⟨fun _ _ h => h, fun _ e h => ⟨e, h, .refl e⟩⟩
  | proposal hinsert =>
    exact ⟨fun _ _ h => Table.get?_insert?_of_get? hinsert h, fun _ e h => ⟨e, h, .refl e⟩⟩
  | request => exact ⟨fun _ _ h => h, fun _ e h => ⟨e, h, .refl e⟩⟩
  | requestState => exact ⟨fun _ _ h => h, fun _ e h => ⟨e, h, .refl e⟩⟩
  | receipt => exact ⟨fun _ _ h => h, fun _ e h => ⟨e, h, .refl e⟩⟩
  | execution hinsert =>
    exact ⟨fun _ _ h => h,
      fun _ e h => ⟨e, Table.get?_insert?_of_get? hinsert h, .refl e⟩⟩
  | executions p f hf hsame =>
    refine ⟨fun _ _ h => h, fun k e h => ?_⟩
    refine ⟨if p e then f e else e, ?_, ?_⟩
    · dsimp only
      rw [Table.get?_updateWhere, h]
      rfl
    · split
      · exact hsame e
      · exact .refl e
  | leases => exact ⟨fun _ _ h => h, fun _ e h => ⟨e, h, .refl e⟩⟩

/-- The other threads keep every proposal and every claim. -/
theorem keeps_of_others {py : Python} {s : Store} (h : Relation.ReflTransGen (Others py) s s') :
    s.Keeps s' := by
  induction h with
  | refl => exact .refl s
  | tail _ hstep ih =>
    obtain ⟨c, rfl⟩ := hstep
    exact ih.trans (c.change py _).keeps

/-! ## Every execution has its proposal -/

/-- What holds of the rows. -/
structure Store.Sound (s : Store) : Prop where
  proposals : ∀ k p, s.proposals.get? k = some p →
    p.actionType = "restart_addon" ∧ p.proposalVersion = 2 ∧ IsSecondText p.expiresAt
  /-- A native request has the hash of its proposal. -/
  requests : ∀ k q, s.requests.get? k = some q → q.proposalOrigin = "broker_native" →
    ∃ p, s.proposals.get? q.actionId = some p ∧ q.proposalHash = p.proposalHash
  /-- A receipt has the action and the hash of its request. -/
  receipts : ∀ k r, s.receipts.get? k = some r →
    ∃ q, s.requests.get? r.approvalId = some q ∧ r.actionId = q.actionId ∧
      r.proposalHash = q.proposalHash
  /-- An execution has the hash and the key of its proposal. -/
  executions : ∀ k e, s.executions.get? k = some e →
    ∃ p, s.proposals.get? k = some p ∧ p.proposalHash = e.proposalHash ∧
      p.idempotencyKey = e.idempotencyKey

/-- The receipts still have their requests when the state of a request is set. -/
theorem receipts_update {s : Store} {T : Table ReceiptRow.receiptId}
    (h : ∀ k r, T.get? k = some r → ∃ q, s.requests.get? r.approvalId = some q ∧
      r.actionId = q.actionId ∧ r.proposalHash = q.proposalHash) (approvalId : String)
    (state : RequestState) (k : String) (r : ReceiptRow) (hr : T.get? k = some r) :
    ∃ q, (s.requests.update approvalId fun q => { q with state := state }).get? r.approvalId =
      some q ∧ r.actionId = q.actionId ∧ r.proposalHash = q.proposalHash := by
  obtain ⟨q, hq, haction, hhash⟩ := h k r hr
  refine ⟨if r.approvalId = approvalId then { q with state := state } else q,
    Table.get?_update_eq_some.mpr ⟨q, hq, rfl⟩, ?_⟩
  split
  · exact ⟨haction, hhash⟩
  · exact ⟨haction, hhash⟩

/-- The native requests still have their proposals when the state of a request is set. -/
theorem requests_update {s : Store} (h : s.Sound) (approvalId : String) (state : RequestState)
    (k : String) (q : RequestRow)
    (hq : (s.requests.update approvalId fun q => { q with state := state }).get? k = some q)
    (hnative : q.proposalOrigin = "broker_native") :
    ∃ p, s.proposals.get? q.actionId = some p ∧ q.proposalHash = p.proposalHash := by
  obtain ⟨q', hq', hset⟩ := Table.get?_update_eq_some.mp hq
  split at hset
  · cases hset
    exact h.requests k q' hq' hnative
  · cases hset
    exact h.requests k q hq' hnative

/-- A change keeps what holds of the rows. -/
theorem Store.Change.sound {s : Store} (h : s.Change s') (hs : s.Sound) : s'.Sound := by
  cases h with
  | nothing => exact hs
  | evidence => exact ⟨hs.proposals, hs.requests, hs.receipts, hs.executions⟩
  | proposal hinsert htype hversion hexpires =>
    refine ⟨fun k p hp => ?_, fun k q hq hnative => ?_, hs.receipts, fun k e he => ?_⟩
    · obtain ⟨-, rfl⟩ | ⟨-, hp⟩ := (Table.get?_insert?_eq_some hinsert).mp hp
      · exact ⟨htype, hversion, hexpires⟩
      · exact hs.proposals k p hp
    · obtain ⟨p, hp, hhash⟩ := hs.requests k q hq hnative
      exact ⟨p, Table.get?_insert?_of_get? hinsert hp, hhash⟩
    · obtain ⟨p, hp, hmatch⟩ := hs.executions k e he
      exact ⟨p, Table.get?_insert?_of_get? hinsert hp, hmatch⟩
  | request hinsert hrequest =>
    refine ⟨hs.proposals, fun k q hq hnative => ?_, fun k r hr => ?_, hs.executions⟩
    · obtain ⟨-, rfl⟩ | ⟨-, hq⟩ := (Table.get?_insert?_eq_some hinsert).mp hq
      · exact hrequest hnative
      · exact hs.requests k q hq hnative
    · obtain ⟨q, hq, hmatch⟩ := hs.receipts k r hr
      exact ⟨q, Table.get?_insert?_of_get? hinsert hq, hmatch⟩
  | requestState approvalId state =>
    exact ⟨hs.proposals, requests_update hs approvalId state,
      receipts_update hs.receipts approvalId state, hs.executions⟩
  | @receipt r q T hinsert hrequest haction hhash state =>
    refine ⟨hs.proposals, requests_update hs r.approvalId state,
      receipts_update (fun k r' hr' => ?_) r.approvalId state, hs.executions⟩
    obtain ⟨-, rfl⟩ | ⟨-, hr'⟩ := (Table.get?_insert?_eq_some hinsert).mp hr'
    · exact ⟨q, hrequest, haction, hhash⟩
    · exact hs.receipts k r' hr'
  | @execution e r q p T hinsert hreceipt hrequest hnative hproposal haction hhash hkey now L =>
    refine ⟨hs.proposals, hs.requests, fun k r' hr' => ?_, fun k e' he' => ?_⟩
    · dsimp only at hr'
      rw [Table.get?_update_eq_some] at hr'
      obtain ⟨r₀, hr₀, hset⟩ := hr'
      split at hset
      · cases hset
        exact hs.receipts k r₀ hr₀
      · cases hset
        exact hs.receipts k r' hr₀
    · obtain ⟨rfl, rfl⟩ | ⟨-, he'⟩ := (Table.get?_insert?_eq_some hinsert).mp he'
      · -- The proposal that the receipt was joined with is that of the native request.
        obtain ⟨q', hq', haction', hhash'⟩ := hs.receipts _ r hreceipt
        rw [hrequest, Option.some.injEq] at hq'
        subst hq'
        obtain ⟨p', hp', hphash⟩ := hs.requests _ q hrequest hnative
        rw [← haction', hproposal, Option.some.injEq] at hp'
        subst hp'
        rw [← haction]
        exact ⟨p, hproposal, by rw [← hphash, ← hhash', hhash], hkey⟩
      · exact hs.executions k e' he'
  | executions p f hf hsame =>
    refine ⟨hs.proposals, hs.requests, hs.receipts, fun k e he => ?_⟩
    dsimp only at he
    rw [Table.get?_updateWhere_eq_some] at he
    obtain ⟨e₀, he₀, hset⟩ := he
    obtain ⟨p, hp, hhash, hkey⟩ := hs.executions k e₀ he₀
    refine ⟨p, hp, ?_⟩
    have hids : e.proposalHash = e₀.proposalHash ∧ e.idempotencyKey = e₀.idempotencyKey := by
      split at hset
      · rw [hset]
        exact ⟨(hsame e₀).ids.2.2.1, (hsame e₀).ids.2.2.2⟩
      · rw [hset]
        exact ⟨rfl, rfl⟩
    exact ⟨hhash.trans hids.1.symm, hkey.trans hids.2.symm⟩
  | leases => exact ⟨hs.proposals, hs.requests, hs.receipts, hs.executions⟩

/-- What the other threads do keeps what holds of the rows. -/
theorem sound_of_others {py : Python} {s : Store} (h : Relation.ReflTransGen (Others py) s s')
    (hs : s.Sound) : s'.Sound := by
  induction h with
  | refl => exact hs
  | tail _ hstep ih =>
    obtain ⟨c, rfl⟩ := hstep
    exact (c.change py _).sound ih

theorem reachable_sound {py : Python} {s : Store} (h : s.Reachable py) : s.Sound := by
  refine invariant_of_reachable (StoreCall.run py) (I := Store.Sound)
    (fun s c hs => (c.change py s).sound hs) ?_ h
  have hempty : ∀ {ρ : Type} {key : ρ → String} (k : String) (r : ρ),
      (Table.empty : Table key).get? k ≠ some r := fun k r h => by cases h
  exact ⟨fun k p h => absurd h (hempty k p), fun k q h => absurd h (hempty k q),
    fun k r h => absurd h (hempty k r), fun k e h => absurd h (hempty k e)⟩

/-! ## The replay -/

/-- The switches are on and the settings are those that the proposal is bound to. -/
structure Settings.Admits (cfg : Settings) (p : ProposalRow) : Prop where
  enabled : cfg.executionEnabled = true
  action : "restart_addon" ∈ cfg.enabledActions
  policyEpoch : p.binding.policyEpoch = cfg.policyEpoch
  policyHash : p.binding.policyHash = cfg.policyHash
  allowlist : p.binding.allowlistHash = allowlistFingerprint cfg.restartAddonAllowlist
  adapterVersion : p.binding.adapterVersion = cfg.adapterVersion
  adapterSchemaVersion : p.binding.adapterSchemaVersion = cfg.adapterSchemaVersion
  target : p.target ∈ cfg.restartAddonAllowlist

theorem drift_eq_none {cfg : Settings} {b : Binding} : cfg.drift b = none ↔
    b.policyEpoch = cfg.policyEpoch ∧ b.policyHash = cfg.policyHash ∧
      b.allowlistHash = allowlistFingerprint cfg.restartAddonAllowlist ∧
      b.adapterVersion = cfg.adapterVersion ∧ b.adapterSchemaVersion = cfg.adapterSchemaVersion := by
  unfold Settings.drift
  split_ifs <;> simp_all

/-- The proposal of a stored execution passes iff it has not expired and the settings are its own. -/
theorem checkProposal_ok {cfg : Settings} {v : ExecutionRequest} {p : ProposalRow} {expired : Bool}
    (htype : p.actionType = "restart_addon") (hversion : p.proposalVersion = 2)
    (hhash : p.proposalHash = v.proposalHash) (hkey : p.idempotencyKey = v.idempotencyKey) :
    cfg.checkProposal v ⟨p, expired⟩ = .ok () ↔
      expired = false ∧ cfg.drift p.binding = none ∧ p.target ∈ cfg.restartAddonAllowlist := by
  simp only [Settings.checkProposal, bind_eq_ok, ensure_eq_ok, htype, hversion, hhash, hkey,
    true_and, and_self, exists_const]
  cases cfg.drift p.binding with
  | none => simp
  | some code => simp

/-- The document of a proposal says whether the time is past its expiry. -/
theorem document_of_second (h : IsSecondText p.expiresAt) (now : Instant) :
    p.document now = .ok ⟨p, columnTime p.expiresAt ≤ now⟩ := by
  obtain ⟨t, ht, -, htext⟩ := h
  rw [ProposalRow.document, htext, parseTimestamp_isoformat ht, columnTime_isoformat ht]
  rfl

open Relation

variable {py : Python} {s t : Store} {e : ExecutionRow} {cfg : Settings}
  {replies : List (Sigma Query.Reply)} {r : Except Raise ExecutionResult}

/-- The row of an execution at some time of a call. -/
def StoredDuring (py : Python) (s t : Store) (e e' : ExecutionRow) : Prop :=
  ∃ s', ReflTransGen (Others py) s s' ∧ ReflTransGen (Others py) s' t ∧
    s'.executions.get? e.actionId = some e' ∧ e.SameClaim e'

/-- What a replay does under the lock: it reads the clock, the proposal and the execution. -/
theorem underLock_replay (hs : s.Sound) (he : s.executions.get? e.actionId = some e)
    (hp : s.proposals.get? e.actionId = some p)
    (hrun : Runs (Others py)
      (cfg.underLock ⟨e.actionId, e.receiptId, e.proposalHash, e.idempotencyKey⟩) s replies r t) :
    ∃ now : Datetime, replies = [⟨.clock, now⟩] ∧ ReflTransGen (Others py) s t ∧
      (now.1 < columnTime p.expiresAt →
        (cfg.drift p.binding = none ∧ p.target ∈ cfg.restartAddonAllowlist ∧
          ∃ e', StoredDuring py s t e e' ∧ r = .ok ⟨e'.document, true⟩) ∨
        (¬ (cfg.drift p.binding = none ∧ p.target ∈ cfg.restartAddonAllowlist) ∧
          ∃ exc, r = .error exc)) := by
  obtain ⟨htype, hversion, hexpires⟩ := hs.proposals _ p hp
  obtain ⟨p', hp', hhash, hkey⟩ := hs.executions _ e he
  rw [hp, Option.some.injEq] at hp'
  subst hp'
  obtain ⟨now, rest, s₁, rfl, hsteps₁, hrun⟩ := Runs.of_ask hrun
  obtain ⟨s₂, hsteps₂, hrun⟩ := Runs.of_transact hrun
  have hsteps := hsteps₁.trans hsteps₂
  have hp₂ := (keeps_of_others hsteps).proposals _ p hp
  have hread : atomic (Store.getNativeProposal e.actionId now) s₂ =
      (s₂, .ok ⟨p, columnTime p.expiresAt ≤ now.1⟩) := by
    rw [atomic, Store.getNativeProposal, hp₂, orRaise_some, ok_bind, document_of_second hexpires,
      ok_bind]
    rfl
  dsimp only at hrun
  rw [hread] at hrun
  dsimp only [check] at hrun
  have hcheck := @checkProposal_ok cfg ⟨e.actionId, e.receiptId, e.proposalHash, e.idempotencyKey⟩ p
    (decide (columnTime p.expiresAt ≤ now.1)) htype hversion hhash hkey
  split at hrun
  · next hpassed =>
    obtain ⟨hlate, hdrift, htarget⟩ := hcheck.mp hpassed
    obtain ⟨s₃, hsteps₃, hrun⟩ := Runs.of_transact hrun
    obtain ⟨e', he', hsame⟩ := (keeps_of_others (hsteps.trans hsteps₃)).executions _ e he
    have hfound : s₃.getExecution e.actionId = .ok (s₃, e'.document) := by
      rw [Store.getExecution, he']
      rfl
    obtain ⟨-, hreceipt, hhash', hkey'⟩ := hsame.ids
    rw [hfound] at hrun
    dsimp only at hrun
    rw [ensure_of ⟨hreceipt, hhash', hkey'⟩] at hrun
    obtain ⟨rfl, rfl, hsteps₄⟩ := Runs.of_done hrun
    refine ⟨now, rfl, (hsteps.trans hsteps₃).trans hsteps₄, fun _ => .inl ⟨hdrift, htarget, ?_⟩⟩
    exact ⟨e', ⟨s₃, hsteps.trans hsteps₃, hsteps₄, he', hsame⟩, rfl⟩
  · next exc hfailed =>
    obtain ⟨rfl, rfl, hsteps₃⟩ := Runs.of_done hrun
    refine ⟨now, rfl, hsteps.trans hsteps₃, fun hearly => .inr ⟨fun hadmits => ?_, exc, rfl⟩⟩
    have hpassed := hcheck.mpr ⟨decide_eq_false (not_le.mpr hearly), hadmits⟩
    rw [hfailed] at hpassed
    cases hpassed

/-- With the switches on, the manager admits a proposal iff its settings are those of the proposal. -/
theorem admits_iff (hon : cfg.executionEnabled = true)
    (henabled : "restart_addon" ∈ cfg.enabledActions) : cfg.Admits p ↔
      cfg.drift p.binding = none ∧ p.target ∈ cfg.restartAddonAllowlist := by
  rw [drift_eq_none]
  constructor
  · intro h
    exact ⟨⟨h.policyEpoch, h.policyHash, h.allowlist, h.adapterVersion, h.adapterSchemaVersion⟩,
      h.target⟩
  · rintro ⟨⟨hepoch, hhash, hallowlist, hadapter, hschema⟩, htarget⟩
    exact ⟨hon, henabled, hepoch, hhash, hallowlist, hadapter, hschema, htarget⟩

/-- An exception is no stored execution. -/
theorem not_returned {exc : Raise} : ¬ ∃ e', StoredDuring py s t e e' ∧
    (.error exc : Except Raise ExecutionResult) = .ok ⟨e'.document, true⟩ := by
  rintro ⟨e', -, hreturned⟩
  cases hreturned

def sampleDocument (fields : List (String × Value)) : Value :=
  .obj (fields.map fun kv => (PyStr.ofString kv.1, kv.2))

def sampleText (s : String) : Value := .str (PyStr.ofString s)

def sampleActionId : String := "OPS-20260810-ABCDEF012345"

def sampleReceiptId : String := "RCPT-" ++ String.ofList (List.replicate 32 'A')

/-- The proposal to restart one add-on, five minutes long. -/
def sampleProposal : ProposalRow where
  actionId := sampleActionId
  idempotencyKey := sampleHash
  actionType := "restart_addon"
  target := "core_ssh"
  proposalHash := "sha256:406603b4c1965bcdcffd307d0941320a5943934c020797e74d5bb45c3af21e6e"
  riskLevel := "L3"
  requiresBackup := true
  parameterSummary := "\x7b\"idempotency_key\":\"" ++ sampleHash ++ "\"\x7d"
  expectedChange := "重启精确白名单中的 Home Assistant Add-on。"
  validationPlan := "[\"执行前读取精确 Add-on 状态与版本\",\"执行后确认状态恢复为 started 且版本未变化\"]"
  rollbackPlan :=
    "[\"若结果不确定则停止自动操作并标记 recovery_required\",\"后续恢复或备份还原必须单独授权\"]"
  createdAt := "2026-08-10T00:00:00+00:00"
  expiresAt := "2026-08-10T00:05:00+00:00"
  proposalVersion := 2
  binding := {
    policyEpoch := 1
    policyHash := sampleHash
    allowlistHash := "sha256:88ebaac63c1757d76d437d765efca8bc9fc3dce30904494e4a07f9fdf549ef78"
    adapterVersion := "1"
    adapterSchemaVersion := 1
    baselineEtag := sampleHash
    backupEvidenceId := "backup-addon" }

/-- The request for an authorization of the proposal. -/
def sampleAuthorizationRequest : RequestRow where
  approvalId := "AUTH-1"
  actionId := sampleActionId
  actionType := "restart_addon"
  target := "core_ssh"
  proposalHash := sampleProposal.proposalHash
  riskLevel := "L3"
  requiresBackup := true
  parameterSummary := sampleProposal.parameterSummary
  expectedChange := sampleProposal.expectedChange
  validationPlan := sampleProposal.validationPlan
  rollbackPlan := sampleProposal.rollbackPlan
  structuralOwnerHash := "broker-native-passkey"
  createdAt := "2026-08-10T00:00:00+00:00"
  expiresAt := sampleProposal.expiresAt
  state := .pending
  proposalOrigin := "broker_native"
  proposalVersion := 2
  binding := some sampleProposal.binding

def sampleReceipt : ReceiptRow where
  receiptId := sampleReceiptId
  approvalId := "AUTH-1"
  actionId := sampleActionId
  proposalHash := sampleProposal.proposalHash
  authorizedUserHash := sampleHash
  credentialIdHash := "e3b0c44298fc1c149afbf4c8996fb92427ae41e4649b934ca495991b7852b855"
  authorizedAt := "2026-08-10T00:00:00+00:00"
  expiresAt := sampleProposal.expiresAt
  assurance := "passkey_verified"
  consumedAt := none
  proposalVersion := 2
  binding := some sampleProposal.binding

/-- The two databases have the same rows, and no execution is among them. -/
def Store.SameRows (s s' : Store) : Prop :=
  s.proposals.rows = s'.proposals.rows ∧ s.requests.rows = s'.requests.rows ∧
    s.receipts.rows = s'.receipts.rows ∧ s.leases.rows = s'.leases.rows ∧
    s.evidence.rows = s'.evidence.rows ∧ s.executions.rows.isEmpty ∧ s'.executions.rows.isEmpty

instance (s s' : Store) : Decidable (s.SameRows s') := by
  unfold Store.SameRows
  infer_instance

theorem Store.eq_of_sameRows {s : Store} (h : s.SameRows s') : s = s' := by
  obtain ⟨⟨_, _⟩, ⟨_, _⟩, ⟨_, _⟩, ⟨_, _⟩, ⟨_, _⟩, ⟨_, _⟩⟩ := s
  obtain ⟨⟨_, _⟩, ⟨_, _⟩, ⟨_, _⟩, ⟨_, _⟩, ⟨_, _⟩, ⟨_, _⟩⟩ := s'
  obtain ⟨rfl, rfl, rfl, rfl, rfl, hempty, hempty'⟩ := h
  obtain rfl := List.isEmpty_iff.mp hempty
  obtain rfl := List.isEmpty_iff.mp hempty'
  rfl

/-- A call that leads to a database of the same rows leads to it. -/
theorem Store.Reachable.call {s s' : Store} (h : s.Reachable py) (c : StoreCall)
    (hrows : (c.run py s).SameRows s') : s'.Reachable py :=
  Store.eq_of_sameRows hrows ▸ ReachableFrom.next _ h c

def sampleRegistered : Store :=
  { Store.initial with evidence := ⟨[addonRow], List.nodup_singleton _⟩ }

def sampleProposed : Store :=
  { sampleRegistered with proposals := ⟨[sampleProposal], List.nodup_singleton _⟩ }

def sampleRequested : Store :=
  { sampleProposed with requests := ⟨[sampleAuthorizationRequest], List.nodup_singleton _⟩ }

def sampleAuthorized : Store :=
  { sampleProposed with
    requests := ⟨[{ sampleAuthorizationRequest with state := .authorized }], List.nodup_singleton _⟩
    receipts := ⟨[sampleReceipt], List.nodup_singleton _⟩ }

/-- The claim of the restart. -/
def sampleClaim : StoreCall :=
  .claimExecution ⟨sampleReceiptId, sampleActionId, sampleProposal.proposalHash, sampleHash,
    sampleProposal.binding, "broker", 60⟩ sampleNow ("1", "2")

/-- The database after the claim. -/
def sampleStore : Store := sampleClaim.run samplePython sampleAuthorized

/-- The request of the claim. -/
def sampleExecutionRequest : Value :=
  sampleDocument [("version", .int 1), ("receipt_id", sampleText sampleReceiptId),
    ("action_id", sampleText sampleActionId),
    ("proposal_hash", sampleText sampleProposal.proposalHash),
    ("idempotency_key", sampleText sampleHash)]

def sampleSettings : Settings :=
  ⟨true, ["restart_addon"], ["core_ssh"], 1, sampleHash, "1", 1, false, "broker", 60⟩

theorem sampleStore_facts :
    (sampleAuthorized.proposals.get? sampleActionId = some sampleProposal ∧
      (sampleStore.executions.get? sampleActionId).any (fun e =>
        (⟨e.actionId, e.receiptId, e.proposalHash, e.idempotencyKey⟩ : ExecutionRequest) =
          ⟨sampleActionId, sampleReceiptId, sampleProposal.proposalHash, sampleHash⟩) = true) ∧
    validateExecutionRequest sampleExecutionRequest =
      .ok ⟨sampleActionId, sampleReceiptId, sampleProposal.proposalHash, sampleHash⟩ ∧
    sampleProposal.binding.allowlistHash =
      allowlistFingerprint sampleSettings.restartAddonAllowlist := by
  decide +kernel

theorem sampleStore_proposal :
    sampleStore.proposals.get? sampleActionId = some sampleProposal :=
  (sampleClaim.change samplePython sampleAuthorized).keeps.proposals _ _ sampleStore_facts.1.1

theorem sampleStore_execution : ∃ e, sampleStore.executions.get? e.actionId = some e ∧
    (⟨e.actionId, e.receiptId, e.proposalHash, e.idempotencyKey⟩ : ExecutionRequest) =
      ⟨sampleActionId, sampleReceiptId, sampleProposal.proposalHash, sampleHash⟩ := by
  obtain ⟨e, he, hids⟩ := (Option.any_eq_true _ _).mp sampleStore_facts.1.2
  exact ⟨e, (Table.key_of_get? he).symm ▸ he, of_decide_eq_true hids⟩

theorem validate_sampleExecutionRequest : validateExecutionRequest sampleExecutionRequest =
    .ok ⟨sampleActionId, sampleReceiptId, sampleProposal.proposalHash, sampleHash⟩ :=
  sampleStore_facts.2.1

theorem sampleSettings_admits : sampleSettings.Admits sampleProposal where
  enabled := rfl
  action := List.mem_cons_self
  policyEpoch := rfl
  policyHash := rfl
  allowlist := sampleStore_facts.2.2
  adapterVersion := rfl
  adapterSchemaVersion := rfl
  target := List.mem_cons_self

theorem sample_steps :
    ((StoreCall.registerEvidence
      (sampleEvidence "addon" "backup-addon" "2026-08-10T00:10:00+00:00") sampleNow).run
        samplePython Store.initial).SameRows sampleRegistered ∧
    ((StoreCall.createNativeProposal
      (sampleDocument [("version", .int 1), ("action_type", sampleText "restart_addon"),
        ("target", sampleText "core_ssh"), ("idempotency_key", sampleText sampleHash)])
      ⟨["core_ssh"], 1, sampleHash, "1", 1, 300⟩ sampleHash sampleNow "ABCDEF012345").run
        samplePython sampleRegistered).SameRows sampleProposed ∧
    ((StoreCall.createRequestFromNativeProposal
      (sampleDocument [("version", .int 1), ("action_id", sampleText sampleActionId)])
      sampleNow "1").run samplePython sampleProposed).SameRows sampleRequested ∧
    ((StoreCall.authorize "AUTH-1" sampleProposal.proposalHash sampleHash [] sampleNow
      (String.ofList (List.replicate 32 'A'))).run
        samplePython sampleRequested).SameRows sampleAuthorized := by
  decide +kernel

theorem sampleAuthorized_reachable : sampleAuthorized.Reachable samplePython := by
  obtain ⟨hregister, hpropose, hrequest, hauthorize⟩ := sample_steps
  have hinitial : Store.initial.Reachable samplePython := ReachableFrom.refl _ _
  have hregistered := hinitial.call _ hregister
  have hproposed := hregistered.call _ hpropose
  have hrequested := hproposed.call _ hrequest
  exact hrequested.call _ hauthorize

theorem sampleStore_reachable : sampleStore.Reachable samplePython :=
  ReachableFrom.next _ sampleAuthorized_reachable sampleClaim

/-- The lock is free, and no service answers. -/
def sampleAnswer : (q : Query) → q.Reply
  | .acquire => true
  | .release => ()
  | .clock => sampleNow
  | .tokens => ("1", "2")
  | .addonInfo _ | .restartAddon _ | .shadowRestart _ => .error ("unavailable", "")

end HomeAddons.Broker
