import HomeAddons.Broker.Evidence

/-!
# The authorization database

Models of the tables of `AuthorizationStore` that an execution depends on, and of its methods, one
transaction each (`operations_broker/authorization.py`, lines 100–1540): proposals, authorization
requests, receipts, executions with their leases, and the registry of backup evidence. The passkeys
are left out: an authorization takes the identity that the assertion proved.

* A method that raises inside of its transaction leaves the database alone; only `claimExecution`
  raises after it has committed.
* Random identifiers are arguments, and so is the time that the caller reads.
-/

namespace HomeAddons.Broker

open HomeAddons.Common

/-! ## Rows -/

/-- The columns that bind a row to a policy, an adapter, a baseline and a backup record. -/
structure Binding where
  policyEpoch : ℤ
  policyHash : String
  allowlistHash : String
  adapterVersion : String
  adapterSchemaVersion : ℤ
  baselineEtag : String
  backupEvidenceId : String
  deriving DecidableEq

/-- A row of `operation_proposals`. -/
structure ProposalRow where
  actionId : String
  idempotencyKey : String
  actionType : String
  target : String
  proposalHash : String
  riskLevel : String
  requiresBackup : Bool
  parameterSummary : String
  expectedChange : String
  validationPlan : String
  rollbackPlan : String
  createdAt : String
  expiresAt : String
  proposalVersion : ℤ
  binding : Binding
  deriving DecidableEq

/-- `CHECK(state IN ('pending','authorized','expired'))`. -/
inductive RequestState where
  | pending
  | authorized
  | expired
  deriving DecidableEq

/-- A row of `authorization_requests`; the binding of a legacy request is `NULL`. -/
structure RequestRow where
  approvalId : String
  actionId : String
  actionType : String
  target : String
  proposalHash : String
  riskLevel : String
  requiresBackup : Bool
  parameterSummary : String
  expectedChange : String
  validationPlan : String
  rollbackPlan : String
  structuralOwnerHash : String
  createdAt : String
  expiresAt : String
  state : RequestState
  proposalOrigin : String
  proposalVersion : ℤ
  binding : Option Binding
  deriving DecidableEq

/-- A row of `authorization_receipts`. -/
structure ReceiptRow where
  receiptId : String
  approvalId : String
  actionId : String
  proposalHash : String
  authorizedUserHash : String
  credentialIdHash : String
  authorizedAt : String
  expiresAt : String
  assurance : String
  consumedAt : Option String
  proposalVersion : ℤ
  binding : Option Binding
  deriving DecidableEq

/-- `CHECK(state IN ('authorized','executing',…))`. -/
inductive ExecutionState where
  | authorized
  | executing
  | verifying
  | succeeded
  | failed
  | recoveryRequired
  deriving DecidableEq

/-- `state IN ('authorized','executing','verifying')`. -/
def ExecutionState.incomplete : ExecutionState → Bool
  | authorized | executing | verifying => true
  | _ => false

/-- A row of `operation_executions`; the observations are kept as the documents of their dumps. -/
structure ExecutionRow where
  actionId : String
  receiptId : String
  proposalHash : String
  idempotencyKey : String
  actionType : String
  target : String
  state : ExecutionState
  preflight : Option Json
  postflight : Option Json
  errorCode : Option String
  recoveryResolution : Option String
  recoveryEvidenceHash : Option String
  recoveryResolvedAt : Option String
  startedAt : String
  updatedAt : String
  finishedAt : Option String
  proposalVersion : ℤ
  binding : Binding
  leaseInstanceId : String
  leaseEpoch : ℕ

inductive LeaseState where
  | active
  | recoveryRequired
  | released
  deriving DecidableEq

/-- A row of `operation_leases`. -/
structure LeaseRow where
  leaseId : String
  resource : String
  actionId : String
  instanceId : String
  epoch : ℕ
  heartbeatAt : String
  expiresAt : String
  state : LeaseState
  createdAt : String
  releasedAt : Option String
  deriving DecidableEq

/-- The database. -/
structure Store where
  proposals : Table ProposalRow.actionId
  requests : Table RequestRow.approvalId
  receipts : Table ReceiptRow.receiptId
  executions : Table ExecutionRow.actionId
  leases : Table LeaseRow.leaseId
  evidence : Registry

/-- The database of a first start. -/
def Store.initial : Store := ⟨.empty, .empty, .empty, .empty, .empty, .empty⟩

/-! ## Documents (lines 1402–1527) -/

/-- `_proposal_document(row, now=now)`: the columns and the state that the clock gives. -/
structure ProposalDocument where
  row : ProposalRow
  expired : Bool

/-- `_proposal_document`. -/
def ProposalRow.document (p : ProposalRow) (now : Instant) : Except Raise ProposalDocument := do
  let expiresAt ← parseTimestamp (.str (PyStr.ofString p.expiresAt)) "proposal.expires_at"
  return ⟨p, expiresAt ≤ now⟩

/-- What an execution document says of a recovery. -/
structure RecoveryDocument where
  resolved : Bool
  resolution : Option String
  evidenceHash : Option String
  resolvedAt : Option String

/-- `_execution_document(row)`. -/
structure ExecutionDocument where
  version : ℤ
  receiptId : String
  actionId : String
  proposalHash : String
  idempotencyKey : String
  actionType : String
  target : String
  state : ExecutionState
  startedAt : String
  updatedAt : String
  finishedAt : Option String
  preflight : Option Json
  postflight : Option Json
  errorCode : Option String
  recovery : Option RecoveryDocument
  /-- The binding and the lease, from version 2 on. -/
  bound : Option (Binding × String × ℕ)

/-- `_execution_document`. -/
def ExecutionRow.document (e : ExecutionRow) : ExecutionDocument where
  version := e.proposalVersion
  receiptId := e.receiptId
  actionId := e.actionId
  proposalHash := e.proposalHash
  idempotencyKey := e.idempotencyKey
  actionType := e.actionType
  target := e.target
  state := e.state
  startedAt := e.startedAt
  updatedAt := e.updatedAt
  finishedAt := e.finishedAt
  preflight := e.preflight
  postflight := e.postflight
  errorCode := e.errorCode
  recovery := if e.state = .recoveryRequired then
      some ⟨e.recoveryResolution.isSome, e.recoveryResolution, e.recoveryEvidenceHash,
        e.recoveryResolvedAt⟩
    else none
  bound := if 2 ≤ e.proposalVersion then some (e.binding, e.leaseInstanceId, e.leaseEpoch) else none

/-! ## Transactions -/

/-- A method: what it makes of the database, and what it returns or raises. -/
abbrev Transaction (α : Type) := Store → Store × Except Raise α

/-- A method that writes nothing when it raises. -/
def atomic {α : Type} (f : Store → Except Raise (Store × α)) : Transaction α := fun s =>
  match f s with
  | .ok (s', a) => (s', .ok a)
  | .error e => (s, .error e)

/-- `timedelta(seconds=n)` after a time, which may be past the last year. -/
def laterBy (now : Datetime) (n : ℕ) : Except Raise Datetime :=
  if h : inYears (now.1 + seconds n) = true then .ok ⟨now.1 + seconds n, h⟩
  else .error .overflowError

/-! ## Proposals (lines 545–690) -/

/-- `allowlist_fingerprint(values)`. -/
def allowlistFingerprint (values : List String) : String :=
  "sha256:" ++ sha256Hex (canonical (.arr ((values.dedup.insertionSort (· ≤ ·)).map .str)))

/-- What a manager of proposals is configured with. -/
structure ProposalPolicy where
  restartAddonAllowlist : List String
  policyEpoch : ℤ
  policyHash : String
  adapterVersion : String
  adapterSchemaVersion : ℤ
  ttlSeconds : ℕ

/-- `now.strftime('%Y%m%d')`. -/
def dateDigits (now : Instant) : String :=
  let (y, m, d) := ymd (now / dayMicros + epochOrdinal).toNat
  padded 4 y ++ padded 2 m ++ padded 2 d

/-- The proposal of an intent (lines 576–624). -/
def nativeProposal (policy : ProposalPolicy) (intent : NativeIntent) (baselineEtag : String)
    (evidence : BackupEvidence) (now expiresAt : Instant) (token : String) : ProposalRow :=
  let actionId := "OPS-" ++ dateDigits now ++ "-" ++ token
  let summary : Json := .obj [("idempotency_key", .str intent.idempotencyKey)]
  let expectedChange := "重启精确白名单中的 Home Assistant Add-on。"
  let validationPlan : Json := .arr [.str "执行前读取精确 Add-on 状态与版本",
    .str "执行后确认状态恢复为 started 且版本未变化"]
  let rollbackPlan : Json := .arr [.str "若结果不确定则停止自动操作并标记 recovery_required",
    .str "后续恢复或备份还原必须单独授权"]
  let binding : Binding := {
    policyEpoch := policy.policyEpoch
    policyHash := policy.policyHash
    allowlistHash := allowlistFingerprint policy.restartAddonAllowlist
    adapterVersion := policy.adapterVersion
    adapterSchemaVersion := policy.adapterSchemaVersion
    baselineEtag := baselineEtag
    backupEvidenceId := evidence.logicalId }
  let hashDocument : Json := .obj [("version", .int 2), ("action_id", .str actionId),
    ("action_type", .str "restart_addon"), ("target", .str intent.target),
    ("parameter_summary", summary), ("risk_level", .str "L3"), ("requires_backup", .bool true),
    ("expected_change", .str expectedChange), ("validation_plan", validationPlan),
    ("rollback_plan", rollbackPlan), ("policy_epoch", .int binding.policyEpoch),
    ("policy_hash", .str binding.policyHash), ("allowlist_hash", .str binding.allowlistHash),
    ("adapter_version", .str binding.adapterVersion),
    ("adapter_schema_version", .int binding.adapterSchemaVersion),
    ("baseline_etag", .str baselineEtag), ("backup_evidence_id", .str evidence.logicalId),
    ("created_at", .str (isoTimestamp now)), ("expires_at", .str (isoTimestamp expiresAt)),
    ("state", .str "awaiting_approval")]
  { actionId := actionId
    idempotencyKey := intent.idempotencyKey
    actionType := "restart_addon"
    target := intent.target
    proposalHash := "sha256:" ++ sha256Hex (canonical hashDocument)
    riskLevel := "L3"
    requiresBackup := true
    parameterSummary := canonical summary
    expectedChange := expectedChange
    validationPlan := canonical validationPlan
    rollbackPlan := canonical rollbackPlan
    createdAt := isoTimestamp now
    expiresAt := isoTimestamp expiresAt
    proposalVersion := 2
    binding := binding }

/-- `create_native_proposal(intent, …)` (lines 545–657). -/
def Store.createNativeProposal (intent : Value) (policy : ProposalPolicy) (baselineEtag : String)
    (now : Datetime) (token : String) (s : Store) : Except Raise (Store × ProposalDocument) := do
  let validated ← authorized (validateNativeIntent intent policy.restartAddonAllowlist)
  ensure (sha256Re (PyStr.ofString baselineEtag))
    (.authorization "baseline_invalid" "baseline_etag is invalid")
  let expiresAt ← laterBy now policy.ttlSeconds
  let evidence ← s.evidence.selectBackupEvidence ["addon", "full"] baselineEtag now.1 expiresAt.1
  let proposal := nativeProposal policy validated baselineEtag evidence now.1 expiresAt.1 token
  match s.proposals.rows.find? fun p => p.idempotencyKey = validated.idempotencyKey with
  | some existing =>
    ensure (existing.actionType = "restart_addon" ∧ existing.target = validated.target)
      (.authorization "idempotency_conflict"
        "Idempotency key already belongs to another operation intent")
    let document ← existing.document now.1
    return (s, document)
  | none =>
    ensure (∀ p ∈ s.proposals.rows, p.proposalHash ≠ proposal.proposalHash) .integrityError
    let proposals ← orRaise (s.proposals.insert? proposal) .integrityError
    let document ← proposal.document now.1
    return ({ s with proposals := proposals }, document)

/-- `get_native_proposal(action_id, now=now)` (lines 679–687). -/
def Store.getNativeProposal (actionId : String) (now : Datetime) (s : Store) :
    Except Raise (Store × ProposalDocument) := do
  let proposal ← orRaise (s.proposals.get? actionId)
    (.authorization "proposal_not_found" "Operation proposal was not found")
  let document ← proposal.document now.1
  return (s, document)

/-! ## Requests and receipts (lines 689–906) -/

/-- `create_request_from_native_proposal(request, created_at=created_at)` (lines 689–761). -/
def Store.createRequestFromNativeProposal (request : Value) (now : Datetime) (token : String)
    (s : Store) : Except Raise (Store × RequestRow) := do
  let actionId ← authorized (validateNativeAuthorizationRequest request)
  let proposal ← orRaise (s.proposals.get? actionId)
    (.authorization "proposal_not_found" "Operation proposal was not found")
  let expiresAt ← parseTimestamp (.str (PyStr.ofString proposal.expiresAt)) "expires_at"
  ensure (now.1 < expiresAt) (.authorization "proposal_expired" "Operation proposal expired")
  match s.requests.rows.find? fun q => q.actionId = actionId with
  | some existing =>
    ensure (existing.proposalHash = proposal.proposalHash)
      (.authorization "action_conflict" "Action ID already has another proposal hash")
    return (s, existing)
  | none =>
    let row : RequestRow := {
      approvalId := "AUTH-" ++ token
      actionId := proposal.actionId
      actionType := proposal.actionType
      target := proposal.target
      proposalHash := proposal.proposalHash
      riskLevel := proposal.riskLevel
      requiresBackup := proposal.requiresBackup
      parameterSummary := proposal.parameterSummary
      expectedChange := proposal.expectedChange
      validationPlan := proposal.validationPlan
      rollbackPlan := proposal.rollbackPlan
      structuralOwnerHash := "broker-native-passkey"
      createdAt := isoTimestamp now.1
      expiresAt := proposal.expiresAt
      state := .pending
      proposalOrigin := "broker_native"
      proposalVersion := proposal.proposalVersion
      binding := some proposal.binding }
    let requests ← orRaise (s.requests.insert? row) .integrityError
    return ({ s with requests := requests }, row)

/-- What `create_request` stores of a validated envelope (lines 783–799). -/
structure LegacyRequest where
  actionId : String
  actionType : String
  target : String
  proposalHash : String
  riskLevel : String
  requiresBackup : Bool
  parameterSummary : String
  expectedChange : String
  validationPlan : String
  rollbackPlan : String
  approvedByHash : String
  expiresAt : String

/-- `create_request(validated, created_at=created_at)` (lines 763–811). -/
def Store.createRequest (validated : LegacyRequest) (now : Datetime) (token : String) (s : Store) :
    Except Raise (Store × RequestRow) :=
  match s.requests.rows.find? fun q => q.actionId = validated.actionId with
  | some existing => do
    ensure (existing.proposalHash = validated.proposalHash)
      (.authorization "action_conflict" "Action ID already exists with another proposal hash")
    return (s, existing)
  | none => do
    let row : RequestRow := {
      approvalId := "AUTH-" ++ token
      actionId := validated.actionId
      actionType := validated.actionType
      target := validated.target
      proposalHash := validated.proposalHash
      riskLevel := validated.riskLevel
      requiresBackup := validated.requiresBackup
      parameterSummary := validated.parameterSummary
      expectedChange := validated.expectedChange
      validationPlan := validated.validationPlan
      rollbackPlan := validated.rollbackPlan
      structuralOwnerHash := validated.approvedByHash
      createdAt := isoTimestamp now.1
      expiresAt := validated.expiresAt
      state := .pending
      proposalOrigin := "legacy_envelope"
      proposalVersion := 1
      binding := none }
    let requests ← orRaise (s.requests.insert? row) .integrityError
    return ({ s with requests := requests }, row)

/-- `get_request(approval_id, now=now)` (lines 813–832). -/
def Store.getRequest (approvalId : String) (now : Datetime) (s : Store) :
    Except Raise (Store × RequestRow) := do
  ensure ("AUTH-".toList.isPrefixOf approvalId.toList)
    (.authorization "approval_not_found" "Authorization request was not found")
  let row ← orRaise (s.requests.get? approvalId)
    (.authorization "approval_not_found" "Authorization request was not found")
  let expiresAt ← parseTimestamp (.str (PyStr.ofString row.expiresAt)) "expires_at"
  if row.state = .pending ∧ expiresAt ≤ now.1 then
    let requests := s.requests.update approvalId fun q => { q with state := .expired }
    return ({ s with requests := requests }, { row with state := .expired })
  else return (s, row)

/-- `authorize(approval_id=…, …)` (lines 834–906). An expired request is not marked: the exception
    rolls the update back. -/
def Store.authorize (approvalId expectedProposalHash userIdHash : String)
    (credentialId : List UInt8) (now : Datetime) (token : String) (s : Store) :
    Except Raise (Store × ReceiptRow) := do
  let request ← orRaise (s.requests.get? approvalId)
    (.authorization "approval_not_found" "Authorization request was not found")
  ensure (request.proposalHash = expectedProposalHash)
    (.authorization "proposal_changed" "Proposal changed during authorization")
  ensure (request.state = .pending)
    (.authorization "approval_not_pending" "Authorization request is not pending")
  let expiresAt ← parseTimestamp (.str (PyStr.ofString request.expiresAt)) "expires_at"
  ensure (now.1 < expiresAt)
    (.authorization "approval_expired" "Authorization request expired")
  let receipt : ReceiptRow := {
    receiptId := "RCPT-" ++ token
    approvalId := approvalId
    actionId := request.actionId
    proposalHash := request.proposalHash
    authorizedUserHash := userIdHash
    credentialIdHash := String.ofList (sha256Chars credentialId)
    authorizedAt := isoTimestamp now.1
    expiresAt := request.expiresAt
    assurance := "passkey_verified"
    consumedAt := none
    proposalVersion := request.proposalVersion
    binding := request.binding }
  ensure (∀ r ∈ s.receipts.rows, r.approvalId ≠ approvalId) .integrityError
  let receipts ← orRaise (s.receipts.insert? receipt) .integrityError
  let requests := s.requests.update approvalId fun q => { q with state := .authorized }
  return ({ s with receipts := receipts, requests := requests }, receipt)

/-! ## Executions (lines 911–1187) -/

/-- The arguments of `claim_execution`. -/
structure Claim where
  receiptId : String
  actionId : String
  proposalHash : String
  idempotencyKey : String
  binding : Binding
  instanceId : String
  leaseTtlSeconds : ℕ

/-- The first column of two bindings that differs, with its error code. -/
def Binding.drift (stored expected : Binding) : Option String :=
  if stored.policyEpoch ≠ expected.policyEpoch then some "policy_changed"
  else if stored.policyHash ≠ expected.policyHash then some "policy_changed"
  else if stored.allowlistHash ≠ expected.allowlistHash then some "allowlist_changed"
  else if stored.adapterVersion ≠ expected.adapterVersion then some "adapter_changed"
  else if stored.adapterSchemaVersion ≠ expected.adapterSchemaVersion then some "adapter_changed"
  else if stored.baselineEtag ≠ expected.baselineEtag then some "baseline_changed"
  else if stored.backupEvidenceId ≠ expected.backupEvidenceId then some "backup_evidence_changed"
  else none

/-- The checks of a receipt before it is consumed (lines 1014–1105). -/
def Store.checkReceipt (claim : Claim) (now : Datetime) (s : Store) :
    Except Raise (ReceiptRow × ProposalRow) := do
  let notFound : Raise :=
    .authorization "receipt_not_found" "Authorization receipt was not found"
  let receipt ← orRaise (s.receipts.get? claim.receiptId) notFound
  let request ← orRaise (s.requests.get? receipt.approvalId) notFound
  let proposal ← orRaise (s.proposals.get? receipt.actionId) notFound
  ensure (request.proposalOrigin = "broker_native")
    (.authorization "legacy_receipt_not_executable" "Only Broker-native proposals can be executed")
  ensure (receipt.actionId = claim.actionId ∧ receipt.proposalHash = claim.proposalHash ∧
      proposal.idempotencyKey = claim.idempotencyKey)
    (.authorization "receipt_mismatch"
      "Authorization receipt does not match the execution request")
  ensure (request.state = .authorized ∧ receipt.assurance = "passkey_verified")
    (.authorization "receipt_not_authorized" "Authorization receipt is not executable")
  ensure (receipt.consumedAt = none)
    (.authorization "receipt_consumed" "Authorization receipt was consumed")
  let expiresAt ← parseTimestamp (.str (PyStr.ofString receipt.expiresAt)) "receipt.expires_at"
  ensure (now.1 < expiresAt) (.authorization "receipt_expired" "Authorization receipt expired")
  assertBackupEvidenceRow (s.evidence.get? claim.binding.backupEvidenceId)
    (some claim.binding.backupEvidenceId) ["addon", "full"] claim.binding.baselineEtag now.1
    expiresAt
  ensure (proposal.proposalVersion = 2)
    (.authorization "proposal_version_changed" "Operation binding changed before execution")
  match proposal.binding.drift claim.binding with
  | some code => .error (.authorization code "Operation binding changed before execution")
  | none =>
    ensure (receipt.proposalVersion = 2 ∧ receipt.binding = some claim.binding)
      (.authorization "receipt_binding_changed"
        "Authorization receipt binding changed before execution")
    return (receipt, proposal)

/-- `SELECT COALESCE(MAX(epoch),0)+1 FROM operation_leases WHERE resource=?`. -/
def Store.nextEpoch (s : Store) (resource : String) : ℕ :=
  ((s.leases.rows.filter fun l => l.resource = resource).map LeaseRow.epoch).foldl max 0 + 1

/-- A new lease (lines 1147–1168). -/
def Claim.lease (claim : Claim) (resource leaseId now expires : String) (epoch : ℕ) : LeaseRow where
  leaseId := "LEASE-" ++ leaseId
  resource := resource
  actionId := claim.actionId
  instanceId := claim.instanceId
  epoch := epoch
  heartbeatAt := now
  expiresAt := expires
  state := .active
  createdAt := now
  releasedAt := none

/-- A claim without an execution in its way (lines 1014–1171). -/
def Store.insertExecution (claim : Claim) (now expires : Datetime) (tokens : String × String)
    (s : Store) : Except Raise (Store × ExecutionDocument × Bool) := do
  let (receipt, proposal) ← s.checkReceipt claim now
  let nowText := isoTimestamp now.1
  let resource := "addon:" ++ proposal.target
  let epoch := s.nextEpoch "singleton:operations"
  let row : ExecutionRow := {
    actionId := claim.actionId
    receiptId := claim.receiptId
    proposalHash := claim.proposalHash
    idempotencyKey := claim.idempotencyKey
    actionType := proposal.actionType
    target := proposal.target
    state := .authorized
    preflight := none
    postflight := none
    errorCode := none
    recoveryResolution := none
    recoveryEvidenceHash := none
    recoveryResolvedAt := none
    startedAt := nowText
    updatedAt := nowText
    finishedAt := none
    proposalVersion := 2
    binding := claim.binding
    leaseInstanceId := claim.instanceId
    leaseEpoch := epoch }
  ensure (∀ e ∈ s.executions.rows,
    e.receiptId ≠ receipt.receiptId ∧ e.idempotencyKey ≠ claim.idempotencyKey) .integrityError
  let executions ← orRaise (s.executions.insert? row) .integrityError
  let leases ← orRaise (s.leases.insert? (claim.lease "singleton:operations" tokens.1 nowText
    (isoTimestamp expires.1) epoch)) .integrityError
  let leases ← orRaise (leases.insert? (claim.lease resource tokens.2 nowText
    (isoTimestamp expires.1) (s.nextEpoch resource))) .integrityError
  let receipts := s.receipts.update claim.receiptId fun r => { r with consumedAt := some nowText }
  return ({ s with receipts := receipts, executions := executions, leases := leases },
    row.document, false)

/-- The execution of an expired lease is given up (lines 952–974). -/
def Store.giveUp (actionId now : String) (s : Store) : Store :=
  let executions := s.executions.updateWhere
    (fun e => e.actionId = actionId && e.state.incomplete)
    fun e => { e with
      state := .recoveryRequired, errorCode := some "lease_expired", updatedAt := now
      finishedAt := e.finishedAt <|> some now }
  let leases := s.leases.updateWhere (fun l => l.actionId = actionId && l.state = .active)
    fun l => { l with state := .recoveryRequired, heartbeatAt := now }
  { s with executions := executions, leases := leases }

/-- `claim_execution(…)` (lines 908–1185): the document and whether it was there before. -/
def Store.claimExecution (claim : Claim) (now : Datetime) (tokens : String × String) :
    Transaction (ExecutionDocument × Bool) := fun s =>
  match laterBy now claim.leaseTtlSeconds with
  | .error e => (s, .error e)
  | .ok expires =>
    let nowText := isoTimestamp now.1
    match s.executions.get? claim.actionId with
    | some existing =>
      if existing.receiptId ≠ claim.receiptId ∨ existing.proposalHash ≠ claim.proposalHash ∨
          existing.idempotencyKey ≠ claim.idempotencyKey then
        (s, .error (.authorization "execution_conflict" "Action already has another execution claim"))
      else (s, .ok (existing.document, true))
    | none =>
      let expired := (s.leases.rows.filter fun l => l.state = .active ∧ l.expiresAt ≤ nowText)
      match (expired.insertionSort fun a b => a.createdAt ≤ b.createdAt).head? with
      | some lease =>
        -- The transaction is committed before the exception.
        (s.giveUp lease.actionId nowText, .error (.authorization "lease_recovery_required"
          "An expired persistent lease requires recovery before new execution"))
      | none => atomic (fun s => do
          ensure (∀ l ∈ s.leases.rows, l.state = .released)
            (.authorization "execution_busy" "A persistent operation lease is already held")
          ensure (∀ e ∈ s.executions.rows, e.state = .recoveryRequired →
              e.recoveryResolution.isSome)
            (.authorization "unresolved_recovery"
              "A previous execution still requires recovery resolution")
          s.insertExecution claim now expires tokens) s

/-- `update_execution(action_id=…, …)` (lines 1187–1253). -/
def Store.updateExecution (actionId : String) (expectedStates : List ExecutionState)
    (state : ExecutionState) (now : Datetime) (preflight postflight : Option Json)
    (errorCode : Option String) (finished : Bool) (s : Store) :
    Except Raise (Store × ExecutionDocument) := do
  let row ← orRaise (s.executions.get? actionId)
    (.authorization "execution_not_found" "Execution was not found")
  ensure (row.state ∈ expectedStates)
    (.authorization "execution_state_conflict" "Execution state changed unexpectedly")
  let nowText := isoTimestamp now.1
  let set (e : ExecutionRow) : ExecutionRow := { e with
    state := state
    preflight := preflight <|> e.preflight
    postflight := postflight <|> e.postflight
    errorCode := errorCode
    updatedAt := nowText
    finishedAt := if finished then some nowText else e.finishedAt }
  let executions := s.executions.update actionId set
  let leases :=
    if state = .recoveryRequired then
      s.leases.updateWhere (fun l => l.actionId = actionId && l.state = .active)
        fun l => { l with state := .recoveryRequired, heartbeatAt := nowText }
    else if finished then
      s.leases.updateWhere (fun l => l.actionId = actionId && l.state = .active)
        fun l => { l with state := .released, heartbeatAt := nowText, releasedAt := some nowText }
    else s.leases
  return ({ s with executions := executions, leases := leases }, (set row).document)

/-- `heartbeat_execution_leases(action_id=…, …)` (lines 1255–1289). -/
def Store.heartbeatExecutionLeases (actionId instanceId : String) (now : Datetime) (ttl : ℕ)
    (s : Store) : Except Raise (Store × Unit) := do
  let expires ← laterBy now ttl
  let held := s.leases.rows.filter fun l => l.actionId = actionId
  ensure (held.length = 2 ∧ ∀ l ∈ held, l.instanceId = instanceId ∧ l.state = .active)
    (.authorization "lease_lost" "Persistent operation lease is unavailable")
  let leases := s.leases.updateWhere
    (fun l => l.actionId = actionId && l.instanceId = instanceId && l.state = .active)
    fun l => { l with heartbeatAt := isoTimestamp now.1, expiresAt := isoTimestamp expires.1 }
  return ({ s with leases := leases }, ())

/-- `get_execution(action_id)` (lines 1305–1312). -/
def Store.getExecution (actionId : String) (s : Store) :
    Except Raise (Store × ExecutionDocument) := do
  let row ← orRaise (s.executions.get? actionId)
    (.authorization "execution_not_found" "Execution was not found")
  return (s, row.document)

/-- `assert_execution_interlock_clear()` (lines 1314–1328). -/
def Store.assertExecutionInterlockClear (s : Store) : Except Raise (Store × Unit) := do
  ensure (∀ e ∈ s.executions.rows, e.state = .recoveryRequired → e.recoveryResolution.isSome)
    (.authorization "unresolved_recovery"
      "A previous execution still requires recovery resolution")
  return (s, ())

/-- `assert_backup_evidence_valid(logical_id=…, …)` (lines 437–460). -/
def Store.assertBackupEvidenceValid (logicalId : String) (scopes : List String) (baseline : String)
    (now validUntil : Instant) (s : Store) : Except Raise (Store × Unit) := do
  assertBackupEvidenceRow (s.evidence.get? logicalId) (some logicalId) scopes baseline now
    validUntil
  return (s, ())

/-- `resolve_recovery(action_id=…, …)` (lines 1330–1383). -/
def Store.resolveRecovery (actionId : String) (conclusion : RecoveryConclusion) (now : Datetime)
    (s : Store) : Except Raise (Store × ExecutionDocument) := do
  let row ← orRaise (s.executions.get? actionId)
    (.authorization "execution_not_found" "Execution was not found")
  ensure (row.state = .recoveryRequired)
    (.authorization "recovery_not_required" "Execution does not require recovery")
  ensure (row.recoveryResolution = none)
    (.authorization "recovery_already_resolved" "Execution recovery is already resolved")
  let nowText := isoTimestamp now.1
  let set (e : ExecutionRow) : ExecutionRow := { e with
    recoveryResolution := some conclusion.resolution
    recoveryEvidenceHash := some conclusion.evidenceHash
    recoveryResolvedAt := some nowText
    updatedAt := nowText }
  let executions := s.executions.update actionId set
  let leases := s.leases.updateWhere
    (fun l => l.actionId = actionId && l.state = .recoveryRequired)
    fun l => { l with state := .released, heartbeatAt := nowText, releasedAt := some nowText }
  return ({ s with executions := executions, leases := leases }, (set row).document)

/-- `recover_incomplete_executions(recovered_at=recovered_at)` (lines 1385–1404), at every start. -/
def Store.recoverIncompleteExecutions (now : Datetime) (s : Store) : Store :=
  let nowText := isoTimestamp now.1
  let executions := s.executions.updateWhere (fun e => e.state.incomplete)
    fun e => { e with
      state := .recoveryRequired, errorCode := some "broker_restarted", updatedAt := nowText
      finishedAt := some nowText }
  let leases := s.leases.updateWhere (fun l => l.state = .active)
    fun l => { l with state := .recoveryRequired, heartbeatAt := nowText }
  { s with executions := executions, leases := leases }

end HomeAddons.Broker
