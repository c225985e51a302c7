import HomeAddons.Broker.Store
import HomeAddons.Common.Program
import HomeAddons.Common.PyEq

/-!
# The execution of a restart

Model of `ExecutionManager.execute` (`operations_broker/execution.py`, lines 71–323). A call is a
program over the database: it asks for the lock, the clock, random tokens, the Supervisor and the
Manager Executor, and every method of the store is one transaction. Other threads of the broker work
on the same database between them.

* `execute`: the whole call; `carryOut` is what follows the search for an earlier execution.
* `Query.callsSupervisor`: the queries that reach the Supervisor.
-/

namespace HomeAddons.Broker

open HomeAddons.Common

/-! ## Queries -/

/-- What a call asks for outside of the database. -/
inductive Query where
  /-- `self._lock.acquire(blocking=False)`. -/
  | acquire
  /-- `self._lock.release()`. -/
  | release
  /-- `self.clock()`. -/
  | clock
  /-- The identifiers of two leases. -/
  | tokens
  /-- `GET /addons/<slug>/info`. -/
  | addonInfo (slug : String)
  /-- `POST /addons/<slug>/restart`. -/
  | restartAddon (slug : String)
  /-- `manager_shadow.shadow_restart(proposal)`. -/
  | shadowRestart (proposal : ProposalDocument)

/-- The reply to a query; an error of a service is its code and its message. -/
abbrev Query.Reply : Query → Type
  | acquire => Bool
  | release => Unit
  | clock => Datetime
  | tokens => String × String
  | addonInfo _ => Except (String × String) Dict
  | restartAddon _ => Except (String × String) Unit
  | shadowRestart _ => Except (String × String) Dict

/-- The query is a call of the Supervisor. -/
def Query.callsSupervisor : Query → Bool
  | addonInfo _ | restartAddon _ => true
  | _ => false

/-- What `execute` returns; `replayed` is the flag that it adds. -/
structure ExecutionResult where
  document : ExecutionDocument
  replayed : Bool

/-- A call of the manager. -/
abbrev Prog := Program Store Query Query.Reply (Except Raise ExecutionResult)

/-- `raise e`. -/
def raise (e : Raise) : Prog := .done (.error e)

/-- A step that may raise. -/
def check {α : Type} (x : Except Raise α) (next : α → Prog) : Prog :=
  match x with
  | .ok a => next a
  | .error e => raise e

/-- A method of the store. -/
def call {α : Type} (t : Transaction α) (next : α → Prog) : Prog :=
  .transact (fun s => (t s).1) fun s => check (t s).2 next

/-- `except SupervisorError as exc: raise AuthorizationError(exc.code, str(exc))`. -/
def supervised {α : Type} : Except (String × String) α → Except Raise α
  | .ok a => .ok a
  | .error (code, message) => .error (.authorization code message)

/-! ## The manager -/

/-- What an `ExecutionManager` is configured with. -/
structure Settings where
  executionEnabled : Bool
  enabledActions : List String
  restartAddonAllowlist : List String
  policyEpoch : ℤ
  policyHash : String
  adapterVersion : String
  adapterSchemaVersion : ℤ
  managerShadow : Bool
  instanceId : String
  leaseTtlSeconds : ℕ

/-- `addon_baseline_etag(observation)` (`contract.py`, lines 168–189). -/
def addonBaselineEtag (observation : Dict) : Except Raise String := do
  let field (key : String) : Json := observation.get key
  ensure ((∀ key ∈ ["slug", "state", "version"], (field key).asStr?.any fun s => s ≠ "") ∧
      (field "installed").asBool?.isSome)
    (.contract "baseline_invalid" "Add-on baseline fields are incomplete")
  let selected : Json := .obj (["slug", "state", "version", "installed"].map fun key => (key, field key))
  return "sha256:" ++ sha256Hex (canonical selected)

/-- The add-on is the one of the proposal, started and not uninstalled. -/
def isStarted (observation : Dict) (target : String) : Bool :=
  (observation.get "slug").eqStr target && (observation.get "state").eqStr "started" &&
    (observation.get "installed").asBool? ≠ some false

/-- The first setting that differs from the proposal (lines 106–123). -/
def Settings.drift (cfg : Settings) (b : Binding) : Option String :=
  if b.policyEpoch ≠ cfg.policyEpoch then some "policy_changed"
  else if b.policyHash ≠ cfg.policyHash then some "policy_changed"
  else if b.allowlistHash ≠ allowlistFingerprint cfg.restartAddonAllowlist then
    some "allowlist_changed"
  else if b.adapterVersion ≠ cfg.adapterVersion then some "adapter_changed"
  else if b.adapterSchemaVersion ≠ cfg.adapterSchemaVersion then some "adapter_changed"
  else none

/-- The checks of the proposal (lines 88–127). -/
def Settings.checkProposal (cfg : Settings) (v : ExecutionRequest) (p : ProposalDocument) :
    Except Raise Unit := do
  ensure (p.expired = false) (.authorization "proposal_expired" "Operation proposal expired")
  ensure (p.row.actionType = "restart_addon" ∧ p.row.proposalHash = v.proposalHash ∧
      p.row.idempotencyKey = v.idempotencyKey)
    (.authorization "proposal_mismatch" "Execution request does not match the proposal")
  ensure (p.row.proposalVersion = 2)
    (.authorization "proposal_version_changed" "Executable proposal version is unsupported")
  match cfg.drift p.row.binding with
  | some code => .error (.authorization code "Operation binding changed before execution")
  | none =>
    ensure (p.row.target ∈ cfg.restartAddonAllowlist)
      (.authorization "target_not_allowlisted" "Add-on target is not allowlisted")

/-! ## After the claim (lines 193–279) -/

/-- `update_execution` at the time of the clock, and its document as the result. -/
def finishWith (actionId : String) (expected state : ExecutionState)
    (preflight postflight : Option Json) (errorCode : Option String) : Prog :=
  .ask .clock fun now =>
  call (atomic (Store.updateExecution actionId [expected] state now preflight postflight errorCode
    true)) fun document =>
  .done (.ok ⟨document, false⟩)

/-- `_fail_before_write(action_id, error_code, preflight=preflight)` (lines 306–323). -/
def failBeforeWrite (actionId errorCode : String) (preflight : Option Json) : Prog :=
  finishWith actionId .authorized .failed preflight none (some errorCode)

/-- `update_execution` to a state in between, followed by a heartbeat. -/
def Settings.proceed (cfg : Settings) (actionId : String) (expected state : ExecutionState)
    (preflight : Option Json) (next : Prog) : Prog :=
  .ask .clock fun now =>
  call (atomic (Store.updateExecution actionId [expected] state now preflight none none false))
    fun _ =>
  .ask .clock fun beat =>
  call (atomic (Store.heartbeatExecutionLeases actionId cfg.instanceId beat cfg.leaseTtlSeconds))
    fun _ => next

/-- The restart of a claimed execution; `before` was observed before the claim. -/
def Settings.perform (cfg : Settings) (claimed : ExecutionDocument) (before : Dict) : Prog :=
  let actionId := claimed.actionId
  let target := claimed.target
  let baseline := claimed.bound.map fun b => b.1.baselineEtag
  if claimed.actionType ≠ "restart_addon" then failBeforeWrite actionId "unsupported_action" none
  else .ask (.addonInfo target) fun revalidated =>
  match revalidated with
  | .error (code, _) => failBeforeWrite actionId code none
  | .ok revalidated =>
  match addonBaselineEtag revalidated with
  | .error (.contract code _) => failBeforeWrite actionId code none
  | .error e => raise e
  | .ok etag =>
  if !isStarted revalidated target ∨ some etag ≠ baseline then
    failBeforeWrite actionId "preflight_revalidation_changed" (some (.obj revalidated))
  else cfg.proceed actionId .authorized .executing (some (.obj revalidated)) <|
  .ask (.restartAddon target) fun restarted =>
  match restarted with
  | .error (code, _) => finishWith actionId .executing .recoveryRequired none none (some code)
  | .ok _ => cfg.proceed actionId .executing .verifying none <|
  .ask (.addonInfo target) fun after =>
  match after with
  | .error (code, _) => finishWith actionId .verifying .recoveryRequired none none (some code)
  | .ok after =>
  if (after.get "slug").eqStr target ∧ (after.get "state").eqStr "started" ∧
      (after.get "version").pyEq (before.get "version") then
    finishWith actionId .verifying .succeeded none (some (.obj after)) none
  else finishWith actionId .verifying .recoveryRequired none (some (.obj after))
    (some "postflight_mismatch")

/-! ## The claim (lines 140–192) -/

/-- The observation of the Manager Executor, where there is one (lines 168–183). -/
def Settings.shadow (cfg : Settings) (p : ProposalDocument) (baseline : String) (next : Prog) :
    Prog :=
  if cfg.managerShadow then
    .ask (.shadowRestart p) fun reply =>
    check (supervised reply) fun shadow =>
    check (authorized (addonBaselineEtag ((shadow.get "observation").asDict?.getD []))) fun etag =>
    check (ensure (etag = baseline) (.authorization "manager_shadow_mismatch"
      "Manager Executor observation differs from the Broker baseline")) fun _ => next
  else next

/-- What follows where no execution is there yet. -/
def Settings.carryOut (cfg : Settings) (v : ExecutionRequest) (p : ProposalDocument) : Prog :=
  let target := p.row.target
  call (atomic Store.assertExecutionInterlockClear) fun _ =>
  .ask .clock fun now =>
  check (parseTimestamp (.str (PyStr.ofString p.row.expiresAt)) "proposal.expires_at")
    fun validUntil =>
  call (atomic (Store.assertBackupEvidenceValid p.row.binding.backupEvidenceId ["addon", "full"]
    p.row.binding.baselineEtag now.1 validUntil)) fun _ =>
  .ask (.addonInfo target) fun reply =>
  check (supervised reply) fun before =>
  check (ensure (isStarted before target)
    (.authorization "preflight_state_invalid" "Add-on preflight state is invalid")) fun _ =>
  check (authorized (addonBaselineEtag before)) fun baseline =>
  check (ensure (baseline = p.row.binding.baselineEtag)
    (.authorization "baseline_changed" "Add-on baseline changed before execution")) fun _ =>
  cfg.shadow p baseline <|
  .ask .tokens fun tokens =>
  .ask .clock fun claimedAt =>
  let claim : Claim := {
    receiptId := v.receiptId
    actionId := v.actionId
    proposalHash := v.proposalHash
    idempotencyKey := v.idempotencyKey
    binding := {
      policyEpoch := cfg.policyEpoch
      policyHash := cfg.policyHash
      allowlistHash := allowlistFingerprint cfg.restartAddonAllowlist
      adapterVersion := cfg.adapterVersion
      adapterSchemaVersion := cfg.adapterSchemaVersion
      baselineEtag := baseline
      backupEvidenceId := p.row.binding.backupEvidenceId }
    instanceId := cfg.instanceId
    leaseTtlSeconds := cfg.leaseTtlSeconds }
  call (Store.claimExecution claim claimedAt tokens) fun (claimed, replayed) =>
  if replayed then .done (.ok ⟨claimed, true⟩) else cfg.perform claimed before

/-! ## The call (lines 71–139) -/

/-- What is done under the lock. -/
def Settings.underLock (cfg : Settings) (v : ExecutionRequest) : Prog :=
  .ask .clock fun now =>
  call (atomic (Store.getNativeProposal v.actionId now)) fun proposal =>
  check (cfg.checkProposal v proposal) fun _ =>
  .transact id fun s =>
  match s.getExecution v.actionId with
  | .ok (_, existing) =>
    check (ensure (existing.receiptId = v.receiptId ∧ existing.proposalHash = v.proposalHash ∧
        existing.idempotencyKey = v.idempotencyKey)
      (.authorization "execution_conflict" "Action already has another execution claim")) fun _ =>
    .done (.ok ⟨existing, true⟩)
  | .error (.authorization "execution_not_found" _) => cfg.carryOut v proposal
  | .error e => raise e

/-- `execute(request)`. -/
def Settings.execute (cfg : Settings) (request : Value) : Prog :=
  check (authorized (validateExecutionRequest request)) fun v =>
  if !cfg.executionEnabled then
    raise (.authorization "execution_disabled" "Operation execution is disabled")
  else if "restart_addon" ∉ cfg.enabledActions then
    raise (.authorization "action_disabled" "restart_addon is not enabled")
  else .ask .acquire fun (acquired : Bool) =>
  if !acquired then raise (.authorization "execution_busy" "Another operation is executing")
  else (cfg.underLock v).bind fun result => .ask .release fun _ => .done result

end HomeAddons.Broker
