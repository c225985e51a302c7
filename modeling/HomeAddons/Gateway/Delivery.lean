import HomeAddons.Common.History
import HomeAddons.Gateway.Inbox
import HomeAddons.Gateway.Owner

/-!
# Weixin Gateway: from the queue to the recipient

Stored messages are submitted to the Controller under the authority that their sender still has,
and the answer of the job is sent when both locks are held and the authority was looked at again.
The steps of a run are those between two points at which other tasks may go on: a delivery that
waits for its locks, sends its pieces one after the other or gives up, pollers that are started and
stopped, sessions that expire, restarts, transfers of the owner and changes of a user.

* `Aside`, `Quiet`: what the steps on runtimes and on the directory leave alone.
-/

namespace HomeAddons.Gateway

open HomeAddons.Common

/-! ## Authority -/

/-- A message as the delivery loop reads it from `inbound_messages`. -/
structure QueuedMessage where
  messageId : String
  userHash : Option String
  capabilityProfile : CapabilityProfile
  identityId : Option String
  principalId : Option String
  state : MessageState
  jobId : Option String
  errorCode : Option String

/-- The profile of a role. -/
def Role.profile : Role → CapabilityProfile
  | .owner => .owner
  | .member => .memberReadOnly

namespace GatewayStore

variable (g : GatewayStore)

/-- `authorize_stored_message(digest, capability_profile)` (lines 2409–2432): the effective profile,
    or the error code. -/
def authorizeStoredMessage (digest : Option String) (profile : CapabilityProfile) :
    Except String CapabilityProfile :=
  match digest.filter fun h => h ≠ "" with
  | none => if profile = .ownerLegacy then .ok .ownerLegacy else .error "message_user_missing"
  | some h =>
    match g.userByHash h with
    | some u =>
      if u.status = .active then
        .ok (if profile = .memberReadOnly ∨ u.role.profile = .memberReadOnly then .memberReadOnly
          else .owner)
      else .error "message_user_inactive"
    | none => .error "message_user_inactive"

/-- `identity_route_for_principal(principal_id)`, with `include_inactive` or without
    (lines 1386–1404). -/
def identityRouteForPrincipal (principalId : String) (includeInactive : Bool) :
    Option (Identity × Binding) := do
  let b ← g.bindings.get? principalId
  if includeInactive ∨ b.state = .active then
    let i ← g.identities.get? b.identityId
    return (i, b)
  else none

/-- `_authorization_suppression(message)` of an ordinary message (lines 2184–2206), which names no
    role that it requires. -/
def authorizationSuppression (m : QueuedMessage) : Option String :=
  match g.authorizeStoredMessage m.userHash m.capabilityProfile with
  | .error "message_user_inactive" => some "reply_suppressed_user_inactive"
  | .error _ => some "reply_suppressed_authorization_invalid"
  | .ok _ =>
    if m.identityId.any (· ≠ "") ∨ m.principalId.any (· ≠ "") then
      match g.identityRouteForPrincipal (m.principalId.getD "") false with
      | some (i, _) =>
        if m.identityId = some i.identityId ∧ i.state = .active then none
        else some "reply_suppressed_identity_unavailable"
      | none => some "reply_suppressed_identity_unavailable"
    else none

/-- The sender of the message is the active owner. -/
def ownedBySender (m : QueuedMessage) : Bool :=
  (m.userHash.filter fun h => h ≠ "").any fun h =>
    (g.userByHash h).any fun u => u.role = .owner ∧ u.status = .active

/-- The sender of the message is an active user, and bound to the identity that it names. -/
def boundSender (m : QueuedMessage) : Bool :=
  (g.authorizeStoredMessage m.userHash m.capabilityProfile).toOption.isSome &&
    m.identityId.any (· ≠ "") &&
    (g.identityRouteForPrincipal (m.principalId.getD "") false).any fun r =>
      m.identityId = some r.1.identityId

end GatewayStore

/-! ## Runtimes -/

/-- `IDENTITY_RUNTIME_STATES`. -/
inductive PollerState where
  | disabled
  | stopped
  | starting
  | pairing
  | polling
  | sessionExpired
  | tokenConflict
  | error
  deriving DecidableEq

def PollerState.text : PollerState → String
  | .disabled => "disabled"
  | .stopped => "stopped"
  | .starting => "starting"
  | .pairing => "pairing"
  | .polling => "polling"
  | .sessionExpired => "session_expired"
  | .tokenConflict => "token_conflict"
  | .error => "error"

def pollerStates : List PollerState :=
  [.disabled, .stopped, .starting, .pairing, .polling, .sessionExpired, .tokenConflict, .error]

/-- `str(record["runtime_state"] or "stopped")`. -/
def PollerState.ofText (text : String) : PollerState :=
  (pollerStates.find? fun s => s.text = text).getD .stopped

/-- An `IdentityRuntime`; `polling` says whether its poll task runs. -/
structure Runtime where
  identityId : String
  pollerState : PollerState
  polling : Bool

/-- The fields of the service about its own identity, which is the owner's, and the runtimes. -/
structure Service where
  identity : Option String
  pollerState : PollerState
  pollerEnabled : Bool
  ownerPairingEnabled : Bool
  runtimes : Table Runtime.identityId

/-- Where the delivery loop is: it waits for the locks of a message whose reply has some number of
    chunks, or it holds them and has sent some number of pieces. -/
inductive Phase where
  | idle
  | waiting (messageId : String) (chunks : ℕ)
  | sending (messageId : String) (chunks pieces : ℕ)
  deriving DecidableEq

/-- What was done, with what is known of the sender at that moment: the profile of its role, whether
    it is active and bound, whether it is the active owner. -/
inductive DeliveryEvent where
  | submitted (messageId : String) (profile stored : CapabilityProfile)
      (current : Option CapabilityProfile)
  | rejected (messageId : String)
  | suppressed (messageId reason : String) (bound : Bool)
  | sent (messageId : String) (toOwner : Bool)
  | finished (messageId : String) (chunks : ℕ)
  deriving DecidableEq

structure DeliveryWorld where
  store : GatewayStore
  service : Service
  messages : Table QueuedMessage.messageId
  phase : Phase
  log : List DeliveryEvent

namespace DeliveryWorld

variable (w : DeliveryWorld)

/-- `_set_runtime_state(runtime, poller_state, error_code=…, identity_state=…)` (lines 884–906); an
    identity that the store does not have is passed over. -/
def setRuntimeState (identityId : String) (state : PollerState) (errorCode : Option String)
    (identityState : Option IdentityState) (now : String) : DeliveryWorld :=
  { w with
    service := { w.service with
      pollerState := if w.service.identity = some identityId then state else w.service.pollerState
      runtimes := w.service.runtimes.update identityId (fun r => { r with pollerState := state })
        (by intro _; rfl) }
    store := w.store.setIdentityRuntimeState identityId state.text errorCode identityState now }

def setPolling (identityId : String) (polling : Bool) : DeliveryWorld :=
  { w with service := { w.service with
      runtimes := w.service.runtimes.update identityId (fun r => { r with polling })
        (by intro _; rfl) } }

/-- `_runtime_for_identity(identity_identifier)` (lines 866–882): the runtime of the owner takes
    over the state that the service has; `none` is the exception. -/
def runtimeForIdentity (identityId : Option String) : Option (DeliveryWorld × Runtime) := do
  let id ← identityId <|> w.service.identity
  let r ← w.service.runtimes.get? id
  if w.service.identity = some id then
    let r := { r with pollerState := w.service.pollerState }
    return ({ w with service := { w.service with runtimes := w.service.runtimes.upsert r } }, r)
  else return (w, r)

/-- The answer `-14` of iLink, to the poller of an identity or to another request. -/
def expireSession (identityId : String) (toPoller : Bool) (now : String) : DeliveryWorld :=
  match w.service.runtimes.get? identityId with
  | none => w
  | some r => (w.setRuntimeState identityId .sessionExpired (some "session_expired")
      (some .sessionExpired) now).setPolling identityId (r.polling && !toPoller)

/-! ## Pollers -/

/-- The loop of `_stop_pollers_unlocked` over the runtimes. -/
def stopRuntimes (now : String) : List String → DeliveryWorld → DeliveryWorld
  | [], w => w
  | id :: ids, w =>
    stopRuntimes now ids ((w.setPolling id false).setRuntimeState id .stopped none none now)

/-- `_stop_pollers_unlocked()` (lines 764–782). -/
def stopPollers (now : String) : DeliveryWorld :=
  let w := stopRuntimes now (w.service.runtimes.rows.map Runtime.identityId) w
  { w with service := { w.service with pollerState := .stopped } }

/-- The loop of `_start_pollers_unlocked`: `conflicts` are the identities whose token lock is held
    elsewhere, `unpaired` those without an allowed user. -/
def startRuntimes (conflicts unpaired : List String) (now : String) :
    List String → DeliveryWorld → DeliveryWorld
  | [], w => w
  | id :: ids, w =>
    if (w.service.runtimes.get? id).any Runtime.polling then
      startRuntimes conflicts unpaired now ids w
    else
      match w.store.identities.get? id with
      | none => w
      | some record =>
        if record.state = .active ∨ record.state = .pendingPairing then
          if id ∈ conflicts then
            startRuntimes conflicts unpaired now ids
              (w.setRuntimeState id .tokenConflict (some "token_lock_conflict") none now)
          else
            let state :=
              if record.state = .pendingPairing ∨ id ∈ unpaired then .pairing else .polling
            startRuntimes conflicts unpaired now ids
              ((w.setRuntimeState id state none none now).setPolling id true)
        else startRuntimes conflicts unpaired now ids w

/-- `_start_pollers_unlocked()` (lines 735–762). -/
def startPollers (conflicts unpaired : List String) (now : String) : DeliveryWorld :=
  match w.service.identity with
  | none => { w with service := { w.service with pollerState := .disabled } }
  | some identity =>
    if identity ∈ unpaired ∧ w.service.ownerPairingEnabled = false then w
    else startRuntimes conflicts unpaired now (w.service.runtimes.rows.map Runtime.identityId) w

/-! ## Restarts -/

/-- The identity that the service finds when it starts. -/
structure Boot where
  identityId : String
  accountHash : String
  allowedUserIds : List String

/-- What `__init__` does with the store (lines 481–493). -/
def bootStore (cfg : Config) (env : Env) (boot : Option Boot) (g : GatewayStore) :
    Except Raise GatewayStore :=
  match boot with
  | none => .ok g
  | some b => do
    let (g, _) ← g.migrateIdentityAllowlist cfg env b.allowedUserIds
    let (g, _) ← g.migrateLegacyIdentity env b.identityId b.accountHash
    return g

/-- A round of `_load_secondary_runtimes` (lines 838–864). -/
def loadRuntime (g : GatewayStore) (runtimes : Table Runtime.identityId) (identityId : String) :
    Table Runtime.identityId :=
  match runtimes.get? identityId, g.identities.get? identityId with
  | none, some record =>
    if record.state = .revoked then runtimes
    else runtimes.upsert ⟨identityId, PollerState.ofText record.runtimeState, false⟩
  | _, _ => runtimes

/-- The runtimes of a new process: the owner's, and one for every other identity on disk. -/
def bootRuntimes (g : GatewayStore) (boot : Option Boot) (onDisk : List String) :
    Table Runtime.identityId :=
  onDisk.foldl (loadRuntime g)
    (match boot with
      | none => Table.empty
      | some b => Table.empty.upsert ⟨b.identityId, .disabled, false⟩)

/-- A new process, after `stop()` or without it. A service whose start raises has no runtimes. -/
def restart (cfg : Config) (env : Env) (clean : Bool) (boot : Option Boot) (onDisk : List String) :
    DeliveryWorld :=
  let w := if clean then w.stopPollers (env.now 0) else w
  match bootStore cfg env boot w.store with
  | .ok g =>
    { w with
      store := g
      service := { w.service with
        identity := boot.map Boot.identityId
        pollerState := .disabled
        runtimes := bootRuntimes g boot onDisk }
      phase := .idle }
  | .error _ =>
    { w with
      service := { w.service with
        identity := none, pollerState := .disabled, runtimes := Table.empty }
      phase := .idle }

/-! ## Changes of the directory -/

/-- The authorization lock is held while a message is sent. -/
def isSending : Bool :=
  match w.phase with
  | .sending _ _ _ => true
  | _ => false

/-- The identity of the active owner, `owner_identity_route()`. -/
def ownerIdentityRoute (g : GatewayStore) : Option Identity := do
  let owner ← g.users.rows.find? fun u => u.role = .owner ∧ u.status = .active
  let (i, _) ← g.identityRouteForPrincipal owner.principalId false
  if i.state = .revoked then none else return i

/-- A transfer that the store carried out: the service goes over to the runtime of the new owner, or
    has the store take the transfer back. -/
def mirrorOwner (g : GatewayStore) (previous target requestId now : String) (mirrored : Bool) :
    DeliveryWorld :=
  let runtime := (g.identityRouteForPrincipal target false).bind fun r =>
    if r.1.state = .active ∧ mirrored then w.service.runtimes.get? r.1.identityId else none
  match runtime with
  | some r =>
    { w with
      store := g
      service := { w.service with identity := some r.identityId, pollerState := r.pollerState } }
  | none =>
    match g.restoreOwnerAfterMirrorFailure previous target requestId now with
    | .ok g => { w with store := g }
    | .error _ => { w with store := g }

/-- `GatewayService.transfer_owner(payload)` (lines 3024–3082); `mirrored` says whether the identity
    files could be written. -/
def transferOwner (cfg : Config) (env : Env) (targetWxShort : String) (expected requestId : Json)
    (confirmation : String) (mirrored : Bool) : DeliveryWorld :=
  let route := if w.service.identity.isSome then ownerIdentityRoute w.store else none
  match route.bind fun i => w.runtimeForIdentity (some i.identityId) with
  | none => w
  | some (w, _) =>
    match w.store.transferOwner cfg env targetWxShort expected requestId confirmation with
    | .error _ => w
    | .ok (g, _, _) =>
      match w.store.transferred cfg env
          (.transferOwner targetWxShort expected requestId confirmation) with
      | none => { w with store := g }
      | some (previous, target) =>
        w.mirrorOwner g previous target (requestId.asStr?.getD "") (env.now 0) mirrored

/-- `_stop_identity_runtime(runtime)` (lines 1096–1104). -/
def stopIdentityRuntime (identityId now : String) : DeliveryWorld :=
  (w.setPolling identityId false).setRuntimeState identityId .stopped none none now

/-- `_resume_identity_runtime(runtime)` (lines 1106–1130). -/
def resumeIdentityRuntime (identityId : String) (conflict unpaired : Bool) (now : String) :
    DeliveryWorld :=
  if w.service.pollerEnabled = false then w.setRuntimeState identityId .stopped none none now
  else if (w.service.runtimes.get? identityId).any Runtime.polling then w
  else if conflict then
    w.setRuntimeState identityId .tokenConflict (some "token_lock_conflict") none now
  else
    match w.store.identities.get? identityId with
    | none => w
    | some record =>
      let pairing := record.state = .pendingPairing ∨ unpaired = true
      (w.setRuntimeState identityId (if pairing then .pairing else .polling) none
        (some (if pairing then .pendingPairing else .active)) now).setPolling identityId true

/-- `_discard_identity_runtime(runtime)` (lines 1137–1150). -/
def discardIdentityRuntime (identityId : String) : DeliveryWorld :=
  { w with service := { w.service with runtimes := w.service.runtimes.erase identityId } }

/-- `GatewayService.change_user_state(…)` (lines 2995–3022). -/
def changeUserState (cfg : Config) (env : Env) (action : UserAction) (wxShort : String)
    (expected requestId : Json) (conflict unpaired : Bool) : DeliveryWorld :=
  match w.store.userByShort cfg wxShort with
  | .error _ => w
  | .ok user =>
    let route := w.store.identityRouteForPrincipal user.principalId true
    match w.store.changeUserState cfg env action wxShort expected requestId with
    | .error _ => w
    | .ok (g, _, _) =>
      let w := { w with store := g }
      match route with
      | none => w
      | some (i, b) =>
        if b.bindingType = .primary ∧ (w.service.runtimes.get? i.identityId).isSome then
          match action with
          | .revoke => w.discardIdentityRuntime i.identityId
          | .suspend => w.stopIdentityRuntime i.identityId (env.now 0)
          | .resume => w.resumeIdentityRuntime i.identityId conflict unpaired (env.now 0)
          | .rename _ => w
        else w

/-! ## The delivery loop -/

def setMessage (messageId : String) (state : MessageState) (jobId errorCode : Option String) :
    DeliveryWorld :=
  { w with
    messages := w.messages.update messageId
      (fun m => { m with state, jobId := jobId <|> m.jobId, errorCode }) (by intro _; rfl) }

def note (e : DeliveryEvent) : DeliveryWorld := { w with log := w.log ++ [e] }

/-- How a submission ends: the Controller refuses it, takes it, or takes it and the process ends
    before the row is marked. -/
inductive Submission where
  | refused
  | taken (jobId : String)
  | unmarked

/-- `mark_submitted`, or what happens in its place. -/
def submission (messageId : String) : Submission → DeliveryWorld
  | .refused => w
  | .taken jobId => w.setMessage messageId .controllerSubmitted (some jobId) none
  | .unmarked => w

/-- The profile of the role that the sender has now. -/
def currentProfile (m : QueuedMessage) : Option CapabilityProfile :=
  (m.userHash.filter fun h => h ≠ "").bind fun h =>
    (w.store.userByHash h).map fun u => u.role.profile

/-- A round of the loop over the pending messages (lines 1735–1790). A member's message is not
    submitted to a Controller that knows no profiles. -/
def submit (messageId : String) (profileSupported : Bool) (outcome : Submission) : DeliveryWorld :=
  match w.messages.get? messageId with
  | none => w
  | some m =>
    if m.state = .pendingController then
      match w.store.authorizeStoredMessage m.userHash m.capabilityProfile with
      | .error code =>
        (w.setMessage messageId .failed none (some code)).note (.rejected messageId)
      | .ok profile =>
        if profile = .memberReadOnly ∧ profileSupported = false then
          (w.setMessage messageId .failed none (some "controller_capability_incompatible")).note
            (.rejected messageId)
        else
          match outcome with
          | .refused => w
          | _ => (w.submission messageId outcome).note
              (.submitted messageId profile m.capabilityProfile (w.currentProfile m))
    else w

/-- The start of `_send_result` and of `_send_artifact_result_locked`: the runtime is looked up, and
    a session that it knows to be expired ends the attempt. -/
def deliver (messageId : String) (chunks : ℕ) : DeliveryWorld :=
  match w.messages.get? messageId with
  | none => w
  | some m =>
    if m.state = .controllerSubmitted then
      match w.runtimeForIdentity m.identityId with
      | none => w
      | some (w, r) =>
        if r.pollerState = .sessionExpired then w
        else { w with phase := .waiting messageId chunks }
    else w

/-- Both locks are held: the authority is looked at again, and the message may be marked as
    finished without a reply. -/
def authorize : DeliveryWorld :=
  match w.phase with
  | .waiting messageId chunks =>
    match w.messages.get? messageId with
    | none => { w with phase := .idle }
    | some m =>
      match w.store.authorizationSuppression m with
      | none => { w with phase := .sending messageId chunks 0 }
      | some reason =>
        let w' := (w.setMessage messageId .failed none (some reason)).note
          (.suppressed messageId reason (w.store.boundSender m))
        { w' with phase := .idle }
  | _ => w

/-- A chunk is sent, and after the chunks a picture or a link. -/
def send : DeliveryWorld :=
  match w.phase with
  | .sending messageId chunks pieces =>
    match w.messages.get? messageId with
    | none => w
    | some m =>
      let w' := w.note (.sent messageId (w.store.ownedBySender m))
      { w' with phase := .sending messageId chunks (pieces + 1) }
  | _ => w

/-- The attempt ends with an exception: the locks are given back, and the row stays. -/
def abort : DeliveryWorld := { w with phase := .idle }

/-- The chunks were sent: the row is marked, with an error code if the job failed or a link could
    not be written. -/
def finish (errorCode : Option String) : DeliveryWorld :=
  match w.phase with
  | .sending messageId chunks pieces =>
    if chunks ≤ pieces then
      let state := if errorCode = none then MessageState.completed else .failed
      let w' := (w.setMessage messageId state none errorCode).note (.finished messageId chunks)
      { w' with phase := .idle }
    else w
  | _ => w

/-! ## Runs -/

inductive DeliveryStep where
  | receive (m : QueuedMessage)
  | submit (messageId : String) (profileSupported : Bool) (outcome : Submission)
  | deliver (messageId : String) (chunks : ℕ)
  | authorize
  | send
  | abort
  | finish (errorCode : Option String)
  | expire (identityId : String) (toPoller : Bool) (now : String)
  | startPollers (conflicts unpaired : List String) (now : String)
  | stopPollers (now : String)
  | enablePollers (enabled : Bool)
  | restart (env : Env) (clean : Bool) (boot : Option Boot) (onDisk : List String)
  | transferOwner (env : Env) (targetWxShort : String) (expected requestId : Json)
      (confirmation : String) (mirrored : Bool)
  | changeUserState (env : Env) (action : UserAction) (wxShort : String)
      (expected requestId : Json) (conflict unpaired : Bool)

/-- A message of an active sender is stored with the profile of its role. -/
def receive (m : QueuedMessage) : DeliveryWorld :=
  let m := { m with state := .pendingController, jobId := none, errorCode := none }
  match w.messages.insert? m with
  | some messages => { w with messages }
  | none => w

/-- One task submits and delivers. Two other steps need the authorization lock, and wait while a
    message is sent. -/
def step (cfg : Config) (w : DeliveryWorld) : DeliveryStep → DeliveryWorld
  | .receive m => w.receive m
  | .submit messageId profileSupported outcome =>
    if w.phase = .idle then w.submit messageId profileSupported outcome else w
  | .deliver messageId chunks => if w.phase = .idle then w.deliver messageId chunks else w
  | .authorize => w.authorize
  | .send => w.send
  | .abort => w.abort
  | .finish errorCode => w.finish errorCode
  | .expire identityId toPoller now => w.expireSession identityId toPoller now
  | .startPollers conflicts unpaired now => w.startPollers conflicts unpaired now
  | .stopPollers now => w.stopPollers now
  | .enablePollers enabled => { w with service := { w.service with pollerEnabled := enabled } }
  | .restart env clean boot onDisk => w.restart cfg env clean boot onDisk
  | .transferOwner env targetWxShort expected requestId confirmation mirrored =>
    if w.isSending then w
    else w.transferOwner cfg env targetWxShort expected requestId confirmation mirrored
  | .changeUserState env action wxShort expected requestId conflict unpaired =>
    if w.isSending then w
    else w.changeUserState cfg env action wxShort expected requestId conflict unpaired

variable {w w' : DeliveryWorld}

/-! ## Steps on the runtimes -/

/-- What a step on runtimes and identities leaves as it is. -/
structure Aside (w w' : DeliveryWorld) : Prop where
  messages : w'.messages = w.messages
  phase : w'.phase = w.phase
  log : w'.log = w.log
  users : w'.store.users = w.store.users

theorem Aside.refl (w : DeliveryWorld) : Aside w w := ⟨rfl, rfl, rfl, rfl⟩

variable {w₁ : DeliveryWorld}

theorem Aside.trans (h : Aside w w₁) (h' : Aside w₁ w') : Aside w w' :=
  ⟨h'.messages.trans h.messages, h'.phase.trans h.phase, h'.log.trans h.log,
    h'.users.trans h.users⟩

theorem setRuntimeState_aside (w : DeliveryWorld) (id : String) (state : PollerState)
    (errorCode : Option String) (identityState : Option IdentityState) (now : String) :
    Aside w (w.setRuntimeState id state errorCode identityState now) := ⟨rfl, rfl, rfl, rfl⟩

theorem setPolling_aside (w : DeliveryWorld) (id : String) (polling : Bool) :
    Aside w (w.setPolling id polling) := ⟨rfl, rfl, rfl, rfl⟩

theorem runtimeForIdentity_aside {id : Option String} {r : Runtime}
    (h : w.runtimeForIdentity id = some (w', r)) : Aside w w' := by
  simp only [runtimeForIdentity, Option.bind_eq_bind, Option.bind_eq_some_iff, Option.pure_def]
    at h
  obtain ⟨_, _, _, _, h⟩ := h
  split at h
  · cases h
    exact ⟨rfl, rfl, rfl, rfl⟩
  · cases h
    exact .refl w

theorem expireSession_aside (w : DeliveryWorld) (id : String) (toPoller : Bool) (now : String) :
    Aside w (w.expireSession id toPoller now) := by
  unfold expireSession
  split
  · exact .refl w
  · exact (setRuntimeState_aside _ _ _ _ _ _).trans (setPolling_aside _ _ _)

theorem stopRuntimes_aside (now : String) (ids : List String) (w : DeliveryWorld) :
    Aside w (stopRuntimes now ids w) := by
  induction ids generalizing w with
  | nil => exact .refl w
  | cons id ids ih =>
    exact ((setPolling_aside w id false).trans (setRuntimeState_aside _ _ _ _ _ _)).trans (ih _)

theorem stopPollers_aside (w : DeliveryWorld) (now : String) : Aside w (w.stopPollers now) := by
  have h := stopRuntimes_aside now (w.service.runtimes.rows.map Runtime.identityId) w
  exact ⟨h.messages, h.phase, h.log, h.users⟩

theorem startRuntimes_aside (conflicts unpaired : List String) (now : String) (ids : List String)
    (w : DeliveryWorld) : Aside w (startRuntimes conflicts unpaired now ids w) := by
  induction ids generalizing w with
  | nil => exact .refl w
  | cons id ids ih =>
    unfold startRuntimes
    split
    · exact ih w
    · split
      · exact .refl w
      · split
        · split
          · exact (setRuntimeState_aside _ _ _ _ _ _).trans (ih _)
          · exact ((setRuntimeState_aside _ _ _ _ _ _).trans (setPolling_aside _ _ _)).trans (ih _)
        · exact ih w

theorem startPollers_aside (w : DeliveryWorld) (conflicts unpaired : List String) (now : String) :
    Aside w (w.startPollers conflicts unpaired now) := by
  unfold startPollers
  split
  · exact ⟨rfl, rfl, rfl, rfl⟩
  · split
    · exact .refl w
    · exact startRuntimes_aside _ _ _ _ w

/-- What a change of the directory leaves as it is. -/
structure Quiet (w w' : DeliveryWorld) : Prop where
  messages : w'.messages = w.messages
  phase : w'.phase = w.phase
  log : w'.log = w.log

theorem Aside.quiet (h : Aside w w') : Quiet w w' := ⟨h.messages, h.phase, h.log⟩

theorem Quiet.trans (h : Quiet w w₁) (h' : Quiet w₁ w') : Quiet w w' :=
  ⟨h'.messages.trans h.messages, h'.phase.trans h.phase, h'.log.trans h.log⟩

theorem mirrorOwner_quiet (w : DeliveryWorld) (g : GatewayStore)
    (previous target requestId now : String) (mirrored : Bool) :
    Quiet w (w.mirrorOwner g previous target requestId now mirrored) := by
  unfold mirrorOwner
  dsimp only
  split
  · exact ⟨rfl, rfl, rfl⟩
  · split <;> exact ⟨rfl, rfl, rfl⟩

theorem transferOwner_quiet (w : DeliveryWorld) (cfg : Config) (env : Env) (targetWxShort : String)
    (expected requestId : Json) (confirmation : String) (mirrored : Bool) :
    Quiet w (w.transferOwner cfg env targetWxShort expected requestId confirmation mirrored) := by
  unfold transferOwner
  dsimp only
  split
  · exact ⟨rfl, rfl, rfl⟩
  · rename_i w₁ r hroute
    obtain ⟨_, _, hruntime⟩ := Option.bind_eq_some_iff.mp hroute
    refine (runtimeForIdentity_aside hruntime).quiet.trans ?_
    split
    · exact ⟨rfl, rfl, rfl⟩
    · split
      · exact ⟨rfl, rfl, rfl⟩
      · exact mirrorOwner_quiet _ _ _ _ _ _ _

theorem resumeIdentityRuntime_aside (w : DeliveryWorld) (id : String) (conflict unpaired : Bool)
    (now : String) : Aside w (w.resumeIdentityRuntime id conflict unpaired now) := by
  unfold resumeIdentityRuntime
  split_ifs
  · exact setRuntimeState_aside _ _ _ _ _ _
  · exact .refl w
  · exact setRuntimeState_aside _ _ _ _ _ _
  · split
    · exact .refl w
    · exact (setRuntimeState_aside _ _ _ _ _ _).trans (setPolling_aside _ _ _)

theorem changeUserState_quiet (w : DeliveryWorld) (cfg : Config) (env : Env) (action : UserAction)
    (wxShort : String) (expected requestId : Json) (conflict unpaired : Bool) :
    Quiet w (w.changeUserState cfg env action wxShort expected requestId conflict unpaired) := by
  unfold changeUserState
  split
  · exact ⟨rfl, rfl, rfl⟩
  · dsimp only
    split
    · exact ⟨rfl, rfl, rfl⟩
    · rename_i g _ _ _
      have hstore : Quiet w { w with store := g } := ⟨rfl, rfl, rfl⟩
      split
      · exact hstore
      · split
        · refine hstore.trans ?_
          cases action with
          | revoke => exact ⟨rfl, rfl, rfl⟩
          | suspend =>
            exact ((setPolling_aside _ _ _).trans (setRuntimeState_aside _ _ _ _ _ _)).quiet
          | resume => exact (resumeIdentityRuntime_aside _ _ _ _ _).quiet
          | rename _ => exact ⟨rfl, rfl, rfl⟩
        · exact hstore

theorem restart_messages (w : DeliveryWorld) (cfg : Config) (env : Env) (clean : Bool)
    (boot : Option Boot) (onDisk : List String) :
    (w.restart cfg env clean boot onDisk).messages = w.messages ∧
      (w.restart cfg env clean boot onDisk).phase = .idle ∧
      (w.restart cfg env clean boot onDisk).log = w.log := by
  have h : Aside w (if clean then w.stopPollers (env.now 0) else w) := by
    split_ifs
    · exact stopPollers_aside w _
    · exact .refl w
  unfold restart
  dsimp only
  split
  · exact ⟨h.messages, rfl, h.log⟩
  · exact ⟨h.messages, rfl, h.log⟩

end DeliveryWorld

end HomeAddons.Gateway
