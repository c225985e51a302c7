import HomeAddons.Common.Digest
import HomeAddons.Common.Json
import HomeAddons.Common.Result
import HomeAddons.Common.Table
import HomeAddons.Common.Text

/-!
# Weixin Gateway: the directory tables

The tables of `GatewayStore` (`store.py`) that say who may talk to which ClawBot: users, iLink
identities, the bindings between the two, onboarding sessions and invitations; the constraints of
their schema; and the request table that makes the calls of the administrator idempotent.

A call runs in one `BEGIN IMMEDIATE` transaction: it returns the next state, or raises and leaves
the state alone.
-/

namespace HomeAddons.Gateway

open HomeAddons.Common

/-! ## Exceptions and surroundings -/

/-- `StoreError(code, message, status=…)`. -/
structure StoreError where
  code : String
  message : String
  status : ℕ
  deriving DecidableEq

/-- How a call can end without a value. All but the first are not raised by the store itself. -/
inductive Raise where
  | store (e : StoreError)
  /-- `sqlite3.IntegrityError`. -/
  | integrity
  /-- `TypeError`, from `hmac.compare_digest` of texts that are not ASCII. -/
  | type
  deriving DecidableEq

/-- `raise StoreError(code, message, status=status)`. -/
def raising (code message : String) (status : ℕ) : Raise := .store ⟨code, message, status⟩

/-- `raise StoreError(code, message)`; the default status is 400. -/
def rejecting (code message : String) : Raise := raising code message 400

/-- What a store is opened with: `short_id`, the keyed digest of the display secret. -/
structure Config where
  shortId : String → String → String

/-- What one call reads from outside: the `k`-th `utc_now()`, the text of the time `n` seconds
    later, and what `secrets` returns. -/
structure Env where
  now : ℕ → String
  later : ℤ → String
  /-- `new_principal_id()`. -/
  principalId : String
  /-- `secrets.token_urlsafe(24)`. -/
  token : String
  /-- `secrets.token_hex(16).upper()`. -/
  code : String
  /-- `secrets.token_bytes(16)`. -/
  salt : List UInt8

/-! ## Rows -/

inductive Role where
  | owner | member
  deriving DecidableEq

def Role.text : Role → String
  | .owner => "owner"
  | .member => "member"

/-- `weixin_users.status` and `identity_bindings.state`. -/
inductive Status where
  | active | suspended | revoked
  deriving DecidableEq

def Status.text : Status → String
  | .active => "active"
  | .suspended => "suspended"
  | .revoked => "revoked"

/-- `ilink_identities.state`. -/
inductive IdentityState where
  | active | pendingPairing | paused | sessionExpired | revoked
  deriving DecidableEq

def IdentityState.text : IdentityState → String
  | .active => "active"
  | .pendingPairing => "pending_pairing"
  | .paused => "paused"
  | .sessionExpired => "session_expired"
  | .revoked => "revoked"

inductive BindingType where
  | primary | legacyShared
  deriving DecidableEq

def BindingType.text : BindingType → String
  | .primary => "primary"
  | .legacyShared => "legacy_shared"

/-- `onboarding_sessions.state`. -/
inductive SessionState where
  | waitingQr | pendingPairing | claimed | expired | cancelled | failed | alreadyBound
  deriving DecidableEq

/-- `state IN ('waiting_qr','pending_pairing')`. -/
def SessionState.isOpen (s : SessionState) : Bool := s = .waitingQr ∨ s = .pendingPairing

/-- `pairing_invitations.state`. -/
inductive InvitationState where
  | waiting | claimed | expired | cancelled
  deriving DecidableEq

/-- A row of `weixin_users`. -/
structure WeixinUser where
  userHash : String
  privateUserId : String
  conversationKey : String
  aliasName : String
  role : Role
  status : Status
  revision : ℕ
  createdAt : String
  updatedAt : String
  revokedAt : Option String
  lastSeenAt : Option String
  principalId : String

/-- A row of `ilink_identities`. -/
structure Identity where
  identityId : String
  accountHash : String
  state : IdentityState
  runtimeState : String
  lastError : Option String
  createdAt : String
  updatedAt : String
  lastSeenAt : Option String

/-- A row of `identity_bindings`. -/
structure Binding where
  identityId : String
  principalId : String
  privateUserId : String
  bindingType : BindingType
  state : Status
  createdAt : String
  updatedAt : String

/-- A row of `onboarding_sessions`. The salt is what the Base 64 text of the column stands for, and
    `none` for a text that is no Base 64. -/
structure Session where
  sessionId : String
  targetPrincipalId : Option String
  requestedAlias : String
  codeSalt : Option (List UInt8)
  codeHash : String
  state : SessionState
  identityId : Option String
  accountHash : Option String
  scannedPrivateUserId : Option String
  qrState : String
  lastError : Option String
  attempts : ℕ
  expiresAt : String
  createdAt : String
  updatedAt : String

/-- A row of `pairing_invitations`. -/
structure Invitation where
  inviteId : String
  codeSalt : Option (List UInt8)
  codeHash : String
  state : InvitationState
  expiresAt : String
  claimedUserHash : Option String
  createdAt : String
  updatedAt : String

/-- A row of `conversation_links`. -/
structure ConversationLink where
  userHash : String
  conversationShort : String
  threadShort : Option String
  lastJobShort : Option String
  lastSeenAt : Option String

/-- A row of `admin_mutations`. -/
structure MutationRow where
  requestId : String
  scope : String
  requestDigest : String
  response : Json
  createdAt : String

/-- An identity that is given up before it was bound. -/
def Identity.dropped (runtimeState now : String) (i : Identity) : Identity :=
  { i with state := .revoked, runtimeState := runtimeState, updatedAt := now }

/-- The state of an identity whose primary binding gets this state. -/
def Status.identityState : Status → IdentityState
  | .active => .active
  | .suspended => .paused
  | .revoked => .revoked

def Identity.following (state : Status) (now : String) (i : Identity) : Identity :=
  { i with state := state.identityState, runtimeState := "stopped", updatedAt := now }

/-! ## The database -/

/-- The database. The rows of `weixin_users` are looked up by their principal, which is as unique
    as their hash. -/
structure GatewayStore where
  usersRevision : ℕ
  users : Table WeixinUser.principalId
  identities : Table Identity.identityId
  bindings : Table Binding.principalId
  sessions : Table Session.sessionId
  invitations : Table Invitation.inviteId
  links : Table ConversationLink.userHash
  mutations : Table MutationRow.requestId

namespace GatewayStore

variable (g : GatewayStore)

/-- `SELECT * FROM weixin_users WHERE user_hash=?`. -/
def userByHash (userHash : String) : Option WeixinUser :=
  g.users.rows.find? fun u => u.userHash = userHash

/-- `SELECT COUNT(*) FROM weixin_users WHERE status!='revoked'`. -/
def userCount : ℕ := (g.users.rows.filter fun u => u.status ≠ .revoked).length

/-- `INSERT INTO weixin_users`, with its unique columns and the index of the single owner. -/
def insertUser (u : WeixinUser) : Except Raise GatewayStore := do
  ensure (∀ v ∈ g.users.rows, v.userHash ≠ u.userHash ∧ v.privateUserId ≠ u.privateUserId ∧
    v.conversationKey ≠ u.conversationKey ∧ ¬ (v.role = .owner ∧ u.role = .owner)) .integrity
  let users ← orRaise (g.users.insert? u) .integrity
  return { g with users := users }

/-- `INSERT INTO conversation_links`. -/
def insertLink (link : ConversationLink) : Except Raise GatewayStore := do
  ensure (g.userByHash link.userHash ≠ none ∧
    ∀ l ∈ g.links.rows, l.conversationShort ≠ link.conversationShort) .integrity
  let links ← orRaise (g.links.insert? link) .integrity
  return { g with links := links }

/-- `INSERT INTO ilink_identities … ON CONFLICT(identity_id) DO UPDATE`: the row that is there is
    rewritten by `f`, and the account hash of a row is unique. -/
def upsertIdentity (row : Identity) (f : Identity → Identity) : Except Raise GatewayStore := do
  ensure (∀ i ∈ g.identities.rows, i.identityId ≠ row.identityId → i.accountHash ≠ row.accountHash)
    .integrity
  let row := ((g.identities.get? row.identityId).map f).getD row
  return { g with identities := g.identities.upsert row }

/-- The constraints on a new or changed row of `identity_bindings`: the identity is there, and no
    other principal has the sender. -/
def bindable (b : Binding) : Bool :=
  (g.identities.get? b.identityId).isSome ∧ ∀ c ∈ g.bindings.rows, c.principalId ≠ b.principalId →
    ¬ (c.identityId = b.identityId ∧ c.privateUserId = b.privateUserId)

/-- An `UPDATE` of the row of the principal in `identity_bindings`, or `ON CONFLICT(principal_id)
    DO UPDATE`. -/
def putBinding (b : Binding) : Except Raise GatewayStore := do
  ensure (g.bindable b) .integrity
  return { g with bindings := g.bindings.upsert b }

/-- `INSERT INTO identity_bindings`. -/
def insertBinding (b : Binding) : Except Raise GatewayStore := do
  ensure (g.bindings.get? b.principalId = none) .integrity
  g.putBinding b

/-- `UPDATE ilink_identities SET state='revoked',runtime_state=?,… WHERE identity_id=? AND
    state='pending_pairing'`. -/
def dropPending (identityId : String) (f : Identity → Identity)
    (hf : ∀ i, (f i).identityId = i.identityId := by intro _; rfl) : GatewayStore :=
  let pending := fun i : Identity => decide (i.identityId = identityId ∧ i.state = .pendingPairing)
  { g with identities := g.identities.updateWhere pending f hf }

/-- `_next_users_revision(connection)`; the new revision is `g.usersRevision + 1`. -/
def nextRevision : GatewayStore := { g with usersRevision := g.usersRevision + 1 }

end GatewayStore

/-! ## Requests of the administrator -/

/-- `re_fullmatch_short(prefix, value)`. -/
def isShort (kind value : String) : Bool :=
  let suffix := value.toList.drop (kind.length + 1)
  value.toList.take (kind.length + 1) = (kind ++ "-").toList ∧ suffix.length = 10 ∧
    suffix.all fun c => "ABCDEFGHIJKLMNOPQRSTUVWXYZ234567".toList.contains c

/-- `validate_request_id(request_id)`. -/
def requestIdOf (value : Json) : Except Raise String := do
  let error := rejecting "request_id_invalid" "request_id 无效"
  let requestId ← orRaise value.asStr? error
  ensure (16 ≤ requestId.length ∧ requestId.length ≤ 128 ∧ requestId.toList.all fun c =>
    ('a' ≤ c ∧ c ≤ 'z') ∨ ('A' ≤ c ∧ c ≤ 'Z') ∨ ('0' ≤ c ∧ c ≤ '9') ∨ c = '-' ∨ c = '_') error
  return requestId

/-- `_request_digest(scope, payload)`. -/
def requestDigest (scope : String) (payload : Dict) : String :=
  sha256Hex (scope ++ "\n" ++ canonical (.obj payload))

/-- `_assert_revision(connection, expected_revision)`. -/
def GatewayStore.assertRevision (g : GatewayStore) (expected : Json) : Except Raise Unit :=
  ensure (expected.asInt? = some (g.usersRevision : ℤ))
    (raising "revision_conflict" "用户目录已变化，请刷新后重试" 409)

/-- A request of the administrator: a known one gets the response that is on file, another one is
    carried out and filed. The operation returns the response that is filed and the one that is
    returned. -/
def GatewayStore.administer (g : GatewayStore) (requestId : Json) (scope : String) (payload : Dict)
    (now : String) (operation : GatewayStore → Except Raise (GatewayStore × Json × Json)) :
    Except Raise (GatewayStore × Json × Bool) := do
  let id ← requestIdOf requestId
  match g.mutations.get? id with
  | some row => do
    ensure (row.scope = scope ∧ row.requestDigest = requestDigest scope payload)
      (raising "idempotency_conflict" "request_id 已用于不同请求" 409)
    return (g, row.response, true)
  | none => do
    let (g, filed, response) ← operation g
    let mutations ← orRaise
      (g.mutations.insert? ⟨id, scope, requestDigest scope payload, filed, now⟩) .integrity
    return ({ g with mutations := mutations }, response, false)

/-- `hmac.compare_digest(a, b)` for two texts. -/
def compareDigest (a b : String) : Except Raise Bool := do
  ensure (a.toList.all (fun c => c.toNat < 128) ∧ b.toList.all fun c => c.toNat < 128) .type
  return a = b

/-- `_user_row_by_short(connection, wx_short)`. -/
def GatewayStore.userByShort (cfg : Config) (g : GatewayStore) (wxShort : String) : Except Raise WeixinUser := do
  let error := raising "user_not_found" "微信用户不存在" 404
  ensure (isShort "WX" wxShort) error
  orRaise (g.users.rows.find? fun u => cfg.shortId "WX" u.userHash = wxShort) error

/-! ## Documents -/

def optionalText (x : Option String) : Json := (x.map Json.str).getD .null

/-- `_private_user_document(row)`. -/
def WeixinUser.privateDocument (u : WeixinUser) : Dict :=
  [("principal_id", .str u.principalId), ("user_hash", .str u.userHash),
    ("private_user_id", .str u.privateUserId), ("conversation_key", .str u.conversationKey),
    ("alias", .str u.aliasName), ("role", .str u.role.text), ("status", .str u.status.text),
    ("revision", .int u.revision), ("last_seen_at", optionalText u.lastSeenAt)]

/-- `_public_user_document(connection, row)`. -/
def GatewayStore.publicDocument (cfg : Config) (g : GatewayStore) (u : WeixinUser) : Json :=
  let link := g.links.get? u.userHash
  let binding := (g.bindings.get? u.principalId).bind fun b =>
    (g.identities.get? b.identityId).map fun i => (b, i)
  .obj [("wx_short", .str (cfg.shortId "WX" u.userHash)), ("alias", .str u.aliasName),
    ("role", .str u.role.text), ("status", .str u.status.text), ("revision", .int u.revision),
    ("has_context", .bool false),
    ("conversation_short", optionalText (link.map ConversationLink.conversationShort)),
    ("thread_short", optionalText (link.bind ConversationLink.threadShort)),
    ("last_job_short", optionalText (link.bind ConversationLink.lastJobShort)),
    ("last_seen_at", optionalText u.lastSeenAt),
    ("identity_short", optionalText (binding.map fun x => cfg.shortId "CB" x.2.identityId)),
    ("identity_state", optionalText (binding.map fun x => x.2.state.text)),
    ("identity_runtime_state", optionalText (binding.map fun x => x.2.runtimeState)),
    ("binding_type", optionalText (binding.map fun x => x.1.bindingType.text)),
    ("binding_state", optionalText (binding.map fun x => x.1.state.text))]

/-! ## Digests of identifiers -/

/-- `user_hash(user_id)`. -/
def userHash (userId : String) : String := sha256Hex ("weixin-user:" ++ userId)

/-- `conversation_key(user_id)`. -/
def conversationKey (userId : String) : String := "sha256:" ++ sha256Hex ("weixin:" ++ userId)

/-- `principal_conversation_key(principal_id)`. -/
def principalConversationKey (principalId : String) : String :=
  "sha256:" ++ sha256Hex ("weixin-principal-v2:" ++ principalId)

/-- The principal of a user from before there were principals. -/
def legacyPrincipalId (userHash : String) : String :=
  "PR-" ++ String.ofList ((sha256Hex ("weixin-principal-legacy:" ++ userHash)).toList.take 32)

/-- `hashlib.sha256(salt + code.encode("utf-8")).hexdigest()`. -/
def codeHash (salt : List UInt8) (code : String) : String :=
  String.ofList (sha256Chars (salt ++ code.toUTF8.toList))

/-- `_validate_identity_reference(identity_identifier, account_digest)`. -/
def validateIdentityReference (identityId accountHash : String) : Except Raise Unit := do
  ensure (accountHash.length = 64 ∧ accountHash.toList.all isLowerHex)
    (rejecting "identity_invalid" "account_hash 无效")
  ensure (identityId = "ID-" ++ String.ofList (accountHash.toList.take 32))
    (rejecting "identity_invalid" "identity_id 无效")

end HomeAddons.Gateway
