import HomeAddons.Gateway.Users

/-!
# Weixin Gateway: identities and onboarding

`migrate_legacy_identity`, which binds the users of a store to the identity it starts with, and the
calls that take a member from an onboarding session to an identity of its own.
-/

namespace HomeAddons.Gateway

open HomeAddons.Common

namespace GatewayStore

variable (cfg : Config) (env : Env)

/-! ## The first identity -/

/-- The row that `migrate_legacy_identity` leaves for a user: a primary binding stays, another one
    moves to the identity. -/
def migratedBinding (g : GatewayStore) (identityId now : String) (row : WeixinUser) : Binding :=
  let bindingType := if row.role = .owner then .primary else .legacyShared
  match g.bindings.get? row.principalId with
  | none =>
    ⟨identityId, row.principalId, row.privateUserId, bindingType, row.status, now, now⟩
  | some b =>
    if b.bindingType = .primary then { b with updatedAt := now }
    else { b with
      identityId := identityId
      privateUserId := row.privateUserId
      bindingType := bindingType
      state := if b.state = .revoked then b.state else row.status
      updatedAt := now }

def migrateBinding (identityId now : String) (g : GatewayStore) (row : WeixinUser) :
    Except Raise GatewayStore :=
  g.putBinding (g.migratedBinding identityId now row)

/-- `migrate_legacy_identity(identity_identifier=…, account_digest=…)` (lines 1232–1307); its
    update of `inbound_messages` is not part of the directory. -/
def migrateLegacyIdentity (g : GatewayStore) (identityId accountHash : String) :
    Except Raise (GatewayStore × Json) := do
  validateIdentityReference identityId accountHash
  let now := env.now 0
  ensure (∀ i ∈ g.identities.rows, i.accountHash = accountHash → i.identityId = identityId)
    (raising "identity_already_bound" "该 ClawBot 身份已经接入" 409)
  let g ← g.upsertIdentity ⟨identityId, accountHash, .active, "stopped", none, now, now, none⟩
    fun i => { i with
      accountHash := accountHash
      state := if i.state = .revoked then i.state else .active
      updatedAt := now }
  let users := g.users.rows.insertionSort fun u v => u.createdAt ≤ v.createdAt
  let g ← users.foldlM (migrateBinding identityId now) g
  return (g, .obj [("identity_id", .str identityId), ("account_hash", .str accountHash),
    ("bound_principals", .int users.length)])

/-! ## Sessions -/

/-- `_expire_onboarding_sessions(connection)` (lines 1929–1946). -/
def expireSessions (g : GatewayStore) (now : String) : GatewayStore :=
  let isDue := fun s : Session => decide (s.state.isOpen = true ∧ s.expiresAt ≤ now)
  let due := (g.sessions.rows.filter isDue).filterMap Session.identityId
  let sessions := g.sessions.updateWhere isDue fun s =>
    { s with state := .expired, updatedAt := now }
  (due.filter fun i => i ≠ "").foldl
    (fun g identityId => g.dropPending identityId (Identity.dropped "stopped" now))
    { g with sessions := sessions }

/-- `expire_onboarding_sessions()`, with the identities of the sessions that expire. -/
def expireOnboardingSessions (g : GatewayStore) : GatewayStore × List String :=
  (g.expireSessions (env.now 0), (g.sessions.rows.filter fun s =>
    decide (s.state.isOpen = true ∧ s.expiresAt ≤ env.now 0)).filterMap Session.identityId)

/-- The member that a session is for, when it names one: its principal and its alias. -/
def sessionTarget (g : GatewayStore) (aliasName : String) (targetWxShort : Option String) :
    Except Raise (Option String × String) :=
  match targetWxShort.filter fun s => s ≠ "" with
  | some wxShort => do
    let target ← g.userByShort cfg wxShort
    ensure (target.role = .member ∧ target.status = .active)
      (raising "onboarding_target_invalid" "目标必须是 active Member" 409)
    ensure ((g.bindings.get? target.principalId).all fun b =>
        b.state = .active → b.bindingType = .legacyShared)
      (raising "identity_already_bound" "该成员已经绑定 ClawBot" 409)
    return (some target.principalId, target.aliasName)
  | none => do
    ensure (g.userCount < maxWeixinUsers)
      (raising "user_limit_reached" "微信用户数量已达到上限" 409)
    return (none, aliasName)

/-- The `operation` of `create_onboarding_session`. -/
def createOnboardingOperation (expected : Json) (aliasName : String) (targetWxShort : Option String)
    (ttl maxActiveIdentities : ℤ) (g : GatewayStore) :
    Except Raise (GatewayStore × Json × Json) := do
  g.assertRevision expected
  let g := g.expireSessions (env.now 0)
  ensure ((g.users.rows.filter fun u => u.role = .owner ∧ u.status = .active).length = 1)
    (raising "owner_required" "添加成员前必须存在唯一 active Owner" 409)
  ensure (∀ s ∈ g.sessions.rows, ¬ s.state.isOpen = true)
    (raising "onboarding_in_progress" "已有成员接入会话正在进行" 409)
  ensure (((g.identities.rows.filter fun i => i.state ≠ .revoked).length : ℤ) < maxActiveIdentities)
    (raising "identity_limit_reached" "活动 ClawBot 数量已达到上限" 409)
  let (target, aliasName) ← g.sessionTarget cfg aliasName targetWxShort
  let code := "接入-CODEX-" ++ env.code
  let sessions ← orRaise (g.sessions.insert? ⟨env.token, target, aliasName, some env.salt,
    codeHash env.salt code, .waitingQr, none, none, none, "waiting", none, 0, env.later ttl,
    env.now 1, env.now 1⟩) .integrity
  let g := { g with sessions := sessions }.nextRevision
  let response (state : String) : Dict :=
    [("state", .str state), ("session_short", .str (cfg.shortId "OB" env.token)),
      ("expires_at", .str (env.later ttl)), ("revision", .int g.usersRevision)]
  return (g, .obj (response "created_code_already_shown"),
    .obj (response "waiting_qr" ++ [("code", .str code), ("session_id", .str env.token)]))

/-- `create_onboarding_session(…)` (lines 1454–1553). -/
def createOnboardingSession (g : GatewayStore) (expected requestId : Json) (aliasName : String)
    (targetWxShort : Option String) (ttl : Json) (maxActiveIdentities : ℤ) :
    Except Raise (GatewayStore × Json × Bool) := do
  let clean ← cleanAlias aliasName
  let seconds ← ttlSeconds ttl
    (rejecting "onboarding_ttl_invalid" "成员接入有效期必须在 60 到 3600 秒之间")
  ensure (1 ≤ maxActiveIdentities ∧ maxActiveIdentities ≤ maxWeixinUsers)
    (rejecting "identity_limit_invalid" "活动 ClawBot 上限无效")
  g.administer requestId "onboarding_session_create"
    [("revision", expected), ("alias", .str clean),
      ("target_wx_short", optionalText targetWxShort), ("ttl_seconds", ttl)] (env.now 2)
    (createOnboardingOperation cfg env expected clean targetWxShort seconds maxActiveIdentities)

/-- The states that `set_onboarding_qr_state` accepts. -/
def qrStates : List String :=
  ["waiting", "scanned", "need_verifycode", "verify_code_blocked", "redirecting", "confirmed",
    "expired", "cancelled", "failed", "already_bound"]

/-- The states that `set_onboarding_qr_state` may end a session with. -/
def terminalStates : List SessionState := [.expired, .cancelled, .failed, .alreadyBound]

/-- `set_onboarding_qr_state(…)` (lines 1578–1629). -/
def setOnboardingQrState (g : GatewayStore) (sessionId qrState : String)
    (errorCode : Option String) (terminalState : Option SessionState) :
    Except Raise GatewayStore := do
  ensure (qrState ∈ qrStates) (rejecting "onboarding_qr_state_invalid" "二维码状态无效")
  ensure (∀ state ∈ terminalState, state ∈ terminalStates)
    (rejecting "onboarding_state_invalid" "成员接入终态无效")
  let row ← orRaise (g.sessions.get? sessionId)
    (raising "onboarding_not_found" "成员接入会话不存在" 404)
  if row.state.isOpen then
    let now := env.now 0
    let sessions := g.sessions.update sessionId fun s => { s with
      state := terminalState.getD row.state
      qrState := qrState
      lastError := errorCode
      updatedAt := now }
    let g := { g with sessions := sessions }
    return match terminalState, row.identityId with
      | some _, some identityId => g.dropPending identityId fun i =>
        { i with state := .revoked, runtimeState := "stopped", lastError := errorCode,
                 updatedAt := now }
      | _, _ => g
  else return g

/-- `attach_onboarding_identity(…)` (lines 1631–1693). -/
def attachOnboardingIdentity (g : GatewayStore) (sessionId identityId accountHash
    scannedPrivateUserId : String) : Except Raise (GatewayStore × Json) := do
  ensure (scannedPrivateUserId ≠ "")
    (raising "onboarding_sender_missing" "扫码用户身份缺失" 409)
  validateIdentityReference identityId accountHash
  let g := g.expireSessions (env.now 0)
  let row ← orRaise ((g.sessions.get? sessionId).filter fun s => s.state = .waitingQr)
    (raising "onboarding_not_waiting" "成员接入会话已不可使用" 409)
  let duplicate := g.bindings.rows.find? fun b =>
    b.privateUserId = scannedPrivateUserId ∧ b.state = .active
  ensure (∀ b ∈ duplicate, (∃ p ∈ row.targetPrincipalId, p ≠ "" ∧ b.principalId = p) ∧
      b.bindingType = .legacyShared)
    (raising "identity_already_bound" "该微信用户已经绑定 ClawBot" 409)
  ensure (∀ i ∈ g.identities.rows, i.accountHash = accountHash → i.state ≠ .revoked →
      i.identityId = identityId)
    (raising "identity_already_bound" "该 ClawBot 身份已经接入" 409)
  let now := env.now 1
  let g ← g.upsertIdentity
    ⟨identityId, accountHash, .pendingPairing, "stopped", none, now, now, none⟩ fun i =>
      { i with accountHash := accountHash, state := .pendingPairing, lastError := none,
               updatedAt := now }
  let sessions := g.sessions.update sessionId fun s => { s with
    state := .pendingPairing
    identityId := some identityId
    accountHash := some accountHash
    scannedPrivateUserId := some scannedPrivateUserId
    qrState := "confirmed"
    lastError := none
    updatedAt := now }
  return ({ g with sessions := sessions }, .obj [("state", .str "pending_pairing"),
    ("session_short", .str (cfg.shortId "OB" sessionId)),
    ("identity_short", .str (cfg.shortId "CB" identityId)), ("expires_at", .str row.expiresAt)])

/-! ## The claim of a session -/

/-- `MAX_ONBOARDING_ATTEMPTS`. -/
def maxOnboardingAttempts : ℕ := 5

/-- A wrong code: the session counts it, and the fifth one ends it (lines 1728–1742). -/
def refuseCode (g : GatewayStore) (s : Session) (identityId now : String) : GatewayStore :=
  let attempts := s.attempts + 1
  let failed := maxOnboardingAttempts ≤ attempts
  let sessions := g.sessions.update s.sessionId fun s => { s with
    attempts := attempts
    state := if failed then .failed else .pendingPairing
    updatedAt := now }
  let g := { g with sessions := sessions }
  if failed then g.dropPending identityId fun i =>
    { i with state := .revoked, runtimeState := "error",
             lastError := some "pairing_attempts_exceeded", updatedAt := now }
  else g

/-- The member that a session is for (lines 1744–1757). -/
def claimTarget (g : GatewayStore) (principalId : String) : Except Raise WeixinUser := do
  let user ← orRaise ((g.users.get? principalId).filter fun u => u.role = .member ∧ u.status = .active)
    (raising "onboarding_target_invalid" "目标成员已不可绑定" 409)
  ensure ((g.bindings.get? principalId).all fun b => b.state = .active → b.bindingType = .legacyShared)
    (raising "identity_already_bound" "该成员已经绑定 ClawBot" 409)
  return user

/-- The member that a session without a target adds (lines 1758–1797). -/
def claimNewUser (g : GatewayStore) (s : Session) (privateUserId now : String) :
    Except Raise (GatewayStore × WeixinUser) := do
  ensure (∀ u ∈ g.users.rows, u.privateUserId = privateUserId → u.status = .revoked)
    (raising "identity_already_bound" "该微信用户已经接入" 409)
  ensure (g.userCount < maxWeixinUsers)
    (raising "user_limit_reached" "微信用户数量已达到上限" 409)
  let user := g.newUser privateUserId (principalConversationKey env.principalId) s.requestedAlias
    .member env.principalId now (some now)
  let g ← g.addUser cfg user
  return (g, user)

/-- The primary binding of the member (lines 1798–1822). -/
def bindPrimary (g : GatewayStore) (identityId principalId privateUserId now : String) :
    Except Raise GatewayStore :=
  match g.bindings.get? principalId with
  | some b => do
    ensure (b.bindingType = .legacyShared)
      (raising "identity_already_bound" "该成员已经绑定 ClawBot" 409)
    g.putBinding { b with identityId := identityId, privateUserId := privateUserId,
                          bindingType := .primary, state := .active, updatedAt := now }
  | none => g.insertBinding ⟨identityId, principalId, privateUserId, .primary, .active, now, now⟩

/-- The member of the session: the one it is for, or a new one. -/
def claimant (g : GatewayStore) (s : Session) (privateUserId now : String) :
    Except Raise (GatewayStore × WeixinUser) :=
  match s.targetPrincipalId.filter fun p => p ≠ "" with
  | some principalId => do
    let user ← g.claimTarget principalId
    return (g, user)
  | none => g.claimNewUser cfg env s privateUserId now

/-- What a session does whose code was right (lines 1743–1842). -/
def completeClaim (g : GatewayStore) (s : Session) (identityId privateUserId now : String) :
    Except Raise (GatewayStore × Dict) := do
  let (g, user) ← g.claimant cfg env s privateUserId now
  let g ← g.bindPrimary identityId user.principalId privateUserId now
  let identities := g.identities.update identityId fun i =>
    { i with state := .active, runtimeState := "polling", lastError := none, updatedAt := now }
  let sessions := g.sessions.update s.sessionId fun s => { s with state := .claimed, updatedAt := now }
  let g := { g with identities := identities, sessions := sessions }
  let hasTarget := (s.targetPrincipalId.filter fun p => p ≠ "").isSome
  let touched : WeixinUser := { user with
    revision := g.usersRevision + 1, updatedAt := now, lastSeenAt := some now }
  let users := g.users.update user.principalId fun u =>
    { u with revision := g.usersRevision + 1, updatedAt := now, lastSeenAt := some now }
  let g := if hasTarget then { g with users := users }.nextRevision else g
  let document := (if hasTarget then touched else user).privateDocument
  return (g, document ++ [("identity_id", .str identityId),
    ("session_short", .str (cfg.shortId "OB" s.sessionId))])

/-- `claim_onboarding(…)` (lines 1695–1842). -/
def claimOnboarding (g : GatewayStore) (identityId privateUserId text : String) :
    Except Raise (GatewayStore × Option Dict) :=
  if privateUserId = "" ∨ text = "" then return (g, none)
  else
    let now := env.now 0
    let g := g.expireSessions (env.now 1)
    match g.sessions.rows.find? fun s =>
      s.identityId = some identityId ∧ s.state = .pendingPairing with
    | none => return (g, none)
    | some s => do
      let mine ← compareDigest (s.scannedPrivateUserId.getD "None") privateUserId
      if ¬ mine then return (g, none)
      else
        match s.codeSalt with
        | none => return ({ g with sessions := g.sessions.update s.sessionId fun s =>
            { s with state := .failed, updatedAt := now } }, none)
        | some salt =>
          if codeHash salt (strip text) ≠ s.codeHash then
            return (g.refuseCode s identityId now, none)
          else do
            let (g, document) ← g.completeClaim cfg env s identityId privateUserId now
            return (g, some document)

/-! ## The end of a session -/

/-- `_onboarding_by_short(connection, session_short)`. -/
def onboardingByShort (g : GatewayStore) (sessionShort : String) : Except Raise Session := do
  let error := raising "onboarding_not_found" "成员接入会话不存在" 404
  ensure (isShort "OB" sessionShort) error
  orRaise (g.sessions.rows.find? fun s => cfg.shortId "OB" s.sessionId = sessionShort) error

/-- The `operation` of `cancel_onboarding_session`. -/
def cancelOnboardingOperation (sessionShort : String) (expected : Json) (g : GatewayStore) :
    Except Raise (GatewayStore × Json × Json) := do
  g.assertRevision expected
  let s ← g.onboardingByShort cfg sessionShort
  ensure (s.state.isOpen = true) (raising "onboarding_not_waiting" "成员接入会话已不可取消" 409)
  let now := env.now 0
  let sessions := g.sessions.update s.sessionId fun s =>
    { s with state := .cancelled, updatedAt := now }
  let g := { g with sessions := sessions }
  let g := match s.identityId.filter fun i => i ≠ "" with
    | some identityId => g.dropPending identityId (Identity.dropped "stopped" now)
    | none => g
  let g := g.nextRevision
  let response : Json := .obj [("state", .str "cancelled"), ("session_short", .str sessionShort),
    ("revision", .int g.usersRevision)]
  return (g, response, response)

/-- `cancel_onboarding_session(…)` (lines 1844–1875). -/
def cancelOnboardingSession (g : GatewayStore) (sessionShort : String) (expected requestId : Json) :
    Except Raise (GatewayStore × Json × Bool) :=
  g.administer requestId "onboarding_session_cancel"
    [("session_short", .str sessionShort), ("revision", expected)] (env.now 1)
    (cancelOnboardingOperation cfg env sessionShort expected)

end GatewayStore

end HomeAddons.Gateway
