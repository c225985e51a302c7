import HomeAddons.Gateway.Store

/-!
# Weixin Gateway: users

The calls of `GatewayStore` that add users, change their state and hand the role of the owner on:
the owner of the allowlist, the invitations of members, `_mutate_user` and `transfer_owner`.
-/

namespace HomeAddons.Gateway

open HomeAddons.Common

/-! ## Actions on a user -/

/-- What `_mutate_user` does to a user. -/
inductive UserAction where
  | rename (aliasName : String)
  | suspend
  | resume
  | revoke
  deriving DecidableEq

def UserAction.text : UserAction → String
  | .rename _ => "alias"
  | .suspend => "suspend"
  | .resume => "resume"
  | .revoke => "revoke"

def UserAction.extra : UserAction → Dict
  | .rename aliasName => [("alias", .str aliasName)]
  | _ => []

namespace GatewayStore

variable (cfg : Config) (env : Env)

/-! ## The first owner -/

/-- A row that `INSERT INTO weixin_users` adds, with the user active. -/
def newUser (g : GatewayStore) (privateUserId conversationKey aliasName : String) (role : Role)
    (principalId now : String) (lastSeenAt : Option String) : WeixinUser where
  userHash := userHash privateUserId
  privateUserId := privateUserId
  conversationKey := conversationKey
  aliasName := aliasName
  role := role
  status := .active
  revision := g.usersRevision + 1
  createdAt := now
  updatedAt := now
  revokedAt := none
  lastSeenAt := lastSeenAt
  principalId := principalId

/-- Adds a user with its conversation link, under the next revision. -/
def addUser (g : GatewayStore) (u : WeixinUser) : Except Raise GatewayStore := do
  let g ← g.nextRevision.insertUser u
  g.insertLink ⟨u.userHash, cfg.shortId "CV" u.conversationKey, none, none, u.lastSeenAt⟩

/-- `migrate_identity_allowlist(allowed_user_ids)` (lines 1127–1176). -/
def migrateIdentityAllowlist (g : GatewayStore) (allowedUserIds : List String) :
    Except Raise (GatewayStore × Json) := do
  ensure (allowedUserIds.length ≤ 1)
    (raising "owner_migration_ambiguous" "旧 allowlist 包含多个用户，无法确定唯一 owner" 409)
  let owners := g.users.rows.filter fun u => u.role = .owner
  ensure (owners.length ≤ 1) (raising "owner_invariant_broken" "用户目录存在多个 owner" 500)
  match owners, allowedUserIds with
  | owner :: _, _ => do
    ensure (owner.status = .active)
      (raising "owner_invariant_broken" "唯一 owner 不是 active" 500)
    return (g, .obj [("state", .str "existing"), ("owner_private_id", .str owner.privateUserId),
      ("revision", .int g.usersRevision)])
  | [], allowed => do
    ensure (g.users.rows = [])
      (raising "owner_invariant_broken" "用户目录有成员但没有 owner" 500)
    match allowed with
    | [] => return (g, .obj [("state", .str "empty"), ("owner_private_id", .null),
        ("revision", .int g.usersRevision)])
    | ownerId :: _ =>
      let owner := g.newUser ownerId (conversationKey ownerId) "管理员" .owner
        (legacyPrincipalId (userHash ownerId)) (env.now 0) none
      let g ← g.addUser cfg owner
      return (g, .obj [("state", .str "migrated"), ("owner_private_id", .str ownerId),
        ("revision", .int g.usersRevision)])

/-! ## Invitations -/

/-- `MAX_WEIXIN_USERS`. -/
def maxWeixinUsers : ℕ := 32

/-- `not isinstance(ttl_seconds, int) or isinstance(ttl_seconds, bool) or not 60 <= … <= 3600`. -/
def ttlSeconds (value : Json) (e : Raise) : Except Raise ℤ :=
  orRaise (value.asInt?.filter fun n => 60 ≤ n ∧ n ≤ 3600) e

/-- `UPDATE pairing_invitations SET state='expired' WHERE state='waiting' AND expires_at<=?`. -/
def expireInvitations (g : GatewayStore) (now : String) : GatewayStore :=
  let due := fun i : Invitation => decide (i.state = .waiting ∧ i.expiresAt ≤ now)
  { g with invitations :=
      g.invitations.updateWhere due fun i => { i with state := .expired, updatedAt := now } }

/-- The `operation` of `create_member_invitation`. -/
def createMemberInvitationOperation (expected : Json) (ttl : ℤ) (g : GatewayStore) :
    Except Raise (GatewayStore × Json × Json) := do
  g.assertRevision expected
  ensure (g.userCount < maxWeixinUsers)
    (raising "user_limit_reached" "微信用户数量已达到上限" 409)
  let g := g.expireInvitations (env.now 0)
  let code := "加入-CODEX-" ++ env.code
  let invitations ← orRaise (g.invitations.insert? ⟨env.token, some env.salt,
    codeHash env.salt code, .waiting, env.later ttl, none, env.now 0, env.now 0⟩) .integrity
  let g := { g with invitations := invitations }.nextRevision
  let response (state : String) : Dict :=
    [("state", .str state), ("invite_short", .str (cfg.shortId "IV" env.token)),
      ("expires_at", .str (env.later ttl)), ("revision", .int g.usersRevision)]
  return (g, .obj (response "created_code_already_shown"),
    .obj (response "waiting" ++ [("code", .str code)]))

/-- `create_member_invitation(…)` (lines 1993–2050). -/
def createMemberInvitation (g : GatewayStore) (expected requestId ttl : Json) :
    Except Raise (GatewayStore × Json × Bool) := do
  let seconds ← ttlSeconds ttl
    (rejecting "invitation_ttl_invalid" "邀请码有效期必须在 60 到 3600 秒之间")
  g.administer requestId "member_invitation_create" [("revision", expected), ("ttl_seconds", ttl)]
    (env.now 1) (createMemberInvitationOperation cfg env expected seconds)

/-- `_invitation_by_short(connection, invite_short)`. -/
def invitationByShort (g : GatewayStore) (inviteShort : String) : Except Raise Invitation := do
  let error := raising "invitation_not_found" "邀请码不存在" 404
  ensure (isShort "IV" inviteShort) error
  orRaise (g.invitations.rows.find? fun i => cfg.shortId "IV" i.inviteId = inviteShort) error

/-- The `operation` of `cancel_member_invitation`. -/
def cancelMemberInvitationOperation (inviteShort : String) (expected : Json) (g : GatewayStore) :
    Except Raise (GatewayStore × Json × Json) := do
  g.assertRevision expected
  let row ← g.invitationByShort cfg inviteShort
  ensure (row.state = .waiting) (raising "invitation_not_waiting" "邀请码已不可取消" 409)
  let invitations := g.invitations.update row.inviteId fun i =>
    { i with state := .cancelled, updatedAt := env.now 0 }
  let g := { g with invitations := invitations }.nextRevision
  let response : Json := .obj [("state", .str "cancelled"), ("invite_short", .str inviteShort),
    ("revision", .int g.usersRevision)]
  return (g, response, response)

/-- `cancel_member_invitation(…)` (lines 2052–2078). -/
def cancelMemberInvitation (g : GatewayStore) (inviteShort : String) (expected requestId : Json) :
    Except Raise (GatewayStore × Json × Bool) :=
  g.administer requestId "member_invitation_cancel"
    [("invite_short", .str inviteShort), ("revision", expected)] (env.now 1)
    (cancelMemberInvitationOperation cfg env inviteShort expected)

/-- The identity of an active owner, which members without an identity of their own share. -/
def sharedIdentity (g : GatewayStore) : Option String :=
  (g.bindings.rows.find? fun b =>
    b.state = .active ∧ ((g.users.get? b.principalId).any fun u =>
      u.role = .owner ∧ u.status = .active) ∧
    ((g.identities.get? b.identityId).any fun i => i.state = .active)).map Binding.identityId

/-- The binding of a member who shares the identity of the owner. -/
def bindShared (g : GatewayStore) (u : WeixinUser) (now : String) : Except Raise GatewayStore :=
  match g.sharedIdentity with
  | none => return g
  | some identityId =>
    g.insertBinding ⟨identityId, u.principalId, u.privateUserId, .legacyShared, .active, now, now⟩

/-- The first waiting invitation with the code. -/
def matchingInvitation (g : GatewayStore) (text : String) : Option Invitation :=
  ((g.invitations.rows.filter fun i => i.state = .waiting).insertionSort fun i j =>
    i.createdAt ≤ j.createdAt).find? fun i =>
      i.codeSalt.any fun salt => codeHash salt text = i.codeHash

/-- `claim_member_invitation(user_id=user_id, text=text)` (lines 2080–2150). -/
def claimMemberInvitation (g : GatewayStore) (userId text : String) :
    Except Raise (GatewayStore × Option Dict) :=
  if userId = "" ∨ text = "" ∨ g.userByHash (userHash userId) ≠ none then return (g, none)
  else
    let g := g.expireInvitations (env.now 0)
    match g.matchingInvitation text with
    | none => return (g, none)
    | some matched => do
      let count := g.userCount
      ensure (count < maxWeixinUsers)
        (raising "user_limit_reached" "微信用户数量已达到上限" 409)
      let user := g.newUser userId (conversationKey userId) ("成员 " ++ toString count) .member
        env.principalId (env.now 0) (some (env.now 0))
      let g ← g.addUser cfg user
      let g ← g.bindShared user (env.now 0)
      let invitations := g.invitations.update matched.inviteId fun i =>
        { i with state := .claimed, claimedUserHash := some user.userHash, updatedAt := env.now 0 }
      return ({ g with invitations := invitations }, some user.privateDocument)

/-! ## The state of a user -/

/-- `_set_principal_binding_state(connection, principal_id, state, now)` (lines 2250–2273). -/
def setPrincipalBindingState (g : GatewayStore) (principalId : String) (state : Status)
    (now : String) : GatewayStore :=
  match g.bindings.get? principalId with
  | none => g
  | some b =>
    let bindings := g.bindings.update principalId fun b =>
      { b with state := state, updatedAt := now }
    if b.bindingType = .primary then
      { g with bindings := bindings,
               identities := g.identities.update b.identityId (Identity.following state now) }
    else { g with bindings := bindings }

/-- A change of the status of a user, and of its binding with it. -/
def setUserStatus (g : GatewayStore) (row : WeixinUser) (status : Status) (now : String) :
    GatewayStore :=
  let users := g.users.update row.principalId fun u =>
    { u with status := status, updatedAt := now,
             revokedAt := if status = .revoked then some now else u.revokedAt }
  { g with users := users }.setPrincipalBindingState row.principalId status now

/-- The branches of `_mutate_user` (lines 2207–2235). -/
def applyUserAction (g : GatewayStore) (row : WeixinUser) (action : UserAction) (now : String) :
    Except Raise GatewayStore :=
  match action with
  | .rename aliasName => return { g with users := g.users.update row.principalId fun u =>
      { u with aliasName := aliasName, updatedAt := now } }
  | .suspend => do
    ensure (row.status = .active)
      (raising "user_state_conflict" "只有 active 成员可以暂停" 409)
    return g.setUserStatus row .suspended now
  | .resume => do
    ensure (row.role = .member ∧ row.status = .suspended)
      (raising "user_state_conflict" "只有 suspended 成员可以恢复" 409)
    return g.setUserStatus row .active now
  | .revoke => do
    ensure (row.status ≠ .revoked) (raising "user_state_conflict" "成员已经移除" 409)
    return g.setUserStatus row .revoked now

/-- The `operation` of `_mutate_user`. -/
def mutateUserOperation (action : UserAction) (wxShort : String) (expected : Json)
    (g : GatewayStore) : Except Raise (GatewayStore × Json × Json) := do
  g.assertRevision expected
  let row ← g.userByShort cfg wxShort
  ensure (¬ ((action = .suspend ∨ action = .revoke) ∧ row.role = .owner))
    (raising "owner_protected" "唯一 owner 不能暂停或移除" 409)
  let g ← g.applyUserAction row action (env.now 0)
  let g := g.nextRevision
  let users := g.users.update row.principalId fun u => { u with revision := g.usersRevision }
  let g := { g with users := users }
  let updated ← orRaise (g.users.get? row.principalId) .type
  let response : Json :=
    .obj [("revision", .int g.usersRevision), ("user", g.publicDocument cfg updated)]
  return (g, response, response)

/-- `_mutate_user(action=…, wx_short=…, expected_revision=…, request_id=…, extra=…)`
    (lines 2189–2248). -/
def mutateUser (g : GatewayStore) (action : UserAction) (wxShort : String)
    (expected requestId : Json) : Except Raise (GatewayStore × Json × Bool) :=
  g.administer requestId ("user_" ++ action.text)
    ([("wx_short", .str wxShort), ("revision", expected)] ++ action.extra) (env.now 1)
    (mutateUserOperation cfg env action wxShort expected)

/-- `1 <= len(clean_alias) <= 40` and no control characters. -/
def cleanAlias (aliasName : String) : Except Raise String := do
  let clean := strip aliasName
  ensure (1 ≤ clean.length ∧ clean.length ≤ 40 ∧ clean.toList.all fun c => 32 ≤ c.toNat)
    (rejecting "alias_invalid" "别名长度必须为 1 到 40 个可见字符")
  return clean

/-- `update_alias(…)` (lines 2152–2169). -/
def updateAlias (g : GatewayStore) (wxShort aliasName : String) (expected requestId : Json) :
    Except Raise (GatewayStore × Json × Bool) := do
  let clean ← cleanAlias aliasName
  g.mutateUser cfg env (.rename clean) wxShort expected requestId

/-- `change_user_state(…)` (lines 2171–2187). -/
def changeUserState (g : GatewayStore) (action : UserAction) (wxShort : String)
    (expected requestId : Json) : Except Raise (GatewayStore × Json × Bool) := do
  ensure (action = .suspend ∨ action = .resume ∨ action = .revoke)
    (rejecting "user_action_invalid" "用户操作无效")
  g.mutateUser cfg env action wxShort expected requestId

/-! ## The owner -/

/-- `UPDATE weixin_users SET role=?`, and the revision that both rows of a transfer get. -/
def giveRole (g : GatewayStore) (principalId : String) (role : Role) (now : String) : GatewayStore :=
  { g with users := g.users.update principalId fun u =>
      { u with role := role, updatedAt := now, revision := g.usersRevision + 1 } }

/-- The `operation` of `transfer_owner`. -/
def transferOwnerOperation (targetWxShort : String) (expected : Json) (g : GatewayStore) :
    Except Raise (GatewayStore × Json × Json) := do
  g.assertRevision expected
  let owners := g.users.rows.filter fun u => u.role = .owner ∧ u.status = .active
  let oldOwner ← orRaise (if owners.length = 1 then owners.head? else none)
    (raising "owner_invariant_broken" "Owner 转移前不满足唯一 active owner" 500)
  let target ← g.userByShort cfg targetWxShort
  ensure (target.role = .member ∧ target.status = .active)
    (raising "owner_transfer_target_invalid" "目标必须是 active member" 409)
  let g := ((g.giveRole oldOwner.principalId .member (env.now 0)).giveRole target.principalId .owner
    (env.now 0)).nextRevision
  let updated ← orRaise (g.users.get? target.principalId) .type
  let stored : Dict := [("revision", .int g.usersRevision),
    ("owner", g.publicDocument cfg updated),
    ("previous_owner", .str (cfg.shortId "WX" oldOwner.userHash))]
  return (g, .obj stored, .obj (stored ++ [("owner_private_id", .str target.privateUserId),
    ("previous_owner_private_id", .str oldOwner.privateUserId),
    ("owner_principal_id", .str target.principalId),
    ("previous_owner_principal_id", .str oldOwner.principalId)]))

/-- `transfer_owner(…)` (lines 2275–2337). -/
def transferOwner (g : GatewayStore) (targetWxShort : String) (expected requestId : Json)
    (confirmation : String) : Except Raise (GatewayStore × Json × Bool) := do
  ensure (confirmation = "TRANSFER_OWNER")
    (raising "owner_transfer_confirmation_required" "Owner 转移确认词无效" 409)
  g.administer requestId "owner_transfer" [("target_wx_short", .str targetWxShort),
    ("revision", expected), ("confirmation", .str confirmation)] (env.now 1)
    (transferOwnerOperation cfg env targetWxShort expected)

/-- `restore_owner_after_mirror_failure(…)` (lines 2339–2360). -/
def restoreOwnerAfterMirrorFailure (g : GatewayStore) (previous target requestId now : String) :
    Except Raise GatewayStore := do
  let users := g.users.update target fun u => { u with role := .member }
  ensure ((users.get? previous).isNone = true ∨
    ∀ u ∈ users.rows, u.role = .owner → u.principalId = previous) .integrity
  let users := users.update previous fun u => { u with role := .owner }
  let g := { g with users := users }.nextRevision
  let users := g.users.updateWhere (fun u => u.principalId = previous ∨ u.principalId = target)
    fun u => { u with revision := g.usersRevision, updatedAt := now }
  return { g with users := users, mutations := g.mutations.erase requestId }

end GatewayStore

end HomeAddons.Gateway
