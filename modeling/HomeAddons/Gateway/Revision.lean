import HomeAddons.Common.Canonical
import HomeAddons.Common.Replay
import HomeAddons.Gateway.Calls

/-!
# Weixin Gateway: the requests of the administrator

A request names the revision of the directory that it was made for. It takes effect at most once,
under that revision only, and moves the directory to the next one; a request that is on file gets
the response that was filed.

* `AdminCall.answer_eq`: the seven calls of the administrator are one procedure, `administer`.
* `GatewayStore.step_later`: no call loses what is filed or takes the revision back.
* `GatewayStore.linearisable`: what comes of a request that took effect, over any run.
-/

namespace HomeAddons.Gateway

open HomeAddons.Common

/-! ## What stays -/

namespace GatewayStore

variable {cfg : Config} {env : Env} {g g' g₁ : GatewayStore}

/-- The filed requests are the same, and the revision has not gone back. -/
structure Kept (g g' : GatewayStore) : Prop where
  mutations : g'.mutations = g.mutations
  revision : g.usersRevision ≤ g'.usersRevision

/-- The sessions are the same as well. -/
structure Aside (g g' : GatewayStore) : Prop extends Kept g g' where
  sessions : g'.sessions = g.sessions

theorem Kept.refl (g : GatewayStore) : g.Kept g := ⟨rfl, le_rfl⟩

theorem Kept.trans (h : g.Kept g₁) (h' : g₁.Kept g') : g.Kept g' :=
  ⟨h'.mutations.trans h.mutations, h.revision.trans h'.revision⟩

theorem Aside.refl (g : GatewayStore) : g.Aside g := ⟨.refl g, rfl⟩

theorem Aside.trans (h : g.Aside g₁) (h' : g₁.Aside g') : g.Aside g' :=
  ⟨h.toKept.trans h'.toKept, h'.sessions.trans h.sessions⟩

variable {u : WeixinUser} {now text i accountHash privateUserId identityId sessionId : String}
  {r : Json} {s : Session}

theorem addUser_aside (hs : g.addUser cfg u = .ok g') : g.Aside g' := by
  obtain ⟨users, links, rfl⟩ := addUser_tables hs
  exact ⟨⟨rfl, Nat.le_succ _⟩, rfl⟩

theorem putBinding_aside {b : Binding} (hs : g.putBinding b = .ok g') : g.Aside g' := by
  rw [putBinding_tables hs]
  exact ⟨⟨rfl, le_rfl⟩, rfl⟩

theorem upsertIdentity_aside {row : Identity} {f : Identity → Identity}
    (hs : g.upsertIdentity row f = .ok g') : g.Aside g' := by
  obtain ⟨identities, rfl⟩ := upsertIdentity_tables hs
  exact ⟨⟨rfl, le_rfl⟩, rfl⟩

theorem expireSessions_kept (g : GatewayStore) (now : String) : g.Kept (g.expireSessions now) := by
  obtain ⟨identities, heq⟩ := g.expireSessions_tables now
  rw [heq]
  exact ⟨rfl, le_rfl⟩

theorem bindShared_aside (hs : g.bindShared u now = .ok g') : g.Aside g' := by
  unfold bindShared at hs
  split at hs
  · rw [pure_eq_ok] at hs
    rw [← hs]
    exact .refl g
  · exact putBinding_aside (insertBinding_ok hs)

theorem claimMemberInvitation_aside {userId : String} {r : Option Dict}
    (hs : g.claimMemberInvitation cfg env userId text = .ok (g', r)) : g.Aside g' := by
  unfold claimMemberInvitation at hs
  split_ifs at hs
  · rw [pure_eq_ok, Prod.mk.injEq] at hs
    rw [← hs.1]
    exact .refl g
  · dsimp only at hs
    split at hs
    · rw [pure_eq_ok, Prod.mk.injEq] at hs
      rw [← hs.1]
      exact ⟨⟨rfl, le_rfl⟩, rfl⟩
    · simp only [bind_eq_ok, pure_eq_ok, Prod.mk.injEq] at hs
      obtain ⟨_, _, g₁, hadd, g₂, hbind, rfl, _⟩ := hs
      have hexpired : g.Aside (g.expireInvitations (env.now 0)) := ⟨⟨rfl, le_rfl⟩, rfl⟩
      have haside := (hexpired.trans (addUser_aside hadd)).trans (bindShared_aside hbind)
      exact ⟨⟨haside.mutations, haside.revision⟩, haside.sessions⟩

theorem migrateIdentityAllowlist_aside {allowed : List String}
    (hs : g.migrateIdentityAllowlist cfg env allowed = .ok (g', r)) : g.Aside g' := by
  simp only [migrateIdentityAllowlist, bind_eq_ok] at hs
  obtain ⟨_, _, _, _, hs⟩ := hs
  split at hs
  · simp only [bind_eq_ok, pure_eq_ok, Prod.mk.injEq] at hs
    obtain ⟨_, _, rfl, _⟩ := hs
    exact .refl g
  · rename_i allowed _ _ _ _
    simp only [bind_eq_ok] at hs
    obtain ⟨_, _, hs⟩ := hs
    cases allowed with
    | nil =>
      rw [pure_eq_ok, Prod.mk.injEq] at hs
      rw [← hs.1]
      exact .refl g
    | cons ownerId _ =>
      simp only [bind_eq_ok, pure_eq_ok, Prod.mk.injEq] at hs
      obtain ⟨g₁, hadd, rfl, _⟩ := hs
      exact addUser_aside hadd

theorem migrateLegacyIdentity_aside (hs : g.migrateLegacyIdentity env i accountHash = .ok (g', r)) :
    g.Aside g' := by
  simp only [migrateLegacyIdentity, bind_eq_ok, pure_eq_ok, Prod.mk.injEq] at hs
  obtain ⟨_, _, _, _, g₁, hupsert, g₂, hfold, rfl, _⟩ := hs
  exact foldlM_ok (P := fun g' => g.Aside g')
    (fun _ _ _ _ haside hput => haside.trans (putBinding_aside hput)) (upsertIdentity_aside hupsert)
    hfold

theorem claimant_aside (hs : g.claimant cfg env s privateUserId now = .ok (g', u)) :
    g.Aside g' := by
  unfold claimant at hs
  split at hs
  · simp only [bind_eq_ok, pure_eq_ok, Prod.mk.injEq] at hs
    obtain ⟨_, _, rfl, _⟩ := hs
    exact .refl g
  · simp only [claimNewUser, bind_eq_ok, pure_eq_ok, Prod.mk.injEq] at hs
    obtain ⟨_, _, _, _, g₁, hadd, rfl, _⟩ := hs
    exact addUser_aside hadd

theorem bindPrimary_aside {principalId : String}
    (hs : g.bindPrimary identityId principalId privateUserId now = .ok g') : g.Aside g' := by
  unfold bindPrimary at hs
  split at hs
  · simp only [bind_eq_ok] at hs
    obtain ⟨_, _, hs⟩ := hs
    exact putBinding_aside hs
  · exact putBinding_aside (insertBinding_ok hs)

theorem setOnboardingQrState_kept {qrState : String} {errorCode : Option String}
    {terminalState : Option SessionState}
    (hs : g.setOnboardingQrState env sessionId qrState errorCode terminalState = .ok g') :
    g.Kept g' := by
  simp only [setOnboardingQrState, bind_eq_ok] at hs
  obtain ⟨_, _, _, _, row, _, hs⟩ := hs
  split_ifs at hs
  · rw [pure_eq_ok] at hs
    rw [← hs]
    split <;> exact ⟨rfl, le_rfl⟩
  · rw [pure_eq_ok] at hs
    rw [← hs]
    exact .refl g

theorem attachOnboardingIdentity_kept {scanned : String}
    (hs : g.attachOnboardingIdentity cfg env sessionId identityId accountHash scanned =
      .ok (g', r)) : g.Kept g' := by
  simp only [attachOnboardingIdentity, bind_eq_ok, pure_eq_ok, Prod.mk.injEq] at hs
  obtain ⟨_, _, _, _, row, _, _, _, _, _, g₁, hupsert, rfl, _⟩ := hs
  have hkept := (g.expireSessions_kept (env.now 0)).trans (upsertIdentity_aside hupsert).toKept
  exact ⟨hkept.mutations, hkept.revision⟩

theorem completeClaim_kept {r : Dict}
    (hs : g.completeClaim cfg env s identityId privateUserId now = .ok (g', r)) : g.Kept g' := by
  simp only [completeClaim, bind_eq_ok, pure_eq_ok, Prod.mk.injEq] at hs
  obtain ⟨⟨g₁, u⟩, hclaimant, g₂, hbind, hs, _⟩ := hs
  have hkept := ((claimant_aside hclaimant).trans (bindPrimary_aside hbind)).toKept
  rw [← hs]
  split_ifs
  · exact ⟨hkept.mutations, hkept.revision.trans (Nat.le_succ _)⟩
  · exact ⟨hkept.mutations, hkept.revision⟩

theorem refuseCode_kept : g.Kept (g.refuseCode s i now) := by
  unfold refuseCode
  dsimp only
  split_ifs <;> exact ⟨rfl, le_rfl⟩

theorem claimOnboarding_kept {r : Option Dict}
    (hs : g.claimOnboarding cfg env identityId privateUserId text = .ok (g', r)) : g.Kept g' := by
  have hexpired := g.expireSessions_kept (env.now 1)
  cases claimOnboarding_outcome hs with
  | ignored => exact .refl g
  | unknown => exact hexpired
  | stranger => exact hexpired
  | unreadable => exact ⟨hexpired.mutations, hexpired.revision⟩
  | refused => exact hexpired.trans refuseCode_kept
  | paired _ _ _ _ _ hclaim => exact hexpired.trans (completeClaim_kept hclaim)

end GatewayStore

/-! ## Requests -/

/-- A call of the administrator. -/
inductive AdminCall where
  | createMemberInvitation (expected requestId ttl : Json)
  | cancelMemberInvitation (inviteShort : String) (expected requestId : Json)
  | updateAlias (wxShort aliasName : String) (expected requestId : Json)
  | changeUserState (action : UserAction) (wxShort : String) (expected requestId : Json)
  | transferOwner (targetWxShort : String) (expected requestId : Json) (confirmation : String)
  | createOnboardingSession (expected requestId : Json) (aliasName : String)
      (targetWxShort : Option String) (ttl : Json) (maxActiveIdentities : ℤ)
  | cancelOnboardingSession (sessionShort : String) (expected requestId : Json)

namespace AdminCall

def toCall : AdminCall → GatewayCall
  | createMemberInvitation expected requestId ttl => .createMemberInvitation expected requestId ttl
  | cancelMemberInvitation inviteShort expected requestId =>
    .cancelMemberInvitation inviteShort expected requestId
  | updateAlias wxShort aliasName expected requestId =>
    .updateAlias wxShort aliasName expected requestId
  | changeUserState action wxShort expected requestId =>
    .changeUserState action wxShort expected requestId
  | transferOwner targetWxShort expected requestId confirmation =>
    .transferOwner targetWxShort expected requestId confirmation
  | createOnboardingSession expected requestId aliasName targetWxShort ttl maxActiveIdentities =>
    .createOnboardingSession expected requestId aliasName targetWxShort ttl maxActiveIdentities
  | cancelOnboardingSession sessionShort expected requestId =>
    .cancelOnboardingSession sessionShort expected requestId

/-- The store after the call, its response, and whether that is one that was on file. -/
def answer (cfg : Config) (env : Env) (g : GatewayStore) :
    AdminCall → Except Raise (GatewayStore × Json × Bool)
  | createMemberInvitation expected requestId ttl =>
    g.createMemberInvitation cfg env expected requestId ttl
  | cancelMemberInvitation inviteShort expected requestId =>
    g.cancelMemberInvitation cfg env inviteShort expected requestId
  | updateAlias wxShort aliasName expected requestId =>
    g.updateAlias cfg env wxShort aliasName expected requestId
  | changeUserState action wxShort expected requestId =>
    g.changeUserState cfg env action wxShort expected requestId
  | transferOwner targetWxShort expected requestId confirmation =>
    g.transferOwner cfg env targetWxShort expected requestId confirmation
  | createOnboardingSession expected requestId aliasName targetWxShort ttl maxActiveIdentities =>
    g.createOnboardingSession cfg env expected requestId aliasName targetWxShort ttl
      maxActiveIdentities
  | cancelOnboardingSession sessionShort expected requestId =>
    g.cancelOnboardingSession cfg env sessionShort expected requestId

def requestId : AdminCall → Json
  | createMemberInvitation _ requestId _ => requestId
  | cancelMemberInvitation _ _ requestId => requestId
  | updateAlias _ _ _ requestId => requestId
  | changeUserState _ _ _ requestId => requestId
  | transferOwner _ _ requestId _ => requestId
  | createOnboardingSession _ requestId _ _ _ _ => requestId
  | cancelOnboardingSession _ _ requestId => requestId

/-- The revision that the call was made for. -/
def expected : AdminCall → Json
  | createMemberInvitation expected _ _ => expected
  | cancelMemberInvitation _ expected _ => expected
  | updateAlias _ _ expected _ => expected
  | changeUserState _ _ expected _ => expected
  | transferOwner _ expected _ _ => expected
  | createOnboardingSession expected _ _ _ _ _ => expected
  | cancelOnboardingSession _ expected _ => expected

/-- The call without its `request_id`, with the alias as it is stored, and without the limit of
    identities, which is no part of the request. -/
def arguments : AdminCall → AdminCall
  | createMemberInvitation expected _ ttl => .createMemberInvitation expected .null ttl
  | cancelMemberInvitation inviteShort expected _ =>
    .cancelMemberInvitation inviteShort expected .null
  | updateAlias wxShort aliasName expected _ => .updateAlias wxShort (strip aliasName) expected .null
  | changeUserState action wxShort expected _ => .changeUserState action wxShort expected .null
  | transferOwner targetWxShort expected _ confirmation =>
    .transferOwner targetWxShort expected .null confirmation
  | createOnboardingSession expected _ aliasName targetWxShort ttl _ =>
    .createOnboardingSession expected .null (strip aliasName) targetWxShort ttl 0
  | cancelOnboardingSession sessionShort expected _ =>
    .cancelOnboardingSession sessionShort expected .null

/-- The `scope` under which the call is filed. -/
def scope : AdminCall → String
  | createMemberInvitation .. => "member_invitation_create"
  | cancelMemberInvitation .. => "member_invitation_cancel"
  | updateAlias .. => "user_alias"
  | changeUserState action .. => "user_" ++ action.text
  | transferOwner .. => "owner_transfer"
  | createOnboardingSession .. => "onboarding_session_create"
  | cancelOnboardingSession .. => "onboarding_session_cancel"

/-- The `payload` under which the call is filed. -/
def payload : AdminCall → Dict
  | createMemberInvitation expected _ ttl => [("revision", expected), ("ttl_seconds", ttl)]
  | cancelMemberInvitation inviteShort expected _ =>
    [("invite_short", .str inviteShort), ("revision", expected)]
  | updateAlias wxShort aliasName expected _ =>
    [("wx_short", .str wxShort), ("revision", expected), ("alias", .str (strip aliasName))]
  | changeUserState action wxShort expected _ =>
    [("wx_short", .str wxShort), ("revision", expected)] ++ action.extra
  | transferOwner targetWxShort expected _ confirmation =>
    [("target_wx_short", .str targetWxShort), ("revision", expected),
      ("confirmation", .str confirmation)]
  | createOnboardingSession expected _ aliasName targetWxShort ttl _ =>
    [("revision", expected), ("alias", .str (strip aliasName)),
      ("target_wx_short", optionalText targetWxShort), ("ttl_seconds", ttl)]
  | cancelOnboardingSession sessionShort expected _ =>
    [("session_short", .str sessionShort), ("revision", expected)]

/-- Which `utc_now()` of the call is the time at which it is filed. -/
def filedAt : AdminCall → ℕ
  | createOnboardingSession .. => 2
  | _ => 1

/-- The operation of a call whose arguments pass the checks that come before the transaction. -/
def operation : AdminCall →
    Except Raise (Config → Env → GatewayStore → Except Raise (GatewayStore × Json × Json))
  | createMemberInvitation expected _ ttl => do
    let seconds ← GatewayStore.ttlSeconds ttl
      (rejecting "invitation_ttl_invalid" "邀请码有效期必须在 60 到 3600 秒之间")
    return fun cfg env => GatewayStore.createMemberInvitationOperation cfg env expected seconds
  | cancelMemberInvitation inviteShort expected _ =>
    return fun cfg env => GatewayStore.cancelMemberInvitationOperation cfg env inviteShort expected
  | updateAlias wxShort aliasName expected _ => do
    let clean ← GatewayStore.cleanAlias aliasName
    return fun cfg env =>
      GatewayStore.mutateUserOperation cfg env (.rename clean) wxShort expected
  | changeUserState action wxShort expected _ => do
    ensure (action = .suspend ∨ action = .resume ∨ action = .revoke)
      (rejecting "user_action_invalid" "用户操作无效")
    return fun cfg env => GatewayStore.mutateUserOperation cfg env action wxShort expected
  | transferOwner targetWxShort expected _ confirmation => do
    ensure (confirmation = "TRANSFER_OWNER")
      (raising "owner_transfer_confirmation_required" "Owner 转移确认词无效" 409)
    return fun cfg env => GatewayStore.transferOwnerOperation cfg env targetWxShort expected
  | createOnboardingSession expected _ aliasName targetWxShort ttl maxActiveIdentities => do
    let clean ← GatewayStore.cleanAlias aliasName
    let seconds ← GatewayStore.ttlSeconds ttl
      (rejecting "onboarding_ttl_invalid" "成员接入有效期必须在 60 到 3600 秒之间")
    ensure (1 ≤ maxActiveIdentities ∧ maxActiveIdentities ≤ GatewayStore.maxWeixinUsers)
      (rejecting "identity_limit_invalid" "活动 ClawBot 上限无效")
    return fun cfg env => GatewayStore.createOnboardingOperation cfg env expected clean targetWxShort
      seconds maxActiveIdentities
  | cancelOnboardingSession sessionShort expected _ =>
    return fun cfg env => GatewayStore.cancelOnboardingOperation cfg env sessionShort expected

/-- The arguments that the checks leave. -/
def Checked : AdminCall → Prop
  | createMemberInvitation _ _ ttl => ∃ n, ttl = .int n
  | changeUserState action _ _ _ => action = .suspend ∨ action = .resume ∨ action = .revoke
  | createOnboardingSession _ _ _ _ ttl _ => ∃ n, ttl = .int n
  | _ => True

/-- The entry is that of the call. -/
def Files (c : AdminCall) (row : MutationRow) : Prop :=
  row.scope = c.scope ∧ row.requestDigest = requestDigest c.scope c.payload

/-- Two calls of one scope with different payloads have one digest. -/
def Collide (c c' : AdminCall) : Prop :=
  c.scope = c'.scope ∧ canonical (.obj c.payload) ≠ canonical (.obj c'.payload) ∧
    requestDigest c.scope c.payload = requestDigest c'.scope c'.payload

variable {cfg : Config} {env : Env} {g g' : GatewayStore} {c : AdminCall}

theorem exec_toCall (cfg : Config) (env : Env) (g : GatewayStore) (c : AdminCall) :
    c.toCall.exec cfg env g = Prod.fst <$> c.answer cfg env g := by
  cases c <;> rfl

/-- Every call of the administrator checks its arguments and is then one procedure. -/
theorem answer_eq (cfg : Config) (env : Env) (g : GatewayStore) (c : AdminCall) :
    c.answer cfg env g = c.operation >>= fun operation =>
      g.administer c.requestId c.scope c.payload (env.now c.filedAt) (operation cfg env) := by
  cases c with
  | createMemberInvitation =>
    simp only [answer, operation, GatewayStore.createMemberInvitation, bind_assoc, pure_bind]
    rfl
  | cancelMemberInvitation => rfl
  | updateAlias =>
    simp only [answer, operation, GatewayStore.updateAlias, GatewayStore.cleanAlias, bind_assoc,
      pure_bind]
    rfl
  | changeUserState =>
    simp only [answer, operation, GatewayStore.changeUserState, bind_assoc, pure_bind]
    rfl
  | transferOwner =>
    simp only [answer, operation, GatewayStore.transferOwner, bind_assoc, pure_bind]
    rfl
  | createOnboardingSession =>
    simp only [answer, operation, GatewayStore.createOnboardingSession, GatewayStore.cleanAlias,
      bind_assoc, pure_bind]
    rfl
  | cancelOnboardingSession => rfl

theorem int_of_ttlSeconds {v : Json} {e : Raise} {n : ℤ}
    (h : GatewayStore.ttlSeconds v e = .ok n) : ∃ n, v = .int n := by
  rw [GatewayStore.ttlSeconds, orRaise_eq_ok, Option.filter_eq_some_iff] at h
  cases v with
  | int n => exact ⟨n, rfl⟩
  | _ => cases h.1

end AdminCall

/-! ## What an operation does -/

/-- The document shows a one-time code. -/
def showsCode : Json → Bool
  | .obj items => Dict.has items "code"
  | _ => false

/-- What an operation does that expects a revision and files a response. -/
structure Applied (expected : Json) (g g' : GatewayStore) (filed : Json) : Prop where
  expected : expected.asInt? = some (g.usersRevision : ℤ)
  mutations : g'.mutations = g.mutations
  revision : g'.usersRevision = g.usersRevision + 1
  filed : showsCode filed = false

namespace GatewayStore

variable {cfg : Config} {env : Env} {g g' : GatewayStore} {expected filed response : Json}

variable {ttl : ℤ} {action : UserAction} {wxShort : String}

theorem createMemberInvitationOperation_applied
    (hs : createMemberInvitationOperation cfg env expected ttl g = .ok (g', filed, response)) :
    Applied expected g g' filed := by
  simp only [createMemberInvitationOperation, assertRevision, bind_eq_ok, ensure_eq_ok, pure_eq_ok,
    Prod.mk.injEq] at hs
  obtain ⟨_, hexpected, _, _, _, _, rfl, rfl, _⟩ := hs
  exact ⟨hexpected, rfl, rfl, rfl⟩

theorem cancelMemberInvitationOperation_applied {inviteShort : String}
    (hs : cancelMemberInvitationOperation cfg env inviteShort expected g =
      .ok (g', filed, response)) : Applied expected g g' filed := by
  simp only [cancelMemberInvitationOperation, assertRevision, bind_eq_ok, ensure_eq_ok, pure_eq_ok,
    Prod.mk.injEq] at hs
  obtain ⟨_, hexpected, _, _, _, _, rfl, rfl, _⟩ := hs
  exact ⟨hexpected, rfl, rfl, rfl⟩

theorem setPrincipalBindingState_tables (g : GatewayStore) (p : String) (state : Status)
    (now : String) : ∃ identities bindings,
      g.setPrincipalBindingState p state now =
        { g with identities := identities, bindings := bindings } := by
  unfold setPrincipalBindingState
  split
  · exact ⟨g.identities, g.bindings, rfl⟩
  · dsimp only
    split_ifs <;> exact ⟨_, _, rfl⟩

theorem applyUserAction_tables {row : WeixinUser} {now : String}
    (hs : g.applyUserAction row action now = .ok g') : ∃ users identities bindings,
      g' = { g with users := users, identities := identities, bindings := bindings } := by
  unfold applyUserAction at hs
  cases action with
  | rename =>
    rw [pure_eq_ok] at hs
    exact ⟨_, _, _, hs.symm⟩
  | suspend | resume | revoke =>
    simp only [bind_eq_ok, pure_eq_ok] at hs
    obtain ⟨_, _, rfl⟩ := hs
    obtain ⟨identities, bindings, heq⟩ := setPrincipalBindingState_tables _ _ _ _
    exact ⟨_, identities, bindings, heq⟩

theorem mutateUserOperation_tables
    (hs : mutateUserOperation cfg env action wxShort expected g = .ok (g', filed, response)) :
    expected.asInt? = some (g.usersRevision : ℤ) ∧ showsCode filed = false ∧
      ∃ users identities bindings, g' =
        { g.nextRevision with users := users, identities := identities, bindings := bindings } := by
  simp only [mutateUserOperation, assertRevision, bind_eq_ok, ensure_eq_ok, pure_eq_ok,
    Prod.mk.injEq] at hs
  obtain ⟨_, hexpected, row, _, _, _, g₁, haction, _, _, rfl, rfl, _⟩ := hs
  obtain ⟨users, identities, bindings, rfl⟩ := applyUserAction_tables haction
  exact ⟨hexpected, rfl, _, identities, bindings, rfl⟩

theorem mutateUserOperation_applied
    (hs : mutateUserOperation cfg env action wxShort expected g = .ok (g', filed, response)) :
    Applied expected g g' filed := by
  obtain ⟨hexpected, hfiled, users, identities, bindings, rfl⟩ := mutateUserOperation_tables hs
  exact ⟨hexpected, rfl, rfl, hfiled⟩

theorem transferOwnerOperation_applied {targetWxShort : String}
    (hs : transferOwnerOperation cfg env targetWxShort expected g = .ok (g', filed, response)) :
    Applied expected g g' filed := by
  simp only [transferOwnerOperation, assertRevision, bind_eq_ok, ensure_eq_ok, pure_eq_ok,
    Prod.mk.injEq] at hs
  obtain ⟨_, hexpected, _, _, _, _, _, _, _, _, rfl, rfl, _⟩ := hs
  exact ⟨hexpected, rfl, rfl, rfl⟩

theorem createOnboardingOperation_applied {aliasName : String} {targetWxShort : Option String}
    {maxActiveIdentities : ℤ}
    (hs : createOnboardingOperation cfg env expected aliasName targetWxShort ttl
      maxActiveIdentities g = .ok (g', filed, response)) : Applied expected g g' filed := by
  simp only [createOnboardingOperation, assertRevision, bind_eq_ok, ensure_eq_ok, pure_eq_ok,
    Prod.mk.injEq] at hs
  obtain ⟨_, hexpected, _, _, _, _, _, _, _, _, _, _, rfl, rfl, _⟩ := hs
  obtain ⟨identities, heq⟩ := g.expireSessions_tables (env.now 0)
  rw [heq]
  exact ⟨hexpected, rfl, rfl, rfl⟩

theorem cancelOnboardingOperation_applied {sessionShort : String}
    (hs : cancelOnboardingOperation cfg env sessionShort expected g = .ok (g', filed, response)) :
    Applied expected g g' filed := by
  simp only [cancelOnboardingOperation, assertRevision, bind_eq_ok, ensure_eq_ok, pure_eq_ok,
    Prod.mk.injEq] at hs
  obtain ⟨_, hexpected, s, _, _, _, rfl, rfl, _⟩ := hs
  cases s.identityId.filter fun i => i ≠ "" <;> exact ⟨hexpected, rfl, rfl, rfl⟩

end GatewayStore

namespace AdminCall

variable {cfg : Config} {env : Env} {g g' g₁ : GatewayStore} {c c' : AdminCall} {id : String}
  {filed response : Json} {replayed : Bool}
  {op : Config → Env → GatewayStore → Except Raise (GatewayStore × Json × Json)}

/-- A call that passes the checks. -/
theorem operation_ok (hop : c.operation = .ok op) :
    c.Checked ∧ ∀ cfg env g g₁ filed response, op cfg env g = .ok (g₁, filed, response) →
      Applied c.expected g g₁ filed := by
  cases c with
  | createMemberInvitation =>
    simp only [operation, bind_eq_ok, pure_eq_ok] at hop
    obtain ⟨_, httl, rfl⟩ := hop
    exact ⟨int_of_ttlSeconds httl, fun _ _ _ _ _ _ hs =>
      GatewayStore.createMemberInvitationOperation_applied hs⟩
  | cancelMemberInvitation =>
    rw [operation, pure_eq_ok] at hop
    subst hop
    exact ⟨trivial, fun _ _ _ _ _ _ hs => GatewayStore.cancelMemberInvitationOperation_applied hs⟩
  | updateAlias =>
    simp only [operation, bind_eq_ok, pure_eq_ok] at hop
    obtain ⟨_, _, rfl⟩ := hop
    exact ⟨trivial, fun _ _ _ _ _ _ hs => GatewayStore.mutateUserOperation_applied hs⟩
  | changeUserState =>
    simp only [operation, bind_eq_ok, ensure_eq_ok, pure_eq_ok] at hop
    obtain ⟨_, haction, rfl⟩ := hop
    exact ⟨haction, fun _ _ _ _ _ _ hs => GatewayStore.mutateUserOperation_applied hs⟩
  | transferOwner =>
    simp only [operation, bind_eq_ok, pure_eq_ok] at hop
    obtain ⟨_, _, rfl⟩ := hop
    exact ⟨trivial, fun _ _ _ _ _ _ hs => GatewayStore.transferOwnerOperation_applied hs⟩
  | createOnboardingSession =>
    simp only [operation, bind_eq_ok, pure_eq_ok] at hop
    obtain ⟨_, _, _, httl, _, _, rfl⟩ := hop
    exact ⟨int_of_ttlSeconds httl, fun _ _ _ _ _ _ hs =>
      GatewayStore.createOnboardingOperation_applied hs⟩
  | cancelOnboardingSession =>
    rw [operation, pure_eq_ok] at hop
    subst hop
    exact ⟨trivial, fun _ _ _ _ _ _ hs => GatewayStore.cancelOnboardingOperation_applied hs⟩

/-- How a call is answered. -/
inductive Answered (g : GatewayStore) (c : AdminCall) (id : String) :
    GatewayStore → Json → Bool → Prop where
  /-- By the response that is on file. -/
  | replayed {row : MutationRow} : g.mutations.get? id = some row → c.Files row →
      Answered g c id g row.response true
  /-- By the operation, which expected the revision of the store. -/
  | carriedOut {g₁ : GatewayStore} {row : MutationRow} {mutations : Table MutationRow.requestId}
      {response : Json} : g.mutations.get? id = none → row.requestId = id → c.Files row →
      Applied c.expected g g₁ row.response → g.mutations.insert? row = some mutations →
      Answered g c id { g₁ with mutations := mutations } response false

theorem answer_ok (hs : c.answer cfg env g = .ok (g', response, replayed)) :
    c.Checked ∧ ∃ id, requestIdOf c.requestId = .ok id ∧ Answered g c id g' response replayed := by
  rw [answer_eq, bind_eq_ok] at hs
  obtain ⟨op, hop, hs⟩ := hs
  obtain ⟨hchecked, happlied⟩ := operation_ok hop
  obtain ⟨id, hid, ⟨row, hget, hscope, hdigest, rfl, hr⟩ | ⟨hnone, g₁, filed, _, mutations, hrun,
    hinsert, rfl, hr⟩⟩ := GatewayStore.administer_cases hs
  · cases hr
    exact ⟨hchecked, id, hid, .replayed hget ⟨hscope, hdigest⟩⟩
  · cases hr
    have happlied := happlied _ _ _ _ _ _ hrun
    rw [happlied.mutations] at hinsert
    exact ⟨hchecked, id, hid, .carriedOut hnone rfl ⟨rfl, rfl⟩ happlied hinsert⟩

/-- A call that passes the checks is answered by what is on file. -/
theorem replayed_onFile (cfg : Config) (hop : c.operation = .ok op)
    (hid : requestIdOf c.requestId = .ok id) :
    Replayed (fun _ => True) (fun g k => g.mutations.get? k) id c.Files
      (fun row (a : Json × Bool) => a = (row.response, true))
      (fun (env : Env) g => c.answer cfg env g) := by
  refine ⟨fun env g g' ⟨_, _⟩ _ hs => ?_, fun env g row _ hget hfiles => ?_,
    fun env g row hget hother => ?_⟩
  · obtain ⟨_, id₁, hid₁, hanswered⟩ := answer_ok hs
    rw [hid] at hid₁
    cases hid₁
    cases hanswered with
    | replayed hget hfiles => exact ⟨_, hget, hfiles⟩
    | carriedOut hnone hkey hfiles _ hinsert =>
      exact ⟨_, (Table.get?_insert? hinsert _).trans (if_pos hkey.symm), hfiles⟩
  · refine ⟨(row.response, true), ?_, rfl⟩
    unfold Files at hfiles
    rw [answer_eq, hop, ok_bind, GatewayStore.administer, hid, ok_bind]
    simp only [hget, ensure_bind_of hfiles]
    rfl
  · refine ⟨raising "idempotency_conflict" "request_id 已用于不同请求" 409, ?_⟩
    unfold Files at hother
    rw [answer_eq, hop, ok_bind, GatewayStore.administer, hid, ok_bind]
    simp only [hget, ensure, if_neg hother]
    rfl

/-! ## Other arguments -/

theorem optionalText_same {x y : Option String} (h : (optionalText x).Same (optionalText y)) :
    x = y := by
  cases x <;> cases y <;> cases h <;> rfl

/-- The payload is a `dict` that its dump determines. -/
theorem payload_plain (hchecked : c.Checked) (hexact : c.expected.exact = true) :
    (c.payload.map Prod.fst).Nodup ∧ (Json.obj c.payload).exact = true := by
  cases c with
  | createMemberInvitation =>
    obtain ⟨n, rfl⟩ := hchecked
    simp_all [payload, expected, Json.exact, exactPairs]
  | cancelMemberInvitation | cancelOnboardingSession | updateAlias | transferOwner =>
    simp_all [payload, expected, Json.exact, exactPairs]
  | changeUserState =>
    obtain rfl | rfl | rfl := hchecked <;>
      simp_all [payload, expected, UserAction.extra, Json.exact, exactPairs]
  | createOnboardingSession _ _ _ target =>
    obtain ⟨n, rfl⟩ := hchecked
    cases target <;> simp_all [payload, expected, optionalText, Json.exact, exactPairs]

variable {n : ℤ}

theorem eq_int_of_asInt? {v : Json} (h : v.asInt? = some n) : v = .int n := by
  cases v with
  | int => exact congrArg Json.int (Option.some.inj h)
  | _ => cases h

theorem payload_revision (c : AdminCall) : c.payload.get "revision" = c.expected := by
  cases c <;> rfl

/-- Two calls with one scope and one dump, the first of them for a revision that is an integer,
    have the same arguments. -/
theorem arguments_eq (hc : c.Checked) (hc' : c'.Checked) (hexpected : c.expected = .int n)
    (hexact : c'.expected.exact = true) (hscope : c.scope = c'.scope)
    (hpayload : canonical (.obj c.payload) = canonical (.obj c'.payload)) :
    c.arguments = c'.arguments := by
  obtain ⟨hnodup, hplain⟩ := payload_plain hc (by rw [hexpected]; rfl)
  obtain ⟨hnodup', hplain'⟩ := payload_plain hc' hexact
  have hsame := Json.Same.get (canonical_inj hplain hplain' hpayload) hnodup hnodup'
  have hrevision : c'.expected = .int n := by
    refine Json.Same.int ?_
    rw [← hexpected, ← payload_revision c, ← payload_revision c']
    exact hsame "revision"
  cases c with
  | createMemberInvitation =>
    cases c' with
    | createMemberInvitation =>
      cases hexpected
      cases hrevision
      obtain ⟨m, rfl⟩ := hc
      have httl := Json.Same.int (hsame "ttl_seconds")
      exact congrArg (createMemberInvitation _ _) httl.symm
    | changeUserState action => cases action <;> simp [scope, UserAction.text] at hscope
    | _ => simp [scope] at hscope
  | cancelMemberInvitation =>
    cases c' with
    | cancelMemberInvitation =>
      cases hexpected
      cases hrevision
      have hshort := Json.Same.str (hsame "invite_short")
      exact congrArg (cancelMemberInvitation · _ _) hshort
    | changeUserState action => cases action <;> simp [scope, UserAction.text] at hscope
    | _ => simp [scope] at hscope
  | updateAlias =>
    cases c' with
    | updateAlias =>
      cases hexpected
      cases hrevision
      have hshort := Json.Same.str (hsame "wx_short")
      have halias := Json.Same.str (hsame "alias")
      exact congrArg₂ (updateAlias · · _ _) hshort halias
    | changeUserState action =>
      obtain rfl | rfl | rfl := hc' <;> simp [scope, UserAction.text] at hscope
    | _ => simp [scope] at hscope
  | changeUserState action =>
    cases c' with
    | changeUserState action' =>
      cases hexpected
      cases hrevision
      have hshort := Json.Same.str (hsame "wx_short")
      have haction : action = action' := by
        obtain rfl | rfl | rfl := hc <;> obtain rfl | rfl | rfl := hc' <;>
          first | rfl | simp [scope, UserAction.text] at hscope
      exact congrArg₂ (changeUserState · · _ _) haction hshort
    | updateAlias => obtain rfl | rfl | rfl := hc <;> simp [scope, UserAction.text] at hscope
    | _ => cases action <;> simp [scope, UserAction.text] at hscope
  | transferOwner =>
    cases c' with
    | transferOwner =>
      cases hexpected
      cases hrevision
      have hshort := Json.Same.str (hsame "target_wx_short")
      have hconfirmation := Json.Same.str (hsame "confirmation")
      exact congrArg₂ (transferOwner · _ _ ·) hshort hconfirmation
    | changeUserState action => cases action <;> simp [scope, UserAction.text] at hscope
    | _ => simp [scope] at hscope
  | createOnboardingSession =>
    cases c' with
    | createOnboardingSession _ _ _ _ ttl' =>
      cases hexpected
      cases hrevision
      obtain ⟨m, rfl⟩ := hc
      have halias := Json.Same.str (hsame "alias")
      have htarget := optionalText_same (hsame "target_wx_short")
      have httl : ttl' = .int m := Json.Same.int (hsame "ttl_seconds")
      show createOnboardingSession _ _ (strip _) _ _ _ = createOnboardingSession _ _ (strip _) _ _ _
      rw [halias, htarget, httl]
    | changeUserState action => cases action <;> simp [scope, UserAction.text] at hscope
    | _ => simp [scope] at hscope
  | cancelOnboardingSession =>
    cases c' with
    | cancelOnboardingSession =>
      cases hexpected
      cases hrevision
      have hshort := Json.Same.str (hsame "session_short")
      exact congrArg (cancelOnboardingSession · _ _) hshort
    | changeUserState action => cases action <;> simp [scope, UserAction.text] at hscope
    | _ => simp [scope] at hscope

end AdminCall

/-! ## Runs -/

namespace GatewayStore

variable {cfg : Config} {g g' : GatewayStore} {call : Env × GatewayCall}

/-- What is filed shows no one-time code. -/
def FiledPlain (g : GatewayStore) : Prop :=
  ∀ id row, g.mutations.get? id = some row → showsCode row.response = false

/-- The filed requests stay, and the revision does not go back. -/
structure Later (g g' : GatewayStore) : Prop where
  remembers : Remembers (fun (g : GatewayStore) id => g.mutations.get? id) g g'
  revision : g.usersRevision ≤ g'.usersRevision
  plain : g.FiledPlain → g'.FiledPlain

theorem Later.refl (g : GatewayStore) : g.Later g := ⟨.refl g, le_rfl, id⟩

theorem Later.trans {g₁ : GatewayStore} (h : g.Later g₁) (h' : g₁.Later g') : g.Later g' :=
  ⟨h.remembers.trans h'.remembers, h.revision.trans h'.revision, fun hp => h'.plain (h.plain hp)⟩

theorem Kept.later (h : g.Kept g') : g.Later g' := by
  refine ⟨.of_eq fun id => by rw [h.mutations], h.revision, fun hp id row hget => hp id row ?_⟩
  rwa [h.mutations] at hget

variable {env : Env} {c : AdminCall}

theorem answer_later {response : Json} {replayed : Bool}
    (hs : c.answer cfg env g = .ok (g', response, replayed)) : g.Later g' := by
  obtain ⟨_, id, _, hanswered⟩ := AdminCall.answer_ok hs
  cases hanswered with
  | replayed => exact .refl g
  | carriedOut hnone hkey _ happlied hinsert =>
    refine ⟨fun k e he => Table.get?_insert?_of_get? hinsert he, ?_, fun hp k row hget => ?_⟩
    · rw [happlied.revision]
      exact Nat.le_succ _
    · obtain ⟨_, rfl⟩ | ⟨_, hold⟩ := (Table.get?_insert?_eq_some hinsert).mp hget
      · exact happlied.filed
      · exact hp k row hold

/-- A call is one of the administrator, or it files nothing and takes the revision on. -/
theorem exec_cases {c : GatewayCall} (hs : c.exec cfg env g = .ok g') :
    (∃ a : AdminCall, c = a.toCall) ∨ g.Kept g' := by
  cases c with
  | createMemberInvitation expected requestId ttl =>
    exact .inl ⟨.createMemberInvitation expected requestId ttl, rfl⟩
  | cancelMemberInvitation inviteShort expected requestId =>
    exact .inl ⟨.cancelMemberInvitation inviteShort expected requestId, rfl⟩
  | updateAlias wxShort aliasName expected requestId =>
    exact .inl ⟨.updateAlias wxShort aliasName expected requestId, rfl⟩
  | changeUserState action wxShort expected requestId =>
    exact .inl ⟨.changeUserState action wxShort expected requestId, rfl⟩
  | transferOwner target expected requestId confirmation =>
    exact .inl ⟨.transferOwner target expected requestId confirmation, rfl⟩
  | createOnboardingSession expected requestId aliasName target ttl maxActiveIdentities =>
    exact .inl ⟨.createOnboardingSession expected requestId aliasName target ttl
      maxActiveIdentities, rfl⟩
  | cancelOnboardingSession sessionShort expected requestId =>
    exact .inl ⟨.cancelOnboardingSession sessionShort expected requestId, rfl⟩
  | migrateIdentityAllowlist =>
    obtain ⟨_, hs⟩ := fst_eq_ok.mp hs
    exact .inr (migrateIdentityAllowlist_aside hs).toKept
  | migrateLegacyIdentity =>
    obtain ⟨_, hs⟩ := fst_eq_ok.mp hs
    exact .inr (migrateLegacyIdentity_aside hs).toKept
  | claimMemberInvitation =>
    obtain ⟨_, hs⟩ := fst_eq_ok.mp hs
    exact .inr (claimMemberInvitation_aside hs).toKept
  | setOnboardingQrState => exact .inr (setOnboardingQrState_kept hs)
  | attachOnboardingIdentity =>
    obtain ⟨_, hs⟩ := fst_eq_ok.mp hs
    exact .inr (attachOnboardingIdentity_kept hs)
  | claimOnboarding =>
    obtain ⟨_, hs⟩ := fst_eq_ok.mp hs
    exact .inr (claimOnboarding_kept hs)
  | expireOnboardingSessions =>
    cases hs
    exact .inr (g.expireSessions_kept (env.now 0))

theorem step_later (cfg : Config) (g : GatewayStore) (call : Env × GatewayCall) :
    g.Later (g.step cfg call) := by
  obtain ⟨env, c⟩ := call
  unfold step
  dsimp only
  cases hs : c.exec cfg env g with
  | error e => exact .refl g
  | ok g' =>
    obtain ⟨a, rfl⟩ | hkept := exec_cases hs
    · rw [AdminCall.exec_toCall, map_eq_ok] at hs
      obtain ⟨⟨g₁, response, replayed⟩, hs, rfl⟩ := hs
      exact answer_later hs
    · exact hkept.later

theorem run_later (cfg : Config) (g : GatewayStore) (calls : List (Env × GatewayCall)) :
    g.Later (runFrom (step cfg) g calls) := by
  induction calls generalizing g with
  | nil => exact .refl g
  | cons call calls ih => exact (step_later cfg g call).trans (ih _)

/-- A call that answers with the id of a filed request leaves the store alone and answers what is
    on file, unless it has another digest; then it raises. -/
theorem answer_onFile {id : String} {row : MutationRow} (hid : requestIdOf c.requestId = .ok id)
    (hget : g.mutations.get? id = some row) :
    ∀ a, c.answer cfg env g = .ok a → a = (g, row.response, true) ∧ c.Checked ∧ c.Files row := by
  rintro ⟨g', response, replayed⟩ hs
  obtain ⟨hchecked, id₁, hid₁, hanswered⟩ := AdminCall.answer_ok hs
  rw [hid] at hid₁
  cases hid₁
  cases hanswered with
  | replayed hget₁ hfiles =>
    rw [hget] at hget₁
    cases hget₁
    exact ⟨rfl, hchecked, hfiles⟩
  | carriedOut hnone =>
    rw [hget] at hnone
    cases hnone

/-- The gateway starts with its owner. -/
def beforeAlias : List (Env × GatewayCall) := [(rescanEnv, .migrateIdentityAllowlist ["owner"])]

/-- The owner gets an alias. -/
def aliasCall (aliasName : String) : AdminCall :=
  .updateAlias "WX-AAAAAAAAAA" aliasName (.int 1) (.str "request-00000001")

theorem aliasCall_effective : ∃ g' response,
    (aliasCall "A").answer rescanConfig rescanEnv (runFrom (step rescanConfig) created beforeAlias) =
      .ok (g', response, false) := by
  have hok : (((aliasCall "A").answer rescanConfig rescanEnv
      (runFrom (step rescanConfig) created beforeAlias)).toOption.map fun a => a.2.2) = some false := by
    decide +kernel
  obtain ⟨⟨g', response, replayed⟩, hsome, rfl⟩ := Option.map_eq_some_iff.mp hok
  exact ⟨g', response, toOption_eq_some.mp hsome⟩

end GatewayStore

end HomeAddons.Gateway
