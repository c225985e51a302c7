import HomeAddons.Gateway.Directory
import HomeAddons.Gateway.Onboarding

/-!
# Weixin Gateway: what the calls of the store do to the directory

`GatewayStore.directory` is the directory that the tables of a store show. Every call that goes
through takes it to the next one by a turn (`GatewayStore.Turns`), after identities may have been
given up whose sessions expired.
-/

namespace HomeAddons.Gateway

open HomeAddons.Common

/-- The status that an action gives to its user. -/
def UserAction.status : UserAction → Option Status
  | .rename _ => none
  | .suspend => some .suspended
  | .resume => some .active
  | .revoke => some .revoked

/-! ## The tables that an operation writes -/

namespace GatewayStore

variable {cfg : Config} {g g' : GatewayStore}

variable {u : WeixinUser}

theorem insertUser_tables (hs : g.insertUser u = .ok g') :
    ∃ users, g' = { g with users := users } := by
  simp only [insertUser, bind_eq_ok, pure_eq_ok] at hs
  obtain ⟨_, _, users, _, rfl⟩ := hs
  exact ⟨users, rfl⟩

theorem insertLink_tables {link : ConversationLink} (hs : g.insertLink link = .ok g') :
    ∃ links, g' = { g with links := links } := by
  simp only [insertLink, bind_eq_ok, pure_eq_ok] at hs
  obtain ⟨_, _, links, _, rfl⟩ := hs
  exact ⟨links, rfl⟩

theorem addUser_tables (hs : g.addUser cfg u = .ok g') :
    ∃ users links, g' = { g.nextRevision with users := users, links := links } := by
  simp only [addUser, bind_eq_ok] at hs
  obtain ⟨g₁, huser, hlink⟩ := hs
  obtain ⟨users, rfl⟩ := insertUser_tables huser
  obtain ⟨links, rfl⟩ := insertLink_tables hlink
  exact ⟨users, links, rfl⟩

theorem putBinding_tables {b : Binding} (hs : g.putBinding b = .ok g') :
    g' = { g with bindings := g.bindings.upsert b } := by
  simp only [putBinding, bind_eq_ok, pure_eq_ok] at hs
  obtain ⟨_, _, rfl⟩ := hs
  rfl

theorem upsertIdentity_tables {row : Identity} {f : Identity → Identity}
    (hs : g.upsertIdentity row f = .ok g') : ∃ identities, g' = { g with identities := identities } := by
  simp only [upsertIdentity, bind_eq_ok, pure_eq_ok] at hs
  obtain ⟨_, _, rfl⟩ := hs
  exact ⟨_, rfl⟩

/-- An expiry ends the sessions that are due, and leaves all but sessions and identities alone. -/
theorem expireSessions_tables (g : GatewayStore) (now : String) :
    ∃ identities, g.expireSessions now = { g with
      identities := identities
      sessions := g.sessions.updateWhere
        (fun s => decide (s.state.isOpen = true ∧ s.expiresAt ≤ now))
        fun s => { s with state := .expired, updatedAt := now } } := by
  have hfold : ∀ (due : List String) (g : GatewayStore), ∃ identities,
      due.foldl (fun g i => g.dropPending i (Identity.dropped "stopped" now)) g =
        { g with identities := identities } := by
    intro due
    induction due with
    | nil => exact fun g => ⟨g.identities, rfl⟩
    | cons i due ih =>
      intro g
      obtain ⟨identities, heq⟩ := ih (g.dropPending i (Identity.dropped "stopped" now))
      exact ⟨identities, heq⟩
  exact hfold _ _

end GatewayStore

/-! ## The directory of a store -/

def Binding.seat (b : Binding) : Seat := ⟨b.identityId, b.bindingType, b.state⟩

def WeixinUser.standing (u : WeixinUser) : Role × Status := (u.role, u.status)

def GatewayStore.directory (g : GatewayStore) : Directory :=
  ⟨g.users.view WeixinUser.standing, g.identities.view Identity.state, g.bindings.view Binding.seat⟩

namespace GatewayStore

variable {cfg : Config} {env : Env} {g g' : GatewayStore}

@[simp] theorem directory_nextRevision : g.nextRevision.directory = g.directory := rfl

variable
  {p i scope now wxShort text aliasName targetWxShort sessionId identityId accountHash : String}
  {principalId privateUserId : String} {f : Identity → Identity} {u row : WeixinUser} {b : Binding}
  {requestId expected ttl : Json} {payload : Dict}
  {operation : GatewayStore → Except Raise (GatewayStore × Json × Json)} {r : Json × Bool}
  {status : Status} {action : UserAction} {s : Session}

/-- An update of users that leaves their roles and their states alone. -/
theorem directory_update_user {f : WeixinUser → WeixinUser}
    (hf : ∀ u, (f u).principalId = u.principalId) (hstanding : ∀ u, (f u).standing = u.standing) :
    ({ g with users := g.users.update p f hf } : GatewayStore).directory = g.directory :=
  Directory.ext (Table.view_updateWhere _ hf hstanding) rfl rfl

theorem insertUser_ok (hs : g.insertUser u = .ok g') :
    g.users.get? u.principalId = none ∧
      g'.directory = ⟨Function.update g.directory.user u.principalId (some u.standing),
        g.directory.identity, g.directory.seat⟩ := by
  simp only [insertUser, bind_eq_ok, ensure_eq_ok, orRaise_eq_ok, pure_eq_ok] at hs
  obtain ⟨_, _, users, hT, rfl⟩ := hs
  exact ⟨Table.get?_of_insert? hT, Directory.ext (Table.view_insert? _ hT) rfl rfl⟩

theorem insertLink_ok {link : ConversationLink} (hs : g.insertLink link = .ok g') :
    g'.directory = g.directory := by
  simp only [insertLink, bind_eq_ok, orRaise_eq_ok, pure_eq_ok] at hs
  obtain ⟨_, _, links, _, rfl⟩ := hs
  rfl

theorem addUser_ok (hs : g.addUser cfg u = .ok g') :
    g.directory.user u.principalId = none ∧
      g'.directory = ⟨Function.update g.directory.user u.principalId (some u.standing),
        g.directory.identity, g.directory.seat⟩ := by
  simp only [addUser, bind_eq_ok] at hs
  obtain ⟨g₁, hs₁, hs⟩ := hs
  obtain ⟨hnone, heq⟩ := insertUser_ok hs₁
  exact ⟨Table.view_of_get?_none _ hnone, (insertLink_ok hs).trans heq⟩

theorem putBinding_ok (hs : g.putBinding b = .ok g') :
    (∃ state, g.directory.identity b.identityId = some state) ∧
      g'.directory = ⟨g.directory.user, g.directory.identity,
        Function.update g.directory.seat b.principalId (some b.seat)⟩ := by
  simp only [putBinding, bind_eq_ok, ensure_eq_ok, pure_eq_ok] at hs
  obtain ⟨_, hbindable, rfl⟩ := hs
  simp only [bindable, decide_eq_true_eq] at hbindable
  obtain ⟨i, hi⟩ := Option.isSome_iff_exists.mp hbindable.1
  exact ⟨⟨i.state, Table.view_of_get? _ hi⟩, Directory.ext rfl rfl (Table.view_upsert _ _)⟩

theorem insertBinding_ok (hs : g.insertBinding b = .ok g') : g.putBinding b = .ok g' := by
  simp only [insertBinding, bind_eq_ok] at hs
  obtain ⟨_, _, hs⟩ := hs
  exact hs

theorem upsertIdentity_ok {row : Identity} (hf : ∀ i, (f i).identityId = i.identityId)
    (hs : g.upsertIdentity row f = .ok g') :
    g'.directory = ⟨g.directory.user,
      Function.update g.directory.identity row.identityId
        (some (((g.identities.get? row.identityId).map f).getD row).state), g.directory.seat⟩ := by
  simp only [upsertIdentity, bind_eq_ok, pure_eq_ok] at hs
  obtain ⟨_, _, rfl⟩ := hs
  have hid : (((g.identities.get? row.identityId).map f).getD row).identityId = row.identityId := by
    cases hget : g.identities.get? row.identityId with
    | none => rfl
    | some i => exact (hf i).trans (Table.key_of_get? hget)
  refine Directory.ext rfl ?_ rfl
  show (g.identities.upsert _).view _ = _
  rw [Table.view_upsert, hid]
  rfl

theorem directory_dropPending (hf : ∀ x, (f x).identityId = x.identityId)
    (hrevoked : ∀ x, (f x).state = .revoked) :
    (g.dropPending i f hf).directory = g.directory.dropped (fun j => decide (j = i)) := by
  refine Directory.ext rfl (funext fun q => ?_) rfl
  show ((g.identities.updateWhere _ f hf).get? q).map Identity.state =
    if decide (q = i) = true ∧ (g.identities.get? q).map Identity.state = some .pendingPairing then
      some .revoked else (g.identities.get? q).map Identity.state
  rw [Table.get?_updateWhere]
  cases hget : g.identities.get? q with
  | none => simp
  | some x =>
    have hid : x.identityId = q := Table.key_of_get? hget
    by_cases hx : q = i ∧ x.state = .pendingPairing
    · simp [hid, hx, hrevoked]
    · simp [hid, hx]

theorem expireSessions_dropped (now : String) :
    ∃ S, (g.expireSessions now).directory = g.directory.dropped S := by
  have hfold : ∀ (due : List String) (g : GatewayStore), ∃ S,
      (due.foldl (fun g i => g.dropPending i (Identity.dropped "stopped" now)) g).directory =
        g.directory.dropped S := by
    intro due
    induction due with
    | nil => exact fun g => ⟨fun _ => false, (Directory.dropped_false _).symm⟩
    | cons i due ih =>
      intro g
      obtain ⟨S, hS⟩ := ih (g.dropPending i (Identity.dropped "stopped" now))
      have hdrop : (g.dropPending i (Identity.dropped "stopped" now)).directory =
          g.directory.dropped fun j => decide (j = i) := directory_dropPending _ fun _ => rfl
      exact ⟨fun j => decide (j = i) || S j,
        hS.trans ((congrArg (Directory.dropped · S) hdrop).trans (Directory.dropped_dropped _ _ _))⟩
  exact hfold _ _

/-- A turn, after identities may have been given up whose sessions expired. -/
def Turns (g : GatewayStore) (t : Directory.Turn) (g' : GatewayStore) : Prop :=
  ∃ S, (g.directory.dropped S).Step t g'.directory

theorem Turns.of_step {t : Directory.Turn} (hs : g.directory.Step t g'.directory) : g.Turns t g' :=
  ⟨fun _ => false, by rwa [Directory.dropped_false]⟩

theorem Turns.idle (S : String → Bool) (heq : g'.directory = g.directory.dropped S) :
    g.Turns .idle g' := ⟨S, by rw [heq]; exact .idle⟩

theorem Turns.refl (heq : g'.directory = g.directory) : g.Turns .idle g' :=
  .of_step (by rw [heq]; exact .idle)

/-! ## Requests of the administrator -/

/-- The request was carried out before, and its response is on file. -/
def onFile (g : GatewayStore) (requestId : Json) : Bool :=
  (requestIdOf requestId).toOption.any fun id => (g.mutations.get? id).isSome

/-- A request gets the response that is on file, or it is carried out and filed. -/
theorem administer_cases (hs : g.administer requestId scope payload now operation = .ok (g', r)) :
    ∃ id, requestIdOf requestId = .ok id ∧
      ((∃ row, g.mutations.get? id = some row ∧ row.scope = scope ∧
          row.requestDigest = requestDigest scope payload ∧ g' = g ∧ r = (row.response, true)) ∨
        g.mutations.get? id = none ∧ ∃ g₁ filed response mutations,
          operation g = .ok (g₁, filed, response) ∧
          g₁.mutations.insert? ⟨id, scope, requestDigest scope payload, filed, now⟩ =
            some mutations ∧
          g' = { g₁ with mutations := mutations } ∧ r = (response, false)) := by
  simp only [administer, bind_eq_ok] at hs
  obtain ⟨id, hid, hs⟩ := hs
  refine ⟨id, hid, ?_⟩
  cases hget : g.mutations.get? id with
  | some row =>
    simp only [hget, bind_eq_ok, ensure_eq_ok, pure_eq_ok, Prod.mk.injEq] at hs
    obtain ⟨_, ⟨hscope, hdigest⟩, rfl, hr⟩ := hs
    exact .inl ⟨row, rfl, hscope, hdigest, rfl, hr.symm⟩
  | none =>
    simp only [hget, bind_eq_ok, orRaise_eq_ok, pure_eq_ok, Prod.mk.injEq] at hs
    obtain ⟨⟨g₁, filed, response⟩, hop, mutations, hinsert, rfl, hr⟩ := hs
    exact .inr ⟨rfl, g₁, filed, response, mutations, hop, hinsert, rfl, hr.symm⟩

theorem onFile_of_requestIdOf {id : String} (hid : requestIdOf requestId = .ok id) :
    g.onFile requestId = (g.mutations.get? id).isSome := by
  rw [onFile, hid]
  rfl

theorem administer_ok (hs : g.administer requestId scope payload now operation = .ok (g', r)) :
    g.onFile requestId = true ∧ g' = g ∨
      g.onFile requestId = false ∧ ∃ g₁ r₁, operation g = .ok (g₁, r₁) ∧
        g'.directory = g₁.directory := by
  obtain ⟨id, hid, ⟨row, hget, _, _, heq, _⟩ | ⟨hget, g₁, filed, response, _, hop, _, rfl, _⟩⟩ :=
    administer_cases hs
  · rw [onFile_of_requestIdOf hid, hget]
    exact .inl ⟨rfl, heq⟩
  · rw [onFile_of_requestIdOf hid, hget]
    exact .inr ⟨rfl, g₁, (filed, response), hop, rfl⟩

theorem userByShort_ok (hs : g.userByShort cfg wxShort = .ok u) :
    g.users.get? u.principalId = some u := by
  simp only [userByShort, bind_eq_ok, ensure_eq_ok, orRaise_eq_ok] at hs
  obtain ⟨_, _, hfind⟩ := hs
  exact Table.mem_rows_iff.mp (List.mem_of_find?_eq_some hfind)

theorem user_directory (hget : g.users.get? p = some u) :
    g.directory.user p = some (u.role, u.status) := Table.view_of_get? _ hget

/-! ## Users -/

theorem migrateIdentityAllowlist_turns {allowed : List String} {r : Json}
    (hs : g.migrateIdentityAllowlist cfg env allowed = .ok (g', r)) :
    ∃ t : Directory.Turn, t.Quiet ∧ g.Turns t g' := by
  simp only [migrateIdentityAllowlist, bind_eq_ok, ensure_eq_ok] at hs
  obtain ⟨_, _, _, _, hs⟩ := hs
  split at hs
  · simp only [bind_eq_ok, ensure_eq_ok, pure_eq_ok, Prod.mk.injEq] at hs
    obtain ⟨_, _, rfl, _⟩ := hs
    exact ⟨.idle, trivial, .refl rfl⟩
  · rename_i allowed _ _ _ _
    simp only [bind_eq_ok, ensure_eq_ok] at hs
    obtain ⟨_, hempty, hs⟩ := hs
    cases allowed with
    | nil =>
      simp only [pure_eq_ok, Prod.mk.injEq] at hs
      obtain ⟨rfl, _⟩ := hs
      exact ⟨.idle, trivial, .refl rfl⟩
    | cons ownerId _ =>
      simp only [bind_eq_ok, pure_eq_ok, Prod.mk.injEq] at hs
      obtain ⟨g₁, hadd, rfl, _⟩ := hs
      obtain ⟨hnew, heq⟩ := addUser_ok hadd
      refine ⟨.enroll (legacyPrincipalId (userHash ownerId)), trivial, .of_step ?_⟩
      rw [heq]
      refine .enroll hnew (fun _ q => ?_) (.inl rfl)
      refine Table.view_of_get?_none _ (Table.get?_eq_none.mpr ?_)
      rw [hempty]
      exact List.not_mem_nil

theorem createMemberInvitation_ok
    (hs : g.createMemberInvitation cfg env expected requestId ttl = .ok (g', r)) :
    g'.directory = g.directory := by
  simp only [createMemberInvitation, bind_eq_ok] at hs
  obtain ⟨_, _, hs⟩ := hs
  obtain ⟨_, rfl⟩ | ⟨_, g₁, r₁, hop, heq⟩ := administer_ok hs
  · rfl
  · rw [heq]
    simp only [createMemberInvitationOperation, bind_eq_ok, pure_eq_ok, Prod.mk.injEq] at hop
    obtain ⟨_, _, _, _, _, _, rfl, _⟩ := hop
    rfl

theorem cancelMemberInvitation_ok {inviteShort : String}
    (hs : g.cancelMemberInvitation cfg env inviteShort expected requestId = .ok (g', r)) :
    g'.directory = g.directory := by
  obtain ⟨_, rfl⟩ | ⟨_, g₁, r₁, hop, heq⟩ := administer_ok hs
  · rfl
  · rw [heq]
    simp only [cancelMemberInvitationOperation, bind_eq_ok, pure_eq_ok, Prod.mk.injEq] at hop
    obtain ⟨_, _, _, _, _, _, rfl, _⟩ := hop
    rfl

theorem bindShared_ok (hs : g.bindShared u now = .ok g') :
    g'.directory.user = g.directory.user ∧ g'.directory.identity = g.directory.identity ∧
      (g'.directory.seat = g.directory.seat ∨ ∃ i, g'.directory.seat =
        Function.update g.directory.seat u.principalId (some ⟨i, .legacyShared, .active⟩)) := by
  unfold bindShared at hs
  split at hs
  · rw [pure_eq_ok] at hs
    subst hs
    exact ⟨rfl, rfl, .inl rfl⟩
  · rw [(putBinding_ok (insertBinding_ok hs)).2]
    exact ⟨rfl, rfl, .inr ⟨_, rfl⟩⟩

theorem claimMemberInvitation_turns {userId : String} {r : Option Dict}
    (hs : g.claimMemberInvitation cfg env userId text = .ok (g', r)) :
    ∃ t : Directory.Turn, t.Quiet ∧ g.Turns t g' := by
  unfold claimMemberInvitation at hs
  split_ifs at hs with hskip
  · simp only [pure_eq_ok, Prod.mk.injEq] at hs
    obtain ⟨rfl, _⟩ := hs
    exact ⟨.idle, trivial, .refl rfl⟩
  · dsimp only at hs
    split at hs
    · simp only [pure_eq_ok, Prod.mk.injEq] at hs
      obtain ⟨rfl, _⟩ := hs
      exact ⟨.idle, trivial, .refl rfl⟩
    · simp only [bind_eq_ok, pure_eq_ok, Prod.mk.injEq] at hs
      obtain ⟨_, _, g₁, hadd, g₂, hbind, rfl, _⟩ := hs
      obtain ⟨hnew, heq⟩ := addUser_ok hadd
      obtain ⟨huser, hidentity, hseat⟩ := bindShared_ok hbind
      rw [heq] at huser hidentity hseat
      refine ⟨.enroll env.principalId, trivial, .of_step ?_⟩
      show g.directory.Step _ g₂.directory
      rw [show g₂.directory = ⟨_, _, g₂.directory.seat⟩ from Directory.ext huser hidentity rfl]
      exact .enroll hnew (fun hc => by cases hc) hseat

theorem directory_setUserStatus (hget : g.users.get? row.principalId = some row) :
    (g.setUserStatus row status now).directory =
      ⟨Function.update g.directory.user row.principalId (some (row.role, status)),
        fun i => if ∃ s ∈ g.directory.seat row.principalId, s.bindingType = .primary ∧
            s.identity = i then (g.directory.identity i).map fun _ => status.identityState
          else g.directory.identity i,
        Function.update g.directory.seat row.principalId
          ((g.directory.seat row.principalId).map fun s => { s with state := status })⟩ := by
  have husers : (g.users.update row.principalId fun u =>
      { u with status := status, updatedAt := now,
               revokedAt := if status = .revoked then some now else u.revokedAt }).view
      WeixinUser.standing =
        Function.update g.directory.user row.principalId (some (row.role, status)) := by
    rw [Table.view_update _ _ hget]
    rfl
  unfold setUserStatus setPrincipalBindingState
  dsimp only
  cases hb : g.bindings.get? row.principalId with
  | none =>
    dsimp only
    have hseat : g.directory.seat row.principalId = none := Table.view_of_get?_none _ hb
    refine Directory.ext husers (funext fun i => (if_neg ?_).symm) ?_
    · rw [hseat]
      rintro ⟨_, ⟨⟩, _⟩
    · rw [hseat]
      exact (Function.update_eq_self_iff.mpr hseat.symm).symm
  | some b =>
    have hseat : g.directory.seat row.principalId = some b.seat := Table.view_of_get? _ hb
    have hseats : (g.bindings.update row.principalId fun b =>
        { b with state := status, updatedAt := now }).view Binding.seat =
        Function.update g.directory.seat row.principalId
          ((g.directory.seat row.principalId).map fun s => { s with state := status }) := by
      rw [hseat, Table.view_update _ _ hb]
      rfl
    dsimp only
    by_cases hprimary : b.bindingType = .primary
    · rw [if_pos hprimary]
      refine Directory.ext husers (funext fun i => ?_) hseats
      show ((g.identities.update b.identityId (Identity.following status now)).get? i).map
        Identity.state = if _ then ((g.identities.get? i).map Identity.state).map _ else _
      rw [Table.get?_update, hseat, Option.map_map]
      by_cases hi : i = b.identityId
      · rw [if_pos hi, if_pos ⟨b.seat, rfl, hprimary, hi.symm⟩, Option.map_map]
        rfl
      · rw [if_neg hi, if_neg]
        · rfl
        · rintro ⟨_, ⟨⟩, _, heq⟩
          exact hi heq.symm
    · rw [if_neg hprimary]
      refine Directory.ext husers (funext fun i => (if_neg ?_).symm) hseats
      rw [hseat]
      rintro ⟨_, ⟨⟩, hc, _⟩
      exact hprimary hc

/-- What an action does to the directory. -/
def actionTurn (cfg : Config) (g : GatewayStore) (action : UserAction) (wxShort : String)
    (requestId : Json) : Directory.Turn :=
  if g.onFile requestId = true then .idle
  else match g.userByShort cfg wxShort, action.status with
    | .ok row, some status => .status row.principalId status
    | _, _ => .idle

theorem directory_touch_user {n : ℕ} (g : GatewayStore) :
    ({ g with users := g.users.update p fun u => { u with revision := n } } :
      GatewayStore).directory = g.directory :=
  directory_update_user (by intro _; rfl) (by intro _; rfl)

theorem setUserStatus_step (hget : g.users.get? row.principalId = some row)
    (hne : row.status ≠ status) (hrevoked : row.status ≠ .revoked) :
    g.directory.Step (.status row.principalId status) (g.setUserStatus row status now).directory := by
  rw [directory_setUserStatus hget]
  exact .status (user_directory hget) hne hrevoked

theorem applyUserAction_step (hget : g.users.get? row.principalId = some row)
    (hs : g.applyUserAction row action now = .ok g') :
    g.directory.Step (match action.status with
      | some status => .status row.principalId status
      | none => .idle) g'.directory := by
  cases action with
  | rename aliasName =>
    simp only [applyUserAction, pure_eq_ok] at hs
    subst hs
    have heq := directory_update_user (g := g) (p := row.principalId)
      (f := fun u => { u with aliasName := aliasName, updatedAt := now }) (fun _ => rfl)
      fun _ => rfl
    rw [heq]
    exact .idle
  | suspend =>
    simp only [applyUserAction, bind_eq_ok, ensure_eq_ok, pure_eq_ok] at hs
    obtain ⟨_, hactive, rfl⟩ := hs
    exact setUserStatus_step hget (by simp [hactive]) (by simp [hactive])
  | resume =>
    simp only [applyUserAction, bind_eq_ok, ensure_eq_ok, pure_eq_ok] at hs
    obtain ⟨_, ⟨_, hsuspended⟩, rfl⟩ := hs
    exact setUserStatus_step hget (by simp [hsuspended]) (by simp [hsuspended])
  | revoke =>
    simp only [applyUserAction, bind_eq_ok, ensure_eq_ok, pure_eq_ok] at hs
    obtain ⟨_, hnot, rfl⟩ := hs
    exact setUserStatus_step hget hnot hnot

theorem mutateUser_turns
    (hs : g.mutateUser cfg env action wxShort expected requestId = .ok (g', r)) :
    g.Turns (g.actionTurn cfg action wxShort requestId) g' := by
  unfold actionTurn
  obtain ⟨hfile, rfl⟩ | ⟨hfile, g₁, r₁, hop, heq⟩ := administer_ok hs
  · rw [if_pos hfile]
    exact .refl rfl
  · simp only [mutateUserOperation, bind_eq_ok, pure_eq_ok, Prod.mk.injEq] at hop
    obtain ⟨_, _, row, hrow, _, _, g₂, happly, _, _, rfl, _⟩ := hop
    have hstep := applyUserAction_step (userByShort_ok hrow) happly
    have hdirectory : g'.directory = g₂.directory := heq.trans (directory_touch_user g₂.nextRevision)
    rw [if_neg (by simp [hfile]), hrow]
    refine .of_step ?_
    rw [hdirectory]
    cases hstatus : action.status with
    | none =>
      rw [hstatus] at hstep
      exact hstep
    | some status =>
      rw [hstatus] at hstep
      exact hstep

theorem updateAlias_turns
    (hs : g.updateAlias cfg env wxShort aliasName expected requestId = .ok (g', r)) :
    g.Turns .idle g' := by
  simp only [updateAlias, bind_eq_ok] at hs
  obtain ⟨clean, _, hs⟩ := hs
  have hturn := mutateUser_turns hs
  unfold actionTurn at hturn
  split_ifs at hturn
  · exact hturn
  · cases hrow : g.userByShort cfg wxShort with
    | ok row =>
      rw [hrow] at hturn
      exact hturn
    | error e =>
      rw [hrow] at hturn
      exact hturn

theorem changeUserState_turns
    (hs : g.changeUserState cfg env action wxShort expected requestId = .ok (g', r)) :
    g.Turns (g.actionTurn cfg action wxShort requestId) g' := by
  simp only [changeUserState, bind_eq_ok] at hs
  obtain ⟨_, _, hs⟩ := hs
  exact mutateUser_turns hs

theorem directory_giveRole {role : Role} (hget : g.users.get? p = some u) :
    (g.giveRole p role now).directory =
      ⟨Function.update g.directory.user p (some (role, u.status)), g.directory.identity,
        g.directory.seat⟩ :=
  Directory.ext (Table.view_update _ (by intro _; rfl) hget) rfl rfl

theorem transferOwnerOperation_ok {filed response : Json}
    (hs : g.transferOwnerOperation cfg env targetWxShort expected = .ok (g', filed, response)) :
    ∃ owner target : WeixinUser,
      g.directory.Step (.transfer owner.principalId target.principalId) g'.directory ∧
        ∃ stored : Dict, filed = .obj stored ∧ stored.map Prod.fst =
            ["revision", "owner", "previous_owner"] ∧
          response = .obj (stored ++ [("owner_private_id", .str target.privateUserId),
            ("previous_owner_private_id", .str owner.privateUserId),
            ("owner_principal_id", .str target.principalId),
            ("previous_owner_principal_id", .str owner.principalId)]) := by
  simp only [transferOwnerOperation, bind_eq_ok, ensure_eq_ok, orRaise_eq_ok, pure_eq_ok,
    Prod.mk.injEq] at hs
  obtain ⟨_, _, owner, howner, target, htarget, _, ⟨hmember, hactive⟩, _, _, rfl, rfl, rfl⟩ := hs
  split_ifs at howner
  have hmem := List.mem_of_mem_head? howner
  simp only [List.mem_filter, decide_eq_true_eq] at hmem
  obtain ⟨hmem, hrole, hstatus⟩ := hmem
  have ho := Table.mem_rows_iff.mp hmem
  have ht := userByShort_ok htarget
  have hne : target.principalId ≠ owner.principalId := by
    intro hc
    rw [hc, ho] at ht
    cases ht
    rw [hrole] at hmember
    cases hmember
  have ht' : (g.giveRole owner.principalId .member (env.now 0)).users.get? target.principalId =
      some target := by
    rw [← ht]
    exact Table.get?_update_of_ne _ hne _ (by intro _; rfl)
  refine ⟨owner, target, ?_, _, rfl, rfl, rfl⟩
  rw [directory_nextRevision, directory_giveRole ht', directory_giveRole ho, hstatus, hactive]
  refine .transfer ?_ ?_
  · rw [user_directory ho, hrole, hstatus]
  · rw [user_directory ht, hmember, hactive]

theorem transferOwner_turns {confirmation : String}
    (hs : g.transferOwner cfg env targetWxShort expected requestId confirmation = .ok (g', r)) :
    ∃ t : Directory.Turn, t.Quiet ∧ g.Turns t g' := by
  simp only [transferOwner, bind_eq_ok] at hs
  obtain ⟨_, _, hs⟩ := hs
  obtain ⟨_, rfl⟩ | ⟨_, g₁, r₁, hop, heq⟩ := administer_ok hs
  · exact ⟨.idle, trivial, .refl rfl⟩
  · obtain ⟨owner, target, hstep, _⟩ := transferOwnerOperation_ok hop
    refine ⟨.transfer owner.principalId target.principalId, trivial, .of_step ?_⟩
    rw [heq]
    exact hstep

/-! ## Sessions -/

theorem createOnboardingSession_turns {targetWxShort : Option String} {n : ℤ}
    (hs : g.createOnboardingSession cfg env expected requestId aliasName targetWxShort ttl n =
      .ok (g', r)) : g.Turns .idle g' := by
  simp only [createOnboardingSession, bind_eq_ok] at hs
  obtain ⟨_, _, _, _, _, _, hs⟩ := hs
  obtain ⟨_, rfl⟩ | ⟨_, g₁, r₁, hop, heq⟩ := administer_ok hs
  · exact .refl rfl
  · simp only [createOnboardingOperation, bind_eq_ok, pure_eq_ok, Prod.mk.injEq] at hop
    obtain ⟨_, _, _, _, _, _, _, _, _, _, sessions, _, rfl, _⟩ := hop
    obtain ⟨S, hS⟩ := expireSessions_dropped (g := g) (env.now 0)
    exact .idle S (heq.trans hS)

theorem setOnboardingQrState_turns {qrState : String} {errorCode : Option String}
    {terminalState : Option SessionState}
    (hs : g.setOnboardingQrState env sessionId qrState errorCode terminalState = .ok g') :
    g.Turns .idle g' := by
  simp only [setOnboardingQrState, bind_eq_ok] at hs
  obtain ⟨_, _, _, _, row, _, hs⟩ := hs
  split_ifs at hs
  · rw [pure_eq_ok] at hs
    subst hs
    split
    · rename_i identityId _ _
      exact .idle (fun j => decide (j = identityId)) (directory_dropPending _ (by intro _; rfl))
    · exact .refl rfl
  · rw [pure_eq_ok] at hs
    subst hs
    exact .refl rfl

theorem cancelOnboardingSession_turns {sessionShort : String}
    (hs : g.cancelOnboardingSession cfg env sessionShort expected requestId = .ok (g', r)) :
    g.Turns .idle g' := by
  obtain ⟨_, rfl⟩ | ⟨_, g₁, r₁, hop, heq⟩ := administer_ok hs
  · exact .refl rfl
  · simp only [cancelOnboardingOperation, bind_eq_ok, pure_eq_ok, Prod.mk.injEq] at hop
    obtain ⟨_, _, s, _, _, _, rfl, _⟩ := hop
    rw [directory_nextRevision] at heq
    split at heq
    · rename_i identityId _
      exact .idle (fun j => decide (j = identityId))
        (heq.trans (directory_dropPending _ (by intro _; rfl)))
    · exact .refl heq

theorem attachOnboardingIdentity_turns {scanned : String} {r : Json}
    (hs : g.attachOnboardingIdentity cfg env sessionId identityId accountHash scanned =
      .ok (g', r)) : g.Turns (.attach identityId) g' := by
  simp only [attachOnboardingIdentity, bind_eq_ok, pure_eq_ok, Prod.mk.injEq] at hs
  obtain ⟨_, _, _, _, row, _, _, _, _, _, g₁, hupsert, rfl, _⟩ := hs
  obtain ⟨S, hS⟩ := expireSessions_dropped (g := g) (env.now 0)
  have heq := upsertIdentity_ok (by intro _; rfl) hupsert
  refine ⟨S, ?_⟩
  show Directory.Step _ _ g₁.directory
  rw [heq, ← hS]
  cases (g.expireSessions (env.now 0)).identities.get? identityId <;> exact .attach

/-! ## The claim of a session -/

/-- The principal that pairs with the identity when the sender sends the text: the code of the
    open session of the identity is right, and the sender scanned its account. -/
def pairs (g : GatewayStore) (env : Env) (identityId privateUserId text : String) : Option String :=
  if privateUserId = "" ∨ text = "" then none
  else
    ((g.expireSessions (env.now 1)).sessions.rows.find? fun s =>
      s.identityId = some identityId ∧ s.state = .pendingPairing).bind fun s =>
        if s.scannedPrivateUserId.getD "None" = privateUserId ∧
            s.codeSalt.any (fun salt => codeHash salt (strip text) = s.codeHash) = true then
          some ((s.targetPrincipalId.filter fun p => p ≠ "").getD env.principalId)
        else none

theorem refuseCode_dropped : ∃ S, (g.refuseCode s i now).directory = g.directory.dropped S := by
  unfold refuseCode
  dsimp only
  split_ifs
  · exact ⟨fun j => decide (j = i), directory_dropPending _ (by intro _; rfl)⟩
  · exact ⟨fun _ => false, (Directory.dropped_false _).symm⟩

theorem claimTarget_ok (hs : g.claimTarget principalId = .ok u) :
    u.principalId = principalId ∧ g.directory.user principalId = some (.member, .active) := by
  simp only [claimTarget, bind_eq_ok, orRaise_eq_ok, pure_eq_ok, Option.filter_eq_some_iff,
    decide_eq_true_eq] at hs
  obtain ⟨_, ⟨hget, hrole, hstatus⟩, _, _, rfl⟩ := hs
  exact ⟨Table.key_of_get? hget, by rw [user_directory hget, hrole, hstatus]⟩

/-- The member of a session is an active one that was there, or a new one. -/
theorem claimant_ok (hs : g.claimant cfg env s privateUserId now = .ok (g', u)) :
    u.principalId = (s.targetPrincipalId.filter fun p => p ≠ "").getD env.principalId ∧
      (g.directory.user u.principalId = some (.member, .active) ∨
        g.directory.user u.principalId = none) ∧
      g'.directory = ⟨Function.update g.directory.user u.principalId (some (.member, .active)),
        g.directory.identity, g.directory.seat⟩ := by
  unfold claimant at hs
  split at hs
  · rename_i principalId htarget
    simp only [bind_eq_ok, pure_eq_ok, Prod.mk.injEq] at hs
    obtain ⟨_, hclaim, rfl, rfl⟩ := hs
    obtain ⟨rfl, hmember⟩ := claimTarget_ok hclaim
    rw [htarget]
    refine ⟨rfl, .inl hmember, Directory.ext ?_ rfl rfl⟩
    exact (Function.update_eq_self_iff.mpr hmember.symm).symm
  · rename_i htarget
    simp only [claimNewUser, bind_eq_ok, pure_eq_ok, Prod.mk.injEq] at hs
    obtain ⟨_, _, _, _, g₁, hadd, rfl, rfl⟩ := hs
    obtain ⟨hnew, heq⟩ := addUser_ok hadd
    rw [htarget]
    exact ⟨rfl, .inr hnew, heq⟩

theorem bindPrimary_ok (hs : g.bindPrimary identityId principalId privateUserId now = .ok g') :
    (∃ state, g.directory.identity identityId = some state) ∧
      (∀ s ∈ g.directory.seat principalId, s.bindingType = .legacyShared) ∧
      g'.directory = ⟨g.directory.user, g.directory.identity,
        Function.update g.directory.seat principalId (some ⟨identityId, .primary, .active⟩)⟩ := by
  unfold bindPrimary at hs
  split at hs
  · rename_i b hb
    simp only [bind_eq_ok, ensure_eq_ok] at hs
    obtain ⟨_, hlegacy, hs⟩ := hs
    obtain ⟨hidentity, heq⟩ := putBinding_ok hs
    have hkey : b.principalId = principalId := Table.key_of_get? hb
    refine ⟨hidentity, fun s hs => ?_, ?_⟩
    · rw [show g.directory.seat principalId = some b.seat from Table.view_of_get? _ hb] at hs
      cases hs
      exact hlegacy
    · rw [heq, ← hkey]
      rfl
  · rename_i hb
    obtain ⟨hidentity, heq⟩ := putBinding_ok (insertBinding_ok hs)
    refine ⟨hidentity, fun s hs => ?_, heq⟩
    rw [show g.directory.seat principalId = none from Table.view_of_get?_none _ hb] at hs
    cases hs

theorem completeClaim_step {r : Dict}
    (hs : g.completeClaim cfg env s identityId privateUserId now = .ok (g', r)) :
    g.directory.Step
      (.claim identityId ((s.targetPrincipalId.filter fun p => p ≠ "").getD env.principalId))
      g'.directory := by
  simp only [completeClaim, bind_eq_ok, pure_eq_ok, Prod.mk.injEq] at hs
  obtain ⟨⟨g₁, u⟩, hclaimant, g₂, hbind, hs, _⟩ := hs
  obtain ⟨hu, huser, heq₁⟩ := claimant_ok hclaimant
  obtain ⟨⟨state, hidentity⟩, hseat, heq₂⟩ := bindPrimary_ok hbind
  -- the touch of a member that was there does not show
  have hdirectory : g'.directory = ⟨g₂.directory.user,
      Function.update g₂.directory.identity identityId (some .active), g₂.directory.seat⟩ := by
    have hid : g₂.directory.identity identityId = some state := by rw [heq₂, hidentity]
    obtain ⟨i, hi, _⟩ := Option.map_eq_some_iff.mp hid
    rw [← hs]
    split_ifs
    · exact Directory.ext (Table.view_updateWhere _ (by intro _; rfl) (by intro _; rfl))
        (Table.view_update _ (by intro _; rfl) hi) rfl
    · exact Directory.ext rfl (Table.view_update _ (by intro _; rfl) hi) rfl
  rw [hdirectory, heq₂, ← hu]
  rw [heq₁] at hseat ⊢
  exact .claim (huser.imp id fun hnew => ⟨hnew, rfl⟩) hseat

/-- The session that waits for a code of the identity. -/
def pairingSession (g : GatewayStore) (identityId : String) : Option Session :=
  g.sessions.rows.find? fun s => s.identityId = some identityId ∧ s.state = .pendingPairing

/-- What `claim_onboarding` can do, after it let the sessions expire. -/
inductive ClaimOutcome (cfg : Config) (env : Env) (g : GatewayStore)
    (identityId privateUserId text : String) : GatewayStore → Option Dict → Prop where
  | ignored (hempty : privateUserId = "" ∨ text = "") :
      ClaimOutcome cfg env g identityId privateUserId text g none
  | unknown (hnonempty : ¬ (privateUserId = "" ∨ text = ""))
      (hfind : (g.expireSessions (env.now 1)).pairingSession identityId = none) :
      ClaimOutcome cfg env g identityId privateUserId text (g.expireSessions (env.now 1)) none
  | stranger {s : Session}
      (hnonempty : ¬ (privateUserId = "" ∨ text = ""))
      (hfind : (g.expireSessions (env.now 1)).pairingSession identityId = some s)
      (hother : s.scannedPrivateUserId.getD "None" ≠ privateUserId) :
      ClaimOutcome cfg env g identityId privateUserId text (g.expireSessions (env.now 1)) none
  | unreadable {s : Session}
      (hnonempty : ¬ (privateUserId = "" ∨ text = ""))
      (hfind : (g.expireSessions (env.now 1)).pairingSession identityId = some s)
      (hsalt : s.codeSalt = none) :
      ClaimOutcome cfg env g identityId privateUserId text
        { g.expireSessions (env.now 1) with
          sessions := (g.expireSessions (env.now 1)).sessions.update s.sessionId fun s =>
            { s with state := .failed, updatedAt := env.now 0 } } none
  | refused {s : Session} {salt : List UInt8}
      (hnonempty : ¬ (privateUserId = "" ∨ text = ""))
      (hfind : (g.expireSessions (env.now 1)).pairingSession identityId = some s)
      (hmine : s.scannedPrivateUserId.getD "None" = privateUserId) (hsalt : s.codeSalt = some salt)
      (hcode : codeHash salt (strip text) ≠ s.codeHash) :
      ClaimOutcome cfg env g identityId privateUserId text
        ((g.expireSessions (env.now 1)).refuseCode s identityId (env.now 0)) none
  | paired {s : Session} {salt : List UInt8} {g' : GatewayStore} {document : Dict}
      (hnonempty : ¬ (privateUserId = "" ∨ text = ""))
      (hfind : (g.expireSessions (env.now 1)).pairingSession identityId = some s)
      (hmine : s.scannedPrivateUserId.getD "None" = privateUserId) (hsalt : s.codeSalt = some salt)
      (hcode : codeHash salt (strip text) = s.codeHash)
      (hclaim : (g.expireSessions (env.now 1)).completeClaim cfg env s identityId privateUserId
        (env.now 0) = .ok (g', document)) :
      ClaimOutcome cfg env g identityId privateUserId text g' (some document)

theorem claimOnboarding_outcome {r : Option Dict}
    (hs : g.claimOnboarding cfg env identityId privateUserId text = .ok (g', r)) :
    ClaimOutcome cfg env g identityId privateUserId text g' r := by
  unfold claimOnboarding at hs
  by_cases hempty : privateUserId = "" ∨ text = ""
  · rw [if_pos hempty, pure_eq_ok, Prod.mk.injEq] at hs
    obtain ⟨rfl, rfl⟩ := hs
    exact .ignored hempty
  · rw [if_neg hempty] at hs
    dsimp only at hs
    cases hfind : (g.expireSessions (env.now 1)).pairingSession identityId with
    | none =>
      rw [pairingSession] at hfind
      simp only [hfind, pure_eq_ok, Prod.mk.injEq] at hs
      obtain ⟨rfl, rfl⟩ := hs
      exact .unknown hempty hfind
    | some s =>
      have hfound := hfind
      rw [pairingSession] at hfound
      simp only [hfound, bind_eq_ok, compareDigest, ensure_eq_ok, pure_eq_ok] at hs
      obtain ⟨mine, ⟨_, _, rfl⟩, hs⟩ := hs
      by_cases hmine : s.scannedPrivateUserId.getD "None" = privateUserId
      · rw [if_neg (by simp [hmine])] at hs
        cases hsalt : s.codeSalt with
        | none =>
          simp only [hsalt, pure_eq_ok, Prod.mk.injEq] at hs
          obtain ⟨rfl, rfl⟩ := hs
          exact .unreadable hempty hfind hsalt
        | some salt =>
          simp only [hsalt] at hs
          by_cases hcode : codeHash salt (strip text) = s.codeHash
          · rw [if_neg (by simp [hcode])] at hs
            simp only [bind_eq_ok, pure_eq_ok, Prod.mk.injEq] at hs
            obtain ⟨⟨g₁, document⟩, hclaim, rfl, rfl⟩ := hs
            exact .paired hempty hfind hmine hsalt hcode hclaim
          · rw [if_pos hcode, pure_eq_ok, Prod.mk.injEq] at hs
            obtain ⟨rfl, rfl⟩ := hs
            exact .refused hempty hfind hmine hsalt hcode
      · rw [if_pos (by simp [hmine]), pure_eq_ok, Prod.mk.injEq] at hs
        obtain ⟨rfl, rfl⟩ := hs
        exact .stranger hempty hfind hmine

theorem pairs_eq (hnonempty : ¬ (privateUserId = "" ∨ text = "")) :
    g.pairs env identityId privateUserId text =
      ((g.expireSessions (env.now 1)).pairingSession identityId).bind fun s =>
        if s.scannedPrivateUserId.getD "None" = privateUserId ∧
            s.codeSalt.any (fun salt => codeHash salt (strip text) = s.codeHash) = true then
          some ((s.targetPrincipalId.filter fun p => p ≠ "").getD env.principalId)
        else none := if_neg hnonempty

theorem claimOnboarding_turns {r : Option Dict}
    (hs : g.claimOnboarding cfg env identityId privateUserId text = .ok (g', r)) :
    g.Turns (match g.pairs env identityId privateUserId text with
      | some p => .claim identityId p
      | none => .idle) g' := by
  obtain ⟨S, hS⟩ := expireSessions_dropped (g := g) (env.now 1)
  cases claimOnboarding_outcome hs with
  | ignored hempty =>
    have hpairs : g.pairs env identityId privateUserId text = none := if_pos hempty
    rw [hpairs]
    exact .refl rfl
  | unknown hnonempty hfind =>
    rw [pairs_eq hnonempty, hfind]
    exact .idle S hS
  | stranger hnonempty hfind hother =>
    rw [pairs_eq hnonempty, hfind, Option.bind_some, if_neg (fun hc => hother hc.1)]
    exact .idle S hS
  | unreadable hnonempty hfind hsalt =>
    rw [pairs_eq hnonempty, hfind, Option.bind_some, hsalt, if_neg (by simp)]
    exact .idle S hS
  | refused hnonempty hfind hmine hsalt hcode =>
    rw [pairs_eq hnonempty, hfind, Option.bind_some, hsalt, if_neg (by simp [hcode])]
    obtain ⟨T, hT⟩ := refuseCode_dropped (g := g.expireSessions (env.now 1))
    rw [hS, Directory.dropped_dropped] at hT
    exact .idle _ hT
  | paired hnonempty hfind hmine hsalt hcode hclaim =>
    rw [pairs_eq hnonempty, hfind, Option.bind_some, hsalt, if_pos ⟨hmine, by simp [hcode]⟩]
    refine ⟨S, ?_⟩
    rw [← hS]
    exact completeClaim_step hclaim

/-! ## The start of the gateway -/

theorem migratedBinding_seat (i now : String) (hget : g.users.get? u.principalId = some u) :
    (g.migratedBinding i now u).principalId = u.principalId ∧
      some (g.migratedBinding i now u).seat =
        Directory.started i (g.directory.user u.principalId) (g.directory.seat u.principalId) := by
  have htype : (if u.role = .owner then BindingType.primary else .legacyShared) =
      Directory.startType u.role := by
    cases u.role <;> rfl
  rw [user_directory hget]
  unfold migratedBinding
  simp only [htype]
  cases hb : g.bindings.get? u.principalId with
  | none =>
    rw [show g.directory.seat u.principalId = none from Table.view_of_get?_none _ hb]
    exact ⟨rfl, rfl⟩
  | some b =>
    have hkey : b.principalId = u.principalId := Table.key_of_get? hb
    rw [show g.directory.seat u.principalId = some b.seat from Table.view_of_get? _ hb]
    dsimp only
    by_cases hprimary : b.bindingType = .primary
    · rw [if_pos hprimary]
      exact ⟨hkey, (if_pos hprimary).symm⟩
    · rw [if_neg hprimary]
      refine ⟨hkey, Eq.symm ((if_neg hprimary).trans ?_)⟩
      by_cases hrevoked : b.state = .revoked
      · rw [if_pos hrevoked, hrevoked]
        exact congrArg some (congrArg _ (if_pos hrevoked))
      · rw [if_neg hrevoked]
        exact congrArg some (congrArg _ (if_neg hrevoked))

/-- The loop over the users gives every one of them its binding, and leaves the others alone. -/
theorem foldlM_migrateBinding {us : List WeixinUser}
    (hus : ∀ u ∈ us, g.users.get? u.principalId = some u)
    (hnodup : (us.map WeixinUser.principalId).Nodup)
    (hs : us.foldlM (migrateBinding i now) g = .ok g') :
    g'.directory = ⟨g.directory.user, g.directory.identity, fun p =>
      if p ∈ us.map WeixinUser.principalId then
        Directory.started i (g.directory.user p) (g.directory.seat p)
      else g.directory.seat p⟩ := by
  induction us generalizing g with
  | nil =>
    cases hs
    refine Directory.ext rfl rfl (funext fun p => ?_)
    dsimp only
    rw [List.map_nil, if_neg List.not_mem_nil]
  | cons u us ih =>
    rw [List.foldlM_cons, bind_eq_ok] at hs
    obtain ⟨g₁, hput, hs⟩ := hs
    rw [List.map_cons, List.nodup_cons] at hnodup
    obtain ⟨hkey, hseat⟩ := migratedBinding_seat i now (hus u List.mem_cons_self)
    have husers := congrArg GatewayStore.users (putBinding_tables hput)
    obtain ⟨_, heq⟩ := putBinding_ok hput
    have hrest := ih (fun v hv => by rw [husers]; exact hus v (List.mem_cons_of_mem _ hv))
      hnodup.2 hs
    rw [hkey, hseat] at heq
    rw [hrest, heq]
    refine Directory.ext rfl rfl (funext fun p => ?_)
    dsimp only
    rw [List.map_cons]
    by_cases hp : p = u.principalId
    · subst hp
      rw [if_neg hnodup.1, Function.update_self, if_pos List.mem_cons_self]
    · rw [Function.update_of_ne hp]
      by_cases hmem : p ∈ us.map WeixinUser.principalId
      · rw [if_pos hmem, if_pos (List.mem_cons_of_mem _ hmem)]
      · rw [if_neg hmem, if_neg]
        exact fun hc => (List.mem_cons.mp hc).elim hp hmem

theorem migrateLegacyIdentity_turns {r : Json}
    (hs : g.migrateLegacyIdentity env i accountHash = .ok (g', r)) : g.Turns (.start i) g' := by
  simp only [migrateLegacyIdentity, bind_eq_ok, pure_eq_ok, Prod.mk.injEq] at hs
  obtain ⟨_, _, _, _, g₁, hupsert, g₂, hfold, rfl, _⟩ := hs
  obtain ⟨identities, htables⟩ := upsertIdentity_tables hupsert
  have husers := congrArg GatewayStore.users htables
  have heq := upsertIdentity_ok (by intro _; rfl) hupsert
  have hperm : (g₁.users.rows.insertionSort fun u v => u.createdAt ≤ v.createdAt).Perm
      g₁.users.rows := List.perm_insertionSort _ _
  have hdirectory := foldlM_migrateBinding
    (fun u hu => Table.mem_rows_iff.mp (hperm.mem_iff.mp hu))
    ((hperm.map WeixinUser.principalId).nodup_iff.mpr g₁.users.nodup) hfold
  refine .of_step ?_
  have hresult : g₂.directory = ⟨g.directory.user, Function.update g.directory.identity i
      (some (if g.directory.identity i = some .revoked then .revoked else .active)),
      fun p => Directory.started i (g.directory.user p) (g.directory.seat p)⟩ := by
    rw [hdirectory, heq]
    refine Directory.ext rfl ?_ (funext fun p => ?_)
    · dsimp only
      refine congrArg (fun x => Function.update g.directory.identity i (some x)) ?_
      show _ = if (g.identities.get? i).map Identity.state = some .revoked then _ else _
      cases g.identities.get? i with
      | none => rfl
      | some x => cases hx : x.state <;> simp [hx]
    · dsimp only
      split_ifs with hp
      · rfl
      · have hnone : g.directory.user p = none := by
          rw [((hperm.map _).mem_iff), husers] at hp
          exact Table.view_of_get?_none _ (Table.get?_eq_none.mpr hp)
        rw [hnone]
        rfl
  rw [hresult]
  exact .start

end GatewayStore

end HomeAddons.Gateway
