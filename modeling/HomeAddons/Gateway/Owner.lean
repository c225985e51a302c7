import HomeAddons.Gateway.Calls

/-!
# Weixin Gateway: the owner

Runs of the calls of a store in which a transfer of the owner may be taken back by
`restore_owner_after_mirror_failure`, with the principals that the transfer returned and before any
other call.

* `OwnerRun.unique_owner`: there is no owner, or exactly one and it is active; and an owner that
  is there once is there for good.
-/

namespace HomeAddons.Gateway

open HomeAddons.Common

/-! ## Directories with an owner -/

namespace Directory

variable {d d' : Directory} {t : Turn}

/-- The principal is the owner, and an active one; no other has the role. -/
def OwnedBy (d : Directory) (p : String) : Prop :=
  d.user p = some (.owner, .active) ∧ ∀ q s, d.user q = some (.owner, s) → q = p

def Unowned (d : Directory) : Prop := ∀ q s, d.user q ≠ some (.owner, s)

/-- A step from a directory with one owner leaves one, when it changes the status of members only. -/
theorem OwnedBy.step {p : String} (hd : d.OwnedBy p) (hs : d.Step t d')
    (hmember : ∀ q s, t = .status q s → ∃ old, d.user q = some (.member, old)) :
    ∃ q, d'.OwnedBy q := by
  obtain ⟨howner, honly⟩ := hd
  cases hs with
  | idle => exact ⟨p, howner, honly⟩
  | @enroll q role seat hnew hrole _ =>
    have hpq : p ≠ q := by
      rintro rfl
      rw [hnew] at howner
      cases howner
    refine ⟨p, ?_, fun r s hr => ?_⟩
    · dsimp only
      rw [Function.update_of_ne hpq, howner]
    · dsimp only at hr
      rw [Function.update_apply] at hr
      split_ifs at hr with hrq
      · cases hr
        rw [hrole rfl p] at howner
        cases howner
      · exact honly r s hr
  | attach => exact ⟨p, howner, honly⟩
  | @claim i q role huser _ =>
    refine ⟨p, ?_, fun r s hr => ?_⟩
    · dsimp only
      rw [Function.update_apply]
      split_ifs with hpq
      · subst hpq
        obtain huser | ⟨huser, _⟩ := huser
        · rw [← huser, howner]
        · rw [huser] at howner
          cases howner
      · exact howner
    · dsimp only at hr
      rw [Function.update_apply] at hr
      split_ifs at hr with hrq
      · subst hrq
        cases hr
        obtain huser | ⟨_, hrole⟩ := huser
        · exact honly r _ huser
        · cases hrole
      · exact honly r s hr
  | @status q role old new huser _ _ =>
    obtain ⟨old', hold⟩ := hmember q new rfl
    rw [huser] at hold
    cases hold
    have hpq : p ≠ q := by
      rintro rfl
      rw [huser] at howner
      cases howner
    refine ⟨p, ?_, fun r s hr => ?_⟩
    · dsimp only
      rw [Function.update_of_ne hpq, howner]
    · dsimp only at hr
      rw [Function.update_apply] at hr
      split_ifs at hr
      · cases hr
      · exact honly r s hr
  | @transfer o q ho hq =>
    refine ⟨q, Function.update_self _ _ _, fun r s hr => ?_⟩
    by_contra hrq
    dsimp only at hr
    rw [Function.update_of_ne hrq, Function.update_apply] at hr
    split_ifs at hr with hro
    · cases hr
    · exact hro ((honly r s hr).trans (honly o _ ho).symm)
  | start => exact ⟨p, howner, honly⟩

theorem Step.transferred {p q : String} (hs : d.Step (.transfer p q) d') :
    d'.user p = some (.member, .active) ∧ d'.user q = some (.owner, .active) := by
  cases hs with
  | transfer ho ht =>
    have hne : p ≠ q := by
      rintro rfl
      rw [ho] at ht
      cases ht
    dsimp only
    rw [Function.update_of_ne hne, Function.update_self, Function.update_self]
    exact ⟨rfl, rfl⟩

/-- A step from a directory without an owner leaves one or none. -/
theorem Unowned.step (hd : d.Unowned) (hs : d.Step t d') : d'.Unowned ∨ ∃ p, d'.OwnedBy p := by
  cases hs with
  | idle => exact .inl hd
  | @enroll q role seat hnew hrole _ =>
    cases role with
    | owner =>
      refine .inr ⟨q, Function.update_self _ _ _, fun r s hr => ?_⟩
      by_contra hrq
      dsimp only at hr
      rw [Function.update_of_ne hrq, hrole rfl r] at hr
      cases hr
    | member =>
      refine .inl fun r s hr => ?_
      dsimp only at hr
      rw [Function.update_apply] at hr
      split_ifs at hr
      · cases hr
      · exact hd r s hr
  | attach => exact .inl hd
  | @claim i q role huser _ =>
    refine .inl fun r s hr => ?_
    dsimp only at hr
    rw [Function.update_apply] at hr
    split_ifs at hr
    · cases hr
      obtain huser | ⟨_, hrole⟩ := huser
      · exact hd q _ huser
      · cases hrole
    · exact hd r s hr
  | @status q role old new huser _ _ =>
    refine .inl fun r s hr => ?_
    dsimp only at hr
    rw [Function.update_apply] at hr
    split_ifs at hr
    · cases hr
      exact hd q _ huser
    · exact hd r s hr
  | transfer ho => exact absurd ho (hd _ _)
  | start => exact .inl hd

end Directory

/-! ## Rows -/

namespace GatewayStore

variable {cfg : Config} {env : Env} {g g' : GatewayStore}

/-- Exactly one row has the role of the owner, and it is active. -/
def UniqueOwner (g : GatewayStore) : Prop :=
  ∃ u ∈ g.users.rows, u.role = .owner ∧ u.status = .active ∧
    ∀ v ∈ g.users.rows, v.role = .owner → v = u

def NoOwner (g : GatewayStore) : Prop := ∀ u ∈ g.users.rows, u.role ≠ .owner

theorem uniqueOwner_iff : g.UniqueOwner ↔ ∃ p, g.directory.OwnedBy p := by
  constructor
  · rintro ⟨u, hu, hrole, hstatus, honly⟩
    refine ⟨u.principalId, ?_, fun q s hq => ?_⟩
    · rw [user_directory (Table.mem_rows_iff.mp hu), hrole, hstatus]
    · obtain ⟨v, hv, hstanding⟩ := Option.map_eq_some_iff.mp hq
      rw [← honly v (Table.mem_of_get? hv) (congrArg Prod.fst hstanding)]
      exact (Table.key_of_get? hv).symm
  · rintro ⟨p, hp, honly⟩
    obtain ⟨u, hu, hstanding⟩ := Option.map_eq_some_iff.mp hp
    refine ⟨u, Table.mem_of_get? hu, congrArg Prod.fst hstanding, congrArg Prod.snd hstanding,
      fun v hv hrole => ?_⟩
    have hkey := honly v.principalId v.status
      (by rw [user_directory (Table.mem_rows_iff.mp hv), hrole])
    have hget := Table.mem_rows_iff.mp hv
    rw [hkey, hu] at hget
    exact (Option.some.inj hget).symm

theorem noOwner_iff : g.NoOwner ↔ g.directory.Unowned := by
  constructor
  · intro hg q s hq
    obtain ⟨v, hv, hstanding⟩ := Option.map_eq_some_iff.mp hq
    exact hg v (Table.mem_of_get? hv) (congrArg Prod.fst hstanding)
  · intro hg u hu hrole
    refine hg u.principalId u.status ?_
    rw [user_directory (Table.mem_rows_iff.mp hu), hrole]

/-- Only the status of a member is changed. -/
theorem changeUserState_member {action : UserAction} {wxShort : String} {expected requestId : Json}
    {r : Json × Bool}
    (hs : g.changeUserState cfg env action wxShort expected requestId = .ok (g', r)) {p : String}
    {s : Status} (ht : g.actionTurn cfg action wxShort requestId = .status p s) :
    ∃ old, g.directory.user p = some (.member, old) := by
  simp only [changeUserState, bind_eq_ok] at hs
  obtain ⟨_, _, hs⟩ := hs
  unfold actionTurn at ht
  obtain ⟨hfile, rfl⟩ | ⟨hfile, g₁, r₁, hop, _⟩ := administer_ok hs
  · rw [if_pos hfile] at ht
    cases ht
  · simp only [mutateUserOperation, bind_eq_ok, ensure_eq_ok] at hop
    obtain ⟨_, _, row, hrow, _, hprotected, g₂, happly, _⟩ := hop
    rw [if_neg (by simp [hfile]), hrow] at ht
    have hget := userByShort_ok hrow
    have hrole : row.role = .member := by
      cases hr : row.role with
      | member => rfl
      | owner =>
        cases action with
        | rename => cases ht
        | suspend => exact absurd ⟨.inl rfl, hr⟩ hprotected
        | revoke => exact absurd ⟨.inr rfl, hr⟩ hprotected
        | resume =>
          simp only [applyUserAction, bind_eq_ok, ensure_eq_ok] at happly
          obtain ⟨_, ⟨hmember, _⟩, _⟩ := happly
          rw [hr] at hmember
          cases hmember
    cases hstatus : action.status with
    | none =>
      rw [hstatus] at ht
      cases ht
    | some status =>
      rw [hstatus] at ht
      cases ht
      exact ⟨row.status, by rw [user_directory hget, hrole]⟩

/-- A call leaves one owner when there was one, and one or none when there was none. -/
theorem step_owner (call : Env × GatewayCall) :
    (g.UniqueOwner → (g.step cfg call).UniqueOwner) ∧
      (g.NoOwner → (g.step cfg call).NoOwner ∨ (g.step cfg call).UniqueOwner) := by
  rw [uniqueOwner_iff, uniqueOwner_iff, noOwner_iff, noOwner_iff]
  obtain ⟨heq, _⟩ | ⟨⟨g', hok⟩, t, ⟨S, hs⟩, ht⟩ := step_directory cfg g call
  · rw [heq]
    exact ⟨id, .inl⟩
  · refine ⟨fun ⟨p, hp⟩ => ?_, fun hg => Directory.Unowned.step (d := g.directory.dropped S) hg hs⟩
    refine Directory.OwnedBy.step (d := g.directory.dropped S) hp hs fun q status hstatus => ?_
    subst hstatus
    obtain hturn | ⟨hquiet, _⟩ := ht
    · obtain ⟨env, c⟩ := call
      cases c with
      | changeUserState action wxShort expected requestId =>
        obtain ⟨_, hok⟩ := fst_eq_ok.mp hok
        exact changeUserState_member hok hturn.symm
      | claimOnboarding i u text =>
        simp only [GatewayCall.turn] at hturn
        cases hpairs : g.pairs env i u text with
        | none =>
          rw [hpairs] at hturn
          cases hturn
        | some p =>
          rw [hpairs] at hturn
          cases hturn
      | _ => cases hturn
    · cases hquiet

/-! ## Transfers that are taken back -/

/-- The principals that `transfer_owner` returns: the previous owner and the new one. A replay
    returns neither. -/
def transferred (cfg : Config) (env : Env) (g : GatewayStore) : GatewayCall → Option (String × String)
  | .transferOwner targetWxShort expected requestId confirmation =>
    match g.transferOwner cfg env targetWxShort expected requestId confirmation with
    | .ok (_, .obj d, false) => do
      let previous ← (d.lookup "previous_owner_principal_id").bind Json.asStr?
      let owner ← (d.lookup "owner_principal_id").bind Json.asStr?
      return (previous, owner)
    | _ => none
  | _ => none

/-- After a transfer its principals are a member and the owner, both active. -/
theorem transferred_step {c : GatewayCall} {p q : String}
    (ht : g.transferred cfg env c = some (p, q)) :
    (g.step cfg (env, c)).directory.user p = some (.member, .active) ∧
      (g.step cfg (env, c)).directory.user q = some (.owner, .active) := by
  cases c with
  | transferOwner targetWxShort expected requestId confirmation =>
    simp only [transferred] at ht
    split at ht
    · rename_i g' d hs
      have hstep : g.step cfg (env, .transferOwner targetWxShort expected requestId confirmation) =
          g' := by
        simp only [step, GatewayCall.exec, hs]
        rfl
      rw [hstep]
      simp only [transferOwner, bind_eq_ok] at hs
      obtain ⟨_, _, hs⟩ := hs
      obtain ⟨id, _, ⟨row, _, _, _, _, hr⟩ | ⟨_, g₁, filed, response, _, hop, _, rfl, hr⟩⟩ :=
        administer_cases hs
      · exact absurd (congrArg Prod.snd hr) (by simp)
      · obtain ⟨owner, target, hturn, stored, _, hkeys, rfl⟩ := transferOwnerOperation_ok hop
        obtain ⟨rfl, _⟩ : d = _ ∧ False = False := ⟨Json.obj.inj (congrArg Prod.fst hr), rfl⟩
        have hlookup : ∀ key, key ∉ stored.map Prod.fst → stored.lookup key = none := by
          intro key hkey
          rw [List.lookup_eq_none_iff]
          intro kv hkv
          rw [bne_iff_ne]
          rintro rfl
          exact hkey (List.mem_map_of_mem hkv)
        rw [hkeys] at hlookup
        rw [List.lookup_append, List.lookup_append, hlookup _ (by decide), hlookup _ (by decide)]
          at ht
        cases ht
        exact hturn.transferred
    · cases ht
  | _ => cases ht

end GatewayStore

/-- A store, and the principals of the transfer that was its last call. -/
structure OwnerRun where
  store : GatewayStore
  transfer : Option (String × String)

inductive OwnerEvent where
  | call (env : Env) (c : GatewayCall)
  /-- `restore_owner_after_mirror_failure`, with the principals of the transfer before it. -/
  | restore (env : Env) (requestId : String)

/-- The restore of the transfer that was the last call; without one there is nothing to restore. -/
def OwnerRun.restore (s : OwnerRun) (env : Env) (requestId : String) : OwnerRun :=
  match s.transfer with
  | none => s
  | some (previous, target) =>
    match s.store.restoreOwnerAfterMirrorFailure previous target requestId (env.now 0) with
    | .ok g => ⟨g, none⟩
    | .error _ => ⟨s.store, none⟩

def OwnerRun.step (cfg : Config) (s : OwnerRun) : OwnerEvent → OwnerRun
  | .call env c => ⟨s.store.step cfg (env, c), s.store.transferred cfg env c⟩
  | .restore env requestId => s.restore env requestId

namespace OwnerRun

variable {cfg : Config} {s : OwnerRun} {e : OwnerEvent}

/-- The principals of a transfer that was the last call are a member and the owner, both active. -/
def Fresh (s : OwnerRun) : Prop :=
  ∀ p q, s.transfer = some (p, q) → s.store.directory.user p = some (.member, .active) ∧
    s.store.directory.user q = some (.owner, .active)

theorem restore_transfer (s : OwnerRun) (env : Env) (requestId : String) :
    (s.restore env requestId).transfer = none := by
  unfold restore
  cases htransfer : s.transfer with
  | none => exact htransfer
  | some pq =>
    dsimp only
    cases s.store.restoreOwnerAfterMirrorFailure pq.1 pq.2 requestId (env.now 0) <;> rfl

theorem step_fresh : (s.step cfg e).Fresh := by
  intro p q hpq
  cases e with
  | call env c => exact GatewayStore.transferred_step hpq
  | restore env requestId =>
    rw [step, restore_transfer] at hpq
    cases hpq

/-- A transfer that is taken back makes the previous owner the only one again. -/
theorem restoreOwner_ok {g g' : GatewayStore} {p q requestId now : String}
    (hp : g.directory.user p = some (.member, .active))
    (hq : g.directory.user q = some (.owner, .active))
    (hs : g.restoreOwnerAfterMirrorFailure p q requestId now = .ok g')
    (hg : g.UniqueOwner) : g'.UniqueOwner := by
  simp only [GatewayStore.restoreOwnerAfterMirrorFailure, bind_eq_ok, pure_eq_ok] at hs
  obtain ⟨_, _, rfl⟩ := hs
  have hne : p ≠ q := by
    rintro rfl
    rw [hp] at hq
    cases hq
  obtain ⟨u, hu, hustanding⟩ := Option.map_eq_some_iff.mp hp
  obtain ⟨v, hv, hvstanding⟩ := Option.map_eq_some_iff.mp hq
  have hu' : (g.users.update q fun u => { u with role := .member }).get? p = some u := by
    rw [← hu]
    exact Table.get?_update_of_ne _ hne _ (by intro _; rfl)
  have huser : (((g.users.update q fun u => { u with role := .member }).update p
      fun u => { u with role := .owner }).updateWhere (fun u => u.principalId = p ∨ u.principalId = q)
      fun u => { u with revision := g.usersRevision + 1, updatedAt := now }).view
      WeixinUser.standing =
        Function.update (Function.update g.directory.user q (some (.member, .active))) p
          (some (.owner, .active)) := by
    rw [Table.view_updateWhere _ _ (by intro _; rfl), Table.view_update _ _ hu',
      Table.view_update _ _ hv, show u.status = .active from congrArg Prod.snd hustanding,
      show v.status = .active from congrArg Prod.snd hvstanding]
    rfl
  rw [GatewayStore.uniqueOwner_iff] at hg ⊢
  obtain ⟨o, _, honly⟩ := hg
  refine ⟨p, ?_, fun r s hr => ?_⟩
  · exact (congrFun huser p).trans (Function.update_self _ _ _)
  · by_contra hrp
    have hr' := (congrFun huser r).symm.trans hr
    rw [Function.update_of_ne hrp, Function.update_apply] at hr'
    split_ifs at hr' with hrq
    · cases hr'
    · exact hrq ((honly r s hr').trans (honly q _ hq).symm)

theorem restore_owner (hs : s.Fresh) (env : Env) (requestId : String)
    (hg : s.store.UniqueOwner) : (s.restore env requestId).store.UniqueOwner := by
  unfold restore
  cases htransfer : s.transfer with
  | none => exact hg
  | some pq =>
    dsimp only
    obtain ⟨hp, hq⟩ := hs pq.1 pq.2 htransfer
    cases hrestore : s.store.restoreOwnerAfterMirrorFailure pq.1 pq.2 requestId (env.now 0) with
    | ok g => exact restoreOwner_ok hp hq hrestore hg
    | error _ => exact hg

/-- A store without an owner has none to restore. -/
theorem restore_noOwner (hs : s.Fresh) (env : Env) (requestId : String) (hg : s.store.NoOwner) :
    (s.restore env requestId).store.NoOwner := by
  unfold restore
  cases htransfer : s.transfer with
  | none => exact hg
  | some pq => exact absurd (hs pq.1 pq.2 htransfer).2 (GatewayStore.noOwner_iff.mp hg _ _)

theorem step_owner (hs : s.Fresh) :
    (s.store.UniqueOwner → (s.step cfg e).store.UniqueOwner) ∧
      (s.store.NoOwner → (s.step cfg e).store.NoOwner ∨ (s.step cfg e).store.UniqueOwner) := by
  cases e with
  | call env c => exact GatewayStore.step_owner (env, c)
  | restore env requestId =>
    exact ⟨restore_owner hs env requestId, fun hg => .inl (restore_noOwner hs env requestId hg)⟩

/-- From a store without an owner, every state of a run has no owner or exactly one, an active one,
    and no event leaves none when there was one. -/
theorem unique_owner {g : GatewayStore} (hg : g.NoOwner) (es : List OwnerEvent) :
    Throughout (step cfg) (fun s => s.store.NoOwner ∨ s.store.UniqueOwner) ⟨g, none⟩ es ∧
      EveryStep (step cfg) (fun s e => s.store.UniqueOwner → (s.step cfg e).store.UniqueOwner)
        ⟨g, none⟩ es := by
  have hfresh : Fresh ⟨g, none⟩ := fun p q hpq => by cases hpq
  have hstep : ∀ (s : OwnerRun) (e : OwnerEvent),
      s.Fresh ∧ (s.store.NoOwner ∨ s.store.UniqueOwner) → True →
        (s.step cfg e).Fresh ∧ ((s.step cfg e).store.NoOwner ∨ (s.step cfg e).store.UniqueOwner) :=
    fun s e hs _ => ⟨step_fresh, hs.2.elim (step_owner hs.1).2 fun h => .inr ((step_owner hs.1).1 h)⟩
  have htrue := everyStep_true (step cfg) (G := fun _ _ => True) (fun _ _ => trivial) ⟨g, none⟩ es
  exact ⟨(throughout_of_everyStep (step cfg) hstep ⟨hfresh, .inl hg⟩ htrue).imp (step cfg)
      fun _ hs => hs.2,
    htrue.imp (step cfg) hstep (fun _ _ hs _ => (step_owner hs.1).1) ⟨hfresh, .inl hg⟩⟩

theorem unique_owner_created :
    Throughout (step GatewayStore.rescanConfig) (fun s => s.store.NoOwner ∨ s.store.UniqueOwner)
        ⟨.created, none⟩ [.call GatewayStore.rescanEnv (.migrateIdentityAllowlist ["owner"])] ∧
      EveryStep (step GatewayStore.rescanConfig)
        (fun s e => s.store.UniqueOwner → (s.step GatewayStore.rescanConfig e).store.UniqueOwner)
        ⟨.created, none⟩ [.call GatewayStore.rescanEnv (.migrateIdentityAllowlist ["owner"])] :=
  unique_owner (fun u hu => by cases hu) _

end OwnerRun

end HomeAddons.Gateway
