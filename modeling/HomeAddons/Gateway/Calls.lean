import HomeAddons.Common.Run
import HomeAddons.Gateway.Bindings

/-!
# Weixin Gateway: who is bound to a ClawBot

Runs of the calls of a store, from one in which nobody is bound yet. A call that raises leaves the
store as it was.

* `GatewayCall.exec_turns`: a call that goes through takes the directory through its turn.
* `GatewayStore.bound_iff`: in a run, every identity keeps at most one active primary binding and
  none that has one is moved, exactly when no call disturbs such an identity.
-/

namespace HomeAddons.Gateway

open HomeAddons.Common

/-! ## Calls -/

/-- A call of the store. -/
inductive GatewayCall where
  | migrateIdentityAllowlist (allowedUserIds : List String)
  | migrateLegacyIdentity (identityId accountHash : String)
  | createMemberInvitation (expected requestId ttl : Json)
  | cancelMemberInvitation (inviteShort : String) (expected requestId : Json)
  | claimMemberInvitation (userId text : String)
  | updateAlias (wxShort aliasName : String) (expected requestId : Json)
  | changeUserState (action : UserAction) (wxShort : String) (expected requestId : Json)
  | transferOwner (targetWxShort : String) (expected requestId : Json) (confirmation : String)
  | createOnboardingSession (expected requestId : Json) (aliasName : String)
      (targetWxShort : Option String) (ttl : Json) (maxActiveIdentities : ℤ)
  | setOnboardingQrState (sessionId qrState : String) (errorCode : Option String)
      (terminalState : Option SessionState)
  | attachOnboardingIdentity (sessionId identityId accountHash scannedPrivateUserId : String)
  | claimOnboarding (identityId privateUserId text : String)
  | cancelOnboardingSession (sessionShort : String) (expected requestId : Json)
  | expireOnboardingSessions

namespace GatewayCall

/-- The store after a call. -/
def exec (cfg : Config) (env : Env) (g : GatewayStore) : GatewayCall → Except Raise GatewayStore
  | migrateIdentityAllowlist allowed => Prod.fst <$> g.migrateIdentityAllowlist cfg env allowed
  | migrateLegacyIdentity identityId accountHash =>
    Prod.fst <$> g.migrateLegacyIdentity env identityId accountHash
  | createMemberInvitation expected requestId ttl =>
    Prod.fst <$> g.createMemberInvitation cfg env expected requestId ttl
  | cancelMemberInvitation inviteShort expected requestId =>
    Prod.fst <$> g.cancelMemberInvitation cfg env inviteShort expected requestId
  | claimMemberInvitation userId text => Prod.fst <$> g.claimMemberInvitation cfg env userId text
  | updateAlias wxShort aliasName expected requestId =>
    Prod.fst <$> g.updateAlias cfg env wxShort aliasName expected requestId
  | changeUserState action wxShort expected requestId =>
    Prod.fst <$> g.changeUserState cfg env action wxShort expected requestId
  | transferOwner targetWxShort expected requestId confirmation =>
    Prod.fst <$> g.transferOwner cfg env targetWxShort expected requestId confirmation
  | createOnboardingSession expected requestId aliasName targetWxShort ttl maxActiveIdentities =>
    Prod.fst <$> g.createOnboardingSession cfg env expected requestId aliasName targetWxShort ttl
      maxActiveIdentities
  | setOnboardingQrState sessionId qrState errorCode terminalState =>
    g.setOnboardingQrState env sessionId qrState errorCode terminalState
  | attachOnboardingIdentity sessionId identityId accountHash scannedPrivateUserId =>
    Prod.fst <$> g.attachOnboardingIdentity cfg env sessionId identityId accountHash
      scannedPrivateUserId
  | claimOnboarding identityId privateUserId text =>
    Prod.fst <$> g.claimOnboarding cfg env identityId privateUserId text
  | cancelOnboardingSession sessionShort expected requestId =>
    Prod.fst <$> g.cancelOnboardingSession cfg env sessionShort expected requestId
  | expireOnboardingSessions => .ok (g.expireOnboardingSessions env).1

/-- What a call that goes through does to the identities that principals are bound to: nothing, for
    a call of another kind. -/
def turn (cfg : Config) (env : Env) (g : GatewayStore) : GatewayCall → Directory.Turn
  | migrateLegacyIdentity identityId _ => .start identityId
  | changeUserState action wxShort _ requestId => g.actionTurn cfg action wxShort requestId
  | attachOnboardingIdentity _ identityId _ _ => .attach identityId
  | claimOnboarding identityId privateUserId text =>
    match g.pairs env identityId privateUserId text with
    | some p => .claim identityId p
    | none => .idle
  | _ => .idle

variable {cfg : Config} {env : Env} {g g' : GatewayStore} {c : GatewayCall}

theorem exec_turns (hs : c.exec cfg env g = .ok g') :
    ∃ t, g.Turns t g' ∧ (t = c.turn cfg env g ∨ t.Quiet ∧ c.turn cfg env g = .idle) := by
  cases c with
  | migrateIdentityAllowlist =>
    obtain ⟨_, hs⟩ := fst_eq_ok.mp hs
    obtain ⟨t, hquiet, hturns⟩ := GatewayStore.migrateIdentityAllowlist_turns hs
    exact ⟨t, hturns, .inr ⟨hquiet, rfl⟩⟩
  | migrateLegacyIdentity =>
    obtain ⟨_, hs⟩ := fst_eq_ok.mp hs
    exact ⟨_, GatewayStore.migrateLegacyIdentity_turns hs, .inl rfl⟩
  | createMemberInvitation =>
    obtain ⟨_, hs⟩ := fst_eq_ok.mp hs
    exact ⟨.idle, .refl (GatewayStore.createMemberInvitation_ok hs), .inl rfl⟩
  | cancelMemberInvitation =>
    obtain ⟨_, hs⟩ := fst_eq_ok.mp hs
    exact ⟨.idle, .refl (GatewayStore.cancelMemberInvitation_ok hs), .inl rfl⟩
  | claimMemberInvitation =>
    obtain ⟨_, hs⟩ := fst_eq_ok.mp hs
    obtain ⟨t, hquiet, hturns⟩ := GatewayStore.claimMemberInvitation_turns hs
    exact ⟨t, hturns, .inr ⟨hquiet, rfl⟩⟩
  | updateAlias =>
    obtain ⟨_, hs⟩ := fst_eq_ok.mp hs
    exact ⟨.idle, GatewayStore.updateAlias_turns hs, .inl rfl⟩
  | changeUserState =>
    obtain ⟨_, hs⟩ := fst_eq_ok.mp hs
    exact ⟨_, GatewayStore.changeUserState_turns hs, .inl rfl⟩
  | transferOwner =>
    obtain ⟨_, hs⟩ := fst_eq_ok.mp hs
    obtain ⟨t, hquiet, hturns⟩ := GatewayStore.transferOwner_turns hs
    exact ⟨t, hturns, .inr ⟨hquiet, rfl⟩⟩
  | createOnboardingSession =>
    obtain ⟨_, hs⟩ := fst_eq_ok.mp hs
    exact ⟨.idle, GatewayStore.createOnboardingSession_turns hs, .inl rfl⟩
  | setOnboardingQrState =>
    exact ⟨.idle, GatewayStore.setOnboardingQrState_turns hs, .inl rfl⟩
  | attachOnboardingIdentity =>
    obtain ⟨_, hs⟩ := fst_eq_ok.mp hs
    exact ⟨_, GatewayStore.attachOnboardingIdentity_turns hs, .inl rfl⟩
  | claimOnboarding =>
    obtain ⟨_, hs⟩ := fst_eq_ok.mp hs
    exact ⟨_, GatewayStore.claimOnboarding_turns hs, .inl rfl⟩
  | cancelOnboardingSession =>
    obtain ⟨_, hs⟩ := fst_eq_ok.mp hs
    exact ⟨.idle, GatewayStore.cancelOnboardingSession_turns hs, .inl rfl⟩
  | expireOnboardingSessions =>
    cases hs
    obtain ⟨S, hS⟩ := GatewayStore.expireSessions_dropped (g := g) (env.now 0)
    exact ⟨.idle, .idle S hS, .inl rfl⟩

end GatewayCall

/-! ## Runs -/

/-- A call in its surroundings; one that raises leaves the store as it was. -/
def GatewayStore.step (cfg : Config) (g : GatewayStore) (call : Env × GatewayCall) : GatewayStore :=
  match call.2.exec cfg call.1 g with
  | .ok g' => g'
  | .error _ => g

/-- Nobody is bound yet, and there is at most one owner. -/
structure GatewayStore.Fresh (g : GatewayStore) : Prop where
  identities : g.identities.rows = []
  bindings : g.bindings.rows = []
  owner : ∀ u ∈ g.users.rows, ∀ v ∈ g.users.rows, u.role = .owner → v.role = .owner → u = v

namespace GatewayStore

variable {cfg : Config} {g : GatewayStore} {call : Env × GatewayCall}

/-- The call moves no identity that has an active primary binding back to its pairing or to
    `revoked`, unless it revokes the user of that binding. -/
def Spares (cfg : Config) (g : GatewayStore) (call : Env × GatewayCall) : Prop :=
  g.directory.Spares (call.2.turn cfg call.1 g) (g.step cfg call).directory

/-- The call goes through and disturbs an identity that has an active primary binding. -/
def Disturbs (cfg : Config) (g : GatewayStore) (call : Env × GatewayCall) : Prop :=
  (∃ g', call.2.exec cfg call.1 g = .ok g') ∧ (call.2.turn cfg call.1 g).Disturbs g.directory

theorem Fresh.sound (hg : g.Fresh) : g.directory.Sound := by
  have hseat : ∀ p, g.directory.seat p = none := by
    intro p
    refine Table.view_of_get?_none _ (Table.get?_eq_none.mpr ?_)
    rw [hg.bindings]
    exact List.not_mem_nil
  have hfree : ∀ i p, ¬ g.directory.Holds i p := by
    intro i p hp
    unfold Directory.Holds at hp
    rw [hseat p] at hp
    cases hp
  refine ⟨fun p s hs => ?_, fun p q s t hp hq => ?_, fun i p _ hp => absurd hp (hfree i p),
    fun i p hp => absurd hp (hfree i p)⟩
  · rw [hseat p] at hs
    cases hs
  · obtain ⟨u, hu, hus⟩ := Option.map_eq_some_iff.mp hp
    obtain ⟨v, hv, hvt⟩ := Option.map_eq_some_iff.mp hq
    have huv := hg.owner u (Table.mem_of_get? hu) v (Table.mem_of_get? hv)
      (congrArg Prod.fst hus) (congrArg Prod.fst hvt)
    rw [← Table.key_of_get? hu, ← Table.key_of_get? hv, huv]

/-- What a call does to the directory of a store. -/
theorem step_directory (cfg : Config) (g : GatewayStore) (call : Env × GatewayCall) :
    (g.step cfg call).directory = g.directory ∧ (∀ g', call.2.exec cfg call.1 g ≠ .ok g') ∨
      (∃ g', call.2.exec cfg call.1 g = .ok g') ∧ ∃ t, g.Turns t (g.step cfg call) ∧
        (t = call.2.turn cfg call.1 g ∨ t.Quiet ∧ call.2.turn cfg call.1 g = .idle) := by
  unfold step
  cases hs : call.2.exec cfg call.1 g with
  | ok g' => exact .inr ⟨⟨g', rfl⟩, GatewayCall.exec_turns hs⟩
  | error e => exact .inl ⟨rfl, fun g' hc => by cases hc⟩

theorem step_matched (hg : g.directory.Matched) : (g.step cfg call).directory.Matched := by
  obtain ⟨heq, _⟩ | ⟨_, t, ⟨S, hs⟩, _⟩ := step_directory cfg g call
  · rwa [heq]
  · exact Directory.Matched.step (d := g.directory.dropped S) hg hs

/-- A call leaves a sound directory with one holder an identity and every holder spared exactly when
    it disturbs none. -/
theorem step_iff (hg : g.directory.Sound) :
    ((g.step cfg call).directory.OneHolder ∧ g.Spares cfg call) ↔ ¬ g.Disturbs cfg call := by
  unfold Spares Disturbs
  obtain ⟨heq, hraise⟩ | ⟨hok, t, ⟨S, hs⟩, ht⟩ := step_directory cfg g call
  · rw [heq]
    refine iff_of_true ⟨hg.oneHolder, fun i p _ _ hmoved => absurd rfl hmoved⟩ ?_
    rintro ⟨⟨g', hok⟩, _⟩
    exact hraise g' hok
  · have hiff := hg.dropped.step_iff hs
    rw [Directory.spares_dropped hg.settled, Directory.Turn.disturbs_dropped hg.settled] at hiff
    obtain rfl | ⟨hquiet, hidle⟩ := ht
    · rw [hiff, and_iff_right hok]
    · rw [hidle]
      refine iff_of_true ?_ fun hc => hc.2
      have hgood := hiff.mpr hquiet.not_disturbs
      exact ⟨hgood.1, hgood.2.of_quiet hquiet⟩

theorem step_sound (hg : g.directory.Sound) (ht : ¬ g.Disturbs cfg call) :
    (g.step cfg call).directory.Sound := by
  obtain ⟨heq, _⟩ | ⟨hok, t, ⟨S, hs⟩, ht'⟩ := step_directory cfg g call
  · rwa [heq]
  · refine hg.dropped.step hs ?_
    rw [Directory.Turn.disturbs_dropped hg.settled]
    obtain rfl | ⟨hquiet, _⟩ := ht'
    · exact fun hc => ht ⟨hok, hc⟩
    · exact hquiet.not_disturbs

/-- From a store in which nobody is bound, the bindings stay in the states of their users; and every
    identity keeps at most one active primary binding, with none that has one moved back to its
    pairing or to `revoked` but by revoking its own user, exactly when no call disturbs an identity
    that has one. -/
theorem bound_iff (hg : g.Fresh) (calls : List (Env × GatewayCall)) :
    Throughout (step cfg) (fun g => g.directory.Matched) g calls ∧
      ((Throughout (step cfg) (fun g => g.directory.OneHolder) g calls ∧
          EveryStep (step cfg) (fun g call => g.Spares cfg call) g calls) ↔
        EveryStep (step cfg) (fun g call => ¬ g.Disturbs cfg call) g calls) := by
  constructor
  · exact throughout_of_everyStep (step cfg) (G := fun _ _ => True)
      (fun _ _ hmatched _ => step_matched hmatched) hg.sound.matched
      (everyStep_true (step cfg) (fun _ _ => trivial) g calls)
  · exact sound_iff_everyStep (step cfg) (I := fun g => g.directory.Sound) (fun _ hs => hs.oneHolder)
      (fun _ _ hs ht => step_sound hs ht) (fun _ _ hs => step_iff hs) hg.sound

/-! ## A second scan of the account of the owner -/

/-- A store that was just created. -/
def created : GatewayStore := ⟨0, .empty, .empty, .empty, .empty, .empty, .empty, .empty⟩

theorem created_fresh : created.Fresh := ⟨rfl, rfl, fun u hu => by cases hu⟩

def rescanConfig : Config := ⟨fun kind _ => kind ++ "-AAAAAAAAAA"⟩

def rescanEnv : Env where
  now _ := "2026-01-01T00:00:00+00:00"
  later _ := "2026-01-01T00:10:00+00:00"
  principalId := "PR-1"
  token := "session-1"
  code := "0123456789ABCDEF0123456789ABCDEF"
  salt := []

def rescannedAccount : String := String.ofList (List.replicate 64 'a')

def rescannedIdentity : String := "ID-" ++ String.ofList (List.replicate 32 'a')

/-- The gateway starts with the account of its owner, and a member is to be added. -/
def beforeRescan : List (Env × GatewayCall) :=
  [(rescanEnv, .migrateIdentityAllowlist ["owner"]),
    (rescanEnv, .migrateLegacyIdentity rescannedIdentity rescannedAccount),
    (rescanEnv, .createOnboardingSession (.int 1) (.str "request-00000001") "Member" none
      (.int 600) 5)]

/-- The member scans the account of the owner. -/
def rescan : Env × GatewayCall :=
  (rescanEnv, .attachOnboardingIdentity "session-1" rescannedIdentity rescannedAccount "member")

theorem bound_iff_rescan :
    Throughout (step rescanConfig) (fun g => g.directory.Matched) created
        (beforeRescan ++ [rescan]) ∧
      ((Throughout (step rescanConfig) (fun g => g.directory.OneHolder) created
            (beforeRescan ++ [rescan]) ∧
          EveryStep (step rescanConfig) (fun g call => g.Spares rescanConfig call) created
            (beforeRescan ++ [rescan])) ↔
        EveryStep (step rescanConfig) (fun g call => ¬ g.Disturbs rescanConfig call) created
          (beforeRescan ++ [rescan])) :=
  bound_iff created_fresh (beforeRescan ++ [rescan])

/-- The owner is bound to the identity, and the scan takes it back to its pairing. -/
theorem rescan_moves : ¬ ∀ (cfg : Config) (g : GatewayStore), g.Fresh →
    ∀ calls : List (Env × GatewayCall),
      Throughout (step cfg) (fun g => g.directory.Matched) g calls ∧
        Throughout (step cfg) (fun g => g.directory.OneHolder) g calls ∧
          EveryStep (step cfg) (fun g call => g.Spares cfg call) g calls := by
  intro hall
  obtain ⟨_, _, hspares⟩ := hall rescanConfig created created_fresh (beforeRescan ++ [rescan])
  rw [everyStep_append] at hspares
  obtain ⟨_, hspares, _⟩ := hspares
  have hholds : (runFrom (step rescanConfig) created beforeRescan).directory.Holds rescannedIdentity
      (legacyPrincipalId (userHash "owner")) := by
    unfold Directory.Holds
    decide +kernel
  have hbefore : (runFrom (step rescanConfig) created beforeRescan).directory.identity
      rescannedIdentity = some .active := by decide +kernel
  have hafter : (step rescanConfig (runFrom (step rescanConfig) created beforeRescan)
      rescan).directory.identity rescannedIdentity = some .pendingPairing := by decide +kernel
  refine (hspares rescannedIdentity _ hholds (fun hc => by cases hc) ?_).1 hafter
  rw [hafter, hbefore]
  decide

end GatewayStore

end HomeAddons.Gateway
