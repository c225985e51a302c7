import HomeAddons.Gateway.Revision

/-!
# Weixin Gateway: onboarding sessions

What the calls of a store do to the sessions in which members are added, over runs that start
without one.

* `Session.Move`: what one call may do to a session that is there.
* `GatewayStore.step_sessions`: every call moves every session so, and opens at most one.
* `GatewayStore.onboarding_protocol`: one open session at a time, an end that is final, a claim by
  the scanned user with the issued code, one binding for a session.
-/

namespace HomeAddons.Gateway

open HomeAddons.Common

/-! ## One session -/

/-- A message of the scanned user, while the session waits for the code. -/
structure Session.Hears (s : Session) (env : Env) (identityId privateUserId : String) : Prop where
  identity : s.identityId = some identityId
  state : s.state = .pendingPairing
  unexpired : ¬ s.expiresAt ≤ env.now 1
  mine : s.scannedPrivateUserId.getD "None" = privateUserId

/-- What one call may do to a session. -/
inductive Session.Move (env : Env) (c : GatewayCall) (s : Session) : Session → Prop where
  | rest : Move env c s s
  | reported {qrState updatedAt : String} {lastError : Option String}
      (hopen : s.state.isOpen = true) :
      Move env c s { s with qrState := qrState, lastError := lastError, updatedAt := updatedAt }
  | ended {state : SessionState} {qrState updatedAt : String} {lastError : Option String}
      (hopen : s.state.isOpen = true) (hended : state.isOpen = false) (hclaimed : state ≠ .claimed) :
      Move env c s { s with
        state := state, qrState := qrState, lastError := lastError, updatedAt := updatedAt }
  | scanned {identityId accountHash user updatedAt : String} (hwaiting : s.state = .waitingQr) :
      Move env c s { s with
        state := .pendingPairing
        identityId := some identityId
        accountHash := some accountHash
        scannedPrivateUserId := some user
        qrState := "confirmed"
        lastError := none
        updatedAt := updatedAt }
  | refused {identityId user text updatedAt : String} {salt : List UInt8}
      (hcall : c = .claimOnboarding identityId user text) (hhears : s.Hears env identityId user)
      (hsalt : s.codeSalt = some salt) (hcode : Gateway.codeHash salt (strip text) ≠ s.codeHash) :
      Move env c s { s with
        attempts := s.attempts + 1
        state := if GatewayStore.maxOnboardingAttempts ≤ s.attempts + 1 then .failed
          else .pendingPairing
        updatedAt := updatedAt }
  | claimed {identityId user text updatedAt : String} {salt : List UInt8}
      (hcall : c = .claimOnboarding identityId user text) (hhears : s.Hears env identityId user)
      (hsalt : s.codeSalt = some salt) (hcode : Gateway.codeHash salt (strip text) = s.codeHash) :
      Move env c s { s with state := .claimed, updatedAt := updatedAt }

namespace Session

variable {env : Env} {c : GatewayCall} {s s' s₁ : Session}

/-- A session that is not open is left alone. -/
theorem Move.eq_of_ended (h : s.Move env c s') (hended : s.state.isOpen = false) : s' = s := by
  cases h with
  | rest => rfl
  | reported hopen => rw [hended] at hopen; cases hopen
  | ended hopen => rw [hended] at hopen; cases hopen
  | scanned hwaiting => rw [hwaiting] at hended; cases hended
  | refused _ hhears => rw [hhears.state] at hended; cases hended
  | claimed _ hhears => rw [hhears.state] at hended; cases hended

/-- What is written when a session is opened stays. -/
theorem Move.terms (h : s.Move env c s') : s'.sessionId = s.sessionId ∧ s'.codeSalt = s.codeSalt ∧
    s'.codeHash = s.codeHash := by
  cases h <;> exact ⟨rfl, rfl, rfl⟩

/-- An open session has heard fewer than five wrong codes, and one that waits for the code knows who
    scanned. -/
structure Sound (s : Session) : Prop where
  attempts : s.state.isOpen = true → s.attempts < GatewayStore.maxOnboardingAttempts
  scanned : s.state = .pendingPairing → s.scannedPrivateUserId.isSome = true

theorem Move.sound (h : s.Move env c s') (hs : s.Sound) : s'.Sound := by
  cases h with
  | rest => exact hs
  | reported => exact ⟨hs.attempts, hs.scanned⟩
  | ended _ hended =>
    refine ⟨fun hopen => ?_, fun hpending => ?_⟩
    · rw [hended] at hopen
      cases hopen
    · dsimp only at hpending
      rw [hpending] at hended
      cases hended
  | scanned hwaiting => exact ⟨fun _ => hs.attempts (by rw [hwaiting]; rfl), fun _ => rfl⟩
  | refused _ hhears =>
    refine ⟨fun hopen => ?_, fun _ => hs.scanned hhears.state⟩
    dsimp only at hopen ⊢
    split_ifs at hopen with hlast
    · cases hopen
    · exact Nat.lt_of_not_le hlast
  | claimed => exact ⟨fun hopen => (by cases hopen), fun hpending => (by cases hpending)⟩

end Session

/-! ## One call -/

/-- The session is new, and its code is shown in the response of the call. -/
structure Session.Opened (cfg : Config) (env : Env) (c : GatewayCall) (g g' : GatewayStore)
    (s : Session) : Prop where
  token : s.sessionId = env.token
  salt : s.codeSalt = some env.salt
  code : s.codeHash = Gateway.codeHash env.salt ("接入-CODEX-" ++ env.code)
  state : s.state = .waitingQr
  attempts : s.attempts = 0
  issued : ∃ (expected requestId ttl : Json) (aliasName : String) (target : Option String) (limit : ℤ)
    (response : Dict), c = .createOnboardingSession expected requestId aliasName target ttl limit ∧
      g.createOnboardingSession cfg env expected requestId aliasName target ttl limit =
        .ok (g', .obj response, false) ∧
      response.get "session_id" = .str env.token ∧
      response.get "code" = .str ("接入-CODEX-" ++ env.code)

/-- What one call does to the sessions: every session that is there moves, and one that is new is the
    only open one. -/
structure SessionsMove (cfg : Config) (env : Env) (c : GatewayCall) (g g' : GatewayStore) :
    Prop where
  moved : ∀ id s, g.sessions.get? id = some s →
    ∃ s', g'.sessions.get? id = some s' ∧ s.Move env c s'
  opened : ∀ id s', g'.sessions.get? id = some s' → g.sessions.get? id = none →
    s'.Opened cfg env c g g' ∧ ∀ t ∈ g'.sessions.rows, t.state.isOpen = true → t = s'

namespace GatewayStore

variable {cfg : Config} {env : Env} {c : GatewayCall} {g g' g₁ : GatewayStore}

theorem sessionId_expired (now : String) (s : Session) :
    { s with state := .expired, updatedAt := now }.sessionId = s.sessionId := rfl

/-- The sessions after the expiry at `now`. -/
def expired (g : GatewayStore) (now : String) : Table Session.sessionId :=
  g.sessions.updateWhere (fun s => decide (s.state.isOpen = true ∧ s.expiresAt ≤ now))
    (fun s => { s with state := .expired, updatedAt := now }) (sessionId_expired now)

theorem expireSessions_sessions (g : GatewayStore) (now : String) :
    (g.expireSessions now).sessions = g.expired now := by
  obtain ⟨identities, heq⟩ := g.expireSessions_tables now
  rw [heq]
  rfl

/-- An open session after an expiry is not due. -/
theorem unexpired {now id : String} {s : Session} (hs : (g.expired now).get? id = some s)
    (hopen : s.state.isOpen = true) : ¬ s.expiresAt ≤ now := by
  obtain ⟨r, _, rfl⟩ := Table.get?_updateWhere_eq_some.mp hs
  split_ifs at hopen ⊢ with hdue
  · cases hopen
  · exact fun hle => hdue (decide_eq_true ⟨hopen, hle⟩)

end GatewayStore

namespace SessionsMove

variable {cfg : Config} {env : Env} {c : GatewayCall} {g g' : GatewayStore}

/-- A call without a new session. -/
theorem of_rel (h : ∀ id, Option.Rel (Session.Move env c) (g.sessions.get? id)
    (g'.sessions.get? id)) : SessionsMove cfg env c g g' := by
  refine ⟨fun id s hs => ?_, fun id s' hs' hnone => ?_⟩
  · have hrel := h id
    rw [hs] at hrel
    cases hget : g'.sessions.get? id with
    | none => rw [hget] at hrel; cases hrel
    | some s' =>
      rw [hget] at hrel
      cases hrel with
      | some hmove => exact ⟨s', rfl, hmove⟩
  · have hrel := h id
    rw [hs', hnone] at hrel
    cases hrel

theorem of_eq (heq : g'.sessions = g.sessions) : SessionsMove cfg env c g g' := by
  refine of_rel fun id => ?_
  rw [heq]
  cases g.sessions.get? id with
  | none => exact .none
  | some s => exact .some .rest

variable {row : Session} {now : String}

theorem of_update (f : Session → Session) (hf : ∀ s, (f s).sessionId = s.sessionId)
    (hrow : g.sessions.get? row.sessionId = some row) (hmove : row.Move env c (f row))
    (heq : g'.sessions = g.sessions.update row.sessionId f hf) : SessionsMove cfg env c g g' := by
  refine of_rel fun id => ?_
  rw [heq, Table.get?_update]
  split_ifs with hid
  · rw [hid, hrow]
    exact .some hmove
  · cases g.sessions.get? id with
    | none => exact .none
    | some s => exact .some .rest

/-- The move of a session in an expiry. -/
theorem expire_move (s : Session) (now : String) :
    s.Move env c (if decide (s.state.isOpen = true ∧ s.expiresAt ≤ now) = true then
      { s with state := .expired, updatedAt := now } else s) := by
  split_ifs with hdue
  · exact .ended (of_decide_eq_true hdue).1 rfl (fun hc => by cases hc)
  · exact .rest

theorem of_expired (heq : g'.sessions = g.expired now) : SessionsMove cfg env c g g' := by
  refine of_rel fun id => ?_
  rw [heq, GatewayStore.expired, Table.get?_updateWhere]
  cases g.sessions.get? id with
  | none => exact .none
  | some s => exact .some (expire_move s now)

theorem of_update_expired (f : Session → Session) (hf : ∀ s, (f s).sessionId = s.sessionId)
    (hrow : (g.expired now).get? row.sessionId = some row) (hmove : row.Move env c (f row))
    (heq : g'.sessions = (g.expired now).update row.sessionId f hf) :
    SessionsMove cfg env c g g' := by
  refine of_rel fun id => ?_
  rw [heq, Table.get?_update]
  split_ifs with hid
  · rw [hid, hrow]
    obtain ⟨s, hs, hdue⟩ := Table.get?_updateWhere_eq_some.mp hrow
    rw [hs]
    refine .some ?_
    split_ifs at hdue with h
    · have hended : row.state.isOpen = false := by rw [hdue]; rfl
      rw [hmove.eq_of_ended hended, hdue]
      exact .ended (of_decide_eq_true h).1 rfl (fun hc => by cases hc)
    · rw [← hdue]
      exact hmove
  · rw [GatewayStore.expired, Table.get?_updateWhere]
    cases g.sessions.get? id with
    | none => exact .none
    | some s => exact .some (expire_move s now)

end SessionsMove

namespace GatewayStore

variable {cfg : Config} {env : Env} {c : GatewayCall} {g g' g₁ : GatewayStore} {r : Json × Bool}

variable {requestId expected ttl : Json} {now sessionId identityId privateUserId text : String}
  {s : Session} {d : Dict} {call : Env × GatewayCall} {start : GatewayStore}
  {calls : List (Env × GatewayCall)}

/-- A request of the administrator leaves the store alone, or its operation ran. -/
theorem administer_tables {scope : String} {payload : Dict}
    {operation : GatewayStore → Except Raise (GatewayStore × Json × Json)}
    (hs : g.administer requestId scope payload now operation = .ok (g', r)) :
    g' = g ∨ ∃ g₁ filed response mutations, operation g = .ok (g₁, filed, response) ∧
      g' = { g₁ with mutations := mutations } ∧ r = (response, false) := by
  obtain ⟨_, _, ⟨_, _, _, _, rfl, _⟩ | ⟨_, g₁, filed, response, mutations, hop, _, rfl, hr⟩⟩ :=
    administer_cases hs
  · exact .inl rfl
  · exact .inr ⟨g₁, filed, response, mutations, hop, rfl, hr⟩

/-- The requests that concern no session. -/
theorem createMemberInvitation_sessions
    (hs : g.createMemberInvitation cfg env expected requestId ttl = .ok (g', r)) :
    g'.sessions = g.sessions := by
  simp only [createMemberInvitation, bind_eq_ok] at hs
  obtain ⟨_, _, hs⟩ := hs
  obtain rfl | ⟨g₁, _, _, _, hop, rfl, _⟩ := administer_tables hs
  · rfl
  · simp only [createMemberInvitationOperation, bind_eq_ok, pure_eq_ok, Prod.mk.injEq] at hop
    obtain ⟨_, _, _, _, _, _, rfl, _⟩ := hop
    rfl

theorem cancelMemberInvitation_sessions {inviteShort : String}
    (hs : g.cancelMemberInvitation cfg env inviteShort expected requestId = .ok (g', r)) :
    g'.sessions = g.sessions := by
  obtain rfl | ⟨g₁, _, _, _, hop, rfl, _⟩ := administer_tables hs
  · rfl
  · simp only [cancelMemberInvitationOperation, bind_eq_ok, pure_eq_ok, Prod.mk.injEq] at hop
    obtain ⟨_, _, _, _, _, _, rfl, _⟩ := hop
    rfl

theorem mutateUser_sessions {action : UserAction} {wxShort : String}
    (hs : g.mutateUser cfg env action wxShort expected requestId = .ok (g', r)) :
    g'.sessions = g.sessions := by
  obtain rfl | ⟨g₁, _, _, _, hop, rfl, _⟩ := administer_tables hs
  · rfl
  · obtain ⟨_, _, _, _, _, rfl⟩ := mutateUserOperation_tables hop
    rfl

theorem transferOwner_sessions {target confirmation : String}
    (hs : g.transferOwner cfg env target expected requestId confirmation = .ok (g', r)) :
    g'.sessions = g.sessions := by
  simp only [transferOwner, bind_eq_ok] at hs
  obtain ⟨_, _, hs⟩ := hs
  obtain rfl | ⟨g₁, _, _, _, hop, rfl, _⟩ := administer_tables hs
  · rfl
  · simp only [transferOwnerOperation, bind_eq_ok, pure_eq_ok, Prod.mk.injEq] at hop
    obtain ⟨_, _, _, _, _, _, _, _, _, _, rfl, _⟩ := hop
    rfl

/-! ## The calls of a session -/

theorem createOnboardingSession_sessions {aliasName : String} {target : Option String} {limit : ℤ}
    (hs : g.createOnboardingSession cfg env expected requestId aliasName target ttl limit =
      .ok (g', r)) :
    SessionsMove cfg env (.createOnboardingSession expected requestId aliasName target ttl limit)
      g g' := by
  have hcall := hs
  simp only [createOnboardingSession, bind_eq_ok] at hs
  obtain ⟨clean, _, seconds, _, _, _, hs⟩ := hs
  obtain rfl | ⟨g₁, _, response, _, hop, rfl, rfl⟩ := administer_tables hs
  · exact .of_eq rfl
  · simp only [createOnboardingOperation, bind_eq_ok, ensure_eq_ok, orRaise_eq_ok, pure_eq_ok,
      Prod.mk.injEq] at hop
    obtain ⟨_, _, _, _, _, hnone, _, _, ⟨targetId, aliasName⟩, _, sessions, hinsert, rfl, _, rfl⟩ := hop
    rw [expireSessions_sessions] at hinsert hnone
    refine ⟨fun id s hs => ?_, fun id s' hs' hnew => ?_⟩
    · have hmoved : (g.expired (env.now 0)).get? id = some _ :=
        (Table.get?_updateWhere _ _ _ _ _).trans (congrArg _ hs)
      exact ⟨_, Table.get?_insert?_of_get? hinsert hmoved, SessionsMove.expire_move s _⟩
    · obtain ⟨rfl, rfl⟩ | ⟨_, hold⟩ := (Table.get?_insert?_eq_some hinsert).mp hs'
      · refine ⟨⟨rfl, rfl, rfl, rfl, rfl, _, _, _, _, _, _, _, rfl, hcall, rfl, rfl⟩, fun t ht hopen => ?_⟩
        have hrows : t ∈ sessions.rows := ht
        rw [Table.rows_insert? hinsert, List.mem_append, List.mem_singleton] at hrows
        exact hrows.resolve_left fun hmem => hnone t hmem hopen
      · rw [expired, Table.get?_updateWhere, hnew] at hold
        cases hold

theorem ended_of_terminal {state : SessionState} (h : state ∈ terminalStates) :
    state.isOpen = false ∧ state ≠ .claimed := by
  simp only [terminalStates, List.mem_cons, List.not_mem_nil, or_false] at h
  obtain rfl | rfl | rfl | rfl := h <;> decide

theorem setOnboardingQrState_sessions {qrState : String} {errorCode : Option String}
    {terminal : Option SessionState}
    (hs : g.setOnboardingQrState env sessionId qrState errorCode terminal = .ok g') :
    SessionsMove cfg env c g g' := by
  simp only [setOnboardingQrState, bind_eq_ok, ensure_eq_ok, orRaise_eq_ok] at hs
  obtain ⟨_, _, _, hterminal, row, hrow, hs⟩ := hs
  split_ifs at hs with hopen
  · rw [pure_eq_ok] at hs
    have hkey := Table.key_of_get? hrow
    subst hkey
    refine .of_update (fun s => { s with
      state := terminal.getD row.state, qrState := qrState, lastError := errorCode,
      updatedAt := env.now 0 }) (fun _ => rfl) hrow ?_ ?_
    · cases terminal with
      | none => exact .reported hopen
      | some state =>
        obtain ⟨hended, hclaimed⟩ := ended_of_terminal (hterminal state rfl)
        exact .ended hopen hended hclaimed
    · rw [← hs]
      split <;> rfl
  · rw [pure_eq_ok] at hs
    exact .of_eq (by rw [hs])

theorem attachOnboardingIdentity_sessions {accountHash scanned : String} {r : Json}
    (hs : g.attachOnboardingIdentity cfg env sessionId identityId accountHash scanned =
      .ok (g', r)) : SessionsMove cfg env c g g' := by
  simp only [attachOnboardingIdentity, bind_eq_ok, orRaise_eq_ok, Option.filter_eq_some_iff,
    pure_eq_ok, Prod.mk.injEq] at hs
  obtain ⟨_, _, _, _, row, ⟨hrow, hwaiting⟩, _, _, _, _, g₁, hupsert, rfl, _⟩ := hs
  have hkey := Table.key_of_get? hrow
  subst hkey
  have hsessions := (upsertIdentity_aside hupsert).sessions
  rw [expireSessions_sessions] at hrow hsessions
  refine .of_update_expired (fun s => { s with
    state := .pendingPairing, identityId := some identityId, accountHash := some accountHash,
    scannedPrivateUserId := some scanned, qrState := "confirmed", lastError := none,
    updatedAt := env.now 1 }) (fun _ => rfl) hrow (.scanned (of_decide_eq_true hwaiting)) ?_
  rw [← hsessions]

theorem cancelOnboardingSession_sessions {sessionShort : String}
    (hs : g.cancelOnboardingSession cfg env sessionShort expected requestId = .ok (g', r)) :
    SessionsMove cfg env c g g' := by
  obtain rfl | ⟨g₁, _, _, _, hop, rfl, _⟩ := administer_tables hs
  · exact .of_eq rfl
  · simp only [cancelOnboardingOperation, onboardingByShort, bind_eq_ok, ensure_eq_ok, orRaise_eq_ok,
      pure_eq_ok, Prod.mk.injEq] at hop
    obtain ⟨_, _, s, ⟨_, _, hfind⟩, _, hopen, rfl, _⟩ := hop
    refine .of_update (fun s => { s with state := .cancelled, updatedAt := env.now 0 })
      (fun _ => rfl) (Table.mem_rows_iff.mp (List.mem_of_find?_eq_some hfind))
      (.ended hopen rfl (fun hc => by cases hc)) ?_
    cases s.identityId.filter fun i => i ≠ "" <;> rfl

theorem pairingSession_ok (hfind : (g.expireSessions now).pairingSession identityId = some s) :
    (g.expired now).get? s.sessionId = some s ∧ s.identityId = some identityId ∧
      s.state = .pendingPairing ∧ ¬ s.expiresAt ≤ now := by
  have hmem := List.mem_of_find?_eq_some hfind
  have hprop : s.identityId = some identityId ∧ s.state = .pendingPairing := by
    rw [pairingSession] at hfind
    simpa using List.find?_some hfind
  rw [expireSessions_sessions] at hmem
  have hget := Table.mem_rows_iff.mp hmem
  exact ⟨hget, hprop.1, hprop.2, unexpired hget (by rw [hprop.2]; rfl)⟩

theorem completeClaim_tables
    (hs : g.completeClaim cfg env s identityId privateUserId now = .ok (g', d)) :
    g'.sessions = g.sessions.update s.sessionId (fun s => { s with state := .claimed, updatedAt := now })
      (by intro _; rfl) := by
  simp only [completeClaim, bind_eq_ok, pure_eq_ok, Prod.mk.injEq] at hs
  obtain ⟨⟨g₁, u⟩, hclaimant, g₂, hbind, hs, _⟩ := hs
  have hsessions := ((claimant_aside hclaimant).trans (bindPrimary_aside hbind)).sessions
  rw [← hs, ← hsessions]
  split_ifs <;> rfl

theorem claimOnboarding_sessions {r : Option Dict}
    (hs : g.claimOnboarding cfg env identityId privateUserId text = .ok (g', r)) :
    SessionsMove cfg env (.claimOnboarding identityId privateUserId text) g g' := by
  cases claimOnboarding_outcome hs with
  | ignored => exact .of_eq rfl
  | unknown => exact .of_expired (expireSessions_sessions _ _)
  | stranger => exact .of_expired (expireSessions_sessions _ _)
  | unreadable _ hfind hsalt =>
    obtain ⟨hget, hidentity, hstate, hdue⟩ := pairingSession_ok hfind
    refine .of_update_expired (fun s => { s with state := .failed, updatedAt := env.now 0 })
      (fun _ => rfl) hget (.ended (by rw [hstate]; rfl) rfl (fun hc => by cases hc)) ?_
    rw [← expireSessions_sessions]
  | @refused s _ _ hfind hmine hsalt hcode =>
    obtain ⟨hget, hidentity, hstate, hdue⟩ := pairingSession_ok hfind
    refine .of_update_expired (fun r => { r with
      attempts := s.attempts + 1
      state := if maxOnboardingAttempts ≤ s.attempts + 1 then .failed else .pendingPairing
      updatedAt := env.now 0 }) (fun _ => rfl) hget
      (.refused rfl ⟨hidentity, hstate, hdue, hmine⟩ hsalt hcode) ?_
    rw [← expireSessions_sessions, refuseCode]
    split_ifs <;> rfl
  | paired _ hfind hmine hsalt hcode hclaim =>
    obtain ⟨hget, hidentity, hstate, hdue⟩ := pairingSession_ok hfind
    refine .of_update_expired (fun s => { s with state := .claimed, updatedAt := env.now 0 })
      (fun _ => rfl) hget (.claimed rfl ⟨hidentity, hstate, hdue, hmine⟩ hsalt hcode) ?_
    rw [completeClaim_tables hclaim, ← expireSessions_sessions]

/-- Every call of the store moves the sessions that are there, and opens at most one. -/
theorem exec_sessions (hs : c.exec cfg env g = .ok g') : SessionsMove cfg env c g g' := by
  cases c with
  | migrateIdentityAllowlist =>
    obtain ⟨_, hs⟩ := fst_eq_ok.mp hs
    exact .of_eq (migrateIdentityAllowlist_aside hs).sessions
  | migrateLegacyIdentity =>
    obtain ⟨_, hs⟩ := fst_eq_ok.mp hs
    exact .of_eq (migrateLegacyIdentity_aside hs).sessions
  | createMemberInvitation =>
    obtain ⟨_, hs⟩ := fst_eq_ok.mp hs
    exact .of_eq (createMemberInvitation_sessions hs)
  | cancelMemberInvitation =>
    obtain ⟨_, hs⟩ := fst_eq_ok.mp hs
    exact .of_eq (cancelMemberInvitation_sessions hs)
  | claimMemberInvitation =>
    obtain ⟨_, hs⟩ := fst_eq_ok.mp hs
    exact .of_eq (claimMemberInvitation_aside hs).sessions
  | updateAlias =>
    simp only [GatewayCall.exec, updateAlias, map_eq_ok, bind_eq_ok] at hs
    obtain ⟨⟨_, _⟩, ⟨_, _, hs⟩, rfl⟩ := hs
    exact .of_eq (mutateUser_sessions hs)
  | changeUserState =>
    simp only [GatewayCall.exec, changeUserState, map_eq_ok, bind_eq_ok] at hs
    obtain ⟨⟨_, _⟩, ⟨_, _, hs⟩, rfl⟩ := hs
    exact .of_eq (mutateUser_sessions hs)
  | transferOwner =>
    obtain ⟨_, hs⟩ := fst_eq_ok.mp hs
    exact .of_eq (transferOwner_sessions hs)
  | createOnboardingSession =>
    obtain ⟨_, hs⟩ := fst_eq_ok.mp hs
    exact createOnboardingSession_sessions hs
  | setOnboardingQrState => exact setOnboardingQrState_sessions hs
  | attachOnboardingIdentity =>
    obtain ⟨_, hs⟩ := fst_eq_ok.mp hs
    exact attachOnboardingIdentity_sessions hs
  | claimOnboarding =>
    obtain ⟨_, hs⟩ := fst_eq_ok.mp hs
    exact claimOnboarding_sessions hs
  | cancelOnboardingSession =>
    obtain ⟨_, hs⟩ := fst_eq_ok.mp hs
    exact cancelOnboardingSession_sessions hs
  | expireOnboardingSessions =>
    cases hs
    exact .of_expired (expireSessions_sessions _ _)

/-! ## Codes and bindings -/

/-- The session that a message answers, and whether with its code. -/
def judged (env : Env) (g : GatewayStore) (identityId privateUserId text : String) :
    Option (String × Bool) :=
  if privateUserId = "" ∨ text = "" then none
  else ((g.expireSessions (env.now 1)).pairingSession identityId).bind fun s =>
    if s.scannedPrivateUserId.getD "None" = privateUserId then
      s.codeSalt.map fun salt => (s.sessionId, decide (codeHash salt (strip text) = s.codeHash))
    else none

/-- The session whose code a call was about, when the call goes through. -/
def verdict (cfg : Config) (g : GatewayStore) (call : Env × GatewayCall) : Option (String × Bool) :=
  match call.2 with
  | .claimOnboarding identityId privateUserId text =>
    if (call.2.exec cfg call.1 g).toOption.isSome then
      g.judged call.1 identityId privateUserId text
    else none
  | _ => none

/-- The call brings a wrong code for the session. -/
def refuses (cfg : Config) (id : String) (g : GatewayStore) (call : Env × GatewayCall) : Bool :=
  g.verdict cfg call = some (id, false)

/-- The call completes the session. -/
def completes (cfg : Config) (id : String) (g : GatewayStore) (call : Env × GatewayCall) : Bool :=
  g.verdict cfg call = some (id, true)

theorem judged_eq (hnonempty : ¬ (privateUserId = "" ∨ text = "")) :
    g.judged env identityId privateUserId text =
      ((g.expireSessions (env.now 1)).pairingSession identityId).bind fun s =>
        if s.scannedPrivateUserId.getD "None" = privateUserId then
          s.codeSalt.map fun salt =>
            (s.sessionId, decide (codeHash salt (strip text) = s.codeHash))
        else none := if_neg hnonempty

/-- A message is counted for the session that it answers wrongly, and for no other. -/
theorem claimOnboarding_attempts {r : Option Dict}
    (hs : g.claimOnboarding cfg env identityId privateUserId text = .ok (g', r)) (id : String) :
    g'.sessions.view Session.attempts id = (g.sessions.view Session.attempts id).map fun n =>
      n + (decide (g.judged env identityId privateUserId text = some (id, false))).toNat := by
  have hexpired : ∀ now, (g.expired now).view Session.attempts = g.sessions.view Session.attempts :=
    fun now => Table.view_updateWhere _ _ fun _ => rfl
  have hsame : ∀ {v : Option ℕ} {b : Bool}, b = false → v = v.map fun n => n + b.toNat := by
    rintro v b rfl
    cases v <;> rfl
  cases claimOnboarding_outcome hs with
  | ignored hempty => exact hsame (by simp [judged, hempty])
  | unknown hnonempty hfind =>
    rw [expireSessions_sessions, hexpired]
    exact hsame (by simp [judged_eq hnonempty, hfind])
  | stranger hnonempty hfind hother =>
    rw [expireSessions_sessions, hexpired]
    exact hsame (by simp [judged_eq hnonempty, hfind, hother])
  | unreadable hnonempty hfind hsalt =>
    dsimp only
    rw [Table.update, Table.view_updateWhere _ _ (by intro _; rfl), expireSessions_sessions,
      hexpired]
    exact hsame (by simp [judged_eq hnonempty, hfind, hsalt])
  | @refused s salt hnonempty hfind hmine hsalt hcode =>
    have hget := (pairingSession_ok hfind).1
    have hview : ((g.expireSessions (env.now 1)).refuseCode s identityId
        (env.now 0)).sessions.view Session.attempts =
          Function.update (g.sessions.view Session.attempts) s.sessionId (some (s.attempts + 1)) := by
      rw [← hexpired (env.now 1), ← expireSessions_sessions] at *
      unfold refuseCode
      dsimp only
      split_ifs <;> exact Table.view_update _ (by intro _; rfl) hget
    have hbefore : g.sessions.view Session.attempts s.sessionId = some s.attempts := by
      rw [← hexpired (env.now 1)]
      exact Table.view_of_get? _ hget
    rw [hview, Function.update_apply, judged_eq hnonempty, hfind]
    split_ifs with hid
    · rw [hid, hbefore]
      simp [hmine, hsalt, hcode]
    · exact hsame (by simp [hmine, hsalt, Ne.symm hid])
  | @paired s salt _ document hnonempty hfind hmine hsalt hcode hclaim =>
    rw [completeClaim_tables hclaim, Table.update, Table.view_updateWhere _ _ (by intro _; rfl),
      expireSessions_sessions, hexpired]
    exact hsame (by simp [judged_eq hnonempty, hfind, hmine, hsalt, hcode])

theorem step_sessions (cfg : Config) (g : GatewayStore) (call : Env × GatewayCall) :
    SessionsMove cfg call.1 call.2 g (g.step cfg call) := by
  unfold step
  cases hs : call.2.exec cfg call.1 g with
  | ok g' => exact exec_sessions hs
  | error e => exact .of_eq rfl

/-- The wrong codes of a session are counted. -/
theorem step_attempts {id : String} {s' : Session} (hget : g.sessions.get? id = some s)
    (hget' : (g.step cfg call).sessions.get? id = some s') :
    s'.attempts = s.attempts + (refuses cfg id g call).toNat := by
  obtain ⟨env, c⟩ := call
  have hmove := step_sessions cfg g (env, c)
  obtain ⟨s₁, hs₁, hmove⟩ := hmove.moved id s hget
  rw [hget'] at hs₁
  cases hs₁
  unfold refuses verdict
  cases c with
  | claimOnboarding identityId user text =>
    dsimp only
    cases hs : (GatewayCall.claimOnboarding identityId user text).exec cfg env g with
    | error e =>
      rw [step] at hget'
      simp only [hs] at hget'
      rw [hget] at hget'
      cases hget'
      rfl
    | ok g' =>
      rw [step] at hget'
      simp only [hs] at hget'
      obtain ⟨_, hs⟩ := fst_eq_ok.mp hs
      have hattempts := claimOnboarding_attempts hs id
      rw [Table.view_of_get? _ hget, Table.view_of_get? _ hget', Option.map_some,
        Option.some_inj] at hattempts
      simp only [Except.toOption, Option.isSome_some, if_true]
      exact hattempts
  | _ =>
    cases hmove with
    | refused hcall => cases hcall
    | _ => rfl

theorem get?_of_expired {id : String} (hs : (g.expired now).get? id = some s)
    (hopen : s.state.isOpen = true) : g.sessions.get? id = some s := by
  obtain ⟨r, hr, rfl⟩ := Table.get?_updateWhere_eq_some.mp hs
  split_ifs at hopen ⊢
  · cases hopen
  · exact hr

/-- The session that a call is about waits for its code. -/
theorem verdict_pending {id : String} {right : Bool} (hv : g.verdict cfg call = some (id, right)) :
    ∃ identityId user text g' r, call.2 = .claimOnboarding identityId user text ∧
      g.claimOnboarding cfg call.1 identityId user text = .ok (g', r) ∧ g.step cfg call = g' ∧
      g.judged call.1 identityId user text = some (id, right) ∧
      ∃ s, (g.expireSessions (call.1.now 1)).pairingSession identityId = some s ∧ s.sessionId = id ∧
        g.sessions.get? id = some s ∧ s.state = .pendingPairing := by
  obtain ⟨env, c⟩ := call
  unfold verdict at hv
  cases c with
  | claimOnboarding identityId user text =>
    dsimp only at hv
    split_ifs at hv with hok
    obtain ⟨g', hg'⟩ := Option.isSome_iff_exists.mp hok
    have hexec := toOption_eq_some.mp hg'
    obtain ⟨r, hclaim⟩ := fst_eq_ok.mp hexec
    refine ⟨identityId, user, text, _, r, rfl, hclaim, by rw [step]; simp only [hexec], hv, ?_⟩
    unfold judged at hv
    split_ifs at hv
    obtain ⟨s, hfind, hs⟩ := Option.bind_eq_some_iff.mp hv
    split_ifs at hs
    obtain ⟨salt, _, hpair⟩ := Option.map_eq_some_iff.mp hs
    rw [Prod.mk.injEq] at hpair
    obtain ⟨rfl, _⟩ := hpair
    obtain ⟨hget, _, hstate, _⟩ := pairingSession_ok hfind
    exact ⟨s, hfind, rfl, get?_of_expired hget (by rw [hstate]; rfl), hstate⟩
  | _ => cases hv

/-- A call that completes a session leaves it claimed. -/
theorem completes_claimed {id : String} (hc : completes cfg id g call = true) :
    ∃ s, (g.step cfg call).sessions.get? id = some s ∧ s.state = .claimed := by
  obtain ⟨identityId, user, text, g', r, _, hclaim, hstep, hjudged, s, hfind, rfl, _⟩ :=
    verdict_pending (of_decide_eq_true hc)
  rw [hstep]
  cases claimOnboarding_outcome hclaim with
  | ignored hempty => simp [judged, hempty] at hjudged
  | unknown hnonempty hnone =>
    rw [hnone] at hfind
    cases hfind
  | stranger hnonempty hfound hother => simp [judged_eq hnonempty, hfound, hother] at hjudged
  | unreadable hnonempty hfound hsalt => simp [judged_eq hnonempty, hfound, hsalt] at hjudged
  | refused hnonempty hfound hmine hsalt hcode =>
    simp [judged_eq hnonempty, hfound, hmine, hsalt, hcode] at hjudged
  | paired hnonempty hfound hmine hsalt hcode hcomplete =>
    rw [hfound] at hfind
    cases hfind
    rw [completeClaim_tables hcomplete]
    have hget := (pairingSession_ok hfound).1
    rw [← expireSessions_sessions] at hget
    exact ⟨_, Table.get?_update_of_get? hget _ _, rfl⟩

/-! ## Bindings -/

/-- The binding that the completion of a session makes. -/
structure Pairs (g g' : GatewayStore) (b : Binding) : Prop where
  bindings : g'.bindings = g.bindings.upsert b
  bindingType : b.bindingType = .primary
  state : b.state = .active
  /-- It is new, or takes the place of a shared one. -/
  upgraded : ∀ old, g.bindings.get? b.principalId = some old → old.bindingType = .legacyShared

theorem bindPrimary_pairs {principalId : String}
    (hs : g.bindPrimary identityId principalId privateUserId now = .ok g') : ∃ b, g.Pairs g' b := by
  unfold bindPrimary at hs
  split at hs
  · rename_i old hold
    simp only [bind_eq_ok, ensure_eq_ok] at hs
    obtain ⟨_, hshared, hs⟩ := hs
    have hkey := Table.key_of_get? hold
    refine ⟨_, congrArg bindings (putBinding_tables hs), rfl, rfl, fun old' hold' => ?_⟩
    rw [hkey, hold] at hold'
    cases hold'
    exact hshared
  · rename_i hnone
    refine ⟨_, congrArg bindings (putBinding_tables (insertBinding_ok hs)), rfl, rfl,
      fun old hold => ?_⟩
    rw [hnone] at hold
    cases hold

theorem claimant_bindings {u : WeixinUser}
    (hs : g.claimant cfg env s privateUserId now = .ok (g', u)) : g'.bindings = g.bindings := by
  unfold claimant at hs
  split at hs
  · simp only [bind_eq_ok, pure_eq_ok, Prod.mk.injEq] at hs
    obtain ⟨_, _, rfl, _⟩ := hs
    rfl
  · simp only [claimNewUser, bind_eq_ok, pure_eq_ok, Prod.mk.injEq] at hs
    obtain ⟨_, _, _, _, g₁, hadd, rfl, _⟩ := hs
    obtain ⟨users, links, rfl⟩ := addUser_tables hadd
    rfl

theorem completeClaim_pairs
    (hs : g.completeClaim cfg env s identityId privateUserId now = .ok (g', d)) :
    ∃ b, g.Pairs g' b := by
  simp only [completeClaim, bind_eq_ok, pure_eq_ok, Prod.mk.injEq] at hs
  obtain ⟨⟨g₁, u⟩, hclaimant, g₂, hbind, hs, _⟩ := hs
  have hsame := claimant_bindings hclaimant
  obtain ⟨b, hbindings, htype, hstate, hupgraded⟩ := bindPrimary_pairs hbind
  rw [hsame] at hbindings hupgraded
  refine ⟨b, ?_, htype, hstate, hupgraded⟩
  rw [← hs, ← hbindings]
  split_ifs <;> rfl

theorem expireSessions_bindings (g : GatewayStore) (now : String) :
    (g.expireSessions now).bindings = g.bindings := by
  obtain ⟨identities, heq⟩ := g.expireSessions_tables now
  rw [heq]

/-- A message binds nobody, or completes the session that it answers and binds one member. -/
theorem claimOnboarding_bindings {r : Option Dict}
    (hs : g.claimOnboarding cfg env identityId privateUserId text = .ok (g', r)) :
    g'.bindings = g.bindings ∨
      ∃ id b, g.judged env identityId privateUserId text = some (id, true) ∧ g.Pairs g' b := by
  cases claimOnboarding_outcome hs with
  | ignored => exact .inl rfl
  | unknown => exact .inl (expireSessions_bindings _ _)
  | stranger => exact .inl (expireSessions_bindings _ _)
  | unreadable => exact .inl (expireSessions_bindings _ _)
  | refused =>
    refine .inl ?_
    rw [← expireSessions_bindings g (env.now 1), refuseCode]
    split_ifs <;> rfl
  | @paired s _ _ _ hnonempty hfind hmine hsalt hcode hclaim =>
    obtain ⟨b, hbindings, htype, hstate, hupgraded⟩ := completeClaim_pairs hclaim
    rw [expireSessions_bindings] at hbindings hupgraded
    refine .inr ⟨s.sessionId, b, ?_, hbindings, htype, hstate, hupgraded⟩
    simp [judged_eq hnonempty, hfind, hmine, hsalt, hcode]

/-- The call is one of a session. -/
def isOnboarding : GatewayCall → Bool
  | .createOnboardingSession .. | .setOnboardingQrState .. | .attachOnboardingIdentity .. => true
  | .claimOnboarding .. | .cancelOnboardingSession .. | .expireOnboardingSessions => true
  | _ => false

/-- A call of a session binds nobody, or completes the session and binds one member. -/
theorem step_bindings (hc : isOnboarding call.2 = true) :
    (g.step cfg call).bindings = g.bindings ∨
      ∃ id b, completes cfg id g call = true ∧ g.Pairs (g.step cfg call) b := by
  obtain ⟨env, c⟩ := call
  cases hs : c.exec cfg env g with
  | error e => exact .inl (by rw [step]; simp only [hs])
  | ok g' =>
    have hstep : g.step cfg (env, c) = g' := by rw [step]; simp only [hs]
    rw [hstep]
    cases c with
    | createOnboardingSession =>
      simp only [GatewayCall.exec, createOnboardingSession, map_eq_ok, bind_eq_ok] at hs
      obtain ⟨⟨_, _⟩, ⟨_, _, _, _, _, _, hs⟩, rfl⟩ := hs
      obtain rfl | ⟨g₁, _, _, _, hop, rfl, _⟩ := administer_tables hs
      · exact .inl rfl
      · simp only [createOnboardingOperation, bind_eq_ok, pure_eq_ok, Prod.mk.injEq] at hop
        obtain ⟨_, _, _, _, _, _, _, _, _, _, _, _, rfl, _⟩ := hop
        exact .inl (expireSessions_bindings _ _)
    | setOnboardingQrState =>
      simp only [GatewayCall.exec, setOnboardingQrState, bind_eq_ok] at hs
      obtain ⟨_, _, _, _, row, _, hs⟩ := hs
      split_ifs at hs
      · rw [pure_eq_ok] at hs
        refine .inl ?_
        rw [← hs]
        split <;> rfl
      · rw [pure_eq_ok] at hs
        exact .inl (by rw [hs])
    | attachOnboardingIdentity =>
      simp only [GatewayCall.exec, attachOnboardingIdentity, map_eq_ok, bind_eq_ok, pure_eq_ok] at hs
      obtain ⟨⟨_, _⟩, ⟨_, _, _, _, _, _, _, _, _, _, g₁, hupsert, heq⟩, rfl⟩ := hs
      obtain ⟨identities, rfl⟩ := upsertIdentity_tables hupsert
      cases heq
      exact .inl (expireSessions_bindings _ _)
    | claimOnboarding identityId user text =>
      have hexec := hs
      obtain ⟨_, hs⟩ := fst_eq_ok.mp hs
      obtain heq | ⟨id, b, hjudged, hpairs⟩ := claimOnboarding_bindings hs
      · exact .inl heq
      · refine .inr ⟨id, b, decide_eq_true ?_, hpairs⟩
        simp only [verdict, hexec, Except.toOption, Option.isSome_some, if_true]
        exact hjudged
    | cancelOnboardingSession =>
      obtain ⟨_, hs⟩ := fst_eq_ok.mp hs
      obtain rfl | ⟨g₁, _, _, _, hop, rfl, _⟩ := administer_tables hs
      · exact .inl rfl
      · simp only [cancelOnboardingOperation, bind_eq_ok, pure_eq_ok, Prod.mk.injEq] at hop
        obtain ⟨_, _, s, _, _, _, rfl, _⟩ := hop
        cases s.identityId.filter fun i => i ≠ "" <;> exact .inl rfl
    | expireOnboardingSessions =>
      cases hs
      exact .inl (expireSessions_bindings _ _)
    | _ => cases hc

/-! ## Runs -/

/-- A call of the run issued the code for the session: its response shows the two. -/
def Issued (cfg : Config) (start : GatewayStore) (calls : List (Env × GatewayCall))
    (id code : String) : Prop :=
  ∃ (pre post : List (Env × GatewayCall)) (env : Env) (expected requestId ttl : Json)
    (aliasName : String) (target : Option String) (limit : ℤ) (g' : GatewayStore) (response : Dict),
    calls = pre ++ (env, .createOnboardingSession expected requestId aliasName target ttl limit) ::
        post ∧
      (runFrom (step cfg) start pre).createOnboardingSession cfg env expected requestId aliasName
        target ttl limit = .ok (g', .obj response, false) ∧
      response.get "session_id" = .str id ∧ response.get "code" = .str code

theorem Issued.snoc {id code : String} (h : Issued cfg start calls id code)
    (call : Env × GatewayCall) : Issued cfg start (calls ++ [call]) id code := by
  obtain ⟨pre, post, env, expected, requestId, ttl, aliasName, target, limit, g', response, rfl,
    hanswer, hid, hcode⟩ := h
  exact ⟨pre, post ++ [call], env, expected, requestId, ttl, aliasName, target, limit, g', response,
    by rw [List.append_assoc, List.cons_append], hanswer, hid, hcode⟩

/-- What holds of the sessions in the last state of a run. -/
structure Followed (cfg : Config) (start : GatewayStore) (calls : List (Env × GatewayCall)) :
    Prop where
  sound : ∀ id s, (runFrom (step cfg) start calls).sessions.get? id = some s → s.Sound
  one : ∀ s ∈ (runFrom (step cfg) start calls).sessions.rows,
    ∀ t ∈ (runFrom (step cfg) start calls).sessions.rows,
      s.state.isOpen = true → t.state.isOpen = true → s = t
  issued : ∀ id s, (runFrom (step cfg) start calls).sessions.get? id = some s →
    ∃ salt code, s.codeSalt = some salt ∧ s.codeHash = codeHash salt code ∧
      Issued cfg start calls id code
  attempts : ∀ id, countSteps (step cfg) (refuses cfg id) start calls =
    ((runFrom (step cfg) start calls).sessions.view Session.attempts id).getD 0
  completed : ∀ id, countSteps (step cfg) (completes cfg id) start calls ≤
    (decide ((runFrom (step cfg) start calls).sessions.view Session.state id = some .claimed)).toNat

theorem Followed.nil (hstart : start.sessions.rows = []) : Followed cfg start [] := by
  have hnone : ∀ id, start.sessions.get? id = none := by
    intro id
    refine Table.get?_eq_none.mpr ?_
    rw [hstart]
    exact List.not_mem_nil
  refine ⟨fun id s hs => ?_, fun s hs => ?_, fun id s hs => ?_, fun id => ?_, fun id => ?_⟩
  · rw [runFrom_nil, hnone] at hs
    cases hs
  · rw [runFrom_nil, hstart] at hs
    cases hs
  · rw [runFrom_nil, hnone] at hs
    cases hs
  · rw [runFrom_nil, Table.view, hnone]
    rfl
  · exact Nat.zero_le _

theorem Followed.snoc (h : Followed cfg start calls) (call : Env × GatewayCall) :
    Followed cfg start (calls ++ [call]) := by
  have hrun : runFrom (step cfg) start (calls ++ [call]) =
      (runFrom (step cfg) start calls).step cfg call := runFrom_append _ _ _ _
  have hmove := step_sessions cfg (runFrom (step cfg) start calls) call
  -- A session that is open was open, or the call opened it.
  have hback : ∀ s' ∈ ((runFrom (step cfg) start calls).step cfg call).sessions.rows,
      s'.state.isOpen = true →
        (∃ s ∈ (runFrom (step cfg) start calls).sessions.rows, s.state.isOpen = true ∧
          s.sessionId = s'.sessionId) ∨
        ∀ t ∈ ((runFrom (step cfg) start calls).step cfg call).sessions.rows,
          t.state.isOpen = true → t = s' := by
    intro s' hs' hopen
    have hget' := Table.mem_rows_iff.mp hs'
    cases hget : (runFrom (step cfg) start calls).sessions.get? s'.sessionId with
    | none => exact .inr (hmove.opened _ s' hget' hget).2
    | some s =>
      refine .inl ⟨s, Table.mem_of_get? hget, ?_, Table.key_of_get? hget⟩
      obtain ⟨s₁, hs₁, hmoved⟩ := hmove.moved _ s hget
      rw [hget'] at hs₁
      cases hs₁
      by_contra hended
      rw [hmoved.eq_of_ended (Bool.eq_false_iff.mpr hended)] at hopen
      exact hended hopen
  refine ⟨fun id s' hs' => ?_, fun s' hs' t' ht' hopens hopent => ?_, fun id s' hs' => ?_,
    fun id => ?_, fun id => ?_⟩
  · rw [hrun] at hs'
    cases hget : (runFrom (step cfg) start calls).sessions.get? id with
    | none =>
      have hopened := (hmove.opened id s' hs' hget).1
      refine ⟨fun _ => ?_, fun hpending => ?_⟩
      · rw [hopened.attempts]
        decide
      · rw [hopened.state] at hpending
        cases hpending
    | some s =>
      obtain ⟨s₁, hs₁, hmoved⟩ := hmove.moved id s hget
      rw [hs'] at hs₁
      cases hs₁
      exact hmoved.sound (h.sound id s hget)
  · rw [hrun] at hs' ht'
    obtain ⟨s, hs, hsopen, hskey⟩ | hall := hback s' hs' hopens
    · obtain ⟨t, ht, htopen, htkey⟩ | hall := hback t' ht' hopent
      · have hkey : s'.sessionId = t'.sessionId := by
          rw [← hskey, ← htkey, h.one s hs t ht hsopen htopen]
        have hsget := Table.mem_rows_iff.mp hs'
        rw [hkey, Table.mem_rows_iff.mp ht'] at hsget
        exact (Option.some.inj hsget).symm
      · exact hall s' hs' hopens
    · exact (hall t' ht' hopent).symm
  · rw [hrun] at hs'
    cases hget : (runFrom (step cfg) start calls).sessions.get? id with
    | none =>
      have hopened := (hmove.opened id s' hs' hget).1
      obtain ⟨expected, requestId, ttl, aliasName, target, limit, response, hcall, hanswer, hid,
        hcode⟩ := hopened.issued
      refine ⟨call.1.salt, _, hopened.salt, hopened.code, calls, [], call.1, expected, requestId,
        ttl, aliasName, target, limit, _, response, ?_, hanswer, ?_, hcode⟩
      · rw [← hcall]
      · rw [hid, ← hopened.token, Table.key_of_get? hs']
    | some s =>
      obtain ⟨s₁, hs₁, hmoved⟩ := hmove.moved id s hget
      rw [hs'] at hs₁
      cases hs₁
      obtain ⟨salt, code, hsalt, hcode, hissued⟩ := h.issued id s hget
      obtain ⟨_, hsalt', hcode'⟩ := hmoved.terms
      exact ⟨salt, code, hsalt'.trans hsalt, hcode'.trans hcode, hissued.snoc call⟩
  · rw [countSteps_snoc, h.attempts id, hrun]
    cases hget : (runFrom (step cfg) start calls).sessions.get? id with
    | none =>
      have hrefuses : refuses cfg id (runFrom (step cfg) start calls) call = false := by
        by_contra hc
        obtain ⟨_, _, _, _, _, _, _, _, _, s, _, _, hs, _⟩ :=
          verdict_pending (of_decide_eq_true (Bool.eq_true_of_not_eq_false hc))
        rw [hget] at hs
        cases hs
      rw [hrefuses, Table.view_of_get?_none _ hget]
      cases hget' : ((runFrom (step cfg) start calls).step cfg call).sessions.get? id with
      | none => rw [Table.view_of_get?_none _ hget']; rfl
      | some s' =>
        rw [Table.view_of_get? _ hget', (hmove.opened id s' hget' hget).1.attempts]
        rfl
    | some s =>
      obtain ⟨s', hget', _⟩ := hmove.moved id s hget
      rw [Table.view_of_get? _ hget, Table.view_of_get? _ hget', Option.getD_some, Option.getD_some,
        step_attempts hget hget']
  · rw [countSteps_snoc, hrun]
    have hbound := h.completed id
    cases hc : completes cfg id (runFrom (step cfg) start calls) call with
    | true =>
      obtain ⟨_, _, _, _, _, _, _, _, _, s, _, _, hget, hpending⟩ :=
        verdict_pending (of_decide_eq_true hc)
      obtain ⟨s', hget', hclaimed⟩ := completes_claimed hc
      rw [Table.view_of_get? _ hget, hpending] at hbound
      rw [Table.view_of_get? _ hget', hclaimed]
      simpa using hbound
    | false =>
      refine (Nat.add_le_add_right hbound _).trans ?_
      rw [Bool.toNat_false, Nat.add_zero]
      refine Bool.toNat_le_toNat ?_
      intro hclaimed
      rw [decide_eq_true_eq] at hclaimed ⊢
      obtain ⟨s, hget, hstate⟩ := Option.map_eq_some_iff.mp hclaimed
      obtain ⟨s', hget', hmoved⟩ := hmove.moved id s hget
      rw [Table.view_of_get? _ hget', hmoved.eq_of_ended (by rw [hstate]; rfl), hstate]

theorem followed (hstart : start.sessions.rows = []) (calls : List (Env × GatewayCall)) :
    Followed cfg start calls := by
  induction calls using List.reverseRecOn with
  | nil => exact .nil hstart
  | append_singleton calls call ih => exact ih.snoc call

theorem run_ended {id : String} (hget : g.sessions.get? id = some s)
    (hended : s.state.isOpen = false) (calls : List (Env × GatewayCall)) :
    (runFrom (step cfg) g calls).sessions.get? id = some s := by
  induction calls generalizing g with
  | nil => exact hget
  | cons call calls ih =>
    obtain ⟨s', hget', hmoved⟩ := (step_sessions cfg g call).moved id s hget
    rw [hmoved.eq_of_ended hended] at hget'
    exact ih hget'

/-- The call claims the session after the run: it is a message of the user who scanned, with the
    code that was issued (or one of the same digest), in time and after fewer than five wrong ones. -/
structure ClaimedBy (cfg : Config) (start : GatewayStore) (calls : List (Env × GatewayCall))
    (call : Env × GatewayCall) (s : Session) (identityId user text code : String)
    (salt : List UInt8) : Prop where
  message : call.2 = .claimOnboarding identityId user text
  state : s.state = .pendingPairing
  identity : s.identityId = some identityId
  scanned : s.scannedPrivateUserId = some user
  unexpired : ¬ s.expiresAt ≤ call.1.now 1
  attempts : countSteps (step cfg) (refuses cfg s.sessionId) start calls < 5
  issued : Issued cfg start calls s.sessionId code
  salted : s.codeSalt = some salt
  right : strip text = code ∨ strip text ≠ code ∧ codeHash salt (strip text) = codeHash salt code

/-- After every run from a store without sessions: at most one session is open; a session that ended
    stays as it is; a session is only claimed by the right message; and the calls of a session bind
    one member when they complete it, which they do at most once. -/
theorem onboarding_protocol {start : GatewayStore} (hstart : start.sessions.rows = [])
    (calls : List (Env × GatewayCall)) :
    (∀ s ∈ (runFrom (step cfg) start calls).sessions.rows,
      ∀ t ∈ (runFrom (step cfg) start calls).sessions.rows,
        s.state.isOpen = true → t.state.isOpen = true → s = t) ∧
    (∀ s ∈ (runFrom (step cfg) start calls).sessions.rows, s.state.isOpen = false →
      ∀ later, s ∈ (runFrom (step cfg) start (calls ++ later)).sessions.rows) ∧
    (∀ call, ∀ s' ∈ ((runFrom (step cfg) start calls).step cfg call).sessions.rows,
      s'.state = .claimed → s' ∈ (runFrom (step cfg) start calls).sessions.rows ∨
        ∃ s ∈ (runFrom (step cfg) start calls).sessions.rows, s.sessionId = s'.sessionId ∧
          ∃ identityId user text code salt,
            ClaimedBy cfg start calls call s identityId user text code salt) ∧
    (∀ id, countSteps (step cfg) (completes cfg id) start calls ≤ 1) ∧
    ∀ call : Env × GatewayCall, isOnboarding call.2 = true →
      ((runFrom (step cfg) start calls).step cfg call).bindings =
          (runFrom (step cfg) start calls).bindings ∨
        ∃ id b, completes cfg id (runFrom (step cfg) start calls) call = true ∧
          (runFrom (step cfg) start calls).Pairs ((runFrom (step cfg) start calls).step cfg call) b := by
  have hfollowed : Followed cfg start calls := followed hstart calls
  refine ⟨hfollowed.one, fun s hs hended later => ?_, fun call s' hs' hclaimed => ?_, fun id => ?_,
    fun call hcall => step_bindings hcall⟩
  · rw [runFrom_append]
    exact Table.mem_of_get? (run_ended (Table.mem_rows_iff.mp hs) hended later)
  · have hget' := Table.mem_rows_iff.mp hs'
    have hmove := step_sessions cfg (runFrom (step cfg) start calls) call
    cases hget : (runFrom (step cfg) start calls).sessions.get? s'.sessionId with
    | none =>
      have hstate := (hmove.opened _ s' hget' hget).1.state
      rw [hclaimed] at hstate
      cases hstate
    | some s =>
      obtain ⟨s₁, hs₁, hmoved⟩ := hmove.moved _ s hget
      rw [hget'] at hs₁
      cases hs₁
      have hkey := Table.key_of_get? hget
      have hrow := Table.mem_of_get? hget
      cases hmoved with
      | rest => exact .inl hrow
      | reported hopen =>
        dsimp only at hclaimed
        rw [hclaimed] at hopen
        cases hopen
      | ended _ _ hother => exact absurd hclaimed hother
      | scanned => cases hclaimed
      | refused =>
        dsimp only at hclaimed
        split_ifs at hclaimed
      | @claimed identityId user text _ salt hcall hhears hsalt hcode =>
        have hsound := hfollowed.sound _ s hget
        obtain ⟨salt', code, hsalt', hhash, hissued⟩ := hfollowed.issued _ s hget
        rw [hsalt] at hsalt'
        cases hsalt'
        have hscanned : s.scannedPrivateUserId = some user := by
          obtain ⟨u, hu⟩ := Option.isSome_iff_exists.mp (hsound.scanned hhears.state)
          have hmine := hhears.mine
          rw [hu, Option.getD_some] at hmine
          rw [hu, hmine]
        have hattempts := hfollowed.attempts s.sessionId
        rw [Table.view_of_get? _ (Table.mem_rows_iff.mp hrow), Option.getD_some] at hattempts
        refine .inr ⟨s, hrow, hkey, identityId, user, text, code, salt, hcall, hhears.state,
          hhears.identity, hscanned, hhears.unexpired, ?_, hissued, hsalt, ?_⟩
        · rw [hattempts]
          exact hsound.attempts (by rw [hhears.state]; rfl)
        · rw [hhash] at hcode
          exact (em (strip text = code)).imp_right fun hne => ⟨hne, hcode⟩
  · exact (hfollowed.completed id).trans (Bool.toNat_le _)

/-- The gateway starts with its owner, a member is to be added, and the member scans. -/
def untilScan : List (Env × GatewayCall) :=
  beforeRescan ++ [(rescanEnv, .attachOnboardingIdentity "session-1"
    ("ID-" ++ String.ofList (List.replicate 32 'b')) (String.ofList (List.replicate 64 'b')) "member")]

theorem onboarding_protocol_scanned :
    (∀ s ∈ (runFrom (step rescanConfig) created untilScan).sessions.rows,
      ∀ t ∈ (runFrom (step rescanConfig) created untilScan).sessions.rows,
        s.state.isOpen = true → t.state.isOpen = true → s = t) ∧
      ∀ id, countSteps (step rescanConfig) (completes rescanConfig id) created untilScan ≤ 1 := by
  obtain ⟨hone, _, _, hcompleted, _⟩ :=
    @onboarding_protocol rescanConfig created rfl untilScan
  exact ⟨hone, hcompleted⟩

end GatewayStore

end HomeAddons.Gateway
