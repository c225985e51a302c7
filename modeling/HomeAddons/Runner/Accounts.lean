import HomeAddons.Runner.Assignment

/-!
# Runner Center v2: credentials and enrollments

The other half of the store. `Accounts` are the tables that enrollment writes, `Accounts.Step` what
a call may do to them, and `Accounts.Sound` the invariant: a Runner has at most one active
credential and at most one open enrollment, and not both. The last part rests on the history: once
an enrollment of a Runner has been claimed, the Runner never has an open one again, since
`regenerate_enrollment` refuses and nothing else makes an enrollment for an old Runner.
-/

namespace HomeAddons.Runner

open HomeAddons.Common

/-- The tables of enrollment. -/
structure Accounts where
  runners : Table RunnerRow.runnerId
  credentials : Table CredentialRow.credentialId
  enrollments : Table EnrollmentRow.enrollmentId

/-- The accounts of a store. -/
def Store.accounts (s : Store) : Accounts := ⟨s.runners, s.credentials, s.enrollments⟩

/-- The accounts of a new database. -/
def Accounts.empty : Accounts := ⟨.empty, .empty, .empty⟩

@[simp] theorem accounts_enrollments (s : Store) : s.accounts.enrollments = s.enrollments := rfl

/-- The enrollment is neither claimed nor revoked. -/
@[grind] def EnrollmentRow.Open (e : EnrollmentRow) : Prop :=
  e.claimedAt = none ∧ e.revokedAt = none

/-- What a call may do to the accounts. Runners may change, but are never removed. -/
inductive Accounts.Step (a : Accounts) : Accounts → Prop where
  /-- A call that writes neither credentials nor enrollments. -/
  | other {R} : (∀ r, a.runners.get? r ≠ none → R.get? r ≠ none) →
      Step a ⟨R, a.credentials, a.enrollments⟩
  /-- `create_enrollment`. -/
  | enroll {R row E} : (∀ r, a.runners.get? r ≠ none → R.get? r ≠ none) →
      a.runners.get? row.runnerId = none → R.get? row.runnerId ≠ none → row.Open →
      (∀ k e, a.enrollments.get? k = some e → e.tokenDigest ≠ row.tokenDigest) →
      a.enrollments.insert? row = some E → Step a ⟨R, a.credentials, E⟩
  /-- `redeem_enrollment`. -/
  | redeem {R e c C} (now) : (∀ r, a.runners.get? r ≠ none → R.get? r ≠ none) →
      a.enrollments.get? e.enrollmentId = some e → e.Open → c.runnerId = e.runnerId →
      c.state = .active → a.credentials.insert? c = some C →
      Step a ⟨R, C, a.enrollments.update e.enrollmentId (claimedEnrollment now)⟩
  /-- `revoke_enrollment`. -/
  | revoke {R k} (now) : (∀ r, a.runners.get? r ≠ none → R.get? r ≠ none) →
      Step a ⟨R, a.credentials, a.enrollments.update k (revokedEnrollment now)⟩
  /-- `regenerate_enrollment`. -/
  | regenerate {R r row E} (now) : (∀ r, a.runners.get? r ≠ none → R.get? r ≠ none) →
      a.runners.get? r ≠ none → row.runnerId = r → row.Open →
      (∀ k e, a.enrollments.get? k = some e → e.runnerId = r → e.claimedAt = none) →
      (∀ k c, a.credentials.get? k = some c → c.runnerId = r → c.state ≠ .active) →
      (∀ k e, a.enrollments.get? k = some e → e.tokenDigest ≠ row.tokenDigest) →
      (a.enrollments.updateWhere
        (fun e => e.runnerId = r ∧ e.claimedAt = none ∧ e.revokedAt = none)
        (revokedEnrollment now)).insert? row = some E →
      Step a ⟨R, a.credentials, E⟩
  /-- `rotate_credential`. -/
  | rotate {R old c C} (now) : (∀ r, a.runners.get? r ≠ none → R.get? r ≠ none) →
      a.credentials.get? old.credentialId = some old → old.state = .active →
      c.runnerId = old.runnerId → c.state = .active →
      (a.credentials.updateWhere (fun x => x.runnerId = old.runnerId ∧ x.state = .active)
        (revokedCredential now)).insert? c = some C →
      Step a ⟨R, C, a.enrollments⟩
  /-- `delete_runner`. -/
  | retire {R r} (now) : (∀ r, a.runners.get? r ≠ none → R.get? r ≠ none) →
      Step a ⟨R, a.credentials.updateWhere (fun x => x.runnerId = r ∧ x.state = .active)
        (revokedCredential now), a.enrollments⟩

/-! ## The invariant -/

structure Accounts.Sound (a : Accounts) : Prop where
  /-- A Runner has at most one active credential. -/
  credential : ∀ k k' c c', a.credentials.get? k = some c → a.credentials.get? k' = some c' →
    c.state = .active → c'.state = .active → c.runnerId = c'.runnerId → k = k'
  /-- A Runner has at most one open enrollment. -/
  enrollment : ∀ k k' e e', a.enrollments.get? k = some e → a.enrollments.get? k' = some e' →
    e.Open → e'.Open → e.runnerId = e'.runnerId → k = k'
  /-- A Runner with an active credential has no open enrollment. -/
  apart : ∀ k k' c e, a.credentials.get? k = some c → a.enrollments.get? k' = some e →
    c.state = .active → e.Open → c.runnerId ≠ e.runnerId
  /-- A Runner with a claimed enrollment has no open one. -/
  history : ∀ k k' e e', a.enrollments.get? k = some e → a.enrollments.get? k' = some e' →
    e.claimedAt ≠ none → e'.Open → e.runnerId ≠ e'.runnerId
  /-- Tokens tell enrollments apart. -/
  token : ∀ k k' e e', a.enrollments.get? k = some e → a.enrollments.get? k' = some e' →
    e.tokenDigest = e'.tokenDigest → k = k'
  /-- Enrollments and credentials are those of registered Runners. -/
  enrolled : ∀ k e, a.enrollments.get? k = some e → a.runners.get? e.runnerId ≠ none
  issued : ∀ k c, a.credentials.get? k = some c → a.runners.get? c.runnerId ≠ none

theorem Accounts.Sound.empty : Accounts.empty.Sound := by
  constructor <;> simp [Accounts.empty]

section Step

variable {a a' : Accounts}

theorem Accounts.Sound.credential_step (hs : a.Sound) (h : a.Step a') (k k' : String)
    (c c' : CredentialRow) (hc : a'.credentials.get? k = some c)
    (hc' : a'.credentials.get? k' = some c') (ha : c.state = .active) (ha' : c'.state = .active)
    (hr : c.runnerId = c'.runnerId) : k = k' := by
  have hcredential := hs.credential
  have hapart := hs.apart
  cases h with
  | redeem now _ _ _ _ _ hC =>
    simp only [Table.get?_insert?_eq_some hC] at *
    grind
  | rotate now _ _ _ _ _ hC =>
    simp only [Table.get?_insert?_eq_some hC, Table.get?_updateWhere_eq_some] at *
    grind
  | retire =>
    simp only [Table.get?_updateWhere_eq_some] at *
    grind
  | _ => grind

theorem Accounts.Sound.enrollment_step (hs : a.Sound) (h : a.Step a') (k k' : String)
    (e e' : EnrollmentRow) (he : a'.enrollments.get? k = some e)
    (he' : a'.enrollments.get? k' = some e') (ho : e.Open) (ho' : e'.Open)
    (hr : e.runnerId = e'.runnerId) : k = k' := by
  have henrollment := hs.enrollment
  have henrolled := hs.enrolled
  cases h with
  | enroll _ _ _ _ _ hE =>
    simp only [Table.get?_insert?_eq_some hE] at *
    grind
  | regenerate now _ _ _ _ _ _ _ hE =>
    simp only [Table.get?_insert?_eq_some hE, Table.get?_updateWhere_eq_some] at *
    grind
  | redeem | revoke =>
    simp only [Table.get?_update_eq_some] at *
    grind
  | _ => grind

theorem Accounts.Sound.apart_step (hs : a.Sound) (h : a.Step a') (k k' : String)
    (c : CredentialRow) (e : EnrollmentRow) (hc : a'.credentials.get? k = some c)
    (he : a'.enrollments.get? k' = some e) (ha : c.state = .active) (ho : e.Open) :
    c.runnerId ≠ e.runnerId := by
  have henrollment := hs.enrollment
  have hapart := hs.apart
  have hissued := hs.issued
  cases h with
  | enroll _ _ _ _ _ hE =>
    simp only [Table.get?_insert?_eq_some hE] at *
    grind
  | regenerate now _ _ _ _ _ _ _ hE =>
    simp only [Table.get?_insert?_eq_some hE, Table.get?_updateWhere_eq_some] at *
    grind
  | redeem now _ _ _ _ _ hC =>
    simp only [Table.get?_insert?_eq_some hC, Table.get?_update_eq_some] at *
    grind
  | revoke =>
    simp only [Table.get?_update_eq_some] at *
    grind
  | rotate now _ _ _ _ _ hC =>
    simp only [Table.get?_insert?_eq_some hC, Table.get?_updateWhere_eq_some] at *
    grind
  | retire =>
    simp only [Table.get?_updateWhere_eq_some] at *
    grind
  | _ => grind

/-- The open enrollment that is claimed was the only one. -/
theorem Accounts.Sound.history_step (hs : a.Sound) (h : a.Step a') (k k' : String)
    (e e' : EnrollmentRow) (he : a'.enrollments.get? k = some e)
    (he' : a'.enrollments.get? k' = some e') (hclaimed : e.claimedAt ≠ none) (ho : e'.Open) :
    e.runnerId ≠ e'.runnerId := by
  have henrollment := hs.enrollment
  have hhistory := hs.history
  have henrolled := hs.enrolled
  cases h with
  | enroll _ _ _ _ _ hE =>
    simp only [Table.get?_insert?_eq_some hE] at *
    grind
  | regenerate now _ _ _ _ _ _ _ hE =>
    simp only [Table.get?_insert?_eq_some hE, Table.get?_updateWhere_eq_some] at *
    grind
  | redeem | revoke =>
    simp only [Table.get?_update_eq_some] at *
    grind
  | _ => grind

theorem Accounts.Sound.token_step (hs : a.Sound) (h : a.Step a') (k k' : String)
    (e e' : EnrollmentRow) (he : a'.enrollments.get? k = some e)
    (he' : a'.enrollments.get? k' = some e') (ht : e.tokenDigest = e'.tokenDigest) : k = k' := by
  have htoken := hs.token
  cases h with
  | enroll _ _ _ _ _ hE =>
    simp only [Table.get?_insert?_eq_some hE] at *
    grind
  | regenerate now _ _ _ _ _ _ _ hE =>
    simp only [Table.get?_insert?_eq_some hE, Table.get?_updateWhere_eq_some] at *
    grind
  | redeem | revoke =>
    simp only [Table.get?_update_eq_some] at *
    grind
  | _ => grind

theorem Accounts.Sound.enrolled_step (hs : a.Sound) (h : a.Step a') (k : String)
    (e : EnrollmentRow) (he : a'.enrollments.get? k = some e) :
    a'.runners.get? e.runnerId ≠ none := by
  have henrolled := hs.enrolled
  cases h with
  | enroll _ _ _ _ _ hE =>
    simp only [Table.get?_insert?_eq_some hE] at *
    grind
  | regenerate now _ _ _ _ _ _ _ hE =>
    simp only [Table.get?_insert?_eq_some hE, Table.get?_updateWhere_eq_some] at *
    grind
  | redeem | revoke =>
    simp only [Table.get?_update_eq_some] at *
    grind
  | _ => grind

theorem Accounts.Sound.issued_step (hs : a.Sound) (h : a.Step a') (k : String)
    (c : CredentialRow) (hc : a'.credentials.get? k = some c) :
    a'.runners.get? c.runnerId ≠ none := by
  have hissued := hs.issued
  have henrolled := hs.enrolled
  cases h with
  | redeem now _ _ _ _ _ hC =>
    simp only [Table.get?_insert?_eq_some hC] at *
    grind
  | rotate now _ _ _ _ _ hC =>
    simp only [Table.get?_insert?_eq_some hC, Table.get?_updateWhere_eq_some] at *
    grind
  | retire =>
    simp only [Table.get?_updateWhere_eq_some] at *
    grind
  | _ => grind

theorem Accounts.Sound.step (hs : a.Sound) (h : a.Step a') : a'.Sound :=
  ⟨hs.credential_step h, hs.enrollment_step h, hs.apart_step h, hs.history_step h, hs.token_step h,
    hs.enrolled_step h, hs.issued_step h⟩

end Step

/-! ## Calls -/

section Calls

variable {cfg : Config} {s s' : Store} {env : Env} {runnerId : Json} {payload : Dict}
  {response : AdminResponse}

/-- No call removes a Runner. -/
theorem Call.keeps_runners (cfg : Config) (s : Store) (c : Call) (r : String)
    (h : s.runners.get? r ≠ none) : (c.step cfg s).runners.get? r ≠ none :=
  c.keeps (I := fun d => d.runners.get? r ≠ none) (fun _ _ _ hd hstep => hstep.runner_mono hd) h

/-- What a call did to the accounts of a store, once its Runners are known to have stayed. -/
def Store.AccountStep (s s' : Store) : Prop :=
  (∀ r, s.runners.get? r ≠ none → s'.runners.get? r ≠ none) → s.accounts.Step s'.accounts

theorem Store.AccountStep.refl (s : Store) : s.AccountStep s := fun hR => .other hR

theorem Store.SameAccounts.accountStep (h : s.SameAccounts s') : s.AccountStep s' := by
  intro hR
  have : s'.accounts = ⟨s'.runners, s.accounts.credentials, s.accounts.enrollments⟩ := by
    simp [Store.accounts, h.credentials, h.enrollments]
  rw [this]
  exact .other hR

theorem createEnrollment_accounts (h : createEnrollment cfg s env payload = .ok (s', response)) :
    s.AccountStep s' := by
  obtain rfl | ⟨req, T, E, _, hT, hnew, hE, rfl, rfl, hcred, _⟩ := createEnrollment_ok h
  · exact .refl _
  · intro hR
    rw [show s'.accounts = ⟨s'.runners, s.accounts.credentials, s'.enrollments⟩ by
      simp [Store.accounts, hcred]]
    refine .enroll hR ?_ ?_ ⟨rfl, rfl⟩ (fun k e he => (hnew e (Table.mem_of_get? he)).1) hE
    · exact Table.get?_of_insert? hT
    · rw [Table.get?_insert? hT]
      simp [newEnrollmentRow, newRunnerRow]

theorem redeemEnrollment_accounts (h : redeemEnrollment cfg s env payload = .ok (s', response)) :
    s.AccountStep s' := by
  obtain ⟨req, e, C, _, hred, hC, _, henr, rfl, _⟩ := redeemEnrollment_ok h
  obtain ⟨hmem, _, hr, hclaimed, hrevoked, _⟩ := redeemable_ok hred
  intro hR
  rw [show s'.accounts = ⟨s'.runners, s'.credentials, s.accounts.enrollments.update e.enrollmentId
    (claimedEnrollment (env.clock 0))⟩ by simp [Store.accounts, henr]]
  exact .redeem _ hR (Table.mem_rows_iff.mp hmem) ⟨hclaimed, hrevoked⟩ hr.symm rfl hC

theorem revokeEnrollment_accounts
    (h : revokeEnrollment cfg s env runnerId payload = .ok (s', response)) : s.AccountStep s' := by
  obtain rfl | ⟨r, e, _, _, henr, hcred, _⟩ := revokeEnrollment_ok h
  · exact .refl _
  · intro hR
    rw [show s'.accounts = ⟨s'.runners, s.accounts.credentials, s.accounts.enrollments.update
      e.enrollmentId (revokedEnrollment (env.clock 0))⟩ by simp [Store.accounts, henr, hcred]]
    exact .revoke _ hR

theorem regenerateEnrollment_accounts
    (h : regenerateEnrollment cfg s env runnerId payload = .ok (s', response)) :
    s.AccountStep s' := by
  obtain rfl | ⟨req, E, hrun, hclaimed, hactive, hnew, hE, _, rfl, hcred, _⟩ :=
    regenerateEnrollment_ok h
  · exact .refl _
  · intro hR
    rw [show s'.accounts = ⟨s'.runners, s.accounts.credentials, s'.enrollments⟩ by
      simp [Store.accounts, hcred]]
    refine .regenerate _ hR hrun rfl ⟨rfl, rfl⟩
      (fun k e he => hclaimed e (Table.mem_of_get? he))
      (fun k c hc => hactive c (Table.mem_of_get? hc)) ?_ hE
    -- the tokens are those of the rows before they are revoked
    intro k e he
    have hget := Table.get?_updateWhere s.enrollments
      (fun e => e.runnerId = req.runnerId ∧ e.claimedAt = none ∧ e.revokedAt = none)
      (revokedEnrollment (env.clock 0)) (fun _ => rfl) k
    rw [show s.enrollments.get? k = some e from he, Option.map_some] at hget
    have := (hnew _ (Table.mem_of_get? hget)).1
    split_ifs at this <;> exact this

theorem adminAction_accounts {action : AdminAction}
    (h : adminAction cfg s env runnerId payload action = .ok (s', response)) :
    s.AccountStep s' := by
  obtain rfl | ⟨req, row, s₁, extra, _, _, hrow, heff, _, henr, hcred, _⟩ := adminAction_ok h
  · exact .refl _
  · intro hR
    rw [show s'.accounts = ⟨s'.runners, s₁.credentials, s₁.enrollments⟩ by
      simp [Store.accounts, henr, hcred]]
    cases action with
    | drain =>
      simp only [adminEffect, except_map_eq_ok, drainEffect_eq_ok, Prod.mk.injEq] at heff
      obtain ⟨_, ⟨_, rfl⟩, rfl, _⟩ := heff
      exact .other hR
    | emergencyDisable =>
      simp only [adminEffect, except_map_eq_ok, Prod.mk.injEq] at heff
      obtain ⟨_, heff, rfl, _⟩ := heff
      have hget : s.runners.get? row.runnerId = some row :=
        lockedRunner_runnerId hrow ▸ (lockedRunner_eq_ok.mp hrow).1
      obtain ⟨_, hacc, _⟩ := emergencyEffect_moves hget heff
      rw [hacc.credentials, hacc.enrollments]
      exact .other hR
    | rotateCredential =>
      simp only [adminEffect, except_map_eq_ok, Prod.mk.injEq] at heff
      obtain ⟨⟨_, _⟩, heff, rfl, _⟩ := heff
      obtain ⟨_, ⟨old, hold, hr, hactive⟩, C, hC, rfl⟩ := rotateEffect_ok heff
      rw [← hr] at hC
      exact .rotate (c := newCredentialRow _ _ _ _) (env.clock 0) hR (Table.mem_rows_iff.mp hold)
        hactive rfl rfl hC
    | delete =>
      simp only [adminEffect, except_map_eq_ok, deleteEffect_eq_ok, Prod.mk.injEq] at heff
      obtain ⟨_, ⟨_, rfl⟩, rfl, _⟩ := heff
      exact .retire (a := s.accounts) _ hR
    | selfCheck =>
      simp only [adminEffect, except_map_eq_ok, selfCheckEffect_eq_ok, Prod.mk.injEq] at heff
      obtain ⟨_, ⟨_, rfl⟩, rfl, _⟩ := heff
      exact .other hR

/-- Every call is a step of the accounts. -/
theorem Call.accounts (cfg : Config) (s : Store) (c : Call) :
    s.accounts.Step (c.step cfg s).accounts := by
  suffices h : s.AccountStep (c.step cfg s) from h (c.keeps_runners cfg s)
  cases c with
  | message kind env payload credential =>
    obtain ⟨hsame, _⟩ | ⟨m, _, hacc, _⟩ :=
      message_moves cfg s (c := .message kind env payload credential) rfl
    · rw [hsame]
      exact .refl s
    · exact hacc.accountStep
  | command c =>
    have hkeep {α : Type} {x : Except Raise (Store × α)}
        (hx : ∀ {s' a}, x = .ok (s', a) → s.AccountStep s') :
        s.AccountStep (committed s (x.map Prod.fst)) := committed_map_ind (.refl s) hx
    cases c with
    | createEnrollment => exact hkeep createEnrollment_accounts
    | redeemEnrollment => exact hkeep redeemEnrollment_accounts
    | updateRunner =>
      refine hkeep fun h => ?_
      obtain rfl | ⟨_, _, _, _, _, _, _, _, henr, hcred, _⟩ := updateRunner_ok h
      · exact .refl _
      · exact Store.SameAccounts.accountStep ⟨hcred, henr⟩
    | revokeEnrollment => exact hkeep revokeEnrollment_accounts
    | regenerateEnrollment => exact hkeep regenerateEnrollment_accounts
    | adminAction => exact hkeep adminAction_accounts
    | heartbeat => exact hkeep fun h => (heartbeat_moves h).1.accountStep
    | createWorkTask => exact hkeep fun h => (createWorkTask_moves h).1.accountStep
    | commandTask => exact hkeep fun h => (commandTask_moves h).1.accountStep
    | claimNext => exact hkeep fun h => (claimNext_moves h).1.accountStep
    | markDispatched => exact hkeep fun h => (markDispatched_moves h).1.accountStep
    | rescheduleUndelivered =>
      exact hkeep fun h => (rescheduleUndelivered_moves h cfg).1.accountStep
    | resolveTaskRecovery => exact hkeep fun h => (resolveTaskRecovery_moves h).1.accountStep
    | sweep env order => exact (sweep_moves order).1.accountStep

theorem Reachable.accounts_sound (h : Reachable cfg s) : s.accounts.Sound :=
  invariant_of_reachable (Call.step cfg) (I := fun s => s.accounts.Sound)
    (fun s c hs => hs.step (c.accounts cfg s)) (show Store.empty.accounts.Sound from .empty) h

/-! ## Tokens -/

/-- The enrollment with this token digest has been claimed. -/
def Accounts.Spent (a : Accounts) (digest : String) : Prop :=
  ∃ k e, a.enrollments.get? k = some e ∧ e.tokenDigest = digest ∧ e.claimedAt ≠ none

/-- A claim is never undone. -/
theorem Accounts.Spent.step {a a' : Accounts} {digest : String} (hs : a.Spent digest)
    (h : a.Step a') : a'.Spent digest := by
  obtain ⟨k, e, he, hd, hclaimed⟩ := hs
  cases h with
  | enroll _ _ _ _ _ hE =>
    exact ⟨k, e, Table.get?_insert?_of_get? hE he, hd, hclaimed⟩
  | regenerate now _ _ _ _ _ _ _ hE =>
    refine ⟨k, e, Table.get?_insert?_of_get? hE ?_, hd, hclaimed⟩
    rw [Table.get?_updateWhere_eq_some]
    exact ⟨e, he, by simp [hclaimed]⟩
  | redeem | revoke =>
    unfold Accounts.Spent
    simp only [Table.get?_update_eq_some]
    grind
  | _ => exact ⟨k, e, he, hd, hclaimed⟩

variable {req : RedeemRequest}

/-- A redeemed token is spent. -/
theorem redeemEnrollment_spent (hreq : redeemRequest payload = .ok req)
    (h : redeemEnrollment cfg s env payload = .ok (s', response)) :
    s'.accounts.Spent (secretDigest req.token) := by
  obtain ⟨req', e, C, hreq', hred, _, _, henr, _⟩ := redeemEnrollment_ok h
  rw [hreq] at hreq'
  cases hreq'
  obtain ⟨hmem, htok, _⟩ := redeemable_ok hred
  refine ⟨e.enrollmentId, claimedEnrollment (env.clock 0) e, ?_, htok, by simp [claimedEnrollment]⟩
  rw [accounts_enrollments, henr]
  simp [Table.mem_rows_iff.mp hmem]

/-- A spent token is not redeemed. -/
theorem Accounts.Spent.not_redeemed (hs : s.accounts.Sound)
    (hspent : s.accounts.Spent (secretDigest req.token)) (hreq : redeemRequest payload = .ok req)
    (x : Store × AdminResponse) : redeemEnrollment cfg s env payload ≠ .ok x := by
  intro hok
  obtain ⟨req', e, C, hreq', hred, _⟩ := redeemEnrollment_ok hok
  rw [hreq] at hreq'
  cases hreq'
  obtain ⟨hmem, htok, _, hunclaimed, _⟩ := redeemable_ok hred
  obtain ⟨k, e', he', htok', hclaimed⟩ := hspent
  have he : s.accounts.enrollments.get? e.enrollmentId = some e := Table.mem_rows_iff.mp hmem
  obtain rfl := hs.token k _ e' e he' he (htok'.trans htok.symm)
  rw [he'] at he
  cases he
  exact hclaimed hunclaimed

/-- Credentials and enrollments are unique. In every reachable store a Runner has at most one active
    credential, at most one open enrollment, and not both; and a token that has been redeemed is not
    redeemed again in any later run. -/
theorem credential_uniqueness (h : Reachable cfg s) :
    (∀ c ∈ s.credentials.rows, ∀ c' ∈ s.credentials.rows, c.state = .active → c'.state = .active →
      c.runnerId = c'.runnerId → c = c') ∧
    (∀ e ∈ s.enrollments.rows, ∀ e' ∈ s.enrollments.rows, e.Open → e'.Open →
      e.runnerId = e'.runnerId → e = e') ∧
    (∀ c ∈ s.credentials.rows, ∀ e ∈ s.enrollments.rows, c.state = .active → e.Open →
      c.runnerId ≠ e.runnerId) ∧
    (∀ env payload req s₁ x, redeemRequest payload = .ok req →
      redeemEnrollment cfg s env payload = .ok (s₁, x) →
      ∀ calls env' payload' req', redeemRequest payload' = .ok req' → req'.token = req.token →
        ∀ y, redeemEnrollment cfg (runFrom (Call.step cfg) s₁ calls) env' payload' ≠ .ok y) := by
  have hs := h.accounts_sound
  refine ⟨?_, ?_, ?_, ?_⟩
  · intro c hc c' hc' ha ha' hr
    have hget := Table.mem_rows_iff.mp hc
    have hid := hs.credential _ _ c c' hget (Table.mem_rows_iff.mp hc') ha ha' hr
    rw [hid] at hget
    exact Option.some.inj (hget.symm.trans (Table.mem_rows_iff.mp hc'))
  · intro e he e' he' ho ho' hr
    have hget := Table.mem_rows_iff.mp he
    have hid := hs.enrollment _ _ e e' hget (Table.mem_rows_iff.mp he') ho ho' hr
    rw [hid] at hget
    exact Option.some.inj (hget.symm.trans (Table.mem_rows_iff.mp he'))
  · intro c hc e he
    exact hs.apart _ _ c e (Table.mem_rows_iff.mp hc) (Table.mem_rows_iff.mp he)
  · intro env payload req s₁ x hreq hred calls env' payload' req' hreq' htoken y
    have hstep : (Call.command (.redeemEnrollment env payload)).step cfg s = s₁ := by
      simp [Call.step, Command.step, Command.exec, hred, Except.map]
    have hlater : (runFrom (Call.step cfg) s₁ calls).accounts.Sound ∧
        (runFrom (Call.step cfg) s₁ calls).accounts.Spent (secretDigest req.token) :=
      invariant_of_reachable (Call.step cfg)
        (I := fun s => s.accounts.Sound ∧ s.accounts.Spent (secretDigest req.token))
        (fun s c hsc => ⟨hsc.1.step (c.accounts cfg s), hsc.2.step (c.accounts cfg s)⟩)
        ⟨hstep ▸ hs.step (Call.accounts cfg s _), redeemEnrollment_spent hreq hred⟩ ⟨calls, rfl⟩
    exact Accounts.Spent.not_redeemed hlater.1 (htoken ▸ hlater.2) hreq' y

theorem credential_uniqueness_sample :
    (∀ c ∈ sampleStore.credentials.rows, ∀ c' ∈ sampleStore.credentials.rows, c.state = .active →
      c'.state = .active → c.runnerId = c'.runnerId → c = c') ∧
    ∀ c ∈ sampleStore.credentials.rows, ∀ e ∈ sampleStore.enrollments.rows, c.state = .active →
      e.Open → c.runnerId ≠ e.runnerId :=
  have h := credential_uniqueness sampleStore_reachable
  ⟨h.1, h.2.2.1⟩

end Calls

end HomeAddons.Runner
