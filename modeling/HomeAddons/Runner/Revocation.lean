import HomeAddons.Runner.Assignment

/-!
# Runner Center v2: revocation

`delete_runner` should be final. Of the calls that write a Runner only `update_runner` with
`admin_state: disabled` does not look at the state it leaves, and from `disabled` a Runner can be
enrolled and enabled again; `revocation_iff` says that a deleted Runner stays locked out exactly in
the runs without such an update.
-/

namespace HomeAddons.Runner

open HomeAddons.Common

/-- The Runner is revoked. -/
def Desk.Revoked (d : Desk) (r : String) : Prop :=
  ∃ row, d.runners.get? r = some row ∧ row.adminState = .revoked

/-- Only `update_runner` ends a revocation. -/
theorem Desk.Revoked.step {d d' : Desk} {m : Move} {r : String} (hr : d.Revoked r)
    (hm : m ≠ .reinstate r) (h : d.Step m d') : d'.Revoked r := by
  obtain ⟨row, hrow, hrev⟩ := hr
  unfold Desk.Revoked
  cases h with
  | registry hR =>
    obtain ⟨hnone, _⟩ | ⟨x, x', hx, hx', hkept⟩ := hR r
    · rw [hnone] at hrow
      cases hrow
    · rw [hx] at hrow
      cases hrow
      exact ⟨x', hx', hkept.revoked hrev⟩
  | status =>
    split_ifs
    · simp only [Table.get?_update_eq_some]
      grind
    · exact ⟨row, hrow, hrev⟩
  | _ =>
    simp only [Table.get?_update_eq_some] at *
    grind

section Calls

variable {cfg : Config} {s : Store} {c : Command} {r : String}

/-- `delete_runner` succeeds on the Runner, not as the replay of an earlier request. -/
def Command.Deletes (cfg : Config) (s : Store) (c : Command) (r : String) : Prop :=
  ∃ env runnerId payload req s' x, c = .adminAction env runnerId payload .delete ∧
    plainAdminRequest runnerId payload "Runner 管理请求字段无效" = .ok req ∧
    adminReplay s req "delete" = .ok none ∧
    Runner.adminAction cfg s env runnerId payload .delete = .ok (s', x) ∧ req.runnerId = r

/-- A deleted Runner is revoked. -/
theorem Command.Deletes.revoked (h : c.Deletes cfg s r) : (c.step cfg s).desk.Revoked r := by
  obtain ⟨env, runnerId, payload, req, s', x, rfl, hreq, hnew, hs', rfl⟩ := h
  have hstep : (Command.adminAction env runnerId payload .delete).step cfg s = s' := by
    simp [Command.step, Command.exec, hs', Except.map]
  rw [hstep]
  simp only [Runner.adminAction, hreq, ok_bind, replayOr_eq_ok, AdminAction.text, hnew,
    Except.ok.injEq, reduceCtorEq, false_and, true_and, false_or, bind_eq_ok, pure_eq_ok,
    Prod.mk.injEq, saveAdminReplay_eq_ok, adminEffect, except_map_eq_ok,
    deleteEffect_eq_ok] at hs'
  obtain ⟨row, hrow, ⟨s₁, _⟩, ⟨_, ⟨_, rfl⟩, rfl, _⟩, _, _, _, ⟨_, _, rfl⟩, rfl, _⟩ := hs'
  have hget := (lockedRunner_eq_ok.mp hrow).1
  have hid := lockedRunner_runnerId hrow
  refine ⟨{ administered .revoked (env.clock 0) row with archivedAt := some (env.clock 0) }, ?_, rfl⟩
  simp [Store.desk, Store.event, Store.setRunner, Store.revokeCredentials, hid, hget]

/-- The Runner is revoked, its credentials do not verify, no enrollment is redeemed for it and no
    task is assigned to it. -/
structure Store.LockedOut (cfg : Config) (s : Store) (r : String) : Prop where
  revoked : s.desk.Revoked r
  verify : ∀ secret, verifyCredential s (.str r) secret ≠ .ok ()
  redeem : ∀ env payload req, redeemRequest payload = .ok req → req.runnerId = r →
    ∀ x, redeemEnrollment cfg s env payload ≠ .ok x
  claim : ∀ env s' a, claimNext cfg s env = .ok (s', some a) → a.task.assignedRunnerId ≠ some r

theorem Desk.Revoked.lockedOut (h : s.desk.Revoked r) : s.LockedOut cfg r := by
  obtain ⟨row, hrow, hrev⟩ := id h
  rw [desk_runners] at hrow
  refine ⟨h, ?_, ?_, ?_⟩
  · intro secret hok
    obtain ⟨runner, hrun, hne⟩ := verifyCredential_ok hok
    rw [hrow] at hrun
    cases hrun
    exact hne hrev
  · rintro env payload req hreq rfl ⟨s', x⟩ hok
    obtain ⟨req', e, C, hreq', hred, _⟩ := redeemEnrollment_ok hok
    rw [hreq] at hreq'
    cases hreq'
    obtain ⟨_, _, _, _, _, runner, hrun, hne⟩ := redeemable_ok hred
    rw [hrow] at hrun
    cases hrun
    exact hne hrev
  · intro env s' a ha hassigned
    obtain ⟨runner, hget, hen, _, hr⟩ := claimNext_runner ha
    rw [hr] at hassigned
    cases hassigned
    rw [hrow] at hget
    cases hget
    rw [hrev] at hen
    cases hen

/-- The call does not set the revoked Runner to `disabled`. -/
def Call.KeepsRevoked (s : Store) (c : Call) (r : String) : Prop :=
  ∀ command, c = .command command → ¬ command.Reinstates s r

theorem Call.KeepsRevoked.revoked {c : Call} (hr : s.desk.Revoked r) (hc : c.KeepsRevoked s r) :
    (c.step cfg s).desk.Revoked r := by
  have hstep : ∀ (d : Desk) (m : Move) (d' : Desk), d.Revoked r → m ≠ .reinstate r →
      d.Step m d' → d'.Revoked r := fun _ _ _ hd hm h => hd.step hm h
  cases c with
  | command c =>
    have hno : ∀ m, c.Issues cfg s m → m ≠ .reinstate r := by
      rintro m hm rfl
      exact hc c rfl hm
    exact Command.keeps (G := fun _ m => m ≠ .reinstate r) hstep hno (fun _ m _ => hno m) hr
  | message kind env payload credential =>
    exact Call.keeps_message (G := fun _ m => m ≠ .reinstate r) hstep rfl (fun m _ => by simp)
      (fun m _ _ => by simp) hr

/-- After `delete_runner` the Runner is locked out in every state of a run exactly when no call of
    the run sets it to `disabled`. -/
theorem revocation_iff (hdel : c.Deletes cfg s r) (calls : List Call) :
    Throughout (Call.step cfg) (fun s => s.LockedOut cfg r) (c.step cfg s) calls ↔
      EveryStep (Call.step cfg) (fun s c => c.KeepsRevoked s r) (c.step cfg s) calls := by
  refine throughout_iff_everyStep (Call.step cfg) (I := fun s => s.desk.Revoked r)
    (fun s hs => hs.lockedOut) (fun s c hs hc => hc.revoked hs) ?_ hdel.revoked
  intro s c hs hc hout
  simp only [Call.KeepsRevoked, not_forall, not_not] at hc
  obtain ⟨command, rfl, hre⟩ := hc
  obtain ⟨row, hrow, hdis⟩ := hre.step cfg
  obtain ⟨row', hrow', hrev⟩ := hout.revoked
  change (command.step cfg s).runners.get? r = some row' at hrow'
  rw [hrow] at hrow'
  cases hrow'
  rw [hdis] at hrev
  cases hrev

/-- An update of the sample Runner to `disabled`. -/
def disableCall (revision : ℕ) (requestId : String) : Command :=
  .updateRunner (sampleEnv 0) (.str sampleRunner) [("admin_state", .str "disabled"),
    ("revision", .int revision), ("request_id", .str requestId)]

def deletePayload : Dict := [("revision", .int 4), ("request_id", .str "delete-01")]

def deleteCall : Command := .adminAction (sampleEnv 0) (.str sampleRunner) deletePayload .delete

/-- The enrolled Runner is disabled. -/
def disabledStore : Store := (disableCall 3 "disable-01").step sampleConfig enrolledStore

theorem disabledStore_facts :
    (plainAdminRequest (.str sampleRunner) deletePayload "Runner 管理请求字段无效").toOption.any
      (fun req => req.runnerId = sampleRunner ∧
        (disabledStore.adminRequests.get? req.requestId).isNone) ∧
    (Runner.adminAction sampleConfig disabledStore (sampleEnv 0) (.str sampleRunner) deletePayload
      .delete).toOption.isSome ∧
    (((disableCall 5 "disable-02").step sampleConfig
      (deleteCall.step sampleConfig disabledStore)).runners.get? sampleRunner).any
        (fun r => r.adminState = .disabled) := by
  decide +kernel

theorem deleteCall_deletes : deleteCall.Deletes sampleConfig disabledStore sampleRunner := by
  obtain ⟨hreq, hok, _⟩ := disabledStore_facts
  rw [Option.any_eq_true] at hreq
  obtain ⟨req, hreq, hfacts⟩ := hreq
  rw [decide_eq_true_eq] at hfacts
  obtain ⟨⟨s', x⟩, hx⟩ := Option.isSome_iff_exists.mp hok
  exact ⟨_, _, _, req, s', x, rfl, toOption_eq_some.mp hreq,
    adminReplay_eq_none.mpr (Option.isNone_iff_eq_none.mp hfacts.2), toOption_eq_some.mp hx, hfacts.1⟩

theorem revocation_iff_sample : Throughout (Call.step sampleConfig)
    (fun s => s.LockedOut sampleConfig sampleRunner) (deleteCall.step sampleConfig disabledStore)
    [.command (.claimNext (sampleEnv 0))] := by
  refine (revocation_iff deleteCall_deletes _).mpr ⟨?_, trivial⟩
  rintro command h ⟨_, _, _, _, _, _, rfl, _⟩
  cases h

/-- An update to `disabled` ends a revocation. -/
theorem revocation_undone : deleteCall.Deletes sampleConfig disabledStore sampleRunner ∧
    ¬ Throughout (Call.step sampleConfig) (fun s => s.LockedOut sampleConfig sampleRunner)
      (deleteCall.step sampleConfig disabledStore) [.command (disableCall 5 "disable-02")] := by
  refine ⟨deleteCall_deletes, fun h => ?_⟩
  obtain ⟨_, _, hdisabled⟩ := disabledStore_facts
  rw [Option.any_eq_true] at hdisabled
  obtain ⟨row, hrow, hstate⟩ := hdisabled
  have hlast := h.last
  rw [runFrom_cons, runFrom_nil, Call.step_command] at hlast
  obtain ⟨row', hrow', hrev⟩ := hlast.revoked
  rw [desk_runners] at hrow'
  obtain rfl : row = row' := Option.some.inj (hrow.symm.trans hrow')
  rw [decide_eq_true_eq, hrev] at hstate
  cases hstate

end Calls

end HomeAddons.Runner
