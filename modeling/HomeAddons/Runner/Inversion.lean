import HomeAddons.Runner.Desk

/-!
# Runner Center v2: what a registry call has done

For each call of the registry, what its success says: which checks passed and which tables it
left different. `Store.Others` collects the tables that registry calls never write.
-/

namespace HomeAddons.Runner

open HomeAddons.Common

variable {cfg : Config} {s s' : Store} {env : Env} {runnerId : Json} {payload : Dict}
  {response : AdminResponse}

/-! ## Statements -/

variable {row : RunnerRow} {r action : String} {now : Instant} {req : AdminRequest} {revision : ℕ}

theorem insertRunner_eq_ok : s.insertRunner row = .ok s' ↔
    ∃ T, s.runners.insert? row = some T ∧ { s with runners := T } = s' := by
  simp [Store.insertRunner]

theorem insertCredential_eq_ok {row : CredentialRow} : s.insertCredential row = .ok s' ↔
    (∀ c ∈ s.credentials.rows, c.secretDigest ≠ row.secretDigest) ∧
      ∃ T, s.credentials.insert? row = some T ∧ { s with credentials := T } = s' := by
  simp [Store.insertCredential]

theorem insertEnrollment_eq_ok {row : EnrollmentRow} : s.insertEnrollment row = .ok s' ↔
    (∀ e ∈ s.enrollments.rows, e.tokenDigest ≠ row.tokenDigest ∧ e.requestId ≠ row.requestId) ∧
      ∃ T, s.enrollments.insert? row = some T ∧ { s with enrollments := T } = s' := by
  simp [Store.insertEnrollment]

theorem runnerRow_eq_ok : s.runnerRow r = .ok row ↔ s.runners.get? r = some row := by
  simp [Store.runnerRow]

theorem taskRow_eq_ok {t : String} {row : TaskRow} :
    s.taskRow t = .ok row ↔ s.tasks.get? t = some row := by
  simp [Store.taskRow]

theorem saveAdminReplay_eq_ok :
    s.saveAdminReplay now req action response = .ok s' ↔
      ∃ T, s.adminRequests.insert?
        ⟨req.requestId, action, req.bodyDigest, req.runnerId, response, now⟩ = some T ∧
        { s with adminRequests := T } = s' := by
  simp [Store.saveAdminReplay]

theorem lockedRunner_eq_ok :
    lockedRunner s r revision = .ok row ↔
      s.runners.get? r = some row ∧ row.revision = revision := by
  simp only [lockedRunner, bind_eq_ok, orRaise_eq_ok, ensure_eq_ok, pure_eq_ok]
  constructor
  · rintro ⟨a, ha, _, hr, rfl⟩
    exact ⟨ha, hr⟩
  · rintro ⟨ha, hr⟩
    exact ⟨row, ha, (), hr, rfl⟩

/-- The runner of a locked row is the one that was asked for. -/
theorem lockedRunner_runnerId (h : lockedRunner s r revision = .ok row) : row.runnerId = r :=
  Table.key_of_get? (lockedRunner_eq_ok.mp h).1

/-- An administrative call answered from its stored response, or ran under the current revision
    of its Runner. -/
theorem replayOr_eq_ok {call : RunnerRow → Except Raise (Store × AdminResponse)} :
    replayOr s req action call = .ok (s', response) ↔
      (adminReplay s req action = .ok (some response) ∧ s = s') ∨
      (adminReplay s req action = .ok none ∧
        ∃ row, lockedRunner s req.runnerId req.revision = .ok row ∧
          call row = .ok (s', response)) := by
  unfold replayOr
  rcases adminReplay s req action with e | _ | resp
  · simp
  · simp only [ok_bind, bind_eq_ok, Except.ok.injEq, reduceCtorEq, false_and, true_and, false_or]
  · simp only [ok_bind, pure_eq_ok, Prod.mk.injEq, Except.ok.injEq, Option.some.injEq,
      reduceCtorEq, false_and, or_false]
    tauto

/-! ## Enrollment -/

/-- The tables that a registry call leaves as they were. -/
structure Store.Others (s s' : Store) : Prop where
  tasks : s'.tasks = s.tasks
  leases : s'.leases = s.leases
  messages : s'.messages = s.messages
  commandRequests : s'.commandRequests = s.commandRequests

/-- `create_enrollment` answered a known request, or registered a Runner with an enrollment. -/
theorem createEnrollment_ok (h : createEnrollment cfg s env payload = .ok (s', response)) :
    s' = s ∨ ∃ req T E, enrollmentRequest payload = .ok req ∧
      s.runners.insert? (newRunnerRow (env.fresh 0 "RN" 16) req (env.clock 0)) = some T ∧
      let row := newEnrollmentRow (env.fresh 1 "ENR" 12) (env.fresh 0 "RN" 16)
        (env.fresh 2 "ENROLL" 24) req.requestId req.bodyDigest (env.clock 0)
      (∀ e ∈ s.enrollments.rows, e.tokenDigest ≠ row.tokenDigest ∧ e.requestId ≠ row.requestId) ∧
      s.enrollments.insert? row = some E ∧
      s'.runners = T ∧ s'.enrollments = E ∧ s'.credentials = s.credentials ∧ s.Others s' := by
  simp only [createEnrollment, bind_eq_ok] at h
  obtain ⟨req, hreq, h⟩ := h
  split at h
  · simp only [bind_eq_ok, pure_eq_ok, Prod.mk.injEq] at h
    obtain ⟨_, _, _, _, rfl, _⟩ := h
    exact .inl rfl
  · simp only [bind_eq_ok, pure_eq_ok, Prod.mk.injEq, insertRunner_eq_ok,
      insertEnrollment_eq_ok] at h
    obtain ⟨_, ⟨T, hT, rfl⟩, _, ⟨hnew, E, hE, rfl⟩, _, _, rfl, _⟩ := h
    exact .inr ⟨req, T, E, hreq, hT, hnew, hE, rfl, rfl, rfl, rfl, rfl, rfl, rfl⟩

/-- The checks of `redeem_enrollment` found an open enrollment of a Runner that is not revoked. -/
theorem redeemable_ok {req : RedeemRequest} {e : EnrollmentRow} (h : redeemable s req now = .ok e) :
    e ∈ s.enrollments.rows ∧ e.tokenDigest = secretDigest req.token ∧ e.runnerId = req.runnerId ∧
      e.claimedAt = none ∧ e.revokedAt = none ∧
      ∃ runner, s.runners.get? req.runnerId = some runner ∧ runner.adminState ≠ .revoked := by
  simp only [redeemable, bind_eq_ok, orRaise_eq_ok, ensure_eq_ok, pure_eq_ok] at h
  obtain ⟨e', he, _, hc, _, hr, _, _, runner, hrun, _, ⟨ha, _⟩, _, _, _, _, _, _, rfl⟩ := h
  have hp := List.find?_some he
  simp only [decide_eq_true_eq] at hp
  exact ⟨List.mem_of_find?_eq_some he, hp.1, hp.2, hc, hr, runner, hrun, ha⟩

/-- `redeem_enrollment` claimed an open enrollment and issued a credential. -/
theorem redeemEnrollment_ok (h : redeemEnrollment cfg s env payload = .ok (s', response)) :
    ∃ req e C, redeemRequest payload = .ok req ∧
      redeemable s req (env.clock 0) = .ok e ∧
      s.credentials.insert? (newCredentialRow (env.fresh 1 "CR" 12) req.runnerId
        (env.fresh 0 "CRED" 24) (env.clock 0)) = some C ∧
      s'.runners = s.runners.update req.runnerId (redeemedRunner req (env.clock 0)) ∧
      s'.enrollments = s.enrollments.update e.enrollmentId (claimedEnrollment (env.clock 0)) ∧
      s'.credentials = C ∧ s.Others s' := by
  simp only [redeemEnrollment, bind_eq_ok, pure_eq_ok, Prod.mk.injEq,
    insertCredential_eq_ok] at h
  obtain ⟨req, hreq, e, he, _, ⟨_, C, hC, rfl⟩, _, _, rfl, _⟩ := h
  exact ⟨req, e, C, hreq, he, hC, rfl, rfl, rfl, rfl, rfl, rfl, rfl⟩

/-- `revoke_enrollment` answered a known request, or revoked the latest enrollment of a Runner
    that is not revoked. -/
theorem revokeEnrollment_ok (h : revokeEnrollment cfg s env runnerId payload = .ok (s', response)) :
    s' = s ∨ ∃ r e, latestEnrollment s r = some e ∧
      s'.runners = s.runners.update r (touchRunner (env.clock 0)) ∧
      s'.enrollments = s.enrollments.update e.enrollmentId (revokedEnrollment (env.clock 0)) ∧
      s'.credentials = s.credentials ∧ s.Others s' := by
  simp only [revokeEnrollment, bind_eq_ok, replayOr_eq_ok] at h
  obtain ⟨req, _, ⟨_, rfl⟩ | ⟨_, row, hrow, h⟩⟩ := h
  · exact .inl rfl
  · simp only [ensure_eq_ok, orRaise_eq_ok, pure_eq_ok, Prod.mk.injEq,
      saveAdminReplay_eq_ok] at h
    obtain ⟨_, _, e, he, _, _, _, _, _, _, _, ⟨_, _, rfl⟩, rfl, _⟩ := h
    exact .inr ⟨req.runnerId, e, he, rfl, rfl, rfl, rfl, rfl, rfl, rfl⟩

/-- `regenerate_enrollment` answered a known request, or replaced the open enrollments of a
    Runner that never redeemed one and has no active credential. -/
theorem regenerateEnrollment_ok
    (h : regenerateEnrollment cfg s env runnerId payload = .ok (s', response)) :
    s' = s ∨ ∃ (req : AdminRequest) (E : Table EnrollmentRow.enrollmentId),
      s.runners.get? req.runnerId ≠ none ∧
      (∀ e ∈ s.enrollments.rows, e.runnerId = req.runnerId → e.claimedAt = none) ∧
      (∀ c ∈ s.credentials.rows, c.runnerId = req.runnerId → c.state ≠ .active) ∧
      let open_ := s.enrollments.updateWhere
        (fun e => e.runnerId = req.runnerId ∧ e.claimedAt = none ∧ e.revokedAt = none)
        (revokedEnrollment (env.clock 0))
      let row := newEnrollmentRow (env.fresh 0 "ENR" 12) req.runnerId (env.fresh 1 "ENROLL" 24)
        req.requestId req.bodyDigest (env.clock 0)
      (∀ e ∈ open_.rows, e.tokenDigest ≠ row.tokenDigest ∧ e.requestId ≠ row.requestId) ∧
      open_.insert? row = some E ∧
      s'.runners = s.runners.update req.runnerId (touchRunner (env.clock 0)) ∧
      s'.enrollments = E ∧ s'.credentials = s.credentials ∧ s.Others s' := by
  simp only [regenerateEnrollment, bind_eq_ok, replayOr_eq_ok] at h
  obtain ⟨req, _, ⟨_, rfl⟩ | ⟨_, row, hrow, h⟩⟩ := h
  · exact .inl rfl
  · simp only [ensure_eq_ok, pure_eq_ok, Prod.mk.injEq, saveAdminReplay_eq_ok,
      insertEnrollment_eq_ok, List.all_eq_true, decide_eq_true_eq] at h
    obtain ⟨_, ⟨_, _, hclaimed, hactive⟩, _, ⟨hnew, E, hE, rfl⟩, _, _, _, ⟨_, _, rfl⟩, rfl, _⟩ := h
    refine .inr ⟨req, E, ?_, ?_, ?_, hnew, hE, rfl, rfl, rfl, rfl, rfl, rfl, rfl⟩
    · simp [(lockedRunner_eq_ok.mp hrow).1]
    · intro e he hr
      exact (hclaimed e he).resolve_left (not_not.mpr hr)
    · intro c hc hr
      exact (hactive c hc).resolve_left (not_not.mpr hr)

/-! ## Administration -/

/-- `update_runner` answered a known request, or applied its updates to the Runner. -/
theorem updateRunner_ok (h : updateRunner cfg s env runnerId payload = .ok (s', response)) :
    s' = s ∨ ∃ req row plan, updateRequest runnerId payload = .ok req ∧
      adminReplay s req "update" = .ok none ∧
      lockedRunner s req.runnerId req.revision = .ok row ∧ updatePlan row payload = .ok plan ∧
      s'.runners = s.runners.update req.runnerId (plan.apply (env.clock 0)) ∧
      s'.enrollments = s.enrollments ∧ s'.credentials = s.credentials ∧ s.Others s' := by
  simp only [updateRunner, bind_eq_ok, replayOr_eq_ok] at h
  obtain ⟨req, hreq, ⟨_, rfl⟩ | ⟨hnew, row, hrow, h⟩⟩ := h
  · exact .inl rfl
  · simp only [pure_eq_ok, Prod.mk.injEq, saveAdminReplay_eq_ok] at h
    obtain ⟨plan, hplan, _, _, _, ⟨_, _, rfl⟩, rfl, _⟩ := h
    exact .inr ⟨req, row, plan, hreq, hnew, hrow, hplan, rfl, rfl, rfl, rfl, rfl, rfl, rfl⟩

/-- `_admin_action` answered a known request, or had its effect on the Runner. -/
theorem adminAction_ok {action : AdminAction}
    (h : adminAction cfg s env runnerId payload action = .ok (s', response)) :
    s' = s ∨ ∃ req row s₁ extra,
      plainAdminRequest runnerId payload "Runner 管理请求字段无效" = .ok req ∧
      adminReplay s req action.text = .ok none ∧
      lockedRunner s req.runnerId req.revision = .ok row ∧
      adminEffect s env row action = .ok (s₁, extra) ∧
      s'.desk = s₁.desk ∧ s'.enrollments = s₁.enrollments ∧ s'.credentials = s₁.credentials ∧
      s'.commandRequests = s₁.commandRequests := by
  simp only [adminAction, bind_eq_ok, replayOr_eq_ok] at h
  obtain ⟨req, hreq, ⟨_, rfl⟩ | ⟨hnew, row, hrow, h⟩⟩ := h
  · exact .inl rfl
  · simp only [pure_eq_ok, Prod.mk.injEq, saveAdminReplay_eq_ok] at h
    obtain ⟨⟨s₁, extra⟩, heff, _, _, _, ⟨_, _, rfl⟩, rfl, _⟩ := h
    exact .inr ⟨req, row, s₁, extra, hreq, hnew, hrow, heff, rfl, rfl, rfl, rfl⟩

/-- `drain` had an enabled Runner. -/
theorem drainEffect_eq_ok :
    drainEffect s now row = .ok s' ↔ row.adminState = .enabled ∧
      s.setRunner row.runnerId
        (administered (if row.currentTaskId.isSome then .draining else .disabled) now) = s' := by
  simp [drainEffect]

/-- `delete` had a disabled Runner without a task. -/
theorem deleteEffect_eq_ok :
    deleteEffect s now row = .ok s' ↔
      (row.adminState = .disabled ∧ row.currentTaskId = none ∧ row.workState = .idle) ∧
      (s.revokeCredentials row.runnerId now).setRunner row.runnerId
        (fun r => { administered .revoked now r with archivedAt := some now }) = s' := by
  simp [deleteEffect]

/-- `self_check` had a Runner that is not revoked. -/
theorem selfCheckEffect_eq_ok :
    selfCheckEffect s now row = .ok s' ↔
      row.adminState ≠ .revoked ∧ s.setRunner row.runnerId (touchRunner now) = s' := by
  simp [selfCheckEffect]

/-- `rotate_credential` replaced the active credential of a Runner that is not revoked. -/
theorem rotateEffect_ok {issued : IssuedCredential}
    (h : rotateEffect s env row = .ok (s', issued)) :
    row.adminState ≠ .revoked ∧
      (∃ c ∈ s.credentials.rows, c.runnerId = row.runnerId ∧ c.state = .active) ∧
      ∃ C, (s.revokeCredentials row.runnerId (env.clock 0)).credentials.insert?
          (newCredentialRow (env.fresh 1 "CR" 12) row.runnerId (env.fresh 0 "CRED" 24)
            (env.clock 0)) = some C ∧
        s' = { s with
          runners := s.runners.update row.runnerId (touchRunner (env.clock 0))
          credentials := C } := by
  simp only [rotateEffect, bind_eq_ok, ensure_eq_ok, pure_eq_ok, Prod.mk.injEq,
    insertCredential_eq_ok, List.any_eq_true, decide_eq_true_eq] at h
  obtain ⟨_, ha, _, hactive, _, ⟨_, C, hC, rfl⟩, rfl, _⟩ := h
  exact ⟨ha, hactive, C, hC, rfl⟩

end HomeAddons.Runner
