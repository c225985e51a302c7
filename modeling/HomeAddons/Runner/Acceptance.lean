import HomeAddons.Runner.Simulation

/-!
# Runner Center v2: messages that are accepted

The validation of a message as a sufficient condition: a status, a result or a heartbeat that is
built from well-formed values and carries its own digest passes every check before its
transactions, whatever the store (`arriveStatus_ok`, `arriveResult_ok`, `heartbeatEnvelope_ok`,
`heartbeatMessage_ok`).
-/

namespace HomeAddons.Runner

open HomeAddons.Common

/-! ## Documents with a digest -/

section Document

variable {fields : Dict}

variable {k : String}

theorem lookup_append_of_ne {k' : String} {v : Json} (h : k ≠ k') :
    (fields ++ [(k', v)]).lookup k = fields.lookup k := by
  induction fields with
  | nil => simp [List.lookup, beq_eq_false_iff_ne.mpr h]
  | cons x xs ih =>
    obtain ⟨k'', w⟩ := x
    simp only [List.cons_append, List.lookup_cons, ih]

/-- The added key hides no other. -/
theorem withDigest_get (h : k ≠ "body_digest") : (withDigest fields).get k = fields.get k := by
  rw [Dict.get, withDigest, lookup_append_of_ne h, Dict.get]

theorem withDigest_without (h : fields.has "body_digest" = false) :
    (withDigest fields).without "body_digest" = fields := by
  have hkeep : ∀ kv ∈ fields, (kv.1 != "body_digest") = true := by
    intro kv hkv
    rw [bne_iff_ne]
    rintro e
    simp only [Dict.has, List.contains_eq_mem, decide_eq_false_iff_not, List.mem_map, not_exists,
      not_and] at h
    exact h kv hkv e
  rw [withDigest, Dict.without, List.filter_append, List.filter_eq_self.mpr hkeep]
  simp

theorem withDigest_body_digest (h : fields.has "body_digest" = false) :
    (withDigest fields).get "body_digest" = .str (digest (.obj fields)) := by
  have hnone : fields.lookup "body_digest" = none := by
    rw [List.lookup_eq_none_iff]
    intro kv hkv
    simp only [Dict.has, List.contains_eq_mem, decide_eq_false_iff_not, List.mem_map, not_exists,
      not_and] at h
    simpa using fun e => h kv hkv e.symm
  simp [Dict.get, withDigest, List.lookup_append, hnone, List.lookup]

/-- A digest is one. -/
theorem digest_sha256Re (v : Json) : sha256Re (digest v) = true := by
  obtain ⟨hlen, hall⟩ := sha256Hex_chars (canonical v)
  have hd : digest v = "sha256:" ++ String.ofList (sha256Hex (canonical v)).toList := by
    rw [digest, String.ofList_toList]
  rw [sha256Re, hd, matchesAfter_append]
  simp [hlen, hall]

theorem digest_length (v : Json) : (digest v).length = 71 := by
  have hlen := (sha256Hex_chars (canonical v)).1
  rw [digest, String.length_append, ← String.length_toList, ← String.length_toList, hlen]
  rfl

theorem pairsBound_append (xs ys : Dict) :
    pairsBound (xs ++ ys) = pairsBound xs + pairsBound ys := by
  induction xs with
  | nil => simp [pairsBound]
  | cons x xs ih =>
    obtain ⟨k, v⟩ := x
    simp only [List.cons_append, pairsBound, ih]
    omega

/-- A document whose values are short is small with its digest. -/
theorem withDigest_size (h : pairsBound fields ≤ 7000) :
    (canonical (.obj (withDigest fields))).utf8ByteSize ≤ 32 * 1024 := by
  refine (utf8ByteSize_canonical _).trans ?_
  have hkey : "body_digest".length = 11 := rfl
  simp only [Json.dumpBound, withDigest, pairsBound_append, pairsBound, hkey, digest_length]
  omega

end Document

/-! ## Envelopes -/

variable {n : ℕ} {env : Env} {rest : Dict} {state : TaskState} {x : String} {s : Store}
  {credential : Json}

theorem intFrom_int {least : ℕ} (h : least ≤ n) : intFrom least (.int n) = some ⟨n, h⟩ :=
  intFrom_eq_some.mpr rfl

theorem runnerIdOf_str {r : String} (h : runnerIdRe r) : runnerIdOf (.str r) = .ok r := by
  simp [runnerIdOf, Json.asStr?, h]

theorem taskIdOf_str {t : String} (h : taskIdRe t) : taskIdOf (.str t) = .ok t := by
  simp [taskIdOf, Json.asStr?, h]

/-- The values of the fields that a status and a result share. -/
structure Cover where
  runnerId : String
  taskId : String
  assignmentEpoch : ℕ
  sequence : ℕ
  leaseId : String
  createdAt : String
  expiresAt : String

/-- The shared fields of a status or a result. -/
def Cover.fields (c : Cover) (messageType : String) : Dict :=
  [("version", .int 2), ("message_type", .str messageType), ("runner_id", .str c.runnerId),
    ("task_id", .str c.taskId), ("assignment_epoch", .int c.assignmentEpoch),
    ("sequence", .int c.sequence), ("created_at", .str c.createdAt),
    ("expires_at", .str c.expiresAt), ("lease_id", .str c.leaseId)]

/-- The times of a message are times, and the message has not expired. -/
structure Timely (env : Env) (createdAt expiresAt : String) : Prop where
  times : ∃ c e, parseTime createdAt = .ok c ∧ parseTime expiresAt = .ok e ∧ c < e ∧
    e - c ≤ seconds 3600 ∧ env.clock 0 < e

/-- The values of a cover are well-formed. -/
structure Cover.Valid (c : Cover) (env : Env) : Prop where
  runner : runnerIdRe c.runnerId
  task : taskIdRe c.taskId
  epoch : 1 ≤ c.assignmentEpoch
  sequence : 1 ≤ c.sequence
  timely : Timely env c.createdAt c.expiresAt

variable {c : Cover}

/-- A document with the fields of a valid cover and its own digest passes `_validate_envelope`. -/
theorem Cover.Valid.envelope {messageType : String} (h : c.Valid env)
    (hrest : (c.fields messageType ++ rest).has "body_digest" = false)
    (hsize : pairsBound (c.fields messageType ++ rest) ≤ 7000) :
    validateEnvelope env (withDigest (c.fields messageType ++ rest)) messageType false = .ok () := by
  have hget : ∀ k v, k ≠ "body_digest" → (c.fields messageType).lookup k = some v →
      (withDigest (c.fields messageType ++ rest)).get k = v := by
    intro k v hk hv
    rw [withDigest_get hk, Dict.get, List.lookup_append, hv]
    rfl
  obtain ⟨created, expires, hcreated, hexpires, hlt, httl, hnow⟩ := h.timely.times
  simp only [validateEnvelope, hget "version" (.int 2) (by decide) rfl,
    hget "message_type" (.str messageType) (by decide) rfl,
    hget "runner_id" (.str c.runnerId) (by decide) rfl,
    hget "task_id" (.str c.taskId) (by decide) rfl,
    hget "assignment_epoch" (.int c.assignmentEpoch) (by decide) rfl,
    hget "sequence" (.int c.sequence) (by decide) rfl,
    hget "created_at" (.str c.createdAt) (by decide) rfl,
    hget "expires_at" (.str c.expiresAt) (by decide) rfl, withDigest_without hrest,
    withDigest_body_digest hrest, runnerIdOf_str h.runner, taskIdOf_str h.task,
    intFrom_int h.epoch, intFrom_int h.sequence, orRaise_some, messageTime, timeOf, Json.asStr?,
    hcreated, hexpires, ok_bind]
  simp [ensure, Json.eqInt, Json.eqStr, hlt, httl, hnow, withDigest_size hsize]

/-- What `_record_message` reads of a document with the fields of a valid cover. -/
def Cover.Valid.head {c : Cover} {env : Env} (h : c.Valid env) (document : Dict) : MessageHead :=
  ⟨c.runnerId, c.taskId, c.assignmentEpoch, c.sequence, h.sequence, .str c.leaseId,
    digest (.obj document)⟩

theorem Cover.get_fields (c : Cover) (messageType : String) (rest : Dict) {k : String} {v : Json}
    (hk : k ≠ "body_digest") (hv : (c.fields messageType).lookup k = some v) :
    (withDigest (c.fields messageType ++ rest)).get k = v := by
  rw [withDigest_get hk, Dict.get, List.lookup_append, hv]
  rfl

theorem Cover.Valid.messageHead_ok (h : c.Valid env) (messageType : String)
    (hrest : (c.fields messageType ++ rest).has "body_digest" = false) :
    messageHead (withDigest (c.fields messageType ++ rest)) =
      .ok (h.head (c.fields messageType ++ rest)) := by
  simp only [messageHead, c.get_fields messageType rest (k := "runner_id") (by decide) rfl,
    c.get_fields messageType rest (k := "task_id") (by decide) rfl,
    c.get_fields messageType rest (k := "assignment_epoch") (by decide) rfl,
    c.get_fields messageType rest (k := "sequence") (by decide) rfl,
    c.get_fields messageType rest (k := "lease_id") (by decide) rfl,
    withDigest_body_digest hrest, runnerIdOf_str h.runner, taskIdOf_str h.task,
    intFrom_int h.epoch, intFrom_int h.sequence, Json.asStr?, Option.filter_some,
    digest_sha256Re, if_true, orRaise_some, ok_bind]
  rfl

/-! ## Statuses -/

/-- The document of a status. -/
def statusDocument (c : Cover) (state : TaskState) (stage : String) : Dict :=
  c.fields "status" ++ [("state", .str state.text), ("stage", .str stage),
    ("updated_at", .str c.createdAt)]

/-- A valid status without candidate, error and required action. -/
def Cover.Valid.status {c : Cover} {env : Env} (h : c.Valid env) (state : TaskState)
    (hstate : state ∈ statusStates) (stage : String) : StatusMessage :=
  ⟨h.head (statusDocument c state stage), state, hstate, stage, none, none, none⟩

theorem ofText?_text {states : List TaskState} (h : state ∈ states) :
    TaskState.ofText? states state.text = some ⟨state, h⟩ := by
  have hinj : ∀ t : TaskState, t.text = state.text → t = state := by
    intro t
    cases t <;> cases state <;> decide
  unfold TaskState.ofText?
  cases hf : states.attach.find? fun t => t.1.text = state.text with
  | none =>
    have := List.find?_eq_none.mp hf ⟨state, h⟩ (List.mem_attach _ _)
    simp at this
  | some t =>
    have := List.find?_some hf
    simp only [decide_eq_true_eq] at this
    rw [Option.some.injEq, Subtype.ext_iff]
    exact hinj _ this

/-- The stages of a status. -/
def statusStages : List String :=
  ["waiting_runner", "preflight", "queued", "workspace", "codex", "verify", "git", "handoff",
    "recovery"]

theorem oneOf_str {names : List String} (h : names.contains x) (e : Raise) :
    oneOf (.str x) names e = .ok x := by
  have hany : names.any (Json.eqStr (.str x)) = true := by
    rw [List.contains_iff_exists_mem_beq] at h
    obtain ⟨y, hy, he⟩ := h
    rw [List.any_eq_true]
    exact ⟨y, hy, he⟩
  simp [oneOf, memberOf, Json.inStrings, Json.hashable, hany, ensure, Json.asStr?]

/-- A status with well-formed values is accepted. -/
theorem arriveStatus_ok {stage : String} (h : c.Valid env) (hstate : state ∈ statusStates)
    (hstage : statusStages.contains stage)
    (hsize : pairsBound (statusDocument c state stage) ≤ 7000)
    (hcred : verifyCredential s (.str c.runnerId) credential = .ok ()) :
    arriveStatus s env (withDigest (statusDocument c state stage)) credential =
      .ok (.status (h.status state hstate stage)) := by
  have hkey : (statusDocument c state stage).has "body_digest" = false := rfl
  have hget : ∀ k v, k ≠ "body_digest" → (statusDocument c state stage).lookup k = some v →
      (withDigest (statusDocument c state stage)).get k = v := by
    intro k v hk hv
    rw [withDigest_get hk, Dict.get, hv]
    rfl
  have habsent : ∀ k, k ≠ "body_digest" → (statusDocument c state stage).lookup k = none →
      (withDigest (statusDocument c state stage)).get k = .null := by
    intro k hk hv
    rw [withDigest_get hk, Dict.get, hv]
    rfl
  obtain ⟨created, _, hcreated, _⟩ := h.timely.times
  have henvelope : statusEnvelope env (withDigest (statusDocument c state stage)) =
      .ok c.runnerId := by
    have hnames : (statusStates.map TaskState.text).contains state.text := by
      rw [List.contains_iff_mem]
      exact List.mem_map_of_mem hstate
    have hkeys : ((withDigest (statusDocument c state stage)).hasAll
        ["version", "message_type", "runner_id", "task_id", "assignment_epoch", "sequence",
          "created_at", "expires_at", "body_digest", "lease_id", "state", "stage", "updated_at"] ∧
      (withDigest (statusDocument c state stage)).keysWithin
        (["version", "message_type", "runner_id", "task_id", "assignment_epoch", "sequence",
          "created_at", "expires_at", "body_digest", "lease_id", "state", "stage", "updated_at"] ++
          ["queue_position", "candidate_id", "error_code", "action_required"])) := ⟨rfl, rfl⟩
    simp only [statusEnvelope, ensure_bind_of hkeys, hget "state" _ (by decide) rfl,
      oneOf_str hnames, hget "updated_at" _ (by decide) rfl, hget "runner_id" _ (by decide) rfl,
      hget "task_id" _ (by decide) rfl, messageTime, timeOf, Json.asStr?, hcreated,
      runnerIdOf_str h.runner, taskIdOf_str h.task, ok_bind,
      show validateEnvelope env (withDigest (statusDocument c state stage)) "status" false = .ok ()
        from h.envelope hkey hsize]
    rfl
  have hmessage : statusMessage (withDigest (statusDocument c state stage)) =
      .ok (h.status state hstate stage) := by
    have hone : ∀ e, oneOf (.str stage) ["waiting_runner", "preflight", "queued", "workspace",
        "codex", "verify", "git", "handoff", "recovery"] e = .ok stage := oneOf_str hstage
    simp only [statusMessage, hget "stage" _ (by decide) rfl, hone,
      habsent "candidate_id" (by decide) rfl, habsent "error_code" (by decide) rfl,
      habsent "action_required" (by decide) rfl, habsent "queue_position" (by decide) rfl,
      hget "state" _ (by decide) rfl, Json.asStr?, Option.bind_some, ofText?_text hstate,
      orRaise_some, optionalMatch, Json.isNull, if_true, ok_bind,
      show messageHead (withDigest (statusDocument c state stage)) = _
        from h.messageHead_ok "status" hkey]
    simp [ensure]
    rfl
  simp only [arriveStatus, henvelope, hcred, hmessage, ok_bind]
  rfl

/-! ## Results -/

/-- The values of a result; it reports neither commits nor a branch. -/
structure Report where
  state : TaskState
  summary : String
  candidateId : String

/-- The values of a result are well-formed. -/
structure Report.Valid (r : Report) : Prop where
  state : r.state ∈ resultStates
  summary : strip r.summary ≠ "" ∧ r.summary.length ≤ 6000
  controls : r.summary.toList.any isBadControl = false
  candidate : sha256Re r.candidateId

/-- The document of a result that its identity is the digest of. -/
def resultCore (c : Cover) (r : Report) : Dict :=
  c.fields "result" ++ [("state", .str r.state.text), ("finished_at", .str c.createdAt),
    ("summary", .str r.summary), ("commits", .arr []), ("changed_path_count", .int 0),
    ("next_actions", .arr []), ("candidate_id", .str r.candidateId)]

/-- The document of a result. -/
def resultDocument (c : Cover) (r : Report) : Dict :=
  c.fields "result" ++ [("state", .str r.state.text), ("finished_at", .str c.createdAt),
    ("summary", .str r.summary), ("commits", .arr []), ("changed_path_count", .int 0),
    ("next_actions", .arr []), ("candidate_id", .str r.candidateId),
    ("result_hash", .str (digest (.obj (resultCore c r))))]

/-- A valid result. -/
def Cover.Valid.result {c : Cover} {env : Env} (h : c.Valid env) {r : Report} (hr : r.Valid) :
    ResultMessage :=
  ⟨h.head (resultDocument c r), r.state, hr.state, strip r.summary, none, r.candidateId,
    digest (.obj (resultCore c r)), 0, [], [], none, none⟩

theorem boundedText_str {maximum : ℕ} (h : strip x ≠ "" ∧ x.length ≤ maximum)
    (hc : x.toList.any isBadControl = false) (name : String) :
    boundedText (.str x) name maximum = .ok (strip x) := by
  have hc' : (!x.toList.any isBadControl) = true := by rw [hc]; rfl
  simp only [boundedText, Json.asStr?, orRaise_some, ok_bind, ensure_bind_of h, ensure_bind_of hc']
  rfl

/-- A result with well-formed values is accepted, unless its task has one already. -/
theorem arriveResult_ok {r : Report} (h : c.Valid env) (hr : r.Valid)
    (hsize : pairsBound (resultDocument c r) ≤ 7000)
    (hcred : verifyCredential s (.str c.runnerId) credential = .ok ())
    (hlive : ∀ row, s.tasks.get? c.taskId = some row → resultStates.contains row.state = false) :
    arriveResult s env (withDigest (resultDocument c r)) credential = .ok (.result (h.result hr)) := by
  have hkey : (resultDocument c r).has "body_digest" = false := rfl
  have hget : ∀ k v, k ≠ "body_digest" → (resultDocument c r).lookup k = some v →
      (withDigest (resultDocument c r)).get k = v := by
    intro k v hk hv
    rw [withDigest_get hk, Dict.get, hv]
    rfl
  have habsent : ∀ k, k ≠ "body_digest" → (resultDocument c r).lookup k = none →
      (withDigest (resultDocument c r)).get k = .null := by
    intro k hk hv
    rw [withDigest_get hk, Dict.get, hv]
    rfl
  obtain ⟨created, _, hcreated, _⟩ := h.timely.times
  have hlate : rejectImmutableLateResult s (withDigest (resultDocument c r)) credential = .ok () := by
    have hany : (s.tasks.get? c.taskId).any (fun t => t.assignedRunnerId = some c.runnerId ∧
        t.assignmentEpoch = c.assignmentEpoch ∧ t.leaseId = some c.leaseId ∧
        resultStates.contains t.state) = false := by
      cases ht : s.tasks.get? c.taskId with
      | none => rfl
      | some row => simpa using fun _ _ _ => by simpa using hlive row ht
    simp only [rejectImmutableLateResult]
    split
    · rfl
    · next x runnerId taskId epoch leaseId hid =>
      simp only [lateIdentity, hget "runner_id" _ (by decide) rfl, hget "task_id" _ (by decide) rfl,
        hget "assignment_epoch" _ (by decide) rfl, hget "lease_id" _ (by decide) rfl, Json.asStr?,
        Option.filter_some, h.runner, h.task, if_true, intFrom_int h.epoch, Option.bind_eq_bind,
        Option.bind_some, Option.bind_eq_some_iff, Option.pure_def, Option.some.injEq,
        Prod.mk.injEq] at hid
      obtain ⟨_, _, _, _, _, _, _, _, rfl, rfl, rfl, rfl⟩ := hid
      simp only [hcred, ok_bind, hany]
      rfl
  have henvelope : resultEnvelope env (withDigest (resultDocument c r)) = .ok c.runnerId := by
    have hnames : (resultStates.map TaskState.text).contains r.state.text := by
      rw [List.contains_iff_mem]
      exact List.mem_map_of_mem hr.state
    have hkeys : ((withDigest (resultDocument c r)).hasAll
        ["version", "message_type", "runner_id", "task_id", "assignment_epoch", "sequence",
          "created_at", "expires_at", "body_digest", "lease_id", "state", "finished_at", "summary",
          "commits", "changed_path_count", "next_actions", "candidate_id", "result_hash"] ∧
      (withDigest (resultDocument c r)).keysWithin
        (["version", "message_type", "runner_id", "task_id", "assignment_epoch", "sequence",
          "created_at", "expires_at", "body_digest", "lease_id", "state", "finished_at", "summary",
          "commits", "changed_path_count", "next_actions", "candidate_id", "result_hash"] ++
          ["branch", "test_summary", "error_code"])) := ⟨rfl, rfl⟩
    simp only [resultEnvelope, ensure_bind_of hkeys, hget "state" _ (by decide) rfl,
      oneOf_str hnames, hget "finished_at" _ (by decide) rfl, hget "runner_id" _ (by decide) rfl,
      hget "task_id" _ (by decide) rfl, messageTime, timeOf, Json.asStr?, hcreated,
      runnerIdOf_str h.runner, taskIdOf_str h.task, ok_bind,
      show validateEnvelope env (withDigest (resultDocument c r)) "result" false = .ok ()
        from h.envelope hkey hsize]
    rfl
  have hmessage : resultMessage (withDigest (resultDocument c r)) = .ok (h.result hr) := by
    have hcore : (resultDocument c r).without "result_hash" = resultCore c r := rfl
    have hzero : (intFrom 0 (.int 0)).filter (fun n => n.1 ≤ 100000) = some ⟨0, le_rfl⟩ := rfl
    simp only [resultMessage, hget "summary" _ (by decide) rfl,
      boundedText_str hr.summary hr.controls, habsent "test_summary" (by decide) rfl, optionalText,
      Json.isNull, if_true, hget "candidate_id" _ (by decide) rfl, Json.asStr?, Option.filter_some,
      hr.candidate, withDigest_without hkey, hcore, hget "result_hash" _ (by decide) rfl,
      hget "changed_path_count" _ (by decide) rfl, hzero, hget "next_actions" _ (by decide) rfl,
      hget "commits" _ (by decide) rfl, Json.asList?, habsent "branch" (by decide) rfl,
      habsent "error_code" (by decide) rfl, optionalMatch, hget "state" _ (by decide) rfl,
      Option.bind_some, ofText?_text hr.state, orRaise_some, ok_bind,
      show messageHead (withDigest (resultDocument c r)) = _ from h.messageHead_ok "result" hkey]
    simp [ensure, Json.eqStr, stringsMatching]
    rfl
  simp only [arriveResult, hlate, henvelope, hcred, hmessage, ok_bind]
  rfl

/-! ## Heartbeats -/

/-- The values of a heartbeat that reports no task, labels, projects and capabilities. -/
structure Pulse where
  runnerId : String
  sequence : ℕ
  workState : WorkState
  os : String
  arch : String
  policyRevision : ℕ
  createdAt : String
  expiresAt : String

/-- The document of a heartbeat. -/
def heartbeatDocument (p : Pulse) : Dict :=
  [("version", .int 2), ("message_type", .str "heartbeat"), ("runner_id", .str p.runnerId),
    ("task_id", .null), ("assignment_epoch", .int 0), ("sequence", .int p.sequence),
    ("created_at", .str p.createdAt), ("expires_at", .str p.expiresAt), ("online", .bool true),
    ("protocol_version", .int 2), ("agent_version", .str "1"), ("codex_version", .null),
    ("os", .str p.os), ("arch", .str p.arch), ("labels", .arr []), ("allowed_projects", .arr []),
    ("capabilities", .arr []), ("queue_depth", .int 0), ("work_state", .str p.workState.text),
    ("active_lease_id", .null), ("self_check", .str "ok"),
    ("policy_revision", .int p.policyRevision), ("updated_at", .str p.createdAt)]

/-- The values of a heartbeat are well-formed. -/
structure Pulse.Valid (p : Pulse) (env : Env) : Prop where
  runner : runnerIdRe p.runnerId
  sequence : 1 ≤ p.sequence
  os : ["macos", "linux"].contains p.os
  arch : ["amd64", "aarch64"].contains p.arch
  timely : Timely env p.createdAt p.expiresAt

/-- What the heartbeat transaction reads. -/
def Pulse.message (p : Pulse) : HeartbeatMessage :=
  ⟨p.runnerId, none, .int 0, p.sequence, digest (.obj (heartbeatDocument p)), true, .str "1", .null,
    p.os, p.arch, [], [], [], p.workState, .null, "ok", .int p.policyRevision, none⟩

theorem workState_ofText?_text (w : WorkState) : WorkState.ofText? w.text = some w := by
  cases w <;> rfl

section Heartbeat

variable {p : Pulse} {env : Env}

theorem heartbeatDocument_get (p : Pulse) {k : String} {v : Json} (hk : k ≠ "body_digest")
    (hv : (heartbeatDocument p).lookup k = some v) : (withDigest (heartbeatDocument p)).get k = v := by
  rw [withDigest_get hk, Dict.get, hv]
  rfl

theorem heartbeatEnvelope_ok (h : p.Valid env) (hsize : pairsBound (heartbeatDocument p) ≤ 7000) :
    heartbeatEnvelope env (withDigest (heartbeatDocument p)) = .ok p.runnerId := by
  have hkey : (heartbeatDocument p).has "body_digest" = false := rfl
  obtain ⟨created, expires, hcreated, hexpires, hlt, httl, hnow⟩ := h.timely.times
  have henvelope : validateEnvelope env (withDigest (heartbeatDocument p)) "heartbeat" true =
      .ok () := by
    simp only [validateEnvelope, heartbeatDocument_get p (k := "version") (by decide) rfl,
      heartbeatDocument_get p (k := "message_type") (by decide) rfl,
      heartbeatDocument_get p (k := "runner_id") (by decide) rfl,
      heartbeatDocument_get p (k := "task_id") (by decide) rfl,
      heartbeatDocument_get p (k := "assignment_epoch") (by decide) rfl,
      heartbeatDocument_get p (k := "sequence") (by decide) rfl,
      heartbeatDocument_get p (k := "created_at") (by decide) rfl,
      heartbeatDocument_get p (k := "expires_at") (by decide) rfl, withDigest_without hkey,
      withDigest_body_digest hkey, runnerIdOf_str h.runner, intFrom_int h.sequence, orRaise_some,
      messageTime, timeOf, Json.asStr?, hcreated, hexpires, ok_bind]
    simp [ensure, Json.eqInt, Json.eqStr, Json.isNull, hlt, httl, hnow, withDigest_size hsize]
  have hkeys : ((withDigest (heartbeatDocument p)).hasAll
      ["version", "message_type", "runner_id", "task_id", "assignment_epoch", "sequence",
        "created_at", "expires_at", "body_digest", "online", "protocol_version", "agent_version",
        "codex_version", "os", "arch", "labels", "allowed_projects", "capabilities", "queue_depth",
        "work_state", "active_lease_id", "self_check", "policy_revision", "updated_at"] ∧
    (withDigest (heartbeatDocument p)).keysWithin
      (["version", "message_type", "runner_id", "task_id", "assignment_epoch", "sequence",
        "created_at", "expires_at", "body_digest", "online", "protocol_version", "agent_version",
        "codex_version", "os", "arch", "labels", "allowed_projects", "capabilities", "queue_depth",
        "work_state", "active_lease_id", "self_check", "policy_revision", "updated_at"] ++
        ["error_code"])) := ⟨rfl, rfl⟩
  simp only [heartbeatEnvelope, ensure_bind_of hkeys, henvelope,
    heartbeatDocument_get p (k := "updated_at") (by decide) rfl,
    heartbeatDocument_get p (k := "runner_id") (by decide) rfl, messageTime, timeOf, Json.asStr?,
    hcreated, runnerIdOf_str h.runner, ok_bind]

theorem heartbeatMessage_ok (h : p.Valid env) :
    heartbeatMessage (withDigest (heartbeatDocument p)) p.runnerId = .ok p.message := by
  have hwork : ∀ e, oneOf (.str p.workState.text) ["idle", "busy", "recovery_required", "error"] e =
      .ok p.workState.text := by
    intro e
    cases p.workState <;> exact oneOf_str (by decide) e
  have hcheck : ∀ e, oneOf (.str "ok") ["ok", "warning", "error"] e = .ok "ok" :=
    oneOf_str (by decide)
  have herror : (withDigest (heartbeatDocument p)).get "error_code" = .null := by
    rw [withDigest_get (by decide)]
    rfl
  simp only [heartbeatMessage, heartbeatDocument_get p (k := "sequence") (by decide) rfl,
    heartbeatDocument_get p (k := "protocol_version") (by decide) rfl,
    heartbeatDocument_get p (k := "work_state") (by decide) rfl,
    heartbeatDocument_get p (k := "os") (by decide) rfl,
    heartbeatDocument_get p (k := "arch") (by decide) rfl,
    heartbeatDocument_get p (k := "online") (by decide) rfl,
    heartbeatDocument_get p (k := "queue_depth") (by decide) rfl,
    heartbeatDocument_get p (k := "capabilities") (by decide) rfl,
    heartbeatDocument_get p (k := "allowed_projects") (by decide) rfl,
    heartbeatDocument_get p (k := "labels") (by decide) rfl,
    heartbeatDocument_get p (k := "self_check") (by decide) rfl, herror,
    heartbeatDocument_get p (k := "task_id") (by decide) rfl,
    heartbeatDocument_get p (k := "assignment_epoch") (by decide) rfl,
    heartbeatDocument_get p (k := "agent_version") (by decide) rfl,
    heartbeatDocument_get p (k := "codex_version") (by decide) rfl,
    heartbeatDocument_get p (k := "active_lease_id") (by decide) rfl,
    heartbeatDocument_get p (k := "policy_revision") (by decide) rfl,
    @withDigest_body_digest (heartbeatDocument p) rfl, intFrom_int h.sequence, hwork, workState_ofText?_text,
    oneOf_str h.os, oneOf_str h.arch, hcheck, Json.asBool?, Json.asStr?, orRaise_some, ok_bind]
  rfl

/-- A well-formed heartbeat of a Runner that is newer than its last one is written. -/
theorem heartbeat_step (cfg : Config) {s : Store} {row : RunnerRow} {credential : Json}
    (h : p.Valid env) (hsize : pairsBound (heartbeatDocument p) ≤ 7000)
    (hcred : verifyCredential s (.str p.runnerId) credential = .ok ())
    (hrow : s.runners.get? p.runnerId = some row) (hseq : row.heartbeatSequence < p.sequence)
    (hint : p.sequence < 2 ^ 63) (hos : row.os = p.os) (harch : row.arch = p.arch)
    (hpolicy : row.policyRevision = p.policyRevision) :
    (Command.heartbeat env (withDigest (heartbeatDocument p)) credential).step cfg s =
      s.setRunner p.runnerId (heartbeatRow (env.clock 1) p.message "1" none) := by
  have hupdate : heartbeatUpdate cfg s (env.clock 1) row p.message =
      .ok (s.setRunner p.runnerId (heartbeatRow (env.clock 1) p.message "1" none)) := by
    have hagent : boundedText (.str "1") "agent_version" 64 = .ok "1" := by decide
    simp only [heartbeatUpdate, Pulse.message, within, List.all_nil, ensure_bind_of, hos, harch,
      hpolicy, heartbeatAssignment, hagent, optionalText, Json.isNull, if_true, sqlInt, ok_bind]
    norm_num at hint
    simp [ensure, Json.eqInt, hint]
  have hset : (s.setRunner p.runnerId (heartbeatRow (env.clock 1) p.message "1" none)).runnerRow
      p.runnerId = .ok (heartbeatRow (env.clock 1) p.message "1" none row) := by
    simp [Store.runnerRow, Store.setRunner, hrow]
  have hle : row.heartbeatSequence ≤ p.message.sequence := hseq.le
  have hne : ¬ p.message.sequence = row.heartbeatSequence := hseq.ne'
  simp only [Command.step, Command.exec, Runner.heartbeat, heartbeatEnvelope_ok h hsize, hcred,
    heartbeatMessage_ok h, show p.message.runnerId = p.runnerId from rfl, hrow, orRaise_some,
    ensure_bind_of hle, if_neg hne, hupdate, hset, ok_bind]
  rfl

end Heartbeat

/-! ## Calls -/

section Calls

variable {s s' : Store} {env : Env} {c : Cover} {credential : Json}

theorem Call.step_command (cfg : Config) (s : Store) (c : Command) :
    (Call.command c).step cfg s = c.step cfg s := rfl

/-- A credential stays valid while credentials are untouched and the Runner is not revoked. -/
theorem verifyCredential_congr {r : String} {runner : RunnerRow}
    (h : verifyCredential s (.str r) credential = .ok ()) (hsame : s'.credentials = s.credentials)
    (hrun : s'.runners.get? r = some runner) (hne : runner.adminState ≠ .revoked) :
    verifyCredential s' (.str r) credential = .ok () := by
  simp only [verifyCredential, bind_eq_ok, orRaise_eq_ok, ensure_eq_ok, runnerIdOf_eq_ok,
    Json.asStr?, Option.some.injEq] at h ⊢
  obtain ⟨_, ⟨rfl, hr⟩, secret, hsecret, row, hrow, _⟩ := h
  exact ⟨r, ⟨rfl, hr⟩, secret, hsecret, row, hsame ▸ hrow, runner, hrun, hne⟩

/-- A well-formed status that the guards let through is admitted as a call. -/
theorem Cover.Valid.admits_status (h : c.Valid env) {state : TaskState}
    (hstate : state ∈ statusStates) {stage : String} (hstage : statusStages.contains stage)
    (hsize : pairsBound (statusDocument c state stage) ≤ 7000)
    (hint : c.assignmentEpoch < 2 ^ 63 ∧ c.sequence < 2 ^ 63)
    (hcred : verifyCredential s (.str c.runnerId) credential = .ok ())
    (hadmits : s.desk.Admits (.status (h.status state hstate stage))) :
    (Call.message .status env (withDigest (statusDocument c state stage)) credential).Admits s
      (.status (h.status state hstate stage)) :=
  ⟨_, _, _, _, rfl, arriveStatus_ok h hstate hstage hsize hcred, hint, hadmits⟩

/-- A well-formed result that the guards let through is admitted as a call. -/
theorem Cover.Valid.admits_result (h : c.Valid env) {r : Report} (hr : r.Valid)
    (hsize : pairsBound (resultDocument c r) ≤ 7000)
    (hint : c.assignmentEpoch < 2 ^ 63 ∧ c.sequence < 2 ^ 63)
    (hcred : verifyCredential s (.str c.runnerId) credential = .ok ())
    (hadmits : s.desk.Admits (.result (h.result hr))) :
    (Call.message .result env (withDigest (resultDocument c r)) credential).Admits s
      (.result (h.result hr)) := by
  refine ⟨_, _, _, _, rfl, arriveResult_ok h hr hsize hcred ?_, hint, hadmits⟩
  intro row hrow
  obtain ⟨_, task, htask, _, _, him⟩ := hadmits
  obtain rfl : row = task := Option.some.inj (hrow.symm.trans htask)
  rw [immutableFor_iff] at him
  have hcases : resultStates.contains row.state = true ↔ row.state = .recoveryRequired ∨
      row.state.terminal ∨ row.state = .awaitingConfirmation := by
    cases row.state <;> decide
  rw [← Bool.not_eq_true, hcases]
  simpa using him

end Calls

/-! ## A Runner and its task -/

/-- A Runner, the task that it has been assigned and the lease of the assignment. -/
structure Pair where
  runnerId : String
  taskId : String
  leaseId : String
  assignmentEpoch : ℕ
  principalHash : String
  credential : Json

/-- How the Runner and the task stand. -/
structure View where
  state : TaskState
  sequence : ℕ
  everRunning : Bool
  seat : Seat
  lease : LeaseState

/-- The Runner is online since the start of 2026, after one heartbeat. -/
structure RunnerRow.Online (row : RunnerRow) : Prop where
  link : row.link = (true, some 1767225600000000)
  os : row.os = "linux"
  arch : row.arch = "amd64"
  policyRevision : row.policyRevision = 1
  heartbeatSequence : row.heartbeatSequence = 1

/-- The store shows the pair in the view: the Runner is enabled and online, and no message of the
    log is newer than the task. -/
structure Pair.Shows (p : Pair) (s : Store) (v : View) : Prop where
  task : ∃ row, s.tasks.get? p.taskId = some row ∧ row.assignedRunnerId = some p.runnerId ∧
    row.assignmentEpoch = p.assignmentEpoch ∧ row.leaseId = some p.leaseId ∧
    row.principalHash = p.principalHash ∧ row.state = v.state ∧ row.sequence = v.sequence ∧
    row.everRunning = v.everRunning
  runner : ∃ row, s.runners.get? p.runnerId = some row ∧ row.adminState = .enabled ∧
    row.Online ∧ row.seat = v.seat
  lease : ∃ row, s.leases.get? p.leaseId = some row ∧ row.taskId = p.taskId ∧
    row.runnerId = p.runnerId ∧ row.assignmentEpoch = p.assignmentEpoch ∧ row.state = v.lease
  credential : verifyCredential s (.str p.runnerId) p.credential = .ok ()
  log : ∀ k msg, s.messages.get? k = some msg → k.sequence ≤ v.sequence

/-- The cover of the next messages of the pair. -/
def Pair.cover (p : Pair) (sequence : ℕ) : Cover :=
  ⟨p.runnerId, p.taskId, p.assignmentEpoch, sequence, p.leaseId, "2026-01-01T00:00:00+00:00",
    "2026-01-01T00:30:00+00:00"⟩

/-- The view after a status. -/
def View.afterStatus (v : View) (taskId : String) (sequence : ℕ) (state : TaskState) : View :=
  { v with
    state := state
    sequence := sequence
    everRunning := state = .running || v.everRunning
    seat := if state = .recoveryRequired then ⟨some taskId, .recoveryRequired⟩ else v.seat }

/-- The view after a result. -/
def View.afterResult (v : View) (taskId : String) (sequence : ℕ) (state : TaskState) : View :=
  { v with
    state := state
    sequence := sequence
    seat := if state = .recoveryRequired then ⟨some taskId, .recoveryRequired⟩ else ⟨none, .idle⟩
    lease := if v.lease = .active then .released else v.lease }

section Shows

variable {p : Pair} {s s' : Store} {v : View} {env : Env} {n : ℕ}

/-- The guards of `_record_message` pass for a message of the pair that is newer than the task. -/
theorem Pair.Shows.admits (h : p.Shows s v) {m : Message} (hr : m.head.runnerId = p.runnerId)
    (ht : m.head.taskId = p.taskId) (he : m.head.assignmentEpoch = p.assignmentEpoch)
    (hl : m.head.leaseId = .str p.leaseId) (hseq : v.sequence < m.head.sequence)
    (him : immutableFor m.kind v.state = false) : s.desk.Admits m := by
  obtain ⟨row, hrow, hassigned, hepoch, hlease, _, hstate, hsequence, _⟩ := h.task
  refine ⟨?_, row, ht ▸ hrow, ?_, hsequence ▸ hseq, ?_⟩
  · cases hmsg : s.desk.messages.get? m.key with
    | none => rfl
    | some msg =>
      have : m.head.sequence ≤ v.sequence := h.log m.key msg hmsg
      omega
  · rw [MessageHead.holds_iff, hassigned, hepoch, hlease, hr, he, hl]
    exact ⟨rfl, rfl, by simp [Json.eqStr?, Json.eqStr]⟩
  · rw [hstate, him]
    decide

/-- The log after a message that was newer than all before. -/
theorem log_step {M M' : Table MessageRow.key} {row : MessageRow}
    (h : ∀ k msg, M.get? k = some msg → k.sequence ≤ v.sequence) (hM : M.insert? row = some M')
    (hseq : v.sequence < row.key.sequence) (k : MessageKey) (msg : MessageRow)
    (hk : M'.get? k = some msg) : k.sequence ≤ row.key.sequence := by
  rw [Table.get?_insert? hM] at hk
  split_ifs at hk with e
  · exact e ▸ le_rfl
  · exact (h k msg hk).trans hseq.le

/-- After a status that is newer than the task. -/
theorem Pair.Shows.status (h : p.Shows s v) (hvalid : (p.cover n).Valid env) (state : TaskState)
    (hstate : state ∈ statusStates) (stage : String) (hstage : statusStages.contains stage)
    (hsize : pairsBound (statusDocument (p.cover n) state stage) ≤ 7000)
    (hint : p.assignmentEpoch < 2 ^ 63 ∧ n < 2 ^ 63) (hseq : v.sequence < n)
    (him : v.state ≠ .recoveryRequired) (cfg : Config) :
    (Call.message .status env (withDigest (statusDocument (p.cover n) state stage))
      p.credential).Admits s (.status (hvalid.status state hstate stage)) ∧
    p.Shows ((Call.message .status env (withDigest (statusDocument (p.cover n) state stage))
      p.credential).step cfg s) (v.afterStatus p.taskId n state) := by
  have hadmits : (Call.message .status env (withDigest (statusDocument (p.cover n) state stage))
      p.credential).Admits s (.status (hvalid.status state hstate stage)) :=
    hvalid.admits_status hstate hstage hsize hint h.credential
      (h.admits rfl rfl rfl rfl hseq (by simp [immutableFor, him]))
  refine ⟨hadmits, ?_⟩
  obtain ⟨_, hno⟩ | ⟨m, hm, hacc, d, hrec, happ⟩ := message_moves cfg s
    (c := .message .status env (withDigest (statusDocument (p.cover n) state stage)) p.credential) rfl
  · exact absurd hadmits (hno _)
  obtain rfl := hm.unique hadmits
  obtain ⟨row, hrow, hassigned, hepoch, hlease, hprincipal, hstate', hsequence, hever⟩ := h.task
  obtain ⟨runner, hrun, hen, hlink, hseat⟩ := h.runner
  generalize Call.step cfg s _ = s' at *
  have hrunner : ∃ row, s'.runners.get? p.runnerId = some row ∧ row.adminState = .enabled ∧
      row.Online ∧ row.seat = (v.afterStatus p.taskId n state).seat := by
    rw [← desk_runners]
    cases hrec with
    | record =>
      generalize s'.desk = d' at happ
      cases happ with
      | status now =>
        by_cases hx : state = .recoveryRequired
        · subst hx
          exact ⟨heldRunner p.taskId now runner,
            by simp [Cover.Valid.status, Cover.Valid.head, Pair.cover, hrun], hen, ⟨hlink.1, hlink.2, hlink.3, hlink.4, hlink.5⟩, rfl⟩
        · exact ⟨runner, by simpa [Cover.Valid.status, hx] using hrun, hen, hlink,
            by simpa [View.afterStatus, hx] using hseat⟩
  refine ⟨?_, hrunner, ?_, ?_, ?_⟩
  · rw [← desk_tasks]
    cases hrec with
    | record =>
      generalize s'.desk = d' at happ
      cases happ with
      | status now =>
        exact ⟨statusTask now (hvalid.status state hstate stage) row,
          by simp [Cover.Valid.status, Cover.Valid.head, Pair.cover, hrow], hassigned, hepoch,
          hlease, hprincipal, rfl, rfl, by
            rw [statusTask, View.afterStatus, hever]
            rfl⟩
  · rw [← desk_leases]
    cases hrec with
    | record =>
      generalize s'.desk = d' at happ
      cases happ with
      | status now => exact h.lease
  · obtain ⟨row', hrow', hen', _⟩ := hrunner
    exact verifyCredential_congr h.credential hacc.credentials hrow' (by rw [hen']; decide)
  · rw [← desk_messages]
    cases hrec with
    | record now _ hM =>
      generalize s'.desk = d' at happ
      cases happ with
      | status now =>
        exact fun k msg hk => log_step h.log hM hseq k msg hk

/-- After a result that is newer than the task. -/
theorem Pair.Shows.result (h : p.Shows s v) (hvalid : (p.cover n).Valid env) {r : Report}
    (hr : r.Valid) (hsize : pairsBound (resultDocument (p.cover n) r) ≤ 7000)
    (hint : p.assignmentEpoch < 2 ^ 63 ∧ n < 2 ^ 63) (hseq : v.sequence < n)
    (him : immutableFor .result v.state = false) (cfg : Config) :
    (Call.message .result env (withDigest (resultDocument (p.cover n) r)) p.credential).Admits s
      (.result (hvalid.result hr)) ∧
    p.Shows ((Call.message .result env (withDigest (resultDocument (p.cover n) r))
      p.credential).step cfg s) (v.afterResult p.taskId n r.state) := by
  have hadmits : (Call.message .result env (withDigest (resultDocument (p.cover n) r))
      p.credential).Admits s (.result (hvalid.result hr)) :=
    hvalid.admits_result hr hsize hint h.credential (h.admits rfl rfl rfl rfl hseq him)
  refine ⟨hadmits, ?_⟩
  obtain ⟨_, hno⟩ | ⟨m, hm, hacc, d, hrec, happ⟩ := message_moves cfg s
    (c := .message .result env (withDigest (resultDocument (p.cover n) r)) p.credential) rfl
  · exact absurd hadmits (hno _)
  obtain rfl := hm.unique hadmits
  obtain ⟨row, hrow, hassigned, hepoch, hlease, hprincipal, hstate', hsequence, hever⟩ := h.task
  obtain ⟨runner, hrun, hen, hlink, hseat⟩ := h.runner
  obtain ⟨lease, hlease', hname, hholder, hepoch', hactive⟩ := h.lease
  generalize Call.step cfg s _ = s' at *
  have hrunner : ∃ row, s'.runners.get? p.runnerId = some row ∧ row.adminState = .enabled ∧
      row.Online ∧ row.seat = (v.afterResult p.taskId n r.state).seat := by
    rw [← desk_runners]
    cases hrec with
    | record =>
      generalize s'.desk = d' at happ
      cases happ with
      | result now =>
        refine ⟨resultRunner now (hvalid.result hr) runner,
          by simp [Cover.Valid.result, Cover.Valid.head, Pair.cover, hrun], ?_, ⟨hlink.1, hlink.2, hlink.3, hlink.4, hlink.5⟩, ?_⟩
        · simp [resultRunner, drained, hen]
        · by_cases hx : r.state = .recoveryRequired
          · simp [resultRunner, RunnerRow.seat, View.afterResult, Cover.Valid.result, hx,
              Cover.Valid.head, Pair.cover]
          · simp [resultRunner, RunnerRow.seat, View.afterResult, Cover.Valid.result, hx]
  refine ⟨?_, hrunner, ?_, ?_, ?_⟩
  · rw [← desk_tasks]
    cases hrec with
    | record =>
      generalize s'.desk = d' at happ
      cases happ with
      | result now =>
        exact ⟨resultTask now (hvalid.result hr) row,
          by simp [Cover.Valid.result, Cover.Valid.head, Pair.cover, hrow], hassigned, hepoch,
          hlease, hprincipal, rfl, rfl, hever⟩
  · rw [← desk_leases]
    cases hrec with
    | record =>
      generalize s'.desk = d' at happ
      cases happ with
      | @result task _ now htask =>
        obtain rfl : row = task := Option.some.inj (hrow.symm.trans htask)
        have hkey : lease.leaseId = p.leaseId := Table.key_of_get? hlease'
        by_cases hx : lease.state = .active
        · refine ⟨closedLease .released now lease, ?_, hname, hholder, hepoch', ?_⟩
          · simp [Table.get?_updateWhere, hlease', hlease, hkey, hx]
          · simp [closedLease, View.afterResult, ← hactive, hx]
        · refine ⟨lease, ?_, hname, hholder, hepoch', ?_⟩
          · simp [Table.get?_updateWhere, hlease', hlease, hkey, hx]
          · simp [View.afterResult, ← hactive, hx]
  · obtain ⟨row', hrow', hen', _⟩ := hrunner
    exact verifyCredential_congr h.credential hacc.credentials hrow' (by rw [hen']; decide)
  · rw [← desk_messages]
    cases hrec with
    | record now _ hM =>
      generalize s'.desk = d' at happ
      cases happ with
      | result now =>
        exact fun k msg hk => log_step h.log hM hseq k msg hk

/-- The request to cancel a task. -/
def cancelPayload (q t principalHash : String) : Dict :=
  [("version", .int 2), ("request_id", .str q), ("operation", .str "cancel"),
    ("source", ownerSource principalHash), ("task_id", .str t)]

/-- The request to continue a task. -/
def continuePayload (q t principalHash instruction : String) : Dict :=
  [("version", .int 2), ("request_id", .str q), ("operation", .str "continue"),
    ("source", ownerSource principalHash), ("task_id", .str t), ("instruction", .str instruction)]

/-- The identifiers of a request of the owner are well-formed. -/
structure Named (q t principalHash : String) : Prop where
  request : requestIdRe q
  task : taskIdRe t
  principal : sha256Re principalHash

variable {q t principal : String}

theorem commandRequest_cancel (h : Named q t principal) :
    commandRequest (cancelPayload q t principal) = .ok
      ⟨.cancel, q, t, principal, .null, digest (.obj (cancelPayload q t principal))⟩ := by
  have hget : ∀ k v, (cancelPayload q t principal).lookup k = some v →
      (cancelPayload q t principal).get k = v := fun k v hv => by rw [Dict.get, hv]; rfl
  have hop : [Operation.status, .cancel, .continue].find? (fun o => (Json.str "cancel").eqStr o.text) =
      some .cancel := by decide
  have hkeys : (cancelPayload q t principal).keysAre Operation.cancel.keys = true := rfl
  have hinstruction : (cancelPayload q t principal).get "instruction" = .null := rfl
  have hprincipal : (Dict.get [("channel", .str "weixin"), ("principal_hash", .str principal),
      ("role", .str "owner")] "principal_hash") = .str principal := rfl
  simp only [commandRequest, hget "operation" _ rfl, Json.hashable, hop, hkeys,
    hget "version" _ rfl, hget "request_id" _ rfl, hget "task_id" _ rfl, hget "source" _ rfl,
    hinstruction, requestIdOf, taskIdOf_str h.task, ownerSource, Json.asDict?, Json.asStr?,
    Option.filter_some, h.request, hprincipal, h.principal, if_true, orRaise_some, ok_bind]
  rfl

theorem commandRequest_continue {instruction : String} (h : Named q t principal) :
    commandRequest (continuePayload q t principal instruction) = .ok
      ⟨.continue, q, t, principal, .str instruction,
        digest (.obj (continuePayload q t principal instruction))⟩ := by
  have hget : ∀ k v, (continuePayload q t principal instruction).lookup k = some v →
      (continuePayload q t principal instruction).get k = v := fun k v hv => by rw [Dict.get, hv]; rfl
  have hop : [Operation.status, .cancel, .continue].find?
      (fun o => (Json.str "continue").eqStr o.text) = some .continue := by decide
  have hkeys : (continuePayload q t principal instruction).keysAre Operation.continue.keys = true := rfl
  have hprincipal : (Dict.get [("channel", .str "weixin"), ("principal_hash", .str principal),
      ("role", .str "owner")] "principal_hash") = .str principal := rfl
  simp only [commandRequest, hget "operation" _ rfl, Json.hashable, hop, hkeys,
    hget "version" _ rfl, hget "request_id" _ rfl, hget "task_id" _ rfl, hget "source" _ rfl,
    hget "instruction" _ rfl, requestIdOf, taskIdOf_str h.task, ownerSource, Json.asDict?,
    Json.asStr?, Option.filter_some, h.request, hprincipal, h.principal, if_true, orRaise_some,
    ok_bind]
  rfl

theorem commandTask_accounts (cfg : Config) (s : Store) (env : Env) (payload : Dict)
    (control : Bool) : s.SameAccounts ((Command.commandTask env payload control).step cfg s) :=
  committed_map_ind (P := s.SameAccounts) ⟨rfl, rfl⟩ fun h => (commandTask_moves h).1

/-- A message writes no command requests. -/
theorem message_commandRequests (cfg : Config) (s : Store) (kind : MessageKind) (env : Env)
    (payload : Dict) (credential : Json) :
    ((Call.message kind env payload credential).step cfg s).commandRequests = s.commandRequests :=
  (receive_requestTables s env kind payload credential rfl).2.2

/-- After the cancellation of a task in `awaiting_confirmation`. -/
theorem Pair.Shows.cancel (h : p.Shows s v) {q : String} (hq : Named q p.taskId p.principalHash)
    (hnew : s.commandRequests.get? q = none) (hstate : v.state = .awaitingConfirmation)
    (env : Env) (control : Bool) (cfg : Config) :
    p.Shows ((Command.commandTask env (cancelPayload q p.taskId p.principalHash) control).step cfg s)
      { v with state := .cancelled } := by
  obtain ⟨row, hrow, hassigned, hepoch, hlease, hprincipal, hstate', hsequence, hever⟩ := h.task
  have hrowstate : row.state = .awaitingConfirmation := hstate'.trans hstate
  have htakes : (Command.commandTask env (cancelPayload q p.taskId p.principalHash)
      control).TakesBranch cfg s p.taskId .cancelAwaiting := by
    refine ⟨_, _, _, _, row, rfl, commandRequest_cancel hq, hnew, ?_, rfl⟩
    simp only [commandBranch, hrow, orRaise_some, ok_bind, ensure_bind_of hprincipal, cancelBranch,
      hrowstate]
    rfl
  obtain ⟨now, s₁, hs₁, hdesk⟩ := htakes.step fun now => ⟨_, rfl⟩
  have hcred := (commandTask_accounts cfg s env (cancelPayload q p.taskId p.principalHash)
    control).credentials
  generalize Command.step cfg s _ = s' at *
  simp only [applyBranch, pure_eq_ok] at hs₁
  subst hs₁
  have htasks : s'.tasks = s.tasks.update p.taskId (dismissedTask now) := congrArg Desk.tasks hdesk
  have hrunners : s'.runners = s.runners := congrArg Desk.runners hdesk
  have hleases : s'.leases = s.leases := congrArg Desk.leases hdesk
  have hmessages : s'.messages = s.messages := congrArg Desk.messages hdesk
  refine ⟨⟨dismissedTask now row, by simp [htasks, hrow], hassigned, hepoch, hlease, hprincipal,
    rfl, hsequence, hever⟩, hrunners ▸ h.runner, hleases ▸ h.lease, ?_, hmessages ▸ h.log⟩
  obtain ⟨runner, hrun, hen, _⟩ := h.runner
  exact verifyCredential_congr h.credential hcred (hrunners ▸ hrun) (by rw [hen]; decide)

end Shows

/-! ## A Runner with a task -/

/-- The configuration of the runs that serve as examples. -/
def sampleConfig : Config := ⟨30, 120, 60, 3600, by decide, by decide, by decide, by decide⟩

/-- A call at the start of 2026 whose random bytes are all `n`. -/
def sampleEnv (n : UInt8) : Env :=
  { clock := fun _ => 1767225600000000, tokenBytes := fun _ k => Vector.replicate k n }

def sampleRunner : String := (sampleEnv 0).fresh 0 "RN" 16

def sampleLease : String := (sampleEnv 0).fresh 0 "LS" 12

def sampleCredential : Json := .str ((sampleEnv 0).fresh 0 "CRED" 24)

def sampleTask : String := newTaskId "start-01"

def samplePrincipal : String := "sha256:" ++ String.ofList (List.replicate 64 'a')

/-- The Runner enrolls and is enabled. -/
def enrollCalls : List Command :=
  [.createEnrollment (sampleEnv 0) [("display_name", .str "runner"), ("os", .str "linux"),
      ("arch", .str "amd64"), ("labels", .arr []), ("allowed_projects", .arr [.str "site"]),
      ("max_concurrency", .int 1), ("request_id", .str "enroll-1")],
    .redeemEnrollment (sampleEnv 0) [("token", .str ((sampleEnv 0).fresh 2 "ENROLL" 24)),
      ("runner_id", .str sampleRunner), ("protocol_version", .int 2), ("agent_version", .str "1"),
      ("codex_version", .str "1"), ("os", .str "linux"), ("arch", .str "amd64"),
      ("capabilities", .arr []), ("projects", .arr [.str "site"]), ("labels", .arr []),
      ("policy_revision", .int 1), ("self_check", .obj [("ok", .bool true)])],
    .updateRunner (sampleEnv 0) (.str sampleRunner) [("admin_state", .str "enabled"),
      ("revision", .int 2), ("request_id", .str "enable-1")]]

/-- A heartbeat of the Runner. -/
def samplePulse (sequence : ℕ) (work : WorkState) : Pulse :=
  ⟨sampleRunner, sequence, work, "linux", "amd64", 1, "2026-01-01T00:00:00+00:00",
    "2026-01-01T00:30:00+00:00"⟩

def pulseCall (sequence : ℕ) (work : WorkState) : Command :=
  .heartbeat (sampleEnv 0) (withDigest (heartbeatDocument (samplePulse sequence work)))
    sampleCredential

/-- The owner starts a task and the Runner is assigned it. -/
def startCalls : List Command :=
  [.createWorkTask (sampleEnv 0) [("version", .int 2), ("request_id", .str "start-01"),
      ("operation", .str "start"), ("source", ownerSource samplePrincipal),
      ("project_alias", .str "site"), ("instruction", .str "build")],
    .claimNext (sampleEnv 0)]

def sampleCalls : List Call := (enrollCalls ++ pulseCall 1 .idle :: startCalls).map .command

/-- An enrolled Runner that is online and has been assigned a task. -/
def sampleStore : Store := runFrom (Call.step sampleConfig) Store.empty sampleCalls

/-- A property that holds throughout a run which continues the sample run holds at its end. -/
theorem last_of_sample {P : Store → Prop} {calls : List Call}
    (h : Throughout (Call.step sampleConfig) P Store.empty (sampleCalls ++ calls)) :
    P (runFrom (Call.step sampleConfig) sampleStore calls) := by
  have hlast := h.last
  rwa [runFrom_append] at hlast

def enrolledStore : Store := runFrom (Command.step sampleConfig) Store.empty enrollCalls

theorem enrolledStore_facts :
    verifyCredential enrolledStore (.str sampleRunner) sampleCredential = .ok () ∧
      (enrolledStore.runners.get? sampleRunner).any fun r => r.os = "linux" ∧ r.arch = "amd64" ∧
        r.policyRevision = 1 ∧ r.heartbeatSequence = 0 := by
  decide +kernel

theorem sample_timely (n : UInt8) :
    Timely (sampleEnv n) "2026-01-01T00:00:00+00:00" "2026-01-01T00:30:00+00:00" := by
  refine ⟨1767225600000000, 1767227400000000, ?_, ?_, by decide, by decide, ?_⟩
  · decide
  · decide
  · show (1767225600000000 : ℤ) < 1767227400000000
    decide

theorem samplePulse_valid (sequence : ℕ) (h : 1 ≤ sequence) (work : WorkState) :
    (samplePulse sequence work).Valid (sampleEnv 0) :=
  ⟨fresh_runnerIdRe (sampleEnv 0) 0, h, rfl, rfl, sample_timely 0⟩

theorem sampleStore_eq : sampleStore = runFrom (Command.step sampleConfig)
    (enrolledStore.setRunner sampleRunner
      (heartbeatRow 1767225600000000 (samplePulse 1 .idle).message "1" none)) startCalls := by
  obtain ⟨hcred, hrow⟩ := enrolledStore_facts
  rw [Option.any_eq_true] at hrow
  obtain ⟨row, hget, hfields⟩ := hrow
  simp only [decide_eq_true_eq] at hfields
  obtain ⟨hos, harch, hpolicy, hseq⟩ := hfields
  have hsize : pairsBound (heartbeatDocument (samplePulse 1 .idle)) ≤ 7000 := by decide
  have hpulse := heartbeat_step sampleConfig (samplePulse_valid 1 le_rfl .idle) hsize hcred
    hget (by rw [hseq]; decide) (by decide) hos harch hpolicy
  have hmap : ∀ (s : Store) (cs : List Command),
      runFrom (Call.step sampleConfig) s (cs.map .command) = runFrom (Command.step sampleConfig) s cs := by
    intro s cs
    induction cs generalizing s with
    | nil => rfl
    | cons c cs ih => exact ih _
  rw [sampleStore, sampleCalls, hmap, runFrom_append, runFrom_cons]
  exact congrArg (fun s => runFrom (Command.step sampleConfig) s startCalls) hpulse

/-- The tables of the sample store. -/
theorem sampleStore_facts :
    ((sampleStore.tasks.get? sampleTask).any fun t => t.state = .leased ∧
      t.assignedRunnerId = some sampleRunner ∧ t.assignmentEpoch = 1 ∧ t.sequence = 1 ∧
      t.leaseId = some sampleLease ∧ t.everRunning = false ∧ t.principalHash = samplePrincipal) ∧
    ((sampleStore.runners.get? sampleRunner).any fun r => r.adminState = .enabled ∧
      r.currentTaskId = some sampleTask ∧ r.workState = .busy ∧ r.os = "linux" ∧
      r.arch = "amd64" ∧ r.policyRevision = 1 ∧ r.heartbeatSequence = 1 ∧
      r.relayConnected = true ∧ r.lastHeartbeatAt = some 1767225600000000) ∧
    ((sampleStore.leases.get? sampleLease).any fun l => l.taskId = sampleTask ∧
      l.runnerId = sampleRunner ∧ l.assignmentEpoch = 1 ∧ l.state = .active) ∧
    sampleStore.messages.rows.isEmpty ∧
    sampleStore.commandRequests.rows.map (·.requestId) = ["start-01"] ∧
    verifyCredential sampleStore (.str sampleRunner) sampleCredential = .ok () := by
  rw [sampleStore_eq]
  decide +kernel

theorem sampleStore_commandRequests {q : String} (h : q ≠ "start-01") :
    sampleStore.commandRequests.get? q = none := by
  obtain ⟨_, _, _, _, hids, _⟩ := sampleStore_facts
  have hids : sampleStore.commandRequests.rows.map CommandRequestRow.requestId = ["start-01"] := hids
  rw [Table.get?_eq_none, hids, List.mem_singleton]
  exact h

/-- The pair of the sample store. -/
def samplePair : Pair :=
  ⟨sampleRunner, sampleTask, sampleLease, 1, samplePrincipal, sampleCredential⟩

theorem sampleStore_shows : samplePair.Shows sampleStore
    ⟨.leased, 1, false, ⟨some samplePair.taskId, .busy⟩, .active⟩ := by
  obtain ⟨htask, hrunner, hlease, hlog, _, hcred⟩ := sampleStore_facts
  simp only [Option.any_eq_true, decide_eq_true_eq] at htask hrunner hlease
  obtain ⟨task, hget, hstate, hassigned, hepoch, hseq, hleaseId, hever, hprincipal⟩ := htask
  obtain ⟨runner, hrun, hen, hcur, hwork, hos, harch, hpolicy, hseq', hconnected, hlast⟩ := hrunner
  obtain ⟨lease, hl, htaskId, hholder, hepoch', hactive⟩ := hlease
  refine ⟨⟨task, hget, hassigned, hepoch, hleaseId, hprincipal, hstate, hseq, hever⟩,
    ⟨runner, hrun, hen, ⟨by simp [RunnerRow.link, hconnected, hlast], hos, harch, hpolicy, hseq'⟩,
      by simp [RunnerRow.seat, hcur, hwork, samplePair]⟩,
    ⟨lease, hl, htaskId, hholder, hepoch', hactive⟩, hcred, ?_⟩
  intro k msg hmsg
  have hmem := Table.mem_of_get? hmsg
  rw [List.isEmpty_iff.mp hlog] at hmem
  cases hmem

theorem sampleCover_valid (h : 1 ≤ n) : (samplePair.cover n).Valid (sampleEnv 0) :=
  ⟨fresh_runnerIdRe (sampleEnv 0) 0, newTaskId_taskIdRe "start-01", le_rfl, h, sample_timely 0⟩

theorem sampleReport_valid (state : TaskState) (h : state ∈ resultStates) :
    Report.Valid ⟨state, "done", samplePrincipal⟩ :=
  ⟨h, (by decide : strip "done" ≠ "" ∧ "done".length ≤ 6000),
    (by decide : "done".toList.any isBadControl = false),
    (by decide : sha256Re samplePrincipal = true)⟩

/-- A status of the sample pair. -/
def sampleStatus (n : ℕ) (state : TaskState) : Call :=
  .message .status (sampleEnv 0) (withDigest (statusDocument (samplePair.cover n) state "codex"))
    sampleCredential

/-- A result of the sample pair. -/
def sampleResult (n : ℕ) (state : TaskState) : Call :=
  .message .result (sampleEnv 0)
    (withDigest (resultDocument (samplePair.cover n) ⟨state, "done", samplePrincipal⟩))
    sampleCredential

/-- The owner cancels the sample task. -/
def sampleCancel : Call :=
  .command (.commandTask (sampleEnv 0) (cancelPayload "cancel-1" sampleTask samplePrincipal) true)

theorem sampleNamed (q : String) (h : requestIdRe q) : Named q sampleTask samplePrincipal :=
  ⟨h, newTaskId_taskIdRe "start-01", by decide⟩

theorem sampleDocuments_small : ∀ n ∈ [2, 3],
    (∀ state ∈ statusStates,
      pairsBound (statusDocument (samplePair.cover n) state "codex") ≤ 7000) ∧
    (∀ state ∈ resultStates,
      pairsBound (resultCore (samplePair.cover n) ⟨state, "done", samplePrincipal⟩) ≤ 6000) := by
  decide +kernel

theorem sampleResult_small : ∀ n ∈ [2, 3], ∀ state ∈ resultStates,
    pairsBound (resultDocument (samplePair.cover n) ⟨state, "done", samplePrincipal⟩) ≤ 7000 := by
  intro n hn state hstate
  have hdigest := digest_length (.obj (resultCore (samplePair.cover n) ⟨state, "done", samplePrincipal⟩))
  have hcore := (sampleDocuments_small n hn).2 state hstate
  have happ : resultDocument (samplePair.cover n) ⟨state, "done", samplePrincipal⟩ =
      resultCore (samplePair.cover n) ⟨state, "done", samplePrincipal⟩ ++ [("result_hash",
        .str (digest (.obj (resultCore (samplePair.cover n) ⟨state, "done", samplePrincipal⟩))))] := rfl
  have hkey : "result_hash".length = 11 := rfl
  rw [happ, pairsBound_append]
  simp only [pairsBound, Json.dumpBound, hdigest, hkey]
  omega

variable {v : View}

/-- After a status of the sample pair. -/
theorem Pair.Shows.sampleStatus (h : samplePair.Shows s v) (n : ℕ) (state : TaskState)
    (hn : n ∈ [2, 3]) (hstate : state ∈ statusStates) (hseq : v.sequence < n)
    (him : v.state ≠ .recoveryRequired) :
    samplePair.Shows ((Runner.sampleStatus n state).step sampleConfig s)
      (v.afterStatus samplePair.taskId n state) := by
  have hpos : 1 ≤ n ∧ n < 2 ^ 63 := by
    simp only [List.mem_cons, List.not_mem_nil, or_false] at hn
    obtain rfl | rfl := hn <;> decide
  exact (h.status (sampleCover_valid hpos.1) state hstate "codex" rfl ((sampleDocuments_small n hn).1 state hstate)
    ⟨by decide, hpos.2⟩ hseq him sampleConfig).2

/-- After a result of the sample pair. -/
theorem Pair.Shows.sampleResult (h : samplePair.Shows s v) (n : ℕ) (state : TaskState)
    (hn : n ∈ [2, 3]) (hstate : state ∈ resultStates) (hseq : v.sequence < n)
    (him : immutableFor .result v.state = false) :
    samplePair.Shows ((Runner.sampleResult n state).step sampleConfig s)
      (v.afterResult samplePair.taskId n state) := by
  have hpos : 1 ≤ n ∧ n < 2 ^ 63 := by
    simp only [List.mem_cons, List.not_mem_nil, or_false] at hn
    obtain rfl | rfl := hn <;> decide
  exact (h.result (sampleCover_valid hpos.1) (sampleReport_valid state hstate)
    (sampleResult_small n hn state hstate) ⟨by decide, hpos.2⟩ hseq him sampleConfig).2

/-- After the cancellation of the sample task in `awaiting_confirmation`. -/
theorem Pair.Shows.sampleCancel (h : samplePair.Shows s v)
    (hnew : s.commandRequests.get? "cancel-1" = none) (hstate : v.state = .awaitingConfirmation) :
    samplePair.Shows (Runner.sampleCancel.step sampleConfig s) { v with state := .cancelled } :=
  h.cancel (sampleNamed "cancel-1" (by decide)) hnew hstate (sampleEnv 0) true sampleConfig

theorem sampleStore_reachable : Reachable sampleConfig sampleStore := ⟨sampleCalls, rfl⟩

/-- A reachable store whose task was cancelled in `awaiting_confirmation`. -/
theorem sample_cancelled : ∃ s, Reachable sampleConfig s ∧
    samplePair.Shows s ⟨.cancelled, 2, false, ⟨some samplePair.taskId, .busy⟩, .active⟩ := by
  have hstatus := sampleStore_shows.sampleStatus 2 .awaitingConfirmation
    (by decide) (by decide) (by decide) (by decide)
  refine ⟨_, (sampleStore_reachable.next (Call.step sampleConfig) _).next (Call.step sampleConfig) _,
    hstatus.sampleCancel ?_ rfl⟩
  rw [Runner.sampleStatus, message_commandRequests]
  exact sampleStore_commandRequests (by decide)

end HomeAddons.Runner
