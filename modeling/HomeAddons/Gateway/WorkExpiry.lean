import HomeAddons.Gateway.Buildable
import HomeAddons.Gateway.Convergence

/-!
# Weixin Gateway: when Remote Work expires

A task keeps the text of its `expires_at`, a local time with its offset, and the sweep compares it
with the text of the time in UTC. The outbox is published without a look at the documents: only the
state of their tasks counts, which the sweep changes while they wait or are queued.

* `publishPending`: `publish_pending`, with the time of every turn.
* `ttl_exact_iff`: when the sweep expires a task in time, and when nothing is published late.
-/

namespace HomeAddons.Gateway.RemoteWork

open HomeAddons.Common WorkCommands

/-! ## Publishing -/

/-- One turn of the loop: how long after the sweep it publishes, whether the publication is
    confirmed, and the time of the mark. -/
structure Turn where
  delay : ℕ
  published : Bool
  now : String

namespace WorkStore

variable (s : WorkStore)

/-- `o.state IN ('pending','failed') AND t.state!='expired'`. -/
def isOutstanding (row : OutboxRow) : Bool :=
  (row.state = .pending ∨ row.state = .failed) ∧
    (s.tasks.get? row.taskId).any fun t => t.state ≠ .expired

/-- `ORDER BY o.created_at LIMIT ?`. -/
def firstCreated (limit : ℕ) (rows : List OutboxRow) : List OutboxRow :=
  (rows.insertionSort fun a b => a.createdAt ≤ b.createdAt).take limit

/-- `remote_work_pending_outbox(limit)`. -/
def remoteWorkPendingOutbox (limit : ℕ) (now : String) : WorkStore × List OutboxRow :=
  let s := s.expireRemoteWorkTasks now
  (s, firstCreated limit (s.outbox.rows.filter s.isOutstanding))

/-- What becomes of a row after its turn. -/
def publishTurn (row : OutboxRow) (turn : Turn) : WorkStore :=
  s.markRemoteWorkOutbox row.messageId turn.published
    (if turn.published then none else some "mqtt_publish_failed") turn.now

/-- `publish_pending()`: the next state, and what is published in which turn. -/
def publishPending (now : String) (turns : List Turn) : WorkStore × List (OutboxRow × Turn) :=
  let (s, rows) := s.remoteWorkPendingOutbox 50 now
  ((rows.zip turns).foldl (fun s p => s.publishTurn p.1 p.2) s, rows.zip turns)

end WorkStore

/-- What happens to the tables; the times of a sweep and of a publication are instants. -/
inductive ExpiryOp where
  | enqueue (c : WorkStore.Command) (now : String)
  | receive (m : Message) (now : String)
  | settle (identifier : String) (sent : Bool) (errorCode : Option String)
  | sweep (now : Instant)
  | publish (now : Instant) (turns : List Turn)

def expiryStep (s : WorkStore) : ExpiryOp → WorkStore
  | .enqueue c now => step s (.enqueue c now)
  | .receive m now => step s (.receive m now)
  | .settle identifier sent errorCode => step s (.markReply identifier sent errorCode)
  | .sweep now => step s (.expire (isoformat now))
  | .publish now turns => (s.publishPending (isoformat now) turns).1

/-! ## Documents and their expiry -/

/-- A local time in the years of `datetime`, and its offset in minutes. -/
structure Stamp where
  offset : ℤ
  wall : ℤ
  inRange : offset.natAbs < 1440 ∧ inYears wall = true

def Stamp.text (e : Stamp) : String := isoformatAt e.offset e.wall

/-- The instant of a local time. -/
def Stamp.instant (e : Stamp) : ℤ := e.wall - e.offset * 60000000

/-- The document of a row expires at a local time. -/
def OutboxRow.ExpiresAt (row : OutboxRow) (e : Stamp) : Prop :=
  ∃ document : Dict, (Json.obj document).exact = true ∧ (document.map Prod.fst).Nodup ∧
    row.payloadJson = canonical (.obj document) ∧ document.get "expires_at" = .str e.text

/-- A command of which `build_command_document` built the document. -/
def WorkStore.Command.Built (c : WorkStore.Command) : Prop :=
  ∃ command messageId taskId principalHash now offset ttlSeconds topic,
    V1.buildCommandDocument command messageId taskId principalHash now offset ttlSeconds =
      .ok (topic, c.payload) ∧ offset.natAbs < 1440 ∧
      c.isRequest = decide (topic = .request)

/-- The commands were built, and the clock is in the years of `datetime`. -/
def ExpiryOp.Built : ExpiryOp → Prop
  | .enqueue c _ => c.Built
  | .sweep now | .publish now _ => inYears now = true
  | _ => True

theorem Stamp.read (e : Stamp) :
    fromIsoformat e.text = some (e.wall, some (e.offset * 60000000)) :=
  fromIsoformat_isoformatAt e.inRange.2 e.inRange.1

variable {e e' : Stamp} {s s' : WorkStore} {document : Dict} {now : ℤ}

theorem Stamp.text_inj (h : e.text = e'.text) : e = e' := by
  have hread := e.read
  rw [h, e'.read] at hread
  simp only [Option.some.injEq, Prod.mk.injEq] at hread
  obtain ⟨offset, wall, hin⟩ := e
  obtain ⟨offset', wall', hin'⟩ := e'
  obtain ⟨rfl, hoffset⟩ := hread
  obtain rfl : offset' = offset := by
    dsimp only at hoffset
    omega
  rfl

/-- A row has one time at which it expires. -/
theorem OutboxRow.ExpiresAt.unique {row : OutboxRow} (h : row.ExpiresAt e) (h' : row.ExpiresAt e') :
    e = e' := by
  obtain ⟨document, hexact, hnodup, hjson, hexpires⟩ := h
  obtain ⟨document', hexact', hnodup', hjson', hexpires'⟩ := h'
  have hsame : (Json.obj document).Same (.obj document') :=
    canonical_inj hexact hexact' (hjson.symm.trans hjson')
  have hfield := hsame.get hnodup hnodup' "expires_at"
  rw [hexpires, hexpires'] at hfield
  exact Stamp.text_inj (Json.Same.str hfield)

/-! ## What stays of the tables -/

namespace WorkStore

/-- The tasks and the times at which they expire. -/
def dates (s : WorkStore) : List (String × String) :=
  s.tasks.rows.map fun t => (t.taskId, t.expiresAt)

/-- What the outbox says. -/
def documents (s : WorkStore) : List (String × String × String) :=
  s.outbox.rows.map fun row => (row.taskId, row.topic, row.payloadJson)

/-- No task and no document is new, and none is another than before. -/
def SameDates (s s' : WorkStore) : Prop := s'.dates = s.dates ∧ s'.documents = s.documents

end WorkStore

def OutboxRow.isRequest (row : OutboxRow) : Bool := row.topic = "home/codex-work/v1/request"

/-- Every task and every document expires at a local time, a request at the one of its task. -/
structure WorkStore.Dated (s : WorkStore) : Prop where
  task : ∀ t ∈ s.tasks.rows, ∃ e : Stamp, t.expiresAt = e.text
  document : ∀ row ∈ s.outbox.rows, ∃ e : Stamp, row.ExpiresAt e ∧
    (row.isRequest = true → ∃ t ∈ s.tasks.rows, t.taskId = row.taskId ∧ t.expiresAt = e.text)

theorem WorkStore.SameDates.refl (s : WorkStore) : s.SameDates s := ⟨rfl, rfl⟩

theorem WorkStore.SameDates.trans {s'' : WorkStore} (h : s.SameDates s') (h' : s'.SameDates s'') :
    s.SameDates s'' := ⟨h'.1.trans h.1, h'.2.trans h.2⟩

theorem WorkStore.dated_empty : WorkStore.empty.Dated where
  task := fun _ ht => by cases ht
  document := fun _ hrow => by cases hrow

theorem WorkStore.SameDates.task (h : s.SameDates s') {t : RemoteTask} (ht : t ∈ s.tasks.rows) :
    ∃ t' ∈ s'.tasks.rows, t'.taskId = t.taskId ∧ t'.expiresAt = t.expiresAt := by
  have hmem : (t.taskId, t.expiresAt) ∈ s'.dates := h.1 ▸ List.mem_map_of_mem ht
  obtain ⟨t', ht', heq⟩ := List.mem_map.mp hmem
  rw [Prod.mk.injEq] at heq
  exact ⟨t', ht', heq⟩

theorem WorkStore.SameDates.symm (h : s.SameDates s') : s'.SameDates s :=
  ⟨h.1.symm, h.2.symm⟩

/-- What keeps the documents keeps their times. -/
theorem WorkStore.Dated.of_sameDates (hs : s.Dated) (h : s.SameDates s') :
    s'.Dated where
  task := by
    intro t' ht'
    obtain ⟨t, ht, -, hexpires⟩ := h.symm.task ht'
    obtain ⟨e, he⟩ := hs.task t ht
    exact ⟨e, hexpires.symm.trans he⟩
  document := by
    intro row' hrow'
    have hmem : (row'.taskId, row'.topic, row'.payloadJson) ∈ s.documents :=
      h.2 ▸ List.mem_map_of_mem hrow'
    obtain ⟨row, hrow, heq⟩ := List.mem_map.mp hmem
    simp only [Prod.mk.injEq] at heq
    obtain ⟨htask, htopic, hjson⟩ := heq
    obtain ⟨e, hexpires, hrequest⟩ := hs.document row hrow
    refine ⟨e, ?_, fun hr => ?_⟩
    · unfold OutboxRow.ExpiresAt at hexpires ⊢
      rwa [← hjson]
    · have hr' : row.isRequest = true := by
        unfold OutboxRow.isRequest at hr ⊢
        rwa [htopic]
      obtain ⟨t, ht, hid, hdate⟩ := hrequest hr'
      obtain ⟨t', ht', hid', hdate'⟩ := h.task ht
      exact ⟨t', ht', hid'.trans (hid.trans htask), hdate'.trans hdate⟩

/-! ## What every step does -/

section

variable {s s' : WorkStore}

theorem sameDates_expire (s : WorkStore) (now : String) :
    s.SameDates (s.expireRemoteWorkTasks now) :=
  ⟨Table.map_rows_updateWhere s.tasks _ _ (by intro _; rfl) _ fun _ => rfl, rfl⟩

theorem sameDates_markReply (s : WorkStore) (identifier : String) (sent : Bool)
    (errorCode : Option String) : s.SameDates (s.markRemoteWorkReply identifier sent errorCode) :=
  ⟨rfl, rfl⟩

theorem sameDates_publishTurn (s : WorkStore) (row : OutboxRow) (turn : Turn) :
    s.SameDates (s.publishTurn row turn) :=
  ⟨rfl, Table.map_rows_updateWhere s.outbox _ _ (by intro _; rfl) _ fun _ => rfl⟩

theorem sameDates_publishPending (s : WorkStore) (now : String) (turns : List Turn) :
    s.SameDates (s.publishPending now turns).1 := by
  have hturns : ∀ (ps : List (OutboxRow × Turn)) (s : WorkStore),
      s.SameDates (ps.foldl (fun s p => s.publishTurn p.1 p.2) s) := by
    intro ps
    induction ps with
    | nil => exact WorkStore.SameDates.refl
    | cons p ps ih => exact fun s => (sameDates_publishTurn s p.1 p.2).trans (ih _)
  exact (sameDates_expire s now).trans (hturns _ _)

variable {now : String} {r : Receipt}

theorem sameDates_recordTaskEvent {topic : Topic} {head : Head} {payload : Dict}
    (h : s.recordTaskEvent now topic head payload = .ok (s', r)) : s.SameDates s' := by
  unfold WorkStore.recordTaskEvent at h
  simp only [bind_eq_ok, orRaise_eq_ok] at h
  obtain ⟨task, -, h⟩ := h
  cases hat : s.eventAt topic head.taskId head.runSeq head.sequence with
  | some existing =>
    simp only [hat, bind_eq_ok, pure_eq_ok] at h
    obtain ⟨-, -, h⟩ := h
    cases h
    exact .refl s
  | none =>
    simp only [hat] at h
    split_ifs at h
    · rw [pure_eq_ok] at h
      cases h
      exact .refl s
    · rw [pure_eq_ok] at h
      cases h
      exact .refl s
    · simp only [bind_eq_ok, pure_eq_ok] at h
      obtain ⟨-, -, events, -, h⟩ := h
      cases h
      exact ⟨Table.map_rows_updateWhere s.tasks _ _ (by intro _; rfl) _ fun _ => rfl, rfl⟩

theorem sameDates_work {m : Message} (h : work s now m = .ok (s', r)) : s.SameDates s' := by
  unfold work at h
  simp only [bind_eq_ok] at h
  obtain ⟨-, -, -, -, payload, -, h⟩ := h
  unfold WorkStore.recordRemoteWorkEvent at h
  split at h
  · obtain rfl : (s.recordAgent payload).1 = s' := congrArg Prod.fst (Except.ok.inj h)
    unfold WorkStore.recordAgent
    dsimp only
    split_ifs <;> exact ⟨rfl, rfl⟩
  · simp only [bind_eq_ok] at h
    obtain ⟨head, -, h⟩ := h
    exact sameDates_recordTaskEvent h
  · cases h

theorem sameDates_receive (s : WorkStore) (m : Message) (now : String) :
    s.SameDates (step s (.receive m now)) := by
  cases hrun : work s now m with
  | error e =>
    rw [step_receive_error hrun]
    exact .refl s
  | ok result =>
    obtain ⟨s', r⟩ := result
    rw [step_receive_ok hrun]
    exact sameDates_work hrun

/-- A command is known, or its document is new: a request creates its task with it. -/
theorem enqueue_cases {c : WorkStore.Command} {t : RemoteTask} {known : Bool}
    (h : s.enqueueRemoteWorkCommand c now = .ok (s', t, known)) :
    s' = s ∨ ∃ identifier taskId outbox, s.outbox.insert? {
        messageId := identifier
        taskId := taskId
        topic := c.topic
        payloadJson := canonical (.obj c.payload)
        payloadDigest := payloadDigest c.payload
        createdAt := now } = some outbox ∧ s'.outbox = outbox ∧
      ((c.isRequest = false ∧ s'.tasks = s.tasks) ∨
        (c.isRequest = true ∧ s.tasks.insert? (c.task now identifier taskId) = some s'.tasks)) := by
  unfold WorkStore.enqueueRemoteWorkCommand at h
  simp only [bind_eq_ok, orRaise_eq_ok] at h
  obtain ⟨identifier, -, taskId, -, h⟩ := h
  split at h
  · simp only [bind_eq_ok, pure_eq_ok] at h
    obtain ⟨_, _, _, _, h⟩ := h
    cases h
    exact .inl rfl
  · simp only [bind_eq_ok, pure_eq_ok, orRaise_eq_ok] at h
    obtain ⟨tasks, htasks, outbox, houtbox, _, _, h⟩ := h
    cases h
    refine .inr ⟨identifier, taskId, outbox, houtbox, rfl, ?_⟩
    unfold WorkStore.commandTask at htasks
    split at htasks
    · cases htasks
    · rename_i hrequest _
      simp only [bind_eq_ok, orRaise_eq_ok] at htasks
      obtain ⟨-, -, hinsert⟩ := htasks
      exact .inr ⟨hrequest, hinsert⟩
    · cases htasks
    · rename_i hrequest _
      simp only [bind_eq_ok, pure_eq_ok] at htasks
      obtain ⟨-, -, -, -, -, -, rfl⟩ := htasks
      exact .inl ⟨hrequest, rfl⟩

end

/-! ## Built documents -/

theorem validateOutgoingDocument_ok {topic : V1.CommandTopic} {payload : Dict}
    (h : V1.validateOutgoingDocument topic payload = .ok document) : document = payload := by
  unfold V1.validateOutgoingDocument at h
  cases topic with
  | request =>
    simp only [bind_eq_ok, pure_eq_ok] at h
    obtain ⟨_, _, _, _, _, _, _, _, _, _, _, _, _, _, _, _, _, _, h⟩ := h
    exact h.symm
  | control =>
    simp only [bind_eq_ok] at h
    obtain ⟨_, _, _, _, _, _, _, _, _, _, _, _, _, _, h⟩ := h
    split_ifs at h
    · obtain ⟨_, _, h⟩ := bind_eq_ok.mp h
      exact (pure_eq_ok.mp h).symm
    · obtain ⟨_, _, h⟩ := bind_eq_ok.mp h
      exact (pure_eq_ok.mp h).symm

theorem exact_optionalText (text : Option String) : (optionalText text).exact = true := by
  cases text <;> rfl

/-- A built document is written without loss, and says when it expires. -/
theorem commandDocument_facts (command : WorkCommand)
    (messageId taskId principalHash created expires : String)
    (h : V1.commandDocument command messageId taskId principalHash created expires = document) :
    (Json.obj document).exact = true ∧ (document.map Prod.fst).Nodup ∧
      document.get "expires_at" = .str expires := by
  have hproject := exact_optionalText command.projectAlias
  have hinstruction := exact_optionalText command.instruction
  have hrequest : V1.requestFields.Nodup := by decide
  have hcontrol : V1.controlFields.Nodup := by decide
  have hcontinue : (V1.controlFields ++ ["instruction"]).Nodup := by decide
  subst h
  unfold V1.commandDocument
  cases command.operation with
  | start =>
    refine ⟨?_, hrequest, rfl⟩
    simp only [Json.exact, exactPairs, hproject, hinstruction, Bool.and_self]
  | status => exact ⟨rfl, hcontrol, rfl⟩
  | cancel => exact ⟨rfl, hcontrol, rfl⟩
  | «continue» =>
    refine ⟨?_, hcontinue, rfl⟩
    simp only [List.cons_append, List.nil_append, if_true, Json.exact, exactPairs, hinstruction,
      Bool.and_self]

theorem WorkStore.Command.Built.expires {c : WorkStore.Command} (h : c.Built) :
    ∃ e : Stamp, (Json.obj c.payload).exact = true ∧ (c.payload.map Prod.fst).Nodup ∧
      c.payload.get "expires_at" = .str e.text := by
  obtain ⟨command, messageId, taskId, principalHash, now, offset, ttlSeconds, topic, hbuilt,
    hoffset, -⟩ := h
  unfold V1.buildCommandDocument at hbuilt
  simp only [bind_eq_ok, ensure_eq_ok] at hbuilt
  obtain ⟨-, hyears, -, -, hbuilt⟩ := hbuilt
  split at hbuilt
  · rename_i document hdocument
    cases hbuilt
    have hpayload := validateOutgoingDocument_ok hdocument
    exact ⟨⟨offset, now + ttlSeconds * 1000000, hoffset, hyears⟩,
      commandDocument_facts command messageId taskId principalHash _ _ hpayload.symm⟩
  · cases hbuilt

theorem WorkStore.Dated.enqueue {s : WorkStore} (hs : s.Dated) {c : WorkStore.Command}
    (hbuilt : c.Built) (now : String) : (RemoteWork.step s (.enqueue c now)).Dated := by
  cases hrun : s.enqueueRemoteWorkCommand c now with
  | error e =>
    rw [step_enqueue_error hrun]
    exact hs
  | ok result =>
    obtain ⟨s', t, known⟩ := result
    rw [step_enqueue_ok hrun]
    obtain rfl | ⟨identifier, taskId, outbox, hinsert, rfl, htasks⟩ := enqueue_cases hrun
    · exact hs
    obtain ⟨e, hexact, hnodup, hexpires⟩ := hbuilt.expires
    have hdate : (c.task now identifier taskId).expiresAt = e.text := by
      show (c.payload.get "expires_at").asStr?.getD "" = _
      rw [hexpires]
      rfl
    have hkept : ∀ t ∈ s.tasks.rows, t ∈ s'.tasks.rows := by
      intro t ht
      obtain ⟨-, hsame⟩ | ⟨-, htask⟩ := htasks
      · exact hsame ▸ ht
      · rw [Table.rows_insert? htask]
        exact List.mem_append_left _ ht
    constructor
    · intro t ht
      obtain ⟨-, hsame⟩ | ⟨-, htask⟩ := htasks
      · exact hs.task t (hsame ▸ ht)
      · rw [Table.rows_insert? htask, List.mem_append, List.mem_singleton] at ht
        obtain ht | rfl := ht
        · exact hs.task t ht
        · exact ⟨e, hdate⟩
    · intro row hrow
      rw [Table.rows_insert? hinsert, List.mem_append, List.mem_singleton] at hrow
      obtain hrow | rfl := hrow
      · obtain ⟨e, hexpires, hrequest⟩ := hs.document row hrow
        refine ⟨e, hexpires, fun hr => ?_⟩
        obtain ⟨t, ht, hfacts⟩ := hrequest hr
        exact ⟨t, hkept t ht, hfacts⟩
      · refine ⟨e, ⟨c.payload, hexact, hnodup, rfl, hexpires⟩, fun hr => ?_⟩
        obtain ⟨hcontrol, -⟩ | ⟨-, htask⟩ := htasks
        · have htopic : c.topic = "home/codex-work/v1/control" := by
            rw [WorkStore.Command.topic, hcontrol]
            rfl
          have hfalse : decide (c.topic = "home/codex-work/v1/request") = true := hr
          rw [htopic] at hfalse
          exact absurd hfalse (by decide)
        · refine ⟨c.task now identifier taskId, ?_, rfl, hdate⟩
          rw [Table.rows_insert? htask]
          exact List.mem_append_right _ (List.mem_singleton.mpr rfl)

/-- Every step keeps the times of the documents. -/
theorem WorkStore.Dated.step {s : WorkStore} (hs : s.Dated) {op : ExpiryOp} (hbuilt : op.Built) :
    (expiryStep s op).Dated := by
  cases op with
  | enqueue c now => exact hs.enqueue hbuilt now
  | receive m now => exact hs.of_sameDates (sameDates_receive s m now)
  | settle identifier sent errorCode =>
    exact hs.of_sameDates (sameDates_markReply s identifier sent errorCode)
  | sweep now => exact hs.of_sameDates (sameDates_expire s _)
  | publish now turns => exact hs.of_sameDates (sameDates_publishPending s _ turns)

/-! ## Expiry -/

/-- The clock of the task, read as UTC, is not yet past, and the task has expired. -/
def Stamp.Late (e : Stamp) (now : ℤ) : Prop :=
  0 < e.offset ∧ e.instant ≤ now ∧ now ≤ e.wall

/-- The clock of the task, read as UTC, is past, and the task has not expired. -/
def Stamp.Early (e : Stamp) (now : ℤ) : Prop :=
  e.offset < 0 ∧ e.wall < now ∧ now < e.instant

def RemoteTask.isWaiting (t : RemoteTask) : Bool := t.state = .waitingMac ∨ t.state = .queued

namespace WorkStore

variable (s : WorkStore)

/-- The sweep expires the task. -/
def Marks (now : String) (t : RemoteTask) : Prop :=
  t.state ≠ .expired ∧
    ∃ t', (s.expireRemoteWorkTasks now).tasks.get? t.taskId = some t' ∧ t'.state = .expired

/-- The row is the request of a task that waits or is queued. -/
def isWaitingRequest (row : OutboxRow) : Bool :=
  row.isRequest && (s.tasks.get? row.taskId).any RemoteTask.isWaiting

/-- The rows that are next: the first fifty whose task neither is expired nor is to be. -/
def next (now : Instant) : List OutboxRow :=
  firstCreated 50 (s.outbox.rows.filter fun row =>
    (row.state = .pending ∨ row.state = .failed) ∧
      (s.tasks.get? row.taskId).any fun t => t.state ≠ .expired ∧ ¬expires (isoformat now) t)

end WorkStore

/-- A sweep expires the tasks that wait or are queued and have expired, and no document is published
    after its time. -/
def ExpiryOp.Exact (s : WorkStore) : ExpiryOp → Prop
  | .sweep now => ∀ t ∈ s.tasks.rows, ∀ e : Stamp, t.expiresAt = e.text →
      (s.Marks (isoformat now) t ↔
        (t.state = .waitingMac ∨ t.state = .queued) ∧ e.instant ≤ (now : ℤ))
  | .publish now turns => ∀ p ∈ (s.publishPending (isoformat now) turns).2, ∀ e : Stamp,
      p.1.ExpiresAt e → (now : ℤ) + p.2.delay < e.instant
  | _ => True

/-- No task that waits or is queued is looked at while its clock and UTC disagree; what is published
    is the request of such a task or has time left, and none runs out of time before its turn. -/
def ExpiryOp.Timely (s : WorkStore) : ExpiryOp → Prop
  | .sweep now => ∀ t ∈ s.tasks.rows, t.isWaiting = true → ∀ e : Stamp, t.expiresAt = e.text →
      ¬e.Late now ∧ ¬e.Early now
  | .publish now turns => ∀ p ∈ (s.next now).zip turns, ∀ e : Stamp, p.1.ExpiresAt e →
      (if s.isWaitingRequest p.1 then ¬e.Late now else (now : ℤ) < e.instant) ∧
        ¬((now : ℤ) < e.instant ∧ e.instant ≤ now + p.2.delay)
  | _ => True

theorem Stamp.text_le_iff (e : Stamp) (hnow : inYears now = true) :
    e.text ≤ isoformat now ↔ e.wall < now ∨ e.wall = now ∧ e.offset = 0 :=
  isoformatAt_le_iff e.inRange.1 e.inRange.2 hnow

/-- The texts are ordered as the instants are, but for the hours of the offset. -/
theorem Stamp.text_le_iff_instant (e : Stamp) (hnow : inYears now = true) :
    (e.text ≤ isoformat now ↔ e.instant ≤ now) ↔ ¬e.Late now ∧ ¬e.Early now := by
  rw [e.text_le_iff hnow]
  unfold Stamp.Late Stamp.Early Stamp.instant
  grind

section

variable {s : WorkStore} {now : Instant}

theorem WorkStore.marks_iff {t : RemoteTask} (ht : t ∈ s.tasks.rows) (now : String) :
    s.Marks now t ↔ WorkStore.expires now t = true := by
  have hget := @get?_expire s now t.taskId t (Table.mem_rows_iff.mp ht)
  unfold WorkStore.Marks
  rw [hget]
  constructor
  · rintro ⟨hstate, t', ht', hexpired⟩
    by_contra hno
    rw [if_neg hno, Option.some.injEq] at ht'
    exact hstate (ht' ▸ hexpired)
  · intro hexpires
    refine ⟨?_, _, rfl, ?_⟩
    · intro hstate
      have hwaits := (of_decide_eq_true hexpires).1
      rw [hstate] at hwaits
      exact absurd hwaits (by decide)
    · rw [if_pos hexpires]

/-- A sweep is exact when no waiting task is in the hours of its offset. -/
theorem sweep_exact_iff (hnow : inYears now = true) :
    ExpiryOp.Exact s (.sweep now) ↔ ExpiryOp.Timely s (.sweep now) := by
  refine forall₂_congr fun t ht => ?_
  have hmarks := WorkStore.marks_iff ht (isoformat now)
  have hwaiting : t.isWaiting = true ↔ t.state = .waitingMac ∨ t.state = .queued := decide_eq_true_iff
  have hexpires : WorkStore.expires (isoformat now) t = true ↔
      t.isWaiting = true ∧ t.expiresAt ≤ isoformat now := by
    rw [hwaiting]
    exact decide_eq_true_iff
  rw [← hwaiting, hmarks, hexpires]
  constructor
  · intro h hwait e he
    have hiff := h e he
    rw [and_iff_right hwait, and_iff_right hwait, he] at hiff
    exact (e.text_le_iff_instant hnow).mp hiff
  · intro h e he
    refine and_congr_right fun hwait => ?_
    rw [he]
    exact (e.text_le_iff_instant hnow).mpr (h hwait e he)

/-- What the query finds after the sweep is what was to be next before it. -/
theorem remoteWorkPendingOutbox_eq (s : WorkStore) (now : Instant) :
    (s.remoteWorkPendingOutbox 50 (isoformat now)).2 = s.next now := by
  unfold WorkStore.remoteWorkPendingOutbox WorkStore.next
  dsimp only
  congr 2
  funext row
  unfold WorkStore.isOutstanding
  cases hget : s.tasks.get? row.taskId with
  | none =>
    have hnone : (s.expireRemoteWorkTasks (isoformat now)).tasks.get? row.taskId = none := by
      refine (Table.get?_updateWhere s.tasks _ _ (by intro _; rfl) row.taskId).trans ?_
      rw [hget]
      rfl
    rw [hnone]
    rfl
  | some t =>
    rw [get?_expire hget]
    by_cases hexpires : WorkStore.expires (isoformat now) t = true
    · rw [if_pos hexpires]
      simp [hexpires]
    · rw [if_neg hexpires]
      simp [hexpires]

theorem WorkStore.mem_next {row : OutboxRow} (h : row ∈ s.next now) :
    row ∈ s.outbox.rows ∧ ∃ t, s.tasks.get? row.taskId = some t ∧
      ¬WorkStore.expires (isoformat now) t = true := by
  have hmem := List.mem_of_mem_take h
  rw [List.mem_insertionSort, List.mem_filter] at hmem
  obtain ⟨hrow, hnext⟩ := hmem
  obtain ⟨t, hget, hstate⟩ := (Option.any_eq_true _ _).mp (of_decide_eq_true hnext).2
  exact ⟨hrow, t, hget, (of_decide_eq_true hstate).2⟩

/-- What is not expired by its clock is in time, but for the hours of the offset. -/
theorem Stamp.published_iff (e : Stamp) {now : ℤ} (hnow : inYears now = true) (delay : ℕ)
    (hclock : ¬e.text ≤ isoformat now) : now + delay < e.instant ↔
      ¬e.Late now ∧ ¬(now < e.instant ∧ e.instant ≤ now + delay) := by
  rw [e.text_le_iff hnow] at hclock
  unfold Stamp.Late Stamp.instant
  omega

theorem lt_iff_not_reached {now expires : ℤ} (delay : ℕ) :
    now + delay < expires ↔ now < expires ∧ ¬(now < expires ∧ expires ≤ now + delay) := by
  omega

/-- Nothing is published late when the rows that are next are in time. -/
theorem publish_exact_iff (hs : s.Dated) (hnow : inYears now = true) (turns : List Turn) :
    ExpiryOp.Exact s (.publish now turns) ↔ ExpiryOp.Timely s (.publish now turns) := by
  have hpublished : (s.publishPending (isoformat now) turns).2 = (s.next now).zip turns := by
    rw [← remoteWorkPendingOutbox_eq]
    rfl
  unfold ExpiryOp.Exact ExpiryOp.Timely
  dsimp only
  rw [hpublished]
  refine forall₂_congr fun p hp => forall₂_congr fun e he => ?_
  obtain ⟨hrow, t, hget, hexpires⟩ := WorkStore.mem_next (List.of_mem_zip hp).1
  split_ifs with hwaits
  · -- the sweep has looked at the time of the request
    obtain ⟨hrequest, hwaiting⟩ := Bool.and_eq_true_iff.mp hwaits
    rw [hget, Option.any_some] at hwaiting
    obtain ⟨e', he', htask⟩ := hs.document p.1 hrow
    obtain rfl := he'.unique he
    obtain ⟨t', ht', hid, hdate⟩ := htask hrequest
    have hget' := Table.mem_rows_iff.mp ht'
    rw [hid, hget, Option.some.injEq] at hget'
    obtain rfl := hget'
    refine e'.published_iff hnow p.2.delay fun hle => hexpires (decide_eq_true ⟨?_, ?_⟩)
    · exact of_decide_eq_true hwaiting
    · rw [hdate]
      exact hle
  · exact lt_iff_not_reached p.2.delay

end

theorem ExpiryOp.exact_iff (hs : s.Dated) {op : ExpiryOp} (hbuilt : op.Built) :
    op.Exact s ↔ op.Timely s := by
  cases op with
  | sweep now => exact sweep_exact_iff hbuilt
  | publish now turns => exact publish_exact_iff hs hbuilt turns
  | _ => exact Iff.rfl

/-- Whatever was built, received and published before, a sweep is exact and a publication in time
    exactly when the clocks of the tasks and of the documents allow it. -/
theorem ttl_exact_iff {ops : List ExpiryOp} (hbuilt : ∀ op ∈ ops, op.Built) :
    EveryStep expiryStep (fun s op => op.Exact s) .empty ops ↔
      EveryStep expiryStep (fun s op => op.Timely s) .empty ops := by
  have hsteps := everyStep_of_forall expiryStep hbuilt .empty
  have hdated : ∀ (G : WorkStore → ExpiryOp → Prop) s op, s.Dated → (op.Built ∧ G s op) →
      (expiryStep s op).Dated := fun _ s op hs hG => hs.step hG.1
  constructor
  · intro h
    exact ((everyStep_and expiryStep).mpr ⟨hsteps, h⟩).imp expiryStep (hdated _)
      (fun s op hs hG => (ExpiryOp.exact_iff hs hG.1).mp hG.2) WorkStore.dated_empty
  · intro h
    exact ((everyStep_and expiryStep).mpr ⟨hsteps, h⟩).imp expiryStep (hdated _)
      (fun s op hs hG => (ExpiryOp.exact_iff hs hG.1).mpr hG.2) WorkStore.dated_empty

/-! ## A task of a clock ahead of UTC -/

/-- A task of ten minutes, at the beginning of the year 2026 in Shanghai. -/
def sampleWork : WorkCommand where
  operation := .start
  projectAlias := "renovation-hub"
  instruction := String.ofList ['你']

def sampleEnqueue : WorkStore.Command where
  isRequest := true
  payload := V1.commandDocument sampleWork "message-0001" "RW-00000001" sampleDigest
    (isoformatAt 480 63902908800000000) (isoformatAt 480 63902909400000000)
  senderId := "sender"
  userDigest := sampleDigest
  identityId := none
  principalId := none
  registered := true

def sampleStamp : Stamp := ⟨480, 63902909400000000, by decide, by decide +kernel⟩

theorem sampleEnqueue_built : sampleEnqueue.Built := by
  have hword : ∀ c ∈ ['你'], isPySpace c = false := List.forall_mem_singleton.mpr (by decide)
  have hne : ['你'] ≠ [] := List.cons_ne_nil _ _
  have hparsed := V1.parseWorkCommand_taskText hne hword (by decide)
  refine ⟨sampleWork, "message-0001", "RW-00000001", sampleDigest, 63902908800000000, 480, 600,
    .request, ?_, by decide, rfl⟩
  have hbuilds := fun built => @V1.buildCommandDocument_eq_ok _ _ _ _ _ _ _ _
    (parseText_accepted hparsed) (by decide) sampleDelivery built
  refine (hbuilds (.request, sampleEnqueue.payload)).mpr ⟨⟨by decide +kernel, ?_⟩, rfl, rfl⟩
  intro p hp
  rw [spoken_taskText hne hword] at hp
  cases hp
  decide +kernel

/-- The row of the request in the outbox. -/
def sampleRow (now : String) : OutboxRow where
  messageId := "message-0001"
  taskId := "RW-00000001"
  topic := "home/codex-work/v1/request"
  payloadJson := canonical (.obj sampleEnqueue.payload)
  payloadDigest := payloadDigest sampleEnqueue.payload
  createdAt := now

theorem sampleEnqueue_rows (now : String) :
    (expiryStep .empty (.enqueue sampleEnqueue now)).tasks.rows =
        [sampleEnqueue.task now "message-0001" "RW-00000001"] ∧
      (expiryStep .empty (.enqueue sampleEnqueue now)).outbox.rows = [sampleRow now] :=
  ⟨rfl, rfl⟩

theorem sampleTask_expires (now : String) :
    (sampleEnqueue.task now "message-0001" "RW-00000001").expiresAt = sampleStamp.text := rfl

theorem sampleRow_expires (now : String) : (sampleRow now).ExpiresAt sampleStamp := by
  obtain ⟨hexact, hnodup, hexpires⟩ := commandDocument_facts sampleWork "message-0001"
    "RW-00000001" sampleDigest (isoformatAt 480 63902908800000000)
    (isoformatAt 480 63902909400000000) rfl
  exact ⟨_, hexact, hnodup, rfl, hexpires⟩

/-- While its clock, read as UTC, is not past, the request is next. -/
theorem sampleRow_next (created : String) (hnow : inYears now = true)
    (hclock : now ≤ sampleStamp.wall) :
    (expiryStep .empty (.enqueue sampleEnqueue created)).next now = [sampleRow created] := by
  have hexpires : ¬WorkStore.expires (isoformat now)
      (sampleEnqueue.task created "message-0001" "RW-00000001") = true := by
    intro h
    have htext := (of_decide_eq_true h).2
    rw [sampleTask_expires, sampleStamp.text_le_iff hnow] at htext
    obtain hlt | ⟨-, hzero⟩ := htext
    · exact absurd hclock (not_le.mpr hlt)
    · exact absurd hzero (by decide)
  have hget : (expiryStep .empty (.enqueue sampleEnqueue created)).tasks.get?
      (sampleRow created).taskId = some (sampleEnqueue.task created "message-0001" "RW-00000001") :=
    rfl
  have hwaiting : (sampleEnqueue.task created "message-0001" "RW-00000001").state = .waitingMac :=
    rfl
  have hpending : (sampleRow created).state = .pending := rfl
  rw [WorkStore.next, (sampleEnqueue_rows created).2, List.filter_cons_of_pos]
  · rfl
  · simp [hget, hpending, hwaiting, hexpires]

/-- Eight hours ahead of UTC, a task is not expired at its time, and its request is published. -/
theorem zoned_ttl_not_exact :
    (∀ op ∈ [ExpiryOp.enqueue sampleEnqueue "created", .sweep 63902880600000000,
      .publish 63902880600000000 [⟨0, true, "published"⟩]], op.Built) ∧
    ¬EveryStep expiryStep (fun s op => op.Exact s) .empty
      [.enqueue sampleEnqueue "created", .sweep 63902880600000000] ∧
    ¬EveryStep expiryStep (fun s op => op.Exact s) .empty
      [.enqueue sampleEnqueue "created",
        .publish 63902880600000000 [⟨0, true, "published"⟩]] := by
  have hyears : inYears (63902880600000000 : ℤ) = true := by decide +kernel
  have hlate : sampleStamp.Late 63902880600000000 := by
    unfold Stamp.Late Stamp.instant
    decide
  refine ⟨?_, fun h => ?_, fun h => ?_⟩
  · rintro op hop
    simp only [List.mem_cons, List.not_mem_nil, or_false] at hop
    obtain rfl | rfl | rfl := hop
    · exact sampleEnqueue_built
    · exact hyears
    · exact hyears
  · have htimely := (sweep_exact_iff hyears).mp h.2.1 _
      (List.mem_singleton.mpr rfl) rfl sampleStamp (sampleTask_expires "created")
    exact htimely.1 hlate
  · have hdated := @WorkStore.Dated.step _ WorkStore.dated_empty
      (.enqueue sampleEnqueue "created") sampleEnqueue_built
    have htimely := (publish_exact_iff hdated hyears [⟨0, true, "published"⟩]).mp h.2.1
      (sampleRow "created", ⟨0, true, "published"⟩)
    rw [sampleRow_next "created" hyears (by decide)] at htimely
    have hrow := htimely (List.mem_singleton.mpr rfl) sampleStamp (sampleRow_expires "created")
    exact hrow.1 hlate

/-- When its clock, read as UTC, is past, the task is expired. -/
theorem ttl_exact_iff_past : EveryStep expiryStep (fun s op => op.Exact s) .empty
    [.enqueue sampleEnqueue "created",
      .publish 63902880000000000 [⟨0, true, "published"⟩], .sweep 63902909400000001] := by
  have hyears : inYears (63902880000000000 : ℤ) = true := by decide +kernel
  have hyears' : inYears (63902909400000001 : ℤ) = true := by decide +kernel
  refine (ttl_exact_iff ?_).mpr ⟨trivial, ?_, ?_, trivial⟩
  · rintro op hop
    simp only [List.mem_cons, List.not_mem_nil, or_false] at hop
    obtain rfl | rfl | rfl := hop
    · exact sampleEnqueue_built
    · exact hyears
    · exact hyears'
  · intro p hp e he
    rw [sampleRow_next "created" hyears (by decide)] at hp
    obtain rfl := List.mem_singleton.mp hp
    obtain rfl := he.unique (sampleRow_expires "created")
    unfold Stamp.Late Stamp.instant
    decide
  · intro t ht _ e he
    have hsame := (sameDates_publishPending (expiryStep .empty (.enqueue sampleEnqueue "created"))
      (isoformat 63902880000000000) [⟨0, true, "published"⟩]).symm.task ht
    obtain ⟨t', ht', -, hdate⟩ := hsame
    obtain rfl := List.mem_singleton.mp ht'
    obtain rfl := Stamp.text_inj (he.symm.trans (hdate.symm.trans (sampleTask_expires "created")))
    unfold Stamp.Late Stamp.Early
    decide

end HomeAddons.Gateway.RemoteWork
