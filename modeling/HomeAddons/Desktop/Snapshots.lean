import HomeAddons.Common.Retained
import HomeAddons.Desktop.Rows

/-!
# Codex Desktop: snapshots

`DesktopStore.ingest_snapshot` (`desktop_store.py`, lines 87–319). A snapshot of a later revision is
taken; one of the current revision with another body is compared with what is there: it is taken
when it is a refresh, ignored when something newer is there, and rejected otherwise.

* `mappingChanges`, `sameRevisionRefresh`, `legacySequenceRefresh`: the comparisons.
* `verdict`: what becomes of a snapshot of a known thread.
* `ingestSnapshot`: the whole operation.
-/

namespace HomeAddons.Desktop

open HomeAddons.Common
open HomeAddons.Controller (Raise raising)

/-! ## Fields -/

/-- `SAME_REVISION_CONTROL_FIELDS`. -/
def sameRevisionControlFields : List String :=
  ["status", "active_turn_ref", "control_revision", "control_state", "history_incomplete", "turns"]

/-- `SAFETY_DEGRADED_CONTROL_STATES`. -/
def safetyDegradedControlStates : List String :=
  ["load_required", "recovery_required", "protocol_degraded", "control_offline"]

/-- `NON_WRITABLE_CONTROL_STATES`. -/
def nonWritableControlStates : List String :=
  ["load_required", "read_only", "recovery_required", "protocol_degraded", "control_offline"]

/-- `LEGACY_SEQUENCE_ENRICHMENT_FIELDS`. -/
def legacySequenceEnrichmentFields : List String :=
  ["model", "reasoning_effort", "queued_submissions"]

/-- The sets of fields that a snapshot of the same revision and a later sequence may change:
    `queued_submissions` alone, and the fields of the metadata, of the requests, of the permissions
    and of the collaboration mode. -/
def refreshableFields : List (List String) :=
  [["queued_submissions"], ["title", "pinned", "updated_at"], ["pending_requests", "updated_at"],
    ["permission_profile", "updated_at"], ["collaboration_mode", "updated_at"]]

/-! ## Comparing two bodies -/

/-- `set(existing) | set(incoming)`. -/
def fieldsOf (existing incoming : Dict) : List String :=
  existing.map Prod.fst ++ incoming.map Prod.fst

/-- `_mapping_changes(existing, incoming)` (lines 1711–1716). -/
def mappingChanges (existing incoming : Dict) : List String :=
  (fieldsOf existing incoming).filter fun field =>
    !existing.has field || !incoming.has field ||
      !(existing.get field).pyEq (incoming.get field)

/-- The fields that differ when a missing field counts as `None`. -/
def controlChanges (existing incoming : Dict) : List String :=
  (fieldsOf existing incoming).filter fun field =>
    !(existing.get field).pyEq (incoming.get field)

/-- `isinstance(value, int) and not isinstance(value, bool) and value >= 0`. -/
def revision? (value : Json) : Option ℤ :=
  match value with
  | .int n => if 0 ≤ n then some n else none
  | _ => none

/-- `value in STATES`. -/
def inStates (value : Json) (states : List String) : Bool :=
  states.any fun state => value.eqStr state

/-- How a snapshot of the same revision continues the one that is there. -/
inductive Refresh where
  | refreshed | staleIgnored | degradedLatched
  deriving DecidableEq

/-- `changed == names`. -/
def changedAre (changed names : List String) : Bool :=
  changed.all names.contains && names.all changed.contains

/-- `_same_revision_refresh(existing_json, incoming)` (lines 1641–1705). -/
def sameRevisionRefresh (existing incoming : Dict) : Option Refresh :=
  let changed := controlChanges existing incoming
  let unwritable := inStates (existing.get "control_state") nonWritableControlStates &&
    inStates (incoming.get "control_state") nonWritableControlStates
  let nullable := existing.has "control_revision" && incoming.has "control_revision" &&
    (existing.get "control_revision").isNull
  if !changed.all sameRevisionControlFields.contains then none
  else if changed.isEmpty then some .refreshed
  else if (incoming.get "control_revision").isNull then
    if nullable && changedAre changed ["status", "control_state"] && unwritable &&
        (((existing.get "status").eqStr "archived" && (incoming.get "status").eqStr "notLoaded") ||
          ((existing.get "status").eqStr "notLoaded" && (incoming.get "status").eqStr "archived"))
      then some .refreshed
    else if nullable && changedAre changed ["control_state"] && unwritable then some .refreshed
    else if incoming.has "control_revision" &&
        (revision? (existing.get "control_revision")).isSome &&
        inStates (incoming.get "control_state") safetyDegradedControlStates
      then some .degradedLatched
    else none
  else match revision? (incoming.get "control_revision") with
    | none => none
    | some n =>
      if (existing.get "control_revision").isNull then some .refreshed
      else match revision? (existing.get "control_revision") with
        | none => none
        | some m =>
          if n < m then some .staleIgnored else if n = m then none else some .refreshed

/-- `trusted[field] = body[field]` for the fields of a list. -/
def copyFields (trusted body : Dict) (fields : List String) : Dict :=
  fields.foldl (fun d field => d.assign field (body.get field)) trusted

/-- `_legacy_sequence_refresh(existing_json, incoming, host)` (lines 1719–1744). -/
def legacySequenceRefresh (existing incoming host : Dict) : Option Refresh :=
  let capable := ((host.get "capabilities").asList?.getD []).any fun c => c.eqStr "thread_queue_v1"
  let reasoning := ((host.get "capabilities").asList?.getD []).any fun c =>
    c.eqStr "reasoning_effort_v1"
  if !capable || !reasoning || legacySequenceEnrichmentFields.any existing.has ||
      !changedAre (incoming.map Prod.fst)
        (existing.map Prod.fst ++ legacySequenceEnrichmentFields) then none
  else sameRevisionRefresh (copyFields existing incoming legacySequenceEnrichmentFields) incoming

/-! ## The store -/

/-- What `_validate_snapshot` (`desktop_protocol.py`, lines 679–809) leaves of `control_revision`
    and `control_state`: an `int` that is not negative or `None`, and a text of at most 64
    characters. -/
def validControl (body : Dict) : Bool :=
  ((body.get "control_revision").isNull || (revision? (body.get "control_revision")).isSome) &&
    (body.get "control_state").asStr?.any fun state => state.length ≤ 64

/-- A snapshot document. -/
structure SnapshotDoc where
  hostRef : String
  projectRef : String
  threadRef : String
  runnerId : String
  threadRevision : ℕ
  snapshotSequence : Option ℕ
  hostSequence : Option ℕ
  host : Dict
  body : Dict
  bodyDigest : String
  valid : validControl body = true

/-- What becomes of a snapshot: it is ignored, or taken with a sequence and a body. -/
inductive Verdict where
  | ignored
  | taken (sequence : Option ℕ) (body : Dict) (status : Ingested)

/-- `StoreError("desktop_revision_conflict", …)`. -/
def revisionConflict (message : String) : Raise := conflicting "desktop_revision_conflict" message

/-- The body that stays when a snapshot only says that control was lost. -/
def latchedBody (trusted body : Dict) (enriched : Bool) : Dict :=
  (if enriched then copyFields trusted body legacySequenceEnrichmentFields else trusted).assign
    "control_state" (body.get "control_state")

/-- The end of the comparison of two snapshots of one revision (lines 201–224). -/
def refreshVerdict (t : Thread) (d : SnapshotDoc) (sequence : Option ℕ) (enriched : Bool)
    (refresh : Option Refresh) : Except Raise Verdict :=
  match refresh with
  | some .staleIgnored => .ok .ignored
  | some .degradedLatched =>
    .ok (.taken sequence (latchedBody t.snapshot d.body enriched) .degradedLatched)
  | some .refreshed => .ok (.taken sequence d.body .refreshed)
  | none =>
    if Json.sameDump (.obj t.snapshot) (.obj d.body) then .ok (.taken sequence d.body .refreshed)
    else .error (revisionConflict "同一 Desktop Thread revision 出现不同快照")

/-- A snapshot of the current revision with another body (lines 145–224); `row` is the snapshot of
    that revision that is stored. -/
def sameRevisionVerdict (t : Thread) (row : Option Snapshot) (d : SnapshotDoc) :
    Except Raise Verdict :=
  match d.snapshotSequence, t.snapshotSequence with
  | none, existing => refreshVerdict t d existing false (sameRevisionRefresh t.snapshot d.body)
  | some n, none =>
    if row.any fun r => some r.bodyDigest = t.snapshotDigest ∧ r.sourceSequence = none then
      refreshVerdict t d (some n) true (legacySequenceRefresh t.snapshot d.body d.host)
    else refreshVerdict t d (some n) false none
  | some n, some m =>
    if n < m then .ok .ignored
    else if n = m then
      if Json.sameDump (.obj t.snapshot) (.obj d.body) then .ok (.taken (some n) d.body .refreshed)
      else .error (revisionConflict "同一 Desktop snapshot sequence 出现不同快照")
    else
      let changed := mappingChanges t.snapshot d.body
      if !changed.isEmpty && refreshableFields.any fun fields => changed.all fields.contains then
        refreshVerdict t d (some n) false (some .refreshed)
      else refreshVerdict t d (some n) false (sameRevisionRefresh t.snapshot d.body)

/-- What becomes of a snapshot of a known thread (lines 125–224). -/
def verdict (t : Thread) (row : Option Snapshot) (d : SnapshotDoc) : Except Raise Verdict :=
  if d.threadRevision < t.threadRevision then .ok .ignored
  else if d.threadRevision = t.threadRevision ∧ t.snapshotDigest = none then
    .error (revisionConflict "现有 Desktop snapshot 摘要缺失，拒绝覆盖")
  else if d.threadRevision = t.threadRevision ∧ t.snapshotDigest ≠ some d.bodyDigest then
    sameRevisionVerdict t row d
  else .ok (.taken d.snapshotSequence d.body .stored)

/-- `body.get("created_at")` and other texts that may be missing. -/
def textOf (body : Dict) (field : String) : String := ((body.get field).asStr?).getD ""

/-- The column `control_revision` of a body. -/
def controlOf (body : Dict) : Option ℤ := (body.get "control_revision").asInt?

/-- The column `control_state` of a body. -/
def stateOf (body : Dict) : String :=
  (strOr (body.get "control_state") "recovery_required").take 64 |>.toString

/-- The row that a taken snapshot gives its thread (lines 228–264). -/
def SnapshotDoc.row (d : SnapshotDoc) (sequence : Option ℕ) (body : Dict) (observedAt : String) :
    Thread where
  threadRef := d.threadRef
  hostRef := d.hostRef
  projectRef := d.projectRef
  runnerId := d.runnerId
  title := (strOr (body.get "title") "未命名任务").take 500 |>.toString
  status := textOf body "status"
  activeTurnRef := (body.get "active_turn_ref").asStr?
  threadRevision := d.threadRevision
  controlRevision := controlOf body
  snapshotSequence := sequence
  controlState := stateOf body
  snapshotDigest := some d.bodyDigest
  snapshot := body
  sourceCreatedAt := (body.get "created_at").asStr?
  sourceUpdatedAt := (body.get "updated_at").asStr?
  observedAt := observedAt

/-- The columns that the row has after a conflict on `thread_ref`: the binding stays. -/
def Thread.updatedBy (t row : Thread) : Thread :=
  { row with hostRef := t.hostRef, projectRef := t.projectRef, runnerId := t.runnerId }

namespace DesktopStore

variable (s : DesktopStore)

/-- `_thread_row(connection, thread_ref)`. -/
def threadRow (threadRef : String) : Except Raise Thread :=
  orRaise (s.threads.get? threadRef)
    (raising "desktop_thread_not_found" "Desktop Thread 不存在" 404)

/-- `INSERT INTO desktop_threads … ON CONFLICT(thread_ref) DO UPDATE …`. -/
def putThread (row : Thread) : DesktopStore :=
  let effective := match s.threads.get? row.threadRef with
    | some t => t.updatedBy row
    | none => row
  { s with threads := s.threads.upsert effective }

/-- The rows of `desktop_snapshots` of a thread and a revision. -/
def isRevision (threadRef : String) (revision : ℕ) (r : Snapshot) : Bool :=
  r.threadRef = threadRef ∧ r.threadRevision = revision

/-- `INSERT INTO desktop_snapshots …`. -/
def addSnapshot (row : Snapshot) : Except Raise DesktopStore := do
  ensure (¬ s.snapshots.any (isRevision row.threadRef row.threadRevision)) .integrity
  ensure (¬ s.snapshots.any fun r => r.bodyDigest = row.bodyDigest) .integrity
  return { s with snapshots := s.snapshots ++ [row] }

/-- The snapshot of a taken document (lines 265–306): a refresh takes the place of the one of its
    revision. -/
def putSnapshot (row : Snapshot) (refresh : Bool) : Except Raise DesktopStore :=
  if refresh && s.snapshots.any (isRevision row.threadRef row.threadRevision) then
    .ok { s with snapshots := s.snapshots.map fun r =>
      if isRevision row.threadRef row.threadRevision r then row else r }
  else s.addSnapshot row

/-- `_prune_snapshots(connection, thread_ref)` (lines 1379–1384). -/
def pruneSnapshots (threadRef : String) : DesktopStore :=
  let kept := keepNewest (fun r => r.threadRef = threadRef) snapshotsPerThread s.snapshots
  { s with snapshots := kept }

/-- What a snapshot does to its thread (lines 118–319). -/
def takeSnapshot (d : SnapshotDoc) (observedAt : String) :
    Verdict → Except Raise (DesktopStore × Ingested × Thread)
  | .ignored => do
    let row ← s.threadRow d.threadRef
    return (s, .staleIgnored, row)
  | .taken sequence body status => do
    let s₁ := s.putThread (d.row sequence body observedAt)
    let s₂ ← s₁.putSnapshot
      ⟨d.threadRef, d.threadRevision, d.bodyDigest, sequence, observedAt⟩ (status ≠ .stored)
    let s₃ := s₂.pruneSnapshots d.threadRef
    let row ← s₃.threadRow d.threadRef
    return (s₃, status, row)

/-- What becomes of a snapshot (lines 118–226). -/
def snapshotVerdict (d : SnapshotDoc) : Except Raise Verdict :=
  match s.threads.get? d.threadRef with
  | some t => do
    ensure (t.hostRef = d.hostRef ∧ t.projectRef = d.projectRef ∧ t.runnerId = d.runnerId)
      (conflicting "desktop_thread_binding_conflict"
        "Desktop Thread ref 与现有 host/project/Runner 绑定冲突")
    verdict t (s.snapshots.find? (isRevision d.threadRef d.threadRevision)) d
  | none => do
    ensure (s.threads.rows.length < maxThreads)
      (raising "desktop_thread_capacity" "Desktop Thread 容量已满" 507)
    return .taken d.snapshotSequence d.body .stored

/-- `ingest_snapshot(document, observed_at=…)` (lines 87–319). -/
def ingestSnapshot (d : SnapshotDoc) (observedAt : String) :
    Except Raise (DesktopStore × Ingested × Thread) :=
  if s.snapshots.any fun r => r.bodyDigest = d.bodyDigest then do
    let row ← s.threadRow d.threadRef
    return (s, .duplicate, row)
  else do
    let (s₁, _) ← s.bindHost d.hostRef d.runnerId d.host observedAt d.hostSequence
    let s₂ ← s₁.upsertProject d.hostRef d.projectRef (textOf d.body "project_alias") observedAt
    let v ← s₂.snapshotVerdict d
    s₂.takeSnapshot d observedAt v

/-! ## What a document leaves alone -/

section Frame

variable {s s' : DesktopStore} {d : SnapshotDoc} {observedAt : String} {i : Ingested} {row : Thread}

/-- Two stores that differ in what is known of hosts, projects and threads only, and in which
    every thread has kept its binding. -/
structure SameStreams (s s' : DesktopStore) : Prop where
  events : s'.events = s.events
  nextCursor : s'.nextCursor = s.nextCursor
  hostWatermarks : s'.hostWatermarks = s.hostWatermarks
  threadWatermarks : s'.threadWatermarks = s.threadWatermarks
  binding : ∀ ref t, s.threads.get? ref = some t → ∃ t', s'.threads.get? ref = some t' ∧
    t'.hostRef = t.hostRef ∧ t'.projectRef = t.projectRef ∧ t'.runnerId = t.runnerId

theorem SameStreams.refl (s : DesktopStore) : SameStreams s s :=
  ⟨rfl, rfl, rfl, rfl, fun _ t ht => ⟨t, ht, rfl, rfl, rfl⟩⟩

theorem SameStreams.trans {s₁ s₂ s₃ : DesktopStore} (h : SameStreams s₁ s₂)
    (h' : SameStreams s₂ s₃) : SameStreams s₁ s₃ where
  events := h'.events.trans h.events
  nextCursor := h'.nextCursor.trans h.nextCursor
  hostWatermarks := h'.hostWatermarks.trans h.hostWatermarks
  threadWatermarks := h'.threadWatermarks.trans h.threadWatermarks
  binding ref t ht := by
    obtain ⟨t', ht', hhost, hproject, hrunner⟩ := h.binding ref t ht
    obtain ⟨t'', ht'', hhost', hproject', hrunner'⟩ := h'.binding ref t' ht'
    exact ⟨t'', ht'', hhost'.trans hhost, hproject'.trans hproject, hrunner'.trans hrunner⟩

/-- Hosts are no part of the streams. -/
theorem SameButHosts.sameStreams (h : s.SameButHosts s') : SameStreams s s' := by
  rw [SameButHosts] at h
  rw [h]
  exact ⟨rfl, rfl, rfl, rfl, fun _ t ht => ⟨t, ht, rfl, rfl, rfl⟩⟩

theorem upsertProject_sameStreams {hostRef projectRef projectAlias updatedAt : String}
    (h : s.upsertProject hostRef projectRef projectAlias updatedAt = .ok s') :
    SameStreams s s' := by
  simp only [upsertProject, bind_eq_ok, pure_eq_ok] at h
  obtain ⟨-, -, rfl⟩ := h
  exact ⟨rfl, rfl, rfl, rfl, fun _ t ht => ⟨t, ht, rfl, rfl, rfl⟩⟩

/-- The row of a thread after a snapshot was put there. -/
theorem get?_putThread (row : Thread) (ref : String) :
    (s.putThread row).threads.get? ref = if ref = row.threadRef then
      some (match s.threads.get? row.threadRef with
        | some t => t.updatedBy row
        | none => row) else s.threads.get? ref := by
  unfold putThread
  rw [Table.get?_upsert]
  cases ht : s.threads.get? row.threadRef <;> rfl

theorem putThread_sameStreams (row : Thread) : SameStreams s (s.putThread row) := by
  refine ⟨rfl, rfl, rfl, rfl, fun ref t ht => ?_⟩
  rw [get?_putThread]
  by_cases href : ref = row.threadRef
  · subst href
    rw [if_pos rfl, ht]
    exact ⟨_, rfl, rfl, rfl, rfl⟩
  · rw [if_neg href]
    exact ⟨t, ht, rfl, rfl, rfl⟩

/-- Storing a snapshot changes the table of the snapshots. -/
theorem putSnapshot_ok {r : Snapshot} {refresh : Bool} (h : s.putSnapshot r refresh = .ok s') :
    s' = { s with snapshots := s'.snapshots } := by
  unfold putSnapshot at h
  split at h
  · cases h
    rfl
  · simp only [addSnapshot, bind_eq_ok, pure_eq_ok] at h
    obtain ⟨-, -, -, -, rfl⟩ := h
    rfl

theorem sameStreams_of_snapshots {snapshots : List Snapshot}
    (h : s' = { s with snapshots := snapshots }) : SameStreams s s' := by
  rw [h]
  exact ⟨rfl, rfl, rfl, rfl, fun _ t ht => ⟨t, ht, rfl, rfl, rfl⟩⟩

theorem takeSnapshot_sameStreams {v : Verdict}
    (h : s.takeSnapshot d observedAt v = .ok (s', i, row)) : SameStreams s s' := by
  cases v with
  | ignored =>
    simp only [takeSnapshot, bind_eq_ok, pure_eq_ok, Prod.mk.injEq] at h
    obtain ⟨_, -, rfl, -⟩ := h
    exact SameStreams.refl s
  | taken sequence body status =>
    simp only [takeSnapshot, bind_eq_ok, pure_eq_ok, Prod.mk.injEq] at h
    obtain ⟨s₂, hput, _, -, rfl, -⟩ := h
    exact (putThread_sameStreams _).trans
      ((sameStreams_of_snapshots (putSnapshot_ok hput)).trans (sameStreams_of_snapshots rfl))

/-- How a snapshot was answered: it was there already, or its host and its project were taken and
    it was judged. -/
theorem ingestSnapshot_cases (h : s.ingestSnapshot d observedAt = .ok (s', i, row)) :
    (i = .duplicate ∧ s' = s) ∨
    ∃ s₁ j s₂ v, s.bindHost d.hostRef d.runnerId d.host observedAt d.hostSequence = .ok (s₁, j) ∧
      s₁.upsertProject d.hostRef d.projectRef (textOf d.body "project_alias") observedAt = .ok s₂ ∧
      s₂.snapshotVerdict d = .ok v ∧ s₂.takeSnapshot d observedAt v = .ok (s', i, row) := by
  unfold ingestSnapshot at h
  split at h
  · simp only [bind_eq_ok, pure_eq_ok, Prod.mk.injEq] at h
    obtain ⟨_, -, rfl, rfl, -⟩ := h
    exact .inl ⟨rfl, rfl⟩
  · simp only [bind_eq_ok] at h
    obtain ⟨⟨s₁, j⟩, hbind, s₂, hproject, v, hv, htake⟩ := h
    exact .inr ⟨s₁, j, s₂, v, hbind, hproject, hv, htake⟩

/-- A snapshot leaves the streams alone. -/
theorem ingestSnapshot_sameStreams (h : s.ingestSnapshot d observedAt = .ok (s', i, row)) :
    SameStreams s s' := by
  obtain ⟨-, rfl⟩ | ⟨s₁, j, s₂, v, hbind, hproject, -, htake⟩ := ingestSnapshot_cases h
  · exact SameStreams.refl _
  · exact (bindHost_ok hbind).sameStreams.trans
      ((upsertProject_sameStreams hproject).trans (takeSnapshot_sameStreams htake))

/-- So does a host. -/
theorem ingestHost_sameStreams {d : HostDoc} (h : s.ingestHost d observedAt = .ok (s', i)) :
    SameStreams s s' := by
  simp only [ingestHost, bind_eq_ok, pure_eq_ok, Prod.mk.injEq] at h
  obtain ⟨⟨s₁, j⟩, hbind, -, -, rfl, -⟩ := h
  exact (bindHost_ok hbind).sameStreams

end Frame

end DesktopStore

end HomeAddons.Desktop
