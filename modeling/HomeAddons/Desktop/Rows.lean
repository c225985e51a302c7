import HomeAddons.Common.IsoTime
import HomeAddons.Common.PyEq
import HomeAddons.Controller.Store

/-!
# Codex Desktop: the read model

`DesktopStore` (`desktop_store.py`): the hosts, projects, threads and snapshots that a Runner
reports, the events and receipts that it sends, and the commands that it is given.

* `DesktopStore`: the tables.
* `bindHost`, `upsertProject`: what every document does first.
-/

namespace HomeAddons.Desktop

open HomeAddons.Common
open HomeAddons.Controller (Raise raising)

/-! ## Limits -/

def maxHosts : ℕ := 16
def maxProjects : ℕ := 512
def maxThreads : ℕ := 5000
def snapshotsPerThread : ℕ := 3
def eventsPerHost : ℕ := 5000
def maxCommands : ℕ := 5000
def maxReceipts : ℕ := 5000

/-! ## Rows -/

/-- A row of `desktop_hosts`. -/
structure Host where
  hostRef : String
  runnerId : String
  state : String
  controlEnabled : Bool
  document : Dict
  hostSequence : Option ℕ
  hostDigest : Option String
  syncedAt : String
  dataSyncedAt : Option String
  updatedAt : String

/-- A row of `desktop_projects`. -/
structure Project where
  hostRef : String
  projectRef : String
  projectAlias : String
  updatedAt : String

def Project.key (p : Project) : String × String := (p.hostRef, p.projectRef)

/-- A row of `desktop_threads`. -/
structure Thread where
  threadRef : String
  hostRef : String
  projectRef : String
  runnerId : String
  title : String
  status : String
  activeTurnRef : Option String
  threadRevision : ℕ
  controlRevision : Option ℤ
  snapshotSequence : Option ℕ
  controlState : String
  snapshotDigest : Option String
  snapshot : Dict
  sourceCreatedAt : Option String
  sourceUpdatedAt : Option String
  observedAt : String

/-- A row of `desktop_snapshots`; the rows are in the order of their ids. -/
structure Snapshot where
  threadRef : String
  threadRevision : ℕ
  bodyDigest : String
  sourceSequence : Option ℕ
  observedAt : String

/-- An event document without its `runner_id`. -/
structure EventBody where
  hostRef : String
  projectRef : String
  threadRef : String
  turnRef : Option String
  eventSequence : ℕ
  eventKind : String
  source : String
  threadRevision : ℕ
  bodyDigest : String
  createdAt : String
  payload : Dict

/-- An event document. -/
structure EventDoc extends EventBody where
  runnerId : String

/-- A row of `desktop_events`. -/
structure Event where
  cursor : ℕ
  document : EventDoc

/-- A row of `desktop_event_watermarks` or of `desktop_thread_event_watermarks`. -/
structure Watermark where
  ref : String
  prunedThrough : ℕ

/-- The values of `desktop_commands.state`. -/
inductive CommandState where
  | pending | submitted | accepted | confirmed | conflict | expired | failed | unknown
  | recoveryRequired
  deriving DecidableEq

/-- `ACTIONS`. -/
inductive Action where
  | read | load | steer | interrupt | continue_ | archive | unarchive | rename | pin | fork | review
  | collaborationModeUpdate | create | queueAdd | queueUpdate | queueDelete | queueReorder
  | queueStart | historyPage | historySearch | respondRequest | fileList | fileOpen | fileRead
  | diagnosticRun | diffSummary | diffRead
  deriving DecidableEq

/-- `RESOURCE_ACTIONS`. -/
def Action.resource : Action → Bool
  | .fileList | .fileOpen | .fileRead | .diagnosticRun | .diffSummary | .diffRead => true
  | _ => false

/-- The fields of `command_json` that the store and the service read again. -/
structure CommandDoc where
  requestId : String
  bodyDigest : String
  runnerId : String
  hostRef : String
  threadRef : String
  action : Action
  expectedThreadRevision : ℕ
  projectRef : Option String
  collaborationModeId : Option String
  queueRef : Option String
  requestRef : Option String
  relativePath : Json
  fileKind : Json
  fileRef : Json
  offset : Json
  diagnosticId : Json
  diffRef : Json
  createdAt : String
  expiresAt : String

/-- A row of `desktop_commands`. -/
structure Command where
  document : CommandDoc
  intentDigest : String
  state : CommandState
  errorCode : Option String
  updatedAt : String
  relayDeliveredAt : Option String
  runnerReceivedAt : Option String
  macConfirmedAt : Option String

def Command.requestId (c : Command) : String := c.document.requestId

/-- `state IN ('pending','submitted','accepted','unknown')`. -/
def CommandState.active : CommandState → Bool
  | .pending | .submitted | .accepted | .unknown => true
  | _ => false

/-- A row of `desktop_receipts`; the rows are in the order of their ids. -/
structure Receipt where
  requestId : String
  state : CommandState
  bodyDigest : String

/-- The database. -/
structure DesktopStore where
  hosts : Table Host.hostRef
  projects : Table Project.key
  threads : Table Thread.threadRef
  snapshots : List Snapshot
  events : List Event
  nextCursor : ℕ
  hostWatermarks : Table Watermark.ref
  threadWatermarks : Table Watermark.ref
  commands : Table Command.requestId
  receipts : List Receipt

/-- A new database. -/
def DesktopStore.empty : DesktopStore :=
  ⟨.empty, .empty, .empty, [], [], 1, .empty, .empty, .empty, []⟩

/-- How a document was taken. -/
inductive Ingested where
  | stored | refreshed | duplicate | staleIgnored | degradedLatched
  deriving DecidableEq

/-- `raise StoreError(code, message, status=409)`. -/
def conflicting (code message : String) : Raise := raising code message 409

/-! ## Hosts -/

/-- `dt.datetime.min.replace(tzinfo=dt.timezone.utc)`. -/
def leastTime : Instant := (1 - epochOrdinal) * dayMicros

/-- `dt.datetime.fromisoformat(…)`, when it has a time zone. -/
def zonedInstant (text : String) : Option Instant :=
  let zoned := String.ofList (text.toList.flatMap fun c =>
    if c = 'Z' then "+00:00".toList else [c])
  match fromIsoformat zoned with
  | some (micros, some offset) => some (micros - offset)
  | _ => none

/-- `_host_time(value)` (lines 1551–1559). -/
def hostTime (value : Json) : Instant := (value.asStr?.bind zonedInstant).getD leastTime

/-- `_newest_host_time(current, candidate)` (lines 1562–1571). -/
def newestHostTime (current candidate : Json) : Option String :=
  if hostTime current ≤ hostTime candidate ∧ hostTime candidate ≠ leastTime then candidate.asStr?
  else if hostTime current ≠ leastTime then current.asStr?
  else none

/-- `_host_projection_digest(host)` (lines 1540–1548). -/
def hostProjectionDigest (host : Dict) : String :=
  let stable := (host.without "synced_at").map fun (k, v) =>
    match k, v with
    | "app_bridge", .obj bridge => (k, .obj (Dict.without bridge "last_success"))
    | _, _ => (k, v)
  "sha256:" ++ sha256Hex (canonical (.obj stable))

/-- `existing["host_digest"] or _host_projection_digest(…)`. -/
def Host.digest (h : Host) : String :=
  match h.hostDigest with
  | none | some "" => hostProjectionDigest h.document
  | some digest => digest

/-- `str(value or fallback)`. -/
def strOr (value : Json) (fallback : String) : String :=
  match value with
  | .str "" => fallback
  | .str s => s
  | _ => fallback

namespace DesktopStore

variable (s : DesktopStore)

/-- The columns that a host document gives a row. -/
def reportHost (h : Host) (host : Dict) (observedAt : String) : Host := { h with
  state := (strOr (host.get "state") "unavailable").take 64 |>.toString
  controlEnabled := host.get "control_enabled" matches .bool true
  document := host
  hostDigest := some (hostProjectionDigest host)
  syncedAt := strOr (host.get "synced_at") observedAt
  dataSyncedAt := newestHostTime ((h.dataSyncedAt.map Json.str).getD .null)
    (host.get "data_synced_at")
  updatedAt := observedAt }

/-- The row of a host that is not known yet. -/
def newHost (hostRef runnerId observedAt : String) : Host :=
  ⟨hostRef, runnerId, "unavailable", false, [("host_ref", .str hostRef),
    ("state", .str "unavailable"), ("capabilities", .arr []), ("control_enabled", .bool false),
    ("synced_at", .str observedAt)], none, none, observedAt, none, observedAt⟩

/-- The row of a host after a document with a host (lines 1241–1349). -/
def updatedHost (h : Host) (host : Dict) (observedAt : String) (hostSequence : Option ℕ) :
    Except Raise (Host × Ingested) :=
  let touched := { h with updatedAt := observedAt }
  let reported := { reportHost h host observedAt with hostSequence := hostSequence }
  match hostSequence, h.hostSequence with
  | none, some _ => return (touched, .staleIgnored)
  | some n, some m =>
    if n < m then return (touched, .staleIgnored)
    else if n = m then do
      ensure (hostProjectionDigest host = h.digest)
        (conflicting "desktop_host_sequence_conflict" "同一 Desktop host sequence 出现不同状态")
      if hostTime (.str h.syncedAt) < hostTime (host.get "synced_at") then
        return (reportHost h host observedAt, .refreshed)
      else return (touched, .duplicate)
    else return (reported, .stored)
  | _, none => return (reported, .stored)

/-- The row of the host of a document, which is empty when the document has none. -/
def boundHost (existing : Option Host) (hostRef runnerId : String) (host : Dict)
    (observedAt : String) (hostSequence : Option ℕ) : Except Raise (Host × Ingested) :=
  match existing with
  | some h =>
    if host.isEmpty then .ok ({ h with updatedAt := observedAt }, .stored)
    else updatedHost h host observedAt hostSequence
  | none =>
    let h := newHost hostRef runnerId observedAt
    .ok (if host.isEmpty then h
      else { reportHost h host observedAt with hostSequence := hostSequence }, .stored)

/-- `_bind_host(…)` (lines 1211–1349). -/
def bindHost (hostRef runnerId : String) (host : Dict) (observedAt : String)
    (hostSequence : Option ℕ) : Except Raise (DesktopStore × Ingested) := do
  let existing := s.hosts.get? hostRef
  ensure (∀ h ∈ existing, h.runnerId = runnerId)
    (conflicting "desktop_host_binding_conflict" "Desktop host ref 绑定了其他 Runner")
  let binding := s.hosts.rows.find? fun h => h.runnerId = runnerId
  ensure (∀ h ∈ binding, h.hostRef = hostRef)
    (conflicting "desktop_host_binding_conflict" "Desktop Runner 绑定了其他 host ref")
  ensure (existing.isSome ∨ s.hosts.rows.length < maxHosts)
    (raising "desktop_host_capacity" "Desktop host 容量已满" 507)
  let (h, status) ← boundHost existing hostRef runnerId host observedAt hostSequence
  return ({ s with hosts := s.hosts.upsert h }, status)

/-! ## Projects -/

/-- `_upsert_project(…)` (lines 1351–1373). -/
def upsertProject (hostRef projectRef projectAlias updatedAt : String) :
    Except Raise DesktopStore := do
  let existing := s.projects.get? (hostRef, projectRef)
  ensure (existing.isSome ∨ s.projects.rows.length < maxProjects)
    (raising "desktop_project_capacity" "Desktop project 容量已满" 507)
  let effective := match existing with
    | some p => if projectAlias = "未同步项目" then p.projectAlias else projectAlias
    | none => projectAlias
  return { s with projects := s.projects.upsert ⟨hostRef, projectRef, effective, updatedAt⟩ }

end DesktopStore

/-- A host document. -/
structure HostDoc where
  hostRef : String
  runnerId : String
  hostSequence : ℕ
  host : Dict

/-- `ingest_host(document, observed_at=…)` (lines 63–85). -/
def DesktopStore.ingestHost (s : DesktopStore) (d : HostDoc) (observedAt : String) :
    Except Raise (DesktopStore × Ingested) := do
  let (s', status) ← s.bindHost d.hostRef d.runnerId d.host observedAt (some d.hostSequence)
  ensure (status ≠ .staleIgnored)
    (conflicting "desktop_host_sequence_stale" "Desktop host sequence 已被更新状态取代")
  return (s', status)

/-! ## What a document leaves alone -/

namespace DesktopStore

variable {s s' : DesktopStore} {i : Ingested} {hostRef runnerId : String} {host : Dict}
  {observedAt : String} {hostSequence : Option ℕ}

/-- Two stores that differ in their hosts only. -/
def SameButHosts (s s' : DesktopStore) : Prop := s' = { s with hosts := s'.hosts }

/-- Binding a host changes the table of the hosts. -/
theorem bindHost_ok (h : s.bindHost hostRef runnerId host observedAt hostSequence = .ok (s', i)) :
    s.SameButHosts s' := by
  simp only [bindHost, bind_eq_ok, pure_eq_ok, Prod.mk.injEq] at h
  obtain ⟨-, -, -, -, -, -, ⟨row, status⟩, -, rfl, -⟩ := h
  rfl

/-- The row of a project that is known, after a document. -/
theorem upsertProject_get {projectRef projectAlias updatedAt : String} {p : Project}
    (h : s.upsertProject hostRef projectRef projectAlias updatedAt = .ok s')
    (hp : s.projects.get? (hostRef, projectRef) = some p) :
    s'.projects.get? (hostRef, projectRef) = some ⟨hostRef, projectRef,
      if projectAlias = "未同步项目" then p.projectAlias else projectAlias, updatedAt⟩ := by
  simp only [upsertProject, hp, bind_eq_ok, pure_eq_ok] at h
  obtain ⟨-, -, rfl⟩ := h
  exact (Table.get?_upsert _ _ _).trans (if_pos rfl)

/-- The host is bound to the Runner, and no other host is. -/
def Bound (s : DesktopStore) (hostRef runnerId : String) : Prop :=
  (s.hosts.get? hostRef).map Host.runnerId = some runnerId ∧
    ∀ h ∈ s.hosts.rows, h.runnerId = runnerId → h.hostRef = hostRef

/-- A document without a host passes for a host that is bound. -/
theorem bindHost_bound (h : s.Bound hostRef runnerId) : ∃ hosts,
    s.bindHost hostRef runnerId [] observedAt none = .ok ({ s with hosts := hosts }, .stored) ∧
      Bound { s with hosts := hosts } hostRef runnerId := by
  obtain ⟨hget, hunique⟩ := h
  obtain ⟨row, hrow, rfl⟩ := Option.map_eq_some_iff.mp hget
  have hkey := Table.key_of_get? hrow
  have hbinding : ∀ r ∈ s.hosts.rows.find? fun r => r.runnerId = row.runnerId,
      r.hostRef = hostRef := by
    intro r hr
    have hrunner := List.find?_some hr
    exact hunique r (List.mem_of_find?_eq_some hr) (of_decide_eq_true hrunner)
  refine ⟨s.hosts.upsert { row with updatedAt := observedAt }, ?_, ?_, ?_⟩
  · simp only [bindHost, hrow, boundHost, bind_eq_ok, pure_eq_ok, ensure_eq_ok]
    exact ⟨(), fun r hr => by cases hr; rfl, (), hbinding, (), .inl rfl,
      ({ row with updatedAt := observedAt }, .stored), rfl, rfl⟩
  · rw [Table.get?_upsert, if_pos hkey.symm]
    rfl
  · intro r hr
    obtain rfl | ⟨hr, -⟩ := Table.mem_upsert.mp hr
    · exact fun _ => hkey
    · exact hunique r hr

end DesktopStore

end HomeAddons.Desktop
