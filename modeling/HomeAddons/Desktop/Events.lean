import HomeAddons.Desktop.Snapshots

/-!
# Codex Desktop: events

`DesktopStore.ingest_event`, `events`, `host_events` and `event_pruned_through` (`desktop_store.py`,
lines 321–425 and 926–992): events get cursors in the order in which they are stored, only the
newest of each host are kept, and a watermark remembers how far they were pruned.
-/

namespace HomeAddons.Desktop

open HomeAddons.Common
open HomeAddons.Controller (Raise raising)

/-- What the events of a stream belong to: `scope_kind` and `scope_ref`. -/
inductive Scope where
  | host (hostRef : String)
  | thread (threadRef : String)
  deriving DecidableEq

/-- The event is one of the scope. -/
def Scope.has : Scope → Event → Bool
  | .host hostRef, e => e.document.hostRef = hostRef
  | .thread threadRef, e => e.document.threadRef = threadRef

/-- What is shown of an event: its cursor and its document without `runner_id`. -/
def Event.item (e : Event) : ℕ × EventBody := (e.cursor, e.document.toEventBody)

/-- The result of `events` and `host_events`. -/
structure EventsPage where
  events : List (ℕ × EventBody)
  nextCursor : ℕ
  hasMore : Bool

/-- The watermark of a reference: `int(row["pruned_through"]) if row is not None else 0`. -/
def markOf (marks : Table Watermark.ref) (ref : String) : ℕ :=
  (marks.get? ref).elim 0 Watermark.prunedThrough

/-- `ON CONFLICT(…) DO UPDATE SET pruned_through=MAX(…)`. -/
def raiseMark (marks : Table Watermark.ref) (ref : String) (cursor : ℕ) : Table Watermark.ref :=
  marks.upsert ⟨ref, max (markOf marks ref) cursor⟩

/-- The watermark of every event of a list is raised to its cursor. -/
def raiseMarks (ref : Event → String) (marks : Table Watermark.ref) (pruned : List Event) :
    Table Watermark.ref :=
  pruned.foldl (fun marks e => raiseMark marks (ref e) e.cursor) marks

namespace DesktopStore

variable (s : DesktopStore)

/-! ## Storing -/

/-- `_prune_events(connection, host_ref)` (lines 1386–1419), for any limit. -/
def pruneEventsTo (limit : ℕ) (hostRef : String) : DesktopStore :=
  let ofHost := (Scope.host hostRef).has
  let pruned := surplus ofHost limit s.events
  { s with
    threadWatermarks := raiseMarks (fun e => e.document.threadRef) s.threadWatermarks pruned
    hostWatermarks := raiseMarks (fun e => e.document.hostRef) s.hostWatermarks pruned
    events := keepNewest ofHost limit s.events }

/-- `_prune_events(connection, host_ref)`. -/
def pruneEvents (hostRef : String) : DesktopStore := s.pruneEventsTo eventsPerHost hostRef

/-- The thread of an event has its binding, and a snapshot that the event may come after
    (lines 362–404). -/
def checkTarget (d : EventDoc) : Except Raise Unit := do
  let t ← orRaise (s.threads.get? d.threadRef)
    (conflicting "desktop_snapshot_required" "Desktop event 必须在目标 Thread 快照之后接收")
  ensure (t.hostRef = d.hostRef ∧ t.projectRef = d.projectRef ∧ t.runnerId = d.runnerId)
    (conflicting "desktop_thread_binding_conflict" "Desktop event 越过现有 Thread 绑定")
  let known := s.snapshots.any (isRevision d.threadRef d.threadRevision)
  let history := d.eventKind.startsWith "history."
  ensure (known ∨ (history ∧ d.threadRevision ≤ t.threadRevision) ∨
      t.threadRevision ≤ d.threadRevision)
    (conflicting "desktop_event_sequence_stale" "Desktop event 对应 revision 已被更新快照取代")
  ensure (known ∨ (history ∧ d.threadRevision ≤ t.threadRevision))
    (conflicting "desktop_snapshot_required" "Desktop event 对应 revision 的快照必须先接收")

/-- `INSERT INTO desktop_events … RETURNING cursor`. -/
def addEvent (d : EventDoc) : DesktopStore :=
  { s with events := s.events ++ [⟨s.nextCursor, d⟩], nextCursor := s.nextCursor + 1 }

/-- `ingest_event(document)` (lines 321–425). -/
def ingestEvent (d : EventDoc) : Except Raise (DesktopStore × Ingested × ℕ) :=
  match s.events.find? fun e => e.document.bodyDigest = d.bodyDigest with
  | some e => .ok (s, .duplicate, e.cursor)
  | none => do
    ensure (¬ s.events.any fun e =>
        e.document.hostRef = d.hostRef ∧ e.document.eventSequence = d.eventSequence)
      (conflicting "desktop_event_sequence_conflict" "同一 Desktop event sequence 出现不同正文")
    ensure (¬ s.events.any fun e =>
        e.document.hostRef = d.hostRef ∧ d.eventSequence ≤ e.document.eventSequence)
      (conflicting "desktop_event_sequence_stale" "Desktop event sequence 非单调递增")
    let (s₁, _) ← s.bindHost d.hostRef d.runnerId [] d.createdAt none
    s₁.checkTarget d
    return ((s₁.addEvent d).pruneEvents d.hostRef, .stored, s₁.nextCursor)

/-! ## Reading -/

/-- The rows of a scope after a cursor: one more than the limit is read. -/
def eventsPage (scope : Scope) (afterCursor limit : ℕ) : EventsPage :=
  let rows := pageAfter scope.has Event.cursor afterCursor (limit + 1) s.events
  ⟨(rows.take limit).map Event.item, nextStamp Event.cursor afterCursor (rows.take limit),
    limit < rows.length⟩

/-- The host or the thread of a scope is known. -/
def checkScope : Scope → Except Raise Unit
  | .host hostRef => ensure (s.hosts.get? hostRef).isSome
      (raising "desktop_host_not_found" "Desktop host 不存在" 404)
  | .thread threadRef => ensure (s.threads.get? threadRef).isSome
      (raising "desktop_thread_not_found" "Desktop Thread 不存在" 404)

/-- `events(thread_ref, after_cursor=…, limit=…)` and `host_events(host_ref, after_cursor=…,
    limit=…)` (lines 926–974). -/
def replay (scope : Scope) (afterCursor limit : ℕ) : Except Raise EventsPage := do
  s.checkScope scope
  return s.eventsPage scope afterCursor limit

/-- `event_pruned_through(scope_kind=…, scope_ref=…)` (lines 976–992). -/
def eventPrunedThrough : Scope → ℕ
  | .host hostRef => markOf s.hostWatermarks hostRef
  | .thread threadRef => markOf s.threadWatermarks threadRef

/-- `_event_tail(scope_kind=…, scope_ref=…)`: `SELECT MAX(cursor) …`. -/
def eventTail (scope : Scope) : ℕ :=
  ((s.events.filter scope.has).map Event.cursor).foldl max 0

end DesktopStore

/-! ## Watermarks -/

section Watermarks

variable {marks : Table Watermark.ref} {key : Event → String} {pruned : List Event} {k : String}

theorem markOf_raiseMark (ref : String) (cursor : ℕ) :
    markOf (raiseMark marks ref cursor) k =
      if k = ref then max (markOf marks ref) cursor else markOf marks k := by
  unfold raiseMark
  rw [markOf, Table.get?_upsert]
  split
  · rfl
  · rfl

/-- Raising the watermarks does not lower any. -/
theorem le_markOf_raiseMarks : markOf marks k ≤ markOf (raiseMarks key marks pruned) k := by
  induction pruned generalizing marks with
  | nil => exact Nat.le_refl _
  | cons e pruned ih =>
    refine Nat.le_trans ?_ ih
    rw [markOf_raiseMark]
    split
    · next hk => exact hk ▸ Nat.le_max_left _ _
    · exact Nat.le_refl _

theorem cursor_le_markOf_raiseMarks {e : Event} (he : e ∈ pruned) (hk : key e = k) :
    e.cursor ≤ markOf (raiseMarks key marks pruned) k := by
  induction pruned generalizing marks with
  | nil => exact absurd he List.not_mem_nil
  | cons e' pruned ih =>
    rw [List.mem_cons] at he
    obtain rfl | he := he
    · have hraised : e.cursor ≤ markOf (raiseMark marks (key e) e.cursor) k := by
        rw [markOf_raiseMark, if_pos hk.symm]
        exact Nat.le_max_right _ _
      exact Nat.le_trans hraised le_markOf_raiseMarks
    · exact ih he

/-- A watermark that was raised is at the cursor of an event that was pruned. -/
theorem markOf_raiseMarks_cases : markOf (raiseMarks key marks pruned) k = markOf marks k ∨
    ∃ e ∈ pruned, key e = k ∧ e.cursor = markOf (raiseMarks key marks pruned) k := by
  induction pruned generalizing marks with
  | nil => exact .inl rfl
  | cons e pruned ih =>
    obtain heq | ⟨e', he', hk, hcursor⟩ := @ih (raiseMark marks (key e) e.cursor)
    · rw [markOf_raiseMark] at heq
      split at heq
      · next hk =>
        subst hk
        obtain hmax | hmax := Nat.le_total e.cursor (markOf marks (key e))
        · exact .inl (heq.trans (Nat.max_eq_left hmax))
        · exact .inr ⟨e, List.mem_cons_self, rfl, (heq.trans (Nat.max_eq_right hmax)).symm⟩
      · exact .inl heq
    · exact .inr ⟨e', List.mem_cons_of_mem _ he', hk, hcursor⟩

end Watermarks

/-! ## The events that were stored -/

section Logged

variable {s s' : DesktopStore} {log : List Event} {d : EventDoc} {i : Ingested} {c : ℕ}

/-- How an event was answered: it was there already, or it was stored and the oldest events of its
    host were pruned. -/
theorem DesktopStore.ingestEvent_cases (h : s.ingestEvent d = .ok (s', i, c)) :
    (i = .duplicate ∧ s' = s) ∨
    ∃ s₁, s.SameButHosts s₁ ∧ s₁.checkTarget d = .ok () ∧ i = .stored ∧ c = s₁.nextCursor ∧
      s' = (s₁.addEvent d).pruneEvents d.hostRef := by
  unfold DesktopStore.ingestEvent at h
  split at h
  · rw [Except.ok.injEq, Prod.mk.injEq, Prod.mk.injEq] at h
    exact .inl ⟨h.2.1.symm, h.1.symm⟩
  · simp only [bind_eq_ok, pure_eq_ok, Prod.mk.injEq] at h
    obtain ⟨-, -, -, -, ⟨s₁, j⟩, hbind, ⟨⟩, hcheck, rfl, rfl, rfl⟩ := h
    exact .inr ⟨s₁, DesktopStore.bindHost_ok hbind, hcheck, rfl, rfl, rfl⟩

/-- An event leaves threads and snapshots alone. -/
theorem DesktopStore.ingestEvent_threads (h : s.ingestEvent d = .ok (s', i, c)) :
    s'.threads = s.threads ∧ s'.snapshots = s.snapshots := by
  obtain ⟨-, rfl⟩ | ⟨s₁, hsame, -, -, -, rfl⟩ := DesktopStore.ingestEvent_cases h
  · exact ⟨rfl, rfl⟩
  · have hprune : ∀ limit, ((s₁.addEvent d).pruneEventsTo limit d.hostRef).threads = s₁.threads ∧
        ((s₁.addEvent d).pruneEventsTo limit d.hostRef).snapshots = s₁.snapshots :=
      fun _ => ⟨rfl, rfl⟩
    rw [DesktopStore.SameButHosts] at hsame
    rw [DesktopStore.pruneEvents, (hprune _).1, (hprune _).2, hsame]
    exact ⟨rfl, rfl⟩

/-- The thread of an event that passes has the host of the event. -/
theorem DesktopStore.checkTarget_ok (h : s.checkTarget d = .ok ()) :
    ∃ t, s.threads.get? d.threadRef = some t ∧ t.hostRef = d.hostRef := by
  simp only [DesktopStore.checkTarget, bind_eq_ok, ensure_eq_ok, orRaise_eq_ok] at h
  obtain ⟨t, ht, -, hbinding, -⟩ := h
  exact ⟨t, ht, hbinding.1⟩

variable {limit : ℕ} {hostRef : String}

/-- As long as there are few events nothing is pruned. -/
theorem DesktopStore.pruneEventsTo_short (h : s.events.length ≤ limit) :
    s.pruneEventsTo limit hostRef = s := by
  simp only [DesktopStore.pruneEventsTo, surplus_of_length_le h, keepNewest_of_length_le h]
  rfl

/-- One event too many pushes the oldest out. -/
theorem DesktopStore.pruneEventsTo_full {e : Event} {rest : List Event}
    (hevents : s.events = e :: rest) (hlength : rest.length = limit)
    (hhost : ∀ e ∈ s.events, (Scope.host hostRef).has e = true) :
    (s.pruneEventsTo limit hostRef).events = rest ∧
      e.cursor ≤ (s.pruneEventsTo limit hostRef).eventPrunedThrough (.host hostRef) := by
  rw [hevents] at hhost
  simp only [DesktopStore.pruneEventsTo, hevents, ← hlength, surplus_cons hhost,
    keepNewest_cons hhost]
  exact ⟨trivial, cursor_le_markOf_raiseMarks (List.mem_singleton_self _)
    (of_decide_eq_true (hhost e List.mem_cons_self))⟩

/-- A new event of a host and a thread that are known is stored. -/
theorem DesktopStore.ingestEvent_new (hbound : s.Bound d.hostRef d.runnerId)
    (htarget : s.checkTarget d = .ok ())
    (hdigest : ∀ e ∈ s.events, e.document.bodyDigest ≠ d.bodyDigest)
    (hsequence : ∀ e ∈ s.events, e.document.eventSequence < d.eventSequence) : ∃ hosts,
    s.ingestEvent d = .ok ((({ s with hosts := hosts } : DesktopStore).addEvent d).pruneEvents
        d.hostRef, .stored, s.nextCursor) ∧
      DesktopStore.Bound { s with hosts := hosts } d.hostRef d.runnerId := by
  obtain ⟨hosts, hbind, hbound'⟩ := @DesktopStore.bindHost_bound _ _ _ d.createdAt hbound
  refine ⟨hosts, ?_, hbound'⟩
  have hnone : s.events.find? (fun e => e.document.bodyDigest = d.bodyDigest) = none :=
    List.find?_eq_none.mpr fun e he => by
      rw [decide_eq_true_eq]
      exact hdigest e he
  simp only [DesktopStore.ingestEvent, hnone, bind_eq_ok, ensure_eq_ok, pure_eq_ok]
  refine ⟨(), fun hany => ?_, (), fun hany => ?_, (_, .stored), hbind, (), htarget, rfl⟩
  · obtain ⟨e, he, heq⟩ := List.any_eq_true.mp hany
    exact Nat.ne_of_lt (hsequence e he) (of_decide_eq_true heq).2
  · obtain ⟨e, he, heq⟩ := List.any_eq_true.mp hany
    exact Nat.not_le.mpr (hsequence e he) (of_decide_eq_true heq).2

/-- The log has all the events that were ever stored, with their cursors. The events that are still
    there are those beyond the watermarks. -/
structure Logged (s : DesktopStore) (log : List Event) : Prop where
  sorted : log.Pairwise fun a b => a.cursor < b.cursor
  positive : 0 < s.nextCursor
  fresh : ∀ e ∈ log, e.cursor < s.nextCursor
  bound : ∀ e ∈ log, ∃ t, s.threads.get? e.document.threadRef = some t ∧
    t.hostRef = e.document.hostRef
  retains : ∀ scope : Scope,
    Retains scope.has Event.cursor log s.events (s.eventPrunedThrough scope)

theorem Logged.empty : Logged .empty [] where
  sorted := List.Pairwise.nil
  positive := Nat.one_pos
  fresh _ he := absurd he List.not_mem_nil
  bound _ he := absurd he List.not_mem_nil
  retains scope := by
    cases scope <;> exact Retains.refl fun _ he => absurd he List.not_mem_nil

/-- What leaves the streams alone keeps the log. -/
theorem Logged.same (h : Logged s log) (hs : s.SameStreams s') : Logged s' log where
  sorted := h.sorted
  positive := by
    rw [hs.nextCursor]
    exact h.positive
  fresh := by
    rw [hs.nextCursor]
    exact h.fresh
  bound e he := by
    obtain ⟨t, ht, hhost⟩ := h.bound e he
    obtain ⟨t', ht', hsame, -⟩ := hs.binding _ t ht
    exact ⟨t', ht', hsame.trans hhost⟩
  retains scope := by
    have hmark : s'.eventPrunedThrough scope = s.eventPrunedThrough scope := by
      cases scope with
      | host hostRef => rw [DesktopStore.eventPrunedThrough, hs.hostWatermarks]; rfl
      | thread threadRef => rw [DesktopStore.eventPrunedThrough, hs.threadWatermarks]; rfl
    rw [hs.events, hmark]
    exact h.retains scope

/-- The watermarks are below the next cursor. -/
theorem Logged.mark_lt (h : Logged s log) (scope : Scope) :
    s.eventPrunedThrough scope < s.nextCursor := by
  obtain hzero | ⟨e, he, -, hcursor⟩ := (h.retains scope).lost
  · rw [hzero]
    exact h.positive
  · rw [← hcursor]
    exact h.fresh e he

/-- The event that is stored gets the next cursor. -/
theorem Logged.added (h : Logged s log)
    (hd : ∃ t, s.threads.get? d.threadRef = some t ∧ t.hostRef = d.hostRef) :
    Logged (s.addEvent d) (log ++ [⟨s.nextCursor, d⟩]) where
  sorted := by
    rw [List.pairwise_append]
    refine ⟨h.sorted, List.pairwise_singleton _ _, fun e he e' he' => ?_⟩
    rw [List.mem_singleton.mp he']
    exact h.fresh e he
  positive := Nat.succ_pos _
  fresh e he := by
    rw [List.mem_append, List.mem_singleton] at he
    obtain he | rfl := he
    · exact Nat.lt_succ_of_lt (h.fresh e he)
    · exact Nat.lt_succ_self _
  bound e he := by
    rw [List.mem_append, List.mem_singleton] at he
    obtain he | rfl := he
    · exact h.bound e he
    · exact hd
  retains scope := by
    cases scope <;> exact (h.retains _).append fun _ => h.mark_lt _

/-- Pruning raises the watermark of a scope to the last event of it that goes. -/
theorem Logged.pruned (h : Logged s log) (limit : ℕ) (hostRef : String) :
    Logged (s.pruneEventsTo limit hostRef) log where
  sorted := h.sorted
  positive := h.positive
  fresh := h.fresh
  bound := h.bound
  retains scope := by
    have hsurplus : ∀ e ∈ surplus (Scope.host hostRef).has limit s.events,
        e.document.hostRef = hostRef := fun e he => of_decide_eq_true (mem_surplus he).2
    cases scope with
    | host ref =>
      refine (h.retains (.host ref)).prune h.sorted ?_ le_markOf_raiseMarks ?_ ?_
      · rintro ⟨e, he, href⟩ e' - href'
        have href := of_decide_eq_true href
        have href' := of_decide_eq_true href'
        exact decide_eq_true (href'.trans (href.symm.trans (hsurplus e he)))
      · exact fun e he href => cursor_le_markOf_raiseMarks he (of_decide_eq_true href)
      · exact markOf_raiseMarks_cases.imp_right fun ⟨e, he, href, hcursor⟩ =>
          ⟨e, he, decide_eq_true href, hcursor⟩
    | thread ref =>
      refine (h.retains (.thread ref)).prune h.sorted ?_ le_markOf_raiseMarks ?_ ?_
      · -- All events of a thread are events of one host.
        rintro ⟨e, he, href⟩ e' he' href'
        have href := of_decide_eq_true href
        have href' := of_decide_eq_true href'
        have hkept := (h.retains (.thread ref)).sub
        obtain ⟨t, ht, hhost⟩ := h.bound e (hkept.mem (mem_surplus he).1)
        obtain ⟨t', ht', hhost'⟩ := h.bound e' (hkept.mem he')
        rw [href] at ht
        rw [href', ht, Option.some.injEq] at ht'
        rw [ht'] at hhost
        exact decide_eq_true (hhost'.symm.trans (hhost.trans (hsurplus e he)))
      · exact fun e he href => cursor_le_markOf_raiseMarks he (of_decide_eq_true href)
      · exact markOf_raiseMarks_cases.imp_right fun ⟨e, he, href, hcursor⟩ =>
          ⟨e, he, decide_eq_true href, hcursor⟩

/-- The log after an event. -/
def logAfter (log : List Event) (d : EventDoc) : Ingested → ℕ → List Event
  | .stored, c => log ++ [⟨c, d⟩]
  | _, _ => log

theorem Logged.ingest (h : Logged s log) (hok : s.ingestEvent d = .ok (s', i, c)) :
    Logged s' (logAfter log d i c) := by
  obtain ⟨rfl, rfl⟩ | ⟨s₁, hsame, hcheck, rfl, rfl, rfl⟩ := DesktopStore.ingestEvent_cases hok
  · exact h
  · exact ((h.same hsame.sameStreams).added (DesktopStore.checkTarget_ok hcheck)).pruned _ _

end Logged

end HomeAddons.Desktop
