import HomeAddons.Common.Run
import HomeAddons.Desktop.Events

/-!
# Codex Desktop: following the events

`DesktopControllerService._stream`, `events` and `host_events` (`desktop_service.py`, lines 735–783
and 1861–1970), and a client that follows the events of a host or of a thread: over a stream, which
it opens again with its last cursor when it broke, or with long polls.

* `Feed`: the store, the events that were ever stored, and the client.
* `NoGap`: of what was stored since the client started or was last told to fetch everything again
  it has all events up to its cursor, once and in order.
* `turned`: what a turn of the client can make of it.

The watermark is compared with the cursor only when a stream is opened.
-/

namespace HomeAddons.Desktop

open HomeAddons.Common

/-- `SSE_EVENT_BATCH_LIMIT`. -/
def sseEventBatchLimit : ℕ := 100

/-- Where the generator of `_stream` is: there is none, the tail was read, or it has yielded
    `ready` and goes on after a cursor. -/
inductive Connection where
  | apart
  | opening (tail lastStored : ℕ)
  | streaming (cursor : ℕ)

/-- A client: its last cursor, the events that it has received, and the last event that was stored
    when it started or was told `resync_required`. -/
structure Reader where
  connection : Connection
  cursor : Option ℕ
  base : ℕ
  received : List (ℕ × EventBody)

/-- The store, all events that were ever stored, and a client. -/
structure Feed where
  store : DesktopStore
  log : List Event
  reader : Reader

/-- What happens: a document comes, or the client does something. `delivered` says whether what is
    sent to the client gets there; when it does not the connection is broken. -/
inductive Turn where
  | host (d : HostDoc) (observedAt : String)
  | snapshot (d : SnapshotDoc) (observedAt : String)
  | event (d : EventDoc)
  | connect
  | ready (delivered : Bool)
  | batch (delivered : Bool)
  | drop
  | poll (limit : ℕ) (delivered : Bool)

namespace Feed

/-- A new database and a client that has not started. -/
def start : Feed := ⟨.empty, [], ⟨.apart, none, 0, []⟩⟩

variable (scope : Scope) (f : Feed)

/-- The cursor of the last event that was stored. -/
def lastStored : ℕ := f.store.nextCursor - 1

/-- `ready` (lines 1878–1908): the watermark is read after the tail. -/
def readyFrame (tail : ℕ) : ℕ × Bool :=
  let prunedThrough := f.store.eventPrunedThrough scope
  let resyncRequired := f.reader.cursor.any fun after =>
    tail < after ∨ (0 < prunedThrough ∧ after ≤ prunedThrough)
  (if resyncRequired then tail else f.reader.cursor.getD tail, resyncRequired)

/-- The client has received `ready`. -/
def afterReady (tail lastStored : ℕ) : Reader :=
  let (cursor, resyncRequired) := f.readyFrame scope tail
  { f.reader with
    connection := .streaming cursor
    cursor := some cursor
    base := if resyncRequired then f.lastStored
      else if f.reader.cursor.isNone then lastStored else f.reader.base }

/-- The client has received a page. -/
def afterPage (page : EventsPage) (connection : Connection) : Reader :=
  { f.reader with
    connection := connection
    cursor := some page.nextCursor
    received := f.reader.received ++ page.events }

/-- The next frame of a stream (lines 1911–1970); frames without events leave the cursor alone. -/
def batch (cursor : ℕ) (delivered : Bool) : Reader :=
  match f.store.replay scope cursor sseEventBatchLimit with
  | .error _ => { f.reader with connection := .apart }
  | .ok page =>
    if page.events.isEmpty then f.reader
    else if delivered then f.afterPage page (.streaming page.nextCursor)
    else { f.reader with connection := .apart }

/-- `events(…)` and `host_events(…)` (lines 735–783); `after_cursor` is 0 by default. -/
def poll (limit : ℕ) (delivered : Bool) : Reader :=
  if 1 ≤ limit ∧ limit ≤ 500 then
    match f.store.replay scope (f.reader.cursor.getD 0) limit with
    | .ok page => if delivered then f.afterPage page .apart else f.reader
    | .error _ => f.reader
  else f.reader

/-- What a turn of the client makes of it. -/
def turn : Turn → Reader
  | .connect =>
    match f.reader.connection with
    | .apart => { f.reader with connection := .opening (f.store.eventTail scope) f.lastStored }
    | _ => f.reader
  | .ready delivered =>
    match f.reader.connection with
    | .opening tail lastStored =>
      if delivered then f.afterReady scope tail lastStored
      else { f.reader with connection := .apart }
    | _ => f.reader
  | .batch delivered =>
    match f.reader.connection with
    | .streaming cursor => f.batch scope cursor delivered
    | _ => f.reader
  | .drop => { f.reader with connection := .apart }
  | .poll limit delivered =>
    match f.reader.connection with
    | .apart => f.poll scope limit delivered
    | _ => f.reader
  | _ => f.reader

/-- One step. -/
def step (f : Feed) : Turn → Feed
  | .host d observedAt =>
    match f.store.ingestHost d observedAt with
    | .ok (s, _) => { f with store := s }
    | .error _ => f
  | .snapshot d observedAt =>
    match f.store.ingestSnapshot d observedAt with
    | .ok (s, _, _) => { f with store := s }
    | .error _ => f
  | .event d =>
    match f.store.ingestEvent d with
    | .ok (s, i, cursor) => { f with store := s, log := logAfter f.log d i cursor }
    | .error _ => f
  | t => { f with reader := f.turn scope t }

/-! ## What is promised -/

/-- The client has every event of the scope that was stored after its base and up to its cursor,
    and what it has are events of the scope, once and in order. -/
structure NoGap : Prop where
  ordered : f.reader.received.Pairwise fun a b => a.1 < b.1
  stored : ∀ i ∈ f.reader.received, ∃ e ∈ f.log, scope.has e = true ∧ e.item = i
  complete : ∀ e ∈ f.log, scope.has e = true → f.reader.base < e.cursor →
    e.cursor ≤ f.reader.cursor.getD 0 → e.item ∈ f.reader.received

/-- The client is asked for with this limit, and gets what there is. -/
def reads : Turn → Option ℕ
  | .batch true =>
    match f.reader.connection with
    | .streaming _ => some sseEventBatchLimit
    | _ => none
  | .poll limit true =>
    match f.reader.connection with
    | .apart => if 1 ≤ limit ∧ limit ≤ 500 then some limit else none
    | _ => none
  | _ => none

/-- There are events of the scope after the cursor of the client. -/
def pending : Bool :=
  f.store.events.any fun e => scope.has e && decide (f.reader.cursor.getD 0 < e.cursor)

/-- Unless it starts later, the client goes on after its cursor. -/
def position : ℕ := max f.reader.base (f.reader.cursor.getD 0)

/-- When the client is given events nothing that it is still to receive was pruned. -/
def InWindow (t : Turn) : Prop :=
  (f.reads t).isSome → f.store.checkScope scope = .ok () → f.pending scope = true →
    f.store.eventPrunedThrough scope ≤ f.position

/-! ## What a turn does -/

section Turns

variable {scope : Scope} {f : Feed} {s' : DesktopStore} {log' : List Event}

/-- The rows of a page. -/
def rows (scope : Scope) (f : Feed) (limit : ℕ) : List Event :=
  pageAfter scope.has Event.cursor (f.reader.cursor.getD 0) limit f.store.events

theorem eventsPage_events (s : DesktopStore) (c limit : ℕ) : (s.eventsPage scope c limit).events =
    (pageAfter scope.has Event.cursor c limit s.events).map Event.item := by
  rw [DesktopStore.eventsPage, pageAfter, pageAfter, List.take_take, Nat.min_eq_left (Nat.le_succ _)]

theorem eventsPage_nextCursor (s : DesktopStore) (c limit : ℕ) :
    (s.eventsPage scope c limit).nextCursor =
      nextStamp Event.cursor c (pageAfter scope.has Event.cursor c limit s.events) := by
  rw [DesktopStore.eventsPage, pageAfter, pageAfter, List.take_take, Nat.min_eq_left (Nat.le_succ _)]

/-- Something is pending exactly when a page with room has rows. -/
theorem rows_ne_nil {limit : ℕ} (hlimit : 1 ≤ limit) :
    f.rows scope limit ≠ [] ↔ f.pending scope = true := by
  unfold rows pageAfter pending
  rw [Ne, List.take_eq_nil_iff, List.filter_eq_nil_iff, List.any_eq_true]
  push Not
  exact ⟨fun h => h.2, fun h => ⟨Nat.one_le_iff_ne_zero.mp hlimit, h⟩⟩

/-- The client after a page of at most `limit` rows. -/
def paged (scope : Scope) (f : Feed) (limit : ℕ) (connection : Connection) : Reader :=
  f.afterPage (f.store.eventsPage scope (f.reader.cursor.getD 0) limit) connection

/-- What a turn makes of the client. -/
inductive Turned (scope : Scope) (f : Feed) (t : Turn) : Reader → Prop where
  | same (connection : Connection) (hc : connection = f.reader.connection ∨ connection = .apart)
      (hread : f.reads t = none ∨ f.store.checkScope scope ≠ .ok () ∨ f.pending scope = false) :
      Turned scope f t { f.reader with connection := connection }
  | opened (hread : f.reads t = none) :
      Turned scope f t
        { f.reader with connection := .opening (f.store.eventTail scope) f.lastStored }
  | ready (tail lastStored : ℕ) (hc : f.reader.connection = .opening tail lastStored)
      (hread : f.reads t = none) : Turned scope f t (f.afterReady scope tail lastStored)
  | page (limit : ℕ) (hlimit : 1 ≤ limit) (connection : Connection)
      (hc : connection = .apart ∨ (f.pending scope = true ∧ connection =
        .streaming (f.store.eventsPage scope (f.reader.cursor.getD 0) limit).nextCursor))
      (hread : f.reads t = some limit) (hscope : f.store.checkScope scope = .ok ()) :
      Turned scope f t (f.paged scope limit connection)

variable {s : DesktopStore} {c limit : ℕ}

theorem replay_ok {page : EventsPage} (h : s.replay scope c limit = .ok page) :
    s.checkScope scope = .ok () ∧ page = s.eventsPage scope c limit := by
  simp only [DesktopStore.replay, bind_eq_ok, pure_eq_ok] at h
  obtain ⟨⟨⟩, hscope, rfl⟩ := h
  exact ⟨hscope, rfl⟩

theorem replay_error {e : Controller.Raise} (h : s.replay scope c limit = .error e) :
    s.checkScope scope ≠ .ok () := by
  intro hscope
  rw [DesktopStore.replay, hscope] at h
  cases h

theorem turned (hstream : ∀ c, f.reader.connection = .streaming c → f.reader.cursor = some c)
    (t : Turn) : Turned scope f t (f.turn scope t) := by
  cases t with
  | connect =>
    rw [turn]
    split
    · exact .opened rfl
    · exact .same _ (.inl rfl) (.inl rfl)
  | ready delivered =>
    rw [turn]
    split
    · next tail lastStored hc =>
      split
      · exact .ready tail lastStored hc rfl
      · exact .same _ (.inr rfl) (.inl rfl)
    · exact .same _ (.inl rfl) (.inl rfl)
  | batch delivered =>
    rw [turn]
    split
    · next c hc =>
      have hcursor := hstream c hc
      unfold batch
      split
      · next e he => exact .same _ (.inr rfl) (.inr (.inl (replay_error he)))
      · next page hpage =>
        obtain ⟨hscope, rfl⟩ := replay_ok hpage
        have hrows : (f.store.eventsPage scope c sseEventBatchLimit).events =
            (f.rows scope sseEventBatchLimit).map Event.item := by
          rw [eventsPage_events, rows, hcursor]
          rfl
        have hpending := @rows_ne_nil scope f sseEventBatchLimit (by decide)
        split
        · next hempty =>
          rw [hrows, List.isEmpty_iff, List.map_eq_nil_iff] at hempty
          refine .same _ (.inl rfl) (.inr (.inr ?_))
          rw [← Bool.not_eq_true, ← hpending, hempty]
          exact fun h => h rfl
        · next hempty =>
          rw [hrows, List.isEmpty_iff, List.map_eq_nil_iff] at hempty
          cases delivered with
          | true =>
            have hpage : f.paged scope sseEventBatchLimit
                (.streaming (f.store.eventsPage scope c sseEventBatchLimit).nextCursor) =
                f.afterPage (f.store.eventsPage scope c sseEventBatchLimit)
                (.streaming (f.store.eventsPage scope c sseEventBatchLimit).nextCursor) := by
              rw [paged, hcursor]
              rfl
            rw [if_pos rfl, ← hpage]
            refine .page _ (by decide) _ (.inr ⟨hpending.mp hempty, ?_⟩) ?_ hscope
            · rw [hcursor]
              rfl
            · rw [reads, hc]
          | false => exact .same _ (.inr rfl) (.inl rfl)
    · next hc =>
      refine .same _ (.inl rfl) (.inl ?_)
      cases delivered with
      | false => rfl
      | true =>
        rw [reads]
        split
        · next c hc' => exact absurd hc' (hc c)
        · rfl
  | poll limit delivered =>
    rw [turn]
    split
    · next hc =>
      unfold poll
      split
      · next hlimit =>
        split
        · next page hpage =>
          obtain ⟨hscope, rfl⟩ := replay_ok hpage
          cases delivered with
          | true =>
            refine .page limit hlimit.1 _ (.inl rfl) ?_ hscope
            rw [reads, hc]
            exact if_pos hlimit
          | false => exact .same _ (.inl rfl) (.inl rfl)
        · next e he => exact .same _ (.inl rfl) (.inr (.inl (replay_error he)))
      · next hlimit =>
        refine .same _ (.inl rfl) (.inl ?_)
        cases delivered with
        | false => rfl
        | true =>
          rw [reads, hc]
          exact if_neg hlimit
    · next hc =>
      refine .same _ (.inl rfl) (.inl ?_)
      cases delivered with
      | false => rfl
      | true =>
        rw [reads]
        split
        · next hc' => exact absurd hc' hc
        · rfl
  | drop => exact .same _ (.inr rfl) (.inl rfl)
  | host | snapshot | event => exact .same _ (.inl rfl) (.inl rfl)

end Turns

end Feed

end HomeAddons.Desktop
