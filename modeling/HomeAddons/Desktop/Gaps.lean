import HomeAddons.Desktop.Stream

/-!
# Codex Desktop: gaps

When a client that follows the events misses some without being told.

* `Follows`: what holds of a client whatever it has missed, and `Complete`: it has missed nothing.
* `Follows.step`: a step makes a gap exactly when it reads behind the watermark.
* `silent_gaps`: so do the steps of a run.
* `slow_reader_gap`: a reader that was slower than five thousand events.
-/

namespace HomeAddons.Desktop

open HomeAddons.Common

namespace Feed

/-! ## What every run keeps -/

section Following

variable {scope : Scope} {f : Feed} {s' : DesktopStore} {log' : List Event}

/-- What holds of a client whatever it has missed. -/
structure Follows (scope : Scope) (f : Feed) : Prop where
  logged : Logged f.store f.log
  ordered : f.reader.received.Pairwise fun a b => a.1 < b.1
  stored : ∀ i ∈ f.reader.received, ∃ e ∈ f.log, scope.has e = true ∧ e.item = i
  at_lt : f.reader.cursor.getD 0 < f.store.nextCursor
  seen : ∀ i ∈ f.reader.received, i.1 ≤ f.position
  ahead : ∀ e ∈ f.store.events, scope.has e = true → f.reader.cursor.getD 0 < e.cursor →
    ∀ i ∈ f.reader.received, i.1 < e.cursor
  unstarted : f.reader.cursor = none → f.reader.received = []
  opening : ∀ tail last, f.reader.connection = .opening tail last →
    tail ≤ last ∧ last < f.store.nextCursor ∧ (∀ i ∈ f.reader.received, i.1 ≤ last) ∧
    ∀ e ∈ f.store.events, scope.has e = true → tail < e.cursor → last < e.cursor
  streaming : ∀ c, f.reader.connection = .streaming c → f.reader.cursor = some c

/-- The client has every event up to its cursor. -/
def Complete (scope : Scope) (f : Feed) : Prop :=
  ∀ e ∈ f.log, scope.has e = true → f.reader.base < e.cursor →
    e.cursor ≤ f.reader.cursor.getD 0 → e.item ∈ f.reader.received

theorem Follows.noGap_iff (h : Follows scope f) : NoGap scope f ↔ Complete scope f :=
  ⟨fun h' => h'.complete, fun hc => ⟨h.ordered, h.stored, hc⟩⟩

theorem follows_start : Follows scope start where
  logged := Logged.empty
  ordered := List.Pairwise.nil
  stored _ hi := absurd hi List.not_mem_nil
  at_lt := Nat.one_pos
  seen _ hi := absurd hi List.not_mem_nil
  ahead _ he := absurd he List.not_mem_nil
  unstarted _ := rfl
  opening _ _ h := by cases h
  streaming _ h := by cases h

/-- A store that has grown: what is there was there, or has a new cursor. -/
structure Grown (f : Feed) (s' : DesktopStore) (log' : List Event) : Prop where
  logged : Logged s' log'
  next : f.store.nextCursor ≤ s'.nextCursor
  events : ∀ e ∈ s'.events, e ∈ f.store.events ∨ f.store.nextCursor ≤ e.cursor
  log : ∀ e ∈ log', e ∈ f.log ∨ f.store.nextCursor ≤ e.cursor
  kept : ∀ e ∈ f.log, e ∈ log'

theorem Grown.same (h : Logged f.store f.log) (hs : f.store.SameStreams s') :
    Grown f s' f.log where
  logged := h.same hs
  next := Nat.le_of_eq hs.nextCursor.symm
  events _ he := .inl (hs.events ▸ he)
  log _ he := .inl he
  kept _ he := he

theorem Grown.ingest {d : EventDoc} {i : Ingested} {c : ℕ} (h : Logged f.store f.log)
    (hok : f.store.ingestEvent d = .ok (s', i, c)) : Grown f s' (logAfter f.log d i c) := by
  have hlogged := h.ingest hok
  obtain ⟨rfl, rfl⟩ | ⟨s₁, hsame, -, rfl, rfl, rfl⟩ := DesktopStore.ingestEvent_cases hok
  · exact Grown.same h (DesktopStore.SameStreams.refl _)
  · have hs := hsame.sameStreams
    refine ⟨hlogged, ?_, fun e he => ?_, fun e he => ?_, fun _ he => List.mem_append_left _ he⟩
    · exact (Nat.le_of_eq hs.nextCursor.symm).trans (Nat.le_succ _)
    · have he := (keepNewest_sublist _ _).mem he
      obtain he | he := List.mem_append.mp he
      · exact .inl (hs.events ▸ he)
      · rw [List.mem_singleton.mp he]
        exact .inr (Nat.le_of_eq hs.nextCursor.symm)
    · obtain he | he := List.mem_append.mp he
      · exact .inl he
      · rw [List.mem_singleton.mp he]
        exact .inr (Nat.le_of_eq hs.nextCursor.symm)

theorem Follows.grown (h : Follows scope f) (hg : Grown f s' log') :
    Follows scope { f with store := s', log := log' } where
  logged := hg.logged
  ordered := h.ordered
  stored i hi := by
    obtain ⟨e, he, hscope, hitem⟩ := h.stored i hi
    exact ⟨e, hg.kept e he, hscope, hitem⟩
  at_lt := h.at_lt.trans_le hg.next
  seen := h.seen
  ahead e he hscope hlt i hi := by
    obtain he | hnew := hg.events e he
    · exact h.ahead e he hscope hlt i hi
    · obtain ⟨e', he', -, hitem⟩ := h.stored i hi
      rw [← hitem]
      exact (h.logged.fresh e' he').trans_le hnew
  unstarted := h.unstarted
  opening tail last hc := by
    obtain ⟨hle, hlast, hreceived, hafter⟩ := h.opening tail last hc
    refine ⟨hle, hlast.trans_le hg.next, hreceived, fun e he hscope hlt => ?_⟩
    obtain he | hnew := hg.events e he
    · exact hafter e he hscope hlt
    · exact hlast.trans_le hnew
  streaming := h.streaming

theorem Complete.grown (hf : Follows scope f) (h : Complete scope f) (hg : Grown f s' log') :
    Complete scope { f with store := s', log := log' } := by
  intro e he hscope hbase hle
  obtain he | hnew := hg.log e he
  · exact h e he hscope hbase hle
  · exact absurd (hle.trans_lt hf.at_lt) (Nat.not_lt.mpr hnew)

/-- Documents keep the client and what it has. -/
theorem Follows.document (h : Follows scope f) {g : Feed}
    (hg : g = f ∨ ∃ s' log', Grown f s' log' ∧ g = { f with store := s', log := log' }) :
    Follows scope g ∧ (Complete scope f → Complete scope g) := by
  obtain rfl | ⟨s', log', hgrown, rfl⟩ := hg
  · exact ⟨h, id⟩
  · exact ⟨h.grown hgrown, fun hc => hc.grown h hgrown⟩

variable {connection : Connection} {limit : ℕ} {e : Event}

/-- The connection breaks. -/
theorem Follows.same (h : Follows scope f)
    (hc : connection = f.reader.connection ∨ connection = .apart) :
    Follows scope { f with reader := { f.reader with connection := connection } } where
  logged := h.logged
  ordered := h.ordered
  stored := h.stored
  at_lt := h.at_lt
  seen := h.seen
  ahead := h.ahead
  unstarted := h.unstarted
  opening tail last heq := by
    obtain rfl | rfl := hc
    · exact h.opening tail last heq
    · cases heq
  streaming c heq := by
    obtain rfl | rfl := hc
    · exact h.streaming c heq
    · cases heq

theorem le_foldl_max (l : List ℕ) (m : ℕ) : m ≤ l.foldl max m ∧ ∀ n ∈ l, n ≤ l.foldl max m := by
  induction l generalizing m with
  | nil => exact ⟨Nat.le_refl _, fun _ h => absurd h List.not_mem_nil⟩
  | cons k l ih =>
    obtain ⟨hle, hall⟩ := ih (max m k)
    refine ⟨(Nat.le_max_left _ _).trans hle, fun n hn => ?_⟩
    obtain rfl | hn := List.mem_cons.mp hn
    · exact (Nat.le_max_right _ _).trans hle
    · exact hall n hn

theorem foldl_max_le {l : List ℕ} {m b : ℕ} (hm : m ≤ b) (h : ∀ n ∈ l, n ≤ b) :
    l.foldl max m ≤ b := by
  induction l generalizing m with
  | nil => exact hm
  | cons k l ih =>
    exact ih (Nat.max_le.mpr ⟨hm, h k List.mem_cons_self⟩)
      fun n hn => h n (List.mem_cons_of_mem _ hn)

/-- The tail is read. -/
theorem Follows.opened (h : Follows scope f) : Follows scope { f with reader :=
    { f.reader with connection := .opening (f.store.eventTail scope) f.lastStored } } where
  logged := h.logged
  ordered := h.ordered
  stored := h.stored
  at_lt := h.at_lt
  seen := h.seen
  ahead := h.ahead
  unstarted := h.unstarted
  opening tail last heq := by
    cases heq
    have hfresh : ∀ e ∈ f.log, e.cursor ≤ f.lastStored := fun e he =>
      Nat.le_sub_one_of_lt (h.logged.fresh e he)
    have hsub := (h.logged.retains scope).sub
    refine ⟨?_, Nat.sub_one_lt_of_lt h.logged.positive, fun i hi => ?_, fun e he hscope hlt => ?_⟩
    · refine foldl_max_le (Nat.zero_le _) fun n hn => ?_
      obtain ⟨e, he, rfl⟩ := List.mem_map.mp hn
      exact hfresh e (hsub.mem (List.mem_filter.mp he).1)
    · obtain ⟨e, he, -, rfl⟩ := h.stored i hi
      exact hfresh e he
    · have hle : e.cursor ≤ f.store.eventTail scope :=
        (le_foldl_max _ _).2 _ (List.mem_map.mpr ⟨e, List.mem_filter.mpr ⟨he, hscope⟩, rfl⟩)
      exact absurd hlt (Nat.not_lt.mpr hle)
  streaming c heq := by cases heq

/-- What `ready` says: the client starts at the tail, it is to fetch everything again and goes on
    from the tail, or it goes on where it was. -/
theorem afterReady_cases (tail last : ℕ) :
    (f.reader.cursor = none ∧ f.afterReady scope tail last = { f.reader with
      connection := .streaming tail, cursor := some tail, base := last }) ∨
    f.afterReady scope tail last = { f.reader with
      connection := .streaming tail, cursor := some tail, base := f.lastStored } ∨
    ∃ c, f.reader.cursor = some c ∧
      f.afterReady scope tail last = { f.reader with connection := .streaming c } := by
  unfold afterReady readyFrame
  cases hcursor : f.reader.cursor with
  | none => exact .inl ⟨rfl, rfl⟩
  | some c =>
    simp only [Option.any_some, Option.getD_some, Option.isNone_some]
    split
    · exact .inr (.inl rfl)
    · refine .inr (.inr ⟨c, rfl, ?_⟩)
      simp [hcursor]

/-- After `ready` the client is complete when it was. -/
theorem Follows.ready (h : Follows scope f) {tail last : ℕ}
    (hc : f.reader.connection = .opening tail last) :
    Follows scope { f with reader := f.afterReady scope tail last } ∧
      (Complete scope f → Complete scope { f with reader := f.afterReady scope tail last }) := by
  obtain ⟨hle, hlast, hreceived, hafter⟩ := h.opening tail last hc
  have hfresh : ∀ e ∈ f.log, e.cursor ≤ f.lastStored := fun e he =>
    Nat.le_sub_one_of_lt (h.logged.fresh e he)
  obtain ⟨hnone, heq⟩ | heq | ⟨c, hsome, heq⟩ := @afterReady_cases scope f tail last
  · rw [heq]
    have hempty := h.unstarted hnone
    constructor
    · exact
        { logged := h.logged
          ordered := h.ordered
          stored := h.stored
          at_lt := hle.trans_lt hlast
          seen := fun i hi => absurd (hempty ▸ hi) List.not_mem_nil
          ahead := fun _ _ _ _ i hi => absurd (hempty ▸ hi) List.not_mem_nil
          unstarted := fun _ => hempty
          opening := fun _ _ heq => by cases heq
          streaming := fun _ heq => by
            cases heq
            rfl }
    · exact fun _ e _ _ hbase hto => absurd (hto.trans hle) (Nat.not_le.mpr hbase)
  · rw [heq]
    constructor
    · exact
        { logged := h.logged
          ordered := h.ordered
          stored := h.stored
          at_lt := hle.trans_lt hlast
          seen := fun i hi => by
            obtain ⟨e, he, -, rfl⟩ := h.stored i hi
            exact (hfresh e he).trans (Nat.le_max_left _ _)
          ahead := fun e he hscope hlt i hi =>
            (hreceived i hi).trans_lt (hafter e he hscope hlt)
          unstarted := fun heq => by cases heq
          opening := fun _ _ heq => by cases heq
          streaming := fun _ heq => by
            cases heq
            rfl }
    · exact fun _ e he _ hbase _ => absurd (hfresh e he) (Nat.not_le.mpr hbase)
  · rw [heq]
    constructor
    · exact
        { logged := h.logged
          ordered := h.ordered
          stored := h.stored
          at_lt := h.at_lt
          seen := h.seen
          ahead := h.ahead
          unstarted := h.unstarted
          opening := fun _ _ heq => by cases heq
          streaming := fun _ heq => by
            cases heq
            exact hsome }
    · exact id

/-! ## Pages -/

/-- The rows of a page are kept events of the scope beyond the cursor. -/
theorem mem_rows (he : e ∈ f.rows scope limit) :
    e ∈ f.store.events ∧ scope.has e = true ∧ f.reader.cursor.getD 0 < e.cursor :=
  mem_pageAfter he

theorem paged_received (limit : ℕ) (connection : Connection) :
    (f.paged scope limit connection).received =
      f.reader.received ++ (f.rows scope limit).map Event.item := by
  rw [paged, afterPage, eventsPage_events]
  rfl

theorem paged_cursor (limit : ℕ) (connection : Connection) :
    (f.paged scope limit connection).cursor =
      some (nextStamp Event.cursor (f.reader.cursor.getD 0) (f.rows scope limit)) := by
  rw [paged, afterPage, eventsPage_nextCursor]
  rfl

/-- A page does not lead back. -/
theorem le_nextCursor (limit : ℕ) : f.reader.cursor.getD 0 ≤
    nextStamp Event.cursor (f.reader.cursor.getD 0) (f.rows scope limit) := by
  by_cases hne : f.rows scope limit = []
  · rw [hne]
    exact Nat.le_refl _
  · obtain ⟨e, he, hstamp⟩ := @nextStamp_mem _ Event.cursor
      (f.reader.cursor.getD 0) _ hne
    rw [← hstamp]
    exact Nat.le_of_lt (mem_rows he).2.2

/-- The client gets a page. -/
theorem Follows.page (h : Follows scope f)
    (hc : connection = .apart ∨ connection = .streaming
      (f.store.eventsPage scope (f.reader.cursor.getD 0) limit).nextCursor) :
    Follows scope { f with reader := f.paged scope limit connection } := by
  have hsub := (h.logged.retains scope).sub
  have hsorted := h.logged.sorted.sublist hsub
  have hlast : ∀ e ∈ f.rows scope limit,
      e.cursor ≤ nextStamp Event.cursor (f.reader.cursor.getD 0) (f.rows scope limit) :=
    fun e he => le_nextStamp hsorted he
  exact
    { logged := h.logged
      ordered := by
        rw [paged_received, List.pairwise_append, List.pairwise_map]
        refine ⟨h.ordered, hsorted.sublist (pageAfter_sublist _ _), fun i hi j hj => ?_⟩
        obtain ⟨e, he, rfl⟩ := List.mem_map.mp hj
        obtain ⟨hkept, hscope, hlt⟩ := mem_rows he
        exact h.ahead e hkept hscope hlt i hi
      stored := fun i hi => by
        rw [paged_received, List.mem_append] at hi
        obtain hi | hi := hi
        · exact h.stored i hi
        · obtain ⟨e, he, rfl⟩ := List.mem_map.mp hi
          obtain ⟨hkept, hscope, -⟩ := mem_rows he
          exact ⟨e, hsub.mem hkept, hscope, rfl⟩
      at_lt := by
        rw [paged_cursor, Option.getD_some]
        by_cases hne : f.rows scope limit = []
        · rw [hne]
          exact h.at_lt
        · obtain ⟨e, he, hstamp⟩ := @nextStamp_mem _ Event.cursor
            (f.reader.cursor.getD 0) _ hne
          rw [← hstamp]
          exact h.logged.fresh e (hsub.mem (mem_rows he).1)
      seen := fun i hi => by
        have hposition : f.position ≤ position { f with reader := f.paged scope limit connection } := by
          unfold position
          rw [paged_cursor, Option.getD_some]
          exact Nat.max_le.mpr ⟨Nat.le_max_left _ _, (le_nextCursor limit).trans (Nat.le_max_right _ _)⟩
        rw [paged_received, List.mem_append] at hi
        obtain hi | hi := hi
        · exact (h.seen i hi).trans hposition
        · obtain ⟨e, he, rfl⟩ := List.mem_map.mp hi
          unfold position
          rw [paged_cursor, Option.getD_some]
          exact (hlast e he).trans (Nat.le_max_right _ _)
      ahead := fun e he hscope hlt i hi => by
        rw [paged_cursor, Option.getD_some] at hlt
        rw [paged_received, List.mem_append] at hi
        obtain hi | hi := hi
        · exact h.ahead e he hscope ((le_nextCursor limit).trans_lt hlt) i hi
        · obtain ⟨e', he', rfl⟩ := List.mem_map.mp hi
          exact (hlast e' he').trans_lt hlt
      unstarted := fun hnone => by
        rw [paged_cursor] at hnone
        cases hnone
      opening := fun _ _ heq => by
        obtain rfl | rfl := hc <;> cases heq
      streaming := fun _ heq => by
        obtain rfl | rfl := hc <;> cases heq
        rfl }

/-- Events of the log with the same cursor are the same. -/
theorem Follows.unique (h : Follows scope f) {e' : Event} (he : e ∈ f.log) (he' : e' ∈ f.log)
    (heq : e.cursor = e'.cursor) : e = e' := by
  have hnodup : (f.log.map Event.cursor).Nodup := by
    rw [List.Nodup, List.pairwise_map]
    exact h.logged.sorted.imp fun hlt => Nat.ne_of_lt hlt
  exact List.inj_on_of_nodup_map hnodup he he' heq

/-- A page that has rows leaves the client complete exactly when the watermark is not beyond it. -/
theorem Follows.complete_page_iff (h : Follows scope f) (hc : Complete scope f)
    (hne : f.rows scope limit ≠ []) :
    Complete scope { f with reader := f.paged scope limit connection } ↔
      f.store.eventPrunedThrough scope ≤ f.position := by
  have hpage := (h.logged.retains scope).page_iff h.logged.sorted
    (Nat.le_max_right f.reader.base _) hne
  rw [position, ← hpage]
  unfold Complete
  rw [paged_received, paged_cursor, Option.getD_some]
  constructor
  · intro hall e he hscope hlt hle
    have hbase : f.reader.base < e.cursor := (Nat.le_max_left _ _).trans_lt hlt
    obtain hi | hi := List.mem_append.mp (hall e he hscope hbase hle)
    · exact absurd (h.seen _ hi) (Nat.not_le.mpr hlt)
    · obtain ⟨e', he', hitem⟩ := List.mem_map.mp hi
      have hlog := (h.logged.retains scope).sub.mem (mem_rows he').1
      rw [h.unique he hlog (congrArg Prod.fst hitem).symm]
      exact he'
  · intro hall e he hscope hbase hle
    rw [List.mem_append]
    by_cases hold : e.cursor ≤ f.reader.cursor.getD 0
    · exact .inl (hc e he hscope hbase hold)
    · have hlt : f.position < e.cursor := Nat.max_lt.mpr ⟨hbase, Nat.lt_of_not_le hold⟩
      exact .inr (List.mem_map_of_mem (hall e he hscope hlt hle))

/-- A page without rows changes nothing. -/
theorem Complete.page_nil (hc : Complete scope f) (hnil : f.rows scope limit = []) :
    Complete scope { f with reader := f.paged scope limit connection } := by
  unfold Complete
  rw [paged_received, paged_cursor, hnil, Option.getD_some, List.map_nil, List.append_nil]
  exact hc

/-! ## Every run -/

/-- A document is no turn of the client. -/
theorem step_cases (t : Turn) : (f.step scope t = { f with reader := f.turn scope t }) ∨
    (f.reads t = none ∧ (Logged f.store f.log → f.step scope t = f ∨ ∃ s' log',
      Grown f s' log' ∧ f.step scope t = { f with store := s', log := log' })) := by
  cases t with
  | host d observedAt =>
    refine .inr ⟨rfl, fun hlogged => ?_⟩
    rw [step]
    split
    · next s i hok =>
      exact .inr ⟨s, f.log, Grown.same hlogged (DesktopStore.ingestHost_sameStreams hok), rfl⟩
    · exact .inl rfl
  | snapshot d observedAt =>
    refine .inr ⟨rfl, fun hlogged => ?_⟩
    rw [step]
    split
    · next s i row hok =>
      exact .inr ⟨s, f.log, Grown.same hlogged (DesktopStore.ingestSnapshot_sameStreams hok), rfl⟩
    · exact .inl rfl
  | event d =>
    refine .inr ⟨rfl, fun hlogged => ?_⟩
    rw [step]
    split
    · next s i c hok => exact .inr ⟨s, _, Grown.ingest hlogged hok, rfl⟩
    · exact .inl rfl
  | connect | ready | batch | drop | poll => exact .inl rfl

/-- A step keeps what holds of every client, and makes a gap exactly when it reads behind the
    watermark. -/
theorem Follows.step (h : Follows scope f) (t : Turn) : Follows scope (f.step scope t) ∧
    (Complete scope f → (Complete scope (f.step scope t) ↔ f.InWindow scope t)) := by
  obtain heq | ⟨hread, hdocument⟩ := @step_cases scope f t
  · rw [heq]
    have hturned := @turned scope f h.streaming t
    generalize f.turn scope t = r at hturned
    cases hturned with
    | same connection hc hread =>
      refine ⟨h.same hc, fun hcomplete => ⟨fun _ hsome hscope hpending => ?_, fun _ => hcomplete⟩⟩
      obtain hread | hread | hread := hread
      · rw [hread] at hsome
        cases hsome
      · exact absurd hscope hread
      · rw [hread] at hpending
        cases hpending
    | opened hread =>
      refine ⟨h.opened, fun hcomplete => ⟨fun _ hsome => ?_, fun _ => hcomplete⟩⟩
      rw [hread] at hsome
      cases hsome
    | ready tail last hc hread =>
      refine ⟨(h.ready hc).1, fun hcomplete => ⟨fun _ hsome => ?_,
        fun _ => (h.ready hc).2 hcomplete⟩⟩
      rw [hread] at hsome
      cases hsome
    | page limit hlimit connection hc hread hscope =>
      refine ⟨h.page (hc.imp_right And.right), fun hcomplete => ?_⟩
      by_cases hne : f.rows scope limit = []
      · refine ⟨fun _ _ _ hpending => ?_, fun _ => hcomplete.page_nil hne⟩
        exact absurd hne ((rows_ne_nil hlimit).mpr hpending)
      · rw [h.complete_page_iff hcomplete hne, InWindow, hread]
        exact ⟨fun hle _ _ _ => hle, fun hall => hall rfl hscope ((rows_ne_nil hlimit).mp hne)⟩
  · obtain ⟨hfollows, hcomplete⟩ := h.document (hdocument h.logged)
    refine ⟨hfollows, fun hc => ⟨fun _ hsome => ?_, fun _ => hcomplete hc⟩⟩
    rw [hread] at hsome
    cases hsome

/-- The client has no gap throughout exactly the runs in which every read that finds events is
    taken while the watermark is not beyond the client. -/
theorem silent_gaps (scope : Scope) (turns : List Turn) :
    Throughout (step scope) (NoGap scope) start turns ↔
      EveryStep (step scope) (InWindow scope) start turns :=
  throughout_iff_everyStep (step scope) (I := fun f => Follows scope f ∧ Complete scope f)
    (fun _ hf => hf.1.noGap_iff.mpr hf.2)
    (fun _ t hf hin => ⟨(hf.1.step t).1, ((hf.1.step t).2 hf.2).mpr hin⟩)
    (fun _ t hf hout hgap => hout (((hf.1.step t).2 hf.2).mp
      ((hf.1.step t).1.noGap_iff.mp hgap)))
    ⟨follows_start, fun _ he => absurd he List.not_mem_nil⟩

end Following

/-! ## A slow reader -/

/-- A snapshot of a thread on a host. -/
def slowSnapshot : SnapshotDoc where
  hostRef := "HS-AAAAAAAAAAAAAAAAAAAA"
  projectRef := "PJ-AAAAAAAAAAAAAAAAAAAA"
  threadRef := "TH-AAAAAAAAAAAAAAAAAAAA"
  runnerId := "RN-AAAAAAAAAAAAAAAAAAAA"
  threadRevision := 1
  snapshotSequence := some 1
  hostSequence := none
  host := []
  body := [("project_alias", .str "home"), ("title", .str "task"), ("status", .str "idle"),
    ("control_state", .str "ready"), ("control_revision", .int 1)]
  bodyDigest := "sha256:ffffffffffffffffffffffffffffffffffffffffffffffffffffffffffffffff"
  valid := by decide

/-- Hexadecimal digits, the last one first. -/
def hexDigits : ℕ → ℕ → List Char
  | 0, _ => []
  | k + 1, n => Nat.digitChar (n % 16) :: hexDigits k (n / 16)

variable {m n : ℕ} {f : Feed}

theorem hexDigits_inj {k : ℕ} (hm : m < 16 ^ k) (hn : n < 16 ^ k)
    (h : hexDigits k m = hexDigits k n) : m = n := by
  induction k generalizing m n with
  | zero => omega
  | succ k ih =>
    rw [hexDigits, hexDigits, List.cons.injEq] at h
    have hdigit : ∀ a < 16, ∀ b < 16, Nat.digitChar a = Nat.digitChar b → a = b := by decide
    have hlow := hdigit _ (Nat.mod_lt m (by decide)) _ (Nat.mod_lt n (by decide)) h.1
    have hhigh := ih (Nat.div_lt_of_lt_mul (by rwa [pow_succ'] at hm))
      (Nat.div_lt_of_lt_mul (by rwa [pow_succ'] at hn)) h.2
    omega

/-- The `n`-th event of the thread. -/
def slowEvent (n : ℕ) : EventDoc where
  hostRef := slowSnapshot.hostRef
  projectRef := slowSnapshot.projectRef
  threadRef := slowSnapshot.threadRef
  runnerId := slowSnapshot.runnerId
  turnRef := none
  eventSequence := n + 1
  eventKind := "thread.updated"
  source := "desktop"
  threadRevision := 1
  bodyDigest := "sha256:" ++ String.ofList (hexDigits 64 n)
  createdAt := "2026-09-26T12:00:00+08:00"
  payload := []

/-- Its row. -/
def slowRow (n : ℕ) : Event := ⟨n + 1, slowEvent n⟩

def slowScope : Scope := .host slowSnapshot.hostRef

/-- The client is connected before the first event. -/
def slowOpening : List Turn :=
  [.snapshot slowSnapshot "2026-09-26T12:00:00+08:00", .connect, .ready true]

/-- Five thousand and one events, and the next frame. -/
def slowTurns : List Turn :=
  slowOpening ++ ((List.range (eventsPerHost + 1)).map fun n => .event (slowEvent n)) ++ [.batch true]

/-- The state after some events, as long as none was pruned. -/
structure Filled (f : Feed) (n : ℕ) : Prop where
  bound : f.store.Bound slowSnapshot.hostRef slowSnapshot.runnerId
  target : f.store.checkTarget (slowEvent 0) = .ok ()
  events : f.store.events = (List.range n).map slowRow
  next : f.store.nextCursor = n + 1
  marks : f.store.hostWatermarks = .empty
  reader : f.reader = ⟨.streaming 0, some 0, 0, []⟩

theorem slowEvent_digest (hm : m < eventsPerHost + 1) (hn : n < eventsPerHost + 1)
    (h : (slowEvent m).bodyDigest = (slowEvent n).bodyDigest) : m = n := by
  have hsame : hexDigits 64 m = hexDigits 64 n := by
    have hlist := congrArg String.toList h
    rw [slowEvent, slowEvent, String.toList_append, String.toList_append,
      List.append_cancel_left_eq, String.toList_ofList, String.toList_ofList] at hlist
    exact hlist
  have hlarge : eventsPerHost + 1 ≤ 16 ^ 64 := by decide
  exact hexDigits_inj (hm.trans_le hlarge) (hn.trans_le hlarge) hsame

/-- One more event is stored. -/
theorem Filled.ingest (h : Filled f n) (hn : n < eventsPerHost + 1) : ∃ hosts,
    f.store.ingestEvent (slowEvent n) = .ok
      ((({ f.store with hosts := hosts } : DesktopStore).addEvent (slowEvent n)).pruneEvents
        slowSnapshot.hostRef, .stored, n + 1) ∧
      DesktopStore.Bound { f.store with hosts := hosts } slowSnapshot.hostRef
        slowSnapshot.runnerId := by
  rw [← h.next]
  refine DesktopStore.ingestEvent_new (d := slowEvent n) h.bound h.target ?_ ?_
  · intro e he heq
    rw [h.events] at he
    obtain ⟨m, hm, rfl⟩ := List.mem_map.mp he
    have hm := List.mem_range.mp hm
    exact Nat.ne_of_lt hm (slowEvent_digest (hm.trans hn) hn heq)
  · intro e he
    rw [h.events] at he
    obtain ⟨m, hm, rfl⟩ := List.mem_map.mp he
    exact Nat.succ_lt_succ (List.mem_range.mp hm)

theorem length_slowRows (n : ℕ) : ((List.range n).map slowRow).length = n := by
  rw [List.length_map, List.length_range]

theorem slowRows_succ (n : ℕ) :
    (List.range n).map slowRow ++ [slowRow n] = (List.range (n + 1)).map slowRow := by
  rw [List.range_succ, List.map_append]
  rfl

/-- The first five thousand events stay. -/
theorem Filled.another (h : Filled f n) (hn : n < eventsPerHost) :
    Filled (f.step slowScope (.event (slowEvent n))) (n + 1) := by
  obtain ⟨hosts, hok, hbound⟩ := h.ingest (Nat.lt_succ_of_lt hn)
  have hrows : (({ f.store with hosts := hosts } : DesktopStore).addEvent (slowEvent n)).events =
      (List.range (n + 1)).map slowRow := by
    rw [← slowRows_succ, ← h.events, slowRow, ← h.next]
    rfl
  have hlength : (({ f.store with hosts := hosts } : DesktopStore).addEvent
      (slowEvent n)).events.length ≤ eventsPerHost := by
    rw [hrows, length_slowRows]
    exact hn
  rw [DesktopStore.pruneEvents, DesktopStore.pruneEventsTo_short hlength] at hok
  rw [Feed.step, hok]
  exact
    { bound := hbound
      target := h.target
      events := hrows
      next := congrArg Nat.succ h.next
      marks := h.marks
      reader := h.reader }

theorem Filled.all (h : Filled f 0) (hn : n ≤ eventsPerHost) :
    Filled (runFrom (step slowScope) f ((List.range n).map fun n => .event (slowEvent n))) n := by
  induction n with
  | zero => exact h
  | succ n ih =>
    rw [List.range_succ, List.map_append, runFrom_append]
    exact (ih (Nat.le_of_succ_le hn)).another hn

/-- The next one pushes the first event out, which the client has not received. -/
theorem Filled.overflow (h : Filled f eventsPerHost) :
    ¬ InWindow slowScope (f.step slowScope (.event (slowEvent eventsPerHost))) (.batch true) := by
  obtain ⟨hosts, hok, hbound⟩ := h.ingest (Nat.lt_succ_self _)
  set added := ({ f.store with hosts := hosts } : DesktopStore).addEvent (slowEvent eventsPerHost)
    with hadded
  set rest := ((List.range eventsPerHost).map Nat.succ).map slowRow with hrest
  have hlength : rest.length = eventsPerHost := by
    rw [hrest, List.length_map, List.length_map, List.length_range]
  have hrows : added.events = slowRow 0 :: rest := by
    have hlast : added.events = (List.range (eventsPerHost + 1)).map slowRow := by
      rw [← slowRows_succ, ← h.events, slowRow, ← h.next]
      rfl
    rw [hlast, List.range_succ_eq_map]
    rfl
  have hscope : ∀ e ∈ added.events, slowScope.has e = true := by
    intro e he
    rw [hrows] at he
    obtain rfl | he := List.mem_cons.mp he
    · rfl
    · obtain ⟨n, -, rfl⟩ := List.mem_map.mp he
      rfl
  obtain ⟨hkept, hmark⟩ := DesktopStore.pruneEventsTo_full hrows hlength hscope
  obtain ⟨row, hrow, -⟩ := Option.map_eq_some_iff.mp hbound.1
  rw [Feed.step, hok]
  intro hwindow
  have hle := hwindow ?_ ?_ ?_
  · rw [position, h.reader] at hle
    exact absurd (hmark.trans hle) (by decide)
  · rw [reads, h.reader]
    rfl
  · rw [slowScope, DesktopStore.checkScope, ensure_eq_ok]
    exact Option.isSome_iff_exists.mpr ⟨row, hrow⟩
  · rw [pending, h.reader, List.any_eq_true]
    refine ⟨slowRow 1, ?_, rfl⟩
    rw [DesktopStore.pruneEvents, hkept]
    exact List.mem_map_of_mem (List.mem_map_of_mem (List.mem_range.mpr (by decide)))

/-- The state in which the client waits for the first event. -/
theorem filled_opening : Filled (runFrom (step slowScope) start slowOpening) 0 := by
  have hfacts : ((runFrom (step slowScope) start slowOpening).store.hosts.get?
        slowSnapshot.hostRef).map Host.runnerId = some slowSnapshot.runnerId ∧
      ∀ h ∈ (runFrom (step slowScope) start slowOpening).store.hosts.rows,
        h.hostRef = slowSnapshot.hostRef := by decide +kernel
  exact
    { bound := ⟨hfacts.1, fun r hr _ => hfacts.2 r hr⟩
      target := rfl
      events := rfl
      next := rfl
      marks := rfl
      reader := rfl }

/-- What holds of a client whatever it has missed holds in every run. -/
theorem follows_run (hf : Follows scope f) (turns : List Turn) :
    Follows scope (runFrom (step scope) f turns) :=
  invariant_of_everyStep (step scope) (G := fun _ _ => True) (fun _ t h _ => (h.step t).1) hf
    (everyStep_true (step scope) (fun _ _ => trivial) _ _)

/-- A client that is connected all the time misses the first event of its host when the next five
    thousand are stored before it is sent a frame. -/
theorem slow_reader_gap : ¬ Throughout (step slowScope) (NoGap slowScope) start slowTurns := by
  intro h
  rw [slowTurns, throughout_append, runFrom_append, List.range_succ, List.map_append,
    runFrom_append, List.map_singleton, runFrom_cons, runFrom_nil] at h
  obtain ⟨-, hbefore, hafter⟩ := h
  have hfilled := filled_opening.all (Nat.le_refl eventsPerHost)
  have hfollows := follows_run (follows_run (@follows_start slowScope) slowOpening)
    ((List.range eventsPerHost).map fun n => .event (slowEvent n))
  generalize runFrom (step slowScope) (runFrom (step slowScope) start slowOpening)
    ((List.range eventsPerHost).map fun n => .event (slowEvent n)) = f at *
  have hlast := (hfollows.step (.event (slowEvent eventsPerHost))).1
  have hstep := (hlast.step (.batch true)).2 (hlast.noGap_iff.mp hbefore)
  exact hfilled.overflow (hstep.mp hafter.complete)

end Feed

end HomeAddons.Desktop
