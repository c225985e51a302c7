import HomeAddons.Common.Canonical
import HomeAddons.Common.LastWriter
import HomeAddons.Common.Rowwise
import HomeAddons.Gateway.RemoteWork

/-!
# Remote Work: the events of a task converge

The agent numbers its events by `(run_seq, sequence)`; the broker delivers them in any order and
more than once. A task follows the greatest event that was delivered.

* `Effect`: what one step can do to the tasks and the events.
* `Follows`: what holds once a set of events was delivered; `Follows.next` is the step lemma,
  `follows_run` the one for runs.
* `remote_events_converge`: the task ends at the greatest event, never goes back on the way, and the
  reply to the last result is queued once and settled at most once.
-/

namespace HomeAddons.Gateway.RemoteWork

open HomeAddons.Common

/-! ## Events -/

/-- A status or result document that passes the check. -/
structure WorkEvent where
  topic : Topic
  payload : Dict
  head : Head
  reports : topic ≠ .agent
  valid : validateIncomingDocument topic.text (.obj payload) = .ok payload
  reads : head? payload = some head

namespace WorkEvent

variable (x : WorkEvent)

def stamp : Pair := pair x.head.runSeq x.head.sequence

def digest : String := payloadDigest x.payload

/-- The text that the id of the event is the digest of. -/
def text : String := eventText x.topic x.head.taskId x.head.runSeq x.head.sequence

end WorkEvent

/-- The message carries the event. -/
def Message.Carries (m : Message) (x : WorkEvent) : Prop :=
  m.size ≤ 64 * 1024 ∧ m.topic = x.topic.text ∧ m.document = some (.obj x.payload)

/-- The step is a delivery of the event. -/
def WorkOp.Carries (op : WorkOp) (x : WorkEvent) : Prop :=
  match op with
  | .receive m _ => m.Carries x
  | _ => False

/-- Some step delivers the event. -/
def Delivered (ops : List WorkOp) (x : WorkEvent) : Prop := ∃ op ∈ ops, op.Carries x

/-! ## Checked documents -/

variable {e e' : RemoteEvent} {u : Unit} {payload : Dict} {s s' : WorkStore} {t : RemoteTask}
  {x y : WorkEvent} {r : Receipt} {now taskId : String} {m : Message} {op : WorkOp}
  {A D : WorkEvent → Prop} {ops : List WorkOp} {E : List WorkEvent}

theorem ensureIn_ok {value : Json} {names : List String} {e : Refusal}
    (h : ensureIn value names e = .ok u) : ∃ s ∈ names, value = .str s := by
  unfold ensureIn at h
  cases hin : value.inStrings names with
  | none =>
    rw [hin] at h
    cases h
  | some b =>
    rw [hin] at h
    obtain rfl := ensure_eq_ok.mp h
    unfold Json.inStrings at hin
    split_ifs at hin
    obtain ⟨s, hs, heq⟩ := List.any_eq_true.mp (Option.some.inj hin)
    cases value with
    | str t =>
      refine ⟨s, hs, ?_⟩
      rw [eq_of_beq heq]
    | _ => cases heq

theorem validateTaskDocumentCommon_ok (h : validateTaskDocumentCommon payload = .ok u) :
    ∃ head, head? payload = some head ∧ isTaskId head.taskId = true ∧ 1 ≤ head.runSeq ∧
      1 ≤ head.sequence := by
  simp only [validateTaskDocumentCommon, validateSequence, bind_eq_ok, ensure_eq_ok,
    Option.any_eq_true, decide_eq_true_eq] at h
  obtain ⟨-, -, -, ⟨id, hid, hre⟩, -, ⟨r, hr, hr1, -⟩, -, ⟨q, hq, hq1, -⟩, hstate⟩ := h
  obtain ⟨text, htext, hs⟩ := ensureIn_ok hstate
  obtain ⟨state, hstate⟩ := Option.isSome_iff_exists.mp (WorkState.ofText?_isSome htext)
  have htext : (payload.get "state").asStr? = some text := by rw [hs]; rfl
  refine ⟨⟨id, r, q, state⟩, ?_, hre, hr1, hq1⟩
  simp [head?, hid, hr, hq, htext, hstate]

/-- A checked status or result document speaks of a task and a place from (1, 1) on. -/
theorem validateIncomingDocument_ok {topic : Topic} {document : Json}
    (h : validateIncomingDocument topic.text document = .ok payload) :
    document = .obj payload ∧ (topic ≠ .agent → ∃ head, head? payload = some head ∧
      isTaskId head.taskId = true ∧ 1 ≤ head.runSeq ∧ 1 ≤ head.sequence) := by
  simp only [validateIncomingDocument, bind_eq_ok, orRaise_eq_ok, ensure_eq_ok,
    Topic.ofText?_text] at h
  obtain ⟨d, hd, -, -, h⟩ := h
  have hobj : document = .obj d := by
    cases document with
    | obj items => exact congrArg Json.obj (Option.some.inj hd)
    | _ => cases hd
  cases topic with
  | agent =>
    obtain ⟨-, -, hpayload⟩ := bind_eq_ok.mp h
    obtain rfl := pure_eq_ok.mp hpayload
    exact ⟨hobj, fun hne => absurd rfl hne⟩
  | status =>
    obtain ⟨u, hcheck, hpayload⟩ := bind_eq_ok.mp h
    obtain rfl := pure_eq_ok.mp hpayload
    simp only [validateStatus, bind_eq_ok] at hcheck
    obtain ⟨-, -, w, hcommon, -⟩ := hcheck
    exact ⟨hobj, fun _ => validateTaskDocumentCommon_ok hcommon⟩
  | result =>
    obtain ⟨u, hcheck, hpayload⟩ := bind_eq_ok.mp h
    obtain rfl := pure_eq_ok.mp hpayload
    simp only [validateResult, bind_eq_ok] at hcheck
    obtain ⟨-, -, w, hcommon, -⟩ := hcheck
    exact ⟨hobj, fun _ => validateTaskDocumentCommon_ok hcommon⟩

namespace WorkEvent

variable (x : WorkEvent)

theorem bounds : isTaskId x.head.taskId = true ∧ 1 ≤ x.head.runSeq ∧ 1 ≤ x.head.sequence := by
  obtain ⟨head, hhead, hbounds⟩ := (validateIncomingDocument_ok x.valid).2 x.reports
  obtain rfl := Option.some.inj (x.reads.symm.trans hhead)
  exact hbounds

theorem start_lt : pair 0 0 < x.stamp := by
  obtain ⟨-, hr, -⟩ := x.bounds
  exact Prod.Lex.toLex_lt_toLex.mpr (.inl (by show (0 : ℤ) < x.head.runSeq; omega))

end WorkEvent

theorem isTaskId_colon {text : String} (h : isTaskId text = true) : ':' ∉ text.toList := by
  unfold isTaskId at h
  split at h
  · rename_i cs hcs
    rw [← List.isPrefixOf?_eq_some_iff_append_eq.mp hcs]
    simp only [Bool.and_eq_true, List.all_eq_true] at h
    intro hmem
    rcases List.mem_append.mp hmem with hlabel | htail
    · revert hlabel
      decide
    · exact absurd (h.1.1 ':' htail) (by decide)
  · cases h

/-- Texts that end before a mark are read off in front of the first one. -/
theorem before_first {c : Char} {as bs : List Char} (ha : c ∉ as) (hb : c ∉ bs) {s t : List Char}
    (h : as ++ c :: s = bs ++ c :: t) : as = bs ∧ s = t := by
  induction as generalizing bs with
  | nil =>
    cases bs with
    | nil => exact ⟨rfl, (List.cons.inj h).2⟩
    | cons b bs => exact absurd ((List.cons.inj h).1 ▸ List.mem_cons_self) hb
  | cons a as ih =>
    cases bs with
    | nil => exact absurd ((List.cons.inj h).1 ▸ List.mem_cons_self) ha
    | cons b bs =>
      obtain ⟨rfl, htail⟩ := List.cons.inj h
      obtain ⟨rfl, hs⟩ := ih (fun hm => ha (List.mem_cons_of_mem _ hm))
        (fun hm => hb (List.mem_cons_of_mem _ hm)) htail
      exact ⟨rfl, hs⟩

/-- The text of an event determines its topic, its task and its place. -/
theorem eventText_inj (h : x.text = y.text) :
    x.topic = y.topic ∧ x.head.taskId = y.head.taskId ∧ x.head.runSeq = y.head.runSeq ∧
      x.head.sequence = y.head.sequence := by
  have hnum : ∀ n : ℤ, ':' ∉ (toString n).toList := fun n hmem =>
    absurd (isIntChar_of_mem hmem) (by decide)
  have hlist := congrArg String.toList h
  simp only [WorkEvent.text, eventText, String.toList_append, List.append_assoc] at hlist
  have htopic : ∀ t : Topic, ':' ∉ t.text.toList := by
    intro t
    cases t <;> decide
  have hcolon : (":" : String).toList = [':'] := rfl
  rw [hcolon] at hlist
  simp only [List.singleton_append] at hlist
  obtain ⟨ht, hlist⟩ := before_first (htopic _) (htopic _) hlist
  obtain ⟨hid, hlist⟩ := before_first (isTaskId_colon x.bounds.1) (isTaskId_colon y.bounds.1) hlist
  obtain ⟨hr, hq⟩ := before_first (hnum _) (hnum _) hlist
  refine ⟨?_, String.toList_injective hid, toList_int_inj hr, toList_int_inj hq⟩
  have htext := congrArg Topic.ofText? (String.toList_injective ht)
  simpa using htext

/-! ## What a step can do -/

/-- The place of an event: its task, its topic and its pair. -/
structure Place where
  taskId : String
  topic : Topic
  runSeq : ℤ
  sequence : ℤ
  deriving DecidableEq

def WorkEvent.place (x : WorkEvent) : Place :=
  ⟨x.head.taskId, x.topic, x.head.runSeq, x.head.sequence⟩

def RemoteEvent.place (e : RemoteEvent) : Place := ⟨e.taskId, e.topic, e.runSeq, e.sequence⟩

def RemoteEvent.pair (e : RemoteEvent) : Pair := RemoteWork.pair e.runSeq e.sequence

theorem precedes_iff {r q r' q' : ℤ} : precedes r q r' q' = true ↔ pair r q < pair r' q' := by
  unfold precedes pair
  rw [decide_eq_true_iff, Prod.Lex.toLex_lt_toLex]

/-- What the store is after an event was recorded. -/
def recordedState (s : WorkStore) (now : String) (x : WorkEvent)
    (events : Table RemoteEvent.eventId) : WorkStore :=
  { s with
    events := events
    tasks := s.tasks.update x.head.taskId (WorkStore.followed now x.topic x.head x.payload) }

/-- The event is recorded: it is new and ahead of its task. -/
def Records (s : WorkStore) (now : String) (x : WorkEvent) (s' : WorkStore) : Prop :=
  ∃ task events, s.tasks.get? x.head.taskId = some task ∧
    s.eventAt x.topic x.head.taskId x.head.runSeq x.head.sequence = none ∧ task.pair < x.stamp ∧
    s.events.insert? (WorkStore.newEvent now x.topic x.head x.payload) = some events ∧
    s' = recordedState s now x events

/-- What a step does to the tasks and the events. -/
inductive Effect (s : WorkStore) (op : WorkOp) (s' : WorkStore) : Prop where
  | aside (htasks : s'.tasks = s.tasks) (hevents : s'.events = s.events)
  | created (t : RemoteTask) (hinsert : s.tasks.insert? t = some s'.tasks)
      (hstart : t.pair = pair 0 0) (hevents : s'.events = s.events)
  | recorded (now : String) (x : WorkEvent) (hcarries : op.Carries x) (h : Records s now x s')
  | marked (identifier : String) (sent : Bool) (errorCode : Option String)
      (h : s' = s.markRemoteWorkReply identifier sent errorCode)
  | expired (now : String) (hop : op = .expire now) (h : s' = s.expireRemoteWorkTasks now)

theorem recordTaskEvent_ok (h : s.recordTaskEvent now x.topic x.head x.payload = .ok (s', r)) :
    s' = s ∨ Records s now x s' := by
  unfold WorkStore.recordTaskEvent at h
  simp only [bind_eq_ok, orRaise_eq_ok] at h
  obtain ⟨task, htask, h⟩ := h
  cases hat : s.eventAt x.topic x.head.taskId x.head.runSeq x.head.sequence with
  | some existing =>
    simp only [hat, bind_eq_ok, pure_eq_ok] at h
    obtain ⟨-, -, h⟩ := h
    cases h
    exact .inl rfl
  | none =>
    simp only [hat] at h
    by_cases hbefore : precedes x.head.runSeq x.head.sequence task.runSeq task.sequence = true
    · rw [if_pos hbefore, pure_eq_ok] at h
      cases h
      exact .inl rfl
    rw [if_neg hbefore] at h
    by_cases hsame : (x.head.runSeq = task.runSeq ∧ x.head.sequence = task.sequence) ∧
        ¬ (task.runSeq = 0 ∧ task.sequence = 0)
    · rw [if_pos hsame, pure_eq_ok] at h
      cases h
      exact .inl rfl
    rw [if_neg hsame] at h
    simp only [bind_eq_ok, orRaise_eq_ok, pure_eq_ok] at h
    obtain ⟨-, -, events, hinsert, h⟩ := h
    cases h
    refine .inr ⟨task, events, htask, hat, ?_, hinsert, rfl⟩
    have hle : task.pair ≤ x.stamp := not_lt.mp fun hlt => hbefore (precedes_iff.mpr hlt)
    refine lt_of_le_of_ne hle fun heq => hsame ?_
    obtain ⟨hr, hq⟩ := Prod.mk.inj (toLex.injective heq)
    obtain ⟨-, hpos, -⟩ := x.bounds
    exact ⟨⟨hr.symm, hq.symm⟩, fun hzero => by omega⟩

theorem recordAgent_aside (s : WorkStore) (payload : Dict) :
    (s.recordAgent payload).1.tasks = s.tasks ∧ (s.recordAgent payload).1.events = s.events := by
  unfold WorkStore.recordAgent
  simp only
  split <;> exact ⟨rfl, rfl⟩

theorem work_ok (h : work s now m = .ok (s', r)) : (s'.tasks = s.tasks ∧ s'.events = s.events) ∨
      ∃ x, m.Carries x ∧ Records s now x s' := by
  unfold work at h
  simp only [bind_eq_ok, ensure_eq_ok, orRaise_eq_ok] at h
  obtain ⟨-, hsize, document, hdocument, payload, hvalid, h⟩ := h
  unfold WorkStore.recordRemoteWorkEvent at h
  split at h
  · obtain rfl : (s.recordAgent payload).1 = s' := congrArg Prod.fst (Except.ok.inj h)
    exact .inl (recordAgent_aside s payload)
  · rename_i topic hne htopic
    have htext := Topic.text_of_ofText? htopic
    rw [htext] at hvalid
    obtain ⟨rfl, hhead⟩ := validateIncomingDocument_ok hvalid
    simp only [bind_eq_ok, orRaise_eq_ok] at h
    obtain ⟨head, hread, h⟩ := h
    have hreports : topic ≠ .agent := by
      rintro rfl
      exact hne rfl
    let x : WorkEvent := ⟨topic, payload, head, hreports, hvalid, hread⟩
    obtain rfl | hrecords := recordTaskEvent_ok (x := x) h
    · exact .inl ⟨rfl, rfl⟩
    · exact .inr ⟨x, ⟨hsize, htext, hdocument⟩, hrecords⟩
  · cases h

/-- A command creates a task at the start or leaves the tasks alone. -/
theorem enqueueRemoteWorkCommand_ok {c : WorkStore.Command} {known : Bool}
    (h : s.enqueueRemoteWorkCommand c now = .ok (s', t, known)) :
    s'.events = s.events ∧ (s'.tasks = s.tasks ∨
      ∃ t : RemoteTask, t.pair = pair 0 0 ∧ s.tasks.insert? t = some s'.tasks) := by
  unfold WorkStore.enqueueRemoteWorkCommand at h
  simp only [bind_eq_ok, orRaise_eq_ok] at h
  obtain ⟨identifier, -, taskId, -, h⟩ := h
  split at h
  · simp only [bind_eq_ok, pure_eq_ok] at h
    obtain ⟨_, _, _, _, h⟩ := h
    cases h
    exact ⟨rfl, .inl rfl⟩
  · simp only [bind_eq_ok, pure_eq_ok] at h
    obtain ⟨tasks, htasks, _, _, _, _, h⟩ := h
    cases h
    refine ⟨rfl, ?_⟩
    unfold WorkStore.commandTask at htasks
    split at htasks
    · cases htasks
    · simp only [bind_eq_ok, orRaise_eq_ok] at htasks
      obtain ⟨_, _, hinsert⟩ := htasks
      exact .inr ⟨_, rfl, hinsert⟩
    · cases htasks
    · simp only [bind_eq_ok, pure_eq_ok] at htasks
      obtain ⟨_, _, _, _, _, _, htasks⟩ := htasks
      exact .inl htasks.symm

section Step

variable {s s' : WorkStore} {m : Message} {c : WorkStore.Command} {now : String} {e : Refusal}

theorem step_receive_error (h : work s now m = .error e) : step s (.receive m now) = s := by
  simp only [step, h, Except.map, Except.toOption, Option.getD]

theorem step_receive_ok {r : Receipt} (h : work s now m = .ok (s', r)) :
    step s (.receive m now) = s' := by
  simp only [step, h, Except.map, Except.toOption, Option.getD]

theorem step_enqueue_error (h : s.enqueueRemoteWorkCommand c now = .error e) :
    step s (.enqueue c now) = s := by
  simp only [step, h, Except.map, Except.toOption, Option.getD]

theorem step_enqueue_ok {r : RemoteTask × Bool}
    (h : s.enqueueRemoteWorkCommand c now = .ok (s', r)) : step s (.enqueue c now) = s' := by
  simp only [step, h, Except.map, Except.toOption, Option.getD]

end Step

theorem step_effect (s : WorkStore) (op : WorkOp) : Effect s op (step s op) := by
  cases op with
  | enqueue c now =>
    cases hrun : s.enqueueRemoteWorkCommand c now with
    | error e =>
      rw [step_enqueue_error hrun]
      exact .aside rfl rfl
    | ok result =>
      obtain ⟨s', t, known⟩ := result
      rw [step_enqueue_ok hrun]
      obtain ⟨hevents, htasks | ⟨t, hstart, hinsert⟩⟩ := enqueueRemoteWorkCommand_ok hrun
      · exact .aside htasks hevents
      · exact .created t hinsert hstart hevents
  | markOutbox messageId success errorCode now => exact .aside rfl rfl
  | receive m now =>
    cases hrun : work s now m with
    | error e =>
      rw [step_receive_error hrun]
      exact .aside rfl rfl
    | ok result =>
      obtain ⟨s', r⟩ := result
      rw [step_receive_ok hrun]
      obtain ⟨htasks, hevents⟩ | ⟨x, hcarries, hrecords⟩ := work_ok hrun
      · exact .aside htasks hevents
      · exact .recorded now x hcarries hrecords
  | markReply identifier sent errorCode => exact .marked identifier sent errorCode rfl
  | expire now => exact .expired now rfl rfl

/-! ## Tasks and rows along a step -/

theorem get?_expire {s : WorkStore} {now id : String} {t : RemoteTask}
    (ht : s.tasks.get? id = some t) : (s.expireRemoteWorkTasks now).tasks.get? id =
      some (if WorkStore.expires now t then { t with state := .expired, updatedAt := now }
        else t) := by
  refine (Table.get?_updateWhere s.tasks (WorkStore.expires now) _ (by intro _; rfl) id).trans ?_
  rw [ht]
  rfl

/-- A task stays, and never goes back. -/
theorem Effect.task (h : Effect s op s') {id : String} (ht : s.tasks.get? id = some t) :
    ∃ t', s'.tasks.get? id = some t' ∧ t.pair ≤ t'.pair := by
  cases h with
  | aside htasks =>
    rw [htasks]
    exact ⟨t, ht, le_refl _⟩
  | created new hinsert => exact ⟨t, Table.get?_insert?_of_get? hinsert ht, le_refl _⟩
  | recorded now x _ hrecords =>
    obtain ⟨task, events, htask, -, hlt, -, rfl⟩ := hrecords
    by_cases hid : id = x.head.taskId
    · subst hid
      obtain rfl := Option.some.inj (ht.symm.trans htask)
      refine ⟨_, Table.get?_update_of_get? htask _ (by intro _; rfl), le_of_lt ?_⟩
      exact hlt
    · refine ⟨t, ?_, le_refl _⟩
      rw [← ht]
      exact Table.get?_update_of_ne _ hid _ (by intro _; rfl)
  | marked identifier sent errorCode h =>
    subst h
    exact ⟨t, ht, le_refl _⟩
  | expired now _ h =>
    subst h
    refine ⟨_, get?_expire ht, ?_⟩
    split <;> exact le_refl _

/-- The two rows are of one event, before and after its reply was settled. -/
def SameEvent (e e' : RemoteEvent) : Prop :=
  e'.place = e.place ∧ e'.eventId = e.eventId ∧ e'.payloadDigest = e.payloadDigest

/-- A row was there before, or is the one of the event that was recorded. -/
theorem Effect.row (h : Effect s op s') (he' : e' ∈ s'.events.rows) :
    (∃ e ∈ s.events.rows, SameEvent e e') ∨
      ∃ now x, op.Carries x ∧ Records s now x s' ∧
        e' = WorkStore.newEvent now x.topic x.head x.payload := by
  cases h with
  | aside _ hevents => exact .inl ⟨e', hevents ▸ he', rfl, rfl, rfl⟩
  | created _ _ _ hevents => exact .inl ⟨e', hevents ▸ he', rfl, rfl, rfl⟩
  | recorded now x hcarries hrecords =>
    obtain ⟨task, events, htask, hat, hlt, hinsert, rfl⟩ := id hrecords
    have hrows : e' ∈ s.events.rows ++ [_] := Table.rows_insert? hinsert ▸ he'
    obtain hold | hnew := List.mem_append.mp hrows
    · exact .inl ⟨e', hold, rfl, rfl, rfl⟩
    · exact .inr ⟨now, x, hcarries, hrecords, List.mem_singleton.mp hnew⟩
  | marked identifier sent errorCode h =>
    subst h
    obtain ⟨e, he, rfl⟩ := List.mem_map.mp he'
    refine .inl ⟨e, he, ?_⟩
    split <;> exact ⟨rfl, rfl, rfl⟩
  | expired _ _ h =>
    subst h
    exact .inl ⟨e', he', rfl, rfl, rfl⟩

/-- The rows of events are named by their place, and their task is at least as far. -/
structure Sound (s : WorkStore) : Prop where
  ids : ∀ e ∈ s.events.rows, e.eventId = eventId e.topic e.taskId e.runSeq e.sequence
  owned : ∀ e ∈ s.events.rows, ∃ t, s.tasks.get? e.taskId = some t ∧ pair 0 0 < e.pair ∧
    e.pair ≤ t.pair

theorem sound_empty : Sound .empty where
  ids _ he := absurd he List.not_mem_nil
  owned _ he := absurd he List.not_mem_nil

theorem Records.task (h : Records s now x s') :
    ∃ t, s'.tasks.get? x.head.taskId = some t ∧ t.pair = x.stamp ∧ t.state = x.head.state := by
  obtain ⟨task, events, htask, -, -, -, rfl⟩ := h
  exact ⟨_, Table.get?_update_of_get? htask _ (by intro _; rfl), rfl, rfl⟩

theorem step_sound (hs : Sound s) (op : WorkOp) : Sound (step s op) := by
  have heffect := step_effect s op
  constructor
  · intro e' he'
    obtain ⟨e, he, hplace, hid, -⟩ | ⟨now, x, -, -, rfl⟩ := heffect.row he'
    · obtain ⟨htask, htopic, hr, hq⟩ := Place.mk.inj hplace
      rw [hid, htask, htopic, hr, hq]
      exact hs.ids e he
    · rfl
  · intro e' he'
    obtain ⟨e, he, hplace, -, -⟩ | ⟨now, x, -, hrecords, rfl⟩ := heffect.row he'
    · obtain ⟨htask, -, hr, hq⟩ := Place.mk.inj hplace
      obtain ⟨t, ht, hpos, hle⟩ := hs.owned e he
      obtain ⟨t', ht', hmono⟩ := heffect.task ht
      have hpair : e'.pair = e.pair := congrArg₂ pair hr hq
      rw [htask, hpair]
      exact ⟨t', ht', hpos, hle.trans hmono⟩
    · obtain ⟨t, ht, hpair, -⟩ := hrecords.task
      exact ⟨t, ht, x.start_lt, le_of_eq hpair.symm⟩

/-- No two rows are of one place. -/
theorem Sound.unique (hs : Sound s) (he : e ∈ s.events.rows) (he' : e' ∈ s.events.rows)
    (hplace : e'.place = e.place) : e' = e := by
  obtain ⟨htask, htopic, hr, hq⟩ := Place.mk.inj hplace
  have hid : e'.eventId = e.eventId := by
    rw [hs.ids e he, hs.ids e' he', htask, htopic, hr, hq]
  have hget := Table.mem_rows_iff.mp he'
  rw [hid, Table.mem_rows_iff.mp he] at hget
  exact (Option.some.inj hget).symm

/-- The row at a place. -/
def rowAt (s : WorkStore) (p : Place) : Option RemoteEvent :=
  s.eventAt p.topic p.taskId p.runSeq p.sequence

variable {p : Place}

theorem rowAt_eq_none : rowAt s p = none ↔ ∀ e ∈ s.events.rows, e.place ≠ p := by
  unfold rowAt WorkStore.eventAt
  rw [List.find?_eq_none]
  refine forall₂_congr fun e _ => not_congr ?_
  rw [decide_eq_true_iff]
  obtain ⟨id, topic, r, q⟩ := p
  simp only [RemoteEvent.place, Place.mk.injEq]

theorem rowAt_place (h : rowAt s p = some e) : e ∈ s.events.rows ∧ e.place = p := by
  unfold rowAt WorkStore.eventAt at h
  refine ⟨List.mem_of_find?_eq_some h, ?_⟩
  obtain ⟨id, topic, r, q⟩ := p
  simpa [RemoteEvent.place] using List.find?_some h

/-- A row stays. -/
theorem Effect.stays (h : Effect s op s') (he : e ∈ s.events.rows) :
    ∃ e' ∈ s'.events.rows, SameEvent e e' := by
  cases h with
  | aside _ hevents => exact ⟨e, hevents ▸ he, rfl, rfl, rfl⟩
  | created _ _ _ hevents => exact ⟨e, hevents ▸ he, rfl, rfl, rfl⟩
  | recorded now x _ hrecords =>
    obtain ⟨-, events, -, -, -, hinsert, rfl⟩ := hrecords
    refine ⟨e, ?_, rfl, rfl, rfl⟩
    show e ∈ events.rows
    rw [Table.rows_insert? hinsert]
    exact List.mem_append_left _ he
  | marked identifier sent errorCode h =>
    subst h
    refine ⟨_, List.mem_map_of_mem he, ?_⟩
    split <;> exact ⟨rfl, rfl, rfl⟩
  | expired _ _ h =>
    subst h
    exact ⟨e, he, rfl, rfl, rfl⟩

theorem Effect.rowAt (h : Effect s op s') (hp : rowAt s p ≠ none) : rowAt s' p ≠ none := by
  obtain ⟨e, he⟩ := Option.ne_none_iff_exists'.mp hp
  obtain ⟨hmem, hplace⟩ := rowAt_place he
  obtain ⟨e', hmem', hsame, -⟩ := h.stays hmem
  intro hnone
  exact rowAt_eq_none.mp hnone e' hmem' (hsame.trans hplace)

/-- The step does not expire the task. -/
def Spared (id : String) (s : WorkStore) (op : WorkOp) : Prop :=
  ∀ now, op = .expire now → ∀ t, s.tasks.get? id = some t → WorkStore.expires now t = false

/-- A step that brings no event of the task and does not expire it leaves it where it is. -/
theorem Effect.unmoved (h : Effect s op s') {id : String}
    (hother : ∀ x, op.Carries x → x.head.taskId ≠ id) (hspared : Spared id s op)
    (ht : s.tasks.get? id = some t) :
    ∃ t', s'.tasks.get? id = some t' ∧ t'.pair = t.pair ∧ t'.state = t.state := by
  cases h with
  | aside htasks =>
    rw [htasks]
    exact ⟨t, ht, rfl, rfl⟩
  | created new hinsert => exact ⟨t, Table.get?_insert?_of_get? hinsert ht, rfl, rfl⟩
  | recorded now x hcarries hrecords =>
    obtain ⟨-, events, -, -, -, -, rfl⟩ := hrecords
    refine ⟨t, ?_, rfl, rfl⟩
    rw [← ht]
    exact Table.get?_update_of_ne _ (hother x hcarries).symm _ (by intro _; rfl)
  | marked identifier sent errorCode h =>
    subst h
    exact ⟨t, ht, rfl, rfl⟩
  | expired now hop h =>
    subst h
    refine ⟨t, ?_, rfl, rfl⟩
    rw [get?_expire ht, hspared now hop t ht]
    rfl

/-! ## What the store answers -/

theorem rowAt_event (s : WorkStore) (x : WorkEvent) : rowAt s x.place =
    s.eventAt x.topic x.head.taskId x.head.runSeq x.head.sequence := rfl

section Record

variable {s : WorkStore} {now : String} {x : WorkEvent} {t : RemoteTask} {e : RemoteEvent}
  (ht : s.tasks.get? x.head.taskId = some t)

include ht

theorem record_conflict (hat : rowAt s x.place = some e) (hne : e.payloadDigest ≠ x.digest) :
    s.recordTaskEvent now x.topic x.head x.payload =
      .error (.raised (raising "remote_work_event_conflict" "Remote Work 事件序号正文冲突" 409)) := by
  rw [rowAt_event] at hat
  unfold WorkStore.recordTaskEvent
  rw [ht, orRaise_some, ok_bind, hat]
  show (ensure (e.payloadDigest = payloadDigest x.payload) _ >>= _) = _
  rw [show ensure (e.payloadDigest = payloadDigest x.payload) _ = .error _ from if_neg hne]
  rfl

theorem record_stale (hat : rowAt s x.place = none) (hle : x.stamp ≤ t.pair) :
    s.recordTaskEvent now x.topic x.head x.payload =
      .ok (s, { outcome := .stale, taskId := some x.head.taskId }) := by
  rw [rowAt_event] at hat
  unfold WorkStore.recordTaskEvent
  rw [ht, orRaise_some, ok_bind, hat]
  obtain hlt | heq := lt_or_eq_of_le hle
  · exact if_pos (precedes_iff.mpr hlt)
  · obtain ⟨hr, hq⟩ := Prod.mk.inj (toLex.injective heq)
    have hnot : ¬ precedes x.head.runSeq x.head.sequence t.runSeq t.sequence = true := by
      rw [precedes_iff]
      exact not_lt.mpr (ge_of_eq heq)
    obtain ⟨-, hpos, -⟩ := x.bounds
    refine (if_neg hnot).trans (if_pos ⟨⟨hr, hq⟩, fun hzero => ?_⟩)
    omega

theorem record_newer (hat : rowAt s x.place = none) (hlt : t.pair < x.stamp)
    (hopen : ¬ (t.state.isTerminal = true ∧ x.head.runSeq ≤ t.runSeq))
    {events : Table RemoteEvent.eventId}
    (hinsert : s.events.insert? (WorkStore.newEvent now x.topic x.head x.payload) = some events) :
    ∃ r, s.recordTaskEvent now x.topic x.head x.payload =
      .ok (recordedState s now x events, r) := by
  rw [rowAt_event] at hat
  unfold WorkStore.recordTaskEvent
  rw [ht, orRaise_some, ok_bind, hat]
  have hbefore : ¬ precedes x.head.runSeq x.head.sequence t.runSeq t.sequence = true := by
    rw [precedes_iff]
    exact not_lt_of_gt hlt
  have hsame : ¬ ((x.head.runSeq = t.runSeq ∧ x.head.sequence = t.sequence) ∧
      ¬ (t.runSeq = 0 ∧ t.sequence = 0)) := by
    rintro ⟨⟨hr, hq⟩, -⟩
    exact ne_of_lt hlt (congrArg₂ pair hr.symm hq.symm)
  simp only
  rw [if_neg hbefore, if_neg hsame, ensure_bind_of hopen, hinsert]
  exact ⟨_, rfl⟩

/-- An event that is not ahead of its task changes nothing. -/
theorem record_behind (hle : x.stamp ≤ t.pair) {s' : WorkStore} {r : Receipt}
    (h : s.recordTaskEvent now x.topic x.head x.payload = .ok (s', r)) : s' = s := by
  obtain hs | ⟨task, -, htask, -, hlt, -⟩ := recordTaskEvent_ok h
  · exact hs
  · obtain rfl := Option.some.inj (ht.symm.trans htask)
    exact absurd hlt (not_lt.mpr hle)

end Record

theorem work_carries (h : m.Carries x) :
    work s now m = s.recordTaskEvent now x.topic x.head x.payload := by
  obtain ⟨hsize, htopic, hdocument⟩ := h
  unfold work
  rw [ensure_bind_of hsize, hdocument, orRaise_some, ok_bind, htopic, x.valid, ok_bind]
  unfold WorkStore.recordRemoteWorkEvent
  rw [Topic.ofText?_text, x.reads]
  cases htopic : x.topic with
  | agent => exact absurd htopic x.reports
  | status => rfl
  | result => rfl

/-- A message carries one event. -/
theorem Message.Carries.unique (hx : m.Carries x) (hy : m.Carries y) : y = x := by
  obtain ⟨-, htopic, hdocument⟩ := hx
  obtain ⟨-, htopic', hdocument'⟩ := hy
  obtain ⟨tx, px, hdx, _, _, hrx⟩ := x
  obtain ⟨ty, py, hdy, _, _, hry⟩ := y
  have htext : Topic.ofText? ty.text = Topic.ofText? tx.text :=
    congrArg Topic.ofText? (htopic'.symm.trans htopic)
  rw [Topic.ofText?_text, Topic.ofText?_text] at htext
  obtain rfl := Option.some.inj htext
  obtain rfl : py = px := Json.obj.inj (Option.some.inj (hdocument'.symm.trans hdocument))
  obtain rfl := Option.some.inj (hry.symm.trans hrx)
  rfl

/-! ## One task -/

/-- Events of one task as the agent numbers them: no pair is used twice, and a run ends with its
    terminal event. -/
structure Reports (taskId : String) (E : List WorkEvent) : Prop where
  own : ∀ x ∈ E, x.head.taskId = taskId
  distinct : ∀ x ∈ E, ∀ y ∈ E, y.stamp = x.stamp → y = x
  closed : ∀ x ∈ E, x.head.state.isTerminal = true → ∀ y ∈ E, y.head.runSeq = x.head.runSeq →
    y.head.sequence ≤ x.head.sequence

/-- The task shows an event, or still waits. -/
def Shows (t : RemoteTask) : Option WorkEvent → Prop
  | none => t.pair = pair 0 0 ∧ t.state = .waitingMac
  | some g => t.pair = g.stamp ∧ t.state = g.head.state

/-- What holds when the events in `D` were delivered: the task shows the greatest of them, and its
    rows are of such events, the greatest among them. -/
structure Follows (taskId : String) (D : WorkEvent → Prop) (s : WorkStore) : Prop where
  sound : Sound s
  shown : ∃ t cur, s.tasks.get? taskId = some t ∧ Shows t cur ∧ Greatest WorkEvent.stamp D cur
  rows : ∀ e ∈ s.events.rows, e.taskId = taskId →
    ∃ x, D x ∧ e.place = x.place ∧ e.payloadDigest = x.digest
  kept : ∀ g, D g → (∀ x, D x → x.stamp ≤ g.stamp) → rowAt s g.place ≠ none

section Follows

variable {taskId : String} {E : List WorkEvent} {D : WorkEvent → Prop} {s : WorkStore} {op : WorkOp}

/-- A task that waits at the start follows no event. -/
theorem follows_start (hs : Sound s) {t : RemoteTask} (ht : s.tasks.get? taskId = some t)
    (hwaiting : t.state = .waitingMac) (hstart : t.pair = pair 0 0) :
    Follows taskId (fun _ => False) s where
  sound := hs
  shown := ⟨t, none, ht, ⟨hstart, hwaiting⟩, fun _ => not_false⟩
  rows e he hid := by
    obtain ⟨t', ht', hpos, hle⟩ := hs.owned e he
    rw [hid] at ht'
    obtain rfl := Option.some.inj (ht.symm.trans ht')
    exact absurd hpos (not_lt.mpr (hstart ▸ hle))
  kept _ hg := hg.elim

variable (hs : Follows taskId D s)

include hs

theorem Follows.congr {D' : WorkEvent → Prop} (h : ∀ x, D x ↔ D' x) : Follows taskId D' s := by
  rwa [show D' = D from funext fun x => propext (h x).symm]

/-- A step that brings no event of the task. -/
theorem Follows.other (hother : ∀ x, op.Carries x → x.head.taskId ≠ taskId)
    (hspared : Spared taskId s op) : Follows taskId D (step s op) := by
  have heffect := step_effect s op
  refine ⟨step_sound hs.sound op, ?_, ?_, fun g hg hmax => heffect.rowAt (hs.kept g hg hmax)⟩
  · obtain ⟨t, cur, ht, hshows, hgreatest⟩ := hs.shown
    obtain ⟨t', ht', hpair, hstate⟩ := heffect.unmoved hother hspared ht
    refine ⟨t', cur, ht', ?_, hgreatest⟩
    cases cur with
    | none => exact ⟨hpair.trans hshows.1, hstate.trans hshows.2⟩
    | some g => exact ⟨hpair.trans hshows.1, hstate.trans hshows.2⟩
  · intro e' he' hid
    obtain ⟨e, he, hplace, -, hdigest⟩ | ⟨now, x, hcarries, -, rfl⟩ := heffect.row he'
    · obtain ⟨x, hx, hxplace, hxdigest⟩ :=
        hs.rows e he ((congrArg Place.taskId hplace).symm.trans hid)
      exact ⟨x, hx, hplace.trans hxplace, hdigest.trans hxdigest⟩
    · exact absurd hid (hother x hcarries)

/-- One more event that is not ahead of the task. -/
theorem Follows.behind (hE : Reports taskId E) (hD : ∀ x, D x → x ∈ E) {x : WorkEvent} (hx : x ∈ E)
    {t : RemoteTask} (ht : s.tasks.get? taskId = some t) (hle : x.stamp ≤ t.pair) :
    Follows taskId (fun y => y = x ∨ D y) s := by
  obtain ⟨t', cur, ht', hshows, hgreatest⟩ := hs.shown
  obtain rfl := Option.some.inj (ht.symm.trans ht')
  cases cur with
  | none => exact absurd x.start_lt (not_lt.mpr (hshows.1 ▸ hle))
  | some c =>
    have hstamp : x.stamp ≤ c.stamp := hshows.1 ▸ hle
    have habsorb : absorb WorkEvent.stamp (some c) x = some c := absorb_of_le hstamp
    have hmore := hgreatest.absorb x
    rw [habsorb] at hmore
    refine ⟨hs.sound, ⟨t, some c, ht, hshows, hmore⟩, ?_, ?_⟩
    · intro e he hid
      obtain ⟨y, hy, hplace⟩ := hs.rows e he hid
      exact ⟨y, .inr hy, hplace⟩
    · intro g hg hmax
      have hgE : g ∈ E := hg.elim (fun h => h ▸ hx) (hD g)
      have hgc : g = c := hE.distinct c (hD c hgreatest.1) g hgE
        (le_antisymm (hmore.2 g hg) (hmax c (.inr hgreatest.1)))
      subst hgc
      exact hs.kept g hgreatest.1 hgreatest.2

variable {x : WorkEvent}

/-- One more event that is ahead of the task is recorded. -/
theorem Follows.ahead (hE : Reports taskId E) (hD : ∀ x, D x → x ∈ E) (hx : x ∈ E)
    {t : RemoteTask} (ht : s.tasks.get? taskId = some t) (hlt : t.pair < x.stamp) (now : String)
    (hfresh : ∀ e ∈ s.events.rows, e.eventId = sha256Hex x.text → e.place = x.place) :
    ∃ s' r, s.recordTaskEvent now x.topic x.head x.payload = .ok (s', r) ∧ Records s now x s' := by
  obtain ⟨t', cur, ht', hshows, hgreatest⟩ := hs.shown
  obtain rfl := Option.some.inj (ht.symm.trans ht')
  obtain rfl := hE.own x hx
  have hat : rowAt s x.place = none := by
    refine rowAt_eq_none.mpr fun e he hplace => ?_
    obtain ⟨htask, -, hr, hq⟩ := Place.mk.inj hplace
    obtain ⟨t', ht', -, hle⟩ := hs.sound.owned e he
    rw [htask] at ht'
    obtain rfl := Option.some.inj (ht.symm.trans ht')
    exact absurd hlt (not_lt.mpr (le_of_eq_of_le (congrArg₂ pair hr hq).symm hle))
  have hopen : ¬ (t.state.isTerminal = true ∧ x.head.runSeq ≤ t.runSeq) := by
    rintro ⟨hterminal, hrun⟩
    cases cur with
    | none => exact absurd (hshows.2 ▸ hterminal) (by decide)
    | some c =>
      obtain ⟨hcr, hcq⟩ := Prod.mk.inj (toLex.injective hshows.1)
      have hclosed := hE.closed c (hD c hgreatest.1) (hshows.2 ▸ hterminal) x hx
      obtain hless | ⟨heq, hless⟩ := Prod.Lex.toLex_lt_toLex.mp hlt
      · exact absurd hless (not_lt.mpr hrun)
      · have hlast := hclosed (heq.symm.trans hcr)
        rw [← hcq] at hlast
        exact absurd hless (not_lt.mpr hlast)
  obtain ⟨events, hinsert⟩ : ∃ events,
      s.events.insert? (WorkStore.newEvent now x.topic x.head x.payload) = some events := by
    refine Table.insert?_of_get? (Option.eq_none_iff_forall_ne_some.mpr fun e he => ?_)
    have hmem := Table.mem_of_get? he
    exact rowAt_eq_none.mp hat e hmem (hfresh e hmem (Table.key_of_get? he))
  obtain ⟨r, hrecord⟩ := record_newer ht hat hlt hopen hinsert
  exact ⟨_, r, hrecord, t, events, ht, hat, hlt, hinsert, rfl⟩

theorem Follows.recorded (hE : Reports taskId E) (hD : ∀ x, D x → x ∈ E) (hx : x ∈ E)
    {now : String} {s' : WorkStore} (hrecords : Records s now x s') (hstep : s' = step s op)
    (hcarries : op.Carries x) : Follows taskId (fun y => y = x ∨ D y) s' := by
  obtain ⟨t, cur, ht, hshows, hgreatest⟩ := hs.shown
  obtain rfl := hE.own x hx
  have heffect : Effect s op s' := hstep ▸ step_effect s op
  obtain ⟨t', ht', hpair, hstate⟩ := hrecords.task
  obtain ⟨task, events, htask, -, hlt, hinsert, -⟩ := id hrecords
  obtain rfl := Option.some.inj (ht.symm.trans htask)
  have hahead : ∀ c ∈ cur, c.stamp < x.stamp := by
    rintro c rfl
    exact hshows.1 ▸ hlt
  have habsorb : absorb WorkEvent.stamp cur x = some x := absorb_of_lt hahead
  have hmore := hgreatest.absorb x
  rw [habsorb] at hmore
  refine ⟨hstep ▸ step_sound hs.sound op, ⟨t', some x, ht', ⟨hpair, hstate⟩, hmore⟩, ?_, ?_⟩
  · intro e' he' hid
    obtain ⟨e, he, hplace, -, hdigest⟩ | ⟨now', y, hcarries', hrecords', rfl⟩ := heffect.row he'
    · obtain ⟨y, hy, hyplace, hydigest⟩ :=
        hs.rows e he ((congrArg Place.taskId hplace).symm.trans hid)
      exact ⟨y, .inr hy, hplace.trans hyplace, hdigest.trans hydigest⟩
    · cases op with
      | receive m now =>
        obtain rfl := Message.Carries.unique hcarries hcarries'
        exact ⟨y, .inl rfl, rfl, rfl⟩
      | _ => exact absurd hcarries not_false
  · intro g hg hmax
    have hgE : g ∈ E := hg.elim (fun h => h ▸ hx) (hD g)
    obtain rfl : g = x := hE.distinct x hx g hgE
      (le_antisymm (hmore.2 g hg) (hmax x (.inl rfl)))
    obtain ⟨-, events, -, -, -, hinsert, rfl⟩ := hrecords
    intro hnone
    refine rowAt_eq_none.mp hnone (WorkStore.newEvent now g.topic g.head g.payload) ?_ rfl
    show _ ∈ events.rows
    rw [Table.rows_insert? hinsert]
    exact List.mem_append_right _ (List.mem_singleton_self _)

/-- One step, whatever it is. -/
theorem Follows.next (hE : Reports taskId E) (hD : ∀ x, D x → x ∈ E)
    (hin : ∀ x, op.Carries x → x.head.taskId = taskId → x ∈ E) (hspared : Spared taskId s op)
    (hfresh : ∀ x, op.Carries x → x ∈ E →
      ∀ e ∈ s.events.rows, e.eventId = sha256Hex x.text → e.place = x.place) :
    Follows taskId (fun y => (op.Carries y ∧ y.head.taskId = taskId) ∨ D y) (step s op) := by
  by_cases hown : ∃ x, op.Carries x ∧ x.head.taskId = taskId
  · obtain ⟨x, hcarries, hid⟩ := hown
    have hx := hin x hcarries hid
    cases op with
    | receive m now =>
      have hsame : ∀ y, (y = x ∨ D y) ↔
          (((WorkOp.receive m now).Carries y ∧ y.head.taskId = taskId) ∨ D y) := by
        refine fun y => or_congr_left ⟨?_, fun h => Message.Carries.unique hcarries h.1⟩
        rintro rfl
        exact ⟨hcarries, hid⟩
      refine Follows.congr ?_ hsame
      have hwork : work s now m = s.recordTaskEvent now x.topic x.head x.payload :=
        work_carries hcarries
      obtain ⟨t, cur, ht, -⟩ := hs.shown
      obtain hle | hlt := le_or_gt x.stamp t.pair
      · have hstep : step s (.receive m now) = s := by
          cases hrun : work s now m with
          | error e => exact step_receive_error hrun
          | ok result =>
            rw [step_receive_ok hrun]
            exact record_behind (hE.own x hx ▸ ht) hle (hwork.symm.trans hrun)
        rw [hstep]
        exact hs.behind hE hD hx ht hle
      · obtain ⟨s', r, hrecord, hrecords⟩ :=
          hs.ahead hE hD hx ht hlt now (hfresh x hcarries hx)
        have hstep := step_receive_ok (hwork.trans hrecord)
        rw [hstep]
        exact hs.recorded hE hD hx hrecords hstep.symm hcarries
    | _ => exact absurd hcarries not_false
  · have hnone : ∀ y, D y ↔ (op.Carries y ∧ y.head.taskId = taskId) ∨ D y := fun y =>
      ⟨.inr, fun h => h.resolve_left fun hy => hown ⟨y, hy⟩⟩
    exact (hs.other (fun x hx hid => hown ⟨x, hx, hid⟩) hspared).congr hnone

end Follows

/-! ## Runs -/

/-- The rows are of events in `A`. -/
def Stems (A : WorkEvent → Prop) (s : WorkStore) : Prop :=
  ∀ e ∈ s.events.rows, ∃ y, A y ∧ e.place = y.place

theorem step_stems (hs : Stems A s) (hA : ∀ x, op.Carries x → A x) : Stems A (step s op) := by
  intro e' he'
  obtain ⟨e, he, hplace, -⟩ | ⟨now, x, hcarries, -, rfl⟩ := (step_effect s op).row he'
  · obtain ⟨y, hy, hyplace⟩ := hs e he
    exact ⟨y, hy, hplace.trans hyplace⟩
  · exact ⟨x, hA x hcarries, rfl⟩

theorem delivered_cons : Delivered (op :: ops) x ↔ op.Carries x ∨ Delivered ops x := by
  simp [Delivered]

/-- No two of the texts that the store digests have one digest. -/
def NoCollision (E : List WorkEvent) (A : WorkEvent → Prop) : Prop :=
  ∀ x ∈ E, ∀ y, A y → sha256Hex y.text = sha256Hex x.text → y.text = x.text

theorem Sound.fresh (hs : Sound s) (hstems : Stems A s) (hsha : NoCollision E A) (hx : x ∈ E) :
    ∀ e ∈ s.events.rows, e.eventId = sha256Hex x.text → e.place = x.place := by
  intro e he hid
  obtain ⟨y, hy, hplace⟩ := hstems e he
  obtain ⟨htask, htopic, hr, hq⟩ := Place.mk.inj hplace
  have hdigest : sha256Hex y.text = sha256Hex x.text := by
    rw [← hid, hs.ids e he, htask, htopic, hr, hq]
    rfl
  obtain ⟨htopic, htask, hr, hq⟩ := eventText_inj (hsha x hx y hy hdigest)
  rw [hplace]
  exact Place.mk.injEq .. ▸ ⟨htask, htopic, hr, hq⟩

/-- What holds after a run. -/
theorem follows_run (hE : Reports taskId E) (hsha : NoCollision E A) (hD : ∀ x, D x → x ∈ E)
    (hs : Follows taskId D s) (hstems : Stems A s) (hA : ∀ x, Delivered ops x → A x)
    (hin : ∀ x, Delivered ops x → x.head.taskId = taskId → x ∈ E)
    (hspared : EveryStep step (Spared taskId) s ops) :
    Follows taskId (fun y => (Delivered ops y ∧ y.head.taskId = taskId) ∨ D y)
      (runFrom step s ops) := by
  induction ops generalizing s D with
  | nil =>
    have hnone : ∀ y, ¬ Delivered [] y := by
      rintro y ⟨op, hop, -⟩
      exact absurd hop List.not_mem_nil
    exact hs.congr fun y => ⟨.inr, fun h => h.resolve_left fun hy => hnone y hy.1⟩
  | cons op ops ih =>
    have hcarries : ∀ x, op.Carries x → Delivered (op :: ops) x := fun x hx =>
      delivered_cons.mpr (.inl hx)
    have hafter : ∀ x, Delivered ops x → Delivered (op :: ops) x := fun x hx =>
      delivered_cons.mpr (.inr hx)
    have hnext := hs.next hE hD (fun x hx => hin x (hcarries x hx)) hspared.1
      fun x _ hxE => hs.sound.fresh hstems hsha hxE
    have hD' : ∀ x, (op.Carries x ∧ x.head.taskId = taskId) ∨ D x → x ∈ E := fun x hx =>
      hx.elim (fun h => hin x (hcarries x h.1) h.2) (hD x)
    have hrun := ih hD' hnext (step_stems hstems fun x hx => hA x (hcarries x hx))
      (fun x hx => hA x (hafter x hx)) (fun x hx => hin x (hafter x hx)) hspared.2
    refine hrun.congr fun y => ?_
    rw [delivered_cons]
    tauto

/-! ## Replies -/

/-- The state of the reply to the event at a place. -/
def replyOf (s : WorkStore) (p : Place) : Option ReplyState :=
  (rowAt s p).map RemoteEvent.replyState

/-- The step queues the reply. -/
def queuesReply (p : Place) (s : WorkStore) (op : WorkOp) : Bool :=
  replyOf s p ≠ some .pending ∧ replyOf (step s op) p = some .pending

/-- The step changes the reply from pending. -/
def settlesReply (p : Place) (s : WorkStore) (op : WorkOp) : Bool :=
  replyOf s p = some .pending ∧ replyOf (step s op) p ≠ some .pending

/-- How far the reply is: not there, pending, settled. -/
def replyStage : Option ReplyState → ℕ
  | none => 0
  | some .pending => 1
  | some _ => 2

theorem replyStage_eq_one {r : Option ReplyState} : replyStage r = 1 ↔ r = some .pending := by
  cases r with
  | none => exact ⟨nofun, nofun⟩
  | some r => cases r <;> simp [replyStage]

theorem rowAt_of_events (h : s'.events = s.events) (p : Place) : rowAt s' p = rowAt s p := by
  unfold rowAt WorkStore.eventAt
  rw [h]

/-- The reply to a result moves on by at most one stage. -/
theorem step_replyStage (hp : p.topic = .result) (s : WorkStore) (op : WorkOp) :
    replyStage (replyOf s p) ≤ replyStage (replyOf (step s op) p) ∧
      replyStage (replyOf (step s op) p) ≤ replyStage (replyOf s p) + 1 := by
  have hsame : ∀ s', rowAt s' p = rowAt s p → replyStage (replyOf s p) ≤ replyStage (replyOf s' p) ∧
      replyStage (replyOf s' p) ≤ replyStage (replyOf s p) + 1 := by
    intro s' h
    unfold replyOf
    rw [h]
    omega
  cases step_effect s op with
  | aside _ hevents => exact hsame _ (rowAt_of_events hevents p)
  | created _ _ _ hevents => exact hsame _ (rowAt_of_events hevents p)
  | expired now _ h =>
    rw [h]
    exact hsame _ (rowAt_of_events rfl p)
  | recorded now x _ hrecords =>
    obtain ⟨-, events, -, -, -, hinsert, hs'⟩ := hrecords
    rw [hs']
    have hrow : rowAt (recordedState s now x events) p = (rowAt s p).or
        ([WorkStore.newEvent now x.topic x.head x.payload].find? fun e =>
          e.taskId = p.taskId ∧ e.topic = p.topic ∧ e.runSeq = p.runSeq ∧
            e.sequence = p.sequence) := by
      unfold rowAt WorkStore.eventAt
      rw [show (recordedState s now x events).events = events from rfl,
        Table.rows_insert? hinsert, List.find?_append]
    cases hold : rowAt s p with
    | some e =>
      rw [hold] at hrow
      exact hsame _ (hrow.trans hold.symm)
    | none =>
      rw [hold, Option.none_or, List.find?_singleton] at hrow
      unfold replyOf
      rw [hrow, hold]
      split
      · rename_i hat
        have htopic : x.topic = .result := (of_decide_eq_true hat).2.1.trans hp
        have hreply : (WorkStore.newEvent now x.topic x.head x.payload).replyState = .pending :=
          if_pos htopic
        rw [Option.map_some, hreply]
        exact ⟨Nat.zero_le _, Nat.le_refl _⟩
      · exact ⟨Nat.le_refl _, Nat.zero_le _⟩
  | marked identifier sent errorCode h =>
    rw [h]
    have hrow : rowAt (s.markRemoteWorkReply identifier sent errorCode) p =
        (rowAt s p).map fun e =>
          if decide (e.eventId = identifier ∧ e.replyState = .pending) then
            { e with replyState := if sent then .sent else .suppressed, replyError := errorCode }
          else e := by
      unfold rowAt WorkStore.eventAt WorkStore.markRemoteWorkReply
      rw [Table.rows_updateWhere, List.find?_map]
      congr 2
      funext e
      simp only [Function.comp_apply]
      split <;> rfl
    unfold replyOf
    rw [hrow]
    cases hold : rowAt s p with
    | none => exact ⟨Nat.le_refl _, Nat.zero_le _⟩
    | some e =>
      simp only [Option.map_some]
      split
      · rename_i hmarked
        rw [(of_decide_eq_true hmarked).2]
        cases sent <;> exact ⟨Nat.le_succ 1, Nat.le_refl 2⟩
      · exact ⟨Nat.le_refl _, Nat.le_succ _⟩

/-- Along a run the reply to a result is queued once when it is there at the end and was not there
    at the start, and is settled at most once. -/
theorem replies_counted (hp : p.topic = .result) (hstart : rowAt s p = none)
    (hend : rowAt (runFrom step s ops) p ≠ none) :
    countSteps step (queuesReply p) s ops = 1 ∧ countSteps step (settlesReply p) s ops ≤ 1 := by
  have hmono := fun s op (_ : True) => (step_replyStage hp s op).1
  have hzero : replyStage (replyOf s p) = 0 := by
    rw [replyOf, hstart]
    rfl
  have hone : 1 ≤ replyStage (replyOf (runFrom step s ops) p) := by
    obtain ⟨e, he⟩ := Option.ne_none_iff_exists'.mp hend
    rw [replyOf, he, Option.map_some]
    cases e.replyState <;> decide
  have hqueues : ∀ s op, True → queuesReply p s op = decide (replyStage (replyOf s p) < 1 ∧
      1 ≤ replyStage (replyOf (step s op) p)) := by
    intro s op _
    have hstage := step_replyStage hp s op
    unfold queuesReply
    refine decide_eq_decide.mpr ?_
    rw [← replyStage_eq_one, Ne, ← replyStage_eq_one]
    omega
  have hsettles : ∀ s op, True → settlesReply p s op = decide (replyStage (replyOf s p) < 2 ∧
      2 ≤ replyStage (replyOf (step s op) p)) := by
    intro s op _
    have hstage := step_replyStage hp s op
    unfold settlesReply
    refine decide_eq_decide.mpr ?_
    rw [← replyStage_eq_one, Ne, ← replyStage_eq_one]
    omega
  constructor
  · rw [countSteps_congr step (fun _ _ _ => trivial) hqueues trivial,
      countSteps_crossing step (fun _ _ _ => trivial) hmono 1 trivial]
    exact if_pos ⟨by omega, hone⟩
  · rw [countSteps_congr step (fun _ _ _ => trivial) hsettles trivial,
      countSteps_crossing step (fun _ _ _ => trivial) hmono 2 trivial]
    split <;> decide

/-! ## Convergence -/

theorem sound_run (ops : List WorkOp) : Sound (runFrom step .empty ops) :=
  invariant_of_reachable step (I := Sound) (fun _ op hs => step_sound hs op) sound_empty ⟨ops, rfl⟩

theorem delivered_append {ops' : List WorkOp} :
    Delivered (ops ++ ops') x ↔ Delivered ops x ∨ Delivered ops' x := by
  unfold Delivered
  simp only [List.mem_append, or_and_right, exists_or]

/-- The rows of a run are of events that it delivered. -/
theorem stems_run (hs : Stems A s) (hA : ∀ x, Delivered ops x → A x) :
    Stems A (runFrom step s ops) := by
  induction ops generalizing s with
  | nil => exact hs
  | cons op ops ih =>
    have hnext : Stems A (step s op) :=
      step_stems hs fun x hx => hA x (delivered_cons.mpr (.inl hx))
    exact ih hnext fun x hx => hA x (delivered_cons.mpr (.inr hx))

/-- The task has arrived at an event: it shows it, and the reply to a result was queued once. -/
structure Arrived (taskId : String) (s : WorkStore) (ops : List WorkOp) (g : WorkEvent) : Prop where
  task : ∃ t, (runFrom step s ops).tasks.get? taskId = some t ∧ t.runSeq = g.head.runSeq ∧
    t.sequence = g.head.sequence ∧ t.state = g.head.state
  row : g.topic = .result →
    ((runFrom step s ops).events.rows.filter fun e => e.place = g.place).length = 1
  queued : g.topic = .result → countSteps step (queuesReply g.place) s ops = 1
  settled : g.topic = .result → countSteps step (settlesReply g.place) s ops ≤ 1

theorem Follows.arrived (hE : Reports taskId E) (hD : ∀ x, D x → x ∈ E)
    (hs : Follows taskId D (runFrom step s ops)) {g : WorkEvent} (hg : D g)
    (hmax : ∀ x ∈ E, x.stamp ≤ g.stamp) (hstart : rowAt s g.place = none) :
    Arrived taskId s ops g := by
  have hkept := hs.kept g hg fun x hx => hmax x (hD x hx)
  refine ⟨?_, fun _ => ?_, fun hresult => (replies_counted hresult hstart hkept).1,
    fun hresult => (replies_counted hresult hstart hkept).2⟩
  · obtain ⟨t, cur, ht, hshows, hgreatest⟩ := hs.shown
    cases cur with
    | none => exact absurd hg (hgreatest g)
    | some c =>
      obtain rfl := hgreatest.unique hg (fun x hx => hmax x (hD x hx))
        fun x hx => hE.distinct g (hD g hg) x (hD x hx)
      obtain ⟨hr, hq⟩ := Prod.mk.inj (toLex.injective hshows.1)
      exact ⟨t, ht, hr, hq, hshows.2⟩
  · obtain ⟨e, he⟩ := Option.ne_none_iff_exists'.mp hkept
    obtain ⟨hmem, hplace⟩ := rowAt_place he
    have honly : ∀ e' ∈ (runFrom step s ops).events.rows, e'.place = g.place → e' = e :=
      fun e' he' hplace' => hs.sound.unique hmem he' (hplace'.trans hplace.symm)
    have hnodup := ((runFrom step s ops).events.nodup.of_map _).filter fun e => e.place = g.place
    refine Nat.le_antisymm ?_ ?_
    · have hsubset :
          ((runFrom step s ops).events.rows.filter fun e => e.place = g.place) ⊆ [e] := by
        intro e' he'
        obtain ⟨hmem', hplace'⟩ := List.mem_filter.mp he'
        exact List.mem_singleton.mpr (honly e' hmem' (of_decide_eq_true hplace'))
      exact (List.subperm_of_subset hnodup hsubset).length_le
    · exact List.length_pos_of_mem (List.mem_filter.mpr ⟨hmem, decide_eq_true hplace⟩)

/-- An event at the place of a delivered one, with another content, is refused when the delivered
    one has been recorded, and is stale when it has not. -/
structure Refused (s : WorkStore) (x : WorkEvent) (m : Message) : Prop where
  conflict : rowAt s x.place ≠ none → ∀ now, work s now m =
    .error (.raised (raising "remote_work_event_conflict" "Remote Work 事件序号正文冲突" 409))
  stale : rowAt s x.place = none → ∀ now, work s now m =
    .ok (s, { outcome := .stale, taskId := some x.head.taskId })

theorem Follows.refused {taskId : String} {E : List WorkEvent} {s : WorkStore}
    (hE : Reports taskId E) {D : WorkEvent → Prop} (hD : ∀ x, D x → x ∈ E)
    (hs : Follows taskId D s) {x y : WorkEvent} (hx : D x) (hplace : y.place = x.place)
    (hdigest : y.digest ≠ x.digest) {m : Message} (hm : m.Carries y) : Refused s x m := by
  obtain ⟨t, cur, ht, hshows, hgreatest⟩ := hs.shown
  obtain ⟨htask, -, hr, hq⟩ := Place.mk.inj hplace
  have hown := hE.own x (hD x hx)
  have hty : s.tasks.get? y.head.taskId = some t := by rw [htask, hown, ht]
  constructor
  · intro hrow now
    obtain ⟨e, he⟩ := Option.ne_none_iff_exists'.mp hrow
    obtain ⟨hmem, heplace⟩ := rowAt_place he
    obtain ⟨z, hz, hzplace, hzdigest⟩ :=
      hs.rows e hmem ((congrArg Place.taskId heplace).trans hown)
    obtain ⟨-, -, hzr, hzq⟩ := Place.mk.inj (hzplace.symm.trans heplace)
    obtain rfl : z = x := hE.distinct x (hD x hx) z (hD z hz) (congrArg₂ pair hzr hzq)
    rw [work_carries hm]
    exact record_conflict hty (hplace ▸ he) fun heq => hdigest (heq.symm.trans hzdigest)
  · intro hrow now
    rw [work_carries hm, ← htask]
    refine record_stale hty (hplace ▸ hrow) ?_
    rw [show y.stamp = x.stamp from congrArg₂ pair hr hq]
    cases cur with
    | none => exact absurd hx (hgreatest x)
    | some c =>
      rw [hshows.1]
      exact hgreatest.2 x hx

/-- A task that waits at the start converges to the greatest of its events, whatever the order and
    the number of their deliveries, while it is not expired locally. -/
theorem remote_events_converge {before ops : List WorkOp} {taskId : String} {task : RemoteTask}
    {E : List WorkEvent} (hE : Reports taskId E)
    (htask : (runFrom step .empty before).tasks.get? taskId = some task)
    (hwaiting : task.state = .waitingMac) (hstart : task.pair = pair 0 0)
    (hin : ∀ x, Delivered ops x → x.head.taskId = taskId → x ∈ E)
    (hspared : EveryStep step (Spared taskId) (runFrom step .empty before) ops)
    (hsha : NoCollision E (Delivered (before ++ ops))) :
    (∀ g ∈ E, (∀ x ∈ E, x.stamp ≤ g.stamp) → (∀ x ∈ E, Delivered ops x) →
      Arrived taskId (runFrom step .empty before) ops g) ∧
    EveryStep step (fun s op => ∀ t, s.tasks.get? taskId = some t →
      ∃ t', (step s op).tasks.get? taskId = some t' ∧ t.pair ≤ t'.pair)
      (runFrom step .empty before) ops ∧
    ∀ done rest, ops = done ++ rest → ∀ x ∈ E, Delivered done x → ∀ y m, m.Carries y →
      y.place = x.place → y.digest ≠ x.digest →
      Refused (runFrom step .empty (before ++ done)) x m := by
  have hsound := sound_run before
  have hfollows := follows_start hsound htask hwaiting hstart
  have hstems : Stems (Delivered (before ++ ops)) (runFrom step .empty before) :=
    stems_run (fun e he => absurd he List.not_mem_nil) fun x hx => delivered_append.mpr (.inl hx)
  refine ⟨?_, everyStep_true step (fun s op t ht => (step_effect s op).task ht) _ _, ?_⟩
  · intro g hg hmax hall
    have hrun := follows_run hE hsha (fun _ h => h.elim) hfollows hstems
      (fun x hx => delivered_append.mpr (.inr hx)) hin hspared
    refine hrun.arrived hE ?_ (.inl ⟨hall g hg, hE.own g hg⟩) hmax ?_
    · exact fun x hx => hx.elim (fun h => hin x h.1 h.2) False.elim
    · refine rowAt_eq_none.mpr fun e he hplace => ?_
      obtain ⟨x, hx, -⟩ := hfollows.rows e he ((congrArg Place.taskId hplace).trans (hE.own g hg))
      exact hx
  · rintro done rest rfl x hx hdone y m hm hplace hdigest
    rw [everyStep_append] at hspared
    have hin' : ∀ x, Delivered done x → x.head.taskId = taskId → x ∈ E := fun x hx =>
      hin x (delivered_append.mpr (.inl hx))
    have hrun := follows_run hE hsha (fun _ h => h.elim) hfollows hstems
      (fun x hx => delivered_append.mpr (.inr (delivered_append.mpr (.inl hx)))) hin' hspared.1
    rw [runFrom_append]
    refine hrun.refused hE ?_ (.inl ⟨hdone, hE.own x hx⟩) hplace hdigest hm
    exact fun x hx => hx.elim (fun h => hin' x h.1 h.2) False.elim

/-! A task whose result arrives before a status of the same run. -/

def sampleTask : String := "RW-20260801"

def sampleCommand : WorkStore.Command where
  isRequest := true
  payload := [("message_id", .str "wx2-work-0001"), ("task_id", .str sampleTask),
    ("created_at", .str "2026-08-01T08:00:00+08:00"),
    ("expires_at", .str "2026-08-01T08:30:00+08:00"), ("project_alias", .str "renovation-hub"),
    ("instruction", .str "tidy")]
  senderId := "owner"
  userDigest := "u"
  identityId := none
  principalId := none
  registered := true

def statusDocument (stage : String) : Dict :=
  [("version", .int 1), ("task_id", .str sampleTask), ("run_seq", .int 1), ("sequence", .int 1),
    ("state", .str "running"), ("stage", .str stage),
    ("updated_at", .str "2026-08-01T08:05:00+08:00")]

def resultDocument : Dict :=
  [("version", .int 1), ("task_id", .str sampleTask), ("run_seq", .int 1), ("sequence", .int 2),
    ("state", .str "completed"), ("finished_at", .str "2026-08-01T08:10:00+08:00"),
    ("summary", .str "done"), ("commits", .arr []), ("changed_path_count", .int 0),
    ("next_actions", .arr []), ("result_hash",
      .str "sha256:0000000000000000000000000000000000000000000000000000000000000000")]

def preflightEvent : WorkEvent where
  topic := .status
  payload := statusDocument "preflight"
  head := ⟨sampleTask, 1, 1, .running⟩
  reports := by decide
  valid := by rfl
  reads := rfl

def codexEvent : WorkEvent where
  topic := .status
  payload := statusDocument "codex"
  head := ⟨sampleTask, 1, 1, .running⟩
  reports := by decide
  valid := by rfl
  reads := rfl

def completedEvent : WorkEvent where
  topic := .result
  payload := resultDocument
  head := ⟨sampleTask, 1, 2, .completed⟩
  reports := by decide
  valid := by rfl
  reads := rfl

/-- A message that carries the event. -/
def WorkEvent.message (x : WorkEvent) : Message := ⟨x.topic.text, 400, some (.obj x.payload)⟩

theorem WorkEvent.message_carries (x : WorkEvent) : x.message.Carries x :=
  ⟨by show 400 ≤ 64 * 1024; omega, rfl, rfl⟩

def sampleBefore : List WorkOp := [.enqueue sampleCommand "2026-08-01T08:00:00+08:00"]

def sampleOps : List WorkOp :=
  [.receive completedEvent.message "2026-08-01T08:11:00+08:00",
    .receive preflightEvent.message "2026-08-01T08:12:00+08:00"]

theorem sample_reports : Reports sampleTask [preflightEvent, completedEvent] where
  own x hx := by
    simp only [List.mem_cons, List.not_mem_nil, or_false] at hx
    obtain rfl | rfl := hx <;> rfl
  distinct x hx y hy h := by
    simp only [List.mem_cons, List.not_mem_nil, or_false] at hx hy
    obtain rfl | rfl := hx <;> obtain rfl | rfl := hy <;> first | rfl | exact absurd h (by decide)
  closed x hx hterminal y hy hrun := by
    simp only [List.mem_cons, List.not_mem_nil, or_false] at hx hy
    obtain rfl | rfl := hx
    · exact absurd hterminal (by decide)
    · obtain rfl | rfl := hy <;> decide

theorem sample_delivered (h : Delivered (sampleBefore ++ sampleOps) x) :
    x ∈ [preflightEvent, completedEvent] := by
  obtain ⟨op, hop, hcarries⟩ := h
  simp only [sampleBefore, sampleOps, List.cons_append, List.nil_append, List.mem_cons,
    List.not_mem_nil, or_false] at hop
  obtain rfl | rfl | rfl := hop
  · exact absurd hcarries not_false
  · rw [Message.Carries.unique completedEvent.message_carries hcarries]
    exact List.mem_cons_of_mem _ List.mem_cons_self
  · rw [Message.Carries.unique preflightEvent.message_carries hcarries]
    exact List.mem_cons_self

theorem sample_spared (s : WorkStore) : EveryStep step (Spared sampleTask) s sampleOps := by
  have hnone : ∀ op ∈ sampleOps, ∀ now, op ≠ .expire now := by
    simp only [sampleOps, List.mem_cons, List.not_mem_nil, or_false, forall_eq_or_imp, forall_eq]
    exact ⟨nofun, nofun⟩
  exact (everyStep_of_forall step hnone s).imp step (I := fun _ => True) (fun _ _ _ _ => trivial)
    (fun _ _ _ hop now h => absurd h (hop now)) trivial

theorem sample_collision :
    NoCollision [preflightEvent, completedEvent] (Delivered (sampleBefore ++ sampleOps)) := by
  have hne : sha256Hex preflightEvent.text ≠ sha256Hex completedEvent.text := by decide +kernel
  intro x hx y hy h
  have hy := sample_delivered hy
  simp only [List.mem_cons, List.not_mem_nil, or_false] at hx hy
  obtain rfl | rfl := hx <;> obtain rfl | rfl := hy
  · rfl
  · exact absurd h.symm hne
  · exact absurd h hne
  · rfl

theorem remote_events_converge_sample :
    Arrived sampleTask (runFrom step .empty sampleBefore) sampleOps completedEvent ∧
      Refused (runFrom step .empty (sampleBefore ++ sampleOps)) preflightEvent
        codexEvent.message := by
  have hdelivered : ∀ x ∈ [preflightEvent, completedEvent], Delivered sampleOps x := by
    intro x hx
    simp only [List.mem_cons, List.not_mem_nil, or_false] at hx
    obtain rfl | rfl := hx
    · exact ⟨_, List.mem_cons_of_mem _ List.mem_cons_self, preflightEvent.message_carries⟩
    · exact ⟨_, List.mem_cons_self, completedEvent.message_carries⟩
  have hmax : ∀ x ∈ [preflightEvent, completedEvent], x.stamp ≤ completedEvent.stamp := by
    intro x hx
    simp only [List.mem_cons, List.not_mem_nil, or_false] at hx
    obtain rfl | rfl := hx
    · exact Prod.Lex.toLex_le_toLex.mpr (.inr ⟨rfl, by decide⟩)
    · exact le_refl _
  have hwaits : (runFrom step .empty sampleBefore).tasks.get? sampleTask =
      some (sampleCommand.task "2026-08-01T08:00:00+08:00" "wx2-work-0001" sampleTask) := by
    decide +kernel
  obtain ⟨harrived, -, hrefused⟩ := remote_events_converge sample_reports hwaits rfl rfl
    (fun x hx _ => sample_delivered (delivered_append.mpr (.inr hx))) (sample_spared _)
    sample_collision
  refine ⟨harrived completedEvent ?_ hmax hdelivered,
    hrefused sampleOps [] (List.append_nil _).symm preflightEvent List.mem_cons_self
      (hdelivered _ List.mem_cons_self) codexEvent _ codexEvent.message_carries rfl ?_⟩
  · exact List.mem_cons_of_mem _ List.mem_cons_self
  · decide +kernel

/-- A status that comes after the result of its run is stale and leaves no row; one with its numbers
    and another content is then stale as well, and acknowledged. -/
theorem stale_event_conflicts :
    Reports sampleTask [preflightEvent, completedEvent] ∧ Delivered sampleOps preflightEvent ∧
      codexEvent.message.Carries codexEvent ∧ codexEvent.place = preflightEvent.place ∧
      codexEvent.digest ≠ preflightEvent.digest ∧
      ((work (runFrom step .empty (sampleBefore ++ sampleOps)) "2026-08-01T08:13:00+08:00"
        codexEvent.message).map Prod.snd) =
          .ok { outcome := .stale, taskId := some sampleTask } := by
  refine ⟨sample_reports, ⟨_, List.mem_cons_of_mem _ List.mem_cons_self, ?_⟩,
    codexEvent.message_carries, rfl, ?_, ?_⟩
  · exact preflightEvent.message_carries
  · decide +kernel
  · decide +kernel

end HomeAddons.Gateway.RemoteWork
