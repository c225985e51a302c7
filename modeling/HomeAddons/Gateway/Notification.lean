import HomeAddons.Common.History
import HomeAddons.Common.IsoTime
import HomeAddons.Common.Json
import HomeAddons.Common.Result
import HomeAddons.Common.Run
import HomeAddons.Common.Stoppable
import HomeAddons.Common.Table
import HomeAddons.Common.Text
import HomeAddons.Common.Window

/-!
# Weixin Gateway: notifications

`NotificationProcessor.process` takes one MQTT delivery after the other. Every read of the clock,
write of the ledger, publication and message to Weixin is an effect, and the process may stop before
any of them; it then starts again with the ledger as it is.

* `NotificationProcessor.delivery_contract`: a send is repeated only after an explicit refusal, a
  final status stays, and what is recorded as sent keeps the dedupe window and the rate limits,
  for as long as the ledger keeps a row.
-/

namespace HomeAddons.Gateway

open HomeAddons.Common

/-! ## Requests -/

def dedupeWindow : ℤ := seconds 1800
def sourceRateLimit : ℕ := 3
def globalRateLimit : ℕ := 10
def rateLimitWindow : ℤ := seconds 60
def retryDelays : List ℕ := [5, 30, 120]
def ledgerRetention : ℤ := seconds (30 * 24 * 60 * 60)

/-- What `parse_request` raises: a public validation failure, or an exception of Python's own. -/
inductive RequestError where
  | validation (code message messageId : String)
  | raised
  deriving DecidableEq

structure NotificationRequest where
  messageId : String
  createdAt : Instant
  expiresAt : Instant
  level : String
  title : String
  message : String
  source : String
  dedupeKey : String
  ttl : ℤ
  audience : String

def requestFields : List String :=
  ["version", "message_id", "created_at", "level", "title", "message", "source", "dedupe_key",
    "ttl", "audience"]

def levelLabels : List (String × String) :=
  [("info", "通知"), ("warning", "警告"), ("critical", "紧急")]

/-- `re.match` of `^first rest{0,n}$`, where `$` also stands before a last newline. -/
def matchesName (first rest : Char → Bool) (n : ℕ) (text : String) : Bool :=
  let whole : List Char → Bool
    | [] => false
    | c :: cs => first c && cs.length ≤ n && cs.all rest
  let cs := text.toList
  whole cs || (cs.getLast? = some '\n' && whole cs.dropLast)

/-- `_ID_RE`. -/
def isId : String → Bool :=
  matchesName Char.isAlphanum (fun c => c.isAlphanum || "._:-".toList.contains c) 127

/-- `_STABLE_NAME_RE`. -/
def isStableName : String → Bool :=
  matchesName (fun c => c.isAlphanum || c = '_') (fun c => c.isAlphanum || "_.:-".toList.contains c)
    254

/-- `_require_string`. -/
def requireString (payload : Dict) (name : String) (maxLength : ℕ) (stable : Bool)
    (messageId : String) : Except RequestError String := do
  let value ← orRaise (Dict.get payload name).asStr?
    (.validation "invalid_payload" (name ++ " must be a non-empty string") messageId)
  let value := strip value
  ensure (value ≠ "")
    (.validation "invalid_payload" (name ++ " must be a non-empty string") messageId)
  ensure (value.length ≤ maxLength)
    (.validation "invalid_payload" (name ++ " is too long") messageId)
  ensure (!stable || isStableName value)
    (.validation "invalid_payload" (name ++ " has an invalid format") messageId)
  return value

/-- `created_raw.replace("Z", "+00:00")`. -/
def withOffset (text : String) : String :=
  String.ofList (text.toList.flatMap fun c => if c = 'Z' then "+00:00".toList else [c])

/-- The instants of the years 1 to 9999. -/
def inCalendar (t : Instant) : Prop :=
  (1 - epochOrdinal) * dayMicros ≤ t ∧ t < (maxOrdinal + 1 - epochOrdinal) * dayMicros

instance : DecidablePred inCalendar := fun _ => inferInstanceAs (Decidable (_ ∧ _))

/-- `parse_request`. -/
def parseRequest (allowedAudiences : List String) (payload : Json) (now : Instant) :
    Except RequestError NotificationRequest := do
  let payload ← orRaise payload.asDict?
    (.validation "invalid_payload" "payload must be a JSON object" "")
  ensure (Dict.keysAre payload requestFields)
    (.validation "invalid_payload" "payload fields must match notification v1" "")
  let messageId := (Dict.get payload "message_id").asStr?.getD ""
  ensure ((Dict.get payload "version").eqInt 1)
    (.validation "unsupported_version" "version must be 1" messageId)
  ensure (isId messageId) (.validation "invalid_message_id" "invalid message_id" "")
  let createdRaw ← orRaise (Dict.get payload "created_at").asStr?
    (.validation "invalid_created_at" "created_at must be an ISO 8601 string" messageId)
  let (created, offset) ← orRaise (fromIsoformat (withOffset createdRaw))
    (.validation "invalid_created_at" "created_at is not valid ISO 8601" messageId)
  let offset ← orRaise offset
    (.validation "invalid_created_at" "created_at must include a timezone" messageId)
  let createdUtc := created - offset
  -- `astimezone` and the later additions raise `OverflowError` outside the calendar
  ensure (inCalendar createdUtc) .raised
  ensure (inCalendar (now + seconds 300)) .raised
  ensure (createdUtc ≤ now + seconds 300)
    (.validation "created_at_in_future" "created_at is too far in the future" messageId)
  let ttl ← orRaise (Dict.get payload "ttl").asInt?
    (.validation "invalid_ttl" "ttl must be an integer from 30 to 86400" messageId)
  ensure (30 ≤ ttl ∧ ttl ≤ 86400)
    (.validation "invalid_ttl" "ttl must be an integer from 30 to 86400" messageId)
  let known ← orRaise ((Dict.get payload "level").inStrings (levelLabels.map Prod.fst)) .raised
  ensure known
    (.validation "invalid_level" "level must be info, warning, or critical" messageId)
  let title ← requireString payload "title" 100 false messageId
  let message ← requireString payload "message" 4000 false messageId
  let source ← requireString payload "source" 255 true messageId
  let dedupeKey ← requireString payload "dedupe_key" 255 true messageId
  let audience ← requireString payload "audience" 255 true messageId
  ensure (audience ∈ allowedAudiences)
    (.validation "audience_not_allowed" "audience is not enabled" messageId)
  ensure (inCalendar (createdUtc + seconds ttl.toNat)) .raised
  return {
    messageId := messageId
    createdAt := createdUtc
    expiresAt := createdUtc + seconds ttl.toNat
    level := (Dict.get payload "level").asStr?.getD ""
    title := title
    message := message
    source := source
    dedupeKey := dedupeKey
    ttl := ttl
    audience := audience
  }

/-- `format_weixin_text`. -/
def formatWeixinText (request : NotificationRequest) : String :=
  "【" ++ (levelLabels.lookup request.level).getD "" ++ "】" ++ request.title ++ "\n" ++
    request.message

/-! ## The ledger -/

inductive NotificationStatus where
  | accepted
  | sending
  | retrying
  | duplicate
  | expired
  | sent
  | failed
  deriving DecidableEq, Repr

namespace NotificationStatus

/-- `_FINAL_STATUSES`. -/
def isFinal : NotificationStatus → Bool
  | duplicate | expired | sent | failed => true
  | accepted | sending | retrying => false

/-- The statuses that `has_recent_dedupe` and `count_recent` look at. -/
def counts : NotificationStatus → Bool
  | accepted | sending | retrying | sent => true
  | duplicate | expired | failed => false

end NotificationStatus

/-- A row of `messages`. -/
structure MessageRow where
  messageId : String
  dedupeKey : String
  source : String
  receivedAt : Instant
  expiresAt : Instant
  status : NotificationStatus
  attempts : ℕ
  errorCode : Option String
  finishedAt : Option Instant
  deriving DecidableEq

abbrev NotificationLedger := Table MessageRow.messageId

/-- The row that `insert` writes. -/
def NotificationRequest.row (request : NotificationRequest) (status : NotificationStatus)
    (now : Instant) : MessageRow where
  messageId := request.messageId
  dedupeKey := request.dedupeKey
  source := request.source
  receivedAt := now
  expiresAt := request.expiresAt
  status := status
  attempts := 0
  errorCode := none
  finishedAt := none

namespace NotificationLedger

/-- `has_recent_dedupe`. -/
def hasRecentDedupe (ledger : NotificationLedger) (dedupeKey : String) (since : Instant) : Bool :=
  ledger.rows.any fun r => r.dedupeKey = dedupeKey ∧ since ≤ r.receivedAt ∧ r.status.counts

/-- `count_recent`. -/
def countRecent (ledger : NotificationLedger) (since : Instant) (source : Option String) : ℕ :=
  ledger.rows.countP fun r => since ≤ r.receivedAt ∧ (∀ s ∈ source, r.source = s) ∧ r.status.counts

end NotificationLedger

/-! ## Effects -/

/-- `result_payload`. -/
structure ResultPayload where
  messageId : String
  status : NotificationStatus
  finishedAt : Instant
  attempt : ℕ
  errorCode : Option String
  deriving DecidableEq

/-- What the sender returns: whether the message was sent, else an error code and whether Weixin
    refused it in a way that allows another attempt. -/
structure SendOutcome where
  ok : Bool
  errorCode : Option String
  recoverable : Bool

inductive NotificationEvent where
  | wrote (row : MessageRow)
  | dropped (row : MessageRow)
  | published (payload : ResultPayload)
  | started (messageId : String)
  | ended (messageId : String) (outcome : SendOutcome)

structure NotificationWorld where
  ledger : NotificationLedger
  /-- How many effects there were. -/
  tick : ℕ
  log : List NotificationEvent

/-- What the surroundings do at each effect: the clock, what publishing and sending return, and
    whether the process stops before the effect. -/
structure Surroundings where
  clock : ℕ → Instant
  uuid : ℕ → String
  publish : ℕ → Bool
  send : ℕ → SendOutcome
  stops : ℕ → Bool

namespace NotificationProcessor

abbrev Worker := EStateM Unit NotificationWorld

variable (O : Surroundings)

/-- One effect, unless the process stops before it. -/
def effect {α : Type} (f : NotificationWorld → α × NotificationWorld) : Worker α := fun w =>
  if O.stops w.tick then .error () { w with tick := w.tick + 1 }
  else .ok (f w).1 { (f w).2 with tick := w.tick + 1 }

def clock : Worker Instant := effect O fun w => (O.clock w.tick, w)

def sleep (_ : ℕ) : Worker Unit := effect O fun w => ((), w)

/-- `ledger.insert`; what it returns is not looked at. -/
def insert (request : NotificationRequest) (status : NotificationStatus) (now : Instant) :
    Worker Unit := effect O fun w =>
  match w.ledger.insert? (request.row status now) with
  | some ledger => ((), { w with ledger, log := w.log ++ [.wrote (request.row status now)] })
  | none => ((), w)

/-- What `ledger.update` writes. -/
def rewrite (status : NotificationStatus) (attempts : ℕ) (errorCode : Option String)
    (finishedAt : Option Instant) (row : MessageRow) : MessageRow :=
  { row with status, attempts, errorCode, finishedAt }

/-- `ledger.update`. -/
def update (messageId : String) (status : NotificationStatus) (attempts : ℕ)
    (errorCode : Option String) (finishedAt : Option Instant) : Worker Unit := effect O fun w =>
  let f := rewrite status attempts errorCode finishedAt
  ((), { w with
    ledger := w.ledger.update messageId f (by intro _; rfl)
    log := w.log ++ ((w.ledger.get? messageId).map fun row => .wrote (f row)).toList })

/-- `ledger.cleanup`. -/
def cleanup (before : Instant) : Worker Unit := effect O fun w =>
  let old : MessageRow → Bool := fun row => row.receivedAt < before
  ((), { w with
    ledger := w.ledger.deleteWhere old
    log := w.log ++ (w.ledger.rows.filter old).map .dropped })

/-- `_publish`. -/
def publish (messageId : String) (status : NotificationStatus) (attempt : ℕ)
    (errorCode : Option String) : Worker Bool := do
  let now ← clock O
  effect O fun w => (O.publish w.tick,
    { w with log := w.log ++ [.published ⟨messageId, status, now, attempt, errorCode⟩] })

/-- `_publish` for a delivery without a usable message id. -/
def publishInvalid (errorCode : String) : Worker Bool := do
  let id ← effect O fun w => (O.uuid w.tick, w)
  publish O ("invalid-" ++ id) .failed 0 (some errorCode)

/-- `sender`: the process may also stop while the message is under way. -/
def send (messageId : String) (_text : String) : Worker SendOutcome := do
  effect O fun w => ((), { w with log := w.log ++ [.started messageId] })
  effect O fun w => (O.send w.tick,
    { w with log := w.log ++ [.ended messageId (O.send w.tick)] })

/-- `_finish`. -/
def finish (messageId : String) (status : NotificationStatus) (attempt : ℕ)
    (errorCode : Option String) : Worker Bool := do
  let now ← clock O
  update O messageId status attempt errorCode (some now)
  publish O messageId status attempt errorCode

/-! ## `process` -/

/-- One round of the delivery loop after its delay; `retry` is the rest of the loop. -/
def attempt (request : NotificationRequest) (attempts : ℕ) (retry : Worker Bool) :
    Worker Bool := do
  update O request.messageId .sending attempts none none
  let _ ← publish O request.messageId .sending attempts none
  let outcome ← send O request.messageId (formatWeixinText request)
  if outcome.ok then finish O request.messageId .sent attempts none
  else if !outcome.recoverable then
    finish O request.messageId .failed attempts outcome.errorCode
  else retry

/-- The rounds of the delivery loop after the first. -/
def deliverAgain (request : NotificationRequest) (attempts : ℕ) : List ℕ → Worker Bool
  | [] => finish O request.messageId .failed attempts (some "retry_exhausted")
  | delay :: delays => do
    let now ← clock O
    if request.expiresAt ≤ now + seconds delay then
      finish O request.messageId .expired attempts (some "ttl_expired")
    else
      update O request.messageId .retrying attempts (some "notification_retry_scheduled") none
      let _ ← publish O request.messageId .retrying attempts (some "notification_retry_scheduled")
      sleep O delay
      attempt O request (attempts + 1) (deliverAgain request (attempts + 1) delays)

/-- The delivery loop. -/
def deliver (request : NotificationRequest) : Worker Bool :=
  attempt O request 1 (deliverAgain O request 1 retryDelays)

/-- The branch of `process` for a message that is on file. -/
def resume (request : NotificationRequest) (now : Instant) (existing : MessageRow) :
    Worker Bool :=
  if existing.status.isFinal then
    publish O request.messageId existing.status existing.attempts existing.errorCode
  else if request.expiresAt ≤ now then
    finish O request.messageId .expired existing.attempts (some "ttl_expired")
  else if existing.status = .sending ∨ existing.status = .retrying then
    finish O request.messageId .failed existing.attempts (some "delivery_state_unknown")
  else deliver O request

/-- The branch of `process` for a message that is not. -/
def receive (request : NotificationRequest) (now : Instant) (ledger : NotificationLedger) :
    Worker Bool :=
  if request.expiresAt ≤ now then do
    insert O request .expired now
    finish O request.messageId .expired 0 (some "ttl_expired")
  else if ledger.hasRecentDedupe request.dedupeKey (now - dedupeWindow) then do
    insert O request .duplicate now
    finish O request.messageId .duplicate 0 (some "dedupe_window")
  else if sourceRateLimit ≤ ledger.countRecent (now - rateLimitWindow) (some request.source) ∨
      globalRateLimit ≤ ledger.countRecent (now - rateLimitWindow) none then do
    insert O request .failed now
    finish O request.messageId .failed 0 (some "rate_limited")
  else do
    insert O request .accepted now
    let _ ← publish O request.messageId .accepted 0 none
    deliver O request

/-- What `process` does with a request that parses. -/
def handle (request : NotificationRequest) : Worker Bool := do
  let now ← clock O
  cleanup O (now - ledgerRetention)
  let w ← get
  match w.ledger.get? request.messageId with
  | some existing => resume O request now existing
  | none => receive O request now w.ledger

/-- `process`; the delivery is `none` when it is not JSON. -/
def process (allowedAudiences : List String) (rawPayload : Option Json) : Worker Bool :=
  match rawPayload with
  | none => publishInvalid O "invalid_json"
  | some payload => do
    let now ← clock O
    match parseRequest allowedAudiences payload now with
    | .ok request => handle O request
    | .error (.validation code _ messageId) =>
      if isId messageId then publish O messageId .failed 0 (some code) else publishInvalid O code
    | .error .raised => throw ()

/-- One delivery: the worker goes on with the next whatever comes of it. -/
def serve (allowedAudiences : List String) (w : NotificationWorld) (rawPayload : Option Json) :
    NotificationWorld :=
  match process O allowedAudiences rawPayload w with
  | .ok _ w' => w'
  | .error _ w' => w'

/-! ## What the log says -/

/-- What is known of a message when it is first received. -/
structure Reception where
  dedupeKey : String
  source : String
  receivedAt : Instant

/-- What the limits look at. -/
def reception (row : MessageRow) : Reception := ⟨row.dedupeKey, row.source, row.receivedAt⟩

namespace Event

/-- The message was recorded with the status. -/
def Wrote (id : String) (status : NotificationStatus) (e : NotificationEvent) : Prop :=
  ∃ row, e = .wrote row ∧ row.messageId = id ∧ row.status = status

/-- The row of the message was dropped. -/
def Drops (id : String) (e : NotificationEvent) : Prop :=
  ∃ row, e = .dropped row ∧ row.messageId = id

/-- The row of the message was dropped, or a send was refused in a way that allows another. -/
def Settles (id : String) (e : NotificationEvent) : Prop :=
  Drops id e ∨ ∃ outcome, e = .ended id outcome ∧ outcome.ok = false ∧ outcome.recoverable = true

end Event

/-- A send of the message was started, and neither refused in a way that allows another nor
    forgotten. -/
def Pending (id : String) : List NotificationEvent → Prop :=
  Since (· = .started id) (Event.Settles id)

/-- The message was recorded with the status, and its row was not dropped. -/
def Recorded (id : String) (status : NotificationStatus) : List NotificationEvent → Prop :=
  Since (Event.Wrote id status) (Event.Drops id)

/-- The messages that were recorded as sent. -/
def sentMessages (log : List NotificationEvent) : List Reception :=
  log.filterMap fun
    | .wrote row => if row.status = .sent then some (reception row) else none
    | _ => none

/-- A send starts only when none is pending. -/
def SendsOnce (before : List NotificationEvent) (e : NotificationEvent) : Prop :=
  ∀ id, e = .started id → ¬ Pending id before

/-- A final status is only written again. -/
def KeepsFinal (before : List NotificationEvent) (e : NotificationEvent) : Prop :=
  ∀ row, e = .wrote row → ∀ status, status.isFinal = true →
    Recorded row.messageId status before → row.status = status

/-- A row is dropped when it was received longer ago than the retention. -/
def DropsLate (_ : List NotificationEvent) (e : NotificationEvent) : Prop :=
  ∀ row, e = .dropped row → ∃ k, row.receivedAt < O.clock k - ledgerRetention

/-- The dedupe window and the rate limits. -/
structure Limited (l : List Reception) : Prop where
  dedupe : ∀ key, AtMost Reception.receivedAt dedupeWindow 1 (fun r => r.dedupeKey = key) l
  source : ∀ source,
    AtMost Reception.receivedAt rateLimitWindow sourceRateLimit (fun r => r.source = source) l
  total : AtMost Reception.receivedAt rateLimitWindow globalRateLimit (fun _ => true) l

namespace Limited

variable {l l' : List Reception}

theorem nil : Limited [] := ⟨fun _ => .nil, fun _ => .nil, .nil⟩

theorem perm (h : Limited l) (hp : l.Perm l') : Limited l' :=
  ⟨fun key => (h.dedupe key).perm hp, fun source => (h.source source).perm hp, h.total.perm hp⟩

theorem sublist (h : Limited l) (hs : l'.Sublist l) : Limited l' :=
  ⟨fun key => (h.dedupe key).sublist hs, fun source => (h.source source).sublist hs,
    h.total.sublist hs⟩

end Limited

/-- The receptions of the rows that satisfy `p`. -/
def receptions (p : NotificationStatus → Bool) (rows : List MessageRow) : List Reception :=
  (rows.filter fun row => p row.status).map reception

/-- What holds of the ledger and the log at the time `t`: the rows that were dropped are too old to
    count, and they keep the limits together with those that count. -/
structure Sound (t : Instant) (w : NotificationWorld) : Prop where
  time : ∀ k, w.tick ≤ k → t ≤ O.clock k
  sends : Always SendsOnce w.log
  finals : Always KeepsFinal w.log
  drops : Always (DropsLate O) w.log
  pending : ∀ id, Pending id w.log → ∃ row, w.ledger.get? id = some row ∧ row.status ≠ .accepted
  recorded : ∀ id status, status.isFinal = true → Recorded id status w.log →
    ∃ row, w.ledger.get? id = some row ∧ row.status = status
  limits : ∃ old, (sentMessages w.log).Perm (old ++ receptions (· = .sent) w.ledger.rows) ∧
    (∀ r ∈ old, r.receivedAt < t - ledgerRetention) ∧
    Limited (old ++ receptions NotificationStatus.counts w.ledger.rows)

/-! ## Effects keep it -/

namespace Sound

variable {O} {t : Instant} {w : NotificationWorld}

theorem tick (h : Sound O t w) : Sound O t { w with tick := w.tick + 1 } :=
  { h with time := fun k hk => h.time k (Nat.le_of_succ_le hk) }

/-- Time passes. -/
theorem later (h : Sound O t w) {now : Instant} (hle : t ≤ now)
    (htime : ∀ k, w.tick ≤ k → now ≤ O.clock k) : Sound O now w := by
  obtain ⟨old, hsent, hold, hlimited⟩ := h.limits
  refine { h with time := htime, limits := ⟨old, hsent, fun r hr => ?_, hlimited⟩ }
  exact (hold r hr).trans_le (Int.sub_le_sub_right hle _)

theorem sentMessages_append (log : List NotificationEvent) (es : List NotificationEvent) :
    sentMessages (log ++ es) = sentMessages log ++ sentMessages es := List.filterMap_append

theorem sentMessages_wrote (row : MessageRow) :
    sentMessages [.wrote row] =
      if decide (row.status = .sent) = true then [reception row] else [] := by
  by_cases h : row.status = .sent <;> simp [sentMessages, h]

/-- An event of no consequence. -/
theorem note (h : Sound O t w) {e : NotificationEvent} (hwrote : ∀ row, e ≠ .wrote row)
    (hstarted : ∀ id, e ≠ .started id) (hdropped : ∀ row, e ≠ .dropped row) :
    Sound O t { w with log := w.log ++ [e] } where
  time := h.time
  sends := always_snoc.mpr ⟨h.sends, fun id he => absurd he (hstarted id)⟩
  finals := always_snoc.mpr ⟨h.finals, fun row he => absurd he (hwrote row)⟩
  drops := always_snoc.mpr ⟨h.drops, fun row he => absurd he (hdropped row)⟩
  pending id hp := h.pending id ((since_snoc.mp hp).resolve_left (hstarted id)).1
  recorded id status hs hr :=
    h.recorded id status hs ((since_snoc.mp hr).resolve_left fun ⟨row, he, _⟩ => hwrote row he).1
  limits := by
    obtain ⟨old, hsent, hold, hlimited⟩ := h.limits
    refine ⟨old, ?_, hold, hlimited⟩
    have hnone : sentMessages [e] = [] := by
      cases e with
      | wrote row => exact absurd rfl (hwrote row)
      | dropped row => rfl
      | published payload => rfl
      | started id => rfl
      | ended id outcome => rfl
    rw [sentMessages_append, hnone, List.append_nil]
    exact hsent

/-- A send starts. -/
theorem start (h : Sound O t w) {id : String} {row : MessageRow}
    (hrow : w.ledger.get? id = some row) (hstatus : row.status ≠ .accepted)
    (hclear : ¬ Pending id w.log) : Sound O t { w with log := w.log ++ [.started id] } where
  time := h.time
  sends := by
    refine always_snoc.mpr ⟨h.sends, fun id' he => ?_⟩
    cases he
    exact hclear
  finals := always_snoc.mpr ⟨h.finals, fun row he => nomatch he⟩
  drops := always_snoc.mpr ⟨h.drops, fun row he => nomatch he⟩
  pending id' hp := by
    obtain he | ⟨hp, -⟩ := since_snoc.mp hp
    · cases he
      exact ⟨row, hrow, hstatus⟩
    · exact h.pending id' hp
  recorded id' status hs hr :=
    h.recorded id' status hs ((since_snoc.mp hr).resolve_left fun ⟨_, he, _⟩ => nomatch he).1
  limits := by
    obtain ⟨old, hsent, hold, hlimited⟩ := h.limits
    refine ⟨old, ?_, hold, hlimited⟩
    rw [sentMessages_append]
    exact (List.append_nil _).symm ▸ hsent

variable {row : MessageRow}

theorem receptions_of_get? {p : NotificationStatus → Bool} {id : String}
    {f : MessageRow → MessageRow} (hf : ∀ r, (f r).messageId = r.messageId)
    (hrow : w.ledger.get? id = some row) (hreception : reception (f row) = reception row) :
    ∃ l₁ l₂, receptions p w.ledger.rows =
        l₁ ++ (if p row.status = true then [reception row] else []) ++ l₂ ∧
      receptions p (w.ledger.update id f hf).rows =
        l₁ ++ (if p (f row).status = true then [reception row] else []) ++ l₂ := by
  obtain ⟨rows₁, rows₂, hrows, hrows'⟩ := Table.rows_update_of_get? hrow f hf
  refine ⟨receptions p rows₁, receptions p rows₂, ?_, ?_⟩
  · rw [hrows, receptions, List.filter_append, List.filter_cons, List.map_append, List.append_assoc]
    split_ifs <;> rfl
  · rw [hrows', receptions, List.filter_append, List.filter_cons, List.map_append,
      List.append_assoc, ← hreception]
    split_ifs <;> rfl

/-- A row is rewritten: a final status stays, and no row comes to count that did not. -/
theorem update (h : Sound O t w) {id : String} (hrow : w.ledger.get? id = some row)
    {status : NotificationStatus}
    (hfinal : row.status.isFinal = true → status = row.status ∧ status ≠ .sent)
    (hcounts : status.counts = true → row.status.counts = true) (haccepted : status ≠ .accepted)
    (attempts : ℕ) (errorCode : Option String) (finishedAt : Option Instant) :
    Sound O t { w with
      ledger := w.ledger.update id (rewrite status attempts errorCode finishedAt) (by intro _; rfl)
      log := w.log ++ [.wrote (rewrite status attempts errorCode finishedAt row)] } where
  time := h.time
  sends := always_snoc.mpr ⟨h.sends, fun _ he => nomatch he⟩
  finals := by
    refine always_snoc.mpr ⟨h.finals, fun row' he status' hs hr => ?_⟩
    cases he
    obtain ⟨row', hrow', rfl⟩ := h.recorded _ status' hs hr
    obtain rfl : row.messageId = id := Table.key_of_get? hrow
    rw [show (rewrite status attempts errorCode finishedAt row).messageId = row.messageId from rfl,
      hrow] at hrow'
    cases hrow'
    exact (hfinal hs).1
  drops := always_snoc.mpr ⟨h.drops, fun _ he => nomatch he⟩
  pending id' hp := by
    obtain ⟨row', hrow', hstatus⟩ := h.pending id' ((since_snoc.mp hp).resolve_left nofun).1
    by_cases hid : id' = id
    · subst hid
      exact ⟨_, Table.get?_update_of_get? hrow _ (by intro _; rfl), haccepted⟩
    · exact ⟨row', (Table.get?_update_of_ne _ hid _ (by intro _; rfl)).trans hrow', hstatus⟩
  recorded id' status' hs hr := by
    obtain ⟨row', he, rfl, rfl⟩ | ⟨hr, -⟩ := since_snoc.mp hr
    · cases he
      obtain rfl : row.messageId = id := Table.key_of_get? hrow
      exact ⟨_, Table.get?_update_of_get? hrow _ (by intro _; rfl), rfl⟩
    · obtain ⟨row', hrow', rfl⟩ := h.recorded id' status' hs hr
      by_cases hid : id' = id
      · subst hid
        rw [hrow] at hrow'
        cases hrow'
        exact ⟨_, Table.get?_update_of_get? hrow _ (by intro _; rfl), (hfinal hs).1⟩
      · exact ⟨row', (Table.get?_update_of_ne _ hid _ (by intro _; rfl)).trans hrow', rfl⟩
  limits := by
    obtain ⟨old, hsent, hold, hlimited⟩ := h.limits
    refine ⟨old, ?_, hold, ?_⟩
    · obtain ⟨l₁, l₂, hl, hl'⟩ := receptions_of_get? (p := (· = .sent))
        (f := rewrite status attempts errorCode finishedAt) (by intro _; rfl) hrow rfl
      have hnot : row.status ≠ .sent := fun hs => by
        obtain ⟨he, hne⟩ := hfinal (by rw [hs]; rfl)
        exact hne (he.trans hs)
      rw [hl, if_neg (by simpa using hnot), List.append_nil] at hsent
      rw [hl', sentMessages_append]
      refine (hsent.append_right _).trans ?_
      rw [sentMessages_wrote, List.append_assoc, List.append_assoc, List.append_assoc]
      exact (List.perm_append_comm.append_left l₁).append_left old
    · obtain ⟨l₁, l₂, hl, hl'⟩ := receptions_of_get? (p := NotificationStatus.counts)
        (f := rewrite status attempts errorCode finishedAt) (by intro _; rfl) hrow rfl
      rw [hl'] 
      rw [hl] at hlimited
      refine hlimited.sublist (.append_left (.append_right (.append_left ?_ _) _) _)
      split_ifs with h₁ h₂ h₃
      · exact .refl _
      · exact absurd (hcounts h₁) h₂
      · exact List.nil_sublist _
      · exact .refl _

/-- A message is received that is not on file. -/
theorem insert (h : Sound O t w) {ledger : NotificationLedger}
    (hinsert : w.ledger.insert? row = some ledger) (hsent : row.status ≠ .sent)
    (hlimits : row.status.counts = true → ∀ old, (∀ r ∈ old, r.receivedAt < t - ledgerRetention) →
      Limited (old ++ receptions NotificationStatus.counts w.ledger.rows) →
      Limited (old ++ receptions NotificationStatus.counts w.ledger.rows ++ [reception row])) :
    Sound O t { w with ledger := ledger, log := w.log ++ [.wrote row] } where
  time := h.time
  sends := always_snoc.mpr ⟨h.sends, fun _ he => nomatch he⟩
  finals := by
    refine always_snoc.mpr ⟨h.finals, fun row' he status hs hr => ?_⟩
    cases he
    obtain ⟨row', hrow', -⟩ := h.recorded _ status hs hr
    rw [Table.get?_of_insert? hinsert] at hrow'
    cases hrow'
  drops := always_snoc.mpr ⟨h.drops, fun _ he => nomatch he⟩
  pending id hp := by
    obtain ⟨row', hrow', hstatus⟩ := h.pending id ((since_snoc.mp hp).resolve_left nofun).1
    exact ⟨row', Table.get?_insert?_of_get? hinsert hrow', hstatus⟩
  recorded id status hs hr := by
    obtain ⟨row', he, rfl, rfl⟩ | ⟨hr, -⟩ := since_snoc.mp hr
    · cases he
      exact ⟨row, (Table.get?_insert? hinsert _).trans (if_pos rfl), rfl⟩
    · obtain ⟨row', hrow', hstatus⟩ := h.recorded id status hs hr
      exact ⟨row', Table.get?_insert?_of_get? hinsert hrow', hstatus⟩
  limits := by
    obtain ⟨old, hperm, hold, hlimited⟩ := h.limits
    refine ⟨old, ?_, hold, ?_⟩
    · rw [sentMessages_append, sentMessages_wrote, if_neg (by simpa using hsent), List.append_nil,
        Table.rows_insert? hinsert, receptions, List.filter_append,
        List.filter_cons_of_neg (by simpa using hsent), List.filter_nil, List.append_nil]
      exact hperm
    · rw [Table.rows_insert? hinsert, receptions, List.filter_append, List.map_append,
        ← List.append_assoc]
      by_cases hcounts : row.status.counts = true
      · rw [List.filter_singleton, hcounts]
        exact hlimits hcounts old hold hlimited
      · rw [List.filter_singleton, Bool.eq_false_iff.mpr hcounts]
        exact (List.append_nil (old ++ _)).symm ▸ hlimited

/-- The rows that are older than the retention are dropped. -/
theorem cleanup (h : Sound O t w) :
    let old : MessageRow → Bool := fun row => row.receivedAt < t - ledgerRetention
    Sound O t { w with
      ledger := w.ledger.deleteWhere old
      log := w.log ++ (w.ledger.rows.filter old).map .dropped } := by
  intro old
  have hnot : ∀ e ∈ (w.ledger.rows.filter old).map NotificationEvent.dropped,
      ∃ row ∈ w.ledger.rows, e = .dropped row ∧ old row = true := by
    intro e he
    obtain ⟨row, hrow, rfl⟩ := List.mem_map.mp he
    exact ⟨row, (List.mem_filter.mp hrow).1, rfl, (List.mem_filter.mp hrow).2⟩
  -- a row whose message was not dropped is still there
  have hstays : ∀ {id : String} {row : MessageRow}, w.ledger.get? id = some row →
      (∀ e ∈ (w.ledger.rows.filter old).map NotificationEvent.dropped, ¬ Event.Drops id e) →
      (w.ledger.deleteWhere old).get? id = some row := by
    intro id row hrow hkept
    rw [Table.get?_deleteWhere, hrow, Option.filter_some, if_pos]
    rw [Bool.not_eq_true', Bool.eq_false_iff]
    intro hold
    refine hkept (.dropped row) (List.mem_map_of_mem ?_) ⟨row, rfl, Table.key_of_get? hrow⟩
    exact List.mem_filter.mpr ⟨Table.mem_of_get? hrow, hold⟩
  constructor
  case time => exact h.time
  case sends =>
    refine always_append h.sends fun e he l id hstart => ?_
    obtain ⟨row, -, rfl, -⟩ := hnot e he
    cases hstart
  case finals =>
    refine always_append h.finals fun e he l row' hwrote => ?_
    obtain ⟨row, -, rfl, -⟩ := hnot e he
    cases hwrote
  case drops =>
    refine always_append h.drops fun e he l row' hdropped => ?_
    obtain ⟨row, -, rfl, hold⟩ := hnot e he
    cases hdropped
    refine ⟨w.tick, (of_decide_eq_true hold).trans_le ?_⟩
    exact Int.sub_le_sub_right (h.time w.tick le_rfl) _
  case pending =>
    intro id hp
    rw [Pending, since_append] at hp
    · obtain ⟨row, hrow, hstatus⟩ := h.pending id hp.1
      exact ⟨row, hstays hrow fun e he hd => hp.2 e he (.inl hd), hstatus⟩
    · intro e he hstart
      obtain ⟨row, -, rfl, -⟩ := hnot e he
      cases hstart
  case recorded =>
    intro id status hs hr
    rw [Recorded, since_append] at hr
    · obtain ⟨row, hrow, hstatus⟩ := h.recorded id status hs hr.1
      exact ⟨row, hstays hrow hr.2, hstatus⟩
    · rintro e he ⟨row', hwrote, -⟩
      obtain ⟨row, -, rfl, -⟩ := hnot e he
      cases hwrote
  case limits =>
    obtain ⟨before, hsent, hbefore, hlimited⟩ := h.limits
    have hsplit : ∀ p : NotificationStatus → Bool, (receptions p w.ledger.rows).Perm
        (receptions p (w.ledger.rows.filter old) ++
          receptions p (w.ledger.deleteWhere old).rows) := by
      intro p
      rw [receptions, receptions, receptions, ← List.map_append, ← List.filter_append]
      exact ((List.filter_append_perm old w.ledger.rows).symm.filter _).map reception
    refine ⟨before ++ receptions (· = .sent) (w.ledger.rows.filter old), ?_, ?_, ?_⟩
    · have hnone : sentMessages ((w.ledger.rows.filter old).map .dropped) = [] := by
        rw [sentMessages, List.filterMap_map]
        exact List.filterMap_eq_nil_iff.mpr fun _ _ => rfl
      rw [sentMessages_append, hnone, List.append_nil, List.append_assoc]
      exact hsent.trans ((hsplit _).append_left before)
    · intro r hr
      obtain hr | hr := List.mem_append.mp hr
      · exact hbefore r hr
      · obtain ⟨row, hrow, rfl⟩ := List.mem_map.mp hr
        exact of_decide_eq_true (List.mem_filter.mp (List.mem_filter.mp hrow).1).2
    · refine (hlimited.perm ((hsplit _).append_left before)).sublist ?_
      rw [List.append_assoc]
      refine .append_left (.append_right (.map reception ?_) _) _
      refine List.monotone_filter_right _ fun row hrow => ?_
      rw [of_decide_eq_true hrow]
      rfl

end Sound

/-! ## Every branch keeps it -/

section Branches

variable {t : Instant} {α : Type} {P : NotificationWorld → Prop}

/-- The process may stop before an effect, in a sound state. -/
theorem effect_exits {Q : α → NotificationWorld → Prop}
    {f : NotificationWorld → α × NotificationWorld} (hsound : ∀ w, P w → Sound O t w)
    (hrun : ∀ w, P w → Q (f w).1 { (f w).2 with tick := w.tick + 1 }) :
    Exits P (effect O f) Q fun _ => Sound O t := by
  intro w hw
  unfold effect
  split_ifs with hstop
  · exact (hsound w hw).tick
  · exact hrun w hw

/-- What reading the clock and publishing leave alone. -/
structure Stable (t : Instant) (P : NotificationWorld → Prop) : Prop where
  sound : ∀ w, P w → Sound O t w
  tick : ∀ w, P w → P { w with tick := w.tick + 1 }
  note : ∀ w payload, P w → P { w with log := w.log ++ [.published payload] }

namespace Stable

variable {O}

theorem clock (h : Stable O t P) : Exits P (clock O) (fun _ => P) fun _ => Sound O t :=
  effect_exits O h.sound h.tick

theorem sleep (h : Stable O t P) (delay : ℕ) :
    Exits P (sleep O delay) (fun _ => P) fun _ => Sound O t :=
  effect_exits O h.sound h.tick

theorem publish (h : Stable O t P) (messageId : String) (status : NotificationStatus)
    (attempt : ℕ) (errorCode : Option String) :
    Exits P (publish O messageId status attempt errorCode) (fun _ => P) fun _ => Sound O t :=
  h.clock.bind fun _ => effect_exits O h.sound fun w hw => h.tick _ (h.note w _ hw)

theorem publishInvalid (h : Stable O t P) (errorCode : String) :
    Exits P (publishInvalid O errorCode) (fun _ => P) fun _ => Sound O t :=
  (effect_exits O h.sound h.tick).bind fun _ => h.publish _ _ _ _

end Stable

theorem Sound.stable : Stable O t (Sound O t) where
  sound _ hw := hw
  tick _ hw := hw.tick
  note _ _ hw := hw.note nofun nofun nofun

/-- A message is being handled: it is on file with a status in `S`, and no send of it is pending
    where that is said. -/
structure Handling (t : Instant) (id : String) (S : NotificationStatus → Prop) (clear : Prop)
    (w : NotificationWorld) : Prop where
  sound : Sound O t w
  onFile : ∃ row, w.ledger.get? id = some row ∧ S row.status
  clear : clear → ¬ Pending id w.log

variable {id : String} {S : NotificationStatus → Prop} {clear : Prop}

theorem Handling.stable : Stable O t (Handling O t id S clear) where
  sound _ hw := hw.sound
  tick _ hw := ⟨hw.sound.tick, hw.onFile, hw.clear⟩
  note _ _ hw := ⟨hw.sound.note nofun nofun nofun, hw.onFile,
    fun hc hp => hw.clear hc ((since_snoc.mp hp).resolve_left nofun).1⟩

/-- The statuses that may be rewritten to `status`. -/
def Rewrites (S : NotificationStatus → Prop) (status : NotificationStatus) : Prop :=
  status ≠ .accepted ∧ ∀ s, S s → (s.isFinal = true → status = s ∧ status ≠ .sent) ∧
    (status.counts = true → s.counts = true)

variable {status : NotificationStatus} {request : NotificationRequest} {old : List Reception}
  {ledger : NotificationLedger}

theorem update_exits (hS : Rewrites S status) (attempts : ℕ) (errorCode : Option String)
    (finishedAt : Option Instant) :
    Exits (Handling O t id S clear) (update O id status attempts errorCode finishedAt)
      (fun _ => Handling O t id (· = status) clear) fun _ => Sound O t := by
  refine effect_exits O (fun _ hw => hw.sound) fun w hw => ?_
  obtain ⟨row, hrow, hs⟩ := hw.onFile
  obtain ⟨hfinal, hcounts⟩ := hS.2 _ hs
  rw [hrow]
  refine ⟨(hw.sound.update hrow hfinal hcounts hS.1 _ _ _).tick, ?_, fun hc hp => ?_⟩
  · exact ⟨_, Table.get?_update_of_get? hrow _ (by intro _; rfl), rfl⟩
  · exact hw.clear hc ((since_snoc.mp hp).resolve_left nofun).1

theorem finish_exits (hS : Rewrites S status) (attempts : ℕ) (errorCode : Option String) :
    Exits (Handling O t id S clear) (finish O id status attempts errorCode) (fun _ => Sound O t)
      fun _ => Sound O t := by
  refine (Handling.stable O).clock.bind fun now => ?_
  refine (update_exits O hS _ _ _).bind fun _ => ?_
  exact ((Handling.stable O).publish _ _ _ _).conseq (fun _ hw => hw) (fun _ _ hw => hw.sound)
    fun _ _ he => he

/-- After a send that was refused in a way that allows another, none is pending. -/
theorem send_exits (text : String) :
    Exits (Handling O t id (· = .sending) True) (send O id text)
      (fun outcome => Handling O t id (· = .sending)
        (outcome.ok = false ∧ outcome.recoverable = true)) fun _ => Sound O t := by
  refine Exits.bind (R := fun _ => Handling O t id (· = .sending) False)
    (effect_exits O (fun _ hw => hw.sound) fun w hw => ?_) fun _ =>
    effect_exits O (fun _ hw => hw.sound) fun w hw => ?_
  · obtain ⟨row, hrow, hs⟩ := hw.onFile
    refine ⟨(hw.sound.start hrow (by rw [hs]; decide) (hw.clear trivial)).tick, ⟨row, hrow, hs⟩, ?_⟩
    exact False.elim
  · refine ⟨(hw.sound.note (e := .ended id (O.send w.tick)) nofun nofun nofun).tick, hw.onFile,
      fun hc hp => ?_⟩
    obtain hstart | ⟨-, hsettles⟩ := since_snoc.mp hp
    · cases hstart
    · exact hsettles (.inr ⟨_, rfl, hc⟩)

theorem attempt_exits {retry : Worker Bool} (hS : Rewrites S .sending)
    (hretry : Exits (Handling O t request.messageId (· = .sending) True) retry
      (fun _ => Sound O t) fun _ => Sound O t) (attempts : ℕ) :
    Exits (Handling O t request.messageId S True) (attempt O request attempts retry)
      (fun _ => Sound O t) fun _ => Sound O t := by
  refine (update_exits O hS _ _ _).bind fun _ => ?_
  refine ((Handling.stable O).publish _ _ _ _).bind fun _ => ?_
  refine (send_exits O _).bind fun outcome => ?_
  refine Exits.ite (fun hok => finish_exits O ?_ _ _) fun hok =>
    Exits.ite (fun hrec => finish_exits O ?_ _ _) fun hrec => hretry.pre fun w hw => ?_
  · exact ⟨by decide, fun s hs => by rw [hs]; decide⟩
  · exact ⟨by decide, fun s hs => by rw [hs]; decide⟩
  · refine ⟨hw.sound, hw.onFile, fun _ => hw.clear ?_⟩
    rw [Bool.not_eq_true] at hok
    rw [Bool.not_eq_true', Bool.not_eq_false] at hrec
    exact ⟨hok, hrec⟩

/-- The rounds after the first, by induction on the delays that are left. -/
theorem deliverAgain_exits (request : NotificationRequest) (delays : List ℕ) (attempts : ℕ) :
    Exits (Handling O t request.messageId (· = .sending) True)
      (deliverAgain O request attempts delays) (fun _ => Sound O t) fun _ => Sound O t := by
  induction delays generalizing attempts with
  | nil => exact finish_exits O ⟨by decide, fun s hs => by rw [hs]; decide⟩ _ _
  | cons delay delays ih =>
    refine (Handling.stable O).clock.bind fun now => Exits.ite (fun _ => ?_) fun _ => ?_
    · exact finish_exits O ⟨by decide, fun s hs => by rw [hs]; decide⟩ _ _
    · refine (update_exits O ⟨by decide, fun s hs => by rw [hs]; decide⟩ _ _ _).bind fun _ => ?_
      refine ((Handling.stable O).publish _ _ _ _).bind fun _ => ?_
      refine ((Handling.stable O).sleep _).bind fun _ => ?_
      exact attempt_exits O ⟨by decide, fun s hs => by rw [hs]; decide⟩ (ih _) _

theorem deliver_exits (request : NotificationRequest) :
    Exits (Handling O t request.messageId (· = .accepted) True) (deliver O request)
      (fun _ => Sound O t) fun _ => Sound O t :=
  attempt_exits O ⟨by decide, fun s hs => by rw [hs]; decide⟩ (deliverAgain_exits O request _ _) _

theorem resume_exits (request : NotificationRequest) {existing : MessageRow} :
    Exits (fun w => Sound O t w ∧ w.ledger.get? request.messageId = some existing)
      (resume O request t existing) (fun _ => Sound O t) fun _ => Sound O t := by
  have hhandling : ∀ w, Sound O t w ∧ w.ledger.get? request.messageId = some existing →
      Handling O t request.messageId (· = existing.status) (existing.status = .accepted) w := by
    intro w hw
    refine ⟨hw.1, ⟨existing, hw.2, rfl⟩, fun hs hp => ?_⟩
    obtain ⟨row, hrow, hne⟩ := hw.1.pending _ hp
    rw [hw.2] at hrow
    cases hrow
    exact hne hs
  refine Exits.ite (fun hfinal => ?_) fun hfinal => Exits.ite (fun hexpired => ?_) fun _ =>
    Exits.ite (fun hunknown => ?_) fun hfresh => ?_
  · exact (Sound.stable O).publish _ _ _ _ |>.pre fun w hw => hw.1
  · refine (finish_exits O ⟨by decide, fun s hs => ⟨fun hf => ?_, fun hc => absurd hc (by decide)⟩⟩
      _ _).pre hhandling
    exact absurd (hs ▸ hf) hfinal
  · refine (finish_exits O ⟨by decide, fun s hs => ⟨fun hf => ?_, fun hc => absurd hc (by decide)⟩⟩
      _ _).pre hhandling
    exact absurd (hs ▸ hf) hfinal
  · have haccepted : existing.status = .accepted := by
      cases hs : existing.status <;> simp_all [NotificationStatus.isFinal]
    refine (deliver_exits O request).pre fun w hw => ?_
    obtain ⟨hsound, hrow, hclear⟩ := hhandling w hw
    exact ⟨hsound, haccepted ▸ hrow, fun _ => hclear haccepted⟩

/-- The rows that were dropped are too old for any window. -/
theorem countP_receptions {rows : List MessageRow}
    (hold : ∀ r ∈ old, r.receivedAt < t - ledgerRetention) {width : ℤ}
    (hwidth : width ≤ ledgerRetention) (p : Reception → Bool) :
    (old ++ receptions NotificationStatus.counts rows).countP
        (fun r => p r && decide (t - width ≤ r.receivedAt)) =
      rows.countP fun row =>
        p (reception row) && decide (t - width ≤ row.receivedAt) && row.status.counts := by
  have hnone : old.countP (fun r => p r && decide (t - width ≤ r.receivedAt)) = 0 := by
    refine List.countP_eq_zero.mpr fun r hr hcounted => ?_
    rw [Bool.and_eq_true, decide_eq_true_eq] at hcounted
    exact absurd hcounted.2 (not_le.mpr ((hold r hr).trans_le (Int.sub_le_sub_left hwidth t)))
  rw [List.countP_append, hnone, Nat.zero_add, receptions, List.countP_map, List.countP_filter]
  rfl

/-- The checks of a message that is not on file are those of the windows. -/
theorem Limited.receive (hold : ∀ r ∈ old, r.receivedAt < t - ledgerRetention)
    (h : Limited (old ++ receptions NotificationStatus.counts ledger.rows))
    (hdedupe : ¬ ledger.hasRecentDedupe request.dedupeKey (t - dedupeWindow) = true)
    (hrate : ¬ (sourceRateLimit ≤ ledger.countRecent (t - rateLimitWindow) (some request.source) ∨
      globalRateLimit ≤ ledger.countRecent (t - rateLimitWindow) none)) :
    Limited (old ++ receptions NotificationStatus.counts ledger.rows ++
      [reception (request.row .accepted t)]) := by
  rw [not_or, not_le, not_le] at hrate
  refine ⟨fun key => (h.dedupe key).add fun hkey => ?_,
    fun source => (h.source source).add fun hsource => ?_, h.total.add fun _ => ?_⟩
  · obtain rfl : request.dedupeKey = key := of_decide_eq_true hkey
    show List.countP (fun r : Reception => _ && decide (t - dedupeWindow ≤ r.receivedAt)) _ < 1
    rw [countP_receptions hold (by decide), Nat.lt_one_iff, List.countP_eq_zero]
    rintro row hrow hcounted
    refine hdedupe (List.any_eq_true.mpr ⟨row, hrow, ?_⟩)
    simp only [Bool.and_eq_true, decide_eq_true_eq] at hcounted ⊢
    exact ⟨hcounted.1.1, hcounted.1.2, hcounted.2⟩
  · obtain rfl : request.source = source := of_decide_eq_true hsource
    show List.countP (fun r : Reception => _ && decide (t - rateLimitWindow ≤ r.receivedAt)) _ < _
    rw [countP_receptions hold (by decide)]
    refine lt_of_eq_of_lt (List.countP_congr fun row _ => ?_) hrate.1
    simp only [Bool.and_eq_true, decide_eq_true_eq, Option.mem_def, Option.some.injEq,
      forall_eq', reception]
    exact ⟨fun hc => ⟨hc.1.2, of_decide_eq_true hc.1.1, hc.2⟩,
      fun hc => ⟨⟨decide_eq_true hc.2.1, hc.1⟩, hc.2.2⟩⟩
  · show List.countP (fun r : Reception => _ && decide (t - rateLimitWindow ≤ r.receivedAt)) _ < _
    rw [countP_receptions hold (by decide)]
    refine lt_of_eq_of_lt (List.countP_congr fun row _ => ?_) hrate.2
    simp only [Bool.and_eq_true, decide_eq_true_eq, Option.mem_def, reduceCtorEq, false_imp_iff,
      implies_true, true_and]

/-- A message that is not on file is inserted. -/
theorem insert_exits (request : NotificationRequest)
    (habsent : ledger.get? request.messageId = none) (status : NotificationStatus)
    (hsent : status ≠ .sent)
    (hlimits : status.counts = true → ∀ old, (∀ r ∈ old, r.receivedAt < t - ledgerRetention) →
      Limited (old ++ receptions NotificationStatus.counts ledger.rows) →
      Limited (old ++ receptions NotificationStatus.counts ledger.rows ++
        [reception (request.row status t)])) :
    Exits (fun w => Sound O t w ∧ w.ledger = ledger) (insert O request status t)
      (fun _ => Handling O t request.messageId (· = status) True) fun _ => Sound O t := by
  refine effect_exits O (fun w hw => hw.1) fun w hw => ?_
  obtain ⟨hsound, rfl⟩ := hw
  obtain ⟨ledger, hinsert⟩ := Table.insert?_of_get? (r := request.row status t) habsent
  rw [hinsert]
  refine ⟨(hsound.insert hinsert hsent hlimits).tick, ?_, fun _ hp => ?_⟩
  · exact ⟨_, (Table.get?_insert? hinsert _).trans (if_pos rfl), rfl⟩
  · obtain ⟨row, hrow, -⟩ := hsound.pending _ ((since_snoc.mp hp).resolve_left nofun).1
    rw [habsent] at hrow
    cases hrow

/-- A message that is not on file is refused. -/
theorem refuse_exits (request : NotificationRequest)
    (habsent : ledger.get? request.messageId = none) (status : NotificationStatus)
    (hcounts : status.counts = false) (haccepted : status ≠ .accepted) (errorCode : String) :
    Exits (fun w => Sound O t w ∧ w.ledger = ledger)
      (do
        insert O request status t
        finish O request.messageId status 0 (some errorCode))
      (fun _ => Sound O t) fun _ => Sound O t := by
  have hsent : status ≠ .sent := by
    rintro rfl
    cases hcounts
  refine (insert_exits O request habsent status hsent fun hc => ?_).bind fun _ =>
    finish_exits O ⟨haccepted, fun s hs => ?_⟩ _ _
  · rw [hcounts] at hc
    cases hc
  · subst hs
    exact ⟨fun _ => ⟨rfl, hsent⟩, id⟩

theorem receive_exits (request : NotificationRequest)
    (habsent : ledger.get? request.messageId = none) :
    Exits (fun w => Sound O t w ∧ w.ledger = ledger) (receive O request t ledger)
      (fun _ => Sound O t) fun _ => Sound O t := by
  refine Exits.ite (fun _ => ?_) fun _ => Exits.ite (fun _ => ?_) fun hdedupe =>
    Exits.ite (fun _ => ?_) fun hrate => ?_
  · exact refuse_exits O request habsent .expired rfl (by decide) _
  · exact refuse_exits O request habsent .duplicate rfl (by decide) _
  · exact refuse_exits O request habsent .failed rfl (by decide) _
  · refine (insert_exits O request habsent .accepted (by decide) fun _ old hold hlimited =>
      Limited.receive hold hlimited hdedupe hrate).bind fun _ => ?_
    exact ((Handling.stable O).publish _ _ _ _).bind fun _ => deliver_exits O request

/-- The clock of the surroundings does not go back. -/
theorem clock_exits (hclock : Monotone O.clock) :
    Exits (Sound O t) (clock O) (fun now => Sound O now) fun _ => Sound O t := by
  refine effect_exits O (fun _ hw => hw) fun w hw => ?_
  refine hw.tick.later (hw.time w.tick le_rfl) fun k hk => hclock (Nat.le_of_succ_le hk)

/-- What holds at some time. -/
def SoundEver (w : NotificationWorld) : Prop := ∃ t, Sound O t w

theorem handle_exits (hclock : Monotone O.clock) (request : NotificationRequest) :
    Exits (Sound O t) (handle O request) (fun _ => SoundEver O) fun _ => SoundEver O := by
  refine Exits.bind (R := fun now => Sound O now)
    ((clock_exits O hclock).conseq (fun _ hw => hw) (fun _ _ hw => hw) fun _ _ he => ⟨t, he⟩)
    fun now => ?_
  have hsome : ∀ {P : NotificationWorld → Prop} {p : Worker Bool},
      Exits P p (fun _ => Sound O now) (fun _ => Sound O now) →
      Exits P p (fun _ => SoundEver O) fun _ => SoundEver O := fun h =>
    h.conseq (fun _ hw => hw) (fun _ _ hw => ⟨now, hw⟩) fun _ _ he => ⟨now, he⟩
  refine hsome (Exits.bind (R := fun _ => Sound O now)
    (effect_exits O (fun _ hw => hw) fun w hw => hw.cleanup.tick) fun _ => ?_)
  refine Exits.get_bind fun w hw => ?_
  cases hrow : w.ledger.get? request.messageId with
  | some existing =>
    refine (resume_exits O request).pre ?_
    rintro _ rfl
    exact ⟨hw, hrow⟩
  | none =>
    refine (receive_exits O request hrow).pre ?_
    rintro _ rfl
    exact ⟨hw, rfl⟩

theorem process_exits (hclock : Monotone O.clock) (allowedAudiences : List String)
    (rawPayload : Option Json) :
    Exits (Sound O t) (process O allowedAudiences rawPayload) (fun _ => SoundEver O)
      fun _ => SoundEver O := by
  have hsome : ∀ {p : Worker Bool} {now : Instant},
      Exits (Sound O now) p (fun _ => Sound O now) (fun _ => Sound O now) →
      Exits (Sound O now) p (fun _ => SoundEver O) fun _ => SoundEver O := fun h =>
    h.conseq (fun _ hw => hw) (fun _ _ hw => ⟨_, hw⟩) fun _ _ he => ⟨_, he⟩
  unfold process
  cases rawPayload with
  | none => exact hsome ((Sound.stable O).publishInvalid _)
  | some payload =>
    refine Exits.bind (R := fun now => Sound O now)
      ((clock_exits O hclock).conseq (fun _ hw => hw) (fun _ _ hw => hw) fun _ _ he => ⟨t, he⟩)
      fun now => ?_
    cases parseRequest allowedAudiences payload now with
    | ok request => exact handle_exits O hclock request
    | error e =>
      cases e with
      | validation code message messageId =>
        refine Exits.ite (fun _ => hsome ?_) fun _ => hsome ?_
        · exact (Sound.stable O).publish _ _ _ _
        · exact (Sound.stable O).publishInvalid _
      | raised => exact Exits.throw fun w hw => ⟨now, hw⟩

end Branches

/-! ## Runs -/

/-- The ledger as it is created. -/
def start : NotificationWorld where
  ledger := Table.empty
  tick := 0
  log := []

theorem soundEver_start (hclock : Monotone O.clock) : SoundEver O start := by
  refine ⟨O.clock 0, fun k _ => hclock (Nat.zero_le k), always_nil, always_nil, always_nil,
    fun id hp => absurd hp not_since_nil, fun id _ _ hr => absurd hr not_since_nil, [], .nil,
    ?_, ?_⟩
  · exact fun r hr => absurd hr List.not_mem_nil
  · exact Limited.nil

theorem soundEver_serve (hclock : Monotone O.clock) (allowedAudiences : List String)
    {w : NotificationWorld} (h : SoundEver O w) (rawPayload : Option Json) :
    SoundEver O (serve O allowedAudiences w rawPayload) := by
  obtain ⟨t, hw⟩ := h
  have hexits := process_exits O hclock allowedAudiences rawPayload w hw
  unfold serve
  cases hrun : process O allowedAudiences rawPayload w with
  | ok done w' =>
    rw [hrun] at hexits
    exact hexits
  | error e w' =>
    rw [hrun] at hexits
    exact hexits

/-- The log of a run over the deliveries, the repeated ones included. -/
def logOf (allowedAudiences : List String) (deliveries : List (Option Json)) :
    List NotificationEvent :=
  (runFrom (serve O allowedAudiences) start deliveries).log

/-- The statuses written for a message, one after the other. -/
def statusesOf (id : String) (log : List NotificationEvent) : List NotificationStatus :=
  log.filterMap fun
    | .wrote row => if row.messageId = id then some row.status else none
    | _ => none

/-- A request of 2026-01-01. -/
def newYearRequest : Json := .obj [("version", .int 1), ("message_id", .str "boiler-1"),
  ("created_at", .str "2026-01-01T00:00:00Z"), ("level", .str "warning"), ("title", .str "锅炉"),
  ("message", .str "压力过低"), ("source", .str "boiler"), ("dedupe_key", .str "boiler.low"),
  ("ttl", .int 3600), ("audience", .str "owner")]

/-- Every effect succeeds; the clock moves on by `pause` after the first fifteen. -/
def quietSurroundings (pause : ℕ) : Surroundings where
  clock k := if k < 15 then 1767225610000000 else 1767225610000000 + seconds pause
  uuid _ := ""
  publish _ := true
  send _ := ⟨true, none, false⟩
  stops _ := false

theorem monotone_quietSurroundings (pause : ℕ) : Monotone (quietSurroundings pause).clock := by
  intro j k hjk
  have hpause : (0 : ℤ) ≤ seconds pause := by
    unfold seconds
    omega
  unfold quietSurroundings
  dsimp only
  split_ifs with hj hk
  · exact le_rfl
  · exact Int.le_add_of_nonneg_right hpause
  · omega
  · exact le_rfl

end NotificationProcessor

end HomeAddons.Gateway
