import HomeAddons.Common.Table
import HomeAddons.Relay.Rate
import HomeAddons.Runner.Payload

/-!
# Runner Relay: the connections

`RelayHub` (`app.py` 56–289) with the frames it takes (`protocol.py`): the handlers of the websocket
run one at a time and give way at an `await` only. No section under `self._lock` awaits anything, so
the lock is free whenever a handler runs, and taking it is no such point.
-/

namespace HomeAddons.Relay

open HomeAddons.Common HomeAddons.Runner

/-! ## Frames -/

/-- What an `await` may raise, a cancellation among the others. -/
inductive Raised where
  /-- `asyncio.TimeoutError`. -/
  | timeout
  /-- `RelayProtocolError(code, …)`. -/
  | protocol (code : String)
  /-- `ControllerRelayError(code, …)`. -/
  | controller (code : String)
  | other
  deriving DecidableEq

/-- The code with which an `except` clause closes the connection. -/
def Raised.code? : Raised → Option String
  | .timeout => some "first_frame_timeout"
  | .protocol code => some code
  | .controller code => some code
  | .other => none

/-- What `ws.receive()` returns. -/
inductive Frame where
  /-- A text of that many bytes, and what `json.loads` makes of it. -/
  | text (size : ℕ) (value : Option Json)
  /-- `CLOSE`, `CLOSING`, `CLOSED` or `ERROR`. -/
  | ended
  | other

/-- `_json_message(raw)` (lines 275–284). -/
def jsonMessage (maxMessageBytes size : ℕ) (value : Option Json) : Except Raised Dict := do
  ensure (size ≤ maxMessageBytes) (.protocol "message_too_large")
  let value ← orRaise value (.protocol "invalid_json")
  orRaise value.asDict? (.protocol "message_invalid")

/-- `RUNNER_ID_RE`, `validate_runner_id(value)`. -/
def validateRunnerId (value : Json) : Except Raised String :=
  orRaise (value.asStr?.filter runnerIdRe) (.protocol "runner_id_invalid")

/-- `CREDENTIAL_RE`, `validate_credential(value)`. -/
def validateCredential (value : Json) : Except Raised String :=
  orRaise (value.asStr?.filter fun s => 32 ≤ s.length ∧ s.length ≤ 512 ∧ s.toList.all fun c =>
    c.isAlphanum ∨ c = '_' ∨ c = '-') (.protocol "credential_invalid")

/-- What `validate_first_message` returns. -/
inductive First where
  | authenticate (runnerId credential : String)
  | enroll (runnerId token : String) (payload : Dict)

def First.runnerId : First → String
  | .authenticate runnerId _ => runnerId
  | .enroll runnerId _ _ => runnerId

/-- `validate_first_message(value)` (`protocol.py` 45–67). -/
def validateFirstMessage (message : Dict) : Except Raised First :=
  if (message.get "type").eqStr "authenticate" then do
    ensure (message.keysAre ["type", "runner_id", "credential"] = true)
      (.protocol "message_fields_invalid")
    return .authenticate (← validateRunnerId (message.get "runner_id"))
      (← validateCredential (message.get "credential"))
  else if (message.get "type").eqStr "enroll" then do
    ensure (message.keysAre ["type", "runner_id", "token", "payload"] = true)
      (.protocol "message_fields_invalid")
    let runnerId ← validateRunnerId (message.get "runner_id")
    let token ← validateCredential (message.get "token")
    let payload ← orRaise ((message.get "payload").asDict?.filter fun d =>
      (d.get "runner_id").eqStr runnerId) (.protocol "enrollment_payload_invalid")
    return .enroll runnerId token payload
  else .error (.protocol "first_message_required")

/-- `EVENT_TYPES`. -/
def eventTypes : List String := ["heartbeat", "status", "result", "desktop_host", "desktop_snapshot",
  "desktop_event", "desktop_receipt"]

/-- `v in names`, which raises a `TypeError` on an unhashable `v`. -/
def isOneOf (v : Json) (names : List String) : Except Raised Bool := orRaise (v.inStrings names) .other

/-- `validate_event_message(value, runner_id=…)` (`protocol.py` 70–81). -/
def validateEventMessage (value : Dict) (runnerId : String) : Except Raised (String × Dict) := do
  ensure (value.keysAre ["type", "event_type", "document"] = true) (.protocol "message_fields_invalid")
  ensure ((value.get "type").eqStr "event" = true) (.protocol "event_type_invalid")
  ensure ((← isOneOf (value.get "event_type") eventTypes) = true) (.protocol "event_type_invalid")
  let eventType ← orRaise (value.get "event_type").asStr? (.protocol "event_type_invalid")
  let document ← orRaise (value.get "document").asDict? (.protocol "event_document_invalid")
  ensure ((document.get "runner_id").eqStr runnerId = true ∧
    (document.get "message_type").eqStr eventType = true) (.protocol "runner_binding_mismatch")
  return (eventType, document)

/-- `PUBLISH_TYPES`. -/
def publishTypes : List String := ["request", "control", "desktop_command"]

/-- `validate_publish(kind, runner_id, value)` (`protocol.py` 84–93); `kind` is a part of the path. -/
def validatePublish (kind : String) (runnerId : String) (value : Json) : Except Raised Dict := do
  let bound ← validateRunnerId (.str runnerId)
  ensure (publishTypes.contains kind = true) (.protocol "publish_type_invalid")
  let d ← orRaise (value.asDict?.filter fun d => d.keysAre ["document"])
    (.protocol "publish_document_invalid")
  let document ← orRaise (d.get "document").asDict? (.protocol "publish_document_invalid")
  ensure ((document.get "runner_id").eqStr bound = true ∧
    (document.get "message_type").eqStr kind = true) (.protocol "runner_binding_mismatch")
  return document

/-- `CONSUMED_EVENT_REJECTIONS` and `CONSUMED_EVENT_TYPE_REJECTIONS`. -/
def consumedRejection (eventType code : String) : Bool :=
  ["runner_late_message"].contains code ||
    [("desktop_event", "desktop_event_sequence_stale"),
      ("desktop_host", "desktop_host_sequence_stale"),
      ("desktop_snapshot", "desktop_revision_conflict")].contains (eventType, code)

/-! ## The hub -/

/-- The `await` at which a handler waits. -/
inductive Phase where
  /-- `ws.prepare(request)`. -/
  | preparing
  /-- `ws.receive(timeout=…)`. -/
  | receiving
  /-- `self.controller.enroll(…)` or `self.controller.authenticate(…)`. -/
  | authenticating (first : First)
  /-- `ws.send_json(…)` after the activation. -/
  | greeting
  /-- The next message of `async for incoming in ws`. -/
  | listening
  /-- `self.controller.event(…)`. -/
  | forwarding (eventType : String) (document : Dict)
  /-- `ws.send_json(…)` of an acknowledgement. -/
  | acknowledging (eventType : String) (bodyDigest : Json)
  /-- `ws.send_json(…)` of `_close_error`, in the `try` block or in an `except` clause. -/
  | reporting (code : String) (caught : Bool)
  /-- `ws.close(…)` of `_close_error`, with what its `send_json` has raised. -/
  | closing (code : String) (caught : Bool) (raised : Option Raised)

/-- How an `await` ends. -/
inductive Awaited where
  | done
  | frame (f : Frame)
  /-- A document of the Controller. -/
  | document (d : Dict)
  | raises (e : Raised)

/-- A running `websocket(request)`: its websocket by a number, and its local variables. Beside them
    the Runner for which the Controller has let it in, and the times of the messages it was
    allowed. -/
structure Handler where
  ws : ℕ
  phase : Phase
  closed : Bool
  runnerId : Option String
  credential : Option String
  connectionReserved : Bool
  runnerReserved : Bool
  active : Bool
  rate : ConnectionRate
  authenticated : Option String
  allowed : List ℚ

/-- An entry of `connections`. -/
structure Connection where
  runnerId : String
  ws : ℕ
  deriving DecidableEq

/-- What a hub is made with. -/
structure Limits where
  maxConnections : ℕ
  maxMessageBytes : ℕ
  messagesPerMinute : ℕ

/-- The registry with the running handlers, the clock, and what was published over which
    websocket. -/
structure Hub where
  limits : Limits
  connections : Table Connection.runnerId
  pendingConnections : ℕ
  pendingRunners : Finset String
  handlers : Table Handler.ws
  clock : ℚ
  published : List Connection

namespace Hub

def new (limits : Limits) (clock : ℚ) : Hub := ⟨limits, .empty, 0, ∅, .empty, clock, []⟩

variable (s : Hub)

/-- `not ws.closed`. -/
def isOpen (ws : ℕ) : Bool := (s.handlers.get? ws).any fun h => !h.closed

/-- `_reserve_connection()` (lines 237–241). -/
def reserveConnection : Option Hub :=
  if s.limits.maxConnections ≤ s.connections.rows.length + s.pendingConnections then none
  else some { s with pendingConnections := s.pendingConnections + 1 }

/-- `_reserve_runner(runner_id)` (lines 243–248). -/
def reserveRunner (runnerId : String) : Except Raised Hub := do
  ensure (¬ ((s.connections.get? runnerId).any (fun c => s.isOpen c.ws) = true ∨
    runnerId ∈ s.pendingRunners)) (.protocol "runner_already_connected")
  return { s with pendingRunners := insert runnerId s.pendingRunners }

/-- `_activate(runner_id, ws)` (lines 250–256). -/
def activate (runnerId : String) (ws : ℕ) : Except Raised Hub := do
  ensure (runnerId ∈ s.pendingRunners ∧ 1 ≤ s.pendingConnections) .other
  return { s with
    pendingRunners := s.pendingRunners.erase runnerId
    pendingConnections := s.pendingConnections - 1
    connections := s.connections.upsert ⟨runnerId, ws⟩ }

/-- `_release_reservations(runner_id, release_connection=…)` (lines 258–268). -/
def releaseReservations (runnerId : Option String) (releaseConnection : Bool) : Hub := { s with
  pendingRunners := match runnerId with
    | some runnerId => s.pendingRunners.erase runnerId
    | none => s.pendingRunners
  pendingConnections :=
    if releaseConnection ∧ 0 < s.pendingConnections then s.pendingConnections - 1
    else s.pendingConnections }

/-- `_unregister(runner_id, ws)` (lines 270–273). -/
def unregister (runnerId : String) (ws : ℕ) : Hub :=
  if s.connections.get? runnerId = some ⟨runnerId, ws⟩ then
    { s with connections := s.connections.erase runnerId }
  else s

/-! ## A handler -/

/-- The handler gives way at an `await`. -/
def wait (h : Handler) (phase : Phase) : Hub :=
  { s with handlers := s.handlers.upsert { h with phase := phase } }

/-- The `finally` block, with which the handler ends (lines 165–173). -/
def finish (h : Handler) : Hub :=
  let s := match h.runnerId with
    | some runnerId =>
      if h.active then s.unregister runnerId h.ws
      else s.releaseReservations (if h.runnerReserved then some runnerId else none)
        h.connectionReserved
    | none => s.releaseReservations none h.connectionReserved
  { s with handlers := s.handlers.erase h.ws }

/-- `_close_error(ws, code)` (lines 286–292) up to its first `await`; what follows it leads to the
    `finally` block. -/
def closeError (h : Handler) (code : String) (caught : Bool) : Hub :=
  if h.closed then s.finish h else s.wait h (.reporting code caught)

/-- An exception in the `try` block (lines 159–165). -/
def raise (h : Handler) (e : Raised) : Hub :=
  match e.code? with
  | some code => s.closeError h code true
  | none => s.finish h

/-- The first frame (lines 97–105). -/
def receiveFirst (h : Handler) : Frame → Hub
  | .text size value =>
    match jsonMessage s.limits.maxMessageBytes size value >>= validateFirstMessage with
    | .error e => s.raise h e
    | .ok first =>
      let h := { h with runnerId := some first.runnerId }
      match s.reserveRunner first.runnerId with
      | .error e => s.raise h e
      | .ok s => s.wait { h with runnerReserved := true } (.authenticating first)
  | _ => s.closeError h "first_message_required" false

/-- The credential under which the Controller has let the Runner in (lines 108–126). -/
def credentialOf (first : First) (result : Dict) : Except Raised String :=
  match first with
  | .enroll .. => orRaise ((result.get "credential").asDict?.bind fun d => (d.get "secret").asStr?)
      (.controller "credential_missing")
  | .authenticate _ credential => .ok credential

/-- The answer of the Controller to the first frame (lines 106–135). -/
def welcome (h : Handler) (first : First) (result : Dict) : Hub :=
  let h := { h with authenticated := some first.runnerId }
  match credentialOf first result with
  | .error e => s.raise h e
  | .ok credential =>
    let h := { h with credential := some credential }
    match s.activate first.runnerId h.ws with
    | .error e => s.raise h e
    | .ok s => s.wait { h with connectionReserved := false, runnerReserved := false, active := true }
        .greeting

/-- A message of the loop (lines 137–158). -/
def receive (h : Handler) : Frame → Hub
  | .text size value =>
    let (rate, allowed) := h.rate.allow s.clock
    let h := { h with
      rate := rate, allowed := if allowed then h.allowed ++ [s.clock] else h.allowed }
    if allowed then
      match jsonMessage s.limits.maxMessageBytes size value >>= fun value =>
          validateEventMessage value (h.runnerId.getD "") with
      | .error e => s.raise h e
      | .ok (eventType, document) => s.wait h (.forwarding eventType document)
    else s.closeError h "rate_limited" false
  | .ended => s.finish h
  | .other => s.closeError h "text_message_required" false

/-- `_close_error(ws, code)` has raised. -/
def closeRaised (h : Handler) (caught : Bool) (e : Raised) : Hub :=
  if caught then s.finish h else s.raise h e

/-- The handler goes on when what it awaits has ended. -/
def resume (h : Handler) : Phase → Awaited → Hub
  | .preparing, .done => s.wait h .receiving
  | .receiving, .frame f => s.receiveFirst h f
  | .authenticating first, .document result => s.welcome h first result
  | .greeting, .done => s.wait h .listening
  | .listening, .frame f => s.receive h f
  | .forwarding eventType document, .document _ =>
    s.wait h (.acknowledging eventType (document.get "body_digest"))
  | .forwarding eventType document, .raises (.controller code) =>
    if consumedRejection eventType code then
      s.wait h (.acknowledging eventType (document.get "body_digest"))
    else s.raise h (.controller code)
  | .acknowledging .., .done => s.wait h .listening
  | .reporting code caught, .done => s.wait { h with closed := true } (.closing code caught none)
  | .reporting code caught, .raises e =>
    s.wait { h with closed := true } (.closing code caught (some e))
  | .closing _ caught (some e), .done => s.closeRaised h caught e
  | .closing _ _ none, .done => s.finish h
  | .closing _ caught _, .raises e => s.closeRaised h caught e
  | _, .raises e => s.raise h e
  | _, _ => s

/-- A new request, whose websocket is not one of those in use (lines 80–95). -/
def connect (ws : ℕ) : Hub :=
  match s.handlers.get? ws, s.reserveConnection with
  | none, some s => s.wait ⟨ws, .preparing, false, none, none, true, false, false,
      ⟨s.limits.messagesPerMinute, []⟩, none, []⟩ .preparing
  | _, _ => s

/-- `publish(request)` from the payload to the sending (lines 176–199). -/
def publish (kind runnerId : String) (payload : Json) : Hub :=
  match validatePublish kind runnerId payload with
  | .error _ => s
  | .ok document =>
    if s.limits.maxMessageBytes < (canonical (.obj document)).utf8ByteSize then s
    else match (s.connections.get? runnerId).filter fun c => s.isOpen c.ws with
      | some c => { s with published := s.published ++ [⟨runnerId, c.ws⟩] }
      | none => s

end Hub

/-- What happens at a relay: requests, the end of what a handler awaits, connections that break, and
    the passing of time. -/
inductive RelayStep where
  | connect (ws : ℕ)
  | resume (ws : ℕ) (awaited : Awaited)
  | disconnect (ws : ℕ)
  | publish (kind runnerId : String) (payload : Json)
  | elapse (now : ℚ)

/-- One step; `time.monotonic()` does not go back. -/
def Hub.step (s : Hub) : RelayStep → Hub
  | .connect ws => s.connect ws
  | .resume ws awaited =>
    match s.handlers.get? ws with
    | some h => s.resume h h.phase awaited
    | none => s
  | .disconnect ws =>
    match s.handlers.get? ws with
    | some h => s.wait { h with closed := true } h.phase
    | none => s
  | .publish kind runnerId payload => s.publish kind runnerId payload
  | .elapse now => { s with clock := max s.clock now }

end HomeAddons.Relay
