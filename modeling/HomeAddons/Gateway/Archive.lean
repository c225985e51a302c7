import HomeAddons.Gateway.Store

/-!
# Weixin Gateway: the inbox and its media archive

The tables of received messages and of their attachments, and `_correlate_media_archive`, which
binds an instruction to archive media to the attachments of messages around it.
-/

namespace HomeAddons.Gateway

open HomeAddons.Common

/-! ## Instructions -/

/-- One of the words begins the text. -/
def beginsWith (words : List String) (text : List Char) : Bool :=
  words.any fun w => w.toList.isPrefixOf text

/-- `re.search("(?:first).{0,gap}(?:second)", text)` for a text without line breaks. -/
def followedBy (first : List String) (gap : ℕ) (second : List String) (text : List Char) : Bool :=
  text.tails.any fun rest => first.any fun w => w.toList.isPrefixOf rest &&
    (List.range (gap + 1)).any fun k => beginsWith second (rest.drop (w.length + k))

/-- `re.search("(?:words)", text)`. -/
def mentions (words : List String) (text : List Char) : Bool := text.tails.any (beginsWith words)

def archiveActions : List String := ["归档", "存档", "归入", "收录"]
def targetedActions : List String := ["保存到", "加入", "添加到", "记录到"]
def cancelWords : List String := ["取消", "停止", "结束", "不要", "不用", "不再", "别"]
def cancelledActions : List String :=
  ["归档", "存档", "归入", "收录", "保存", "加入", "添加", "记录"]
def futureWords : List String :=
  ["接下来", "随后", "稍后", "后面", "待会", "下一张", "下几张", "我会发", "将要发"]
def backwardWords : List String :=
  ["刚才", "刚刚", "上面", "前面", "之前", "这些", "这几", "全部", "都", "一共", "共"]
def mediaWords : List String := ["图片", "照片", "视频", "媒体", "文件"]
def targetPlaces : List String :=
  ["装修", "施工", "工地", "现场", "水电", "泥木", "瓦工", "木工", "油漆"]
def targetArchives : List String := ["档案", "记录", "媒体库", "资料库"]
def countUnits : List String := ["张", "个", "幅", "段", "份"]

/-- `MEDIA_ARCHIVE_MAX_ATTACHMENTS`. -/
def maxArchiveAttachments : ℕ := 16

/-- `digits` of `_chinese_media_count`. -/
def chineseDigit? (text : List Char) : Option ℕ :=
  [("一", 1), ("二", 2), ("两", 2), ("三", 3), ("四", 4), ("五", 5), ("六", 6), ("七", 7),
    ("八", 8), ("九", 9)].lookup (String.ofList text)

/-- `_chinese_media_count(value)`. -/
def chineseMediaCount (value : List Char) : Option ℕ :=
  if value = ['十'] then some 10
  else if '十' ∈ value then
    let left := value.takeWhile fun c => c ≠ '十'
    let right := (value.dropWhile fun c => c ≠ '十').tail
    let tens := if left = [] then 1 else (chineseDigit? left).getD 1
    let ones := if right = [] then 0 else (chineseDigit? right).getD 0
    some (tens * 10 + ones) |>.filter fun n => 1 ≤ n ∧ n ≤ maxArchiveAttachments
  else chineseDigit? value

/-- `MEDIA_ARCHIVE_COUNT_RE` at the start of the text, with the count that the match stands for. -/
def countHere (text : List Char) : Option (Option ℕ) :=
  let digits := (text.takeWhile fun c => (decimalDigit? c).isSome).take 2
  let chinese := (text.takeWhile fun c => "一二两三四五六七八九十".toList.contains c).take 3
  let ends := fun n => beginsWith countUnits (text.drop n)
  (([2, 1].find? fun n => n ≤ digits.length ∧ ends n = true).map fun n =>
      some ((digits.take n).foldl (fun acc c => 10 * acc + (decimalDigit? c).getD 0) 0)) <|>
    ([3, 2, 1].find? fun n => n ≤ chinese.length ∧ ends n = true).map fun n =>
      chineseMediaCount (chinese.take n)

inductive InstructionKind where
  | cancel | intentFirst | imageFirst
  deriving DecidableEq

structure ArchiveInstruction where
  kind : InstructionKind
  expectedCount : Option ℕ
  deriving DecidableEq

/-- `media_archive_instruction(text, has_attachments=has_attachments)`. -/
def mediaArchiveInstruction (text : String) (hasAttachments : Bool) : Option ArchiveInstruction :=
  let normalized := text.toList.filter fun c => !isPySpace c
  if normalized = [] then none
  else if followedBy cancelWords 8 cancelledActions normalized then some ⟨.cancel, none⟩
  else
    let hasTarget := followedBy targetPlaces 16 targetArchives normalized
    if ¬ (mentions archiveActions normalized ∨ mentions targetedActions normalized ∧ hasTarget) then
      none
    else
      let count := normalized.tails.findSome? countHere
      if ¬ (∀ n ∈ count, ∃ k ∈ n, 1 ≤ k ∧ k ≤ maxArchiveAttachments) then none
      else
        let expected := count.join
        let hasMedia := mentions mediaWords normalized
        if !hasAttachments && mentions futureWords normalized && (hasMedia || hasTarget) then
          some ⟨.intentFirst, expected⟩
        else if !hasAttachments && (hasMedia || expected.isSome) &&
            (expected.isSome || mentions backwardWords normalized) then
          some ⟨.imageFirst, expected⟩
        else none

/-! ## Rows -/

inductive MediaType where
  | image | video | audio | file
  deriving DecidableEq

def MediaType.text : MediaType → String
  | .image => "image"
  | .video => "video"
  | .audio => "audio"
  | .file => "file"

/-- A document of `attachments_json`. -/
structure AttachmentDocument where
  attachmentRef : String
  mediaType : MediaType
  sizeBytes : ℕ
  sha256 : String
  displayName : String

/-- A document of `source_attachments`. -/
structure SourceAttachment where
  messageId : String
  sha256 : String
  deriving DecidableEq

inductive ArchiveSource where
  | intentFirst | imageFirst
  deriving DecidableEq

/-- The `status` of a context. -/
inductive ArchiveStatus where
  | intentRegistered | awaitingMoreAttachments | authorized | cancelled | nothingToCancel
  | noRecentAttachments | attachmentCountMismatch | tooManyAttachments
  deriving DecidableEq

/-- `_media_archive_context(…)`; `selected_count` is the number of `source_attachments`. -/
structure ArchiveContext where
  source : ArchiveSource
  status : ArchiveStatus
  intentMessageId : String
  intentText : String
  expectedCount : Option ℕ
  sourceAttachments : List SourceAttachment
  idempotencyScope : Option String

/-- `inbound_messages.state`. -/
inductive MessageState where
  | pendingController | controllerSubmitted | completed | failed
  deriving DecidableEq

inductive CapabilityProfile where
  | owner | ownerLegacy | memberReadOnly
  deriving DecidableEq

/-- A row of `inbound_messages`. The route is missing in rows of earlier versions. -/
structure InboundMessage where
  messageId : String
  senderId : String
  conversationKey : String
  text : String
  attachments : List AttachmentDocument
  state : MessageState
  receivedAt : String
  updatedAt : String
  userHash : Option String
  capabilityProfile : CapabilityProfile
  identityId : Option String
  principalId : Option String
  upstreamMessageId : Option String
  archiveContext : Option ArchiveContext

/-- A row of `attachments`. -/
structure Attachment where
  attachmentRef : String
  messageId : String
  storageName : String
  originalFilename : String
  mimeType : String
  sizeBytes : ℕ
  sha256 : String
  expiresAt : String
  consumedAt : Option String

inductive RequestState where
  | pending | bound | completed | failed | cancelled | expired
  deriving DecidableEq

/-- The scope of a request: identity, principal and conversation. -/
structure ArchiveScope where
  identity : String
  principal : String
  conversation : String
  deriving DecidableEq

/-- A row of `media_archive_requests`. -/
structure ArchiveRequest where
  requestId : String
  scope : ArchiveScope
  source : ArchiveSource
  state : RequestState
  intentMessageId : String
  intentText : String
  expectedCount : Option ℕ
  boundMessageId : Option String
  idempotencyScope : Option String
  createdAt : String
  expiresAt : String
  updatedAt : String

/-- A row of `media_archive_request_attachments`. -/
structure Reservation where
  requestId : String
  position : ℕ
  attachmentRef : String
  messageId : String
  sha256 : String

def Reservation.key (r : Reservation) : String × ℕ := (r.requestId, r.position)

/-- A file of the spool. -/
structure SpoolFile where
  name : String
  content : List UInt8

/-- What the store keeps of the messages that came in. -/
structure Inbox where
  messages : Table InboundMessage.messageId
  attachments : Table Attachment.attachmentRef
  requests : Table ArchiveRequest.requestId
  reservations : Table Reservation.key
  spool : Table SpoolFile.name

/-! ## Parts of a correlation -/

/-- `_media_archive_scope(…)`, with the conversation. -/
def mediaArchiveScope (senderId : String) (userHash identityId principalId : Option String)
    (conversation : String) : ArchiveScope where
  identity := (identityId.filter fun i => i ≠ "").getD "legacy"
  principal := ((principalId.filter fun p => p ≠ "") <|> userHash.filter fun u => u ≠ "").getD
    ("sha256:" ++ sha256Hex ("legacy-media:" ++ senderId))
  conversation := conversation

/-- `_media_archive_request_id(…)`. -/
def mediaArchiveRequestId (scope : ArchiveScope) (intentMessageId : String) : String :=
  "MAR-" ++ sha256Hex (scope.identity ++ "\x00" ++ scope.principal ++ "\x00" ++
    scope.conversation ++ "\x00" ++ intentMessageId)

/-- `_media_archive_idempotency_scope(…)`. -/
def mediaArchiveIdempotencyScope (intentMessageId : String) (sources : List SourceAttachment) :
    String :=
  "sha256:" ++ sha256Hex ("weixin-media-archive-v1\n" ++ canonical (.obj
    [("intent_message_id", .str intentMessageId), ("source_attachments", .arr (sources.map fun s =>
      .obj [("message_id", .str s.messageId), ("sha256", .str s.sha256)]))]))

/-- `_source_attachment_from_row(row)`. -/
def sourceAttachment (messageId sha256 : String) : SourceAttachment :=
  ⟨messageId, if "sha256:".toList.isPrefixOf sha256.toList then sha256 else "sha256:" ++ sha256⟩

/-- `media_type` of `_attachment_document_from_row`. -/
def mediaTypeOf (mimeType : String) : MediaType :=
  if "image/".toList.isPrefixOf mimeType.toList then .image
  else if "video/".toList.isPrefixOf mimeType.toList then .video
  else if "audio/".toList.isPrefixOf mimeType.toList then .audio
  else .file

/-- `_attachment_document_from_row(row)` for a row whose digest column is `sha256`. -/
def attachmentDocument (a : Attachment) (sha256 : String) : AttachmentDocument :=
  ⟨a.attachmentRef, mediaTypeOf a.mimeType, a.sizeBytes, "sha256:" ++ sha256, a.originalFilename⟩

/-- `min(…)` of texts. -/
def minText : List String → String
  | [] => ""
  | t :: ts => ts.foldl (fun a b => if b < a then b else a) t

/-- What one correlation reads from outside: the time, and the texts of the times 15 minutes before
    and after it. -/
structure ArchiveClock where
  now : String
  cutoff : String
  expiresAt : String

namespace Inbox

variable (x : Inbox)

/-- `_expire_media_archive_requests(connection, now)`. -/
def expireArchiveRequests (now : String) : Inbox :=
  let due := fun r : ArchiveRequest => decide (r.state = .pending ∧ r.expiresAt ≤ now)
  { x with requests := x.requests.updateWhere due fun r =>
      { r with state := .expired, updatedAt := now } }

/-- `_pending_media_archive_request(…)`. -/
def pendingArchiveRequest (scope : ArchiveScope) : Option ArchiveRequest :=
  ((x.requests.rows.filter fun r => r.scope = scope ∧ r.state = .pending).insertionSort fun r r' =>
    r'.createdAt ≤ r.createdAt).head?

/-- `UPDATE media_archive_requests SET state=?,updated_at=? WHERE request_id=?`. -/
def endArchiveRequest (requestId : String) (state : RequestState) (now : String) : Inbox :=
  { x with requests := x.requests.update requestId fun r =>
      { r with state := state, updatedAt := now } }

/-- `INSERT INTO media_archive_requests`, with the index of the pending request of a scope. -/
def insertArchiveRequest (r : ArchiveRequest) : Except Raise Inbox := do
  ensure (r.state = .pending → ∀ r' ∈ x.requests.rows, r'.state = .pending → r'.scope ≠ r.scope)
    .integrity
  let requests ← orRaise (x.requests.insert? r) .integrity
  return { x with requests := requests }

/-- `_media_archive_attachment_rows(connection, request_id)`. -/
def reservedRows (requestId : String) : List (Reservation × Attachment) :=
  ((x.reservations.rows.filter fun m => m.requestId = requestId).insertionSort fun m m' =>
    m.position ≤ m'.position).filterMap fun m =>
      (x.attachments.get? m.attachmentRef).map fun a => (m, a)

/-- `SELECT * FROM attachments WHERE message_id=? ORDER BY rowid`. -/
def attachmentsOf (messageId : String) : List Attachment :=
  x.attachments.rows.filter fun a => a.messageId = messageId

/-- `_reserve_media_archive_attachments(…)`, from the position on. -/
def reserve (requestId : String) : List Attachment → ℕ → Inbox → Except Raise Inbox
  | [], _, x => return x
  | a :: rows, position, x => do
    let reservations ← orRaise (x.reservations.insert?
      ⟨requestId, position, a.attachmentRef, a.messageId, "sha256:" ++ a.sha256⟩) .integrity
    reserve requestId rows (position + 1) { x with reservations := reservations }

/-- The attachment is reserved by a request that was not given up. -/
def isReserved (attachmentRef : String) : Bool :=
  x.reservations.rows.any fun m => m.attachmentRef = attachmentRef ∧
    (x.requests.get? m.requestId).any fun r =>
      r.state = .pending ∨ r.state = .bound ∨ r.state = .completed

/-- `_available_message_attachments(connection, message_id, now)`. -/
def availableAttachments (messageId now : String) : List Attachment :=
  (x.attachmentsOf messageId).filter fun a =>
    a.consumedAt = none ∧ now < a.expiresAt ∧ ¬ x.isReserved a.attachmentRef = true

/-- The last request that was bound to the message has failed. -/
def boundFailed (messageId : String) : Bool :=
  ((x.requests.rows.filter fun r => r.boundMessageId = some messageId).insertionSort fun r r' =>
    r'.createdAt ≤ r.createdAt).head?.any fun r => r.state = .failed

/-- The loop of `_recent_media_archive_batch` over the messages, the latest first. -/
def recentGroups (scope : ArchiveScope) (expected : Option ℕ) (now : String) :
    List InboundMessage → List (List Attachment) → List (List Attachment)
  | [], groups => groups
  | m :: rest, groups =>
    let available := x.availableAttachments m.messageId now
    if mediaArchiveScope m.senderId m.userHash m.identityId m.principalId scope.conversation ≠
        scope then
      recentGroups scope expected now rest groups
    else if available ≠ [] then
      let groups := groups ++ [available]
      let selected := groups.flatten.length
      let enough := match expected with
        | some n => decide (n ≤ selected)
        | none => decide (maxArchiveAttachments < selected)
      if enough = true then groups
      else recentGroups scope expected now rest groups
    else if x.attachmentsOf m.messageId ≠ [] then groups
    else if strip m.text ≠ "" ∧ ¬ x.boundFailed m.messageId = true then groups
    else recentGroups scope expected now rest groups

/-- `_recent_media_archive_batch(…)`. -/
def recentBatch (messageId : String) (scope : ArchiveScope) (expected : Option ℕ)
    (clock : ArchiveClock) : List Attachment :=
  if x.messages.get? messageId = none then [] else
  let earlier := (x.messages.rows.takeWhile fun m => m.messageId ≠ messageId).reverse
  let recent := (earlier.filter fun m =>
    m.conversationKey = scope.conversation ∧ clock.cutoff ≤ m.receivedAt).take 64
  (x.recentGroups scope expected clock.now recent []).reverse.flatten

/-! ## The correlation -/

/-- The message that a correlation is about, with the documents of its attachments. -/
structure Arrived where
  messageId : String
  senderId : String
  conversationKey : String
  text : String
  documents : List AttachmentDocument
  userHash : Option String
  identityId : Option String
  principalId : Option String

/-- What a correlation returns: the attachments that the message gets, and its context. -/
structure Correlated where
  documents : List AttachmentDocument
  context : Option ArchiveContext

/-- An instruction to cancel. -/
def cancelArchive (a : Arrived) (pending : Option ArchiveRequest) (now : String) :
    Inbox × Correlated :=
  match pending with
  | none => (x, ⟨a.documents, some ⟨.intentFirst, .nothingToCancel, a.messageId, a.text, none, [],
      none⟩⟩)
  | some r =>
    let sources := (x.reservedRows r.requestId).map fun (m, _) =>
      sourceAttachment m.messageId m.sha256
    (x.endArchiveRequest r.requestId .cancelled now, ⟨a.documents, some ⟨r.source, .cancelled,
      r.intentMessageId, r.intentText, r.expectedCount, sources, none⟩⟩)

/-- Attachments that come after the instruction. -/
def fillArchive (a : Arrived) (r : ArchiveRequest) (now : String) :
    Except Raise (Inbox × Correlated) :=
  let normalized := a.text.toList.filter fun c => !isPySpace c
  if mentions (archiveActions ++ targetedActions) normalized then
    return (x.endArchiveRequest r.requestId .cancelled now, ⟨a.documents, none⟩)
  else
    let current := x.attachmentsOf a.messageId
    let existing := x.reservedRows r.requestId
    let count := existing.length + current.length
    if maxArchiveAttachments < count ∨ ∃ n ∈ r.expectedCount, n < count then
      let sources := existing.map (fun (m, _) => sourceAttachment m.messageId m.sha256) ++
        current.map fun c => sourceAttachment c.messageId c.sha256
      let status := if maxArchiveAttachments < count then .tooManyAttachments
        else ArchiveStatus.attachmentCountMismatch
      return (x.endArchiveRequest r.requestId .failed now, ⟨a.documents, some ⟨.intentFirst, status,
        r.intentMessageId, r.intentText, r.expectedCount, sources, none⟩⟩)
    else do
      let x ← reserve r.requestId current existing.length x
      let rows := x.reservedRows r.requestId
      let sources := rows.map fun (m, _) => sourceAttachment m.messageId m.sha256
      if ∃ n ∈ r.expectedCount, rows.length < n then
        return (x, ⟨a.documents, some ⟨.intentFirst, .awaitingMoreAttachments, r.intentMessageId,
          r.intentText, r.expectedCount, sources, none⟩⟩)
      else
        let scope := mediaArchiveIdempotencyScope r.intentMessageId sources
        let requests := x.requests.update r.requestId fun r =>
          { r with state := .bound, boundMessageId := some a.messageId,
                   idempotencyScope := some scope, updatedAt := now }
        return ({ x with requests := requests },
          ⟨rows.map fun (m, c) => attachmentDocument c m.sha256, some ⟨.intentFirst, .authorized,
            r.intentMessageId, r.intentText, r.expectedCount, sources, some scope⟩⟩)

/-- An instruction before its attachments. -/
def registerArchive (a : Arrived) (scope : ArchiveScope) (pending : Option ArchiveRequest)
    (expected : Option ℕ) (clock : ArchiveClock) : Except Raise (Inbox × Correlated) := do
  let x := match pending with
    | some r => x.endArchiveRequest r.requestId .cancelled clock.now
    | none => x
  let x ← x.insertArchiveRequest ⟨mediaArchiveRequestId scope a.messageId, scope, .intentFirst,
    .pending, a.messageId, a.text, expected, none, none, clock.now, clock.expiresAt, clock.now⟩
  return (x, ⟨a.documents, some ⟨.intentFirst, .intentRegistered, a.messageId, a.text, expected, [],
    none⟩⟩)

/-- An instruction after its attachments. -/
def collectArchive (a : Arrived) (scope : ArchiveScope) (expected : Option ℕ)
    (clock : ArchiveClock) : Except Raise (Inbox × Correlated) :=
  let rows := x.recentBatch a.messageId scope expected clock
  let sources := rows.map fun c => sourceAttachment c.messageId c.sha256
  let refuse (status : ArchiveStatus) : Except Raise (Inbox × Correlated) :=
    return (x, ⟨a.documents, some ⟨.imageFirst, status, a.messageId, a.text, expected, sources,
      none⟩⟩)
  if rows = [] then refuse .noRecentAttachments
  else if ∃ n ∈ expected, rows.length ≠ n then refuse .attachmentCountMismatch
  else if maxArchiveAttachments < rows.length then refuse .tooManyAttachments
  else do
    let key := mediaArchiveIdempotencyScope a.messageId sources
    let expiresAt := minText (rows.map Attachment.expiresAt)
    let id := mediaArchiveRequestId scope a.messageId
    let x ← x.insertArchiveRequest ⟨id, scope, .imageFirst, .bound, a.messageId, a.text, expected,
      some a.messageId, some key, clock.now, expiresAt, clock.now⟩
    let x ← reserve id rows 0 x
    return (x, ⟨rows.map fun c => attachmentDocument c c.sha256, some ⟨.imageFirst, .authorized,
      a.messageId, a.text, expected, sources, some key⟩⟩)

/-- `_correlate_media_archive(…)` (lines 3270–3507). -/
def correlateMediaArchive (a : Arrived) (clock : ArchiveClock) :
    Except Raise (Inbox × Correlated) :=
  let x := x.expireArchiveRequests clock.now
  let scope := mediaArchiveScope a.senderId a.userHash a.identityId a.principalId a.conversationKey
  let instruction := mediaArchiveInstruction a.text (a.documents ≠ [])
  let pending := x.pendingArchiveRequest scope
  match instruction, pending with
  | some ⟨.cancel, _⟩, pending => return x.cancelArchive a pending clock.now
  | instruction, pending =>
    match (if a.documents = [] then none else pending), instruction with
    | some r, _ => x.fillArchive a r clock.now
    | none, some ⟨.intentFirst, expected⟩ => x.registerArchive a scope pending expected clock
    | none, some ⟨.imageFirst, expected⟩ => x.collectArchive a scope expected clock
    | none, _ => return (x, ⟨a.documents, none⟩)

end Inbox

end HomeAddons.Gateway
