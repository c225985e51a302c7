import HomeAddons.Controller.Queue
import HomeAddons.Gateway.Delivery
import HomeAddons.Gateway.Documents

/-!
# The handover of a message: its payload

The delivery loop of the Gateway (`service.py` 1735–1791) builds a payload for every stored message
and submits it; `validate_job` of the Controller makes the input of a job of it.

* `validateJob_payload`: the payloads that are accepted, and the inputs they become.
* `fits_iff`: for a message that was stored, what that asks of its sizes.
-/

namespace HomeAddons.Handover

open HomeAddons.Common
open HomeAddons.Gateway (AttachmentDocument ArchiveContext ArchiveSource ArchiveStatus
  SourceAttachment InboundMessage GatewayStore Inbox completesRequest)
open HomeAddons.Controller (AttachmentInput JobInput Settings validateJob validateAttachment
  isSha256Ref)

/-! ## The payload -/

/-- A document of `attachments_json`. -/
def documentJson (d : AttachmentDocument) : Json := .obj
  [("attachment_ref", .str d.attachmentRef), ("media_type", .str d.mediaType.text),
    ("size_bytes", .int d.sizeBytes), ("sha256", .str d.sha256),
    ("display_name", .str d.displayName)]

def sourceText : ArchiveSource → String
  | .intentFirst => "intent_first"
  | .imageFirst => "image_first"

def statusText : ArchiveStatus → String
  | .intentRegistered => "intent_registered"
  | .awaitingMoreAttachments => "awaiting_more_attachments"
  | .authorized => "authorized"
  | .cancelled => "cancelled"
  | .nothingToCancel => "nothing_to_cancel"
  | .noRecentAttachments => "no_recent_attachments"
  | .attachmentCountMismatch => "attachment_count_mismatch"
  | .tooManyAttachments => "too_many_attachments"

/-- A document of `source_attachments`. -/
def sourceJson (s : SourceAttachment) : Json := .obj
  [("message_id", .str s.messageId), ("sha256", .str s.sha256)]

/-- `_media_archive_context(…)` (`store.py` 3084–3112). -/
def contextJson (c : ArchiveContext) : Json := .obj (
  [("version", .int 1), ("source", .str (sourceText c.source)),
    ("status", .str (statusText c.status)), ("authorized", .bool (c.status = .authorized)),
    ("intent_message_id", .str c.intentMessageId), ("intent_text", .str c.intentText),
    ("expected_count", match c.expectedCount with
      | some n => .int n
      | none => .null),
    ("selected_count", .int c.sourceAttachments.length),
    ("source_attachments", .arr (c.sourceAttachments.map sourceJson))] ++
  (c.idempotencyScope.map fun scope => ("idempotency_scope", Json.str scope)).toList)

/-- `"owner" if profile == "owner_legacy" else profile`. -/
def profileText : Gateway.CapabilityProfile → String
  | .owner | .ownerLegacy => "owner"
  | .memberReadOnly => "member_read_only"

/-- The payload of a message that is submitted with a profile; a Controller that knows no profiles
    is not sent one (lines 1736–1771). -/
def payload (m : InboundMessage) (profile : Gateway.CapabilityProfile) (supported : Bool) : Dict :=
  [("version", .int 1), ("message_id", .str m.messageId),
    ("conversation_key", .str m.conversationKey), ("received_at", .str m.receivedAt),
    ("text", .str m.text), ("attachments", .arr (m.attachments.map documentJson)),
    ("reply_capabilities", .arr [.str "text", .str "image", .str "file"])] ++
  (m.archiveContext.map fun c => ("media_archive_context", contextJson c)).toList ++
  if supported then [("capability_profile", .str (profileText profile))] else []

/-! ## What becomes of it -/

/-- The profile of the job. -/
def receivedProfile (profile : Gateway.CapabilityProfile) (supported : Bool) :
    Controller.CapabilityProfile :=
  if supported then
    match profile with
    | .owner | .ownerLegacy => .owner
    | .memberReadOnly => .memberReadOnly
  else .ownerLegacy

/-- An attachment of the job. -/
def attachmentInput (d : AttachmentDocument) : AttachmentInput :=
  ⟨d.attachmentRef, d.mediaType.text, .int d.sizeBytes, d.sha256,
    if d.displayName = "" then none else some (d.displayName.take 255).toString⟩

/-- The input of the job. -/
def jobInput (m : InboundMessage) (profile : Controller.CapabilityProfile) : JobInput where
  messageId := m.messageId
  conversationKey := m.conversationKey
  receivedAt := m.receivedAt
  text := m.text
  attachments := m.attachments.map attachmentInput
  replyCapabilities := ["file", "image", "text"]
  capabilityProfile := profile

/-- The limits that `validate_job` has for an attachment. -/
structure DocumentFits (d : AttachmentDocument) : Prop where
  attachmentRef : 16 ≤ d.attachmentRef.length ∧ d.attachmentRef.length ≤ 256
  sizeBytes : 1 ≤ d.sizeBytes ∧ d.sizeBytes ≤ 50 * 1024 * 1024
  sha256 : isSha256Ref d.sha256 = true

/-- The limits that `validate_job` has for a message. -/
structure Fits (m : InboundMessage) : Prop where
  messageId : 1 ≤ m.messageId.length ∧ m.messageId.length ≤ 256
  conversationKey : isSha256Ref m.conversationKey = true
  receivedAt : m.receivedAt.length ≤ 64
  text : m.text.length ≤ 32000
  count : m.attachments.length ≤ 16
  attachments : ∀ d ∈ m.attachments, DocumentFits d

theorem textWhere_str {s t : String} {p : String → Bool} {e : Controller.Raise} :
    Controller.textWhere (.str s) p e = .ok t ↔ p s = true ∧ t = s := by
  unfold Controller.textWhere
  rw [orRaise_eq_ok]
  show (some s).filter p = some t ↔ _
  rw [Option.filter_eq_some_iff, Option.some.injEq]
  exact ⟨fun ⟨h, hp⟩ => ⟨h ▸ hp, h.symm⟩, fun ⟨hp, h⟩ => ⟨h.symm, h ▸ hp⟩⟩

theorem ensureIn_mediaType (t : Gateway.MediaType) (e : Controller.Raise) :
    Controller.ensureIn (.str t.text) ["image", "file", "video", "audio"] e = .ok () := by
  cases t <;> rfl

theorem validateAttachment_document (cfg : Settings) (d : AttachmentDocument)
    {a : AttachmentInput} : validateAttachment cfg (documentJson d) = .ok a ↔
      DocumentFits d ∧ a = attachmentInput d := by
  have hname : (if Controller.truthy (.str d.displayName) then
      some ((Controller.strOf cfg (.str d.displayName)).take 255).toString else none) =
        (attachmentInput d).displayName := by
    unfold attachmentInput Controller.truthy Controller.strOf
    by_cases h : d.displayName = ""
    · simp [h]
    · simp [h]
  have hsize : (Controller.asIntegral? (.int d.sizeBytes)).any
      (fun n => 1 ≤ n ∧ n ≤ 50 * 1024 * 1024) = true ↔
        1 ≤ d.sizeBytes ∧ d.sizeBytes ≤ 50 * 1024 * 1024 := by
    simp only [Controller.asIntegral?, Option.any_some, decide_eq_true_eq]
    omega
  show (do
    let reference ← Controller.textWhere (.str d.attachmentRef)
      (fun s => 16 ≤ s.length ∧ s.length ≤ 256) (Controller.invalidJob "attachment_ref 无效")
    Controller.ensureIn (.str d.mediaType.text) ["image", "file", "video", "audio"]
      (Controller.invalidJob "media_type 无效")
    let mediaType ← orRaise (Json.str d.mediaType.text).asStr?
      (Controller.invalidJob "media_type 无效")
    ensure ((Controller.asIntegral? (.int d.sizeBytes)).any
      (fun n => 1 ≤ n ∧ n ≤ 50 * 1024 * 1024) = true) (Controller.invalidJob "附件大小无效")
    let digest ← Controller.textWhere (.str d.sha256) isSha256Ref
      (Controller.invalidJob "附件摘要无效")
    return (⟨reference, mediaType, .int d.sizeBytes, digest,
      if Controller.truthy (.str d.displayName) then
        some ((Controller.strOf cfg (.str d.displayName)).take 255).toString else none⟩ :
          AttachmentInput)) = .ok a ↔ _
  rw [ensureIn_mediaType, hname]
  simp only [bind_eq_ok, textWhere_str, orRaise_eq_ok, ensure_eq_ok, pure_eq_ok, hsize,
    decide_eq_true_eq]
  constructor
  · rintro ⟨_, ⟨href, rfl⟩, -, -, t, ht, -, hbytes, _, ⟨hdigest, rfl⟩, rfl⟩
    cases ht
    exact ⟨⟨href, hbytes, hdigest⟩, rfl⟩
  · rintro ⟨⟨href, hbytes, hdigest⟩, rfl⟩
    exact ⟨_, ⟨href, rfl⟩, (), trivial, _, rfl, (), hbytes, _, ⟨hdigest, rfl⟩, rfl⟩

/-- A loop over translated items succeeds when every round does. -/
theorem mapM_translated {α β γ ε : Type} {f : β → Except ε γ} {g : α → β} {P : α → Prop}
    {h : α → γ} (hf : ∀ a c, f (g a) = .ok c ↔ P a ∧ c = h a) {l : List α} {cs : List γ} :
    (l.map g).mapM f = .ok cs ↔ (∀ a ∈ l, P a) ∧ cs = l.map h := by
  induction l generalizing cs with
  | nil =>
    rw [List.map_nil, List.mapM_nil, pure_eq_ok, List.map_nil]
    exact ⟨fun heq => ⟨fun _ ha => absurd ha List.not_mem_nil, heq.symm⟩, fun heq => heq.2.symm⟩
  | cons a l ih =>
    rw [List.map_cons, List.mapM_cons]
    simp only [bind_eq_ok, pure_eq_ok, hf, ih, List.forall_mem_cons, List.map_cons]
    constructor
    · rintro ⟨_, ⟨ha, rfl⟩, _, ⟨hl, rfl⟩, rfl⟩
      exact ⟨⟨ha, hl⟩, rfl⟩
    · rintro ⟨⟨ha, hl⟩, rfl⟩
      exact ⟨_, ⟨ha, rfl⟩, _, ⟨hl, rfl⟩, rfl⟩

theorem validateProfile_payload (m : InboundMessage) (profile : Gateway.CapabilityProfile)
    (supported : Bool) : Controller.validateProfile (payload m profile supported) =
      .ok (receivedProfile profile supported) := by
  unfold payload
  cases m.archiveContext <;> cases supported <;> cases profile <;> rfl

theorem validateJob_payload (cfg : Settings) (m : InboundMessage)
    (profile : Gateway.CapabilityProfile) (supported : Bool) {input : JobInput} :
    validateJob cfg (.obj (payload m profile supported)) = .ok input ↔
      Fits m ∧ input = jobInput m (receivedProfile profile supported) := by
  show (do
    let messageId ← Controller.textWhere (.str m.messageId) (fun s => 1 ≤ s.length ∧ s.length ≤ 256)
      (Controller.invalidJob "message_id 无效")
    let conversationKey ← Controller.textWhere (.str m.conversationKey) isSha256Ref
      (Controller.invalidJob "conversation_key 无效")
    let receivedAt ← Controller.textWhere (.str m.receivedAt) (fun s => s.length ≤ 64)
      (Controller.invalidJob "received_at 无效")
    let text ← Controller.textWhere (.str m.text) (fun s => s.length ≤ 32000)
      (Controller.invalidJob "text 无效")
    let attachments ← orRaise ((some (m.attachments.map documentJson)).filter
      fun l : List Json => l.length ≤ 16) (Controller.invalidJob "attachments 无效")
    let attachments ← attachments.mapM (validateAttachment cfg)
    let replyCapabilities ← .ok ["file", "image", "text"]
    let capabilityProfile ← Controller.validateProfile (payload m profile supported)
    return (⟨messageId, conversationKey, receivedAt, text, attachments, replyCapabilities,
      capabilityProfile⟩ : JobInput)) = .ok input ↔ _
  rw [validateProfile_payload]
  simp only [bind_eq_ok, textWhere_str, orRaise_eq_ok, pure_eq_ok, decide_eq_true_eq,
    Option.filter_eq_some_iff, Option.some.injEq, Except.ok.injEq]
  constructor
  · rintro ⟨_, ⟨hid, rfl⟩, _, ⟨hkey, rfl⟩, _, ⟨htime, rfl⟩, _, ⟨htext, rfl⟩, _, ⟨rfl, hcount⟩,
      attachments, hattachments, _, rfl, _, rfl, rfl⟩
    obtain ⟨hfits, rfl⟩ := (mapM_translated (validateAttachment_document cfg)).mp hattachments
    rw [List.length_map] at hcount
    exact ⟨⟨hid, hkey, htime, htext, hcount, hfits⟩, rfl⟩
  · rintro ⟨⟨hid, hkey, htime, htext, hcount, hfits⟩, rfl⟩
    exact ⟨_, ⟨hid, rfl⟩, _, ⟨hkey, rfl⟩, _, ⟨htime, rfl⟩, _, ⟨htext, rfl⟩, _,
      ⟨rfl, by rw [List.length_map]; exact hcount⟩, _,
      (mapM_translated (validateAttachment_document cfg)).mpr ⟨hfits, rfl⟩, _, rfl, _, rfl, rfl⟩

/-! ## A message that was stored -/

/-- The sizes of a message. -/
structure Within (m : InboundMessage) : Prop where
  messageId : 1 ≤ m.messageId.length ∧ m.messageId.length ≤ 256
  conversationKey : isSha256Ref m.conversationKey = true
  receivedAt : m.receivedAt.length ≤ 64
  text : m.text.length ≤ 32000
  count : m.attachments.length ≤ 16
  references : ∀ d ∈ m.attachments, 16 ≤ d.attachmentRef.length ∧ d.attachmentRef.length ≤ 256
  sizes : ∀ d ∈ m.attachments, 1 ≤ d.sizeBytes ∧ d.sizeBytes ≤ 50 * 1024 * 1024

instance (m : InboundMessage) : Decidable (Within m) :=
  decidable_of_iff ((1 ≤ m.messageId.length ∧ m.messageId.length ≤ 256) ∧
      isSha256Ref m.conversationKey = true ∧ m.receivedAt.length ≤ 64 ∧ m.text.length ≤ 32000 ∧
      m.attachments.length ≤ 16 ∧
      (∀ d ∈ m.attachments, 16 ≤ d.attachmentRef.length ∧ d.attachmentRef.length ≤ 256) ∧
      ∀ d ∈ m.attachments, 1 ≤ d.sizeBytes ∧ d.sizeBytes ≤ 50 * 1024 * 1024)
    ⟨fun ⟨hid, hkey, htime, htext, hcount, hrefs, hsizes⟩ =>
      ⟨hid, hkey, htime, htext, hcount, hrefs, hsizes⟩,
    fun h => ⟨h.messageId, h.conversationKey, h.receivedAt, h.text, h.count, h.references, h.sizes⟩⟩

theorem isSha256Ref_marked (t : String) : isSha256Ref ("sha256:" ++ t) = true ↔
    t.toList.length = 64 ∧ t.toList.all isLowerHex = true := by
  have hlist : ("sha256:" ++ t).toList = "sha256:".toList ++ t.toList := String.toList_append
  have hdrop : ("sha256:" ++ t).toList.drop 7 = t.toList := by
    rw [hlist]
    rfl
  have hmarked : "sha256:".toList.isPrefixOf ("sha256:" ++ t).toList = true := by
    rw [List.isPrefixOf_iff_prefix, hlist]
    exact List.prefix_append _ _
  simp only [isSha256Ref, hdrop, hmarked, Bool.true_and, Bool.and_eq_true, decide_eq_true_eq]

theorem isSha256Ref_digest {t : String} (ht : Gateway.IsDigest t) :
    isSha256Ref ("sha256:" ++ t) = true := by
  obtain ⟨content, rfl⟩ := ht
  rw [isSha256Ref_marked, String.toList_ofList]
  exact ⟨sha256Chars_length content, sha256Chars_isLowerHex content⟩

/-- A digest that is marked twice is none. -/
theorem not_isSha256Ref_twice (t : String) :
    ¬ isSha256Ref ("sha256:" ++ ("sha256:" ++ t)) = true := by
  rw [isSha256Ref_marked, String.toList_append]
  intro h
  exact absurd (List.all_eq_true.mp h.2 's' (List.mem_append_left _ List.mem_cons_self)) (by decide)

/-- The digest of a document is written as the Controller reads it, unless the message completes the
    request of an earlier instruction. -/
theorem fits_iff {m : InboundMessage} (hm : Gateway.Written m.archiveContext m.attachments) :
    Fits m ↔ Within m ∧ completesRequest m.archiveContext = false := by
  constructor
  · intro h
    refine ⟨⟨h.messageId, h.conversationKey, h.receivedAt, h.text, h.count,
      fun d hd => (h.attachments d hd).attachmentRef, fun d hd => (h.attachments d hd).sizeBytes⟩,
      ?_⟩
    by_contra hcompletes
    obtain ⟨hne, htwice⟩ := hm.twice (Bool.eq_true_of_not_eq_false hcompletes)
    obtain ⟨d, hd⟩ := List.exists_mem_of_ne_nil _ hne
    obtain ⟨t, -, hdigest⟩ := htwice d hd
    exact not_isSha256Ref_twice t (hdigest ▸ (h.attachments d hd).sha256)
  · rintro ⟨h, hcompletes⟩
    refine ⟨h.messageId, h.conversationKey, h.receivedAt, h.text, h.count, fun d hd => ?_⟩
    obtain ⟨t, ht, hdigest⟩ := hm.once hcompletes d hd
    exact ⟨h.references d hd, h.sizes d hd, hdigest ▸ isSha256Ref_digest ht⟩

end HomeAddons.Handover
