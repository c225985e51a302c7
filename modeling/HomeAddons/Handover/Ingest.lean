import HomeAddons.Controller.Dispatch
import HomeAddons.Handover.Submission

/-!
# The handover of a message: archiving its media

The Gateway decides from several messages whether the attachments of a message are archived; the
Controller decides from the text of the job whether `renovation_media_ingest` may be called.

* `mayIngest_iff`: what the job of a message may ingest.
* `archivesExactly_iff`: when that is what the Gateway has authorized.
-/

namespace HomeAddons.Handover

open HomeAddons.Common
open HomeAddons.Gateway (InboundMessage Inbox InboxStep completesRequest AttachmentDocument
  ArchiveContext)
open HomeAddons.Controller (RouterConfig HubDefinition ToolContext ToolDefinition Fault Settings
  validateJob hasExplicitMediaArchiveIntent authorizeTool)

/-! ## The call -/

/-- `ATTACHMENT_REF_RE`, for which the API of the Gateway asks as well. -/
def isAttachmentRef (s : String) : Bool :=
  32 ≤ s.length ∧ s.length ≤ 128 ∧ s.toList.all fun c =>
    ('A' ≤ c ∧ c ≤ 'Z') ∨ ('a' ≤ c ∧ c ≤ 'z') ∨ ('0' ≤ c ∧ c ≤ '9') ∨ c = '_' ∨ c = '-'

/-- The router with the manifest that it has, and the policy of the tools. -/
structure Router where
  config : RouterConfig
  hub : List HubDefinition
  policy : Option (List String)

def ingestTool : String := "renovation_media_ingest"

/-- The reference of an attachment in the arguments of a call. -/
def attachmentRefOf (arguments : Dict) : Except Fault String :=
  orRaise ((arguments.get "attachment_ref").asStr?.filter isAttachmentRef)
    (.tool "attachment_ref_invalid" "attachment_ref 无效")

/-- `_call_authorized(definition, arguments)` (`tool_proxy.py` 635–676) up to the request: the
    attachment that the call reads from the Gateway. -/
def attachmentRead (config : RouterConfig) (d : ToolDefinition) (arguments : Dict) :
    Except Fault (Option String) :=
  if d.service = .renovationHub ∧ d.transport = "gateway_media_stream" then do
    ensure (config.hub = true) (.tool "ledger_unavailable" "Renovation Hub 媒体接口未配置")
    ensure (config.gateway = true) (.tool "gateway_unavailable" "Weixin Gateway 附件接口未配置")
    some <$> attachmentRefOf arguments
  else if d.service = .renovationHub then do
    ensure (config.hub = true) (.tool "ledger_unavailable" "Renovation Hub 账本接口未配置")
    ensure (d.transport = "gateway_attachment" → config.gateway = true)
      (.tool "gateway_unavailable" "Weixin Gateway 附件接口未配置")
    ensure (d.transport = "json" ∨ d.transport = "gateway_attachment")
      (.tool "tool_transport_invalid" "工具传输方式不受支持")
    if d.transport = "gateway_attachment" then some <$> attachmentRefOf arguments
    else return none
  else return none

/-- `call("renovation_media_ingest", arguments)`: the attachment that it ingests. -/
def ingestCall (r : Router) (context : Option ToolContext) (arguments : Dict) :
    Except Fault (Option String) := do
  let d ← authorizeTool r.config r.hub r.policy context ingestTool
  attachmentRead r.config d arguments

/-- The Gateway serves an attachment: it is neither consumed nor expired, and its file is there. -/
def serves (x : Inbox) (now reference : String) : Bool :=
  isAttachmentRef reference && (x.attachments.get? reference).any fun b =>
    b.consumedAt = none ∧ now < b.expiresAt ∧ x.isReadable b = true

/-- The job of the message may ingest an attachment. -/
def MayIngest (cfg : Settings) (r : Router) (x : Inbox) (now : String) (a : Attempt)
    (reference : String) : Prop :=
  ∃ d input jobId created context arguments, a.payload? = some d ∧
    validateJob cfg (.obj d) = .ok input ∧
    Controller.jobContext none (Controller.newJob input jobId created) = .ok context ∧
    ingestCall r (some context) arguments = .ok (some reference) ∧
    serves x now reference = true

/-! ## What a job may ingest -/

/-- The router lets a job that is no member's ingest attachments: the tool is configured, enabled and
    reads attachments, by a stream for an explicit instruction only. -/
def Router.ingests (r : Router) (explicit : Bool) : Bool :=
  match Controller.toolDefinition? r.hub ingestTool, r.policy with
  | some d, some enabled =>
    (Controller.configuredTools r.config r.hub).contains ingestTool && enabled.contains ingestTool &&
      d.service = .renovationHub && r.config.hub && r.config.gateway &&
      (d.transport = "gateway_media_stream" && explicit || d.transport = "gateway_attachment")
  | _, _ => false

/-- The attachments of the message, and its text as the Controller reads it. -/
def explicitIntent (m : InboundMessage) : Bool :=
  hasExplicitMediaArchiveIntent m.text (m.attachments.map attachmentInput)

variable {reference now : String} {x : Inbox}

theorem attachmentRefOf_ok {arguments : Dict} (h : attachmentRefOf arguments = .ok reference) :
    isAttachmentRef reference = true := by
  rw [attachmentRefOf, orRaise_eq_ok, Option.filter_eq_some_iff] at h
  exact h.2

theorem attachmentRefOf_named (h : isAttachmentRef reference = true) :
    attachmentRefOf [("attachment_ref", .str reference)] = .ok reference := by
  rw [attachmentRefOf, orRaise_eq_ok, Option.filter_eq_some_iff]
  exact ⟨rfl, h⟩

theorem attachmentRead_ok {config : RouterConfig} {d : ToolDefinition} :
    (∃ arguments, attachmentRead config d arguments = .ok (some reference)) ↔
      isAttachmentRef reference = true ∧ d.service = .renovationHub ∧ config.hub = true ∧
      config.gateway = true ∧
      (d.transport = "gateway_media_stream" ∨ d.transport = "gateway_attachment") := by
  constructor
  · rintro ⟨arguments, h⟩
    unfold attachmentRead at h
    split_ifs at h with hstream hservice hattachment
    · simp only [bind_eq_ok, ensure_eq_ok, map_eq_ok] at h
      obtain ⟨-, hhub, -, hgateway, _, href, hsome⟩ := h
      exact ⟨Option.some.inj hsome ▸ attachmentRefOf_ok href, hstream.1, hhub, hgateway,
        .inl hstream.2⟩
    · simp only [bind_eq_ok, ensure_eq_ok, map_eq_ok] at h
      obtain ⟨-, hhub, -, hgateway, -, -, _, href, hsome⟩ := h
      exact ⟨Option.some.inj hsome ▸ attachmentRefOf_ok href, hservice, hhub,
        hgateway hattachment, .inr hattachment⟩
    · simp only [bind_eq_ok, pure_eq_ok] at h
      obtain ⟨-, -, -, -, -, -, h⟩ := h
      cases h
    · cases h
  · rintro ⟨href, hservice, hhub, hgateway, htransport⟩
    refine ⟨[("attachment_ref", .str reference)], ?_⟩
    unfold attachmentRead
    by_cases hstream : d.transport = "gateway_media_stream"
    · rw [if_pos ⟨hservice, hstream⟩, ensure_bind_of hhub, ensure_bind_of hgateway,
        attachmentRefOf_named href]
      rfl
    · have hattachment := htransport.resolve_left hstream
      rw [if_neg fun h => hstream h.2, if_pos hservice, ensure_bind_of hhub,
        ensure_bind_of fun _ => hgateway, ensure_bind_of (.inr hattachment), if_pos hattachment,
        attachmentRefOf_named href]
      rfl

theorem ingestCall_ok {r : Router} {context : ToolContext} {explicit : Bool}
    (hexplicit : context.mediaArchiveAuthorized = some explicit) :
    (∃ arguments, ingestCall r (some context) arguments = .ok (some reference)) ↔
      isAttachmentRef reference = true ∧ context.capabilityProfile ≠ .memberReadOnly ∧
      r.ingests explicit = true := by
  have hcall : (∃ arguments, ingestCall r (some context) arguments = .ok (some reference)) ↔
      ∃ d, authorizeTool r.config r.hub r.policy (some context) ingestTool = .ok d ∧
        ∃ arguments, attachmentRead r.config d arguments = .ok (some reference) := by
    simp only [ingestCall, bind_eq_ok]
    constructor
    · rintro ⟨a, d, hd, ha⟩
      exact ⟨d, hd, a, ha⟩
    · rintro ⟨d, hd, a, ha⟩
      exact ⟨a, d, hd, ha⟩
  have hcar : ingestTool ∉ Controller.prepareCarToolNames := by decide
  have hmember : ingestTool ∉ Controller.memberAllowedToolNames := by decide
  rw [hcall]
  simp only [attachmentRead_ok, authorizeTool, bind_eq_ok, orRaise_eq_ok, ensure_eq_ok,
    pure_eq_ok, Option.map_some, Option.some.injEq, Option.bind_some, hexplicit, hcar, hmember,
    Router.ingests]
  cases htool : Controller.toolDefinition? r.hub ingestTool with
  | none => simp
  | some d =>
    cases hpolicy : r.policy with
    | none => simp
    | some enabled =>
      have htransport : d.transport = "gateway_attachment" →
          d.transport ≠ "gateway_media_stream" := by
        intro h
        rw [h]
        decide
      cases explicit with
      | false =>
        simp
        tauto
      | true =>
        simp
        tauto

/-! ## The agreement -/

/-- The job of the message is created and may ingest attachments. -/
structure Permitted (r : Router) (a : Attempt) : Prop where
  within : Within a.message
  waiting : completesRequest a.message.archiveContext = false
  profile : a.jobProfile?.any (fun p => p ≠ .memberReadOnly) = true
  ingests : r.ingests (explicitIntent a.message) = true

instance (r : Router) (a : Attempt) : Decidable (Permitted r a) :=
  decidable_of_iff (Within a.message ∧ completesRequest a.message.archiveContext = false ∧
      a.jobProfile?.any (fun p => p ≠ .memberReadOnly) = true ∧
      r.ingests (explicitIntent a.message) = true)
    ⟨fun ⟨hwithin, hwaiting, hprofile, hingests⟩ => ⟨hwithin, hwaiting, hprofile, hingests⟩,
      fun h => ⟨h.within, h.waiting, h.profile, h.ingests⟩⟩

/-- What the Gateway has authorized is what the job may ingest. -/
def ArchivesExactly (cfg : Settings) (r : Router) (x : Inbox) (now : String) (a : Attempt) : Prop :=
  ∀ context, a.message.archiveContext = some context → ∀ reference,
    MayIngest cfg r x now a reference ↔ context.status = .authorized ∧
      reference ∈ a.message.attachments.map AttachmentDocument.attachmentRef ∧
      serves x now reference = true

theorem serves_ref (h : serves x now reference = true) :
    isAttachmentRef reference = true := (Bool.and_eq_true_iff.mp h).1

/-- A job that is permitted to may ingest every attachment that the Gateway serves, and any other
    job none. -/
theorem mayIngest_iff (cfg : Settings) (r : Router) {a : Attempt}
    (ha : Gateway.Written a.message.archiveContext a.message.attachments) :
    MayIngest cfg r x now a reference ↔ Permitted r a ∧ serves x now reference = true := by
  have hfits := fits_iff ha
  constructor
  · rintro ⟨d, input, jobId, created, context, arguments, hd, hinput, hcontext, hcall, hserves⟩
    obtain ⟨p, hp, rfl⟩ := Option.map_eq_some_iff.mp hd
    obtain ⟨hfit, rfl⟩ := (validateJob_payload ..).mp hinput
    simp only [Controller.jobContext, Controller.beginJob, bind_eq_ok, pure_eq_ok] at hcontext
    obtain ⟨-, -, -, -, rfl⟩ := hcontext
    obtain ⟨-, hprofile, hingests⟩ := (ingestCall_ok rfl).mp ⟨arguments, hcall⟩
    obtain ⟨hwithin, hwaiting⟩ := hfits.mp hfit
    refine ⟨⟨hwithin, hwaiting, ?_, hingests⟩, hserves⟩
    rw [Attempt.jobProfile?, hp]
    exact decide_eq_true hprofile
  · rintro ⟨⟨hwithin, hwaiting, hprofile, hingests⟩, hserves⟩
    obtain ⟨q, hq, hprofile⟩ := (Option.any_eq_true _ _).mp hprofile
    rw [decide_eq_true_eq] at hprofile
    obtain ⟨p, hp, rfl⟩ := Option.map_eq_some_iff.mp hq
    have hfit := hfits.mpr ⟨hwithin, hwaiting⟩
    have hne : a.message.messageId ≠ "" := by
      intro h
      have hlength := hwithin.messageId.1
      rw [h] at hlength
      exact absurd hlength (by decide)
    have hcontext : Controller.jobContext none (Controller.newJob
        (jobInput a.message (receivedProfile p a.profileSupported)) "job" "") =
          .ok ⟨"job", a.message.messageId, "", receivedProfile p a.profileSupported,
            a.message.conversationKey, some (explicitIntent a.message)⟩ := by
      rw [Controller.jobContext, Controller.beginJob, ensure_bind_of ⟨(by decide : "job" ≠ ""), hne⟩,
        ensure_bind_of rfl]
      rfl
    generalize hc : (⟨"job", a.message.messageId, "", receivedProfile p a.profileSupported,
      a.message.conversationKey, some (explicitIntent a.message)⟩ : ToolContext) = c at hcontext
    have hexplicit : c.mediaArchiveAuthorized = some (explicitIntent a.message) := by rw [← hc]
    have hmember : c.capabilityProfile ≠ .memberReadOnly := by
      rw [← hc]
      exact hprofile
    obtain ⟨arguments, hcall⟩ :=
      (ingestCall_ok hexplicit).mpr ⟨serves_ref hserves, hmember, hingests⟩
    have hpayload : a.payload? = some (payload a.message p a.profileSupported) := by
      rw [Attempt.payload?, hp]
      rfl
    exact ⟨_, _, "job", "", c, arguments, hpayload, (validateJob_payload ..).mpr ⟨hfit, rfl⟩,
      hcontext, hcall, hserves⟩

/-- A router with the tool of the Hub. -/
def hubRouter : Router where
  config := ⟨true, true, true, true, true⟩
  hub := [⟨⟨ingestTool, .renovationHub, "gateway_media_stream", true, true⟩, rfl, by decide⟩]
  policy := some [ingestTool]

/-- A photo with a text, and a message around it. -/
def photographedWith (first second : String) (photoFirst : Bool) : List InboxStep :=
  let photo : List (Gateway.MediaSpec × List UInt8) := [(⟨.image, "a.jpg", "image/jpeg"⟩, [1])]
  [.store (directoryOf .owner) (sent "m1" first (if photoFirst then photo else []))
      (clock "2026-08-01T08:00" "reference-of-the-photo-of-message-1"),
    .store (directoryOf .owner) (sent "m2" second (if photoFirst then [] else photo))
      (clock "2026-08-01T08:01" "reference-of-the-photo-of-message-2")]

/-- The reference of a photo that is served. -/
def servedPhoto (es : List InboxStep) (reference : String) : Bool :=
  serves (runFrom Inbox.step .new es) "2026-08-01T08:02" reference

/-- A photo, and an instruction that names the place, too. -/
def placed : List InboxStep := photographedWith "" "把刚才这张施工照片归档" true

end HomeAddons.Handover
