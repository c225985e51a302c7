import HomeAddons.Handover.Ingest
import HomeAddons.Renovation.Media

/-!
# The handover of a media file: Gateway, Controller and Hub

`_stream_gateway_to_hub` (`tool_proxy.py` 1225–1346) asks the Hub whether it has the result of a call
already, and otherwise streams the attachment from the Gateway into the Hub; then it acknowledges the
attachment to the Gateway. Each of its four exchanges can fail, before or after the other side has
done what it was asked.

* `step_sound`: one step of the three add-ons keeps what the Hub knows of its assets.
* `handoff`: a key has at most one asset; a call whose result the Hub has is never confirmed.

The Hub keeps a digest bare and the Gateway reads a marked one: a result that is replayed brings the
bare one.
-/

namespace HomeAddons.Handover

open HomeAddons.Common
open HomeAddons.Gateway (Inbox InboxStep StoreError Attachment)
open HomeAddons.Controller (Fault isSha256Ref)
open HomeAddons.Renovation (MediaHub MediaMeta MediaEnv MediaAsset IngestResult Upload Raise)

/-! ## The Gateway -/

/-- A stored attachment that is opened: its row and the bytes of its file. -/
structure Stream where
  row : Attachment
  content : List UInt8

/-- `open_stream_attachment(reference)` (`store.py` 3879–3920). -/
def openStreamAttachment (x : Inbox) (reference now : String) : Except StoreError Stream := do
  let row ← orRaise (x.attachments.get? reference) ⟨"attachment_not_found", "附件引用不存在", 404⟩
  ensure (row.consumedAt = none) ⟨"attachment_consumed", "附件已经消费", 409⟩
  ensure (now < row.expiresAt) ⟨"attachment_expired", "附件已过期", 410⟩
  let file ← orRaise (x.spool.get? row.storageName)
    ⟨"attachment_missing", "附件存储缺失或越界", 404⟩
  ensure (file.content.length = row.sizeBytes)
    ⟨"attachment_invalid", "附件大小或存储状态不一致", 409⟩
  return ⟨row, file.content⟩

/-- The checks of `acknowledge_attachment(reference, sha256)` (lines 3922–3946). -/
def acknowledgement (x : Inbox) (reference sha256 now : String) : Except StoreError Unit := do
  ensure (isSha256Ref sha256 = true) ⟨"attachment_invalid", "附件摘要无效", 400⟩
  let row ← orRaise (x.attachments.get? reference) ⟨"attachment_not_found", "附件引用不存在", 404⟩
  ensure ("sha256:" ++ row.sha256 = sha256) ⟨"attachment_digest_mismatch", "附件摘要不一致", 409⟩
  ensure (row.consumedAt ≠ none ∨ now < row.expiresAt) ⟨"attachment_expired", "附件已过期", 410⟩

/-- The Gateway answers a request to acknowledge. -/
def acknowledge (x : Inbox) (reference sha256 now : String) : Inbox × Except StoreError Unit :=
  match acknowledgement x reference sha256 now with
  | .ok () => (x.acknowledgeAttachment reference sha256 now, .ok ())
  | .error e => (x, .error e)

/-- `HTTPError` with the document of a `StoreError`, as `_request_json` and the stream read it. -/
def gatewayError (e : StoreError) (fallback : String) : Fault :=
  (Controller.safeStructuredHttpError e.status
    (some (.obj [("error", .obj [("code", .str e.code), ("message", .str e.message)])]))).getD
      (.tool fallback s!"HTTP {e.status}")

/-- `exc.code`. -/
def codeOf : Fault → String
  | .tool code _ => code
  | _ => "internal_error"

/-! ## A call -/

/-- How an exchange ends: with an answer, before the other side got the request, or with the answer
    lost. -/
inductive Leg where
  | answered | unsent | lost
  deriving DecidableEq

/-- How the exchange with the body ends: as another does, with a body that is cut off, or before the
    Hub has finalized the upload. -/
inductive BodyLeg where
  | whole (leg : Leg)
  | cut
  | late

/-- An upload that the Hub finalizes: one whose request is gone, or one of the page. -/
structure Finalizing where
  env : MediaEnv
  upload : Upload
  metadata : MediaMeta
  content : List UInt8

/-- What a call finds. -/
structure CallEnv where
  now : String
  maxMediaBytes : ℕ
  replay : Leg
  stream : Leg
  ingest : BodyLeg
  acknowledge : Leg
  media : MediaEnv
  /-- What the Hub finalizes between its two requests. -/
  meanwhile : List Finalizing

/-- A call of `renovation_media_ingest` in the job of a message. -/
structure MediaCall where
  messageId : String
  arguments : Dict

/-- What a call says of the attachment; a result without a digest says nothing. -/
inductive Consumption where
  | confirmed
  | pending (errorCode : String)
  | unreported
  deriving DecidableEq

structure MediaAnswer where
  result : IngestResult
  consumption : Consumption

/-- The Gateway and the Hub. -/
structure World where
  gateway : Inbox
  hub : MediaHub

namespace MediaCall

variable (c : MediaCall)

/-- `_deterministic_idempotency(name, arguments)` (`tool_proxy.py` 987–997). -/
def key : String :=
  "sha256:" ++ sha256Hex ("codex-controller-tool-v1\n" ++ c.messageId ++ "\n" ++ ingestTool ++ "\n" ++
    canonical (.obj (c.arguments.filter fun (k, _) => k ≠ "idempotency_key")))

/-- `metadata`. -/
def metadata (sourceRefHash : String) : Dict :=
  (c.arguments.filter fun (k, _) =>
    ¬ ["attachment_ref", "idempotency_key", "source", "source_ref_hash"].contains k) ++
  [("idempotency_key", .str c.key), ("source", .str "weixin"),
    ("source_ref_hash", .str sourceRefHash)]

end MediaCall

/-- `get_content_type()` of the answer. -/
def contentType (header : String) : String :=
  let value := (strip (String.ofList (header.toList.takeWhile (· ≠ ';')))).toLower
  if value.toList.count '/' = 1 then value else "text/plain"

/-- `raise ToolProxyError("attachment_invalid", message)`. -/
def attachmentInvalid (message : String) : Fault := .tool "attachment_invalid" message

namespace World

variable (cfg : Renovation.Config) (w : World)

/-- `confirm_consumption(result, digest)` (lines 1239–1254). -/
def confirmConsumption (env : CallEnv) (reference : String) (result : IngestResult)
    (digest : String) : World × Except Fault MediaAnswer :=
  let (gateway, outcome) := acknowledge w.gateway reference digest env.now
  match env.acknowledge, outcome with
  | .unsent, _ => (w, .ok ⟨result, .pending "upstream_unavailable"⟩)
  | .lost, _ => ({ w with gateway := gateway }, .ok ⟨result, .pending "upstream_unavailable"⟩)
  | .answered, .ok () => ({ w with gateway := gateway }, .ok ⟨result, .confirmed⟩)
  | .answered, .error e =>
    (w, .ok ⟨result, .pending (codeOf (gatewayError e "upstream_rejected"))⟩)

/-- The stream that the Gateway answers with, and the checks of its headers (lines 1273–1305). -/
def streamed (env : CallEnv) (reference : String) : Except Fault (Stream × MediaMeta) := do
  ensure (env.stream ≠ .unsent) (.tool "gateway_unavailable" "Weixin Gateway 附件接口不可用")
  let s ← (openStreamAttachment w.gateway reference env.now).mapError fun e =>
    gatewayError e "attachment_unavailable"
  ensure (1 ≤ s.row.sizeBytes ∧ s.row.sizeBytes ≤ env.maxMediaBytes)
    (.tool "attachment_too_large" "Gateway 媒体超过 Controller 上限")
  let mimeType := contentType s.row.mimeType
  ensure (1 ≤ s.row.originalFilename.length ∧ s.row.originalFilename.length ≤ 255 ∧
    Renovation.isFileName s.row.originalFilename = true ∧ mimeType ∈ Renovation.mediaMimeTypes)
    (attachmentInvalid "Gateway 媒体元数据无效")
  return (s, ⟨"", "", .null, s.row.originalFilename, mimeType, s.row.sizeBytes, s.row.sha256⟩)

/-- The Hub finalizes an upload. -/
def finalize (f : Finalizing) : World :=
  { w with hub := (w.hub.finalizeUpload cfg f.env f.upload f.metadata f.content).1 }

/-- The Hub's answer to an upload; its metadata come in a header that is limited. -/
def ingested (env : CallEnv) (metadata : Dict) (m : MediaMeta) (body : Option (List UInt8)) :
    MediaHub × Except Raise IngestResult :=
  if (canonical (.obj metadata)).length ≤ 8192 then w.hub.mediaIngest cfg env.media m body
  else (w.hub, .error (Renovation.rejecting "media_invalid" "metadata 头无效"))

/-- The upload into the Hub (lines 1306–1340): the Hub then, and the result with which the call goes
    on. -/
def upload (env : CallEnv) (c : MediaCall) (sourceRefHash : String) (s : Stream) (m : MediaMeta) :
    World × Except Fault IngestResult :=
  let metadata := c.metadata sourceRefHash
  let m := { m with
    idempotencyKey := c.key, sourceRefHash := sourceRefHash, projectId := metadata.get "project_id" }
  let unavailable := .error (.tool "upstream_unavailable" "媒体流式转发失败")
  if env.stream = .lost then
    ({ w with hub := (w.ingested cfg env metadata m none).1 },
      .error (attachmentInvalid "Gateway 媒体正文不完整"))
  else match env.ingest with
  | .cut => ({ w with hub := (w.ingested cfg env metadata m none).1 }, unavailable)
  | .late => match w.hub.prepareUpload cfg env.media m with
    | .ok (hub, .fresh u) => ({ w with hub := hub.markUploading u.id }, unavailable)
    | _ => (w, unavailable)
  | .whole .unsent => (w, unavailable)
  | .whole leg =>
    let (hub, outcome) := w.ingested cfg env metadata m (some s.content)
    if s.row.sha256 ≠ String.ofList (sha256Chars s.content) then
      ({ w with hub := hub }, .error (attachmentInvalid "Gateway 媒体摘要不一致"))
    else if leg = .lost then ({ w with hub := hub }, unavailable)
    else ({ w with hub := hub },
      outcome.mapError fun _ => .tool "upstream_rejected" "Renovation Hub 拒绝媒体")

/-- `_stream_gateway_to_hub(…)` (lines 1225–1346), with the key that `_call_authorized` gives it. -/
def call (c : MediaCall) (env : CallEnv) : World × Except Fault MediaAnswer :=
  match attachmentRefOf c.arguments with
  | .error e => (w, .error e)
  | .ok reference =>
    let sourceRefHash := sha256Hex reference
    if env.replay ≠ .answered then
      (w, .error (.tool "upstream_unavailable" "Renovation Hub 媒体接口不可用"))
    else match w.hub.replay cfg c.key sourceRefHash with
      | .error _ => (w, .error (.tool "upstream_rejected" "Renovation Hub 拒绝媒体幂等检查"))
      | .ok (some r) =>
        if r.media.sha256 = "" then (w, .ok ⟨r, .unreported⟩)
        else w.confirmConsumption env reference r r.media.sha256
      | .ok none =>
        match w.streamed env reference with
        | .error e => (w, .error e)
        | .ok (s, m) =>
          let w := env.meanwhile.foldl (finalize cfg) w
          match w.upload cfg env c sourceRefHash s m with
          | (w, .error e) => (w, .error e)
          | (w, .ok r) => w.confirmConsumption env reference r ("sha256:" ++ s.row.sha256)

end World

/-! ## Runs -/

/-- A step of the three add-ons: a call, whatever else happens to the inbox, or an upload that the
    Hub finalizes. -/
inductive HandoffStep where
  | call (c : MediaCall) (env : CallEnv)
  | gateway (e : InboxStep)
  | finalize (f : Finalizing)

namespace World

def new : World := ⟨.new, .empty⟩

variable (cfg : Renovation.Config)

def step (w : World) : HandoffStep → World
  | .call c env => (w.call cfg c env).1
  | .gateway e => { w with gateway := w.gateway.step e }
  | .finalize f => w.finalize cfg f

variable {cfg} {w : World} {env : CallEnv}

theorem confirmConsumption_hub (reference : String) (r : IngestResult) (digest : String) :
    (w.confirmConsumption env reference r digest).1.hub = w.hub := by
  unfold confirmConsumption
  dsimp only
  split <;> rfl

theorem finalize_sound (h : w.hub.Sound) (f : Finalizing) : (w.finalize cfg f).hub.Sound :=
  h.finalize f.content

theorem ingested_sound (h : w.hub.Sound) (metadata : Dict) (m : MediaMeta)
    (body : Option (List UInt8)) : (w.ingested cfg env metadata m body).1.Sound := by
  unfold ingested
  split
  · exact h.ingest body
  · exact h

theorem upload_sound (h : w.hub.Sound) (c : MediaCall) (sourceRefHash : String) (s : Stream)
    (m : MediaMeta) : (w.upload cfg env c sourceRefHash s m).1.hub.Sound := by
  unfold upload
  dsimp only
  split
  · exact ingested_sound h ..
  · split
    · exact ingested_sound h ..
    · split
      · next hok => exact (h.prepare hok).setUpload _ _ _
      · exact h
    · exact h
    · split
      · exact ingested_sound h ..
      · split
        · exact ingested_sound h ..
        · exact ingested_sound h ..

theorem call_sound (h : w.hub.Sound) (c : MediaCall) : (w.call cfg c env).1.hub.Sound := by
  have hmeanwhile : (env.meanwhile.foldl (finalize cfg) w).hub.Sound := by
    generalize env.meanwhile = fs
    induction fs generalizing w with
    | nil => exact h
    | cons f fs ih => exact ih (finalize_sound h f)
  unfold call
  split
  · exact h
  · next reference _ =>
    dsimp only
    split
    · exact h
    · split
      · exact h
      · split
        · exact h
        · rw [confirmConsumption_hub]
          exact h
      · split
        · exact h
        · next s m _ =>
          have hupload := @upload_sound cfg _ env hmeanwhile c
            (sha256Hex reference) s m
          split
          · next heq =>
            rw [heq] at hupload
            exact hupload
          · next heq =>
            rw [heq] at hupload
            rw [confirmConsumption_hub]
            exact hupload

/-- Each step keeps what the Hub knows of its assets. -/
theorem step_sound (h : w.hub.Sound) (e : HandoffStep) : (w.step cfg e).hub.Sound := by
  cases e with
  | call c env => exact call_sound h c
  | gateway e => exact h
  | finalize f => exact finalize_sound h f

/-! ## A result that the Hub has -/

/-- A digest without its mark is not acknowledged. -/
theorem acknowledgement_bare (x : Inbox) (reference now : String) (content : List UInt8) :
    acknowledgement x reference (String.ofList (sha256Chars content)) now =
      .error ⟨"attachment_invalid", "附件摘要无效", 400⟩ := by
  have hbare : ¬ isSha256Ref (String.ofList (sha256Chars content)) = true := by
    intro h
    have hdrop := (Bool.and_eq_true_iff.mp (Bool.and_eq_true_iff.mp h).1).2
    rw [decide_eq_true_eq, String.toList_ofList, List.length_drop, sha256Chars_length] at hdrop
    exact absurd hdrop (by decide)
  rw [acknowledgement, ensure, if_neg hbare]
  rfl

theorem confirmConsumption_bare (reference : String) (r : IngestResult) (content : List UInt8) :
    ∃ code, w.confirmConsumption env reference r (String.ofList (sha256Chars content)) =
      (w, .ok ⟨r, .pending code⟩) := by
  unfold confirmConsumption acknowledge
  rw [acknowledgement_bare]
  cases env.acknowledge with
  | answered => exact ⟨_, rfl⟩
  | unsent => exact ⟨_, rfl⟩
  | lost => exact ⟨_, rfl⟩

/-- A call whose result the Hub has changes nothing and is not confirmed. -/
theorem call_stored (h : w.hub.Sound) {c : MediaCall} {r : IngestResult}
    (hr : w.hub.results.get? c.key = some r) (env : CallEnv) :
    (w.call cfg c env).1 = w ∧
      ∀ a, (w.call cfg c env).2 = .ok a → ∃ code, a.consumption = .pending code := by
  have hfail : ∀ e : Fault, ∀ a, (.error e : Except Fault MediaAnswer) = .ok a →
      ∃ code, a.consumption = .pending code := nofun
  obtain ⟨content, hdigest⟩ := h.digest r (Table.mem_of_get? hr)
  have hne : String.ofList (sha256Chars content) ≠ "" := by
    intro heq
    have hlength := congrArg (fun s => s.toList.length) heq
    rw [String.toList_ofList, sha256Chars_length] at hlength
    exact absurd hlength (by decide)
  unfold call
  split
  · exact ⟨rfl, hfail _⟩
  · next reference _ =>
    dsimp only
    split
    · exact ⟨rfl, hfail _⟩
    · split
      · exact ⟨rfl, hfail _⟩
      · next r' hreplay =>
        obtain rfl : r' = r := by
          simp only [MediaHub.replay, bind_eq_ok] at hreplay
          obtain ⟨key, hkey, refHash, -, hreplay⟩ := hreplay
          obtain rfl := Renovation.idempotencyKey_str hkey
          rw [hr] at hreplay
          obtain ⟨-, -, hreplay⟩ := bind_eq_ok.mp hreplay
          exact (Option.some.inj (Except.ok.inj hreplay)).symm
        obtain ⟨code, hconfirm⟩ := @confirmConsumption_bare w env reference r' content
        rw [hdigest, if_neg hne, hconfirm]
        refine ⟨rfl, fun a ha => ?_⟩
        obtain rfl := Except.ok.inj ha
        exact ⟨code, rfl⟩
      · next hreplay =>
        simp only [MediaHub.replay, bind_eq_ok] at hreplay
        obtain ⟨key, hkey, refHash, -, hreplay⟩ := hreplay
        obtain rfl := Renovation.idempotencyKey_str hkey
        rw [hr] at hreplay
        obtain ⟨-, -, hreplay⟩ := bind_eq_ok.mp hreplay
        cases hreplay

/-! ## The handoff -/

/-- A key has at most one asset. -/
def OneAsset (w : World) : Prop :=
  ∀ a ∈ w.hub.assets.rows, ∀ b ∈ w.hub.assets.rows, a.ingestKey = b.ingestKey → a = b

/-- The Hub has committed the result of a call. -/
def Committed (w : World) (c : MediaCall) : Prop := (w.hub.results.get? c.key).isSome = true

/-- A call ends with its attachment acknowledged and its result confirmed. -/
def Completes (cfg : Renovation.Config) (w : World) (c : MediaCall) (env : CallEnv) : Prop :=
  ∃ reference b a, attachmentRefOf c.arguments = .ok reference ∧
    (w.call cfg c env).1.gateway.attachments.get? reference = some b ∧ b.consumedAt ≠ none ∧
    (w.call cfg c env).2 = .ok a ∧ a.consumption = .confirmed

/-- In every run a key has at most one asset; a call whose result is committed leaves the Gateway and
    the Hub as they are, and never completes. -/
theorem handoff (cfg : Renovation.Config) (es : List HandoffStep) :
    OneAsset (runFrom (step cfg) new es) ∧ ∀ c env, Committed (runFrom (step cfg) new es) c →
      ((runFrom (step cfg) new es).call cfg c env).1 = runFrom (step cfg) new es ∧
      ¬ Completes cfg (runFrom (step cfg) new es) c env := by
  have hsound : (runFrom (step cfg) new es).hub.Sound :=
    invariant_of_reachable (step cfg) (fun w e (h : w.hub.Sound) => step_sound h e)
      MediaHub.Sound.empty ⟨es, rfl⟩
  refine ⟨fun a ha b hb hkey => hsound.one_asset ha hb hkey, fun c env hcommitted => ?_⟩
  obtain ⟨r, hr⟩ := Option.isSome_iff_exists.mp hcommitted
  obtain ⟨hsame, hpending⟩ := @call_stored cfg _ hsound _ _ hr env
  refine ⟨hsame, ?_⟩
  rintro ⟨reference, b, a, -, -, -, ha, hconfirmed⟩
  obtain ⟨code, hcode⟩ := hpending a ha
  exact absurd (hcode.symm.trans hconfirmed) nofun

/-! ## A photo -/

/-- A Hub for texts in normal form. -/
def plainConfig : Renovation.Config := ⟨⟨id, id, id⟩, 0, false⟩

def photoRef : String := "reference-of-the-photo-of-message-1"

/-- The call that archives the photo. -/
def archiving : MediaCall :=
  ⟨"m2", [("attachment_ref", .str photoRef), ("project_id", .str "project-1")]⟩

/-- A call in which every exchange but the last has an answer. -/
def reachable (acknowledge : Leg) : CallEnv where
  now := "2026-08-01T08:02"
  maxMediaBytes := 1024
  replay := .answered
  stream := .answered
  ingest := .whole .answered
  acknowledge := acknowledge
  media := ⟨1024, "upload-1", "media-1", ".jpg", none⟩
  meanwhile := []

/-- The photo arrives, and the Gateway is not reached after the Hub has stored it. -/
def interrupted : List HandoffStep :=
  (photographedWith "" "把刚才这张施工照片归档" true).map .gateway ++
    [.call archiving (reachable .unsent)]

/-- The Hub has the result then, the Gateway serves the photo still, and the call that comes again
    is answered as one that is pending. -/
theorem interrupted_facts :
    ((runFrom (step plainConfig) new interrupted).hub.results.get? archiving.key).isSome = true ∧
    serves (runFrom (step plainConfig) new interrupted).gateway "2026-08-01T08:02" photoRef = true ∧
    ((runFrom (step plainConfig) new interrupted).call plainConfig archiving
      (reachable .answered)).2.toOption.any
        (fun a => a.consumption = .pending "attachment_invalid") = true := by decide +kernel

/-- The photo that the Gateway serves still is never acknowledged by the call that comes again. -/
theorem interrupted_pending : ∃ es c env reference, Committed (runFrom (step plainConfig) new es) c ∧
    attachmentRefOf c.arguments = .ok reference ∧
    serves (runFrom (step plainConfig) new es).gateway env.now reference = true ∧
    env.replay = .answered ∧ env.acknowledge = .answered ∧
    ¬ Completes plainConfig (runFrom (step plainConfig) new es) c env := by
  obtain ⟨hcommitted, hserves, hpending⟩ := interrupted_facts
  have href : attachmentRefOf archiving.arguments = .ok photoRef := by
    rw [attachmentRefOf, orRaise_eq_ok, Option.filter_eq_some_iff]
    exact ⟨rfl, by decide⟩
  refine ⟨interrupted, archiving, reachable .answered, photoRef, hcommitted, href, hserves, rfl, rfl,
    ?_⟩
  rintro ⟨reference, b, a, -, -, -, ha, hconfirmed⟩
  rw [ha] at hpending
  exact absurd ((of_decide_eq_true hpending).symm.trans hconfirmed) (by simp)

/-- The photo has one asset, and a call that comes again changes nothing. -/
theorem handoff_interrupted : OneAsset (runFrom (step plainConfig) new interrupted) ∧
    ((runFrom (step plainConfig) new interrupted).call plainConfig archiving
      (reachable .answered)).1 = runFrom (step plainConfig) new interrupted ∧
    ¬ Completes plainConfig (runFrom (step plainConfig) new interrupted) archiving
      (reachable .answered) :=
  ⟨(handoff plainConfig interrupted).1,
    (handoff plainConfig interrupted).2 archiving (reachable .answered) interrupted_facts.1⟩

end World

end HomeAddons.Handover
