import HomeAddons.Common.Digest
import HomeAddons.Common.History
import HomeAddons.Common.Json
import HomeAddons.Common.Result
import HomeAddons.Common.Run
import HomeAddons.Common.Stoppable
import HomeAddons.Common.Table
import HomeAddons.Common.Text

/-!
# Weixin Gateway: artifacts of a completed job

`GatewayService._send_completed_job` and what it calls: the artifacts are fetched, the summary is
sent, and every artifact is uploaded and sent, or its fallback link is. What the network answers is
part of the attempt; an exception ends the attempt and leaves the tables as they are then.

* `Outbound.artifacts_sent_once`: in a run whose final sends are all answered or time out, an
  artifact is sent again only after the session was refused, and after an unknown delivery there
  is only its fallback link.
-/

namespace HomeAddons.Gateway

open HomeAddons.Common

/-! ## Tables -/

inductive DeliveryState where
  | pending
  | sent
  | failed
  deriving DecidableEq, Repr

/-- A row of `outbound_chunks`. -/
structure ChunkRow where
  jobId : String
  index : ℕ
  clientId : String
  state : DeliveryState
  errorCode : Option String

def ChunkRow.key (r : ChunkRow) : String × ℕ := (r.jobId, r.index)

/-- A row of `outbound_artifacts`. -/
structure ArtifactRow where
  jobId : String
  artifactId : String
  sha256 : String
  mimeType : String
  sizeBytes : ℤ
  clientId : String
  state : DeliveryState
  errorCode : Option String
  fallbackClientId : String
  fallbackState : DeliveryState
  fallbackErrorCode : Option String

def ArtifactRow.key (r : ArtifactRow) : String × String := (r.jobId, r.artifactId)

/-! ## Exceptions and answers -/

/-- What a delivery raises: a `StoreError`, a `ProtocolError`, or anything else. -/
inductive DeliveryRaise where
  | store (code : String)
  | protocol (code : String) (retryable deliveryUnknown : Bool)
  | other
  deriving DecidableEq, Repr

/-- How a POST to iLink ends. -/
inductive Exchange where
  | answered (status size : ℕ) (body : Option Json)
  | timeout
  | transport

/-- How the upload to the CDN ends; the parameter is the header `x-encrypted-param`. -/
inductive Upload where
  | answered (status : ℕ) (encryptedParam : Option String)
  | transport

/-- How the artifact is fetched from the Controller. -/
inductive Fetched where
  | content (bytes : List UInt8)
  | refused (code : String)
  | broke

/-- What `assert_cdn_url` says of the URL that iLink returned. -/
inductive CdnVerdict where
  | accepted
  | rejected
  | raised

/-- The POST requests of a delivery. -/
inductive OutboundRequest where
  | text (jobId : String) (index : ℕ) (withContext : Bool)
  | uploadUrl (key : String × String)
  | media (key : String × String)
  | fallback (key : String × String)
  deriving DecidableEq

inductive OutboundEvent where
  | posted (request : OutboundRequest) (exchange : Exchange)
  | uploaded (key : String × String) (upload : Upload)
  | fallbackSent (key : String × String)

structure OutboundWorld where
  chunks : Table ChunkRow.key
  artifacts : Table ArtifactRow.key
  log : List OutboundEvent

/-- A delivery attempt: the message, the job as the Controller returns it, and what the network
    and the other tasks of the service answer. -/
structure Attempt where
  jobId : String
  job : Dict
  expired : Bool
  expiredAt : ℕ → Bool
  suppression : Option String
  context : Option String
  fetch : String → Fetched
  post : OutboundRequest → Exchange
  cdn : String → CdnVerdict
  upload : String → Upload

structure DeliveryConfig where
  maxMediaBytes : ℕ
  controllerIngressBaseUrl : String

/-! ## iLink -/

/-- The answer of `api_post`. -/
def Exchange.result : Exchange → Except DeliveryRaise Dict
  | .timeout => .error (.protocol "ilink_timeout" true false)
  | .transport => .error .other
  | .answered status size body => do
    ensure (200 ≤ status ∧ status < 300) (.protocol "ilink_http_error" (500 ≤ status) false)
    ensure (size ≤ 2 * 1024 * 1024) (.protocol "ilink_response_too_large" false false)
    let body ← orRaise body (.protocol "ilink_invalid_json" false false)
    orRaise body.asDict? (.protocol "ilink_invalid_json" false false)

/-- `ret == code or errcode == code`. -/
def hasCode (response : Dict) (code : ℤ) : Bool :=
  (Dict.get response "ret").eqInt code || (Dict.get response "errcode").eqInt code

/-- `v in {0, None}`; `none` is a `TypeError`. -/
def isZero (v : Json) : Option Bool := if v.hashable then some (v.eqInt 0 || v.isNull) else none

/-- `not (ret not in {0, None} or errcode not in {0, None})`. -/
def isAccepted (response : Dict) : Except DeliveryRaise Bool := do
  if ← orRaise (isZero (Dict.get response "ret")) .other then
    orRaise (isZero (Dict.get response "errcode")) .other
  else return false

def sessionExpiredErrcode : ℤ := -14
def rateLimitErrcode : ℤ := -2

/-- `bool(v)`. -/
def isTruthy : Json → Bool
  | .null => false
  | .bool b => b
  | .int n => n ≠ 0
  | .float value _ => value ≠ some 0
  | .str s => s ≠ ""
  | .arr items => !items.isEmpty
  | .obj items => !items.isEmpty

/-- `is_stale_context_response`: the text is compared as `casefold` would leave it. -/
def isStaleContextResponse (response : Dict) : Bool :=
  let text := Dict.get response "errmsg"
  let text := if isTruthy text then text else Dict.get response "msg"
  let fold (c : Char) : Char := if c = 'K' then 'k' else c.toLower
  hasCode response rateLimitErrcode &&
    (text.asStr?.map fun s => (strip s).toList.map fold) = some "unknown error".toList

/-- Whether iLink returned an upload URL. -/
def hasUploadUrl (response : Dict) : Bool :=
  let full := Dict.get response "upload_full_url"
  if isTruthy full then full.asStr?.isSome else isTruthy (Dict.get response "upload_param")

/-- The end of `send_media`, from the answer to the final request. -/
def mediaVerdict (exchange : Exchange) : Except DeliveryRaise Unit :=
  match exchange.result with
  | .error (.protocol code retryable _) => .error (.protocol code retryable true)
  | .error e => .error e
  | .ok result =>
    if hasCode result sessionExpiredErrcode then .error (.protocol "session_expired" false false)
    else do
      let ok ← isAccepted result
      ensure (ok = true) (.protocol "media_send_failed" false false)

/-! ## The store -/

/-- The first 32 digits of a hash as a client id. -/
def clientIdOf (text : String) : String :=
  "codex-weixin-" ++ String.ofList ((sha256Hex text).toList.take 32)

/-- `re.fullmatch` of a fixed text followed by `n` characters of one kind. -/
def isTagged (tag : String) (n : ℕ) (p : Char → Bool) (text : String) : Bool :=
  let cs := text.toList
  cs.take tag.length = tag.toList && (cs.drop tag.length).length = n && (cs.drop tag.length).all p

def isBase32 (c : Char) : Bool := ('A' ≤ c ∧ c ≤ 'Z') ∨ ('2' ≤ c ∧ c ≤ '7')

/-- `artifact.get("filename") or …` is a plain file name. -/
def hasPlainFilename (artifact : Dict) : Bool :=
  let name := Dict.get artifact "filename"
  !isTruthy name || (name.asStr?.map fun s =>
    s.length ≤ 255 && s ≠ "." && !s.toList.contains '/') = some true

def mimeTypes : List String := ["image/png", "application/zip"]

/-- `codex-weixin-[a-f0-9]{32}`. -/
def isClientId : String → Bool := isTagged "codex-weixin-" 32 isLowerHex

namespace OutboundWorld

variable (w : OutboundWorld)

/-- `prepare_chunk`: the client id, and whether the chunk was sent. Both keys of the table may
    refuse the row, and then there may be none to look at. -/
def prepareChunk (jobId : String) (index : ℕ) :
    OutboundWorld × Except DeliveryRaise (String × Bool) :=
  let clientId := clientIdOf (jobId ++ ":" ++ toString index)
  let chunks :=
    if w.chunks.rows.any fun r => r.clientId = clientId then w.chunks
    else (w.chunks.insert? ⟨jobId, index, clientId, .pending, none⟩).getD w.chunks
  ({ w with chunks }, do
    let row ← orRaise (chunks.get? (jobId, index)) .other
    return (clientId, row.state = .sent))

/-- `mark_chunk`. -/
def markChunk (jobId : String) (index : ℕ) (state : DeliveryState) (errorCode : Option String) :
    OutboundWorld :=
  { w with
    chunks := w.chunks.update (jobId, index) (fun r => { r with state, errorCode })
      (by intro _; rfl) }

/-- The row that `prepare_artifact` inserts. -/
def newArtifact (jobId artifactId sha256 mimeType : String) (sizeBytes : ℤ) : ArtifactRow where
  jobId := jobId
  artifactId := artifactId
  sha256 := sha256
  mimeType := mimeType
  sizeBytes := sizeBytes
  clientId := clientIdOf ("media:" ++ jobId ++ ":" ++ artifactId)
  state := .pending
  errorCode := none
  fallbackClientId := clientIdOf ("fallback:" ++ jobId ++ ":" ++ artifactId)
  fallbackState := .pending
  fallbackErrorCode := none

/-- `INSERT OR IGNORE`: a row with one of its keys stays. -/
def insertArtifact (row : ArtifactRow) : OutboundWorld :=
  if w.artifacts.rows.any fun r =>
      r.clientId = row.clientId ∨ r.fallbackClientId = row.fallbackClientId then w
  else
    match w.artifacts.insert? row with
    | some artifacts => { w with artifacts }
    | none => w

/-- `prepare_artifact`. -/
def prepareArtifact (jobId : String) (artifact : Dict) :
    Except DeliveryRaise (OutboundWorld × ArtifactRow) := do
  ensure (jobId ≠ "") (.store "artifact_invalid")
  let artifactId ← orRaise (Dict.get artifact "artifact_id").asStr? (.store "artifact_invalid")
  ensure (isTagged "AR-" 26 isBase32 artifactId) (.store "artifact_invalid")
  let digest ← orRaise (Dict.get artifact "sha256").asStr? (.store "artifact_invalid")
  ensure (isTagged "sha256:" 64 isLowerHex digest) (.store "artifact_invalid")
  let known ← orRaise ((Dict.get artifact "mime_type").inStrings mimeTypes) .other
  ensure known (.store "artifact_invalid")
  let mimeType := (Dict.get artifact "mime_type").asStr?.getD ""
  ensure (hasPlainFilename artifact) (.store "artifact_invalid")
  let sizeBytes ← orRaise (Dict.get artifact "size_bytes").asInt? (.store "artifact_invalid")
  ensure (1 ≤ sizeBytes) (.store "artifact_invalid")
  let w' := w.insertArtifact (newArtifact jobId artifactId digest mimeType sizeBytes)
  let row ← orRaise (w'.artifacts.get? (jobId, artifactId)) (.store "artifact_state_invalid")
  ensure (row.sha256 = digest ∧ row.mimeType = mimeType ∧ row.sizeBytes = sizeBytes)
    (.store "artifact_idempotency_conflict")
  return (w', row)

/-- `mark_artifact`. -/
def markArtifact (key : String × String) (state : DeliveryState) (errorCode : Option String) :
    OutboundWorld :=
  { w with
    artifacts := w.artifacts.update key (fun r => { r with state, errorCode }) (by intro _; rfl) }

/-- `mark_artifact_fallback`. -/
def markArtifactFallback (key : String × String) (fallbackState : DeliveryState)
    (fallbackErrorCode : Option String) : OutboundWorld :=
  { w with
    artifacts := w.artifacts.update key (fun r => { r with fallbackState, fallbackErrorCode })
      (by intro _; rfl) }

end OutboundWorld

/-- `stage_outbound_artifact`: the checks of the content. -/
def stageOutboundArtifact (artifact : Dict) (content : List UInt8) : Except DeliveryRaise Unit := do
  let mime := Dict.get artifact "mime_type"
  ensure (mime.inStrings mimeTypes = some true) (.store "artifact_content_invalid")
  ensure (mime.eqStr "image/png" → [0x89, 0x50, 0x4e, 0x47, 0x0d, 0x0a, 0x1a, 0x0a] <+: content)
    (.store "artifact_content_invalid")
  ensure (mime.eqStr "application/zip" →
      [0x50, 0x4b, 0x03, 0x04] <+: content ∨ [0x50, 0x4b, 0x05, 0x06] <+: content ∨
        [0x50, 0x4b, 0x07, 0x08] <+: content)
    (.store "artifact_content_invalid")
  ensure ((Dict.get artifact "size_bytes").eqInt content.length) (.store "artifact_size_invalid")
  ensure ((Dict.get artifact "sha256").eqStr ("sha256:" ++ String.ofList (sha256Chars content)))
    (.store "artifact_digest_invalid")

/-! ## Text -/

/-- The end of the first chunk: after the last line break or full stop in the second half of what
    fits, else where nothing more fits. -/
def boundary (limit : ℕ) (text : List Char) : ℕ :=
  let fits := text.take (limit + 1)
  match fits.reverse.findIdx? fun c => c = '\n' ∨ c = '。' with
  | some i =>
    let last := fits.length - 1 - i
    if last < limit / 2 then limit else last + 1
  | none => limit

/-- `split_text`, with as many rounds as the text has characters at most. -/
def splitChars (limit : ℕ) : ℕ → List Char → List (List Char)
  | 0, _ => []
  | rounds + 1, text =>
    if text.length ≤ limit then [text]
    else text.take (boundary limit text) ::
      (if text.drop (boundary limit text) = [] then []
        else splitChars limit rounds (text.drop (boundary limit text)))

/-- `split_text`. -/
def splitText (text : String) (limit : ℕ) : List String :=
  (splitChars limit (text.length + 1) text.toList).map String.ofList

/-- `with_thread_short`. -/
def withThreadShort (text : String) (threadShort : Json) : String :=
  match threadShort.asStr? with
  | some short =>
    if isTagged "TH-" 10 isBase32 short then
      let marker := "Thread：" ++ short
      if marker.toList <:+: text.toList then text
      else String.ofList (text.toList.reverse.dropWhile isPySpace).reverse ++ "\n\n" ++ marker
    else text
  | none => text

/-! ## `_send_text_locked` -/

abbrev Outbound := EStateM DeliveryRaise OutboundWorld

namespace Outbound

/-- A pure step that may raise. -/
def lift {α : Type} (x : Except DeliveryRaise α) : Outbound α := fun w =>
  match x with
  | .ok a => .ok a w
  | .error e => .error e w

def log (event : OutboundEvent) : Outbound Unit :=
  modify fun w => { w with log := w.log ++ [event] }

variable (cfg : DeliveryConfig) (a : Attempt)

/-- `api_post`. -/
def apiPost (request : OutboundRequest) : Outbound Dict := do
  log (.posted request (a.post request))
  lift (a.post request).result

/-- `_send_text_with_context_fallback_locked`; `context` is what is left of the context token. -/
def sendTextWithContextFallbackLocked (index : ℕ) (text : String) (context : Bool) :
    Outbound (Dict × Bool) := do
  lift (ensure (strip text ≠ "") (.protocol "empty_message" false false))
  let response ← apiPost a (.text a.jobId index context)
  if context && isStaleContextResponse response then
    let response ← apiPost a (.text a.jobId index false)
    return (response, false)
  else return (response, context)

/-- The rounds of `_send_text_locked` from the chunk `index` on. -/
def sendChunks (index : ℕ) (context : Bool) : List String → Outbound Unit
  | [] => return ()
  | chunk :: chunks => do
    lift (ensure (a.expiredAt index = false) (.store "session_expired"))
    let prepared ← modifyGet fun w =>
      ((w.prepareChunk a.jobId index).2, (w.prepareChunk a.jobId index).1)
    let (_, alreadySent) ← lift prepared
    if alreadySent then sendChunks (index + 1) context chunks
    else
      let (response, context) ← sendTextWithContextFallbackLocked a index chunk context
      lift (ensure (hasCode response sessionExpiredErrcode = false) (.store "session_expired"))
      if ← lift (isAccepted response) then
        modify fun w => w.markChunk a.jobId index .sent none
        sendChunks (index + 1) context chunks
      else
        let code := if hasCode response rateLimitErrcode then "send_rate_limited" else "send_failed"
        modify fun w => w.markChunk a.jobId index .failed (some code)
        throw (.protocol code (code = "send_rate_limited") false)

/-- `_send_text_locked`. -/
def sendTextLocked (text : String) : Outbound Unit :=
  sendChunks a 0 (a.context.any (· ≠ ""))
    (splitText (withThreadShort text (Dict.get a.job "thread_short")) 4000)

/-- `_send_result`. -/
def sendResult (text : String) : Outbound (Option String) := do
  lift (ensure (a.expired = false) (.store "session_expired"))
  match a.suppression with
  | some suppression => return some suppression
  | none =>
    sendTextLocked a text
    return none

/-! ## `send_media` -/

/-- `send_media` up to the final request: the upload of the content. -/
def uploadMedia (key : String × String) (clientId : String) (content : List UInt8) :
    Outbound Unit := do
  lift (ensure (isClientId clientId) (.protocol "client_id_invalid" false false))
  lift (ensure (content ≠ [] ∧ content.length ≤ cfg.maxMediaBytes)
    (.protocol "media_too_large" false false))
  let response ← apiPost a (.uploadUrl key)
  lift (ensure (hasUploadUrl response) (.protocol "media_upload_failed" false false))
  lift (match a.cdn key.2 with
    | .accepted => .ok ()
    | .rejected => .error (.protocol "media_url_rejected" false false)
    | .raised => .error .other)
  log (.uploaded key (a.upload key.2))
  lift (match a.upload key.2 with
    | .transport => .error .other
    | .answered status encryptedParam => do
      ensure (status = 200) (.protocol "media_upload_failed" (500 ≤ status) false)
      ensure (encryptedParam.any (· ≠ "")) (.protocol "media_upload_failed" false false))

/-- `send_media`. -/
def sendMedia (key : String × String) (clientId : String) (content : List UInt8) :
    Outbound Unit := do
  uploadMedia cfg a key clientId content
  log (.posted (.media key) (a.post (.media key)))
  lift (mediaVerdict (a.post (.media key)))

/-! ## The fallback link -/

/-- `_artifact_fallback_url`. -/
def artifactFallbackUrl (artifact : Dict) : Except String String := do
  ensure (cfg.controllerIngressBaseUrl ≠ "") "artifact_fallback_unconfigured"
  let path ← orRaise (Dict.get artifact "fallback_path").asStr? "artifact_fallback_invalid"
  ensure (isTagged "/downloads/artifacts/" 43 (fun c => c.isAlphanum || c = '_' || c = '-') path)
    "artifact_fallback_invalid"
  return cfg.controllerIngressBaseUrl ++ path

/-- `_send_artifact_fallback_locked`. -/
def sendArtifactFallbackLocked (artifact : Dict) (state : ArtifactRow) :
    Outbound (Option String) := do
  if state.fallbackState = .sent then return none
  else
    match artifactFallbackUrl cfg artifact with
    | .error code =>
      modify fun w => w.markArtifactFallback state.key .failed (some code)
      return some code
    | .ok _ =>
      let response ← apiPost a (.fallback state.key)
      lift (ensure (hasCode response sessionExpiredErrcode = false) (.store "session_expired"))
      if ← lift (isAccepted response) then
        modify fun w => { w.markArtifactFallback state.key .sent none with
          log := w.log ++ [.fallbackSent state.key] }
        return none
      else
        let code := if hasCode response rateLimitErrcode then "send_rate_limited" else "send_failed"
        modify fun w => w.markArtifactFallback state.key .failed (some code)
        throw (.protocol code (code = "send_rate_limited") false)

/-! ## `_send_completed_job` -/

/-- An artifact that was prepared; the content is there when it was staged. -/
structure Prepared where
  artifact : Dict
  state : ArtifactRow
  path : Option (List UInt8)

def prepareArtifact (artifact : Dict) : Outbound ArtifactRow := do
  let w ← get
  let (w', row) ← lift (w.prepareArtifact a.jobId artifact)
  set w'
  return row

/-- One round of the loop that prepares the artifacts. -/
def prepare (artifact : Dict) : Outbound Prepared := do
  let state ← prepareArtifact a artifact
  if state.state = .pending then
    match a.fetch state.artifactId with
    | .broke => throw .other
    | .refused code =>
      modify fun w => w.markArtifact state.key .failed (some code)
      return ⟨artifact, ← prepareArtifact a artifact, none⟩
    | .content bytes =>
      match stageOutboundArtifact artifact bytes with
      | .ok _ => return ⟨artifact, state, some bytes⟩
      | .error (.store code) =>
        modify fun w => w.markArtifact state.key .failed (some code)
        return ⟨artifact, ← prepareArtifact a artifact, none⟩
      | .error e => throw e
  else return ⟨artifact, state, none⟩

/-- The code with which a failed media send is recorded. -/
def mediaErrorCode (code : String) (deliveryUnknown : Bool) : String :=
  if deliveryUnknown then "delivery_state_unknown" else code

/-- One round of the loop of `_send_artifact_result_locked` for an artifact that is pending: it was
    sent, or the row says how it failed. -/
def sendPending (item : Prepared) : Outbound (Option ArtifactRow) := do
  match item.path with
  | none =>
    modify fun w => w.markArtifact item.state.key .failed (some "artifact_prefetch_missing")
    return some (← prepareArtifact a item.artifact)
  | some content =>
    let failed ← tryCatch (do
        sendMedia cfg a item.state.key item.state.clientId content
        return none)
      fun
        | .protocol code _ deliveryUnknown =>
          if code = "session_expired" then throw (.store "session_expired")
          else return some (mediaErrorCode code deliveryUnknown)
        | e => throw e
    match failed with
    | none =>
      modify fun w => w.markArtifact item.state.key .sent none
      return none
    | some code =>
      modify fun w => w.markArtifact item.state.key .failed (some code)
      return some (← prepareArtifact a item.artifact)

/-- What is left to do for an artifact: its row, unless it was sent. -/
def sendItem (item : Prepared) : Outbound (Option ArtifactRow) := do
  match item.state.state with
  | .sent => return none
  | .failed => return some item.state
  | .pending => sendPending cfg a item

/-- The loop of `_send_artifact_result_locked`. -/
def sendItems : List Prepared → Outbound (Option String)
  | [] => return none
  | item :: items => do
    match ← sendItem cfg a item with
    | none => sendItems items
    | some state =>
      match ← sendArtifactFallbackLocked cfg a item.artifact state with
      | some fallbackError => return some fallbackError
      | none => sendItems items

/-- `_send_artifact_result_locked`. -/
def sendArtifactResultLocked (summary : String) (prepared : List Prepared) :
    Outbound (Option String) := do
  lift (ensure (a.expired = false) (.store "session_expired"))
  match a.suppression with
  | some suppression => return some suppression
  | none =>
    sendTextLocked a summary
    sendItems cfg a prepared

/-- The checks of `result_summary`. -/
def resultSummary (job : Dict) : Except DeliveryRaise String := do
  let summary ← orRaise (Dict.get job "result_summary").asStr? (.store "artifact_summary_invalid")
  ensure (1 ≤ summary.length ∧ summary.length ≤ 500) (.store "artifact_summary_invalid")
  ensure (¬ summary.toList.contains '\n' ∧ ¬ summary.toList.contains '\r')
    (.store "artifact_summary_invalid")
  return summary

/-- The result of a job without artifacts. -/
def resultText (job : Dict) : String :=
  let result := Dict.get job "result"
  if isTruthy result then result.asStr?.getD (canonical result) else "任务已完成。"

/-- The preparation of the artifacts of a job, one after the other. -/
def prepareAll : List Json → Outbound (List Prepared)
  | [] => return []
  | artifact :: artifacts => do
    let artifact ← lift (orRaise artifact.asDict? (.store "artifact_invalid"))
    let item ← prepare a artifact
    let items ← prepareAll artifacts
    return item :: items

/-- `_send_completed_job`. -/
def sendCompletedJob : Outbound (Option String) :=
  match Dict.get a.job "artifacts" with
  | .null => sendResult a (resultText a.job)
  | .arr [] => sendResult a (resultText a.job)
  | .arr artifacts => do
    lift (ensure (artifacts.length ≤ 4) (.store "artifact_invalid"))
    let summary ← lift (resultSummary a.job)
    let prepared ← prepareAll a artifacts
    sendArtifactResultLocked cfg a summary prepared
  | _ => throw (.store "artifact_invalid")

/-- One attempt of the delivery loop: it goes on whatever the attempt raises. -/
def deliver (w : OutboundWorld) (a : Attempt) : OutboundWorld :=
  match sendCompletedJob cfg a w with
  | .ok _ w' => w'
  | .error _ w' => w'

/-! ## What is sent again -/

end Outbound

namespace Exchange

/-- iLink answered that the session has expired. -/
def ExpiredSession (x : Exchange) : Prop :=
  ∃ response, x.result = .ok response ∧ hasCode response sessionExpiredErrcode = true

/-- iLink answered that it did not take the message. -/
def Refused (x : Exchange) : Prop :=
  ∃ response, x.result = .ok response ∧
    (hasCode response sessionExpiredErrcode = true ∨ isAccepted response = .ok false)

/-- There is no answer of iLink to go by. -/
def Unknown (x : Exchange) : Prop := ∀ response, x.result ≠ .ok response

theorem ExpiredSession.refused {x : Exchange} (h : x.ExpiredSession) : x.Refused := by
  obtain ⟨response, hresult, hcode⟩ := h
  exact ⟨response, hresult, .inl hcode⟩

variable {x : Exchange}

theorem ExpiredSession.not_unknown (h : x.ExpiredSession) : ¬ x.Unknown := by
  obtain ⟨response, hresult, -⟩ := h
  exact fun hunknown => hunknown response hresult

/-- `api_post` raises a `ProtocolError` of its own, unless the transport fails. -/
theorem result_eq_error {e : DeliveryRaise} (h : x.result = .error e) :
    e = .other ∨
      ∃ code retryable, e = .protocol code retryable false ∧ code ≠ "session_expired" := by
  cases x with
  | timeout =>
    cases h
    exact .inr ⟨_, _, rfl, by decide⟩
  | transport =>
    cases h
    exact .inl rfl
  | answered status size body =>
    simp only [result, bind_eq_error, ensure_eq_error, orRaise_eq_error] at h
    obtain ⟨-, rfl⟩ | ⟨_, -, ⟨-, rfl⟩ | ⟨_, -, ⟨-, rfl⟩ | ⟨_, -, -, rfl⟩⟩⟩ := h
    · exact .inr ⟨_, _, rfl, by decide⟩
    · exact .inr ⟨_, _, rfl, by decide⟩
    · exact .inr ⟨_, _, rfl, by decide⟩
    · exact .inr ⟨_, _, rfl, by decide⟩

end Exchange

variable {e : DeliveryRaise}

/-- A response that cannot be compared raises a `TypeError`. -/
theorem isAccepted_error {response : Dict} (h : isAccepted response = .error e) : e = .other := by
  unfold isAccepted at h
  rw [bind_eq_error] at h
  obtain h | ⟨zero, -, h⟩ := h
  · exact (orRaise_eq_error.mp h).2.symm
  · split_ifs at h
    · exact (orRaise_eq_error.mp h).2.symm
    · cases h

/-- Only an answer of iLink makes `send_media` say that the session has expired, and it raises no
    `StoreError`. -/
theorem mediaVerdict_eq_error {x : Exchange} (h : mediaVerdict x = .error e) :
    e = .other ∨ ∃ code retryable deliveryUnknown, e = .protocol code retryable deliveryUnknown ∧
      (code = "session_expired" → x.ExpiredSession) := by
  unfold mediaVerdict at h
  cases hresult : x.result with
  | error e' =>
    rw [hresult] at h
    obtain rfl | ⟨code, retryable, rfl, hcode⟩ := Exchange.result_eq_error hresult
    · cases h
      exact .inl rfl
    · cases h
      exact .inr ⟨code, retryable, true, rfl, fun hc => absurd hc hcode⟩
  | ok response =>
    rw [hresult] at h
    by_cases hcode : hasCode response sessionExpiredErrcode = true
    · simp only [hcode, if_true, Except.error.injEq] at h
      exact .inr ⟨_, _, _, h.symm, fun _ => ⟨response, hresult, hcode⟩⟩
    · dsimp only at h
      rw [if_neg hcode, bind_eq_error] at h
      obtain h | ⟨ok, -, h⟩ := h
      · exact .inl (isAccepted_error h)
      · exact .inr ⟨_, _, _, (ensure_eq_error.mp h).2.symm, fun hc => absurd hc (by decide)⟩

/-- The event is part of an attempt to send the artifact itself. -/
def OutboundEvent.Sends (key : String × String) : OutboundEvent → Prop
  | .posted (.uploadUrl k) _ => k = key
  | .posted (.media k) _ => k = key
  | .uploaded k _ => k = key
  | _ => False

/-- The final request for an artifact is repeated only when every earlier one was refused. -/
def SendsAfterRefusals (before : List OutboundEvent) (e : OutboundEvent) : Prop :=
  ∀ key x, e = .posted (.media key) x → ∀ x', .posted (.media key) x' ∈ before → x'.Refused

/-- After an unknown delivery, the artifact itself is not sent. -/
def OnlyFallback (before : List OutboundEvent) (e : OutboundEvent) : Prop :=
  ∀ key, e.Sends key → ∀ x, .posted (.media key) x ∈ before → ¬ x.Unknown

/-- A fallback link is reported as sent once. -/
def ReportsOnce (before : List OutboundEvent) (e : OutboundEvent) : Prop :=
  ∀ key, e = .fallbackSent key → .fallbackSent key ∉ before

/-- What holds between two attempts, and within one but for the artifact in `flight`, whose final
    request was issued and whose row is not yet marked. -/
structure Settled (flight : Option (String × String)) (w : OutboundWorld) : Prop where
  sends : Always SendsAfterRefusals w.log
  unknown : Always OnlyFallback w.log
  reports : Always ReportsOnce w.log
  media : ∀ key x, .posted (.media key) x ∈ w.log → x.ExpiredSession ∨ flight = some key ∨
    ∃ row, w.artifacts.get? key = some row ∧ row.state ≠ .pending
  links : ∀ key, .fallbackSent key ∈ w.log →
    ∃ row, w.artifacts.get? key = some row ∧ row.fallbackState = .sent

namespace Settled

variable {flight : Option (String × String)} {w : OutboundWorld} {key : String × String}

variable {row : ArtifactRow}

/-- An artifact whose row is pending was sent only into expired sessions. -/
theorem expiredSession (h : Settled none w) (hrow : w.artifacts.get? key = some row)
    (hpending : row.state = .pending) {x : Exchange} (hx : .posted (.media key) x ∈ w.log) :
    x.ExpiredSession := by
  obtain hexpired | hflight | ⟨row', hrow', hne⟩ := h.media key x hx
  · exact hexpired
  · cases hflight
  · rw [hrow] at hrow'
    cases hrow'
    exact absurd hpending hne

theorem mono (h : Settled none w) : Settled flight w :=
  { h with
    media := fun key x hx =>
      (h.media key x hx).imp_right fun hr => .inr (hr.resolve_left nofun) }

/-- An event that is no final request and no report. -/
theorem note (h : Settled flight w) {e : OutboundEvent}
    (hmedia : ∀ key x, e ≠ .posted (.media key) x) (hreport : ∀ key, e ≠ .fallbackSent key)
    (hsends : ∀ key, e.Sends key → ∀ x, .posted (.media key) x ∈ w.log → x.ExpiredSession) :
    Settled flight { w with log := w.log ++ [e] } where
  sends := always_snoc.mpr ⟨h.sends, fun key x he => absurd he (hmedia key x)⟩
  unknown := always_snoc.mpr ⟨h.unknown, fun key hs x hx => (hsends key hs x hx).not_unknown⟩
  reports := always_snoc.mpr ⟨h.reports, fun key he => absurd he (hreport key)⟩
  media key x hx := by
    obtain hx | hx := List.mem_append.mp hx
    · exact h.media key x hx
    · exact absurd (List.mem_singleton.mp hx).symm (hmedia key x)
  links key hl := by
    obtain hl | hl := List.mem_append.mp hl
    · exact h.links key hl
    · exact absurd (List.mem_singleton.mp hl).symm (hreport key)

/-- The final request of an artifact whose row is pending. -/
theorem post (h : Settled none w) (hrow : w.artifacts.get? key = some row)
    (hpending : row.state = .pending) (x : Exchange)
    (hflight : flight = some key ∨ x.ExpiredSession) :
    Settled flight { w with log := w.log ++ [.posted (.media key) x] } where
  sends := by
    refine always_snoc.mpr ⟨h.sends, fun key' x' he x'' hx => ?_⟩
    cases he
    exact (h.expiredSession hrow hpending hx).refused
  unknown := by
    refine always_snoc.mpr ⟨h.unknown, fun key' hs x' hx => ?_⟩
    obtain rfl : key = key' := hs
    exact (h.expiredSession hrow hpending hx).not_unknown
  reports := always_snoc.mpr ⟨h.reports, fun _ he => nomatch he⟩
  media key' x' hx := by
    obtain hx | hx := List.mem_append.mp hx
    · exact (h.mono.media key' x' hx)
    · cases List.mem_singleton.mp hx
      exact hflight.symm.imp_right .inl
  links key' hl := by
    obtain hl | hl := List.mem_append.mp hl
    · exact h.links key' hl
    · cases List.mem_singleton.mp hl

/-- Rows are inserted and rewritten: none becomes pending again or loses its link. -/
theorem rows (h : Settled flight w) {artifacts : Table ArtifactRow.key}
    (hrows : ∀ key row, w.artifacts.get? key = some row → ∃ row', artifacts.get? key = some row' ∧
      (row.state ≠ .pending → row'.state ≠ .pending) ∧
      (row.fallbackState = .sent → row'.fallbackState = .sent)) :
    Settled flight { w with artifacts } :=
  { h with
    media := fun key x hx => by
      refine (h.media key x hx).imp_right (Or.imp_right ?_)
      rintro ⟨row, hrow, hne⟩
      obtain ⟨row', hrow', hstate, -⟩ := hrows key row hrow
      exact ⟨row', hrow', hstate hne⟩
    links := fun key hl => by
      obtain ⟨row, hrow, hsent⟩ := h.links key hl
      obtain ⟨row', hrow', -, hlink⟩ := hrows key row hrow
      exact ⟨row', hrow', hlink hsent⟩ }

/-- The artifact in flight is marked. -/
theorem land (h : Settled (some key) w) (hrow : w.artifacts.get? key = some row)
    (hne : row.state ≠ .pending) : Settled none w :=
  { h with
    media := fun key' x hx => by
      obtain hexpired | hflight | hr := h.media key' x hx
      · exact .inl hexpired
      · cases hflight
        exact .inr (.inr ⟨row, hrow, hne⟩)
      · exact .inr (.inr hr) }

/-- A link is reported as sent, and its row says so. -/
theorem report (h : Settled flight w) (hrow : w.artifacts.get? key = some row)
    (hnew : .fallbackSent key ∉ w.log) (hsent : row.fallbackState = .sent) :
    Settled flight { w with log := w.log ++ [.fallbackSent key] } where
  sends := always_snoc.mpr ⟨h.sends, fun _ _ he => nomatch he⟩
  unknown := always_snoc.mpr ⟨h.unknown, fun _ hs => hs.elim⟩
  reports := by
    refine always_snoc.mpr ⟨h.reports, fun key' he => ?_⟩
    cases he
    exact hnew
  media key' x hx := by
    obtain hx | hx := List.mem_append.mp hx
    · exact h.media key' x hx
    · cases List.mem_singleton.mp hx
  links key' hl := by
    obtain hl | hl := List.mem_append.mp hl
    · exact h.links key' hl
    · cases List.mem_singleton.mp hl
      exact ⟨row, hrow, hsent⟩

end Settled

namespace Outbound

/-! ## Every branch keeps it -/

/-- The rows of the artifacts that are still to be sent are as they were prepared. -/
structure Ready (flight : Option (String × String)) (items : List Prepared) (w : OutboundWorld) :
    Prop where
  settled : Settled flight w
  rows : ∀ item ∈ items, w.artifacts.get? item.state.key = some item.state

section Branches

variable {α : Type} {cfg : DeliveryConfig} {a : Attempt} {P Q : OutboundWorld → Prop}
  {items : List Prepared} {key : String × String}

theorem lift_exits (x : Except DeliveryRaise α) :
    Exits P (lift x) (fun b w => P w ∧ x = .ok b) fun e w => P w ∧ x = .error e := by
  intro w hw
  unfold lift
  cases x with
  | ok b => exact ⟨hw, rfl⟩
  | error e => exact ⟨hw, rfl⟩

/-- A check leaves the state alone. -/
theorem check_exits (x : Except DeliveryRaise α) : Exits P (lift x) (fun _ => P) fun _ => P :=
  (lift_exits x).conseq (fun _ hw => hw) (fun _ _ hw => hw.1) fun _ _ he => he.1

theorem apiPost_exits {request : OutboundRequest}
    (hlog : ∀ w, P w → Q { w with log := w.log ++ [.posted request (a.post request)] }) :
    Exits P (apiPost a request) (fun _ => Q) fun _ => Q :=
  (Exits.modify hlog).bind fun _ => check_exits _

/-- What sending text leaves alone. -/
structure TextStable (P : OutboundWorld → Prop) : Prop where
  chunks : ∀ w chunks, P w → P { w with chunks }
  text : ∀ w jobId index withContext x, P w →
    P { w with log := w.log ++ [.posted (.text jobId index withContext) x] }

namespace TextStable

theorem sendTextWithContextFallbackLocked (h : TextStable P) (index : ℕ) (text : String)
    (context : Bool) : Exits P (sendTextWithContextFallbackLocked a index text context)
      (fun _ => P) fun _ => P := by
  refine (check_exits _).bind fun _ => ?_
  refine (apiPost_exits (Q := P) fun w hw => h.text _ _ _ _ _ hw).bind fun response =>
    Exits.ite (fun _ => ?_) fun _ => Exits.pure fun _ hw => hw
  exact (apiPost_exits fun w hw => h.text _ _ _ _ _ hw).bind fun _ => Exits.pure fun _ hw => hw

/-- The chunks are sent one after the other. -/
theorem sendChunks (h : TextStable P) (chunks : List String) (index : ℕ) (context : Bool) :
    Exits P (sendChunks a index context chunks) (fun _ => P) fun _ => P := by
  induction chunks generalizing index context with
  | nil => exact Exits.pure fun _ hw => hw
  | cons chunk chunks ih =>
    refine (check_exits _).bind fun _ => ?_
    refine Exits.bind (R := fun _ => P) (fun w hw => h.chunks w _ hw) fun prepared => ?_
    refine (check_exits prepared).bind fun sent => Exits.ite (fun _ => ih _ _) fun _ => ?_
    refine (h.sendTextWithContextFallbackLocked _ _ _).bind fun response => ?_
    refine (check_exits _).bind fun _ => (check_exits _).bind fun ok =>
      Exits.ite (fun _ => ?_) fun _ => ?_
    · exact (Exits.modify fun w hw => h.chunks w _ hw).bind fun _ => ih _ _
    · exact (Exits.modify fun w hw => h.chunks w _ hw).bind fun _ => Exits.throw fun w hw => hw

theorem sendTextLocked (h : TextStable P) (text : String) :
    Exits P (sendTextLocked a text) (fun _ => P) fun _ => P := h.sendChunks _ _ _

theorem sendResult (h : TextStable P) (text : String) :
    Exits P (sendResult a text) (fun _ => P) fun _ => P := by
  refine (check_exits _).bind fun _ => ?_
  cases a.suppression with
  | some suppression => exact Exits.pure fun _ hw => hw
  | none => exact (h.sendTextLocked text).bind fun _ => Exits.pure fun _ hw => hw

end TextStable

theorem Ready.textStable : TextStable (Ready none items) where
  chunks _ _ hw := ⟨{ hw.settled with }, hw.rows⟩
  text _ _ _ _ _ hw := ⟨hw.settled.note nofun nofun nofun, hw.rows⟩

/-- Nothing is in flight, and the row of one artifact is known. -/
def Holding (flight : Option (String × String)) (items : List Prepared) (row : ArtifactRow)
    (w : OutboundWorld) : Prop :=
  Ready flight items w ∧ w.artifacts.get? row.key = some row

variable {row : ArtifactRow} {flight : Option (String × String)} {w : OutboundWorld}
  {item : Prepared}

/-- The content is uploaded: the artifact has not been sent but into expired sessions. -/
theorem uploadMedia_exits (hpending : row.state = .pending) (clientId : String)
    (content : List UInt8) :
    Exits (Holding none items row) (uploadMedia cfg a row.key clientId content)
      (fun _ => Holding none items row) fun _ => Holding none items row := by
  -- an event of the upload is allowed while the row is pending
  have hnote : ∀ e : OutboundEvent, (∀ key x, e ≠ .posted (.media key) x) →
      (∀ key, e ≠ .fallbackSent key) → (∀ k, e.Sends k → k = row.key) → ∀ w,
      Holding none items row w → Holding none items row { w with log := w.log ++ [e] } := by
    intro e hmedia hreport hsends w hw
    refine ⟨⟨hw.1.settled.note hmedia hreport fun k hk x hx => ?_, hw.1.rows⟩, hw.2⟩
    rw [hsends k hk] at hx
    exact hw.1.settled.expiredSession hw.2 hpending hx
  refine (check_exits _).bind fun _ => (check_exits _).bind fun _ => ?_
  refine (apiPost_exits (hnote (.posted (.uploadUrl row.key) _) nofun nofun
    fun k hk => Eq.symm hk)).bind fun _ => ?_
  refine (check_exits _).bind fun _ => (check_exits _).bind fun _ => ?_
  exact (Exits.modify (hnote (.uploaded row.key _) nofun nofun fun k hk => Eq.symm hk)).bind
    fun _ => check_exits _

/-- What a failed `send_media` leaves: the final request may have been issued, unless the session
    has expired. -/
def AfterMedia (items : List Prepared) (row : ArtifactRow) (e : DeliveryRaise)
    (w : OutboundWorld) : Prop :=
  Holding (some row.key) items row w ∧
    ((∀ code retryable deliveryUnknown, e = .protocol code retryable deliveryUnknown →
      code = "session_expired") → Settled none w)

theorem sendMedia_exits (hpending : row.state = .pending)
    (hdecided : mediaVerdict (a.post (.media row.key)) ≠ .error .other) (clientId : String)
    (content : List UInt8) :
    Exits (Holding none items row) (sendMedia cfg a row.key clientId content)
      (fun _ => Holding (some row.key) items row) (AfterMedia items row) := by
  refine Exits.bind (R := fun _ => Holding none items row)
    ((uploadMedia_exits hpending clientId content).conseq (fun _ hw => hw) (fun _ _ hw => hw)
      fun _ w hw => ⟨⟨⟨hw.1.settled.mono, hw.1.rows⟩, hw.2⟩, fun _ => hw.1.settled⟩) fun _ => ?_
  refine Exits.bind (R := fun _ w => Holding (some row.key) items row w ∧
      ((a.post (.media row.key)).ExpiredSession → Settled none w))
    (Exits.modify fun w hw => ?_) fun _ => ?_
  · exact ⟨⟨⟨hw.1.settled.post hw.2 hpending _ (.inl rfl), hw.1.rows⟩, hw.2⟩,
      fun hexpired => hw.1.settled.post hw.2 hpending _ (.inr hexpired)⟩
  · refine (lift_exits _).conseq (fun _ hw => hw) (fun _ w hw => hw.1.1) fun e w hw => ?_
    refine ⟨hw.1.1, fun hcode => hw.1.2 ?_⟩
    obtain rfl | ⟨code, retryable, deliveryUnknown, rfl, hexpired⟩ := mediaVerdict_eq_error hw.2
    · exact absurd hw.2 hdecided
    · exact hexpired (hcode _ _ _ rfl)

/-- The rows of the other artifacts stay when one row is rewritten. -/
theorem Ready.update (hw : Ready flight items w)
    (hfresh : ∀ item ∈ items, item.state.key ≠ row.key) {f : ArtifactRow → ArtifactRow}
    (hf : ∀ r, (f r).key = r.key) (hrow : w.artifacts.get? row.key = some row)
    (hstate : row.state ≠ .pending → (f row).state ≠ .pending)
    (hlink : row.fallbackState = .sent → (f row).fallbackState = .sent) :
    Ready flight items { w with artifacts := w.artifacts.update row.key f hf } := by
  refine ⟨hw.settled.rows fun key row' hrow' => ?_, fun item hitem => ?_⟩
  · by_cases hkey : key = row.key
    · subst hkey
      rw [hrow] at hrow'
      cases hrow'
      exact ⟨f row, Table.get?_update_of_get? hrow f hf, hstate, hlink⟩
    · exact ⟨row', (Table.get?_update_of_ne _ hkey f hf).trans hrow', id, id⟩
  · exact (Table.get?_update_of_ne _ (hfresh item hitem) f hf).trans (hw.rows item hitem)

/-- `mark_artifact`, also of the artifact in flight. -/
theorem Holding.mark (hw : Holding flight items row w)
    (hflight : flight = none ∨ flight = some row.key)
    (hfresh : ∀ item ∈ items, item.state.key ≠ row.key) (state : DeliveryState)
    (hstate : state ≠ .pending) (errorCode : Option String) :
    Holding none items { row with state, errorCode }
      (w.markArtifact row.key state errorCode) := by
  have hready := hw.1.update hfresh (f := fun r => { r with state, errorCode }) (by intro _; rfl)
    hw.2 (fun _ => hstate) id
  have hrow := Table.get?_update_of_get? hw.2 (fun r => { r with state, errorCode })
    (by intro _; rfl)
  refine ⟨⟨?_, hready.rows⟩, hrow⟩
  obtain rfl | rfl := hflight
  · exact hready.settled
  · exact hready.settled.land hrow hstate

/-- An insertion keeps every row. -/
theorem insertArtifact_get? {key : String × String} {row' : ArtifactRow}
    (h : w.artifacts.get? key = some row') :
    (w.insertArtifact row).artifacts.get? key = some row' := by
  unfold OutboundWorld.insertArtifact
  split_ifs
  · exact h
  · cases hinsert : w.artifacts.insert? row with
    | none => exact h
    | some artifacts => exact Table.get?_insert?_of_get? hinsert h

theorem insertArtifact_eq (w : OutboundWorld) (row : ArtifactRow) :
    w.insertArtifact row = { w with artifacts := (w.insertArtifact row).artifacts } := by
  unfold OutboundWorld.insertArtifact
  split_ifs
  · rfl
  · cases w.artifacts.insert? row <;> rfl

theorem prepareArtifact_ok {w' : OutboundWorld} {jobId : String} {artifact : Dict}
    (h : w.prepareArtifact jobId artifact = .ok (w', row)) :
    (∃ row₀, w' = w.insertArtifact row₀) ∧ w'.artifacts.get? row.key = some row ∧
      row.jobId = jobId ∧ (Dict.get artifact "artifact_id").asStr? = some row.artifactId := by
  simp only [OutboundWorld.prepareArtifact, bind_eq_ok, ensure_eq_ok, orRaise_eq_ok, pure_eq_ok,
    Prod.mk.injEq] at h
  obtain ⟨_, -, artifactId, hid, _, -, digest, -, _, -, known, -, _, -, _, -, size, -, _, -, row',
    hrow, _, -, rfl, rfl⟩ := h
  have hkey : row'.key = (jobId, artifactId) := Table.key_of_get? hrow
  obtain ⟨hjob, rfl⟩ : row'.jobId = jobId ∧ row'.artifactId = artifactId := Prod.mk.inj hkey
  exact ⟨⟨_, rfl⟩, hkey ▸ hrow, hjob, hid⟩

/-- The item was prepared from its artifact in this attempt. -/
def Prepared.Of (a : Attempt) (item : Prepared) : Prop :=
  item.state.jobId = a.jobId ∧
    (Dict.get item.artifact "artifact_id").asStr? = some item.state.artifactId

theorem prepareArtifact_exits (artifact : Dict) :
    Exits (Ready none items) (prepareArtifact a artifact)
      (fun row w => Holding none items row w ∧ row.jobId = a.jobId ∧
        (Dict.get artifact "artifact_id").asStr? = some row.artifactId)
      fun _ => Ready none items := by
  refine Exits.get_bind fun w hw => ?_
  refine ((lift_exits _).conseq (fun _ hs => hs) (fun _ _ hs => hs) fun _ s hs => ?_).bind
    fun result => ?_
  · rw [hs.1]
    exact hw
  · rintro s ⟨rfl, hok⟩
    obtain ⟨⟨row₀, hw'⟩, hrow, hjob, hid⟩ := prepareArtifact_ok hok
    refine ⟨⟨⟨?_, fun item hitem => ?_⟩, hrow⟩, hjob, hid⟩
    · rw [hw', insertArtifact_eq]
      exact hw.settled.rows fun key row hrow => ⟨row, insertArtifact_get? hrow, id, id⟩
    · rw [hw']
      exact insertArtifact_get? (hw.rows item hitem)

theorem sendPending_exits (hitem : item.Of a) (hpending : item.state.state = .pending)
    (hfresh : ∀ other ∈ items, other.state.key ≠ item.state.key)
    (hdecided : mediaVerdict (a.post (.media item.state.key)) ≠ .error .other) :
    Exits (Holding none items item.state) (sendPending cfg a item)
      (fun left w => Ready none items w ∧ ∀ row, left = some row →
        w.artifacts.get? row.key = some row ∧ row.key = item.state.key)
      fun _ => Settled none := by
  -- the row is marked as failed and read again
  have hagain : ∀ (code : String) (flight : Option (String × String)),
      flight = none ∨ flight = some item.state.key →
      Exits (Holding flight items item.state)
        (do
          modify fun w => w.markArtifact item.state.key .failed (some code)
          return some (← prepareArtifact a item.artifact))
        (fun left w => Ready none items w ∧ ∀ row, left = some row →
          w.artifacts.get? row.key = some row ∧ row.key = item.state.key)
        fun _ => Settled none := by
    intro code flight hflight
    refine (Exits.modify fun w hw => (hw.mark hflight hfresh .failed (by decide)
      (some code)).1).bind fun _ => ?_
    refine ((prepareArtifact_exits item.artifact).conseq (fun _ hw => hw) (fun _ _ hw => hw)
      fun _ w hw => hw.settled).bind fun row => Exits.pure fun w hw => ⟨hw.1.1, fun row' hrow' => ?_⟩
    cases hrow'
    obtain ⟨hholding, hjob, hid⟩ := hw
    refine ⟨hholding.2, Prod.ext (hjob.trans hitem.1.symm) ?_⟩
    exact Option.some.inj (hid.symm.trans hitem.2)
  unfold sendPending
  cases item.path with
  | none => exact hagain _ none (.inl rfl)
  | some content =>
    refine Exits.bind (R := fun failed => Holding (some item.state.key) items item.state)
      (Exits.tryCatch ((sendMedia_exits hpending hdecided _ _).bind fun _ => Exits.pure fun _ hw => hw)
        fun e => ?_) fun failed => ?_
    · cases e with
      | protocol code retryable deliveryUnknown =>
        refine Exits.ite (fun hcode => Exits.throw fun w hw => hw.2 ?_) fun _ =>
          Exits.pure fun w hw => hw.1
        intro code' _ _ he
        cases he
        exact hcode
      | store code => exact Exits.throw fun w hw => hw.2 nofun
      | other => exact Exits.throw fun w hw => hw.2 nofun
    · cases failed with
      | none =>
        refine (Exits.modify fun w hw => (hw.mark (.inr rfl) hfresh .sent (by decide)
          none).1).bind fun _ => Exits.pure fun w hw => ⟨hw, nofun⟩
      | some code => exact hagain code _ (.inr rfl)

theorem sendItem_exits (hitem : item.Of a)
    (hfresh : ∀ other ∈ items, other.state.key ≠ item.state.key)
    (hdecided : mediaVerdict (a.post (.media item.state.key)) ≠ .error .other) :
    Exits (Holding none items item.state) (sendItem cfg a item)
      (fun left w => Ready none items w ∧ ∀ row, left = some row →
        w.artifacts.get? row.key = some row ∧ row.key = item.state.key)
      fun _ => Settled none := by
  unfold sendItem
  cases hstate : item.state.state with
  | pending => exact sendPending_exits hitem hstate hfresh hdecided
  | sent => exact Exits.pure fun w hw => ⟨hw.1, nofun⟩
  | failed =>
    refine Exits.pure fun w hw => ⟨hw.1, fun row hrow => ?_⟩
    cases hrow
    exact ⟨hw.2, rfl⟩

/-- The link is posted, and its row marked. -/
theorem sendArtifactFallbackLocked_exits (artifact : Dict)
    (hfresh : ∀ item ∈ items, item.state.key ≠ row.key) :
    Exits (Holding none items row) (sendArtifactFallbackLocked cfg a artifact row)
      (fun _ => Ready none items) fun _ => Settled none := by
  refine Exits.ite (fun _ => Exits.pure fun w hw => hw.1) fun hnot => ?_
  have hsettled : ∀ w, Holding none items row w → Settled none w := fun w hw => hw.1.settled
  have hcheck : ∀ {α : Type} (x : Except DeliveryRaise α),
      Exits (Holding none items row) (lift x) (fun _ => Holding none items row)
        fun _ => Settled none := fun x =>
    (check_exits x).conseq (fun _ hw => hw) (fun _ _ hw => hw) fun _ => hsettled
  have hmark : ∀ (state : DeliveryState) (code : Option String) w, Holding none items row w →
      Ready none items (w.markArtifactFallback row.key state code) :=
    fun state code w hw => hw.1.update hfresh (by intro _; rfl) hw.2 id fun h => absurd h hnot
  cases artifactFallbackUrl cfg artifact with
  | error code =>
    exact (Exits.modify (hmark .failed (some code))).bind fun _ => Exits.pure fun _ hw => hw
  | ok url =>
    refine ((apiPost_exits (Q := Holding none items row) fun w hw => ?_).conseq (fun _ hw => hw)
      (fun _ _ hw => hw) fun _ => hsettled).bind fun response => ?_
    · exact ⟨⟨hw.1.settled.note nofun nofun nofun, hw.1.rows⟩, hw.2⟩
    · refine (hcheck _).bind fun _ => (hcheck _).bind fun ok => Exits.ite (fun _ => ?_) fun _ => ?_
      · refine (Exits.modify fun w hw => ?_).bind fun _ => Exits.pure fun _ hw => hw
        have hready := hmark .sent none w hw
        refine ⟨hready.settled.report (Table.get?_update_of_get? hw.2 _ (by intro _; rfl)) ?_ rfl,
          hready.rows⟩
        intro hl
        obtain ⟨row', hrow', hsent⟩ := hw.1.settled.links row.key hl
        rw [hw.2] at hrow'
        cases hrow'
        exact hnot hsent
      · exact (Exits.modify (hmark .failed _)).bind fun _ => Exits.throw fun w hw => hw.settled

/-- Every answer to a final request is one that the delivery handles. -/
def Decided (a : Attempt) : Prop :=
  ∀ key, mediaVerdict (a.post (.media key)) ≠ .error .other

/-- The artifacts are sent one after the other. -/
theorem sendItems_exits (hdecided : Decided a) (hitems : ∀ item ∈ items, item.Of a)
    (hdistinct : (items.map fun item => item.state.key).Nodup) :
    Exits (Ready none items) (sendItems cfg a items) (fun _ => Settled none)
      fun _ => Settled none := by
  induction items with
  | nil => exact Exits.pure fun w hw => hw.settled
  | cons item items ih =>
    rw [List.map_cons, List.nodup_cons] at hdistinct
    obtain ⟨hnot, hdistinct⟩ := hdistinct
    have hfresh : ∀ other ∈ items, other.state.key ≠ item.state.key :=
      fun other hother hkey => hnot (hkey ▸ List.mem_map_of_mem hother)
    have ih := ih (fun other hother => hitems other (List.mem_cons_of_mem _ hother)) hdistinct
    refine ((sendItem_exits (hitems item List.mem_cons_self) hfresh (hdecided _)).pre
      fun w hw => ?_).bind fun left => ?_
    · exact ⟨⟨hw.settled, fun other hother => hw.rows other (List.mem_cons_of_mem _ hother)⟩,
        hw.rows item List.mem_cons_self⟩
    · cases left with
      | none => exact ih.pre fun w hw => hw.1
      | some row =>
        refine Exits.of_state fun w hw => ?_
        have hkey : row.key = item.state.key := (hw.2 row rfl).2
        refine ((sendArtifactFallbackLocked_exits item.artifact fun other hother =>
          hkey ▸ hfresh other hother).pre ?_).bind fun fallbackError => ?_
        · rintro _ rfl
          exact ⟨hw.1, (hw.2 row rfl).1⟩
        · cases fallbackError with
          | none => exact ih
          | some code => exact Exits.pure fun w hw => hw.settled

theorem sendArtifactResultLocked_exits (hdecided : Decided a) (hitems : ∀ item ∈ items, item.Of a)
    (hdistinct : (items.map fun item => item.state.key).Nodup) (summary : String) :
    Exits (Ready none items) (sendArtifactResultLocked cfg a summary items) (fun _ => Settled none)
      fun _ => Settled none := by
  refine ((check_exits _).conseq (fun _ hw => hw) (fun _ _ hw => hw) fun _ w hw => hw.settled).bind
    fun _ => ?_
  cases a.suppression with
  | some suppression => exact Exits.pure fun w hw => hw.settled
  | none =>
    exact ((Ready.textStable.sendTextLocked summary).conseq (fun _ hw => hw) (fun _ _ hw => hw)
      fun _ w hw => hw.settled).bind fun _ => sendItems_exits hdecided hitems hdistinct

theorem Holding.ready (hw : Holding none items item.state w) : Ready none (items ++ [item]) w := by
  refine ⟨hw.1.settled, fun other hother => ?_⟩
  obtain hother | hother := List.mem_append.mp hother
  · exact hw.1.rows other hother
  · rw [List.mem_singleton.mp hother]
    exact hw.2

variable (items) in
theorem prepare_exits (artifact : Dict)
    (hfresh : ∀ id, (Dict.get artifact "artifact_id").asStr? = some id →
      ∀ item ∈ items, item.state.artifactId ≠ id) :
    Exits (Ready none items) (prepare a artifact)
      (fun item w => Ready none (items ++ [item]) w ∧ item.Of a ∧ item.artifact = artifact)
      fun _ => Settled none := by
  have hread : Exits (Ready none items) (prepareArtifact a artifact)
      (fun row w => Holding none items row w ∧ row.jobId = a.jobId ∧
        (Dict.get artifact "artifact_id").asStr? = some row.artifactId) fun _ => Settled none :=
    (prepareArtifact_exits artifact).conseq (fun _ hw => hw) (fun _ _ hw => hw)
      fun _ w hw => hw.settled
  -- the row is marked as failed and read again
  have hagain : ∀ (row : ArtifactRow) (code : String),
      Exits (fun w => Holding none items row w ∧ row.jobId = a.jobId ∧
          (Dict.get artifact "artifact_id").asStr? = some row.artifactId)
        (do
          modify fun w => w.markArtifact row.key .failed (some code)
          return ⟨artifact, ← prepareArtifact a artifact, none⟩)
        (fun item w => Ready none (items ++ [item]) w ∧ item.Of a ∧ item.artifact = artifact)
        fun _ => Settled none := by
    intro row code
    refine (Exits.modify fun w hw => (hw.1.mark (.inl rfl) (fun item hitem hkey => ?_)
      .failed (by decide) (some code)).1).bind fun _ => hread.bind fun row' =>
        Exits.pure fun w hw => ⟨hw.1.ready, hw.2, rfl⟩
    exact hfresh _ hw.2.2 item hitem (Prod.mk.inj hkey).2
  refine hread.bind fun row => Exits.ite (fun _ => ?_) fun _ =>
    Exits.pure fun w hw => ⟨hw.1.ready, hw.2, rfl⟩
  cases a.fetch row.artifactId with
  | broke => exact Exits.throw fun w hw => hw.1.1.settled
  | refused code => exact hagain row code
  | content bytes =>
    dsimp only
    cases stageOutboundArtifact artifact bytes with
    | ok _ => exact Exits.pure fun w hw => ⟨hw.1.ready, hw.2, rfl⟩
    | error e =>
      cases e with
      | store code => exact hagain row code
      | protocol code retryable deliveryUnknown => exact Exits.throw fun w hw => hw.1.1.settled
      | other => exact Exits.throw fun w hw => hw.1.1.settled

/-- The ids that a job lists. -/
def artifactIds (artifacts : List Json) : List String :=
  artifacts.filterMap fun artifact =>
    artifact.asDict?.bind fun d => (Dict.get d "artifact_id").asStr?

variable (items) in
/-- The artifacts are prepared one after the other. -/
theorem prepareAll_exits (artifacts : List Json)
    (hdistinct : (items.map (fun item => item.state.artifactId) ++ artifactIds artifacts).Nodup) :
    Exits (Ready none items) (prepareAll a artifacts)
      (fun more w => Ready none (items ++ more) w ∧ (∀ item ∈ more, item.Of a) ∧
        more.map (fun item => item.state.artifactId) = artifactIds artifacts)
      fun _ => Settled none := by
  induction artifacts generalizing items with
  | nil =>
    refine Exits.pure fun w hw => ⟨?_, fun item hitem => absurd hitem List.not_mem_nil, rfl⟩
    rw [List.append_nil]
    exact hw
  | cons artifact artifacts ih =>
    refine ((lift_exits _).conseq (fun _ hw => hw) (fun _ _ hw => hw)
      fun _ w hw => hw.1.settled).bind fun d => ?_
    refine Exits.of_state fun w₀ hw₀ => ?_
    have hd : artifact.asDict? = some d := orRaise_eq_ok.mp hw₀.2
    have hids : ∀ id, (Dict.get d "artifact_id").asStr? = some id →
        artifactIds (artifact :: artifacts) = id :: artifactIds artifacts := by
      intro id hid
      rw [artifactIds, List.filterMap_cons_some]
      · rfl
      · rw [hd]
        exact hid
    refine ((prepare_exits items d fun id hid item hitem he => ?_).pre ?_).bind
      fun item => ?_
    · rw [hids id hid, List.nodup_append] at hdistinct
      exact hdistinct.2.2 _ (List.mem_map_of_mem hitem) _ List.mem_cons_self he
    · rintro _ rfl
      exact hw₀.1
    · refine Exits.of_state fun w₁ hw₁ => ?_
      obtain ⟨hready, hof, rfl⟩ := hw₁
      rw [hids _ hof.2] at hdistinct ⊢
      refine ((ih (items ++ [item]) ?_).pre ?_).bind fun more => Exits.pure fun w hw => ?_
      · rw [List.map_append, List.append_assoc]
        exact hdistinct
      · rintro _ rfl
        exact hready
      · obtain ⟨hready, hmore, hmap⟩ := hw
        refine ⟨?_, fun other hother => ?_, ?_⟩
        · rw [List.append_assoc] at hready
          exact hready
        · obtain rfl | hother := List.mem_cons.mp hother
          · exact hof
          · exact hmore other hother
        · rw [List.map_cons, hmap]

/-- The ids that the Controller lists for the job of an attempt. -/
def Attempt.ids (a : Attempt) : List String :=
  match Dict.get a.job "artifacts" with
  | .arr artifacts => artifactIds artifacts
  | _ => []

theorem sendCompletedJob_exits (hdecided : Decided a) (hids : (Attempt.ids a).Nodup) :
    Exits (Settled none) (sendCompletedJob cfg a) (fun _ => Settled none) fun _ => Settled none := by
  have hresult : ∀ text, Exits (Settled none) (sendResult a text) (fun _ => Settled none)
      fun _ => Settled none := fun text =>
    (Ready.textStable.sendResult text).conseq
      (fun w hw => ⟨hw, fun _ h => absurd h List.not_mem_nil⟩) (fun _ w hw => hw.settled)
      fun _ w hw => hw.settled
  unfold sendCompletedJob
  unfold Attempt.ids at hids
  cases hartifacts : Dict.get a.job "artifacts" with
  | null => exact hresult _
  | arr artifacts =>
    rw [hartifacts] at hids
    cases artifacts with
    | nil => exact hresult _
    | cons artifact artifacts =>
      refine (check_exits _).bind fun _ => (check_exits _).bind fun summary => ?_
      refine ((prepareAll_exits [] (artifact :: artifacts) hids).pre fun w hw =>
        ⟨hw, fun _ h => absurd h List.not_mem_nil⟩).bind fun prepared => ?_
      refine Exits.of_state fun w₀ hw₀ => ?_
      obtain ⟨hready, hof, hmap⟩ := hw₀
      refine (sendArtifactResultLocked_exits hdecided hof ?_ summary).pre ?_
      · refine List.Nodup.of_map Prod.snd ?_
        rw [List.map_map]
        exact hmap ▸ hids
      · rintro _ rfl
        exact hready
  | bool b => exact Exits.throw fun _ hw => hw
  | int n => exact Exits.throw fun _ hw => hw
  | float value text => exact Exits.throw fun _ hw => hw
  | str s => exact Exits.throw fun _ hw => hw
  | obj items => exact Exits.throw fun _ hw => hw

end Branches

/-! ## Runs -/

/-- The tables as they are created. -/
def start : OutboundWorld := ⟨Table.empty, Table.empty, []⟩

theorem settled_start : Settled none start where
  sends := always_nil
  unknown := always_nil
  reports := always_nil
  media _ _ hx := absurd hx List.not_mem_nil
  links _ hl := absurd hl List.not_mem_nil

theorem settled_deliver (cfg : DeliveryConfig) {w : OutboundWorld} {a : Attempt}
    (h : Settled none w) (hdecided : Decided a) (hids : (Attempt.ids a).Nodup) :
    Settled none (deliver cfg w a) := by
  have hexits : Exits _ (sendCompletedJob cfg a) _ _ := sendCompletedJob_exits hdecided hids
  have hexits := hexits w h
  unfold deliver
  cases hrun : sendCompletedJob cfg a w with
  | ok suppression w' =>
    rw [hrun] at hexits
    exact hexits
  | error e w' =>
    rw [hrun] at hexits
    exact hexits

/-- In every run of attempts whose final requests are decided, each for a job that lists no artifact
    twice: the final request for an artifact is repeated only after refusals, an unknown delivery is
    followed only by the fallback link, and a link is reported as sent once. -/
theorem artifacts_sent_once (cfg : DeliveryConfig) (attempts : List Attempt)
    (hdecided : ∀ a ∈ attempts, Decided a) (hids : ∀ a ∈ attempts, (Attempt.ids a).Nodup) :
    Always SendsAfterRefusals (runFrom (deliver cfg) start attempts).log ∧
    Always OnlyFallback (runFrom (deliver cfg) start attempts).log ∧
    Always ReportsOnce (runFrom (deliver cfg) start attempts).log := by
  have hrun : ∀ (attempts : List Attempt) (w : OutboundWorld), Settled none w →
      (∀ a ∈ attempts, Decided a) → (∀ a ∈ attempts, (Attempt.ids a).Nodup) →
      Settled none (runFrom (deliver cfg) w attempts) := by
    intro attempts
    induction attempts with
    | nil => exact fun w hw _ _ => hw
    | cons a attempts ih =>
      intro w hw hdecided hids
      refine ih _ (settled_deliver cfg hw (hdecided a List.mem_cons_self)
        (hids a List.mem_cons_self)) (fun b hb => hdecided b (List.mem_cons_of_mem _ hb))
        fun b hb => hids b (List.mem_cons_of_mem _ hb)
  have h := hrun attempts start settled_start hdecided hids
  exact ⟨h.sends, h.unknown, h.reports⟩

/-! ## A job with one picture -/

/-- How `send_media` went on after each final request for an artifact. -/
def mediaVerdicts (key : String × String) (log : List OutboundEvent) :
    List (Except DeliveryRaise Unit) :=
  log.filterMap fun
    | .posted (.media k) x => if k = key then some (mediaVerdict x) else none
    | _ => none

theorem mediaVerdict_of_refused {x : Exchange} (h : x.Refused) :
    mediaVerdict x ≠ .error .other := by
  obtain ⟨response, hresult, hrefused⟩ := h
  unfold mediaVerdict
  rw [hresult]
  dsimp only
  split_ifs with hcode
  · nofun
  · rw [hrefused.resolve_left hcode]
    nofun

/-- A final request after one that was not decided. -/
theorem not_sendsAfterRefusals {key : String × String} {log : List OutboundEvent}
    {verdict : Except DeliveryRaise Unit} {verdicts : List (Except DeliveryRaise Unit)}
    (h : mediaVerdicts key log = .error .other :: verdict :: verdicts) :
    ¬ Always SendsAfterRefusals log := by
  have hposted : ∀ {e : OutboundEvent} {v : Except DeliveryRaise Unit},
      (match e with
        | .posted (.media k) x => if k = key then some (mediaVerdict x) else none
        | _ => none) = some v → ∃ x, e = .posted (.media key) x ∧ mediaVerdict x = v := by
    intro e v he
    split at he
    · split_ifs at he with hk
      subst hk
      exact ⟨_, rfl, Option.some.inj he⟩
    · cases he
  obtain ⟨l₁, e, l₂, rfl, -, he, h⟩ := List.filterMap_eq_cons_iff.mp h
  obtain ⟨l₃, e', l₄, rfl, -, he', -⟩ := List.filterMap_eq_cons_iff.mp h
  obtain ⟨x, rfl, hx⟩ := hposted he
  obtain ⟨x', rfl, -⟩ := hposted he'
  intro halways
  refine mediaVerdict_of_refused (halways (l₁ ++ .posted (.media key) x :: l₃) _ l₄ ?_ key x' rfl
    x ?_) hx
  · rw [List.append_assoc]
    rfl
  · exact List.mem_append_right _ List.mem_cons_self

def pngHeader : List UInt8 := [0x89, 0x50, 0x4e, 0x47, 0x0d, 0x0a, 0x1a, 0x0a]

def pictureId : String := "AR-AAAAAAAAAAAAAAAAAAAAAAAAAA"

def pictureJob : Dict := [("result_summary", .str "一张图"), ("artifacts", .arr [.obj [
  ("artifact_id", .str pictureId), ("mime_type", .str "image/png"), ("size_bytes", .int 8),
  ("sha256", .str "sha256:4c4b6a3be1314ab86138bef4314dde022e600960d8689a2c8f8631802d20dab6"),
  ("fallback_path", .str "/downloads/artifacts/0123456789012345678901234567890123456789012")]])]

/-- iLink accepts every request but the final one, which ends as it is given. -/
def pictureAttempt (final : Exchange) : Attempt where
  jobId := "job"
  job := pictureJob
  expired := false
  expiredAt _ := false
  suppression := none
  context := none
  fetch _ := .content pngHeader
  post
    | .media _ => final
    | _ => .answered 200 2 (some (.obj [("ret", .int 0), ("upload_full_url", .str "https://cdn")]))
  cdn _ := .accepted
  upload _ := .answered 200 (some "param")

def pictureConfig : DeliveryConfig := ⟨1024, "https://ingress"⟩

/-- The transport fails after the final request was sent off; the row stays pending, and the next
    attempt sends the picture again. -/
theorem picture_sent_again :
    mediaVerdicts ("job", pictureId) (runFrom (deliver pictureConfig) start
      [pictureAttempt .transport, pictureAttempt (.answered 200 2 (some (.obj [])))]).log =
      [.error .other, .ok ()] ∧
    ¬ Always SendsAfterRefusals (runFrom (deliver pictureConfig) start
      [pictureAttempt .transport, pictureAttempt (.answered 200 2 (some (.obj [])))]).log := by
  have hverdicts : mediaVerdicts ("job", pictureId) (runFrom (deliver pictureConfig) start
      [pictureAttempt .transport, pictureAttempt (.answered 200 2 (some (.obj [])))]).log =
      [.error .other, .ok ()] := by decide +kernel
  exact ⟨hverdicts, not_sendsAfterRefusals hverdicts⟩

/-- The final request times out, and another attempt follows: it is issued once. -/
theorem artifacts_sent_once_timeout :
    mediaVerdicts ("job", pictureId) (runFrom (deliver pictureConfig) start
      [pictureAttempt .timeout, pictureAttempt .timeout]).log =
      [.error (.protocol "ilink_timeout" true true)] ∧
    Always OnlyFallback (runFrom (deliver pictureConfig) start
      [pictureAttempt .timeout, pictureAttempt .timeout]).log := by
  refine ⟨by decide +kernel, (artifacts_sent_once pictureConfig _ ?_ ?_).2.1⟩
  · intro a ha key
    have hpost : a.post (.media key) = .timeout := by
      simp only [List.mem_cons, List.not_mem_nil, or_false, or_self] at ha
      rw [ha]
      rfl
    rw [hpost]
    decide
  · intro a ha
    simp only [List.mem_cons, List.not_mem_nil, or_false, or_self] at ha
    rw [ha]
    decide

end Outbound

end HomeAddons.Gateway
