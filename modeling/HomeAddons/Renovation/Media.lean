import HomeAddons.Common.Table
import HomeAddons.Renovation.Types

/-!
# Renovation Hub: media that are streamed in

`MediaService` (`media.py` 135–188, 295–427) and the handler of `/internal/v1/media/ingest`
(`web.py` 623–681) for an upload over the internal interface. An ingest has two transactions: one
reserves the upload, the other stores the asset, the result under the idempotency key and the audit
entry.

* `Sound.ingest`, `Sound.finalize`: an asset keeps its result under its key.
* `Sound.one_asset`: a key has at most one asset.
-/

namespace HomeAddons.Renovation

open HomeAddons.Common

/-! ## Rows -/

/-- The values of `uploads.state` that this interface writes. -/
inductive UploadState where
  | created | uploading | ready | failed
  deriving DecidableEq

/-- A row of `uploads`. -/
structure Upload where
  id : String
  idempotencyKey : String
  sourceRefHash : String
  originalFilename : String
  mimeType : String
  expectedBytes : ℕ
  receivedBytes : ℕ
  state : UploadState
  mediaId : Option String
  errorCode : Option String

/-- A row of `media_assets`, and the idempotency key that its audit entry keeps. -/
structure MediaAsset where
  id : String
  projectId : String
  mediaType : String
  mimeType : String
  originalFilename : String
  storageName : String
  sizeBytes : ℕ
  sha256 : String
  sourceRefHash : String
  ingestKey : String

/-- A row of `media_ingest_results`. -/
structure IngestResult where
  idempotencyKey : String
  sourceRefHash : String
  media : MediaAsset

structure MediaHub where
  assets : Table MediaAsset.id
  uploads : Table Upload.idempotencyKey
  results : Table IngestResult.idempotencyKey

def MediaHub.empty : MediaHub := ⟨.empty, .empty, .empty⟩

/-! ## Arguments -/

/-- `IMAGE_MIME_TYPES`. -/
def imageMimeTypes : List String :=
  ["image/jpeg", "image/png", "image/webp", "image/heic", "image/heif"]

/-- `MEDIA_MIME_TYPES`. -/
def mediaMimeTypes : List String :=
  imageMimeTypes ++ ["video/mp4", "video/quicktime", "video/webm"]

/-- What comes with an upload: the metadata and the headers. -/
structure MediaMeta where
  idempotencyKey : String
  sourceRefHash : String
  projectId : Json
  filename : String
  mimeType : String
  expectedBytes : ℕ
  expectedSha256 : String

/-- What the other parts of the Hub have for an upload: the ids, the extension of the file, and an
    error of the checks on the project, the time and the links, of the writer's lock, or of the file
    system. -/
structure MediaEnv where
  maxMediaBytes : ℕ
  uploadId : String
  mediaId : String
  extension : String
  refusal : Option Raise

/-- `raise LedgerError("idempotency_conflict", …, status=409)`. -/
def mediaConflict : Raise := raising "idempotency_conflict" "同一幂等键对应不同媒体引用" 409

/-- `Path(filename).name == filename`. -/
def isFileName (filename : String) : Bool :=
  filename ≠ "" && filename ≠ "." && !filename.toList.contains '/'

/-- `_safe_filename(value)` (lines 114–118). -/
def safeFilename (cfg : Config) (value : String) : Except Raise String := do
  let filename ← text cfg (.str value) "original_filename" 255 true
  ensure (isFileName filename = true ∧ filename ≠ ".." ∧ ¬ filename.toList.contains '\x00')
    (rejecting "media_invalid" "媒体文件名无效")
  return filename

theorem idempotencyKey_str {s key : String} (h : idempotencyKey (.str s) = .ok key) : key = s := by
  simp only [idempotencyKey, bind_eq_ok, orRaise_eq_ok, pure_eq_ok] at h
  obtain ⟨t, ht, -, -, rfl⟩ := h
  exact (Option.some.inj ht).symm

/-- What `prepare_upload` answers. -/
inductive Prepared where
  | replay (result : IngestResult)
  | fresh (upload : Upload)

namespace MediaHub

variable (cfg : Config) (h : MediaHub)

/-- `replay(idempotency_key, source_ref_hash)` (lines 416–427). -/
def replay (key sourceRefHash : String) : Except Raise (Option IngestResult) := do
  let key ← idempotencyKey (.str key)
  let refHash ← text cfg (.str sourceRefHash) "source_ref_hash" 80 true
  match h.results.get? key with
  | none => return none
  | some r =>
    ensure (r.sourceRefHash = refHash) mediaConflict
    return some r

/-- `prepare_upload(…)` (lines 135–188), which does not resume an upload. -/
def prepareUpload (env : MediaEnv) (m : MediaMeta) : Except Raise (MediaHub × Prepared) := do
  let key ← idempotencyKey (.str m.idempotencyKey)
  let refHash ← text cfg (.str m.sourceRefHash) "source_ref_hash" 80 true
  let filename ← safeFilename cfg m.filename
  let mime ← String.toLower <$> text cfg (.str m.mimeType) "mime_type" 120 true
  ensure (mime ∈ mediaMimeTypes) (raising "media_type_rejected" "媒体类型不在允许范围" 415)
  ensure (1 ≤ m.expectedBytes ∧ m.expectedBytes ≤ env.maxMediaBytes)
    (raising "media_size_invalid" "媒体大小无效" 413)
  match h.results.get? key with
  | some r =>
    ensure (r.sourceRefHash = refHash) mediaConflict
    return (h, .replay r)
  | none =>
    match h.uploads.get? key with
    | some u =>
      ensure (u.sourceRefHash = refHash ∧ u.originalFilename = filename ∧ u.mimeType = mime ∧
        u.expectedBytes = m.expectedBytes) mediaConflict
      .error (raising "upload_in_progress" "媒体上传仍在处理中" 409)
    | none =>
      let u : Upload := ⟨env.uploadId, key, refHash, filename, mime, m.expectedBytes, 0, .created,
        none, none⟩
      let uploads ← orRaise (h.uploads.insert? u) .integrity
      return ({ h with uploads := uploads }, .fresh u)

/-- `UPDATE uploads SET … WHERE id=?`. -/
def setUpload (id : String) (f : Upload → Upload)
    (hf : ∀ u, (f u).idempotencyKey = u.idempotencyKey := by intro _; rfl) : MediaHub :=
  { h with uploads := h.uploads.updateWhere (fun u => u.id = id) f hf }

/-- `mark_uploading(upload_id)`. -/
def markUploading (id : String) : MediaHub := h.setUpload id fun u => { u with state := .uploading }

/-- `fail_upload(upload_id, code)`. -/
def failUpload (id code : String) : MediaHub :=
  h.setUpload id fun u => { u with state := .failed, errorCode := some code }

/-- The asset of an upload. -/
def assetOf (env : MediaEnv) (u : Upload) (m : MediaMeta) (projectId : String)
    (content : List UInt8) : MediaAsset :=
  let sha256 := String.ofList (sha256Chars content)
  ⟨env.mediaId, projectId, if u.mimeType ∈ imageMimeTypes then "image" else "video", u.mimeType,
    u.originalFilename, String.ofList (sha256.toList.take 2) ++ "/" ++ sha256 ++ env.extension,
    content.length, sha256, m.sourceRefHash, m.idempotencyKey⟩

/-- The transaction that stores an asset and its result. -/
def storeAsset (u : Upload) (m : MediaMeta) (asset : MediaAsset) :
    Except Raise (MediaHub × IngestResult) := do
  let assets ← orRaise (h.assets.insert? asset) .integrity
  let results ← orRaise (h.results.insert? ⟨m.idempotencyKey, m.sourceRefHash, asset⟩) .integrity
  let ready : MediaHub := { h with assets := assets, results := results }
  return (ready.setUpload u.id fun u =>
    { u with receivedBytes := asset.sizeBytes, state := .ready, mediaId := some asset.id },
    ⟨m.idempotencyKey, m.sourceRefHash, asset⟩)

/-- `finalize_upload(upload, …)` (lines 303–383). -/
def finalizeUpload (env : MediaEnv) (u : Upload) (m : MediaMeta) (content : List UInt8) :
    MediaHub × Except Raise IngestResult :=
  if content.length ≠ u.expectedBytes then
    (h.failUpload u.id "upload_incomplete",
      .error (rejecting "upload_incomplete" "媒体上传不完整"))
  else if m.expectedSha256 ≠ "" ∧ m.expectedSha256 ≠ String.ofList (sha256Chars content) then
    (h.failUpload u.id "sha256_mismatch", .error (rejecting "sha256_mismatch" "媒体摘要不一致"))
  else
    let stored : Except Raise (MediaHub × IngestResult) := do
      let projectId ← text cfg m.projectId "project_id" 64 true
      ensure (env.refusal = none) (env.refusal.getD .integrity)
      h.storeAsset u m (assetOf env u m projectId content)
    match stored with
    | .ok (h', r) => (h', .ok r)
    | .error e => (h, .error e)

/-- `media_ingest(request)` (`web.py` 623–681) for a body that is received, or that is cut off; the
    header of the digest comes with its mark. -/
def mediaIngest (env : MediaEnv) (m : MediaMeta) (body : Option (List UInt8)) :
    MediaHub × Except Raise IngestResult :=
  match h.prepareUpload cfg env m with
  | .error e => (h, .error e)
  | .ok (h, .replay r) => (h, .ok r)
  | .ok (h, .fresh u) =>
    match body with
    | none => ((h.markUploading u.id).failUpload u.id "upload_failed", .error .integrity)
    | some content => (h.markUploading u.id).finalizeUpload cfg env u m content

/-! ## One asset for a key -/

/-- Every asset has its result under its key, and a result has the digest of a content. -/
structure Sound (h : MediaHub) : Prop where
  result : ∀ a ∈ h.assets.rows, ∃ r, h.results.get? a.ingestKey = some r ∧ r.media = a
  digest : ∀ r ∈ h.results.rows, ∃ content, r.media.sha256 = String.ofList (sha256Chars content)

variable {cfg} {h} {h' : MediaHub} {env : MediaEnv} {u : Upload} {m : MediaMeta}

theorem Sound.empty : MediaHub.empty.Sound := ⟨nofun, nofun⟩

theorem Sound.one_asset (hs : h.Sound) {a b : MediaAsset} (ha : a ∈ h.assets.rows)
    (hb : b ∈ h.assets.rows) (hkey : a.ingestKey = b.ingestKey) : a = b := by
  obtain ⟨r, hr, rfl⟩ := hs.result a ha
  obtain ⟨r', hr', rfl⟩ := hs.result b hb
  rw [hkey, hr'] at hr
  cases hr
  rfl

theorem Sound.of_same (hs : h.Sound) (hassets : h'.assets = h.assets)
    (hresults : h'.results = h.results) : h'.Sound := by
  constructor
  · rw [hassets, hresults]
    exact hs.result
  · rw [hresults]
    exact hs.digest

theorem Sound.setUpload (hs : h.Sound) (id : String) (f : Upload → Upload)
    (hf : ∀ u, (f u).idempotencyKey = u.idempotencyKey) : (h.setUpload id f hf).Sound :=
  hs.of_same rfl rfl

variable {p : Prepared}

/-- The first transaction reserves an upload at most. -/
theorem prepareUpload_ok (hok : h.prepareUpload cfg env m = .ok (h', p)) :
    h'.assets = h.assets ∧ h'.results = h.results := by
  simp only [prepareUpload, bind_eq_ok] at hok
  obtain ⟨key, -, refHash, -, filename, -, mime, -, -, -, -, -, hok⟩ := hok
  split at hok
  · obtain ⟨-, -, hok⟩ := bind_eq_ok.mp hok
    cases hok
    exact ⟨rfl, rfl⟩
  · split at hok
    · obtain ⟨-, -, hok⟩ := bind_eq_ok.mp hok
      cases hok
    · obtain ⟨uploads, -, hok⟩ := bind_eq_ok.mp hok
      cases hok
      exact ⟨rfl, rfl⟩

theorem Sound.prepare (hs : h.Sound) (hok : h.prepareUpload cfg env m = .ok (h', p)) : h'.Sound :=
  hs.of_same (prepareUpload_ok hok).1 (prepareUpload_ok hok).2

/-- The second transaction stores a result under a key that has none. -/
theorem Sound.storeAsset (hs : h.Sound) {asset : MediaAsset} {r : IngestResult}
    (hkey : asset.ingestKey = m.idempotencyKey)
    (hdigest : ∃ content, asset.sha256 = String.ofList (sha256Chars content))
    (hok : h.storeAsset u m asset = .ok (h', r)) : h'.Sound := by
  simp only [MediaHub.storeAsset, bind_eq_ok, orRaise_eq_ok, pure_eq_ok, Prod.mk.injEq] at hok
  obtain ⟨assets, hassets, results, hresults, rfl, -⟩ := hok
  refine Sound.setUpload ?_ _ _ _
  constructor
  · intro a ha
    rw [Table.rows_insert? hassets, List.mem_append, List.mem_singleton] at ha
    obtain ha | rfl := ha
    · obtain ⟨r, hr, hmedia⟩ := hs.result a ha
      exact ⟨r, Table.get?_insert?_of_get? hresults hr, hmedia⟩
    · rw [hkey]
      exact ⟨_, (Table.get?_insert? hresults _).trans (if_pos rfl), rfl⟩
  · intro r hr
    rw [Table.rows_insert? hresults, List.mem_append, List.mem_singleton] at hr
    obtain hr | rfl := hr
    · exact hs.digest r hr
    · exact hdigest

theorem Sound.finalize (hs : h.Sound) (content : List UInt8) :
    (h.finalizeUpload cfg env u m content).1.Sound := by
  unfold finalizeUpload
  split
  · exact hs.setUpload _ _ _
  · split
    · exact hs.setUpload _ _ _
    · dsimp only
      split
      · next h' r hstored =>
        simp only [bind_eq_ok] at hstored
        obtain ⟨projectId, -, -, -, hok⟩ := hstored
        exact hs.storeAsset rfl ⟨content, rfl⟩ hok
      · exact hs

theorem Sound.ingest (hs : h.Sound) (body : Option (List UInt8)) :
    (h.mediaIngest cfg env m body).1.Sound := by
  unfold mediaIngest
  split
  · exact hs
  · next hok => exact hs.prepare hok
  · next u hok =>
    have hready := (hs.prepare hok).setUpload u.id (fun u => { u with state := .uploading })
      (fun _ => rfl)
    cases body with
    | none => exact hready.setUpload _ _ _
    | some content => exact hready.finalize content

end MediaHub

end HomeAddons.Renovation
