import HomeAddons.Common.Text
import HomeAddons.Controller.Queue

/-!
# Codex Controller: the charts of jobs

`capture_chart_artifact` and `cleanup_artifacts` (`store.py` 955–1075 and 1104–1128) as calls that
run at the same time over one database and one directory. A call goes on by single steps: the
transactions, which exclude each other, and every file that is written, renamed or unlinked.
-/

namespace HomeAddons.Controller

open HomeAddons.Common

/-! ## The checks on a chart -/

/-- A chart that passed the checks. -/
structure Chart where
  content : List UInt8
  resultSummary : String

/-- `actual_digest`. -/
def Chart.sha256 (c : Chart) : String := String.ofList (sha256Chars c.content)

/-- `PNG_MAGIC`. -/
def pngMagic : List UInt8 := [0x89, 0x50, 0x4e, 0x47, 0x0d, 0x0a, 0x1a, 0x0a]

/-- `re.fullmatch(r"summary-[a-f0-9]{32}\.png", s)`. -/
def isDownloadRef (s : String) : Bool :=
  let cs := s.toList
  "summary-".toList.isPrefixOf cs && cs.length = 44 && ((cs.drop 8).take 32).all isLowerHex &&
    cs.drop 40 = ".png".toList

/-- `re.fullmatch(r"-?\d{1,12}\.\d{2}", s)`. -/
def isAmount (s : String) : Bool :=
  let cs := if "-".toList.isPrefixOf s.toList then s.toList.drop 1 else s.toList
  let whole := cs.takeWhile fun c => (decimalDigit? c).isSome
  let rest := cs.drop whole.length
  1 ≤ whole.length ∧ whole.length ≤ 12 ∧ rest.head? = some '.' ∧ rest.length = 3 ∧
    (rest.drop 1).all fun c => (decimalDigit? c).isSome

/-- `raise StoreError(code, message, status=502)`. -/
def chartInvalid (code message : String) : Raise := raising code message 502

/-- `_chart_result_summary(summary)` (lines 1808–1819). -/
def chartResultSummary (summary : Dict) : Except Raise String := do
  let count ← orRaise ((summary.get "transaction_count").asInt?.filter fun n => 0 ≤ n ∧ n ≤ 1000)
    (chartInvalid "artifact_summary_invalid" "图表汇总字段无效")
  let amount ← orRaise ((summary.get "net_amount").asStr?.filter isAmount)
    (chartInvalid "artifact_summary_invalid" "图表汇总字段无效")
  return "已生成装修账单统计图：共 " ++ toString count ++ " 笔记录，净支出 ¥" ++ amount ++ "。"

/-- A width or a height. -/
def isDimension (v : Json) : Bool := v.asInt?.any fun n => 1 ≤ n ∧ n ≤ 8192

/-- The checks of `capture_chart_artifact(job_id, chart, content)` (lines 962–998). -/
def validateChart (maxArtifactBytes : ℕ) (jobId : String) (chart : Json) (content : List UInt8) :
    Except Raise Chart := do
  ensure (jobId ≠ "") (raising "artifact_context_invalid" "artifact 作业上下文无效" 409)
  let d ← orRaise chart.asDict? (chartInvalid "artifact_metadata_invalid" "图表元数据无效")
  ensure ((d.get "download_ref").asStr?.any isDownloadRef = true)
    (chartInvalid "artifact_reference_invalid" "图表引用无效")
  ensure (pngMagic.isPrefixOf content = true)
    (chartInvalid "artifact_content_invalid" "图表不是有效 PNG")
  ensure (asIntegral? (d.get "size_bytes") = some (content.length : ℤ) ∧ 1 ≤ content.length ∧
    content.length ≤ maxArtifactBytes) (chartInvalid "artifact_size_invalid" "图表大小不一致或越界")
  let expected ← orRaise (d.get "sha256").asStr? (chartInvalid "artifact_digest_invalid" "图表摘要缺失")
  let expected := if "sha256:".toList.isPrefixOf expected.toList then expected.toList.drop 7
    else expected.toList
  ensure (expected.length = 64 ∧ expected.all isLowerHex = true ∧ expected = sha256Chars content)
    (chartInvalid "artifact_digest_invalid" "图表摘要不一致")
  ensure (isDimension (d.get "width") = true ∧ isDimension (d.get "height") = true)
    (chartInvalid "artifact_dimensions_invalid" "图表尺寸无效")
  let summary ← orRaise (d.get "summary").asDict?
    (chartInvalid "artifact_summary_invalid" "图表汇总无效")
  ensure ((canonical (.obj summary)).utf8ByteSize ≤ 1024 * 1024)
    (chartInvalid "artifact_summary_invalid" "图表汇总过大")
  return ⟨content, ← chartResultSummary summary⟩

/-! ## Surroundings and state -/

/-- The names that `uuid.uuid4()`, `os.urandom` and `tempfile.mkstemp` give to the call with a
    number: those of files are all different. -/
structure FileNames where
  artifactId : ℕ → String
  storageName : ℕ → String
  temporaryName : ℕ → String
  storage_injective : storageName.Injective
  temporary_injective : temporaryName.Injective
  apart : ∀ m n, storageName m ≠ temporaryName n

/-- What a store is opened with, the names it gives, and `now + timedelta(seconds=ttl)`. -/
structure ArtifactSettings extends Settings, FileNames where
  maxArtifactBytes : ℕ
  artifactQuotaBytes : ℕ
  maxArtifactsPerJob : ℕ
  expiresAt : String → String

/-- A regular file of `artifact_dir`. -/
structure StoredFile where
  name : String
  content : List UInt8

/-- Where `cleanup_artifacts()` is. -/
inductive Cleanup where
  /-- Before its transaction. -/
  | waiting
  /-- In it, with the expired rows whose files are still to be unlinked, and the rows deleted. -/
  | expiring (left : List Artifact) (gone : List String)
  /-- Before it reads the directory; also the names that were given to files since the
      transaction. -/
  | listing (tracked since : List String)
  /-- Among the names that it has read. -/
  | walking (tracked since left : List String)

/-- The arguments of a capture. -/
structure Capture where
  jobId : String
  chart : Chart

/-- Where a call is. A capture cleans up before it does anything else. -/
inductive Stage where
  | cleaning (cleanup : Cleanup) (next : Option Capture)
  /-- The temporary file has been made; `now` is from before. -/
  | created (c : Capture) (now expiresAt : String)
  /-- It has been written. -/
  | written (c : Capture) (now expiresAt : String)
  /-- In the transaction, and the file has its name. -/
  | placed (c : Capture) (now : String) (row : Artifact)
  /-- In the `except` clause, after the transaction was rolled back. -/
  | undoing
  /-- In the `finally` clause. -/
  | closing

structure Call where
  id : ℕ
  stage : Stage

/-- A store with its directory and the calls that run, the one that holds the write lock, and the
    present time. -/
structure ArtifactStore where
  store : ControllerStore
  files : Table StoredFile.name
  calls : Table Call.id
  writer : Option ℕ
  next : ℕ
  clock : String

/-- A file was given a name: a cleanup that is past its transaction does not know it. -/
def Call.noteName (name : String) (c : Call) : Call := { c with stage := match c.stage with
  | .cleaning (.listing tracked since) next => .cleaning (.listing tracked (name :: since)) next
  | .cleaning (.walking tracked since left) next =>
    .cleaning (.walking tracked (name :: since) left) next
  | stage => stage }

/-- `SELECT SUM(size_bytes) FROM job_artifacts WHERE expires_at>?`. -/
def ControllerStore.usedBytes (s : ControllerStore) (now : String) : ℕ :=
  ((s.artifacts.rows.filter fun a => now < a.expiresAt).map (·.sizeBytes)).sum

namespace ArtifactStore

def new (clock : String) : ArtifactStore := ⟨.empty, .empty, .empty, none, 0, clock⟩

variable (env : ArtifactSettings) (s : ArtifactStore)

/-- The call comes to a stage. -/
def goTo (n : ℕ) (stage : Stage) : ArtifactStore :=
  { s with calls := s.calls.upsert ⟨n, stage⟩ }

/-- The call is over. -/
def leave (n : ℕ) : ArtifactStore := { s with calls := s.calls.erase n }

/-- `path.unlink()`, if the file is there. -/
def unlink (name : String) : ArtifactStore := { s with files := s.files.erase name }

/-- The write lock is given back. -/
def release : ArtifactStore := { s with writer := none }

/-- `os.replace(temporary, target)`; the cleanups that are past their transaction do not know the
    new name. -/
def rename (source target : String) (content : List UInt8) : ArtifactStore := { s with
  files := (s.files.erase source).upsert ⟨target, content⟩
  calls := s.calls.updateWhere (fun _ => true) (Call.noteName target) }

/-! ## Single steps -/

/-- A step of `cleanup_artifacts()` (lines 1104–1128); the call goes on with `next`. -/
def cleanupStep (n : ℕ) (next : Option Capture) : Cleanup → ArtifactStore
  | .waiting =>
    if s.writer = none then
      { s with writer := some n }.goTo n (.cleaning (.expiring (s.store.artifacts.rows.filter
        fun a => a.expiresAt ≤ s.clock) []) next)
    else s
  | .expiring (a :: left) gone =>
    (s.unlink a.storageName).goTo n (.cleaning (.expiring left (gone ++ [a.artifactId])) next)
  | .expiring [] gone =>
    let artifacts := s.store.artifacts.deleteWhere fun a => gone.contains a.artifactId
    ({ s with store := { s.store with artifacts := artifacts } }.release).goTo n
      (.cleaning (.listing (artifacts.rows.map Artifact.storageName) []) next)
  | .listing tracked since =>
    s.goTo n (.cleaning (.walking tracked since (s.files.rows.map StoredFile.name)) next)
  | .walking tracked since (name :: left) =>
    (if tracked.contains name then s else s.unlink name).goTo n
      (.cleaning (.walking tracked since left) next)
  | .walking _ _ [] =>
    match next with
    | none => s.leave n
    | some c =>
      { s with files := s.files.upsert ⟨env.temporaryName n, []⟩ }.goTo n
        (.created c s.clock (env.expiresAt s.clock))

/-- The row that a capture inserts. -/
def newArtifact (n : ℕ) (c : Capture) (expiresAt : String) : Artifact :=
  ⟨env.artifactId n, c.jobId, env.storageName n, c.chart.content.length, c.chart.sha256, expiresAt⟩

/-- `UPDATE jobs SET result_summary=?,artifact_observed=1 WHERE job_id=?`. -/
def observeArtifact (c : Capture) : ArtifactStore :=
  { s with store := s.store.updateJob c.jobId fun j => { j with
      resultSummary := some c.chart.resultSummary, artifactObserved := true } }

/-- The transaction of a capture up to `os.replace` (lines 1016–1044). -/
def place (n : ℕ) (c : Capture) (now expiresAt : String) : ArtifactStore :=
  if (s.store.runningJob c.jobId).isNone then s.goTo n .closing
  else if s.store.artifacts.rows.any fun a => a.jobId = c.jobId ∧ a.sha256 = c.chart.sha256 then
    (s.observeArtifact c).goTo n .closing
  else if env.maxArtifactsPerJob ≤ s.store.artifacts.count fun a => a.jobId = c.jobId then
    s.goTo n .closing
  else if env.artifactQuotaBytes < s.store.usedBytes now + c.chart.content.length then
    s.goTo n .closing
  else match s.files.get? (env.temporaryName n) with
    | none => s.goTo n .closing
    | some f =>
      ({ s with writer := some n }.rename f.name (env.storageName n) f.content).goTo n
        (.placed c now (newArtifact env n c expiresAt))

/-- The step with which a call goes on, if it need not wait for the write lock. -/
def goOn (n : ℕ) : Stage → ArtifactStore
  | .cleaning cleanup next => s.cleanupStep env n next cleanup
  | .created c now expiresAt =>
    { s with files := s.files.update (env.temporaryName n) fun f =>
      { f with content := c.chart.content } }.goTo n (.written c now expiresAt)
  | .written c now expiresAt => if s.writer = none then s.place env n c now expiresAt else s
  | .placed c _ row =>
    match s.store.artifacts.insert? row with
    | some artifacts => ({ s with store := { s.store with artifacts := artifacts } }.observeArtifact
        c).release.goTo n .closing
    | none => s.release.goTo n .undoing
  | .undoing => (s.unlink (env.storageName n)).goTo n .closing
  | .closing => (s.unlink (env.temporaryName n)).leave n

/-- The step with which a call goes on when what it tries fails. -/
def fail (n : ℕ) : Stage → ArtifactStore
  | .cleaning (.expiring ..) _ => s.release.leave n
  | .cleaning .. => s.leave n
  | .created .. => s.goTo n .closing
  | .written .. => s.goTo n .closing
  | .placed .. => s.release.goTo n .undoing
  | .undoing => s.goTo n .closing
  | .closing => s.leave n

/-- A new call. -/
def call (next : Option Capture) : ArtifactStore :=
  { s with next := s.next + 1 }.goTo s.next (.cleaning .waiting next)

end ArtifactStore

/-- What happens at a store: a call begins, goes on or fails, another call changes the jobs, the
    Controller stops, and time passes. -/
inductive ArtifactStep where
  | cleanup
  | capture (jobId : String) (chart : Json) (content : List UInt8)
  | goOn (n : ℕ)
  | fail (n : ℕ)
  | job (op : Op)
  | stop
  | elapse (now : String)

/-- One step. -/
def ArtifactStore.step (env : ArtifactSettings) (s : ArtifactStore) : ArtifactStep → ArtifactStore
  | .cleanup => s.call none
  | .capture jobId chart content =>
    match validateChart env.maxArtifactBytes jobId chart content with
    | .ok c => s.call (some ⟨jobId, c⟩)
    | .error _ => s
  | .goOn n =>
    match s.calls.get? n with
    | some c => s.goOn env n c.stage
    | none => s
  | .fail n =>
    match s.calls.get? n with
    | some c => s.fail n c.stage
    | none => s
  | .job op => { s with store := s.store.step env.toSettings op }
  | .stop => { s with calls := .empty, writer := none }
  | .elapse now => { s with clock := max s.clock now }

end HomeAddons.Controller
