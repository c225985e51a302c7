import HomeAddons.Controller.Charts

/-!
# Codex Controller: the files of charts

* `Kept.step`: what the rows, the files and the running calls have to do with each other.
* `charts_kept`: over every run in which no cleanup comes, on its walk through the directory, to a
  name that was given since its transaction, the rows keep to their limits and their files are
  there.
-/

namespace HomeAddons.Controller

open HomeAddons.Common

/-! ## The contract -/

/-- The file of the row has its size and its digest. -/
def Artifact.StoredIn (a : Artifact) (files : Table StoredFile.name) : Prop :=
  ∃ f, files.get? a.storageName = some f ∧ f.content.length = a.sizeBytes ∧
    String.ofList (sha256Chars f.content) = a.sha256

instance (a : Artifact) (files : Table StoredFile.name) : Decidable (a.StoredIn files) :=
  decidable_of_iff ((files.get? a.storageName).any (fun f => f.content.length = a.sizeBytes ∧
    String.ofList (sha256Chars f.content) = a.sha256) = true) (by
      rw [Option.any_eq_true, Artifact.StoredIn]
      simp only [decide_eq_true_eq])

/-- Unexpired rows have their files, their sizes keep to the quota, and no job has too many rows or
    two with one digest. -/
structure ArtifactStore.Integrity (env : ArtifactSettings) (s : ArtifactStore) : Prop where
  stored : ∀ a ∈ s.store.artifacts.rows, s.clock < a.expiresAt → a.StoredIn s.files
  quota : s.store.usedBytes s.clock ≤ env.artifactQuotaBytes
  perJob : ∀ jobId, s.store.artifacts.count (fun a => a.jobId = jobId) ≤ env.maxArtifactsPerJob
  digest : ∀ a ∈ s.store.artifacts.rows, ∀ b ∈ s.store.artifacts.rows, a.jobId = b.jobId →
    a.sha256 = b.sha256 → a = b

/-- A cleanup that walks through the directory does not come to a name that was given to a file
    since its transaction. -/
def ArtifactStore.spares (s : ArtifactStore) : ArtifactStep → Bool
  | .goOn n => match s.calls.get? n with
    | some ⟨_, .cleaning (.walking _ since (name :: _)) _⟩ => !since.contains name
    | _ => true
  | _ => true

/-! ## The invariant -/

/-- The call is in a transaction that writes. -/
def Stage.holds : Stage → Bool
  | .cleaning (.expiring ..) _ => true
  | .placed .. => true
  | _ => false

def Stage.isPlaced : Stage → Bool
  | .placed .. => true
  | _ => false

/-- The names that a cleanup past its transaction keeps, and those that it should. -/
def Stage.knows : Stage → Option (List String × List String)
  | .cleaning (.listing tracked since) _ => some (tracked, since)
  | .cleaning (.walking tracked since _) _ => some (tracked, since)
  | _ => none

theorem Stage.not_isPlaced {stage : Stage} {names : List String × List String}
    (h : stage.knows = some names) : stage.isPlaced = false := by
  cases stage <;> first | rfl | cases h

@[simp] theorem Call.noteName_holds (name : String) (c : Call) :
    (c.noteName name).stage.holds = c.stage.holds := by
  obtain ⟨n, _ | _ | _ | _ | _ | _⟩ := c
  case cleaning cleanup next => cases cleanup <;> rfl
  all_goals rfl

@[simp] theorem Call.noteName_isPlaced (name : String) (c : Call) :
    (c.noteName name).stage.isPlaced = c.stage.isPlaced := by
  obtain ⟨n, _ | _ | _ | _ | _ | _⟩ := c
  case cleaning cleanup next => cases cleanup <;> rfl
  all_goals rfl

variable {name : String} {c : Call}

theorem Call.noteName_closing (h : c.stage = .closing) : (c.noteName name).stage = .closing := by
  rw [Call.noteName, h]

/-- A cleanup past its transaction takes note of the name. -/
theorem Call.noteName_knows {tracked since : List String}
    (h : (c.noteName name).stage.knows = some (tracked, since)) :
    ∃ since₀, since = name :: since₀ ∧ c.stage.knows = some (tracked, since₀) := by
  obtain ⟨n, _ | _ | _ | _ | _ | _⟩ := c
  case cleaning cleanup next =>
    cases cleanup with
    | listing t since₀ =>
      obtain ⟨rfl, rfl⟩ := Prod.mk.inj (Option.some.inj h)
      exact ⟨since₀, rfl, rfl⟩
    | walking t since₀ left =>
      obtain ⟨rfl, rfl⟩ := Prod.mk.inj (Option.some.inj h)
      exact ⟨since₀, rfl, rfl⟩
    | waiting => cases h
    | expiring => cases h
  all_goals cases h

namespace ArtifactStore

/-- What a call relies on. -/
def Fits (env : ArtifactSettings) (s : ArtifactStore) (n : ℕ) : Stage → Prop
  | .cleaning (.expiring left _) _ =>
    ∀ a ∈ left, a ∈ s.store.artifacts.rows ∧ a.expiresAt ≤ s.clock
  | .created _ now _ => now ≤ s.clock
  | .written c now _ => now ≤ s.clock ∧
    ∀ f, s.files.get? (env.temporaryName n) = some f → f.content = c.chart.content
  | .placed c now row => now ≤ s.clock ∧ (∃ expiresAt, row = newArtifact env n c expiresAt) ∧
    row.StoredIn s.files ∧
    (∀ a ∈ s.store.artifacts.rows, a.jobId = c.jobId → a.sha256 ≠ c.chart.sha256) ∧
    s.store.artifacts.count (fun a => a.jobId = c.jobId) < env.maxArtifactsPerJob ∧
    s.store.usedBytes now + c.chart.content.length ≤ env.artifactQuotaBytes
  | _ => True

/-- The rows, the files and the running calls. -/
structure Kept (env : ArtifactSettings) (s : ArtifactStore) : Prop extends Integrity env s where
  distinct : ∀ a ∈ s.store.artifacts.rows, ∀ b ∈ s.store.artifacts.rows,
    a.storageName = b.storageName → a = b
  /-- The file of a row was given its name by a call that has nothing more to do with it. -/
  named : ∀ a ∈ s.store.artifacts.rows, ∃ n < s.next, a.storageName = env.storageName n ∧
    ∀ c ∈ s.calls.rows, c.id = n → c.stage = .closing
  numbered : ∀ c ∈ s.calls.rows, c.id < s.next
  locked : ∀ c ∈ s.calls.rows, c.stage.holds = true → s.writer = some c.id
  fits : ∀ c ∈ s.calls.rows, s.Fits env c.id c.stage
  known : ∀ c ∈ s.calls.rows, ∀ tracked since, c.stage.knows = some (tracked, since) →
    (∀ a ∈ s.store.artifacts.rows, a.storageName ∈ tracked ∨ a.storageName ∈ since) ∧
    ∀ c' ∈ s.calls.rows, c'.stage.isPlaced = true → env.storageName c'.id ∈ since

theorem kept_new (env : ArtifactSettings) (clock : String) : Kept env (new clock) where
  stored := fun _ h => absurd h List.not_mem_nil
  quota := Nat.zero_le _
  perJob := fun _ => Nat.zero_le _
  digest := fun _ h => absurd h List.not_mem_nil
  distinct := fun _ h => absurd h List.not_mem_nil
  named := fun _ h => absurd h List.not_mem_nil
  numbered := fun _ h => absurd h List.not_mem_nil
  locked := fun _ h => absurd h List.not_mem_nil
  fits := fun _ h => absurd h List.not_mem_nil
  known := fun _ h => absurd h List.not_mem_nil

variable {env : ArtifactSettings} {s : ArtifactStore} {n : ℕ}

variable {now name expiresAt : String} {stage stage' : Stage} {c c' : Call} {a : Artifact}
  {t : ControllerStore}

/-- No more is used later. -/
theorem usedBytes_le (t : ControllerStore) {later : String} (h : now ≤ later) :
    t.usedBytes later ≤ t.usedBytes now := by
  unfold ControllerStore.usedBytes
  refine (List.Sublist.map _ (List.monotone_filter_right _ fun a ha => ?_)).sum_le_sum fun _ _ =>
    Nat.zero_le _
  rw [decide_eq_true_eq] at ha ⊢
  exact h.trans_lt ha

/-! ## The calls -/

theorem mem_goTo : c ∈ (s.goTo n stage).calls.rows ↔
    c = ⟨n, stage⟩ ∨ (c ∈ s.calls.rows ∧ c.id ≠ n) := Table.mem_upsert

/-- A call comes to another stage. -/
theorem Kept.goTo (hs : Kept env s) {stage stage' : Stage} (hc : ⟨n, stage⟩ ∈ s.calls.rows)
    (hopen : stage ≠ .closing) (hfits : s.Fits env n stage')
    (hlock : stage'.holds = true → s.writer = some n)
    (hknown : ∀ tracked since, stage'.knows = some (tracked, since) →
      (∀ a ∈ s.store.artifacts.rows, a.storageName ∈ tracked ∨ a.storageName ∈ since) ∧
      ∀ c' ∈ s.calls.rows, c'.id ≠ n → c'.stage.isPlaced = true → env.storageName c'.id ∈ since)
    (hplaced : stage'.isPlaced = true → ∀ c ∈ s.calls.rows, ∀ tracked since,
      c.stage.knows = some (tracked, since) → env.storageName n ∈ since) :
    Kept env (s.goTo n stage') := by
  constructor
  case toIntegrity => exact ⟨hs.stored, hs.quota, hs.perJob, hs.digest⟩
  case distinct => exact hs.distinct
  case named =>
    intro a ha
    obtain ⟨m, hm, hname, hclosing⟩ := hs.named a ha
    refine ⟨m, hm, hname, fun c hc' hid => ?_⟩
    obtain rfl | ⟨hc', -⟩ := mem_goTo.mp hc'
    · exact absurd (hclosing _ hc hid) hopen
    · exact hclosing c hc' hid
  case numbered =>
    intro c hc'
    obtain rfl | ⟨hc', -⟩ := mem_goTo.mp hc'
    · exact hs.numbered ⟨n, stage⟩ hc
    · exact hs.numbered c hc'
  case locked =>
    intro c hc' hholds
    obtain rfl | ⟨hc', -⟩ := mem_goTo.mp hc'
    · exact hlock hholds
    · exact hs.locked c hc' hholds
  case fits =>
    intro c hc'
    obtain rfl | ⟨hc', -⟩ := mem_goTo.mp hc'
    · exact hfits
    · exact hs.fits c hc'
  case known =>
    intro c hc' tracked since hknows
    obtain rfl | ⟨hc', hne⟩ := mem_goTo.mp hc'
    · refine ⟨(hknown tracked since hknows).1, fun c' hc'' hisPlaced => ?_⟩
      obtain rfl | ⟨hc'', hne⟩ := mem_goTo.mp hc''
      · rw [show (⟨n, stage'⟩ : Call).stage = stage' from rfl, Stage.not_isPlaced hknows] at hisPlaced
        cases hisPlaced
      · exact (hknown tracked since hknows).2 c' hc'' hne hisPlaced
    · refine ⟨(hs.known c hc' tracked since hknows).1, fun c' hc'' hisPlaced => ?_⟩
      obtain rfl | ⟨hc'', -⟩ := mem_goTo.mp hc''
      · exact hplaced hisPlaced c hc' tracked since hknows
      · exact (hs.known c hc' tracked since hknows).2 c' hc'' hisPlaced

/-- A call is over. -/
theorem Kept.leave (hs : Kept env s) (n : ℕ) : Kept env (s.leave n) := by
  have hother : ∀ c ∈ (s.leave n).calls.rows, c ∈ s.calls.rows :=
    fun c hc => (Table.mem_erase.mp hc).1
  constructor
  case toIntegrity => exact ⟨hs.stored, hs.quota, hs.perJob, hs.digest⟩
  case distinct => exact hs.distinct
  case named =>
    intro a ha
    obtain ⟨m, hm, hname, hclosing⟩ := hs.named a ha
    exact ⟨m, hm, hname, fun c hc => hclosing c (hother c hc)⟩
  case numbered => exact fun c hc => hs.numbered c (hother c hc)
  case locked => exact fun c hc => hs.locked c (hother c hc)
  case fits => exact fun c hc => hs.fits c (hother c hc)
  case known =>
    intro c hc tracked since hknows
    obtain ⟨hrows, hplaced⟩ := hs.known c (hother c hc) tracked since hknows
    exact ⟨hrows, fun c' hc' => hplaced c' (hother c' hc')⟩

/-- The write lock changes hands while no call holds it. -/
theorem Kept.lock (hs : Kept env s) (hfree : ∀ c ∈ s.calls.rows, c.stage.holds = false)
    (writer : Option ℕ) : Kept env { s with writer := writer } := by
  constructor
  case toIntegrity => exact ⟨hs.stored, hs.quota, hs.perJob, hs.digest⟩
  case distinct => exact hs.distinct
  case named => exact hs.named
  case numbered => exact hs.numbered
  case locked =>
    intro c hc hholds
    rw [hfree c hc] at hholds
    cases hholds
  case fits => exact hs.fits
  case known => exact hs.known

/-- The call that holds the write lock is the only one. -/
theorem Kept.alone (hs : Kept env s) (hc : c ∈ s.calls.rows) (hholds : c.stage.holds = true)
    (hc' : c' ∈ s.calls.rows) (hne : c'.id ≠ c.id) : c'.stage.holds = false := by
  cases hholds' : c'.stage.holds with
  | false => rfl
  | true =>
    have hwriter := hs.locked c hc hholds
    rw [hs.locked c' hc' hholds'] at hwriter
    exact absurd (Option.some.inj hwriter) hne

theorem Kept.unlocked (hs : Kept env s) (hfree : s.writer = none) (hc : c ∈ s.calls.rows) :
    c.stage.holds = false := by
  cases hholds : c.stage.holds with
  | false => rfl
  | true =>
    rw [hs.locked c hc hholds] at hfree
    cases hfree

/-! ## The files -/

/-- The files change, but for those that rows and placed captures need, and nothing is written into
    a temporary file but its chart. -/
theorem Kept.withFiles (hs : Kept env s) {files : Table StoredFile.name}
    (hkeep : ∀ name f, s.files.get? name = some f →
      ((∃ a ∈ s.store.artifacts.rows, s.clock < a.expiresAt ∧ a.storageName = name) ∨
        ∃ c ∈ s.calls.rows, c.stage.isPlaced = true ∧ env.storageName c.id = name) →
      files.get? name = some f)
    (htemporary : ∀ c ∈ s.calls.rows, ∀ x now expiresAt, c.stage = .written x now expiresAt →
      ∀ f, files.get? (env.temporaryName c.id) = some f → f.content = x.chart.content) :
    Kept env { s with files := files } := by
  constructor
  case toIntegrity =>
    refine ⟨fun a ha hunexpired => ?_, hs.quota, hs.perJob, hs.digest⟩
    obtain ⟨f, hf, hsize, hdigest⟩ := hs.stored a ha hunexpired
    exact ⟨f, hkeep _ f hf (.inl ⟨a, ha, hunexpired, rfl⟩), hsize, hdigest⟩
  case distinct => exact hs.distinct
  case named => exact hs.named
  case numbered => exact hs.numbered
  case locked => exact hs.locked
  case fits =>
    intro c hc
    have hfits := hs.fits c hc
    obtain ⟨n, stage⟩ := c
    cases stage with
    | written x now expiresAt => exact ⟨hfits.1, htemporary _ hc x now expiresAt rfl⟩
    | placed x now row =>
      obtain ⟨hnow, ⟨e, hrow⟩, ⟨f, hf, hsize, hdigest⟩, hrest⟩ := hfits
      have hname : row.storageName = env.storageName n := by rw [hrow]; rfl
      exact ⟨hnow, ⟨e, hrow⟩, ⟨f, hkeep _ f hf (.inr ⟨_, hc, rfl, hname.symm⟩), hsize, hdigest⟩,
        hrest⟩
    | cleaning cleanup next => cases cleanup <;> exact hfits
    | created => exact hfits
    | undoing => exact hfits
    | closing => exact hfits
  case known => exact hs.known

/-- A file that nothing needs is unlinked. -/
theorem Kept.unlink (hs : Kept env s)
    (hrows : ∀ a ∈ s.store.artifacts.rows, s.clock < a.expiresAt → a.storageName ≠ name)
    (hplaced : ∀ c ∈ s.calls.rows, c.stage.isPlaced = true → env.storageName c.id ≠ name) :
    Kept env (s.unlink name) := by
  refine hs.withFiles (fun name' f hf hneeded => ?_) fun c hc x now e hstage f hf => ?_
  · rw [Table.get?_erase, if_neg, hf]
    rintro rfl
    obtain ⟨a, ha, hunexpired, hname⟩ | ⟨c, hc, hisPlaced, hname⟩ := hneeded
    · exact hrows a ha hunexpired hname
    · exact hplaced c hc hisPlaced hname
  · rw [Table.get?_erase] at hf
    split_ifs at hf
    have hfits := hs.fits c hc
    rw [hstage] at hfits
    exact hfits.2 f hf

/-- No row has the name that a call gives before it is done. -/
theorem Kept.not_named (hs : Kept env s) (hc : c ∈ s.calls.rows) (hopen : c.stage ≠ .closing)
    (ha : a ∈ s.store.artifacts.rows) : a.storageName ≠ env.storageName c.id := by
  intro hname
  obtain ⟨m, -, hname', hclosing⟩ := hs.named a ha
  exact hopen (hclosing c hc (env.storage_injective (hname.symm.trans hname')))

/-- Names of temporary files are not those of rows. -/
theorem Kept.not_temporary (hs : Kept env s) (ha : a ∈ s.store.artifacts.rows) (m : ℕ) :
    a.storageName ≠ env.temporaryName m := by
  obtain ⟨k, -, hname, -⟩ := hs.named a ha
  rw [hname]
  exact env.apart k m

theorem Fits.noteName (h : s.Fits env c.id c.stage) : s.Fits env c.id (c.noteName name).stage := by
  obtain ⟨n, _ | _ | _ | _ | _ | _⟩ := c
  case cleaning cleanup next => cases cleanup <;> exact h
  all_goals exact h

/-- The cleanups take note of a name. -/
theorem Kept.note (hs : Kept env s) (name : String) :
    Kept env { s with calls := s.calls.updateWhere (fun _ => true) (Call.noteName name) } := by
  have hrows : ∀ c' ∈ (s.calls.updateWhere (fun _ => true) (Call.noteName name)).rows,
      ∃ c ∈ s.calls.rows, c.noteName name = c' := by
    intro c' hc'
    rw [Table.rows_updateWhere, List.mem_map] at hc'
    exact hc'
  constructor
  case toIntegrity => exact ⟨hs.stored, hs.quota, hs.perJob, hs.digest⟩
  case distinct => exact hs.distinct
  case named =>
    intro a ha
    obtain ⟨m, hm, hname, hclosing⟩ := hs.named a ha
    refine ⟨m, hm, hname, fun c' hc' hid => ?_⟩
    obtain ⟨c, hc, rfl⟩ := hrows c' hc'
    exact Call.noteName_closing (hclosing c hc hid)
  case numbered =>
    intro c' hc'
    obtain ⟨c, hc, rfl⟩ := hrows c' hc'
    exact hs.numbered c hc
  case locked =>
    intro c' hc' hholds
    obtain ⟨c, hc, rfl⟩ := hrows c' hc'
    exact hs.locked c hc (c.noteName_holds name ▸ hholds)
  case fits =>
    intro c' hc'
    obtain ⟨c, hc, rfl⟩ := hrows c' hc'
    exact Fits.noteName (hs.fits c hc)
  case known =>
    intro c' hc' tracked since hknows
    obtain ⟨c, hc, rfl⟩ := hrows c' hc'
    obtain ⟨since₀, rfl, hknows₀⟩ := Call.noteName_knows hknows
    obtain ⟨hall, hplaced⟩ := hs.known c hc tracked since₀ hknows₀
    refine ⟨fun a ha => (hall a ha).imp_right (List.mem_cons_of_mem name), fun d' hd' hisPlaced => ?_⟩
    obtain ⟨d, hd, rfl⟩ := hrows d' hd'
    rw [Call.noteName_isPlaced] at hisPlaced
    exact List.mem_cons_of_mem name (hplaced d hd hisPlaced)

/-! ## The rows -/

/-- Rows are deleted by the call that holds the write lock. -/
theorem Kept.delete (hs : Kept env s) (hc : ∀ c ∈ s.calls.rows, c.stage.isPlaced = false)
    (hleft : ∀ c ∈ s.calls.rows, ∀ left gone next, c.stage = .cleaning (.expiring left gone) next →
      left = []) (p : Artifact → Bool) :
    Kept env { s with store := { s.store with artifacts := s.store.artifacts.deleteWhere p } } := by
  have hmem : ∀ a ∈ (s.store.artifacts.deleteWhere p).rows, a ∈ s.store.artifacts.rows :=
    fun a ha => (List.mem_filter.mp ha).1
  constructor
  case toIntegrity =>
    refine ⟨fun a ha => hs.stored a (hmem a ha), le_trans ?_ hs.quota, fun jobId =>
      (List.Sublist.length_le (List.filter_sublist.filter _)).trans (hs.perJob jobId),
      fun a ha b hb => hs.digest a (hmem a ha) b (hmem b hb)⟩
    exact ((List.filter_sublist.filter _).map _).sum_le_sum fun _ _ => Nat.zero_le _
  case distinct => exact fun a ha b hb => hs.distinct a (hmem a ha) b (hmem b hb)
  case named => exact fun a ha => hs.named a (hmem a ha)
  case numbered => exact hs.numbered
  case locked => exact hs.locked
  case fits =>
    intro c hc'
    have hfits := hs.fits c hc'
    have hplaced := hc c hc'
    have hempty := hleft c hc'
    obtain ⟨n, stage⟩ := c
    cases stage with
    | cleaning cleanup next => cases cleanup with
      | expiring left gone =>
        obtain rfl := hempty left gone next rfl
        exact fun a ha => absurd ha List.not_mem_nil
      | _ => exact hfits
    | placed => cases hplaced
    | created => exact hfits
    | written => exact hfits
    | undoing => exact hfits
    | closing => exact hfits
  case known =>
    intro c hc' tracked since hknows
    obtain ⟨hall, hplaced⟩ := hs.known c hc' tracked since hknows
    exact ⟨fun a ha => hall a (hmem a ha), hplaced⟩

/-- The jobs change, the rows do not. -/
theorem Kept.withStore (hs : Kept env s) (ht : t.artifacts = s.store.artifacts) :
    Kept env { s with store := t } := by
  have hused : ∀ now, t.usedBytes now = s.store.usedBytes now := fun now => by
    rw [ControllerStore.usedBytes, ht, ControllerStore.usedBytes]
  constructor
  case toIntegrity =>
    refine ⟨?_, ?_, ?_, ?_⟩
    · exact fun a ha => hs.stored a (ht ▸ ha)
    · exact (hused s.clock).trans_le hs.quota
    · exact fun jobId => ht ▸ hs.perJob jobId
    · exact fun a ha b hb => hs.digest a (ht ▸ ha) b (ht ▸ hb)
  case distinct => exact fun a ha b hb => hs.distinct a (ht ▸ ha) b (ht ▸ hb)
  case named => exact fun a ha => hs.named a (ht ▸ ha)
  case numbered => exact hs.numbered
  case locked => exact hs.locked
  case fits =>
    intro c hc
    have hfits := hs.fits c hc
    obtain ⟨n, stage⟩ := c
    cases stage with
    | cleaning cleanup next => cases cleanup with
      | expiring left gone => exact fun a ha => ⟨ht ▸ (hfits a ha).1, (hfits a ha).2⟩
      | _ => exact hfits
    | placed x now row =>
      obtain ⟨hnow, hrow, hstored, hnew, hcount, hquota⟩ := hfits
      exact ⟨hnow, hrow, hstored, fun a ha => hnew a (ht ▸ ha), ht ▸ hcount,
        (hused now).symm ▸ hquota⟩
    | created => exact hfits
    | written => exact hfits
    | undoing => exact hfits
    | closing => exact hfits
  case known =>
    intro c hc tracked since hknows
    obtain ⟨hall, hplaced⟩ := hs.known c hc tracked since hknows
    exact ⟨fun a ha => hall a (ht ▸ ha), hplaced⟩

/-- A capture inserts its row. -/
theorem Kept.insert (hs : Kept env s) (hc : ⟨n, .closing⟩ ∈ s.calls.rows)
    (hidle : ∀ c ∈ s.calls.rows, c.stage.isPlaced = false) {x : Capture}
    {artifacts : Table Artifact.artifactId}
    (hinsert : s.store.artifacts.insert? (newArtifact env n x expiresAt) = some artifacts)
    (hname : ∀ a ∈ s.store.artifacts.rows, a.storageName ≠ env.storageName n)
    (hknown : ∀ c ∈ s.calls.rows, ∀ tracked since, c.stage.knows = some (tracked, since) →
      env.storageName n ∈ since)
    (hfits : s.Fits env n (.placed x now (newArtifact env n x expiresAt))) :
    Kept env { s with store := { s.store with artifacts := artifacts } } := by
  obtain ⟨hnow, -, hstored, hnew, hcount, hquota⟩ := hfits
  have hmem : ∀ a, a ∈ artifacts.rows ↔
      a ∈ s.store.artifacts.rows ∨ a = newArtifact env n x expiresAt := fun a => by
    rw [Table.rows_insert? hinsert, List.mem_append, List.mem_singleton]
  constructor
  case toIntegrity =>
    refine ⟨fun a ha hunexpired => ?_, ?_, fun jobId => ?_, fun a ha b hb hjob hsha => ?_⟩
    · obtain ha | rfl := (hmem a).mp ha
      · exact hs.stored a ha hunexpired
      · exact hstored
    · show ((artifacts.rows.filter fun a => s.clock < a.expiresAt).map (·.sizeBytes)).sum ≤ _
      have hsum : ((artifacts.rows.filter fun a => s.clock < a.expiresAt).map (·.sizeBytes)).sum ≤
          s.store.usedBytes s.clock + x.chart.content.length := by
        rw [Table.rows_insert? hinsert, List.filter_append, List.map_append, List.sum_append]
        refine Nat.add_le_add_left ?_ _
        rw [List.filter_singleton]
        cases decide (s.clock < (newArtifact env n x expiresAt).expiresAt) with
        | true => exact le_of_eq (by rw [cond_true, List.map_singleton, List.sum_singleton]; rfl)
        | false => exact Nat.zero_le _
      have := usedBytes_le s.store hnow
      omega
    · show artifacts.count _ ≤ _
      rw [Table.count_insert? hinsert]
      split
      case isTrue hjob =>
        rw [decide_eq_true_eq] at hjob
        rw [← hjob]
        exact hcount
      case isFalse => exact hs.perJob jobId
    · obtain ha | rfl := (hmem a).mp ha <;> obtain hb | rfl := (hmem b).mp hb
      · exact hs.digest a ha b hb hjob hsha
      · exact absurd hsha (hnew a ha hjob)
      · exact absurd hsha.symm (hnew b hb hjob.symm)
      · rfl
  case distinct =>
    intro a ha b hb hab
    obtain ha | rfl := (hmem a).mp ha <;> obtain hb | rfl := (hmem b).mp hb
    · exact hs.distinct a ha b hb hab
    · exact absurd hab (hname a ha)
    · exact absurd hab.symm (hname b hb)
    · rfl
  case named =>
    intro a ha
    obtain ha | rfl := (hmem a).mp ha
    · exact hs.named a ha
    · refine ⟨n, hs.numbered _ hc, rfl, fun c hc' hid => ?_⟩
      have hfound := Table.mem_rows_iff.mp hc'
      rw [show c.id = (⟨n, .closing⟩ : Call).id from hid, Table.mem_rows_iff.mp hc,
        Option.some.injEq] at hfound
      rw [← hfound]
  case numbered => exact hs.numbered
  case locked => exact hs.locked
  case fits =>
    intro c hc'
    have hfits := hs.fits c hc'
    have hplaced := hidle c hc'
    obtain ⟨m, stage⟩ := c
    cases stage with
    | cleaning cleanup next => cases cleanup with
      | expiring left gone => exact fun a ha => ⟨(hmem a).mpr (.inl (hfits a ha).1), (hfits a ha).2⟩
      | _ => exact hfits
    | placed => cases hplaced
    | created => exact hfits
    | written => exact hfits
    | undoing => exact hfits
    | closing => exact hfits
  case known =>
    intro c hc' tracked since hknows
    obtain ⟨hall, hplaced⟩ := hs.known c hc' tracked since hknows
    refine ⟨fun a ha => ?_, hplaced⟩
    obtain ha | rfl := (hmem a).mp ha
    · exact hall a ha
    · exact .inr (hknown c hc' tracked since hknows)

/-! ## The steps -/

/-- A call comes to a stage that relies on nothing. -/
theorem Kept.goToPlain (hs : Kept env s) (hc : ⟨n, stage⟩ ∈ s.calls.rows)
    (hopen : stage ≠ .closing) (hfits : s.Fits env n stage') (hholds : stage'.holds = false)
    (hknows : stage'.knows = none) (hplaced : stage'.isPlaced = false) :
    Kept env (s.goTo n stage') := by
  refine hs.goTo hc hopen hfits (fun h => ?_) (fun _ _ h => ?_) fun h => ?_
  · rw [hholds] at h
    cases h
  · rw [hknows] at h
    cases h
  · rw [hplaced] at h
    cases h

/-- After a call has come to a stage outside its transaction, no call holds the write lock. -/
theorem Kept.released (hs : Kept env s) (hc : ⟨n, stage⟩ ∈ s.calls.rows)
    (hholds : stage.holds = true) (hholds' : stage'.holds = false)
    (hnext : Kept env (s.goTo n stage')) : Kept env (s.release.goTo n stage') := by
  refine hnext.lock (fun c hc' => ?_) none
  obtain rfl | ⟨hc', hne⟩ := mem_goTo.mp hc'
  · exact hholds'
  · exact hs.alone hc hholds hc' hne

theorem holds_of_isPlaced (h : stage.isPlaced = true) : stage.holds = true := by
  cases stage <;> first | rfl | cases h

/-- While a call is in its transaction, no other has placed a file. -/
theorem Kept.not_placed (hs : Kept env s) (hc : c ∈ s.calls.rows) (hholds : c.stage.holds = true)
    (hc' : c' ∈ s.calls.rows) (hne : c'.id ≠ c.id) : c'.stage.isPlaced = false := by
  cases hplaced : c'.stage.isPlaced with
  | false => rfl
  | true =>
    have := hs.alone hc hholds hc' hne
    rw [holds_of_isPlaced hplaced] at this
    cases this

/-- A call that is at a stage is the one with its number. -/
theorem eq_of_id (hc : c ∈ s.calls.rows) (hc' : c' ∈ s.calls.rows) (hid : c'.id = c.id) :
    c' = c := by
  have hfound := Table.mem_rows_iff.mp hc'
  rw [hid, Table.mem_rows_iff.mp hc, Option.some.injEq] at hfound
  exact hfound.symm

theorem Kept.cleanupStep (hs : Kept env s) {cleanup : Cleanup} {next : Option Capture}
    (hc : ⟨n, .cleaning cleanup next⟩ ∈ s.calls.rows)
    (hspares : ∀ tracked since name left, cleanup = .walking tracked since (name :: left) →
      name ∉ since) : Kept env (s.cleanupStep env n next cleanup) := by
  have hfits := hs.fits _ hc
  cases cleanup with
  | waiting =>
    simp only [ArtifactStore.cleanupStep]
    split_ifs with hfree
    · have hlock := hs.lock (fun c hc' => hs.unlocked hfree hc') (some n)
      refine @Kept.goTo _ _ _ hlock _ (.cleaning (.expiring (s.store.artifacts.rows.filter
        fun a => a.expiresAt ≤ s.clock) []) next) hc nofun (fun a ha => ?_) (fun _ => rfl)
        (fun _ _ h => ?_) nofun
      · rw [List.mem_filter, decide_eq_true_eq] at ha
        exact ha
      · cases h
    · exact hs
  | expiring left gone =>
    cases left with
    | cons a left =>
      obtain ⟨ha, hexpired⟩ := hfits a List.mem_cons_self
      have hunlink : Kept env (s.unlink a.storageName) := by
        refine hs.unlink (fun b hb hunexpired hname => ?_) fun c hc' hplaced => ?_
        · obtain rfl := hs.distinct b hb a ha hname
          exact absurd hunexpired (not_lt.mpr hexpired)
        · by_cases hid : c.id = n
          · obtain rfl := eq_of_id hc hc' hid
            cases hplaced
          · rw [hs.not_placed hc rfl hc' hid] at hplaced
            cases hplaced
      refine hunlink.goTo hc nofun (fun b hb => hfits b (List.mem_cons_of_mem a hb))
        (fun _ => hs.locked _ hc rfl) (fun _ _ h => ?_) nofun
      cases h
    | nil =>
      have hplaced : ∀ c ∈ s.calls.rows, c.stage.isPlaced = false := by
        intro c hc'
        by_cases hid : c.id = n
        · obtain rfl := eq_of_id hc hc' hid
          rfl
        · exact hs.not_placed hc rfl hc' hid
      have hdelete := hs.delete hplaced (fun c hc' left' gone' next' hstage => ?_)
        fun a => gone.contains a.artifactId
      · refine hdelete.released hc rfl rfl (hdelete.goTo hc nofun trivial nofun
          (fun tracked since hknows => ?_) nofun)
        obtain ⟨rfl, rfl⟩ := Prod.mk.inj (Option.some.inj hknows)
        refine ⟨fun a ha => .inl (List.mem_map_of_mem ha), fun c' hc' _ hisPlaced => ?_⟩
        rw [hplaced c' hc'] at hisPlaced
        cases hisPlaced
      · by_cases hid : c.id = n
        · obtain rfl := eq_of_id hc hc' hid
          cases hstage
          rfl
        · have hholds := hs.alone hc rfl hc' hid
          rw [hstage] at hholds
          cases hholds
  | listing tracked since =>
    refine hs.goTo hc nofun trivial nofun (fun tracked' since' hknows => ?_) nofun
    obtain ⟨rfl, rfl⟩ := Prod.mk.inj (Option.some.inj hknows)
    obtain ⟨hall, hplaced⟩ := hs.known _ hc tracked since rfl
    exact ⟨hall, fun c' hc' _ => hplaced c' hc'⟩
  | walking tracked since left₀ =>
    obtain ⟨hall, hplaced⟩ := hs.known _ hc tracked since rfl
    have hwalk : ∀ {t : ArtifactStore} {left : List String}, Kept env t → t.calls = s.calls →
        t.store = s.store → Kept env (t.goTo n (.cleaning (.walking tracked since left) next)) := by
      intro t left ht hcalls hstore
      have hopen : Stage.cleaning (.walking tracked since left₀) next ≠ .closing := nofun
      refine ht.goTo (hcalls ▸ hc) hopen trivial nofun (fun tracked' since' hknows => ?_) nofun
      obtain ⟨rfl, rfl⟩ := Prod.mk.inj (Option.some.inj hknows)
      rw [hcalls, hstore]
      exact ⟨hall, fun c' hc' _ => hplaced c' hc'⟩
    cases left₀ with
    | cons name left =>
      have hsince := hspares tracked since name left rfl
      simp only [ArtifactStore.cleanupStep]
      split_ifs with htracked
      · exact hwalk hs rfl rfl
      · rw [List.contains_iff_mem] at htracked
        refine hwalk (hs.unlink (fun a ha _ hname => ?_) fun c hc' hisPlaced hname => ?_) rfl rfl
        · rw [← hname] at htracked hsince
          exact (hall a ha).elim htracked hsince
        · exact hsince (hname ▸ hplaced c hc' hisPlaced)
    | nil =>
      cases next with
      | none => exact hs.leave n
      | some c =>
        have hfiles : Kept env { s with files := s.files.upsert ⟨env.temporaryName n, []⟩ } := by
          refine hs.withFiles (fun name f hf hneeded => ?_) fun c' hc' x now e hstage f hf => ?_
          · rw [Table.get?_upsert, if_neg, hf]
            rintro rfl
            obtain ⟨a, ha, -, hname⟩ | ⟨c', -, -, hname⟩ := hneeded
            · exact hs.not_temporary ha n hname
            · exact env.apart _ _ hname
          · rw [Table.get?_upsert] at hf
            split_ifs at hf with hname
            · obtain rfl : c' = _ := eq_of_id hc hc' (env.temporary_injective hname)
              cases hstage
            · have hfits' := hs.fits c' hc'
              rw [hstage] at hfits'
              exact hfits'.2 f hf
        have hopen : Stage.cleaning (.walking tracked since []) (some c) ≠ .closing := nofun
        exact hfiles.goToPlain hc hopen le_rfl rfl rfl rfl

/-- A capture gives its file its name. -/
theorem Kept.rename (hs : Kept env s) (hc : ⟨n, stage⟩ ∈ s.calls.rows) (hopen : stage ≠ .closing)
    (hidle : ∀ c ∈ s.calls.rows, c.stage.isPlaced = false) (content : List UInt8) :
    Kept env (s.rename (env.temporaryName n) (env.storageName n) content) := by
  have hfiles : Kept env { s with
      files := (s.files.erase (env.temporaryName n)).upsert ⟨env.storageName n, content⟩ } := by
    refine hs.withFiles (fun name f hf hneeded => ?_) fun c hc' x now e hstage f hf => ?_
    · obtain ⟨a, ha, -, rfl⟩ | ⟨c, hc', hisPlaced, -⟩ := hneeded
      · rw [Table.get?_upsert, if_neg (hs.not_named hc hopen ha), Table.get?_erase,
          if_neg (hs.not_temporary ha n), hf]
      · rw [hidle c hc'] at hisPlaced
        cases hisPlaced
    · rw [Table.get?_upsert, if_neg fun h => env.apart _ _ h.symm, Table.get?_erase] at hf
      split_ifs at hf
      have hfits := hs.fits c hc'
      rw [hstage] at hfits
      exact hfits.2 f hf
  exact hfiles.note _

theorem Kept.place (hs : Kept env s) {c : Capture}
    (hc : ⟨n, .written c now expiresAt⟩ ∈ s.calls.rows) (hfree : s.writer = none) :
    Kept env (s.place env n c now expiresAt) := by
  obtain ⟨hnow, hwritten⟩ := hs.fits _ hc
  have hclose : ∀ {t : ArtifactStore}, Kept env t → t.calls = s.calls →
      Kept env (t.goTo n .closing) := by
    intro t ht hcalls
    have hopen : Stage.written c now expiresAt ≠ .closing := nofun
    exact ht.goToPlain (hcalls ▸ hc) hopen trivial rfl rfl rfl
  unfold ArtifactStore.place
  split_ifs with hrunning hexisting hcount hquota
  · exact hclose hs rfl
  · exact hclose (hs.withStore rfl) rfl
  · exact hclose hs rfl
  · exact hclose hs rfl
  · split
    case h_1 => exact hclose hs rfl
    case h_2 f hf =>
      have hcontent := hwritten f hf
      have hfname : f.name = env.temporaryName n := Table.key_of_get? hf
      have hidle : ∀ c ∈ s.calls.rows, c.stage.isPlaced = false := fun c' hc' => by
        cases hplaced : c'.stage.isPlaced with
        | false => rfl
        | true =>
          have := hs.unlocked hfree hc'
          rw [holds_of_isPlaced hplaced] at this
          cases this
      have hlock := hs.lock (fun c' hc' => hs.unlocked hfree hc') (some n)
      have hopen : Stage.written c now expiresAt ≠ .closing := nofun
      have hrename := hlock.rename hc hopen hidle f.content
      rw [hfname]
      refine @Kept.goTo _ _ _ hrename (.written c now expiresAt) _ ?_ hopen ?_ (fun _ => rfl)
        (fun _ _ h => ?_) fun _ c' hc' tracked since hknows => ?_
      · show _ ∈ (s.calls.updateWhere (fun _ => true) (Call.noteName (env.storageName n))).rows
        rw [Table.rows_updateWhere, List.mem_map]
        exact ⟨_, hc, rfl⟩
      · refine ⟨hnow, ⟨expiresAt, rfl⟩, ?_, fun a ha hjob hsha => hexisting ?_, ?_, ?_⟩
        · refine ⟨⟨env.storageName n, f.content⟩, ?_, ?_, ?_⟩
          · show ((s.files.erase (env.temporaryName n)).upsert _).get? (env.storageName n) = _
            rw [Table.get?_upsert, if_pos rfl]
          · exact congrArg List.length hcontent
          · exact congrArg (fun l => String.ofList (sha256Chars l)) hcontent
        · exact List.any_eq_true.mpr ⟨a, ha, decide_eq_true ⟨hjob, hsha⟩⟩
        · exact Nat.lt_of_not_le hcount
        · exact Nat.le_of_not_lt hquota
      · cases h
      · obtain ⟨c₀, hc₀, rfl⟩ : ∃ c₀ ∈ s.calls.rows, c₀.noteName (env.storageName n) = c' := by
          have : c' ∈ (s.calls.updateWhere (fun _ => true)
            (Call.noteName (env.storageName n))).rows := hc'
          rw [Table.rows_updateWhere, List.mem_map] at this
          exact this
        obtain ⟨since₀, rfl, -⟩ := Call.noteName_knows hknows
        exact List.mem_cons_self

theorem Kept.goOn (hs : Kept env s) (hc : ⟨n, stage⟩ ∈ s.calls.rows)
    (hspares : ∀ tracked since name left next,
      stage = .cleaning (.walking tracked since (name :: left)) next → name ∉ since) :
    Kept env (s.goOn env n stage) := by
  have hfits : s.Fits env n stage := hs.fits ⟨n, stage⟩ hc
  cases stage with
  | cleaning cleanup next =>
    exact hs.cleanupStep hc fun tracked since name left h => hspares tracked since name left next
      (h ▸ rfl)
  | created c now expiresAt =>
    have hfiles : Kept env { s with files := s.files.update (env.temporaryName n) fun f =>
        { f with content := c.chart.content } } := by
      refine hs.withFiles (fun name f hf hneeded => ?_) fun c' hc' x now' e hstage f hf => ?_
      · rw [Table.get?_update, if_neg, hf]
        rintro rfl
        obtain ⟨a, ha, -, hname⟩ | ⟨c', -, -, hname⟩ := hneeded
        · exact hs.not_temporary ha n hname
        · exact env.apart _ _ hname
      · rw [Table.get?_update, if_neg] at hf
        · have hfits' := hs.fits c' hc'
          rw [hstage] at hfits'
          exact hfits'.2 f hf
        · intro hname
          obtain rfl := eq_of_id hc hc' (env.temporary_injective hname)
          cases hstage
    have hopen : Stage.created c now expiresAt ≠ .closing := nofun
    refine hfiles.goToPlain hc hopen ⟨hfits, fun f hf => ?_⟩ rfl rfl rfl
    rw [Table.get?_update, if_pos rfl, Option.map_eq_some_iff] at hf
    obtain ⟨f₀, -, rfl⟩ := hf
    rfl
  | written c now expiresAt =>
    simp only [ArtifactStore.goOn]
    split_ifs with hfree
    · exact hs.place hc hfree
    · exact hs
  | placed c now row =>
    have hplacedFits := hfits
    obtain ⟨hnow, ⟨expiresAt, rfl⟩, -⟩ := hfits
    have hopen : Stage.placed c now (newArtifact env n c expiresAt) ≠ .closing := nofun
    simp only [ArtifactStore.goOn]
    split
    case h_1 artifacts hinsert =>
      have hclosing : Kept env (s.goTo n .closing) := hs.goToPlain hc hopen trivial rfl rfl rfl
      have hlast : ∀ c' ∈ (s.goTo n .closing).calls.rows, c'.stage.holds = false := by
        intro c' hc'
        obtain rfl | ⟨hc', hne⟩ := mem_goTo.mp hc'
        · rfl
        · exact hs.alone hc rfl hc' hne
      have hinserted := hclosing.insert (mem_goTo.mpr (.inl rfl)) (fun c' hc' => ?_) hinsert
        (fun a ha => hs.not_named hc hopen ha) (fun c' hc' tracked since hknows => ?_) hplacedFits
      · exact (hinserted.withStore (t := (ControllerStore.updateJob _ c.jobId fun j => { j with
          resultSummary := some c.chart.resultSummary, artifactObserved := true })) rfl).lock hlast
            none
      · cases hplaced : c'.stage.isPlaced with
        | false => rfl
        | true =>
          have := hlast c' hc'
          rw [holds_of_isPlaced hplaced] at this
          cases this
      · obtain rfl | ⟨hc', -⟩ := mem_goTo.mp hc'
        · cases hknows
        · exact (hs.known c' hc' tracked since hknows).2 _ hc rfl
    case h_2 =>
      exact hs.released hc rfl rfl (hs.goToPlain hc hopen trivial rfl rfl rfl)
  | undoing =>
    have hopen : Stage.undoing ≠ .closing := nofun
    have hunlink : Kept env (s.unlink (env.storageName n)) := by
      refine hs.unlink (fun a ha _ => hs.not_named hc hopen ha) fun c' hc' hplaced hname => ?_
      obtain rfl := eq_of_id hc hc' (env.storage_injective hname)
      cases hplaced
    exact hunlink.goToPlain hc hopen trivial rfl rfl rfl
  | closing =>
    exact (hs.unlink (fun a ha _ => hs.not_temporary ha n)
      fun c' _ _ => env.apart c'.id n).leave n

theorem Kept.fail (hs : Kept env s) (hc : ⟨n, stage⟩ ∈ s.calls.rows) :
    Kept env (s.fail n stage) := by
  have hclose : ∀ {stage'}, stage ≠ .closing → s.Fits env n stage' → stage'.holds = false →
      stage'.knows = none → stage'.isPlaced = false → Kept env (s.goTo n stage') :=
    fun hopen => hs.goToPlain hc hopen
  cases stage with
  | cleaning cleanup next => cases cleanup with
    | expiring left gone =>
      refine (hs.leave n).lock (fun c hc' => ?_) none
      obtain ⟨hc', hne⟩ := Table.mem_erase.mp hc'
      exact hs.alone hc rfl hc' hne
    | _ => exact hs.leave n
  | created => exact hclose nofun trivial rfl rfl rfl
  | written => exact hclose nofun trivial rfl rfl rfl
  | placed => exact hs.released hc rfl rfl (hclose nofun trivial rfl rfl rfl)
  | undoing => exact hclose nofun trivial rfl rfl rfl
  | closing => exact hs.leave n

/-- A new call has a number, and hence file names, of its own. -/
theorem Kept.call (hs : Kept env s) (next : Option Capture) : Kept env (s.call next) := by
  have hmem : ∀ c, c ∈ (s.call next).calls.rows →
      c = ⟨s.next, .cleaning .waiting next⟩ ∨ c ∈ s.calls.rows :=
    fun c hc => (mem_goTo.mp hc).imp_right And.left
  constructor
  case toIntegrity => exact ⟨hs.stored, hs.quota, hs.perJob, hs.digest⟩
  case distinct => exact hs.distinct
  case named =>
    intro a ha
    obtain ⟨m, hm, hname, hclosing⟩ := hs.named a ha
    refine ⟨m, Nat.lt_succ_of_lt hm, hname, fun c hc hid => ?_⟩
    obtain rfl | hc := hmem c hc
    · exact absurd hid hm.ne'
    · exact hclosing c hc hid
  case numbered =>
    intro c hc
    obtain rfl | hc := hmem c hc
    · exact Nat.lt_succ_self s.next
    · exact Nat.lt_succ_of_lt (hs.numbered c hc)
  case locked =>
    intro c hc hholds
    obtain rfl | hc := hmem c hc
    · cases hholds
    · exact hs.locked c hc hholds
  case fits =>
    intro c hc
    obtain rfl | hc := hmem c hc
    · trivial
    · exact hs.fits c hc
  case known =>
    intro c hc tracked since hknows
    obtain rfl | hc := hmem c hc
    · cases hknows
    · obtain ⟨hall, hplaced⟩ := hs.known c hc tracked since hknows
      refine ⟨hall, fun c' hc' hisPlaced => ?_⟩
      obtain rfl | hc' := hmem c' hc'
      · cases hisPlaced
      · exact hplaced c' hc' hisPlaced

/-- Later more rows are expired. -/
theorem Kept.later (hs : Kept env s) {clock : String} (h : s.clock ≤ clock) :
    Kept env { s with clock := clock } := by
  constructor
  case toIntegrity =>
    exact ⟨fun a ha hunexpired => hs.stored a ha (h.trans_lt hunexpired),
      (usedBytes_le s.store h).trans hs.quota, hs.perJob, hs.digest⟩
  case distinct => exact hs.distinct
  case named => exact hs.named
  case numbered => exact hs.numbered
  case locked => exact hs.locked
  case fits =>
    intro c hc
    have hfits := hs.fits c hc
    obtain ⟨n, stage⟩ := c
    cases stage with
    | cleaning cleanup next => cases cleanup with
      | expiring left gone => exact fun a ha => ⟨(hfits a ha).1, (hfits a ha).2.trans h⟩
      | _ => exact hfits
    | created => exact hfits.trans h
    | written => exact ⟨hfits.1.trans h, hfits.2⟩
    | placed => exact ⟨hfits.1.trans h, hfits.2⟩
    | undoing => exact hfits
    | closing => exact hfits
  case known => exact hs.known

/-- The calls on jobs leave the artifacts alone. -/
theorem apply_artifacts {cfg : Settings} {t' : ControllerStore} {op : Op}
    (h : t.apply cfg op = .ok t') : t'.artifacts = t.artifacts := by
  have hconversation : ∀ {t t' : ControllerStore} {k thread now : String},
      t.setConversationThread k thread now = .ok t' → t'.artifacts = t.artifacts := by
    intro t t' k thread now hset
    simp only [ControllerStore.setConversationThread, bind_eq_ok, pure_eq_ok] at hset
    obtain ⟨-, -, rfl⟩ := hset
    rfl
  cases op with
  | createJob payload jobId now =>
    simp only [ControllerStore.apply, map_eq_ok, ControllerStore.createJob, bind_eq_ok] at h
    obtain ⟨⟨t₁, j⟩, ⟨input, -, hcreate⟩, rfl⟩ := h
    split at hcreate <;> simp only [bind_eq_ok, pure_eq_ok] at hcreate
    · obtain ⟨-, -, h⟩ := hcreate
      exact congrArg (ControllerStore.artifacts ∘ Prod.fst) h.symm
    · obtain ⟨-, -, jobs, -, h⟩ := hcreate
      exact congrArg (ControllerStore.artifacts ∘ Prod.fst) h.symm
  | claimNext clock =>
    obtain rfl := Except.ok.inj h
    unfold ControllerStore.claimNext
    split
    · rfl
    · split
      · rfl
      · split <;> rfl
  | assignThread jobId threadId now =>
    simp only [ControllerStore.apply, ControllerStore.assignThread, bind_eq_ok, pure_eq_ok] at h
    obtain ⟨-, -, j, -, t₁, hset, rfl⟩ := h
    show t₁.artifacts = _
    exact hconversation hset
  | assignTurn jobId turnId =>
    simp only [ControllerStore.apply, ControllerStore.assignTurn, bind_eq_ok, pure_eq_ok] at h
    obtain ⟨-, -, -, -, -, -, rfl⟩ := h
    rfl
  | setResultText turnId text =>
    obtain rfl := Except.ok.inj h
    unfold ControllerStore.setResultText
    split <;> rfl
  | observeTurnActivity turnId o =>
    obtain rfl := Except.ok.inj h
    unfold ControllerStore.observeTurnActivity
    split <;> rfl
  | observeTurnError turnId errorType errorCode status retryable =>
    obtain rfl := Except.ok.inj h
    unfold ControllerStore.observeTurnError
    split <;> rfl
  | completeTurn turnId c clock =>
    simp only [ControllerStore.apply, map_eq_ok] at h
    obtain ⟨⟨t₁, b⟩, hcomplete, rfl⟩ := h
    unfold ControllerStore.completeTurn at hcomplete
    split at hcomplete
    · cases hcomplete
      rfl
    · split at hcomplete
      · simp only [bind_eq_ok, pure_eq_ok] at hcomplete
        obtain ⟨jobs, -, h⟩ := hcomplete
        exact congrArg (ControllerStore.artifacts ∘ Prod.fst) h.symm
      · cases hcomplete
        rfl
  | completeNewThread jobId threadId resultText now =>
    simp only [ControllerStore.apply, ControllerStore.completeNewThread, bind_eq_ok, pure_eq_ok] at h
    obtain ⟨-, -, j, -, t₁, hset, rfl⟩ := h
    show t₁.artifacts = _
    exact hconversation hset
  | completeDirectResult jobId resultText now =>
    simp only [ControllerStore.apply, ControllerStore.completeDirectResult, bind_eq_ok,
      pure_eq_ok] at h
    obtain ⟨-, -, rfl⟩ := h
    rfl
  | failClaimed jobId errorCode uncertain now =>
    simp only [ControllerStore.apply, ControllerStore.failClaimed, bind_eq_ok] at h
    obtain ⟨-, -, h⟩ := h
    split at h <;> obtain rfl := pure_eq_ok.mp h <;> rfl
  | retryOverloaded jobId maxAttempts delay clock =>
    simp only [ControllerStore.apply, map_eq_ok] at h
    obtain ⟨⟨t₁, b⟩, hretry, rfl⟩ := h
    unfold ControllerStore.retryOverloaded at hretry
    split at hretry
    · cases hretry
      rfl
    · simp only [bind_eq_ok, pure_eq_ok] at hretry
      obtain ⟨jobs, -, h⟩ := hretry
      exact congrArg (ControllerStore.artifacts ∘ Prod.fst) h.symm
  | recoverRunning now =>
    obtain rfl := Except.ok.inj h
    rfl
  | resolveRecovery jobId resolution now =>
    simp only [ControllerStore.apply, ControllerStore.resolveRecovery, bind_eq_ok, pure_eq_ok] at h
    obtain ⟨-, -, -, -, -, -, rfl⟩ := h
    rfl
  | cancelQueued jobId now =>
    obtain rfl := Except.ok.inj h
    unfold ControllerStore.cancelQueued
    split <;> rfl

theorem step_artifacts (cfg : Settings) (t : ControllerStore) (op : Op) :
    (t.step cfg op).artifacts = t.artifacts := by
  obtain happly | hsame := ControllerStore.step_cases cfg t op
  · exact apply_artifacts happly
  · rw [hsame]

theorem Kept.step (hs : Kept env s) (e : ArtifactStep) (hspares : s.spares e = true) :
    Kept env (s.step env e) := by
  cases e with
  | cleanup => exact hs.call none
  | capture jobId chart content =>
    simp only [ArtifactStore.step]
    split
    · exact hs.call _
    · exact hs
  | goOn n =>
    simp only [ArtifactStore.step]
    cases hc : s.calls.get? n with
    | none => exact hs
    | some c =>
      obtain rfl := Table.key_of_get? hc
      refine hs.goOn (Table.mem_of_get? hc) fun tracked since name left next hstage => ?_
      have hcall : c = ⟨c.id, .cleaning (.walking tracked since (name :: left)) next⟩ := by
        rw [← hstage]
      simp only [ArtifactStore.spares] at hspares
      rw [hc, hcall] at hspares
      simpa using hspares
  | fail n =>
    simp only [ArtifactStore.step]
    cases hc : s.calls.get? n with
    | none => exact hs
    | some c =>
      obtain rfl := Table.key_of_get? hc
      exact hs.fail (Table.mem_of_get? hc)
  | job op => exact hs.withStore (step_artifacts env.toSettings s.store op)
  | stop =>
    constructor
    case toIntegrity => exact ⟨hs.stored, hs.quota, hs.perJob, hs.digest⟩
    case distinct => exact hs.distinct
    case named =>
      intro a ha
      obtain ⟨m, hm, hname, -⟩ := hs.named a ha
      exact ⟨m, hm, hname, fun _ hc => absurd hc List.not_mem_nil⟩
    case numbered => exact fun _ hc => absurd hc List.not_mem_nil
    case locked => exact fun _ hc => absurd hc List.not_mem_nil
    case fits => exact fun _ hc => absurd hc List.not_mem_nil
    case known => exact fun _ hc => absurd hc List.not_mem_nil
  | elapse now => exact hs.later (le_max_left _ _)

end ArtifactStore

/-! ## Every run -/

open ArtifactStore in
/-- Over every run of captures and cleanups, of which any step may fail, with other calls on the
    jobs, stops and the passing of time in between: if no cleanup comes, on its walk through the
    directory, to a name that was given since its transaction, the contract holds in every
    state. -/
theorem charts_kept (env : ArtifactSettings) (clock : String) (es : List ArtifactStep)
    (hspares : EveryStep (step env) (fun s e => s.spares e = true) (new clock) es) :
    Throughout (step env) (Integrity env) (new clock) es :=
  (throughout_of_everyStep _ (fun _ e hs he => hs.step e he) (kept_new env clock) hspares).imp _
    fun _ hs => hs.toIntegrity

/-! ## A cleanup beside a capture -/

def chartEnv : ArtifactSettings where
  maxQueue := 20
  maxResultChars := 32000
  repr _ := ""
  artifactId n := "artifact-" ++ toString n
  storageName n := String.ofList (List.replicate n 'a' ++ ".png".toList)
  temporaryName n := String.ofList (".artifact.".toList ++ List.replicate n 'a')
  storage_injective m n h := by
    have hlength := congrArg List.length (String.ofList_injective h)
    simpa using hlength
  temporary_injective m n h := by
    have hlength := congrArg List.length (String.ofList_injective h)
    simpa using hlength
  apart m n h := by
    have hlast := congrArg List.getLast? (String.ofList_injective h)
    have hg : (List.replicate m 'a' ++ ".png".toList).getLast? = some 'g' := by
      rw [List.getLast?_append]
      rfl
    rw [hg] at hlast
    cases n with
    | zero => cases hlast
    | succ n =>
      rw [List.replicate_succ', ← List.append_assoc, List.getLast?_concat] at hlast
      cases hlast
  maxArtifactBytes := 20 * 1024 * 1024
  artifactQuotaBytes := 100 * 1024 * 1024
  maxArtifactsPerJob := 4
  expiresAt _ := "2026-08-11T00:00:02+00:00"

def chartPayload : Json := .obj [("version", .int 1), ("message_id", .str "wx-1"),
  ("conversation_key", .str ("sha256:" ++ String.ofList (List.replicate 64 '0'))),
  ("received_at", .str "2026-08-10T08:00:00+08:00"), ("text", .str "装修账单统计图"),
  ("attachments", .arr []), ("reply_capabilities", .arr [.str "text", .str "image"]),
  ("capability_profile", .str "owner")]

def chartMetadata : Json := .obj [
  ("download_ref", .str ("summary-" ++ String.ofList (List.replicate 32 '0') ++ ".png")),
  ("size_bytes", .int 8), ("sha256", .str (String.ofList (sha256Chars pngMagic))),
  ("width", .int 640), ("height", .int 480),
  ("summary", .obj [("transaction_count", .int 2), ("net_amount", .str "120.00")])]

/-- A job runs, and its chart comes up to the transaction of its capture. -/
def captureRun : List ArtifactStep := [
  .job (.createJob chartPayload "job-1" "2026-08-10T00:00:00+00:00"),
  .job (.claimNext ⟨"2026-08-10T00:00:01+00:00", "2026-08-10T08:00:01+08:00", fun _ => none⟩),
  .elapse "2026-08-10T00:00:02+00:00", .capture "job-1" chartMetadata pngMagic,
  .goOn 0, .goOn 0, .goOn 0, .goOn 0, .goOn 0]

/-- The transaction of a cleanup ends before that of the capture, and its walk comes after it. -/
theorem cleanup_unlinks_chart :
    ¬ Throughout (ArtifactStore.step chartEnv) (ArtifactStore.Integrity chartEnv)
      (ArtifactStore.new "2026-08-10T00:00:00+00:00")
      (captureRun ++ [.cleanup, .goOn 1, .goOn 1, .goOn 0, .goOn 0, .goOn 1, .goOn 1]) := by
  intro h
  have hstored := h.last.stored
  revert hstored
  decide +kernel

theorem charts_kept_after :
    Throughout (ArtifactStore.step chartEnv) (ArtifactStore.Integrity chartEnv)
      (ArtifactStore.new "2026-08-10T00:00:00+00:00")
      (captureRun ++ [.goOn 0, .goOn 0, .cleanup, .goOn 1, .goOn 1, .goOn 1, .goOn 1, .goOn 0]) :=
  charts_kept chartEnv _ _ (by decide +kernel)

end HomeAddons.Controller
