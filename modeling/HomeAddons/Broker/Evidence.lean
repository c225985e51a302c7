import HomeAddons.Broker.Contract
import HomeAddons.Common.IsoOrder
import HomeAddons.Common.Lex
import HomeAddons.Common.Run
import HomeAddons.Common.Table

/-!
# The registry of backup evidence

Models of `register_backup_evidence`, `select_backup_evidence` and `_assert_backup_evidence_row`
(`operations_broker/authorization.py`, lines 323–435 and 1542–1594).

The selection compares texts, which hold whole seconds, and then checks the row that it found
against the exact instants. The order of the texts is that of the instants (`isoformat_le_iff`), so
the two tests differ in the last second only: a record that expires in the second of `valid_until`
but before it, or that is no longer valid now, is found and then refused.

* `mem_found_iff`: the rows that the statement finds are the usable ones and those on the fringe.
* `select_exact_iff`: the selection is exact iff no row on the fringe comes before the usable ones.
-/

namespace HomeAddons.Broker

open HomeAddons.Common

/-- An aware `datetime`, as the instant it names. -/
abbrev Datetime : Type := { t : Instant // inYears t = true }

/-! ## Rows -/

/-- A row of `backup_evidence`. -/
structure BackupRow where
  logicalId : String
  scope : String
  completed : ℕ
  createdAt : String
  size : ℤ
  sha256 : String
  offDeviceSha256 : String
  readable : ℕ
  baseline : String
  expiresAt : String
  registeredAt : String
  deriving DecidableEq

/-- The table `backup_evidence`; a trigger refuses every update and deletion. -/
abbrev Registry := Table BackupRow.logicalId

/-- `_backup_evidence_document(row)`; `version` is 1 and the flags are the columns. -/
def BackupRow.document (r : BackupRow) : BackupEvidence where
  scope := r.scope
  logicalId := r.logicalId
  createdAt := r.createdAt
  size := r.size
  sha256 := r.sha256
  offDeviceSha256 := r.offDeviceSha256
  baseline := r.baseline
  expiresAt := r.expiresAt

/-- The row of a record (lines 352–374). -/
def BackupEvidence.row (e : BackupEvidence) (registeredAt : Instant) : BackupRow where
  logicalId := e.logicalId
  scope := e.scope
  completed := 1
  createdAt := e.createdAt
  size := e.size
  sha256 := e.sha256
  offDeviceSha256 := e.offDeviceSha256
  readable := 1
  baseline := e.baseline
  expiresAt := e.expiresAt
  registeredAt := isoTimestamp registeredAt

/-- `register_backup_evidence(evidence, registered_at=registered_at)` (lines 323–379). -/
def Registry.register (py : Python) (T : Registry) (evidence : Value) (registeredAt : Datetime) :
    Except Raise (Registry × BackupEvidence) := do
  let validated ← authorized (py.validateBackupEvidence evidence registeredAt.1)
  match T.get? validated.logicalId with
  | some existing =>
    ensure (existing.document = validated ∧ existing.completed = 1 ∧ existing.readable = 1)
      (.authorization "backup_evidence_conflict"
        "Backup evidence logical ID already has different content")
    return (T, existing.document)
  | none =>
    let T' ← orRaise (T.insert? (validated.row registeredAt.1)) .integrityError
    return (T', validated)

/-- A call to register a record; a refused one changes nothing. -/
def Registry.step (py : Python) (T : Registry) (call : Value × Datetime) : Registry :=
  match T.register py call.1 call.2 with
  | .ok (T', _) => T'
  | .error _ => T

/-- A set of registered records: what calls to register have made of an empty table. -/
def Registry.Reachable (py : Python) : Registry → Prop :=
  ReachableFrom (Registry.step py) Table.empty

/-! ## The second predicate (lines 1542–1594) -/

/-- A timestamp of a row (lines 1577–1587). -/
def rowTime (text : String) (field : String) : Except Raise Instant :=
  match parseTimestamp (.str (PyStr.ofString text)) field with
  | .error (.contract _ _) =>
    .error (.authorization "backup_evidence_changed" "Backup evidence timestamps are invalid")
  | x => x

/-- `_assert_backup_evidence_row(row, logical_id=…, …)`. -/
def assertBackupEvidenceRow (row : Option BackupRow) (logicalId : Option String)
    (scopes : List String) (baseline : String) (now validUntil : Instant) : Except Raise Unit := do
  let row ← orRaise row (.authorization "backup_evidence_required" "Backup evidence is missing")
  let logicalId ← orRaise logicalId
    (.authorization "backup_evidence_required" "Backup evidence is missing")
  ensure (row.logicalId = logicalId ∧ row.scope ∈ scopes ∧ row.baseline = baseline)
    (.authorization "backup_evidence_changed" "Backup evidence binding changed")
  ensure (row.completed = 1 ∧ row.readable = 1 ∧ 1 ≤ row.size ∧
      sha256Re (PyStr.ofString row.sha256) ∧ sha256Re (PyStr.ofString row.offDeviceSha256) ∧
      sha256Re (PyStr.ofString row.baseline))
    (.authorization "backup_evidence_changed" "Backup evidence is no longer usable")
  let createdAt ← rowTime row.createdAt "backup_evidence.created_at"
  let expiresAt ← rowTime row.expiresAt "backup_evidence.expires_at"
  ensure (createdAt ≤ now)
    (.authorization "backup_evidence_changed" "Backup evidence creation time changed")
  ensure (now < expiresAt ∧ validUntil ≤ expiresAt)
    (.authorization "backup_evidence_expired"
      "Backup evidence does not cover the authorization window")

/-! ## The selection (lines 393–435) -/

section

variable (scopes : List String) (baseline : String) (now validUntil : Instant)

/-- `ORDER BY CASE scope … END,created_at DESC,logical_id ASC`. -/
def selectionOrder : BackupRow → BackupRow → Prop :=
  LexBy (fun r => scopes.idxOf r.scope) fun r => toLex (OrderDual.toDual r.createdAt, r.logicalId)

instance : DecidableRel (selectionOrder scopes) :=
  inferInstanceAs (DecidableRel (LexBy (fun r : BackupRow => scopes.idxOf r.scope) fun r =>
    toLex (OrderDual.toDual r.createdAt, r.logicalId)))

instance : Std.Total (selectionOrder scopes) :=
  inferInstanceAs (Std.Total (LexBy (fun r : BackupRow => scopes.idxOf r.scope) fun r =>
    toLex (OrderDual.toDual r.createdAt, r.logicalId)))

instance : IsTrans BackupRow (selectionOrder scopes) :=
  inferInstanceAs (IsTrans BackupRow (LexBy (fun r : BackupRow => scopes.idxOf r.scope) fun r =>
    toLex (OrderDual.toDual r.createdAt, r.logicalId)))

/-- `WHERE scope IN (…) AND baseline=? AND … AND created_at<=? AND expires_at>=?`. -/
def found (r : BackupRow) : Bool :=
  r.scope ∈ scopes ∧ r.baseline = baseline ∧ r.completed = 1 ∧ r.readable = 1 ∧
    r.createdAt ≤ isoTimestamp now ∧ isoTimestamp validUntil ≤ r.expiresAt

/-- `select_backup_evidence(scopes=…, baseline=…, now=…, valid_until=…)`. -/
def Registry.selectBackupEvidence (T : Registry) : Except Raise BackupEvidence := do
  ensure (scopes ≠ [] ∧ ∀ scope ∈ scopes, scope ∈ backupEvidenceScopes)
    (.authorization "backup_evidence_scope_invalid" "Backup evidence scope is invalid")
  let row ← orRaise ((T.rows.insertionSort (selectionOrder scopes)).find?
      (found scopes baseline now validUntil))
    (.authorization "backup_evidence_required"
      "A completed, readable, unexpired backup evidence record is required")
  assertBackupEvidenceRow (some row) (some row.logicalId) scopes baseline now validUntil
  return row.document

/-- The row satisfies the second predicate. -/
def Usable (r : BackupRow) : Prop :=
  assertBackupEvidenceRow (some r) (some r.logicalId) scopes baseline now validUntil = .ok ()

end

/-! ## What is registered -/

/-- The instant of a column. -/
def columnTime (text : String) : Instant := (parseTime text).toOption.getD 0

def BackupRow.created (r : BackupRow) : Instant := columnTime r.createdAt

def BackupRow.expires (r : BackupRow) : Instant := columnTime r.expiresAt

/-- The text of a whole second. -/
def IsSecondText (text : String) : Prop :=
  ∃ t : ℤ, inYears t = true ∧ t % 1000000 = 0 ∧ text = isoformat t

/-- A registered row has passed the validator. -/
structure BackupRow.Registered (r : BackupRow) : Prop where
  scope : r.scope ∈ backupEvidenceScopes
  completed : r.completed = 1
  readable : r.readable = 1
  size : 1 ≤ r.size
  hashes : sha256Re (PyStr.ofString r.sha256) = true ∧
    sha256Re (PyStr.ofString r.offDeviceSha256) = true ∧
    sha256Re (PyStr.ofString r.baseline) = true
  createdAt : IsSecondText r.createdAt
  expiresAt : IsSecondText r.expiresAt

variable {t : ℤ} {field : String} {py : Python} {now : Instant} {T : Registry}
  {scopes : List String} {a b : BackupRow}

theorem inYears_wholeSecond (h : inYears t = true) : inYears (wholeSecond t) = true := by
  have hfirst : (1 - (epochOrdinal : ℤ)) * dayMicros = -62135596800000000 := rfl
  have hend : ((maxOrdinal : ℤ) + 1 - epochOrdinal) * dayMicros = 253402300800000000 := rfl
  rw [inYears, decide_eq_true_eq, hfirst, hend] at h ⊢
  obtain ⟨hlow, hhigh⟩ := h
  have hlow' : -62135596800000000 ≤ t := hlow
  have hhigh' : t < 253402300800000000 := hhigh
  show -62135596800000000 ≤ t - t % 1000000 ∧ t - t % 1000000 < 253402300800000000
  omega

theorem wholeSecond_mod (t : ℤ) : wholeSecond t % 1000000 = 0 := by
  show (t - t % 1000000) % 1000000 = 0
  omega

/-- A whole second is not after an instant iff it is not after its second. -/
theorem le_wholeSecond_iff {s : ℤ} (h : s % 1000000 = 0) : s ≤ wholeSecond t ↔ s ≤ t := by
  show s ≤ t - t % 1000000 ↔ s ≤ t
  omega

/-- A timestamp that is read is written as the text of a second. -/
theorem isSecondText_of_parse {v : Value} {t : Instant} (h : parseTimestamp v field = .ok t) :
    IsSecondText (isoTimestamp t) := by
  simp only [parseTimestamp, bind_eq_ok, orRaise_eq_ok, toOption_eq_some] at h
  obtain ⟨text, -, -, -, -, -, -, -, hparse⟩ := h
  have hin := inYears_of_parseTime hparse
  exact ⟨wholeSecond t, inYears_wholeSecond hin, wholeSecond_mod t, rfl⟩

theorem sha256Re_of_evidenceHash {d : ValueDict} {text : String}
    (h : evidenceHash d field = .ok text) : sha256Re (PyStr.ofString text) = true := by
  simp only [evidenceHash, bind_eq_ok, orRaise_eq_ok, ensure_eq_ok, pure_eq_ok] at h
  obtain ⟨raw, -, -, hre, rfl⟩ := h
  rw [sha256Re, labelled, PyStr.shown_ofString]
  exact hre

/-- What the validator returns can be registered. -/
theorem registered_row {evidence : Value} {e : BackupEvidence}
    (h : py.validateBackupEvidence evidence now = .ok e) (t : Instant) : (e.row t).Registered := by
  simp only [Python.validateBackupEvidence, bind_eq_ok, orRaise_eq_ok, ensure_eq_ok,
    pure_eq_ok] at h
  obtain ⟨d, -, -, -, -, -, -, -, scope, hscope, -, -, -, -, -, -, -, -, size, -, -, hsize, sha, hsha,
    off, hoff, base, hbase, created, hcreated, expires, hexpires, -, -, -, -, rfl⟩ := h
  exact {
    scope := List.mem_of_find?_eq_some hscope
    completed := rfl
    readable := rfl
    size := hsize.1
    hashes := ⟨sha256Re_of_evidenceHash hsha, sha256Re_of_evidenceHash hoff,
      sha256Re_of_evidenceHash hbase⟩
    createdAt := isSecondText_of_parse hcreated
    expiresAt := isSecondText_of_parse hexpires }

/-- Every row of a set of registered records has passed the validator. -/
theorem Registry.Reachable.registered (hT : T.Reachable py) : ∀ r ∈ T.rows, r.Registered := by
  refine invariant_of_reachable (Registry.step py)
    (I := fun T : Registry => ∀ r ∈ T.rows, r.Registered) ?_ ?_ hT
  · intro T call hrows
    unfold Registry.step
    split
    · next T' doc hcall =>
      simp only [Registry.register, bind_eq_ok] at hcall
      obtain ⟨e, he, hcall⟩ := hcall
      have hvalid : py.validateBackupEvidence call.1 call.2.1 = .ok e := by
        cases hv : py.validateBackupEvidence call.1 call.2.1 with
        | ok e' =>
          rw [hv] at he
          cases he
          rfl
        | error exc =>
          rw [hv] at he
          cases exc <;> cases he
      split at hcall
      · simp only [bind_eq_ok, ensure_eq_ok, pure_eq_ok, Prod.mk.injEq] at hcall
        obtain ⟨-, -, rfl, -⟩ := hcall
        exact hrows
      · simp only [bind_eq_ok, orRaise_eq_ok, pure_eq_ok, Prod.mk.injEq] at hcall
        obtain ⟨T'', hinsert, rfl, -⟩ := hcall
        intro r hr
        rw [Table.rows_insert? hinsert, List.mem_append, List.mem_singleton] at hr
        obtain hr | rfl := hr
        · exact hrows r hr
        · exact registered_row hvalid _
    · exact hrows
  · intro r hr
    cases hr

/-! ## The two predicates on a registered row -/

theorem columnTime_isoformat (h : inYears t = true) : columnTime (isoformat t) = t := by
  rw [columnTime, parseTime_isoformat h]
  rfl

/-- What was written is read. -/
theorem parseTimestamp_isoformat (h : inYears t = true) (field : String) :
    parseTimestamp (.str (PyStr.ofString (isoformat t))) field = .ok t := by
  have hlength : (PyStr.ofString (isoformat t)).length ≤ 64 := by
    rw [PyStr.ofString, List.length_map]
    exact (length_isoformat h).trans (by decide)
  rw [parseTimestamp, Value.asStr?, orRaise_some, ok_bind, ensure_bind_of hlength,
    PyStr.shown_ofString, fromIsoformat_isoformat h, orRaise_some, ok_bind,
    ensure_bind_of (by rfl), parseTime_isoformat h]
  rfl

theorem rowTime_isoformat (h : inYears t = true) (field : String) :
    rowTime (isoformat t) field = .ok t := by
  rw [rowTime, parseTimestamp_isoformat h]

section

variable {scopes : List String} {baseline : String} {now validUntil : Instant} {r : BackupRow}

/-- The second predicate compares instants. -/
theorem usable_iff (hr : r.Registered) : Usable scopes baseline now validUntil r ↔
    r.scope ∈ scopes ∧ r.baseline = baseline ∧ r.created ≤ now ∧ now < r.expires ∧
      validUntil ≤ r.expires := by
  obtain ⟨c, hc, -, hcreated⟩ := hr.createdAt
  obtain ⟨e, he, -, hexpires⟩ := hr.expiresAt
  have hrow : r.completed = 1 ∧ r.readable = 1 ∧ 1 ≤ r.size ∧
      sha256Re (PyStr.ofString r.sha256) = true ∧
      sha256Re (PyStr.ofString r.offDeviceSha256) = true ∧
      sha256Re (PyStr.ofString r.baseline) = true :=
    ⟨hr.completed, hr.readable, hr.size, hr.hashes⟩
  rw [BackupRow.created, BackupRow.expires, hcreated, hexpires, columnTime_isoformat hc,
    columnTime_isoformat he, Usable, assertBackupEvidenceRow]
  simp only [bind_eq_ok, orRaise_eq_ok, ensure_eq_ok, Option.some.injEq, exists_eq_left', hcreated,
    hexpires, rowTime_isoformat hc, rowTime_isoformat he, Except.ok.injEq, hrow, true_and,
    exists_const, and_assoc]

/-- The statement compares the seconds. -/
theorem found_iff (hr : r.Registered) (hnow : inYears now = true)
    (huntil : inYears validUntil = true) : found scopes baseline now validUntil r = true ↔
      r.scope ∈ scopes ∧ r.baseline = baseline ∧ r.created ≤ now ∧
        wholeSecond validUntil ≤ r.expires := by
  obtain ⟨c, hc, hwhole, hcreated⟩ := hr.createdAt
  obtain ⟨e, he, -, hexpires⟩ := hr.expiresAt
  rw [found, decide_eq_true_eq, BackupRow.created, BackupRow.expires, hcreated, hexpires,
    columnTime_isoformat hc, columnTime_isoformat he, isoTimestamp, isoTimestamp,
    isoformat_le_iff hc (inYears_wholeSecond hnow), isoformat_le_iff (inYears_wholeSecond huntil) he,
    le_wholeSecond_iff hwhole]
  simp only [hr.completed, hr.readable, true_and]

/-- The row is found, but it is not usable: it expires in the second of `validUntil` and before it,
    or it has expired by `now`. -/
def Fringe (scopes : List String) (baseline : String) (now validUntil : Instant)
    (r : BackupRow) : Prop :=
  r.scope ∈ scopes ∧ r.baseline = baseline ∧ r.created ≤ now ∧
    ((wholeSecond validUntil ≤ r.expires ∧ r.expires < validUntil) ∨
      (validUntil ≤ r.expires ∧ r.expires ≤ now))

instance (r : BackupRow) : Decidable (Fringe scopes baseline now validUntil r) :=
  inferInstanceAs (Decidable (_ ∧ _ ∧ _ ∧ (_ ∧ _ ∨ _ ∧ _)))

/-- The rows that the statement finds are the usable ones and those on the fringe. -/
theorem found_iff_usable_or_fringe (hr : r.Registered) (hnow : inYears now = true)
    (huntil : inYears validUntil = true) : found scopes baseline now validUntil r = true ↔
      Usable scopes baseline now validUntil r ∨ Fringe scopes baseline now validUntil r := by
  have hwhole : wholeSecond validUntil ≤ validUntil := by
    show validUntil - validUntil % 1000000 ≤ validUntil
    have hmod := Int.emod_nonneg validUntil (by decide : (1000000 : ℤ) ≠ 0)
    exact Int.sub_le_self _ hmod
  rw [found_iff hr hnow huntil, usable_iff hr, Fringe]
  constructor
  · rintro ⟨hscope, hbase, hcreated, hsecond⟩
    obtain hlt | hle := lt_or_ge r.expires validUntil
    · exact .inr ⟨hscope, hbase, hcreated, .inl ⟨hsecond, hlt⟩⟩
    · obtain hnow | hpast := lt_or_ge now r.expires
      · exact .inl ⟨hscope, hbase, hcreated, hnow, hle⟩
      · exact .inr ⟨hscope, hbase, hcreated, .inr ⟨hle, hpast⟩⟩
  · rintro (⟨hscope, hbase, hcreated, -, hle⟩ | ⟨hscope, hbase, hcreated, ⟨hsecond, -⟩ | ⟨hle, -⟩⟩)
    · exact ⟨hscope, hbase, hcreated, hwhole.trans hle⟩
    · exact ⟨hscope, hbase, hcreated, hsecond⟩
    · exact ⟨hscope, hbase, hcreated, hwhole.trans hle⟩

end

/-! ## The two orders -/

/-- Scope priority, newest first, logical id. -/
def Before (scopes : List String) (a b : BackupRow) : Prop :=
  scopes.idxOf a.scope < scopes.idxOf b.scope ∨
    scopes.idxOf a.scope = scopes.idxOf b.scope ∧
      (b.created < a.created ∨ a.created = b.created ∧ a.logicalId ≤ b.logicalId)

instance (scopes : List String) (a b : BackupRow) : Decidable (Before scopes a b) :=
  inferInstanceAs (Decidable (_ ∨ _ ∧ (_ ∨ _ ∧ _)))

/-- The order of the statement is the order of the instants. -/
theorem selectionOrder_iff (ha : a.Registered) (hb : b.Registered) :
    selectionOrder scopes a b ↔ Before scopes a b := by
  obtain ⟨c, hc, -, hcreated⟩ := ha.createdAt
  obtain ⟨c', hc', -, hcreated'⟩ := hb.createdAt
  have hlt : isoformat c' < isoformat c ↔ c' < c := by
    rw [← not_le, ← not_le, isoformat_le_iff hc hc']
  have heq : isoformat c = isoformat c' ↔ c = c' := by
    rw [le_antisymm_iff, le_antisymm_iff, isoformat_le_iff hc hc', isoformat_le_iff hc' hc]
  rw [selectionOrder, LexBy, Before, Prod.Lex.toLex_le_toLex, OrderDual.toDual_lt_toDual,
    OrderDual.toDual_inj, BackupRow.created, BackupRow.created, hcreated, hcreated',
    columnTime_isoformat hc, columnTime_isoformat hc', hlt, heq]

/-- Two rows of a registry that come before each other are one row. -/
theorem eq_of_selectionOrder (ha : a ∈ T.rows) (hb : b ∈ T.rows) (hab : selectionOrder scopes a b)
    (hba : selectionOrder scopes b a) : a = b := by
  have hpair : toLex (OrderDual.toDual a.createdAt, a.logicalId) =
      toLex (OrderDual.toDual b.createdAt, b.logicalId) :=
    @LexBy.antisymm _ _ _ _ _ (fun r : BackupRow => scopes.idxOf r.scope)
      (fun r => toLex (OrderDual.toDual r.createdAt, r.logicalId)) _ _ hab hba
  exact List.inj_on_of_nodup_map T.nodup ha hb (congrArg Prod.snd (toLex.injective hpair))

/-! ## The selection is exact -/

section

variable (T : Registry) (scopes : List String) (baseline : String) (now validUntil : Instant)

/-- The selection succeeds iff a registered record satisfies the second predicate, and then it
    returns the first such record. -/
def SelectsExactly : Prop :=
  ((∃ d, T.selectBackupEvidence scopes baseline now validUntil = .ok d) ↔
    ∃ r ∈ T.rows, Usable scopes baseline now validUntil r) ∧
  ∀ d, T.selectBackupEvidence scopes baseline now validUntil = .ok d →
    ∃ r ∈ T.rows, Usable scopes baseline now validUntil r ∧
      (∀ r' ∈ T.rows, Usable scopes baseline now validUntil r' → Before scopes r r') ∧
      d = r.document

/-- Either no record is usable, or every scope is known and some usable record comes before all
    those on the fringe. -/
def FringeComesLater : Prop :=
  (∃ r ∈ T.rows, Usable scopes baseline now validUntil r) →
    (∀ scope ∈ scopes, scope ∈ backupEvidenceScopes) ∧
    ∃ a ∈ T.rows, Usable scopes baseline now validUntil a ∧
      ∀ b ∈ T.rows, Fringe scopes baseline now validUntil b → Before scopes a b

end

/-- The selection returns the row that the statement finds, if it is usable. -/
theorem select_ok_iff {baseline : String} {validUntil : Instant} {d : BackupEvidence} :
    T.selectBackupEvidence scopes baseline now validUntil = .ok d ↔
      (scopes ≠ [] ∧ ∀ scope ∈ scopes, scope ∈ backupEvidenceScopes) ∧
      ∃ r, (T.rows.insertionSort (selectionOrder scopes)).find?
          (found scopes baseline now validUntil) = some r ∧
        Usable scopes baseline now validUntil r ∧ r.document = d := by
  simp only [Registry.selectBackupEvidence, bind_eq_ok, ensure_eq_ok, orRaise_eq_ok, pure_eq_ok,
    Usable, exists_const]
  constructor
  · rintro ⟨hscopes, r, hfind, ⟨⟩, husable, hd⟩
    exact ⟨hscopes, r, hfind, husable, hd⟩
  · rintro ⟨hscopes, r, hfind, husable, hd⟩
    exact ⟨hscopes, r, hfind, (), husable, hd⟩

/-- The selection is exact iff no record on the fringe comes before the usable ones. -/
theorem select_exact_iff {py : Python} {T : Registry} (hT : T.Reachable py) (scopes : List String)
    (baseline : String) (now validUntil : Datetime) :
    SelectsExactly T scopes baseline now.1 validUntil.1 ↔
      FringeComesLater T scopes baseline now.1 validUntil.1 := by
  have hfound : ∀ r ∈ T.rows, found scopes baseline now.1 validUntil.1 r = true ↔
      Usable scopes baseline now.1 validUntil.1 r ∨ Fringe scopes baseline now.1 validUntil.1 r :=
    fun r hr => found_iff_usable_or_fringe (hT.registered r hr) now.2 validUntil.2
  have horder : ∀ a ∈ T.rows, ∀ b ∈ T.rows, selectionOrder scopes a b ↔ Before scopes a b :=
    fun a ha b hb => selectionOrder_iff (hT.registered a ha) (hT.registered b hb)
  constructor
  · rintro ⟨hsome, -⟩ husable
    obtain ⟨d, hd⟩ := hsome.mpr husable
    obtain ⟨hscopes, a, ha, hausable, -⟩ := select_ok_iff.mp hd
    obtain ⟨hmem, -, hfirst⟩ := find?_insertionSort ha
    refine ⟨hscopes.2, a, hmem, hausable, fun b hb hfringe => ?_⟩
    exact (horder a hmem b hb).mp (hfirst b hb ((hfound b hb).mpr (.inr hfringe)))
  · intro hlater
    -- The row that the statement finds first is usable when there is a usable row.
    have hselect : (∃ r ∈ T.rows, Usable scopes baseline now.1 validUntil.1 r) →
        ∃ r ∈ T.rows, Usable scopes baseline now.1 validUntil.1 r ∧
          (∀ r' ∈ T.rows, Usable scopes baseline now.1 validUntil.1 r' → Before scopes r r') ∧
          T.selectBackupEvidence scopes baseline now.1 validUntil.1 = .ok r.document := by
      intro husable
      obtain ⟨hscopes, a, ha, hausable, hfringe⟩ := hlater husable
      have hafound := (hfound a ha).mpr (.inl hausable)
      cases hfind : (T.rows.insertionSort (selectionOrder scopes)).find?
          (found scopes baseline now.1 validUntil.1) with
      | none =>
        have hnot := List.find?_eq_none.mp hfind a ((List.mem_insertionSort _).mpr ha)
        exact absurd hafound hnot
      | some r =>
        obtain ⟨hr, hrfound, hfirst⟩ := find?_insertionSort hfind
        have hrusable : Usable scopes baseline now.1 validUntil.1 r := by
          obtain h | h := (hfound r hr).mp hrfound
          · exact h
          · have har := (horder a ha r hr).mpr (hfringe r hr h)
            exact eq_of_selectionOrder ha hr har (hfirst a ha hafound) ▸ hausable
        have hne : scopes ≠ [] := by
          rintro rfl
          exact List.not_mem_nil ((usable_iff (hT.registered a ha)).mp hausable).1
        refine ⟨r, hr, hrusable, fun r' hr' husable' => ?_,
          select_ok_iff.mpr ⟨⟨hne, hscopes⟩, r, hfind, hrusable, rfl⟩⟩
        exact (horder r hr r' hr').mp (hfirst r' hr' ((hfound r' hr').mpr (.inl husable')))
    refine ⟨⟨?_, fun husable => ?_⟩, fun d hd => ?_⟩
    · rintro ⟨d, hd⟩
      obtain ⟨-, r, hfind, husable, -⟩ := select_ok_iff.mp hd
      exact ⟨r, (find?_insertionSort hfind).1, husable⟩
    · obtain ⟨r, -, -, -, hselected⟩ := hselect husable
      exact ⟨r.document, hselected⟩
    · obtain ⟨-, r, hfind, husable, -⟩ := select_ok_iff.mp hd
      obtain ⟨r', hr', husable', hfirst', hselected⟩ :=
        hselect ⟨r, (find?_insertionSort hfind).1, husable⟩
      rw [hd, Except.ok.injEq] at hselected
      exact ⟨r', hr', husable', hfirst', hselected⟩

/-! ## Two records -/

/-- An interpreter whose Unicode data is that of ASCII. -/
def samplePython : Python where
  nfkc := id
  isAlnum := Char.isAlphanum
  bracketedHost := fun _ => true

def sampleHash : String := "sha256:" ++ String.ofList (List.replicate 64 'a')

/-- A record as it is posted. -/
def sampleEvidence (scope logicalId expiresAt : String) : Value :=
  let text (s : String) : Value := .str (PyStr.ofString s)
  .obj ([("version", .int 1), ("scope", text scope), ("logical_id", text logicalId),
    ("completed", .bool true), ("created_at", text "2026-08-09T00:00:00+00:00"), ("size", .int 1),
    ("sha256", text sampleHash), ("off_device_sha256", text sampleHash), ("readable", .bool true),
    ("baseline", text sampleHash), ("expires_at", text expiresAt)].map fun kv =>
      (PyStr.ofString kv.1, kv.2))

/-- The row of a record. -/
def sampleRow (scope logicalId expiresAt : String) : BackupRow where
  logicalId := logicalId
  scope := scope
  completed := 1
  createdAt := "2026-08-09T00:00:00+00:00"
  size := 1
  sha256 := sampleHash
  offDeviceSha256 := sampleHash
  readable := 1
  baseline := sampleHash
  expiresAt := expiresAt
  registeredAt := "2026-08-10T00:00:00+00:00"

def addonRow : BackupRow := sampleRow "addon" "backup-addon" "2026-08-10T00:10:00+00:00"

def fullRow : BackupRow := sampleRow "full" "backup-full" "2026-08-20T00:00:00+00:00"

/-- A record of the add-on that expires ten minutes after midnight, and a full backup. -/
def sampleRegistry : Registry where
  rows := [addonRow, fullRow]
  nodup := by
    show ["backup-addon", "backup-full"].Nodup
    decide

/-- 2026-08-10T00:00:00.5. -/
def sampleNow : Datetime := ⟨1786320000500000, by decide⟩

theorem sampleRegistry_reachable : sampleRegistry.Reachable samplePython := by
  have hrows : (runFrom (Registry.step samplePython) Table.empty
      [(sampleEvidence "addon" "backup-addon" "2026-08-10T00:10:00+00:00", sampleNow),
        (sampleEvidence "full" "backup-full" "2026-08-20T00:00:00+00:00", sampleNow)]).rows =
      [addonRow, fullRow] := by decide +kernel
  refine ⟨[(sampleEvidence "addon" "backup-addon" "2026-08-10T00:10:00+00:00", sampleNow),
    (sampleEvidence "full" "backup-full" "2026-08-20T00:00:00+00:00", sampleNow)], ?_⟩
  generalize runFrom (Registry.step samplePython) Table.empty _ = T at hrows ⊢
  cases T
  cases hrows
  rfl

/-- A window that the record of the add-on covers: the selection is exact. -/
theorem select_exact_iff_covered :
    SelectsExactly sampleRegistry ["addon", "full"] sampleHash 1786320000000000
      1786320600000000 := by
  have haddon : Usable ["addon", "full"] sampleHash 1786320000000000 1786320600000000 addonRow :=
    (usable_iff (sampleRegistry_reachable.registered addonRow List.mem_cons_self)).mpr
      (by decide +kernel)
  refine (select_exact_iff sampleRegistry_reachable ["addon", "full"] sampleHash
    ⟨1786320000000000, by decide⟩ ⟨1786320600000000, by decide⟩).mpr fun _ => ⟨by decide, ?_⟩
  exact ⟨addonRow, List.mem_cons_self, haddon, by decide +kernel⟩

/-- A window that ends half a second later: the record of the add-on is found and refused, and the
    full backup, which is usable, is not looked at. -/
theorem sampleRegistry_halfSecond : sampleRegistry.Reachable samplePython ∧
    ¬ SelectsExactly sampleRegistry ["addon", "full"] sampleHash 1786320000500000
      1786320600500000 := by
  have haddon := sampleRegistry_reachable.registered addonRow List.mem_cons_self
  have hfull := sampleRegistry_reachable.registered fullRow
    (List.mem_cons_of_mem _ List.mem_cons_self)
  refine ⟨sampleRegistry_reachable, fun hexact => ?_⟩
  obtain ⟨d, hd⟩ := hexact.1.mpr ⟨fullRow, List.mem_cons_of_mem _ List.mem_cons_self,
    (usable_iff hfull).mpr (by decide +kernel)⟩
  obtain ⟨-, r, hfind, husable, -⟩ := select_ok_iff.mp hd
  obtain ⟨hr, -, hfirst⟩ := find?_insertionSort hfind
  have hbefore := hfirst addonRow List.mem_cons_self
    ((found_iff haddon (by decide) (by decide)).mpr (by decide +kernel))
  obtain rfl | hr := List.mem_cons.mp hr
  · exact absurd ((usable_iff haddon).mp husable) (by decide +kernel)
  · obtain rfl := List.mem_singleton.mp hr
    exact absurd ((selectionOrder_iff hfull haddon).mp hbefore) (by decide +kernel)

end HomeAddons.Broker
