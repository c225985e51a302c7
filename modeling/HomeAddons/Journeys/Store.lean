import HomeAddons.Common.Table
import HomeAddons.Journeys.Segmentation

/-!
# The store of the add-on

`JourneyStore` of journey_analyzer/storage.py. A column of times holds texts, and SQLite compares
them as texts. A statement that would violate a key or a foreign key raises `IntegrityError`, and
`with self.connection` then takes back what its block did.
-/

namespace HomeAddons.Journeys

open HomeAddons.Common

/-! ## Texts of times -/

/-- `encode_time(value)`. -/
def encodeTime (value : Datetime) : String := replaceAll (isoformat value.val) "+00:00" "Z"

/-- `decode_time(value)`, on a text with an offset. -/
def decodeTime (value : String) : Except Failure Datetime :=
  match h : parseTime (replaceAll value "Z" "+00:00") with
  | .ok t => .ok ⟨t, inYears_of_parseTime h⟩
  | .error .value =>
    .error (.valueError ("Invalid isoformat string: '" ++ replaceAll value "Z" "+00:00" ++ "'"))
  | .error .overflow => .error .overflowError

/-- The text of a time is that of `isoformat` with another end. -/
theorem toList_encodeTime (t : Datetime) : ∃ front, 'Z' ∉ front ∧
    (isoformat t.val).toList = front ++ "+00:00".toList ∧ (encodeTime t).toList = front ++ ['Z'] := by
  obtain ⟨front, hfront, hchars⟩ := isoformat_eq_append t.val
  have hnot : ∀ c : Char, c = '+' ∨ c = 'Z' → c ∉ front := by
    rintro c (rfl | rfl) hc
    · exact absurd (hchars _ hc) (by decide)
    · exact absurd (hchars _ hc) (by decide)
  refine ⟨front, hnot 'Z' (.inr rfl), hfront, ?_⟩
  rw [encodeTime, replaceAll, String.toList_ofList, hfront]
  have hold : "+00:00".toList = '+' :: "00:00".toList := rfl
  have hback : replaceFrom ('+' :: "00:00".toList) "Z".toList 0 ('+' :: "00:00".toList) = ['Z'] := by
    decide
  rw [hold, replaceFrom_append (hnot '+' (.inl rfl)), hback]

/-- `decode_time` inverts `encode_time`. -/
theorem decodeTime_encodeTime (t : Datetime) : decodeTime (encodeTime t) = .ok t := by
  obtain ⟨front, hZ, hiso, henc⟩ := toList_encodeTime t
  have hback : replaceAll (encodeTime t) "Z" "+00:00" = isoformat t.val := by
    have hold : "Z".toList = ['Z'] := rfl
    rw [replaceAll, henc, hold, replaceFrom_append hZ,
      ← @String.ofList_toList (isoformat t.val), hiso]
    rfl
  have hparse : parseTime (replaceAll (encodeTime t) "Z" "+00:00") = .ok t.val := by
    rw [hback, parseTime_isoformat t.property]
  unfold decodeTime
  split
  · next t' h =>
    rw [hparse] at h
    cases h
    rfl
  · next h =>
    rw [hparse] at h
    cases h
  · next h =>
    rw [hparse] at h
    cases h

theorem encodeTime_injective : Function.Injective encodeTime := by
  intro t t' h
  have ht := decodeTime_encodeTime t
  rw [h, decodeTime_encodeTime] at ht
  cases ht
  rfl

/-! ## Rows -/

/-- A row of `track_points`. -/
structure PointRow where
  entityId : String
  observedAt : String
  receivedAt : String
  latitude : ℚ
  longitude : ℚ
  accuracyM : Option ℚ
  source : Option String
  deriving DecidableEq

/-- `PRIMARY KEY (entity_id, observed_at)`. -/
def PointRow.key (r : PointRow) : String × String := (r.entityId, r.observedAt)

/-- A row of `journeys`. -/
structure JourneyRow where
  journeyId : String
  entityId : String
  startedAt : String
  endedAt : String
  distanceM : ℚ
  durationS : ℤ
  pointCount : ℕ
  averageSpeedMps : ℚ
  maxSegmentSpeedMps : WithTop ℚ
  quality : Quality
  algorithmVersion : String
  deriving DecidableEq

/-- A row of `journey_points`. -/
structure JourneyPointRow where
  journeyId : String
  sequence : ℕ
  entityId : String
  observedAt : String
  deriving DecidableEq

/-- `PRIMARY KEY (journey_id, sequence)`. -/
def JourneyPointRow.key (r : JourneyPointRow) : String × ℕ := (r.journeyId, r.sequence)

/-- A row of `stays`. -/
structure StayRow where
  stayId : String
  entityId : String
  startedAt : String
  endedAt : String
  centroidLatitude : ℚ
  centroidLongitude : ℚ
  pointCount : ℕ
  durationS : ℤ
  algorithmVersion : String
  deriving DecidableEq

/-- The tables that the functions below use. -/
structure JourneyStore where
  metadata : Table (Prod.fst : String × String → String)
  trackPoints : Table PointRow.key
  journeys : Table JourneyRow.journeyId
  journeyPoints : Table JourneyPointRow.key
  stays : Table StayRow.stayId

namespace JourneyStore

/-- A new database. -/
def empty : JourneyStore := ⟨.empty, .empty, .empty, .empty, .empty⟩

/-- `get_metadata(key)`. -/
def getMetadata (store : JourneyStore) (key : String) : Option String :=
  (store.metadata.get? key).map Prod.snd

/-- `set_metadata(key, value)`. -/
def setMetadata (store : JourneyStore) (key value : String) : JourneyStore :=
  { store with metadata := store.metadata.upsert (key, value) }

end JourneyStore

/-! ## `save_points` -/

/-- The values that `save_points` inserts for a point. -/
def pointRow (p : TrackPoint) : PointRow where
  entityId := p.entityId
  observedAt := encodeTime p.observedAt
  receivedAt := encodeTime p.receivedAt
  latitude := p.latitude
  longitude := p.longitude
  accuracyM := p.accuracyM
  source := p.source

/-- The `WHERE` of the `DO UPDATE`: `old` is the row in the table, `new` the excluded one. -/
def improves (old new : PointRow) : Bool :=
  (old.accuracyM.isNone && new.accuracyM.isSome) ||
    new.accuracyM.any fun a => old.accuracyM.any fun b => a < b

/-- One row of the `executemany`, and the number of rows it changes. -/
def savePoint (T : Table PointRow.key) (r : PointRow) : Table PointRow.key × ℕ :=
  match T.get? r.key with
  | none => (T.upsert r, 1)
  | some old => if improves old r then (T.upsert r, 1) else (T, 0)

/-- The rows of an `executemany` in turn. -/
def savePointRows : Table PointRow.key → List PointRow → Table PointRow.key × ℕ
  | T, [] => (T, 0)
  | T, r :: rows =>
    let (T₁, changed) := savePoint T r
    let (T₂, more) := savePointRows T₁ rows
    (T₂, changed + more)

/-- The accuracy of a row, where none is the worst. -/
def PointRow.accuracyOrInf (r : PointRow) : WithTop ℚ :=
  match r.accuracyM with
  | none => ⊤
  | some a => (a : ℚ)

/-- The `WHERE` compares accuracies. -/
theorem improves_iff {old new : PointRow} :
    improves old new = true ↔ new.accuracyOrInf < old.accuracyOrInf := by
  unfold improves PointRow.accuracyOrInf
  cases old.accuracyM <;> cases new.accuracyM <;> simp

theorem savePointRows_append (T : Table PointRow.key) (rows rows' : List PointRow) :
    (savePointRows T (rows ++ rows')).1 = (savePointRows (savePointRows T rows).1 rows').1 := by
  induction rows generalizing T with
  | nil => rfl
  | cons r rows ih => exact ih (savePoint T r).1

/-- What one row leaves under a key. -/
theorem get?_savePoint (T : Table PointRow.key) (r : PointRow) (k : String × String) :
    (savePoint T r).1.get? k = if r.key = k then
      (T.get? k).elim (some r) fun old =>
        if r.accuracyOrInf < old.accuracyOrInf then some r else some old
      else T.get? k := by
  unfold savePoint
  by_cases hk : r.key = k
  · subst hk
    rw [if_pos rfl]
    cases h : T.get? r.key with
    | none => simp [Table.get?_upsert]
    | some old =>
      by_cases hlt : r.accuracyOrInf < old.accuracyOrInf
      · simp [improves_iff.mpr hlt, hlt, Table.get?_upsert]
      · simp [mt improves_iff.mp hlt, hlt, h]
  · rw [if_neg hk]
    split
    · exact (Table.get?_upsert _ _ _).trans (if_neg (Ne.symm hk))
    · split
      · exact (Table.get?_upsert _ _ _).trans (if_neg (Ne.symm hk))
      · rfl

/-- Of the rows saved under a new key the table holds the first of the most accurate ones. -/
theorem get?_savePointRows {T : Table PointRow.key} {k : String × String} (h : T.get? k = none)
    (rows : List PointRow) : (savePointRows T rows).1.get? k =
      (rows.filter fun r => r.key = k).argmin PointRow.accuracyOrInf := by
  induction rows using List.reverseRecOn with
  | nil => exact h
  | append_singleton rows r ih =>
    rw [savePointRows_append]
    show (savePoint (savePointRows T rows).1 r).1.get? k = _
    rw [get?_savePoint, ih, List.filter_append]
    by_cases hk : r.key = k
    · rw [if_pos hk, List.filter_cons_of_pos (by simpa using hk), List.filter_nil,
        List.argmin_concat]
      cases (rows.filter fun r => r.key = k).argmin PointRow.accuracyOrInf <;> rfl
    · rw [if_neg hk, List.filter_cons_of_neg (by simpa using hk), List.filter_nil,
        List.append_nil]

/-- `save_points(points)`. -/
def JourneyStore.savePoints (store : JourneyStore) (points : List TrackPoint) : JourneyStore × ℕ :=
  let (trackPoints, changes) := savePointRows store.trackPoints (points.map pointRow)
  ({ store with trackPoints }, changes)

/-! ## `list_points` and `prune_raw_points` -/

/-- `_row_to_point(row)`. -/
def rowToPoint (row : PointRow) : Except Failure TrackPoint := do
  trackPoint row.entityId (← decodeTime row.observedAt) (← decodeTime row.receivedAt) row.latitude
    row.longitude row.accuracyM row.source

/-- A stored point is read back. -/
theorem rowToPoint_pointRow (p : TrackPoint) : rowToPoint (pointRow p) = .ok p := by
  simp only [rowToPoint, pointRow, decodeTime_encodeTime, ok_bind, trackPoint_fields]

theorem pointRow_injective : Function.Injective pointRow := by
  intro p q h
  have hp := rowToPoint_pointRow p
  rw [h, rowToPoint_pointRow] at hp
  cases hp
  rfl

theorem mapM_rowToPoint (points : List TrackPoint) :
    (points.map pointRow).mapM rowToPoint = .ok points := by
  induction points with
  | nil => rfl
  | cons p points ih =>
    rw [List.map_cons, List.mapM_cons, rowToPoint_pointRow, ok_bind, ih]
    rfl

/-- `list_points(entity_id, start=start, end=end, limit=limit)`. -/
def JourneyStore.listPoints (store : JourneyStore) (entityId : String)
    (start stop : Option Datetime) (limit : Option ℕ) : Except Failure (List TrackPoint) :=
  let rows := (store.trackPoints.rows.filter fun r => r.entityId = entityId ∧
      (∀ t ∈ start, encodeTime t ≤ r.observedAt) ∧ ∀ t ∈ stop, r.observedAt ≤ encodeTime t)
    |>.insertionSort fun r r' => r.observedAt ≤ r'.observedAt
  (limit.elim rows rows.take).mapM rowToPoint

/-- `prune_raw_points(before)`: the points of journeys go with the points they refer to. -/
def JourneyStore.pruneRawPoints (store : JourneyStore) (before : Datetime) : JourneyStore × ℕ :=
  let trackPoints := store.trackPoints.deleteWhere fun r => r.observedAt < encodeTime before
  let journeyPoints := store.journeyPoints.deleteWhere fun r =>
    (store.trackPoints.get? (r.entityId, r.observedAt)).any fun p =>
      p.observedAt < encodeTime before
  ({ store with trackPoints, journeyPoints },
    (store.trackPoints.rows.length - trackPoints.rows.length) +
      (store.journeyPoints.rows.length - journeyPoints.rows.length))

/-! ## `save_analysis` -/

/-- The values that `save_analysis` inserts for a journey. -/
def journeyRow (j : JourneySummary) : JourneyRow where
  journeyId := j.journeyId
  entityId := j.entityId
  startedAt := encodeTime j.startedAt
  endedAt := encodeTime j.endedAt
  distanceM := j.distanceM
  durationS := j.durationS
  pointCount := j.pointCount
  averageSpeedMps := j.averageSpeedMps
  maxSegmentSpeedMps := j.maxSegmentSpeedMps
  quality := j.quality
  algorithmVersion := j.algorithmVersion

/-- The values that `save_analysis` inserts for a stay. -/
def stayRow (s : Stay) : StayRow where
  stayId := s.stayId
  entityId := s.entityId
  startedAt := encodeTime s.startedAt
  endedAt := encodeTime s.endedAt
  centroidLatitude := s.centroidLatitude
  centroidLongitude := s.centroidLongitude
  pointCount := s.pointCount
  durationS := s.durationS
  algorithmVersion := s.algorithmVersion

/-- The `WHERE` of both `DELETE`s, on the columns it reads. -/
def replaced (entityId version start stop : String) (rowEntity rowVersion startedAt endedAt : String) :
    Bool :=
  rowEntity = entityId ∧ rowVersion = version ∧ ¬ (endedAt < start ∨ stop < startedAt)

namespace JourneyStore

/-- The two `DELETE`s; the points of a journey go with it. -/
def deleteReplaced (store : JourneyStore) (entityId version start stop : String) : JourneyStore :=
  let gone (r : JourneyRow) : Bool :=
    replaced entityId version start stop r.entityId r.algorithmVersion r.startedAt r.endedAt
  { store with
    journeys := store.journeys.deleteWhere gone
    journeyPoints := store.journeyPoints.deleteWhere fun r =>
      (store.journeys.get? r.journeyId).any gone
    stays := store.stays.deleteWhere fun r =>
      replaced entityId version start stop r.entityId r.algorithmVersion r.startedAt r.endedAt }

/-- The `INSERT INTO journey_points`, which needs the point and the journey. -/
def insertJourneyPoint (store : JourneyStore) (r : JourneyPointRow) : Option JourneyStore :=
  if (store.trackPoints.get? (r.entityId, r.observedAt)).isSome ∧
      (store.journeys.get? r.journeyId).isSome then
    (store.journeyPoints.insert? r).map fun journeyPoints => { store with journeyPoints }
  else none

/-- The body of the loop over `result.journeys`. -/
def insertJourney (store : JourneyStore) (j : Journey) : Option JourneyStore := do
  let journeys ← store.journeys.insert? (journeyRow j.toJourneySummary)
  j.points.zipIdx.foldlM (fun store (p, sequence) =>
    store.insertJourneyPoint ⟨j.journeyId, sequence, p.entityId, encodeTime p.observedAt⟩)
    { store with journeys }

/-- The `INSERT INTO stays`. -/
def insertStay (store : JourneyStore) (s : Stay) : Option JourneyStore := do
  let stays ← store.stays.insert? (stayRow s)
  return { store with stays }

/-- `save_analysis(result, replace_start=start, replace_end=stop)`: the database afterwards, and
    what is raised. -/
def saveAnalysis (store : JourneyStore) (result : AnalysisResult) (start stop : Datetime) :
    JourneyStore × Except Failure Unit :=
  match result.entityId with
  | none => (store, .ok ())
  | some entityId =>
    if stop < start then
      (store, .error (.valueError "replace_end must not be before replace_start"))
    else
      let store := (store.savePoints result.acceptedPoints).1
      let rows := do
        let store ← result.journeys.foldlM insertJourney (store.deleteReplaced entityId
          result.algorithmVersion (encodeTime start) (encodeTime stop))
        result.stays.foldlM insertStay store
      match rows with
      | some store => (store, .ok ())
      | none => (store, .error .integrityError)

end JourneyStore

end HomeAddons.Journeys
