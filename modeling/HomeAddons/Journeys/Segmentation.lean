import HomeAddons.Common.Digest
import HomeAddons.Common.Result
import HomeAddons.Journeys.Track

/-!
# The analysis of a track

`JourneyAnalyzer` of journey_analyzer/segmentation.py. A loop over indices is a recursion on the rest
of the list: `stayLoop` carries the index of the head of the rest, and how many of its points belong
to the stay found last. The points of an input are distinct objects, so `point is not best` holds of
all points of a group but one.
-/

namespace HomeAddons.Journeys

open HomeAddons.Common

/-- `ALGORITHM_VERSION`. -/
def algorithmVersion : String := "v1"

/-- `AnalyzerSettings`, with what `__post_init__` checks. -/
structure AnalyzerSettings where
  maxAccuracyM : ℚ := 100
  maxGapS : ℕ := 900
  stopRadiusM : ℚ := 80
  stopMinDurationS : ℕ := 600
  minJourneyDistanceM : ℚ := 200
  minJourneyDurationS : ℕ := 120
  maxSpeedMps : ℚ := 100
  rejectZeroCoordinate : Bool := true
  maxAccuracyM_pos : 0 < maxAccuracyM := by norm_num
  maxGapS_pos : 0 < maxGapS := by norm_num
  stopRadiusM_pos : 0 < stopRadiusM := by norm_num
  stopMinDurationS_pos : 0 < stopMinDurationS := by norm_num
  minJourneyDistanceM_pos : 0 < minJourneyDistanceM := by norm_num
  minJourneyDurationS_pos : 0 < minJourneyDurationS := by norm_num
  maxSpeedMps_pos : 0 < maxSpeedMps := by norm_num

/-! ## Order and duplicates -/

/-- The key of `sorted(input_points, …)`. -/
def sortKey (p : TrackPoint) : String ×ₗ Datetime ×ₗ WithTop ℚ ×ₗ Datetime :=
  toLex (p.entityId, toLex (p.observedAt, toLex (p.accuracyOrInf, p.receivedAt)))

/-- `sorted(input_points, key=…)`. -/
def sortPoints (points : List TrackPoint) : List TrackPoint :=
  points.insertionSort fun p q => sortKey p ≤ sortKey q

/-- `_count_out_of_order`: `latest` is `latest_by_entity`. -/
def countOutOfOrder (latest : String → Option Datetime) : List TrackPoint → ℕ
  | [] => 0
  | p :: rest =>
    match latest p.entityId with
    | none => countOutOfOrder (Function.update latest p.entityId (some p.observedAt)) rest
    | some t =>
      (if p.observedAt < t then 1 else 0) +
        countOutOfOrder (if t < p.observedAt then
          Function.update latest p.entityId (some p.observedAt) else latest) rest

/-- `_reject(point, reason)`. -/
def reject (p : TrackPoint) (reason : Reason) : PointRejection := ⟨p.entityId, p.observedAt, reason⟩

/-- The key of `min(candidates, …)`. -/
def candidateKey (p : TrackPoint) : WithTop ℚ ×ₗ Datetime ×ₗ ℚ ×ₗ ℚ :=
  toLex (p.accuracyOrInf, toLex (p.receivedAt, toLex (p.latitude, p.longitude)))

/-- `groupby(points, key=lambda point: (point.entity_id, point.observed_at))`. -/
def timestampGroups (points : List TrackPoint) : List (List TrackPoint) :=
  points.splitBy fun p q => (p.entityId, p.observedAt) = (q.entityId, q.observedAt)

/-- `_deduplicate(points)`. -/
def deduplicate (points : List TrackPoint) : List TrackPoint × List PointRejection :=
  ((timestampGroups points).filterMap fun candidates => candidates.argmin candidateKey,
    (timestampGroups points).flatMap fun candidates =>
      ((candidates.argmin candidateKey).elim [] candidates.erase).map
        (reject · .duplicateTimestamp))

/-! ## Filters -/

variable (haversine : ℚ → ℚ → ℚ → ℚ → ℚ) (settings : AnalyzerSettings)

/-- Why the body of the loop over `deduplicated` rejects a point; `previous` is `filtered[-1]`. -/
def rejection? (previous : Option TrackPoint) (p : TrackPoint) : Option Reason :=
  if settings.rejectZeroCoordinate ∧ |p.latitude| < binary64 (1 / 10 ^ 12) ∧
      |p.longitude| < binary64 (1 / 10 ^ 12) then some .zeroCoordinate
  else if ∃ a ∈ p.accuracyM, settings.maxAccuracyM < a then some .poorAccuracy
  else if ∃ q ∈ previous, elapsedS q p ≤ settings.maxGapS ∧
      settings.maxSpeedMps < segmentSpeedMps haversine q p then some .implausibleSpeed
  else none

/-- The loop over `deduplicated`: what it appends to `filtered` and to `rejections`. -/
def filterPoints : Option TrackPoint → List TrackPoint → List TrackPoint × List PointRejection
  | _, [] => ([], [])
  | previous, p :: rest =>
    match rejection? haversine settings previous p with
    | some reason =>
      let (filtered, rejections) := filterPoints previous rest
      (filtered, reject p reason :: rejections)
    | none =>
      let (filtered, rejections) := filterPoints (some p) rest
      (p :: filtered, rejections)

/-! ## Tracks, stays and candidates -/

/-- `_split_tracks(points)`. -/
def splitTracks (points : List TrackPoint) : List (List TrackPoint) :=
  points.splitBy fun previous p => ¬ settings.maxGapS < elapsedS previous p

/-- `_stable_id(kind, entity_id, started_at, ended_at)`. -/
def stableId (kind entityId : String) (startedAt endedAt : Datetime) : String :=
  let raw := "|".intercalate
    [kind, algorithmVersion, entityId, isoformat startedAt.val, isoformat endedAt.val]
  (if kind = "journey" then "jrny" else "stay") ++ "_" ++ algorithmVersion ++ "_" ++
    String.ofList ((sha256Hex raw).toList.take 20)

/-- `int((last.observed_at - first.observed_at).total_seconds())`. -/
def durationS (first last : TrackPoint) : ℤ := truncated (elapsedS first last)

/-- The `Stay` of the points from `first` to `last`. -/
def stayOf (first last : TrackPoint) (points : List TrackPoint) : Stay where
  stayId := stableId "stay" first.entityId first.observedAt last.observedAt
  entityId := first.entityId
  startedAt := first.observedAt
  endedAt := last.observedAt
  centroidLatitude := (centroid points).1
  centroidLongitude := (centroid points).2
  pointCount := points.length
  durationS := durationS first last
  algorithmVersion := algorithmVersion

/-- The points after `first` that the inner `while` passes. -/
def inside (first : TrackPoint) (rest : List TrackPoint) : List TrackPoint :=
  rest.takeWhile fun p => haversineM haversine first p ≤ settings.stopRadiusM

/-- The outer `while` of `_detect_stays`: `index` is the index of the head, and the first `skip`
    points belong to the stay found last. -/
def stayLoop : ℕ → ℕ → List TrackPoint → List (Stay × ℕ × ℕ)
  | _, _, [] => []
  | skip + 1, index, _ :: rest => stayLoop skip (index + 1) rest
  | 0, index, first :: rest =>
    match (inside haversine settings first rest).getLast? with
    | some last =>
      if settings.stopMinDurationS ≤ durationS first last then
        (stayOf first last (first :: inside haversine settings first rest), index,
            index + (inside haversine settings first rest).length) ::
          stayLoop (inside haversine settings first rest).length (index + 1) rest
      else stayLoop 0 (index + 1) rest
    | none => stayLoop 0 (index + 1) rest

/-- `_detect_stays(points)`. -/
def detectStays (points : List TrackPoint) : List Stay × List (ℕ × ℕ) :=
  (stayLoop haversine settings 0 0 points).unzip

/-- The loop over `stay_ranges`, and the candidate after it. -/
def candidateLoop (points : List TrackPoint) : ℕ → List (ℕ × ℕ) → List (List TrackPoint)
  | left, [] => if left < points.length - 1 then [points.drop left] else []
  | left, (start, stop) :: ranges =>
    (if left < start then [(points.take (start + 1)).drop left] else []) ++
      candidateLoop points stop ranges

/-- `_journey_candidates(points, stay_ranges)`. -/
def journeyCandidates (points : List TrackPoint) (ranges : List (ℕ × ℕ)) :
    List (List TrackPoint) :=
  if points.length < 2 then []
  else if ranges = [] then [points]
  else candidateLoop points 0 ranges

/-! ## Journeys -/

/-- `[f(first, second) for first, second in zip(points, points[1:])]`. -/
def legs {α : Type} (f : TrackPoint → TrackPoint → α) (points : List TrackPoint) : List α :=
  List.zipWith f points points.tail

/-- `_build_journey(points)`. -/
def buildJourney (points : List TrackPoint) : Option Journey :=
  match points.head?, points.getLast? with
  | some first, some last =>
    let distanceM := floatSum (legs (haversineM haversine) points)
    if points.length < 2 ∨ durationS first last < settings.minJourneyDurationS ∨
        distanceM < settings.minJourneyDistanceM then none
    else
      let accuracyDegraded := points.any fun p =>
        p.accuracyM.all fun a => binary64 (settings.maxAccuracyM * (3 / 4)) < a
      let gapDegraded : Bool := binary64 ((settings.maxGapS : ℚ) / 2) <
        ((legs elapsedS points).max?).getD 0
      some {
        journeyId := stableId "journey" first.entityId first.observedAt last.observedAt
        entityId := first.entityId
        startedAt := first.observedAt
        endedAt := last.observedAt
        distanceM
        durationS := durationS first last
        pointCount := points.length
        averageSpeedMps := binary64 (distanceM / durationS first last)
        maxSegmentSpeedMps := ((legs (segmentSpeedMps haversine) points).max?).getD 0
        quality := if accuracyDegraded || gapDegraded then .degraded else .good
        algorithmVersion := algorithmVersion
        points }
  | _, _ => none

/-! ## `analyze` -/

/-- The body of the loop over the tracks: the stays, and for each candidate its journey, if it is
    one. -/
def analyzeTrack (track : List TrackPoint) : List Stay × List (Option Journey) :=
  let (stays, ranges) := detectStays haversine settings track
  (stays, (journeyCandidates track ranges).map (buildJourney haversine settings))

/-- `analyze(points)`. -/
def analyze (points : List TrackPoint) : Except Failure AnalysisResult := do
  let ordered := sortPoints points
  let entityIds := (ordered.map TrackPoint.entityId).dedup
  ensure (entityIds.length ≤ 1) (.valueError "analyze accepts points for exactly one entity")
  let (deduplicated, duplicates) := deduplicate ordered
  let (filtered, rejections) := filterPoints haversine settings none deduplicated
  let tracks := (splitTracks settings filtered).map (analyzeTrack haversine settings)
  let candidates := tracks.flatMap Prod.snd
  return {
    entityId := entityIds.head?
    acceptedPoints := filtered
    rejections := (duplicates ++ rejections).insertionSort fun r r' => r.observedAt ≤ r'.observedAt
    stays := tracks.flatMap Prod.fst
    journeys := candidates.filterMap id
    reorderedPointCount := countOutOfOrder (fun _ => none) points
    discardedCandidateCount := candidates.countP Option.isNone
    algorithmVersion := algorithmVersion }

end HomeAddons.Journeys
