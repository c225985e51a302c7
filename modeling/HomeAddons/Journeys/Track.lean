import HomeAddons.Common.Pattern
import HomeAddons.Common.IsoRoundTrip

/-!
# Track points, stays and journeys

The data of journey_analyzer/models.py and the distances of geo.py. A `float` is the rational number
it stands for, and each operation on floats rounds its exact result (`binary64`, `floatSum`). The
distance of two positions is computed with the `sin`, `cos`, `asin` and `sqrt` of the platform; it is
a parameter, `haversine`, of everything that needs it.

A `datetime` in UTC is an instant together with the proof that its year is one of 1 to 9999, and a
`TrackPoint` carries the proofs of what `__post_init__` checks.
-/

namespace HomeAddons.Journeys

open HomeAddons.Common HomeAddons.Common.Pattern

/-! ## models.py -/

/-- A `datetime` in UTC. -/
structure Datetime where
  val : Instant
  property : inYears val = true

theorem Datetime.val_injective : Function.Injective Datetime.val := by
  rintro ⟨t, ht⟩ ⟨t', ht'⟩ rfl
  rfl

instance : LinearOrder Datetime :=
  @LinearOrder.lift' Datetime ℤ Int.instLinearOrder Datetime.val Datetime.val_injective

/-- What the add-on's functions raise. -/
inductive Failure where
  | valueError (message : String)
  | overflowError
  | integrityError
  deriving DecidableEq

/-- A character of `[a-z0-9_]`. -/
def entityChar (c : Char) : Bool := ('a' ≤ c ∧ c ≤ 'z') ∨ ('0' ≤ c ∧ c ≤ '9') ∨ c = '_'

/-- `ENTITY_ID_PATTERN.fullmatch(entity_id) is not None`. -/
def isEntityId (entityId : String) : Bool :=
  (fullmatch (do
    let _ ← chars entityChar 1 none
    let _ ← lit "."
    chars entityChar 1 none) entityId).isSome

/-- `TrackPoint`. -/
structure TrackPoint where
  entityId : String
  observedAt : Datetime
  receivedAt : Datetime
  latitude : ℚ
  longitude : ℚ
  accuracyM : Option ℚ
  source : Option String
  entityId_valid : isEntityId entityId = true
  latitude_range : -90 ≤ latitude ∧ latitude ≤ 90
  longitude_range : -180 ≤ longitude ∧ longitude ≤ 180
  accuracyM_nonneg : ∀ a ∈ accuracyM, 0 ≤ a
  deriving DecidableEq

/-- `TrackPoint(…)` with the checks of `__post_init__`, on finite numbers. -/
def trackPoint (entityId : String) (observedAt receivedAt : Datetime) (latitude longitude : ℚ)
    (accuracyM : Option ℚ) (source : Option String) : Except Failure TrackPoint :=
  if hentity : isEntityId entityId = true then
    if hlat : -90 ≤ latitude ∧ latitude ≤ 90 then
      if hlon : -180 ≤ longitude ∧ longitude ≤ 180 then
        if hacc : ∀ a ∈ accuracyM, 0 ≤ a then
          .ok { entityId, observedAt, receivedAt, latitude, longitude, accuracyM, source,
                entityId_valid := hentity, latitude_range := hlat, longitude_range := hlon,
                accuracyM_nonneg := hacc }
        else .error (.valueError "accuracy_m must be finite and non-negative")
      else .error (.valueError "longitude must be finite and within [-180, 180]")
    else .error (.valueError "latitude must be finite and within [-90, 90]")
  else .error (.valueError "entity_id must be a stable Home Assistant entity id")

/-- The fields of a track point pass the checks. -/
theorem trackPoint_fields (p : TrackPoint) : trackPoint p.entityId p.observedAt p.receivedAt
    p.latitude p.longitude p.accuracyM p.source = .ok p := by
  rw [trackPoint, dif_pos p.entityId_valid, dif_pos p.latitude_range, dif_pos p.longitude_range,
    dif_pos p.accuracyM_nonneg]

/-- `float("inf") if point.accuracy_m is None else point.accuracy_m`. -/
def TrackPoint.accuracyOrInf (p : TrackPoint) : WithTop ℚ :=
  match p.accuracyM with
  | none => ⊤
  | some a => (a : ℚ)

/-- The `reason` of a rejection: "duplicate_timestamp", "zero_coordinate", "poor_accuracy" or
    "implausible_speed". -/
inductive Reason where
  | duplicateTimestamp
  | zeroCoordinate
  | poorAccuracy
  | implausibleSpeed
  deriving DecidableEq

/-- `PointRejection`. -/
structure PointRejection where
  entityId : String
  observedAt : Datetime
  reason : Reason
  deriving DecidableEq

/-- `Stay`. -/
structure Stay where
  stayId : String
  entityId : String
  startedAt : Datetime
  endedAt : Datetime
  centroidLatitude : ℚ
  centroidLongitude : ℚ
  pointCount : ℕ
  durationS : ℤ
  algorithmVersion : String
  deriving DecidableEq

/-- The `quality` of a journey: "good" or "degraded". -/
inductive Quality where
  | good
  | degraded
  deriving DecidableEq

/-- The fields of `Journey` that take part in comparisons: all but the points. -/
structure JourneySummary where
  journeyId : String
  entityId : String
  startedAt : Datetime
  endedAt : Datetime
  distanceM : ℚ
  durationS : ℤ
  pointCount : ℕ
  averageSpeedMps : ℚ
  maxSegmentSpeedMps : WithTop ℚ
  quality : Quality
  algorithmVersion : String
  deriving DecidableEq

/-- `Journey`. -/
structure Journey extends JourneySummary where
  points : List TrackPoint
  deriving DecidableEq

/-- `AnalysisResult`. -/
structure AnalysisResult where
  entityId : Option String
  acceptedPoints : List TrackPoint
  rejections : List PointRejection
  stays : List Stay
  journeys : List Journey
  reorderedPointCount : ℕ
  discardedCandidateCount : ℕ
  algorithmVersion : String
  deriving DecidableEq

/-! ## geo.py -/

/-- `(second.observed_at - first.observed_at).total_seconds()`. -/
def elapsedS (first second : TrackPoint) : ℚ :=
  binary64 (((second.observedAt.val - first.observedAt.val : ℤ) : ℚ) / 1000000)

/-- `int(value)`: the fraction is cut off. -/
def truncated (q : ℚ) : ℤ := q.num.tdiv q.den

variable (haversine : ℚ → ℚ → ℚ → ℚ → ℚ)

/-- `haversine_m(first, second)`. -/
def haversineM (first second : TrackPoint) : ℚ :=
  haversine first.latitude first.longitude second.latitude second.longitude

/-- `segment_speed_mps(first, second)`; `⊤` is `math.inf`. -/
def segmentSpeedMps (first second : TrackPoint) : WithTop ℚ :=
  if elapsedS first second ≤ 0 then ⊤
  else (binary64 (haversineM haversine first second / elapsedS first second) : ℚ)

/-- `centroid(points)`. -/
def centroid (points : List TrackPoint) : ℚ × ℚ :=
  (binary64 (floatSum (points.map TrackPoint.latitude) / points.length),
    binary64 (floatSum (points.map TrackPoint.longitude) / points.length))

end HomeAddons.Journeys
