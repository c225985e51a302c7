import HomeAddons.Common.IsoOrder
import HomeAddons.Common.Lex
import HomeAddons.Journeys.Partition
import HomeAddons.Journeys.Store

/-!
# Queries by time

`list_points`, `latest_point_time`, `list_journeys` and `prune_raw_points` of
journey_analyzer/storage.py compare columns of times as texts that end with a `Z`: a whole second
comes after all its fractions. Each query is exact exactly when no two of the times that it compares
lie in one second with exactly one of them the whole second.

* `listPoints_exact_iff`, `latestPointTime_exact_iff`, `pruneRawPoints_exact_iff`,
  `listJourneys_exact_iff`: when a query is exact.
* `queries_exact_iff`: all of them on one store, and the round trip of a time.
-/

namespace HomeAddons.Journeys

open HomeAddons.Common

/-! ## The code -/

/-- `_row_to_journey(row, include_points=False)`. -/
def rowToJourney (row : JourneyRow) : Except Failure JourneySummary := do
  let startedAt ← decodeTime row.startedAt
  let endedAt ← decodeTime row.endedAt
  return {
    journeyId := row.journeyId
    entityId := row.entityId
    startedAt := startedAt
    endedAt := endedAt
    distanceM := row.distanceM
    durationS := row.durationS
    pointCount := row.pointCount
    averageSpeedMps := row.averageSpeedMps
    maxSegmentSpeedMps := row.maxSegmentSpeedMps
    quality := row.quality
    algorithmVersion := row.algorithmVersion }

/-- `latest_point_time(entity_ids)`. -/
def JourneyStore.latestPointTime (store : JourneyStore) (entityIds : List String) :
    Except Failure (Option Datetime) :=
  if entityIds = [] then .ok none
  else
    match ((store.trackPoints.rows.filter fun r => r.entityId ∈ entityIds).map
        PointRow.observedAt).max? with
    | none => .ok none
    | some observedAt => some <$> decodeTime observedAt

/-- The `WHERE` of `list_journeys`. -/
def journeyClauses (entityId : Option String) (start stop : Option Datetime) (r : JourneyRow) :
    Bool :=
  (∀ id ∈ entityId, r.entityId = id) ∧ (∀ t ∈ start, encodeTime t ≤ r.endedAt) ∧
    ∀ t ∈ stop, r.startedAt ≤ encodeTime t

/-- `list_journeys(entity_id=…, start=…, end=…, limit=…, offset=…, descending=…)`. The order of the
    rows that agree in `started_at` is not stated; it is that of `tie`. -/
def JourneyStore.listJourneys (store : JourneyStore) (tie : JourneyRow → ℕ)
    (entityId : Option String) (start stop : Option Datetime) (limit offset : ℕ)
    (descending : Bool) : Except Failure (List JourneySummary) :=
  let rows := store.journeys.rows.filter (journeyClauses entityId start stop)
  let rows := if descending then
      rows.insertionSort (LexBy (fun r => OrderDual.toDual r.startedAt) tie)
    else rows.insertionSort (LexBy JourneyRow.startedAt tie)
  ((rows.drop offset).take limit).mapM rowToJourney

attribute [local irreducible] encodeTime decodeTime

/-! ## Texts of times -/

/-- The instant of a time. -/
abbrev Datetime.instant (t : Datetime) : ℤ := t.val

theorem toList_encodeTime_eq (t : Datetime) : (encodeTime t).toList = zuluText t.instant := by
  obtain ⟨front, -, hiso, henc⟩ := toList_encodeTime t
  rw [toList_isoformat_second] at hiso
  rw [henc, zuluText, List.append_cancel_right hiso]

variable {t t' : Datetime} {store : JourneyStore} {points : List TrackPoint}
  {journeys : List JourneySummary}

theorem encodeTime_le_iff :
    encodeTime t ≤ encodeTime t' ↔ zuluRank t.instant ≤ zuluRank t'.instant := by
  rw [String.le_iff_toList_le, toList_encodeTime_eq, toList_encodeTime_eq,
    zuluText_le_iff t.property t'.property]

theorem rowToJourney_journeyRow (j : JourneySummary) : rowToJourney (journeyRow j) = .ok j := by
  simp only [rowToJourney, journeyRow, decodeTime_encodeTime, ok_bind]
  rfl

theorem mapM_rowToJourney (journeys : List JourneySummary) :
    (journeys.map journeyRow).mapM rowToJourney = .ok journeys := by
  induction journeys with
  | nil => rfl
  | cons j journeys ih =>
    rw [List.map_cons, List.mapM_cons, rowToJourney_journeyRow, ok_bind, ih]
    rfl

theorem journeyRow_injective : Function.Injective journeyRow := by
  intro j k h
  have hj := rowToJourney_journeyRow j
  rw [h, rowToJourney_journeyRow] at hj
  cases hj
  rfl

/-! ## Points -/

/-- The store has these points and these journeys. -/
structure JourneyStore.Holds (store : JourneyStore) (points : List TrackPoint)
    (journeys : List JourneySummary) : Prop where
  points : store.trackPoints.rows = points.map pointRow
  journeys : store.journeys.rows = journeys.map journeyRow

theorem JourneyStore.Holds.nodup_points (hs : store.Holds points journeys) : points.Nodup := by
  refine List.Nodup.of_map pointRow (List.Nodup.of_map PointRow.key ?_)
  rw [← hs.points]
  exact store.trackPoints.nodup

theorem JourneyStore.Holds.nodup_journeys (hs : store.Holds points journeys) : journeys.Nodup := by
  refine List.Nodup.of_map journeyRow (List.Nodup.of_map JourneyRow.journeyId ?_)
  rw [← hs.journeys]
  exact store.journeys.nodup

/-- The texts of the entity's points are compared with those of the bounds. -/
def selectsPoint (entityId : String) (start stop : Option Datetime) (p : TrackPoint) : Bool :=
  p.entityId = entityId ∧ (∀ t ∈ start, encodeTime t ≤ encodeTime p.observedAt) ∧
    ∀ t ∈ stop, encodeTime p.observedAt ≤ encodeTime t

/-- The entity's points between the bounds. -/
def wantsPoint (entityId : String) (start stop : Option Datetime) (p : TrackPoint) : Bool :=
  p.entityId = entityId ∧ (∀ t ∈ start, t ≤ p.observedAt) ∧ ∀ t ∈ stop, p.observedAt ≤ t

section Points

variable {store : JourneyStore} {points : List TrackPoint} {journeys : List JourneySummary}
  {entityId : String} {start stop : Option Datetime}

theorem listPoints_ok (hs : store.Holds points journeys) :
    store.listPoints entityId start stop none =
      .ok ((points.filter (selectsPoint entityId start stop)).insertionSort
        fun p q => encodeTime p.observedAt ≤ encodeTime q.observedAt) := by
  unfold JourneyStore.listPoints
  have hsort := List.map_insertionSort
    (fun p q : TrackPoint => encodeTime p.observedAt ≤ encodeTime q.observedAt)
    (fun r r' : PointRow => r.observedAt ≤ r'.observedAt) pointRow
    (points.filter (selectsPoint entityId start stop)) fun _ _ _ _ => Iff.rfl
  dsimp only [Option.elim_none]
  rw [hs.points, List.filter_map]
  exact (congrArg (List.mapM rowToPoint) hsort.symm).trans (mapM_rowToPoint _)

theorem bounds_iff {p : TrackPoint} :
    (selectsPoint entityId start stop p = wantsPoint entityId start stop p) ↔
      (selectsPoint entityId start stop p = true ∨ wantsPoint entityId start stop p = true →
        (∀ t ∈ start, ¬ Clash t.instant p.observedAt.instant) ∧
          ∀ t ∈ stop, ¬ Clash p.observedAt.instant t.instant) := by
  constructor
  · intro heq hor
    have hselects : selectsPoint entityId start stop p = true := hor.elim id fun h => heq ▸ h
    have hwants : wantsPoint entityId start stop p = true := heq ▸ hselects
    simp only [selectsPoint, wantsPoint, decide_eq_true_eq, encodeTime_le_iff] at hselects hwants
    exact ⟨fun t ht => zuluRank_le_iff.mp (iff_of_true (hselects.2.1 t ht) (hwants.2.1 t ht)),
      fun t ht => zuluRank_le_iff.mp (iff_of_true (hselects.2.2 t ht) (hwants.2.2 t ht))⟩
  · intro hclash
    rw [Bool.eq_iff_iff]
    have hiff : (∀ t ∈ start, ¬ Clash t.instant p.observedAt.instant) ∧
        (∀ t ∈ stop, ¬ Clash p.observedAt.instant t.instant) →
        (selectsPoint entityId start stop p = true ↔ wantsPoint entityId start stop p = true) := by
      rintro ⟨hstart, hstop⟩
      simp only [selectsPoint, wantsPoint, decide_eq_true_eq, encodeTime_le_iff]
      refine and_congr_right fun _ => and_congr ?_ ?_
      · exact forall₂_congr fun t ht => zuluRank_le_iff.mpr (hstart t ht)
      · exact forall₂_congr fun t ht => zuluRank_le_iff.mpr (hstop t ht)
    exact ⟨fun h => (hiff (hclash (.inl h))).mp h, fun h => (hiff (hclash (.inr h))).mpr h⟩

/-- `list_points` returns exactly the points between the bounds, by increasing instants, exactly when
    no point that it or the bounds take in clashes with a bound, and no two such points clash. -/
theorem listPoints_exact_iff (hs : store.Holds points journeys) :
    (∃ items, store.listPoints entityId start stop none = .ok items ∧
      items.Perm (points.filter (wantsPoint entityId start stop)) ∧
      items.Pairwise fun p q => p.observedAt ≤ q.observedAt) ↔
    (∀ p ∈ points, selectsPoint entityId start stop p = true ∨
        wantsPoint entityId start stop p = true →
      (∀ t ∈ start, ¬ Clash t.instant p.observedAt.instant) ∧
        ∀ t ∈ stop, ¬ Clash p.observedAt.instant t.instant) ∧
      ∀ p ∈ points, selectsPoint entityId start stop p = true → ∀ q ∈ points,
        selectsPoint entityId start stop q = true →
          ¬ Clash p.observedAt.instant q.observedAt.instant := by
  have hperm := List.perm_insertionSort
    (fun p q : TrackPoint => encodeTime p.observedAt ≤ encodeTime q.observedAt)
    (points.filter (selectsPoint entityId start stop))
  have hrank := (List.pairwise_insertionSort
    (fun p q : TrackPoint => encodeTime p.observedAt ≤ encodeTime q.observedAt)
    (points.filter (selectsPoint entityId start stop))).imp fun h => encodeTime_le_iff.mp h
  have hset : ((points.filter (selectsPoint entityId start stop)).insertionSort
      fun p q => encodeTime p.observedAt ≤ encodeTime q.observedAt).Perm
        (points.filter (wantsPoint entityId start stop)) ↔
      ∀ p ∈ points, selectsPoint entityId start stop p = wantsPoint entityId start stop p := by
    rw [hperm.congr_left, List.perm_ext_iff_of_nodup (hs.nodup_points.filter _)
      (hs.nodup_points.filter _)]
    simp only [List.mem_filter, and_congr_right_iff]
    exact forall₂_congr fun _ _ => Bool.eq_iff_iff.symm
  rw [listPoints_ok hs]
  simp only [Except.ok.injEq, exists_eq_left', hset, bounds_iff]
  refine and_congr_right fun _ => (pairwise_iff_not_clash hrank).trans ?_
  simp only [List.mem_insertionSort, List.mem_filter, and_imp]

/-- The points of some entities. -/
def ofEntities (points : List TrackPoint) (entityIds : List String) : List TrackPoint :=
  points.filter fun p => p.entityId ∈ entityIds

variable {entityIds : List String}

theorem latestPointTime_eq (hs : store.Holds points journeys) :
    store.latestPointTime entityIds =
      match ((ofEntities points entityIds).map fun p => encodeTime p.observedAt).max? with
      | none => .ok none
      | some observedAt => some <$> decodeTime observedAt := by
  unfold JourneyStore.latestPointTime
  split
  · next hnil =>
    have hempty : ofEntities points entityIds = [] := by
      rw [ofEntities, List.filter_eq_nil_iff]
      intro p _
      rw [hnil]
      simp
    rw [hempty]
    rfl
  · rw [hs.points, List.filter_map, List.map_map]
    rfl

/-- `latest_point_time` returns the greatest instant exactly when the latest point does not lie in a
    fraction of a second whose whole has a point. -/
theorem latestPointTime_exact_iff (hs : store.Holds points journeys) :
    store.latestPointTime entityIds =
        .ok ((ofEntities points entityIds).map TrackPoint.observedAt).max? ↔
      ∀ p ∈ ofEntities points entityIds, ∀ q ∈ ofEntities points entityIds,
        (∀ r ∈ ofEntities points entityIds, r.observedAt ≤ q.observedAt) →
          ¬ Overtakes p.observedAt.instant q.observedAt.instant := by
  rw [latestPointTime_eq hs]
  generalize ofEntities points entityIds = ps
  cases htext : (ps.map fun p => encodeTime p.observedAt).max? with
  | none =>
    have hnil : ps = [] := List.map_eq_nil_iff.mp (List.max?_eq_none_iff.mp htext)
    subst hnil
    exact iff_of_true rfl fun p hp => absurd hp List.not_mem_nil
  | some observedAt =>
    obtain ⟨hmem, hmax⟩ := List.max?_eq_some_iff.mp htext
    obtain ⟨p₀, hp₀, rfl⟩ := List.mem_map.mp hmem
    have hrank : ∀ q ∈ ps, zuluRank q.observedAt.instant ≤ zuluRank p₀.observedAt.instant :=
      fun q hq => encodeTime_le_iff.mp (hmax _ (List.mem_map_of_mem hq))
    have hvalue : some <$> decodeTime (encodeTime p₀.observedAt) =
        Except.ok (ε := Failure) (some p₀.observedAt) := by
      rw [decodeTime_encodeTime]
      rfl
    dsimp only
    rw [hvalue, Except.ok.injEq, eq_comm, List.max?_eq_some_iff]
    constructor
    · rintro ⟨-, hgreatest⟩ p hp q hq hlast hover
      have hsame : q.observedAt = p₀.observedAt :=
        le_antisymm (hgreatest _ (List.mem_map_of_mem hq)) (hlast p₀ hp₀)
      have hle := hrank p hp
      rw [← hsame] at hle
      exact not_overtakes hle hover
    · intro hnone
      refine ⟨List.mem_map_of_mem hp₀, ?_⟩
      obtain ⟨last, hlast⟩ := Option.ne_none_iff_exists'.mp (show
        (ps.map TrackPoint.observedAt).max? ≠ none from fun h => by
          rw [List.max?_eq_none_iff, List.map_eq_nil_iff] at h
          rw [h] at hp₀
          cases hp₀)
      obtain ⟨hmem', hgreatest⟩ := List.max?_eq_some_iff.mp hlast
      obtain ⟨q, hq, rfl⟩ := List.mem_map.mp hmem'
      intro t ht
      refine (hgreatest t ht).trans ?_
      have hover := hnone p₀ hp₀ q hq fun r hr => hgreatest _ (List.mem_map_of_mem hr)
      exact (le_iff_not_overtakes (hrank q hq)).mpr hover

/-- `prune_raw_points` removes exactly the points before the bound exactly when no point clashes
    with it. -/
theorem pruneRawPoints_exact_iff (hs : store.Holds points journeys) {before : Datetime} :
    (store.pruneRawPoints before).1.trackPoints.rows =
        (points.filter fun p => before ≤ p.observedAt).map pointRow ↔
      ∀ p ∈ points, ¬ Clash before.instant p.observedAt.instant := by
  have hrows : (store.pruneRawPoints before).1.trackPoints.rows =
      (points.filter fun p => encodeTime before ≤ encodeTime p.observedAt).map pointRow := by
    show (store.trackPoints.rows.filter fun r => !decide (r.observedAt < encodeTime before)) = _
    rw [hs.points, List.filter_map]
    congr 1
    refine List.filter_congr fun p _ => ?_
    rw [Function.comp_apply, ← decide_not]
    exact decide_eq_decide.mpr not_lt
  rw [hrows, pointRow_injective.list_map.eq_iff]
  constructor
  · intro heq p hp
    have hiff : encodeTime before ≤ encodeTime p.observedAt ↔ before ≤ p.observedAt := by
      have hmem := congrArg (p ∈ ·) heq
      simpa only [List.mem_filter, hp, true_and, decide_eq_true_eq, eq_iff_iff] using hmem
    rw [encodeTime_le_iff] at hiff
    exact zuluRank_le_iff.mp hiff
  · intro hnone
    refine List.filter_congr fun p hp => decide_eq_decide.mpr ?_
    rw [encodeTime_le_iff]
    exact zuluRank_le_iff.mpr (hnone p hp)

end Points

/-! ## Journeys -/

/-- The texts of the journeys are compared with those of the bounds. -/
def selectsJourney (entityId : Option String) (start stop : Option Datetime) (j : JourneySummary) :
    Bool :=
  journeyClauses entityId start stop (journeyRow j)

/-- The journeys that overlap the bounds. -/
def wantsJourney (entityId : Option String) (start stop : Option Datetime) (j : JourneySummary) :
    Bool :=
  (∀ id ∈ entityId, j.entityId = id) ∧ (∀ t ∈ start, t ≤ j.endedAt) ∧ ∀ t ∈ stop, j.startedAt ≤ t

/-- The times of two journeys in the order that is asked for. -/
def inOrder (descending : Bool) (j k : JourneySummary) : Prop :=
  if descending then k.startedAt ≤ j.startedAt else j.startedAt ≤ k.startedAt

/-- The journey is among the first rows for some order of the rows that agree in `started_at`. -/
def CanList (journeys : List JourneySummary) (entityId : Option String)
    (start stop : Option Datetime) (limit : ℕ) (descending : Bool) (j : JourneySummary) : Prop :=
  if descending then
    CanShow (fun j => OrderDual.toDual (encodeTime j.startedAt)) (selectsJourney entityId start stop)
      journeys limit j
  else
    CanShow (fun j => encodeTime j.startedAt) (selectsJourney entityId start stop) journeys limit j

section Journeys

variable {store : JourneyStore} {points : List TrackPoint} {journeys : List JourneySummary}
  {entityId : Option String} {start stop : Option Datetime} {limit : ℕ} {descending : Bool}

theorem wantsJourney_iff {j : JourneySummary}
    (hselects : selectsJourney entityId start stop j = true) :
    wantsJourney entityId start stop j = true ↔
      (∀ t ∈ start, ¬ Clash t.instant j.endedAt.instant) ∧
        ∀ t ∈ stop, ¬ Clash j.startedAt.instant t.instant := by
  simp only [selectsJourney, journeyClauses, journeyRow, decide_eq_true_eq, encodeTime_le_iff]
    at hselects
  obtain ⟨hid, hstart, hstop⟩ := hselects
  simp only [wantsJourney, decide_eq_true_eq]
  rw [and_iff_right hid]
  refine and_congr (forall₂_congr fun t ht => ?_) (forall₂_congr fun t ht => ?_)
  · exact (iff_true_left (hstart t ht)).symm.trans zuluRank_le_iff
  · exact (iff_true_left (hstop t ht)).symm.trans zuluRank_le_iff

theorem listJourneys_ok (hs : store.Holds points journeys) {tie : JourneyRow → ℕ} :
    store.listJourneys tie entityId start stop limit 0 descending =
      .ok (((if descending then
          (journeys.filter (selectsJourney entityId start stop)).insertionSort
            (LexBy (fun j => OrderDual.toDual (encodeTime j.startedAt)) fun j => tie (journeyRow j))
        else (journeys.filter (selectsJourney entityId start stop)).insertionSort
            (LexBy (fun j => encodeTime j.startedAt) fun j => tie (journeyRow j)))).take limit) := by
  unfold JourneyStore.listJourneys
  dsimp only
  rw [hs.journeys, List.filter_map, List.drop_zero]
  cases descending with
  | true =>
    have hsort := List.map_insertionSort
      (LexBy (fun j => OrderDual.toDual (encodeTime j.startedAt)) fun j => tie (journeyRow j))
      (LexBy (fun r => OrderDual.toDual r.startedAt) tie) journeyRow
      (journeys.filter (selectsJourney entityId start stop)) fun _ _ _ _ => Iff.rfl
    rw [if_pos rfl, if_pos rfl]
    refine (congrArg (fun rows => (rows.take limit).mapM rowToJourney) hsort.symm).trans ?_
    rw [← List.map_take, mapM_rowToJourney]
  | false =>
    have hsort := List.map_insertionSort
      (LexBy (fun j => encodeTime j.startedAt) fun j => tie (journeyRow j))
      (LexBy JourneyRow.startedAt tie) journeyRow
      (journeys.filter (selectsJourney entityId start stop)) fun _ _ _ _ => Iff.rfl
    rw [if_neg Bool.false_ne_true, if_neg Bool.false_ne_true]
    refine (congrArg (fun rows => (rows.take limit).mapM rowToJourney) hsort.symm).trans ?_
    rw [← List.map_take, mapM_rowToJourney]

/-- The orders of the rows give all orders of the journeys. -/
theorem forall_rowTie_iff {P : (JourneySummary → ℕ) → Prop} :
    (∀ tie : JourneyRow → ℕ, P fun j => tie (journeyRow j)) ↔ ∀ tie, P tie := by
  refine ⟨fun h tie => ?_, fun h tie => h _⟩
  have hextend : (fun j => Function.extend journeyRow tie 0 (journeyRow j)) = tie :=
    funext fun j => journeyRow_injective.extend_apply tie 0 j
  exact hextend ▸ h (Function.extend journeyRow tie 0)

/-- `list_journeys` returns the first ones of exactly the journeys that overlap the bounds exactly
    when no journey that it may return clashes with a bound, no two of them clash, and a journey that
    overlaps the bounds is left out only for ones that start before it. -/
theorem listJourneys_exact_iff (hs : store.Holds points journeys) :
    (∀ tie : JourneyRow → ℕ, ∃ s : List JourneySummary,
      s.Perm (journeys.filter (wantsJourney entityId start stop)) ∧
      s.Pairwise (inOrder descending) ∧
      store.listJourneys tie entityId start stop limit 0 descending = .ok (s.take limit)) ↔
    (∀ j, CanList journeys entityId start stop limit descending j →
      (∀ t ∈ start, ¬ Clash t.instant j.endedAt.instant) ∧
        ∀ t ∈ stop, ¬ Clash j.startedAt.instant t.instant) ∧
    (∀ j k, CanList journeys entityId start stop limit descending j →
      CanList journeys entityId start stop limit descending k →
        ¬ Clash j.startedAt.instant k.startedAt.instant) ∧
    ∀ k ∈ journeys, wantsJourney entityId start stop k = true →
      ¬ CanList journeys entityId start stop limit descending k →
        limit ≤ (journeys.filter (selectsJourney entityId start stop)).length ∧
          ∀ j, CanList journeys entityId start stop limit descending j → inOrder descending j k := by
  simp only [listJourneys_ok hs, Except.ok.injEq]
  cases descending with
  | true =>
    simp only [if_true]
    let first (j : JourneySummary) := OrderDual.toDual (encodeTime j.startedAt)
    let value (j : JourneySummary) := OrderDual.toDual j.startedAt
    refine (@forall_rowTie_iff fun tie => ∃ s : List JourneySummary,
      s.Perm (journeys.filter (wantsJourney entityId start stop)) ∧ s.Pairwise (inOrder true) ∧
        ((journeys.filter (selectsJourney entityId start stop)).insertionSort
          (LexBy first tie)).take limit = s.take limit).trans ?_
    refine (limited_iff first value hs.nodup_journeys
      fun a _ b _ h => encodeTime_injective h).trans (and_congr ?_ (and_congr ?_ Iff.rfl))
    · exact forall₂_congr fun j hj => wantsJourney_iff hj.2.1
    · refine (forall_lt_imp_le_iff first value fun a b _ _ => encodeTime_injective.eq_iff).trans ?_
      refine forall₂_congr fun j k => forall₂_congr fun _ _ => ?_
      have hiff := @zuluRank_le_iff k.startedAt.instant j.startedAt.instant
      rw [← encodeTime_le_iff] at hiff
      exact hiff.trans (not_congr ⟨Clash.symm, Clash.symm⟩)
  | false =>
    simp only [Bool.false_eq_true, if_false]
    let first (j : JourneySummary) := encodeTime j.startedAt
    let value (j : JourneySummary) := j.startedAt
    refine (@forall_rowTie_iff fun tie => ∃ s : List JourneySummary,
      s.Perm (journeys.filter (wantsJourney entityId start stop)) ∧ s.Pairwise (inOrder false) ∧
        ((journeys.filter (selectsJourney entityId start stop)).insertionSort
          (LexBy first tie)).take limit = s.take limit).trans ?_
    refine (limited_iff first value hs.nodup_journeys
      fun a _ b _ h => encodeTime_injective h).trans (and_congr ?_ (and_congr ?_ Iff.rfl))
    · exact forall₂_congr fun j hj => wantsJourney_iff hj.2.1
    · refine (forall_lt_imp_le_iff first value fun a b _ _ => encodeTime_injective.eq_iff).trans ?_
      refine forall₂_congr fun j k => forall₂_congr fun _ _ => ?_
      have hiff := @zuluRank_le_iff j.startedAt.instant k.startedAt.instant
      rw [← encodeTime_le_iff] at hiff
      exact hiff

end Journeys

/-- When the queries of a store are exact, for every stored set of points and journeys. -/
theorem queries_exact_iff {store : JourneyStore} {points : List TrackPoint}
    {journeys : List JourneySummary} (hs : store.Holds points journeys) :
    (∀ entityId start stop,
      (∃ items, store.listPoints entityId start stop none = .ok items ∧
        items.Perm (points.filter (wantsPoint entityId start stop)) ∧
        items.Pairwise fun p q => p.observedAt ≤ q.observedAt) ↔
      (∀ p ∈ points, selectsPoint entityId start stop p = true ∨
          wantsPoint entityId start stop p = true →
        (∀ t ∈ start, ¬ Clash t.instant p.observedAt.instant) ∧
          ∀ t ∈ stop, ¬ Clash p.observedAt.instant t.instant) ∧
        ∀ p ∈ points, selectsPoint entityId start stop p = true → ∀ q ∈ points,
          selectsPoint entityId start stop q = true →
            ¬ Clash p.observedAt.instant q.observedAt.instant) ∧
    (∀ entityIds, store.latestPointTime entityIds =
        .ok ((ofEntities points entityIds).map TrackPoint.observedAt).max? ↔
      ∀ p ∈ ofEntities points entityIds, ∀ q ∈ ofEntities points entityIds,
        (∀ r ∈ ofEntities points entityIds, r.observedAt ≤ q.observedAt) →
          ¬ Overtakes p.observedAt.instant q.observedAt.instant) ∧
    (∀ before, (store.pruneRawPoints before).1.trackPoints.rows =
        (points.filter fun p => before ≤ p.observedAt).map pointRow ↔
      ∀ p ∈ points, ¬ Clash before.instant p.observedAt.instant) ∧
    (∀ entityId start stop limit descending,
      (∀ tie : JourneyRow → ℕ, ∃ s : List JourneySummary,
        s.Perm (journeys.filter (wantsJourney entityId start stop)) ∧
        s.Pairwise (inOrder descending) ∧
        store.listJourneys tie entityId start stop limit 0 descending = .ok (s.take limit)) ↔
      (∀ j, CanList journeys entityId start stop limit descending j →
        (∀ t ∈ start, ¬ Clash t.instant j.endedAt.instant) ∧
          ∀ t ∈ stop, ¬ Clash j.startedAt.instant t.instant) ∧
      (∀ j k, CanList journeys entityId start stop limit descending j →
        CanList journeys entityId start stop limit descending k →
          ¬ Clash j.startedAt.instant k.startedAt.instant) ∧
      ∀ k ∈ journeys, wantsJourney entityId start stop k = true →
        ¬ CanList journeys entityId start stop limit descending k →
          limit ≤ (journeys.filter (selectsJourney entityId start stop)).length ∧
            ∀ j, CanList journeys entityId start stop limit descending j →
              inOrder descending j k) ∧
    ∀ t, decodeTime (encodeTime t) = .ok t :=
  ⟨fun _ _ _ => listPoints_exact_iff hs, fun _ => latestPointTime_exact_iff hs,
    fun _ => pruneRawPoints_exact_iff hs, fun _ _ _ _ _ => listJourneys_exact_iff hs,
    decodeTime_encodeTime⟩

/-! ### A whole second and its half -/

/-- A point at 10:00:00. -/
def wholeFix : TrackPoint := equatorFix ⟨1767261600000000, by decide⟩

/-- A point half a second later. -/
def halfFix : TrackPoint := equatorFix ⟨1767261600500000, by decide⟩

/-- The store of the two points. -/
def clashingStore : JourneyStore :=
  { JourneyStore.empty with
    trackPoints := ⟨[wholeFix, halfFix].map pointRow, by decide +kernel⟩ }

theorem clashingStore_holds : clashingStore.Holds [wholeFix, halfFix] [] := ⟨rfl, rfl⟩

/-- The round trip holds of this store. -/
theorem clashingStore_roundTrip :
    decodeTime (encodeTime wholeFix.observedAt) = .ok wholeFix.observedAt :=
  (queries_exact_iff clashingStore_holds).2.2.2.2 _

/-- The points come in the wrong order, the latest one is not the greatest, and the earlier one is
    not before the later one. -/
theorem clashingStore_inexact :
    (¬ ∃ items, clashingStore.listPoints "person.example" none none none = .ok items ∧
      items.Perm ([wholeFix, halfFix].filter (wantsPoint "person.example" none none)) ∧
      items.Pairwise fun p q => p.observedAt ≤ q.observedAt) ∧
    clashingStore.latestPointTime ["person.example"] ≠
      .ok ((ofEntities [wholeFix, halfFix] ["person.example"]).map TrackPoint.observedAt).max? ∧
    (clashingStore.pruneRawPoints halfFix.observedAt).1.trackPoints.rows ≠
      ([wholeFix, halfFix].filter fun p => halfFix.observedAt ≤ p.observedAt).map pointRow := by
  have hover : Overtakes wholeFix.observedAt.instant halfFix.observedAt.instant := by decide
  refine ⟨fun h => ?_, fun h => ?_, fun h => ?_⟩
  · obtain ⟨-, hnone⟩ := (listPoints_exact_iff clashingStore_holds).mp h
    exact hnone wholeFix (by simp) (by simp [selectsPoint, wholeFix, equatorFix])
      halfFix (by simp) (by simp [selectsPoint, halfFix, equatorFix]) (.inl hover)
  · have hnone := (latestPointTime_exact_iff clashingStore_holds).mp h
    refine hnone wholeFix ?_ halfFix ?_ ?_ hover
    · simp [ofEntities, wholeFix, equatorFix]
    · simp [ofEntities, halfFix, equatorFix]
    · intro r hr
      obtain rfl | rfl : r = wholeFix ∨ r = halfFix := by
        simpa using List.mem_of_mem_filter hr
      · show (1767261600000000 : ℤ) ≤ 1767261600500000
        decide
      · exact le_rfl
  · have hnone := (pruneRawPoints_exact_iff clashingStore_holds).mp h
    exact hnone wholeFix (by simp) (.inr hover)

end HomeAddons.Journeys
