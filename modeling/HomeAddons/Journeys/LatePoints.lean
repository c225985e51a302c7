import HomeAddons.Journeys.Laws
import HomeAddons.Journeys.Store

/-!
# Late and batched points

Points reach the store in batches, in any order, and are analysed when they are read back. The store
resolves two points of one timestamp by an upsert, which keeps the first of the most accurate ones to
arrive; `analyze` resolves them by a minimum over all of them, which goes on to the time of receipt
and the coordinates.

* `findings_perm`: the order of the input of `analyze` plays no part in what it finds.
* `listPoints_savePoints`: what the store reads back after any batches.
* `late_points_converge_iff`: with every setting the stored points are analysed as the points
  themselves are, iff at every timestamp the two ways of resolving duplicates agree (`TiesSettled`).
-/

namespace HomeAddons.Journeys

open HomeAddons.Common

/-! ## What an analysis finds -/

/-- The time, the coordinates and the accuracy of a point. -/
structure Fix where
  observedAt : Datetime
  latitude : ℚ
  longitude : ℚ
  accuracyM : Option ℚ
  deriving DecidableEq

def TrackPoint.fix (p : TrackPoint) : Fix := ⟨p.observedAt, p.latitude, p.longitude, p.accuracyM⟩

/-- The accepted points, the stays, and the journeys with the points they consist of. -/
structure Findings where
  accepted : List Fix
  stays : List Stay
  journeys : List (JourneySummary × List Fix)
  deriving DecidableEq

def AnalysisResult.findings (result : AnalysisResult) : Findings :=
  ⟨result.acceptedPoints.map TrackPoint.fix, result.stays,
    result.journeys.map fun j => (j.toJourneySummary, j.points.map TrackPoint.fix)⟩

variable (haversine : ℚ → ℚ → ℚ → ℚ → ℚ) (settings : AnalyzerSettings)

/-- What is found in points without duplicates. -/
def findingsOf (distinct : List TrackPoint) : Findings :=
  let filtered := (filterPoints haversine settings none distinct).1
  let tracks := (splitTracks settings filtered).map (analyzeTrack haversine settings)
  ⟨filtered.map TrackPoint.fix, tracks.flatMap Prod.fst,
    ((tracks.flatMap Prod.snd).filterMap id).map fun j =>
      (j.toJourneySummary, j.points.map TrackPoint.fix)⟩

/-- What is rejected, when `duplicates` were rejected before and `distinct` were left. -/
def rejectionsOf (duplicates : List PointRejection) (distinct : List TrackPoint) :
    List PointRejection :=
  (duplicates ++ (filterPoints haversine settings none distinct).2).insertionSort
    fun r r' => r.observedAt ≤ r'.observedAt

theorem map_analyze (points : List TrackPoint) :
    (analyze haversine settings points).map (fun r => (r.findings, r.rejections)) =
      if (entityIds points).length ≤ 1 then
        .ok (findingsOf haversine settings (deduplicate (sortPoints points)).1,
          rejectionsOf haversine settings (deduplicate (sortPoints points)).2
            (deduplicate (sortPoints points)).1)
      else .error (.valueError "analyze accepts points for exactly one entity") := by
  rw [analyze_eq, apply_ite (Except.map _)]
  rfl

/-- The findings depend on the fixes only. -/
theorem findingsOf_bare (distinct : List TrackPoint) :
    findingsOf haversine settings (distinct.map TrackPoint.bare) =
      findingsOf haversine settings distinct := by
  have hfilter := filterPoints_bare haversine settings none distinct
  rw [Option.map_none] at hfilter
  have htracks : ∀ points : List TrackPoint,
      (splitTracks settings (points.map TrackPoint.bare)).map (analyzeTrack haversine settings) =
        ((splitTracks settings points).map (analyzeTrack haversine settings)).map
          fun t => (t.1, t.2.map (Option.map Journey.bare)) := by
    intro points
    rw [splitTracks_bare, List.map_map, List.map_map]
    exact List.map_congr_left fun track _ => analyzeTrack_bare haversine settings track
  have hjourneys : ∀ candidates : List (Option Journey),
      (candidates.map (Option.map Journey.bare)).filterMap id =
        (candidates.filterMap id).map Journey.bare := by
    intro candidates
    rw [List.filterMap_map, List.map_filterMap]
    rfl
  have hfixes : ∀ points : List TrackPoint,
      (points.map TrackPoint.bare).map TrackPoint.fix = points.map TrackPoint.fix :=
    fun points => List.map_map ..
  have hcandidates : ∀ tracks : List (List Stay × List (Option Journey)),
      (tracks.map fun t => (t.1, t.2.map (Option.map Journey.bare))).flatMap Prod.snd =
        (tracks.flatMap Prod.snd).map (Option.map Journey.bare) := by
    intro tracks
    rw [List.flatMap_map, List.map_flatMap]
  have hstays : ∀ tracks : List (List Stay × List (Option Journey)),
      (tracks.map fun t => (t.1, t.2.map (Option.map Journey.bare))).flatMap Prod.fst =
        tracks.flatMap Prod.fst :=
    fun tracks => List.flatMap_map ..
  unfold findingsOf
  simp only [hfilter, htracks, hfixes, hcandidates, hstays, hjourneys]
  rw [List.map_map]
  rw [Findings.mk.injEq]
  refine ⟨rfl, rfl, ?_⟩
  apply List.map_congr_left
  intro j _
  exact Prod.ext rfl (hfixes j.points)

theorem rejectionsOf_bare (duplicates : List PointRejection) (distinct : List TrackPoint) :
    rejectionsOf haversine settings duplicates (distinct.map TrackPoint.bare) =
      rejectionsOf haversine settings duplicates distinct := by
  have hfilter := filterPoints_bare haversine settings none distinct
  rw [Option.map_none] at hfilter
  rw [rejectionsOf, hfilter, rejectionsOf]

variable {points points' : List TrackPoint} {k : String ×ₗ Datetime} {p q : TrackPoint}
  {entityId : String}

/-- What `analyze` finds and rejects does not depend on the order of its input. -/
theorem findings_perm (h : points.Perm points') :
    (analyze haversine settings points).map (fun r => (r.findings, r.rejections)) =
      (analyze haversine settings points').map (fun r => (r.findings, r.rejections)) := by
  have hsort : (sortPoints points).Perm (sortPoints points') :=
    (List.perm_insertionSort _ _).trans (h.trans (List.perm_insertionSort _ _).symm)
  have hlength : (entityIds points).length = (entityIds points').length :=
    (hsort.map TrackPoint.entityId).dedup.length_eq
  obtain ⟨hleft, hrejected⟩ := deduplicate_perm h
  rw [map_analyze, map_analyze, hlength, hrejected, ← findingsOf_bare, hleft, findingsOf_bare,
    ← rejectionsOf_bare, hleft, rejectionsOf_bare]

/-! ## What the store reads back -/

/-- The first of the most accurate points of a timestamp to arrive. -/
def firstAt (arrivals : List TrackPoint) (k : String ×ₗ Datetime) : Option TrackPoint :=
  (arrivals.filter fun p => timeKey p = k).argmin TrackPoint.accuracyOrInf

theorem mem_of_firstAt {arrivals : List TrackPoint} (h : firstAt arrivals k = some p) :
    p ∈ arrivals ∧ timeKey p = k := by
  simpa using List.argmin_mem h

/-- Batches are saved as their points would be in turn. -/
theorem trackPoints_saveBatches (store : JourneyStore) (batches : List (List TrackPoint)) :
    (batches.foldl (fun store batch => (store.savePoints batch).1) store).trackPoints =
      (savePointRows store.trackPoints (batches.flatten.map pointRow)).1 := by
  induction batches generalizing store with
  | nil => rfl
  | cons batch batches ih =>
    rw [List.foldl_cons, ih, List.flatten_cons, List.map_append, savePointRows_append]
    rfl

section Stored

variable {T : Table PointRow.key} {entityId : String} {arrivals : List TrackPoint}

theorem get?_of_fresh (hfresh : ∀ r ∈ T.rows, r.entityId ≠ entityId) (text : String) :
    T.get? (entityId, text) = none := by
  rw [Table.get?_eq_none]
  intro hmem
  obtain ⟨r, hr, hkey⟩ := List.mem_map.mp hmem
  exact hfresh r hr (congrArg Prod.fst hkey)

/-- Under the key of a timestamp there is the row of the first of the most accurate points. -/
theorem get?_saveArrivals (hfresh : ∀ r ∈ T.rows, r.entityId ≠ entityId) (t : Datetime) :
    (savePointRows T (arrivals.map pointRow)).1.get? (entityId, encodeTime t) =
      (firstAt arrivals (toLex (entityId, t))).map pointRow := by
  have hkeys : ∀ p : TrackPoint, (pointRow p).key = (entityId, encodeTime t) ↔
      timeKey p = toLex (entityId, t) := by
    intro p
    show (p.entityId, encodeTime p.observedAt) = (entityId, encodeTime t) ↔
      (p.entityId, p.observedAt) = (entityId, t)
    rw [Prod.mk.injEq, Prod.mk.injEq, encodeTime_injective.eq_iff]
  rw [get?_savePointRows (get?_of_fresh hfresh _), List.filter_map, argmin_map]
  congr 2
  apply List.filter_congr
  intro p _
  exact decide_eq_decide.mpr (hkeys p)

/-- Only the rows of points that arrived are there. -/
theorem mem_saveArrivals (hfresh : ∀ r ∈ T.rows, r.entityId ≠ entityId) {r : PointRow}
    (hr : r ∈ (savePointRows T (arrivals.map pointRow)).1.rows) (hentity : r.entityId = entityId) :
    ∃ p, pointRow p = r := by
  subst hentity
  have hget : (savePointRows T (arrivals.map pointRow)).1.get? (r.entityId, r.observedAt) = some r :=
    Table.mem_rows_iff.mp hr
  rw [get?_savePointRows (get?_of_fresh hfresh _)] at hget
  obtain ⟨p, -, hp⟩ := List.mem_map.mp (List.mem_of_mem_filter (List.argmin_mem hget))
  exact ⟨p, hp⟩

/-- Where no two points have one timestamp, each is left of its group. -/
theorem winnerAt_of_nodup {points : List TrackPoint} (h : (points.map timeKey).Nodup)
    {k : String ×ₗ Datetime} {p : TrackPoint} :
    winnerAt points k = some p ↔ p ∈ points ∧ timeKey p = k := by
  constructor
  · exact mem_of_winnerAt
  · rintro ⟨hp, hk⟩
    cases hw : winnerAt points k with
    | none =>
      have hnil := List.argmin_eq_none.mp hw
      have hmem := mem_candidatesAt.mpr ⟨hp, hk⟩
      rw [hnil] at hmem
      cases hmem
    | some q =>
      obtain ⟨hq, hkq⟩ := mem_of_winnerAt hw
      rw [List.inj_on_of_nodup_map h hq hp (hkq.trans hk.symm)]

/-- The points that are read back are the first of the most accurate ones, one for a timestamp. -/
theorem listPoints_savePoints {store : JourneyStore} {batches : List (List TrackPoint)}
    (hfresh : ∀ r ∈ store.trackPoints.rows, r.entityId ≠ entityId)
    (hentity : ∀ p ∈ arrivals, p.entityId = entityId) (hbatches : batches.flatten = arrivals) :
    ∃ stored, (batches.foldl (fun store batch => (store.savePoints batch).1) store).listPoints
        entityId none none none = .ok stored ∧
      (∀ p ∈ stored, p.entityId = entityId) ∧ ∀ k, winnerAt stored k = firstAt arrivals k := by
  set saved := batches.foldl (fun store batch => (store.savePoints batch).1) store with hsaved
  have htable : saved.trackPoints = (savePointRows store.trackPoints (arrivals.map pointRow)).1 := by
    rw [hsaved, trackPoints_saveBatches, hbatches]
  set rows := (saved.trackPoints.rows.filter fun r => r.entityId = entityId ∧
    (∀ t ∈ (none : Option Datetime), encodeTime t ≤ r.observedAt) ∧
      ∀ t ∈ (none : Option Datetime), r.observedAt ≤ encodeTime t).insertionSort
        (fun r r' => r.observedAt ≤ r'.observedAt) with hrows
  have hmem : ∀ r, r ∈ rows ↔ r ∈ saved.trackPoints.rows ∧ r.entityId = entityId := by
    intro r
    simp [hrows]
  obtain ⟨stored, hstored⟩ := @exists_map_eq _ _ pointRow rows fun r hr => by
    rw [hmem, htable] at hr
    exact mem_saveArrivals hfresh hr.1 hr.2
  have hin : ∀ p, p ∈ stored ↔ p.entityId = entityId ∧ firstAt arrivals (timeKey p) = some p := by
    intro p
    have hp : p ∈ stored ↔ pointRow p ∈ rows := by
      rw [← hstored, List.mem_map_of_injective pointRow_injective]
    rw [hp, hmem, and_comm]
    apply and_congr_right
    intro he
    have hkey : (pointRow p).key = (entityId, encodeTime p.observedAt) := Prod.ext he rfl
    rw [Table.mem_rows_iff, hkey, htable, get?_saveArrivals hfresh, ← he]
    exact @Function.Injective.eq_iff _ _ _ (Option.map_injective pointRow_injective) _ (some p)
  have hnodup : (stored.map timeKey).Nodup := by
    have hkeys : (rows.map PointRow.key).Nodup := by
      rw [hrows, ((List.perm_insertionSort _ _).map PointRow.key).nodup_iff]
      exact (List.filter_sublist.map PointRow.key).nodup saved.trackPoints.nodup
    rw [← hstored, List.map_map] at hkeys
    apply List.Nodup.of_map fun k => ((ofLex k).1, encodeTime (ofLex k).2)
    rw [List.map_map]
    exact hkeys
  refine ⟨stored, ?_, fun p hp => ((hin p).mp hp).1, ?_⟩
  · rw [JourneyStore.listPoints]
    show rows.mapM rowToPoint = _
    rw [← hstored, mapM_rowToPoint]
  · intro k
    apply Option.ext
    intro p
    rw [winnerAt_of_nodup hnodup, hin]
    constructor
    · rintro ⟨⟨-, hfirst⟩, rfl⟩
      exact hfirst
    · intro hfirst
      obtain ⟨hp, rfl⟩ := mem_of_firstAt hfirst
      exact ⟨⟨hentity p hp, hfirst⟩, rfl⟩

end Stored

/-! ## Settings that accept every point -/

theorem exists_bound (l : List ℚ) : ∃ b : ℚ, 0 < b ∧ ∀ x ∈ l, x ≤ b := by
  induction l with
  | nil => exact ⟨1, one_pos, by simp⟩
  | cons x l ih =>
    obtain ⟨b, hb, hl⟩ := ih
    refine ⟨max x b, lt_max_of_lt_right hb, ?_⟩
    intro y hy
    obtain rfl | hy := List.mem_cons.mp hy
    · exact le_max_left ..
    · exact (hl y hy).trans (le_max_right ..)

theorem elapsedS_pos (h : p.observedAt < q.observedAt) : 0 < elapsedS p q := by
  apply binary64_pos
  apply div_pos _ (by norm_num)
  have hlt : (p.observedAt.val : ℤ) < q.observedAt.val := h
  exact_mod_cast Int.sub_pos.mpr hlt

/-- The bounds that the points of a list do not exceed. -/
structure Permissive (points : List TrackPoint) : Prop where
  zero : settings.rejectZeroCoordinate = false
  accuracy : ∀ p ∈ points, ∀ a ∈ p.accuracyM, a ≤ settings.maxAccuracyM
  speed : ∀ p ∈ points, ∀ q ∈ points, p.observedAt < q.observedAt →
    segmentSpeedMps haversine p q ≤ settings.maxSpeedMps

theorem exists_permissive (points : List TrackPoint) :
    ∃ settings, Permissive haversine settings points := by
  obtain ⟨accuracy, hpos, haccuracy⟩ := exists_bound (points.filterMap TrackPoint.accuracyM)
  obtain ⟨speed, hpos', hspeed⟩ := exists_bound (points.flatMap fun p => points.map fun q =>
    binary64 (haversineM haversine p q / elapsedS p q))
  refine ⟨{ maxAccuracyM := accuracy, maxAccuracyM_pos := hpos, maxSpeedMps := speed,
            maxSpeedMps_pos := hpos', rejectZeroCoordinate := false }, rfl, ?_, ?_⟩
  · intro p hp a ha
    exact haccuracy a (List.mem_filterMap.mpr ⟨p, hp, ha⟩)
  · intro p hp q hq hlt
    rw [segmentSpeedMps, if_neg (not_le.mpr (elapsedS_pos hlt))]
    apply WithTop.coe_le_coe.mpr
    exact hspeed _ (List.mem_flatMap.mpr ⟨p, hp, List.mem_map_of_mem hq⟩)

variable {haversine settings} in
theorem Permissive.filterPoints (h : Permissive haversine settings points)
    {previous : Option TrackPoint} {distinct : List TrackPoint}
    (hprevious : ∀ q ∈ previous, q ∈ points ∧ ∀ p ∈ distinct, q.observedAt < p.observedAt)
    (hsorted : distinct.Pairwise fun p q => p.observedAt < q.observedAt)
    (hin : ∀ p ∈ distinct, p ∈ points) :
    filterPoints haversine settings previous distinct = (distinct, []) := by
  induction distinct generalizing previous with
  | nil => rfl
  | cons p distinct ih =>
    rw [List.pairwise_cons] at hsorted
    have hp := hin p List.mem_cons_self
    have hnone : rejection? haversine settings previous p = none := by
      rw [rejection?, if_neg (by simp [h.zero]), if_neg, if_neg]
      · rintro ⟨q, hq, -, hlt⟩
        obtain ⟨hq, hbefore⟩ := hprevious q hq
        exact absurd hlt (not_lt.mpr (h.speed q hq p hp (hbefore p List.mem_cons_self)))
      · rintro ⟨a, ha, hlt⟩
        exact absurd hlt (not_lt.mpr (h.accuracy p hp a ha))
    rw [Journeys.filterPoints, hnone]
    dsimp only
    rw [ih _ hsorted.2 fun q hq => hin q (List.mem_cons_of_mem p hq)]
    rintro q hq
    cases hq
    exact ⟨hp, hsorted.1⟩

/-! ## The two ways of resolving duplicates -/

/-- What `analyze` goes on to compare among points of equal accuracy. -/
def tieKey (p : TrackPoint) : Datetime ×ₗ ℚ ×ₗ ℚ := toLex (p.receivedAt, toLex (p.latitude, p.longitude))

/-- At every timestamp, the first of the most accurate points to arrive lies where that one of them
    lies whose receipt, latitude and longitude, in this order, are least. -/
def TiesSettled (arrivals : List TrackPoint) : Prop :=
  ∀ before first after, arrivals = before ++ first :: after →
    (∀ p ∈ before, p.observedAt = first.observedAt → first.accuracyOrInf < p.accuracyOrInf) →
    (∀ p ∈ after, p.observedAt = first.observedAt → first.accuracyOrInf ≤ p.accuracyOrInf) →
    ∀ least ∈ arrivals, least.observedAt = first.observedAt → least.accuracyM = first.accuracyM →
      (∀ p ∈ arrivals, p.observedAt = first.observedAt → p.accuracyM = first.accuracyM →
        tieKey least ≤ tieKey p) →
      least.latitude = first.latitude ∧ least.longitude = first.longitude

theorem candidateKey_le (h : candidateKey p ≤ candidateKey q) :
    p.accuracyOrInf < q.accuracyOrInf ∨ p.accuracyM = q.accuracyM ∧ tieKey p ≤ tieKey q := by
  rw [← accuracyOrInf_injective]
  exact Prod.Lex.toLex_le_toLex.mp h

section Ties

variable {entityId : String} {arrivals points : List TrackPoint}

theorem timeKey_eq_iff (hentity : ∀ p ∈ arrivals, p.entityId = entityId) {p q : TrackPoint}
    (hp : p ∈ arrivals) (hq : q ∈ arrivals) :
    timeKey p = timeKey q ↔ p.observedAt = q.observedAt := by
  rw [timeKey, timeKey, toLex_inj, Prod.mk.injEq, hentity p hp, hentity q hq, and_iff_right rfl]

/-- The most accurate points of a timestamp: the first to arrive, and the one `analyze` keeps. -/
theorem winnerAt_of_firstAt (hperm : arrivals.Perm points) {k : String ×ₗ Datetime}
    {first : TrackPoint} (h : firstAt arrivals k = some first) :
    ∃ best, winnerAt points k = some best ∧ best ∈ arrivals ∧ timeKey best = k ∧
      best.accuracyM = first.accuracyM ∧
      ∀ p ∈ arrivals, timeKey p = k → candidateKey best ≤ candidateKey p := by
  obtain ⟨hfirst, hk⟩ := mem_of_firstAt h
  cases hw : winnerAt points k with
  | none =>
    have hmem := mem_candidatesAt.mpr ⟨hperm.mem_iff.mp hfirst, hk⟩
    rw [List.argmin_eq_none.mp hw] at hmem
    cases hmem
  | some best =>
    obtain ⟨hbest, hkbest⟩ := mem_of_winnerAt hw
    have hin := hperm.mem_iff.mpr hbest
    have hleast : ∀ p ∈ arrivals, timeKey p = k → candidateKey best ≤ candidateKey p :=
      fun p hp hkp => List.le_of_mem_argmin (mem_candidatesAt.mpr ⟨hperm.mem_iff.mp hp, hkp⟩) hw
    have hle : first.accuracyOrInf ≤ best.accuracyOrInf :=
      List.le_of_mem_argmin (List.mem_filter.mpr ⟨hin, by simpa using hkbest⟩) h
    refine ⟨best, rfl, hin, hkbest, ?_, hleast⟩
    obtain hlt | ⟨heq, -⟩ := candidateKey_le (hleast first hfirst hk)
    · exact absurd hle (not_le.mpr hlt)
    · exact heq

/-- The condition says that both ways keep the same fix at every timestamp. -/
theorem tiesSettled_iff (hentity : ∀ p ∈ arrivals, p.entityId = entityId)
    (hperm : arrivals.Perm points) : TiesSettled arrivals ↔
      ∀ k, (firstAt arrivals k).map TrackPoint.bare = (winnerAt points k).map TrackPoint.bare := by
  constructor
  · intro h k
    cases hf : firstAt arrivals k with
    | none =>
      cases hw : winnerAt points k with
      | none => rfl
      | some best =>
        obtain ⟨hbest, hk⟩ := mem_of_winnerAt hw
        have hnil := List.argmin_eq_none.mp hf
        exact absurd (by simpa using hk)
          (List.filter_eq_nil_iff.mp hnil best (hperm.mem_iff.mpr hbest))
    | some first =>
      obtain ⟨best, hw, hbest, hk, haccuracy, hleast⟩ := winnerAt_of_firstAt hperm hf
      obtain ⟨before, after, rfl, hkey, hbefore, hafter⟩ := argmin_filter_eq_some_iff.mp hf
      have hkey : timeKey first = k := by simpa using hkey
      have hfirst : first ∈ before ++ first :: after := by simp
      have hsame : ∀ p ∈ before ++ first :: after, p.observedAt = first.observedAt ↔
          timeKey p = k := fun p hp => by rw [← hkey, timeKey_eq_iff hentity hp hfirst]
      obtain ⟨hlat, hlon⟩ := h before first after rfl
        (fun p hp ht => hbefore p hp (by simpa using (hsame p (by simp [hp])).mp ht))
        (fun p hp ht => hafter p hp (by simpa using (hsame p (by simp [hp])).mp ht))
        best hbest ((hsame best hbest).mpr hk) haccuracy (by
          intro p hp ht ha
          obtain hlt | ⟨-, htie⟩ := candidateKey_le (hleast p hp ((hsame p hp).mp ht))
          · rw [accuracyOrInf_injective.mpr (haccuracy.trans ha.symm)] at hlt
            exact absurd hlt (lt_irrefl _)
          · exact htie)
      rw [hw, Option.map_some, Option.map_some, Option.some.injEq, bare_eq_bare]
      exact ⟨hkey.trans hk.symm, hlat.symm, hlon.symm, haccuracy.symm⟩
  · intro h before first after harrivals hbefore hafter least hleast ht ha hmin
    have hfirst : first ∈ arrivals := by simp [harrivals]
    have hsame : ∀ p ∈ arrivals, p.observedAt = first.observedAt ↔ timeKey p = timeKey first :=
      fun p hp => (timeKey_eq_iff hentity hp hfirst).symm
    have hf : firstAt arrivals (timeKey first) = some first := by
      refine argmin_filter_eq_some_iff.mpr ⟨before, after, harrivals, by simp, ?_, ?_⟩
      · intro p hp hk
        exact hbefore p hp ((hsame p (by simp [harrivals, hp])).mpr (by simpa using hk))
      · intro p hp hk
        exact hafter p hp ((hsame p (by simp [harrivals, hp])).mpr (by simpa using hk))
    obtain ⟨best, hw, hbest, hk, haccuracy, hbestLeast⟩ := winnerAt_of_firstAt hperm hf
    have hbare := h (timeKey first)
    rw [hf, hw, Option.map_some, Option.map_some, Option.some.injEq, bare_eq_bare] at hbare
    have htie : tieKey best = tieKey least := by
      apply le_antisymm
      · obtain hlt | ⟨-, htie⟩ := candidateKey_le (hbestLeast least hleast ((hsame least hleast).mp ht))
        · rw [accuracyOrInf_injective.mpr (haccuracy.trans ha.symm)] at hlt
          exact absurd hlt (lt_irrefl _)
        · exact htie
      · exact hmin best hbest ((hsame best hbest).mpr hk) haccuracy
    simp only [tieKey, toLex_inj, Prod.mk.injEq] at htie
    exact ⟨htie.2.1.symm.trans hbare.2.1.symm, htie.2.2.symm.trans hbare.2.2.1.symm⟩

end Ties

/-! ## Convergence -/

/-- `analyze(list_points(entity_id))` after each batch was given to `save_points`. -/
def storedAnalysis (store : JourneyStore) (entityId : String) (batches : List (List TrackPoint)) :
    Except Failure AnalysisResult := do
  let saved := batches.foldl (fun store batch => (store.savePoints batch).1) store
  analyze haversine settings (← saved.listPoints entityId none none none)

theorem map_findings_analyze (hentity : ∀ p ∈ points, p.entityId = entityId) :
    (analyze haversine settings points).map AnalysisResult.findings =
      .ok (findingsOf haversine settings (deduplicate (sortPoints points)).1) := by
  have hids : entityIds points ⊆ [entityId] := by
    intro e he
    obtain ⟨p, hp, rfl⟩ := List.mem_map.mp (List.mem_dedup.mp he)
    rw [List.mem_singleton]
    exact hentity p ((List.mem_insertionSort _).mp hp)
  have hlength : (entityIds points).length ≤ 1 :=
    (List.subperm_of_subset (List.nodup_dedup _) hids).length_le
  rw [analyze_eq, if_pos hlength]
  rfl

theorem winnerAt_isSome : (winnerAt points k).isSome = true ↔ k ∈ points.map timeKey := by
  rw [Option.isSome_iff_ne_none, ne_eq, winnerAt, List.argmin_eq_none,
    List.eq_nil_iff_forall_not_mem]
  simp [mem_candidatesAt]

/-- Of the points that are left, one is before another iff its group is. -/
theorem pairwise_winners {ks : List (String ×ₗ Datetime)} (hks : GroupKeys points ks)
    (hentity : ∀ p ∈ points, p.entityId = entityId) :
    (ks.filterMap (winnerAt points)).Pairwise fun p q => p.observedAt < q.observedAt := by
  refine List.Pairwise.filterMap _ ?_ hks.increasing
  intro k k' hlt p hwp q hwq
  obtain ⟨hp, rfl⟩ := mem_of_winnerAt hwp
  obtain ⟨hq, rfl⟩ := mem_of_winnerAt hwq
  rw [timeKey, timeKey, Prod.Lex.toLex_lt_toLex, hentity p hp, hentity q hq] at hlt
  exact hlt.elim (fun h => absurd h (lt_irrefl _)) And.right

/-- Two choices of an element for each key agree where their lists do. -/
theorem map_eq_of_filterMap_eq {α β γ : Type} {f g : α → Option β} {h : β → γ} {ks : List α}
    (hf : ∀ k ∈ ks, (f k).isSome = true) (hg : ∀ k ∈ ks, (g k).isSome = true)
    (heq : (ks.filterMap f).map h = (ks.filterMap g).map h) : ∀ k ∈ ks, (f k).map h = (g k).map h := by
  induction ks with
  | nil => simp
  | cons k ks ih =>
    obtain ⟨b, hb⟩ := Option.isSome_iff_exists.mp (hf k List.mem_cons_self)
    obtain ⟨c, hc⟩ := Option.isSome_iff_exists.mp (hg k List.mem_cons_self)
    rw [List.filterMap_cons_some hb, List.filterMap_cons_some hc, List.map_cons, List.map_cons,
      List.cons.injEq] at heq
    intro k' hk'
    obtain rfl | hk' := List.mem_cons.mp hk'
    · rw [hb, hc, Option.map_some, Option.map_some, heq.1]
    · exact ih (fun k hk => hf k (List.mem_cons_of_mem _ hk))
        (fun k hk => hg k (List.mem_cons_of_mem _ hk)) heq.2 k' hk'

/-- Two inputs of one entity have the same findings with every setting iff the same fix is left of
    each timestamp. -/
theorem findings_eq_iff (hentity : ∀ p ∈ points, p.entityId = entityId)
    (hentity' : ∀ p ∈ points', p.entityId = entityId)
    (hkeys : ∀ k, k ∈ points.map timeKey ↔ k ∈ points'.map timeKey) :
    (∀ settings, (analyze haversine settings points).map AnalysisResult.findings =
        (analyze haversine settings points').map AnalysisResult.findings) ↔
      ∀ k, (winnerAt points k).map TrackPoint.bare = (winnerAt points' k).map TrackPoint.bare := by
  obtain ⟨ks, hks⟩ := exists_groupKeys points
  have hks' : GroupKeys points' ks := ⟨hks.increasing, fun k => (hks.mem_iff k).trans (hkeys k)⟩
  simp only [map_findings_analyze haversine _ hentity, map_findings_analyze haversine _ hentity',
    deduplicate_fst hks, deduplicate_fst hks', Except.ok.injEq]
  constructor
  · intro h
    obtain ⟨settings, hpermissive⟩ := exists_permissive haversine (points ++ points')
    have haccepted := congrArg Findings.accepted (h settings)
    have hall : ∀ {points₁ : List TrackPoint}, GroupKeys points₁ ks →
        (∀ p ∈ points₁, p.entityId = entityId) → points₁ ⊆ points ++ points' →
        filterPoints haversine settings none (ks.filterMap (winnerAt points₁)) =
          (ks.filterMap (winnerAt points₁), []) := by
      intro points₁ hk he hsub
      apply hpermissive.filterPoints (by simp) (pairwise_winners hk he)
      intro p hp
      obtain ⟨k, -, hw⟩ := List.mem_filterMap.mp hp
      exact hsub (mem_of_winnerAt hw).1
    rw [findingsOf, findingsOf] at haccepted
    dsimp only at haccepted
    rw [hall hks hentity (List.subset_append_left ..),
      hall hks' hentity' (List.subset_append_right ..)] at haccepted
    have hfix := map_eq_of_filterMap_eq
      (fun k hk => winnerAt_isSome.mpr ((hks.mem_iff k).mp hk))
      (fun k hk => winnerAt_isSome.mpr ((hks'.mem_iff k).mp hk)) haccepted
    intro k
    by_cases hk : k ∈ ks
    · have hk' := hfix k hk
      obtain ⟨p, hp⟩ := Option.isSome_iff_exists.mp (winnerAt_isSome.mpr ((hks.mem_iff k).mp hk))
      obtain ⟨q, hq⟩ := Option.isSome_iff_exists.mp (winnerAt_isSome.mpr ((hks'.mem_iff k).mp hk))
      rw [hp, hq, Option.map_some, Option.map_some, Option.some.injEq, TrackPoint.fix,
        TrackPoint.fix, Fix.mk.injEq] at hk'
      rw [hp, hq, Option.map_some, Option.map_some, Option.some.injEq, bare_eq_bare]
      exact ⟨(mem_of_winnerAt hp).2.trans (mem_of_winnerAt hq).2.symm, hk'.2⟩
    · have hp := mt winnerAt_isSome.mp fun h => hk ((hks.mem_iff k).mpr h)
      have hq := mt winnerAt_isSome.mp fun h => hk ((hks'.mem_iff k).mpr h)
      rw [Option.not_isSome_iff_eq_none.mp hp, Option.not_isSome_iff_eq_none.mp hq]
  · intro h settings
    rw [← findingsOf_bare, List.map_filterMap, ← findingsOf_bare haversine settings
      (ks.filterMap (winnerAt points')), List.map_filterMap]
    simp only [h]

/-- The stored points are analysed as the points themselves are, with every setting, iff ties are
    settled alike. -/
theorem storedAnalysis_iff {store : JourneyStore} {batches : List (List TrackPoint)}
    (hfresh : ∀ r ∈ store.trackPoints.rows, r.entityId ≠ entityId)
    (hentity : ∀ p ∈ points, p.entityId = entityId) (hperm : batches.flatten.Perm points) :
    (∀ settings, (storedAnalysis haversine settings store entityId batches).map
          AnalysisResult.findings =
        (analyze haversine settings points).map AnalysisResult.findings) ↔
      TiesSettled batches.flatten := by
  have harrivals : ∀ p ∈ batches.flatten, p.entityId = entityId :=
    fun p hp => hentity p (hperm.mem_iff.mp hp)
  obtain ⟨stored, hlist, hstored, hwinner⟩ := listPoints_savePoints hfresh harrivals rfl
  have hanalysis : ∀ settings, storedAnalysis haversine settings store entityId batches =
      analyze haversine settings stored := by
    intro settings
    rw [storedAnalysis, hlist, ok_bind]
  have hkeys : ∀ k, k ∈ stored.map timeKey ↔ k ∈ points.map timeKey := by
    intro k
    rw [← winnerAt_isSome, hwinner, ← (hperm.map timeKey).mem_iff, Option.isSome_iff_ne_none, ne_eq,
      firstAt, List.argmin_eq_none, List.filter_eq_nil_iff, List.mem_map]
    simp only [decide_eq_true_eq, not_forall, not_not, exists_prop]
  simp only [hanalysis]
  rw [findings_eq_iff haversine hstored hentity hkeys, tiesSettled_iff harrivals hperm]
  simp only [hwinner]

/-- Late and batched points converge exactly where ties are settled alike, and the order of its input
    plays no part in an analysis. -/
theorem late_points_converge :
    (∀ (store : JourneyStore) (entityId : String) (points : List TrackPoint)
        (batches : List (List TrackPoint)),
      (∀ r ∈ store.trackPoints.rows, r.entityId ≠ entityId) →
      (∀ p ∈ points, p.entityId = entityId) → batches.flatten.Perm points →
      ((∀ settings, (storedAnalysis haversine settings store entityId batches).map
            AnalysisResult.findings =
          (analyze haversine settings points).map AnalysisResult.findings) ↔
        TiesSettled batches.flatten)) ∧
    ∀ (settings : AnalyzerSettings) (points points' : List TrackPoint), points.Perm points' →
      (analyze haversine settings points).map (fun r => (r.findings, r.rejections)) =
        (analyze haversine settings points').map (fun r => (r.findings, r.rejections)) :=
  ⟨fun _ _ _ _ hfresh hentity hperm => storedAnalysis_iff haversine hfresh hentity hperm,
    fun settings _ _ h => findings_perm haversine settings h⟩

/-! A point at 2026-07-31T01:00:00Z, and a second one on the same meridian. -/

theorem samplePoint_entityId : isEntityId "person.example" = true := by decide +kernel

/-- A point of one timestamp, received five seconds later. -/
def samplePoint (latitude : ℚ) (accuracyM : Option ℚ)
    (hlat : -90 ≤ latitude ∧ latitude ≤ 90) (hacc : ∀ a ∈ accuracyM, 0 ≤ a) : TrackPoint where
  entityId := "person.example"
  observedAt := ⟨1785459600000000, by decide⟩
  receivedAt := ⟨1785459605000000, by decide⟩
  latitude := latitude
  longitude := 120
  accuracyM := accuracyM
  source := none
  entityId_valid := samplePoint_entityId
  latitude_range := hlat
  longitude_range := by norm_num
  accuracyM_nonneg := hacc

/-- A fix at 30.001° N. -/
def northFix : TrackPoint := samplePoint (30001 / 1000) (some 10) (by norm_num) (by norm_num)

/-- A fix at 30° N that is as accurate. -/
def southFix : TrackPoint := samplePoint 30 (some 10) (by norm_num) (by norm_num)

theorem none_accuracy : ∀ a ∈ (none : Option ℚ), 0 ≤ a := nofun

/-- A fix without an accuracy. -/
def roughFix : TrackPoint := samplePoint (30001 / 1000) none (by norm_num) none_accuracy

/-- A fix with an accuracy that comes in a batch after one without is kept both ways. -/
theorem late_points_converge_accuracy : ∀ settings,
    (storedAnalysis (fun _ _ _ _ => 0) settings .empty "person.example"
        [[roughFix], [southFix]]).map AnalysisResult.findings =
      (analyze (fun _ _ _ _ => 0) settings [roughFix, southFix]).map AnalysisResult.findings := by
  have hentity : ∀ p ∈ [roughFix, southFix], p.entityId = "person.example" := by
    intro p hp
    simp only [List.mem_cons, List.not_mem_nil, or_false] at hp
    obtain rfl | rfl := hp <;> rfl
  refine ((late_points_converge fun _ _ _ _ => 0).1 .empty "person.example"
    [roughFix, southFix] [[roughFix], [southFix]] nofun hentity (.refl _)).mpr ?_
  intro before first after harrivals hbefore hafter least hleast _ haccuracy _
  have hworse : ¬ roughFix.accuracyOrInf ≤ southFix.accuracyOrInf := by decide +kernel
  have hne : southFix.accuracyM ≠ roughFix.accuracyM := nofun
  have hfirst : first = southFix := by
    cases before with
    | nil =>
      cases harrivals
      exact absurd (hafter _ List.mem_cons_self rfl) hworse
    | cons b before =>
      obtain ⟨-, hrest⟩ := List.cons.inj harrivals
      cases before with
      | nil => exact (List.cons.inj hrest).1.symm
      | cons c before =>
        obtain ⟨-, hrest⟩ := List.cons.inj hrest
        exact absurd hrest.symm (List.append_ne_nil_of_right_ne_nil _ (List.cons_ne_nil _ _))
  subst hfirst
  simp only [List.flatten_cons, List.flatten_nil, List.cons_append, List.nil_append,
    List.mem_cons, List.not_mem_nil, or_false] at hleast
  obtain rfl | rfl := hleast
  · exact absurd haccuracy hne.symm
  · exact ⟨rfl, rfl⟩

/-- Of two points of one timestamp and one accuracy the store keeps the one that came first, and
    `analyze` the one with the least latitude. -/
theorem tie_diverges : ¬ ∀ (haversine : ℚ → ℚ → ℚ → ℚ → ℚ) (settings : AnalyzerSettings)
    (store : JourneyStore) (entityId : String) (points : List TrackPoint)
    (batches : List (List TrackPoint)), (∀ r ∈ store.trackPoints.rows, r.entityId ≠ entityId) →
      (∀ p ∈ points, p.entityId = entityId) → batches.flatten.Perm points →
      (storedAnalysis haversine settings store entityId batches).map AnalysisResult.findings =
        (analyze haversine settings points).map AnalysisResult.findings := by
  intro h
  have hfresh : ∀ r ∈ JourneyStore.empty.trackPoints.rows, r.entityId ≠ "person.example" := nofun
  have hentity : ∀ p ∈ [northFix, southFix], p.entityId = "person.example" := by
    intro p hp
    simp only [List.mem_cons, List.not_mem_nil, or_false] at hp
    obtain rfl | rfl := hp <;> rfl
  have hperm : [[northFix], [southFix]].flatten.Perm [northFix, southFix] := .refl _
  have hties := (storedAnalysis_iff (fun _ _ _ _ => 0) hfresh hentity hperm).mp fun settings =>
    h _ settings _ _ _ _ hfresh hentity hperm
  have haccuracy : northFix.accuracyOrInf = southFix.accuracyOrInf := rfl
  have hmin : tieKey southFix ≤ tieKey northFix := by decide +kernel
  have hafter : ∀ p ∈ [southFix], p.observedAt = northFix.observedAt →
      northFix.accuracyOrInf ≤ p.accuracyOrInf := by
    intro p hp _
    rw [List.mem_singleton.mp hp]
    exact haccuracy.le
  have hleast : ∀ p ∈ [northFix, southFix], tieKey southFix ≤ tieKey p := by
    intro p hp
    simp only [List.mem_cons, List.not_mem_nil, or_false] at hp
    obtain rfl | rfl := hp
    · exact hmin
    · exact le_rfl
  have hsame := hties [] northFix [southFix] rfl (fun p hp => by cases hp) hafter southFix
    (by simp) rfl rfl fun p hp _ _ => hleast p hp
  have hlat : (30 : ℚ) = 30001 / 1000 := hsame.1
  norm_num at hlat

end HomeAddons.Journeys
