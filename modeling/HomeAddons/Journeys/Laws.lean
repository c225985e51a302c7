import HomeAddons.Common.Grouping
import HomeAddons.Journeys.Segmentation

/-!
# What the analysis depends on

* `filterPoints_bare`, `analyzeTrack_bare`: behind the removal of duplicates, when a point was
  received and where it came from plays no part.
* `deduplicate_sortPoints`: the removal of duplicates leaves the first least candidate of each
  timestamp, in the order of the timestamps.
-/

namespace HomeAddons.Journeys

open HomeAddons.Common

variable (haversine : ℚ → ℚ → ℚ → ℚ → ℚ) (settings : AnalyzerSettings)

/-- The entities of the points. -/
def entityIds (points : List TrackPoint) : List String :=
  ((sortPoints points).map TrackPoint.entityId).dedup

/-- What the filters leave of the points. -/
def acceptedOf (points : List TrackPoint) : List TrackPoint :=
  (filterPoints haversine settings none (deduplicate (sortPoints points)).1).1

/-- `analyze` raises for the points of several entities, and otherwise returns. -/
theorem analyze_eq (points : List TrackPoint) : analyze haversine settings points =
    if (entityIds points).length ≤ 1 then .ok {
      entityId := (entityIds points).head?
      acceptedPoints := acceptedOf haversine settings points
      rejections := ((deduplicate (sortPoints points)).2 ++
        (filterPoints haversine settings none (deduplicate (sortPoints points)).1).2).insertionSort
          fun r r' => r.observedAt ≤ r'.observedAt
      stays := ((splitTracks settings (acceptedOf haversine settings points)).map
        (analyzeTrack haversine settings)).flatMap Prod.fst
      journeys := (((splitTracks settings (acceptedOf haversine settings points)).map
        (analyzeTrack haversine settings)).flatMap Prod.snd).filterMap id
      reorderedPointCount := countOutOfOrder (fun _ => none) points
      discardedCandidateCount := (((splitTracks settings (acceptedOf haversine settings points)).map
        (analyzeTrack haversine settings)).flatMap Prod.snd).countP Option.isNone
      algorithmVersion := algorithmVersion }
    else .error (.valueError "analyze accepts points for exactly one entity") := by
  unfold analyze
  by_cases h : (entityIds points).length ≤ 1
  · rw [if_pos h]
    exact ensure_bind_of h _ _
  · rw [if_neg h]
    exact bind_eq_error.mpr (.inl (ensure_eq_error.mpr ⟨h, rfl⟩))

/-! ## Receipt and source -/

/-- The point without the time of its receipt and without its source. -/
def TrackPoint.bare (p : TrackPoint) : TrackPoint :=
  { p with receivedAt := ⟨0, by decide⟩, source := none }

/-- The journey over such points. -/
def Journey.bare (j : Journey) : Journey := { j with points := j.points.map TrackPoint.bare }

theorem rejection?_bare (previous : Option TrackPoint) (p : TrackPoint) :
    rejection? haversine settings (previous.map TrackPoint.bare) p.bare =
      rejection? haversine settings previous p := by
  cases previous with
  | none => rfl
  | some q =>
    simp only [rejection?, Option.map_some, Option.mem_def, Option.some.injEq, exists_eq_left']
    rfl

theorem filterPoints_bare (previous : Option TrackPoint) (points : List TrackPoint) :
    filterPoints haversine settings (previous.map TrackPoint.bare) (points.map TrackPoint.bare) =
      ((filterPoints haversine settings previous points).1.map TrackPoint.bare,
        (filterPoints haversine settings previous points).2) := by
  induction points generalizing previous with
  | nil => rfl
  | cons p points ih =>
    rw [List.map_cons, filterPoints, filterPoints, rejection?_bare]
    cases rejection? haversine settings previous p with
    | some reason =>
      dsimp only
      rw [ih previous]
      rfl
    | none =>
      dsimp only
      have h := ih (some p)
      rw [Option.map_some] at h
      rw [h]
      rfl

theorem splitTracks_bare (points : List TrackPoint) :
    splitTracks settings (points.map TrackPoint.bare) =
      (splitTracks settings points).map (List.map TrackPoint.bare) :=
  splitBy_map _ _ points

theorem inside_bare (first : TrackPoint) (rest : List TrackPoint) :
    inside haversine settings first.bare (rest.map TrackPoint.bare) =
      (inside haversine settings first rest).map TrackPoint.bare :=
  List.takeWhile_map ..

theorem centroid_bare (points : List TrackPoint) :
    centroid (points.map TrackPoint.bare) = centroid points := by
  simp only [centroid, List.map_map, List.length_map]
  rfl

theorem stayOf_bare (first last : TrackPoint) (points : List TrackPoint) :
    stayOf first.bare last.bare (points.map TrackPoint.bare) = stayOf first last points := by
  simp only [stayOf, centroid_bare, List.length_map]
  rfl

theorem stayLoop_bare (skip index : ℕ) (points : List TrackPoint) :
    stayLoop haversine settings skip index (points.map TrackPoint.bare) =
      stayLoop haversine settings skip index points := by
  induction points generalizing skip index with
  | nil => cases skip <;> rfl
  | cons first rest ih =>
    rw [List.map_cons]
    cases skip with
    | succ skip => exact ih skip (index + 1)
    | zero =>
      rw [stayLoop, stayLoop, inside_bare, List.getLast?_map]
      cases (inside haversine settings first rest).getLast? with
      | none => exact ih 0 (index + 1)
      | some last =>
        rw [Option.map_some, ← List.map_cons, List.length_map]
        dsimp only
        rw [stayOf_bare, ih, ih]
        rfl

theorem candidateLoop_bare (points : List TrackPoint) (left : ℕ) (ranges : List (ℕ × ℕ)) :
    candidateLoop (points.map TrackPoint.bare) left ranges =
      (candidateLoop points left ranges).map (List.map TrackPoint.bare) := by
  induction ranges generalizing left with
  | nil =>
    rw [candidateLoop, candidateLoop, List.length_map]
    split_ifs
    · rw [List.map_singleton, List.map_drop]
    · rfl
  | cons range ranges ih =>
    obtain ⟨start, stop⟩ := range
    rw [candidateLoop, candidateLoop, ih, List.map_append]
    split_ifs
    · rw [List.map_singleton, List.map_drop, List.map_take]
    · rfl

theorem journeyCandidates_bare (points : List TrackPoint) (ranges : List (ℕ × ℕ)) :
    journeyCandidates (points.map TrackPoint.bare) ranges =
      (journeyCandidates points ranges).map (List.map TrackPoint.bare) := by
  rw [journeyCandidates, journeyCandidates, List.length_map]
  split_ifs
  · rfl
  · rfl
  · exact candidateLoop_bare points 0 ranges

theorem legs_bare {α : Type} {f : TrackPoint → TrackPoint → α}
    (hf : ∀ p q : TrackPoint, f p.bare q.bare = f p q) (points : List TrackPoint) :
    legs f (points.map TrackPoint.bare) = legs f points := by
  rw [legs, legs, ← List.map_tail, List.zipWith_map]
  simp only [hf]

theorem buildJourney_bare (points : List TrackPoint) :
    buildJourney haversine settings (points.map TrackPoint.bare) =
      (buildJourney haversine settings points).map Journey.bare := by
  have hlegs : legs (haversineM haversine) (points.map TrackPoint.bare) = _ :=
    legs_bare (fun _ _ => rfl) points
  have hgaps : legs elapsedS (points.map TrackPoint.bare) = _ := legs_bare (fun _ _ => rfl) points
  have hspeeds : legs (segmentSpeedMps haversine) (points.map TrackPoint.bare) = _ :=
    legs_bare (fun _ _ => rfl) points
  unfold buildJourney
  rw [List.head?_map, List.getLast?_map, hlegs, hgaps, hspeeds, List.length_map, List.any_map]
  cases points.head? with
  | none => rfl
  | some first =>
    cases points.getLast? with
    | none => rfl
    | some last =>
      rw [Option.map_some, Option.map_some]
      dsimp only
      rw [apply_ite (Option.map Journey.bare)]
      rfl

theorem analyzeTrack_bare (track : List TrackPoint) :
    analyzeTrack haversine settings (track.map TrackPoint.bare) =
      ((analyzeTrack haversine settings track).1,
        (analyzeTrack haversine settings track).2.map (Option.map Journey.bare)) := by
  simp only [analyzeTrack, detectStays, stayLoop_bare, journeyCandidates_bare, List.map_map]
  congr 1
  apply List.map_congr_left
  intro candidate _
  exact buildJourney_bare haversine settings candidate

/-! ## Duplicates -/

/-- What `groupby` groups by, in the order of `sorted`. -/
def timeKey (p : TrackPoint) : String ×ₗ Datetime := toLex (p.entityId, p.observedAt)

variable {p q : TrackPoint} {points points' : List TrackPoint} {k : String ×ₗ Datetime}

theorem timeKey_le_of_sortKey_le (h : sortKey p ≤ sortKey q) : timeKey p ≤ timeKey q := by
  rw [sortKey, sortKey, Prod.Lex.toLex_le_toLex, Prod.Lex.toLex_le_toLex] at h
  rw [timeKey, timeKey, Prod.Lex.toLex_le_toLex]
  rcases h with hlt | ⟨heq, hlt | ⟨heq', -⟩⟩
  · exact .inl hlt
  · exact .inr ⟨heq, hlt.le⟩
  · exact .inr ⟨heq, heq'.le⟩

theorem sortPoints_sorted (points : List TrackPoint) :
    (sortPoints points).Pairwise fun p q => timeKey p ≤ timeKey q :=
  (pairwise_insertionSort_key sortKey points).imp timeKey_le_of_sortKey_le

/-- The points of one group. -/
def candidatesAt (points : List TrackPoint) (k : String ×ₗ Datetime) : List TrackPoint :=
  (sortPoints points).filter fun p => timeKey p = k

/-- The point that is left of a group. -/
def winnerAt (points : List TrackPoint) (k : String ×ₗ Datetime) : Option TrackPoint :=
  (candidatesAt points k).argmin candidateKey

theorem mem_candidatesAt : p ∈ candidatesAt points k ↔ p ∈ points ∧ timeKey p = k := by
  simp [candidatesAt, sortPoints]

theorem mem_of_winnerAt (h : winnerAt points k = some p) : p ∈ points ∧ timeKey p = k :=
  mem_candidatesAt.mp (List.argmin_mem h)

section Keys

variable {points : List TrackPoint} {ks : List (String ×ₗ Datetime)}

/-- `ks` are the keys of the groups, in their order. -/
structure GroupKeys (points : List TrackPoint) (ks : List (String ×ₗ Datetime)) : Prop where
  increasing : ks.Pairwise (· < ·)
  mem_iff : ∀ k, k ∈ ks ↔ k ∈ points.map timeKey

theorem exists_groupKeys (points : List TrackPoint) : ∃ ks, GroupKeys points ks := by
  obtain ⟨ks, hks, hmem⟩ := exists_strictly_sorted (points.map timeKey)
  exact ⟨ks, hks, hmem⟩

theorem GroupKeys.perm {points' : List TrackPoint} (h : GroupKeys points ks)
    (hperm : points.Perm points') : GroupKeys points' ks where
  increasing := h.increasing
  mem_iff k := (h.mem_iff k).trans (hperm.map timeKey).mem_iff

theorem timestampGroups_sortPoints (h : GroupKeys points ks) :
    timestampGroups (sortPoints points) = ks.map (candidatesAt points) := by
  have hrel : (fun p q : TrackPoint =>
      decide ((p.entityId, p.observedAt) = (q.entityId, q.observedAt))) =
        fun p q => decide (timeKey p = timeKey q) := by
    funext p q
    exact decide_eq_decide.mpr (toLex_inj (α := String × Datetime)).symm
  rw [timestampGroups, hrel]
  apply splitBy_eq_map_filter (sortPoints_sorted points) h.increasing
  intro k
  rw [h.mem_iff, sortPoints]
  exact ((List.perm_insertionSort _ points).map timeKey).mem_iff.symm

/-- What is left of the points: the winner of each group. -/
theorem deduplicate_fst (h : GroupKeys points ks) :
    (deduplicate (sortPoints points)).1 = ks.filterMap (winnerAt points) := by
  rw [deduplicate, timestampGroups_sortPoints h, List.filterMap_map]
  rfl

theorem map_eq_replicate {α β : Type} {f : α → β} {b : β} {l : List α} (h : ∀ a ∈ l, f a = b) :
    l.map f = List.replicate l.length b := by
  rw [List.eq_replicate_iff]
  refine ⟨List.length_map f, ?_⟩
  intro b' hb'
  obtain ⟨a, ha, rfl⟩ := List.mem_map.mp hb'
  exact h a ha

/-- What is rejected: all other points of each group. -/
theorem deduplicate_snd (h : GroupKeys points ks) :
    (deduplicate (sortPoints points)).2 = ks.flatMap fun k =>
      List.replicate ((candidatesAt points k).length - 1)
        ⟨(ofLex k).1, (ofLex k).2, .duplicateTimestamp⟩ := by
  rw [deduplicate, timestampGroups_sortPoints h, List.flatMap_map]
  apply List.flatMap_congr
  intro k _
  cases hw : (candidatesAt points k).argmin candidateKey with
  | none =>
    rw [List.argmin_eq_none.mp hw]
    rfl
  | some best =>
    rw [Option.elim_some, ← List.length_erase_of_mem (List.argmin_mem hw)]
    apply map_eq_replicate
    intro p hp
    have hk := (mem_candidatesAt.mp (List.mem_of_mem_erase hp)).2
    rw [← hk]
    rfl

end Keys

theorem bare_eq_bare : p.bare = q.bare ↔ timeKey p = timeKey q ∧
    p.latitude = q.latitude ∧ p.longitude = q.longitude ∧ p.accuracyM = q.accuracyM := by
  rw [timeKey, timeKey, toLex_inj, Prod.mk.injEq]
  cases p
  cases q
  simp only [TrackPoint.bare, TrackPoint.mk.injEq, true_and, and_true, and_assoc]

theorem accuracyOrInf_injective :
    p.accuracyOrInf = q.accuracyOrInf ↔ p.accuracyM = q.accuracyM := by
  unfold TrackPoint.accuracyOrInf
  cases p.accuracyM <;> cases q.accuracyM <;> simp

theorem candidateKey_inj : candidateKey p = candidateKey q ↔
    p.accuracyM = q.accuracyM ∧ p.receivedAt = q.receivedAt ∧ p.latitude = q.latitude ∧
      p.longitude = q.longitude := by
  simp only [candidateKey, toLex_inj, Prod.mk.injEq, accuracyOrInf_injective]

/-- The order of the input plays no part in which points are left. -/
theorem winnerAt_perm (h : points.Perm points') (k : String ×ₗ Datetime) :
    (winnerAt points k).map TrackPoint.bare = (winnerAt points' k).map TrackPoint.bare := by
  have hsort : (sortPoints points).Perm (sortPoints points') :=
    (List.perm_insertionSort _ _).trans (h.trans (List.perm_insertionSort _ _).symm)
  have hkeys : (winnerAt points k).map candidateKey = (winnerAt points' k).map candidateKey :=
    map_argmin_perm (hsort.filter _)
  cases hw : winnerAt points k with
  | none =>
    rw [hw] at hkeys
    rw [Option.map_eq_none_iff.mp hkeys.symm]
  | some p =>
    cases hw' : winnerAt points' k with
    | none =>
      rw [hw, hw'] at hkeys
      cases hkeys
    | some q =>
      rw [hw, hw', Option.map_some, Option.map_some, Option.some.injEq, candidateKey_inj] at hkeys
      rw [Option.map_some, Option.map_some, Option.some.injEq, bare_eq_bare]
      exact ⟨(mem_of_winnerAt hw).2.trans (mem_of_winnerAt hw').2.symm, hkeys.2.2.1, hkeys.2.2.2,
        hkeys.1⟩

theorem deduplicate_perm (h : points.Perm points') :
    (deduplicate (sortPoints points)).1.map TrackPoint.bare =
        (deduplicate (sortPoints points')).1.map TrackPoint.bare ∧
      (deduplicate (sortPoints points)).2 = (deduplicate (sortPoints points')).2 := by
  obtain ⟨ks, hks⟩ := exists_groupKeys points
  have hks' := hks.perm h
  constructor
  · rw [deduplicate_fst hks, deduplicate_fst hks', List.map_filterMap, List.map_filterMap]
    simp only [winnerAt_perm h]
  · rw [deduplicate_snd hks, deduplicate_snd hks']
    have hlength : ∀ k, (candidatesAt points k).length = (candidatesAt points' k).length := by
      intro k
      have hsort : (sortPoints points).Perm (sortPoints points') :=
        (List.perm_insertionSort _ _).trans (h.trans (List.perm_insertionSort _ _).symm)
      exact (hsort.filter _).length_eq
    simp only [hlength]

end HomeAddons.Journeys
