import HomeAddons.Journeys.Segmentation

/-!
# How the analysis cuts a track

* `stayLoop_spec`: the stays of a track are disjoint, none can be longer, and none is missed.
* `segmentation_partitions`: a track is cut exactly at the long gaps, and each leg of a track is in
  one stay or in one candidate.
-/

namespace HomeAddons.Journeys

open HomeAddons.Common

variable (haversine : ℚ → ℚ → ℚ → ℚ → ℚ) (settings : AnalyzerSettings)

/-! ## Durations -/

theorem truncated_mono {q r : ℚ} (hq : 0 ≤ q) (h : q ≤ r) : truncated q ≤ truncated r := by
  have hfloor : ∀ {x : ℚ}, 0 ≤ x → truncated x = ⌊x⌋ := fun hx => by
    rw [truncated, Rat.floor_def', Int.tdiv_eq_ediv_of_nonneg (Rat.num_nonneg.mpr hx)]
  rw [hfloor hq, hfloor (hq.trans h)]
  exact Int.floor_le_floor h

/-- The later the last point, the longer the duration. -/
theorem durationS_mono {p q r : TrackPoint} (hpq : p.observedAt < q.observedAt)
    (hqr : q.observedAt ≤ r.observedAt) : durationS p q ≤ durationS p r := by
  have hlt : p.observedAt.val < q.observedAt.val := hpq
  have hle : q.observedAt.val ≤ r.observedAt.val := hqr
  have hpos : (0 : ℚ) < ((q.observedAt.val - p.observedAt.val : ℤ) : ℚ) / 1000000 := by
    apply div_pos _ (by norm_num)
    exact_mod_cast Int.sub_pos.mpr hlt
  have hround : elapsedS p q ≤ elapsedS p r := by
    refine binary64_mono hpos (div_le_div_of_nonneg_right ?_ (by norm_num))
    exact_mod_cast Int.sub_le_sub_right hle _
  exact truncated_mono (binary64_pos hpos).le hround

/-! ## Stays -/

/-- The point at the second index is within the radius of the point at the first one. -/
def Near (points : List TrackPoint) (first k : ℕ) : Prop :=
  ∀ p ∈ points[first]?, ∀ q ∈ points[k]?, haversineM haversine p q ≤ settings.stopRadiusM

/-- The points from one index to another are a stay. -/
structure IsStay (points : List TrackPoint) (first last : ℕ) : Prop where
  lt : first < last
  bound : last < points.length
  near : ∀ k, first < k → k ≤ last → Near haversine settings points first k
  long : ∀ p ∈ points[first]?, ∀ q ∈ points[last]?, settings.stopMinDurationS ≤ durationS p q

/-- The stay cannot be extended to the right. -/
def Closed (points : List TrackPoint) (first last : ℕ) : Prop :=
  last + 1 < points.length → ¬ Near haversine settings points first (last + 1)

/-- The points that the inner loop passes are near, and the next one is not. -/
theorem inside_split (first : TrackPoint) (rest : List TrackPoint) : ∃ far,
    rest = inside haversine settings first rest ++ far ∧
      (∀ q ∈ inside haversine settings first rest,
        haversineM haversine first q ≤ settings.stopRadiusM) ∧
      ∀ q ∈ far[0]?, ¬ haversineM haversine first q ≤ settings.stopRadiusM := by
  refine ⟨_, List.takeWhile_append_dropWhile.symm,
    fun q hq => ?_, fun q hq => ?_⟩
  · have hnear := List.mem_takeWhile_imp (p := fun p => decide
      (haversineM haversine first p ≤ settings.stopRadiusM)) hq
    exact of_decide_eq_true hnear
  · have hnot := List.head?_dropWhile_not
      (fun p => decide (haversineM haversine first p ≤ settings.stopRadiusM)) rest
    rw [List.head?_eq_getElem?, Option.mem_def.mp hq] at hnot
    exact of_decide_eq_false hnot

variable {points rest : List TrackPoint} {index m left : ℕ} {first : TrackPoint}
  {ranges : List (ℕ × ℕ)} {α : Type}

/-- What the inner loop has found when it ends. -/
theorem inside_spec (hdrop : points.drop index = first :: rest) :
    points[index]? = some first ∧
      index + (inside haversine settings first rest).length < points.length ∧
      (∀ k, index < k → k ≤ index + (inside haversine settings first rest).length →
        Near haversine settings points index k) ∧
      Closed haversine settings points index
        (index + (inside haversine settings first rest).length) := by
  obtain ⟨far, hsplit, hnear, hfar⟩ := inside_split haversine settings first rest
  generalize inside haversine settings first rest = near at hsplit hnear ⊢
  have hat : ∀ j, points[index + j]? = (first :: rest)[j]? := fun j => by
    rw [← hdrop, List.getElem?_drop]
  have hlength : (first :: rest).length = points.length - index := by
    rw [← hdrop, List.length_drop]
  have hfirst : points[index]? = some first := hat 0
  subst hsplit
  rw [List.length_cons, List.length_append] at hlength
  refine ⟨hfirst, by omega, fun k hlt hk p hp q hq => ?_, fun hbound hclose => ?_⟩
  · rw [hfirst] at hp
    obtain rfl := Option.some.inj hp
    obtain ⟨j, rfl⟩ := Nat.exists_eq_add_of_lt hlt
    rw [Nat.add_assoc, hat, List.getElem?_cons_succ, List.getElem?_append_left (by omega)] at hq
    exact hnear q (List.mem_of_getElem? hq)
  · have hnext : points[index + near.length + 1]? = far[0]? := by
      rw [Nat.add_assoc, hat, List.getElem?_cons_succ, List.getElem?_append_right le_rfl,
        Nat.sub_self]
    have hq := List.getElem?_eq_getElem hbound
    exact hfar _ (hnext ▸ hq) (hclose first hfirst _ hq)

/-- The last point that the inner loop passes. -/
theorem getElem?_inside {last : TrackPoint} (hdrop : points.drop index = first :: rest)
    (hlast : (inside haversine settings first rest).getLast? = some last) :
    0 < (inside haversine settings first rest).length ∧
      points[index + (inside haversine settings first rest).length]? = some last := by
  obtain ⟨far, hsplit, -, -⟩ := inside_split haversine settings first rest
  generalize inside haversine settings first rest = near at hsplit hlast ⊢
  rw [List.getLast?_eq_getElem?] at hlast
  have hlt : near.length - 1 < near.length := (List.getElem?_eq_some_iff.mp hlast).1
  obtain ⟨n, hn⟩ : ∃ n, near.length = n + 1 := ⟨near.length - 1, by omega⟩
  rw [hn, Nat.add_sub_cancel] at hlast
  refine ⟨by omega, ?_⟩
  rw [← List.getElem?_drop, hdrop, hn, List.getElem?_cons_succ, hsplit,
    List.getElem?_append_left (by omega), hlast]

/-- A stay from the first point does not go beyond the points that the inner loop passes. -/
theorem IsStay.le_inside {b : ℕ} (hdrop : points.drop index = first :: rest)
    (hb : IsStay haversine settings points index b) :
    b ≤ index + (inside haversine settings first rest).length := by
  obtain ⟨-, -, -, hclosed⟩ := inside_spec haversine settings hdrop
  by_contra hlt
  have hnext : index + (inside haversine settings first rest).length + 1 ≤ b := by omega
  exact hclosed (hnext.trans_lt hb.bound) (hb.near _ (by omega) hnext)

/-- What the outer loop finds behind the points that it skips. -/
structure Stays (points : List TrackPoint) (start : ℕ) (ranges : List (ℕ × ℕ)) : Prop where
  stay : ∀ r ∈ ranges, IsStay haversine settings points r.1 r.2 ∧
    Closed haversine settings points r.1 r.2 ∧ start ≤ r.1
  disjoint : ranges.Pairwise fun r r' => r.2 < r'.1
  complete : ∀ a, start ≤ a → (∀ r ∈ ranges, ¬ (r.1 ≤ a ∧ a ≤ r.2)) →
    ∀ b, ¬ IsStay haversine settings points a b

/-- From a point that starts no stay the loop goes on to the next one. -/
theorem Stays.skip (hnone : ∀ b, ¬ IsStay haversine settings points index b)
    (h : Stays haversine settings points (index + 1) ranges) :
    Stays haversine settings points index ranges where
  stay r hr := (h.stay r hr).imp_right fun hr => hr.imp_right fun hle => by omega
  disjoint := h.disjoint
  complete a ha hout := by
    obtain rfl | hlt := ha.eq_or_lt
    · exact hnone
    · exact h.complete a hlt hout

/-- A stay is put in front of those behind it. -/
theorem Stays.cons {points : List TrackPoint} {index last : ℕ} {ranges : List (ℕ × ℕ)}
    (hstay : IsStay haversine settings points index last)
    (hclosed : Closed haversine settings points index last)
    (h : Stays haversine settings points (last + 1) ranges) :
    Stays haversine settings points index ((index, last) :: ranges) where
  stay := by
    rw [List.forall_mem_cons]
    have hlt := hstay.lt
    exact ⟨⟨hstay, hclosed, le_rfl⟩, fun r hr =>
      (h.stay r hr).imp_right fun hr => hr.imp_right fun hle => by omega⟩
  disjoint := List.pairwise_cons.mpr ⟨fun r hr => (h.stay r hr).2.2, h.disjoint⟩
  complete a ha hout := by
    rw [List.forall_mem_cons] at hout
    exact h.complete a (by have := hout.1; omega) hout.2

/-- The loop finds the stays of the points that it does not skip. -/
theorem stayLoop_spec {points : List TrackPoint}
    (hinc : points.Pairwise fun p q => p.observedAt < q.observedAt) {skip index : ℕ}
    {rest : List TrackPoint} (hdrop : points.drop index = rest) (hskip : skip ≤ rest.length) :
    Stays haversine settings points (index + skip)
      ((stayLoop haversine settings skip index rest).map Prod.snd) := by
  induction rest generalizing skip index with
  | nil =>
    have hend : points.length ≤ index := List.drop_eq_nil_iff.mp hdrop
    rw [List.length_nil, Nat.le_zero] at hskip
    subst hskip
    refine ⟨fun r hr => absurd hr List.not_mem_nil, List.Pairwise.nil, fun a ha _ b hb => ?_⟩
    have := hb.lt
    have := hb.bound
    omega
  | cons first rest ih =>
    have hdrop' : points.drop (index + 1) = rest := by
      rw [← List.drop_drop, hdrop]
      rfl
    cases skip with
    | succ skip =>
      have hrest := ih hdrop' (Nat.le_of_succ_le_succ hskip)
      rwa [Nat.add_assoc, Nat.add_comm 1 skip] at hrest
    | zero =>
      obtain ⟨hfirst, hbound, hnear, hclosed⟩ := inside_spec haversine settings hdrop
      rw [stayLoop, Nat.add_zero]
      cases hcase : (inside haversine settings first rest).getLast? with
      | none =>
        refine Stays.skip haversine settings (fun b hb => ?_) (ih hdrop' (Nat.zero_le _))
        have hle := hb.le_inside haversine settings hdrop
        rw [List.getLast?_eq_none_iff.mp hcase, List.length_nil] at hle
        exact absurd hb.lt (by omega)
      | some last =>
        obtain ⟨hpos, hat⟩ := getElem?_inside haversine settings hdrop hcase
        dsimp only
        split
        · next hlong =>
          refine Stays.cons haversine settings ⟨by omega, hbound, hnear, ?_⟩ hclosed ?_
          · intro p hp q hq
            rw [hfirst] at hp
            rw [hat] at hq
            obtain rfl := Option.some.inj hp
            obtain rfl := Option.some.inj hq
            exact hlong
          · have hrest := @ih (inside haversine settings first rest).length (index + 1) hdrop'
              (List.takeWhile_sublist _).length_le
            rwa [Nat.add_right_comm] at hrest
        · next hshort =>
          -- A shorter stay would not last long enough either.
          refine Stays.skip haversine settings (fun b hb => hshort ?_) (ih hdrop' (Nat.zero_le _))
          have hle := hb.le_inside haversine settings hdrop
          have hlong := hb.long first hfirst _ (List.getElem?_eq_getElem hb.bound)
          rw [List.getElem?_eq_getElem hbound] at hat
          rw [List.getElem?_eq_getElem (by omega)] at hfirst
          rw [← Option.some.inj hfirst] at hlong ⊢
          rw [← Option.some.inj hat]
          refine hlong.trans (durationS_mono ?_ ?_)
          · exact List.pairwise_iff_getElem.mp hinc _ _ _ _ hb.lt
          · obtain hlt | heq := hle.lt_or_eq
            · exact (List.pairwise_iff_getElem.mp hinc _ _ _ _ hlt).le
            · subst heq
              exact le_rfl

/-! ## Legs -/

/-- The points from one index to another. -/
def slice (points : List TrackPoint) (r : ℕ × ℕ) : List TrackPoint :=
  (points.take (r.2 + 1)).drop r.1

/-- The legs before a point and those behind it. -/
theorem legs_split (f : TrackPoint → TrackPoint → α) (hm : m < points.length) :
    legs f points = legs f (points.take (m + 1)) ++ legs f (points.drop m) := by
  induction points generalizing m with
  | nil => exact absurd hm (Nat.not_lt_zero m)
  | cons p points ih =>
    cases m with
    | zero => rfl
    | succ m =>
      have hm' : m < points.length := Nat.lt_of_succ_lt_succ hm
      cases points with
      | nil => exact absurd hm' (Nat.not_lt_zero m)
      | cons q points => exact congrArg (f p q :: ·) (ih hm')

theorem legs_drop (f : TrackPoint → TrackPoint → α) (hle : left ≤ m) (hm : m < points.length) :
    legs f (points.drop left) = legs f (slice points (left, m)) ++ legs f (points.drop m) := by
  have hlt : m - left < (points.drop left).length := by
    rw [List.length_drop]
    omega
  have hslice : slice points (left, m) = (points.drop left).take (m - left + 1) := by
    rw [slice, List.drop_take, Nat.succ_sub hle]
  have hrest : points.drop m = (points.drop left).drop (m - left) := by
    rw [List.drop_drop, Nat.add_sub_cancel' hle]
  rw [hslice, hrest]
  exact legs_split f hlt

theorem legs_of_length_le (f : TrackPoint → TrackPoint → α) (h : points.length ≤ 1) :
    legs f points = [] := by
  cases points with
  | nil => rfl
  | cons p points =>
    obtain rfl := List.length_eq_zero_iff.mp (Nat.le_zero.mp (Nat.le_of_succ_le_succ h))
    rfl

/-- The candidates and the stays between them have all legs. -/
theorem legs_candidateLoop (f : TrackPoint → TrackPoint → α) (hleft : left < points.length)
    (hranges : ∀ r ∈ ranges, left ≤ r.1 ∧ r.1 ≤ r.2 ∧ r.2 < points.length)
    (hdisjoint : ranges.Pairwise fun r r' => r.2 ≤ r'.1) :
    ((candidateLoop points left ranges).flatMap (legs f) ++
      (ranges.map (slice points)).flatMap (legs f)).Perm (legs f (points.drop left)) := by
  induction ranges generalizing left with
  | nil =>
    rw [candidateLoop, List.map_nil, List.flatMap_nil, List.append_nil]
    split
    · rw [List.flatMap_singleton]
    · have hlength : (points.drop left).length ≤ 1 := by
        rw [List.length_drop]
        omega
      rw [legs_of_length_le f hlength, List.flatMap_nil]
  | cons r ranges ih =>
    obtain ⟨start, stop⟩ := r
    rw [List.forall_mem_cons] at hranges
    obtain ⟨⟨hstart, hstop, hbound⟩, hranges⟩ := hranges
    rw [List.pairwise_cons] at hdisjoint
    have hrest := @ih stop hbound
      (fun r hr => ⟨hdisjoint.1 r hr, (hranges r hr).2⟩) hdisjoint.2
    have hfirst : (if left < start then [(points.take (start + 1)).drop left] else []).flatMap
        (legs f) = legs f (slice points (left, start)) := by
      split
      · exact List.flatMap_singleton _ _
      · have hlength : (slice points (left, start)).length ≤ 1 := by
          rw [slice, List.length_drop, List.length_take]
          dsimp only at hstart ⊢
          omega
        rw [legs_of_length_le f hlength, List.flatMap_nil]
    rw [legs_drop f hstart (hstop.trans_lt hbound), legs_drop f hstop hbound, candidateLoop,
      List.flatMap_append, hfirst, List.map_cons, List.flatMap_cons, List.append_assoc]
    refine List.Perm.append_left _ ?_
    exact (List.perm_append_comm_assoc _ _ _).trans (hrest.append_left _)

theorem nodup_legs (hinc : points.Pairwise fun p q => p.observedAt < q.observedAt) :
    (legs Prod.mk points).Nodup := by
  have hnodup : points.Nodup := hinc.imp fun {p q} hlt heq => by
    subst heq
    exact lt_irrefl _ hlt
  have hsnd : (legs Prod.mk points).map Prod.snd = points.tail := by
    refine List.map_snd_zip ?_
    rw [List.length_tail]
    exact Nat.sub_le _ _
  exact List.Nodup.of_map Prod.snd (hsnd ▸ hnodup.tail)

/-! ## Tracks -/

/-- The accepted points are cut exactly at the gaps that are longer than the setting. In every track
    the stays are disjoint, maximal and complete, and each leg is in one stay or in one candidate,
    once. -/
theorem segmentation_partitions {points : List TrackPoint}
    (hinc : points.Pairwise fun p q => p.observedAt < q.observedAt) :
    ((splitTracks settings points).flatten = points ∧ [] ∉ splitTracks settings points ∧
      (∀ track ∈ splitTracks settings points,
        track.IsChain fun p q => elapsedS p q ≤ settings.maxGapS) ∧
      (splitTracks settings points).IsChain fun track track' =>
        ∃ p ∈ track.getLast?, ∃ q ∈ track'.head?, settings.maxGapS < elapsedS p q) ∧
    ∀ track ∈ splitTracks settings points,
      Stays haversine settings track 0 (detectStays haversine settings track).2 ∧
      ((journeyCandidates track (detectStays haversine settings track).2).flatMap (legs Prod.mk) ++
        ((detectStays haversine settings track).2.map (slice track)).flatMap
          (legs Prod.mk)).Perm (legs Prod.mk track) ∧
      (legs Prod.mk track).Nodup := by
  refine ⟨⟨List.flatten_splitBy _ _, List.nil_notMem_splitBy _ _, fun track htrack => ?_, ?_⟩,
    fun track htrack => ?_⟩
  · exact (List.isChain_of_mem_splitBy htrack).imp fun p q hpq =>
      not_lt.mp (of_decide_eq_true hpq)
  · refine (List.isChain_getLast_head_splitBy _ _).imp fun track track' h => ?_
    obtain ⟨hne, hne', hgap⟩ := h
    exact ⟨_, List.getLast?_eq_getLast_of_ne_nil hne, _, List.head?_eq_some_head hne',
      not_not.mp (of_decide_eq_false hgap)⟩
  · have hincreasing : track.Pairwise fun p q => p.observedAt < q.observedAt := by
      have hsub : track.Sublist (splitTracks settings points).flatten :=
        List.sublist_flatten_of_mem htrack
      rw [splitTracks, List.flatten_splitBy] at hsub
      exact hinc.sublist hsub
    have hstays : Stays haversine settings track (0 + 0)
        ((stayLoop haversine settings 0 0 track).map Prod.snd) :=
      stayLoop_spec haversine settings hincreasing List.drop_zero (Nat.zero_le _)
    have hsnd : (detectStays haversine settings track).2 =
        (stayLoop haversine settings 0 0 track).map Prod.snd := by
      rw [detectStays, List.unzip_eq_map]
    rw [← hsnd, Nat.add_zero] at hstays
    refine ⟨hstays, ?_, nodup_legs hincreasing⟩
    generalize (detectStays haversine settings track).2 = ranges at hstays ⊢
    unfold journeyCandidates
    split_ifs with hshort hnone
    · have hnil : ranges = [] := by
        refine List.eq_nil_iff_forall_not_mem.mpr fun r hr => ?_
        obtain ⟨hstay, -, -⟩ := hstays.stay r hr
        have hlt := hstay.lt
        have hbound := hstay.bound
        omega
      rw [hnil, legs_of_length_le _ (by omega : track.length ≤ 1)]
      exact List.Perm.nil
    · rw [hnone, List.flatMap_singleton, List.map_nil, List.flatMap_nil, List.append_nil]
    · refine legs_candidateLoop _ (by omega) (fun r hr => ?_) (hstays.disjoint.imp le_of_lt)
      obtain ⟨hstay, -, -⟩ := hstays.stay r hr
      exact ⟨Nat.zero_le _, hstay.lt.le, hstay.bound⟩

/-! ### A rest -/

/-- A point on the equator. -/
def equatorFix (observedAt : Datetime) : TrackPoint where
  entityId := "person.example"
  observedAt := observedAt
  receivedAt := observedAt
  latitude := 0
  longitude := 0
  accuracyM := none
  source := none
  entityId_valid := by decide +kernel
  latitude_range := by norm_num
  longitude_range := by norm_num
  accuracyM_nonneg _ ha := by cases ha

/-- Two points at one place, twenty minutes apart. -/
def restTrack : List TrackPoint :=
  [equatorFix ⟨1767225600000000, by decide⟩, equatorFix ⟨1767226800000000, by decide⟩]

/-- Its tracks and their stays. -/
theorem segmentation_partitions_rest : (splitTracks {} restTrack).flatten = restTrack ∧
    ∀ track ∈ splitTracks {} restTrack, Stays (fun _ _ _ _ => 0) {} track 0
      (detectStays (fun _ _ _ _ => 0) {} track).2 := by
  have hinc : restTrack.Pairwise fun p q => p.observedAt < q.observedAt := by
    refine List.pairwise_pair.mpr ?_
    show (1767225600000000 : ℤ) < 1767226800000000
    decide
  obtain ⟨⟨hflatten, -⟩, htracks⟩ := segmentation_partitions (fun _ _ _ _ => 0) {} hinc
  exact ⟨hflatten, fun track htrack => (htracks track htrack).1⟩

end HomeAddons.Journeys
