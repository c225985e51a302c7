import HomeAddons.Common.IsoRoundTrip

/-!
# The order of the texts of instants

A column of texts written by `isoformat` is compared as text. This is the order of the instants as
long as the offset is written out: `+` comes before the point of a fraction, and `Z` after it.

* `padded_lt`: numbers in so many digits are ordered as their texts are.
* `ordinal_lt`: the order of days is that of year, month and day in turn.
* `isoformat_lt`, `isoformat_le_iff`: the order of texts is the order of instants.
* `zuluText_le_iff`: with a `Z` a whole second comes after all its fractions.
-/

namespace HomeAddons.Common

/-! ## Digits -/

variable {a b cs : List Char} {n m y y' m' d : ℕ} {t t' : ℤ}

/-- The first of two fields of one width that differ decides the order. -/
theorem lt_append_of_lt (hlength : a.length = b.length) (h : a < b) (c d : List Char) :
    a ++ c < b ++ d := by
  induction a generalizing b with
  | nil =>
    cases b with
    | nil => exact absurd h (lt_irrefl _)
    | cons y b => cases hlength
  | cons x a ih =>
    cases b with
    | nil => cases hlength
    | cons y b =>
      rw [List.cons_append, List.cons_append, List.cons_lt_cons_iff]
      obtain hlt | ⟨rfl, hlt⟩ := List.cons_lt_cons_iff.mp h
      · exact .inl hlt
      · exact .inr ⟨rfl, ih (Nat.succ.inj hlength) hlt⟩

/-- The number that digits write after those that wrote `k`. -/
def readOn (k : ℕ) (cs : List Char) : ℕ := cs.foldl (fun k c => 10 * k + (c.toNat - 48)) k

theorem readOn_bounds (k : ℕ) (h : cs.all Char.isDigit = true) :
    k * 10 ^ cs.length ≤ readOn k cs ∧ readOn k cs < (k + 1) * 10 ^ cs.length := by
  induction cs generalizing k with
  | nil => simp [readOn]
  | cons c cs ih =>
    rw [List.all_cons, Bool.and_eq_true] at h
    obtain ⟨hlow, hhigh⟩ := ih (10 * k + (c.toNat - 48)) h.2
    have hdigit : 48 ≤ c.toNat ∧ c.toNat ≤ 57 := Char.isDigit_iff_toNat.mp h.1
    have hlower : k * 10 ≤ 10 * k + (c.toNat - 48) := by omega
    have hupper : 10 * k + (c.toNat - 48) + 1 ≤ (k + 1) * 10 := by omega
    rw [List.length_cons, Nat.pow_succ']
    constructor
    · calc k * (10 * 10 ^ cs.length) = k * 10 * 10 ^ cs.length := (Nat.mul_assoc _ _ _).symm
        _ ≤ (10 * k + (c.toNat - 48)) * 10 ^ cs.length := Nat.mul_le_mul_right _ hlower
        _ ≤ readOn k (c :: cs) := hlow
    · calc readOn k (c :: cs) < (10 * k + (c.toNat - 48) + 1) * 10 ^ cs.length := hhigh
        _ ≤ (k + 1) * 10 * 10 ^ cs.length := Nat.mul_le_mul_right _ hupper
        _ = (k + 1) * (10 * 10 ^ cs.length) := Nat.mul_assoc _ _ _

/-- Of two numbers in as many digits the smaller one comes first as a text. -/
theorem lt_of_readOn_lt (k : ℕ) (ha : a.all Char.isDigit = true) (hb : b.all Char.isDigit = true)
    (hlength : a.length = b.length) (h : readOn k a < readOn k b) : a < b := by
  induction a generalizing k b with
  | nil =>
    cases b with
    | nil => exact absurd h (Nat.lt_irrefl _)
    | cons y b => cases hlength
  | cons x a ih =>
    cases b with
    | nil => cases hlength
    | cons y b =>
      rw [List.all_cons, Bool.and_eq_true] at ha hb
      have hlen : a.length = b.length := Nat.succ.inj hlength
      rw [List.cons_lt_cons_iff]
      obtain hlt | rfl | hgt := lt_trichotomy x y
      · exact .inl hlt
      · exact .inr ⟨rfl, ih (10 * k + (x.toNat - 48)) ha.2 hb.2 hlen h⟩
      · -- A greater first digit makes a greater number.
        have hx : 48 ≤ x.toNat ∧ x.toNat ≤ 57 := Char.isDigit_iff_toNat.mp ha.1
        have hy : 48 ≤ y.toNat ∧ y.toNat ≤ 57 := Char.isDigit_iff_toNat.mp hb.1
        have hxy : y.toNat < x.toNat := hgt
        have hlow := (readOn_bounds (10 * k + (x.toNat - 48)) ha.2).1
        have hhigh := (readOn_bounds (10 * k + (y.toNat - 48)) hb.2).2
        have hstep : 10 * k + (y.toNat - 48) + 1 ≤ 10 * k + (x.toNat - 48) := by omega
        have hmul := Nat.mul_le_mul_right (10 ^ a.length) hstep
        rw [← hlen] at hhigh
        have : readOn k (y :: b) < readOn k (x :: a) := by
          calc readOn k (y :: b) < (10 * k + (y.toNat - 48) + 1) * 10 ^ a.length := hhigh
            _ ≤ (10 * k + (x.toNat - 48)) * 10 ^ a.length := hmul
            _ ≤ readOn k (x :: a) := hlow
        omega

theorem padded_lt {width : ℕ} (hw : 0 < width) (h : n < m) (hm : m < 10 ^ width) :
    (padded width n).toList < (padded width m).toList := by
  have hread : ∀ k < 10 ^ width, readOn 0 (padded width k).toList = k := by
    intro k hk
    have hdigits := digits_padded hw hk
    unfold digits at hdigits
    split at hdigits
    · exact Option.some.inj hdigits
    · cases hdigits
  apply lt_of_readOn_lt 0 (isDigit_padded width n) (isDigit_padded width m)
  · rw [length_padded hw (h.trans hm), length_padded hw hm]
  · rw [hread n (h.trans hm), hread m hm]
    exact h

/-! ## Days -/

/-- The number of days of a year. -/
def yearLength (y : ℕ) : ℕ := if isLeap y then 366 else 365

theorem daysBeforeYear_succ (hy : 1 ≤ y) :
    daysBeforeYear (y + 1) = daysBeforeYear y + yearLength y := by
  obtain ⟨n, rfl⟩ : ∃ n, y = n + 1 := ⟨y - 1, by omega⟩
  have hcentury : (n + 1) / 100 * 4 = n / 100 * 4 + if (n + 1) % 100 = 0 then 4 else 0 := by
    split_ifs <;> omega
  have hquad : (n + 1) / 4 = n / 4 + if (n + 1) % 4 = 0 then 1 else 0 := by split_ifs <;> omega
  have hlong : (n + 1) / 400 = n / 400 + if (n + 1) % 400 = 0 then 1 else 0 := by
    split_ifs <;> omega
  have hfour : (n + 1) % 100 = 0 → (n + 1) % 4 = 0 := by omega
  have hhundred : (n + 1) % 400 = 0 → (n + 1) % 100 = 0 := by omega
  have hle : n / 100 ≤ n := Nat.div_le_self _ _
  unfold daysBeforeYear yearLength isLeap
  rw [Nat.add_sub_cancel, Nat.add_sub_cancel, hquad, hlong]
  simp only [decide_eq_true_eq]
  generalize n / 4 = a, n / 400 = b, n / 100 = c, (n + 1) / 100 = e at hcentury hle ⊢
  split_ifs at hcentury ⊢ <;> grind

theorem daysBeforeYear_le (hy : 1 ≤ y) (h : y ≤ y') : daysBeforeYear y ≤ daysBeforeYear y' := by
  induction h with
  | refl => exact Nat.le_refl _
  | step hle ih =>
    rw [Nat.succ_eq_add_one, daysBeforeYear_succ (hy.trans hle)]
    exact ih.trans (Nat.le_add_right _ _)

/-- A month ends before a later one begins, and the last with the year. -/
theorem daysBeforeMonth_le (y : ℕ) (hm : 1 ≤ m) (hm' : m' ≤ 12) :
    (m < m' → daysBeforeMonth y m + daysInMonth y m ≤ daysBeforeMonth y m') ∧
      (m ≤ 12 → daysBeforeMonth y m + daysInMonth y m ≤ yearLength y) := by
  have hcommon : ∀ m' < 13, ∀ m < 13, 1 ≤ m →
      (m < m' → daysBeforeMonth 1 m + daysInMonth 1 m ≤ daysBeforeMonth 1 m') ∧
        daysBeforeMonth 1 m + daysInMonth 1 m ≤ 365 := by decide +kernel
  have hleap : ∀ m' < 13, ∀ m < 13, 1 ≤ m →
      (m < m' → daysBeforeMonth 4 m + daysInMonth 4 m ≤ daysBeforeMonth 4 m') ∧
        daysBeforeMonth 4 m + daysInMonth 4 m ≤ 366 := by decide +kernel
  unfold yearLength
  cases hy : isLeap y with
  | false =>
    have hsame : isLeap y = isLeap 1 := hy
    rw [daysBeforeMonth_congr hsame, daysBeforeMonth_congr hsame, daysInMonth_congr hsame]
    exact ⟨fun hlt => (hcommon m' (by omega) m (by omega) hm).1 hlt,
      fun hle => (hcommon m' (by omega) m (by omega) hm).2⟩
  | true =>
    have hsame : isLeap y = isLeap 4 := hy
    rw [daysBeforeMonth_congr hsame, daysBeforeMonth_congr hsame, daysInMonth_congr hsame]
    exact ⟨fun hlt => (hleap m' (by omega) m (by omega) hm).1 hlt,
      fun hle => (hleap m' (by omega) m (by omega) hm).2⟩

/-- Of two days the earlier one has the smaller year, or month, or day. -/
theorem ordinal_lt {d' : ℕ} (hy : 1 ≤ y ∧ 1 ≤ y') (hm : 1 ≤ m ∧ m ≤ 12) (hm' : 1 ≤ m' ∧ m' ≤ 12)
    (hd : 1 ≤ d ∧ d ≤ daysInMonth y m) (hd' : 1 ≤ d' ∧ d' ≤ daysInMonth y' m')
    (h : ordinal y m d < ordinal y' m' d') : y < y' ∨ y = y' ∧ (m < m' ∨ m = m' ∧ d < d') := by
  unfold ordinal at h
  obtain hlt | rfl | hgt := lt_trichotomy y y'
  · exact .inl hlt
  · refine .inr ⟨rfl, ?_⟩
    obtain hlt | rfl | hgt := lt_trichotomy m m'
    · exact .inl hlt
    · exact .inr ⟨rfl, by omega⟩
    · have hmonth := (daysBeforeMonth_le y hm'.1 hm.2).1 hgt
      omega
  · have hyear := daysBeforeYear_le (Nat.succ_pos y') (Nat.succ_le_of_lt hgt)
    rw [Nat.succ_eq_add_one, daysBeforeYear_succ hy.2] at hyear
    have hmonth := (daysBeforeMonth_le y' hm'.1 hm'.2).2 hm'.2
    omega

/-! ## Instants -/

/-- The text of an instant down to the second. -/
def secondText (t : ℤ) : List Char :=
  let (y, m, d) := ymd (t / dayMicros + epochOrdinal).toNat
  let s := (t % dayMicros).toNat / 1000000
  (padded 4 y).toList ++ ('-' :: ((padded 2 m).toList ++ ('-' :: ((padded 2 d).toList ++
    ('T' :: ((padded 2 (s / 3600)).toList ++ (':' :: ((padded 2 (s / 60 % 60)).toList ++
      (':' :: (padded 2 (s % 60)).toList)))))))))

theorem secondText_eq (h : ymd (t / dayMicros + epochOrdinal).toNat = (y, m, d)) :
    secondText t = (padded 4 y).toList ++ ('-' :: ((padded 2 m).toList ++
      ('-' :: ((padded 2 d).toList ++ ('T' ::
        ((padded 2 ((t % dayMicros).toNat / 1000000 / 3600)).toList ++
          (':' :: ((padded 2 ((t % dayMicros).toNat / 1000000 / 60 % 60)).toList ++
            (':' :: (padded 2 ((t % dayMicros).toNat / 1000000 % 60)).toList))))))))) := by
  unfold secondText
  rw [h]

/-- The text of an instant: its second, the fraction and the offset. -/
theorem toList_isoformat_second (t : ℤ) : (isoformat t).toList =
    secondText t ++ isoFractionText (t % 1000000).toNat ++ "+00:00".toList := by
  obtain ⟨y, m, d, hymd⟩ : ∃ y m d, ymd (t / dayMicros + epochOrdinal).toNat = (y, m, d) :=
    ⟨_, _, _, rfl⟩
  have hmicro : (t % dayMicros).toNat % 1000000 = (t % 1000000).toNat := by
    have hday : dayMicros = 86400000000 := rfl
    rw [hday]
    omega
  rw [toList_isoformat hymd, secondText_eq hymd, hmicro]
  simp only [List.append_assoc, List.cons_append]

/-- The instants of one second have its text. -/
theorem secondText_congr (h : t / 1000000 = t' / 1000000) : secondText t = secondText t' := by
  have hday : dayMicros = 86400000000 := rfl
  have hdays : t / dayMicros = t' / dayMicros := by
    rw [hday]
    omega
  have hseconds : (t % dayMicros).toNat / 1000000 = (t' % dayMicros).toNat / 1000000 := by
    rw [hday]
    omega
  unfold secondText
  rw [hdays, hseconds]

/-- Of two seconds the earlier one has the smaller text, whatever follows. -/
theorem secondText_lt (hin : inYears t = true) (hin' : inYears t' = true)
    (h : t / 1000000 < t' / 1000000) (cs cs' : List Char) :
    secondText t ++ cs < secondText t' ++ cs' := by
  obtain ⟨hpos, hle, hus, ht⟩ := day_of_inYears hin
  obtain ⟨hpos', hle', hus', ht'⟩ := day_of_inYears hin'
  obtain ⟨y, m, d, hymd⟩ : ∃ y m d, ymd (t / dayMicros + epochOrdinal).toNat = (y, m, d) :=
    ⟨_, _, _, rfl⟩
  obtain ⟨y', m', d', hymd'⟩ : ∃ y m d, ymd (t' / dayMicros + epochOrdinal).toNat = (y, m, d) :=
    ⟨_, _, _, rfl⟩
  obtain ⟨hy, hm, hd, hback⟩ := ymd_ordinal hpos hle hymd
  obtain ⟨hy', hm', hd', hback'⟩ := ymd_ordinal hpos' hle' hymd'
  have hday : dayMicros = 86400000000 := rfl
  rw [secondText_eq hymd, secondText_eq hymd']
  simp only [List.append_assoc, List.cons_append]
  -- The day decides, or on one day the second does.
  have hlex : y < y' ∨ y = y' ∧ (m < m' ∨ m = m' ∧ (d < d' ∨ d = d' ∧
      (t % dayMicros).toNat / 1000000 < (t' % dayMicros).toNat / 1000000)) := by
    obtain hlt | heq : (t / dayMicros + epochOrdinal).toNat < (t' / dayMicros + epochOrdinal).toNat ∨
        (t / dayMicros + epochOrdinal).toNat = (t' / dayMicros + epochOrdinal).toNat := by
      rw [hday] at ht ht' ⊢
      omega
    · rw [← hback, ← hback'] at hlt
      obtain hlt | ⟨heq, hlt⟩ := ordinal_lt ⟨hy.1, hy'.1⟩ hm hm' hd hd' hlt
      · exact .inl hlt
      · refine .inr ⟨heq, ?_⟩
        obtain hlt | ⟨heq, hlt⟩ := hlt
        · exact .inl hlt
        · exact .inr ⟨heq, .inl hlt⟩
    · rw [heq, hymd', Prod.mk.injEq, Prod.mk.injEq] at hymd
      refine .inr ⟨hymd.1.symm, .inr ⟨hymd.2.1.symm, .inr ⟨hymd.2.2.symm, ?_⟩⟩⟩
      rw [heq] at ht
      rw [hday] at ht ht' ⊢
      omega
  have hdays : ∀ {y m d : ℕ}, d ≤ daysInMonth y m → d < 10 ^ 2 := by
    intro y m d hle
    have hmonth : daysInMonth y m ≤ 31 := by
      unfold daysInMonth
      split_ifs <;> omega
    omega
  have hfield : ∀ {a b : ℕ}, a < b → b < 10 ^ 2 → ∀ c d : List Char,
      (padded 2 a).toList ++ c < (padded 2 b).toList ++ d := by
    intro a b hab hb
    refine lt_append_of_lt ?_ (padded_lt (by decide) hab hb)
    rw [length_padded (by decide) (hab.trans hb), length_padded (by decide) hb]
  obtain hlt | ⟨rfl, hlt | ⟨rfl, hlt | ⟨rfl, hlt⟩⟩⟩ := hlex
  · refine lt_append_of_lt ?_ (padded_lt (by decide) hlt hy'.2) _ _
    rw [length_padded (by decide) hy.2, length_padded (by decide) hy'.2]
  · refine List.append_left_lt (List.cons_lt_cons_self.mpr ?_)
    exact hfield hlt (by omega) _ _
  · refine List.append_left_lt (List.cons_lt_cons_self.mpr ?_)
    refine List.append_left_lt (List.cons_lt_cons_self.mpr ?_)
    exact hfield hlt (hdays hd'.2) _ _
  · refine List.append_left_lt (List.cons_lt_cons_self.mpr ?_)
    refine List.append_left_lt (List.cons_lt_cons_self.mpr ?_)
    refine List.append_left_lt (List.cons_lt_cons_self.mpr ?_)
    generalize hs : (t % dayMicros).toNat / 1000000 = s at hlt ⊢
    generalize hs' : (t' % dayMicros).toNat / 1000000 = s' at hlt ⊢
    have hlast : s' < 86400 := by omega
    -- The hour, the minute or the second decides.
    obtain hlt | ⟨heq, hlt | ⟨heq', hlt⟩⟩ : s / 3600 < s' / 3600 ∨ s / 3600 = s' / 3600 ∧
        (s / 60 % 60 < s' / 60 % 60 ∨ s / 60 % 60 = s' / 60 % 60 ∧ s % 60 < s' % 60) := by omega
    · exact hfield hlt (by omega) _ _
    · rw [heq]
      refine List.append_left_lt (List.cons_lt_cons_self.mpr ?_)
      exact hfield hlt (by omega) _ _
    · rw [heq, heq']
      refine List.append_left_lt (List.cons_lt_cons_self.mpr ?_)
      refine List.append_left_lt (List.cons_lt_cons_self.mpr ?_)
      exact hfield hlt (by omega) _ _

/-- Of two fractions of a second the smaller one has the smaller text, if the text without a
    fraction goes on with a character before the point. -/
theorem isoFractionText_lt (h : n < m) (hm : m < 1000000) {c : Char} {cs' : List Char}
    (hc : n = 0 → c < '.') : isoFractionText n ++ c :: cs < isoFractionText m ++ cs' := by
  unfold isoFractionText
  rw [if_neg (by omega : m ≠ 0)]
  split
  · next hzero => exact List.cons_lt_cons_iff.mpr (.inl (hc hzero))
  · refine List.cons_lt_cons_self.mpr (lt_append_of_lt ?_ (padded_lt (by decide) h hm) _ _)
    rw [length_padded (by decide) (h.trans hm), length_padded (by decide) hm]

/-- Of two instants the earlier one has the smaller text. -/
theorem isoformat_lt (hin : inYears t = true) (hin' : inYears t' = true) (h : t < t') :
    isoformat t < isoformat t' := by
  rw [String.lt_iff_toList_lt, toList_isoformat_second, toList_isoformat_second, List.append_assoc,
    List.append_assoc]
  obtain hlt | heq : t / 1000000 < t' / 1000000 ∨ t / 1000000 = t' / 1000000 := by omega
  · exact secondText_lt hin hin' hlt _ _
  · rw [secondText_congr heq]
    refine List.append_left_lt (isoFractionText_lt ?_ ?_ fun _ => by decide) <;> omega

/-- The order of texts is the order of instants. -/
theorem isoformat_le_iff (hin : inYears t = true) (hin' : inYears t' = true) :
    isoformat t ≤ isoformat t' ↔ t ≤ t' := by
  constructor
  · intro hle
    by_contra hlt
    exact absurd hle (not_le.mpr (isoformat_lt hin' hin (not_le.mp hlt)))
  · intro hle
    obtain hlt | rfl := hle.lt_or_eq
    · exact (isoformat_lt hin hin' hlt).le
    · exact le_rfl

/-! ## Instants with a `Z` -/

/-- The text of an instant with `Z` for its offset. -/
def zuluText (t : ℤ) : List Char :=
  secondText t ++ isoFractionText (t % 1000000).toNat ++ ['Z']

/-- The place of an instant in the order of the texts with a `Z`, which comes after the point: a
    whole second is behind all its fractions. -/
def zuluRank (t : ℤ) : ℤ := if t % 1000000 = 0 then t + 1000000 else t

theorem zuluText_lt (hin : inYears t = true) (hin' : inYears t' = true)
    (h : zuluRank t < zuluRank t') : zuluText t < zuluText t' := by
  unfold zuluText
  rw [List.append_assoc, List.append_assoc]
  obtain hlt | heq : t / 1000000 < t' / 1000000 ∨ t / 1000000 = t' / 1000000 := by
    unfold zuluRank at h
    split_ifs at h <;> omega
  · exact secondText_lt hin hin' hlt _ _
  rw [secondText_congr heq]
  refine List.append_left_lt ?_
  by_cases hwhole : t' % 1000000 = 0
  · have hfraction : (t % 1000000).toNat ≠ 0 := by
      unfold zuluRank at h
      split_ifs at h <;> omega
    rw [hwhole]
    unfold isoFractionText
    rw [if_neg hfraction]
    exact List.cons_lt_cons_iff.mpr (.inl (by decide))
  · have hfraction : t % 1000000 ≠ 0 ∧ t < t' := by
      unfold zuluRank at h
      split_ifs at h <;> omega
    refine isoFractionText_lt ?_ ?_ fun hzero => ?_ <;> omega

/-- The texts with a `Z` are in the order of the ranks. -/
theorem zuluText_le_iff (hin : inYears t = true) (hin' : inYears t' = true) :
    zuluText t ≤ zuluText t' ↔ zuluRank t ≤ zuluRank t' := by
  constructor
  · intro hle
    by_contra hlt
    exact absurd hle (not_le.mpr (zuluText_lt hin' hin (not_le.mp hlt)))
  · intro hle
    obtain hlt | heq := hle.lt_or_eq
    · exact (zuluText_lt hin hin' hlt).le
    · have hsame : t = t' := by
        unfold zuluRank at heq
        split_ifs at heq <;> omega
      exact hsame ▸ le_rfl

/-- A whole second whose text comes after that of a later instant, a fraction of the second. -/
def Overtakes (t t' : ℤ) : Prop :=
  t / 1000000 = t' / 1000000 ∧ t % 1000000 = 0 ∧ t' % 1000000 ≠ 0

instance (t t' : ℤ) : Decidable (Overtakes t t') := inferInstanceAs (Decidable (_ ∧ _ ∧ _))

theorem le_iff_not_overtakes (h : zuluRank t ≤ zuluRank t') : t ≤ t' ↔ ¬ Overtakes t' t := by
  unfold zuluRank at h
  unfold Overtakes
  split_ifs at h <;> omega

theorem not_overtakes (h : zuluRank t ≤ zuluRank t') : ¬ Overtakes t t' := by
  unfold zuluRank at h
  unfold Overtakes
  split_ifs at h <;> omega

/-- Two instants of one second, exactly one of them the whole second. -/
def Clash (t t' : ℤ) : Prop := Overtakes t t' ∨ Overtakes t' t

theorem Clash.symm (h : Clash t t') : Clash t' t := Or.symm h

/-- The order of the texts is that of the instants but for a whole second and its fractions. -/
theorem zuluRank_le_iff {t t' : ℤ} : (zuluRank t ≤ zuluRank t' ↔ t ≤ t') ↔ ¬ Clash t t' := by
  unfold zuluRank Clash Overtakes
  split_ifs <;> omega

/-- Rows in the order of the texts are in the order of the instants when no two of them clash. -/
theorem pairwise_iff_not_clash {ρ : Type*} {instant : ρ → ℤ} {l : List ρ}
    (hrank : l.Pairwise fun a b => zuluRank (instant a) ≤ zuluRank (instant b)) :
    l.Pairwise (fun a b => instant a ≤ instant b) ↔
      ∀ a ∈ l, ∀ b ∈ l, ¬ Clash (instant a) (instant b) := by
  constructor
  · intro hsorted a ha b hb
    have hforth : l.Pairwise fun a b => ¬ Clash (instant a) (instant b) :=
      (hrank.and hsorted).imp fun ⟨hrank, hle⟩ => zuluRank_le_iff.mp (iff_of_true hrank hle)
    exact List.Pairwise.forall_of_forall_of_flip (fun _ _ => zuluRank_le_iff.mp (by simp)) hforth
      (hforth.imp fun hnot h => hnot h.symm) ha hb
  · intro hnone
    exact hrank.imp_of_mem fun ha hb hle => (zuluRank_le_iff.mpr (hnone _ ha _ hb)).mp hle

end HomeAddons.Common
