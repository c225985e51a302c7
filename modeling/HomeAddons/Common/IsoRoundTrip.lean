import HomeAddons.Common.IsoTime

/-!
# What `isoformat` writes can be read

* `digits_padded`: a number in so many digits is read back.
* `ymd_ordinal`: the year, month and day of an ordinal name that ordinal.
* `fromIsoformat_isoformat`, `parseTime_isoformat`: an instant of the years 1 to 9999 is read back
  from its text, with the offset zero.
-/

namespace HomeAddons.Common

/-! ## Digits -/

theorem toList_padded (width n : ℕ) : (padded width n).toList =
    List.replicate (width - (Nat.toDigits 10 n).length) '0' ++ Nat.toDigits 10 n := by
  have hdigits : (toString n : String).toList = Nat.toDigits 10 n := by
    rw [Nat.toString_eq_ofList_toDigits, String.toList_ofList]
  rw [padded, String.toList_append, String.toList_join, ← String.length_toList, hdigits,
    List.flatMap_replicate]
  congr 1
  generalize width - (Nat.toDigits 10 n).length = k
  induction k with
  | zero => rfl
  | succ k ih =>
    rw [List.replicate_succ, List.flatten_cons, ih, List.replicate_succ]
    rfl

theorem length_padded {width n : ℕ} (hw : 0 < width) (h : n < 10 ^ width) :
    (padded width n).toList.length = width := by
  have hle := (Nat.length_toDigits_le_iff (by decide : 1 < 10) hw).mpr h
  rw [toList_padded, List.length_append, List.length_replicate]
  omega

theorem isDigit_padded (width n : ℕ) : (padded width n).toList.all Char.isDigit = true := by
  rw [toList_padded, List.all_append, Bool.and_eq_true, List.all_eq_true, List.all_eq_true]
  refine ⟨fun c hc => ?_, fun c hc => Nat.isDigit_of_mem_toDigits (by decide) (by decide) hc⟩
  rw [List.eq_of_mem_replicate hc]
  rfl

/-- The number that was written is read. -/
theorem digits_padded {width n : ℕ} (hw : 0 < width) (h : n < 10 ^ width) :
    digits width (padded width n).toList = some n := by
  have hread : Nat.ofDigitChars 10 (padded width n).toList 0 = n := by
    rw [toList_padded, Nat.ofDigitChars_append, Nat.ofDigitChars_replicate_zero, Nat.mul_zero,
      Nat.ofDigitChars_ten_toDigits]
  have hall := isDigit_padded width n
  have hlength := length_padded hw h
  generalize (padded width n).toList = cs at hread hall hlength
  rw [digits, if_pos ⟨hlength, hall⟩, ← hread, Nat.ofDigitChars_eq_foldl]
  rfl

variable {n y y' m d us : ℕ} {t : Instant} {zone : List Char}

/-- Two digits. -/
theorem padded_two (h : n < 100) : ∃ a b : Char, (padded 2 n).toList = [a, b] ∧
    a.isDigit ∧ b.isDigit ∧ digits 2 [a, b] = some n := by
  have hlength := @length_padded 2 n (by decide) h
  have hall := isDigit_padded 2 n
  have hread := @digits_padded 2 n (by decide) h
  match hl : (padded 2 n).toList, hlength with
  | [a, b], _ =>
    rw [hl] at hall hread
    simp only [List.all_cons, List.all_nil, Bool.and_true, Bool.and_eq_true] at hall
    exact ⟨a, b, rfl, hall.1, hall.2, hread⟩

/-- Four digits. -/
theorem padded_four (h : n < 10000) : ∃ a b c d : Char,
    (padded 4 n).toList = [a, b, c, d] ∧ digits 4 [a, b, c, d] = some n := by
  have hlength := @length_padded 4 n (by decide) h
  have hread := @digits_padded 4 n (by decide) h
  match hl : (padded 4 n).toList, hlength with
  | [a, b, c, d], _ =>
    rw [hl] at hread
    exact ⟨a, b, c, d, rfl, hread⟩

/-- Six digits. -/
theorem padded_six (h : n < 1000000) : ∃ a b c d e f : Char,
    (padded 6 n).toList = [a, b, c, d, e, f] ∧ (∀ x ∈ [a, b, c, d, e, f], x.isDigit) ∧
      digits 6 [a, b, c, d, e, f] = some n := by
  have hlength := @length_padded 6 n (by decide) h
  have hall := isDigit_padded 6 n
  have hread := @digits_padded 6 n (by decide) h
  match hl : (padded 6 n).toList, hlength with
  | [a, b, c, d, e, f], _ =>
    rw [hl] at hread hall
    exact ⟨a, b, c, d, e, f, rfl, List.all_eq_true.mp hall, hread⟩

/-! ## Days -/

/-- The lengths of the months only look at whether the year is a leap year. -/
theorem daysInMonth_congr (h : isLeap y = isLeap y') (m : ℕ) :
    daysInMonth y m = daysInMonth y' m := by
  rw [daysInMonth, daysInMonth, h]

theorem daysBeforeMonth_congr (h : isLeap y = isLeap y') (m : ℕ) :
    daysBeforeMonth y m = daysBeforeMonth y' m := by
  unfold daysBeforeMonth
  congr 1
  exact List.map_congr_left fun i _ => daysInMonth_congr h (i + 1)

/-- The month that a day of the year is in. -/
def monthOf (y n : ℕ) : ℕ :=
  ((List.range 12).filter fun i => daysBeforeMonth y (i + 1) ≤ n).length

theorem monthOf_congr (h : isLeap y = isLeap y') (n : ℕ) : monthOf y n = monthOf y' n := by
  unfold monthOf
  congr 1
  exact List.filter_congr fun i _ => by rw [daysBeforeMonth_congr h]

/-- A day of a year is in its month. -/
theorem monthOf_spec (hn : n < if isLeap y then 366 else 365) :
    (1 ≤ monthOf y n ∧ monthOf y n ≤ 12) ∧ daysBeforeMonth y (monthOf y n) ≤ n ∧
      n - daysBeforeMonth y (monthOf y n) + 1 ≤ daysInMonth y (monthOf y n) := by
  -- One year of each kind is enough.
  have hcommon : ∀ n < 365, (1 ≤ monthOf 1 n ∧ monthOf 1 n ≤ 12) ∧
      daysBeforeMonth 1 (monthOf 1 n) ≤ n ∧
        n - daysBeforeMonth 1 (monthOf 1 n) + 1 ≤ daysInMonth 1 (monthOf 1 n) := by decide +kernel
  have hleap : ∀ n < 366, (1 ≤ monthOf 4 n ∧ monthOf 4 n ≤ 12) ∧
      daysBeforeMonth 4 (monthOf 4 n) ≤ n ∧
        n - daysBeforeMonth 4 (monthOf 4 n) + 1 ≤ daysInMonth 4 (monthOf 4 n) := by decide +kernel
  cases hy : isLeap y with
  | false =>
    have hsame : isLeap y = isLeap 1 := hy
    rw [hy] at hn
    rw [monthOf_congr hsame, daysBeforeMonth_congr hsame, daysInMonth_congr hsame]
    exact hcommon n hn
  | true =>
    have hsame : isLeap y = isLeap 4 := hy
    rw [hy] at hn
    rw [monthOf_congr hsame, daysBeforeMonth_congr hsame, daysInMonth_congr hsame]
    exact hleap n hn

/-- What `ymd` finds of an ordinal up to that of 9999-12-31. -/
theorem ymd_ordinal {ord : ℕ} (hpos : 1 ≤ ord) (hmax : ord ≤ maxOrdinal) (h : ymd ord = (y, m, d)) :
    (1 ≤ y ∧ y < 10000) ∧ (1 ≤ m ∧ m ≤ 12) ∧
      (1 ≤ d ∧ d ≤ daysInMonth y m) ∧ ordinal y m d = ord := by
  obtain ⟨n, rfl⟩ : ∃ n, ord = n + 1 := ⟨ord - 1, by omega⟩
  -- The remainders of the years of 400, 100, 4 and 1.
  obtain ⟨a, b, c, e, r, hymd, hr⟩ : ∃ a b c e r : ℕ,
      ymd (n + 1) = (400 * a + 100 * b + 4 * c + e + 1,
        monthOf (400 * a + 100 * b + 4 * c + e + 1) r,
        r - daysBeforeMonth (400 * a + 100 * b + 4 * c + e + 1)
          (monthOf (400 * a + 100 * b + 4 * c + e + 1) r) + 1) ∧
      n = 146097 * a + 36524 * b + 1461 * c + 365 * e + r ∧ b ≤ 3 ∧ c ≤ 24 ∧ e ≤ 3 ∧
      (r < 365 ∨ (r = 365 ∧ e = 3 ∧ (c < 24 ∨ b = 3))) := by
    refine ⟨n / 146097, min 3 (n % 146097 / 36524),
      (n % 146097 - 36524 * min 3 (n % 146097 / 36524)) / 1461,
      min 3 ((n % 146097 - 36524 * min 3 (n % 146097 / 36524)) % 1461 / 365),
      (n % 146097 - 36524 * min 3 (n % 146097 / 36524)) % 1461 -
        365 * min 3 ((n % 146097 - 36524 * min 3 (n % 146097 / 36524)) % 1461 / 365), rfl, ?_⟩
    have hcentury := Nat.mod_lt n (by decide : 146097 > 0)
    have hsplit := Nat.div_add_mod n 146097
    generalize n / 146097 = a, n % 146097 = k at hcentury hsplit ⊢
    omega
  obtain ⟨hn, hb, hc, he, hlast⟩ := hr
  rw [hymd, Prod.mk.injEq, Prod.mk.injEq] at h
  obtain ⟨rfl, rfl, rfl⟩ := h
  have hleap : r < if isLeap (400 * a + 100 * b + 4 * c + e + 1) then 366 else 365 := by
    obtain hlt | ⟨rfl, rfl, hcb⟩ := hlast
    · split <;> omega
    · have hy : isLeap (400 * a + 100 * b + 4 * c + 3 + 1) = true := by
        rw [isLeap, decide_eq_true_eq]
        omega
      rw [hy]
      decide
  obtain ⟨hm, hbefore, hin⟩ := monthOf_spec hleap
  have hyear : daysBeforeYear (400 * a + 100 * b + 4 * c + e + 1) + r = n := by
    rw [daysBeforeYear]
    omega
  refine ⟨⟨by omega, ?_⟩, hm, ⟨by omega, hin⟩, ?_⟩
  · rw [maxOrdinal] at hmax
    omega
  · rw [ordinal]
    omega

/-! ## Texts -/

/-- The instants that a `datetime` in UTC can name. -/
def inYears (t : Instant) : Bool :=
  (1 - epochOrdinal) * dayMicros ≤ t ∧ t < (maxOrdinal + 1 - epochOrdinal) * dayMicros

/-- A date is read. -/
theorem isoDate_padded (hy : 1 ≤ y ∧ y < 10000) (hm : 1 ≤ m ∧ m ≤ 12)
    (hd : 1 ≤ d ∧ d ≤ daysInMonth y m) :
    isoDate ((padded 4 y).toList ++ '-' :: (padded 2 m).toList ++ '-' :: (padded 2 d).toList) =
      some (ordinal y m d : ℤ) := by
  have hlast : d < 100 := by
    have hmonth : daysInMonth y m ≤ 31 := by
      unfold daysInMonth
      split_ifs <;> omega
    omega
  obtain ⟨y₁, y₂, y₃, y₄, htext, hyear⟩ := padded_four hy.2
  obtain ⟨m₁, m₂, htext', hm₁, -, hmonth⟩ := padded_two (by omega : m < 100)
  obtain ⟨d₁, d₂, htext'', -, -, hday⟩ := padded_two hlast
  have hweek : m₁ ≠ 'W' := by
    rintro rfl
    cases hm₁
  rw [htext, htext', htext'']
  simp only [isoDate, List.cons_append, List.nil_append, List.take_succ_cons, List.take_zero, hyear,
    Option.bind_eq_bind, Option.bind_some, List.getElem?_cons_succ, List.getElem?_cons_zero,
    if_true, List.drop_succ_cons, List.drop_zero, List.head?_cons, Option.some.injEq,
    hweek, if_false, hmonth, hday]
  rw [calendarDate, if_pos ⟨hy.1, hm.1, hm.2, hd.1, hd.2⟩]

/-- The fraction that is written. -/
def isoFractionText (us : ℕ) : List Char := if us = 0 then [] else '.' :: (padded 6 us).toList

/-- A time of day without its offset is read. -/
theorem isoClock_padded {h s : ℕ} (hh : h < 24) (hm : m < 60) (hs : s < 60) (hus : us < 1000000) :
    isoClock ((padded 2 h).toList ++ ':' :: (padded 2 m).toList ++ ':' :: (padded 2 s).toList ++
      isoFractionText us) = some ⟨h, m, s, us, false⟩ := by
  obtain ⟨h₁, h₂, htext, -, -, hhour⟩ := padded_two (by omega : h < 100)
  obtain ⟨m₁, m₂, htext', -, -, hminute⟩ := padded_two (by omega : m < 100)
  obtain ⟨s₁, s₂, htext'', -, -, hsecond⟩ := padded_two (by omega : s < 100)
  rw [htext, htext', htext'', isoFractionText]
  split
  · next hzero =>
    subst hzero
    simp only [isoClock, List.cons_append, List.nil_append, List.take_succ_cons, List.take_zero,
      hhour, hminute, hsecond, Option.bind_eq_bind, Option.bind_some, List.getElem?_cons_succ,
      List.getElem?_cons_zero, List.drop_succ_cons, List.drop_zero, isoNext, decide_true,
      and_self, if_true, Option.pure_def, List.append_nil]
  · obtain ⟨f₁, f₂, f₃, f₄, f₅, f₆, hfraction, -, hmicro⟩ := padded_six hus
    rw [hfraction]
    have hdot : ¬ ('.' : Char) = ':' := by decide
    simp only [isoClock, List.cons_append, List.nil_append, List.take_succ_cons, List.take_zero,
      hhour, hminute, hsecond, hmicro, Option.bind_eq_bind, Option.bind_some,
      List.getElem?_cons_succ, List.getElem?_cons_zero, List.drop_succ_cons, List.drop_zero,
      isoNext, decide_true, and_self, and_false, true_or, if_true, if_false, hdot, isoFraction,
      List.length_cons, List.length_nil, Nat.reduceAdd, Nat.sub_self, Nat.pow_zero, Nat.mul_one,
      Option.pure_def, List.take_nil, List.drop_nil]
    rfl

/-- No character of a time of day begins an offset. -/
theorem isoFractionText_all : ∀ c ∈ isoFractionText us, c = '.' ∨ c.isDigit = true := by
  intro c hc
  unfold isoFractionText at hc
  split at hc
  · cases hc
  · obtain rfl | hc := List.mem_cons.mp hc
    · exact .inl rfl
    · exact .inr (List.all_eq_true.mp (isDigit_padded 6 us) c hc)

/-- A time of day and an offset are read. -/
theorem isoTime_zone {h m s us : ℕ} (hh : h < 24) (hm : m < 60) (hs : s < 60)
    (hus : us < 1000000) {sign : Char} {zone : List Char} {z : IsoClock}
    (hsign : sign = '+' ∨ sign = '-') (hzone : isoClock zone = some z) (hjunk : z.junk = false)
    (hday : z.micros < dayMicros) :
    isoTime ((padded 2 h).toList ++ ':' :: (padded 2 m).toList ++ ':' :: (padded 2 s).toList ++
      isoFractionText us ++ sign :: zone) =
      some (((((h * 60 + m) * 60 + s) * 1000000 + us : ℕ) : ℤ),
        some (if sign = '-' then -z.micros else z.micros)) := by
  have hclock := isoClock_padded hh hm hs hus
  have hplain : ∀ c ∈ (padded 2 h).toList ++ ':' :: (padded 2 m).toList ++
      ':' :: (padded 2 s).toList ++ isoFractionText us, c = ':' ∨ c = '.' ∨ c.isDigit = true := by
    have hdigit : ∀ n, ∀ c ∈ (padded 2 n).toList, c.isDigit = true :=
      fun n => List.all_eq_true.mp (isDigit_padded 2 n)
    intro c hc
    simp only [List.mem_append, List.mem_cons] at hc
    obtain ((hc | rfl | hc) | rfl | hc) | hc := hc
    · exact .inr (.inr (hdigit h c hc))
    · exact .inl rfl
    · exact .inr (.inr (hdigit m c hc))
    · exact .inl rfl
    · exact .inr (.inr (hdigit s c hc))
    · exact .inr (isoFractionText_all c hc)
  generalize (padded 2 h).toList ++ ':' :: (padded 2 m).toList ++ ':' :: (padded 2 s).toList ++
    isoFractionText us = cs at hclock hplain
  have hstop : ¬ (sign ≠ '+' ∧ sign ≠ '-' ∧ sign ≠ 'Z') := by
    rintro ⟨hplus, hminus, -⟩
    exact hsign.elim hplus hminus
  have htake : (cs ++ sign :: zone).takeWhile (fun c => c ≠ '+' ∧ c ≠ '-' ∧ c ≠ 'Z') = cs := by
    rw [List.takeWhile_append_of_pos, List.takeWhile_cons_of_neg (by simpa using hstop)]
    · exact List.append_nil cs
    · intro c hc
      rw [decide_eq_true_eq]
      obtain rfl | rfl | hc := hplain c hc
      · decide
      · decide
      · refine ⟨?_, ?_, ?_⟩ <;> rintro rfl <;> cases hc
  have hutc : sign ≠ 'Z' := by
    rintro rfl
    exact hsign.elim (by decide) (by decide)
  unfold isoTime
  dsimp only
  rw [htake, hclock, Option.bind_eq_bind, Option.bind_some, if_pos ⟨hh, hm, hs⟩, List.drop_left]
  split
  · next hnil => cases hnil
  · next hcons => exact absurd (List.cons.inj hcons).1 hutc
  · next sign' zone' hcons =>
    cases hcons
    rw [if_neg hutc, hzone, Option.bind_some, if_pos (by simp [hjunk, hday])]
    rfl

/-- The text of an instant, character by character. -/
theorem toList_isoformat {t : Instant} {y m d : ℕ}
    (h : ymd (t / dayMicros + epochOrdinal).toNat = (y, m, d)) :
    (isoformat t).toList = (padded 4 y).toList ++ '-' :: (padded 2 m).toList ++
      '-' :: (padded 2 d).toList ++ 'T' :: ((padded 2 ((t % dayMicros).toNat / 1000000 / 3600)).toList ++
        ':' :: (padded 2 ((t % dayMicros).toNat / 1000000 / 60 % 60)).toList ++
        ':' :: (padded 2 ((t % dayMicros).toNat / 1000000 % 60)).toList ++
        isoFractionText ((t % dayMicros).toNat % 1000000) ++ "+00:00".toList) := by
  have hfraction : (if (t % dayMicros).toNat % 1000000 = 0 then "" else
      "." ++ padded 6 ((t % dayMicros).toNat % 1000000)).toList =
      isoFractionText ((t % dayMicros).toNat % 1000000) := by
    unfold isoFractionText
    split
    · rfl
    · rw [String.toList_append]
      rfl
  have hdash : "-".toList = ['-'] := rfl
  have hcolon : ":".toList = [':'] := rfl
  have hsep : "T".toList = ['T'] := rfl
  unfold isoformat
  rw [h]
  simp only [String.toList_append, hfraction, hdash, hcolon, hsep, List.append_assoc,
    List.cons_append, List.nil_append]

/-- In front of the offset there are only digits, the letter `T` and the marks `-`, `:` and `.`. -/
theorem isoformat_eq_append (t : Instant) : ∃ front, (isoformat t).toList = front ++ "+00:00".toList ∧
    ∀ c ∈ front, c.isDigit = true ∨ c = '-' ∨ c = 'T' ∨ c = ':' ∨ c = '.' := by
  obtain ⟨y, m, d, hymd⟩ : ∃ y m d, ymd (t / dayMicros + epochOrdinal).toNat = (y, m, d) :=
    ⟨_, _, _, rfl⟩
  have hdigit : ∀ width n : ℕ, ∀ c ∈ (padded width n).toList,
      c.isDigit = true ∨ c = '-' ∨ c = 'T' ∨ c = ':' ∨ c = '.' :=
    fun width n c hc => .inl (List.all_eq_true.mp (isDigit_padded width n) c hc)
  refine ⟨(padded 4 y).toList ++ '-' :: (padded 2 m).toList ++ '-' :: (padded 2 d).toList ++
    'T' :: ((padded 2 ((t % dayMicros).toNat / 1000000 / 3600)).toList ++
      ':' :: (padded 2 ((t % dayMicros).toNat / 1000000 / 60 % 60)).toList ++
      ':' :: (padded 2 ((t % dayMicros).toNat / 1000000 % 60)).toList ++
      isoFractionText ((t % dayMicros).toNat % 1000000)), ?_, ?_⟩
  · rw [toList_isoformat hymd]
    simp only [List.append_assoc, List.cons_append]
  · have hfraction : ∀ c ∈ isoFractionText ((t % dayMicros).toNat % 1000000),
        c.isDigit = true ∨ c = '-' ∨ c = 'T' ∨ c = ':' ∨ c = '.' :=
      fun c h => (isoFractionText_all c h).elim (fun h => .inr (.inr (.inr (.inr h)))) .inl
    simp only [List.forall_mem_append, List.forall_mem_cons]
    exact ⟨⟨⟨hdigit 4 y, by decide, hdigit 2 m⟩, by decide, hdigit 2 d⟩, by decide,
      ⟨⟨hdigit 2 _, by decide, hdigit 2 _⟩, by decide, hdigit 2 _⟩, hfraction⟩

/-- The day and the time of day of an instant. -/
theorem day_of_inYears {t : ℤ} (h : inYears t = true) :
    1 ≤ (t / dayMicros + epochOrdinal).toNat ∧
      (t / dayMicros + epochOrdinal).toNat ≤ maxOrdinal ∧ (t % dayMicros).toNat < 86400000000 ∧
      (((t / dayMicros + epochOrdinal).toNat : ℤ) - epochOrdinal) * dayMicros +
        (t % dayMicros).toNat = t := by
  have hfirst : (1 - (epochOrdinal : ℤ)) * dayMicros = -62135596800000000 := rfl
  have hend : ((maxOrdinal : ℤ) + 1 - epochOrdinal) * dayMicros = 253402300800000000 := rfl
  have hday : dayMicros = 86400000000 := rfl
  have hmax : maxOrdinal = 3652059 := rfl
  have hepoch : epochOrdinal = 719163 := rfl
  rw [inYears, decide_eq_true_eq, hfirst, hend] at h
  have hlt : t < 253402300800000000 := h.2
  rw [hday, hmax, hepoch]
  omega

/-- A text is at most 32 characters long. -/
theorem length_isoformat (h : inYears t = true) : (isoformat t).toList.length ≤ 32 := by
  obtain ⟨hpos, hle, hlt, -⟩ := day_of_inYears h
  obtain ⟨y, m, d, hymd⟩ : ∃ y m d, ymd (t / dayMicros + epochOrdinal).toNat = (y, m, d) :=
    ⟨_, _, _, rfl⟩
  obtain ⟨hy, hm, hd, -⟩ := ymd_ordinal hpos hle hymd
  have hlast : d < 100 := by
    have hmonth : daysInMonth y m ≤ 31 := by
      unfold daysInMonth
      split_ifs <;> omega
    omega
  have hfraction : (isoFractionText ((t % dayMicros).toNat % 1000000)).length ≤ 7 := by
    unfold isoFractionText
    split
    · exact Nat.zero_le 7
    · have hsix : (t % dayMicros).toNat % 1000000 < 10 ^ 6 := Nat.mod_lt _ (by decide)
      have hlength := @length_padded 6 _ (by decide) hsix
      rw [List.length_cons]
      omega
  have htwo : ∀ {n : ℕ}, n < 100 → (padded 2 n).toList.length = 2 :=
    fun hn => length_padded (by decide) hn
  rw [toList_isoformat hymd]
  simp only [List.length_append, List.length_cons, length_padded (by decide : 0 < 4) hy.2,
    htwo (by omega : m < 100), htwo hlast,
    htwo (by omega : (t % dayMicros).toNat / 1000000 / 3600 < 100),
    htwo (by omega : (t % dayMicros).toNat / 1000000 / 60 % 60 < 100),
    htwo (by omega : (t % dayMicros).toNat / 1000000 % 60 < 100)]
  have hoffset : "+00:00".toList.length = 6 := rfl
  omega

/-- The text of a local time, with another offset in the place of the one of `isoformat`. -/
def withZone (t : Instant) (zone : List Char) : String :=
  String.ofList ((isoformat t).toList.take ((isoformat t).toList.length - 6) ++ zone)

theorem toList_withZone {front : List Char} (h : (isoformat t).toList = front ++ "+00:00".toList) :
    (withZone t zone).toList = front ++ zone := by
  have hsix : "+00:00".toList.length = 6 := rfl
  rw [withZone, String.toList_ofList, h, List.length_append, hsix, Nat.add_sub_cancel,
    List.take_left]

theorem withZone_utc (t : Instant) : withZone t "+00:00".toList = isoformat t := by
  obtain ⟨front, hfront, -⟩ := isoformat_eq_append t
  rw [← String.toList_inj, toList_withZone hfront, hfront]

/-- A local time and its offset are read back. -/
theorem fromIsoformat_withZone (h : inYears t = true) {sign : Char} {z : IsoClock}
    (hsign : sign = '+' ∨ sign = '-') (hzone : isoClock zone = some z) (hjunk : z.junk = false)
    (hday : z.micros < dayMicros) :
    fromIsoformat (withZone t (sign :: zone)) =
      some (t, some (if sign = '-' then -z.micros else z.micros)) := by
  obtain ⟨hpos, hle, hlt, ht⟩ := day_of_inYears h
  obtain ⟨ord, hord⟩ : ∃ ord : ℕ, ord = (t / dayMicros + epochOrdinal).toNat := ⟨_, rfl⟩
  obtain ⟨us, hus⟩ : ∃ us : ℕ, us = (t % dayMicros).toNat := ⟨_, rfl⟩
  rw [← hord] at hpos hle ht
  rw [← hus] at hlt ht
  obtain ⟨y, m, d, hymd⟩ : ∃ y m d, ymd ord = (y, m, d) := ⟨_, _, _, rfl⟩
  obtain ⟨hy, hm, hd, hback⟩ := ymd_ordinal hpos hle hymd
  have hdate := isoDate_padded hy hm hd
  have htime := @isoTime_zone (us / 1000000 / 3600) (us / 1000000 / 60 % 60)
    (us / 1000000 % 60) (us % 1000000) (by omega) (Nat.mod_lt _ (by decide))
    (Nat.mod_lt _ (by decide)) (Nat.mod_lt _ (by decide)) _ _ _ hsign hzone hjunk hday
  have hsum : ((us / 1000000 / 3600 * 60 + us / 1000000 / 60 % 60) * 60 + us / 1000000 % 60) *
      1000000 + us % 1000000 = us := by omega
  rw [hsum] at htime
  have htext : (withZone t (sign :: zone)).toList = (padded 4 y).toList ++
      '-' :: (padded 2 m).toList ++ '-' :: (padded 2 d).toList ++
      'T' :: ((padded 2 (us / 1000000 / 3600)).toList ++
        ':' :: (padded 2 (us / 1000000 / 60 % 60)).toList ++
        ':' :: (padded 2 (us / 1000000 % 60)).toList ++ isoFractionText (us % 1000000) ++
        sign :: zone) := by
    have hfront := @toList_isoformat t y m d (hord ▸ hymd)
    rw [← hus, ← List.cons_append, ← List.append_assoc] at hfront
    rw [toList_withZone hfront]
    simp only [List.append_assoc, List.cons_append]
  obtain ⟨y₁, y₂, y₃, y₄, hyears, -⟩ := padded_four hy.2
  obtain ⟨m₁, m₂, hmonths, hm₁, -, -⟩ := padded_two (by omega : m < 100)
  have hlast : d < 100 := by
    have hmonth : daysInMonth y m ≤ 31 := by
      unfold daysInMonth
      split_ifs <;> omega
    omega
  obtain ⟨d₁, d₂, hdays, -, -, -⟩ := padded_two hlast
  have hweek : m₁ ≠ 'W' := by
    rintro rfl
    cases hm₁
  generalize hclock : (padded 2 (us / 1000000 / 3600)).toList ++
    ':' :: (padded 2 (us / 1000000 / 60 % 60)).toList ++
    ':' :: (padded 2 (us / 1000000 % 60)).toList ++
    isoFractionText (us % 1000000) ++ sign :: zone = clock at htime htext
  have hnonempty : clock ≠ [] := by
    rintro rfl
    cases htime
  rw [hyears, hmonths, hdays] at htext hdate
  simp only [List.cons_append, List.nil_append] at htext hdate
  have hlength : ¬ (withZone t (sign :: zone)).toList.length < 7 := by
    rw [htext]
    simp only [List.length_cons]
    omega
  have hsep : isoSeparator (withZone t (sign :: zone)).toList = some 10 := by
    have hseven : ¬ (withZone t (sign :: zone)).toList.length = 7 := by
      rw [htext]
      simp only [List.length_cons]
      omega
    unfold isoSeparator
    rw [if_neg hseven, htext]
    simp only [List.getElem?_cons_succ, List.getElem?_cons_zero, Option.some.injEq, if_true, hweek,
      if_false]
  have htake : (withZone t (sign :: zone)).toList.take 10 =
      y₁ :: y₂ :: y₃ :: y₄ :: '-' :: m₁ :: m₂ :: '-' :: [d₁, d₂] := by
    rw [htext]
    rfl
  have hdrop : (withZone t (sign :: zone)).toList.drop (10 + 1) = clock := by
    rw [htext]
    rfl
  unfold fromIsoformat
  simp only [if_neg hlength, hsep, Option.bind_eq_bind, Option.bind_some, htake, hdate, hdrop,
    if_neg hnonempty, htime, hback]
  have hrange : (1 : ℤ) ≤ ord ∧ (ord : ℤ) ≤ maxOrdinal := by omega
  rw [if_pos hrange, ht]
  rfl

/-- What `isoformat` writes is read back, with the offset zero. -/
theorem fromIsoformat_isoformat (h : inYears t = true) :
    fromIsoformat (isoformat t) = some (t, some 0) := by
  have hzone : isoClock ['0', '0', ':', '0', '0'] = some ⟨0, 0, 0, 0, false⟩ := rfl
  rw [← withZone_utc]
  exact fromIsoformat_withZone h (.inl rfl) hzone rfl (by decide)

/-- What is read is an instant of the years 1 to 9999. -/
theorem inYears_of_parseTime {text : String} (h : parseTime text = .ok t) : inYears t = true := by
  unfold parseTime at h
  split at h
  · next micros offset _ =>
    dsimp only at h
    split at h
    · next hrange =>
      cases h
      rw [inYears, decide_eq_true_eq]
      exact hrange
    · cases h
  · cases h

/-- An instant of the years 1 to 9999 is read back from its text. -/
theorem parseTime_isoformat (h : inYears t = true) : parseTime (isoformat t) = .ok t := by
  have hrange := h
  rw [inYears, decide_eq_true_eq] at hrange
  unfold parseTime
  rw [fromIsoformat_isoformat h]
  dsimp only
  rw [Int.sub_zero, if_pos hrange]

end HomeAddons.Common
