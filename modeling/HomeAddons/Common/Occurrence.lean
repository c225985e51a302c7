import HomeAddons.Common.IsoOrder

/-!
# The next day of a month

The calendar of `IsoTime` by years: a day of a year comes before every day of a later year, so the
next day with a given month and day is the one of this year, or of the next year if this year's is
over.

* `isLeast_this_year`, `isLeast_next_year`: the next occurrence of a month and a day.
-/

namespace HomeAddons.Common

variable {y m d : ℕ}

theorem calendarDate_eq_some {n : ℤ} : calendarDate y m d = some n ↔
    (1 ≤ y ∧ 1 ≤ m ∧ m ≤ 12 ∧ 1 ≤ d ∧ d ≤ daysInMonth y m) ∧ n = ordinal y m d := by
  unfold calendarDate
  split_ifs with h
  · rw [Option.some.injEq]
    exact ⟨fun heq => ⟨h, heq.symm⟩, fun heq => heq.2.symm⟩
  · exact ⟨fun heq => (by cases heq), fun heq => absurd heq.1 h⟩

/-- A day lies in its year. -/
theorem ordinal_bounds (hy : 1 ≤ y) (hm : 1 ≤ m ∧ m ≤ 12) (hd : 1 ≤ d ∧ d ≤ daysInMonth y m) :
    daysBeforeYear y < ordinal y m d ∧ ordinal y m d ≤ daysBeforeYear (y + 1) := by
  have hmonth := (daysBeforeMonth_le y hm.1 hm.2).2 hm.2
  rw [ordinal, daysBeforeYear_succ hy]
  omega

/-- A day of a year comes before every day of a later year. -/
theorem ordinal_lt_of_year_lt {y' m' d' : ℕ} (hy : 1 ≤ y) (hlt : y < y') (hm : 1 ≤ m ∧ m ≤ 12)
    (hd : 1 ≤ d ∧ d ≤ daysInMonth y m) (hm' : 1 ≤ m' ∧ m' ≤ 12)
    (hd' : 1 ≤ d' ∧ d' ≤ daysInMonth y' m') : ordinal y m d < ordinal y' m' d' := by
  have hyears := daysBeforeYear_le (Nat.succ_pos y) (Nat.succ_le_of_lt hlt)
  have hbefore := (ordinal_bounds hy hm hd).2
  have hafter := (ordinal_bounds (hy.trans hlt.le) hm' hd').1
  exact hbefore.trans_lt (lt_of_le_of_lt hyears hafter)

/-- The days with a month and a day, from a day on. -/
def Occurrences (today : ℤ) (m d : ℕ) : Set ℤ :=
  {n | today ≤ n ∧ ∃ y, calendarDate y m d = some (n + epochOrdinal)}

section

variable {today : ℤ} {y month day m d : ℕ} {n n' : ℤ}

/-- This year's day is the next one while it is not over. -/
theorem isLeast_this_year (htoday : calendarDate y month day = some (today + epochOrdinal))
    (h : calendarDate y m d = some (n + epochOrdinal)) (hle : today ≤ n) :
    IsLeast (Occurrences today m d) n := by
  refine ⟨⟨hle, y, h⟩, ?_⟩
  rintro k ⟨hk, z, hz⟩
  obtain ⟨⟨hy, htm, htm', htd, htd'⟩, htoday⟩ := calendarDate_eq_some.mp htoday
  obtain ⟨⟨-, hm, hm', hd, hd'⟩, hn⟩ := calendarDate_eq_some.mp h
  obtain ⟨⟨hz, -, -, -, hzd⟩, hk'⟩ := calendarDate_eq_some.mp hz
  obtain hlt | rfl | hgt := lt_trichotomy z y
  · -- A day of an earlier year is over.
    have hover := ordinal_lt_of_year_lt hz hlt ⟨hm, hm'⟩ ⟨hd, hzd⟩ ⟨htm, htm'⟩ ⟨htd, htd'⟩
    omega
  · omega
  · have hlater := ordinal_lt_of_year_lt hy hgt ⟨hm, hm'⟩ ⟨hd, hd'⟩ ⟨hm, hm'⟩ ⟨hd, hzd⟩
    omega

/-- When this year's day is over, the next one is that of the next year. -/
theorem isLeast_next_year (htoday : calendarDate y month day = some (today + epochOrdinal))
    (h : calendarDate y m d = some (n + epochOrdinal)) (hlt : n < today)
    (h' : calendarDate (y + 1) m d = some (n' + epochOrdinal)) :
    IsLeast (Occurrences today m d) n' := by
  obtain ⟨⟨hy, htm, htm', htd, htd'⟩, htoday⟩ := calendarDate_eq_some.mp htoday
  obtain ⟨⟨-, hm, hm', hd, hd'⟩, hn⟩ := calendarDate_eq_some.mp h
  obtain ⟨⟨-, -, -, -, hd''⟩, hn'⟩ := calendarDate_eq_some.mp h'
  have hnext := ordinal_lt_of_year_lt hy (Nat.lt_add_one y) ⟨htm, htm'⟩ ⟨htd, htd'⟩ ⟨hm, hm'⟩
    ⟨hd, hd''⟩
  refine ⟨⟨by omega, y + 1, h'⟩, ?_⟩
  rintro k ⟨hk, z, hz⟩
  obtain ⟨⟨hz, -, -, -, hzd⟩, hk'⟩ := calendarDate_eq_some.mp hz
  obtain hle | hgt := Nat.lt_or_ge y z
  · obtain rfl | hgt := Nat.eq_or_lt_of_le (Nat.succ_le_of_lt hle)
    · have hsame : ordinal y.succ m d = ordinal (y + 1) m d := rfl
      omega
    · have hlater := ordinal_lt_of_year_lt (Nat.succ_pos y) hgt ⟨hm, hm'⟩ ⟨hd, hd''⟩ ⟨hm, hm'⟩
        ⟨hd, hzd⟩
      have hsame : ordinal (y + 1) m d = ordinal y.succ m d := rfl
      omega
  · -- A day up to this year's is over.
    obtain rfl | hlt' := Nat.eq_or_lt_of_le hgt
    · omega
    · have hover := ordinal_lt_of_year_lt hz hlt' ⟨hm, hm'⟩ ⟨hd, hzd⟩ ⟨hm, hm'⟩ ⟨hd, hd'⟩
      omega

end

end HomeAddons.Common
