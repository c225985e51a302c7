import HomeAddons.Common.DumpSize
import HomeAddons.Common.IsoOrder

/-!
# `datetime.isoformat` of a local time

A local time with an offset from UTC in whole minutes: its text is the one of `isoformat` with the
offset at the end.

* `fromIsoformat_isoformatAt`: both are read back.
* `length_isoformatAt`, `isoformatAt_plain`: the text is short, and no character of it is escaped in
  a dump.
* `isoformatAt_le_iff`: as texts, a local time and a time in UTC are compared by their clocks.
-/

namespace HomeAddons.Common

/-- The hours and minutes of an offset. -/
def offsetDigits (minutes : ℕ) : List Char :=
  (padded 2 (minutes / 60)).toList ++ ':' :: (padded 2 (minutes % 60)).toList

/-- `±HH:MM`. -/
def offsetText (offset : ℤ) : List Char :=
  (if offset < 0 then '-' else '+') :: offsetDigits offset.natAbs

/-- `datetime.isoformat()` of a local time; the offset is in minutes. -/
def isoformatAt (offset : ℤ) (wall : ℤ) : String := withZone wall (offsetText offset)

example : isoformatAt 480 1786320000250000 = "2026-08-10T00:00:00.250000+08:00" := by decide +kernel

theorem isoClock_offsetDigits {minutes : ℕ} (h : minutes < 1440) :
    isoClock (offsetDigits minutes) = some ⟨minutes / 60, minutes % 60, 0, 0, false⟩ := by
  obtain ⟨h₁, h₂, htext, -, -, hhour⟩ := padded_two (by omega : minutes / 60 < 100)
  obtain ⟨m₁, m₂, htext', -, -, hminute⟩ := padded_two (by omega : minutes % 60 < 100)
  rw [offsetDigits, htext, htext']
  simp only [isoClock, List.cons_append, List.nil_append, List.take_succ_cons, List.take_zero,
    hhour, hminute, Option.bind_eq_bind, Option.bind_some, List.getElem?_cons_succ,
    List.getElem?_cons_zero, List.drop_succ_cons, List.drop_zero, isoNext, decide_true, and_self,
    if_true, Option.pure_def]

variable {offset wall t t' : ℤ}

/-- A local time and its offset are read back. -/
theorem fromIsoformat_isoformatAt (hwall : inYears wall = true) (hoffset : offset.natAbs < 1440) :
    fromIsoformat (isoformatAt offset wall) = some (wall, some (offset * 60000000)) := by
  have hclock := isoClock_offsetDigits hoffset
  have hmicros : IsoClock.micros ⟨offset.natAbs / 60, offset.natAbs % 60, 0, 0, false⟩ =
      offset.natAbs * 60000000 := by
    simp only [IsoClock.micros]
    omega
  have hday : IsoClock.micros ⟨offset.natAbs / 60, offset.natAbs % 60, 0, 0, false⟩ <
      dayMicros := by
    rw [hmicros, dayMicros]
    omega
  have hsign : (if offset < 0 then '-' else '+') = '+' ∨ (if offset < 0 then '-' else '+') = '-' := by
    split_ifs
    · exact .inr rfl
    · exact .inl rfl
  rw [isoformatAt, offsetText, fromIsoformat_withZone hwall hsign hclock rfl hday, hmicros]
  by_cases hneg : offset < 0
  · have hvalue : -((offset.natAbs : ℤ) * 60000000) = offset * 60000000 := by omega
    rw [if_pos hneg, if_pos rfl, hvalue]
  · have hvalue : (offset.natAbs : ℤ) * 60000000 = offset * 60000000 := by omega
    rw [if_neg hneg, if_neg (by decide), hvalue]

theorem length_offsetText (h : offset.natAbs < 1440) : (offsetText offset).length = 6 := by
  rw [offsetText, offsetDigits, List.length_cons, List.length_append, List.length_cons,
    length_padded (by decide) (by omega : offset.natAbs / 60 < 10 ^ 2),
    length_padded (by decide) (by omega : offset.natAbs % 60 < 10 ^ 2)]

/-- The text has at most 32 characters. -/
theorem length_isoformatAt (hwall : inYears wall = true) (hoffset : offset.natAbs < 1440) :
    (isoformatAt offset wall).length ≤ 32 := by
  obtain ⟨front, hfront, -⟩ := isoformat_eq_append wall
  have hlength := length_isoformat hwall
  have hsix : "+00:00".toList.length = 6 := rfl
  rw [hfront, List.length_append, hsix] at hlength
  rw [← String.length_toList, isoformatAt, toList_withZone hfront, List.length_append,
    length_offsetText hoffset]
  exact hlength

/-- No character of the text is escaped. -/
theorem isoformatAt_plain (offset wall : ℤ) : (isoformatAt offset wall).toList.all isPlain = true := by
  obtain ⟨front, hfront, hchars⟩ := isoformat_eq_append wall
  have hdigit : ∀ c : Char, c.isDigit = true → isPlain c = true := by
    intro c hc
    have hbounds := (Bool.and_eq_true_iff.mp hc)
    have hlow := UInt32.le_iff_toNat_le.mp (of_decide_eq_true hbounds.1)
    have hhigh := UInt32.le_iff_toNat_le.mp (of_decide_eq_true hbounds.2)
    refine decide_eq_true ?_
    have h48 : ('0' : Char).val.toNat = 48 := rfl
    have h57 : ('9' : Char).val.toNat = 57 := rfl
    have hval : c.val.toNat = c.toNat := rfl
    omega
  have htwo : ∀ n, (padded 2 n).toList.all isPlain = true := fun n =>
    List.all_eq_true.mpr fun c hc => hdigit c (List.all_eq_true.mp (isDigit_padded 2 n) c hc)
  have hsign : isPlain (if offset < 0 then '-' else '+') = true := by split_ifs <;> decide
  have hcolon : isPlain ':' = true := by decide
  rw [isoformatAt, toList_withZone hfront, List.all_append, Bool.and_eq_true_iff]
  constructor
  · refine List.all_eq_true.mpr fun c hc => ?_
    obtain hc | rfl | rfl | rfl | rfl := hchars c hc
    · exact hdigit c hc
    all_goals decide
  · rw [offsetText, offsetDigits, List.all_cons, List.all_append, List.all_cons, htwo, htwo,
      hsign, hcolon]
    rfl

/-! ## Order -/

theorem offsetText_lt (hoffset : offset.natAbs < 1440) (hne : offset ≠ 0) :
    "+00:00".toList < offsetText offset := by
  have hutc : "+00:00".toList = '+' :: ((padded 2 0).toList ++ ':' :: (padded 2 0).toList) := by
    decide +kernel
  rw [hutc, offsetText, offsetDigits]
  by_cases hneg : offset < 0
  · rw [if_pos hneg]
    exact List.cons_lt_cons_iff.mpr (.inl (by decide))
  · rw [if_neg hneg]
    refine List.cons_lt_cons_self.mpr ?_
    obtain hhour | hminute : 0 < offset.natAbs / 60 ∨ offset.natAbs / 60 = 0 := by omega
    · refine lt_append_of_lt ?_ (padded_lt (by decide) hhour (by omega)) _ _
      rw [length_padded (by decide) (by decide), length_padded (by decide) (by omega)]
    · rw [hminute]
      refine List.append_left_lt (List.cons_lt_cons_self.mpr ?_)
      exact padded_lt (by decide) (by omega) (by omega)

/-- As texts, a local time with its offset and a time in UTC are compared as if both were in one
    zone. -/
theorem isoformatAt_le_iff (hoffset : offset.natAbs < 1440) (hwall : inYears wall = true)
    (ht : inYears t = true) :
    isoformatAt offset wall ≤ isoformat t ↔ wall < t ∨ wall = t ∧ offset = 0 := by
  have htext : (isoformatAt offset wall).toList =
      secondText wall ++ (isoFractionText (wall % 1000000).toNat ++ offsetText offset) := by
    rw [isoformatAt, toList_withZone (toList_isoformat_second wall), List.append_assoc]
  have hutc : (isoformat t).toList =
      secondText t ++ (isoFractionText (t % 1000000).toNat ++ "+00:00".toList) := by
    rw [toList_isoformat_second, List.append_assoc]
  have hsign : ∀ n : ℕ, n = 0 → (if offset < 0 then '-' else '+') < '.' := by
    intro _ _
    split_ifs <;> decide
  rw [← not_lt, String.lt_iff_toList_lt, htext, hutc]
  obtain hlt | heq | hgt := lt_trichotomy (wall / 1000000) (t / 1000000)
  · have hless := secondText_lt hwall ht hlt
      (isoFractionText (wall % 1000000).toNat ++ offsetText offset)
      (isoFractionText (t % 1000000).toNat ++ "+00:00".toList)
    exact iff_of_true (lt_asymm hless) (.inl (by omega))
  · rw [secondText_congr heq]
    obtain hlt | hsame | hgt := lt_trichotomy wall t
    · refine iff_of_true (lt_asymm (List.append_left_lt ?_)) (.inl hlt)
      exact isoFractionText_lt (by omega) (by omega) (hsign _)
    · rw [hsame]
      by_cases hzero : offset = 0
      · have htext : offsetText 0 = "+00:00".toList := by decide +kernel
        rw [hzero, htext]
        exact iff_of_true (lt_irrefl _) (.inr ⟨rfl, rfl⟩)
      · refine iff_of_false (fun h => h ?_) fun h => ?_
        · exact List.append_left_lt (List.append_left_lt (offsetText_lt hoffset hzero))
        · obtain hlt | ⟨-, heq⟩ := h
          · exact lt_irrefl _ hlt
          · exact hzero heq
    · refine iff_of_false (fun h => h (List.append_left_lt ?_)) (by omega)
      exact isoFractionText_lt (by omega) (by omega) fun _ => by decide
  · refine iff_of_false (fun h => h ?_) (by omega)
    exact secondText_lt ht hwall hgt _ _

end HomeAddons.Common
