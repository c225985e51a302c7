import Mathlib

/-!
# Texts and rounded numbers

* `strip`, `replaceAll`: `str.strip` and `str.replace`.
* `decimalDigit?`: the digits of `\d`.
* `binary64`, `roundHalfEven`: the nearest `float` of a rational number, and `round` of it.
* `binary64_mono`: rounding keeps the order.
-/

namespace HomeAddons.Common

/-- The characters `str.strip` removes. -/
def isPySpace (c : Char) : Bool :=
  let n := c.toNat
  (9 ≤ n ∧ n ≤ 13) ∨ (28 ≤ n ∧ n ≤ 32) ∨ n = 0x85 ∨ n = 0xa0 ∨ n = 0x1680 ∨
    (0x2000 ≤ n ∧ n ≤ 0x200a) ∨ n = 0x2028 ∨ n = 0x2029 ∨ n = 0x202f ∨ n = 0x205f ∨ n = 0x3000

/-- `value.strip()`. -/
def strip (s : String) : String :=
  String.ofList ((s.toList.dropWhile isPySpace).reverse.dropWhile isPySpace).reverse

theorem strip_strip (s : String) : strip (strip s) = strip s := by
  have hfront : ∀ l : List Char,
      ((l.dropWhile isPySpace).rdropWhile isPySpace).dropWhile isPySpace =
        (l.dropWhile isPySpace).rdropWhile isPySpace := by
    intro l
    rw [List.dropWhile_eq_self_iff]
    intro hlen
    have hhead := List.rdropWhile_prefix isPySpace (l := l.dropWhile isPySpace)
    have hne : l.dropWhile isPySpace ≠ [] := by
      intro hnil
      rw [hnil] at hlen
      exact absurd hlen (by simp)
    rw [hhead.getElem hlen, ← List.head_eq_getElem hne]
    exact Bool.eq_false_iff.mp (List.head_dropWhile_not isPySpace hne)
  show String.ofList (((strip s).toList.dropWhile isPySpace).rdropWhile isPySpace) = strip s
  have hs : (strip s).toList = (s.toList.dropWhile isPySpace).rdropWhile isPySpace := by
    rw [strip, String.toList_ofList]
    rfl
  rw [hs, hfront, List.rdropWhile_idempotent, ← hs, String.ofList_toList]

/-- `text.replace(old, new)` after `skip` more characters of an occurrence that was replaced. -/
def replaceFrom (old new : List Char) : ℕ → List Char → List Char
  | _, [] => []
  | skip + 1, _ :: rest => replaceFrom old new skip rest
  | 0, c :: rest =>
    if old.isPrefixOf (c :: rest) then new ++ replaceFrom old new (old.length - 1) rest
    else c :: replaceFrom old new 0 rest

/-- `text.replace(old, new)` for an `old` that is not empty. -/
def replaceAll (text old new : String) : String :=
  String.ofList (replaceFrom old.toList new.toList 0 text.toList)

/-- Nothing is replaced in front of the first character that an occurrence begins with. -/
theorem replaceFrom_append {o : Char} {old new front : List Char} (h : o ∉ front)
    (rest : List Char) :
    replaceFrom (o :: old) new 0 (front ++ rest) = front ++ replaceFrom (o :: old) new 0 rest := by
  induction front with
  | nil => rfl
  | cons c front ih =>
    rw [List.mem_cons, not_or] at h
    have hprefix : (o :: old).isPrefixOf (c :: (front ++ rest)) = false := by
      rw [List.isPrefixOf_cons_cons, beq_false_of_ne h.1, Bool.false_and]
    rw [List.cons_append, replaceFrom, hprefix, if_neg (by decide), ih h.2, List.cons_append]

/-- The first code points of the runs of ten that `\d` matches. -/
def decimalZeros : List ℕ :=
  [0x30, 0x660, 0x6f0, 0x7c0, 0x966, 0x9e6, 0xa66, 0xae6, 0xb66, 0xbe6, 0xc66, 0xce6, 0xd66, 0xde6,
    0xe50, 0xed0, 0xf20, 0x1040, 0x1090, 0x17e0, 0x1810, 0x1946, 0x19d0, 0x1a80, 0x1a90, 0x1b50,
    0x1bb0, 0x1c40, 0x1c50, 0xa620, 0xa8d0, 0xa900, 0xa9d0, 0xa9f0, 0xaa50, 0xabf0, 0xff10, 0x104a0,
    0x10d30, 0x11066, 0x110f0, 0x11136, 0x111d0, 0x112f0, 0x11450, 0x114d0, 0x11650, 0x116c0,
    0x11730, 0x118e0, 0x11950, 0x11c50, 0x11d50, 0x11da0, 0x16a60, 0x16ac0, 0x16b50, 0x1d7ce,
    0x1d7d8, 0x1d7e2, 0x1d7ec, 0x1d7f6, 0x1e140, 0x1e2f0, 0x1e950, 0x1fbf0]

/-- The value of a character that `\d` matches. -/
def decimalDigit? (c : Char) : Option ℕ :=
  (decimalZeros.find? fun z => z ≤ c.toNat ∧ c.toNat < z + 10).map fun z => c.toNat - z

/-- The nearest integer, and the even one of two that are equally near. -/
def roundHalfEven (q : ℚ) : ℤ :=
  let r := q - ⌊q⌋
  if r < 1 / 2 then ⌊q⌋ else if 1 / 2 < r then ⌊q⌋ + 1 else if ⌊q⌋ % 2 = 0 then ⌊q⌋ else ⌊q⌋ + 1

/-- The `float` nearest to a number that is neither too large nor too small for 53 bits. -/
def binary64 (q : ℚ) : ℚ :=
  if q = 0 then 0
  else
    let ulp : ℚ := 2 ^ (Int.log 2 |q| - 52)
    roundHalfEven (q / ulp) * ulp

/-- The sum of `float`s from the left, rounded after each. -/
def floatSum (l : List ℚ) : ℚ := l.foldl (fun s x => binary64 (s + x)) 0

variable {q r : ℚ}

theorem roundHalfEven_pos (h : 1 ≤ q) : 0 < roundHalfEven q := by
  have hfloor : 1 ≤ ⌊q⌋ := Int.le_floor.mpr (by exact_mod_cast h)
  unfold roundHalfEven
  dsimp only
  split_ifs <;> omega

/-- The `float` nearest to a positive number is positive. -/
theorem binary64_pos (h : 0 < q) : 0 < binary64 q := by
  have hulp : (0 : ℚ) < 2 ^ (Int.log 2 |q| - 52) := zpow_pos (by norm_num) _
  have hlog : (2 : ℚ) ^ Int.log 2 |q| ≤ |q| := by
    exact_mod_cast Int.zpow_log_le_self (by decide) (abs_pos.mpr h.ne')
  have hunit : (1 : ℚ) ≤ q / 2 ^ (Int.log 2 |q| - 52) := by
    rw [one_le_div hulp]
    calc (2 : ℚ) ^ (Int.log 2 |q| - 52) ≤ 2 ^ Int.log 2 |q| :=
          zpow_le_zpow_right₀ (by norm_num) (by omega)
      _ ≤ |q| := hlog
      _ = q := abs_of_pos h
  rw [binary64, if_neg h.ne']
  exact mul_pos (by exact_mod_cast roundHalfEven_pos hunit) hulp

theorem roundHalfEven_mono (h : q ≤ r) : roundHalfEven q ≤ roundHalfEven r := by
  have hfloor := Int.floor_le_floor h
  unfold roundHalfEven
  dsimp only
  obtain hlt | heq := hfloor.lt_or_eq
  · split_ifs <;> omega
  · rw [heq]
    split_ifs <;> first | omega | linarith

theorem roundHalfEven_intCast (n : ℤ) : roundHalfEven n = n := by
  unfold roundHalfEven
  rw [Int.floor_intCast, sub_self]
  exact if_pos (by norm_num)

/-- The bounds of a binade are `float`s. -/
theorem binary64_mem_binade (h : 0 < q) :
    (2 : ℚ) ^ Int.log 2 q ≤ binary64 q ∧ binary64 q ≤ 2 ^ (Int.log 2 q + 1) := by
  have hulp : (0 : ℚ) < 2 ^ (Int.log 2 q - 52) := zpow_pos (by norm_num) _
  have hlow : (2 : ℚ) ^ Int.log 2 q ≤ q := by exact_mod_cast Int.zpow_log_le_self (by decide) h
  have hhigh : q ≤ (2 : ℚ) ^ (Int.log 2 q + 1) := by
    exact_mod_cast (Int.lt_zpow_succ_log_self (by decide) q).le
  have hscale : ∀ k : ℕ, (2 : ℚ) ^ (Int.log 2 q - 52 + k) = 2 ^ k * 2 ^ (Int.log 2 q - 52) := by
    intro k
    rw [zpow_add₀ (by norm_num), zpow_natCast, mul_comm]
  have hlog : Int.log 2 q = Int.log 2 q - 52 + (52 : ℕ) := by omega
  have hlog' : Int.log 2 q + 1 = Int.log 2 q - 52 + (53 : ℕ) := by omega
  rw [binary64, if_neg h.ne', abs_of_pos h]
  dsimp only
  have hcast : ∀ k : ℕ, (((2 : ℤ) ^ k : ℤ) : ℚ) = 2 ^ k := fun k => by
    rw [Int.cast_pow, Int.cast_ofNat]
  constructor
  · have hround : (2 : ℤ) ^ 52 ≤ roundHalfEven (q / 2 ^ (Int.log 2 q - 52)) := by
      rw [← roundHalfEven_intCast (2 ^ 52)]
      refine roundHalfEven_mono ?_
      rw [le_div_iff₀ hulp, hcast, ← hscale, ← hlog]
      exact hlow
    have hround : (((2 : ℤ) ^ 52 : ℤ) : ℚ) ≤ roundHalfEven (q / 2 ^ (Int.log 2 q - 52)) :=
      Int.cast_le.mpr hround
    rw [hcast] at hround
    calc (2 : ℚ) ^ Int.log 2 q = 2 ^ 52 * 2 ^ (Int.log 2 q - 52) := by rw [← hscale, ← hlog]
      _ ≤ _ := mul_le_mul_of_nonneg_right hround hulp.le
  · have hround : roundHalfEven (q / 2 ^ (Int.log 2 q - 52)) ≤ (2 : ℤ) ^ 53 := by
      rw [← roundHalfEven_intCast (2 ^ 53)]
      refine roundHalfEven_mono ?_
      rw [div_le_iff₀ hulp, hcast, ← hscale, ← hlog']
      exact hhigh
    have hround : (roundHalfEven (q / 2 ^ (Int.log 2 q - 52)) : ℚ) ≤ ((2 : ℤ) ^ 53 : ℤ) :=
      Int.cast_le.mpr hround
    rw [hcast] at hround
    calc _ ≤ 2 ^ 53 * (2 : ℚ) ^ (Int.log 2 q - 52) :=
          mul_le_mul_of_nonneg_right hround hulp.le
      _ = 2 ^ (Int.log 2 q + 1) := by rw [← hscale, ← hlog']

/-- Rounding keeps the order of positive numbers. -/
theorem binary64_mono (hq : 0 < q) (h : q ≤ r) : binary64 q ≤ binary64 r := by
  have hr := hq.trans_le h
  have hlog : Int.log 2 q ≤ Int.log 2 r := Int.log_mono_right hq h
  obtain hlt | heq := hlog.lt_or_eq
  · calc binary64 q ≤ 2 ^ (Int.log 2 q + 1) := (binary64_mem_binade hq).2
      _ ≤ 2 ^ Int.log 2 r := zpow_le_zpow_right₀ (by norm_num) (by omega)
      _ ≤ binary64 r := (binary64_mem_binade hr).1
  · have hulp : (0 : ℚ) < 2 ^ (Int.log 2 r - 52) := zpow_pos (by norm_num) _
    rw [binary64, binary64, if_neg hq.ne', if_neg hr.ne', abs_of_pos hq, abs_of_pos hr, heq]
    refine mul_le_mul_of_nonneg_right ?_ hulp.le
    exact_mod_cast roundHalfEven_mono (div_le_div_of_nonneg_right h hulp.le)

end HomeAddons.Common
