import Mathlib

/-!
# Instants and ISO 8601 texts

An aware `datetime` is the instant it names: a number of microseconds since 1970-01-01 UTC.

* `fromIsoformat` is `datetime.fromisoformat` of Python 3.11: calendar and week dates in the
  extended and the basic form, any one character as separator, times down to fractions of a
  second, and an optional UTC offset.
* `parseTime` adds what the callers add: a text without an offset is a `ValueError`, and the
  conversion to UTC raises `OverflowError` outside the years 1 to 9999.
* `isoformat` writes an instant the way `datetime.isoformat` writes it in UTC.
-/

namespace HomeAddons.Common

/-- Microseconds since 1970-01-01T00:00:00+00:00. -/
abbrev Instant := ℤ

/-- `timedelta(seconds=n)`. -/
def seconds (n : ℕ) : ℤ := 1000000 * n

/-- What a conversion of a text to an instant raises. -/
inductive TimeError where
  | value
  | overflow
  deriving DecidableEq

/-! ## The proleptic Gregorian calendar -/

def isLeap (y : ℕ) : Bool := y % 4 = 0 ∧ (y % 100 ≠ 0 ∨ y % 400 = 0)

def daysInMonth (y m : ℕ) : ℕ :=
  if m = 2 then (if isLeap y then 29 else 28)
  else if m = 4 ∨ m = 6 ∨ m = 9 ∨ m = 11 then 30 else 31

/-- Days before January 1 of year `y ≥ 1`, counted from 0001-01-01. -/
def daysBeforeYear (y : ℕ) : ℕ := (y - 1) * 365 + (y - 1) / 4 - (y - 1) / 100 + (y - 1) / 400

/-- Days before month `m` of year `y`. -/
def daysBeforeMonth (y m : ℕ) : ℕ := ((List.range (m - 1)).map fun i => daysInMonth y (i + 1)).sum

/-- `date(y, m, d).toordinal()`: 0001-01-01 is day 1. -/
def ordinal (y m d : ℕ) : ℕ := daysBeforeYear y + daysBeforeMonth y m + d

/-- The ordinal of 1970-01-01. -/
def epochOrdinal : ℕ := 719163

/-- The ordinal of 9999-12-31. -/
def maxOrdinal : ℕ := 3652059

/-- The ordinal of the Monday of the first ISO week of a year. -/
def isoWeek1Monday (y : ℕ) : ℤ :=
  let first : ℤ := ordinal y 1 1
  let weekday := (first + 6) % 7
  let monday := first - weekday
  if weekday > 3 then monday + 7 else monday

/-- The years with 53 ISO weeks. -/
def hasWeek53 (y : ℕ) : Bool :=
  let first := (ordinal y 1 1 + 6) % 7
  first = 3 ∨ (first = 2 ∧ isLeap y)

/-! ## `datetime.fromisoformat` -/

/-- The number written by `n` ASCII digits. -/
def digits (n : ℕ) (cs : List Char) : Option ℕ :=
  if cs.length = n ∧ cs.all Char.isDigit then some (cs.foldl (fun k c => 10 * k + (c.toNat - 48)) 0)
  else none

/-- The ordinal of a week date. -/
def weekDate (y w d : ℕ) : Option ℤ :=
  if 1 ≤ y ∧ 1 ≤ w ∧ (w ≤ 52 ∨ (w = 53 ∧ hasWeek53 y)) ∧ 1 ≤ d ∧ d ≤ 7 then
    some (isoWeek1Monday y + 7 * (w - 1) + (d - 1))
  else none

/-- The ordinal of a calendar date. -/
def calendarDate (y m d : ℕ) : Option ℤ :=
  if 1 ≤ y ∧ 1 ≤ m ∧ m ≤ 12 ∧ 1 ≤ d ∧ d ≤ daysInMonth y m then some (ordinal y m d) else none

/-- `_parse_isoformat_date`: `YYYY-MM-DD`, `YYYYMMDD`, `YYYY-Www[-D]` or `YYYYWww[D]`. -/
def isoDate (cs : List Char) : Option ℤ := do
  let y ← digits 4 (cs.take 4)
  let sep := cs[4]? = some '-'
  let rest := cs.drop (if sep then 5 else 4)
  if rest.head? = some 'W' then
    let w ← digits 2 ((rest.drop 1).take 2)
    let tail := rest.drop 3
    if tail = [] then weekDate y w 1
    else if (tail.head? = some '-') = sep then
      weekDate y w (← digits 1 (tail.drop (if sep then 1 else 0)))
    else none
  else
    let m ← digits 2 (rest.take 2)
    let tail := rest.drop 2
    if (tail.head? = some '-') = sep then
      calendarDate y m (← digits 2 (tail.drop (if sep then 1 else 0)))
    else none

/-- `_find_isoformat_datetime_separator`: where the date ends. -/
def isoSeparator (cs : List Char) : Option ℕ :=
  if cs.length = 7 then some 7
  else if cs[4]? = some '-' then
    if cs[5]? = some 'W' then
      if cs[8]? = some '-' then
        if cs.length = 9 then none
        else if cs.length > 10 ∧ (cs[10]?.map Char.isDigit) = some true then some 8
        else some 10
      else some 8
    else some 10
  else if cs[4]? = some 'W' then
    let idx := 7 + ((cs.drop 7).takeWhile Char.isDigit).length
    if idx < 9 then some idx else if idx % 2 = 0 then some 7 else some 8
  else some 8

/-- A time of day or an offset, and whether characters were left unread after it. -/
structure IsoClock where
  hour : ℕ
  minute : ℕ
  second : ℕ
  micro : ℕ
  junk : Bool

/-- The fraction of a second: up to six digits, and the digits after them are skipped. -/
def isoFraction (c : IsoClock) (cs : List Char) : Option IsoClock := do
  let kept := cs.take 6
  let k ← digits kept.length kept
  return { c with
    micro := k * 10 ^ (6 - kept.length), junk := (cs.drop 6).dropWhile Char.isDigit != [] }

/-- What follows two digits of `_parse_hh_mm_ss_ff`: the end, a last character that is not read,
    a separator, or the fraction. The C code reads the fraction after every component. -/
inductive IsoNext where
  | stop (junk : Bool)
  | component (rest : List Char)
  | fraction (rest : List Char)

/-- The branch after a component; `sep` says whether the components are separated by `:`. -/
def isoNext (sep : Bool) : List Char → Option IsoNext
  | [] => some (.stop false)
  | [_] => some (.stop true)
  | c :: rest =>
    if sep ∧ c = ':' then some (.component rest)
    else if c = '.' ∨ c = ',' then some (.fraction rest)
    else if !sep then some (.component (c :: rest))
    else none

/-- `_parse_hh_mm_ss_ff`: `HH[:?MM[:?SS[{.,}f…]]]`. -/
def isoClock (cs : List Char) : Option IsoClock := do
  let h ← digits 2 (cs.take 2)
  let sep := cs[2]? = some ':'
  match ← isoNext sep (cs.drop 2) with
  | .stop junk => return ⟨h, 0, 0, 0, junk⟩
  | .fraction rest => isoFraction ⟨h, 0, 0, 0, false⟩ rest
  | .component rest =>
    let m ← digits 2 (rest.take 2)
    match ← isoNext sep (rest.drop 2) with
    | .stop junk => return ⟨h, m, 0, 0, junk⟩
    | .fraction rest => isoFraction ⟨h, m, 0, 0, false⟩ rest
    | .component rest =>
      let s ← digits 2 (rest.take 2)
      match ← isoNext sep (rest.drop 2) with
      | .stop junk => return ⟨h, m, s, 0, junk⟩
      | .fraction rest => isoFraction ⟨h, m, s, 0, false⟩ rest
      | .component rest => isoFraction ⟨h, m, s, 0, false⟩ rest

/-- Microseconds of a time of day or of an offset. -/
def IsoClock.micros (c : IsoClock) : ℤ :=
  (((c.hour * 60 + c.minute) * 60 + c.second) * 1000000 + c.micro : ℕ)

/-- A day in microseconds. -/
def dayMicros : ℤ := 86400000000

/-- `_parse_isoformat_time`: the time of day and the UTC offset, if there is one. Before an
    offset the C code does not look at what the time left unread. -/
def isoTime (cs : List Char) : Option (ℤ × Option ℤ) := do
  let time := cs.takeWhile fun c => c ≠ '+' ∧ c ≠ '-' ∧ c ≠ 'Z'
  let c ← isoClock time
  if c.hour < 24 ∧ c.minute < 60 ∧ c.second < 60 then
    match cs.drop time.length with
    | [] => if c.junk then none else return (c.micros, none)
    | ['Z'] => return (c.micros, some 0)
    | sign :: zone =>
      if sign = 'Z' then none
      else
        let z ← isoClock zone
        if !z.junk ∧ z.micros < dayMicros then
          return (c.micros, some (if sign = '-' then -z.micros else z.micros))
        else none
  else none

/-- `datetime.fromisoformat(text)`: the local time in microseconds since 1970-01-01 and the
    offset; `none` is a `ValueError`. -/
def fromIsoformat (text : String) : Option (ℤ × Option ℤ) := do
  let cs := text.toList
  if cs.length < 7 then none
  else
    let k ← isoSeparator cs
    let day ← isoDate (cs.take k)
    let time := cs.drop (k + 1)
    let (micros, offset) ← if time = [] then some (0, none) else isoTime time
    if 1 ≤ day ∧ day ≤ maxOrdinal then
      return ((day - epochOrdinal) * dayMicros + micros, offset)
    else none

/-- `_parse_time(value)`. -/
def parseTime (text : String) : Except TimeError Instant :=
  match fromIsoformat text with
  | some (micros, some offset) =>
    let instant := micros - offset
    if (1 - epochOrdinal) * dayMicros ≤ instant ∧
        instant < (maxOrdinal + 1 - epochOrdinal) * dayMicros then .ok instant
    else .error .overflow
  | _ => .error .value

/-! ## `datetime.isoformat` -/

/-- `n` in at least `width` decimal digits. -/
def padded (width n : ℕ) : String :=
  let ds := toString n
  String.join (List.replicate (width - ds.length) "0") ++ ds

/-- The year, month and day of an ordinal, by counting years of 400, 100, 4 and 1. -/
def ymd (ord : ℕ) : ℕ × ℕ × ℕ :=
  let n := ord - 1
  let n400 := n / 146097
  let n := n % 146097
  let n100 := min 3 (n / 36524)
  let n := n - 36524 * n100
  let n4 := n / 1461
  let n := n % 1461
  let n1 := min 3 (n / 365)
  let n := n - 365 * n1
  let y := 400 * n400 + 100 * n100 + 4 * n4 + n1 + 1
  let m := ((List.range 12).filter fun i => daysBeforeMonth y (i + 1) ≤ n).length
  (y, m, n - daysBeforeMonth y m + 1)

/-- `datetime.isoformat()` in UTC: the fraction is written only when it is not zero. -/
def isoformat (t : Instant) : String :=
  let (y, m, d) := ymd (t / dayMicros + epochOrdinal).toNat
  let us := (t % dayMicros).toNat
  let s := us / 1000000
  let fraction := if us % 1000000 = 0 then "" else "." ++ padded 6 (us % 1000000)
  padded 4 y ++ "-" ++ padded 2 m ++ "-" ++ padded 2 d ++ "T" ++ padded 2 (s / 3600) ++ ":" ++
    padded 2 (s / 60 % 60) ++ ":" ++ padded 2 (s % 60) ++ fraction ++ "+00:00"

example : parseTime "2026-08-10T08:00:00.25+08:00" = .ok 1786320000250000 := by decide +kernel

end HomeAddons.Common
