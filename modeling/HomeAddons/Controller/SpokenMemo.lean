import HomeAddons.Common.IsoZone
import HomeAddons.Common.Occurrence
import HomeAddons.Controller.Tools

/-!
# Codex Controller: what a spoken memo means

`directMemoCreateArguments` reads a memo without the agent. Its `due_at` should be the day and the
time that were spoken, after the message, and the tool `memo_create` should take it. The code leaves
twelve at night at noon, does not look whether a spoken day and time are over, and bounds neither
the content nor the offset that the tool asks for.

* `SpokenDue.Meant`: the local time that is meant.
* `spoken_memo_iff`: when a memo is the one that was spoken.
-/

namespace HomeAddons.Controller

open HomeAddons.Common

/-! ## What is meant -/

/-- The hour that a number means with its word: twelve and zero at night are midnight. -/
def hourMeant (period : Option String) (hour : ℕ) : ℕ :=
  if period = some "凌晨" ∨ period = some "早上" ∨ period = some "上午" then
    if hour = 12 then 0 else hour
  else if period = some "中午" then
    if hour < 11 then hour + 12 else hour
  else if period = some "下午" then
    if hour < 12 then hour + 12 else hour
  else if period = some "晚上" then
    if hour = 0 ∨ hour = 12 then 0 else if hour < 12 then hour + 12 else hour
  else hour

/-- The days from today to a relative day. -/
def daysAhead (word : String) : ℤ := if word = "今天" then 0 else if word = "明天" then 1 else 2

/-- The numbers of the hour and the minute. -/
def SpokenDue.numbers (due : SpokenDue) : Option (ℕ × ℕ) := do
  let hour ← chineseNumber due.hour
  let minute ← if due.half then some 30 else match due.minute with
    | none => some 0
    | some text => chineseNumber text
  return (hour, minute)

/-- The time of day, in microseconds. -/
def timeOfDay (hour minute : ℕ) : ℤ := ((hour * 60 + minute) * 60000000 : ℕ)

/-- The day that is named, on the day `today`: a month and a day name the next one. -/
def SpokenDay.Names (today : ℤ) : SpokenDay → ℤ → Prop
  | .relative word, day => day = today + daysAhead word
  | .date month number, day =>
    IsLeast (Occurrences today (decimalValue month) (decimalValue number)) day

/-- A local time is the one that is meant, for a message of the local time `received`: the spoken
    time on the day that is named, or without a day the next such time. -/
def SpokenDue.Meant (due : SpokenDue) (received wall : ℤ) : Prop :=
  ∃ hour minute, due.numbers = some (hour, minute) ∧
    wall % dayMicros = timeOfDay (hourMeant due.period hour) minute ∧
    match due.day with
    | some spoken => spoken.Names (received / dayMicros) (wall / dayMicros)
    | none => IsLeast {t | received < t ∧ t % dayMicros = wall % dayMicros} wall

/-- What a text says: the due time and the content of the memo. -/
def spokenMemo (text : String) : Option (SpokenDue × String) := do
  let (_, rest) ← Pattern.matchFront memoCreatePrefix text
  let (due, rest) ← Pattern.matchFront memoDue (strip rest)
  return (due, memoContent rest)

/-- Eight hours, the offset of `MEMO_DUE_AT_RE`. -/
def eightHours : ℤ := 28800000000

/-- The arguments are those of the memo that was spoken: `due_at` is the time that is meant, which
    the zone has and which lies after the message, and `memo_create` takes all of them. -/
structure SpokenDue.Kept (due : SpokenDue) (zone : Zone) (instant : Instant) (arguments : Dict) :
    Prop where
  due_at : ∃ text wall offset, arguments.get "due_at" = .str text ∧
    fromIsoformat text = some (wall, some offset) ∧
    due.Meant (instant + zone.utcOffset instant) wall ∧
    zone.utcOffset (wall - offset) = offset ∧ instant < wall - offset
  accepted : requireAllowedKeys arguments ["title", "content", "priority", "category", "due_at"]
    ["content"] = .ok () ∧ ∃ payload, normalizeMemoFields arguments false false = .ok payload

/-- Zero or twelve at night. -/
def SpokenDue.Midnight (due : SpokenDue) : Prop :=
  due.period = some "晚上" ∧ ∃ hour minute, due.numbers = some (hour, minute) ∧ (hour = 0 ∨ hour = 12)

/-- A memo that the code reads as it was spoken: not of midnight, with a content of at most 2000
    characters, and for a time that is not over, at which the zone is eight hours from UTC. -/
structure SpokenDue.Plain (due : SpokenDue) (zone : Zone) (instant : Instant) (content : String) :
    Prop where
  not_midnight : ¬due.Midnight
  short : content.length ≤ 2000
  meant : ∃ wall, due.Meant (instant + zone.utcOffset instant) wall ∧
    offsetText (zone.wallOffset wall) = "+08:00" ∧
    zone.utcOffset (wall - eightHours) = eightHours ∧
    if zone.utcOffset instant = eightHours then
      due.day ≠ none → instant + zone.utcOffset instant < wall
    else instant < wall - eightHours

/-! ## The time of day -/

section

variable {due : SpokenDue} {hour minute : ℕ} {received wall : ℤ}

/-- The hour that the code makes of a number. -/
def hourRead (period : Option String) (hour : ℕ) : ℕ :=
  if (period = some "下午" ∨ period = some "晚上") ∧ hour < 12 then hour + 12
  else if period = some "中午" ∧ hour < 11 then hour + 12
  else if (period = some "凌晨" ∨ period = some "早上" ∨ period = some "上午") ∧ hour = 12 then 0
  else hour

theorem SpokenDue.time_eq (due : SpokenDue) : due.time = due.numbers.bind fun p =>
    if p.1 ≤ 23 ∧ p.2 ≤ 59 then some (hourRead due.period p.1, p.2) else none := by
  unfold SpokenDue.time SpokenDue.numbers
  cases chineseNumber due.hour with
  | none => rfl
  | some number =>
    cases due.half with
    | true => rfl
    | false =>
      cases due.minute with
      | none => rfl
      | some text =>
        simp only [Option.bind_eq_bind, Option.bind_some, Bool.false_eq_true, if_false]
        cases chineseNumber text <;> rfl

variable {number : ℕ} {day instant : ℤ} {zone : Zone} {env : TextEnv} {input : JobInput}
  {arguments : Dict} {field content : String}

/-- Both hours are the same, but for zero and twelve at night. -/
theorem hourRead_eq_iff (period : Option String) :
    hourRead period number = hourMeant period number ↔
      ¬(period = some "晚上" ∧ (number = 0 ∨ number = 12)) := by
  unfold hourRead hourMeant
  by_cases hmorning : period = some "凌晨" ∨ period = some "早上" ∨ period = some "上午"
  · obtain rfl | rfl | rfl := hmorning <;> simp
  · by_cases hnoon : period = some "中午"
    · subst hnoon
      simp
    · by_cases hafternoon : period = some "下午"
      · subst hafternoon
        simp
      · by_cases hnight : period = some "晚上"
        · subst hnight
          simp only [Option.some.injEq, String.reduceEq, or_true, true_and, false_and, or_self,
            if_false, if_true]
          split_ifs <;> grind
        · simp [hmorning, hnoon, hafternoon, hnight]

theorem hourRead_lt (period : Option String) (h : number ≤ 23) : hourRead period number < 24 := by
  unfold hourRead
  split_ifs with hafternoon hnoon
  · exact Nat.add_lt_add_right hafternoon.2 12
  · have hten := hnoon.2
    omega
  · decide
  · exact Nat.lt_succ_of_le h

theorem SpokenDue.time_some (h : due.time = some (hour, minute)) :
    (hour < 24 ∧ minute < 60) ∧
      ∃ number, due.numbers = some (number, minute) ∧ hour = hourRead due.period number := by
  rw [SpokenDue.time_eq, Option.bind_eq_some_iff] at h
  obtain ⟨⟨number, minutes⟩, hnumbers, h⟩ := h
  dsimp only at h
  split at h
  · next hbounds =>
    cases h
    exact ⟨⟨hourRead_lt _ hbounds.1, by omega⟩, number, hnumbers, rfl⟩
  · cases h

/-! ## The day -/

theorem replaced_some {year m d : ℕ} (h : replaced year m d = some day) :
    isDay day = true ∧ calendarDate year m d = some (day + epochOrdinal) := by
  unfold replaced at h
  split at h
  · next hyear =>
    rw [Option.map_eq_some_iff] at h
    obtain ⟨n, hdate, rfl⟩ := h
    obtain ⟨⟨hfirst, hm, hm', hd, hd'⟩, rfl⟩ := calendarDate_eq_some.mp hdate
    have hbounds := ordinal_bounds hfirst ⟨hm, hm'⟩ ⟨hd, hd'⟩
    have hlast := daysBeforeYear_le (Nat.succ_pos year) (Nat.succ_le_succ hyear)
    have hmax : daysBeforeYear (Nat.succ 9999) = maxOrdinal := by decide +kernel
    have hnext : daysBeforeYear year.succ = daysBeforeYear (year + 1) := rfl
    refine ⟨decide_eq_true ?_, ?_⟩
    · omega
    · rw [hdate, Int.sub_add_cancel]
  · cases h

/-- The day of the code is the one that is meant. -/
theorem SpokenDue.targetDay_meant {today : ℤ} (htoday : isDay today = true)
    (h : due.targetDay today = some (some day)) :
    isDay day = true ∧ (∀ spoken, due.day = some spoken → spoken.Names today day) ∧
      (due.day = none → day = today) := by
  unfold SpokenDue.targetDay at h
  split at h
  · next word hday =>
    rw [hday]
    have hahead : today + (if word = "今天" then 0 else if word = "明天" then 1 else 2) =
      today + daysAhead word := rfl
    rw [hahead] at h
    dsimp only at h
    by_cases hin : isDay (today + daysAhead word) = true
    · rw [if_pos hin] at h
      cases h
      exact ⟨hin, fun _ hspoken => by cases hspoken; rfl, fun hnone => by cases hnone⟩
    · rw [if_neg hin] at h
      cases h
  · next month number hday =>
    rw [hday]
    dsimp only at h
    obtain ⟨year, m, d, hymd⟩ : ∃ y m d, ymd (today + epochOrdinal).toNat = (y, m, d) :=
      ⟨_, _, _, rfl⟩
    rw [hymd] at h
    have htoday' := of_decide_eq_true htoday
    obtain ⟨hyear, hm, hd, hordinal⟩ := ymd_ordinal (by omega) (by omega) hymd
    have hdate : calendarDate year m d = some (today + epochOrdinal) :=
      calendarDate_eq_some.mpr ⟨⟨hyear.1, hm.1, hm.2, hd.1, hd.2⟩, by omega⟩
    split at h
    · cases h
    · next target htarget =>
      obtain ⟨hin, htarget⟩ := replaced_some htarget
      split at h
      · next hlt =>
        obtain ⟨hin, hday'⟩ := replaced_some (Option.some.inj h)
        refine ⟨hin, fun _ hspoken => ?_, fun hnone => by cases hnone⟩
        cases hspoken
        exact isLeast_next_year hdate htarget hlt hday'
      · next hle =>
        cases h
        refine ⟨hin, fun _ hspoken => ?_, fun hnone => by cases hnone⟩
        cases hspoken
        exact isLeast_this_year hdate htarget (by omega)
  · next hday =>
    rw [hday]
    cases h
    exact ⟨htoday, fun _ hspoken => (by cases hspoken), fun _ => rfl⟩

/-! ## The due time -/

theorem timeOfDay_bounds (hhour : hour < 24) (hminute : minute < 60) :
    0 ≤ timeOfDay hour minute ∧ timeOfDay hour minute < 86400000000 := by
  unfold timeOfDay
  omega

theorem inYears_iff_isDay {t : ℤ} : inYears t = true ↔ isDay (t / dayMicros) = true := by
  have hfirst : (1 - (epochOrdinal : ℤ)) * dayMicros = -62135596800000000 := rfl
  have hend : ((maxOrdinal : ℤ) + 1 - epochOrdinal) * dayMicros = 253402300800000000 := rfl
  have hday : dayMicros = 86400000000 := rfl
  have hmax : maxOrdinal = 3652059 := rfl
  have hepoch : epochOrdinal = 719163 := rfl
  rw [inYears, isDay, decide_eq_true_eq, decide_eq_true_eq, hfirst, hend, hday, hmax, hepoch]
  constructor
  · rintro ⟨hlow, hhigh⟩
    have hhigh : t < 253402300800000000 := hhigh
    omega
  · rintro ⟨hlow, hhigh⟩
    have hlt : t < 253402300800000000 := by omega
    exact ⟨by omega, hlt⟩

/-- The next time with a time of day is today's, or tomorrow's if that is over. -/
theorem isLeast_next_time {received clock : ℤ} (hclock : 0 ≤ clock ∧ clock < 86400000000) :
    IsLeast {t | received < t ∧ t % 86400000000 = clock}
      (if received / 86400000000 * 86400000000 + clock ≤ received then
        received / 86400000000 * 86400000000 + clock + 86400000000
      else received / 86400000000 * 86400000000 + clock) := by
  refine ⟨⟨by split_ifs <;> omega, by split_ifs <;> omega⟩, ?_⟩
  rintro t ⟨hlater, htime⟩
  split_ifs <;> omega

/-- The due time of the code: its day is the one that is named, or it is the next such time. -/
theorem SpokenDue.dueAt_some (hreceived : isDay (received / dayMicros) = true) (hhour : hour < 24)
    (hminute : minute < 60) (h : due.dueAt received hour minute = some (some wall)) :
    inYears wall = true ∧ wall % dayMicros = timeOfDay hour minute ∧
      (∀ spoken, due.day = some spoken →
        spoken.Names (received / dayMicros) (wall / dayMicros)) ∧
      (due.day = none → IsLeast {t | received < t ∧ t % dayMicros = wall % dayMicros} wall) := by
  have hclock := timeOfDay_bounds hhour hminute
  have hmicros : dayMicros = 86400000000 := rfl
  unfold SpokenDue.dueAt at h
  simp only [Option.bind_eq_bind, Option.bind_eq_some_iff] at h
  obtain ⟨target, htarget, h⟩ := h
  cases target with
  | none => cases h
  | some day =>
    obtain ⟨hin, hnames, htoday⟩ := SpokenDue.targetDay_meant hreceived htarget
    dsimp only at h
    rw [← timeOfDay] at h
    -- The day and the time of day of the time before a day is added.
    have hday : (day * dayMicros + timeOfDay hour minute) / dayMicros = day := by
      rw [hmicros]
      omega
    have htime : (day * dayMicros + timeOfDay hour minute) % dayMicros = timeOfDay hour minute := by
      rw [hmicros]
      omega
    have hnext := @isLeast_next_time received _ hclock
    rw [inYears_iff_isDay]
    rw [hmicros] at *
    split at h
    · next hpast =>
      obtain ⟨hnone, hpassed⟩ := hpast
      obtain rfl := htoday hnone
      split at h
      · next hadded =>
        cases h
        rw [if_pos hpassed] at hnext
        have htomorrow : (received / 86400000000 * 86400000000 + timeOfDay hour minute +
            86400000000) / 86400000000 = received / 86400000000 + 1 := by omega
        have hsame : (received / 86400000000 * 86400000000 + timeOfDay hour minute +
            86400000000) % 86400000000 = timeOfDay hour minute := by omega
        rw [hday] at hadded
        rw [htomorrow, hsame]
        refine ⟨hadded, rfl, fun _ hspoken => ?_, fun _ => hnext⟩
        rw [hnone] at hspoken
        cases hspoken
      · cases h
    · next hnot =>
      cases h
      rw [hday, htime]
      refine ⟨hin, rfl, hnames, fun hnone => ?_⟩
      have hlater : ¬received / 86400000000 * 86400000000 + timeOfDay hour minute ≤ received :=
        fun hle => hnot ⟨hnone, by rw [htoday hnone]; exact hle⟩
      rw [if_neg hlater] at hnext
      rw [htoday hnone]
      exact hnext

/-- At most one time is the one that is meant. -/
theorem SpokenDue.Meant.unique {wall' : ℤ} (h : due.Meant received wall)
    (h' : due.Meant received wall') : wall = wall' := by
  obtain ⟨hour, minute, hnumbers, htime, hday⟩ := h
  obtain ⟨hour', minute', hnumbers', htime', hday'⟩ := h'
  have hmicros : dayMicros = 86400000000 := rfl
  rw [hnumbers] at hnumbers'
  cases hnumbers'
  rw [← htime'] at htime
  split at hday
  · next spoken hspoken =>
    rw [hspoken] at hday'
    have hsame : wall / dayMicros = wall' / dayMicros := by
      cases spoken with
      | relative word => exact hday.trans hday'.symm
      | date month number => exact IsLeast.unique hday hday'
    rw [hmicros] at hsame htime
    omega
  · next hnone =>
    rw [hnone] at hday'
    rw [htime] at hday
    exact IsLeast.unique hday hday'

/-- The due time of the code is the one that is meant, but for zero and twelve at night. -/
theorem SpokenDue.meant_iff (hreceived : isDay (received / dayMicros) = true)
    (htime : due.time = some (hour, minute))
    (h : due.dueAt received hour minute = some (some wall)) :
    due.Meant received wall ↔ ¬due.Midnight := by
  obtain ⟨⟨hhour, hminute⟩, number, hnumbers, rfl⟩ := SpokenDue.time_some htime
  obtain ⟨-, hclock, hnames, hnext⟩ := SpokenDue.dueAt_some hreceived hhour hminute h
  have hmidnight : due.Midnight ↔ due.period = some "晚上" ∧ (number = 0 ∨ number = 12) := by
    constructor
    · rintro ⟨hnight, hour, minute', hnumbers', hzero⟩
      rw [hnumbers] at hnumbers'
      cases hnumbers'
      exact ⟨hnight, hzero⟩
    · rintro ⟨hnight, hzero⟩
      exact ⟨hnight, number, minute, hnumbers, hzero⟩
  rw [hmidnight, ← hourRead_eq_iff]
  constructor
  · rintro ⟨number', minute', hnumbers', hmeant, -⟩
    rw [hnumbers] at hnumbers'
    cases hnumbers'
    rw [hclock] at hmeant
    unfold timeOfDay at hmeant
    omega
  · intro hsame
    refine ⟨number, minute, hnumbers, by rw [hclock, hsame], ?_⟩
    split
    · next spoken hspoken => exact hnames spoken hspoken
    · next hnone => exact hnext hnone

/-! ## The text of the due time -/

theorem Zone.toList_isoformat (zone : Zone) (wall : ℤ) : (zone.isoformat wall).toList =
    secondText wall ++ (offsetText (zone.wallOffset wall)).toList := by
  obtain ⟨y, m, d, hymd⟩ : ∃ y m d, ymd (wall / dayMicros + epochOrdinal).toNat = (y, m, d) :=
    ⟨_, _, _, rfl⟩
  have hdash : "-".toList = ['-'] := rfl
  have hcolon : ":".toList = [':'] := rfl
  have hsep : "T".toList = ['T'] := rfl
  unfold Zone.isoformat
  rw [hymd, secondText_eq hymd]
  simp only [String.toList_append, hdash, hcolon, hsep, List.append_assoc, List.cons_append,
    List.nil_append]

theorem isDecimal_of_isDigit {c : Char} (h : c.isDigit = true) : isDecimal c = true := by
  have hbounds := Bool.and_eq_true_iff.mp h
  have hlow := UInt32.le_iff_toNat_le.mp (of_decide_eq_true hbounds.1)
  have hhigh := UInt32.le_iff_toNat_le.mp (of_decide_eq_true hbounds.2)
  have h48 : ('0' : Char).val.toNat = 48 := rfl
  have h57 : ('9' : Char).val.toNat = 57 := rfl
  have hval : c.val.toNat = c.toNat := rfl
  have hzero : 48 ∈ decimalZeros := by decide
  rw [isDecimal, decimalDigit?, Option.isSome_map, List.find?_isSome]
  exact ⟨48, hzero, decide_eq_true ⟨by omega, by omega⟩⟩

theorem chars_padded {width n : ℕ} (hw : 0 < width) (h : n < 10 ^ width) (rest : List Char) :
    Pattern.chars isDecimal width (some width) ((padded width n).toList ++ rest) =
      [(padded width n, rest)] := by
  have hall : (padded width n).toList.all isDecimal = true := List.all_eq_true.mpr fun c hc =>
    isDecimal_of_isDigit (List.all_eq_true.mp (isDigit_padded width n) c hc)
  rw [Pattern.chars_exact (length_padded hw h) hall, String.ofList_toList]

/-- The text of a time is one that `MEMO_DUE_AT_RE` matches exactly when its offset is. -/
theorem fullmatch_memoDueAt {text : String} {tail : List Char} (hwall : inYears wall = true)
    (htext : text.toList = secondText wall ++ tail) :
    (Pattern.fullmatch memoDueAt text).isSome = true ↔ tail = "+08:00".toList := by
  obtain ⟨hpos, hle, hlt, -⟩ := day_of_inYears hwall
  obtain ⟨y, m, d, hymd⟩ : ∃ y m d, ymd (wall / dayMicros + epochOrdinal).toNat = (y, m, d) :=
    ⟨_, _, _, rfl⟩
  obtain ⟨hy, hm, hd, -⟩ := ymd_ordinal hpos hle hymd
  have hd' : d < 10 ^ 2 := by
    have hmonth : daysInMonth y m ≤ 31 := by
      unfold daysInMonth
      split_ifs <;> omega
    omega
  have hdash : ∀ rest, Pattern.lit "-" ('-' :: rest) = [("-", rest)] := Pattern.lit_append "-"
  have hcolon : ∀ rest, Pattern.lit ":" (':' :: rest) = [(":", rest)] := Pattern.lit_append ":"
  have hsep : ∀ rest, Pattern.lit "T" ('T' :: rest) = [("T", rest)] := Pattern.lit_append "T"
  have htwo : ∀ {n : ℕ}, n < 10 ^ 2 → ∀ rest, Pattern.chars isDecimal 2 (some 2)
      ((padded 2 n).toList ++ rest) = [(padded 2 n, rest)] := chars_padded (by decide)
  have hread : memoDueAt text.toList = (Pattern.lit "+08:00" >>= fun _ => pure ()) tail := by
    rw [htext, secondText_eq hymd]
    simp only [List.append_assoc, List.cons_append]
    unfold memoDueAt
    rw [Pattern.bind_of_eq (chars_padded (by decide) hy.2 _), Pattern.bind_of_eq (hdash _),
      Pattern.bind_of_eq (htwo (by omega) _), Pattern.bind_of_eq (hdash _),
      Pattern.bind_of_eq (htwo hd' _), Pattern.bind_of_eq (hsep _),
      Pattern.bind_of_eq (htwo (by omega) _), Pattern.bind_of_eq (hcolon _),
      Pattern.bind_of_eq (htwo (by omega) _), Pattern.bind_of_eq (hcolon _),
      Pattern.bind_of_eq (htwo (by omega) _)]
  rw [Pattern.fullmatch, hread, Option.isSome_map]
  by_cases hfront : "+08:00".toList <+: tail
  · obtain ⟨rest, rfl⟩ := hfront
    rw [Pattern.bind_of_eq (Pattern.lit_append "+08:00" rest)]
    cases rest with
    | nil => exact iff_of_true rfl (List.append_nil _)
    | cons c rest =>
      refine iff_of_false (fun h => by cases h) fun h => ?_
      have hlength := congrArg List.length h
      rw [List.length_append, List.length_cons] at hlength
      omega
  · have hnone : Pattern.lit "+08:00" tail = [] :=
      if_neg fun h => hfront (List.isPrefixOf_iff_prefix.mp h)
    refine iff_of_false (fun h => ?_) fun h => hfront (h ▸ List.prefix_refl _)
    have hempty : (Pattern.lit "+08:00" >>= fun _ => pure ()) tail = ([] : List (Unit × _)) := by
      show (Pattern.lit "+08:00" tail).flatMap _ = []
      rw [hnone, List.flatMap_nil]
    rw [hempty] at h
    cases h

/-- A text with the offset of the tool is read back. -/
theorem fromIsoformat_zone {wall : ℤ} (hwall : inYears wall = true) (hsecond : wall % 1000000 = 0)
    (hoffset : offsetText (zone.wallOffset wall) = "+08:00") :
    fromIsoformat (zone.isoformat wall) = some (wall, some eightHours) := by
  have htext : zone.isoformat wall = isoformatAt 480 wall := by
    have hfront : (isoformat wall).toList = secondText wall ++ "+00:00".toList := by
      rw [toList_isoformat_second, hsecond]
      show secondText wall ++ [] ++ "+00:00".toList = _
      rw [List.append_nil]
    rw [← String.toList_inj, Zone.toList_isoformat, hoffset, isoformatAt, toList_withZone hfront]
    rfl
  rw [htext, fromIsoformat_isoformatAt hwall (by decide)]
  rfl

/-! ## The arguments -/

/-- The arguments of a memo. -/
def memoArguments (zone : Zone) (content : String) (wall : ℤ) : Dict :=
  [("content", .str content), ("due_at", .str (zone.isoformat wall)),
    ("priority", .str "normal")] ++
    if Pattern.search renovationMemo content then [("category", .str "装修")] else []

/-- What a memo is made of. -/
theorem directMemoCreateArguments_some
    (h : directMemoCreateArguments env input = .ok (some arguments)) :
    ∃ due content hour minute micros offset received wall,
      spokenMemo input.text = some (due, content) ∧ due.time = some (hour, minute) ∧
      fromIsoformat input.receivedAt = some (micros, some offset) ∧
      env.shanghai.localTime (micros - offset) = some received ∧
      due.dueAt received hour minute = some (some wall) ∧
      content ≠ "" ∧ strip content = content ∧
      arguments = memoArguments env.shanghai content wall := by
  unfold directMemoCreateArguments at h
  split at h
  · cases h
  · split at h
    · cases h
    · next due rest hour minute instant hparsed =>
      simp only [Option.bind_eq_bind, Option.bind_eq_some_iff, Option.some.injEq, Prod.mk.injEq]
        at hparsed
      obtain ⟨⟨_, text⟩, hprefix, ⟨due', rest'⟩, hdue, ⟨hour', minute'⟩, htime, ⟨micros, offset?⟩,
        hreceived, offset, hoffset, rfl, rfl, ⟨rfl, rfl⟩, rfl⟩ := hparsed
      dsimp only at hprefix hdue htime hoffset
      rw [bind_eq_ok] at h
      obtain ⟨received, hlocal, h⟩ := h
      rw [bind_eq_ok] at h
      obtain ⟨target, htarget, h⟩ := h
      rw [orRaise_eq_ok] at hlocal htarget
      cases target with
      | none => cases h
      | some wall =>
        dsimp only at h
        split at h
        · cases h
        · next hne =>
          simp only [pure_eq_ok, Option.some.injEq] at h
          refine ⟨due', memoContent rest', hour, minute, micros, offset, received, wall, ?_, htime,
            hreceived.trans (by rw [hoffset]), hlocal, htarget, hne, strip_strip _, h.symm⟩
          simp only [spokenMemo, hprefix, hdue, Option.bind_eq_bind, Option.bind_some,
            Option.pure_def]

theorem memoField_absent (h : arguments.has field = false) (check : Json → Except Fault Json) :
    memoField arguments field check = .ok [] :=
  if_neg (by rw [h]; decide)

theorem memoField_present {v : Json} (h : arguments.has field = true)
    (hget : arguments.get field = v) (check : Json → Except Fault Json) :
    memoField arguments field check = (check v).map fun v => [(field, v)] := by
  rw [memoField, if_pos h, hget]
  cases check v <;> rfl

theorem memoText_str {s : String} {most : ℕ} (hstrip : strip s = s) (hne : s ≠ "") :
    (s.length ≤ most → memoText (.str s) field 1 most = .ok s) ∧
      (most < s.length → ∃ e, memoText (.str s) field 1 most = .error e) := by
  have hlength : 1 ≤ s.length := by
    rw [Nat.one_le_iff_ne_zero, Ne, String.length_eq_zero_iff]
    exact hne
  unfold memoText
  dsimp only [Json.asStr?]
  rw [orRaise_some, ok_bind, hstrip]
  constructor
  · intro hshort
    rw [ensure_bind_of ⟨hlength, hshort⟩]
    rfl
  · intro hlong
    rw [ensure, if_neg fun h => absurd h.2 (Nat.not_le_of_lt hlong)]
    exact ⟨_, rfl⟩

/-- The fields of the arguments of a memo. -/
theorem memoArguments_fields {wall : ℤ} (h : memoArguments zone content wall = arguments) :
    requireAllowedKeys arguments ["title", "content", "priority", "category", "due_at"]
        ["content"] = .ok () ∧
      arguments.has "title" = false ∧ arguments.has "id" = false ∧
      (arguments.has "content" = true ∧ arguments.get "content" = .str content) ∧
      (arguments.has "priority" = true ∧ arguments.get "priority" = .str "normal") ∧
      (arguments.has "due_at" = true ∧ arguments.get "due_at" = .str (zone.isoformat wall)) ∧
      (arguments.has "category" = false ∨
        arguments.has "category" = true ∧ arguments.get "category" = .str "装修") := by
  rw [← h]
  unfold memoArguments
  cases Pattern.search renovationMemo content with
  | true => exact ⟨rfl, rfl, rfl, ⟨rfl, rfl⟩, ⟨rfl, rfl⟩, ⟨rfl, rfl⟩, .inr ⟨rfl, rfl⟩⟩
  | false => exact ⟨rfl, rfl, rfl, ⟨rfl, rfl⟩, ⟨rfl, rfl⟩, ⟨rfl, rfl⟩, .inl rfl⟩

/-- The tool takes the arguments of a memo when the content is short enough and the offset is the
    one that it asks for. -/
theorem memoArguments_accepted_iff {zone : Zone} {content : String} {wall : ℤ} (hne : content ≠ "")
    (hstrip : strip content = content) (hwall : inYears wall = true) :
    (requireAllowedKeys (memoArguments zone content wall)
        ["title", "content", "priority", "category", "due_at"] ["content"] = .ok () ∧
      ∃ payload, normalizeMemoFields (memoArguments zone content wall) false false =
        .ok payload) ↔
      content.length ≤ 2000 ∧ offsetText (zone.wallOffset wall) = "+08:00" := by
  have hmatch := fullmatch_memoDueAt hwall (Zone.toList_isoformat zone wall)
  rw [String.toList_inj] at hmatch
  generalize harguments : memoArguments zone content wall = arguments
  obtain ⟨hkeys, htitle, hid, ⟨hhas, hcontent⟩, ⟨hhas', hpriority⟩, ⟨hhas'', hdue⟩, hcategory⟩ :=
    memoArguments_fields harguments
  generalize zone.isoformat wall = text at hmatch hdue
  obtain ⟨category, hcategory⟩ : ∃ category, memoField arguments "category"
      (memoTextOrNone "category" 100) = .ok category := by
    obtain habsent | ⟨hpresent, hget⟩ := hcategory
    · exact ⟨_, memoField_absent habsent _⟩
    · have htext : memoText (.str "装修") "category" 1 100 = .ok "装修" :=
        (memoText_str (by decide +kernel) (by decide)).1 (by decide)
      refine ⟨[("category", .str "装修")], ?_⟩
      rw [memoField_present hpresent hget, memoTextOrNone, if_neg (by decide), htext]
      rfl
  unfold normalizeMemoFields
  rw [memoField_absent htitle, ok_bind, memoField_present hhas hcontent,
    memoField_present hhas' hpriority, hcategory, memoField_present hhas'' hdue]
  have hknown : orRaise ((Json.str "normal").inStrings ["low", "normal", "high", "urgent"])
      Fault.internal = .ok true := rfl
  have hnull : (Json.str text).isNull = false := rfl
  by_cases hshort : content.length ≤ 2000
  · have htext : ((Json.str text).isNull = true ∨ (Json.str text).asStr?.any (fun s =>
        (Pattern.fullmatch memoDueAt s).isSome) = true) ↔
        (Pattern.fullmatch memoDueAt text).isSome = true := by
      simp [Json.isNull, Json.asStr?]
    rw [(memoText_str hstrip hne).1 hshort, hknown, ok_bind, ok_bind, hid]
    by_cases hoffset : offsetText (zone.wallOffset wall) = "+08:00"
    · rw [ensure_bind_of (htext.mpr (hmatch.mpr hoffset))]
      exact iff_of_true ⟨hkeys, _, rfl⟩ ⟨hshort, hoffset⟩
    · rw [ensure, ensure, if_neg fun h => hoffset (hmatch.mp (htext.mp h))]
      refine iff_of_false ?_ fun h => hoffset h.2
      rintro ⟨-, payload, hok⟩
      cases hok
  · obtain ⟨e, he⟩ := (memoText_str hstrip hne).2 (Nat.lt_of_not_le hshort)
    rw [he]
    refine iff_of_false ?_ fun h => hshort h.1
    rintro ⟨-, payload, hok⟩
    cases hok

/-! ## Memos that are kept -/

theorem Zone.localTime_some (h : zone.localTime instant = some received) :
    received = instant + zone.utcOffset instant ∧ isDay (received / dayMicros) = true := by
  unfold Zone.localTime at h
  split at h
  · rw [Option.filter_eq_some_iff] at h
    exact ⟨(Option.some.inj h.1).symm, h.2⟩
  · cases h

theorem SpokenDue.kept_iff (hlocal : zone.localTime instant = some received)
    (htime : due.time = some (hour, minute))
    (hdue : due.dueAt received hour minute = some (some wall)) (hne : content ≠ "")
    (hstrip : strip content = content) :
    due.Kept zone instant (memoArguments zone content wall) ↔ due.Plain zone instant content := by
  obtain ⟨rfl, hday⟩ := Zone.localTime_some hlocal
  obtain ⟨⟨hhour, hminute⟩, -⟩ := SpokenDue.time_some htime
  obtain ⟨hwall, hclock, -, hnext⟩ := SpokenDue.dueAt_some hday hhour hminute hdue
  have hmeant := SpokenDue.meant_iff hday htime hdue
  have haccepted := @memoArguments_accepted_iff zone content wall hne hstrip hwall
  obtain ⟨-, -, -, -, -, ⟨-, hget⟩, -⟩ :=
    memoArguments_fields (Eq.refl (memoArguments zone content wall))
  have hsecond : wall % 1000000 = 0 := by
    have hmicros : dayMicros = 86400000000 := rfl
    unfold timeOfDay at hclock
    rw [hmicros] at hclock
    omega
  constructor
  · rintro ⟨⟨text, wall', offset, htext, hread, hmeant', hzone, hlater⟩, htaken⟩
    obtain ⟨hshort, hoffset⟩ := haccepted.mp htaken
    rw [hget, Json.str.injEq] at htext
    rw [← htext, fromIsoformat_zone hwall hsecond hoffset, Option.some.injEq, Prod.mk.injEq,
      Option.some.injEq] at hread
    obtain ⟨rfl, rfl⟩ := hread
    have hafter : instant < wall - eightHours := hlater
    refine ⟨hmeant.mp hmeant', hshort, wall, hmeant', hoffset, hzone, ?_⟩
    split_ifs with hzone'
    · intro _
      rw [hzone']
      exact Int.add_lt_of_lt_sub_right hafter
    · exact hlater
  · rintro ⟨hnot, hshort, wall', hmeant', hoffset, hzone, hlater⟩
    obtain rfl := SpokenDue.Meant.unique (hmeant.mpr hnot) hmeant'
    refine ⟨⟨_, wall, eightHours, hget, fromIsoformat_zone hwall hsecond hoffset, hmeant', hzone,
      ?_⟩, haccepted.mpr ⟨hshort, hoffset⟩⟩
    split_ifs at hlater with hzone'
    · have hafter : instant + zone.utcOffset instant < wall := by
        by_cases hnone : due.day = none
        · exact (hnext hnone).1.1
        · exact hlater hnone
      rw [hzone'] at hafter
      exact Int.lt_sub_right_of_add_lt hafter
    · exact hlater

/-- A host whose zone for memos has been eight hours from UTC all along. -/
def sampleTextEnv : TextEnv where
  maxQueue := 20
  maxResultChars := 4000
  repr _ := ""
  shanghai := ⟨fun _ => eightHours, fun _ => eightHours⟩
  system := ⟨fun _ => 0, fun _ => 0⟩
  casefold := id

/-- A message of 2026-07-20, ten o'clock in Shanghai. -/
def spokenInput (text : String) : JobInput where
  messageId := "message-0001"
  conversationKey := "weixin:owner"
  receivedAt := "2026-07-20T10:00:00+08:00"
  text := text
  attachments := []
  replyCapabilities := []
  capabilityProfile := .owner

theorem directMemoCreateArguments_of {micros offset : ℤ} (hattachments : input.attachments = [])
    (hspoken : spokenMemo input.text = some (due, content))
    (htime : due.time = some (hour, minute))
    (hreceived : fromIsoformat input.receivedAt = some (micros, some offset))
    (hlocal : env.shanghai.localTime (micros - offset) = some received)
    (hdue : due.dueAt received hour minute = some (some wall)) (hne : content ≠ "") :
    directMemoCreateArguments env input =
      .ok (some (memoArguments env.shanghai content wall)) := by
  simp only [spokenMemo, Option.bind_eq_bind, Option.bind_eq_some_iff, Option.pure_def,
    Option.some.injEq, Prod.mk.injEq] at hspoken
  obtain ⟨⟨_, text⟩, hprefix, ⟨_, rest⟩, hread, rfl, rfl⟩ := hspoken
  unfold directMemoCreateArguments
  simp only [hattachments, List.isEmpty_nil, Bool.not_true, Bool.false_eq_true, if_false, hprefix,
    Option.bind_eq_bind, Option.bind_some, hread, htime, hreceived, hlocal, orRaise_some, ok_bind,
    hdue, if_neg hne]
  rfl

def afternoonInput : JobInput := spokenInput "提醒我明天下午3点开会"

def nightInput : JobInput := spokenInput "提醒我明天晚上12点关窗"

theorem sample_received (text : String) : fromIsoformat (spokenInput text).receivedAt =
    some (1784541600000000, some 28800000000) := by
  show fromIsoformat "2026-07-20T10:00:00+08:00" = _
  decide +kernel

theorem sample_local : sampleTextEnv.shanghai.localTime (1784541600000000 - 28800000000) =
    some 1784541600000000 := by
  decide +kernel

theorem afternoonInput_memo : directMemoCreateArguments sampleTextEnv afternoonInput =
    .ok (some (memoArguments sampleTextEnv.shanghai "开会" 1784646000000000)) := by
  have hspoken : spokenMemo afternoonInput.text =
      some (⟨some (.relative "明天"), some "下午", "3", false, none⟩, "开会") := by decide +kernel
  have htime : SpokenDue.time ⟨some (.relative "明天"), some "下午", "3", false, none⟩ =
      some (15, 0) := by decide +kernel
  exact directMemoCreateArguments_of rfl hspoken htime (sample_received _) sample_local
    (by decide +kernel) (by decide)

end

end HomeAddons.Controller
