import HomeAddons.Common.Digest
import HomeAddons.Common.IsoTime
import HomeAddons.Common.Json
import HomeAddons.Common.Result
import HomeAddons.Common.Text

/-!
# Renovation Hub: errors, surroundings and fields

What `ledger.py`, `hub.py` and `quotes.py` share: the exceptions a call can end with, what a call
reads from its surroundings, and the validators of single fields, in the order of their checks and
with the codes and messages of their errors.
-/

namespace HomeAddons.Renovation

open HomeAddons.Common

/-! ## Exceptions -/

/-- `LedgerError(code, message, status=…)`. -/
structure LedgerError where
  code : String
  message : String
  status : ℕ
  deriving DecidableEq

/-- How a call can end without a value. All but the first are not raised by the store itself. -/
inductive Raise where
  | ledger (e : LedgerError)
  /-- `sqlite3.IntegrityError`. -/
  | integrity
  /-- `TypeError: unhashable type`. -/
  | type
  /-- `OverflowError`, from a `datetime` or from an integer that SQLite cannot hold. -/
  | overflow
  deriving DecidableEq

/-- `raise LedgerError(code, message, status=status)`. -/
def raising (code message : String) (status : ℕ) : Raise := .ledger ⟨code, message, status⟩

/-- `raise LedgerError(code, message)`; the default status is 400. -/
def rejecting (code message : String) : Raise := raising code message 400

/-! ## Surroundings -/

/-- The tables of `unicodedata` and of `str.casefold`. Nothing is assumed about them. -/
structure Unicode where
  nfc : String → String
  nfkc : String → String
  casefold : String → String

/-- What `unicodedata.normalize("NFC", …)` is documented to do: a text of ASCII characters is in
    normal form, and so is every part of a text in normal form. -/
structure Unicode.Lawful (U : Unicode) : Prop where
  nfc_ascii : ∀ s, (∀ c ∈ s.toList, c.toNat < 128) → U.nfc s = s
  nfc_strip : ∀ s, U.nfc (strip (U.nfc s)) = strip (U.nfc s)

/-- The settings of a store. -/
structure Config where
  unicode : Unicode
  maxAttachmentBytes : ℕ
  enforceCutoverManifest : Bool

/-- What one call reads from outside: the `k`-th `utc_now()` and the `k`-th `uuid.uuid4()` of its
    operation, the two `utc_now()` with which a write is filed, and the date in Shanghai. Nothing
    is assumed about any of them. -/
structure Env where
  now : ℕ → String
  uuid : ℕ → String
  filedAt : String
  writtenAt : String
  today : String

/-- `digest_json(value)`. -/
def digestJson (value : Json) : String := sha256Hex (canonical value)

/-! ## Fields -/

/-- `_text(value, field, maximum, required=required)`. -/
def text (cfg : Config) (value : Json) (field : String) (maximum : ℕ) (required : Bool) :
    Except Raise String := do
  let value := if value.isNull then .str "" else value
  let s ← orRaise value.asStr? (rejecting "invalid_input" (field ++ " 必须是文本"))
  let s := strip (cfg.unicode.nfc s)
  ensure (¬ (required ∧ s = "")) (rejecting "invalid_input" (field ++ " 不能为空"))
  ensure (s.length ≤ maximum) (rejecting "invalid_input" (field ++ " 超过长度上限"))
  return s

variable {cfg : Config} {field s f : String} {maximum : ℕ} {d d' before changes : Dict} {v : Json}

theorem text_ne {value : Json} (hs : text cfg value field maximum true = .ok s) : s ≠ "" := by
  simp only [text, bind_eq_ok, ensure_eq_ok, pure_eq_ok, orRaise_eq_ok] at hs
  obtain ⟨_, _, _, hne, _, _, rfl⟩ := hs
  exact fun heq => hne ⟨trivial, heq⟩

/-- A text that `_text` returns is one that it returns again. -/
theorem text_text (hU : cfg.unicode.Lawful) {value : Json} {field' : String} {required : Bool}
    (hs : text cfg value field maximum required = .ok s) :
    text cfg (.str s) field' maximum required = .ok s := by
  simp only [text, bind_eq_ok, ensure_eq_ok, pure_eq_ok, orRaise_eq_ok] at hs ⊢
  obtain ⟨t, _, _, hne, _, hlen, rfl⟩ := hs
  have hfixed : strip (cfg.unicode.nfc (strip (cfg.unicode.nfc t))) = strip (cfg.unicode.nfc t) := by
    rw [hU.nfc_strip, strip_strip]
  exact ⟨_, rfl, (), by rwa [hfixed], (), by rwa [hfixed], hfixed⟩

/-- `_text(…) or None`. -/
def textOrNone (cfg : Config) (value : Json) (field : String) (maximum : ℕ) :
    Except Raise (Option String) := do
  let s ← text cfg value field maximum false
  return if s = "" then none else some s

/-- `_idempotency_key(value)`. -/
def idempotencyKey (value : Json) : Except Raise String := do
  let error := rejecting "invalid_idempotency_key" "幂等键长度必须为 16 到 256"
  let s ← orRaise value.asStr? error
  ensure (16 ≤ s.length ∧ s.length ≤ 256) error
  return s

/-- `_version(value)`. -/
def version (value : Json) : Except Raise ℕ := do
  let error := raising "version_required" "version 必须是正整数" 409
  let n ← orRaise value.asInt? error
  ensure (1 ≤ n) error
  return n.toNat

/-- `_choice(value, field, allowed)`, where `named` reads the allowed texts. -/
def choice {α : Type} (value : Json) (field : String) (named : String → Option α) :
    Except Raise α :=
  orRaise (value.asStr?.bind named) (rejecting "invalid_input" (field ++ " 不在允许范围"))

/-- `_choice(value, field, allowed, default=…)`. -/
def choiceOr {α : Type} (value : Json) (field : String) (named : String → Option α) (fallback : α) :
    Except Raise α :=
  if value.isNull then .ok fallback else choice value field named

/-- `value in {None, ""}`. -/
def isBlank (value : Json) : Except Raise Bool :=
  orRaise (if value.hashable then some (value.isNull || value.eqStr "") else none) .type

/-- The `YYYY-MM-DD` of an ordinal. -/
def dateText (day : ℤ) : String :=
  let (y, m, d) := ymd day.toNat
  padded 4 y ++ "-" ++ padded 2 m ++ "-" ++ padded 2 d

/-- `date.fromisoformat(text)`: the ordinal; `none` is a `ValueError`. -/
def dateFromIsoformat (s : String) : Option ℤ :=
  if s.length = 7 ∨ s.length = 8 ∨ s.length = 10 then
    (isoDate s.toList).filter fun day => 1 ≤ day ∧ day ≤ maxOrdinal
  else none

/-- `_validate_date(value, field)`. -/
def validateDate (value : Json) (field : String) : Except Raise String := do
  let error := rejecting "invalid_date" (field ++ " 必须是 YYYY-MM-DD")
  let s ← orRaise value.asStr? error
  let day ← orRaise (dateFromIsoformat s) error
  return dateText day

/-- `_optional_date(value, field)`. -/
def optionalDate (value : Json) (field : String) : Except Raise (Option String) := do
  if ← isBlank value then return none
  else return some (← validateDate value field)

/-- `value.replace("Z", "+00:00")`. -/
def replaceZ (s : String) : String :=
  String.join (s.toList.map fun c => if c = 'Z' then "+00:00" else String.ofList [c])

/-- `parsed.astimezone(timezone.utc).isoformat().replace("+00:00", "Z")`. -/
def utcText (t : Instant) : String :=
  let s := (isoformat t).toList
  String.ofList (s.take (s.length - 6)) ++ "Z"

/-- The conversion of a text to UTC; `wording` is the end of the message for a text that is not
    ISO 8601. -/
def datetimeText (s field wording : String) : Except Raise String :=
  match fromIsoformat (replaceZ s) with
  | none => .error (rejecting "invalid_datetime" (field ++ wording))
  | some (_, none) => .error (rejecting "invalid_datetime" (field ++ " 必须包含时区"))
  | some (micros, some offset) =>
    let t := micros - offset
    if (1 - epochOrdinal) * dayMicros ≤ t ∧ t < (maxOrdinal + 1 - epochOrdinal) * dayMicros then
      .ok (utcText t)
    else .error .overflow

/-- `_optional_datetime(value, field)`. -/
def optionalDatetime (value : Json) (field : String) : Except Raise (Option String) := do
  if ← isBlank value then return none
  else
    let wording := " 必须是带时区 ISO 8601"
    let s ← orRaise value.asStr? (rejecting "invalid_datetime" (field ++ wording))
    return some (← datetimeText s field wording)

/-- An integer between two bounds, or an error. -/
def integerBetween (value : Json) (least most : ℤ) (error : Raise) : Except Raise ℤ := do
  let n ← orRaise value.asInt? error
  ensure (least ≤ n ∧ n ≤ most) error
  return n

/-! ## Documents -/

/-- A nullable text column. -/
def optionalStr (x : Option String) : Json := (x.map Json.str).getD .null

/-- A nullable integer column. -/
def optionalInt (x : Option ℤ) : Json := (x.map Json.int).getD .null

/-- `value == x` for a nullable integer column. -/
def eqOptionalInt (value : Json) (x : Option ℤ) : Bool :=
  match x with
  | some n => value.eqInt n
  | none => value.isNull

/-! ## Objects -/

/-- `{**before, **changes}`. -/
def Dict.merged (before changes : Dict) : Dict :=
  before.filter (fun kv => !changes.has kv.1) ++ changes

/-- `{**before, field: value}`. -/
def Dict.assigned (before : Dict) (field : String) (value : Json) : Dict :=
  Dict.merged before [(field, value)]

theorem Dict.get_cons {kv : String × Json} :
    Dict.get (kv :: d) field = if field = kv.1 then kv.2 else d.get field := by
  obtain ⟨k, v⟩ := kv
  unfold Dict.get
  by_cases hk : field = k
  · simp [hk]
  · have hbeq : (field == k) = false := by simp [hk]
    simp [List.lookup_cons, hk, hbeq]

theorem Dict.get_append (hno : d.has field = false) : Dict.get (d ++ d') field = d'.get field := by
  induction d with
  | nil => rfl
  | cons kv d ih =>
    simp only [Dict.has, List.map_cons, List.contains_cons, Bool.or_eq_false_iff,
      beq_eq_false_iff_ne] at hno
    rw [List.cons_append, Dict.get_cons, if_neg hno.1]
    exact ih hno.2

/-- What `changes` does not name is as before. -/
theorem Dict.get_merged (hno : Dict.has changes field = false) :
    Dict.get (Dict.merged before changes) field = Dict.get before field := by
  have hchanges : changes.lookup field = none := by
    rw [List.lookup_eq_none_iff]
    intro kv hkv
    simp only [Dict.has, List.contains_eq_mem, decide_eq_false_iff_not] at hno
    rw [bne_iff_ne]
    rintro rfl
    exact hno (List.mem_map_of_mem hkv)
  have hfilter : (before.filter fun kv => !changes.has kv.1).lookup field =
      before.lookup field := by
    induction before with
    | nil => rfl
    | cons kv kvs ih =>
      obtain ⟨k, v⟩ := kv
      by_cases hk : field = k
      · subst hk
        simp [hno]
      · have hbeq : (field == k) = false := by simp [hk]
        by_cases hkeep : changes.has k = true <;> simp [List.lookup_cons, hkeep, hbeq, ih]
  rw [Dict.get, Dict.merged, List.lookup_append, hfilter, hchanges, Option.or_none, Dict.get]

theorem Dict.get_assigned {other : String} {value : Json} (hne : other ≠ field) :
    Dict.get (Dict.assigned before field value) other = before.get other :=
  Dict.get_merged (by simp [Dict.has, hne])

theorem Dict.get_assigned_self {value : Json} :
    Dict.get (Dict.assigned before field value) field = value := by
  have hno : Dict.has (before.filter fun kv => !Dict.has [(field, value)] kv.1) field = false := by
    simp [Dict.has]
  rw [Dict.assigned, Dict.merged, Dict.get_append hno, Dict.get_cons, if_pos rfl]

theorem Dict.get_append_eq :
    Dict.get (d ++ d') field = if d.has field then d.get field else d'.get field := by
  split_ifs with hhas
  · have hsome : (d.lookup field).isSome = true := by
      rw [List.lookup_isSome_iff]
      simp only [Dict.has, List.contains_eq_mem, decide_eq_true_eq, List.mem_map] at hhas
      obtain ⟨kv, hkv, rfl⟩ := hhas
      exact ⟨kv, hkv, by simp⟩
    obtain ⟨v, hv⟩ := Option.isSome_iff_exists.mp hsome
    rw [Dict.get, Dict.get, List.lookup_append, hv, Option.some_or]
  · exact Dict.get_append (Bool.eq_false_iff.mpr hhas)

theorem Dict.has_iff : d.has f = true ↔ f ∈ d.map Prod.fst := by
  simp [Dict.has]

theorem Dict.has_assigned {g : String} :
    (Dict.assigned d f v).has g = true ↔ d.has g = true ∨ g = f := by
  simp only [Dict.has_iff, Dict.assigned, Dict.merged, List.map_append, List.mem_append,
    List.mem_map, List.mem_filter, List.map_cons, List.map_nil, List.mem_singleton]
  by_cases heq : g = f
  · simp [heq]
  · simp only [heq, or_false]
    constructor
    · rintro ⟨kv, ⟨hkv, _⟩, rfl⟩
      exact ⟨kv, hkv, rfl⟩
    · rintro ⟨kv, hkv, rfl⟩
      exact ⟨kv, ⟨hkv, by simp [Dict.has, heq]⟩, rfl⟩

theorem Dict.nodup_assigned (hd : (d.map Prod.fst).Nodup) :
    ((Dict.assigned d f v).map Prod.fst).Nodup := by
  rw [Dict.assigned, Dict.merged, List.map_append, List.nodup_append]
  refine ⟨(List.filter_sublist.map Prod.fst).nodup hd, by simp, ?_⟩
  rintro k hk _ hf rfl
  obtain ⟨kv, hkv, rfl⟩ := List.mem_map.mp hk
  obtain hf := List.mem_singleton.mp hf
  simpa [Dict.has, hf] using (List.mem_filter.mp hkv).2

/-- What is known of a `has` that fails. -/
theorem Dict.get_of_not_has (hno : ¬ d.has f = true) : d.get f = .null := by
  rw [Dict.has_iff] at hno
  rw [Dict.get, List.lookup_eq_none_iff.mpr, Option.getD_none]
  rintro kv hkv
  rw [bne_iff_ne]
  rintro rfl
  exact hno (List.mem_map_of_mem hkv)

theorem Dict.get_map {g : Json → Json} (hg : g .null = .null) (field : String) :
    Dict.get (d.map fun kv => (kv.1, g kv.2)) field = g (d.get field) := by
  induction d with
  | nil => exact hg.symm
  | cons kv d ih =>
    rw [List.map_cons, Dict.get_cons, Dict.get_cons]
    split_ifs
    · rfl
    · exact ih

theorem Dict.get_filter {p : String → Bool} (hp : p field = true) :
    Dict.get (d.filter fun kv => p kv.1) field = d.get field := by
  induction d with
  | nil => rfl
  | cons kv d ih =>
    rw [List.filter_cons, Dict.get_cons]
    by_cases hkv : field = kv.1
    · rw [← hkv, if_pos hp, Dict.get_cons, if_pos hkv, if_pos rfl]
    · rw [if_neg hkv]
      split_ifs
      · rw [Dict.get_cons, if_neg hkv]
        exact ih
      · exact ih

/-- What `changes` names is as there. -/
theorem Dict.get_merged_of_has (hhas : changes.has field = true) :
    Dict.get (Dict.merged before changes) field = changes.get field := by
  rw [Dict.merged, Dict.get_append]
  rw [← Bool.not_eq_true, Dict.has_iff]
  intro hmem
  obtain ⟨kv, hkv, rfl⟩ := List.mem_map.mp hmem
  simpa [hhas] using (List.mem_filter.mp hkv).2

end HomeAddons.Renovation
