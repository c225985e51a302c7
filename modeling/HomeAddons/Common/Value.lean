import HomeAddons.Common.Canonical
import HomeAddons.Common.Text

/-!
# Unvalidated documents

What `json.loads` may return before any validator has seen it. A `str` is a list of code points,
and an escape such as `\ud800` makes a lone surrogate of it, which no UTF-8 text can hold.

* `PyStr.shown`: the text with U+FFFD for each surrogate. No pattern and no parser of the programs
  tells the two apart: neither is a letter, a digit, a space or a delimiter.
* `Value.hashable`: whether the value can be looked up in a set or in a `dict`.
* `Value.toJson?`: the document as it can be encoded, if it can.
* `toJson?_isSome`: it can be encoded iff no text of it has a surrogate.
* `encodable_sorted`: the order of the items does not matter.
-/

namespace HomeAddons.Common

/-- A code point of a `str`. -/
inductive CodePoint where
  | char (c : Char)
  | surrogate (k : Fin 2048)
  deriving DecidableEq

/-- A `str` of Python. -/
abbrev PyStr := List CodePoint

namespace CodePoint

/-- `ord(c)`. -/
def ord : CodePoint → ℕ
  | char c => c.toNat
  | surrogate k => 0xD800 + k

/-- The character that stands for the code point where texts are matched. -/
def shown : CodePoint → Char
  | char c => c
  | surrogate _ => Char.ofNat 0xFFFD

def isChar : CodePoint → Bool
  | char _ => true
  | surrogate _ => false

/-- `c.isspace()`. -/
def isSpace (c : CodePoint) : Bool := isPySpace c.shown

theorem isChar_of_isSpace {c : CodePoint} (h : c.isSpace = true) : c.isChar = true := by
  cases c with
  | char c => rfl
  | surrogate k =>
    rw [isSpace, shown] at h
    exact absurd h (by decide)

end CodePoint

namespace PyStr

/-- A literal of the program. -/
def ofString (s : String) : PyStr := s.toList.map .char

/-- The text that patterns are matched against. -/
def shown (s : PyStr) : String := String.ofList (s.map CodePoint.shown)

/-- `s.encode("utf-8")` does not raise. -/
def encodable (s : PyStr) : Bool := s.all CodePoint.isChar

/-- `s.strip()`. -/
def strip (s : PyStr) : PyStr := (s.dropWhile CodePoint.isSpace).rdropWhile CodePoint.isSpace

/-- The order of texts is the order of their code points. -/
def le (s t : PyStr) : Bool := s.map CodePoint.ord ≤ t.map CodePoint.ord

@[simp] theorem shown_ofString (s : String) : (ofString s).shown = s := by
  have hshown : (s.toList.map CodePoint.char).map CodePoint.shown = s.toList := by
    rw [List.map_map]
    exact List.map_id s.toList
  rw [shown, ofString, hshown, String.ofList_toList]

theorem ofString_inj {s t : String} : ofString s = ofString t ↔ s = t := by
  constructor
  · intro h
    rw [← shown_ofString s, h, shown_ofString]
  · exact congrArg ofString

theorem all_dropWhile {p q : CodePoint → Bool} (h : ∀ c, p c = true → q c = true) (s : PyStr) :
    (s.dropWhile p).all q = s.all q := by
  induction s with
  | nil => rfl
  | cons c s ih =>
    rw [List.dropWhile_cons]
    split
    · next hc => rw [ih, List.all_cons, h c hc, Bool.true_and]
    · rfl

/-- No surrogate is stripped. -/
theorem encodable_strip (s : PyStr) : s.strip.encodable = s.encodable := by
  have hspace : ∀ c : CodePoint, c.isSpace = true → c.isChar = true :=
    fun c => CodePoint.isChar_of_isSpace
  unfold strip encodable List.rdropWhile
  rw [List.all_reverse, all_dropWhile hspace, List.all_reverse, all_dropWhile hspace]

end PyStr

/-- A value of a document. `json.loads` reads no integer of more than 4300 digits. -/
inductive Value where
  | null
  | bool (b : Bool)
  | int (n : ℤ)
  | float (value : Option ℚ) (text : String)
  | str (s : PyStr)
  | arr (items : List Value)
  | obj (items : List (PyStr × Value))

/-- A Python `dict`. -/
abbrev ValueDict := List (PyStr × Value)

namespace ValueDict

/-- `d[key]` of a key that is there. -/
def get (d : ValueDict) (key : String) : Value := (d.lookup (PyStr.ofString key)).getD .null

/-- `set(d) == names`. -/
def keysAre (d : ValueDict) (names : List String) : Bool :=
  (d.all fun kv => (names.map PyStr.ofString).contains kv.1) &&
    names.all fun k => (d.map Prod.fst).contains (PyStr.ofString k)

end ValueDict

namespace Value

/-- `isinstance(v, str)`. -/
def asStr? : Value → Option PyStr
  | str s => some s
  | _ => none

/-- `isinstance(v, bool)`. -/
def asBool? : Value → Option Bool
  | bool b => some b
  | _ => none

/-- `isinstance(v, int) and not isinstance(v, bool)`. -/
def asInt? : Value → Option ℤ
  | int n => some n
  | _ => none

/-- `isinstance(v, list)`. -/
def asList? : Value → Option (List Value)
  | arr items => some items
  | _ => none

/-- `isinstance(v, dict)`. -/
def asDict? : Value → Option ValueDict
  | obj items => some items
  | _ => none

/-- `v is True`. -/
def isTrue : Value → Bool
  | bool b => b
  | _ => false

/-- `v == n`. -/
def eqInt (v : Value) (n : ℤ) : Bool :=
  match v with
  | int m => m == n
  | bool b => (if b then 1 else 0) == n
  | float (some q) _ => q == (n : ℚ)
  | _ => false

/-- `v == s` for a text of the program. -/
def eqStr (v : Value) (s : String) : Bool :=
  match v with
  | str t => t == PyStr.ofString s
  | _ => false

/-- A `dict` or a `list` cannot be an element of a set or a key. -/
def hashable : Value → Bool
  | arr _ => false
  | obj _ => false
  | _ => true

/-- The text of the set that `v` is. -/
def among? (v : Value) (names : List String) : Option String := names.find? v.eqStr

end Value

mutual

/-- The document as it is encoded; `none` is `UnicodeEncodeError`. -/
def Value.toJson? : Value → Option Json
  | .null => some .null
  | .bool b => some (.bool b)
  | .int n => some (.int n)
  | .float value text => some (.float value text)
  | .str s => if s.encodable then some (.str s.shown) else none
  | .arr items => (itemsToJson? items).map .arr
  | .obj items => (pairsToJson? items).map .obj

def itemsToJson? : List Value → Option (List Json)
  | [] => some []
  | v :: vs => v.toJson?.bind fun j => (itemsToJson? vs).map (j :: ·)

def pairsToJson? : List (PyStr × Value) → Option (List (String × Json))
  | [] => some []
  | (k, v) :: kvs =>
    if k.encodable then v.toJson?.bind fun j => (pairsToJson? kvs).map ((k.shown, j) :: ·) else none

end

mutual

/-- No text of the document has a surrogate. -/
def Value.encodable : Value → Bool
  | .str s => s.encodable
  | .arr items => itemsEncodable items
  | .obj items => pairsEncodable items
  | _ => true

def itemsEncodable : List Value → Bool
  | [] => true
  | v :: vs => v.encodable && itemsEncodable vs

def pairsEncodable : List (PyStr × Value) → Bool
  | [] => true
  | (k, v) :: kvs => k.encodable && v.encodable && pairsEncodable kvs

end

mutual

theorem toJson?_isSome : ∀ v : Value, v.toJson?.isSome = v.encodable
  | .null | .bool _ | .int _ | .float _ _ => rfl
  | .str s => by
    rw [Value.toJson?, Value.encodable]
    cases s.encodable <;> rfl
  | .arr items => by
    rw [Value.toJson?, Value.encodable, Option.isSome_map, itemsToJson?_isSome items]
  | .obj items => by
    rw [Value.toJson?, Value.encodable, Option.isSome_map, pairsToJson?_isSome items]

theorem itemsToJson?_isSome : ∀ vs : List Value, (itemsToJson? vs).isSome = itemsEncodable vs
  | [] => rfl
  | v :: vs => by
    have hv := toJson?_isSome v
    have hvs := itemsToJson?_isSome vs
    rw [itemsToJson?, itemsEncodable, ← hv, ← hvs]
    cases v.toJson? with
    | none => rfl
    | some j => rw [Option.bind_some, Option.isSome_map, Option.isSome_some, Bool.true_and]

theorem pairsToJson?_isSome : ∀ kvs : List (PyStr × Value),
    (pairsToJson? kvs).isSome = pairsEncodable kvs
  | [] => rfl
  | (k, v) :: kvs => by
    have hv := toJson?_isSome v
    have hkvs := pairsToJson?_isSome kvs
    rw [pairsToJson?, pairsEncodable, ← hv, ← hkvs]
    cases k.encodable with
    | false => rfl
    | true =>
      cases v.toJson? with
      | none => rfl
      | some j =>
        rw [if_pos rfl, Option.bind_some, Option.isSome_map, Option.isSome_some, Bool.true_and,
          Bool.true_and]

end

mutual

/-- The document with the items of every object in the order of their keys. -/
def Value.sorted : Value → Value
  | .arr items => .arr (itemsSorted items)
  | .obj items => .obj ((pairsSorted items).insertionSort fun a b => PyStr.le a.1 b.1 = true)
  | v => v

def itemsSorted : List Value → List Value
  | [] => []
  | v :: vs => v.sorted :: itemsSorted vs

def pairsSorted : List (PyStr × Value) → List (PyStr × Value)
  | [] => []
  | (k, v) :: kvs => (k, v.sorted) :: pairsSorted kvs

end

theorem pairsEncodable_perm {kvs kvs' : List (PyStr × Value)} (h : kvs.Perm kvs') :
    pairsEncodable kvs = pairsEncodable kvs' := by
  induction h with
  | nil => rfl
  | cons kv _ ih => rw [pairsEncodable, pairsEncodable, ih]
  | swap kv kv' kvs =>
    simp only [pairsEncodable]
    ac_rfl
  | trans _ _ ih ih' => exact ih.trans ih'

mutual

/-- The order of the items does not matter. -/
theorem encodable_sorted : ∀ v : Value, v.sorted.encodable = v.encodable
  | .null | .bool _ | .int _ | .float _ _ | .str _ => rfl
  | .arr items => by
    rw [Value.sorted, Value.encodable, Value.encodable, itemsEncodable_sorted items]
  | .obj items => by
    rw [Value.sorted, Value.encodable, Value.encodable,
      pairsEncodable_perm (List.perm_insertionSort _ _), pairsEncodable_sorted items]

theorem itemsEncodable_sorted : ∀ vs : List Value,
    itemsEncodable (itemsSorted vs) = itemsEncodable vs
  | [] => rfl
  | v :: vs => by
    rw [itemsSorted, itemsEncodable, itemsEncodable, encodable_sorted v, itemsEncodable_sorted vs]

theorem pairsEncodable_sorted : ∀ kvs : List (PyStr × Value),
    pairsEncodable (pairsSorted kvs) = pairsEncodable kvs
  | [] => rfl
  | (k, v) :: kvs => by
    rw [pairsSorted, pairsEncodable, pairsEncodable, encodable_sorted v, pairsEncodable_sorted kvs]

end

end HomeAddons.Common
