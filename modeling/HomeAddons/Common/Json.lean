import Mathlib

/-!
# JSON documents as Python values

What `json.loads` returns: `None`, `bool`, `int`, `float`, `str`, `list` and `dict`. A `float`
is its exact value (`none` for a NaN or an infinity) together with the text `json.dumps` writes
for it; a `dict` is the list of its items.

* `Json.eqInt`, `Json.eqStr`: Python `==` against an integer or a string, where `True == 1` and
  `2.0 == 2`.
* `Json.asInt?` is `isinstance(v, int) and not isinstance(v, bool)`.
* `Json.inStrings`: `v in {…}` for a set of strings, which raises on an unhashable `v`.
* `canonical`: `json.dumps(v, ensure_ascii=False, sort_keys=True, separators=(",", ":"))`.
* `utf8ByteSize_canonical`: a bound on the size of a dump that does not build it.
-/

namespace HomeAddons.Common

/-- A value of a JSON document. -/
inductive Json where
  | null
  | bool (b : Bool)
  | int (n : ℤ)
  | float (value : Option ℚ) (text : String)
  | str (s : String)
  | arr (items : List Json)
  | obj (items : List (String × Json))

/-- A Python `dict` with string keys. -/
abbrev Dict := List (String × Json)

namespace Dict

/-- `d.get(key)`: `None` when the key is absent. -/
def get (d : Dict) (key : String) : Json := (d.lookup key).getD .null

/-- `key in d`. -/
def has (d : Dict) (key : String) : Bool := (d.map Prod.fst).contains key

/-- `set(d) <= names`. -/
def keysWithin (d : Dict) (names : List String) : Bool := d.all fun kv => names.contains kv.1

/-- `names <= set(d)`. -/
def hasAll (d : Dict) (names : List String) : Bool := names.all d.has

/-- `set(d) == names`. -/
def keysAre (d : Dict) (names : List String) : Bool := d.keysWithin names && d.hasAll names

/-- `d.pop(key, None)`. -/
def without (d : Dict) (key : String) : Dict := d.filter fun kv => kv.1 != key

end Dict

namespace Json

/-- `isinstance(v, str)`. -/
def asStr? : Json → Option String
  | str s => some s
  | _ => none

/-- `isinstance(v, bool)`. -/
def asBool? : Json → Option Bool
  | bool b => some b
  | _ => none

/-- `isinstance(v, int) and not isinstance(v, bool)`. -/
def asInt? : Json → Option ℤ
  | int n => some n
  | _ => none

/-- `isinstance(v, list)`. -/
def asList? : Json → Option (List Json)
  | arr items => some items
  | _ => none

/-- `isinstance(v, dict)`. -/
def asDict? : Json → Option Dict
  | obj items => some items
  | _ => none

/-- `v is None`. -/
def isNull : Json → Bool
  | null => true
  | _ => false

/-- `v == n`. -/
def eqInt (v : Json) (n : ℤ) : Bool :=
  match v with
  | int m => m == n
  | bool b => (if b then 1 else 0) == n
  | float (some q) _ => q == (n : ℚ)
  | _ => false

/-- `v == s`. -/
def eqStr (v : Json) (s : String) : Bool :=
  match v with
  | str t => t == s
  | _ => false

/-- `v == x` for a column `x` that is a string or `NULL`. -/
def eqStr? (v : Json) (x : Option String) : Bool :=
  match x with
  | some s => v.eqStr s
  | none => v.isNull

/-- A `dict` or a `list` cannot be an element of a set. -/
def hashable : Json → Bool
  | arr _ => false
  | obj _ => false
  | _ => true

/-- `v in names` for a set of strings; `none` is `TypeError: unhashable type`. -/
def inStrings (v : Json) (names : List String) : Option Bool :=
  if v.hashable then some (names.any v.eqStr) else none

end Json

/-! ## `json.dumps` -/

/-- The escape `json.dumps(…, ensure_ascii=False)` writes for one character. -/
def escapeChar (c : Char) : String :=
  let n := c.toNat
  let hex (k : ℕ) : Char := Char.ofNat (if k < 10 then 48 + k else 87 + k)
  if n = 0x22 then "\\\""
  else if n = 0x5c then "\\\\"
  else if n = 0x0a then "\\n"
  else if n = 0x0d then "\\r"
  else if n = 0x09 then "\\t"
  else if n = 0x0c then "\\f"
  else if n = 0x08 then "\\b"
  else if n < 0x20 then String.ofList ['\\', 'u', '0', '0', hex (n / 16), hex (n % 16)]
  else String.ofList [c]

/-- A string literal of the document. -/
def quoted (s : String) : String := "\"" ++ String.join (s.toList.map escapeChar) ++ "\""

/-- `sep.join(parts)`. -/
def joinWith (sep : String) : List String → String
  | [] => ""
  | [p] => p
  | p :: q :: ps => p ++ sep ++ joinWith sep (q :: ps)

mutual

/-- `_canonical(value)`: the compact dump with sorted keys. -/
def canonical : Json → String
  | .null => "null"
  | .bool b => if b then "true" else "false"
  | .int n => toString n
  | .float _ text => text
  | .str s => quoted s
  | .arr items => "[" ++ joinWith "," (canonicalItems items) ++ "]"
  | .obj items =>
    let sorted := (canonicalPairs items).insertionSort fun a b => a.1 ≤ b.1
    "\x7b" ++ joinWith "," (sorted.map fun kv => quoted kv.1 ++ ":" ++ kv.2) ++ "\x7d"

/-- The dumps of the items of a list. -/
def canonicalItems : List Json → List String
  | [] => []
  | v :: vs => canonical v :: canonicalItems vs

/-- The keys of a `dict` with the dumps of their values. -/
def canonicalPairs : List (String × Json) → List (String × String)
  | [] => []
  | (k, v) :: kvs => (k, canonical v) :: canonicalPairs kvs

end

/-! ## The size of a dump -/

/-- A text has at most four bytes per character. -/
theorem utf8ByteSize_le (s : String) : s.utf8ByteSize ≤ 4 * s.length := by
  obtain ⟨cs, rfl⟩ : ∃ cs, s = String.ofList cs := ⟨s.toList, by simp⟩
  induction cs with
  | nil => simp
  | cons c cs ih =>
    rw [String.ofList_cons, String.utf8ByteSize_append, String.utf8ByteSize_singleton,
      String.length_append, String.length_singleton]
    have := c.utf8Size_le_four
    omega

theorem length_escapeChar (c : Char) : (escapeChar c).length ≤ 6 := by
  dsimp only [escapeChar]
  split_ifs <;> first
    | decide
    | rw [String.length_ofList]
      simp only [List.length_cons, List.length_nil, Nat.reduceAdd, Nat.reduceLeDiff, le_refl]

theorem length_quoted (s : String) : (quoted s).length ≤ 6 * s.length + 2 := by
  have h : ∀ cs : List Char, (String.join (cs.map escapeChar)).length ≤ 6 * cs.length := by
    intro cs
    induction cs with
    | nil => simp
    | cons c cs ih =>
      have := length_escapeChar c
      simp only [String.length_join, List.map_cons, List.sum_cons, List.length_cons] at *
      omega
  have := h s.toList
  simp only [quoted, String.length_append, String.length_toList] at *
  have hq : "\"".length = 1 := rfl
  omega

theorem length_joinWith (sep : String) (parts : List String) :
    (joinWith sep parts).length ≤ (parts.map fun p => p.length + sep.length).sum := by
  fun_induction joinWith sep parts with
  | case1 => simp
  | case2 p => simp
  | case3 p q ps ih =>
    simp only [String.length_append, List.map_cons, List.sum_cons] at *
    omega

mutual

/-- A bound on the number of characters of a dump. -/
def Json.dumpBound : Json → ℕ
  | .null => 4
  | .bool _ => 5
  | .int n => (toString n).length
  | .float _ text => text.length
  | .str s => 6 * s.length + 2
  | .arr items => itemsBound items + 2
  | .obj items => pairsBound items + 2

/-- A bound for the items of a list, with their commas. -/
def itemsBound : List Json → ℕ
  | [] => 0
  | v :: vs => v.dumpBound + 1 + itemsBound vs

/-- A bound for the items of a `dict`, with their colons and commas. -/
def pairsBound : List (String × Json) → ℕ
  | [] => 0
  | (k, v) :: kvs => 6 * k.length + v.dumpBound + 4 + pairsBound kvs

end

mutual

theorem length_canonical : ∀ v : Json, (canonical v).length ≤ v.dumpBound
  | .null => by decide
  | .bool b => by cases b <;> decide
  | .int n => by simp [canonical, Json.dumpBound]
  | .float _ text => by simp [canonical, Json.dumpBound]
  | .str s => by simpa [canonical, Json.dumpBound] using length_quoted s
  | .arr items => by
    have h := (length_joinWith "," (canonicalItems items)).trans (length_canonicalItems items)
    simp only [canonical, Json.dumpBound, String.length_append]
    have h1 : "[".length = 1 := rfl
    have h2 : "]".length = 1 := rfl
    omega
  | .obj items => by
    have hperm := List.perm_insertionSort (fun a b : String × String => a.1 ≤ b.1)
      (canonicalPairs items)
    have hsum := (hperm.map fun kv : String × String => (quoted kv.1 ++ ":" ++ kv.2).length + ",".length).sum_nat
    have h := length_joinWith ","
      (((canonicalPairs items).insertionSort fun a b => a.1 ≤ b.1).map
        fun kv => quoted kv.1 ++ ":" ++ kv.2)
    rw [List.map_map] at h
    simp only [canonical, Json.dumpBound, String.length_append]
    have h1 : "\x7b".length = 1 := rfl
    have h2 : "\x7d".length = 1 := rfl
    have h3 := length_canonicalPairs items
    simp only [Function.comp_def] at h
    omega

theorem length_canonicalItems : ∀ vs : List Json,
    ((canonicalItems vs).map fun p => p.length + ",".length).sum ≤ itemsBound vs
  | [] => by simp [canonicalItems]
  | v :: vs => by
    have hv := length_canonical v
    have hvs := length_canonicalItems vs
    have h1 : ",".length = 1 := rfl
    simp only [canonicalItems, itemsBound, List.map_cons, List.sum_cons]
    omega

theorem length_canonicalPairs : ∀ kvs : List (String × Json),
    ((canonicalPairs kvs).map fun kv => (quoted kv.1 ++ ":" ++ kv.2).length + ",".length).sum ≤
      pairsBound kvs
  | [] => by simp [canonicalPairs]
  | (k, v) :: kvs => by
    have hv := length_canonical v
    have hkvs := length_canonicalPairs kvs
    have hk := length_quoted k
    have h1 : ",".length = 1 := rfl
    have h2 : ":".length = 1 := rfl
    simp only [canonicalPairs, pairsBound, List.map_cons, List.sum_cons, String.length_append] at *
    omega

end

/-- A bound on the size of a dump in bytes that does not build it. -/
theorem utf8ByteSize_canonical (v : Json) : (canonical v).utf8ByteSize ≤ 4 * v.dumpBound :=
  (utf8ByteSize_le _).trans (Nat.mul_le_mul_left 4 (length_canonical v))

end HomeAddons.Common
