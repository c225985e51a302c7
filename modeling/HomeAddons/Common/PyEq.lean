import HomeAddons.Common.Canonical

/-!
# Comparing documents

Python compares two documents value by value, and a `dict` with a `dict` key by key, whatever the
order of the items. What two values that are no containers have to be is a parameter.

* `Json.pyEq`: `a == b`.
* `Json.sameDump`: the canonical dumps of `a` and `b` are the same text.
* `eqBy_lookup`: equal objects have the same keys, and equal values under them.
-/

namespace HomeAddons.Common

mutual

/-- Equality of documents over an equality of the values that are no containers. -/
def Json.eqBy (leaf : Json → Json → Bool) : Json → Json → Bool
  | .arr vs, .arr ws => eqItems leaf vs ws
  | .arr _, _ => false
  | .obj a, .obj b => eqPairs leaf a b && b.all fun kv => Dict.has a kv.1
  | .obj _, _ => false
  | v, w => leaf v w

/-- The items of two lists, one by one. -/
def eqItems (leaf : Json → Json → Bool) : List Json → List Json → Bool
  | [], [] => true
  | v :: vs, w :: ws => v.eqBy leaf w && eqItems leaf vs ws
  | _, _ => false

/-- Every item has its value under the same key. -/
def eqPairs (leaf : Json → Json → Bool) : List (String × Json) → Dict → Bool
  | [], _ => true
  | (k, v) :: kvs, b => (b.lookup k).any (fun w => v.eqBy leaf w) && eqPairs leaf kvs b

end

/-- `d[key] = value`. -/
def Dict.assign (d : Dict) (key : String) (value : Json) : Dict :=
  if d.has key then d.map fun kv => if kv.1 = key then (key, value) else kv else d ++ [(key, value)]

namespace Json

/-- `==` of two values that are no containers: `True == 1`, `2.0 == 2`, and a NaN is not itself. -/
def pyLeaf : Json → Json → Bool
  | .null, .null => true
  | .str s, .str t => s = t
  | .bool b, w => w.eqInt (if b then 1 else 0)
  | .int n, w => w.eqInt n
  | .float (some q) _, .float (some r) _ => q = r
  | .float (some q) _, .int n => q = n
  | .float (some q) _, .bool b => q = (if b then 1 else 0 : ℚ)
  | .float none s, .float none t => s = t && s ≠ "NaN"
  | _, _ => false

/-- `a == b`. -/
def pyEq : Json → Json → Bool := eqBy pyLeaf

/-- The dumps of two values that are no containers are the same. -/
def sameLeaf : Json → Json → Bool
  | .null, .null => true
  | .bool b, .bool c => b = c
  | .int m, .int n => m = n
  | .float _ s, .float _ t => s = t
  | .str s, .str t => s = t
  | _, _ => false

/-- `canonical_json(a) == canonical_json(b)`. -/
def sameDump : Json → Json → Bool := eqBy sameLeaf

theorem eqBy_obj {leaf : Json → Json → Bool} {a b : Dict} : (obj a).eqBy leaf (.obj b) =
    (eqPairs leaf a b && b.all fun kv => Dict.has a kv.1) := rfl

section Leaves

attribute [local simp] eqBy sameLeaf pyLeaf

variable {v w : Json}

theorem pyEq_str {s : String} : v.pyEq (.str s) = true ↔ v = .str s := by
  cases v with
  | str t => simp [pyEq]
  | float q t => cases q <;> simp [pyEq]
  | _ => simp [pyEq, eqInt]

theorem sameDump_asInt? (h : v.sameDump w = true) : v.asInt? = w.asInt? := by
  cases v <;> cases w <;> simp_all [sameDump, asInt?]

theorem sameDump_asStr? (h : v.sameDump w = true) : v.asStr? = w.asStr? := by
  cases v <;> cases w <;> simp_all [sameDump, asStr?]

end Leaves

end Json

variable {leaf : Json → Json → Bool}

variable {a b : Dict} {v : Json}

theorem eqPairs_iff {a : List (String × Json)} : eqPairs leaf a b = true ↔
    ∀ kv ∈ a, (b.lookup kv.1).any (fun w => kv.2.eqBy leaf w) = true := by
  induction a with
  | nil => exact ⟨fun _ _ h => absurd h List.not_mem_nil, fun _ => rfl⟩
  | cons kv a ih =>
    obtain ⟨k, v⟩ := kv
    rw [eqPairs, Bool.and_eq_true, ih, List.forall_mem_cons]

theorem lookup_isSome {key : String} : (a.lookup key).isSome = a.has key := by
  induction a with
  | nil => rfl
  | cons kv a ih =>
    obtain ⟨k, v⟩ := kv
    unfold Dict.has at ih ⊢
    rw [List.lookup_cons, List.map_cons, List.contains_cons]
    cases hk : key == k with
    | true => rfl
    | false => rw [Bool.false_or, ← ih]

/-- Equal objects have the same keys. -/
theorem eqBy_has (h : (Json.obj a).eqBy leaf (.obj b) = true) (key : String) :
    a.has key = b.has key := by
  rw [Json.eqBy_obj, Bool.and_eq_true, eqPairs_iff, List.all_eq_true] at h
  rw [Bool.eq_iff_iff]
  constructor
  · intro ha
    rw [← lookup_isSome] at ha
    obtain ⟨v, hv⟩ := Option.isSome_iff_exists.mp ha
    obtain ⟨w, hw, -⟩ := (Option.any_eq_true _ _).mp (h.1 (key, v) (mem_of_lookup hv))
    rw [← lookup_isSome, hw]
    rfl
  · intro hb
    rw [← lookup_isSome] at hb
    obtain ⟨w, hw⟩ := Option.isSome_iff_exists.mp hb
    exact h.2 (key, w) (mem_of_lookup hw)

/-- Equal objects have equal values under each key that they have. -/
theorem eqBy_lookup (h : (Json.obj a).eqBy leaf (.obj b) = true) {key : String}
    (hv : a.lookup key = some v) : ∃ w, b.lookup key = some w ∧ v.eqBy leaf w = true := by
  rw [Json.eqBy_obj, Bool.and_eq_true, eqPairs_iff] at h
  exact (Option.any_eq_true _ _).mp (h.1 (key, v) (mem_of_lookup hv))

/-- Objects with the same dump have the same text under a key. -/
theorem sameDump_get (h : (Json.obj a).sameDump (.obj b) = true) (key : String) :
    (a.get key).sameDump (b.get key) = true := by
  unfold Dict.get
  cases ha : a.lookup key with
  | some v =>
    obtain ⟨w, hw, heq⟩ := eqBy_lookup h ha
    rw [hw]
    exact heq
  | none =>
    have hb : b.lookup key = none := by
      have hhas := eqBy_has h key
      rw [← lookup_isSome, ← lookup_isSome, ha] at hhas
      exact Option.not_isSome_iff_eq_none.mp (ne_true_of_eq_false hhas.symm)
    rw [hb]
    rfl

theorem get_cons {k : String} {d : Dict} (key : String) :
    Dict.get ((k, v) :: d) key = if key = k then v else d.get key := by
  unfold Dict.get
  rw [List.lookup_cons]
  by_cases h : key = k
  · rw [if_pos h, h, beq_self_eq_true]
    rfl
  · rw [if_neg h, beq_eq_false_iff_ne.mpr h]

/-- What an assignment writes. -/
theorem get_assign (d : Dict) (field key : String) (value : Json) :
    (d.assign field value).get key = if key = field then value else d.get key := by
  have hmap : ∀ d : Dict, Dict.get
      (d.map fun kv => if kv.1 = field then (field, value) else kv) key =
        if key = field ∧ d.has field = true then value else d.get key := by
    intro d
    induction d with
    | nil => exact (if_neg fun h => nomatch h.2).symm
    | cons kv d ih =>
      obtain ⟨k, v⟩ := kv
      have hhas : Dict.has ((k, v) :: d) field = true ↔ field = k ∨ Dict.has d field = true := by
        unfold Dict.has
        rw [List.map_cons, List.contains_cons, Bool.or_eq_true, beq_iff_eq]
      rw [List.map_cons, get_cons]
      by_cases hk : k = field
      · rw [if_pos hk, get_cons, ih]
        by_cases hkey : key = field
        · rw [if_pos hkey, if_pos ⟨hkey, hhas.mpr (.inl hk.symm)⟩]
        · rw [if_neg hkey, if_neg fun h => hkey h.1, if_neg fun h => hkey h.1,
            if_neg fun h => hkey (h.trans hk)]
      · rw [if_neg hk, get_cons, ih]
        by_cases hkey : key = k
        · rw [if_pos hkey, if_neg fun h => hk (hkey.symm.trans h.1), if_pos hkey]
        · rw [if_neg hkey, if_neg hkey]
          exact if_congr ⟨fun h => ⟨h.1, hhas.mpr (.inr h.2)⟩,
            fun h => ⟨h.1, (hhas.mp h.2).resolve_left fun h => hk h.symm⟩⟩ rfl rfl
  have happend : ∀ d : Dict, Dict.get (d ++ [(field, value)]) key =
      if d.has key = true then d.get key else if key = field then value else .null := by
    intro d
    unfold Dict.get
    rw [List.lookup_append]
    cases hlookup : d.lookup key with
    | some v =>
      rw [if_pos (by rw [← lookup_isSome, hlookup]; rfl)]
      rfl
    | none =>
      rw [if_neg (by rw [← lookup_isSome, hlookup]; exact Bool.false_ne_true), Option.none_or]
      exact get_cons key
  unfold Dict.assign
  split
  · next hhas =>
    rw [hmap]
    exact if_congr (and_iff_left hhas) rfl rfl
  · next hhas =>
    rw [happend]
    by_cases hkey : key = field
    · rw [if_neg (by rw [hkey]; exact hhas), if_pos hkey, if_pos hkey]
    · rw [if_neg hkey]
      split
      · rfl
      · next hnot =>
        rw [← lookup_isSome, Bool.not_eq_true, Option.isSome_eq_false_iff,
          Option.isNone_iff_eq_none] at hnot
        rw [Dict.get, hnot]
        rfl

end HomeAddons.Common
