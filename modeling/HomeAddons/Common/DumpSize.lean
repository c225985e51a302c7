import HomeAddons.Common.Canonical

/-!
# The size of a dump in bytes

`len(json.dumps(v, …).encode("utf-8"))` as a sum over the document. It does not depend on the order
of the items, so the compact dump and the one with sorted keys have the same size.

* `utf8ByteSize_canonical_eq`, `utf8ByteSize_printed`: the size of the two dumps.
* `quotedSize_plain`: a text that needs no escape and has only ASCII characters.
-/

namespace HomeAddons.Common

/-! ## Texts -/

/-- The bytes of a list of characters. -/
def utf8Length (cs : List Char) : ℕ := (cs.map Char.utf8Size).sum

@[simp] theorem utf8Length_nil : utf8Length [] = 0 := rfl

@[simp] theorem utf8Length_cons (c : Char) (cs : List Char) :
    utf8Length (c :: cs) = c.utf8Size + utf8Length cs := by simp [utf8Length]

@[simp] theorem utf8Length_append (cs cs' : List Char) :
    utf8Length (cs ++ cs') = utf8Length cs + utf8Length cs' := by simp [utf8Length]

theorem utf8ByteSize_eq (s : String) : s.utf8ByteSize = utf8Length s.toList := by
  obtain ⟨cs, rfl⟩ : ∃ cs, s = String.ofList cs := ⟨s.toList, by simp⟩
  rw [String.toList_ofList]
  induction cs with
  | nil => rfl
  | cons c cs ih =>
    rw [String.ofList_cons, String.utf8ByteSize_append, String.utf8ByteSize_singleton, ih,
      utf8Length_cons]

/-- The bytes of the escape of a character. -/
def escapeSize (c : Char) : ℕ :=
  if c.toNat = 0x22 ∨ c.toNat = 0x5c ∨ c.toNat = 0x0a ∨ c.toNat = 0x0d ∨ c.toNat = 0x09 ∨
      c.toNat = 0x0c ∨ c.toNat = 0x08 then 2
  else if c.toNat < 0x20 then 6
  else c.utf8Size

/-- The bytes of a string literal. -/
def quotedSize (s : String) : ℕ := 2 + (s.toList.map escapeSize).sum

/-- A hexadecimal digit is one byte. -/
theorem utf8Size_hex {k : ℕ} (hk : k < 16) :
    (Char.ofNat (if k < 10 then 48 + k else 87 + k)).utf8Size = 1 := by
  interval_cases k <;> rfl

theorem utf8Length_escapeChar (c : Char) : utf8Length (escapeChar c).toList = escapeSize c := by
  unfold escapeChar escapeSize
  dsimp only
  by_cases hlow : c.toNat < 0x20
  · have hhigh := utf8Size_hex (by omega : c.toNat / 16 < 16)
    have hrest := utf8Size_hex (by omega : c.toNat % 16 < 16)
    generalize Char.ofNat (if c.toNat / 16 < 10 then 48 + c.toNat / 16 else 87 + c.toNat / 16) = a
      at hhigh
    generalize Char.ofNat (if c.toNat % 16 < 10 then 48 + c.toNat % 16 else 87 + c.toNat % 16) = b
      at hrest
    have hescape : utf8Length (String.ofList ['\\', 'u', '0', '0', a, b]).toList = 6 := by
      rw [String.toList_ofList]
      simp only [utf8Length_cons, utf8Length_nil, hhigh, hrest]
      rfl
    split_ifs <;> first
      | omega
      | rfl
  · have hplain : utf8Length (String.ofList [c]).toList = c.utf8Size := by
      rw [String.toList_ofList, utf8Length_cons, utf8Length_nil, Nat.add_zero]
    split_ifs <;> first
      | omega
      | rfl

theorem utf8Length_quotedChars (s : String) : utf8Length (quotedChars s) = quotedSize s := by
  have hflat : ∀ cs : List Char, utf8Length (cs.flatMap fun c => (escapeChar c).toList) =
      (cs.map escapeSize).sum := by
    intro cs
    induction cs with
    | nil => rfl
    | cons c cs ih =>
      rw [List.flatMap_cons, utf8Length_append, utf8Length_escapeChar, ih, List.map_cons,
        List.sum_cons]
  have hquote : Char.utf8Size '"' = 1 := rfl
  rw [quotedChars, List.cons_append, utf8Length_cons, utf8Length_append, hflat, utf8Length_cons,
    utf8Length_nil, hquote, quotedSize]
  omega

/-- A character that is written as it is, in one byte. -/
def isPlain (c : Char) : Bool := 0x20 ≤ c.toNat ∧ c.toNat < 0x7f ∧ c.toNat ≠ 0x22 ∧ c.toNat ≠ 0x5c

theorem escapeSize_plain {c : Char} (h : isPlain c = true) : escapeSize c = 1 := by
  have hbounds := of_decide_eq_true h
  rw [escapeSize, if_neg (by omega), if_neg (by omega), Char.utf8Size_eq_one_iff,
    UInt32.le_iff_toNat_le]
  exact Nat.le_of_lt hbounds.2.1

/-- A text that is written as it is. -/
theorem quotedSize_plain {s : String} (h : s.toList.all isPlain = true) :
    quotedSize s = 2 + s.length := by
  have hsum : ∀ cs : List Char, cs.all isPlain = true → (cs.map escapeSize).sum = cs.length := by
    intro cs hcs
    induction cs with
    | nil => rfl
    | cons c cs ih =>
      obtain ⟨hc, hcs⟩ := Bool.and_eq_true_iff.mp hcs
      rw [List.map_cons, List.sum_cons, escapeSize_plain hc, ih hcs, List.length_cons,
        Nat.add_comm]
  rw [quotedSize, hsum _ h, String.length_toList]

/-! ## Documents -/

mutual

/-- The bytes of a dump. -/
def Json.dumpSize : Json → ℕ
  | .null => 4
  | .bool b => if b then 4 else 5
  | .int n => utf8Length (toString n).toList
  | .float _ text => utf8Length text.toList
  | .str s => quotedSize s
  | .arr [] => 2
  | .arr (v :: vs) => 1 + v.dumpSize + itemsSize vs
  | .obj [] => 2
  | .obj ((k, v) :: kvs) => 2 + quotedSize k + v.dumpSize + pairsSize kvs

/-- The bytes of the rest of a list. -/
def itemsSize : List Json → ℕ
  | [] => 1
  | v :: vs => 1 + v.dumpSize + itemsSize vs

/-- The bytes of the rest of a `dict`. -/
def pairsSize : List (String × Json) → ℕ
  | [] => 1
  | (k, v) :: kvs => 2 + quotedSize k + v.dumpSize + pairsSize kvs

end

mutual

theorem utf8Length_printed : ∀ v : Json, utf8Length (printed v) = v.dumpSize
  | .null => rfl
  | .bool b => by cases b <;> rfl
  | .int n => rfl
  | .float _ text => rfl
  | .str s => utf8Length_quotedChars s
  | .arr [] => rfl
  | .arr (v :: vs) => by
    have hopen : Char.utf8Size '[' = 1 := rfl
    rw [printed, List.cons_append, utf8Length_cons, utf8Length_append, utf8Length_printed v,
      utf8Length_printedItems vs, Json.dumpSize, hopen]
    omega
  | .obj [] => rfl
  | .obj ((k, v) :: kvs) => by
    have hopen : Char.utf8Size '\x7b' = 1 := rfl
    have hcolon : Char.utf8Size ':' = 1 := rfl
    simp only [printed, List.cons_append, List.append_assoc, utf8Length_cons, utf8Length_append,
      utf8Length_quotedChars, utf8Length_printed v, utf8Length_printedPairs kvs, Json.dumpSize,
      hopen, hcolon]
    omega

theorem utf8Length_printedItems : ∀ vs : List Json, utf8Length (printedItems vs) = itemsSize vs
  | [] => rfl
  | v :: vs => by
    have hcomma : Char.utf8Size ',' = 1 := rfl
    rw [printedItems, List.cons_append, utf8Length_cons, utf8Length_append, utf8Length_printed v,
      utf8Length_printedItems vs, itemsSize, hcomma]
    omega

theorem utf8Length_printedPairs : ∀ kvs : List (String × Json),
    utf8Length (printedPairs kvs) = pairsSize kvs
  | [] => rfl
  | (k, v) :: kvs => by
    have hcomma : Char.utf8Size ',' = 1 := rfl
    have hcolon : Char.utf8Size ':' = 1 := rfl
    simp only [printedPairs, List.cons_append, List.append_assoc, utf8Length_cons,
      utf8Length_append, utf8Length_quotedChars, utf8Length_printed v, utf8Length_printedPairs kvs,
      pairsSize, hcomma, hcolon]
    omega

end

theorem pairsSize_eq (kvs : List (String × Json)) :
    pairsSize kvs = 1 + (kvs.map fun kv => 2 + quotedSize kv.1 + kv.2.dumpSize).sum := by
  induction kvs with
  | nil => rfl
  | cons kv kvs ih =>
    rw [pairsSize, ih, List.map_cons, List.sum_cons]
    omega

theorem dumpSize_obj {kvs : List (String × Json)} (h : kvs ≠ []) :
    (Json.obj kvs).dumpSize = pairsSize kvs := by
  cases kvs with
  | nil => exact absurd rfl h
  | cons kv kvs => rw [Json.dumpSize, pairsSize]

mutual

/-- The order of the items does not matter. -/
theorem dumpSize_sorted : ∀ v : Json, v.sorted.dumpSize = v.dumpSize
  | .null => rfl
  | .bool _ => rfl
  | .int _ => rfl
  | .float _ _ => rfl
  | .str _ => rfl
  | .arr [] => rfl
  | .arr (v :: vs) => by
    rw [Json.sorted, sortedItems, Json.dumpSize, Json.dumpSize, dumpSize_sorted v,
      itemsSize_sorted vs]
  | .obj [] => rfl
  | .obj (kv :: kvs) => by
    have hperm := List.perm_insertionSort (fun a b : String × Json => a.1 ≤ b.1)
      (sortedPairs (kv :: kvs))
    have hne : (sortedPairs (kv :: kvs)).insertionSort (fun a b => a.1 ≤ b.1) ≠ [] := by
      intro hnil
      have hlength := hperm.length_eq
      rw [hnil, sortedPairs_eq_map, List.length_map] at hlength
      cases hlength
    rw [Json.sorted, dumpSize_obj hne, dumpSize_obj (List.cons_ne_nil _ _), pairsSize_eq,
      (hperm.map _).sum_nat, ← pairsSize_eq, pairsSize_sorted]

theorem itemsSize_sorted : ∀ vs : List Json, itemsSize (sortedItems vs) = itemsSize vs
  | [] => rfl
  | v :: vs => by rw [sortedItems, itemsSize, itemsSize, dumpSize_sorted v, itemsSize_sorted vs]

theorem pairsSize_sorted : ∀ kvs : List (String × Json),
    pairsSize (sortedPairs kvs) = pairsSize kvs
  | [] => rfl
  | (k, v) :: kvs => by
    rw [sortedPairs, pairsSize, pairsSize, dumpSize_sorted v, pairsSize_sorted kvs]

end

/-- The size of the dump in the order of the items. -/
theorem utf8ByteSize_printed (v : Json) :
    (String.ofList (printed v)).utf8ByteSize = v.dumpSize := by
  rw [utf8ByteSize_eq, String.toList_ofList, utf8Length_printed]

/-- The size of the dump with sorted keys. -/
theorem utf8ByteSize_canonical_eq (v : Json) : (canonical v).utf8ByteSize = v.dumpSize := by
  rw [utf8ByteSize_eq, canonical_eq_printed, utf8Length_printed, dumpSize_sorted]

end HomeAddons.Common
