import HomeAddons.Common.Json

/-!
# What a canonical dump determines

`canonical` writes a document with its keys in order, so two documents whose objects only differ in
the order of their items have the same dump. `canonical_inj` says that nothing else is lost.

* `Json.sorted`: the document with the items of every object in the order of their keys.
* `printed`: the dump that keeps the order of the items; `canonical_eq_printed` says that
  `canonical` prints the sorted document.
* `printed_inj`: a dump says where it ends, so it can be read from the front of a longer text.
-/

namespace HomeAddons.Common

/-! ## Sorted documents -/

mutual

/-- The document with the items of every object in the order of their keys. -/
def Json.sorted : Json → Json
  | .arr items => .arr (sortedItems items)
  | .obj items => .obj ((sortedPairs items).insertionSort fun a b => a.1 ≤ b.1)
  | v => v

/-- The sorted items of a list. -/
def sortedItems : List Json → List Json
  | [] => []
  | v :: vs => v.sorted :: sortedItems vs

/-- The items of a `dict` with sorted values. -/
def sortedPairs : List (String × Json) → List (String × Json)
  | [] => []
  | (k, v) :: kvs => (k, v.sorted) :: sortedPairs kvs

end

mutual

/-- There is no `float` in the document. -/
def Json.exact : Json → Bool
  | .float _ _ => false
  | .arr items => exactItems items
  | .obj items => exactPairs items
  | _ => true

def exactItems : List Json → Bool
  | [] => true
  | v :: vs => v.exact && exactItems vs

def exactPairs : List (String × Json) → Bool
  | [] => true
  | (_, v) :: kvs => v.exact && exactPairs kvs

end

theorem sortedItems_eq_map (vs : List Json) : sortedItems vs = vs.map Json.sorted := by
  induction vs with
  | nil => rfl
  | cons v vs ih => rw [sortedItems, ih, List.map_cons]

theorem sortedPairs_eq_map (kvs : List (String × Json)) :
    sortedPairs kvs = kvs.map fun kv => (kv.1, kv.2.sorted) := by
  induction kvs with
  | nil => rfl
  | cons kv kvs ih => rw [sortedPairs, ih, List.map_cons]

theorem exactItems_iff (vs : List Json) : exactItems vs = true ↔ ∀ v ∈ vs, v.exact = true := by
  induction vs with
  | nil => simp [exactItems]
  | cons v vs ih => simp [exactItems, ih]

theorem exactPairs_iff (kvs : List (String × Json)) :
    exactPairs kvs = true ↔ ∀ kv ∈ kvs, kv.2.exact = true := by
  induction kvs with
  | nil => simp [exactPairs]
  | cons kv kvs ih => simp [exactPairs, ih]

/-! ## The dump in the order of the items -/

/-- `quoted` as a list of characters. -/
def quotedChars (s : String) : List Char :=
  '"' :: s.toList.flatMap (fun c => (escapeChar c).toList) ++ ['"']

mutual

/-- The compact dump that keeps the order of the items. -/
def printed : Json → List Char
  | .null => "null".toList
  | .bool b => if b then "true".toList else "false".toList
  | .int n => (toString n).toList
  | .float _ text => text.toList
  | .str s => quotedChars s
  | .arr [] => ['[', ']']
  | .arr (v :: vs) => '[' :: printed v ++ printedItems vs
  | .obj [] => ['\x7b', '\x7d']
  | .obj ((k, v) :: kvs) => '\x7b' :: quotedChars k ++ ':' :: printed v ++ printedPairs kvs

/-- The rest of a list. -/
def printedItems : List Json → List Char
  | [] => [']']
  | v :: vs => ',' :: printed v ++ printedItems vs

/-- The rest of a `dict`. -/
def printedPairs : List (String × Json) → List Char
  | [] => ['\x7d']
  | (k, v) :: kvs => ',' :: quotedChars k ++ ':' :: printed v ++ printedPairs kvs

end

theorem toList_quoted (s : String) : (quoted s).toList = quotedChars s := by
  simp [quoted, quotedChars, String.toList_join, List.flatMap_map]

theorem toList_joinWith (p : String) (ps : List String) :
    (joinWith "," (p :: ps)).toList =
      p.toList ++ (ps.map String.toList).flatMap fun cs => ',' :: cs := by
  induction ps generalizing p with
  | nil => simp [joinWith]
  | cons q ps ih => simp [joinWith, ih]

theorem printedItems_eq (vs : List Json) :
    printedItems vs = (vs.map printed).flatMap (fun cs => ',' :: cs) ++ [']'] := by
  induction vs with
  | nil => rfl
  | cons v vs ih => simp [printedItems, ih]

/-- An item of a `dict`. -/
def printedPair (kv : String × List Char) : List Char := quotedChars kv.1 ++ ':' :: kv.2

theorem printedPairs_eq (kvs : List (String × Json)) :
    printedPairs kvs = (kvs.map fun kv => printedPair (kv.1, printed kv.2)).flatMap
      (fun cs => ',' :: cs) ++ ['\x7d'] := by
  induction kvs with
  | nil => rfl
  | cons kv kvs ih => simp [printedPairs, printedPair, ih]

/-- Sorting by the key does not look at the values. -/
theorem sorted_eq {α β γ : Type} {f : α → γ} {g : β → γ} {kvs : List (String × α)}
    {kvs' : List (String × β)}
    (h : kvs.map (fun kv => (kv.1, f kv.2)) = kvs'.map fun kv => (kv.1, g kv.2)) :
    (kvs.insertionSort fun a b => a.1 ≤ b.1).map (fun kv => (kv.1, f kv.2)) =
      (kvs'.insertionSort fun a b => a.1 ≤ b.1).map fun kv => (kv.1, g kv.2) := by
  rw [List.map_insertionSort (fun a b : String × α => a.1 ≤ b.1)
      (fun a b : String × γ => a.1 ≤ b.1) (fun kv => (kv.1, f kv.2)) kvs
      (fun _ _ _ _ => Iff.rfl), h,
    List.map_insertionSort (fun a b : String × β => a.1 ≤ b.1)
      (fun a b : String × γ => a.1 ≤ b.1) (fun kv => (kv.1, g kv.2)) kvs'
      (fun _ _ _ _ => Iff.rfl)]

mutual

/-- The canonical dump is the dump of the sorted document. -/
theorem canonical_eq_printed : ∀ v : Json, (canonical v).toList = printed v.sorted
  | .null => rfl
  | .bool b => by cases b <;> rfl
  | .int n => rfl
  | .float _ _ => rfl
  | .str s => toList_quoted s
  | .arr items => by
    have h := canonicalItems_eq items
    simp only [canonical, Json.sorted, String.toList_append]
    cases items with
    | nil => rfl
    | cons v vs =>
      simp only [canonicalItems, sortedItems, List.map_cons, List.cons.injEq] at h ⊢
      rw [toList_joinWith, h.1, h.2, printed, printedItems_eq]
      simp
  | .obj items => by
    have h := sorted_eq (canonicalPairs_eq items)
    simp only [canonical, Json.sorted, String.toList_append]
    generalize ((canonicalPairs items).insertionSort fun a b => a.1 ≤ b.1) = texts at h ⊢
    generalize ((sortedPairs items).insertionSort fun a b => a.1 ≤ b.1) = kvs at h ⊢
    cases texts with
    | nil =>
      obtain rfl : kvs = [] := by simpa using h.symm
      rfl
    | cons text texts =>
      cases kvs with
      | nil => cases h
      | cons kv kvs =>
        simp only [List.map_cons, List.cons.injEq] at h
        obtain ⟨hkv, hkvs⟩ := h
        have hrest : texts.map (fun kv => (quoted kv.1 ++ ":" ++ kv.2).toList) =
            kvs.map fun kv => printedPair (kv.1, printed kv.2) := by
          have := congrArg (List.map printedPair) hkvs
          simpa [List.map_map, Function.comp_def, printedPair, toList_quoted] using this
        obtain ⟨hk, hv⟩ := Prod.mk.inj hkv
        rw [List.map_cons, toList_joinWith, List.map_map, Function.comp_def, hrest, printed,
          printedPairs_eq]
        simp [toList_quoted, hk, hv]

theorem canonicalItems_eq : ∀ vs : List Json,
    (canonicalItems vs).map String.toList = (sortedItems vs).map printed
  | [] => rfl
  | v :: vs => by
    simp only [canonicalItems, sortedItems, List.map_cons, canonical_eq_printed v,
      canonicalItems_eq vs]

theorem canonicalPairs_eq : ∀ kvs : List (String × Json),
    (canonicalPairs kvs).map (fun kv => (kv.1, kv.2.toList)) =
      (sortedPairs kvs).map fun kv => (kv.1, printed kv.2)
  | [] => rfl
  | (k, v) :: kvs => by
    simp only [canonicalPairs, sortedPairs, List.map_cons, canonical_eq_printed v,
      canonicalPairs_eq kvs]

end

/-! ## Reading a text back -/

/-- The value of a hexadecimal digit in lower case. -/
def hexValue (c : Char) : ℕ := if c.isDigit then c.toNat - 48 else c.toNat - 87

/-- The first character of the inside of a string literal; `none` at its end. -/
def unescape : List Char → Option (Char × List Char)
  | [] => none
  | c :: cs =>
    if c = '"' then none
    else if c = '\\' then
      match cs with
      | '"' :: cs => some ('"', cs)
      | '\\' :: cs => some ('\\', cs)
      | 'n' :: cs => some ('\n', cs)
      | 'r' :: cs => some ('\r', cs)
      | 't' :: cs => some ('\t', cs)
      | 'f' :: cs => some ('\x0c', cs)
      | 'b' :: cs => some ('\x08', cs)
      | 'u' :: _ :: _ :: x :: y :: cs => some (Char.ofNat (16 * hexValue x + hexValue y), cs)
      | _ => none
    else some (c, cs)

variable {c : Char} {n : ℤ} {s t : List Char} {m : ℕ} {v a b : Json} {d : Dict}

theorem char_eq_ofNat {n : ℕ} (h : c.toNat = n) : c = Char.ofNat n := by
  rw [← h, Char.ofNat_toNat]

theorem hexValue_digit : ∀ k < 16,
    hexValue (Char.ofNat (if k < 10 then 48 + k else 87 + k)) = k := by
  decide

theorem unescape_escapeChar (c : Char) (s : List Char) :
    unescape ((escapeChar c).toList ++ s) = some (c, s) := by
  by_cases h₁ : c.toNat = 0x22
  · rw [char_eq_ofNat h₁]; rfl
  by_cases h₂ : c.toNat = 0x5c
  · rw [char_eq_ofNat h₂]; rfl
  by_cases h₃ : c.toNat = 0x0a
  · rw [char_eq_ofNat h₃]; rfl
  by_cases h₄ : c.toNat = 0x0d
  · rw [char_eq_ofNat h₄]; rfl
  by_cases h₅ : c.toNat = 0x09
  · rw [char_eq_ofNat h₅]; rfl
  by_cases h₆ : c.toNat = 0x0c
  · rw [char_eq_ofNat h₆]; rfl
  by_cases h₇ : c.toNat = 0x08
  · rw [char_eq_ofNat h₇]; rfl
  unfold escapeChar
  dsimp only
  rw [if_neg h₁, if_neg h₂, if_neg h₃, if_neg h₄, if_neg h₅, if_neg h₆, if_neg h₇]
  by_cases h₈ : c.toNat < 0x20
  · rw [if_pos h₈, String.toList_ofList]
    show some (Char.ofNat _, s) = some (c, s)
    rw [hexValue_digit _ (by omega), hexValue_digit _ (Nat.mod_lt _ (by omega)),
      Nat.div_add_mod, Char.ofNat_toNat]
  · rw [if_neg h₈, String.toList_ofList]
    have hquote : c ≠ '"' := by
      rintro rfl
      exact h₁ rfl
    have hback : c ≠ '\\' := by
      rintro rfl
      exact h₂ rfl
    simp [unescape, hquote, hback]

theorem quotedChars_inj {k l : String} (h : quotedChars k ++ s = quotedChars l ++ t) :
    k = l ∧ s = t := by
  have hbody : ∀ cs ds : List Char,
      cs.flatMap (fun c => (escapeChar c).toList) ++ '"' :: s =
        ds.flatMap (fun c => (escapeChar c).toList) ++ '"' :: t → cs = ds ∧ s = t := by
    intro cs
    induction cs with
    | nil =>
      intro ds h
      cases ds with
      | nil => exact ⟨rfl, (List.cons.inj h).2⟩
      | cons d ds =>
        have := congrArg unescape h
        rw [List.flatMap_cons, List.append_assoc, unescape_escapeChar] at this
        cases this
    | cons c cs ih =>
      intro ds h
      have hread := congrArg unescape h
      rw [List.flatMap_cons, List.append_assoc, unescape_escapeChar] at hread
      cases ds with
      | nil => cases hread
      | cons d ds =>
        rw [List.flatMap_cons, List.append_assoc, unescape_escapeChar, Option.some.injEq,
          Prod.mk.injEq] at hread
        obtain ⟨rfl, rfl⟩ := ih ds hread.2
        exact ⟨by rw [hread.1], rfl⟩
  have hchars := hbody k.toList l.toList (by simpa [quotedChars] using h)
  exact ⟨String.toList_inj.mp hchars.1, hchars.2⟩

/-! ### Integers -/

/-- A character of the text of an integer. -/
def isIntChar (c : Char) : Bool := c.isDigit || c = '-'

theorem toList_int (n : ℤ) : (toString n).toList =
    match n with
    | .ofNat m => Nat.toDigits 10 m
    | .negSucc m => '-' :: Nat.toDigits 10 (m + 1) := by
  cases n with
  | ofNat m => exact Nat.toList_repr
  | negSucc m =>
    show ("-" ++ Nat.repr (m + 1)).toList = _
    rw [String.toList_append, Nat.toList_repr]
    rfl

theorem toDigits_inj {n : ℕ} (h : Nat.toDigits 10 m = Nat.toDigits 10 n) : m = n := by
  have := congrArg (Nat.ofDigitChars 10 · 0) h
  simpa only [Nat.ofDigitChars_toDigits (by omega : 1 < 10) (by omega : 10 ≤ 10)] using this

theorem isDigit_of_mem (h : c ∈ Nat.toDigits 10 m) : c.isDigit = true :=
  Nat.isDigit_of_mem_toDigits (by omega) (by omega) h

theorem isIntChar_of_mem (h : c ∈ (toString n).toList) : isIntChar c = true := by
  rw [toList_int] at h
  unfold isIntChar
  cases n with
  | ofNat m => simp [isDigit_of_mem h]
  | negSucc m =>
    obtain rfl | h := List.mem_cons.mp h
    · simp
    · simp [isDigit_of_mem h]

theorem toList_int_inj {m : ℤ} (h : (toString m).toList = (toString n).toList) : m = n := by
  have hdash : ∀ k : ℕ, ∀ cs, Nat.toDigits 10 k ≠ '-' :: cs := by
    intro k cs hk
    have := isDigit_of_mem (m := k) (c := '-') (by rw [hk]; exact List.mem_cons_self)
    revert this
    decide
  rw [toList_int, toList_int] at h
  cases m with
  | ofNat m =>
    cases n with
    | ofNat n => rw [toDigits_inj h]
    | negSucc n => exact absurd h (hdash m _)
  | negSucc m =>
    cases n with
    | ofNat n => exact absurd h.symm (hdash n _)
    | negSucc n => rw [Nat.succ_injective (toDigits_inj (List.cons.inj h).2)]

/-- What may follow a value in a dump. -/
def Ends (s : List Char) : Prop := ∀ c ∈ s.head?, c = ',' ∨ c = ']' ∨ c = '\x7d'

theorem Ends.takeWhile (hs : Ends s) :
    ((toString n).toList ++ s).takeWhile isIntChar = (toString n).toList := by
  rw [List.takeWhile_append_of_pos fun c hc => isIntChar_of_mem hc]
  cases s with
  | nil => simp
  | cons c s =>
    have hc : isIntChar c = false := by
      obtain rfl | rfl | rfl := hs c rfl <;> decide
    rw [List.takeWhile_cons_of_neg (by simp [hc]), List.append_nil]

theorem int_inj {m : ℤ} (hs : Ends s) (ht : Ends t)
    (h : (toString m).toList ++ s = (toString n).toList ++ t) : m = n ∧ s = t := by
  have hint : (toString m).toList = (toString n).toList :=
    calc (toString m).toList = ((toString m).toList ++ s).takeWhile isIntChar := hs.takeWhile.symm
      _ = ((toString n).toList ++ t).takeWhile isIntChar := by rw [h]
      _ = (toString n).toList := ht.takeWhile
  rw [hint] at h
  exact ⟨toList_int_inj hint, List.append_cancel_left h⟩

/-! ### Values -/

/-- Which constructor a dump that starts with this character is of. -/
def kindOfChar (c : Char) : ℕ :=
  if c = 'n' then 0
  else if c = 't' then 1
  else if c = 'f' then 2
  else if c = '"' then 3
  else if c = '[' then 4
  else if c = '\x7b' then 5
  else if isIntChar c then 6
  else 7

def kind : Json → ℕ
  | .null => 0
  | .bool true => 1
  | .bool false => 2
  | .str _ => 3
  | .arr _ => 4
  | .obj _ => 5
  | .int _ => 6
  | .float _ _ => 7

theorem kindOfChar_int (h : isIntChar c = true) : kindOfChar c = 6 := by
  have hne : ∀ d, isIntChar d = false → c ≠ d := by
    rintro d hd rfl
    rw [h] at hd
    cases hd
  unfold kindOfChar
  rw [if_neg (hne _ (by decide)), if_neg (hne _ (by decide)), if_neg (hne _ (by decide)),
    if_neg (hne _ (by decide)), if_neg (hne _ (by decide)), if_neg (hne _ (by decide)), if_pos h]

theorem printed_head (hv : v.exact = true) (s : List Char) :
    ∃ c cs, printed v ++ s = c :: cs ∧ kindOfChar c = kind v := by
  cases v with
  | null => exact ⟨_, _, rfl, rfl⟩
  | bool b => cases b <;> exact ⟨_, _, rfl, rfl⟩
  | int n =>
    have hne : (toString n).toList ≠ [] := by
      rw [toList_int]
      cases n with
      | ofNat m => exact Nat.toDigits_ne_nil
      | negSucc m => exact List.cons_ne_nil _ _
    obtain ⟨c, cs, hcs⟩ := List.exists_cons_of_ne_nil hne
    refine ⟨c, cs ++ s, by rw [printed, hcs, List.cons_append], ?_⟩
    exact kindOfChar_int (isIntChar_of_mem (n := n) (by rw [hcs]; exact List.mem_cons_self))
  | float _ _ => cases hv
  | str k => exact ⟨_, _, rfl, rfl⟩
  | arr items => cases items <;> exact ⟨_, _, rfl, rfl⟩
  | obj items =>
    cases items with
    | nil => exact ⟨_, _, rfl, rfl⟩
    | cons kv kvs => exact ⟨_, _, rfl, rfl⟩

theorem kind_eq (ha : a.exact = true) (hb : b.exact = true) (h : printed a ++ s = printed b ++ t) :
    kind a = kind b := by
  obtain ⟨c, cs, hc, hka⟩ := printed_head ha s
  obtain ⟨d, ds, hd, hkb⟩ := printed_head hb t
  rw [hc, hd] at h
  rw [← hka, ← hkb, (List.cons.inj h).1]

theorem printed_ne (hv : v.exact = true) : printed v ++ s ≠ ']' :: t := by
  intro h
  obtain ⟨c, cs, hc, hk⟩ := printed_head hv s
  rw [hc] at h
  rw [(List.cons.inj h).1] at hk
  rcases v with _ | ⟨_ | _⟩ | _ | _ | _ | _ | _
  · cases hk
  · cases hk
  · cases hk
  · cases hk
  · cases hv
  · cases hk
  · cases hk
  · cases hk

theorem ends_items (vs : List Json) (s : List Char) : Ends (printedItems vs ++ s) := by
  cases vs <;> simp [Ends, printedItems]

theorem ends_pairs (kvs : List (String × Json)) (s : List Char) :
    Ends (printedPairs kvs ++ s) := by
  rcases kvs with _ | ⟨⟨k, v⟩, kvs⟩ <;> simp [Ends, printedPairs]

mutual

/-- A dump at the front of a text can be read in only one way. -/
theorem printed_inj : ∀ (a b : Json) (s t : List Char), a.exact = true → b.exact = true → Ends s →
    Ends t → printed a ++ s = printed b ++ t → a = b ∧ s = t
  | .null, b, s, t, ha, hb, _, _, h => by
    obtain rfl : b = .null := by
      have hk := kind_eq ha hb h
      rcases b with _ | ⟨_ | _⟩ | _ | _ | _ | _ | _ <;> simp_all [kind]
    exact ⟨rfl, by simpa [printed] using h⟩
  | .bool x, b, s, t, ha, hb, _, _, h => by
    obtain rfl : b = .bool x := by
      have hk := kind_eq ha hb h
      cases x <;> rcases b with _ | ⟨_ | _⟩ | _ | _ | _ | _ | _ <;> simp_all [kind]
    exact ⟨rfl, List.append_cancel_left h⟩
  | .int n, b, s, t, ha, hb, hs, ht, h => by
    obtain ⟨m, rfl⟩ : ∃ m, b = .int m := by
      have hk := kind_eq ha hb h
      rcases b with _ | ⟨_ | _⟩ | _ | _ | _ | _ | _ <;> simp_all [kind]
    obtain ⟨rfl, rfl⟩ := int_inj hs ht h
    exact ⟨rfl, rfl⟩
  | .float _ _, _, _, _, ha, _, _, _, _ => by cases ha
  | .str k, b, s, t, ha, hb, _, _, h => by
    obtain ⟨l, rfl⟩ : ∃ l, b = .str l := by
      have hk := kind_eq ha hb h
      rcases b with _ | ⟨_ | _⟩ | _ | _ | _ | _ | _ <;> simp_all [kind]
    obtain ⟨rfl, rfl⟩ := quotedChars_inj h
    exact ⟨rfl, rfl⟩
  | .arr [], b, s, t, ha, hb, _, _, h => by
    obtain ⟨ws, rfl⟩ : ∃ ws, b = .arr ws := by
      have hk := kind_eq ha hb h
      rcases b with _ | ⟨_ | _⟩ | _ | _ | _ | _ | _ <;> simp_all [kind]
    cases ws with
    | nil => exact ⟨rfl, by simpa [printed] using h⟩
    | cons w ws =>
      simp only [Json.exact, exactItems, Bool.and_eq_true] at hb
      simp only [printed, List.cons_append, List.append_assoc, List.cons.injEq, true_and] at h
      exact absurd h.symm (printed_ne hb.1)
  | .arr (v :: vs), b, s, t, ha, hb, _, _, h => by
    obtain ⟨ws, rfl⟩ : ∃ ws, b = .arr ws := by
      have hk := kind_eq ha hb h
      rcases b with _ | ⟨_ | _⟩ | _ | _ | _ | _ | _ <;> simp_all [kind]
    cases ws with
    | nil =>
      simp only [Json.exact, exactItems, Bool.and_eq_true] at ha
      simp only [printed, List.cons_append, List.append_assoc, List.cons.injEq, true_and] at h
      exact absurd h (printed_ne ha.1)
    | cons w ws =>
      simp only [Json.exact, exactItems, Bool.and_eq_true] at ha hb
      simp only [printed, List.cons_append, List.append_assoc, List.cons.injEq, true_and] at h
      obtain ⟨rfl, hrest⟩ := printed_inj v w _ _ ha.1 hb.1 (ends_items vs s) (ends_items ws t) h
      obtain ⟨rfl, rfl⟩ := printedItems_inj vs ws s t ha.2 hb.2 hrest
      exact ⟨rfl, rfl⟩
  | .obj [], b, s, t, ha, hb, _, _, h => by
    obtain ⟨kws, rfl⟩ : ∃ kws, b = .obj kws := by
      have hk := kind_eq ha hb h
      rcases b with _ | ⟨_ | _⟩ | _ | _ | _ | _ | _ <;> simp_all [kind]
    rcases kws with _ | ⟨⟨l, w⟩, kws⟩
    · exact ⟨rfl, by simpa [printed] using h⟩
    · simp [printed, quotedChars] at h
  | .obj ((k, v) :: kvs), b, s, t, ha, hb, _, _, h => by
    obtain ⟨kws, rfl⟩ : ∃ kws, b = .obj kws := by
      have hk := kind_eq ha hb h
      rcases b with _ | ⟨_ | _⟩ | _ | _ | _ | _ | _ <;> simp_all [kind]
    rcases kws with _ | ⟨⟨l, w⟩, kws⟩
    · simp [printed, quotedChars] at h
    · simp only [Json.exact, exactPairs, Bool.and_eq_true] at ha hb
      simp only [printed, List.cons_append, List.append_assoc, List.cons.injEq, true_and] at h
      obtain ⟨rfl, hvalue⟩ := quotedChars_inj h
      obtain ⟨rfl, hrest⟩ := printed_inj v w _ _ ha.1 hb.1 (ends_pairs kvs s) (ends_pairs kws t)
        (List.cons.inj hvalue).2
      obtain ⟨rfl, rfl⟩ := printedPairs_inj kvs kws s t ha.2 hb.2 hrest
      exact ⟨rfl, rfl⟩

theorem printedItems_inj : ∀ (vs ws : List Json) (s t : List Char), exactItems vs = true →
    exactItems ws = true → printedItems vs ++ s = printedItems ws ++ t → vs = ws ∧ s = t
  | [], ws, s, t, _, _, h => by
    cases ws with
    | nil => exact ⟨rfl, by simpa [printedItems] using h⟩
    | cons w ws => simp [printedItems] at h
  | v :: vs, ws, s, t, hv, hw, h => by
    cases ws with
    | nil => simp [printedItems] at h
    | cons w ws =>
      simp only [exactItems, Bool.and_eq_true] at hv hw
      simp only [printedItems, List.cons_append, List.append_assoc, List.cons.injEq, true_and] at h
      obtain ⟨rfl, hrest⟩ := printed_inj v w _ _ hv.1 hw.1 (ends_items vs s) (ends_items ws t) h
      obtain ⟨rfl, rfl⟩ := printedItems_inj vs ws s t hv.2 hw.2 hrest
      exact ⟨rfl, rfl⟩

theorem printedPairs_inj : ∀ (kvs kws : List (String × Json)) (s t : List Char),
    exactPairs kvs = true → exactPairs kws = true → printedPairs kvs ++ s = printedPairs kws ++ t →
      kvs = kws ∧ s = t
  | [], kws, s, t, _, _, h => by
    rcases kws with _ | ⟨⟨l, w⟩, kws⟩
    · exact ⟨rfl, by simpa [printedPairs] using h⟩
    · simp [printedPairs] at h
  | (k, v) :: kvs, kws, s, t, hv, hw, h => by
    rcases kws with _ | ⟨⟨l, w⟩, kws⟩
    · simp [printedPairs] at h
    · simp only [exactPairs, Bool.and_eq_true] at hv hw
      simp only [printedPairs, List.cons_append, List.append_assoc, List.cons.injEq, true_and] at h
      obtain ⟨rfl, hvalue⟩ := quotedChars_inj h
      obtain ⟨rfl, hrest⟩ := printed_inj v w _ _ hv.1 hw.1 (ends_pairs kvs s) (ends_pairs kws t)
        (List.cons.inj hvalue).2
      obtain ⟨rfl, rfl⟩ := printedPairs_inj kvs kws s t hv.2 hw.2 hrest
      exact ⟨rfl, rfl⟩

end

mutual

theorem exact_sorted : ∀ v : Json, v.sorted.exact = v.exact
  | .null => rfl
  | .bool _ => rfl
  | .int _ => rfl
  | .float _ _ => rfl
  | .str _ => rfl
  | .arr items => exactItems_sorted items
  | .obj items => by
    rw [Bool.eq_iff_iff, Json.sorted, Json.exact, Json.exact, exactPairs_iff, ← exactPairs_sorted,
      exactPairs_iff]
    simp only [List.mem_insertionSort]

theorem exactItems_sorted : ∀ vs : List Json, exactItems (sortedItems vs) = exactItems vs
  | [] => rfl
  | v :: vs => by rw [sortedItems, exactItems, exact_sorted v, exactItems_sorted vs, exactItems]

theorem exactPairs_sorted :
    ∀ kvs : List (String × Json), exactPairs (sortedPairs kvs) = exactPairs kvs
  | [] => rfl
  | (k, v) :: kvs => by
    rw [sortedPairs, exactPairs, exact_sorted v, exactPairs_sorted kvs, exactPairs]

end

/-- Two documents without a `float` that have the same canonical dump only differ in the order of
    the items of their objects. -/
theorem canonical_inj (ha : a.exact = true) (hb : b.exact = true) (h : canonical a = canonical b) :
    a.sorted = b.sorted := by
  have hends : Ends [] := by simp [Ends]
  refine (printed_inj a.sorted b.sorted [] [] ?_ ?_ hends hends ?_).1
  · rw [exact_sorted, ha]
  · rw [exact_sorted, hb]
  · rw [← canonical_eq_printed, ← canonical_eq_printed, h]

/-! ## Equal documents -/

/-- `a == b` for two documents without a `float`. -/
def Json.Same (a b : Json) : Prop := a.sorted = b.sorted

theorem mem_of_lookup {key : String} (h : d.lookup key = some v) : (key, v) ∈ d := by
  induction d with
  | nil => cases h
  | cons kv d ih =>
    obtain ⟨k, w⟩ := kv
    by_cases hk : key = k
    · subst hk
      rw [List.lookup_cons_self] at h
      cases h
      exact List.mem_cons_self
    · have hbeq : (key == k) = false := by simp [hk]
      rw [List.lookup_cons, hbeq] at h
      exact List.mem_cons_of_mem _ (ih h)

theorem lookup_of_mem (hnodup : (d.map Prod.fst).Nodup) {key : String} (h : (key, v) ∈ d) :
    d.lookup key = some v := by
  induction d with
  | nil => cases h
  | cons kv d ih =>
    obtain ⟨k, w⟩ := kv
    rw [List.map_cons, List.nodup_cons] at hnodup
    obtain heq | hmem := List.mem_cons.mp h
    · cases heq
      rw [List.lookup_cons_self]
    · have hk : key ≠ k := by
        rintro rfl
        exact hnodup.1 (List.mem_map.mpr ⟨(key, v), hmem, rfl⟩)
      have hbeq : (key == k) = false := by simp [hk]
      rw [List.lookup_cons, hbeq]
      exact ih hnodup.2 hmem

/-- The fields of a document with distinct keys do not depend on their order. -/
theorem Dict.get_perm {d' : Dict} (hp : d.Perm d') (hnodup : (d.map Prod.fst).Nodup)
    (key : String) : Dict.get d key = Dict.get d' key := by
  have hnodup' : (d'.map Prod.fst).Nodup := (hp.map Prod.fst).nodup_iff.mp hnodup
  have hlookup : d.lookup key = d'.lookup key := by
    refine Option.ext fun v => ⟨fun h => ?_, fun h => ?_⟩
    · exact lookup_of_mem hnodup' (hp.mem_iff.mp (mem_of_lookup h))
    · exact lookup_of_mem hnodup (hp.mem_iff.mpr (mem_of_lookup h))
  rw [Dict.get, Dict.get, hlookup]

/-- Equal documents with distinct keys have equal fields. -/
theorem Json.Same.get {a b : Dict} (h : (Json.obj a).Same (.obj b)) (ha : (a.map Prod.fst).Nodup)
    (hb : (b.map Prod.fst).Nodup) (key : String) : (a.get key).Same (b.get key) := by
  have hsorted : ∀ d : Dict, (d.map Prod.fst).Nodup →
      Dict.get ((sortedPairs d).insertionSort fun x y => x.1 ≤ y.1) key = (d.get key).sorted := by
    intro d hd
    have hkeys : (sortedPairs d).map Prod.fst = d.map Prod.fst := by
      rw [sortedPairs_eq_map, List.map_map]
      rfl
    rw [← Dict.get_perm (List.perm_insertionSort _ _).symm (by rw [hkeys]; exact hd)]
    clear hd hkeys
    induction d with
    | nil => rfl
    | cons kv d ih =>
      obtain ⟨k, v⟩ := kv
      unfold Dict.get at ih ⊢
      by_cases hk : key = k
      · subst hk
        simp [sortedPairs]
      · have hbeq : (key == k) = false := by simp [hk]
        rw [sortedPairs, List.lookup_cons, List.lookup_cons, hbeq]
        exact ih
  unfold Json.Same at h ⊢
  rw [← hsorted a ha, ← hsorted b hb]
  injection h with h
  rw [h]

/-- Equal documents have the same keys. -/
theorem Json.Same.has {a b : Dict} (h : (Json.obj a).Same (.obj b)) (key : String) :
    a.has key = b.has key := by
  have hkeys : ∀ d : Dict, d.has key = true ↔
      key ∈ ((sortedPairs d).insertionSort fun x y => x.1 ≤ y.1).map Prod.fst := by
    intro d
    rw [((List.perm_insertionSort _ _).map Prod.fst).mem_iff, sortedPairs_eq_map, List.map_map,
      Dict.has, List.contains_eq_mem, decide_eq_true_eq]
    rfl
  unfold Json.Same at h
  injection h with h
  rw [Bool.eq_iff_iff, hkeys, hkeys, h]

theorem Json.Same.arr {vs ws : List Json} (h : (Json.arr vs).Same (.arr ws)) :
    List.Forall₂ Json.Same vs ws := by
  injection h with h
  rw [sortedItems_eq_map, sortedItems_eq_map] at h
  induction vs generalizing ws with
  | nil =>
    cases ws with
    | nil => exact .nil
    | cons w ws => cases h
  | cons v vs ih =>
    cases ws with
    | nil => cases h
    | cons w ws => exact .cons (List.cons.inj h).1 (ih (List.cons.inj h).2)

theorem Json.Same.str {s t : String} (h : (Json.str s).Same (.str t)) : s = t := by
  injection h

theorem Json.Same.int (h : (Json.int n).Same v) : v = .int n := by
  cases v with
  | int => exact h.symm
  | _ => cases h

end HomeAddons.Common
