import HomeAddons.Common.Text

/-!
# Regular expressions

A pattern takes a text to the ways of reading a front of it, in the order in which a backtracking
matcher tries them: what was read, and the text after it. Every pattern of the programs repeats
characters of a class only, so that a repetition is a choice of a length.

* `lit`, `oneOf`, `opt`, `chars`, `lazyChars`: the constructs.
* `search`, `matchFront`, `fullmatch`: the calls of `re`.
* `bind_of_eq`, `chars_exact`, `lit_append`: what is read where there is one way to read it.
-/

namespace HomeAddons.Common

/-- The ways to read a front of a text. -/
def Pattern (α : Type) := List Char → List (α × List Char)

namespace Pattern

variable {α β : Type}

instance : Monad Pattern where
  pure a := fun text => [(a, text)]
  bind p f := fun text => (p text).flatMap fun (a, rest) => f a rest

/-- `p|q`. -/
instance : OrElse (Pattern α) where
  orElse p q := fun text => p text ++ q () text

/-- The literal `s`. -/
def lit (s : String) : Pattern String := fun text =>
  if s.toList.isPrefixOf text then [(s, text.drop s.length)] else []

/-- `s₁|s₂|…` of literals. -/
def oneOf (names : List String) : Pattern String := fun text => names.flatMap fun s => lit s text

/-- `p?`. -/
def opt (p : Pattern α) : Pattern (Option α) := some <$> p <|> pure none

/-- The lengths that `c{lo,hi}` can have on a text; `*` and `+` are without `hi`. -/
def lengths (c : Char → Bool) (lo : ℕ) (hi : Option ℕ) (text : List Char) : List ℕ :=
  let run := (text.takeWhile c).length
  (List.range' lo (hi.elim run (min run) + 1 - lo))

/-- `c{lo,hi}`, the longest reading first. -/
def chars (c : Char → Bool) (lo : ℕ) (hi : Option ℕ) : Pattern String := fun text =>
  (lengths c lo hi text).reverse.map fun n => (String.ofList (text.take n), text.drop n)

/-- `c{lo,hi}?`, the shortest reading first. -/
def lazyChars (c : Char → Bool) (lo : ℕ) (hi : Option ℕ) : Pattern String := fun text =>
  (lengths c lo hi text).map fun n => (String.ofList (text.take n), text.drop n)

/-- `.`, which is any character but a line feed. -/
def dot (c : Char) : Bool := c ≠ '\n'

/-- `pattern.match(text)`: what is read, and the rest of the text. -/
def matchFront (p : Pattern α) (text : String) : Option (α × String) :=
  (p text.toList).head?.map fun (a, rest) => (a, String.ofList rest)

/-- `pattern.fullmatch(text)`. -/
def fullmatch (p : Pattern α) (text : String) : Option α :=
  ((p text.toList).find? fun r => r.2.isEmpty).map Prod.fst

/-- `pattern.search(text) is not None`. -/
def search (p : Pattern α) (text : String) : Bool :=
  text.toList.tails.any fun t => !(p t).isEmpty

/-! ## One way to read a front -/

theorem bind_of_eq {p : Pattern α} {f : α → Pattern β} {text rest : List Char} {a : α}
    (h : p text = [(a, rest)]) : (p >>= f) text = f a rest := by
  show (p text).flatMap _ = f a rest
  rw [h, List.flatMap_singleton]

theorem lit_append (s : String) (rest : List Char) : lit s (s.toList ++ rest) = [(s, rest)] := by
  rw [lit, if_pos (List.isPrefixOf_iff_prefix.mpr (List.prefix_append _ _)),
    ← String.length_toList, List.drop_left]

/-- A number of characters of a class. -/
theorem chars_exact {c : Char → Bool} {n : ℕ} {front : List Char} (hlength : front.length = n)
    (h : front.all c = true) (rest : List Char) :
    chars c n (some n) (front ++ rest) = [(String.ofList front, rest)] := by
  have hrun : min ((front ++ rest).takeWhile c).length n = n := by
    rw [List.takeWhile_append_of_pos (List.all_eq_true.mp h), List.length_append, hlength]
    exact Nat.min_eq_right (Nat.le_add_right n _)
  have hlengths : lengths c n (some n) (front ++ rest) = [n] := by
    show List.range' n (min ((front ++ rest).takeWhile c).length n + 1 - n) = [n]
    rw [hrun, Nat.add_sub_cancel_left]
    rfl
  rw [chars, hlengths, ← hlength]
  simp

end Pattern

end HomeAddons.Common
