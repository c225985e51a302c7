import HomeAddons.Common.Text

/-!
# Words of a text

`str.split()` and `str.split(None, n)`: the words between runs of whitespace, and what is left of
the text behind the first `n` of them.

* `getElem?_splitMax`: what is left is the text after its first words.
* `strip_remainder`: it does not matter whether the text was stripped before.
-/

namespace HomeAddons.Common

/-! ## Splitting -/

/-- The text behind its first word. -/
def dropWord (cs : List Char) : List Char :=
  (cs.dropWhile isPySpace).dropWhile fun c => !isPySpace c

/-- `text.split(None, n)`. -/
def splitMax : ℕ → List Char → List (List Char)
  | 0, cs =>
    match cs.dropWhile isPySpace with
    | [] => []
    | c :: rest => [c :: rest]
  | n + 1, cs =>
    match cs.dropWhile isPySpace with
    | [] => []
    | c :: rest => (c :: rest).takeWhile (fun c => !isPySpace c) ::
        splitMax n ((c :: rest).dropWhile fun c => !isPySpace c)

/-- `text.split()`; a text has no more words than characters. -/
def words (cs : List Char) : List (List Char) := splitMax cs.length cs

/-- The text after its first `n` words, without the whitespace around it. -/
def remainder (n : ℕ) (text : String) : String :=
  strip (String.ofList (dropWord^[n] text.toList))

variable {n : ℕ} {cs rest trail : List Char}

theorem getElem?_splitMax (h : (splitMax n cs)[n]? = some rest) :
    rest = (dropWord^[n] cs).dropWhile isPySpace ∧ rest ≠ [] := by
  induction n generalizing cs with
  | zero =>
    rw [splitMax] at h
    split at h
    · cases h
    · next c rest' hcs =>
      cases h
      exact ⟨hcs.symm, List.cons_ne_nil _ _⟩
  | succ n ih =>
    rw [splitMax] at h
    split at h
    · cases h
    · next c rest' hcs =>
      rw [List.getElem?_cons_succ, ← hcs] at h
      exact ih h

/-! ## Whitespace around a text -/

theorem dropWhile_append_spaces {p : Char → Bool} (h : cs.dropWhile p ≠ []) :
    (cs ++ trail).dropWhile p = cs.dropWhile p ++ trail := by
  rw [List.dropWhile_append, if_neg (by simpa [List.isEmpty_iff] using h)]

theorem dropWord_append (h : cs.dropWhile isPySpace ≠ [])
    (htrail : ∀ c ∈ trail, isPySpace c = true) : dropWord (cs ++ trail) = dropWord cs ++ trail := by
  rw [dropWord, dropWord, dropWhile_append_spaces h, List.dropWhile_append]
  split
  · next hempty =>
    rw [List.isEmpty_iff.mp hempty, List.nil_append]
    cases trail with
    | nil => rfl
    | cons c trail =>
      rw [List.dropWhile_cons_of_neg]
      simp [htrail c List.mem_cons_self]
  · rfl

/-- Whitespace behind a text stays behind what is left of it. -/
theorem iterate_dropWord_append (h : (dropWord^[n] cs).dropWhile isPySpace ≠ [])
    (htrail : ∀ c ∈ trail, isPySpace c = true) :
    dropWord^[n] (cs ++ trail) = dropWord^[n] cs ++ trail := by
  induction n generalizing cs with
  | zero => rfl
  | succ n ih =>
    rw [Function.iterate_succ_apply] at h ⊢
    have hcs : cs.dropWhile isPySpace ≠ [] := by
      intro hnil
      have hword : dropWord cs = [] := by rw [dropWord, hnil, List.dropWhile_nil]
      have hfixed : dropWord^[n] ([] : List Char) = [] :=
        Function.iterate_fixed (by rfl : dropWord [] = []) n
      rw [hword, hfixed] at h
      exact h rfl
    rw [dropWord_append hcs htrail, ih h, Function.iterate_succ_apply]

theorem strip_ofList (cs : List Char) : strip (String.ofList cs) =
    String.ofList ((cs.dropWhile isPySpace).rdropWhile isPySpace) := by
  rw [strip, String.toList_ofList]
  rfl

theorem strip_append (htrail : ∀ c ∈ trail, isPySpace c = true) :
    strip (String.ofList (cs ++ trail)) = strip (String.ofList cs) := by
  rw [strip_ofList, strip_ofList]
  congr 1
  by_cases hcs : cs.dropWhile isPySpace = []
  · rw [List.dropWhile_append, if_pos (List.isEmpty_iff.mpr hcs), hcs,
      List.dropWhile_eq_nil_iff.mpr htrail]
  · rw [dropWhile_append_spaces hcs, List.rdropWhile, List.reverse_append, List.dropWhile_append,
      if_pos (by simpa [List.isEmpty_iff, List.dropWhile_eq_nil_iff] using htrail)]
    rfl

theorem strip_dropWhile (cs : List Char) :
    strip (String.ofList (cs.dropWhile isPySpace)) = strip (String.ofList cs) := by
  rw [strip_ofList, strip_ofList, List.dropWhile_idempotent]

/-- What is left of a stripped text is what is left of the text. -/
theorem strip_remainder (hn : n ≠ 0) {text : String}
    (h : (splitMax n (strip text).toList)[n]? = some rest) :
    strip (String.ofList rest) = remainder n text := by
  obtain ⟨hrest, hne⟩ := getElem?_splitMax h
  obtain ⟨n, rfl⟩ := Nat.exists_eq_succ_of_ne_zero hn
  have hfront : dropWord^[n + 1] text.toList =
      dropWord^[n + 1] (text.toList.dropWhile isPySpace) := by
    rw [Function.iterate_succ_apply, Function.iterate_succ_apply, dropWord, dropWord,
      List.dropWhile_idempotent]
  have htext : text.toList.dropWhile isPySpace = (strip text).toList ++
      (text.toList.dropWhile isPySpace).rtakeWhile isPySpace := by
    have hstrip : (strip text).toList = (text.toList.dropWhile isPySpace).rdropWhile isPySpace := by
      rw [strip, String.toList_ofList]
      rfl
    rw [hstrip, List.rdropWhile, List.rtakeWhile, ← List.reverse_append,
      List.takeWhile_append_dropWhile, List.reverse_reverse]
  have htrail : ∀ c ∈ (text.toList.dropWhile isPySpace).rtakeWhile isPySpace,
      isPySpace c = true := fun c hc => List.mem_rtakeWhile_imp hc
  rw [hrest] at hne
  rw [remainder, hfront, htext, iterate_dropWord_append hne htrail, strip_append htrail, hrest,
    strip_dropWhile]

end HomeAddons.Common
