import HomeAddons.Common.Text

/-!
# Weixin Gateway: long texts

`split_text` (`service.py`, lines 3138–3152) cuts an outgoing text into chunks of at most `limit`
characters, behind the last line break or full stop of their second half where there is one. The
search for it ends one character too late, so that a chunk can be longer than the limit by one; and
nothing keeps a chunk from being blank, which `send_text` (`protocol.py`, lines 384–386) refuses.

* `splitText_flatten`: the chunks are the text.
* `splitText_chunked_iff`: the chunks are as they should be exactly when no piece has a separator
  right behind its limit and no piece is blank.
-/

namespace HomeAddons.Gateway.Chunks

open HomeAddons.Common

/-! ## The code -/

/-- `text.rfind(c, 0, stop)`: the last index of a character, or −1. -/
def rfind (text : List Char) (c : Char) (stop : ℕ) : ℤ :=
  ((List.range stop).reverse.find? fun i => text[i]? = some c).elim (-1) fun i => (i : ℤ)

/-- `boundary` as the loop leaves it. -/
def boundary (limit : ℕ) (remaining : List Char) : ℕ :=
  let boundary := max (rfind remaining '\n' (limit + 1)) (rfind remaining '。' (limit + 1))
  if boundary < (limit / 2 : ℕ) then limit else (boundary + 1).toNat

theorem boundary_pos {limit : ℕ} (hlimit : 1 ≤ limit) (remaining : List Char) :
    1 ≤ boundary limit remaining := by
  unfold boundary
  dsimp only
  split_ifs with hlow <;> omega

/-- The `while` loop of `split_text`. -/
def splitLoop (limit : ℕ) (hlimit : 1 ≤ limit) (remaining : List Char) : List (List Char) :=
  if remaining = [] then []
  else if remaining.length ≤ limit then [remaining]
  else remaining.take (boundary limit remaining) ::
    splitLoop limit hlimit (remaining.drop (boundary limit remaining))
termination_by remaining.length
decreasing_by
  rw [List.length_drop]
  exact Nat.sub_lt (List.length_pos_iff.mpr ‹¬ remaining = []›) (boundary_pos hlimit remaining)

/-- `split_text(text, limit)`. -/
def splitText (limit : ℕ) (hlimit : 1 ≤ limit) (text : String) : List String :=
  if text.length ≤ limit then [text]
  else (splitLoop limit hlimit text.toList).map String.ofList

/-- `not text.strip()`: `send_text` raises `empty_message`. -/
def refused (text : String) : Bool := strip text = ""

/-! ## Where a chunk should end -/

/-- A line break or a full stop at an index. -/
def SeparatorAt (text : List Char) (i : ℕ) : Prop :=
  text[i]? = some '\n' ∨ text[i]? = some '。'

/-- The length of the first piece of a text that is too long: up to the last separator of the
    second half of what the limit allows, or all of it. -/
inductive PieceLength (limit : ℕ) (rest : List Char) : ℕ → Prop where
  | separator {i : ℕ} : limit / 2 ≤ i → i < limit → SeparatorAt rest i →
      (∀ j, i < j → j < limit → ¬ SeparatorAt rest j) → PieceLength limit rest (i + 1)
  | full : (∀ j, limit / 2 ≤ j → j < limit → ¬ SeparatorAt rest j) → PieceLength limit rest limit

/-- What is left of a text where a piece begins. -/
inductive Remainder (limit : ℕ) (text : List Char) : List Char → Prop where
  | whole : Remainder limit text text
  | behind {rest : List Char} {n : ℕ} : Remainder limit text rest → limit < rest.length →
      PieceLength limit rest n → Remainder limit text (rest.drop n)

/-- A piece of a text: the last one is what is left. -/
def Piece (limit : ℕ) (text piece : List Char) : Prop :=
  ∃ rest, Remainder limit text rest ∧
    (rest.length ≤ limit ∧ piece = rest ∨
      limit < rest.length ∧ ∃ n, PieceLength limit rest n ∧ piece = rest.take n)

theorem rfind_cases (text : List Char) (c : Char) (stop : ℕ) :
    (∃ i < stop, rfind text c stop = i ∧ text[i]? = some c ∧
      ∀ j, i < j → j < stop → text[j]? ≠ some c) ∨
    (rfind text c stop = -1 ∧ ∀ j < stop, text[j]? ≠ some c) := by
  unfold rfind
  cases hfind : (List.range stop).reverse.find? fun i => text[i]? = some c with
  | none =>
    refine .inr ⟨rfl, fun j hj => ?_⟩
    have hno := List.find?_eq_none.mp hfind j (List.mem_reverse.mpr (List.mem_range.mpr hj))
    simpa using hno
  | some i =>
    obtain ⟨hi, before, after, hsplit, hbefore⟩ := List.find?_eq_some_iff_append.mp hfind
    have hsorted : (List.range stop).reverse.Pairwise (· > ·) :=
      List.pairwise_reverse.mpr List.pairwise_lt_range
    have hmem : ∀ j, j < stop ↔ j ∈ before ++ i :: after := fun j => by
      rw [← hsplit, List.mem_reverse, List.mem_range]
    rw [hsplit, List.pairwise_append] at hsorted
    refine .inl ⟨i, (hmem i).mpr (by simp), rfl, by simpa using hi, fun j hij hj => ?_⟩
    obtain hj | hj := List.mem_append.mp ((hmem j).mp hj)
    · simpa using hbefore j hj
    · obtain rfl | hj := List.mem_cons.mp hj
      · exact absurd hij (lt_irrefl _)
      · exact absurd hij (not_lt.mpr (List.rel_of_pairwise_cons hsorted.2.1 hj).le)

/-- The later one of the two searches finds the last separator. -/
theorem max_rfind_cases (text : List Char) (stop : ℕ) :
    (∃ i < stop, max (rfind text '\n' stop) (rfind text '。' stop) = i ∧ SeparatorAt text i ∧
      ∀ j, i < j → j < stop → ¬ SeparatorAt text j) ∨
    (max (rfind text '\n' stop) (rfind text '。' stop) = -1 ∧
      ∀ j < stop, ¬ SeparatorAt text j) := by
  unfold SeparatorAt
  obtain ⟨i, hi, hri, hci, hafter⟩ | ⟨hri, hnone⟩ := rfind_cases text '\n' stop <;>
    obtain ⟨k, hk, hrk, hck, hafter'⟩ | ⟨hrk, hnone'⟩ := rfind_cases text '。' stop <;>
    rw [hri, hrk]
  · refine .inl ⟨max i k, by omega, by push_cast; rfl, ?_, fun j hj hstop => ?_⟩
    · obtain hle | hle := le_total i k
      · rw [max_eq_right hle]
        exact .inr hck
      · rw [max_eq_left hle]
        exact .inl hci
    · rintro (hsep | hsep)
      · exact hafter j (by omega) hstop hsep
      · exact hafter' j (by omega) hstop hsep
  · refine .inl ⟨i, hi, by omega, .inl hci, fun j hj hstop => ?_⟩
    rintro (hsep | hsep)
    · exact hafter j hj hstop hsep
    · exact hnone' j hstop hsep
  · refine .inl ⟨k, hk, by omega, .inr hck, fun j hj hstop => ?_⟩
    rintro (hsep | hsep)
    · exact hnone j hstop hsep
    · exact hafter' j hj hstop hsep
  · refine .inr ⟨rfl, fun j hstop => ?_⟩
    rintro (hsep | hsep)
    · exact hnone j hstop hsep
    · exact hnone' j hstop hsep

variable {rest : List Char} {n : ℕ} {text : String}

theorem boundary_of_separator {limit : ℕ} (hsep : SeparatorAt rest limit) :
    boundary limit rest = limit + 1 := by
  unfold boundary
  obtain ⟨i, hi, hmax, -, hafter⟩ | ⟨-, hnone⟩ := max_rfind_cases rest (limit + 1)
  · have hlast : i = limit := by
      by_contra hne
      exact hafter limit (by omega) (by omega) hsep
    rw [hmax, hlast]
    dsimp only
    rw [if_neg (by omega)]
    omega
  · exact absurd hsep (hnone limit (by omega))

theorem boundary_of_not_separator {limit : ℕ} (hsep : ¬ SeparatorAt rest limit) :
    PieceLength limit rest (boundary limit rest) := by
  unfold boundary
  obtain ⟨i, hi, hmax, hat, hafter⟩ | ⟨hmax, hnone⟩ := max_rfind_cases rest (limit + 1)
  · have hne : i ≠ limit := by
      rintro rfl
      exact hsep hat
    rw [hmax]
    dsimp only
    split_ifs with hlow
    · exact .full fun j hj hlimit => hafter j (by omega) (by omega)
    · rw [show ((i : ℤ) + 1).toNat = i + 1 by omega]
      exact .separator (by omega) (by omega) hat fun j hj hlimit => hafter j hj (by omega)
  · rw [hmax]
    dsimp only
    rw [if_pos (by omega)]
    exact .full fun j _ hlimit => hnone j (by omega)

theorem PieceLength.le {limit : ℕ} (h : PieceLength limit rest n) : n ≤ limit := by
  cases h with
  | separator _ hi _ _ => omega
  | full _ => exact le_rfl

/-- A text has one first piece. -/
theorem PieceLength.unique {limit : ℕ} {m : ℕ} (hn : PieceLength limit rest n)
    (hm : PieceLength limit rest m) : n = m := by
  cases hn with
  | @separator i hlow hi hsep hafter =>
    cases hm with
    | @separator k hlow' hk hsep' hafter' =>
      obtain hlt | rfl | hlt := lt_trichotomy i k
      · exact absurd hsep' (hafter k hlt hk)
      · rfl
      · exact absurd hsep (hafter' i hlt hi)
    | full hnone => exact absurd hsep (hnone i hlow hi)
  | full hnone =>
    cases hm with
    | @separator k hlow' hk hsep' _ => exact absurd hsep' (hnone k hlow' hk)
    | full _ => rfl

/-! ## The chunks -/

section Loop

variable {limit : ℕ} {hlimit : 1 ≤ limit} {rest text : List Char}

theorem splitLoop_short (hne : rest ≠ []) (hshort : rest.length ≤ limit) :
    splitLoop limit hlimit rest = [rest] := by
  rw [splitLoop, if_neg hne, if_pos hshort]

theorem splitLoop_long (hlong : limit < rest.length) :
    splitLoop limit hlimit rest = rest.take (boundary limit rest) ::
      splitLoop limit hlimit (rest.drop (boundary limit rest)) := by
  have hne : rest ≠ [] := List.ne_nil_of_length_pos (by omega)
  rw [splitLoop, if_neg hne, if_neg (by omega)]

theorem splitLoop_flatten (rest : List Char) : (splitLoop limit hlimit rest).flatten = rest := by
  induction rest using splitLoop.induct limit hlimit with
  | case1 => rw [splitLoop, if_pos rfl, List.flatten_nil]
  | case2 rest hne hshort => rw [splitLoop_short hne hshort, List.flatten_singleton]
  | case3 rest hne hlong ih =>
    rw [splitLoop_long (by omega), List.flatten_cons, ih, List.take_append_drop]

theorem splitLoop_pos (rest : List Char) :
    ∀ chunk ∈ splitLoop limit hlimit rest, 1 ≤ chunk.length := by
  induction rest using splitLoop.induct limit hlimit with
  | case1 =>
    rw [splitLoop, if_pos rfl]
    exact fun _ h => by cases h
  | case2 rest hne hshort =>
    rw [splitLoop_short hne hshort]
    intro chunk hchunk
    rw [List.mem_singleton.mp hchunk]
    exact List.length_pos_iff.mpr hne
  | case3 rest hne hlong ih =>
    rw [splitLoop_long (by omega)]
    intro chunk hchunk
    obtain rfl | hchunk := List.mem_cons.mp hchunk
    · have hpos := boundary_pos hlimit rest
      have hlength := List.length_pos_iff.mpr hne
      rw [List.length_take]
      omega
    · exact ih chunk hchunk

/-- A chunk is longer than the limit only by a separator right behind it. -/
theorem not_separatorAt_of_le (hlong : limit < rest.length)
    (hle : ∀ chunk ∈ splitLoop limit hlimit rest, chunk.length ≤ limit) :
    ¬ SeparatorAt rest limit := by
  intro hsep
  have hfirst := hle (rest.take (boundary limit rest))
    (by rw [splitLoop_long hlong]; exact List.mem_cons_self)
  rw [boundary_of_separator hsep, List.length_take] at hfirst
  omega

/-- Where a piece should begin, the loop begins one, as long as its chunks are not too long. -/
theorem splitLoop_suffix (hrest : Remainder limit text rest)
    (hle : ∀ chunk ∈ splitLoop limit hlimit text, chunk.length ≤ limit) :
    splitLoop limit hlimit rest <:+ splitLoop limit hlimit text := by
  induction hrest with
  | whole => exact List.suffix_rfl
  | @behind rest n _ hlong hn ih =>
    have hsep := not_separatorAt_of_le hlong fun chunk hchunk => hle chunk (ih.subset hchunk)
    rw [splitLoop_long hlong, (boundary_of_not_separator hsep).unique hn] at ih
    exact (List.suffix_cons _ _).trans ih

theorem Remainder.ne_nil (hrest : Remainder limit text rest) (hne : text ≠ []) : rest ≠ [] := by
  induction hrest with
  | whole => exact hne
  | behind _ hlong hn _ =>
    have hle := hn.le
    rw [ne_eq, List.drop_eq_nil_iff]
    omega

/-- The chunks are the pieces, where no separator stands right behind the limit of one. -/
theorem mem_splitLoop_iff (hrest : Remainder limit text rest) (hne : rest ≠ [])
    (hfits : ∀ rest, Remainder limit text rest → ¬ SeparatorAt rest limit) :
    ∀ chunk ∈ splitLoop limit hlimit rest, Piece limit text chunk := by
  induction rest using splitLoop.induct limit hlimit with
  | case1 => exact absurd rfl hne
  | case2 rest _ hshort =>
    rw [splitLoop_short hne hshort]
    intro chunk hchunk
    rw [List.mem_singleton.mp hchunk]
    exact ⟨rest, hrest, .inl ⟨hshort, rfl⟩⟩
  | case3 rest _ hlong ih =>
    have hlong : limit < rest.length := by omega
    have hn := boundary_of_not_separator (hfits rest hrest)
    have hdrop : rest.drop (boundary limit rest) ≠ [] := by
      have hle := hn.le
      rw [ne_eq, List.drop_eq_nil_iff]
      omega
    rw [splitLoop_long hlong]
    intro chunk hchunk
    obtain rfl | hchunk := List.mem_cons.mp hchunk
    · exact ⟨rest, hrest, .inr ⟨hlong, _, hn, rfl⟩⟩
    · exact ih (.behind hrest hlong hn) hdrop chunk hchunk

variable {piece : List Char}

/-- A piece that the loop reaches is one of its chunks, as long as these are not too long. -/
theorem Piece.mem_splitLoop (hne : text ≠ []) (hpiece : Piece limit text piece)
    (hle : ∀ chunk ∈ splitLoop limit hlimit text, chunk.length ≤ limit) :
    piece ∈ splitLoop limit hlimit text := by
  obtain ⟨rest, hrest, hshape⟩ := hpiece
  have hsuffix := splitLoop_suffix hrest hle
  obtain ⟨hshort, rfl⟩ | ⟨hlong, n, hn, rfl⟩ := hshape
  · refine hsuffix.subset ?_
    rw [splitLoop_short (hrest.ne_nil hne) hshort]
    exact List.mem_singleton_self _
  · have hsep := not_separatorAt_of_le hlong fun chunk hchunk => hle chunk (hsuffix.subset hchunk)
    refine hsuffix.subset ?_
    rw [splitLoop_long hlong, (boundary_of_not_separator hsep).unique hn]
    exact List.mem_cons_self

theorem Piece.length_le (hpiece : Piece limit text piece) : piece.length ≤ limit := by
  obtain ⟨rest, -, ⟨hshort, rfl⟩ | ⟨-, n, hn, rfl⟩⟩ := hpiece
  · exact hshort
  · exact (List.length_take_le _ _).trans hn.le

end Loop

/-! ## What a caller may rely on -/

/-- The chunks that a text should be cut into. -/
structure Chunked (limit : ℕ) (text : String) (chunks : List String) : Prop where
  joined : String.join chunks = text
  bounded : (∀ chunk ∈ chunks, 1 ≤ chunk.length ∧ chunk.length ≤ limit) ∨
    (text = "" ∧ chunks = [""])
  visible : (∃ c ∈ text.toList, isPySpace c = false) → ∀ chunk ∈ chunks, refused chunk = false

/-- No separator stands right behind the limit of a piece, and no piece is blank unless the whole
    text is. -/
structure Chunkable (limit : ℕ) (text : List Char) : Prop where
  fits : ∀ rest, Remainder limit text rest → ¬ SeparatorAt rest limit
  visible : (∃ c ∈ text, isPySpace c = false) → ∀ piece, Piece limit text piece →
    ∃ c ∈ piece, isPySpace c = false

theorem chunkable_nil (limit : ℕ) : Chunkable limit [] := by
  have hnil : ∀ rest, Remainder limit [] rest → rest = [] := by
    intro rest hrest
    induction hrest with
    | whole => rfl
    | behind _ _ _ ih => rw [ih, List.drop_nil]
  refine ⟨fun rest hrest => ?_, fun ⟨c, hc, _⟩ => by cases hc⟩
  rw [hnil rest hrest]
  rintro (hsep | hsep) <;> cases hsep

/-- A text is refused when it is blank. -/
theorem refused_eq_false_iff : refused text = false ↔ ∃ c ∈ text.toList, isPySpace c = false := by
  have hblank : strip text = "" ↔ ∀ c ∈ text.toList, isPySpace c = true := by
    rw [strip, ← String.toList_inj, String.toList_ofList, String.toList_empty,
      List.reverse_eq_nil_iff, List.dropWhile_eq_nil_iff]
    constructor
    · intro hall
      rw [← List.dropWhile_eq_nil_iff]
      by_contra hne
      have hhead := List.head_dropWhile_not isPySpace hne
      rw [hall _ (List.mem_reverse.mpr (List.head_mem hne))] at hhead
      cases hhead
    · intro hall c hc
      exact hall c ((List.dropWhile_sublist _).subset (List.mem_reverse.mp hc))
  rw [refused, decide_eq_false_iff_not, hblank]
  push Not
  simp only [ne_eq, Bool.not_eq_true]

variable {limit : ℕ} (hlimit : 1 ≤ limit)

theorem splitText_eq (hne : text ≠ "") :
    splitText limit hlimit text = (splitLoop limit hlimit text.toList).map String.ofList := by
  unfold splitText
  split_ifs with hshort
  · rw [splitLoop_short (by simpa using hne) (by rwa [String.length_toList]), List.map_singleton,
      String.ofList_toList]
  · rfl

theorem splitText_flatten (text : String) : String.join (splitText limit hlimit text) = text := by
  by_cases hne : text = ""
  · rw [hne, splitText, if_pos (by simp)]
    rfl
  · rw [splitText_eq hlimit hne, ← String.toList_inj, String.toList_join, List.flatMap_map]
    simp only [String.toList_ofList, List.flatMap_id']
    exact splitLoop_flatten text.toList

theorem splitLoop_le (hne : text ≠ "")
    (hbounded : (∀ chunk ∈ (splitLoop limit hlimit text.toList).map String.ofList,
        1 ≤ chunk.length ∧ chunk.length ≤ limit) ∨
      (text = "" ∧ (splitLoop limit hlimit text.toList).map String.ofList = [""])) :
    ∀ chunk ∈ splitLoop limit hlimit text.toList, chunk.length ≤ limit := by
  intro chunk hchunk
  obtain hbounded | ⟨hempty, -⟩ := hbounded
  · simpa using (hbounded _ (List.mem_map_of_mem hchunk)).2
  · exact absurd hempty hne

/-- The chunks of a text are as they should be exactly when it has no piece with a separator right
    behind its limit and no blank piece. -/
theorem splitText_chunked_iff (text : String) :
    Chunked limit text (splitText limit hlimit text) ↔ Chunkable limit text.toList := by
  by_cases hne : text = ""
  · subst hne
    refine iff_of_true ?_ (chunkable_nil limit)
    rw [splitText, if_pos (by simp)]
    exact ⟨rfl, .inr ⟨rfl, rfl⟩, fun ⟨c, hc, _⟩ => by simp at hc⟩
  have hne' : text.toList ≠ [] := by simpa using hne
  rw [splitText_eq hlimit hne]
  constructor
  · rintro ⟨-, hbounded, hvisible⟩
    have hle := splitLoop_le hlimit hne hbounded
    refine ⟨fun rest hrest => ?_, fun htext piece hpiece => ?_⟩
    · by_cases hlong : limit < rest.length
      · exact not_separatorAt_of_le hlong fun chunk hchunk =>
          hle chunk ((splitLoop_suffix hrest hle).subset hchunk)
      · rintro (hsep | hsep) <;> rw [List.getElem?_eq_none (by omega)] at hsep <;> cases hsep
    · have hshown := hvisible htext _ (List.mem_map_of_mem (hpiece.mem_splitLoop hne' hle))
      simpa [refused_eq_false_iff] using hshown
  · rintro ⟨hfits, hvisible⟩
    have hpieces : ∀ chunk ∈ splitLoop limit hlimit text.toList, Piece limit text.toList chunk :=
      mem_splitLoop_iff .whole hne' hfits
    refine ⟨?_, .inl ?_, ?_⟩
    · rw [← splitText_eq hlimit hne]
      exact splitText_flatten hlimit text
    · intro chunk hchunk
      obtain ⟨piece, hpiece, rfl⟩ := List.mem_map.mp hchunk
      rw [String.length_ofList]
      exact ⟨splitLoop_pos _ piece hpiece, (hpieces piece hpiece).length_le⟩
    · intro htext chunk hchunk
      obtain ⟨piece, hpiece, rfl⟩ := List.mem_map.mp hchunk
      rw [refused_eq_false_iff, String.toList_ofList]
      exact hvisible htext piece (hpieces piece hpiece)

/-- The first line is a chunk of its own. -/
theorem splitText_chunked_lines : Chunkable 3 "ab\ncd".toList := by
  refine (splitText_chunked_iff (by decide) "ab\ncd").mp ?_
  have hboundary : boundary 3 "ab\ncd".toList = 3 := by decide
  rw [splitText_eq (by decide) (by decide), splitLoop_long (by decide), hboundary,
    splitLoop_short (by decide) (by decide)]
  exact ⟨by decide, .inl (by decide), fun _ => by decide⟩

/-- A line that is as long as the limit, and another one. -/
def longLine (limit : ℕ) : String := String.ofList (List.replicate limit 'a' ++ ['\n', 'b'])

/-- The first chunk of the long line ends behind its line break. -/
theorem longLine_not_bounded :
    ¬ Chunked limit (longLine limit) (splitText limit hlimit (longLine limit)) := by
  have hlist : (longLine limit).toList = List.replicate limit 'a' ++ ['\n', 'b'] :=
    String.toList_ofList
  have hne : longLine limit ≠ "" := by
    rw [← String.toList_inj.ne, hlist]
    simp
  rintro ⟨-, hbounded, -⟩
  rw [splitText_eq _ hne] at hbounded
  refine not_separatorAt_of_le ?_ (splitLoop_le _ hne hbounded) (.inl ?_)
  · rw [hlist]
    simp
  · rw [hlist, List.getElem?_append_right (by simp)]
    simp

theorem longLine_not_chunked :
    ¬ Chunked 4000 (longLine 4000) (splitText 4000 (by decide) (longLine 4000)) :=
  longLine_not_bounded (by decide)

end HomeAddons.Gateway.Chunks
