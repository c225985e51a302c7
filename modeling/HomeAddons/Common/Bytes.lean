import HomeAddons.Common.Digest

/-!
# Bytes as texts and in blocks

* `b64encode`, `b64decode`: `base64.b64encode`, and `base64.b64decode` with `validate=True`;
  `b64decode_b64encode`: what was encoded is decoded.
* `hexOf`, `fromHex`: `bytes.hex` and `bytes.fromhex`, which skips white space between the bytes.
* `length_fromHex`: how many bytes a text has.
* `blockPad`, `blockUnpad`: the padding of PKCS #7; `blockPad_unpad`: what is taken off is put on.
-/

namespace HomeAddons.Common

abbrev Bytes := List UInt8

/-! ## Base64 -/

/-- The character of six bits. -/
def base64Char (n : ℕ) : Char :=
  if n < 26 then Char.ofNat (65 + n)
  else if n < 52 then Char.ofNat (71 + n)
  else if n < 62 then Char.ofNat (n - 4)
  else if n = 62 then '+'
  else '/'

/-- The six bits of a character. -/
def base64Value (c : Char) : Option ℕ :=
  if c.isUpper then some (c.toNat - 65)
  else if c.isLower then some (c.toNat - 71)
  else if c.isDigit then some (c.toNat + 4)
  else if c = '+' then some 62
  else if c = '/' then some 63
  else none

variable {n : ℕ} {c : Char}

theorem base64Value_char (h : n < 64) : base64Value (base64Char n) = some n := by
  have hall : ∀ n : Fin 64, base64Value (base64Char n) = some n.1 := by decide
  exact hall ⟨n, h⟩

/-- `base64.b64encode(data)`. -/
def b64encode : Bytes → List Char
  | [] => []
  | [a] => [base64Char (a.toNat / 4), base64Char (a.toNat % 4 * 16), '=', '=']
  | [a, b] =>
    [base64Char (a.toNat / 4), base64Char (a.toNat % 4 * 16 + b.toNat / 16),
      base64Char (b.toNat % 16 * 4), '=']
  | a :: b :: c :: rest =>
    base64Char (a.toNat / 4) :: base64Char (a.toNat % 4 * 16 + b.toNat / 16) ::
      base64Char (b.toNat % 16 * 4 + c.toNat / 64) :: base64Char (c.toNat % 64) :: b64encode rest

/-- The bytes of four characters, of which the last may be padding. -/
def base64Quad (a b c d : Char) : Option Bytes := do
  let x ← base64Value a
  let y ← base64Value b
  if c = '=' ∧ d = '=' then return [UInt8.ofNat (x * 4 + y / 16)]
  else
    let z ← base64Value c
    if d = '=' then return [UInt8.ofNat (x * 4 + y / 16), UInt8.ofNat (y % 16 * 16 + z / 4)]
    else
      let w ← base64Value d
      return [UInt8.ofNat (x * 4 + y / 16), UInt8.ofNat (y % 16 * 16 + z / 4),
        UInt8.ofNat (z % 4 * 64 + w)]

/-- `base64.b64decode(text, validate=True)`; `none` is an exception. Only the last four characters
    may have padding. -/
def b64decode : List Char → Option Bytes
  | [] => some []
  | a :: b :: c :: d :: rest =>
    if d = '=' ∧ rest ≠ [] then none
    else do
      let bytes ← base64Quad a b c d
      let more ← b64decode rest
      return bytes ++ more
  | _ => none

theorem base64Char_ne_pad (h : n < 64) : base64Char n ≠ '=' := by
  have hall : ∀ n : Fin 64, base64Char n ≠ '=' := by decide
  exact hall ⟨n, h⟩

theorem ofNat_eq {a : UInt8} (h : n = a.toNat) : UInt8.ofNat n = a := by
  rw [h, UInt8.ofNat_toNat]

/-- Three bytes are those of their four characters. -/
theorem base64Quad_three (a b c : UInt8) :
    base64Quad (base64Char (a.toNat / 4)) (base64Char (a.toNat % 4 * 16 + b.toNat / 16))
      (base64Char (b.toNat % 16 * 4 + c.toNat / 64)) (base64Char (c.toNat % 64)) =
        some [a, b, c] := by
  have ha := a.toNat_lt
  have hb := b.toNat_lt
  have hc := c.toNat_lt
  have hthird := base64Char_ne_pad (by omega : b.toNat % 16 * 4 + c.toNat / 64 < 64)
  have hfourth := base64Char_ne_pad (by omega : c.toNat % 64 < 64)
  unfold base64Quad
  rw [base64Value_char (by omega), base64Value_char (by omega), base64Value_char (by omega),
    base64Value_char (by omega)]
  simp only [Option.bind_eq_bind, Option.bind_some, if_neg (fun h => hthird (And.left h)),
    if_neg hfourth]
  rw [ofNat_eq (by omega : _ = a.toNat), ofNat_eq (by omega : _ = b.toNat),
    ofNat_eq (by omega : _ = c.toNat)]
  rfl

/-- A last byte is that of its two characters and the padding. -/
theorem base64Quad_one (a : UInt8) :
    base64Quad (base64Char (a.toNat / 4)) (base64Char (a.toNat % 4 * 16)) '=' '=' = some [a] := by
  have ha := a.toNat_lt
  unfold base64Quad
  rw [base64Value_char (by omega), base64Value_char (by omega)]
  simp only [Option.bind_eq_bind, Option.bind_some, and_self, if_true]
  rw [ofNat_eq (by omega : _ = a.toNat)]
  rfl

theorem base64Quad_two (a b : UInt8) :
    base64Quad (base64Char (a.toNat / 4)) (base64Char (a.toNat % 4 * 16 + b.toNat / 16))
      (base64Char (b.toNat % 16 * 4)) '=' = some [a, b] := by
  have ha := a.toNat_lt
  have hb := b.toNat_lt
  have hthird := base64Char_ne_pad (by omega : b.toNat % 16 * 4 < 64)
  unfold base64Quad
  rw [base64Value_char (by omega), base64Value_char (by omega), base64Value_char (by omega)]
  simp only [Option.bind_eq_bind, Option.bind_some, if_neg (fun h => hthird (And.left h)), if_true]
  rw [ofNat_eq (by omega : _ = a.toNat), ofNat_eq (by omega : _ = b.toNat)]
  rfl

/-- What was encoded is decoded. -/
theorem b64decode_b64encode (data : Bytes) : b64decode (b64encode data) = some data := by
  induction data using b64encode.induct with
  | case1 => rfl
  | case2 a =>
    rw [b64encode, b64decode, if_neg fun h => h.2 rfl, base64Quad_one]
    rfl
  | case3 a b =>
    rw [b64encode, b64decode, if_neg fun h => h.2 rfl, base64Quad_two]
    rfl
  | case4 a b c rest ih =>
    have hpad := base64Char_ne_pad (by omega : c.toNat % 64 < 64)
    rw [b64encode, b64decode, if_neg fun h => hpad h.1, base64Quad_three, ih]
    rfl

/-! ## Hexadecimal texts -/

/-- `data.hex()`. -/
def hexOf (data : Bytes) : List Char :=
  data.flatMap fun b => [hexDigit (b.toNat / 16), hexDigit (b.toNat % 16)]

/-- The value of a hexadecimal digit. -/
def hexDigitValue (c : Char) : Option ℕ :=
  if c.isDigit then some (c.toNat - 48)
  else if 'a' ≤ c ∧ c ≤ 'f' then some (c.toNat - 87)
  else if 'A' ≤ c ∧ c ≤ 'F' then some (c.toNat - 55)
  else none

/-- White space of ASCII. -/
def isAsciiSpace (c : Char) : Bool := c = ' ' ∨ (9 ≤ c.toNat ∧ c.toNat ≤ 13)

/-- `bytes.fromhex(text)`; `none` is a `ValueError`. White space may stand between two bytes. -/
def fromHex : List Char → Option Bytes
  | [] => some []
  | c :: rest =>
    if isAsciiSpace c then fromHex rest
    else match rest with
      | [] => none
      | d :: rest =>
        (hexDigitValue c).bind fun high => (hexDigitValue d).bind fun low =>
          (fromHex rest).map fun bytes => UInt8.ofNat (16 * high + low) :: bytes

theorem hexDigitValue_digit (h : n < 16) :
    hexDigitValue (hexDigit n) = some n ∧ isAsciiSpace (hexDigit n) = false := by
  have hall : ∀ n : Fin 16,
      hexDigitValue (hexDigit n) = some n.1 ∧ isAsciiSpace (hexDigit n) = false := by decide
  exact hall ⟨n, h⟩

theorem fromHex_space (hc : isAsciiSpace c = true) (rest : List Char) :
    fromHex (c :: rest) = fromHex rest := by
  rw [fromHex.eq_def]
  exact if_pos hc

theorem fromHex_single (hc : isAsciiSpace c = false) : fromHex [c] = none := by
  rw [fromHex.eq_def]
  exact if_neg (by rw [hc]; exact Bool.false_ne_true)

theorem fromHex_pair {d : Char} (hc : isAsciiSpace c = false) (rest : List Char) :
    fromHex (c :: d :: rest) = (hexDigitValue c).bind fun high => (hexDigitValue d).bind fun low =>
      (fromHex rest).map fun bytes => UInt8.ofNat (16 * high + low) :: bytes := by
  rw [fromHex.eq_def]
  exact if_neg (by rw [hc]; exact Bool.false_ne_true)

theorem le_toNat_of_value (h : hexDigitValue c = some n) : 48 ≤ c.toNat := by
  unfold hexDigitValue at h
  split_ifs at h with hdigit hlower hupper
  · simp only [Char.isDigit, Bool.and_eq_true, decide_eq_true_eq] at hdigit
    exact hdigit.1
  · exact Nat.le_trans (by decide) (show 'a'.toNat ≤ c.toNat from hlower.1)
  · exact Nat.le_trans (by decide) (show 'A'.toNat ≤ c.toNat from hupper.1)

theorem isAsciiSpace_of_value (h : hexDigitValue c = some n) : isAsciiSpace c = false := by
  have hcode := le_toNat_of_value h
  refine decide_eq_false ?_
  rintro (rfl | ⟨-, hspace⟩)
  · exact absurd hcode (by decide)
  · omega

theorem fromHex_hexOf (data : Bytes) : fromHex (hexOf data) = some data := by
  induction data with
  | nil => rfl
  | cons b data ih =>
    have hb := b.toNat_lt
    obtain ⟨hhigh, hspace⟩ := hexDigitValue_digit (by omega : b.toNat / 16 < 16)
    obtain ⟨hlow, -⟩ := hexDigitValue_digit (by omega : b.toNat % 16 < 16)
    rw [hexOf, List.flatMap_cons, List.cons_append, List.cons_append, List.nil_append,
      fromHex_pair hspace, hhigh, hlow, Option.bind_some, Option.bind_some]
    change Option.map _ (fromHex (hexOf data)) = _
    rw [ih, ofNat_eq (by omega : _ = b.toNat)]
    rfl

theorem length_hexOf (data : Bytes) : (hexOf data).length = 2 * data.length := by
  induction data with
  | nil => rfl
  | cons b data ih =>
    rw [hexOf, List.flatMap_cons, List.length_append, ← hexOf, ih]
    simp only [List.length_cons, List.length_nil]
    omega

/-- Two characters for each byte, and the white space. -/
theorem length_fromHex {text : List Char} {bytes : Bytes} (h : fromHex text = some bytes) :
    2 * bytes.length + text.countP isAsciiSpace = text.length := by
  induction text using fromHex.induct generalizing bytes with
  | case1 =>
    obtain rfl := Option.some.inj h
    rfl
  | case2 c rest hspace ih =>
    rw [fromHex_space hspace] at h
    rw [List.countP_cons_of_pos hspace, List.length_cons, ← ih h]
    rfl
  | case3 c hspace =>
    rw [fromHex_single (Bool.eq_false_iff.mpr hspace)] at h
    exact absurd h (Option.some_ne_none _).symm
  | case4 c hspace d rest ih =>
    rw [fromHex_pair (Bool.eq_false_iff.mpr hspace)] at h
    obtain ⟨high, -, h⟩ := Option.bind_eq_some_iff.mp h
    obtain ⟨low, hlow, h⟩ := Option.bind_eq_some_iff.mp h
    obtain ⟨more, hmore, rfl⟩ := Option.map_eq_some_iff.mp h
    have hsecond : ¬ isAsciiSpace d = true := by
      rw [isAsciiSpace_of_value hlow]
      exact Bool.false_ne_true
    rw [List.countP_cons_of_neg hspace, List.countP_cons_of_neg hsecond, List.length_cons,
      List.length_cons, List.length_cons, ← ih hmore]
    omega

/-! ## The padding of PKCS #7 -/

/-- A multiple of the block size `n`, at least one byte longer. -/
def blockPad (n : ℕ) (data : Bytes) : Bytes :=
  data ++ List.replicate (n - data.length % n) (UInt8.ofNat (n - data.length % n))

/-- What was padded; `none` when the last bytes are no padding. -/
def blockUnpad (n : ℕ) (padded : Bytes) : Option Bytes :=
  match padded.getLast? with
  | none => none
  | some b =>
    if 1 ≤ b.toNat ∧ b.toNat ≤ n ∧ (List.replicate b.toNat b).isSuffixOf padded then
      some (padded.take (padded.length - b.toNat))
    else none

section Padding

variable {n : ℕ} {data padded : Bytes}

theorem length_blockPad (hn : 0 < n) : (blockPad n data).length = (data.length + n) / n * n := by
  have hmod := Nat.mod_lt data.length hn
  have hdiv := Nat.div_add_mod data.length n
  rw [blockPad, List.length_append, List.length_replicate, Nat.add_div_right _ hn, Nat.succ_mul,
    Nat.mul_comm]
  omega

theorem blockUnpad_pad (hn : 0 < n) (hbyte : n < 256) :
    blockUnpad n (blockPad n data) = some data := by
  have hmod := Nat.mod_lt data.length hn
  obtain ⟨k, hk⟩ : ∃ k, n - data.length % n = k + 1 := ⟨n - data.length % n - 1, by omega⟩
  have hvalue : (UInt8.ofNat (k + 1)).toNat = k + 1 := by
    rw [UInt8.toNat_ofNat']
    omega
  have hlast : (blockPad n data).getLast? = some (UInt8.ofNat (k + 1)) := by
    rw [blockPad, hk, List.replicate_succ', ← List.append_assoc, List.getLast?_append]
    rfl
  have hsuffix : (List.replicate (k + 1) (UInt8.ofNat (k + 1))).isSuffixOf (blockPad n data) =
      true := by
    rw [List.isSuffixOf_iff_suffix, blockPad, hk]
    exact List.suffix_append _ _
  unfold blockUnpad
  rw [hlast]
  dsimp only
  rw [hvalue, if_pos ⟨by omega, by omega, hsuffix⟩, blockPad, hk, List.length_append,
    List.length_replicate, Nat.add_sub_cancel, List.take_left]

/-- What is taken off is what is put on. -/
theorem blockPad_unpad (hn : 0 < n) (hdvd : n ∣ padded.length)
    (h : blockUnpad n padded = some data) : blockPad n data = padded := by
  unfold blockUnpad at h
  cases hlast : padded.getLast? with
  | none =>
    rw [hlast] at h
    exact absurd h (Option.some_ne_none _).symm
  | some b =>
    rw [hlast] at h
    dsimp only at h
    split_ifs at h with hpad
    obtain ⟨hone, hle, hsuffix⟩ := hpad
    obtain ⟨front, rfl⟩ := List.isSuffixOf_iff_suffix.mp hsuffix
    rw [List.length_append, List.length_replicate, Nat.add_sub_cancel, List.take_left,
      Option.some.injEq] at h
    obtain rfl := h
    obtain ⟨m, hm⟩ := hdvd
    rw [List.length_append, List.length_replicate] at hm
    obtain ⟨m, rfl⟩ : ∃ m', m = m' + 1 := by
      refine Nat.exists_eq_succ_of_ne_zero ?_
      rintro rfl
      omega
    have hfront : front.length = n * m + (n - b.toNat) := by
      rw [Nat.mul_succ] at hm
      omega
    have hcount : n - front.length % n = b.toNat := by
      rw [hfront, Nat.mul_add_mod]
      obtain rfl | hlt := Nat.eq_or_lt_of_le hle
      · rw [Nat.sub_self, Nat.zero_mod, Nat.sub_zero]
      · rw [Nat.mod_eq_of_lt (by omega)]
        omega
    rw [blockPad, hcount, UInt8.ofNat_toNat]

end Padding

end HomeAddons.Common
