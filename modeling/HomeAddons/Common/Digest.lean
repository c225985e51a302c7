import Mathlib

/-!
# Digests and encodings of byte strings

* `sha256`: `hashlib.sha256` (the eight 32-bit words of the digest), and `sha256Hex`, its
  `hexdigest`.
* `base32`: `base64.b32encode` without the padding.

`sha256Hex_chars` and `base32_chars` say which characters the texts consist of, and how many.
-/

namespace HomeAddons.Common

/-! ## SHA-256 -/

/-- The round constants. -/
def sha256K : List UInt32 :=
  [0x428a2f98, 0x71374491, 0xb5c0fbcf, 0xe9b5dba5, 0x3956c25b, 0x59f111f1, 0x923f82a4, 0xab1c5ed5,
   0xd807aa98, 0x12835b01, 0x243185be, 0x550c7dc3, 0x72be5d74, 0x80deb1fe, 0x9bdc06a7, 0xc19bf174,
   0xe49b69c1, 0xefbe4786, 0x0fc19dc6, 0x240ca1cc, 0x2de92c6f, 0x4a7484aa, 0x5cb0a9dc, 0x76f988da,
   0x983e5152, 0xa831c66d, 0xb00327c8, 0xbf597fc7, 0xc6e00bf3, 0xd5a79147, 0x06ca6351, 0x14292967,
   0x27b70a85, 0x2e1b2138, 0x4d2c6dfc, 0x53380d13, 0x650a7354, 0x766a0abb, 0x81c2c92e, 0x92722c85,
   0xa2bfe8a1, 0xa81a664b, 0xc24b8b70, 0xc76c51a3, 0xd192e819, 0xd6990624, 0xf40e3585, 0x106aa070,
   0x19a4c116, 0x1e376c08, 0x2748774c, 0x34b0bcb5, 0x391c0cb3, 0x4ed8aa4a, 0x5b9cca4f, 0x682e6ff3,
   0x748f82ee, 0x78a5636f, 0x84c87814, 0x8cc70208, 0x90befffa, 0xa4506ceb, 0xbef9a3f7, 0xc67178f2]

/-- The chaining variables. -/
structure Sha256State where
  a : UInt32
  b : UInt32
  c : UInt32
  d : UInt32
  e : UInt32
  f : UInt32
  g : UInt32
  h : UInt32

/-- The initial chaining variables. -/
def sha256Init : Sha256State :=
  ⟨0x6a09e667, 0xbb67ae85, 0x3c6ef372, 0xa54ff53a, 0x510e527f, 0x9b05688c, 0x1f83d9ab, 0x5be0cd19⟩

/-- Rotation to the right by `k < 32` bits. -/
def rotr (x : UInt32) (k : UInt32) : UInt32 := (x >>> k) ||| (x <<< (32 - k))

/-- One round, with the sum of its constant and its schedule word. -/
def sha256Round (s : Sha256State) (kw : UInt32) : Sha256State :=
  let s1 := rotr s.e 6 ^^^ rotr s.e 11 ^^^ rotr s.e 25
  let ch := (s.e &&& s.f) ^^^ ((~~~ s.e) &&& s.g)
  let t1 := s.h + s1 + ch + kw
  let s0 := rotr s.a 2 ^^^ rotr s.a 13 ^^^ rotr s.a 22
  let maj := (s.a &&& s.b) ^^^ (s.a &&& s.c) ^^^ (s.b &&& s.c)
  ⟨t1 + (s0 + maj), s.a, s.b, s.c, s.d + t1, s.e, s.f, s.g⟩

/-- `n` more words of the message schedule, the newest word first. -/
def sha256Extend : ℕ → List UInt32 → List UInt32
  | 0, ws => ws
  | n + 1, ws =>
    let w (i : ℕ) : UInt32 := ws.getD (i - 1) 0
    let s0 := rotr (w 15) 7 ^^^ rotr (w 15) 18 ^^^ (w 15 >>> 3)
    let s1 := rotr (w 2) 17 ^^^ rotr (w 2) 19 ^^^ (w 2 >>> 10)
    sha256Extend n ((w 16 + s0 + w 7 + s1) :: ws)

/-- The compression of one block of sixteen words. -/
def sha256Block (s : Sha256State) (block : List UInt32) : Sha256State :=
  let ws := (sha256Extend 48 block.reverse).reverse
  let r := (List.zipWith (· + ·) sha256K ws).foldl sha256Round s
  ⟨s.a + r.a, s.b + r.b, s.c + r.c, s.d + r.d, s.e + r.e, s.f + r.f, s.g + r.g, s.h + r.h⟩

/-- The big-endian words of a byte string whose length is a multiple of four. -/
def wordsBE : List UInt8 → List UInt32
  | x :: y :: z :: w :: rest =>
    ((x.toUInt32 <<< 24) ||| (y.toUInt32 <<< 16) ||| (z.toUInt32 <<< 8) ||| w.toUInt32) ::
      wordsBE rest
  | _ => []

/-- `n` blocks of sixteen words. -/
def sha256Blocks : ℕ → List UInt32 → Sha256State → Sha256State
  | 0, _, s => s
  | n + 1, ws, s => sha256Blocks n (ws.drop 16) (sha256Block s (ws.take 16))

/-- The message, a one bit, zeros, and the length in bits as eight bytes. -/
def sha256Pad (message : List UInt8) : List UInt8 :=
  let len := message.length
  let zeros := (119 - len % 64) % 64
  message ++ [0x80] ++ List.replicate zeros 0 ++
    (List.range 8).map fun i => UInt8.ofNat (8 * len / 256 ^ (7 - i))

/-- `hashlib.sha256(message)`, as eight words. -/
def sha256 (message : List UInt8) : List UInt32 :=
  let padded := sha256Pad message
  let s := sha256Blocks (padded.length / 64) (wordsBE padded) sha256Init
  [s.a, s.b, s.c, s.d, s.e, s.f, s.g, s.h]

/-! ## Hexadecimal -/

/-- A lower-case hexadecimal digit. -/
def hexDigit (n : ℕ) : Char := ("0123456789abcdef".toList).getD (n % 16) '0'

/-- A word as eight hexadecimal digits. -/
def hexWord (w : UInt32) : List Char :=
  (List.range 8).map fun i => hexDigit (w.toNat / 16 ^ (7 - i))

/-- The characters of `hashlib.sha256(message).hexdigest()`. -/
def sha256Chars (message : List UInt8) : List Char := (sha256 message).flatMap hexWord

/-- `hashlib.sha256(text.encode("utf-8")).hexdigest()`. -/
def sha256Hex (text : String) : String := String.ofList (sha256Chars text.toUTF8.data.toList)

/-- `[a-f0-9]`. -/
def isLowerHex (c : Char) : Bool := ('0' ≤ c ∧ c ≤ '9') ∨ ('a' ≤ c ∧ c ≤ 'f')

theorem hexDigit_isLowerHex (n : ℕ) : isLowerHex (hexDigit n) = true := by
  unfold hexDigit
  have h : n % 16 < 16 := Nat.mod_lt _ (by norm_num)
  generalize n % 16 = m at h
  interval_cases m <;> decide

theorem sha256Chars_length (message : List UInt8) : (sha256Chars message).length = 64 := by
  simp [sha256Chars, sha256, hexWord]

theorem sha256Chars_isLowerHex (message : List UInt8) :
    (sha256Chars message).all isLowerHex = true := by
  simp only [sha256Chars, List.all_flatMap, hexWord, List.all_map, List.all_eq_true]
  intro w _ i _
  exact hexDigit_isLowerHex _

/-- A hex digest is 64 characters `[a-f0-9]`. -/
theorem sha256Hex_chars (text : String) :
    (sha256Hex text).toList.length = 64 ∧ (sha256Hex text).toList.all isLowerHex = true := by
  simp only [sha256Hex, String.toList_ofList]
  exact ⟨sha256Chars_length _, sha256Chars_isLowerHex _⟩

/-! ## Base 32 -/

/-- The alphabet `A–Z2–7`. -/
def base32Digit (n : ℕ) : Char := ("ABCDEFGHIJKLMNOPQRSTUVWXYZ234567".toList).getD (n % 32) 'A'

/-- The number that the bytes are the big-endian digits of. -/
def bytesToNat (bytes : List UInt8) : ℕ := bytes.foldl (fun n b => 256 * n + b.toNat) 0

/-- The characters of `base64.b32encode(bytes)` with the padding stripped: the bits, five at a
    time from the front, the last group filled up with zeros. -/
def base32 (bytes : List UInt8) : List Char :=
  let bits := 8 * bytes.length
  let count := (bits + 4) / 5
  let value := bytesToNat bytes * 2 ^ (5 * count - bits)
  (List.range count).map fun i => base32Digit (value / 32 ^ (count - 1 - i))

/-- `[A-Z2-7]`. -/
def isBase32 (c : Char) : Bool := ('A' ≤ c ∧ c ≤ 'Z') ∨ ('2' ≤ c ∧ c ≤ '7')

theorem base32Digit_isBase32 (n : ℕ) : isBase32 (base32Digit n) = true := by
  unfold base32Digit
  have h : n % 32 < 32 := Nat.mod_lt _ (by norm_num)
  generalize n % 32 = m at h
  interval_cases m <;> decide

/-- `n` bytes become `⌈8n / 5⌉` characters `[A-Z2-7]`. -/
theorem base32_chars (bytes : List UInt8) :
    (base32 bytes).length = (8 * bytes.length + 4) / 5 ∧ (base32 bytes).all isBase32 = true := by
  constructor
  · simp [base32]
  · simp only [base32, List.all_map, List.all_eq_true]
    intro i _
    exact base32Digit_isBase32 _

example : sha256Hex "abc" = "ba7816bf8f01cfea414140de5dae2223b00361a396177a9cb410ff61f20015ad" := by
  decide +kernel

end HomeAddons.Common
