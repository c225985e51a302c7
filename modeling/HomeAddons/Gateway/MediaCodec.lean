import HomeAddons.Common.Bytes
import HomeAddons.Common.Result
import HomeAddons.Common.Value

/-!
# Weixin Gateway: encrypted media

The codec of `protocol.py` (lines 149–190). The cipher itself is a parameter.

* `aes128EcbEncrypt`, `aes128EcbDecrypt`, `parseAesKey`: the functions of the source.
* `media_codec_iff`: for which ciphertexts and texts the codec is exact.

An empty ciphertext is read as an empty plaintext, and the digits of a key may be fewer than its
characters.
-/

namespace HomeAddons.Gateway

open HomeAddons.Common

/-- `ProtocolError(code, message)`. -/
structure MediaError where
  code : String
  message : String
  deriving DecidableEq

/-- The ECB mode of a block cipher: what it makes of data with a key. -/
structure EcbCipher where
  encrypt : Bytes → Bytes → Bytes
  decrypt : Bytes → Bytes → Bytes

/-- With a key of sixteen bytes, it is a bijection of whole blocks that keeps the length. -/
structure EcbCipher.Lawful (aes : EcbCipher) : Prop where
  length_encrypt : ∀ {key data : Bytes}, key.length = 16 → 16 ∣ data.length →
    (aes.encrypt key data).length = data.length
  length_decrypt : ∀ {key data : Bytes}, key.length = 16 → 16 ∣ data.length →
    (aes.decrypt key data).length = data.length
  decrypt_encrypt : ∀ {key data : Bytes}, key.length = 16 → 16 ∣ data.length →
    aes.decrypt key (aes.encrypt key data) = data
  encrypt_decrypt : ∀ {key data : Bytes}, key.length = 16 → 16 ∣ data.length →
    aes.encrypt key (aes.decrypt key data) = data

/-- `pkcs7_pad(data)`. -/
def pkcs7Pad (data : Bytes) : Bytes := blockPad 16 data

/-- `aes_padded_size(size)`. -/
def aesPaddedSize (size : ℕ) : ℕ := (size + 16) / 16 * 16

section Codec

variable (aes : EcbCipher)

/-- `aes128_ecb_encrypt(plaintext, key)`. -/
def aes128EcbEncrypt (plaintext key : Bytes) : Except MediaError Bytes := do
  ensure (key.length = 16) ⟨"media_key_invalid", "AES-128 key 长度无效"⟩
  return aes.encrypt key (pkcs7Pad plaintext)

/-- `aes128_ecb_decrypt(ciphertext, key)`. -/
def aes128EcbDecrypt (ciphertext key : Bytes) : Except MediaError Bytes := do
  ensure (key.length = 16 ∧ ciphertext.length % 16 = 0)
    ⟨"media_decrypt_failed", "媒体密钥或密文长度无效"⟩
  let padded := aes.decrypt key ciphertext
  if padded = [] then return padded
  else orRaise (blockUnpad 16 padded) ⟨"media_decrypt_failed", "媒体 PKCS7 padding 无效"⟩

/-- `decoded.decode("ascii")`. -/
def asciiText (decoded : Bytes) : Option (List Char) :=
  if decoded.all fun b => b.toNat < 128 then some (decoded.map fun b => Char.ofNat b.toNat)
  else none

/-- `parse_aes_key(value)`. -/
def parseAesKey (value : PyStr) : Except MediaError Bytes := do
  let decoded ← orRaise (b64decode value.shown.toList)
    ⟨"media_key_invalid", "媒体 AES key 不是有效 base64"⟩
  if decoded.length = 16 then return decoded
  else if decoded.length = 32 then
    orRaise ((asciiText decoded).bind fromHex) ⟨"media_key_invalid", "媒体 AES key hex 无效"⟩
  else throw ⟨"media_key_invalid", "媒体 AES key 长度无效"⟩

/-- `base64.b64encode(data).decode("ascii")`. -/
def base64Text (data : Bytes) : PyStr := PyStr.ofString (String.ofList (b64encode data))

/-- `data.hex().encode("ascii")`. -/
def hexBytes (data : Bytes) : Bytes := (hexOf data).map fun c => UInt8.ofNat c.toNat

end Codec

/-! ## Padding and the cipher -/

section Laws

variable {aes : EcbCipher} {plaintext ciphertext key : Bytes}

theorem length_pkcs7Pad (plaintext : Bytes) :
    (pkcs7Pad plaintext).length = aesPaddedSize plaintext.length :=
  length_blockPad (by decide)

theorem dvd_length_pkcs7Pad (plaintext : Bytes) : 16 ∣ (pkcs7Pad plaintext).length := by
  rw [length_pkcs7Pad]
  exact Dvd.intro_left _ rfl

theorem pkcs7Pad_ne_nil (plaintext : Bytes) : pkcs7Pad plaintext ≠ [] := by
  intro h
  have hlength := congrArg List.length h
  rw [length_pkcs7Pad, aesPaddedSize, List.length_nil] at hlength
  omega

theorem aes128EcbEncrypt_eq (hk : key.length = 16) :
    aes128EcbEncrypt aes plaintext key = .ok (aes.encrypt key (pkcs7Pad plaintext)) := by
  rw [aes128EcbEncrypt, ensure_bind_of hk]
  rfl

theorem aes128EcbDecrypt_eq (hk : key.length = 16) (hc : 16 ∣ ciphertext.length) :
    aes128EcbDecrypt aes ciphertext key =
      if aes.decrypt key ciphertext = [] then .ok [] else
        orRaise (blockUnpad 16 (aes.decrypt key ciphertext))
          ⟨"media_decrypt_failed", "媒体 PKCS7 padding 无效"⟩ := by
  rw [aes128EcbDecrypt, ensure_bind_of ⟨hk, Nat.mod_eq_zero_of_dvd hc⟩]
  dsimp only
  split_ifs with hempty
  · rw [hempty]
    rfl
  · rfl

/-- What was encrypted is decrypted. -/
theorem decrypt_encrypt (haes : aes.Lawful) (hk : key.length = 16) (plaintext : Bytes) :
    aes128EcbDecrypt aes (aes.encrypt key (pkcs7Pad plaintext)) key = .ok plaintext := by
  have hdvd := dvd_length_pkcs7Pad plaintext
  have hlength := haes.length_encrypt hk hdvd
  rw [aes128EcbDecrypt_eq hk (hlength ▸ hdvd), haes.decrypt_encrypt hk hdvd,
    if_neg (pkcs7Pad_ne_nil plaintext), pkcs7Pad, blockUnpad_pad (by decide) (by decide)]
  rfl

variable {p : Bytes}

/-- A ciphertext that is decrypted has the length of whole blocks. -/
theorem dvd_of_decrypt (h : aes128EcbDecrypt aes ciphertext key = .ok p) :
    key.length = 16 ∧ 16 ∣ ciphertext.length := by
  obtain ⟨_, hensure, -⟩ := bind_eq_ok.mp h
  obtain ⟨hk, hc⟩ := ensure_eq_ok.mp hensure
  exact ⟨hk, Nat.dvd_of_mod_eq_zero hc⟩

/-- What was decrypted is encrypted again, unless it was nothing. -/
theorem encrypt_decrypt (haes : aes.Lawful) (hne : ciphertext ≠ [])
    (h : aes128EcbDecrypt aes ciphertext key = .ok p) :
    aes128EcbEncrypt aes p key = .ok ciphertext := by
  obtain ⟨hk, hc⟩ := dvd_of_decrypt h
  have hlength := haes.length_decrypt hk hc
  rw [aes128EcbDecrypt_eq hk hc, if_neg] at h
  · have hpadded := blockPad_unpad (by decide) (hlength ▸ hc) (orRaise_eq_ok.mp h)
    rw [aes128EcbEncrypt_eq hk, pkcs7Pad, hpadded, haes.encrypt_decrypt hk hc]
  · intro hempty
    rw [hempty] at hlength
    exact hne (List.length_eq_zero_iff.mp hlength.symm)

end Laws

/-! ## The two notations of a key -/

section Keys

variable {aes : EcbCipher} {key : Bytes} {value : PyStr}

theorem b64decode_base64Text (data : Bytes) :
    b64decode (base64Text data).shown.toList = some data := by
  rw [base64Text, PyStr.shown_ofString, String.toList_ofList, b64decode_b64encode]

theorem hexDigit_ascii (n : ℕ) : (hexDigit n).toNat < 128 := by
  have hall : ∀ n : Fin 16, (hexDigit n).toNat < 128 := by decide
  have hmod : hexDigit n = hexDigit (n % 16) := by rw [hexDigit, hexDigit, Nat.mod_mod]
  rw [hmod]
  exact hall ⟨n % 16, Nat.mod_lt _ (by decide)⟩

/-- The digits of a key are ASCII, and are read as such. -/
theorem asciiText_hexBytes (data : Bytes) : asciiText (hexBytes data) = some (hexOf data) := by
  have hascii : ∀ c ∈ hexOf data, c.toNat < 128 := by
    intro c hc
    obtain ⟨b, -, hb⟩ := List.mem_flatMap.mp hc
    simp only [List.mem_cons, List.not_mem_nil, or_false] at hb
    obtain rfl | rfl := hb <;> exact hexDigit_ascii _
  have hcode : ∀ c ∈ hexOf data, (UInt8.ofNat c.toNat).toNat = c.toNat := by
    intro c hc
    have hc := hascii c hc
    rw [UInt8.toNat_ofNat']
    omega
  unfold asciiText
  rw [if_pos, hexBytes, List.map_map]
  · refine congrArg some ((List.map_congr_left fun c hc => ?_).trans (List.map_id _))
    rw [Function.comp_apply, hcode c hc]
    exact Char.ofNat_toNat c
  · rw [hexBytes, List.all_map, List.all_eq_true]
    intro c hc
    rw [Function.comp_apply, hcode c hc]
    exact decide_eq_true (hascii c hc)

theorem parseAesKey_base64 (hk : key.length = 16) : parseAesKey (base64Text key) = .ok key := by
  rw [parseAesKey, b64decode_base64Text, orRaise_some, ok_bind, if_pos hk]
  rfl

theorem parseAesKey_hex (hk : key.length = 16) :
    parseAesKey (base64Text (hexBytes key)) = .ok key := by
  have hlength : (hexBytes key).length = 32 := by
    rw [hexBytes, List.length_map, length_hexOf, hk]
  rw [parseAesKey, b64decode_base64Text, orRaise_some, ok_bind, if_neg (by omega), if_pos hlength,
    asciiText_hexBytes, Option.bind_some, fromHex_hexOf]
  rfl

/-- The value is the base64 of thirty-two characters that are the digits of bytes, with white space
    between them. -/
def SpacedHex (value : PyStr) : Prop :=
  ∃ decoded text, b64decode value.shown.toList = some decoded ∧ decoded.length = 32 ∧
    asciiText decoded = some text ∧ (fromHex text).isSome = true ∧ text.any isAsciiSpace = true

theorem length_asciiText {decoded : Bytes} {text : List Char} (h : asciiText decoded = some text) :
    text.length = decoded.length := by
  unfold asciiText at h
  split_ifs at h
  rw [← Option.some.inj h, List.length_map]

/-- A key has sixteen bytes exactly when its digits are not spaced. -/
theorem parseAesKey_length_iff :
    (∀ key, parseAesKey value = .ok key → key.length = 16) ↔ ¬ SpacedHex value := by
  constructor
  · rintro hlength ⟨decoded, text, hdecoded, h32, htext, hhex, hspace⟩
    obtain ⟨bytes, hbytes⟩ := Option.isSome_iff_exists.mp hhex
    have hparse : parseAesKey value = .ok bytes := by
      rw [parseAesKey, hdecoded, orRaise_some, ok_bind, if_neg (by omega), if_pos h32, htext,
        Option.bind_some, hbytes]
      rfl
    have hcount := length_fromHex hbytes
    have hpos : 0 < text.countP isAsciiSpace := by
      obtain ⟨c, hc, hspace⟩ := List.any_eq_true.mp hspace
      exact List.countP_pos_iff.mpr ⟨c, hc, hspace⟩
    rw [hlength bytes hparse, length_asciiText htext, h32] at hcount
    omega
  · intro hno key hkey
    obtain ⟨decoded, hdecoded, hkey⟩ := bind_eq_ok.mp hkey
    have hdecoded := orRaise_eq_ok.mp hdecoded
    split_ifs at hkey with h16 h32
    · obtain rfl := Except.ok.inj hkey
      exact h16
    · obtain ⟨text, htext, hbytes⟩ := Option.bind_eq_some_iff.mp (orRaise_eq_ok.mp hkey)
      have hcount := length_fromHex hbytes
      have hnone : text.countP isAsciiSpace = 0 := by
        refine List.countP_eq_zero.mpr fun c hc hspace => hno ?_
        exact ⟨decoded, text, hdecoded, h32, htext, by rw [hbytes]; rfl,
          List.any_eq_true.mpr ⟨c, hc, hspace⟩⟩
      rw [length_asciiText htext, h32, hnone] at hcount
      omega

end Keys

/-- For a plaintext, a ciphertext, a key and the text of a key: what was encrypted is decrypted and
    has the announced length, a ciphertext that is decrypted is the one of its plaintext, a text is
    read as sixteen bytes or not at all, and both notations of the key are read as the key. -/
structure MediaCodecExact (aes : EcbCipher) (plaintext ciphertext key : Bytes) (value : PyStr) :
    Prop where
  decrypts : ∃ encrypted, aes128EcbEncrypt aes plaintext key = .ok encrypted ∧
    encrypted.length = aesPaddedSize plaintext.length ∧
    aes128EcbDecrypt aes encrypted key = .ok plaintext
  encrypts : ∀ p, aes128EcbDecrypt aes ciphertext key = .ok p →
    aes128EcbEncrypt aes p key = .ok ciphertext
  parses : ∀ k, parseAesKey value = .ok k → k.length = 16
  base64 : parseAesKey (base64Text key) = .ok key
  hex : parseAesKey (base64Text (hexBytes key)) = .ok key

/-- The codec is exact unless the ciphertext is empty or the digits of the key are spaced. -/
theorem media_codec_iff {aes : EcbCipher} (haes : aes.Lawful) {plaintext ciphertext key : Bytes}
    {value : PyStr} (hk : key.length = 16) :
    MediaCodecExact aes plaintext ciphertext key value ↔ ciphertext ≠ [] ∧ ¬ SpacedHex value := by
  constructor
  · intro h
    refine ⟨?_, parseAesKey_length_iff.mp h.parses⟩
    rintro rfl
    have hnil : aes.decrypt key [] = [] :=
      List.length_eq_zero_iff.mp (haes.length_decrypt hk (dvd_zero 16))
    have hdecrypt : aes128EcbDecrypt aes [] key = .ok [] := by
      rw [aes128EcbDecrypt_eq hk (dvd_zero 16), if_pos hnil]
    have hencrypt := h.encrypts [] hdecrypt
    rw [aes128EcbEncrypt_eq hk] at hencrypt
    have hlength := haes.length_encrypt hk (dvd_length_pkcs7Pad [])
    rw [Except.ok.inj hencrypt, length_pkcs7Pad] at hlength
    exact absurd hlength (by decide)
  · rintro ⟨hne, hspaced⟩
    exact {
      decrypts := ⟨_, aes128EcbEncrypt_eq hk,
        (haes.length_encrypt hk (dvd_length_pkcs7Pad plaintext)).trans (length_pkcs7Pad plaintext),
        decrypt_encrypt haes hk plaintext⟩
      encrypts := fun p hp => encrypt_decrypt haes hne hp
      parses := parseAesKey_length_iff.mpr hspaced
      base64 := parseAesKey_base64 hk
      hex := parseAesKey_hex hk }

/-! ## Samples -/

/-- The bytes from zero to fifteen. -/
def sampleMediaKey : Bytes := (List.range 16).map UInt8.ofNat

/-- The text `hello`, and what AES makes of its block with that key. -/
def sampleMedia : Bytes := [104, 101, 108, 108, 111]

def sampleCiphertext : Bytes :=
  [93, 135, 73, 226, 175, 117, 49, 178, 191, 102, 97, 233, 229, 218, 240, 18]

/-- The cipher that exchanges the two, and changes nothing else. -/
def sampleCipher : EcbCipher :=
  let exchange := fun key data =>
    if key = sampleMediaKey then Equiv.swap (pkcs7Pad sampleMedia) sampleCiphertext data else data
  ⟨exchange, exchange⟩

theorem sampleCipher_lawful : sampleCipher.Lawful := by
  have hlength : ∀ key data : Bytes, (sampleCipher.encrypt key data).length = data.length := by
    intro key data
    show (if key = sampleMediaKey then _ else data).length = _
    split_ifs
    · rw [Equiv.swap_apply_def]
      split_ifs with hplain hcipher
      · rw [hplain]
        decide
      · rw [hcipher]
        decide
      · rfl
    · rfl
  have hback : ∀ key data : Bytes,
      sampleCipher.decrypt key (sampleCipher.encrypt key data) = data := by
    intro key data
    show (if key = sampleMediaKey then _ else _) = data
    unfold sampleCipher
    dsimp only
    split_ifs
    · exact Equiv.swap_apply_self _ _ _
    · rfl
  exact ⟨fun _ _ => hlength _ _, fun _ _ => hlength _ _, fun _ _ => hback _ _,
    fun _ _ => hback _ _⟩

/-- Nothing is decrypted to nothing, and thirty-two spaces are a key without bytes. -/
theorem empty_media_not_exact : ¬ MediaCodecExact sampleCipher sampleMedia [] sampleMediaKey
    (base64Text (List.replicate 32 32)) := by
  intro h
  have hparse : parseAesKey (base64Text (List.replicate 32 32)) = .ok [] := by decide +kernel
  exact absurd (h.parses [] hparse) (by decide)

/-- The codec is exact for a key in base64. -/
theorem media_codec_iff_sample : MediaCodecExact sampleCipher sampleMedia sampleCiphertext
    sampleMediaKey (base64Text sampleMediaKey) := by
  refine (media_codec_iff sampleCipher_lawful (by decide)).mpr ⟨by decide, ?_⟩
  rintro ⟨decoded, -, hdecoded, hlength, -⟩
  rw [b64decode_base64Text] at hdecoded
  rw [← Option.some.inj hdecoded] at hlength
  exact absurd hlength (by decide)

end HomeAddons.Gateway
