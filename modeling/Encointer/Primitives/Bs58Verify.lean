import Encointer.Library.Base58
import Encointer.Library.Utf8

/-!
# Verification of base 58

The runtime does not decode base 58: it looks every byte up in a table. The table
is the one of the alphabet, so what passes is exactly what can be decoded.
-/

namespace Encointer

open Base58 Utf8

/-! ## The table -/

/-- The value of each ascii character in base 58, and `0xFF` for characters without one. -/
def bitcoinDecodeMap : List UInt8 := [
  0xFF, 0xFF, 0xFF, 0xFF, 0xFF, 0xFF, 0xFF, 0xFF, 0xFF, 0xFF, 0xFF, 0xFF, 0xFF, 0xFF, 0xFF,
  0xFF, 0xFF, 0xFF, 0xFF, 0xFF, 0xFF, 0xFF, 0xFF, 0xFF, 0xFF, 0xFF, 0xFF, 0xFF, 0xFF, 0xFF,
  0xFF, 0xFF, 0xFF, 0xFF, 0xFF, 0xFF, 0xFF, 0xFF, 0xFF, 0xFF, 0xFF, 0xFF, 0xFF, 0xFF, 0xFF,
  0xFF, 0xFF, 0xFF, 0xFF, 0x00, 0x01, 0x02, 0x03, 0x04, 0x05, 0x06, 0x07, 0x08, 0xFF, 0xFF,
  0xFF, 0xFF, 0xFF, 0xFF, 0xFF, 0x09, 0x0A, 0x0B, 0x0C, 0x0D, 0x0E, 0x0F, 0x10, 0xFF, 0x11,
  0x12, 0x13, 0x14, 0x15, 0xFF, 0x16, 0x17, 0x18, 0x19, 0x1A, 0x1B, 0x1C, 0x1D, 0x1E, 0x1F,
  0x20, 0xFF, 0xFF, 0xFF, 0xFF, 0xFF, 0xFF, 0x21, 0x22, 0x23, 0x24, 0x25, 0x26, 0x27, 0x28,
  0x29, 0x2A, 0x2B, 0xFF, 0x2C, 0x2D, 0x2E, 0x2F, 0x30, 0x31, 0x32, 0x33, 0x34, 0x35, 0x36,
  0x37, 0x38, 0x39, 0xFF, 0xFF, 0xFF, 0xFF, 0xFF]

inductive Bs58Error where
  /-- Non ascii character at index -/
  | nonAsciiCharacter (index : UInt8)
  /-- Non bs58 character at index -/
  | nonBs58Character (index : UInt8)
  deriving DecidableEq, Repr

namespace Bs58verify

def verifyFrom : Nat → List UInt8 → Except Bs58Error Unit
  | _, [] => .ok ()
  | i, c :: rest =>
      if 127 < c then .error (.nonAsciiCharacter (UInt8.ofNat i))
      else if bitcoinDecodeMap.getD c.toNat 0xFF = 0xFF then
        .error (.nonBs58Character (UInt8.ofNat i))
      else verifyFrom (i + 1) rest

def verify (bytes : List UInt8) : Except Bs58Error Unit := verifyFrom 0 bytes

/-! ## What passes -/

/-- The byte has a value in base 58. -/
def HasValue (c : UInt8) : Prop := c ≤ 127 ∧ bitcoinDecodeMap.getD c.toNat 0xFF ≠ 0xFF

private theorem verifyFrom_eq_ok {bytes : List UInt8} (i : Nat) :
    verifyFrom i bytes = .ok () ↔ ∀ c ∈ bytes, HasValue c := by
  induction bytes generalizing i with
  | nil => simp [verifyFrom]
  | cons c rest ih =>
      rw [verifyFrom]
      by_cases hascii : 127 < c
      · have hnot : ¬ HasValue c := fun h => absurd hascii (UInt8.not_lt.mpr h.1)
        simp [hascii, hnot]
      · rw [if_neg hascii]
        by_cases hvalue : bitcoinDecodeMap.getD c.toNat 0xFF = 0xFF
        · have hnot : ¬ HasValue c := fun h => h.2 hvalue
          rw [if_pos hvalue]
          simp [hnot]
        · have hhas : HasValue c := ⟨UInt8.not_lt.mp hascii, hvalue⟩
          rw [if_neg hvalue, ih]
          simp [hhas]

/-- The table agrees with the alphabet. -/
theorem toChar_bitcoinDecodeMap : ∀ n < 128, bitcoinDecodeMap.getD n 0xFF ≠ 0xFF →
    (bitcoinDecodeMap.getD n 0xFF).toNat < 58 ∧
      toChar (bitcoinDecodeMap.getD n 0xFF).toNat = Char.ofUInt8 (UInt8.ofNat n) := by
  decide +kernel

private theorem utf8EncodeChar_toChar : ∀ digit < 58,
    String.utf8EncodeChar (toChar digit) = [UInt8.ofNat (toChar digit).toNat] ∧
      UInt8.ofNat (toChar digit).toNat ≤ 127 ∧
      bitcoinDecodeMap.getD (UInt8.ofNat (toChar digit).toNat).toNat 0xFF ≠ 0xFF := by
  decide +kernel

private theorem hasValue_of_mem_asBytes {digits : List Nat} (hlt : ∀ d ∈ digits, d < 58) :
    ∀ c ∈ asBytes (digits.map toChar), HasValue c := by
  induction digits with
  | nil => simp [asBytes]
  | cons d digits ih =>
      obtain ⟨hencode, hvalue⟩ := utf8EncodeChar_toChar d (hlt d List.mem_cons_self)
      have hrest := ih fun x hx => hlt x (List.mem_cons_of_mem d hx)
      intro c hc
      rw [List.map_cons, asBytes_cons, hencode, List.singleton_append, List.mem_cons] at hc
      rcases hc with rfl | hc
      · exact hvalue
      · exact hrest c hc

/-- What passes is the bytes of a text that can be decoded. -/
theorem verify_eq_ok_iff (bytes : List UInt8) :
    verify bytes = .ok () ↔
      ∃ text decoded, asBytes text = bytes ∧ decode text = .ok decoded := by
  rw [verify, verifyFrom_eq_ok]
  constructor
  · intro h
    have hascii : ∀ c ∈ bytes, c < 128 := fun c hc =>
      UInt8.lt_of_le_of_lt (h c hc).1 (by decide)
    have htext := asBytes_of_fromUtf8 (fromUtf8_of_ascii hascii)
    have hdigits : (bytes.map fun c => (bitcoinDecodeMap.getD c.toNat 0xFF).toNat).map toChar =
        bytes.map Char.ofUInt8 := by
      rw [List.map_map]
      refine List.map_congr_left fun c hc => ?_
      have hc128 : c.toNat < 128 := hascii c hc
      have hchar := (toChar_bitcoinDecodeMap c.toNat hc128 (h c hc).2).2
      rwa [UInt8.ofNat_toNat] at hchar
    have hlt : ∀ d ∈ bytes.map fun c => (bitcoinDecodeMap.getD c.toNat 0xFF).toNat, d < 58 := by
      intro d hd
      obtain ⟨c, hc, rfl⟩ := List.mem_map.mp hd
      have hc128 : c.toNat < 128 := hascii c hc
      exact (toChar_bitcoinDecodeMap c.toNat hc128 (h c hc).2).1
    obtain ⟨decoded, hdecoded⟩ := exists_decode_iff.mpr ⟨_, hlt, hdigits⟩
    exact ⟨bytes.map Char.ofUInt8, decoded, htext, hdecoded⟩
  · rintro ⟨text, decoded, rfl, hdecode⟩
    obtain ⟨digits, hlt, rfl⟩ := exists_decode_iff.mp ⟨decoded, hdecode⟩
    exact hasValue_of_mem_asBytes hlt

end Bs58verify

end Encointer
