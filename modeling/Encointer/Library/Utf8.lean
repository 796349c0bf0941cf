import Mathlib.Data.List.Basic

/-!
# Text and its bytes

A text is a list of characters; its bytes are their encodings. Slices start at
a byte, which has to be the first one of a character or the end.
-/

namespace Encointer.Utf8

def asBytes (text : List Char) : List UInt8 := text.flatMap String.utf8EncodeChar

/-- The text with these bytes, if there is one. -/
def fromUtf8 (bytes : List UInt8) : Option (List Char) :=
  bytes.toByteArray.utf8Decode?.map Array.toList

/-- The rest of the text from a byte on; a start inside a character, or beyond the end, panics. -/
def sliceFrom : List Char → Nat → Option (List Char)
  | text, 0 => some text
  | [], _ + 1 => none
  | c :: rest, start + 1 =>
      if c.utf8Size ≤ start + 1 then sliceFrom rest (start + 1 - c.utf8Size) else none

@[simp] theorem asBytes_append (front back : List Char) :
    asBytes (front ++ back) = asBytes front ++ asBytes back :=
  List.flatMap_append

theorem asBytes_cons (c : Char) (rest : List Char) :
    asBytes (c :: rest) = String.utf8EncodeChar c ++ asBytes rest :=
  List.flatMap_cons

theorem length_asBytes_cons (c : Char) (rest : List Char) :
    (asBytes (c :: rest)).length = c.utf8Size + (asBytes rest).length := by
  rw [asBytes_cons, List.length_append, String.length_utf8EncodeChar]

/-! ## Decoding -/

theorem utf8Encode_eq (text : List Char) : text.utf8Encode = (asBytes text).toByteArray := rfl

@[simp] theorem fromUtf8_asBytes (text : List Char) : fromUtf8 (asBytes text) = some text := by
  unfold fromUtf8
  rw [← utf8Encode_eq, List.utf8Decode?_utf8Encode]
  simp

theorem asBytes_of_fromUtf8 {bytes : List UInt8} {text : List Char}
    (h : fromUtf8 bytes = some text) : asBytes text = bytes := by
  unfold fromUtf8 at h
  have hsome : bytes.toByteArray.utf8Decode?.isSome := by
    have hmapped := Option.isSome_of_eq_some h
    rwa [Option.isSome_map] at hmapped
  obtain ⟨chars, hbytes⟩ := ByteArray.isSome_utf8Decode?_iff.mp hsome
  rw [hbytes, List.utf8Decode?_utf8Encode] at h
  have htext : chars = text := by simpa using h
  rw [htext, utf8Encode_eq] at hbytes
  have hlist := congrArg (fun array => array.data.toList) hbytes
  simpa using hlist.symm

/-! ## Ascii -/

theorem utf8EncodeChar_of_ascii {byte : UInt8} (h : byte < 128) :
    String.utf8EncodeChar (Char.ofUInt8 byte) = [byte] := by
  have hbyte : byte.toNat < 128 := h
  have hval : (Char.ofUInt8 byte).val = byte.toUInt32 := rfl
  have hle : (Char.ofUInt8 byte).val ≤ 127 := by
    rw [hval, UInt32.le_iff_toNat_le, UInt8.toNat_toUInt32]
    show byte.toNat ≤ 127
    omega
  rw [String.utf8EncodeChar_eq_singleton (Char.utf8Size_eq_one_iff.mpr hle), hval,
    UInt8.toUInt8_toUInt32]

/-- Bytes below 128 are a text of as many characters. -/
theorem fromUtf8_of_ascii {bytes : List UInt8} (h : ∀ byte ∈ bytes, byte < 128) :
    fromUtf8 bytes = some (bytes.map Char.ofUInt8) := by
  have hbytes : asBytes (bytes.map Char.ofUInt8) = bytes := by
    induction bytes with
    | nil => rfl
    | cons byte rest ih =>
        rw [List.map_cons, asBytes_cons, utf8EncodeChar_of_ascii (h byte (by simp)),
          ih fun b hb => h b (List.mem_cons_of_mem byte hb), List.singleton_append]
  calc fromUtf8 bytes = fromUtf8 (asBytes (bytes.map Char.ofUInt8)) := by rw [hbytes]
    _ = some (bytes.map Char.ofUInt8) := fromUtf8_asBytes _

/-! ## Slices -/

theorem sliceFrom_eq_some {text rest : List Char} {start : Nat} :
    sliceFrom text start = some rest ↔
      ∃ front, text = front ++ rest ∧ (asBytes front).length = start := by
  constructor
  · intro h
    induction text generalizing start with
    | nil =>
        cases start with
        | zero => exact ⟨[], by simpa [sliceFrom] using h, rfl⟩
        | succ start => simp [sliceFrom] at h
    | cons c text ih =>
        cases start with
        | zero => exact ⟨[], by simpa [sliceFrom] using h, rfl⟩
        | succ start =>
            rw [sliceFrom] at h
            by_cases hfits : c.utf8Size ≤ start + 1
            · rw [if_pos hfits] at h
              obtain ⟨front, htext, hlength⟩ := ih h
              refine ⟨c :: front, by rw [htext, List.cons_append], ?_⟩
              rw [length_asBytes_cons, hlength]
              omega
            · simp [hfits] at h
  · rintro ⟨front, rfl, rfl⟩
    induction front with
    | nil => cases rest <;> rfl
    | cons c front ih =>
        have hpos := c.utf8Size_pos
        obtain ⟨start, hstart⟩ : ∃ start, (asBytes (c :: front)).length = start + 1 :=
          ⟨_, (Nat.succ_pred_eq_of_pos (by rw [length_asBytes_cons]; omega)).symm⟩
        have hlength := length_asBytes_cons c front
        rw [hstart, List.cons_append, sliceFrom, if_pos (by omega)]
        rw [show start + 1 - c.utf8Size = (asBytes front).length by omega]
        exact ih

end Encointer.Utf8
