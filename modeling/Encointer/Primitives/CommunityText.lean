import Encointer.Library.Base58
import Encointer.Library.Utf8
import Encointer.Primitives.Communities

/-!
# Community identifiers as text

An identifier is displayed as its geohash, followed by its digest in base 58.
Reading it back cuts the text after five bytes. Whatever is read is displayed
as it was written; but a text that cannot be cut there, or whose payload is not
four bytes long, is not refused: it panics.
-/

namespace Encointer

open Base58 Utf8

/-! ## Display -/

/-- The text of an identifier; without one, formatting fails. -/
def CommunityIdentifier.fmt (bs58 : Codec) (cid : CommunityIdentifier) : Option (List Char) :=
  match fromUtf8 cid.geohash.toList with
  | some geohashStr => some (geohashStr ++ bs58.encode cid.digest.toList)
  | none => none

/-! ## Parsing -/

/-- `clone_from_slice` into an array: other lengths panic. -/
def cloneFromSlice {α : Type} (n : Nat) (source : List α) : Option (Vector α n) :=
  if h : source.length = n then some ⟨source.toArray, h⟩ else none

/-- `[..n]` of a slice that may be too short. -/
def sliceTo {α : Type} (n : Nat) (source : List α) : Option (List α) :=
  if n ≤ source.length then some (source.take n) else none

/-- The index of a wrong character counts from the geohash on. -/
def decorateBs58Err : DecodeError → DecodeError
  | .invalidCharacter character index => .invalidCharacter character (index + 5)
  | err => err

/-- None is a panic of the parser, and an error is one that it returns. -/
def CommunityIdentifier.fromStr (bs58 : Codec) (cid : List Char) :
    Option (Except DecodeError CommunityIdentifier) := do
  let geohash ← cloneFromSlice 5 (← sliceTo 5 (asBytes cid))
  let payload ← sliceFrom cid 5
  match bs58.decode payload with
  | .error err => some (.error (decorateBs58Err err))
  | .ok decoded => do
      let digest ← cloneFromSlice 4 decoded
      some (.ok ⟨geohash, digest⟩)

example : CommunityIdentifier.fromStr bitcoin
    ['g', 'b', 's', 'u', 'v', '7', 'Y', 'X', 'q', '9', 'l'] =
      some (.error (.invalidCharacter 'l' 10)) := by
  decide

/-! ## The pieces of a text -/

theorem cloneFromSlice_toList {α : Type} {n : Nat} (v : Vector α n) :
    cloneFromSlice n v.toList = some v := by
  unfold cloneFromSlice
  rw [dif_pos v.length_toList]
  cases v
  rfl

private theorem cloneFromSlice_eq_none {α : Type} {n : Nat} {source : List α}
    (h : source.length ≠ n) :
    cloneFromSlice n source = none := dif_neg h

namespace CommunityIdentifier

variable (bs58 : Codec)

/-- The characters before the payload carry the bytes of the geohash. -/
def StartsWith (geohash : Vector UInt8 5) (front : List Char) : Prop :=
  geohash.toList = asBytes front

section

variable {geohash : Vector UInt8 5} {front : List Char} (hfront : StartsWith geohash front)
  (payload : List Char)

include hfront

theorem fromStr_append :
    fromStr bs58 (front ++ payload) =
      match bs58.decode payload with
      | .error err => some (.error (decorateBs58Err err))
      | .ok decoded =>
          (cloneFromSlice 4 decoded).bind fun digest => some (.ok ⟨geohash, digest⟩) := by
  have hlength : (asBytes front).length = 5 := by rw [← hfront, geohash.length_toList]
  have hbytes : sliceTo 5 (asBytes (front ++ payload)) = some geohash.toList := by
    unfold sliceTo
    rw [asBytes_append, if_pos (by rw [List.length_append]; omega), List.take_left' hlength, hfront]
  have hslice : sliceFrom (front ++ payload) 5 = some payload :=
    sliceFrom_eq_some.mpr ⟨front, rfl, hlength⟩
  unfold fromStr
  rw [hbytes, Option.bind_eq_bind, Option.bind_some, cloneFromSlice_toList, Option.bind_eq_bind,
    Option.bind_some, hslice, Option.bind_eq_bind, Option.bind_some]
  rfl

theorem fromStr_of_error {err : DecodeError} (hdecode : bs58.decode payload = .error err) :
    fromStr bs58 (front ++ payload) = some (.error (decorateBs58Err err)) := by
  rw [fromStr_append bs58 hfront, hdecode]

theorem fromStr_of_digest {digest : Vector UInt8 4}
    (hdecode : bs58.decode payload = .ok digest.toList) :
    fromStr bs58 (front ++ payload) = some (.ok ⟨geohash, digest⟩) := by
  rw [fromStr_append bs58 hfront, hdecode]
  show (cloneFromSlice 4 digest.toList).bind _ = _
  rw [cloneFromSlice_toList, Option.bind_some]

theorem fromStr_of_length_ne {decoded : List UInt8} (hdecode : bs58.decode payload = .ok decoded)
    (hlength : decoded.length ≠ 4) : fromStr bs58 (front ++ payload) = none := by
  rw [fromStr_append bs58 hfront, hdecode]
  show (cloneFromSlice 4 decoded).bind _ = _
  rw [cloneFromSlice_eq_none hlength, Option.bind_none]

end

theorem exists_startsWith_of_fromStr {text : List Char}
    {result : Except DecodeError CommunityIdentifier} (h : fromStr bs58 text = some result) :
    ∃ front payload geohash, text = front ++ payload ∧ StartsWith geohash front := by
  have hslice : ∃ payload, sliceFrom text 5 = some payload := by
    cases hslice : sliceFrom text 5 with
    | some payload => exact ⟨payload, rfl⟩
    | none => simp [fromStr, hslice] at h
  obtain ⟨payload, hpayload⟩ := hslice
  obtain ⟨front, htext, hlength⟩ := sliceFrom_eq_some.mp hpayload
  exact ⟨front, payload, ⟨(asBytes front).toArray, hlength⟩, htext, rfl⟩

/-! ## Both round trips -/

/-- What is displayed is read back, whatever the geohash. -/
theorem fromStr_of_fmt {cid : CommunityIdentifier} {text : List Char}
    (h : cid.fmt bs58 = some text) : fromStr bs58 text = some (.ok cid) := by
  unfold fmt at h
  cases hgeohash : fromUtf8 cid.geohash.toList with
  | none => simp [hgeohash] at h
  | some geohashStr =>
      rw [hgeohash] at h
      have htext : geohashStr ++ bs58.encode cid.digest.toList = text := by simpa using h
      rw [← htext]
      exact fromStr_of_digest bs58 (asBytes_of_fromUtf8 hgeohash).symm _ (bs58.decode_encode _)

/-- What is read is displayed as it was written. -/
theorem fmt_of_fromStr {cid : CommunityIdentifier} {text : List Char}
    (h : fromStr bs58 text = some (.ok cid)) : cid.fmt bs58 = some text := by
  obtain ⟨front, payload, geohash, rfl, hfront⟩ := exists_startsWith_of_fromStr bs58 h
  cases hdecode : bs58.decode payload with
  | error err => simp [fromStr_of_error bs58 hfront payload hdecode] at h
  | ok decoded =>
      by_cases hlength : decoded.length = 4
      · have hdigest : bs58.decode payload =
            .ok (⟨decoded.toArray, hlength⟩ : Vector UInt8 4).toList := hdecode
        have hcid := fromStr_of_digest bs58 hfront payload hdigest
        have hencode := bs58.encode_of_decode payload decoded hdecode
        obtain rfl : ⟨geohash, ⟨decoded.toArray, hlength⟩⟩ = cid := by simpa [hcid] using h
        have hgeohash : fromUtf8 geohash.toList = some front := by rw [hfront, fromUtf8_asBytes]
        rw [fmt, hgeohash]
        show some (front ++ bs58.encode decoded) = _
        rw [hencode]
      · simp [fromStr_of_length_ne bs58 hfront payload hdecode hlength] at h

private theorem fmt_of_ascii {cid : CommunityIdentifier}
    (h : ∀ byte ∈ cid.geohash.toList, byte < 128) :
    cid.fmt bs58 =
      some (cid.geohash.toList.map Char.ofUInt8 ++ bs58.encode cid.digest.toList) := by
  rw [fmt, fromUtf8_of_ascii h]

/-! ## Which texts are read without a panic -/

/-- The fifth byte ends a character, and a payload in base 58 is four bytes long. -/
def Readable (text : List Char) : Prop :=
  ∃ front payload, text = front ++ payload ∧ (asBytes front).length = 5 ∧
    ∀ decoded, bs58.decode payload = .ok decoded → decoded.length = 4

private theorem readable_of_fromStr {text : List Char}
    {result : Except DecodeError CommunityIdentifier}
    (h : fromStr bs58 text = some result) : Readable bs58 text := by
  obtain ⟨front, payload, geohash, rfl, hfront⟩ := exists_startsWith_of_fromStr bs58 h
  refine ⟨front, payload, rfl, by rw [← hfront, geohash.length_toList], ?_⟩
  intro decoded hdecode
  by_contra hlength
  simp [fromStr_of_length_ne bs58 hfront payload hdecode hlength] at h

private theorem fromStr_of_readable {text : List Char} (h : Readable bs58 text) :
    ∃ result, fromStr bs58 text = some result := by
  obtain ⟨front, payload, rfl, hlength, hdecoded⟩ := h
  have hfront : StartsWith ⟨(asBytes front).toArray, hlength⟩ front := rfl
  cases hdecode : bs58.decode payload with
  | error err => exact ⟨_, fromStr_of_error bs58 hfront payload hdecode⟩
  | ok decoded =>
      have hdigest : bs58.decode payload =
          .ok (⟨decoded.toArray, hdecoded decoded hdecode⟩ : Vector UInt8 4).toList := hdecode
      exact ⟨_, fromStr_of_digest bs58 hfront payload hdigest⟩

/-- Two bytes, a character across the fifth byte, a digest of one byte. -/
theorem malformed_texts_panic :
    fromStr bitcoin ['g', 'b'] = none ∧
      fromStr bitcoin ['g', 'b', 's', 'u', 'é'] = none ∧
      fromStr bitcoin ['g', 'b', 's', 'u', 'v', '1'] = none := by
  decide

/-- An identifier with an ascii geohash is read back from its text, and every text that is read
without a panic is an error or displayed again as it was: exactly the readable ones are. -/
theorem text_round_trips_iff_readable :
    (∀ cid : CommunityIdentifier, (∀ byte ∈ cid.geohash.toList, byte < 128) →
      ∃ text, cid.fmt bs58 = some text ∧ fromStr bs58 text = some (.ok cid)) ∧
    ∀ text,
      (∃ result, fromStr bs58 text = some result ∧
        ∀ cid, result = .ok cid → cid.fmt bs58 = some text) ↔ Readable bs58 text := by
  constructor
  · intro cid hascii
    have htext := fmt_of_ascii bs58 hascii
    exact ⟨_, htext, fromStr_of_fmt bs58 htext⟩
  · intro text
    constructor
    · rintro ⟨result, hresult, -⟩
      exact readable_of_fromStr bs58 hresult
    · intro hreadable
      obtain ⟨result, hresult⟩ := fromStr_of_readable bs58 hreadable
      refine ⟨result, hresult, ?_⟩
      rintro cid rfl
      exact fmt_of_fromStr bs58 hresult

/-- The identifier with the geohash `gbsuv` and the digest of four bytes 255. -/
theorem gbsuv_round_trips :
    ∃ text, fmt bitcoin ⟨#v[103, 98, 115, 117, 118], #v[255, 255, 255, 255]⟩ = some text ∧
      fromStr bitcoin text =
        some (.ok ⟨#v[103, 98, 115, 117, 118], #v[255, 255, 255, 255]⟩) :=
  (text_round_trips_iff_readable bitcoin).1 _ (by simp)

end CommunityIdentifier

end Encointer
