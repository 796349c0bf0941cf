import Mathlib.Data.Nat.Digits.Lemmas

/-!
# Numerals of two bases

Digits stand with the most significant first, and leading zeros are kept one by
one when the base changes, so that no change of base loses anything. Base 58
writes bytes with the letters and ciphers that are not mistaken for each other.
-/

namespace Encointer.Base58

/-! ## Change of base -/

def valueOf (base : Nat) (digits : List Nat) : Nat := Nat.ofDigits base digits.reverse

def numeral (base value : Nat) : List Nat := (Nat.digits base value).reverse

def leadingZeros (digits : List Nat) : Nat := (digits.takeWhile (· == 0)).length

/-- The number in another base, behind as many zeros as before. -/
def changeBase (source target : Nat) (digits : List Nat) : List Nat :=
  List.replicate (leadingZeros digits) 0 ++ numeral target (valueOf source digits)

theorem valueOf_numeral (base value : Nat) : valueOf base (numeral base value) = value := by
  rw [valueOf, numeral, List.reverse_reverse, Nat.ofDigits_digits]

theorem head?_numeral_ne (base value : Nat) : (numeral base value).head? ≠ some 0 := by
  by_cases hvalue : value = 0
  · simp [numeral, hvalue]
  · have hlast := Nat.getLast_digit_ne_zero base hvalue
    rw [numeral, List.head?_reverse,
      List.getLast?_eq_some_getLast (Nat.digits_ne_nil_iff_ne_zero.mpr hvalue)]
    simpa using hlast

theorem numeral_valueOf {base : Nat} (hbase : 1 < base) {digits : List Nat}
    (hdigits : ∀ d ∈ digits, d < base) (hhead : digits.head? ≠ some 0) :
    numeral base (valueOf base digits) = digits := by
  rw [numeral, valueOf, Nat.digits_ofDigits base hbase, List.reverse_reverse]
  · simpa using hdigits
  · intro hne hzero
    rw [List.getLast_reverse] at hzero
    exact hhead (by rw [List.head?_eq_some_head (by simpa using hne), hzero])

theorem valueOf_replicate_append (base zeros : Nat) (digits : List Nat) :
    valueOf base (List.replicate zeros 0 ++ digits) = valueOf base digits := by
  induction zeros with
  | zero => rfl
  | succ zeros ih =>
      rw [List.replicate_succ, List.cons_append, valueOf, List.reverse_cons, Nat.ofDigits_append,
        Nat.ofDigits_singleton, Nat.mul_zero, Nat.add_zero]
      exact ih

theorem leadingZeros_replicate_append (zeros : Nat) {digits : List Nat}
    (hhead : digits.head? ≠ some 0) : leadingZeros (List.replicate zeros 0 ++ digits) = zeros := by
  unfold leadingZeros
  induction zeros with
  | zero =>
      cases digits with
      | nil => rfl
      | cons d rest =>
          have hd : (d == 0) = false := by simpa using hhead
          rw [List.replicate_zero, List.nil_append, List.takeWhile_cons, hd]
          rfl
  | succ zeros ih =>
      rw [List.replicate_succ, List.cons_append, List.takeWhile_cons]
      simpa using ih

/-- Leading zeros, and digits that do not begin with one. -/
theorem exists_eq_replicate_append (digits : List Nat) :
    ∃ rest, digits = List.replicate (leadingZeros digits) 0 ++ rest ∧ rest.head? ≠ some 0 := by
  unfold leadingZeros
  induction digits with
  | nil => exact ⟨[], rfl, by simp⟩
  | cons d digits ih =>
      by_cases hd : d = 0
      · obtain ⟨rest, hrest, hhead⟩ := ih
        refine ⟨rest, ?_, hhead⟩
        subst hd
        rw [List.takeWhile_cons_of_pos rfl, List.length_cons, List.replicate_succ,
          List.cons_append, ← hrest]
      · refine ⟨d :: digits, ?_, by simpa using hd⟩
        rw [List.takeWhile_cons_of_neg (by simpa using hd)]
        rfl

theorem changeBase_lt {source target : Nat} (htarget : 1 < target) (digits : List Nat) :
    ∀ d ∈ changeBase source target digits, d < target := by
  intro d hd
  rcases List.mem_append.mp hd with hzero | hdigit
  · have := List.eq_of_mem_replicate hzero
    omega
  · exact Nat.digits_lt_base htarget (List.mem_reverse.mp hdigit)

/-- A change of base and the change back lose nothing. -/
theorem changeBase_changeBase {source : Nat} (target : Nat) (hsource : 1 < source)
    {digits : List Nat} (hdigits : ∀ d ∈ digits, d < source) :
    changeBase target source (changeBase source target digits) = digits := by
  obtain ⟨rest, hrest, hhead⟩ := exists_eq_replicate_append digits
  have hlt : ∀ d ∈ rest, d < source := fun d hd =>
    hdigits d (by rw [hrest]; exact List.mem_append_right _ hd)
  have hvalue : valueOf source digits = valueOf source rest := by
    rw [hrest, valueOf_replicate_append]
  calc changeBase target source (changeBase source target digits)
      = List.replicate (leadingZeros digits) 0 ++ numeral source (valueOf source digits) := by
        rw [changeBase, changeBase, valueOf_replicate_append, valueOf_numeral,
          leadingZeros_replicate_append _ (head?_numeral_ne target _)]
    _ = List.replicate (leadingZeros digits) 0 ++ rest := by
        rw [hvalue, numeral_valueOf hsource hlt hhead]
    _ = digits := hrest.symm

/-! ## Codecs -/

inductive DecodeError where
  | bufferTooSmall
  /-- The index counts bytes, from zero. -/
  | invalidCharacter (character : Char) (index : Nat)
  | nonAsciiCharacter (index : Nat)
  deriving DecidableEq, Repr

/-- Encoding and decoding, inverse to each other. -/
structure Codec where
  encode : List UInt8 → List Char
  decode : List Char → Except DecodeError (List UInt8)
  decode_encode : ∀ bytes, decode (encode bytes) = .ok bytes
  encode_of_decode : ∀ text bytes, decode text = .ok bytes → encode bytes = text

/-! ## The alphabet of 58 characters -/

def alphabet : List Char :=
  ['1', '2', '3', '4', '5', '6', '7', '8', '9',
    'A', 'B', 'C', 'D', 'E', 'F', 'G', 'H', 'J', 'K', 'L', 'M', 'N', 'P', 'Q', 'R', 'S', 'T', 'U',
    'V', 'W', 'X', 'Y', 'Z',
    'a', 'b', 'c', 'd', 'e', 'f', 'g', 'h', 'i', 'j', 'k', 'm', 'n', 'o', 'p', 'q', 'r', 's', 't',
    'u', 'v', 'w', 'x', 'y', 'z']

def toChar (digit : Nat) : Char := alphabet.getD digit '1'

def toDigits : Nat → List Char → Except DecodeError (List Nat)
  | _, [] => .ok []
  | index, c :: rest =>
      if 127 < c.toNat then
        .error (.nonAsciiCharacter index)
      else
        match alphabet.idxOf? c with
        | none => .error (.invalidCharacter c index)
        | some digit => do
            let digits ← toDigits (index + 1) rest
            .ok (digit :: digits)

def encode (bytes : List UInt8) : List Char :=
  (changeBase 256 58 (bytes.map UInt8.toNat)).map toChar

def decode (text : List Char) : Except DecodeError (List UInt8) := do
  let digits ← toDigits 0 text
  .ok ((changeBase 58 256 digits).map UInt8.ofNat)

theorem idxOf?_toChar : ∀ digit < 58, alphabet.idxOf? (toChar digit) = some digit := by
  decide

theorem toNat_toChar_le : ∀ digit < 58, (toChar digit).toNat ≤ 127 := by
  decide

theorem toChar_of_idxOf? {c : Char} {digit : Nat} (h : alphabet.idxOf? c = some digit) :
    toChar digit = c ∧ digit < 58 := by
  obtain ⟨hlt, hget, -⟩ := List.idxOf?_eq_some_iff.mp h
  refine ⟨?_, hlt⟩
  rw [toChar, List.getD_eq_getElem?_getD, List.getElem?_eq_getElem hlt, hget]
  rfl

theorem toDigits_map_toChar {digits : List Nat} (h : ∀ d ∈ digits, d < 58) (index : Nat) :
    toDigits index (digits.map toChar) = .ok digits := by
  induction digits generalizing index with
  | nil => rfl
  | cons d digits ih =>
      have hd := h d (by simp)
      have hascii := toNat_toChar_le d hd
      rw [List.map_cons, toDigits, if_neg (by omega), idxOf?_toChar d hd]
      simp only [ih (fun x hx => h x (List.mem_cons_of_mem d hx))]
      rfl

theorem map_toChar_of_toDigits {text : List Char} {digits : List Nat} {index : Nat}
    (h : toDigits index text = .ok digits) :
    digits.map toChar = text ∧ ∀ d ∈ digits, d < 58 := by
  induction text generalizing digits index with
  | nil =>
      cases h
      simp
  | cons c text ih =>
      rw [toDigits] at h
      by_cases hascii : 127 < c.toNat
      · simp [hascii] at h
      · rw [if_neg hascii] at h
        cases hdigit : alphabet.idxOf? c with
        | none => simp [hdigit] at h
        | some digit =>
            rw [hdigit] at h
            cases hrest : toDigits (index + 1) text with
            | error e => simp [hrest, bind, Except.bind] at h
            | ok rest =>
                obtain ⟨hchar, hlt⟩ := toChar_of_idxOf? hdigit
                obtain ⟨htext, hall⟩ := ih hrest
                have hdigits : digit :: rest = digits := by
                  simpa [hrest, bind, Except.bind] using h
                rw [← hdigits, List.map_cons, hchar, htext]
                exact ⟨rfl, by simpa using ⟨hlt, hall⟩⟩

theorem decode_encode (bytes : List UInt8) : decode (encode bytes) = .ok bytes := by
  have hbytes : ∀ d ∈ bytes.map UInt8.toNat, d < 256 := by
    intro d hd
    obtain ⟨byte, -, rfl⟩ := List.mem_map.mp hd
    exact byte.toNat_lt
  unfold decode encode
  rw [toDigits_map_toChar (changeBase_lt (by decide) _)]
  show Except.ok _ = _
  rw [changeBase_changeBase 58 (by decide) hbytes, List.map_map]
  have hid : UInt8.ofNat ∘ UInt8.toNat = id := funext fun byte => UInt8.ofNat_toNat
  rw [hid, List.map_id]

theorem encode_of_decode (text : List Char) (bytes : List UInt8) (h : decode text = .ok bytes) :
    encode bytes = text := by
  unfold decode at h
  cases hdigits : toDigits 0 text with
  | error e => simp [hdigits, bind, Except.bind] at h
  | ok digits =>
      obtain ⟨htext, hlt⟩ := map_toChar_of_toDigits hdigits
      have hbytes : (changeBase 58 256 digits).map UInt8.ofNat = bytes := by
        simpa [hdigits, bind, Except.bind] using h
      have hvalues : bytes.map UInt8.toNat = changeBase 58 256 digits := by
        rw [← hbytes, List.map_map]
        refine (List.map_congr_left fun d hd => ?_).trans (List.map_id _)
        exact UInt8.toNat_ofNat_of_lt' (changeBase_lt (by decide) digits d hd)
      rw [encode, hvalues, changeBase_changeBase 256 (by decide) hlt, htext]

/-- The texts that can be decoded are the ones over the alphabet. -/
theorem exists_decode_iff {text : List Char} :
    (∃ bytes, decode text = .ok bytes) ↔
      ∃ digits : List Nat, (∀ d ∈ digits, d < 58) ∧ digits.map toChar = text := by
  constructor
  · rintro ⟨bytes, h⟩
    unfold decode at h
    cases hdigits : toDigits 0 text with
    | error e => simp [hdigits, bind, Except.bind] at h
    | ok digits =>
        obtain ⟨htext, hlt⟩ := map_toChar_of_toDigits hdigits
        exact ⟨digits, hlt, htext⟩
  · rintro ⟨digits, hlt, rfl⟩
    refine ⟨(changeBase 58 256 digits).map UInt8.ofNat, ?_⟩
    unfold decode
    rw [toDigits_map_toChar hlt]
    rfl

def bitcoin : Codec where
  encode := encode
  decode := decode
  decode_encode := decode_encode
  encode_of_decode := encode_of_decode

end Encointer.Base58
