import Mathlib.Data.List.Basic
import Mathlib.Tactic.Ring

/-!
# Little-endian bytes

Numbers as fixed-width strings of bytes, the lowest byte first, and lists of
records of one width.
-/

namespace Encointer

namespace LittleEndian

def bytesToNat : List UInt8 → Nat
  | [] => 0
  | byte :: rest => byte.toNat + 256 * bytesToNat rest

/-- The lowest `width` bytes of the number. -/
def natToBytes : Nat → Nat → List UInt8
  | 0, _ => []
  | width + 1, n => UInt8.ofNat n :: natToBytes width (n / 256)

theorem length_natToBytes (width n : Nat) : (natToBytes width n).length = width := by
  induction width generalizing n with
  | zero => rfl
  | succ width ih => simp [natToBytes, ih]

theorem bytesToNat_natToBytes {width n : Nat} (h : n < 256 ^ width) :
    bytesToNat (natToBytes width n) = n := by
  induction width generalizing n with
  | zero =>
      have hn : n = 0 := by simpa using h
      rw [hn]
      rfl
  | succ width ih =>
      have hrest : n / 256 < 256 ^ width := by
        rw [Nat.div_lt_iff_lt_mul (by omega)]
        rw [Nat.pow_succ] at h
        exact h
      rw [natToBytes, bytesToNat, ih hrest, UInt8.toNat_ofNat']
      omega

theorem bytesToNat_lt (bytes : List UInt8) : bytesToNat bytes < 256 ^ bytes.length := by
  induction bytes with
  | nil => decide
  | cons byte rest ih =>
      have hbyte : byte.toNat < 256 := byte.toNat_lt
      rw [bytesToNat, List.length_cons, Nat.pow_succ]
      omega

theorem natToBytes_bytesToNat (bytes : List UInt8) :
    natToBytes bytes.length (bytesToNat bytes) = bytes := by
  induction bytes with
  | nil => rfl
  | cons byte rest ih =>
      have hbyte : byte.toNat < 256 := byte.toNat_lt
      have hdiv : (byte.toNat + 256 * bytesToNat rest) / 256 = bytesToNat rest := by omega
      have hmod : UInt8.ofNat (byte.toNat + 256 * bytesToNat rest) = byte := by
        apply UInt8.toNat_inj.mp
        rw [UInt8.toNat_ofNat']
        omega
      rw [bytesToNat, List.length_cons, natToBytes, hdiv, hmod, ih]

theorem bytesToNat_replicate_zero (zeros : Nat) : bytesToNat (List.replicate zeros 0) = 0 := by
  induction zeros with
  | zero => rfl
  | succ zeros ih => simp [List.replicate_succ, bytesToNat, ih]

theorem bytesToNat_append_zeros (bytes : List UInt8) (zeros : Nat) :
    bytesToNat (bytes ++ List.replicate zeros 0) = bytesToNat bytes := by
  induction bytes with
  | nil => exact bytesToNat_replicate_zero zeros
  | cons byte rest ih => rw [List.cons_append, bytesToNat, bytesToNat, ih]

/-! ## Records of one width -/

def chunks {α : Type} (width : Nat) : Nat → List α → List (List α)
  | 0, _ => []
  | count + 1, xs => xs.take width :: chunks width count (xs.drop width)

theorem chunks_flatMap {α β : Type} {width : Nat} {encode : β → List α}
    (hwidth : ∀ x, (encode x).length = width) (xs : List β) :
    chunks width xs.length (xs.flatMap encode) = xs.map encode := by
  induction xs with
  | nil => rfl
  | cons x xs ih =>
      rw [List.length_cons, chunks, List.flatMap_cons, List.take_left' (hwidth x),
        List.drop_left' (hwidth x), ih, List.map_cons]

theorem length_flatMap {α β : Type} {width : Nat} {encode : β → List α}
    (hwidth : ∀ x, (encode x).length = width) (xs : List β) :
    (xs.flatMap encode).length = width * xs.length := by
  induction xs with
  | nil => rfl
  | cons x xs ih =>
      rw [List.flatMap_cons, List.length_append, hwidth, ih, List.length_cons]
      ring

end LittleEndian

end Encointer
