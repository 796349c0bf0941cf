import Mathlib.Data.Int.Basic
import Mathlib.Tactic.Ring
import Mathlib.Tactic.Linarith

/-!
# Machine integers over unbounded numbers

Unsigned words are naturals and signed words are integers. A checked operation
returns `none` exactly where the machine result does not fit; a wrapping one
reduces modulo the width. Nothing here refers to a particular program.
-/

namespace Encointer.Checked

/-! ## Unsigned 64-bit words -/

def u64Max : Nat := 2 ^ 64 - 1

def u32Max : Nat := 2 ^ 32 - 1

def toU64 (x : Nat) : Option Nat := if x < 2 ^ 64 then some x else none

def addU64 (a b : Nat) : Option Nat := toU64 (a + b)

def mulU64 (a b : Nat) : Option Nat := toU64 (a * b)

def subU64 (a b : Nat) : Option Nat := if b ≤ a then some (a - b) else none

def divU64 (a b : Nat) : Option Nat := if b = 0 then none else some (a / b)

/-- `1 << bits`; the shift has to be shorter than the word. -/
def shlOneU64 (bits : Nat) : Option Nat := if bits < 64 then some (2 ^ bits) else none

def addU32 (a b : Nat) : Option Nat := if a + b < 2 ^ 32 then some (a + b) else none

/-- `a - b` without a check: release builds wrap. -/
def wrappingSubU64 (a b : Nat) : Nat := (a + 2 ^ 64 - b) % 2 ^ 64

/-- `a + b` without a check. -/
def wrappingAddU64 (a b : Nat) : Nat := (a + b) % 2 ^ 64

def wrappingSubU32 (a b : Nat) : Nat := (a + 2 ^ 32 - b) % 2 ^ 32

def wrappingAddU32 (a b : Nat) : Nat := (a + b) % 2 ^ 32

/-- Saturating to the largest `u32`, as `saturated_into` and `saturating_add` do. -/
def saturateU32 (x : Nat) : Nat := min x u32Max

/-- The largest `u64` in place of a larger result. -/
def saturatingAddU64 (a b : Nat) : Nat := min (a + b) u64Max

def saturatingMulU64 (a b : Nat) : Nat := min (a * b) u64Max

def u128Max : Nat := 2 ^ 128 - 1

/-- The largest `u128` in place of a larger product. -/
def saturatingMulU128 (a b : Nat) : Nat := min (a * b) u128Max

theorem toU64_of_lt {x : Nat} (h : x < 2 ^ 64) : toU64 x = some x := if_pos h

theorem toU64_eq_some {x y : Nat} : toU64 x = some y ↔ x < 2 ^ 64 ∧ x = y := by
  unfold toU64
  split <;> simp_all

theorem addU64_of_lt {a b : Nat} (h : a + b < 2 ^ 64) : addU64 a b = some (a + b) :=
  toU64_of_lt h

theorem mulU64_of_lt {a b : Nat} (h : a * b < 2 ^ 64) : mulU64 a b = some (a * b) :=
  toU64_of_lt h

theorem subU64_of_le {a b : Nat} (h : b ≤ a) : subU64 a b = some (a - b) := if_pos h

theorem divU64_of_pos {a b : Nat} (h : 0 < b) : divU64 a b = some (a / b) :=
  if_neg (Nat.ne_of_gt h)

theorem shlOneU64_of_lt {bits : Nat} (h : bits < 64) : shlOneU64 bits = some (2 ^ bits) := if_pos h

theorem addU32_of_lt {a b : Nat} (h : a + b < 2 ^ 32) : addU32 a b = some (a + b) := if_pos h

theorem wrappingAddU32_of_lt {a b : Nat} (h : a + b < 2 ^ 32) : wrappingAddU32 a b = a + b :=
  Nat.mod_eq_of_lt h

theorem wrappingSubU64_of_le {a b : Nat} (h : b ≤ a) (ha : a < 2 ^ 64) :
    wrappingSubU64 a b = a - b := by
  unfold wrappingSubU64
  omega

theorem wrappingSubU32_of_le {a b : Nat} (h : b ≤ a) (ha : a < 2 ^ 32) :
    wrappingSubU32 a b = a - b := by
  unfold wrappingSubU32
  omega

theorem wrappingAddU64_of_lt {a b : Nat} (h : a + b < 2 ^ 64) : wrappingAddU64 a b = a + b :=
  Nat.mod_eq_of_lt h

theorem saturatingAddU64_of_lt {a b : Nat} (h : a + b < 2 ^ 64) : saturatingAddU64 a b = a + b :=
  Nat.min_eq_left (by unfold u64Max; omega)

theorem saturatingMulU64_of_lt {a b : Nat} (h : a * b < 2 ^ 64) : saturatingMulU64 a b = a * b :=
  Nat.min_eq_left (by unfold u64Max; omega)

/-- A chain of saturating products is one product, cut off at the end: zero factors included. -/
theorem saturatingMulU128_mul (a b c : Nat) :
    saturatingMulU128 (saturatingMulU128 a b) c = min (a * b * c) u128Max := by
  unfold saturatingMulU128
  by_cases hfits : a * b ≤ u128Max
  · rw [Nat.min_eq_left hfits]
  · rw [Nat.min_eq_right (Nat.le_of_not_le hfits)]
    cases c with
    | zero => rfl
    | succ c =>
        have hproduct : u128Max * (c + 1) ≤ a * b * (c + 1) :=
          Nat.mul_le_mul_right _ (Nat.le_of_not_le hfits)
        have hmax : u128Max ≤ u128Max * (c + 1) := Nat.le_mul_of_pos_right _ c.succ_pos
        rw [Nat.min_eq_right hmax, Nat.min_eq_right (hmax.trans hproduct)]

/-! ## Signed words -/

def toI64 (x : Int) : Option Int := if -2 ^ 63 ≤ x ∧ x < 2 ^ 63 then some x else none

def addI64 (a b : Int) : Option Int := toI64 (a + b)

def subI64 (a b : Int) : Option Int := toI64 (a - b)

def mulI64 (a b : Int) : Option Int := toI64 (a * b)

/-- Division rounds toward zero and fails on a zero divisor. -/
def divI64 (a b : Int) : Option Int := if b = 0 then none else toI64 (a.tdiv b)

/-- The remainder in `[0, |b|)`. -/
def remEuclidI64 (a b : Int) : Option Int := if b = 0 then none else some (a % b)

def asI64 (n : Nat) : Int := Int.bmod n (2 ^ 64)

def asI32 (n : Nat) : Int := Int.bmod n (2 ^ 32)

def asU64 (x : Int) : Nat := (x % 2 ^ 64).toNat

theorem toI64_of_bounds {x : Int} (h : -2 ^ 63 ≤ x) (h' : x < 2 ^ 63) : toI64 x = some x :=
  if_pos ⟨h, h'⟩

theorem toI64_of_abs {x : Int} (h : |x| < 2 ^ 63) : toI64 x = some x :=
  toI64_of_bounds (by have := (abs_lt.mp h).1; omega) (abs_lt.mp h).2

theorem addI64_natCast {a b : Nat} (h : a + b < 2 ^ 63) : addI64 a b = some ((a + b : Nat) : Int) :=
  toI64_of_bounds (by omega) (by omega)

theorem subI64_natCast {a b : Nat} (h : a < 2 ^ 63) (h' : b < 2 ^ 63) :
    subI64 a b = some (a - b : Int) :=
  toI64_of_bounds (by omega) (by omega)

theorem mulI64_natCast {a b : Nat} (h : a * b < 2 ^ 63) :
    mulI64 a b = some ((a * b : Nat) : Int) := by
  unfold mulI64
  rw [← Nat.cast_mul]
  exact toI64_of_bounds (by omega) (by omega)

theorem asI64_of_lt {n : Nat} (h : n < 2 ^ 63) : asI64 n = n := by
  unfold asI64
  exact Int.bmod_eq_of_le (by omega) (by omega)

theorem asI32_of_lt {n : Nat} (h : n < 2 ^ 31) : asI32 n = n := by
  unfold asI32
  exact Int.bmod_eq_of_le (by omega) (by omega)

theorem asU64_natCast {n : Nat} (h : n < 2 ^ 64) : asU64 n = n := by
  unfold asU64
  omega

theorem remEuclidI64_of_pos {a b : Int} (h : 0 < b) : remEuclidI64 a b = some (a % b) :=
  if_neg (by omega)

end Encointer.Checked
