import Mathlib.Data.Nat.Sqrt
import Mathlib.Order.Monotone.Basic
import Mathlib.Tactic.Ring
import Mathlib.Tactic.Linarith

/-!
# Binary fixed-point numbers and decay

A fixed-point number is the integer of its bits: `x` stands for `x / 2 ^ frac`.
A checked operation returns `none` exactly where the result does not fit its
width. Multiplication drops the bits that are shifted out. A decay takes a part
between zero and one that only shrinks with the elapsed time.
-/

namespace Encointer.FixedPoint

/-! ## Checked operations -/

variable (width frac : Nat)

def toSigned (x : Int) : Option Int :=
  if -2 ^ (width - 1) ≤ x ∧ x < 2 ^ (width - 1) then some x else none

def toUnsigned (x : Nat) : Option Nat := if x < 2 ^ width then some x else none

def checkedAbs (x : Int) : Option Int := toSigned width |x|

def checkedNeg (x : Int) : Option Int := toSigned width (-x)

def checkedMulSigned (x y : Int) : Option Int := toSigned width (x * y / 2 ^ frac)

def checkedMulUnsigned (x y : Nat) : Option Nat := toUnsigned width (x * y / 2 ^ frac)

def ofWhole (n : Nat) : Int := n * 2 ^ frac

variable {width frac}

theorem toSigned_of_fits {x : Int} (hlow : -2 ^ (width - 1) ≤ x) (hhigh : x < 2 ^ (width - 1)) :
    toSigned width x = some x := if_pos ⟨hlow, hhigh⟩

theorem toUnsigned_of_lt {x : Nat} (h : x < 2 ^ width) : toUnsigned width x = some x := if_pos h

theorem checkedMulSigned_ofWhole (x : Int) (n : Nat) :
    checkedMulSigned width frac x (ofWhole frac n) = toSigned width (x * n) := by
  have hpos : (0 : Int) < 2 ^ frac := by positivity
  rw [checkedMulSigned, ofWhole, ← mul_assoc, Int.mul_ediv_cancel _ hpos.ne']

theorem mul_part_le (principal : Nat) {part : Nat} (h : part ≤ 2 ^ frac) :
    principal * part / 2 ^ frac ≤ principal := by
  have hpos : 0 < 2 ^ frac := by positivity
  calc principal * part / 2 ^ frac
      ≤ principal * 2 ^ frac / 2 ^ frac := Nat.div_le_div_right (Nat.mul_le_mul_left _ h)
    _ = principal := Nat.mul_div_cancel _ hpos

theorem checkedMulUnsigned_part {principal part : Nat} (hprincipal : principal < 2 ^ width)
    (hpart : part ≤ 2 ^ frac) :
    checkedMulUnsigned width frac principal part = some (principal * part / 2 ^ frac) :=
  toUnsigned_of_lt (Nat.lt_of_le_of_lt (mul_part_le principal hpart) hprincipal)

/-- Rounding each part down loses no less than rounding their sum. -/
theorem mul_part_add_le (a b part : Nat) :
    a * part / 2 ^ frac + b * part / 2 ^ frac ≤ (a + b) * part / 2 ^ frac := by
  rw [Nat.add_mul]
  exact Nat.div_add_div_le_add_div

theorem scale_parts (x unit : Nat) :
    x / 2 ^ frac * unit + x % 2 ^ frac * unit / 2 ^ frac = x * unit / 2 ^ frac := by
  have hpos : 0 < 2 ^ frac := by positivity
  have hparts : x * unit = x / 2 ^ frac * unit * 2 ^ frac + x % 2 ^ frac * unit := by
    calc x * unit = (x / 2 ^ frac * 2 ^ frac + x % 2 ^ frac) * unit := by
          rw [Nat.div_add_mod' x (2 ^ frac)]
      _ = x / 2 ^ frac * unit * 2 ^ frac + x % 2 ^ frac * unit := by ring
  rw [hparts, Nat.add_comm, Nat.add_comm (_ * 2 ^ frac), Nat.add_mul_div_right _ _ hpos]

/-! ## Square roots -/

/-- The square root of a whole number, rounded down. -/
def sqrtWhole (frac n : Nat) : Nat := Nat.sqrt (n * (2 ^ frac * 2 ^ frac))

theorem sqrtWhole_mono : Monotone (sqrtWhole frac) :=
  fun _ _ h => Nat.sqrt_le_sqrt (Nat.mul_le_mul_right _ h)

theorem sqrtWhole_square (k : Nat) : sqrtWhole frac (k * k) = k * 2 ^ frac := by
  rw [sqrtWhole, show k * k * (2 ^ frac * 2 ^ frac) = k * 2 ^ frac * (k * 2 ^ frac) by ring,
    Nat.sqrt_eq]

theorem sqrtWhole_lt {k n : Nat} (h : n < k * k) : sqrtWhole frac n < k * 2 ^ frac := by
  have hpos : 0 < 2 ^ frac * 2 ^ frac := by positivity
  rw [sqrtWhole, Nat.sqrt_lt]
  calc n * (2 ^ frac * 2 ^ frac) < k * k * (2 ^ frac * 2 ^ frac) := Nat.mul_lt_mul_of_pos_right h hpos
    _ = k * 2 ^ frac * (k * 2 ^ frac) := by ring

/-! ## Decay -/

variable (frac)

/-- What is left of one after some time. -/
structure Decay where
  factor : Nat → Nat
  start : factor 0 = 2 ^ frac
  antitone : Antitone factor

variable {frac}

namespace Decay

def remaining (decay : Decay frac) (principal elapsed : Nat) : Nat :=
  principal * decay.factor elapsed / 2 ^ frac

variable (decay : Decay frac) (principal : Nat)

theorem factor_le (elapsed : Nat) : decay.factor elapsed ≤ 2 ^ frac := by
  rw [← decay.start]
  exact decay.antitone (Nat.zero_le elapsed)

@[simp] theorem remaining_start : decay.remaining principal 0 = principal := by
  have hpos : 0 < 2 ^ frac := by positivity
  rw [remaining, decay.start, Nat.mul_div_cancel _ hpos]

theorem remaining_le (elapsed : Nat) : decay.remaining principal elapsed ≤ principal :=
  mul_part_le principal (decay.factor_le elapsed)

@[simp] theorem remaining_zero (elapsed : Nat) : decay.remaining 0 elapsed = 0 := by
  rw [remaining, Nat.zero_mul, Nat.zero_div]

theorem remaining_antitone : Antitone (decay.remaining principal) := by
  intro elapsed elapsed' h
  exact Nat.div_le_div_right (Nat.mul_le_mul_left principal (decay.antitone h))

end Decay

end Encointer.FixedPoint
