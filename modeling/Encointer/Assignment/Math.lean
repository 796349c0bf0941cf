import Encointer.Library.Checked

/-!
# Math functions used in the ceremonies pallet

Each loop carries a fuel that bounds its iterations. Running out of fuel, like
an overflow the source guards with `expect`, is `none`; `Assignment.MathFacts`
shows that neither happens for `u64` arguments.
-/

namespace Encointer.Assignment

open Checked

def checkedModulo (dividend divisor : Nat) : Option Nat :=
  if divisor = 0 then none else some (dividend % divisor)

/-- The signed instance of `checked_modulo`: `%` truncates toward zero. -/
def checkedModuloI64 (dividend divisor : Int) : Option Int :=
  if divisor = 0 then none else some (dividend.tmod divisor)

def checkedCeilDivision (dividend divisor : Nat) : Option Nat := do
  let dd ← addU64 dividend divisor
  let dd ← subU64 dd 1
  if divisor = 0 then none else some (dd / divisor)

/-! ## Primes -/

/-- Trial division by `i` and `i + 2`; `j` is the square of `i`. -/
def isPrimeLoop (n : Nat) : Nat → Nat → Nat → Option Bool
  | 0, _, _ => none
  | fuel + 1, i, j =>
      if j ≤ n then do
        let iPlusTwo ← addU64 i 2
        if n % i = 0 ∨ n % iPlusTwo = 0 then
          some false
        else
          let i ← addU64 i 6
          match mulU64 i i with
          | some iSquared => isPrimeLoop n fuel i iSquared
          -- if i overflows we can be sure that j <= n does not hold
          | none => some true
      else
        some true

def isPrime (n : Nat) : Option Bool :=
  if n ≤ 3 then some (decide (1 < n))
  else if n % 2 = 0 ∨ n % 3 = 0 then some false
  else if n < 25 then some true
  else isPrimeLoop n n 5 25

def findPrimeBelowLoop : Nat → Nat → Option Nat
  | 0, _ => none
  | fuel + 1, n =>
      if 0 < n then do
        if ← isPrime n then
          some n
        else
          match subU64 n 2 with
          | some nMinusTwo => findPrimeBelowLoop fuel nMinusTwo
          | none => some 2
      else
        some 2

def findPrimeBelow (n : Nat) : Option Nat :=
  if n ≤ 2 then some 2
  else if n % 2 = 0 then findPrimeBelowLoop n (n - 1)
  else findPrimeBelowLoop n n

/-! ## Common divisors -/

/-- Subtractive Euclid; `a + b` drops in every call. -/
def greatestCommonDenominatorLoop : Nat → Nat → Nat → Nat
  | 0, _, _ => 0
  | fuel + 1, a, b =>
      if a = 0 ∨ b = 0 then 0
      else if a = b then a
      else if b < a then greatestCommonDenominatorLoop fuel (a - b) b
      else greatestCommonDenominatorLoop fuel a (b - a)

def getGreatestCommonDenominator (a b : Nat) : Nat :=
  greatestCommonDenominatorLoop (a + b + 1) a b

def isCoprime (a b : Nat) : Bool := getGreatestCommonDenominator a b = 1

/-! ## The inverse modulo a prime -/

/-- Extended Euclid on `mn`; only the coefficients `xy` of the second operand are kept. -/
def modInvLoop : Nat → Int × Int → Int × Int → Option Int
  | 0, _, _ => none
  | fuel + 1, mn, xy =>
      if mn.2 ≠ 0 then do
        let quotient ← divI64 mn.1 mn.2
        let product ← mulI64 quotient xy.2
        let difference ← subI64 xy.1 product
        let remainder ← checkedModuloI64 mn.1 mn.2
        modInvLoop fuel (mn.2, remainder) (xy.2, difference)
      else
        some xy.1

def makeNonnegativeLoop (module : Int) : Nat → Int → Option Int
  | 0, _ => none
  | fuel + 1, x =>
      if x < 0 then do
        let x ← addI64 x module
        makeNonnegativeLoop module fuel x
      else
        some x

def checkedModInv (a module : Int) : Option Int := do
  let x ← modInvLoop (a.natAbs + 2) (module, a) (0, 1)
  makeNonnegativeLoop module (x.natAbs + 1) x

example : findPrimeBelow 118 = some 113 := by decide

example : checkedModInv 69 113 = some 95 := by decide

end Encointer.Assignment
