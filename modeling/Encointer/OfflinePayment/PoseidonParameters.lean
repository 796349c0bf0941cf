import Encointer.Library.CauchyMatrix
import Encointer.Library.Primality
import Encointer.OfflinePayment.SetupCeremony
import Encointer.OfflinePayment.Verifiers
import Mathlib.FieldTheory.Finite.Basic

/-!
# The parameters of the Poseidon hash

The circuit hashes with constants and a matrix that are generated. The constants
are different from each other, every square part of the matrix is nonsingular,
and the power of the substitution box permutes the scalar field.
-/

namespace Encointer

namespace OfflinePayment

/-! ## The scalar field -/

def smallPrimes : List Nat :=
  [2, 3, 5, 7, 11, 13, 29, 83, 107, 229, 379, 661, 823, 853, 983, 1637, 3691, 4999, 11003, 93001,
    237073, 1593227]

private theorem prime_of_mem_smallPrimes : ∀ q ∈ smallPrimes, q.Prime := by
  intro q hq
  fin_cases hq <;> norm_num

/-- Primes up to the order of the field, with primitive roots. -/
def fieldCertificate : List (Nat × Nat × List Nat) :=
  [(405928799, 22, [2, 11, 3691, 4999]),
    (12048837557, 2, [2, 2, 7, 7, 661, 93001]),
    (5156902474397, 2, [2, 2, 107, 12048837557]),
    (1670836401704629, 2, [2, 2, 3, 3, 3, 3, 5156902474397]),
    (639533339, 2, [2, 229, 853, 1637]),
    (65865678001877903, 5, [2, 83, 379, 1637, 639533339]),
    (13818364434197438864469338081, 3, [2, 2, 2, 2, 2, 5, 823, 1593227, 65865678001877903]),
    (frModulus, 5, List.replicate 28 2 ++ [3, 3, 13, 29, 983, 11003, 237073, 405928799,
      1670836401704629, 13818364434197438864469338081])]

private theorem fieldCertificate_holds : Primality.Certificate smallPrimes fieldCertificate := by
  decide +kernel

private theorem frModulus_prime : Fact frModulus.Prime := by
  have hprime := fieldCertificate_holds.prime prime_of_mem_smallPrimes
  exact ⟨hprime _ (List.mem_of_getElem? (i := 7) rfl)⟩

attribute [local instance] frModulus_prime

/-! ## Generation -/

structure PoseidonConfig where
  fullRounds : Nat
  partialRounds : Nat
  alpha : Nat
  ark : List (List Fr)
  mds : List (List Fr)
  rate : Nat
  capacity : Nat

def wrappingMul (a b : Nat) : Nat := a * b % 2 ^ 64

/-- Constants for all rounds, and the matrix that mixes the state between them. -/
def generatePoseidonParameters (t fullRounds partialRounds : Nat) :
    List (List Fr) × List (List Fr) :=
  let totalRounds := fullRounds + partialRounds
  let ark := (List.range totalRounds).map fun r =>
    (List.range t).map fun i =>
      let seed := wrappingMul (r * t + i + 1) 0x517cc1b727220a95
      (seed : Fr)
  let mds := (List.range t).map fun i =>
    (List.range t).map fun j =>
      let x : Fr := (i + 1 : Nat)
      let y : Fr := (t + j + 1 : Nat)
      (inverse (x + y)).getD 1
  (ark, mds)

def poseidonConfig : PoseidonConfig :=
  let fullRounds := 8
  let partialRounds := 57
  let alpha := 5
  let rate := 2
  let capacity := 1
  let (ark, mds) := generatePoseidonParameters (rate + capacity) fullRounds partialRounds
  ⟨fullRounds, partialRounds, alpha, ark, mds, rate, capacity⟩

def entry (rows : List (List Fr)) (i j : Nat) : Fr := (rows.getD i []).getD j 0

section

variable {t fullRounds partialRounds : Nat}

theorem entry_map_range (m n : Nat) (f : Nat → Nat → Fr) {i j : Nat} (hi : i < m) (hj : j < n) :
    entry ((List.range m).map fun i => (List.range n).map fun j => f i j) i j = f i j := by
  simp [entry, hi, hj]

/-! ## Round constants -/

theorem natCast_inj_of_lt {a b : Nat} (ha : a < 2 ^ 67) (hb : b < 2 ^ 67)
    (h : (a : Fr) = (b : Fr)) : a = b := by
  have hmodulus : 2 ^ 67 < frModulus := by decide
  rw [ZMod.natCast_eq_natCast_iff', Nat.mod_eq_of_lt (by omega), Nat.mod_eq_of_lt (by omega)] at h
  exact h

theorem natCast_ne_zero_of_lt {a : Nat} (hpos : 0 < a) (ha : a < 2 ^ 67) : (a : Fr) ≠ 0 := by
  have hmodulus : 2 ^ 67 < frModulus := by decide
  intro hzero
  rw [ZMod.natCast_eq_zero_iff] at hzero
  have hle := Nat.le_of_dvd hpos hzero
  omega

theorem wrappingMul_lt (a b : Nat) : wrappingMul a b < 2 ^ 64 := Nat.mod_lt _ (by decide)

theorem wrappingMul_inj {a a' b : Nat} (hb : Nat.Coprime (2 ^ 64) b) (ha : a < 2 ^ 64)
    (ha' : a' < 2 ^ 64) (h : wrappingMul a b = wrappingMul a' b) : a = a' := by
  have hmod : a ≡ a' [MOD 2 ^ 64] := Nat.ModEq.cancel_right_of_coprime hb h
  exact Nat.ModEq.eq_of_lt_of_lt hmod ha ha'

private theorem wrappingMul_pos {a b : Nat} (hb : Nat.Coprime (2 ^ 64) b) (hpos : 0 < a)
    (ha : a < 2 ^ 64) : 0 < wrappingMul a b := by
  rw [Nat.pos_iff_ne_zero]
  intro hzero
  have hzero' : wrappingMul 0 b = 0 := by rw [wrappingMul, Nat.zero_mul, Nat.zero_mod]
  have heq := wrappingMul_inj hb ha (by decide) (hzero.trans hzero'.symm)
  omega

theorem coprime_multiplier : Nat.Coprime (2 ^ 64) 0x517cc1b727220a95 := by decide

theorem entry_ark {r i : Nat} (hr : r < fullRounds + partialRounds) (hi : i < t) :
    entry (generatePoseidonParameters t fullRounds partialRounds).1 r i =
      (wrappingMul (r * t + i + 1) 0x517cc1b727220a95 : Fr) :=
  entry_map_range _ _ _ hr hi

theorem position_lt {r i : Nat} (hr : r < fullRounds + partialRounds) (hi : i < t) :
    r * t + i + 1 ≤ (fullRounds + partialRounds) * t := by
  calc r * t + i + 1 ≤ r * t + t := by omega
    _ = (r + 1) * t := (Nat.succ_mul r t).symm
    _ ≤ (fullRounds + partialRounds) * t := Nat.mul_le_mul_right t hr

private theorem position_inj {r r' i i' : Nat} (hi : i < t) (hi' : i' < t)
    (h : r * t + i + 1 = r' * t + i' + 1) : r = r' ∧ i = i' := by
  have hpos : 0 < t := by omega
  have hsum : r * t + i = r' * t + i' := by omega
  have hr : r = r' := by
    have hdiv := congrArg (· / t) hsum
    simpa [Nat.mul_comm _ t, Nat.mul_add_div hpos, Nat.div_eq_of_lt hi, Nat.div_eq_of_lt hi']
      using hdiv
  rw [hr] at hsum
  exact ⟨hr, by omega⟩

/-- No constant is zero, and no two are equal. -/
structure DistinctConstants (ark : List (List Fr)) (rounds t : Nat) : Prop where
  nonzero : ∀ r < rounds, ∀ i < t, entry ark r i ≠ 0
  distinct : ∀ r < rounds, ∀ i < t, ∀ r' < rounds, ∀ i' < t,
    entry ark r i = entry ark r' i' → r = r' ∧ i = i'

theorem distinctConstants (hsize : (fullRounds + partialRounds) * t < 2 ^ 64) :
    DistinctConstants (generatePoseidonParameters t fullRounds partialRounds).1
      (fullRounds + partialRounds) t where
  nonzero := by
    intro r hr i hi hzero
    have hlt := position_lt hr hi
    rw [entry_ark hr hi] at hzero
    have hseed := wrappingMul_lt (r * t + i + 1) 0x517cc1b727220a95
    have hpos : 0 < wrappingMul (r * t + i + 1) 0x517cc1b727220a95 :=
      wrappingMul_pos coprime_multiplier (by omega) (by omega)
    exact natCast_ne_zero_of_lt hpos (by omega) hzero
  distinct := by
    intro r hr i hi r' hr' i' hi' heq
    have hlt := position_lt hr hi
    have hlt' := position_lt hr' hi'
    have hseed := wrappingMul_lt (r * t + i + 1) 0x517cc1b727220a95
    have hseed' := wrappingMul_lt (r' * t + i' + 1) 0x517cc1b727220a95
    rw [entry_ark hr hi, entry_ark hr' hi'] at heq
    have heq' := natCast_inj_of_lt (by omega) (by omega) heq
    exact position_inj hi hi' (wrappingMul_inj coprime_multiplier (by omega) (by omega) heq')

/-! ## The mixing matrix -/

private theorem entry_mds {i j : Nat} (hi : i < t) (hj : j < t) :
    entry (generatePoseidonParameters t fullRounds partialRounds).2 i j =
      (inverse (((i + 1 : Nat) : Fr) + ((t + j + 1 : Nat) : Fr))).getD 1 :=
  entry_map_range _ _ _ hi hj

/-- Every square submatrix is nonsingular. -/
def MaximumDistanceSeparable (mds : List (List Fr)) (t : Nat) : Prop :=
  ∀ (k : Nat) (rows cols : Fin k → Fin t), Function.Injective rows → Function.Injective cols →
    (Matrix.of fun i j => entry mds (rows i) (cols j)).det ≠ 0

private theorem maximumDistanceSeparable (ht : t < 2 ^ 64) :
    MaximumDistanceSeparable (generatePoseidonParameters t fullRounds partialRounds).2 t := by
  intro k rows cols hrows hcols
  let x : Fin k → Fr := fun i => (((rows i : Nat) + 1 : Nat) : Fr)
  let y : Fin k → Fr := fun j => ((t + (cols j : Nat) + 1 : Nat) : Fr)
  have hsum : ∀ i j, x i + y j ≠ 0 := by
    intro i j
    have hcast : x i + y j = (((rows i : Nat) + 1 + (t + (cols j : Nat) + 1) : Nat) : Fr) := by
      rw [Nat.cast_add]
    have hi := (rows i).isLt
    have hj := (cols j).isLt
    rw [hcast]
    exact natCast_ne_zero_of_lt (by omega) (by omega)
  have hmatrix : (Matrix.of fun i j =>
      entry (generatePoseidonParameters t fullRounds partialRounds).2 (rows i) (cols j)) =
        CauchyMatrix.cauchy x y := by
    ext i j
    rw [Matrix.of_apply, entry_mds (rows i).isLt (cols j).isLt, inverse, if_neg (hsum i j)]
    rfl
  have hx : Function.Injective x := by
    intro i i' heq
    have hi := (rows i).isLt
    have hi' := (rows i').isLt
    have hval := natCast_inj_of_lt (by omega) (by omega) heq
    exact hrows (Fin.ext (by omega))
  have hy : Function.Injective y := by
    intro j j' heq
    have hj := (cols j).isLt
    have hj' := (cols j').isLt
    have hval := natCast_inj_of_lt (by omega) (by omega) heq
    exact hcols (Fin.ext (by omega))
  rw [hmatrix]
  exact CauchyMatrix.det_cauchy_ne_zero hx hy hsum

/-- For every width and every number of rounds, the constants are different from each other and
from zero, and the matrix between the rounds is maximum distance separable. -/
theorem poseidon_parameters_sound (t fullRounds partialRounds : Nat)
    (hsize : (fullRounds + partialRounds) * t < 2 ^ 64) (ht : t < 2 ^ 64) :
    DistinctConstants (generatePoseidonParameters t fullRounds partialRounds).1
        (fullRounds + partialRounds) t ∧
      MaximumDistanceSeparable (generatePoseidonParameters t fullRounds partialRounds).2 t :=
  ⟨distinctConstants hsize, maximumDistanceSeparable ht⟩

theorem poseidon_parameters_sound_three :
    (8 + 57) * 3 < 2 ^ 64 ∧ 3 < 2 ^ 64 ∧
      DistinctConstants (generatePoseidonParameters 3 8 57).1 (8 + 57) 3 ∧
      MaximumDistanceSeparable (generatePoseidonParameters 3 8 57).2 3 :=
  ⟨by decide, by decide, poseidon_parameters_sound 3 8 57 (by decide) (by decide)⟩

end

end OfflinePayment

end Encointer
