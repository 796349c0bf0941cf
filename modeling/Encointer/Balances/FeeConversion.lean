import Encointer.Pallets.Fungibles
import Encointer.Pallets.Meetups

/-!
# Fees paid in community currency

The native fee, the nominal income of the community and the fee conversion
factor are multiplied with saturation before the product is divided. The result
is therefore the formula's only up to the quotient of the largest word.
-/

namespace Encointer.Balances

open Checked

/-! ## The conversion -/

def oneMicroKsm : Nat := 1000000

def oneKsm : Nat := 1000000 * oneMicroKsm

def oneKiloKsm : Nat := 1000 * oneKsm

/-- Community Currency = KSM * FeeConversionFactor * Reward -/
def applyFeeConversionFactor (balance reward feeConversionFactor : Nat) : Nat :=
  -- the balance is in pKSM and the factor in KKSM
  saturatingMulU128 (saturatingMulU128 balance reward) feeConversionFactor / oneKiloKsm

example : applyFeeConversionFactor (5 * oneMicroKsm) (20 * 2 ^ 64) 100000 = 2 ^ 64 / 100 := by
  decide

/-- The nominal income of the community stands for the reward. -/
def toAssetBalance {AccountId : Type} (s : Runtime AccountId) (feeConversionFactor : Nat)
    (balance : Nat) (assetId : CommunityIdentifier) : Except DispatchError Nat :=
  let rewardBalanceType := Ceremonies.nominalIncome s assetId
  let reward := fungible rewardBalanceType
  .ok (applyFeeConversionFactor balance reward feeConversionFactor)

/-! ## What the formula gives -/

/-- The formula over unbounded integers, cut off at the largest word. -/
def formulaFee (balance reward feeConversionFactor : Nat) : Nat :=
  min (balance * reward * feeConversionFactor / oneKiloKsm) u128Max

/-- The product is cut off before the division, so the quotient is cut off at a smaller bound. -/
theorem applyFeeConversionFactor_eq (balance reward feeConversionFactor : Nat) :
    applyFeeConversionFactor balance reward feeConversionFactor =
      min (balance * reward * feeConversionFactor / oneKiloKsm) (u128Max / oneKiloKsm) := by
  rw [applyFeeConversionFactor, saturatingMulU128_mul]
  exact Monotone.map_min (fun _ _ h => Nat.div_le_div_right h)

/-- The first product whose quotient is lost: the multiple of the divisor above the words. -/
def firstLostProduct : Nat := (u128Max / oneKiloKsm + 1) * oneKiloKsm

theorem applyFeeConversionFactor_of_large {balance reward feeConversionFactor : Nat}
    (h : firstLostProduct ≤ balance * reward * feeConversionFactor) :
    applyFeeConversionFactor balance reward feeConversionFactor = u128Max / oneKiloKsm ∧
      u128Max / oneKiloKsm < formulaFee balance reward feeConversionFactor := by
  have hquotient : u128Max / oneKiloKsm + 1 ≤
      balance * reward * feeConversionFactor / oneKiloKsm :=
    (Nat.le_div_iff_mul_le (by decide)).mpr h
  constructor
  · rw [applyFeeConversionFactor_eq]
    exact min_eq_right (Nat.le_of_succ_le hquotient)
  · exact lt_min hquotient (by decide)

private theorem applyFeeConversionFactor_of_small {balance reward feeConversionFactor : Nat}
    (h : balance * reward * feeConversionFactor < firstLostProduct) :
    applyFeeConversionFactor balance reward feeConversionFactor =
      formulaFee balance reward feeConversionFactor := by
  have hquotient : balance * reward * feeConversionFactor / oneKiloKsm ≤
      u128Max / oneKiloKsm :=
    Nat.lt_succ_iff.mp ((Nat.div_lt_iff_lt_mul (by decide)).mpr h)
  rw [applyFeeConversionFactor_eq, formulaFee, min_eq_left hquotient]
  exact (min_eq_left (hquotient.trans (Nat.div_le_self u128Max oneKiloKsm))).symm

theorem applyFeeConversionFactor_eq_iff (balance reward feeConversionFactor : Nat) :
    applyFeeConversionFactor balance reward feeConversionFactor =
        formulaFee balance reward feeConversionFactor ↔
      balance * reward * feeConversionFactor < firstLostProduct := by
  constructor
  · intro heq
    by_contra hlarge
    have hlost := applyFeeConversionFactor_of_large (Nat.le_of_not_lt hlarge)
    omega
  · exact applyFeeConversionFactor_of_small

/-- A fee of 1 kKSM with a reward of 20 units: less than a fifth of the formula's fee. -/
theorem kiloKsm_fee_cut_off :
    applyFeeConversionFactor oneKiloKsm (20 * oneEncointerBalanceUnit) 100000 =
        340282366920938463463374 ∧
      formulaFee oneKiloKsm (20 * oneEncointerBalanceUnit) 100000 =
        2000000 * oneEncointerBalanceUnit := by
  decide

/-- The fee of a transaction, and any other converted fee, is the formula's exactly as long as the
product of the three factors stays below the first lost one. -/
theorem fee_follows_formula_iff {AccountId : Type} (s : Runtime AccountId)
    (assetId : CommunityIdentifier) (balance reward feeConversionFactor : Nat) :
    (applyFeeConversionFactor balance reward feeConversionFactor =
        formulaFee balance reward feeConversionFactor ↔
      balance * reward * feeConversionFactor < firstLostProduct) ∧
    (toAssetBalance s feeConversionFactor balance assetId =
        .ok (formulaFee balance (fungible (Ceremonies.nominalIncome s assetId))
          feeConversionFactor) ↔
      balance * fungible (Ceremonies.nominalIncome s assetId) * feeConversionFactor <
        firstLostProduct) := by
  constructor
  · exact applyFeeConversionFactor_eq_iff balance reward feeConversionFactor
  · rw [toAssetBalance, Except.ok.injEq]
    exact applyFeeConversionFactor_eq_iff balance _ feeConversionFactor

end Encointer.Balances
