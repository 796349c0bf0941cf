import Encointer.Pallets.Balances

/-!
# The fungibles interface of community currencies

Other pallets write balances through this interface in amounts with 18 decimals.
-/

namespace Encointer.Balances

open Checked

def oneEncointerBalanceUnit : Nat := 10 ^ 18

/-- The bits of the balance; the factor of the upper half has two bits less of precision. -/
def balanceType (fungible : Nat) : Nat :=
  let f64Part := fungible % 2 ^ 64 * one / oneEncointerBalanceUnit
  let conversionFactor := 2 ^ 126 / oneEncointerBalanceUnit * 4
  let i64Part := min (fungible / 2 ^ 64 * conversionFactor) (2 ^ 128 - 1)
  (f64Part + i64Part) % 2 ^ 128

/-- The whole part and the rest are scaled one after the other. -/
def fungible (balance : Nat) : Nat :=
  balance / 2 ^ 64 * oneEncointerBalanceUnit +
    min (balance % 2 ^ 64 * oneEncointerBalanceUnit) (2 ^ 128 - 1) / 2 ^ 64

inductive DepositConsequence where
  | unknownAsset
  | overflow
  | success
  deriving DecidableEq, Repr

variable {AccountId : Type} [DecidableEq AccountId] (config : Config AccountId)
  (blockNumber : Nat) (balances : BalancesStorage AccountId)

/-- The total issuance is taken as it is stored, and the balance with its demurrage. -/
def canDeposit (asset : CommunityIdentifier) (who : AccountId) (amount : Nat) :
    DepositConsequence :=
  if balances.totalIssuance.contains asset = false then
    .unknownAsset
  else
    let totalIssuance := (balances.totalIssuance.get asset ⟨0, 0⟩).principal
    let balanceAmount := balanceType amount
    if 2 ^ 128 ≤ totalIssuance + balanceAmount then
      .overflow
    else if 2 ^ 128 ≤ balance config blockNumber balances asset who + balanceAmount then
      .overflow
    else
      .success

def writeBalance (asset : CommunityIdentifier) (who : AccountId) (amount : Nat) :
    BalancesStorage AccountId :=
  { balances with balance := balances.balance.insert (asset, who) ⟨balanceType amount, blockNumber⟩ }

def setTotalIssuance (asset : CommunityIdentifier) (amount : Nat) : BalancesStorage AccountId :=
  { balances with
    totalIssuance := balances.totalIssuance.insert asset ⟨balanceType amount, blockNumber⟩ }

end Encointer.Balances
