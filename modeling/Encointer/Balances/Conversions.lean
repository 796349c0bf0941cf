import Encointer.Ceremonies.RewardOnce
import Encointer.Library.FixedPoint
import Encointer.Pallets.Fungibles

/-!
# Conversions to amounts with 18 decimals

A balance loses nothing but its last bits on the way to an amount. On the way
back, both halves of the amount are rounded down, so no value is created. An
amount that is no balance is not refused: its upper half saturates, and the sum
of both halves may wrap.
-/

namespace Encointer.Balances

/-! ## The halves of an amount -/

def f64Part (amount : Nat) : Nat := amount % 2 ^ 64 * one / oneEncointerBalanceUnit

/-- What the upper half is worth, in bits of the balance. -/
def conversionFactor : Nat := 2 ^ 126 / oneEncointerBalanceUnit * 4

def i64Part (amount : Nat) : Nat := min (amount / 2 ^ 64 * conversionFactor) (2 ^ 128 - 1)

theorem balanceType_eq (amount : Nat) :
    balanceType amount = (f64Part amount + i64Part amount) % 2 ^ 128 := rfl

def InRange (amount : Nat) : Prop := amount < 2 ^ 64 * oneEncointerBalanceUnit

instance (amount : Nat) : Decidable (InRange amount) :=
  inferInstanceAs (Decidable (_ < _))

/-- Both halves, when nothing saturates and nothing wraps. -/
def converted (amount : Nat) : Nat := f64Part amount + amount / 2 ^ 64 * conversionFactor

theorem conversionFactor_bounds :
    conversionFactor * oneEncointerBalanceUnit ≤ 2 ^ 128 ∧
      2 ^ 128 < (conversionFactor + 4) * oneEncointerBalanceUnit := by
  decide

theorem f64Part_bounds (amount : Nat) :
    f64Part amount * oneEncointerBalanceUnit ≤ amount % 2 ^ 64 * 2 ^ 64 ∧
      amount % 2 ^ 64 * 2 ^ 64 < (f64Part amount + 1) * oneEncointerBalanceUnit := by
  unfold f64Part oneEncointerBalanceUnit one
  constructor
  · exact Nat.div_mul_le_self _ _
  · rw [Nat.mul_comm (_ + 1)]
    exact Nat.lt_mul_div_succ _ (by decide)

theorem converted_bounds (amount : Nat) :
    converted amount * oneEncointerBalanceUnit ≤ amount * 2 ^ 64 ∧
      amount * 2 ^ 64 <
        (converted amount + 4 * (amount / 2 ^ 64) + 1) * oneEncointerBalanceUnit := by
  have hhalves : amount * 2 ^ 64 = amount % 2 ^ 64 * 2 ^ 64 + amount / 2 ^ 64 * 2 ^ 128 := by omega
  obtain ⟨hlow, hlow'⟩ := f64Part_bounds amount
  obtain ⟨hfactor, hfactor'⟩ := conversionFactor_bounds
  have hhigh := Nat.mul_le_mul_left (amount / 2 ^ 64) hfactor
  have hhigh' := Nat.mul_le_mul_left (amount / 2 ^ 64) hfactor'.le
  unfold converted
  constructor
  · calc (f64Part amount + amount / 2 ^ 64 * conversionFactor) * oneEncointerBalanceUnit
        = f64Part amount * oneEncointerBalanceUnit +
            amount / 2 ^ 64 * (conversionFactor * oneEncointerBalanceUnit) := by ring
      _ ≤ amount % 2 ^ 64 * 2 ^ 64 + amount / 2 ^ 64 * 2 ^ 128 := Nat.add_le_add hlow hhigh
      _ = amount * 2 ^ 64 := hhalves.symm
  · calc amount * 2 ^ 64 = amount % 2 ^ 64 * 2 ^ 64 + amount / 2 ^ 64 * 2 ^ 128 := hhalves
      _ < (f64Part amount + 1) * oneEncointerBalanceUnit +
            amount / 2 ^ 64 * ((conversionFactor + 4) * oneEncointerBalanceUnit) :=
          Nat.add_lt_add_of_lt_of_le hlow' hhigh'
      _ = (f64Part amount + amount / 2 ^ 64 * conversionFactor + 4 * (amount / 2 ^ 64) + 1) *
            oneEncointerBalanceUnit := by ring

theorem converted_lt {amount : Nat} (h : InRange amount) : converted amount < 2 ^ 128 := by
  have hbound := (converted_bounds amount).1
  unfold InRange oneEncointerBalanceUnit at *
  omega

theorem i64Part_of_inRange {amount : Nat} (h : InRange amount) :
    i64Part amount = amount / 2 ^ 64 * conversionFactor := by
  have hfits := converted_lt h
  unfold converted at hfits
  exact Nat.min_eq_left (by omega)

theorem balanceType_of_inRange {amount : Nat} (h : InRange amount) :
    balanceType amount = converted amount := by
  rw [balanceType_eq, i64Part_of_inRange h]
  exact Nat.mod_eq_of_lt (converted_lt h)

/-- The upper half counts for more than any lower half. -/
theorem converted_mono {amount amount' : Nat} (h : amount ≤ amount') :
    converted amount ≤ converted amount' := by
  have hhalf : amount / 2 ^ 64 ≤ amount' / 2 ^ 64 := Nat.div_le_div_right h
  rcases hhalf.eq_or_lt with heq | hlt
  · have hrest : amount % 2 ^ 64 ≤ amount' % 2 ^ 64 := by omega
    unfold converted f64Part
    rw [heq]
    exact Nat.add_le_add_right (Nat.div_le_div_right (Nat.mul_le_mul_right one hrest)) _
  · have hlow : f64Part amount ≤ conversionFactor := by
      have hbound := (f64Part_bounds amount).1
      have hfactor := conversionFactor_bounds.2
      unfold oneEncointerBalanceUnit at *
      omega
    calc converted amount ≤ conversionFactor + amount / 2 ^ 64 * conversionFactor :=
          Nat.add_le_add_right hlow _
      _ = (amount / 2 ^ 64 + 1) * conversionFactor := by ring
      _ ≤ amount' / 2 ^ 64 * conversionFactor := Nat.mul_le_mul_right _ hlt
      _ ≤ converted amount' := Nat.le_add_left _ _

/-! ## The way to an amount -/

theorem fungible_eq (balance : Nat) :
    fungible balance = balance * oneEncointerBalanceUnit / 2 ^ 64 := by
  have hfits : balance % 2 ^ 64 * oneEncointerBalanceUnit ≤ 2 ^ 128 - 1 := by
    unfold oneEncointerBalanceUnit
    omega
  rw [fungible, Nat.min_eq_left hfits]
  exact FixedPoint.scale_parts balance oneEncointerBalanceUnit

theorem fungible_converted (amount : Nat) :
    fungible (converted amount) ≤ amount ∧
      amount - fungible (converted amount) ≤ amount / 2 ^ 64 / 4 + 1 := by
  obtain ⟨hbound, hbound'⟩ := converted_bounds amount
  rw [fungible_eq]
  unfold oneEncointerBalanceUnit at *
  constructor
  · omega
  · omega

/--
A balance is converted to the amount rounded down, and an amount in the range back to a balance
that is worth hardly less. Both ways are monotone.
-/
theorem conversions_accurate :
    (∀ balance < 2 ^ 128, fungible balance = balance * oneEncointerBalanceUnit / 2 ^ 64 ∧
      fungible balance < 2 ^ 128) ∧
    (∀ balance balance', balance ≤ balance' → balance' < 2 ^ 128 →
      fungible balance ≤ fungible balance') ∧
    (∀ amount amount', amount ≤ amount' → amount' < 2 ^ 64 * oneEncointerBalanceUnit →
      balanceType amount ≤ balanceType amount') ∧
    ∀ amount < 2 ^ 64 * oneEncointerBalanceUnit,
      fungible (balanceType amount) ≤ amount ∧
        amount - fungible (balanceType amount) ≤ amount / 2 ^ 64 / 4 + 1 := by
  refine ⟨?_, ?_, ?_, ?_⟩
  · intro balance hbalance
    refine ⟨fungible_eq balance, ?_⟩
    rw [fungible_eq]
    unfold oneEncointerBalanceUnit
    omega
  · intro balance balance' hle _
    rw [fungible_eq, fungible_eq]
    exact Nat.div_le_div_right (Nat.mul_le_mul_right _ hle)
  · intro amount amount' hle hrange
    rw [balanceType_of_inRange hrange, balanceType_of_inRange (hle.trans_lt hrange)]
    exact converted_mono hle
  · intro amount hrange
    rw [balanceType_of_inRange hrange]
    exact fungible_converted amount

/-! ## Amounts beyond the range -/

/-- The amount is taken for the balance that it is worth. -/
structure TakenFor (amount principal : Nat) : Prop where
  inRange : InRange amount
  principal : principal = converted amount

/-- Nothing overflows in the conversion, and what is accepted is accepted for its worth. -/
structure HandledExactly {AccountId : Type} [DecidableEq AccountId] (config : Config AccountId)
    (blockNumber : Nat) (balances : BalancesStorage AccountId) (asset : CommunityIdentifier)
    (who : AccountId) (amount : Nat) : Prop where
  fits : f64Part amount + i64Part amount < 2 ^ 128
  deposited : canDeposit config blockNumber balances asset who amount = .success →
    TakenFor amount (balanceType amount)
  written : ∀ entry, (writeBalance blockNumber balances asset who amount).balance.lookup
    (asset, who) = some entry → TakenFor amount entry.principal
  issued : ∀ entry, (setTotalIssuance blockNumber balances asset amount).totalIssuance.lookup
    asset = some entry → TakenFor amount entry.principal

/-- Exactly the amounts of the balance type are handled exactly, in any state. -/
theorem handledExactly_iff {AccountId : Type} [DecidableEq AccountId] (config : Config AccountId)
    (blockNumber : Nat) (balances : BalancesStorage AccountId) (asset : CommunityIdentifier)
    (who : AccountId) (amount : Nat) :
    HandledExactly config blockNumber balances asset who amount ↔
      amount < 2 ^ 64 * oneEncointerBalanceUnit := by
  constructor
  · intro h
    have hwritten : (writeBalance blockNumber balances asset who amount).balance.lookup
        (asset, who) = some ⟨balanceType amount, blockNumber⟩ :=
      (StorageMap.lookup_insert_eq _ _ _ _).trans (if_pos rfl)
    exact (h.written _ hwritten).inRange
  · intro hrange
    have htaken : TakenFor amount (balanceType amount) := ⟨hrange, balanceType_of_inRange hrange⟩
    refine ⟨?_, fun _ => htaken, ?_, ?_⟩
    · rw [i64Part_of_inRange hrange]
      exact converted_lt hrange
    · intro entry hentry
      simp only [writeBalance, StorageMap.lookup_insert_eq, if_true, Option.some.injEq] at hentry
      rw [← hentry]
      exact htaken
    · intro entry hentry
      simp only [setTotalIssuance, StorageMap.lookup_insert_eq, if_true,
        Option.some.injEq] at hentry
      rw [← hentry]
      exact htaken

/-- The largest amount is accepted for less than nineteen units. -/
theorem largest_amount_wraps :
    let balances : BalancesStorage Nat := setTotalIssuance 0 ⟨∅, ∅, ∅, ∅⟩ Demo.islanders 0
    let written := writeBalance 0 balances Demo.islanders 1 (2 ^ 128 - 1)
    canDeposit Demo.runtimeConfig 0 balances Demo.islanders 1 (2 ^ 128 - 1) = .success ∧
      fungible (balance Demo.runtimeConfig 0 written Demo.islanders 1) <
        19 * oneEncointerBalanceUnit ∧
      2 ^ 128 ≤ f64Part (2 ^ 128 - 1) + i64Part (2 ^ 128 - 1) ∧
      ¬ HandledExactly Demo.runtimeConfig 0 balances Demo.islanders 1 (2 ^ 128 - 1) := by
  refine ⟨by decide +kernel, by decide +kernel, by decide +kernel, ?_⟩
  intro h
  exact absurd h.fits (by decide +kernel)

end Encointer.Balances
