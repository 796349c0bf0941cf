import Encointer.Balances.Specs
import Encointer.Ceremonies.RewardOnce
import Encointer.Library.FixedPoint

/-!
# Demurrage

The balances model computes demurrage over unbounded numbers. Here the same
functions are written with the checked operations of the fixed-point types, with
`none` for a panic, and both agree: demurrage is a decay of the principal.
-/

namespace Encointer

/-- The exponential function on bits, as far as it is relied on: one at zero, a
decreasing part of one for negative arguments, and an error only far below. -/
structure ExpLaws (exp : Int → Option Int) : Prop where
  zero : exp 0 = some (2 ^ 64)
  range : ∀ x y, -2 ^ 127 ≤ x → x < 0 → exp x = some y → 0 ≤ y ∧ y ≤ 2 ^ 64
  monotone : ∀ x x' y y', -2 ^ 127 ≤ x → x ≤ x' → x' < 0 → exp x = some y → exp x' = some y' →
    y ≤ y'
  error_below : ∀ x x' y', -2 ^ 127 ≤ x → x < 0 → -2 ^ 127 ≤ x' → x' < 0 → exp x = none →
    exp x' = some y' → x < x'

namespace Balances

open FixedPoint

variable {AccountId : Type} [DecidableEq AccountId] (config : Config AccountId)

/-! ## With checked arithmetic -/

/-- `to_U64F64`: the bits of a number that is not negative. -/
def toU64F64 (source : Int) : Option Nat := if source < 0 then none else some source.toNat

/-- An exponent out of range or below the reach of `exp` leaves nothing. -/
def checkedDemurrageFactor (demurragePerBlock : Demurrage) (elapsedBlocks : Nat) :
    Option Nat := do
  let abs ← checkedAbs 128 demurragePerBlock
  let neg ← checkedNeg 128 abs
  match checkedMulSigned 128 64 neg (ofWhole 64 elapsedBlocks) with
  | none => some 0
  | some exponent =>
      let f := (config.exp exponent).getD 0
      some ((toU64F64 f).getD one)

/-- `none` where the product of principal and factor does not fit. -/
def checkedApplyDemurrage (entry : BalanceEntry) (demurragePerBlock : Demurrage)
    (currentBlockNumber : Nat) : Option BalanceEntry :=
  if entry.lastUpdate = currentBlockNumber then
    some entry
  else if entry.principal = 0 then
    some ⟨entry.principal, currentBlockNumber⟩
  else do
    let elapsedBlocks := (Checked.subU64 currentBlockNumber entry.lastUpdate).getD 0
    let elapsedU32 := if elapsedBlocks < 2 ^ 32 then elapsedBlocks else Checked.u32Max
    let factor ← checkedDemurrageFactor config demurragePerBlock elapsedU32
    let principal ← checkedMulUnsigned 128 64 entry.principal factor
    some ⟨principal, currentBlockNumber⟩

/-! ## The factor -/

variable {config} {rate : Demurrage}

theorem validateDemurrage_iff : validateDemurrage rate = true ↔ 0 ≤ rate ∧ rate ≤ 2 ^ 64 := by
  simp [validateDemurrage]

/-- No exponent of a valid rate is out of range. -/
theorem exponent_bounds (hrate : validateDemurrage rate = true) {elapsed : Nat}
    (helapsed : elapsed ≤ Checked.u32Max) :
    -2 ^ 127 ≤ -|rate| * elapsed ∧ -|rate| * elapsed ≤ 0 := by
  obtain ⟨hlow, hhigh⟩ := validateDemurrage_iff.1 hrate
  have hcast : (elapsed : Int) ≤ 2 ^ 32 := by
    have h : elapsed ≤ 2 ^ 32 := helapsed.trans (by decide)
    exact_mod_cast h
  have hproduct : rate * elapsed ≤ 2 ^ 64 * 2 ^ 32 :=
    mul_le_mul hhigh hcast (Int.natCast_nonneg elapsed) (by norm_num)
  have hnonneg : 0 ≤ rate * elapsed := mul_nonneg hlow (Int.natCast_nonneg elapsed)
  rw [abs_of_nonneg hlow, neg_mul]
  constructor <;> linarith

section

omit [DecidableEq AccountId]

/-- The factor of a valid rate needs no case for an exponent out of range. -/
theorem demurrageFactor_eq (hrate : validateDemurrage rate = true) {elapsed : Nat}
    (helapsed : elapsed ≤ Checked.u32Max) :
    demurrageFactor config rate elapsed =
      match (config.exp (-|rate| * elapsed)).getD 0 with
      | .ofNat f => f
      | .negSucc _ => one := by
  unfold demurrageFactor
  exact if_neg (not_lt.2 (exponent_bounds hrate helapsed).1)

theorem demurrageFactor_of_some (hrate : validateDemurrage rate = true) {elapsed : Nat}
    (helapsed : elapsed ≤ Checked.u32Max) {y : Nat}
    (h : config.exp (-|rate| * elapsed) = some (y : Int)) :
    demurrageFactor config rate elapsed = y := by
  rw [demurrageFactor_eq hrate helapsed, h]
  rfl

private theorem demurrageFactor_of_none (hrate : validateDemurrage rate = true) {elapsed : Nat}
    (helapsed : elapsed ≤ Checked.u32Max) (h : config.exp (-|rate| * elapsed) = none) :
    demurrageFactor config rate elapsed = 0 := by
  rw [demurrageFactor_eq hrate helapsed, h]
  rfl

theorem demurrageFactor_of_zero (hexp : ExpLaws config.exp) (hrate : validateDemurrage rate = true)
    {elapsed : Nat} (helapsed : elapsed ≤ Checked.u32Max) (h : -|rate| * (elapsed : Int) = 0) :
    demurrageFactor config rate elapsed = one := by
  apply demurrageFactor_of_some hrate helapsed
  rw [h, hexp.zero]
  rfl

theorem exp_exponent (hexp : ExpLaws config.exp) {x y : Int} (hlow : -2 ^ 127 ≤ x) (hhigh : x ≤ 0)
    (h : config.exp x = some y) : 0 ≤ y ∧ y ≤ 2 ^ 64 := by
  rcases hhigh.lt_or_eq with hneg | rfl
  · exact hexp.range x y hlow hneg h
  · rw [hexp.zero, Option.some.injEq] at h
    subst h
    decide

theorem demurrageFactor_cases (hexp : ExpLaws config.exp) (hrate : validateDemurrage rate = true)
    {elapsed : Nat} (helapsed : elapsed ≤ Checked.u32Max) :
    (config.exp (-|rate| * elapsed) = none ∧ demurrageFactor config rate elapsed = 0) ∨
      (config.exp (-|rate| * elapsed) = some ((demurrageFactor config rate elapsed : Nat) : Int) ∧
        demurrageFactor config rate elapsed ≤ one) := by
  obtain ⟨hlow, hhigh⟩ := exponent_bounds hrate helapsed
  cases h : config.exp (-|rate| * elapsed) with
  | none => exact .inl ⟨rfl, demurrageFactor_of_none hrate helapsed h⟩
  | some y =>
      obtain ⟨hnonneg, hone⟩ := exp_exponent hexp hlow hhigh h
      lift y to Nat using hnonneg
      rw [demurrageFactor_of_some hrate helapsed h]
      refine .inr ⟨rfl, ?_⟩
      exact_mod_cast hone

theorem demurrageFactor_le_one (hexp : ExpLaws config.exp) (hrate : validateDemurrage rate = true)
    {elapsed : Nat} (helapsed : elapsed ≤ Checked.u32Max) :
    demurrageFactor config rate elapsed ≤ one := by
  rcases demurrageFactor_cases hexp hrate helapsed with ⟨-, h⟩ | ⟨-, h⟩
  · exact h ▸ Nat.zero_le one
  · exact h

private theorem demurrageFactor_antitone (hexp : ExpLaws config.exp)
    (hrate : validateDemurrage rate = true) {elapsed elapsed' : Nat} (hle : elapsed ≤ elapsed')
    (helapsed' : elapsed' ≤ Checked.u32Max) :
    demurrageFactor config rate elapsed' ≤ demurrageFactor config rate elapsed := by
  have helapsed := hle.trans helapsed'
  have hexponent : -|rate| * (elapsed' : Int) ≤ -|rate| * elapsed := by
    have hcast : (elapsed : Int) ≤ elapsed' := by exact_mod_cast hle
    exact mul_le_mul_of_nonpos_left hcast (neg_nonpos.2 (abs_nonneg rate))
  obtain ⟨hlow', -⟩ := exponent_bounds hrate helapsed'
  obtain ⟨hlow, hhigh⟩ := exponent_bounds hrate helapsed
  rcases hhigh.lt_or_eq with hneg | hzero
  · rcases demurrageFactor_cases hexp hrate helapsed' with ⟨-, hnone'⟩ | ⟨hsome', -⟩
    · omega
    · rcases demurrageFactor_cases hexp hrate helapsed with ⟨hnone, -⟩ | ⟨hsome, -⟩
      · have hbelow := hexp.error_below _ _ _ hlow hneg hlow' (hexponent.trans_lt hneg) hnone hsome'
        exact absurd hbelow (not_lt.2 hexponent)
      · have hmono := hexp.monotone _ _ _ _ hlow' hexponent hneg hsome' hsome
        exact_mod_cast hmono
  · rw [demurrageFactor_of_zero hexp hrate helapsed hzero]
    exact demurrageFactor_le_one hexp hrate helapsed'

end

/-! ## Demurrage is a decay -/

/-- The decay of a valid rate, in blocks. -/
def demurrageDecay (hexp : ExpLaws config.exp) (hrate : validateDemurrage rate = true) :
    Decay 64 where
  factor elapsed := demurrageFactor config rate (min elapsed Checked.u32Max)
  start := demurrageFactor_of_zero hexp hrate (Nat.zero_le _) (by simp)
  antitone := by
    intro elapsed elapsed' h
    exact demurrageFactor_antitone hexp hrate (min_le_min_right _ h) (min_le_right _ _)

omit [DecidableEq AccountId] in
/-- Demurrage leaves what the decay leaves. -/
theorem applyDemurrage_eq_remaining (hexp : ExpLaws config.exp)
    (hrate : validateDemurrage rate = true) (entry : BalanceEntry) (now : Nat) :
    applyDemurrage config entry rate now =
      ⟨(demurrageDecay hexp hrate).remaining entry.principal (now - entry.lastUpdate), now⟩ := by
  obtain ⟨principal, lastUpdate⟩ := entry
  unfold applyDemurrage
  simp only
  split
  · rename_i hnow
    subst hnow
    rw [Nat.sub_self, Decay.remaining_start]
  · split
    · rename_i hzero
      subst hzero
      rw [Decay.remaining_zero]
    · rfl

omit [DecidableEq AccountId] in
private theorem checkedDemurrageFactor_eq (hexp : ExpLaws config.exp)
    (hrate : validateDemurrage rate = true) {elapsed : Nat} (helapsed : elapsed ≤ Checked.u32Max) :
    checkedDemurrageFactor config rate elapsed = some (demurrageFactor config rate elapsed) := by
  obtain ⟨hnonneg, hmax⟩ := validateDemurrage_iff.1 hrate
  obtain ⟨hlow, hhigh⟩ := exponent_bounds hrate helapsed
  have habs : checkedAbs 128 rate = some |rate| := by
    rw [checkedAbs, abs_of_nonneg hnonneg]
    exact toSigned_of_fits (by norm_num; linarith) (by norm_num; linarith)
  have hneg : checkedNeg 128 |rate| = some (-|rate|) := by
    rw [checkedNeg, abs_of_nonneg hnonneg]
    exact toSigned_of_fits (by norm_num; linarith) (by norm_num; linarith)
  have hproduct : checkedMulSigned 128 64 (-|rate|) (ofWhole 64 elapsed) =
      some (-|rate| * elapsed) := by
    rw [checkedMulSigned_ofWhole]
    exact toSigned_of_fits hlow (lt_of_le_of_lt hhigh (by norm_num))
  rw [checkedDemurrageFactor, habs, Option.bind_eq_bind, Option.bind_some, hneg, Option.bind_some]
  simp only [hproduct]
  rcases demurrageFactor_cases hexp hrate helapsed with ⟨hnone, hfactor⟩ | ⟨hsome, -⟩
  · rw [hnone, hfactor]
    rfl
  · rw [hsome]
    rfl

private theorem elapsed_eq (now lastUpdate : Nat) :
    (if (Checked.subU64 now lastUpdate).getD 0 < 2 ^ 32 then (Checked.subU64 now lastUpdate).getD 0
      else Checked.u32Max) = min (now - lastUpdate) Checked.u32Max := by
  have hsub : (Checked.subU64 now lastUpdate).getD 0 = now - lastUpdate := by
    unfold Checked.subU64
    split
    · rfl
    · rw [Option.getD_none]
      omega
  rw [hsub, Checked.u32Max]
  split <;> omega

omit [DecidableEq AccountId] in
private theorem checkedApplyDemurrage_eq (hexp : ExpLaws config.exp)
    (hrate : validateDemurrage rate = true) {entry : BalanceEntry}
    (hentry : entry.principal < 2 ^ 128) (now : Nat) :
    checkedApplyDemurrage config entry rate now = some (applyDemurrage config entry rate now) := by
  unfold checkedApplyDemurrage applyDemurrage
  split
  · rfl
  · split
    · rfl
    · have helapsed : min (now - entry.lastUpdate) Checked.u32Max ≤ Checked.u32Max :=
        min_le_right _ _
      simp only [elapsed_eq]
      rw [checkedDemurrageFactor_eq hexp hrate helapsed, Option.bind_eq_bind, Option.bind_some,
        checkedMulUnsigned_part hentry (demurrageFactor_le_one hexp hrate helapsed)]
      rfl

/-! ## The main result -/

/-- Demurrage neither fails nor creates money, and takes more as time goes on. -/
structure SafeAndContracting (config : Config AccountId) (rate : Demurrage) : Prop where
  total : ∀ principal lastUpdate now, principal < 2 ^ 128 →
    checkedApplyDemurrage config ⟨principal, lastUpdate⟩ rate now =
      some (applyDemurrage config ⟨principal, lastUpdate⟩ rate now)
  updated : ∀ entry now, (applyDemurrage config entry rate now).lastUpdate = now
  contracting : ∀ entry now, (applyDemurrage config entry rate now).principal ≤ entry.principal
  antitone : ∀ principal lastUpdate lastUpdate' now now',
    now - lastUpdate ≤ now' - lastUpdate' →
    (applyDemurrage config ⟨principal, lastUpdate'⟩ rate now').principal ≤
      (applyDemurrage config ⟨principal, lastUpdate⟩ rate now).principal
  unchanged : ∀ entry now, rate = 0 ∨ now ≤ entry.lastUpdate →
    (applyDemurrage config entry rate now).principal = entry.principal

omit [DecidableEq AccountId] in
private theorem applyDemurrage_unchanged (hexp : ExpLaws config.exp)
    (hrate : validateDemurrage rate = true) (entry : BalanceEntry) {now : Nat}
    (h : rate = 0 ∨ now ≤ entry.lastUpdate) :
    (applyDemurrage config entry rate now).principal = entry.principal := by
  rw [applyDemurrage_eq_remaining hexp hrate]
  rcases h with rfl | hnow
  · have hfactor : (demurrageDecay hexp hrate).factor (now - entry.lastUpdate) = 2 ^ 64 :=
      demurrageFactor_of_zero hexp hrate (min_le_right _ _) (by simp)
    simp [Decay.remaining, hfactor]
  · rw [Nat.sub_eq_zero_of_le hnow, Decay.remaining_start]

omit [DecidableEq AccountId] in
theorem demurrage_safe_and_contracting (config : Config AccountId) (hexp : ExpLaws config.exp)
    (rate : Demurrage) (hrate : validateDemurrage rate = true) :
    SafeAndContracting config rate where
  total := by
    intro principal lastUpdate now hprincipal
    exact checkedApplyDemurrage_eq hexp hrate hprincipal now
  updated := by
    intro entry now
    exact applyDemurrage_lastUpdate entry rate
  contracting := by
    intro entry now
    rw [applyDemurrage_eq_remaining hexp hrate]
    exact Decay.remaining_le _ _ _
  antitone := by
    intro principal lastUpdate lastUpdate' now now' hle
    rw [applyDemurrage_eq_remaining hexp hrate, applyDemurrage_eq_remaining hexp hrate]
    exact Decay.remaining_antitone _ _ hle
  unchanged := by
    intro entry now h
    exact applyDemurrage_unchanged hexp hrate entry h

/-- After a long time at the highest rate nothing is left. -/
theorem demurrage_safe_and_contracting_highest :
    applyDemurrage Demo.runtimeConfig ⟨2 ^ 128 - 1, 0⟩ (2 ^ 64) (2 ^ 40) = ⟨0, 2 ^ 40⟩ ∧
      SafeAndContracting Demo.runtimeConfig (2 ^ 64) := by
  constructor
  · decide +kernel
  · apply demurrage_safe_and_contracting Demo.runtimeConfig
    · exact {
        zero := rfl
        range := by
          intro x y _ hneg h
          simp [Demo.runtimeConfig, hneg.ne] at h
        monotone := by
          intro x x' y y' _ _ hneg _ h
          simp [Demo.runtimeConfig, hneg.ne] at h
        error_below := by
          intro x x' y' _ _ _ hneg _ h
          simp [Demo.runtimeConfig, hneg.ne] at h }
    · decide

end Balances

end Encointer
