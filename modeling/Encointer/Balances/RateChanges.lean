import Encointer.Balances.Conservation
import Encointer.Balances.Demurrage

/-!
# Changing the demurrage

Entries keep the block of their last update, and the rate in force is applied to
the whole time since then. A new rate therefore also counts for the blocks that
have passed: only entries that are up to date keep their balance for certain.
-/

namespace Encointer

namespace Balances

open FixedPoint

variable {AccountId : Type} [DecidableEq AccountId] {config : Config AccountId}
  {now : Nat} {b b' : BalancesStorage AccountId} {cid : CommunityIdentifier}
  {who : AccountId} {old rate : Demurrage}

/-! ## One entry under two rates -/

/-- What the rate leaves of a principal after the time since its last update. -/
def decayed (config : Config AccountId) (entry : BalanceEntry) (rate : Demurrage) (now : Nat) :
    Nat :=
  entry.principal * demurrageFactor config rate (min (now - entry.lastUpdate) Checked.u32Max) / one

omit [DecidableEq AccountId] in
theorem applyDemurrage_principal (config : Config AccountId) (entry : BalanceEntry)
    (rate : Demurrage) (now : Nat) :
    (applyDemurrage config entry rate now).principal =
      if entry.lastUpdate = now then entry.principal else decayed config entry rate now := by
  unfold applyDemurrage
  by_cases hnow : entry.lastUpdate = now
  · rw [if_pos hnow, if_pos hnow]
  · rw [if_neg hnow, if_neg hnow]
    split
    · rename_i hzero
      simp [decayed, hzero]
    · rfl

def SameDecay (config : Config AccountId) (entry : BalanceEntry) (old rate : Demurrage)
    (now : Nat) : Prop :=
  entry.lastUpdate = now ∨ decayed config entry old now = decayed config entry rate now

omit [DecidableEq AccountId] in
theorem sameDecay_iff (config : Config AccountId) (entry : BalanceEntry) (old rate : Demurrage)
    (now : Nat) :
    (applyDemurrage config entry rate now).principal =
        (applyDemurrage config entry old now).principal ↔
      SameDecay config entry old rate now := by
  rw [applyDemurrage_principal, applyDemurrage_principal, SameDecay]
  by_cases hnow : entry.lastUpdate = now
  · simp [hnow]
  · simp [hnow, eq_comm]

omit [DecidableEq AccountId] in
/-- No rate counts without elapsed blocks or for an empty entry. -/
theorem sameDecay_of_current (config : Config AccountId) (entry : BalanceEntry)
    (old rate : Demurrage) {now : Nat} (h : now ≤ entry.lastUpdate ∨ entry.principal = 0) :
    SameDecay config entry old rate now := by
  right
  rcases h with hnow | hzero
  · have hfactor (rate : Demurrage) : demurrageFactor config rate 0 =
        demurrageFactor config 0 0 := by
      simp [demurrageFactor]
    rw [decayed, decayed, Nat.sub_eq_zero_of_le hnow, Nat.zero_min, hfactor old, hfactor rate]
  · simp [decayed, hzero]

/-! ## Entries of one block -/

def sumOfPrincipals (b : BalancesStorage AccountId) (cid : CommunityIdentifier) : Nat :=
  b.balance.total fun k entry => if k.1 = cid then entry.principal else 0

/-- All entries of the community, and its issuance, have been updated together. -/
def UpdatedTogether (b : BalancesStorage AccountId) (cid : CommunityIdentifier) : Prop :=
  ∀ who entry, b.balance.lookup (cid, who) = some entry →
    entry.lastUpdate = (b.totalIssuance.get cid ⟨0, 0⟩).lastUpdate

/-- Entries of one block decay alike, so rounding loses no less in the parts. -/
theorem sumOfBalances_le_of_together (htogether : UpdatedTogether b cid)
    (hsum : sumOfPrincipals b cid ≤ (b.totalIssuance.get cid ⟨0, 0⟩).principal) :
    sumOfBalances config now b cid ≤ totalIssuance config now b cid := by
  generalize hissued : b.totalIssuance.get cid ⟨0, 0⟩ = issued at hsum
  let left (principal : Nat) : Nat :=
    (applyDemurrage config ⟨principal, issued.lastUpdate⟩ (demurrage config b cid) now).principal
  have hadd (a a' : Nat) : left a + left a' ≤ left (a + a') := by
    simp only [left, applyDemurrage_principal]
    split
    · exact le_refl _
    · exact mul_part_add_le a a' _
  have hmono {a a' : Nat} (h : a ≤ a') : left a ≤ left a' := by
    have hparts := hadd a (a' - a)
    rw [Nat.add_sub_cancel' h] at hparts
    exact (Nat.le_add_right _ _).trans hparts
  have hzero : left 0 = 0 := applyDemurrage_zero _ _
  have hweights : sumOfBalances config now b cid =
      b.balance.total fun k entry => left (if k.1 = cid then entry.principal else 0) := by
    apply StorageMap.total_congr_lookup
    rintro ⟨cid', who⟩ ⟨principal, lastUpdate⟩ hlookup
    unfold weight
    simp only
    split
    · rename_i hcid
      subst hcid
      have hupdate : lastUpdate = issued.lastUpdate := by
        rw [← hissued]
        exact htogether who _ hlookup
      rw [hupdate]
    · exact hzero.symm
  calc sumOfBalances config now b cid
      ≤ left (sumOfPrincipals b cid) := by
        rw [hweights]
        exact StorageMap.total_map_le left hadd _ _
    _ ≤ left issued.principal := hmono hsum
    _ = totalIssuance config now b cid := by
        rw [totalIssuance, totalIssuanceEntryUpdated, hissued]

/-! ## A new rate -/

/-- A new rate leaves what is stored, and decays it from its last update on. -/
structure RateChange (config : Config AccountId) (now : Nat) (b b' : BalancesStorage AccountId)
    (cid : CommunityIdentifier) (rate : Demurrage) : Prop where
  stored : b'.balance = b.balance ∧ b'.totalIssuance = b.totalIssuance ∧
    b'.sufficients = b.sufficients
  balance : ∀ who, Balances.balance config now b' cid who =
    (applyDemurrage config (b.balance.get (cid, who) ⟨0, 0⟩) rate now).principal
  issuance : totalIssuance config now b' cid =
    (applyDemurrage config (b.totalIssuance.get cid ⟨0, 0⟩) rate now).principal
  balance_unchanged : ∀ who,
    Balances.balance config now b' cid who = Balances.balance config now b cid who ↔
      SameDecay config (b.balance.get (cid, who) ⟨0, 0⟩) (demurrage config b cid) rate now
  issuance_unchanged :
    totalIssuance config now b' cid = totalIssuance config now b cid ↔
      SameDecay config (b.totalIssuance.get cid ⟨0, 0⟩) (demurrage config b cid) rate now
  current : ∀ who,
    (now ≤ (b.balance.get (cid, who) ⟨0, 0⟩).lastUpdate ∨
      (b.balance.get (cid, who) ⟨0, 0⟩).principal = 0) →
    Balances.balance config now b' cid who = Balances.balance config now b cid who
  current_issuance :
    (now ≤ (b.totalIssuance.get cid ⟨0, 0⟩).lastUpdate ∨
      (b.totalIssuance.get cid ⟨0, 0⟩).principal = 0) →
    totalIssuance config now b' cid = totalIssuance config now b cid
  others : ∀ cid', cid' ≠ cid →
    (∀ who, Balances.balance config now b' cid' who = Balances.balance config now b cid' who) ∧
      totalIssuance config now b' cid' = totalIssuance config now b cid'
  covered : UpdatedTogether b cid →
    sumOfPrincipals b cid ≤ (b.totalIssuance.get cid ⟨0, 0⟩).principal →
    sumOfBalances config now b' cid ≤ totalIssuance config now b' cid

omit [DecidableEq AccountId] in
private theorem setDemurrage_eq (h : setDemurrage b cid rate = some b') :
    b' = { b with demurragePerBlock := b.demurragePerBlock.insert cid rate } := by
  unfold setDemurrage at h
  split at h
  · cases h
    rfl
  · cases h

theorem setDemurrage_rateChange (config : Config AccountId) (now : Nat)
    (b b' : BalancesStorage AccountId) (cid : CommunityIdentifier) (rate : Demurrage)
    (h : setDemurrage b cid rate = some b') : RateChange config now b b' cid rate := by
  have hb' := setDemurrage_eq h
  have hrate (cid' : CommunityIdentifier) : demurrage config b' cid' =
      if cid' = cid then rate else demurrage config b cid' := by
    rw [hb', demurrage, demurrage]
    exact StorageMap.get_insert _ _ _ _ _
  have hbalance (who : AccountId) : Balances.balance config now b' cid who =
      (applyDemurrage config (b.balance.get (cid, who) ⟨0, 0⟩) rate now).principal := by
    rw [Balances.balance, balanceEntryUpdated, hrate, if_pos rfl, hb']
  have hissuance : totalIssuance config now b' cid =
      (applyDemurrage config (b.totalIssuance.get cid ⟨0, 0⟩) rate now).principal := by
    rw [totalIssuance, totalIssuanceEntryUpdated, hrate, if_pos rfl, hb']
  have hunchanged (who : AccountId) :
      Balances.balance config now b' cid who = Balances.balance config now b cid who ↔
        SameDecay config (b.balance.get (cid, who) ⟨0, 0⟩) (demurrage config b cid) rate now := by
    rw [hbalance]
    exact sameDecay_iff _ _ _ _ _
  have hissued : totalIssuance config now b' cid = totalIssuance config now b cid ↔
      SameDecay config (b.totalIssuance.get cid ⟨0, 0⟩) (demurrage config b cid) rate now := by
    rw [hissuance]
    exact sameDecay_iff _ _ _ _ _
  refine ⟨by simp [hb'], hbalance, hissuance, hunchanged, hissued, ?_, ?_, ?_, ?_⟩
  · intro who hcurrent
    exact (hunchanged who).2 (sameDecay_of_current _ _ _ _ hcurrent)
  · intro hcurrent
    exact hissued.2 (sameDecay_of_current _ _ _ _ hcurrent)
  · intro cid' hcid
    have hsame := hrate cid'
    rw [if_neg hcid] at hsame
    constructor
    · intro who
      rw [Balances.balance, balanceEntryUpdated, hsame, hb']
      rfl
    · rw [totalIssuance, totalIssuanceEntryUpdated, hsame, hb']
      rfl
  · intro htogether hsum
    have hstored : b'.balance = b.balance ∧ b'.totalIssuance = b.totalIssuance := by simp [hb']
    apply sumOfBalances_le_of_together
    · unfold UpdatedTogether
      rw [hstored.1, hstored.2]
      exact htogether
    · unfold sumOfPrincipals
      rw [hstored.1, hstored.2]
      exact hsum

end Balances

namespace Demo

/-- At the highest rate, ten units of one account have decayed when another
account is issued one. -/
def agedBalances : BalancesStorage Nat :=
  let rates := (∅ : StorageMap CommunityIdentifier Demurrage).insert islanders (2 ^ 64)
  let first := (Balances.issue runtimeConfig 0 ⟨∅, ∅, rates, ∅⟩ islanders 1 (10 * 2 ^ 64)).1
  (Balances.issue runtimeConfig 100 first islanders 2 (2 ^ 64)).1

def thawedBalances : BalancesStorage Nat :=
  { agedBalances with
    demurragePerBlock := agedBalances.demurragePerBlock.insert islanders 0 }

theorem setDemurrage_agedBalances :
    Balances.setDemurrage agedBalances islanders 0 = some thawedBalances := rfl

end Demo

theorem Balances.setDemurrage_rateChange_thawed :
    RateChange Demo.runtimeConfig 100 Demo.agedBalances Demo.thawedBalances Demo.islanders 0 :=
  setDemurrage_rateChange Demo.runtimeConfig 100 Demo.agedBalances Demo.thawedBalances
    Demo.islanders 0 Demo.setDemurrage_agedBalances

/-- What had decayed comes back, and exceeds the total issuance. -/
theorem Balances.rate_change_is_retroactive :
    validateDemurrage (demurrage Demo.runtimeConfig Demo.agedBalances Demo.islanders) = true ∧
      validateDemurrage 0 = true ∧
      setDemurrage Demo.agedBalances Demo.islanders 0 = some Demo.thawedBalances ∧
      balance Demo.runtimeConfig 100 Demo.agedBalances Demo.islanders 1 = 0 ∧
      balance Demo.runtimeConfig 100 Demo.thawedBalances Demo.islanders 1 = 10 * 2 ^ 64 ∧
      sumOfBalances Demo.runtimeConfig 100 Demo.agedBalances Demo.islanders ≤
        totalIssuance Demo.runtimeConfig 100 Demo.agedBalances Demo.islanders ∧
      totalIssuance Demo.runtimeConfig 100 Demo.thawedBalances Demo.islanders <
        sumOfBalances Demo.runtimeConfig 100 Demo.thawedBalances Demo.islanders := by
  refine ⟨?_, ?_, Demo.setDemurrage_agedBalances, ?_, ?_, ?_, ?_⟩
  all_goals decide +kernel

end Encointer
