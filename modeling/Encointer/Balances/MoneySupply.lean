import Encointer.Balances.Demurrage
import Encointer.Communities.ExactIndex
import Encointer.Treasuries.SwapAccounting

/-!
# The money supply

Community currency comes from rewards only. What is stored for a community, in all
balances together and as its total issuance, is at most the incomes that were paid
since it was removed last. Transfers, swaps, demurrage and removals add nothing.
-/

namespace Encointer

namespace Balances

variable {AccountId : Type} [DecidableEq AccountId] {config : Config AccountId}
  {blockNumber : Nat} {b b' b'' : BalancesStorage AccountId} {cid : CommunityIdentifier}
  {source dest who : AccountId} {amount : Nat}

/-! ## Demurrage takes -/

omit [DecidableEq AccountId] in
private theorem demurrageFactor_le (hexp : ExpLaws config.exp) (rate : Demurrage) (elapsed : Nat) :
    demurrageFactor config rate elapsed ≤ one := by
  have hhigh : -|rate| * (elapsed : Int) ≤ 0 := by
    rw [neg_mul, Int.neg_nonpos_iff]
    exact mul_nonneg (abs_nonneg rate) (Int.natCast_nonneg elapsed)
  unfold demurrageFactor
  simp only
  split
  · exact Nat.zero_le one
  · rename_i hlow
    cases h : config.exp (-|rate| * elapsed) with
    | none => exact Nat.zero_le one
    | some y =>
        obtain ⟨hnonneg, hone⟩ := exp_exponent hexp (not_lt.1 hlow) hhigh h
        lift y to Nat using hnonneg
        change y ≤ one
        exact_mod_cast hone

omit [DecidableEq AccountId] in
theorem applyDemurrage_le (hexp : ExpLaws config.exp) (entry : BalanceEntry) (rate : Demurrage)
    (blockNumber : Nat) :
    (applyDemurrage config entry rate blockNumber).principal ≤ entry.principal := by
  unfold applyDemurrage
  simp only
  split
  · exact le_rfl
  · split
    · exact le_rfl
    · apply Nat.div_le_of_le_mul
      rw [Nat.mul_comm one]
      exact Nat.mul_le_mul_left _ (demurrageFactor_le hexp rate _)

/-! ## What is stored -/

def principalIn (cid : CommunityIdentifier) (k : CommunityIdentifier × AccountId)
    (entry : BalanceEntry) : Nat :=
  if k.1 = cid then entry.principal else 0

def storedBalances (b : BalancesStorage AccountId) (cid : CommunityIdentifier) : Nat :=
  b.balance.total (principalIn cid)

def storedIssuance (b : BalancesStorage AccountId) (cid : CommunityIdentifier) : Nat :=
  (b.totalIssuance.get cid ⟨0, 0⟩).principal

theorem weightAt_principalIn (m : StorageMap (CommunityIdentifier × AccountId) BalanceEntry)
    (cid cid' : CommunityIdentifier) (who : AccountId) :
    m.weightAt (principalIn cid') (cid, who) =
      if cid = cid' then (m.get (cid, who) ⟨0, 0⟩).principal else 0 := by
  cases hlookup : m.lookup (cid, who) with
  | none =>
      rw [StorageMap.weightAt_of_lookup_none hlookup, StorageMap.get_of_lookup_none hlookup,
        ite_self]
  | some entry =>
      rw [StorageMap.weightAt_of_lookup hlookup, StorageMap.get_of_lookup hlookup]
      rfl

theorem balance_le_principal (hexp : ExpLaws config.exp) (blockNumber : Nat)
    (b : BalancesStorage AccountId) (cid : CommunityIdentifier) (who : AccountId) :
    balance config blockNumber b cid who ≤ (b.balance.get (cid, who) ⟨0, 0⟩).principal :=
  applyDemurrage_le hexp _ _ _

/-- A change adds at most `minted` to what is stored for each community. -/
structure Mints (b b' : BalancesStorage AccountId) (minted : CommunityIdentifier → Nat) :
    Prop where
  balances : ∀ cid, storedBalances b' cid ≤ storedBalances b cid + minted cid
  totalIssuance : ∀ cid, storedIssuance b' cid ≤ storedIssuance b cid + minted cid

section

omit [DecidableEq AccountId]

theorem Mints.of_same (hbalance : b'.balance = b.balance)
    (htotal : b'.totalIssuance = b.totalIssuance) : Mints b b' 0 where
  balances := by
    intro cid
    rw [storedBalances, hbalance]
    exact le_rfl
  totalIssuance := by
    intro cid
    rw [storedIssuance, htotal]
    exact le_rfl

theorem Mints.refl (b : BalancesStorage AccountId) : Mints b b 0 := .of_same rfl rfl

theorem Mints.trans {minted minted' : CommunityIdentifier → Nat} (h : Mints b b' minted)
    (h' : Mints b' b'' minted') : Mints b b'' (minted + minted') where
  balances := by
    intro cid
    have hfirst := h.balances cid
    have hsecond := h'.balances cid
    rw [Pi.add_apply]
    omega
  totalIssuance := by
    intro cid
    have hfirst := h.totalIssuance cid
    have hsecond := h'.totalIssuance cid
    rw [Pi.add_apply]
    omega

/-- One change after the other, and neither mints. -/
theorem Mints.trans_zero (h : Mints b b' 0) (h' : Mints b' b'' 0) : Mints b b'' 0 := by
  have htrans := h.trans h'
  rw [add_zero] at htrans
  exact htrans

end

/-! ## One operation -/

theorem Mints.write {minted : Nat} {entry : BalanceEntry} (hexp : ExpLaws config.exp)
    (hbalance : b'.balance = b.balance.insert (cid, who) entry)
    (hentry : entry.principal ≤ balance config blockNumber b cid who + minted)
    (htotal : ∀ cid', storedIssuance b' cid' ≤
      storedIssuance b cid' + (Pi.single cid minted : CommunityIdentifier → Nat) cid') :
    Mints b b' (Pi.single cid minted) where
  balances := by
    intro cid'
    have hchange : storedBalances b' cid' + _ = storedBalances b cid' + _ :=
      StorageMap.total_change (principalIn cid') b.balance b'.balance (cid, who) (by
        intro k hk
        rw [hbalance, StorageMap.lookup_insert_eq, if_neg hk])
    rw [weightAt_principalIn, weightAt_principalIn, hbalance, StorageMap.get_insert, if_pos rfl]
      at hchange
    have hle := balance_le_principal hexp blockNumber b cid who
    by_cases hcid : cid = cid'
    · subst hcid
      rw [if_pos rfl, if_pos rfl] at hchange
      rw [Pi.single_eq_same]
      omega
    · rw [if_neg hcid, if_neg hcid] at hchange
      omega
  totalIssuance := htotal

/-- Nothing is left of the community. -/
structure NothingStored (b : BalancesStorage AccountId) (cid : CommunityIdentifier) : Prop where
  balances : storedBalances b cid = 0
  totalIssuance : storedIssuance b cid = 0

omit [DecidableEq AccountId] in
theorem Mints.nothingStored (h : Mints b b' 0) (hnothing : NothingStored b cid) :
    NothingStored b' cid where
  balances := by
    have hle := h.balances cid
    rw [hnothing.balances] at hle
    exact Nat.le_zero.1 hle
  totalIssuance := by
    have hle := h.totalIssuance cid
    rw [hnothing.totalIssuance] at hle
    exact Nat.le_zero.1 hle

end Balances

/-! ## The actions of the runtime -/

open Balances

variable {AccountId : Type} [DecidableEq AccountId] {config : Config AccountId}
  {s s' : Runtime AccountId}

namespace Ceremonies

end Ceremonies

/-- A change that mints nothing, and leaves nothing of the communities that it removes. -/
structure KeepsSupply (s s' : Runtime AccountId) : Prop where
  mints : Mints s.balances s'.balances 0
  removed : ∀ cid ∈ s.communities.communityIdentifiers,
    cid ∉ s'.communities.communityIdentifiers → NothingStored s'.balances cid

namespace KeepsSupply

section

omit [DecidableEq AccountId]

theorem of_registered (hmints : Mints s.balances s'.balances 0)
    (hregistered : s.communities.communityIdentifiers ⊆ s'.communities.communityIdentifiers) :
    KeepsSupply s s' where
  mints := hmints
  removed := fun _ hcid hgone => absurd (hregistered hcid) hgone

theorem refl (s : Runtime AccountId) : KeepsSupply s s :=
  .of_registered (.refl s.balances) (List.Subset.refl _)

theorem trans {s'' : Runtime AccountId} (h : KeepsSupply s s') (h' : KeepsSupply s' s'') :
    KeepsSupply s s'' where
  mints := h.mints.trans_zero h'.mints
  removed := by
    intro cid hcid hgone
    by_cases hmiddle : cid ∈ s'.communities.communityIdentifiers
    · exact h'.removed cid hmiddle hgone
    · exact h'.mints.nothingStored (h.removed cid hcid hmiddle)

end

end KeepsSupply

namespace Democracy

end Democracy

namespace Ceremonies

end Ceremonies

namespace Dispatch

end Dispatch

/-! ## Runs -/

namespace Balances

end Balances

namespace Balances

end Balances

end Encointer
