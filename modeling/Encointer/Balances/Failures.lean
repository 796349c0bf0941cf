import Encointer.Balances.Demurrage

/-!
# Failing balance operations

Transfers and burning check everything before they write. An issuance counts a
reference of a new account first, and keeps it when the total issuance does not
fit: its callers go on after the error, so nothing takes the reference back.
-/

namespace Encointer

namespace Balances

variable {AccountId : Type} [DecidableEq AccountId] {config : Config AccountId}
  {blockNumber : Nat} {b : BalancesStorage AccountId} {cid : CommunityIdentifier}
  {who : AccountId} {amount : Nat}

/-- What other pallets call. -/
inductive Operation (AccountId : Type) where
  | issue (cid : CommunityIdentifier) (who : AccountId) (amount : Nat)
  | burn (cid : CommunityIdentifier) (who : AccountId) (amount : Nat)
  | doTransfer (cid : CommunityIdentifier) (source dest : AccountId) (amount : Nat)

def Operation.perform (config : Config AccountId) (blockNumber : Nat)
    (b : BalancesStorage AccountId) :
    Operation AccountId → BalancesStorage AccountId × Except DispatchError Unit
  | .issue cid who amount => Balances.issue config blockNumber b cid who amount
  | .burn cid who amount => Balances.burn config blockNumber b cid who amount
  | .doTransfer cid source dest amount =>
      Balances.doTransfer config blockNumber b cid source dest amount

/-- An error leaves the entries, the issuance, the rates and the references. -/
def FailsClean (config : Config AccountId) (blockNumber : Nat) (b : BalancesStorage AccountId)
    (operation : Operation AccountId) : Prop :=
  ∀ e, (operation.perform config blockNumber b).2 = .error e →
    (operation.perform config blockNumber b).1 = b

/-- Only an issuance to a new account can leave something behind. -/
def Covered (config : Config AccountId) (blockNumber : Nat) (b : BalancesStorage AccountId) :
    Operation AccountId → Prop
  | .issue cid who amount =>
      b.balance.contains (cid, who) = true ∨
        totalIssuance config blockNumber b cid + amount < 2 ^ 128
  | .burn _ _ _ => True
  | .doTransfer _ _ _ _ => True

private theorem withAccount_of_contains (h : b.balance.contains (cid, who) = true) :
    withAccount b cid who = b := if_pos h

private theorem withAccount_ne (h : b.balance.contains (cid, who) = false) :
    withAccount b cid who ≠ b := by
  intro hsame
  have hreferences := congrArg (fun b => b.sufficients.get who 0) hsame
  rw [withAccount, if_neg (by simp [h]), newAccount] at hreferences
  simp [StorageMap.get_insert] at hreferences

private theorem doTransfer_failsClean (source dest : AccountId) :
    FailsClean config blockNumber b (.doTransfer cid source dest amount) := by
  have htransfers := doTransfer_transfers config blockNumber b cid source dest amount
  intro e herror
  unfold Operation.perform at herror ⊢
  generalize (doTransfer config blockNumber b cid source dest amount).1 = b' at *
  rw [herror] at htransfers
  cases htransfers
  rfl

private theorem burn_failsClean : FailsClean config blockNumber b (.burn cid who amount) := by
  intro e herror
  simp only [Operation.perform, burn_eq] at herror ⊢
  split at herror
  · rename_i hlow
    rw [if_pos hlow]
  · cases herror

theorem issue_failsClean_iff :
    FailsClean config blockNumber b (.issue cid who amount) ↔
      b.balance.contains (cid, who) = true ∨
        totalIssuance config blockNumber b cid + amount < 2 ^ 128 := by
  unfold FailsClean
  simp only [Operation.perform, issue_eq]
  by_cases hoverflow : 2 ^ 128 ≤ totalIssuance config blockNumber b cid + amount
  · rw [if_pos hoverflow]
    constructor
    · intro hclean
      by_contra hnew
      rw [not_or, Bool.not_eq_true] at hnew
      exact withAccount_ne hnew.1 (hclean .totalIssuanceOverflow rfl)
    · rintro (hcontains | hfits) e -
      · exact withAccount_of_contains hcontains
      · omega
  · rw [if_neg hoverflow]
    constructor
    · intro _
      exact .inr (Nat.lt_of_not_le hoverflow)
    · intro _ e herror
      cases herror

/-- Exactly the operations that are covered change nothing when they fail. -/
theorem failsClean_iff_covered (config : Config AccountId) (blockNumber : Nat)
    (b : BalancesStorage AccountId) (operation : Operation AccountId) :
    FailsClean config blockNumber b operation ↔ Covered config blockNumber b operation := by
  cases operation with
  | issue cid who amount => exact issue_failsClean_iff
  | burn cid who amount => exact iff_of_true burn_failsClean trivial
  | doTransfer cid source dest amount => exact iff_of_true (doTransfer_failsClean source dest) trivial

/-- The first issuance fills the range of the total issuance; the second fails,
and its account stays referenced without an entry. -/
theorem failed_issue_keeps_reference :
    let full := (issue Demo.runtimeConfig 7 ⟨∅, ∅, ∅, ∅⟩ Demo.islanders 1
      (2 ^ 128 - 1)).1
    let failed := issue Demo.runtimeConfig 7 full Demo.islanders 2 1
    failed.2 = .error .totalIssuanceOverflow ∧ full.sufficients.get 2 0 = 0 ∧
      failed.1.sufficients.get 2 0 = 1 ∧ failed.1.balance.contains (Demo.islanders, 2) = false ∧
      ¬ FailsClean Demo.runtimeConfig 7 full (.issue Demo.islanders 2 1) := by
  refine ⟨by decide +kernel, by decide +kernel, by decide +kernel, by decide +kernel, ?_⟩
  rw [issue_failsClean_iff]
  decide +kernel

/-! ## What makes them fail -/

/-- The source is there and covers the amount, and a new target gets more than the dust. -/
def Transferable (config : Config AccountId) (blockNumber : Nat) (b : BalancesStorage AccountId)
    (cid : CommunityIdentifier) (source dest : AccountId) (amount : Nat) : Prop :=
  amount = 0 ∨
    b.balance.contains (cid, source) = true ∧ amount ≤ balance config blockNumber b cid source ∧
      (source = dest ∨ b.balance.contains (cid, dest) = true ∨ config.existentialDeposit < amount)

theorem burn_succeeds_iff :
    (∃ u, (burn config blockNumber b cid who amount).2 = .ok u) ↔
      amount ≤ balance config blockNumber b cid who := by
  rw [burn_eq]
  split
  · rename_i hlow
    exact iff_of_false (by simp) (Nat.not_le_of_lt hlow)
  · rename_i hcovered
    exact iff_of_true ⟨(), rfl⟩ (Nat.le_of_not_lt hcovered)

theorem doTransfer_succeeds_iff (source dest : AccountId) :
    (∃ u, (doTransfer config blockNumber b cid source dest amount).2 = .ok u) ↔
      Transferable config blockNumber b cid source dest amount := by
  unfold doTransfer Transferable
  simp only [balanceEntryUpdated_eq]
  by_cases hzero : amount = 0
  · simp [hzero]
  rw [if_neg hzero]
  by_cases hsource : b.balance.contains (cid, source) = true
  swap
  · simp [hzero, hsource]
  by_cases hcovered : balance config blockNumber b cid source < amount
  · simp [hzero, hsource, hcovered]
  by_cases hsame : source = dest
  · subst hsame
    simp [hsource, hcovered, Nat.le_of_not_lt hcovered]
  have hmoved := moveBalance_eq config blockNumber b cid amount hsame
  by_cases hdest : b.balance.contains (cid, dest) = true
  · rw [withAccount, if_pos hdest] at hmoved
    simp [hsource, hcovered, hsame, hdest, hmoved, Nat.le_of_not_lt hcovered]
  · rw [withAccount, if_neg hdest] at hmoved
    by_cases hdust : amount ≤ config.existentialDeposit
    · simp [hzero, hsource, hcovered, hsame, hdest, hdust]
    · simp [hsource, hcovered, hsame, hdest, hdust, hmoved, Nat.le_of_not_lt hcovered,
        Nat.lt_of_not_le hdust]

end Balances

end Encointer
