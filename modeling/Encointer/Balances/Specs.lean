import Encointer.Pallets.Fungibles

/-!
# What the balances pallet writes

One lemma for each operation, with the balances as they are read at the current
block. An entry that is written at the current block is read as it is.
-/

namespace Encointer

namespace Balances

variable {AccountId : Type} [DecidableEq AccountId] {config : Config AccountId}
  {blockNumber : Nat} {b b' : BalancesStorage AccountId} {cid : CommunityIdentifier}
  {source dest who : AccountId} {amount : Nat}

/-! ## Entries -/

section

omit [DecidableEq AccountId]

@[simp] theorem applyDemurrage_lastUpdate (entry : BalanceEntry) (d : Demurrage) :
    (applyDemurrage config entry d blockNumber).lastUpdate = blockNumber := by
  unfold applyDemurrage
  split
  · assumption
  · split <;> rfl

@[simp] theorem applyDemurrage_current (principal : Nat) (d : Demurrage) :
    applyDemurrage config ⟨principal, blockNumber⟩ d blockNumber = ⟨principal, blockNumber⟩ :=
  if_pos rfl

theorem applyDemurrage_zero (n : Nat) (d : Demurrage) :
    (applyDemurrage config ⟨0, n⟩ d blockNumber).principal = 0 := by
  unfold applyDemurrage
  split
  · rfl
  · simp

end

theorem balance_of_lookup_none (h : b.balance.lookup (cid, who) = none) :
    balance config blockNumber b cid who = 0 := by
  rw [balance, balanceEntryUpdated, StorageMap.get_of_lookup_none h]
  exact applyDemurrage_zero 0 _

theorem balanceEntryUpdated_eq (config : Config AccountId) (blockNumber : Nat)
    (b : BalancesStorage AccountId) (cid : CommunityIdentifier) (who : AccountId) :
    balanceEntryUpdated config blockNumber b cid who =
      ⟨balance config blockNumber b cid who, blockNumber⟩ := by
  have hupdate : (balanceEntryUpdated config blockNumber b cid who).lastUpdate = blockNumber :=
    applyDemurrage_lastUpdate _ _
  rw [balance]
  nth_rewrite 3 [← hupdate]
  rfl

omit [DecidableEq AccountId] in
theorem totalIssuanceEntryUpdated_eq (config : Config AccountId) (blockNumber : Nat)
    (b : BalancesStorage AccountId) (cid : CommunityIdentifier) :
    totalIssuanceEntryUpdated config blockNumber b cid =
      ⟨totalIssuance config blockNumber b cid, blockNumber⟩ := by
  have hupdate : (totalIssuanceEntryUpdated config blockNumber b cid).lastUpdate = blockNumber :=
    applyDemurrage_lastUpdate _ _
  rw [totalIssuance]
  nth_rewrite 3 [← hupdate]
  rfl

theorem balance_congr (hdemurrage : b'.demurragePerBlock = b.demurragePerBlock)
    (h : b'.balance.lookup (cid, who) = b.balance.lookup (cid, who)) :
    balance config blockNumber b' cid who = balance config blockNumber b cid who := by
  simp only [balance, balanceEntryUpdated, StorageMap.get, h, demurrage, hdemurrage]

omit [DecidableEq AccountId] in
theorem totalIssuance_congr (hdemurrage : b'.demurragePerBlock = b.demurragePerBlock)
    (h : b'.totalIssuance.lookup cid = b.totalIssuance.lookup cid) :
    totalIssuance config blockNumber b' cid = totalIssuance config blockNumber b cid := by
  simp only [totalIssuance, totalIssuanceEntryUpdated, StorageMap.get, h, demurrage, hdemurrage]

theorem balance_of_lookup {principal : Nat}
    (h : b.balance.lookup (cid, who) = some ⟨principal, blockNumber⟩) :
    balance config blockNumber b cid who = principal := by
  rw [balance, balanceEntryUpdated, StorageMap.get_of_lookup h, applyDemurrage_current]

omit [DecidableEq AccountId] in
theorem totalIssuance_of_lookup {principal : Nat}
    (h : b.totalIssuance.lookup cid = some ⟨principal, blockNumber⟩) :
    totalIssuance config blockNumber b cid = principal := by
  rw [totalIssuance, totalIssuanceEntryUpdated, StorageMap.get_of_lookup h, applyDemurrage_current]

/-! ## Transfers -/

def withAccount (b : BalancesStorage AccountId) (cid : CommunityIdentifier) (who : AccountId) :
    BalancesStorage AccountId :=
  if b.balance.contains (cid, who) then b else newAccount b who

@[simp] theorem withAccount_balance : (withAccount b cid who).balance = b.balance := by
  unfold withAccount
  split <;> rfl

@[simp] theorem withAccount_totalIssuance :
    (withAccount b cid who).totalIssuance = b.totalIssuance := by
  unfold withAccount
  split <;> rfl

@[simp] theorem withAccount_demurragePerBlock :
    (withAccount b cid who).demurragePerBlock = b.demurragePerBlock := by
  unfold withAccount
  split <;> rfl

def movedEntries (config : Config AccountId) (blockNumber : Nat) (b : BalancesStorage AccountId)
    (cid : CommunityIdentifier) (source dest : AccountId) (amount : Nat) :
    StorageMap (CommunityIdentifier × AccountId) BalanceEntry :=
  (b.balance.insert (cid, source)
    ⟨balance config blockNumber b cid source - amount, blockNumber⟩).insert (cid, dest)
    ⟨min (balance config blockNumber b cid dest + amount) (2 ^ 128 - 1), blockNumber⟩

def moved (config : Config AccountId) (blockNumber : Nat) (b : BalancesStorage AccountId)
    (cid : CommunityIdentifier) (source dest : AccountId) (amount : Nat) :
    BalancesStorage AccountId :=
  let entries := movedEntries config blockNumber b cid source dest amount
  let accounts := withAccount b cid dest
  if balance config blockNumber b cid source - amount < config.existentialDeposit then
    { accounts with
      balance := entries.erase (cid, source)
      sufficients := accounts.sufficients.insert source (accounts.sufficients.get source 0 - 1) }
  else
    { accounts with balance := entries }

/-- A transfer never fails after it has written. -/
inductive Transfers (config : Config AccountId) (blockNumber : Nat)
    (b : BalancesStorage AccountId) (cid : CommunityIdentifier) (source dest : AccountId)
    (amount : Nat) : BalancesStorage AccountId → Except DispatchError Unit → Prop where
  | fails (e : DispatchError) : Transfers config blockNumber b cid source dest amount b (.error e)
  | nothing (zero : amount = 0) : Transfers config blockNumber b cid source dest amount b (.ok ())
  | self (same : source = dest)
      (exists_source : b.balance.contains (cid, source) = true) :
      Transfers config blockNumber b cid source dest amount
        { b with balance := (b.balance.insert (cid, source)
          ⟨balance config blockNumber b cid source, blockNumber⟩) } (.ok ())
  | other (different : source ≠ dest) (exists_source : b.balance.contains (cid, source) = true)
      (covered : amount ≤ balance config blockNumber b cid source) :
      Transfers config blockNumber b cid source dest amount
        (moved config blockNumber b cid source dest amount) (.ok ())

private theorem removeAccount_eq (hcontains : b.balance.contains (cid, who) = true)
    (hlow : balance config blockNumber b cid who < config.existentialDeposit) :
    removeAccount config blockNumber b cid who =
      ({ b with
          balance := b.balance.erase (cid, who)
          sufficients := b.sufficients.insert who (b.sufficients.get who 0 - 1) },
        .ok ()) := by
  rw [removeAccount, if_neg (by simp [hcontains]), if_neg (Nat.not_le_of_lt hlow)]

theorem moveBalance_eq (config : Config AccountId) (blockNumber : Nat)
    (b : BalancesStorage AccountId) (cid : CommunityIdentifier) (amount : Nat)
    (hne : source ≠ dest) :
    moveBalance config blockNumber (withAccount b cid dest) cid source dest amount
        ⟨balance config blockNumber b cid source, blockNumber⟩ =
      (moved config blockNumber b cid source dest amount, .ok ()) := by
  have hdest : balance config blockNumber (withAccount b cid dest) cid dest =
      balance config blockNumber b cid dest := balance_congr (by simp) (by simp)
  have hwritten (written : BalancesStorage AccountId)
      (h : written.balance = movedEntries config blockNumber b cid source dest amount) :
      written.balance.lookup (cid, source) =
        some ⟨balance config blockNumber b cid source - amount, blockNumber⟩ := by
    simp [h, movedEntries, StorageMap.lookup_insert_eq, hne]
  unfold moveBalance moved
  simp only [balanceEntryUpdated_eq, hdest, withAccount_balance]
  rw [← movedEntries]
  rw [balance_of_lookup (hwritten _ rfl)]
  split
  · rename_i hlow
    apply removeAccount_eq
    · rw [StorageMap.contains, hwritten _ rfl, Option.isSome_some]
    · rw [balance_of_lookup (hwritten _ rfl)]
      exact hlow
  · rfl

theorem doTransfer_transfers (config : Config AccountId) (blockNumber : Nat)
    (b : BalancesStorage AccountId) (cid : CommunityIdentifier) (source dest : AccountId)
    (amount : Nat) :
    Transfers config blockNumber b cid source dest amount
      (doTransfer config blockNumber b cid source dest amount).1
      (doTransfer config blockNumber b cid source dest amount).2 := by
  unfold doTransfer
  simp only [balanceEntryUpdated_eq]
  split
  · rename_i hzero
    exact .nothing hzero
  · split
    · exact .fails _
    · rename_i hsource
      rw [Bool.not_eq_false] at hsource
      split
      · exact .fails _
      · rename_i hcovered
        split
        · rename_i hsame
          exact .self hsame hsource
        · rename_i hne
          have hmoved := moveBalance_eq config blockNumber b cid amount hne
          unfold withAccount at hmoved
          split
          · rename_i hdest
            rw [if_pos hdest] at hmoved
            rw [hmoved]
            exact .other hne hsource (Nat.le_of_not_lt hcovered)
          · rename_i hdest
            split
            · exact .fails _
            · rw [if_neg hdest] at hmoved
              rw [hmoved]
              exact .other hne hsource (Nat.le_of_not_lt hcovered)

/-! ## Issuance and burning -/

theorem issue_eq (config : Config AccountId) (blockNumber : Nat) (b : BalancesStorage AccountId)
    (cid : CommunityIdentifier) (who : AccountId) (amount : Nat) :
    issue config blockNumber b cid who amount =
      if 2 ^ 128 ≤ totalIssuance config blockNumber b cid + amount then
        (withAccount b cid who, .error .totalIssuanceOverflow)
      else
        ({ withAccount b cid who with
            totalIssuance := b.totalIssuance.insert cid
              ⟨totalIssuance config blockNumber b cid + amount, blockNumber⟩
            balance := b.balance.insert (cid, who)
              ⟨(balance config blockNumber b cid who + amount) % 2 ^ 128, blockNumber⟩ },
          .ok ()) := by
  have hbalance : balance config blockNumber (withAccount b cid who) cid who =
      balance config blockNumber b cid who := balance_congr (by simp) (by simp)
  have htotal : totalIssuance config blockNumber (withAccount b cid who) cid =
      totalIssuance config blockNumber b cid := totalIssuance_congr (by simp) (by simp)
  unfold issue
  simp only [balanceEntryUpdated_eq, totalIssuanceEntryUpdated_eq]
  rw [← withAccount, hbalance, htotal, withAccount_balance, withAccount_totalIssuance]

theorem burn_eq (config : Config AccountId) (blockNumber : Nat) (b : BalancesStorage AccountId)
    (cid : CommunityIdentifier) (who : AccountId) (amount : Nat) :
    burn config blockNumber b cid who amount =
      if balance config blockNumber b cid who < amount then
        (b, .error .balanceTooLow)
      else
        ({ b with
            totalIssuance := b.totalIssuance.insert cid
              ⟨totalIssuance config blockNumber b cid - amount, blockNumber⟩
            balance := b.balance.insert (cid, who)
              ⟨balance config blockNumber b cid who - amount, blockNumber⟩ },
          .ok ()) := by
  unfold burn
  simp only [balanceEntryUpdated_eq, totalIssuanceEntryUpdated_eq]

end Balances

end Encointer
