import Encointer.Balances.Runs
import Encointer.Library.Totals
import Encointer.Ceremonies.RewardOnce

/-!
# Conservation of community currencies

Transfers move what the source loses, but for the remainder that is dropped when
the source falls below the existential deposit. Issuance and burning change the
balance and the total issuance by the same amount.
-/

namespace Encointer

namespace Balances

variable {AccountId : Type} [DecidableEq AccountId] {config : Config AccountId}
  {blockNumber : Nat} {b b' : BalancesStorage AccountId} {cid : CommunityIdentifier}
  {source dest who : AccountId} {amount : Nat}

/-! ## The sum of all balances -/

/-- What an entry adds to the balances of a community, at the current block. -/
def weight (config : Config AccountId) (blockNumber : Nat) (b : BalancesStorage AccountId)
    (cid : CommunityIdentifier) (k : CommunityIdentifier × AccountId) (entry : BalanceEntry) : Nat :=
  if k.1 = cid then
    (applyDemurrage config entry (demurrage config b cid) blockNumber).principal
  else
    0

/-- The sum of all balances of a community, at the current block. -/
def sumOfBalances (config : Config AccountId) (blockNumber : Nat) (b : BalancesStorage AccountId)
    (cid : CommunityIdentifier) : Nat :=
  b.balance.total (weight config blockNumber b cid)

theorem weightAt_balance (config : Config AccountId) (blockNumber : Nat)
    (b : BalancesStorage AccountId) (cid : CommunityIdentifier) (who : AccountId) :
    b.balance.weightAt (weight config blockNumber b cid) (cid, who) =
      balance config blockNumber b cid who := by
  cases hlookup : b.balance.lookup (cid, who) with
  | none => rw [StorageMap.weightAt_of_lookup_none hlookup, balance_of_lookup_none hlookup]
  | some entry =>
      rw [StorageMap.weightAt_of_lookup hlookup, weight, if_pos rfl, balance, balanceEntryUpdated,
        StorageMap.get_of_lookup hlookup]

omit [DecidableEq AccountId] in
theorem weight_congr (h : b'.demurragePerBlock = b.demurragePerBlock) :
    weight config blockNumber b' cid = weight config blockNumber b cid := by
  funext k entry
  rw [weight, demurrage, h, weight, demurrage]

theorem balance_le_sumOfBalances (config : Config AccountId) (blockNumber : Nat)
    (b : BalancesStorage AccountId) (cid : CommunityIdentifier) (who : AccountId) :
    balance config blockNumber b cid who ≤ sumOfBalances config blockNumber b cid := by
  rw [← weightAt_balance]
  exact StorageMap.weightAt_le_total _ _ _

theorem balance_add_le_sumOfBalances (config : Config AccountId) (blockNumber : Nat)
    (b : BalancesStorage AccountId) (cid : CommunityIdentifier) (hne : source ≠ dest) :
    balance config blockNumber b cid source + balance config blockNumber b cid dest ≤
      sumOfBalances config blockNumber b cid := by
  rw [← weightAt_balance, ← weightAt_balance]
  apply StorageMap.weightAt_add_le_total
  simp [hne.symm]

theorem sumOfBalances_change (config : Config AccountId) (blockNumber : Nat)
    (hdemurrage : b'.demurragePerBlock = b.demurragePerBlock)
    (h : ∀ k, k ≠ (cid, who) → b'.balance.lookup k = b.balance.lookup k) :
    sumOfBalances config blockNumber b' cid + balance config blockNumber b cid who =
      sumOfBalances config blockNumber b cid + balance config blockNumber b' cid who := by
  have htotal := StorageMap.total_change (weight config blockNumber b cid) b.balance b'.balance
    (cid, who) h
  rw [weightAt_balance, ← weight_congr hdemurrage, weightAt_balance] at htotal
  rw [weight_congr hdemurrage] at htotal
  rw [sumOfBalances, weight_congr hdemurrage]
  exact htotal

theorem sumOfBalances_change_two (config : Config AccountId) (blockNumber : Nat)
    (hne : source ≠ dest) (hdemurrage : b'.demurragePerBlock = b.demurragePerBlock)
    (h : ∀ k, k ≠ (cid, source) → k ≠ (cid, dest) → b'.balance.lookup k = b.balance.lookup k) :
    sumOfBalances config blockNumber b' cid + (balance config blockNumber b cid source +
        balance config blockNumber b cid dest) =
      sumOfBalances config blockNumber b cid + (balance config blockNumber b' cid source +
        balance config blockNumber b' cid dest) := by
  have htotal := StorageMap.total_change_two (weight config blockNumber b cid)
    (by simp [hne] : (cid, source) ≠ (cid, dest)) h
  have hafter (who : AccountId) : b'.balance.weightAt (weight config blockNumber b cid) (cid, who) =
      balance config blockNumber b' cid who := by
    rw [← weight_congr hdemurrage, weightAt_balance]
  rw [weightAt_balance, weightAt_balance, hafter, hafter] at htotal
  rw [sumOfBalances, weight_congr hdemurrage]
  exact htotal

theorem sumOfBalances_other (hdemurrage : b'.demurragePerBlock = b.demurragePerBlock)
    (h : ∀ k, k.1 = cid → b'.balance.lookup k = b.balance.lookup k) :
    sumOfBalances config blockNumber b' cid = sumOfBalances config blockNumber b cid := by
  rw [sumOfBalances, weight_congr hdemurrage, sumOfBalances]
  apply StorageMap.total_change_other _ fun k => decide (k.1 = cid)
  · intro k entry hk
    exact if_neg (of_decide_eq_false hk)
  · intro k hk
    exact h k (of_decide_eq_true hk)

/-! ## One operation -/

/-- What is dropped when the transfer removes the entry of the source. -/
def discarded (config : Config AccountId) (blockNumber : Nat) (b : BalancesStorage AccountId)
    (cid : CommunityIdentifier) (source dest : AccountId) (amount : Nat) : Nat :=
  if b.balance.contains (cid, source) = true ∧
      (doTransfer config blockNumber b cid source dest amount).1.balance.contains
        (cid, source) = false then
    balance config blockNumber b cid source - amount
  else
    0

structure ChangesEntries (b b' : BalancesStorage AccountId) (cid : CommunityIdentifier)
    (source dest : AccountId) : Prop where
  others : ∀ k, k ≠ (cid, source) → k ≠ (cid, dest) → b'.balance.lookup k = b.balance.lookup k
  totalIssuance : b'.totalIssuance = b.totalIssuance
  demurragePerBlock : b'.demurragePerBlock = b.demurragePerBlock

/-- The sum of the two balances stays, but for the dust. -/
structure TransferConserves (config : Config AccountId) (blockNumber : Nat)
    (b b' : BalancesStorage AccountId) (cid : CommunityIdentifier) (source dest : AccountId)
    (dust : Nat) : Prop extends ChangesEntries b b' cid source dest where
  sum : balance config blockNumber b' cid source + balance config blockNumber b' cid dest + dust =
    balance config blockNumber b cid source + balance config blockNumber b cid dest
  dust : dust ≠ 0 →
    dust < config.existentialDeposit ∧ b'.balance.lookup (cid, source) = none

structure ChangesEntry (b b' : BalancesStorage AccountId) (cid : CommunityIdentifier)
    (who : AccountId) : Prop where
  others : ∀ k, k ≠ (cid, who) → b'.balance.lookup k = b.balance.lookup k
  totalIssuance : ∀ cid', cid' ≠ cid → b'.totalIssuance.lookup cid' = b.totalIssuance.lookup cid'
  demurragePerBlock : b'.demurragePerBlock = b.demurragePerBlock

structure IssueAdds (config : Config AccountId) (blockNumber : Nat)
    (b b' : BalancesStorage AccountId) (cid : CommunityIdentifier) (who : AccountId)
    (amount : Nat) : Prop extends ChangesEntry b b' cid who where
  balance : balance config blockNumber b' cid who = balance config blockNumber b cid who + amount
  issued : Balances.totalIssuance config blockNumber b' cid =
    Balances.totalIssuance config blockNumber b cid + amount

structure BurnSubtracts (config : Config AccountId) (blockNumber : Nat)
    (b b' : BalancesStorage AccountId) (cid : CommunityIdentifier) (who : AccountId)
    (amount : Nat) : Prop extends ChangesEntry b b' cid who where
  balance : Balances.balance config blockNumber b' cid who + amount =
    Balances.balance config blockNumber b cid who
  burned : Balances.totalIssuance config blockNumber b' cid + amount =
    Balances.totalIssuance config blockNumber b cid

theorem moved_totalIssuance :
    (moved config blockNumber b cid source dest amount).totalIssuance = b.totalIssuance := by
  unfold moved
  simp only
  split
  · exact withAccount_totalIssuance
  · exact withAccount_totalIssuance

private theorem moved_demurragePerBlock :
    (moved config blockNumber b cid source dest amount).demurragePerBlock =
      b.demurragePerBlock := by
  unfold moved
  simp only
  split
  · exact withAccount_demurragePerBlock
  · exact withAccount_demurragePerBlock

theorem moved_lookup (config : Config AccountId) (blockNumber : Nat)
    (b : BalancesStorage AccountId) (cid : CommunityIdentifier) (source dest : AccountId)
    (amount : Nat) (k : CommunityIdentifier × AccountId) :
    (moved config blockNumber b cid source dest amount).balance.lookup k =
      if k = (cid, source) ∧
          balance config blockNumber b cid source - amount < config.existentialDeposit then
        none
      else
        (movedEntries config blockNumber b cid source dest amount).lookup k := by
  unfold moved
  simp only
  by_cases hlow : balance config blockNumber b cid source - amount < config.existentialDeposit
  · simp [hlow, StorageMap.lookup_erase_eq]
  · simp [hlow]

theorem doTransfer_changes (config : Config AccountId) (blockNumber : Nat)
    (b : BalancesStorage AccountId) (cid : CommunityIdentifier) (source dest : AccountId)
    (amount : Nat) :
    ChangesEntries b (doTransfer config blockNumber b cid source dest amount).1 cid source
      dest := by
  have htransfers := doTransfer_transfers config blockNumber b cid source dest amount
  generalize (doTransfer config blockNumber b cid source dest amount).1 = b' at *
  generalize (doTransfer config blockNumber b cid source dest amount).2 = result at htransfers
  cases htransfers with
  | fails e => exact ⟨fun _ _ _ => rfl, rfl, rfl⟩
  | nothing zero => exact ⟨fun _ _ _ => rfl, rfl, rfl⟩
  | self same exists_source =>
      refine ⟨?_, rfl, rfl⟩
      intro k hk _
      exact (StorageMap.lookup_insert_eq _ _ _ _).trans (if_neg hk)
  | other different exists_source covered =>
      refine ⟨?_, moved_totalIssuance, moved_demurragePerBlock⟩
      intro k hk hk'
      rw [moved_lookup, if_neg (by simp [hk]), movedEntries, StorageMap.lookup_insert_eq,
        if_neg hk', StorageMap.lookup_insert_eq, if_neg hk]

/-- A transfer to oneself only brings the entry up to date. -/
theorem doTransfer_self (config : Config AccountId) (blockNumber : Nat)
    (b : BalancesStorage AccountId) (cid : CommunityIdentifier) (source : AccountId)
    (amount : Nat) :
    balance config blockNumber (doTransfer config blockNumber b cid source source amount).1 cid
        source = balance config blockNumber b cid source ∧
      discarded config blockNumber b cid source source amount = 0 := by
  have htransfers := doTransfer_transfers config blockNumber b cid source source amount
  unfold discarded
  generalize (doTransfer config blockNumber b cid source source amount).1 = b' at *
  generalize (doTransfer config blockNumber b cid source source amount).2 = result at htransfers
  cases htransfers with
  | fails e => exact ⟨rfl, if_neg fun h => by simp [h.1] at h⟩
  | nothing zero => exact ⟨rfl, if_neg fun h => by simp [h.1] at h⟩
  | self same exists_source =>
      have hlookup := StorageMap.lookup_insert_eq b.balance (cid, source)
        ⟨balance config blockNumber b cid source, blockNumber⟩ (cid, source)
      rw [if_pos rfl] at hlookup
      refine ⟨balance_of_lookup hlookup, if_neg fun h => ?_⟩
      rw [StorageMap.contains_eq_false, hlookup] at h
      cases h.2
  | other different exists_source covered => exact absurd rfl different

/-- The target never saturates, where the balances are covered by the issuance. -/
theorem moved_conserves (hne : source ≠ dest)
    (hsource : b.balance.contains (cid, source) = true)
    (hcovered : amount ≤ balance config blockNumber b cid source)
    (hsum : balance config blockNumber b cid source + balance config blockNumber b cid dest <
      2 ^ 128)
    (hmoved : (doTransfer config blockNumber b cid source dest amount).1 =
      moved config blockNumber b cid source dest amount) :
    TransferConserves config blockNumber b (moved config blockNumber b cid source dest amount) cid
      source dest (discarded config blockNumber b cid source dest amount) := by
  have hdest : balance config blockNumber (moved config blockNumber b cid source dest amount) cid
      dest = balance config blockNumber b cid dest + amount := by
    apply balance_of_lookup
    rw [moved_lookup, if_neg (by simp [hne.symm]), movedEntries, StorageMap.lookup_insert_eq,
      if_pos rfl, Nat.min_eq_left (by omega)]
  have hlookup := moved_lookup config blockNumber b cid source dest amount (cid, source)
  have hchanges := doTransfer_changes config blockNumber b cid source dest amount
  rw [hmoved] at hchanges
  unfold discarded
  rw [hmoved]
  by_cases hlow : balance config blockNumber b cid source - amount < config.existentialDeposit
  · rw [if_pos ⟨rfl, hlow⟩] at hlookup
    have hgone := StorageMap.contains_eq_false.2 hlookup
    rw [if_pos ⟨hsource, hgone⟩]
    refine ⟨hchanges, ?_, fun _ => ⟨hlow, hlookup⟩⟩
    rw [hdest, balance_of_lookup_none hlookup]
    omega
  · rw [if_neg fun h => hlow h.2, movedEntries, StorageMap.lookup_insert_eq,
      if_neg (by simp [hne]), StorageMap.lookup_insert_eq, if_pos rfl] at hlookup
    have hkept : StorageMap.contains (moved config blockNumber b cid source dest amount).balance
        (cid, source) = true := by
      rw [StorageMap.contains, hlookup, Option.isSome_some]
    rw [if_neg (by simp [hkept])]
    refine ⟨hchanges, ?_, fun h => absurd rfl h⟩
    rw [hdest, balance_of_lookup hlookup]
    omega

theorem doTransfer_conserves (hne : source ≠ dest)
    (hsum : balance config blockNumber b cid source + balance config blockNumber b cid dest <
      2 ^ 128) :
    TransferConserves config blockNumber b
      (doTransfer config blockNumber b cid source dest amount).1 cid source dest
      (discarded config blockNumber b cid source dest amount) := by
  have htransfers := doTransfer_transfers config blockNumber b cid source dest amount
  have hsame (h : (doTransfer config blockNumber b cid source dest amount).1 = b) :
      TransferConserves config blockNumber b
        (doTransfer config blockNumber b cid source dest amount).1 cid source dest
        (discarded config blockNumber b cid source dest amount) := by
    have hnone : discarded config blockNumber b cid source dest amount = 0 := by
      unfold discarded
      rw [h]
      exact if_neg fun hgone => by simp [hgone.1] at hgone
    rw [h, hnone]
    exact ⟨⟨fun _ _ _ => rfl, rfl, rfl⟩, rfl, fun h => absurd rfl h⟩
  generalize hb : (doTransfer config blockNumber b cid source dest amount).1 = b' at *
  generalize (doTransfer config blockNumber b cid source dest amount).2 = result at htransfers
  cases htransfers with
  | fails e => exact hsame rfl
  | nothing zero => exact hsame rfl
  | self same exists_source => exact absurd same hne
  | other different exists_source covered =>
      exact moved_conserves hne exists_source covered hsum hb

theorem issue_changes (config : Config AccountId) (blockNumber : Nat)
    (b : BalancesStorage AccountId) (cid : CommunityIdentifier) (who : AccountId) (amount : Nat) :
    ChangesEntry b (issue config blockNumber b cid who amount).1 cid who := by
  rw [issue_eq]
  split
  · exact ⟨fun k _ => by simp, fun cid' _ => by simp, withAccount_demurragePerBlock⟩
  · refine ⟨?_, ?_, withAccount_demurragePerBlock⟩
    · intro k hk
      exact (StorageMap.lookup_insert_eq _ _ _ _).trans (if_neg hk)
    · intro cid' hcid
      exact (StorageMap.lookup_insert_eq _ _ _ _).trans (if_neg hcid)

theorem burn_changes (config : Config AccountId) (blockNumber : Nat)
    (b : BalancesStorage AccountId) (cid : CommunityIdentifier) (who : AccountId) (amount : Nat) :
    ChangesEntry b (burn config blockNumber b cid who amount).1 cid who := by
  rw [burn_eq]
  split
  · exact ⟨fun _ _ => rfl, fun _ _ => rfl, rfl⟩
  · refine ⟨?_, ?_, rfl⟩
    · intro k hk
      exact (StorageMap.lookup_insert_eq _ _ _ _).trans (if_neg hk)
    · intro cid' hcid
      exact (StorageMap.lookup_insert_eq _ _ _ _).trans (if_neg hcid)

theorem issue_adds
    (hsum : balance config blockNumber b cid who ≤ totalIssuance config blockNumber b cid)
    (h : (issue config blockNumber b cid who amount).2 = .ok ()) :
    IssueAdds config blockNumber b (issue config blockNumber b cid who amount).1 cid who
      amount := by
  refine ⟨issue_changes config blockNumber b cid who amount, ?_, ?_⟩
  · rw [issue_eq] at h ⊢
    split at h
    · cases h
    · rename_i hfits
      rw [if_neg hfits]
      have hmod : (balance config blockNumber b cid who + amount) % 2 ^ 128 =
          balance config blockNumber b cid who + amount := Nat.mod_eq_of_lt (by omega)
      rw [hmod]
      exact balance_of_lookup ((StorageMap.lookup_insert_eq _ _ _ _).trans (if_pos rfl))
  · rw [issue_eq] at h ⊢
    split at h
    · cases h
    · rename_i hfits
      rw [if_neg hfits]
      exact totalIssuance_of_lookup ((StorageMap.lookup_insert_eq _ _ _ _).trans (if_pos rfl))

theorem burn_subtracts
    (hsum : balance config blockNumber b cid who ≤ totalIssuance config blockNumber b cid)
    (h : (burn config blockNumber b cid who amount).2 = .ok ()) :
    BurnSubtracts config blockNumber b (burn config blockNumber b cid who amount).1 cid who
      amount := by
  refine ⟨burn_changes config blockNumber b cid who amount, ?_, ?_⟩
  · rw [burn_eq] at h ⊢
    split at h
    · cases h
    · rename_i hcovered
      rw [if_neg hcovered,
        balance_of_lookup ((StorageMap.lookup_insert_eq _ _ _ _).trans (if_pos rfl))]
      omega
  · rw [burn_eq] at h ⊢
    split at h
    · cases h
    · rename_i hcovered
      rw [if_neg hcovered,
        totalIssuance_of_lookup ((StorageMap.lookup_insert_eq _ _ _ _).trans (if_pos rfl))]
      omega

theorem issue_fits (h : (issue config blockNumber b cid who amount).2 = .ok ()) :
    totalIssuance config blockNumber b cid + amount < 2 ^ 128 := by
  rw [issue_eq] at h
  split at h
  · cases h
  · rename_i hfits
    exact Nat.lt_of_not_le hfits

/-- A failing issuance or burning leaves the entries and the issuance. -/
theorem issue_fails {e : DispatchError}
    (h : (issue config blockNumber b cid who amount).2 = .error e) :
    (issue config blockNumber b cid who amount).1.balance = b.balance ∧
      (issue config blockNumber b cid who amount).1.totalIssuance = b.totalIssuance := by
  rw [issue_eq] at h ⊢
  split at h
  · rename_i hover
    rw [if_pos hover]
    exact ⟨withAccount_balance, withAccount_totalIssuance⟩
  · cases h

theorem burn_fails {e : DispatchError}
    (h : (burn config blockNumber b cid who amount).2 = .error e) :
    (burn config blockNumber b cid who amount).1 = b := by
  rw [burn_eq] at h ⊢
  split at h
  · rename_i hlow
    rw [if_pos hlow]
  · cases h

/-! ## Zero demurrage -/

omit [DecidableEq AccountId] in
/-- `exp` is one at zero, as the fixed-point library has it. -/
theorem applyDemurrage_of_no_demurrage (hexp : config.exp 0 = some one) (entry : BalanceEntry) :
    (applyDemurrage config entry 0 blockNumber).principal = entry.principal := by
  unfold applyDemurrage
  split
  · rfl
  · split
    · rfl
    · have hfactor (elapsedBlocks : Nat) : demurrageFactor config 0 elapsedBlocks = one := by
        simp [demurrageFactor, hexp]
      simp [hfactor, one]

variable {n n' : Nat}

omit [DecidableEq AccountId] in
private theorem sumOfBalances_of_no_demurrage (hexp : config.exp 0 = some one)
    (h : demurrage config b cid = 0) :
    sumOfBalances config n b cid = sumOfBalances config n' b cid := by
  apply StorageMap.total_congr
  intro k entry
  rw [weight, weight, h, applyDemurrage_of_no_demurrage hexp, applyDemurrage_of_no_demurrage hexp]

omit [DecidableEq AccountId] in
theorem totalIssuance_of_no_demurrage (hexp : config.exp 0 = some one)
    (h : demurrage config b cid = 0) :
    totalIssuance config n b cid = totalIssuance config n' b cid := by
  rw [totalIssuance, totalIssuanceEntryUpdated, h, applyDemurrage_of_no_demurrage hexp,
    totalIssuance, totalIssuanceEntryUpdated, h, applyDemurrage_of_no_demurrage hexp]

/-! ## Runs -/

def discardedBy (config : Config AccountId) (cid : CommunityIdentifier) (s : Runtime AccountId) :
    Call AccountId → Nat
  | .transfer sender dest cid' amount =>
      if cid' = cid then discarded config s.blockNumber s.balances cid sender dest amount else 0
  | .transferAll sender dest cid' =>
      if cid' = cid then
        discarded config s.blockNumber s.balances cid sender dest
          (balance config s.blockNumber s.balances cid sender)
      else
        0
  | _ => 0

/-- The balances and the dust make up the total issuance, which fits its type. -/
structure Conserved (config : Config AccountId) (cid : CommunityIdentifier) (blockNumber : Nat)
    (b : BalancesStorage AccountId) (dust : Nat) : Prop where
  demurrage : demurrage config b cid = 0
  sum : sumOfBalances config blockNumber b cid + dust = totalIssuance config blockNumber b cid
  bounded : totalIssuance config blockNumber b cid < 2 ^ 128

omit [DecidableEq AccountId] in
theorem demurrage_congr (h : b'.demurragePerBlock = b.demurragePerBlock) :
    Balances.demurrage config b' cid = Balances.demurrage config b cid := by
  rw [demurrage, h, demurrage]

namespace Conserved

variable {dust : Nat} {cid' : CommunityIdentifier}

theorem other (h : Conserved config cid blockNumber b dust)
    (hdemurrage : b'.demurragePerBlock = b.demurragePerBlock)
    (hbalance : ∀ k, k.1 = cid → b'.balance.lookup k = b.balance.lookup k)
    (htotal : b'.totalIssuance.lookup cid = b.totalIssuance.lookup cid) :
    Conserved config cid blockNumber b' dust := by
  obtain ⟨hzero, hsum, hbounded⟩ := h
  rw [← demurrage_congr hdemurrage] at hzero
  rw [← sumOfBalances_other hdemurrage hbalance, ← totalIssuance_congr hdemurrage htotal] at hsum
  rw [← totalIssuance_congr hdemurrage htotal] at hbounded
  exact ⟨hzero, hsum, hbounded⟩

omit [DecidableEq AccountId] in
theorem nextBlock (hexp : config.exp 0 = some one) (h : Conserved config cid blockNumber b dust)
    (n : Nat) : Conserved config cid n b dust := by
  obtain ⟨hzero, hsum, hbounded⟩ := h
  refine ⟨hzero, ?_, ?_⟩
  · rw [sumOfBalances_of_no_demurrage hexp hzero, totalIssuance_of_no_demurrage hexp hzero]
    exact hsum
  · rw [totalIssuance_of_no_demurrage hexp hzero]
    exact hbounded

theorem doTransfer (h : Conserved config cid blockNumber b dust) :
    Conserved config cid blockNumber
      (Balances.doTransfer config blockNumber b cid source dest amount).1
      (dust + discarded config blockNumber b cid source dest amount) := by
  obtain ⟨hzero, hsum, hbounded⟩ := h
  obtain ⟨hothers, htotals, hdemurrage⟩ :=
    doTransfer_changes config blockNumber b cid source dest amount
  have hissued : totalIssuance config blockNumber
      (Balances.doTransfer config blockNumber b cid source dest amount).1 cid =
      totalIssuance config blockNumber b cid := totalIssuance_congr hdemurrage (by rw [htotals])
  rw [← demurrage_congr hdemurrage] at hzero
  rw [← hissued] at hsum hbounded
  refine ⟨hzero, ?_, hbounded⟩
  by_cases hne : source = dest
  · subst hne
    obtain ⟨hbalance, hdust⟩ := doTransfer_self config blockNumber b cid source amount
    have hchange : sumOfBalances config blockNumber _ cid +
        balance config blockNumber b cid source = _ :=
      sumOfBalances_change config blockNumber hdemurrage fun k hk => hothers k hk hk
    omega
  · have hle := balance_add_le_sumOfBalances config blockNumber b cid hne
    have hmoves : TransferConserves config blockNumber b
        (Balances.doTransfer config blockNumber b cid source dest amount).1 cid source dest _ :=
      doTransfer_conserves hne (by omega)
    have hmoved := hmoves.sum
    have hchange := sumOfBalances_change_two config blockNumber hne hdemurrage hothers
    omega

theorem doTransfer_other (hcid : cid' ≠ cid) (h : Conserved config cid blockNumber b dust) :
    Conserved config cid blockNumber
      (Balances.doTransfer config blockNumber b cid' source dest amount).1 dust := by
  obtain ⟨hothers, htotals, hdemurrage⟩ :=
    doTransfer_changes config blockNumber b cid' source dest amount
  apply h.other hdemurrage _ (by rw [htotals])
  intro k hk
  apply hothers
  · rintro rfl
    exact hcid hk
  · rintro rfl
    exact hcid hk

theorem changesEntry_other (hcid : cid' ≠ cid) (h : Conserved config cid blockNumber b dust)
    (hchanges : ChangesEntry b b' cid' who) : Conserved config cid blockNumber b' dust := by
  apply h.other hchanges.demurragePerBlock _ (hchanges.totalIssuance cid hcid.symm)
  intro k hk
  apply hchanges.others
  rintro rfl
  exact hcid hk

theorem issue (h : Conserved config cid blockNumber b dust) :
    Conserved config cid blockNumber (Balances.issue config blockNumber b cid' who amount).1
      dust := by
  have hchanges := issue_changes config blockNumber b cid' who amount
  by_cases hcid : cid' = cid
  · subst hcid
    cases hresult : (Balances.issue config blockNumber b cid' who amount).2 with
    | error e =>
        obtain ⟨hbalance, htotal⟩ := issue_fails hresult
        exact h.other hchanges.demurragePerBlock (fun k _ => by rw [hbalance]) (by rw [htotal])
    | ok u =>
        have hle := balance_le_sumOfBalances config blockNumber b cid' who
        have hsum := h.sum
        have hadds := issue_adds (by omega) hresult
        have hchange := sumOfBalances_change config blockNumber hchanges.demurragePerBlock
          hchanges.others
        have hbalance := hadds.balance
        have hissued := hadds.issued
        have hfits := issue_fits hresult
        refine ⟨?_, by omega, by omega⟩
        rw [demurrage_congr hchanges.demurragePerBlock]
        exact h.demurrage
  · exact h.changesEntry_other hcid hchanges

theorem burn (h : Conserved config cid blockNumber b dust) :
    Conserved config cid blockNumber (Balances.burn config blockNumber b cid' who amount).1
      dust := by
  have hchanges := burn_changes config blockNumber b cid' who amount
  by_cases hcid : cid' = cid
  · subst hcid
    cases hresult : (Balances.burn config blockNumber b cid' who amount).2 with
    | error e =>
        rw [burn_fails hresult]
        exact h
    | ok u =>
        have hle := balance_le_sumOfBalances config blockNumber b cid' who
        have hsum := h.sum
        have hbounded := h.bounded
        have hsubtracts := burn_subtracts (by omega) hresult
        have hchange := sumOfBalances_change config blockNumber hchanges.demurragePerBlock
          hchanges.others
        have hbalance := hsubtracts.balance
        have hburned := hsubtracts.burned
        refine ⟨?_, by omega, by omega⟩
        rw [demurrage_congr hchanges.demurragePerBlock]
        exact h.demurrage
  · exact h.changesEntry_other hcid hchanges

theorem callStep (hexp : config.exp 0 = some one) {s : Runtime AccountId} (call : Call AccountId)
    (h : Conserved config cid s.blockNumber s.balances dust) :
    Conserved config cid (callStep config s call).blockNumber (callStep config s call).balances
      (dust + discardedBy config cid s call) := by
  cases call with
  | nextBlock => exact h.nextBlock hexp (s.blockNumber + 1)
  | transfer sender dest cid' amount =>
      rw [callStep_transfer, discardedBy]
      split
      · rename_i hcid
        subst hcid
        exact h.doTransfer
      · rename_i hcid
        exact h.doTransfer_other hcid
  | transferAll sender dest cid' =>
      rw [callStep_transferAll, discardedBy]
      split
      · rename_i hcid
        subst hcid
        exact h.doTransfer
      · rename_i hcid
        exact h.doTransfer_other hcid
  | issue cid' who amount => exact h.issue
  | burn cid' who amount => exact h.burn

end Conserved

/--
At one block, transfers conserve the balances but for the dust, and issuance and burning
change the balance and the total issuance by the amount, as long as the balances are covered by
the total issuance. Without demurrage, balances and dust make up the total issuance after every
run.
-/
theorem balance_conservation (config : Config AccountId) :
    (∀ (blockNumber : Nat) (b : BalancesStorage AccountId) (cid : CommunityIdentifier),
      sumOfBalances config blockNumber b cid ≤ totalIssuance config blockNumber b cid →
      totalIssuance config blockNumber b cid < 2 ^ 128 →
      (∀ source dest amount, source ≠ dest →
        TransferConserves config blockNumber b
          (doTransfer config blockNumber b cid source dest amount).1 cid source dest
          (discarded config blockNumber b cid source dest amount)) ∧
      (∀ who amount, (issue config blockNumber b cid who amount).2 = .ok () →
        IssueAdds config blockNumber b (issue config blockNumber b cid who amount).1 cid who
          amount) ∧
      ∀ who amount, (burn config blockNumber b cid who amount).2 = .ok () →
        BurnSubtracts config blockNumber b (burn config blockNumber b cid who amount).1 cid who
          amount) ∧
    (config.exp 0 = some one →
      ∀ (s : Runtime AccountId) (cid : CommunityIdentifier) (calls : List (Call AccountId)),
        demurrage config s.balances cid = 0 →
        sumOfBalances config s.blockNumber s.balances cid =
          totalIssuance config s.blockNumber s.balances cid →
        totalIssuance config s.blockNumber s.balances cid < 2 ^ 128 →
        let s' := Machine.run (callStep config) s calls
        sumOfBalances config s'.blockNumber s'.balances cid +
            Machine.tally (callStep config) (discardedBy config cid) s calls =
          totalIssuance config s'.blockNumber s'.balances cid) := by
  constructor
  · intro blockNumber b cid hcovered hbounded
    refine ⟨?_, ?_, ?_⟩
    · intro source dest amount hne
      have hle := balance_add_le_sumOfBalances config blockNumber b cid hne
      exact doTransfer_conserves hne (by omega)
    · intro who amount hissue
      exact issue_adds ((balance_le_sumOfBalances config blockNumber b cid who).trans hcovered)
        hissue
    · intro who amount hburn
      exact burn_subtracts
        ((balance_le_sumOfBalances config blockNumber b cid who).trans hcovered) hburn
  · intro hexp s cid calls hdemurrage hsum hbounded s'
    have hstart : Conserved config cid s.blockNumber s.balances 0 := ⟨hdemurrage, hsum, hbounded⟩
    have hrun : Conserved config cid s'.blockNumber s'.balances
        (0 + Machine.tally (callStep config) (discardedBy config cid) s calls) :=
      Machine.tally_invariant (fun _ _ => True) (discardedBy config cid)
        (fun s dust => Conserved config cid s.blockNumber s.balances dust)
        (fun _ call _ h _ => h.callStep hexp call) hstart
        (.of_prefixes (fun _ => True) (fun _ _ _ _ => trivial) fun _ _ => trivial)
    rw [Nat.zero_add] at hrun
    exact hrun.sum

end Balances

/-! ## Dust of a transfer -/

namespace Demo

/-- Accounts fall below the existential deposit with less than ten. -/
def depositConfig : Config Nat := { runtimeConfig with existentialDeposit := 10 }

/-- The account keeps five of its hundred, and these are dropped. -/
def transfersWithDust : List (Balances.Call Nat) :=
  [.issue islanders 1 100, .nextBlock, .transfer 1 2 islanders 95]

end Demo

theorem Balances.balance_conservation_dust :
    let s := Machine.run (Balances.callStep Demo.depositConfig) Demo.start.runtime
      Demo.transfersWithDust
    Balances.sumOfBalances Demo.depositConfig 1 s.balances Demo.islanders = 95 ∧
      Balances.totalIssuance Demo.depositConfig 1 s.balances Demo.islanders = 100 ∧
      Balances.sumOfBalances Demo.depositConfig s.blockNumber s.balances Demo.islanders +
          Machine.tally (Balances.callStep Demo.depositConfig)
            (Balances.discardedBy Demo.depositConfig Demo.islanders) Demo.start.runtime
            Demo.transfersWithDust =
        Balances.totalIssuance Demo.depositConfig s.blockNumber s.balances Demo.islanders ∧
      Balances.TransferConserves Demo.depositConfig s.blockNumber s.balances
        (Balances.doTransfer Demo.depositConfig s.blockNumber s.balances Demo.islanders 2 1 50).1
        Demo.islanders 2 1
        (Balances.discarded Demo.depositConfig s.blockNumber s.balances Demo.islanders 2 1 50) :=
  ⟨by decide +kernel, by decide +kernel,
    (Balances.balance_conservation Demo.depositConfig).2 (by decide +kernel) Demo.start.runtime
      Demo.islanders Demo.transfersWithDust (by decide +kernel) (by decide +kernel)
      (by decide +kernel),
    ((Balances.balance_conservation Demo.depositConfig).1 _ _ _ (by decide +kernel)
      (by decide +kernel)).1 2 1 50 (by decide)⟩

end Encointer
