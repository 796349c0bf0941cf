import Encointer.Balances.Conservation

/-!
# References to accounts

An account keeps one sufficient reference for each community in which it has an
entry. Transfers and issuance write entries of new accounts together with their
references; a burning, the removal of a community and the fungibles interface
write and remove entries alone.
-/

namespace Encointer

namespace Balances

variable {AccountId : Type} [DecidableEq AccountId] {config : Config AccountId}
  {blockNumber : Nat} {b b' : BalancesStorage AccountId} {cid : CommunityIdentifier}
  {source dest who : AccountId} {amount : Nat}

def communitiesOf (b : BalancesStorage AccountId) (who : AccountId) :
    Finset CommunityIdentifier :=
  (b.balance.support.filter fun k => k.2 = who).image Prod.fst

/-- The references count the entries of each account. -/
def Referenced (b : BalancesStorage AccountId) : Prop :=
  ∀ who, b.sufficients.get who 0 = (communitiesOf b who).card

theorem mem_communitiesOf :
    cid ∈ communitiesOf b who ↔ b.balance.contains (cid, who) = true := by
  simp only [communitiesOf, Finset.mem_image, Finset.mem_filter, StorageMap.mem_support,
    StorageMap.contains_eq_true]
  constructor
  · rintro ⟨⟨cid', who'⟩, ⟨hentry, rfl⟩, rfl⟩
    exact hentry
  · intro hentry
    exact ⟨(cid, who), ⟨hentry, rfl⟩, rfl⟩

/-! ## Writes -/

theorem communitiesOf_insert {entry : BalanceEntry}
    (h : b'.balance = b.balance.insert (cid, who) entry) (a : AccountId) :
    communitiesOf b' a = if a = who then insert cid (communitiesOf b a) else communitiesOf b a := by
  ext cid'
  rw [mem_communitiesOf, h, StorageMap.contains_insert]
  by_cases ha : a = who
  · simp [ha, mem_communitiesOf]
  · simp [ha, mem_communitiesOf]

theorem communitiesOf_erase (h : b'.balance = b.balance.erase (cid, who)) (a : AccountId) :
    communitiesOf b' a =
      if a = who then (communitiesOf b a).erase cid else communitiesOf b a := by
  ext cid'
  rw [mem_communitiesOf, h, StorageMap.contains, StorageMap.lookup_erase_eq]
  by_cases ha : a = who
  · by_cases hcid : cid' = cid
    · simp [ha, hcid]
    · simp [ha, hcid, mem_communitiesOf, StorageMap.contains]
  · simp [ha, mem_communitiesOf, StorageMap.contains]

theorem communitiesOf_congr (h : b'.balance = b.balance) (a : AccountId) :
    communitiesOf b' a = communitiesOf b a := by
  rw [communitiesOf, h, communitiesOf]

theorem referenced_insert_iff {entry : BalanceEntry} (hinv : Referenced b)
    (hbalance : b'.balance = b.balance.insert (cid, who) entry)
    (hsufficients : b'.sufficients = b.sufficients) :
    Referenced b' ↔ b.balance.contains (cid, who) = true := by
  rw [← mem_communitiesOf]
  constructor
  · intro h
    by_contra hnew
    have hafter := h who
    rw [communitiesOf_insert hbalance, if_pos rfl, Finset.card_insert_of_notMem hnew, hsufficients,
      hinv who] at hafter
    omega
  · intro hentry a
    rw [communitiesOf_insert hbalance, hsufficients, hinv a]
    split
    · rename_i ha
      subst ha
      rw [Finset.insert_eq_of_mem hentry]
    · rfl

theorem referenced_insert {entry : BalanceEntry} (hinv : Referenced b)
    (hentry : b.balance.contains (cid, who) = true)
    (hbalance : b'.balance = b.balance.insert (cid, who) entry)
    (hsufficients : b'.sufficients = b.sufficients) : Referenced b' :=
  (referenced_insert_iff hinv hbalance hsufficients).2 hentry

theorem referenced_insert_withAccount {entry : BalanceEntry} (hinv : Referenced b)
    (hbalance : b'.balance = b.balance.insert (cid, who) entry)
    (hsufficients : b'.sufficients = (withAccount b cid who).sufficients) : Referenced b' := by
  unfold withAccount at hsufficients
  split at hsufficients
  · rename_i hentry
    exact referenced_insert hinv hentry hbalance hsufficients
  · rename_i hnew
    intro a
    rw [← mem_communitiesOf] at hnew
    rw [communitiesOf_insert hbalance, hsufficients, newAccount, StorageMap.get_insert]
    split
    · rename_i ha
      subst ha
      rw [Finset.card_insert_of_notMem hnew, hinv]
    · exact hinv a

private theorem referenced_erase (hinv : Referenced b)
    (hentry : b.balance.contains (cid, who) = true)
    (hbalance : b'.balance = b.balance.erase (cid, who))
    (hsufficients : b'.sufficients =
      b.sufficients.insert who (b.sufficients.get who 0 - 1)) : Referenced b' := by
  intro a
  rw [communitiesOf_erase hbalance, hsufficients, StorageMap.get_insert]
  split
  · rename_i ha
    subst ha
    rw [Finset.card_erase_of_mem (mem_communitiesOf.2 hentry), hinv]
  · exact hinv a

/-! ## Operations -/

private theorem moved_referenced (hne : source ≠ dest)
    (hsource : b.balance.contains (cid, source) = true) (hinv : Referenced b) :
    Referenced (moved config blockNumber b cid source dest amount) := by
  -- first the entry of the source, then that of the target with its account
  have hfirst : Referenced { b with balance := (b.balance.insert (cid, source)
      ⟨balance config blockNumber b cid source - amount, blockNumber⟩) } :=
    referenced_insert hinv hsource rfl rfl
  have hdest : (b.balance.insert (cid, source)
      ⟨balance config blockNumber b cid source - amount, blockNumber⟩).contains (cid, dest) =
      b.balance.contains (cid, dest) := by
    rw [StorageMap.contains_insert]
    simp [hne.symm]
  have haccount : (withAccount { b with balance := (b.balance.insert (cid, source)
      ⟨balance config blockNumber b cid source - amount, blockNumber⟩) } cid dest).sufficients =
      (withAccount b cid dest).sufficients := by
    unfold withAccount
    simp only [hdest]
    split <;> rfl
  have hsecond : Referenced { withAccount b cid dest with
      balance := movedEntries config blockNumber b cid source dest amount } :=
    referenced_insert_withAccount hfirst rfl haccount.symm
  unfold moved
  simp only
  split
  · refine referenced_erase hsecond ?_ rfl rfl
    simp [movedEntries, StorageMap.contains_insert]
  · exact hsecond

theorem doTransfer_referenced (hinv : Referenced b) :
    Referenced (doTransfer config blockNumber b cid source dest amount).1 := by
  have htransfers := doTransfer_transfers config blockNumber b cid source dest amount
  generalize (doTransfer config blockNumber b cid source dest amount).1 = b' at *
  generalize (doTransfer config blockNumber b cid source dest amount).2 = result at htransfers
  cases htransfers with
  | fails e => exact hinv
  | nothing zero => exact hinv
  | self same exists_source => exact referenced_insert hinv exists_source rfl rfl
  | other different exists_source covered => exact moved_referenced different exists_source hinv

/-- A failing issuance to a new account leaves a reference behind. -/
theorem issue_referenced_iff (hinv : Referenced b) :
    Referenced (issue config blockNumber b cid who amount).1 ↔
      b.balance.contains (cid, who) = true ∨
        totalIssuance config blockNumber b cid + amount < 2 ^ 128 := by
  rw [issue_eq]
  split
  · rename_i hover
    have hnot : ¬ totalIssuance config blockNumber b cid + amount < 2 ^ 128 := by omega
    simp only [hnot, or_false]
    by_cases hentry : b.balance.contains (cid, who) = true
    · simp [withAccount, hentry, hinv]
    · simp only [withAccount, hentry, Bool.false_eq_true, if_false, iff_false]
      intro h
      have hafter := h who
      have hsame : communitiesOf (newAccount b who) who = communitiesOf b who :=
        communitiesOf_congr rfl who
      rw [hsame, newAccount, StorageMap.get_insert, if_pos rfl, hinv who] at hafter
      omega
  · rename_i hfits
    have hfits' := Nat.lt_of_not_le hfits
    simp only [hfits', or_true, iff_true]
    exact referenced_insert_withAccount hinv rfl rfl

/-- A burning of nothing writes an entry, without a reference. -/
theorem burn_referenced_iff (hinv : Referenced b) :
    Referenced (burn config blockNumber b cid who amount).1 ↔
      (amount = 0 → b.balance.contains (cid, who) = true) := by
  rw [burn_eq]
  split
  · rename_i hlow
    constructor
    · intro _ hzero
      omega
    · intro _
      exact hinv
  · rename_i hcovered
    apply Iff.trans (b := b.balance.contains (cid, who) = true)
    · exact referenced_insert_iff hinv rfl rfl
    constructor
    · intro hentry _
      exact hentry
    · intro h
      cases hentry : b.balance.contains (cid, who) with
      | true => rfl
      | false =>
          rw [balance_of_lookup_none (StorageMap.contains_eq_false.1 hentry)] at hcovered
          rw [← hentry]
          exact h (by omega)

/-- The references to the accounts of a removed community stay. -/
theorem purgeBalances_referenced_iff (hinv : Referenced b) :
    Referenced (purgeBalances b cid) ↔ ∀ k ∈ b.balance.support, k.1 ≠ cid := by
  have hpurged (a : AccountId) :
      communitiesOf (purgeBalances b cid) a = (communitiesOf b a).erase cid := by
    ext cid'
    rw [mem_communitiesOf, purgeBalances, StorageMap.contains, StorageMap.lookup_removePrefix,
      Finset.mem_erase, mem_communitiesOf, StorageMap.contains]
    by_cases hcid : cid' = cid <;> simp [hcid]
  constructor
  · rintro h ⟨cid', a⟩ hentry hcid
    simp only at hcid
    subst hcid
    have hmem : cid' ∈ communitiesOf b a := by
      rw [mem_communitiesOf, StorageMap.contains_eq_true]
      exact StorageMap.mem_support.1 hentry
    have hafter := h a
    rw [hpurged, Finset.card_erase_of_mem hmem] at hafter
    have hpos := Finset.card_pos.2 ⟨cid', hmem⟩
    have hbefore : (purgeBalances b cid').sufficients.get a 0 = (communitiesOf b a).card := hinv a
    omega
  · intro hnone a
    have hnot : cid ∉ communitiesOf b a := by
      rw [mem_communitiesOf, StorageMap.contains_eq_true]
      intro hentry
      exact hnone (cid, a) (StorageMap.mem_support.2 hentry) rfl
    rw [hpurged, Finset.erase_eq_of_notMem hnot]
    exact hinv a

/-! ## Runs -/

/-- The write does not create an entry, or remove one, without its reference. -/
def KeepsReferences (config : Config AccountId) (s : Runtime AccountId) : Write AccountId → Prop
  | .call (.issue cid who amount) =>
      s.balances.balance.contains (cid, who) = true ∨
        totalIssuance config s.blockNumber s.balances cid + amount < 2 ^ 128
  | .call (.burn cid who amount) => amount = 0 → s.balances.balance.contains (cid, who) = true
  | .purgeBalances cid => ∀ k ∈ s.balances.balance.support, k.1 ≠ cid
  | .writeBalance asset who _ => s.balances.balance.contains (asset, who) = true
  | .call .nextBlock | .call (.transfer ..) | .call (.transferAll ..) => True

instance (config : Config AccountId) (s : Runtime AccountId) :
    ∀ write, Decidable (KeepsReferences config s write)
  | .call (.issue ..) => inferInstanceAs (Decidable (_ ∨ _))
  | .call (.burn ..) => inferInstanceAs (Decidable (_ → _))
  | .purgeBalances cid =>
      inferInstanceAs (Decidable (∀ k ∈ s.balances.balance.support, k.1 ≠ cid))
  | .writeBalance .. => inferInstanceAs (Decidable (_ = _))
  | .call .nextBlock | .call (.transfer ..) | .call (.transferAll ..) =>
      inferInstanceAs (Decidable True)

private theorem writeStep_referenced_iff (config : Config AccountId) (s : Runtime AccountId)
    (write : Write AccountId) (hinv : Referenced s.balances) :
    Referenced (writeStep config s write).balances ↔ KeepsReferences config s write := by
  cases write with
  | call call =>
      cases call with
      | nextBlock => exact iff_of_true hinv trivial
      | transfer sender dest cid amount =>
          rw [writeStep, callStep_transfer]
          exact iff_of_true (doTransfer_referenced hinv) trivial
      | transferAll sender dest cid =>
          rw [writeStep, callStep_transferAll]
          exact iff_of_true (doTransfer_referenced hinv) trivial
      | issue cid who amount => exact issue_referenced_iff hinv
      | burn cid who amount => exact burn_referenced_iff hinv
  | purgeBalances cid => exact purgeBalances_referenced_iff hinv
  | writeBalance asset who amount => exact referenced_insert_iff hinv rfl rfl

/--
From genesis on, the references of each account count its entries in all states of a run, just if
no burning of nothing and no write through the fungibles interface creates an entry, no issuance
to a new account fails, and no community is removed that has entries.
-/
theorem references_count_entries_iff (config : Config AccountId) (genesis : GenesisConfig)
    (nativeBalances : StorageMap AccountId Nat)
    (assetBalances : StorageMap (AccountId × AssetKind) Nat) (writes : List (Write AccountId)) :
    (∀ seen, seen <+: writes → Referenced (Machine.run (writeStep config)
      (genesis.build nativeBalances assetBalances) seen).balances) ↔
      Machine.Along (writeStep config) (KeepsReferences config)
        (genesis.build nativeBalances assetBalances) writes := by
  have hgenesis : Referenced (genesis.build nativeBalances assetBalances).balances := by
    intro who
    rfl
  exact Machine.Along.iff_prefixes (fun s : Runtime AccountId => Referenced s.balances)
    (fun s write hinv _ => writeStep_referenced_iff config s write hinv) hgenesis
    (.of_prefixes (fun _ => True) (fun _ _ _ _ => trivial) fun _ _ => trivial)

end Balances

/-! ## An entry without a reference -/

/-- Nothing is burned from an account without an entry. -/
theorem Balances.references_miss_entries :
    ¬ Balances.Referenced (Machine.run (Balances.writeStep Demo.runtimeConfig)
      Demo.start.runtime [.call (.burn Demo.islanders 1 0)]).balances := by
  intro h
  exact absurd (h 1) (by decide +kernel)

end Encointer
