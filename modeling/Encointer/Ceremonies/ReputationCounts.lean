import Encointer.Ceremonies.LinkInvariant

/-!
# Reputations and their counts

The accounts with a verified reputation from a ceremony change only when rewards
are claimed and when its history is purged, and the counts change with them.
-/

namespace Encointer

open Ceremonies

variable {AccountId : Type} [DecidableEq AccountId] {config : Config AccountId}

/-! ## Verified accounts -/

namespace Ceremonies

def verifiedAccounts (c : CeremoniesStorage AccountId) (cc : CommunityCeremony) :
    Finset AccountId :=
  (c.participantReputation.support.filter fun k =>
    k.1 = cc ∧ (participantReputation c k.1 k.2).isVerified = true).image Prod.snd

theorem mem_verifiedAccounts {c : CeremoniesStorage AccountId} {cc : CommunityCeremony}
    {a : AccountId} :
    a ∈ verifiedAccounts c cc ↔ (participantReputation c cc a).isVerified = true := by
  rw [verifiedAccounts, Finset.mem_image]
  constructor
  · intro h
    obtain ⟨k, hk, rfl⟩ := h
    obtain ⟨-, rfl, hverified⟩ := Finset.mem_filter.1 hk
    exact hverified
  · intro hverified
    refine ⟨(cc, a), Finset.mem_filter.2 ⟨?_, rfl, hverified⟩, rfl⟩
    rw [StorageMap.mem_support]
    cases hlookup : c.participantReputation.lookup (cc, a) with
    | some reputation => exact ⟨reputation, rfl⟩
    | none =>
        rw [participantReputation, StorageMap.get_of_lookup_none hlookup] at hverified
        cases hverified

theorem verifiedAccounts_congr {c c' : CeremoniesStorage AccountId} {cc : CommunityCeremony}
    (h : ∀ a, (participantReputation c' cc a).isVerified = (participantReputation c cc a).isVerified) :
    verifiedAccounts c' cc = verifiedAccounts c cc := by
  ext a
  rw [mem_verifiedAccounts, mem_verifiedAccounts, h]

theorem verifiedAccounts_eq_empty {c : CeremoniesStorage AccountId} {cc : CommunityCeremony}
    (h : ∀ a, c.participantReputation.lookup (cc, a) = none) : verifiedAccounts c cc = ∅ := by
  apply Finset.eq_empty_of_forall_notMem
  intro a hmem
  rw [mem_verifiedAccounts, participantReputation, StorageMap.get_of_lookup_none (h a)] at hmem
  cases hmem

end Ceremonies

/-! ## What effects do to communities and histories -/

def Effect.purged : Effect AccountId → Option CommunityCeremony
  | .purge cc => some cc
  | _ => none

def Effect.founded : Effect AccountId → Option CommunityIdentifier
  | .newCommunity cid => some cid
  | _ => none

def Effect.removed : Effect AccountId → Option CommunityIdentifier
  | .removeCommunity cid => some cid
  | _ => none

theorem ite_mem_append {α β : Type} (a : α) (xs ys : List α) (x y : β)
    [Decidable (a ∈ xs ++ ys)] [Decidable (a ∈ xs)] [Decidable (a ∈ ys)] :
    (if a ∈ xs ++ ys then x else y) = if a ∈ ys then x else if a ∈ xs then x else y := by
  by_cases hys : a ∈ ys <;> by_cases hxs : a ∈ xs <;> simp [hys, hxs]

variable {s s' s'' : Runtime AccountId} {effects effects' : List (Effect AccountId)}

/-- Only attested ceremonies have given reputations. -/
def ReputationsAttested (s : Runtime AccountId) : Prop :=
  ∀ cc, ∀ a ∈ verifiedAccounts s.ceremonies cc, 3 * cc.2 + 2 ≤ s.scheduler.time

/-- Reputations, counts and communities after changes with these effects. -/
structure CountsAfter (s s' : Runtime AccountId) (effects : List (Effect AccountId)) : Prop where
  time : s.scheduler.time ≤ s'.scheduler.time
  verified : ∀ cc, verifiedAccounts s'.ceremonies cc =
    if cc ∈ effects.filterMap Effect.purged then ∅ else verifiedAccounts s.ceremonies cc
  reputationCount : ∀ cc, s'.ceremonies.reputationCount.get cc 0 =
    if cc ∈ effects.filterMap Effect.purged then 0 else s.ceremonies.reputationCount.get cc 0
  globalReputationCount : ∀ c, s'.ceremonies.globalReputationCount.get c 0 =
    if c ∈ (effects.filterMap Effect.purged).map Prod.snd then 0
    else s.ceremonies.globalReputationCount.get c 0
  founded : ∀ cid ∈ s'.communities.communityIdentifiers,
    cid ∈ s.communities.communityIdentifiers ∨ cid ∈ effects.filterMap Effect.founded
  removed : ∀ cid ∈ s.communities.communityIdentifiers,
    cid ∈ s'.communities.communityIdentifiers ∨ cid ∈ effects.filterMap Effect.removed
  lifetime : s'.ceremonies.reputationLifetime = s.ceremonies.reputationLifetime ∨
    .setReputationLifetime s'.ceremonies.reputationLifetime ∈ effects

namespace CountsAfter

theorem refl (s : Runtime AccountId) : CountsAfter s s [] where
  time := le_rfl
  verified := by
    intro cc
    rfl
  reputationCount := by
    intro cc
    rfl
  globalReputationCount := by
    intro c
    rfl
  founded := by
    intro cid hmem
    exact Or.inl hmem
  removed := by
    intro cid hmem
    exact Or.inl hmem
  lifetime := Or.inl rfl

theorem trans (h : CountsAfter s s' effects) (h' : CountsAfter s' s'' effects') :
    CountsAfter s s'' (effects ++ effects') where
  time := h.time.trans h'.time
  verified := by
    intro cc
    rw [h'.verified, h.verified, List.filterMap_append, ite_mem_append]
  reputationCount := by
    intro cc
    rw [h'.reputationCount, h.reputationCount, List.filterMap_append, ite_mem_append]
  globalReputationCount := by
    intro c
    rw [h'.globalReputationCount, h.globalReputationCount, List.filterMap_append, List.map_append,
      ite_mem_append]
  founded := by
    intro cid hmem
    rw [List.filterMap_append, List.mem_append]
    rcases h'.founded cid hmem with hbefore | hnew
    · rcases h.founded cid hbefore with hold | hnew
      · exact Or.inl hold
      · exact Or.inr (Or.inl hnew)
    · exact Or.inr (Or.inr hnew)
  removed := by
    intro cid hmem
    rw [List.filterMap_append, List.mem_append]
    rcases h.removed cid hmem with hafter | hgone
    · rcases h'.removed cid hafter with hkept | hgone
      · exact Or.inl hkept
      · exact Or.inr (Or.inr hgone)
    · exact Or.inr (Or.inl hgone)
  lifetime := by
    rcases h'.lifetime with hsame | hset
    · rw [hsame]
      rcases h.lifetime with hsame' | hset
      · exact Or.inl hsame'
      · exact Or.inr (List.mem_append_left _ hset)
    · exact Or.inr (List.mem_append_right _ hset)

theorem of_unpurged (htime : s.scheduler.time ≤ s'.scheduler.time)
    (hreputation : ∀ cc a, (participantReputation s'.ceremonies cc a).isVerified =
      (participantReputation s.ceremonies cc a).isVerified)
    (hcount : s'.ceremonies.reputationCount = s.ceremonies.reputationCount)
    (hglobal : s'.ceremonies.globalReputationCount = s.ceremonies.globalReputationCount)
    (hpurged : effects.filterMap Effect.purged = [])
    (founded : ∀ cid ∈ s'.communities.communityIdentifiers,
      cid ∈ s.communities.communityIdentifiers ∨ cid ∈ effects.filterMap Effect.founded)
    (removed : ∀ cid ∈ s.communities.communityIdentifiers,
      cid ∈ s'.communities.communityIdentifiers ∨ cid ∈ effects.filterMap Effect.removed)
    (lifetime : s'.ceremonies.reputationLifetime = s.ceremonies.reputationLifetime ∨
      .setReputationLifetime s'.ceremonies.reputationLifetime ∈ effects) :
    CountsAfter s s' effects where
  time := htime
  verified := by
    intro cc
    rw [hpurged, if_neg List.not_mem_nil]
    exact verifiedAccounts_congr (hreputation cc)
  reputationCount := by
    intro cc
    rw [hpurged, if_neg List.not_mem_nil, hcount]
  globalReputationCount := by
    intro c
    rw [hpurged, List.map_nil, if_neg List.not_mem_nil, hglobal]
  founded := founded
  removed := removed
  lifetime := lifetime

theorem of_same (htime : s.scheduler.time ≤ s'.scheduler.time)
    (hcommunities : s'.communities.communityIdentifiers = s.communities.communityIdentifiers)
    (hreputation : ∀ cc a, (participantReputation s'.ceremonies cc a).isVerified =
      (participantReputation s.ceremonies cc a).isVerified)
    (hcount : s'.ceremonies.reputationCount = s.ceremonies.reputationCount)
    (hglobal : s'.ceremonies.globalReputationCount = s.ceremonies.globalReputationCount)
    (hlifetime : s'.ceremonies.reputationLifetime = s.ceremonies.reputationLifetime)
    (hpurged : effects.filterMap Effect.purged = []) : CountsAfter s s' effects := by
  apply of_unpurged htime hreputation hcount hglobal hpurged
  · intro cid hmem
    exact Or.inl (hcommunities ▸ hmem)
  · intro cid hmem
    exact Or.inl (hcommunities.symm ▸ hmem)
  · exact Or.inl hlifetime

theorem attested (h : CountsAfter s s' effects) (hattested : ReputationsAttested s) :
    ReputationsAttested s' := by
  intro cc a hmem
  rw [h.verified] at hmem
  split at hmem
  · exact absurd hmem (Finset.notMem_empty a)
  · exact (hattested cc a hmem).trans h.time

end CountsAfter

/-- There are no reputations from a ceremony that participants can still register for. -/
theorem ReputationsAttested.not_verified (h : ReputationsAttested s) (cc : CommunityCeremony)
    (opened : s.scheduler.RegistrationOpen cc.2) (a : AccountId) :
    (participantReputation s.ceremonies cc a).isVerified = false := by
  by_contra hverified
  rw [Bool.not_eq_false, ← mem_verifiedAccounts] at hverified
  have hattested := h cc a hverified
  have hopen := opened.time_le
  omega

namespace CountsAfter

theorem newCommunity {communities : CommunitiesStorage AccountId}
    {balances : BalancesStorage AccountId} {cid : CommunityIdentifier}
    (hadded : communities.communityIdentifiers = s.communities.communityIdentifiers ++ [cid]) :
    CountsAfter s { s with communities := communities, balances := balances }
      [.newCommunity cid] := by
  refine .of_unpurged le_rfl (fun _ _ => rfl) rfl rfl rfl ?_ ?_ (Or.inl rfl)
  · intro cid' hmem
    rw [hadded, List.mem_append] at hmem
    exact hmem
  · intro cid' hmem
    rw [hadded]
    exact Or.inl (List.mem_append_left _ hmem)

theorem removeCommunity (s : Runtime AccountId) (cid : CommunityIdentifier) :
    CountsAfter s { s with communities := Communities.removeCommunity s.communities cid }
      [.removeCommunity cid] := by
  refine .of_unpurged le_rfl (fun _ _ => rfl) rfl rfl rfl ?_ ?_ (Or.inl rfl)
  · intro cid' hmem
    simp only [Communities.removeCommunity_communityIdentifiers, List.mem_filter] at hmem
    exact Or.inl hmem.1
  · intro cid' hmem
    simp only [Communities.removeCommunity_communityIdentifiers, List.mem_filter]
    by_cases hcid : cid' = cid
    · exact Or.inr (List.mem_singleton.2 hcid)
    · exact Or.inl ⟨hmem, by simp [hcid]⟩

/-- Linking turns no verified reputation into another one, or back. -/
theorem link {cid : CommunityIdentifier} {cindex : Nat} {sender : AccountId}
    {p : ProofOfAttendance AccountId} {ceremonies : CeremoniesStorage AccountId}
    (hattested : ReputationsAttested s) (opened : s.scheduler.RegistrationOpen cindex)
    (linked : linkReputation config s cid cindex sender p = .ok ceremonies)
    (hpurged : effects.filterMap Effect.purged = []) :
    CountsAfter s { s with ceremonies := ceremonies } effects := by
  obtain ⟨-, hunlinked, rfl⟩ := linkReputation_spec linked
  refine .of_same le_rfl rfl ?_ rfl rfl rfl hpurged
  intro cc a
  have hnew : (participantReputation s.ceremonies (cid, cindex) sender).isVerified = false :=
    hattested.not_verified (cid, cindex) opened sender
  have hold := Reputation.isVerified_of_unlinkedForCindex hunlinked
  simp only [participantReputation, StorageMap.get_insert] at hnew hold ⊢
  split
  · rename_i hkey
    rw [hkey, hnew]
    rfl
  · split
    · rename_i hkey
      rw [hkey]
      exact hold.symm
    · rfl

theorem unlink {cid : CommunityIdentifier} {cindex : Nat} {sender : AccountId}
    {cc' : CommunityCeremony} {ceremonies : CeremoniesStorage AccountId}
    (hattested : ReputationsAttested s) (opened : s.scheduler.RegistrationOpen cindex)
    (unlinked : unlinkReputation s cid cindex sender cc' = .ok ceremonies)
    (hpurged : effects.filterMap Effect.purged = []) :
    CountsAfter s { s with ceremonies := ceremonies } effects := by
  obtain ⟨hlinked, rfl⟩ := unlinkReputation_spec unlinked
  refine .of_same le_rfl rfl ?_ rfl rfl rfl hpurged
  intro cc a
  have hnew : (participantReputation s.ceremonies (cid, cindex) sender).isVerified = false :=
    hattested.not_verified (cid, cindex) opened sender
  simp only [participantReputation, StorageMap.get_insert, StorageMap.get_erase] at hnew hlinked ⊢
  split
  · rename_i hkey
    rw [hkey, hnew]
    rfl
  · split
    · rename_i hkey
      rw [hkey, hlinked]
      rfl
    · rfl

/-- A purge leaves no verified reputation of the ceremony. -/
theorem purge (s : Runtime AccountId) (cc' : CommunityCeremony) :
    CountsAfter s
      { s with ceremonies := purgeCommunityCeremonyInternal s.ceremonies cc' } [.purge cc'] := by
  constructor
  · exact le_rfl
  · intro cc
    by_cases hcc : cc = cc'
    · subst hcc
      rw [if_pos (by simp [Effect.purged])]
      apply verifiedAccounts_eq_empty
      intro a
      rw [purgeCommunityCeremonyInternal, StorageMap.lookup_removePrefix, if_pos rfl]
    · rw [if_neg (by simpa [Effect.purged] using hcc)]
      apply verifiedAccounts_congr
      intro a
      rw [participantReputation, purgeCommunityCeremonyInternal, StorageMap.get_removePrefix,
        if_neg hcc]
      rfl
  · intro cc
    simp [purgeCommunityCeremonyInternal, StorageMap.get_erase, Effect.purged]
  · intro c
    simp [purgeCommunityCeremonyInternal, StorageMap.get_erase, Effect.purged]
  · intro cid hmem
    exact Or.inl hmem
  · intro cid hmem
    exact Or.inl hmem
  · exact Or.inl rfl

end CountsAfter

theorem Change.counts (hattested : ReputationsAttested s) (h : Change config s effects s') :
    CountsAfter s s' effects := by
  cases h with
  | clock now blockNumber scheduler advances =>
      exact .of_same advances rfl (fun _ _ => rfl) rfl rfl rfl rfl
  | communities communities changed =>
      exact .of_same le_rfl changed.communityIdentifiers (fun _ _ => rfl) rfl rfl rfl rfl
  | newCommunity location bootstrappers metadata demurrage nominalIncome communities balances cid
      identifier created =>
      apply CountsAfter.newCommunity
      obtain ⟨cid', hidentifier, -, hadded⟩ := Communities.newCommunity_spec created
      rw [identifier, Option.some.injEq] at hidentifier
      rw [hadded, hidentifier]
  | removeCommunity cid => exact .removeCommunity s cid
  | parameters ceremonies same =>
      refine CountsAfter.of_same le_rfl rfl ?_ same.reputationCount
        same.globalReputationCount same.reputationLifetime rfl
      intro cc a
      rw [participantReputation, same.participantReputation]
      rfl
  | attest sender cid vote attestations ceremonies attested =>
      obtain ⟨same, lifetime⟩ := attestAttendees_spec attested
      refine CountsAfter.of_same le_rfl rfl ?_ same.reputationCount
        same.globalReputationCount lifetime rfl
      intro cc a
      rw [participantReputation, same.participantReputation]
      rfl
  | setReputationLifetime reputationLifetime =>
      exact .of_unpurged le_rfl (fun _ _ => rfl) rfl rfl rfl (fun _ hmem => Or.inl hmem)
        (fun _ hmem => Or.inl hmem) (Or.inr (List.mem_singleton.2 rfl))
  | add participantType cc participant r opened free added =>
      cases participantType <;> exact .of_same le_rfl rfl (fun _ _ => rfl) rfl rfl rfl rfl
  | remove participantType cc participant opened registered =>
      cases participantType <;> exact .of_same le_rfl rfl (fun _ _ => rfl) rfl rfl rfl rfl
  | link cid cindex sender p ceremonies opened linked => exact .link hattested opened linked rfl
  | unlink cid cindex sender cc' ceremonies opened unlinked =>
      exact .unlink hattested opened unlinked rfl
  | purge cc' => exact .purge s cc'
  | assign cid ceremonies random random' assigning registered assigned =>
      rcases generateMeetupAssignmentParams_spec assigned with rfl | ⟨_, _, _, -, -, -, rfl⟩
      · exact .of_same le_rfl rfl (fun _ _ => rfl) rfl rfl rfl rfl
      · exact .of_same le_rfl rfl (fun _ _ => rfl) rfl rfl rfl rfl
  | _ => exact .of_same le_rfl rfl (fun _ _ => rfl) rfl rfl rfl rfl

theorem Changes.counts (hattested : ReputationsAttested s) (h : Changes config s effects s') :
    CountsAfter s s' effects := by
  induction h with
  | refl => exact CountsAfter.refl s
  | tail _ hchange ih => exact ih.trans (hchange.counts (ih.attested hattested))

/-! ## Claims -/

namespace Ceremonies.ClaimEffect

variable {claim : Claim AccountId} {participants : List AccountId}

theorem verifiedAccounts (h : ClaimEffect s claim participants) (cc : CommunityCeremony) :
    Ceremonies.verifiedAccounts claim.ceremonies cc =
      if cc = claim.cc then Ceremonies.verifiedAccounts s.ceremonies cc ∪ claim.credited.toFinset
      else Ceremonies.verifiedAccounts s.ceremonies cc := by
  have hreputation (a : AccountId) : Ceremonies.participantReputation claim.ceremonies cc a =
      if cc = claim.cc ∧ a ∈ claim.credited then .verifiedUnlinked
      else Ceremonies.participantReputation s.ceremonies cc a := by
    unfold Ceremonies.participantReputation StorageMap.get
    rw [h.participantReputation]
    split <;> rfl
  split
  · rename_i hcc
    ext a
    rw [Finset.mem_union, mem_verifiedAccounts, mem_verifiedAccounts, List.mem_toFinset,
      hreputation]
    by_cases ha : a ∈ claim.credited
    · rw [if_pos ⟨hcc, ha⟩]
      exact iff_of_true rfl (Or.inr ha)
    · rw [if_neg fun hkey => ha hkey.2]
      exact (or_iff_left ha).symm
  · rename_i hcc
    apply verifiedAccounts_congr
    intro a
    rw [hreputation, if_neg fun hkey => hcc hkey.1]

theorem attestedReputations (hinv : CeremoniesInvariant s) (h : ClaimEffect s claim participants)
    (hattested : ReputationsAttested s)
    (hs : s' = { s with ceremonies := claim.ceremonies, balances := claim.balances }) :
    ReputationsAttested s' := by
  subst hs
  intro cc a hmem
  simp only [h.verifiedAccounts] at hmem
  split at hmem
  · rename_i hcc
    rw [hcc]
    exact (h.attested hinv).1
  · exact hattested cc a hmem

end Ceremonies.ClaimEffect

/-! ## Every run -/

/-- What holds without a bound on the number of participants. -/
structure ReputationInvariant (s : Runtime AccountId) : Prop where
  ceremonies : CeremoniesInvariant s
  attested : ReputationsAttested s
  covered : ∀ cc, (verifiedAccounts s.ceremonies cc).card ≤ s.ceremonies.reputationCount.get cc 0

namespace ReputationInvariant

theorem genesis (genesis : GenesisConfig) (nativeBalances : StorageMap AccountId Nat)
    (assetBalances : StorageMap (AccountId × AssetKind) Nat) :
    ReputationInvariant (genesis.build nativeBalances assetBalances) := by
  have hempty (cc : CommunityCeremony) :
      verifiedAccounts (genesis.build nativeBalances assetBalances).ceremonies cc = ∅ :=
    verifiedAccounts_eq_empty fun _ => StorageMap.lookup_empty _
  constructor
  · exact CeremoniesInvariant.genesis genesis nativeBalances assetBalances
  · intro cc a hmem
    rw [hempty] at hmem
    exact absurd hmem (Finset.notMem_empty a)
  · intro cc
    rw [hempty]
    exact Nat.zero_le _

theorem changes (hinv : ReputationInvariant s) (h : Changes config s effects s') :
    ReputationInvariant s' := by
  have hcounts := h.counts hinv.attested
  constructor
  · exact (RewardInvariant.changes hinv.ceremonies h).1
  · exact hcounts.attested hinv.attested
  · intro cc
    rw [hcounts.verified, hcounts.reputationCount]
    split
    · exact Nat.zero_le _
    · exact hinv.covered cc

theorem claim (hinv : ReputationInvariant s) {claim : Claim AccountId}
    {participants : List AccountId} (heffect : ClaimEffect s claim participants)
    (hs : s' = { s with ceremonies := claim.ceremonies, balances := claim.balances }) :
    ReputationInvariant s' := by
  constructor
  · exact hinv.ceremonies.claim heffect hs
  · exact heffect.attestedReputations hinv.ceremonies hinv.attested hs
  · intro cc
    subst hs
    simp only [heffect.verifiedAccounts, heffect.reputationCount]
    have hcovered := hinv.covered cc
    split
    · have hunion := Finset.card_union_le (verifiedAccounts s.ceremonies cc) claim.credited.toFinset
      have hcredited := claim.credited.toFinset_card_le
      omega
    · exact hcovered

theorem step {chain : Chain AccountId} (action : Action AccountId)
    (hinv : ReputationInvariant chain.runtime) :
    ReputationInvariant (chain.step config action).runtime := by
  obtain ⟨observations, -, hcases⟩ := Chain.step_cases config action hinv.ceremonies.registry
  rcases hcases with ⟨claim, participants, hclaims⟩ | ⟨effects, -, hchanges⟩ | ⟨hsame, -⟩
  · exact hinv.claim hclaims.effect hclaims.runtime
  · exact hinv.changes hchanges
  · rw [hsame]
    exact hinv

end ReputationInvariant

end Encointer
