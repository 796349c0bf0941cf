import Encointer.Democracy.VoteSpecs

/-!
# Purposes

Purposes are never unregistered, and reputations are committed to registered
purposes only. So nobody has committed anything to a new purpose.
-/

namespace Encointer

variable {AccountId : Type} [DecidableEq AccountId] {config : Config AccountId}
  {s s' : Runtime AccountId}

structure PurposesInvariant (commitments : CommitmentsStorage AccountId) : Prop where
  registered : ∀ purpose, commitments.purposes.contains purpose = true →
    purpose < commitments.currentPurposeId
  committed : ∀ cc purpose account,
    commitments.commitments.contains (cc, (purpose, account)) = true →
      commitments.purposes.contains purpose = true

structure PurposesStep (c c' : CommitmentsStorage AccountId) : Prop where
  current : c.currentPurposeId ≤ c'.currentPurposeId
  kept : ∀ purpose, c.purposes.contains purpose = true → c'.purposes.contains purpose = true
  registered : ∀ purpose, c'.purposes.contains purpose = true →
    c.purposes.contains purpose = true ∨ purpose < c'.currentPurposeId
  committed : ∀ cc purpose account, c'.commitments.contains (cc, (purpose, account)) = true →
    c.commitments.contains (cc, (purpose, account)) = true ∨
      c'.purposes.contains purpose = true

namespace PurposesStep

theorem refl (c : CommitmentsStorage AccountId) : PurposesStep c c where
  current := le_rfl
  kept := fun _ h => h
  registered := fun _ h => Or.inl h
  committed := fun _ _ _ h => Or.inl h

theorem trans {c c' c'' : CommitmentsStorage AccountId} (h : PurposesStep c c')
    (h' : PurposesStep c' c'') : PurposesStep c c'' where
  current := h.current.trans h'.current
  kept := fun purpose hpurpose => h'.kept purpose (h.kept purpose hpurpose)
  registered := by
    intro purpose hpurpose
    rcases h'.registered purpose hpurpose with hbefore | hbelow
    · rcases h.registered purpose hbefore with hold | hbelow
      · exact Or.inl hold
      · exact Or.inr (hbelow.trans_le h'.current)
    · exact Or.inr hbelow
  committed := by
    intro cc purpose account hcommitted
    rcases h'.committed cc purpose account hcommitted with hbefore | hpurpose
    · rcases h.committed cc purpose account hbefore with hold | hpurpose
      · exact Or.inl hold
      · exact Or.inr (h'.kept purpose hpurpose)
    · exact Or.inr hpurpose

theorem invariant {c c' : CommitmentsStorage AccountId} (h : PurposesStep c c')
    (hinv : PurposesInvariant c) : PurposesInvariant c' where
  registered := by
    intro purpose hpurpose
    rcases h.registered purpose hpurpose with hbefore | hbelow
    · exact (hinv.registered purpose hbefore).trans_le h.current
    · exact hbelow
  committed := by
    intro cc purpose account hcommitted
    rcases h.committed cc purpose account hcommitted with hbefore | hpurpose
    · exact h.kept purpose (hinv.committed cc purpose account hbefore)
    · exact hpurpose

end PurposesStep

namespace Commitments

theorem doRegisterPurpose_purposesStep {c c' : CommitmentsStorage AccountId}
    {descriptor : PalletString} {purpose : Nat}
    (h : doRegisterPurpose c descriptor = .ok (c', purpose)) :
    PurposesStep c c' ∧ c'.purposes.contains purpose = true := by
  obtain ⟨hpurpose, hcurrent, hcommitments⟩ := doRegisterPurpose_spec h
  have hpurposes : c'.purposes = c.purposes.insert purpose descriptor := by
    simp only [doRegisterPurpose, bind_eq_ok, ok_inj, Prod.mk.injEq] at h
    obtain ⟨nextId, -, rfl, rfl⟩ := h
    rfl
  have hcontains (p : Nat) :
      c'.purposes.contains p = (decide (p = purpose) || c.purposes.contains p) := by
    rw [hpurposes]
    exact StorageMap.contains_insert _ _ _ _
  constructor
  · constructor
    · omega
    · intro p hp
      rw [hcontains, hp, Bool.or_true]
    · intro p hp
      rw [hcontains, Bool.or_eq_true] at hp
      rcases hp with hnew | hbefore
      · have hp := of_decide_eq_true hnew
        exact Or.inr (by omega)
      · exact Or.inl hbefore
    · intro cc p account hcommitted
      rw [hcommitments] at hcommitted
      exact Or.inl hcommitted
  · rw [hcontains, decide_eq_true rfl, Bool.true_or]

theorem doCommitReputation_purposesStep {account : AccountId} {cid : CommunityIdentifier}
    {cindex purpose : Nat} {commitmentHash : Option (Vector UInt8 32)}
    {c : CommitmentsStorage AccountId}
    (h : doCommitReputation s account cid cindex purpose commitmentHash = .ok c) :
    PurposesStep s.commitments c := by
  simp only [doCommitReputation, bind_eq_ok, ensure_eq_ok, exists_const, ok_inj] at h
  obtain ⟨hregistered, -, -, rfl⟩ := h
  refine ⟨le_rfl, fun _ h => h, fun _ h => Or.inl h, ?_⟩
  intro cc p account' hcommitted
  rw [StorageMap.contains_insert, Bool.or_eq_true] at hcommitted
  rcases hcommitted with hnew | hbefore
  · cases of_decide_eq_true hnew
    exact Or.inr hregistered
  · exact Or.inl hbefore

theorem purgeRegistry_purposesStep (cindex : Nat) :
    PurposesStep s.commitments (purgeRegistry s cindex) := by
  refine ⟨le_rfl, fun _ h => h, fun _ h => Or.inl h, ?_⟩
  intro cc p account hcommitted
  left
  have hfold (cids : List CommunityIdentifier)
      (commitments : StorageMap (CommunityCeremony × (Nat × AccountId)) (Option (Vector UInt8 32)))
      (hcontains : (cids.foldl (fun commitments cid => commitments.removePrefix (cid, cindex))
        commitments).contains (cc, (p, account)) = true) :
      commitments.contains (cc, (p, account)) = true := by
    induction cids generalizing commitments with
    | nil => exact hcontains
    | cons cid cids ih =>
        have hrest := ih _ hcontains
        rw [StorageMap.contains, StorageMap.lookup_removePrefix] at hrest
        split at hrest
        · cases hrest
        · exact hrest
  exact hfold _ _ hcommitted

end Commitments

namespace Democracy

private theorem commitReputations_purposesStep {cindexes : List Nat} {policy : ProposalAccessPolicy}
    {purposeId : Nat} {account : AccountId} {reputations counted : List CommunityCeremony}
    {c c' : CommitmentsStorage AccountId}
    (h : commitReputations s cindexes policy purposeId account reputations c = (c', counted)) :
    PurposesStep c c' := by
  induction reputations generalizing c counted with
  | nil =>
      cases h
      exact .refl _
  | cons cc reputations ih =>
      unfold commitReputations at h
      split at h
      · split at h
        · exact ih h
        · rename_i next hcommit
          simp only at h
          generalize hgen : commitReputations s cindexes policy purposeId account reputations next =
            result at h
          obtain ⟨after, rest⟩ := result
          cases h
          have hfirst := Commitments.doCommitReputation_purposesStep hcommit
          exact hfirst.trans (ih hgen)
      · exact ih h

private theorem vote_purposesStep {sender : AccountId} {proposalId : Nat} {v : Vote}
    {reputations counted : List CommunityCeremony} {c : CommitmentsStorage AccountId}
    {democracy : DemocracyStorage AccountId}
    (h : vote config s sender proposalId v reputations = .ok (c, democracy, counted)) :
    PurposesStep s.commitments c := by
  simp only [vote, validateAndCommitReputations, bind_eq_ok, okOr_eq_ok, ensure_eq_ok,
    exists_const, ok_inj, Prod.mk.injEq] at h
  obtain ⟨-, tally, -, updated, -, ⟨c', counted'⟩, ⟨proposal, -, purposeId, -, hcommit⟩, -,
    democracy', -, rfl, rfl, rfl⟩ := h
  split at hcommit
  · rw [ok_inj] at hcommit
    cases hcommit
    exact .refl _
  · simp only [bind_eq_ok, ok_inj] at hcommit
    obtain ⟨cindexes, -, hcommit⟩ := hcommit
    exact commitReputations_purposesStep hcommit

end Democracy

theorem Change.purposesStep {effects : List (Effect AccountId)} (h : Change config s effects s') :
    PurposesStep s.commitments s'.commitments := by
  cases h with
  | registerPurpose descriptor commitments purpose registered =>
      exact (Commitments.doRegisterPurpose_purposesStep registered).1
  | commit account cid cindex purpose commitmentHash commitments committed =>
      exact Commitments.doCommitReputation_purposesStep committed
  | forgetCommitments cindex gone => exact Commitments.purgeRegistry_purposesStep cindex
  | submit action commitments democracy submitted =>
      obtain ⟨cindexes, purposeId, heffect⟩ := Democracy.submitProposal_spec submitted
      exact (Commitments.doRegisterPurpose_purposesStep heffect.purpose).1
  | vote sender proposalId vote reputations commitments democracy counted voted =>
      exact Democracy.vote_purposesStep voted
  | _ => exact .refl _

theorem Changes.purposesStep {effects : List (Effect AccountId)}
    (h : Changes config s effects s') : PurposesStep s.commitments s'.commitments := by
  induction h with
  | refl => exact .refl _
  | tail _ hchange ih => exact ih.trans hchange.purposesStep

theorem Chain.purposesStep (config : Config AccountId) {chain : Chain AccountId}
    (action : Action AccountId) (hinv : RegistryInvariant chain.runtime.ceremonies.registry) :
    PurposesStep chain.runtime.commitments (chain.step config action).runtime.commitments := by
  obtain ⟨observations, -, hcases⟩ := Chain.step_cases config action hinv
  rcases hcases with ⟨claim, participants, hclaims⟩ | ⟨effects, -, hchanges⟩ | ⟨hsame, -⟩
  · rw [hclaims.runtime]
    exact .refl _
  · exact hchanges.purposesStep
  · rw [hsame]
    exact .refl _

theorem PurposesInvariant.genesis (genesis : GenesisConfig)
    (nativeBalances : StorageMap AccountId Nat)
    (assetBalances : StorageMap (AccountId × AssetKind) Nat) :
    PurposesInvariant (genesis.build nativeBalances assetBalances).commitments where
  registered := by
    intro purpose h
    cases h
  committed := by
    intro cc purpose account h
    cases h

end Encointer
