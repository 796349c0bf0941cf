import Encointer.Runtime.Changes

/-!
# Communities, enactment and the scheduler

What other pallets do to the communities, what the enactment of proposals leaves
as it is, and how the scheduler enters a phase.
-/

namespace Encointer

open Assignment

variable {AccountId : Type} [DecidableEq AccountId] {config : Config AccountId}

/-! ## Communities -/

namespace Communities

variable {communities communities' : CommunitiesStorage AccountId} {cid : CommunityIdentifier}
  {location : Location}

/-- The same communities are registered, with the same metadata. -/
structure SameNames (communities communities' : CommunitiesStorage AccountId) : Prop where
  communityIdentifiers : communities'.communityIdentifiers = communities.communityIdentifiers
  communityMetadata : communities'.communityMetadata = communities.communityMetadata

section

omit [DecidableEq AccountId]

theorem SameNames.refl (communities : CommunitiesStorage AccountId) :
    SameNames communities communities := ⟨rfl, rfl⟩

theorem SameNames.trans {c c' c'' : CommunitiesStorage AccountId} (h : SameNames c c')
    (h' : SameNames c' c'') : SameNames c c'' :=
  ⟨h'.communityIdentifiers.trans h.communityIdentifiers,
    h'.communityMetadata.trans h.communityMetadata⟩

theorem addCidToBucket_sameNames (geoHash : GeoHash) :
    SameNames communities (addCidToBucket config communities geoHash cid).1 := by
  unfold addCidToBucket
  simp only
  split
  · exact .refl communities
  · split
    · exact .refl communities
    · exact ⟨rfl, rfl⟩

private theorem addLocationToBucket_sameNames {geoHash : GeoHash}
    (h : addLocationToBucket config communities cid geoHash location = .ok communities') :
    SameNames communities communities' := by
  unfold addLocationToBucket at h
  simp only at h
  split at h
  · rw [ok_inj] at h
    rw [← h]
    exact .refl communities
  · simp only [ite_eq_ok, error_ne_ok, and_false, false_or, ok_inj] at h
    rw [← h.2]
    exact ⟨rfl, rfl⟩

theorem doAddLocation_sameNames :
    SameNames communities (doAddLocation config communities cid location).1 := by
  unfold doAddLocation
  simp only
  split
  · exact .refl communities
  · rename_i geoHash added h
    simp only [bind_eq_ok, ok_inj, Prod.mk.injEq] at h
    obtain ⟨-, -, -, -, _, -, _, hadd, rfl, rfl⟩ := h
    exact (addLocationToBucket_sameNames hadd).trans (addCidToBucket_sameNames _)

theorem removeCidFromBucket_sameNames (geoHash : GeoHash) :
    SameNames communities (removeCidFromBucket communities geoHash cid) := by
  unfold removeCidFromBucket
  simp only
  split
  · exact .refl communities
  · exact ⟨rfl, rfl⟩

theorem removeLocationIntern_sameNames (geoHash : GeoHash) :
    SameNames communities (removeLocationIntern communities cid location geoHash) := by
  unfold removeLocationIntern
  simp only
  split
  · exact removeCidFromBucket_sameNames geoHash
  · split
    · apply SameNames.trans ?_ (removeCidFromBucket_sameNames geoHash)
      exact ⟨rfl, rfl⟩
    · exact ⟨rfl, rfl⟩

theorem removeLocationsIntern_sameNames (locations : List (GeoHash × Location)) :
    SameNames communities (removeLocationsIntern cid locations communities) := by
  induction locations generalizing communities with
  | nil => exact .refl communities
  | cons entry locations ih => exact (removeLocationIntern_sameNames _).trans ih

theorem removeCommunity_communityIdentifiers :
    (removeCommunity communities cid).communityIdentifiers =
      communities.communityIdentifiers.filter fun x => x ≠ cid := by
  unfold removeCommunity
  simp only [(removeLocationsIntern_sameNames _).communityIdentifiers]

theorem doRemoveLocation_sameNames
    (h : doRemoveLocation config communities cid location = .ok communities') :
    SameNames communities communities' := by
  simp only [doRemoveLocation, bind_eq_ok, ok_inj] at h
  obtain ⟨-, -, geoHash, -, rfl⟩ := h
  exact removeLocationIntern_sameNames geoHash

theorem doUpdateCommunityMetadata_change {metadata : CommunityMetadata}
    (h : doUpdateCommunityMetadata communities cid metadata = .ok communities') :
    CommunityChange config communities communities' := by
  simp only [doUpdateCommunityMetadata, bind_eq_ok, ok_inj] at h
  obtain ⟨-, -, -, -, rfl⟩ := h
  exact .records _ rfl rfl rfl rfl

theorem doUpdateNominalIncome_change {nominalIncome : Nat}
    (h : doUpdateNominalIncome communities cid nominalIncome = .ok communities') :
    CommunityChange config communities communities' := by
  simp only [doUpdateNominalIncome, bind_eq_ok, ok_inj] at h
  obtain ⟨-, -, rfl⟩ := h
  exact .records _ rfl rfl rfl rfl

theorem newCommunity_spec {s : Runtime AccountId} {bootstrappers : List AccountId}
    {metadata : CommunityMetadata} {demurrage : Option Demurrage} {nominalIncome : Option Nat}
    {balances : BalancesStorage AccountId}
    (h : newCommunity config s location bootstrappers metadata demurrage nominalIncome =
      .ok (communities', balances)) :
    ∃ cid, newCommunityIdentifier config location bootstrappers = some cid ∧
      cid ∉ s.communities.communityIdentifiers ∧
      communities'.communityIdentifiers = s.communities.communityIdentifiers ++ [cid] := by
  simp only [newCommunity, bind_eq_ok, ensure_eq_ok, okOr_eq_ok, exists_const, ok_inj,
    Prod.mk.injEq] at h
  obtain ⟨-, -, -, cid, hcid, hnew, -, -, geoHash, -, -, bucketed, hbucket, -, -, -, rfl, -⟩ := h
  refine ⟨cid, hcid, hnew, ?_⟩
  obtain ⟨-, rfl⟩ := transactional_eq_ok.1 hbucket
  rw [(addCidToBucket_sameNames geoHash).communityIdentifiers]

end

end Communities

/-! ## Democracy -/

section

omit [DecidableEq AccountId]

theorem SameStorage.parameters (c : CeremoniesStorage AccountId)
    (ceremonyReward locationTolerance timeTolerance inactivityTimeout
      endorsementTicketsPerBootstrapper endorsementTicketsPerReputable : Nat)
    (meetupTimeOffset : Int) :
    SameStorage c { c with
      ceremonyReward := ceremonyReward
      locationTolerance := locationTolerance
      timeTolerance := timeTolerance
      inactivityTimeout := inactivityTimeout
      endorsementTicketsPerBootstrapper := endorsementTicketsPerBootstrapper
      endorsementTicketsPerReputable := endorsementTicketsPerReputable
      meetupTimeOffset := meetupTimeOffset } :=
  ⟨⟨rfl, rfl, rfl, rfl, rfl, rfl, rfl, rfl⟩, rfl, rfl, rfl, rfl, rfl, rfl, rfl, rfl, rfl, rfl⟩

theorem SameStorage.refl (c : CeremoniesStorage AccountId) : SameStorage c c :=
  ⟨SameRecords.refl c, rfl, rfl, rfl, rfl, rfl, rfl, rfl, rfl, rfl, rfl⟩

theorem CommunityChange.refl (communities : CommunitiesStorage AccountId) :
    CommunityChange config communities communities :=
  .records communities rfl rfl rfl rfl

theorem CommunityChange.communityIdentifiers
    {communities communities' : CommunitiesStorage AccountId}
    (h : CommunityChange config communities communities') :
    communities'.communityIdentifiers = communities.communityIdentifiers := by
  cases h with
  | addLocation cid location => exact Communities.doAddLocation_sameNames.communityIdentifiers
  | removeLocation cid location _ removed =>
      exact (Communities.doRemoveLocation_sameNames removed).communityIdentifiers
  | records _ communityIdentifiers => exact communityIdentifiers

end

/-- What enacting proposals leaves as it is. -/
structure Enacted (s s' : Runtime AccountId) : Prop where
  now : s'.now = s.now
  blockNumber : s'.blockNumber = s.blockNumber
  scheduler : s'.scheduler = s.scheduler
  commitments : s'.commitments = s.commitments
  faucet : s'.faucet = s.faucet
  communityIdentifiers : s'.communities.communityIdentifiers = s.communities.communityIdentifiers
  reputationLifetime : s'.ceremonies.reputationLifetime = s.ceremonies.reputationLifetime

omit [DecidableEq AccountId] in
theorem Enacted.refl (s : Runtime AccountId) : Enacted s s :=
  ⟨rfl, rfl, rfl, rfl, rfl, rfl, rfl⟩

omit [DecidableEq AccountId] in
theorem Enacted.trans {s s' s'' : Runtime AccountId} (h : Enacted s s') (h' : Enacted s' s'') :
    Enacted s s'' where
  now := h'.now.trans h.now
  blockNumber := h'.blockNumber.trans h.blockNumber
  scheduler := h'.scheduler.trans h.scheduler
  commitments := h'.commitments.trans h.commitments
  faucet := h'.faucet.trans h.faucet
  communityIdentifiers := h'.communityIdentifiers.trans h.communityIdentifiers
  reputationLifetime := h'.reputationLifetime.trans h.reputationLifetime

/-- What the action of a proposal may change: communities, balances, treasuries and parameters. -/
structure ActionEnacted (config : Config AccountId) (s s' : Runtime AccountId) : Prop where
  now : s'.now = s.now
  blockNumber : s'.blockNumber = s.blockNumber
  scheduler : s'.scheduler = s.scheduler
  commitments : s'.commitments = s.commitments
  faucet : s'.faucet = s.faucet
  democracy : s'.democracy = s.democracy
  events : s'.events = s.events
  communities : CommunityChange config s.communities s'.communities
  ceremonies : SameStorage s.ceremonies s'.ceremonies

namespace ActionEnacted

variable {s s' : Runtime AccountId}

section

omit [DecidableEq AccountId]

theorem refl (s : Runtime AccountId) : ActionEnacted config s s :=
  ⟨rfl, rfl, rfl, rfl, rfl, rfl, rfl, .refl s.communities, .refl s.ceremonies⟩

theorem of_communities {communities : CommunitiesStorage AccountId}
    (h : CommunityChange config s.communities communities) :
    ActionEnacted config s { s with communities := communities } :=
  ⟨rfl, rfl, rfl, rfl, rfl, rfl, rfl, h, .refl s.ceremonies⟩

theorem of_balances (balances : BalancesStorage AccountId) :
    ActionEnacted config s { s with balances := balances } :=
  ⟨rfl, rfl, rfl, rfl, rfl, rfl, rfl, .refl s.communities, .refl s.ceremonies⟩

theorem of_treasuries (treasuries : TreasuriesStorage AccountId) :
    ActionEnacted config s { s with treasuries := treasuries } :=
  ⟨rfl, rfl, rfl, rfl, rfl, rfl, rfl, .refl s.communities, .refl s.ceremonies⟩

theorem enacted (h : ActionEnacted config s s') : Enacted s s' where
  now := h.now
  blockNumber := h.blockNumber
  scheduler := h.scheduler
  commitments := h.commitments
  faucet := h.faucet
  communityIdentifiers := h.communities.communityIdentifiers
  reputationLifetime := h.ceremonies.reputationLifetime

end

theorem changes (h : ActionEnacted config s s') : Changes config s [] s' := by
  have hbalances : Change config s [] { s with balances := s'.balances } := .balances _
  have hcommunities : Change config { s with balances := s'.balances } []
      { s with balances := s'.balances, communities := s'.communities } :=
    .communities _ h.communities
  have hceremonies : Change config
      { s with balances := s'.balances, communities := s'.communities } []
      { s' with treasuries := s.treasuries } := by
    rw [← h.now, ← h.blockNumber, ← h.scheduler, ← h.commitments, ← h.faucet, ← h.democracy,
      ← h.events]
    exact .parameters s'.ceremonies h.ceremonies
  have htreasuries : Change config { s' with treasuries := s.treasuries } [] s' :=
    .treasuries s'.treasuries
  exact ((hbalances.changes.silent hcommunities).silent hceremonies).silent htreasuries

end ActionEnacted

namespace Democracy

variable {s s' : Runtime AccountId}

omit [DecidableEq AccountId] in
theorem setProposalState_sameBallots {proposalId : Nat} {proposal : Proposal AccountId}
    (h : s.democracy.proposals.lookup proposalId = some proposal) (state : ProposalState) :
    SameBallots s.democracy (setProposalState s proposalId proposal state) where
  purposeIds := rfl
  proposalCount := rfl
  tallies := rfl
  terms := by
    intro id
    rw [setProposalState, StorageMap.lookup_insert_eq]
    split
    · rename_i hid
      rw [hid, h]
      rfl
    · rfl

omit [DecidableEq AccountId] in
theorem doUpdateProposalState_sameBallots {proposalId : Nat} {d : DemocracyStorage AccountId}
    (h : doUpdateProposalState config s proposalId = .ok d) : SameBallots s.democracy d := by
  simp only [doUpdateProposalState, bind_eq_ok, okOr_eq_ok, ensure_eq_ok, exists_const] at h
  obtain ⟨proposal, hproposal, -, h⟩ := h
  have hstate (state : ProposalState) :
      SameBallots s.democracy (setProposalState s proposalId proposal state) :=
    setProposalState_sameBallots hproposal state
  split at h
  · rw [ok_inj] at h
    rw [← h]
    exact hstate _
  · simp only [bind_eq_ok, ok_inj] at h
    obtain ⟨passing, -, rfl⟩ := h
    split
    · exact (hstate _).trans ⟨rfl, rfl, rfl, fun _ => rfl⟩
    · exact hstate _

theorem enactAction_enacted (action : ProposalAction AccountId) :
    ActionEnacted config s (enactAction config s action).1 := by
  cases action with
  | addLocation cid location => exact .of_communities (.addLocation cid location)
  | removeLocation cid location =>
      simp only [enactAction]
      split
      · exact .refl s
      · rename_i communities h
        exact .of_communities (.removeLocation cid location communities h)
  | updateCommunityMetadata cid metadata =>
      simp only [enactAction]
      split
      · exact .refl s
      · rename_i communities h
        exact .of_communities (Communities.doUpdateCommunityMetadata_change h)
  | updateDemurrage cid demurrage =>
      simp only [enactAction]
      split
      · exact .refl s
      · exact .of_balances _
  | updateNominalIncome cid nominalIncome =>
      simp only [enactAction]
      split
      · exact .refl s
      · rename_i communities h
        exact .of_communities (Communities.doUpdateNominalIncome_change h)
  | setInactivityTimeout inactivityTimeout =>
      exact ⟨rfl, rfl, rfl, rfl, rfl, rfl, rfl, .refl s.communities,
        .parameters s.ceremonies _ _ _ _ _ _ _⟩
  | petition maybeCid petition => exact .refl s
  | spendNative maybeCid beneficiary amount =>
      simp only [enactAction]
      split
      · exact .refl s
      · exact .of_treasuries _
  | issueSwapNativeOption cid owner swapOption => exact .of_treasuries _
  | spendAsset maybeCid beneficiary amount assetId =>
      simp only [enactAction]
      split
      · exact .refl s
      · exact .of_treasuries _
  | issueSwapAssetOption cid owner swapOption => exact .of_treasuries _

/-- A relation that every enacted action keeps, and that looks at neither proposals nor events. -/
structure KeptByActions (config : Config AccountId)
    (R : Runtime AccountId → Runtime AccountId → Prop) : Prop where
  refl : ∀ s, R s s
  trans : ∀ s s' s'', R s s' → R s' s'' → R s s''
  enact : ∀ s action, R s (enactAction config s action).1
  record : ∀ s democracy events, R s { s with democracy := democracy, events := events }

namespace KeptByActions

variable {R : Runtime AccountId → Runtime AccountId → Prop}

theorem enactProposal (h : KeptByActions config R) (s : Runtime AccountId) (proposalId : Nat) :
    R s (Democracy.enactProposal config s proposalId).1 := by
  unfold Democracy.enactProposal
  split
  · exact h.refl s
  · rename_i proposal _
    have haction : R s (enactAction config s proposal.action).1 := h.enact s proposal.action
    split
    · rename_i enacted e henact
      rw [henact] at haction
      exact haction
    · rename_i enacted henact
      rw [henact] at haction
      exact h.trans s enacted _ haction (h.record enacted _ _)

theorem enactProposals (h : KeptByActions config R) {proposalIds : List Nat}
    (henact : Democracy.enactProposals config proposalIds s = .ok s') : R s s' := by
  induction proposalIds generalizing s with
  | nil =>
      simp only [Democracy.enactProposals, ok_inj] at henact
      rw [henact]
      exact h.refl s'
  | cons proposalId rest ih =>
      have hattempt : R s (Democracy.enactProposal config s proposalId).1 :=
        h.enactProposal s proposalId
      unfold Democracy.enactProposals at henact
      split at henact
      · cases henact
      · rename_i enacted e _ hresult
        rw [hresult] at hattempt
        have hreport := h.record enacted enacted.democracy
          (enacted.events ++ [.enactmentFailed proposalId e])
        exact h.trans s enacted s' hattempt (h.trans enacted _ s' hreport (ih henact))
      · rename_i enacted hresult
        rw [hresult] at hattempt
        exact h.trans s enacted s' hattempt (ih henact)

end KeptByActions

/-- A successful enactment sets the state of the proposal, a failing one keeps what was written. -/
theorem enactProposal_spec {proposalId : Nat} {result : Except DispatchError Unit}
    (h : enactProposal config s proposalId = (s', result)) :
    (∃ e, result = .error e ∧ ActionEnacted config s s') ∨
      ∃ proposal enacted, result = .ok () ∧ ActionEnacted config s enacted ∧
        enacted.democracy.proposals.lookup proposalId = some proposal ∧
        s' = { enacted with
          democracy := setProposalState enacted proposalId proposal .enacted
          events := enacted.events ++ [.proposalEnacted proposalId] } := by
  unfold enactProposal at h
  split at h
  · cases h
    exact Or.inl ⟨_, rfl, .refl s⟩
  · rename_i proposal hproposal
    have haction : ActionEnacted config s (enactAction config s proposal.action).1 :=
      enactAction_enacted proposal.action
    split at h
    · rename_i enacted e henact
      cases h
      rw [henact] at haction
      exact Or.inl ⟨e, rfl, haction⟩
    · rename_i enacted henact
      cases h
      rw [henact] at haction
      refine Or.inr ⟨proposal, enacted, rfl, haction, ?_, rfl⟩
      rw [haction.democracy]
      exact hproposal

def attempts (proposalIds : List Nat) (outcomes : List Bool) : List (Effect AccountId) :=
  List.zipWith Effect.attempt proposalIds outcomes

omit [DecidableEq AccountId] in
theorem exists_of_mem_attempts {e : Effect AccountId} {proposalIds : List Nat}
    {outcomes : List Bool} (h : e ∈ attempts proposalIds outcomes) :
    ∃ proposalId enacted, e = .attempt proposalId enacted := by
  rw [attempts, ← List.map_uncurry_zip_eq_zipWith] at h
  obtain ⟨⟨proposalId, enacted⟩, -, rfl⟩ := List.mem_map.1 h
  exact ⟨proposalId, enacted, rfl⟩

theorem enactProposals_changes {proposalIds : List Nat}
    (h : enactProposals config proposalIds s = .ok s') :
    Enacted s s' ∧ ∃ outcomes : List Bool, outcomes.length = proposalIds.length ∧
      Changes config s (attempts proposalIds outcomes) s' := by
  induction proposalIds generalizing s with
  | nil =>
      simp only [enactProposals, ok_inj] at h
      rw [h]
      exact ⟨.refl s', [], rfl, .refl⟩
  | cons proposalId rest ih =>
      unfold enactProposals at h
      split at h
      · exact absurd h (by simp)
      · rename_i enacted e _ henact
        rcases enactProposal_spec henact with ⟨e', he, haction⟩ | ⟨_, _, hok, -⟩
        · obtain ⟨hframe, outcomes, hlength, hchanges⟩ := ih h
          have hfail : Change config enacted [.attempt proposalId false] _ :=
            .enactmentFailed proposalId e
          have hreported : Enacted enacted
              { enacted with events := enacted.events ++ [.enactmentFailed proposalId e] } :=
            ⟨rfl, rfl, rfl, rfl, rfl, rfl, rfl⟩
          refine ⟨(haction.enacted.trans hreported).trans hframe,
            false :: outcomes, by rw [List.length_cons, hlength, List.length_cons], ?_⟩
          exact (haction.changes.tail hfail).trans hchanges
        · cases hok
      · rename_i enacted henact
        rcases enactProposal_spec henact with ⟨_, hok, -⟩ | ⟨proposal, acted, -, haction, hfound, rfl⟩
        · cases hok
        · obtain ⟨hframe, outcomes, hlength, hchanges⟩ := ih h
          have hdone : Change config acted [.attempt proposalId true] _ :=
            .enact proposalId proposal hfound
          have hreported : Enacted acted { acted with
              democracy := setProposalState acted proposalId proposal .enacted
              events := acted.events ++ [.proposalEnacted proposalId] } :=
            ⟨rfl, rfl, rfl, rfl, rfl, rfl, rfl⟩
          refine ⟨(haction.enacted.trans hreported).trans hframe,
            true :: outcomes, by rw [List.length_cons, hlength, List.length_cons], ?_⟩
          exact (haction.changes.tail hdone).trans hchanges

def queued (democracy : DemocracyStorage AccountId) : List Nat :=
  democracy.enactmentQueue.entries.flatMap fun e => e.2

/-- The attempts of a phase change, after which the queue is empty. -/
def enactmentEffects (newPhase : CeremonyPhaseType) (democracy : DemocracyStorage AccountId)
    (outcomes : List Bool) : List (Effect AccountId) :=
  match newPhase with
  | .assigning => attempts (queued democracy) outcomes ++ [.drain]
  | .attesting => []
  | .registering => []

omit [DecidableEq AccountId] in
theorem mem_enactmentEffects {newPhase : CeremonyPhaseType} {democracy : DemocracyStorage AccountId}
    {outcomes : List Bool} {e : Effect AccountId}
    (h : e ∈ enactmentEffects newPhase democracy outcomes) :
    (∃ proposalId enacted, e = .attempt proposalId enacted) ∨ e = .drain := by
  cases newPhase with
  | registering => cases h
  | assigning =>
      rcases List.mem_append.1 h with hattempt | hdrain
      · exact Or.inl (exists_of_mem_attempts hattempt)
      · exact Or.inr (List.mem_singleton.1 hdrain)
  | attesting => cases h

theorem onCeremonyPhaseChange_changes {newPhase : CeremonyPhaseType}
    (h : onCeremonyPhaseChange config s newPhase = .ok s') :
    Enacted s s' ∧ ∃ outcomes : List Bool,
      (newPhase = .assigning → outcomes.length = (queued s.democracy).length) ∧
        Changes config s (enactmentEffects newPhase s.democracy outcomes) s' := by
  cases newPhase with
  | registering =>
      simp only [onCeremonyPhaseChange, ok_inj] at h
      rw [h]
      exact ⟨.refl s', [], by simp, .refl⟩
  | assigning =>
      simp only [onCeremonyPhaseChange, bind_eq_ok, ok_inj] at h
      obtain ⟨enacted, henact, rfl⟩ := h
      obtain ⟨hframe, outcomes, hlength, hchanges⟩ := enactProposals_changes henact
      exact ⟨hframe.trans (Enacted.mk rfl rfl rfl rfl rfl rfl rfl), outcomes, fun _ => hlength,
        hchanges.tail .drain⟩
  | attesting =>
      simp only [onCeremonyPhaseChange, ok_inj] at h
      rw [h]
      exact ⟨.refl s', [], by simp, .refl⟩

end Democracy

/-! ## Commitments -/

namespace Commitments

variable {s : Runtime AccountId}

omit [DecidableEq AccountId] in
theorem doRegisterPurpose_spec {commitments commitments' : CommitmentsStorage AccountId}
    {descriptor : PalletString} {purpose : Nat}
    (h : doRegisterPurpose commitments descriptor = .ok (commitments', purpose)) :
    purpose = commitments.currentPurposeId ∧
      commitments'.currentPurposeId = commitments.currentPurposeId + 1 ∧
      commitments'.commitments = commitments.commitments := by
  simp only [doRegisterPurpose, bind_eq_ok, okOr_eq_ok, ok_inj, Prod.mk.injEq] at h
  obtain ⟨nextId, hnext, rfl, rfl⟩ := h
  exact ⟨rfl, (Checked.toU64_eq_some.1 hnext).2.symm, rfl⟩

/-- A verified reputation is committed, if it was not committed before. -/
theorem doCommitReputation_spec {account : AccountId} {cid : CommunityIdentifier}
    {cindex purpose : Nat} {commitmentHash : Option (Vector UInt8 32)}
    {commitments : CommitmentsStorage AccountId}
    (h : doCommitReputation s account cid cindex purpose commitmentHash = .ok commitments) :
    (Ceremonies.participantReputation s.ceremonies (cid, cindex) account).isVerified = true ∧
      s.commitments.commitments.contains ((cid, cindex), (purpose, account)) = false ∧
      commitments = { s.commitments with
        commitments := s.commitments.commitments.insert ((cid, cindex), (purpose, account))
          commitmentHash } := by
  simp only [doCommitReputation, bind_eq_ok, ensure_eq_ok, exists_const, ok_inj] at h
  obtain ⟨-, hverified, hunused, rfl⟩ := h
  exact ⟨hverified, hunused, rfl⟩

/-- Only commitments of registered communities at the index go. -/
theorem contains_purgeRegistry {cindex : Nat} {cc : CommunityCeremony} {k : Nat × AccountId}
    (h : s.commitments.commitments.contains (cc, k) = true) :
    (purgeRegistry s cindex).commitments.contains (cc, k) = true ∨
      cc ∈ s.communities.communityIdentifiers.map fun cid => (cid, cindex) := by
  have hfold (cids : List CommunityIdentifier)
      (commitments : StorageMap (CommunityCeremony × (Nat × AccountId)) (Option (Vector UInt8 32)))
      (hcontains : commitments.contains (cc, k) = true) :
      (cids.foldl (fun commitments cid => commitments.removePrefix (cid, cindex))
          commitments).contains (cc, k) = true ∨ cc ∈ cids.map fun cid => (cid, cindex) := by
    induction cids generalizing commitments with
    | nil => exact Or.inl hcontains
    | cons cid cids ih =>
        rw [List.map_cons, List.mem_cons]
        by_cases hcc : cc = (cid, cindex)
        · exact Or.inr (Or.inl hcc)
        · have hkept : (commitments.removePrefix (cid, cindex)).contains (cc, k) = true := by
            rw [StorageMap.contains, StorageMap.lookup_removePrefix, if_neg hcc]
            exact hcontains
          rcases ih _ hkept with hrest | hmem
          · exact Or.inl hrest
          · exact Or.inr (Or.inr hmem)
  exact hfold _ _ h

end Commitments

/-! ## The scheduler -/

namespace Scheduler

variable {s s' : Runtime AccountId}
  {callback : CeremonyPhaseType → Runtime AccountId → Except DispatchError (Runtime AccountId)}

omit [DecidableEq AccountId] in
theorem startNextCeremony_phase (s : Runtime AccountId) :
    (startNextCeremony s).scheduler.currentPhase = s.scheduler.currentPhase := by
  unfold startNextCeremony
  split <;> rfl

omit [DecidableEq AccountId] in
theorem startNextCeremony_time_le (s : Runtime AccountId) :
    s.scheduler.time ≤ (startNextCeremony s).scheduler.time := by
  unfold startNextCeremony
  split
  · simp only [SchedulerStorage.time]
    omega
  · exact le_rfl

theorem changes_scheduler (scheduler : SchedulerStorage)
    (h : s.scheduler.time ≤ scheduler.time) :
    Changes config s [.clock] { s with scheduler := scheduler } :=
  (Change.clock s.now s.blockNumber scheduler h).changes

omit [DecidableEq AccountId] in
theorem startNextCeremony_eq (s : Runtime AccountId) :
    startNextCeremony s = { s with scheduler := (startNextCeremony s).scheduler } := by
  unfold startNextCeremony
  split <;> rfl

def entered (s : Runtime AccountId) (nextPhaseTimestamp : Nat) : SchedulerStorage :=
  { (startNextCeremony s).scheduler with
    nextPhaseTimestamp := nextPhaseTimestamp
    currentPhase := nextPhaseOf s.scheduler.currentPhase }

section

omit [DecidableEq AccountId]

theorem time_le_entered (s : Runtime AccountId) (nextPhaseTimestamp : Nat) :
    s.scheduler.time ≤ (entered s nextPhaseTimestamp).time := by
  unfold entered startNextCeremony SchedulerStorage.time
  cases hphase : s.scheduler.currentPhase with
  | registering => simp [nextPhaseOf, CeremonyPhaseType.rank]
  | assigning => simp [nextPhaseOf, CeremonyPhaseType.rank]
  | attesting =>
      simp only [nextPhaseOf, CeremonyPhaseType.rank, if_true]
      omega

theorem resyncAndSetNextPhaseTimestamp_spec {tnext : Nat}
    (h : resyncAndSetNextPhaseTimestamp s tnext = .ok s') :
    ∃ t, resync (getCycleDuration s.scheduler) s.now tnext = .ok t ∧
      s' = { s with scheduler := { s.scheduler with nextPhaseTimestamp := t } } := by
  simp only [resyncAndSetNextPhaseTimestamp, bind_eq_ok, ok_inj] at h
  obtain ⟨t, ht, rfl⟩ := h
  exact ⟨t, ht, rfl⟩

private theorem resyncAndSetNextPhaseTimestamp_error {tnext : Nat} {e : DispatchError}
    (h : resyncAndSetNextPhaseTimestamp s tnext = .error e) : getCycleDuration s.scheduler = 0 := by
  by_contra hcycle
  unfold resyncAndSetNextPhaseTimestamp resync at h
  rw [if_neg hcycle] at h
  split at h
  · cases h
  · cases h

/-- The clock moves on, and the callback runs unless the cycles have no duration. -/
theorem progressPhase_spec {result : Except DispatchError Unit}
    (h : progressPhase callback s = (s', result)) :
    (s' = startNextCeremony s ∧ (∃ e, result = .error e) ∧ getCycleDuration s.scheduler = 0) ∨
      ∃ t, resync (getCycleDuration s.scheduler) s.now
          (s.scheduler.nextPhaseTimestamp +
            s.scheduler.phaseDurations.get (nextPhaseOf s.scheduler.currentPhase) 0) = .ok t ∧
        ((∃ e, callback (nextPhaseOf s.scheduler.currentPhase)
            { s with scheduler := entered s t } = .error e ∧
            s' = { s with scheduler := entered s t } ∧ result = .error e) ∨
          (callback (nextPhaseOf s.scheduler.currentPhase)
            { s with scheduler := entered s t } = .ok s' ∧ result = .ok ())) := by
  have hcycle : getCycleDuration (startNextCeremony s).scheduler = getCycleDuration s.scheduler := by
    unfold startNextCeremony
    split <;> rfl
  have hnow : (startNextCeremony s).now = s.now := by
    rw [startNextCeremony_eq]
  unfold progressPhase at h
  simp only at h
  split at h
  · rename_i e hfailed
    cases h
    exact Or.inl ⟨rfl, ⟨_, rfl⟩, hcycle ▸ resyncAndSetNextPhaseTimestamp_error hfailed⟩
  · rename_i synced hsync
    obtain ⟨t, ht, rfl⟩ := resyncAndSetNextPhaseTimestamp_spec hsync
    rw [hcycle, hnow] at ht
    have hentered : ({ s with scheduler := entered s t } : Runtime AccountId) =
        { startNextCeremony s with
          scheduler := { (startNextCeremony s).scheduler with
            nextPhaseTimestamp := t
            currentPhase := nextPhaseOf s.scheduler.currentPhase } } := by
      rw [startNextCeremony_eq s]
      rfl
    refine Or.inr ⟨t, ht, ?_⟩
    rw [hentered]
    split at h
    · rename_i e he
      cases h
      exact Or.inl ⟨e, he, rfl, rfl⟩
    · rename_i changed hok
      cases h
      exact Or.inr ⟨hok, rfl⟩

end

end Scheduler

end Encointer
