import Encointer.Communities.GeohashIndex
import Encointer.Ceremonies.RewardOnce

/-!
# When the geohash index is exact

The buckets list exactly the communities with locations in them, as long as no
removal names a location that the community does not have where it has others,
and no enacted addition meets a bucket that is full of communities.
-/

namespace Encointer

variable {AccountId : Type} [DecidableEq AccountId] {config : Config AccountId}
  {s s' : Runtime AccountId}

namespace Communities

variable {communities communities' : CommunitiesStorage AccountId}

/-! ## What keeps the index exact -/

/-- The location is stored, or its bucket has no locations of the community. -/
def RemovalFits (config : Config AccountId) (communities : CommunitiesStorage AccountId)
    (cid : CommunityIdentifier) (location : Location) : Prop :=
  ∀ geoHash, config.tryFromParams location = some geoHash →
    location ∈ locations communities cid geoHash ∨ locations communities cid geoHash = []

/-- A valid new location does not meet a bucket that is full of other communities. -/
def AdditionFits (config : Config AccountId) (communities : CommunitiesStorage AccountId)
    (cid : CommunityIdentifier) (location : Location) : Prop :=
  ∀ geoHash, ¬ BucketFull config communities cid geoHash location

/-- The index lists exactly the communities of each bucket. -/
structure ExactIndex (config : Config AccountId) (communities : CommunitiesStorage AccountId) :
    Prop extends SortedIndex config communities where
  complete : BucketsComplete communities

section

omit [DecidableEq AccountId]

theorem ExactIndex.congr (h : ExactIndex config communities)
    (hcids : communities'.cidsByGeohash = communities.cidsByGeohash)
    (hlocations : communities'.locations = communities.locations) :
    ExactIndex config communities' := by
  refine ⟨h.toSortedIndex.congr hcids hlocations, ?_⟩
  intro cid geoHash hne
  rw [cidsByGeohash, hcids]
  rw [locations, hlocations] at hne
  exact h.complete cid geoHash hne

/-- A successful addition needs no condition. -/
theorem ExactIndex.doAddLocation {cid : CommunityIdentifier} {location : Location}
    (h : ExactIndex config communities) (hfits : AdditionFits config communities cid location ∨
      (doAddLocation config communities cid location).2 = .ok ()) :
    ExactIndex config (doAddLocation config communities cid location).1 := by
  rcases doAddLocation_cases h.toSortedIndex cid location with
    hsame | ⟨geoHash, cids, bucket, hadded, hcid | ⟨hfull, hfailed⟩⟩
  · rw [hsame]
    exact h
  · exact ⟨hadded.sortedIndex h.toSortedIndex, hadded.bucketsComplete hcid h.complete⟩
  · rcases hfits with hfits | hok
    · exact absurd hfull (hfits geoHash)
    · rw [hok] at hfailed
      cases hfailed

theorem ExactIndex.doRemoveLocation {cid : CommunityIdentifier} {location : Location}
    (h : ExactIndex config communities) (hfits : RemovalFits config communities cid location)
    (hremove : doRemoveLocation config communities cid location = .ok communities') :
    ExactIndex config communities' := by
  simp only [Communities.doRemoveLocation, bind_eq_ok, okOr_eq_ok, ok_inj] at hremove
  obtain ⟨-, -, geoHash, hplace, rfl⟩ := hremove
  refine ⟨h.toSortedIndex.removeLocationIntern cid location geoHash, ?_⟩
  intro cid' geoHash' hne
  rw [locations_removeLocationIntern] at hne
  rw [cidsByGeohash_removeLocationIntern]
  split at hne
  · rename_i hsame
    rw [Prod.mk.injEq] at hsame
    have hbefore : locations communities cid geoHash ≠ [] := by
      intro hempty
      rw [hempty] at hne
      exact hne rfl
    have hstored : location ∈ locations communities cid geoHash :=
      (hfits geoHash hplace).resolve_right hbefore
    rw [if_neg (by simp [hstored, hne]), hsame.1, hsame.2]
    exact h.complete cid geoHash hbefore
  · rename_i hother
    have hmem := h.complete cid' geoHash' hne
    split
    · rename_i hleft
      have hcid : cid' ≠ cid := fun hcid => hother (by rw [hcid, hleft.1])
      rw [List.mem_erase_of_ne hcid, ← hleft.1]
      exact hmem
    · exact hmem

theorem ExactIndex.newCommunity {location : Location} {bootstrappers : List AccountId}
    {metadata : CommunityMetadata} {demurrage : Option Demurrage} {nominalIncome : Option Nat}
    {balances : BalancesStorage AccountId} (h : ExactIndex config s.communities)
    (hnew : newCommunity config s location bootstrappers metadata demurrage nominalIncome =
      .ok (communities', balances)) : ExactIndex config communities' := by
  obtain ⟨cid, geoHash, cids, hcid, hadded⟩ := newCommunity_added h.toSortedIndex hnew
  exact ⟨hadded.sortedIndex h.toSortedIndex, hadded.bucketsComplete hcid h.complete⟩

theorem ExactIndex.removeCommunities (h : ExactIndex config communities)
    (removed : List CommunityIdentifier) :
    ExactIndex config (removed.foldl removeCommunity communities) := by
  induction removed generalizing communities with
  | nil => exact h
  | cons cid removed ih =>
      exact ih ⟨h.toSortedIndex.removeCommunity cid, BucketsComplete.removeCommunity h.complete cid⟩

end

/-! ## Enacted proposals -/

/-- What the action of a proposal does to communities. -/
def enacted (config : Config AccountId) (communities : CommunitiesStorage AccountId)
    (action : ProposalAction AccountId) : CommunitiesStorage AccountId :=
  match action with
  | .addLocation cid location => (doAddLocation config communities cid location).1
  | .removeLocation cid location =>
      (doRemoveLocation config communities cid location).toOption.getD communities
  | .updateCommunityMetadata cid metadata =>
      (doUpdateCommunityMetadata communities cid metadata).toOption.getD communities
  | .updateNominalIncome cid nominalIncome =>
      (doUpdateNominalIncome communities cid nominalIncome).toOption.getD communities
  | _ => communities

/-- The action fits the communities it is enacted on. -/
def ActionFits (config : Config AccountId) (communities : CommunitiesStorage AccountId)
    (action : ProposalAction AccountId) : Prop :=
  match action with
  | .addLocation cid location => AdditionFits config communities cid location
  | .removeLocation cid location => RemovalFits config communities cid location
  | _ => True

/-- Each of the actions fits the communities that the ones before it leave behind. -/
def ActionsFit (config : Config AccountId) :
    List (ProposalAction AccountId) → CommunitiesStorage AccountId → Prop
  | [], _ => True
  | action :: actions, communities =>
      ActionFits config communities action ∧
        ActionsFit config actions (enacted config communities action)

theorem enactAction_communities (action : ProposalAction AccountId) :
    (Democracy.enactAction config s action).1.communities =
      enacted config s.communities action := by
  cases action with
  | addLocation cid location => rfl
  | removeLocation cid location =>
      simp only [Democracy.enactAction, enacted]
      split <;> simp_all [Except.toOption]
  | updateCommunityMetadata cid metadata =>
      simp only [Democracy.enactAction, enacted]
      split <;> simp_all [Except.toOption]
  | updateNominalIncome cid nominalIncome =>
      simp only [Democracy.enactAction, enacted]
      split <;> simp_all [Except.toOption]
  | updateDemurrage cid demurrage =>
      simp only [Democracy.enactAction, enacted]
      split <;> rfl
  | setInactivityTimeout inactivityTimeout => rfl
  | petition maybeCid petition => rfl
  | spendNative maybeCid beneficiary amount =>
      simp only [Democracy.enactAction, enacted]
      split <;> rfl
  | issueSwapNativeOption cid owner swapOption => rfl
  | spendAsset maybeCid beneficiary amount assetId =>
      simp only [Democracy.enactAction, enacted]
      split <;> rfl
  | issueSwapAssetOption cid owner swapOption => rfl

omit [DecidableEq AccountId] in
theorem ExactIndex.enacted {action : ProposalAction AccountId}
    (h : ExactIndex config communities) (hfits : ActionFits config communities action) :
    ExactIndex config (enacted config communities action) := by
  cases action with
  | addLocation cid location => exact h.doAddLocation (Or.inl hfits)
  | removeLocation cid location =>
      simp only [Communities.enacted]
      cases hremove : Communities.doRemoveLocation config communities cid location with
      | error e => exact h
      | ok removed => exact h.doRemoveLocation hfits hremove
  | updateCommunityMetadata cid metadata =>
      simp only [Communities.enacted]
      cases hupdate : doUpdateCommunityMetadata communities cid metadata with
      | error e => exact h
      | ok updated =>
          simp only [doUpdateCommunityMetadata, bind_eq_ok, ok_inj] at hupdate
          obtain ⟨-, -, -, -, rfl⟩ := hupdate
          exact h.congr rfl rfl
  | updateNominalIncome cid nominalIncome =>
      simp only [Communities.enacted]
      cases hupdate : doUpdateNominalIncome communities cid nominalIncome with
      | error e => exact h
      | ok updated =>
          simp only [doUpdateNominalIncome, bind_eq_ok, ok_inj] at hupdate
          obtain ⟨-, -, rfl⟩ := hupdate
          exact h.congr rfl rfl
  | _ => exact h

/-- The actions of the proposals that wait for their enactment. -/
def queuedActions (democracy : DemocracyStorage AccountId) : List (ProposalAction AccountId) :=
  (Democracy.queued democracy).filterMap fun proposalId =>
    (democracy.proposals.lookup proposalId).map fun proposal => proposal.action

end Communities

/-! ## Phase changes -/

namespace Democracy

open Communities

/-- An enactment, failing or not, leaves the communities that the action leaves. -/
theorem enactProposal_communities (proposalId : Nat) :
    (enactProposal config s proposalId).1.communities =
        ((s.democracy.proposals.lookup proposalId).map fun p => p.action).elim s.communities
          (enacted config s.communities) ∧
      ∀ id, ((enactProposal config s proposalId).1.democracy.proposals.lookup id).map
        (fun p => p.action) = (s.democracy.proposals.lookup id).map fun p => p.action := by
  unfold enactProposal
  cases hfound : s.democracy.proposals.lookup proposalId with
  | none => exact ⟨rfl, fun _ => rfl⟩
  | some proposal =>
      have hcommunities : (enactAction config s proposal.action).1.communities = _ :=
        enactAction_communities proposal.action
      have haction : ActionEnacted config s (enactAction config s proposal.action).1 :=
        enactAction_enacted proposal.action
      simp only [Option.map_some, Option.elim_some]
      split
      · rename_i attempted e henact
        rw [henact] at hcommunities haction
        rw [haction.democracy]
        exact ⟨hcommunities, fun _ => rfl⟩
      · rename_i attempted henact
        rw [henact] at hcommunities haction
        have hdemocracy : attempted.democracy = s.democracy := haction.democracy
        refine ⟨hcommunities, ?_⟩
        intro id
        simp only [setProposalState, hdemocracy, StorageMap.lookup_insert_eq]
        split
        · rename_i hid
          rw [hid, hfound]
          rfl
        · rfl

theorem enactProposals_exactIndex {action : Nat → Option (ProposalAction AccountId)}
    {proposalIds : List Nat}
    (haction : ∀ id, (s.democracy.proposals.lookup id).map (fun p => p.action) = action id)
    (h : ExactIndex config s.communities)
    (hfits : ActionsFit config (proposalIds.filterMap action) s.communities)
    (henact : enactProposals config proposalIds s = .ok s') : ExactIndex config s'.communities := by
  induction proposalIds generalizing s with
  | nil =>
      simp only [enactProposals, ok_inj] at henact
      rw [← henact]
      exact h
  | cons proposalId rest ih =>
      have hattempt (attempted : Runtime AccountId) (result : Except DispatchError Unit)
          (hattempt : enactProposal config s proposalId = (attempted, result)) :
          (∀ id, (attempted.democracy.proposals.lookup id).map (fun p => p.action) = action id) ∧
            ExactIndex config attempted.communities ∧
            ActionsFit config (rest.filterMap action) attempted.communities := by
        have hspec : (enactProposal config s proposalId).1.communities = _ ∧ _ :=
          enactProposal_communities proposalId
        rw [hattempt, haction] at hspec
        obtain ⟨hcommunities, hactions⟩ := hspec
        refine ⟨fun id => (hactions id).trans (haction id), ?_⟩
        cases hproposal : action proposalId with
        | none =>
            rw [List.filterMap_cons_none hproposal] at hfits
            rw [hproposal, Option.elim_none] at hcommunities
            rw [hcommunities]
            exact ⟨h, hfits⟩
        | some proposed =>
            rw [List.filterMap_cons_some hproposal] at hfits
            rw [hproposal, Option.elim_some] at hcommunities
            rw [hcommunities]
            exact ⟨h.enacted hfits.1, hfits.2⟩
      unfold enactProposals at henact
      split at henact
      · cases henact
      · rename_i attempted e _ hresult
        obtain ⟨hactions, hexact, hrest⟩ := hattempt attempted _ hresult
        refine ih ?_ ?_ ?_ henact
        · exact hactions
        · exact hexact
        · exact hrest
      · rename_i attempted hresult
        obtain ⟨hactions, hexact, hrest⟩ := hattempt attempted _ hresult
        exact ih hactions hexact hrest henact

end Democracy

namespace Ceremonies

open Communities

section

omit [DecidableEq AccountId]

theorem purgeCommunities_communities (removed : List CommunityIdentifier) :
    (removed.foldl purgeCommunity s).communities =
      removed.foldl removeCommunity s.communities := by
  induction removed generalizing s with
  | nil => rfl
  | cons cid removed ih => exact ih

/-- Assignments are written to the ceremonies only. -/
theorem generateMeetupAssignmentParamsOf_runtime {cindex : Nat}
    {cids : List CommunityIdentifier} {random : RandomNumberGenerator}
    (h : generateMeetupAssignmentParamsOf config cindex cids s random = .ok s') :
    s' = { s with ceremonies := s'.ceremonies } := by
  induction cids generalizing s random with
  | nil =>
      rw [generateMeetupAssignmentParamsOf, ok_inj] at h
      rw [h]
  | cons cid cids ih =>
      unfold generateMeetupAssignmentParamsOf at h
      split at h
      · cases h
      · exact ih h
      · have hrest := ih h
        exact hrest

theorem generateMeetupAssignmentParamsOf_communities {cindex : Nat}
    {cids : List CommunityIdentifier} {random : RandomNumberGenerator}
    (h : generateMeetupAssignmentParamsOf config cindex cids s random = .ok s') :
    s'.communities = s.communities := by
  rw [generateMeetupAssignmentParamsOf_runtime h]

theorem onCeremonyPhaseChange_communities {random : RandomNumberGenerator}
    {newPhase : CeremonyPhaseType}
    (h : onCeremonyPhaseChange config random newPhase s = .ok s') :
    ∃ removed : List CommunityIdentifier,
      s'.communities = removed.foldl removeCommunity s.communities := by
  cases newPhase with
  | registering =>
      simp only [onCeremonyPhaseChange] at h
      split at h
      · rw [ok_inj] at h
        exact ⟨[], by rw [← h]; rfl⟩
      · rw [ok_inj] at h
        exact ⟨[], by rw [h]; rfl⟩
  | assigning =>
      rw [generateMeetupAssignmentParamsOf_communities h]
      exact ⟨_, purgeCommunities_communities _⟩
  | attesting =>
      simp only [onCeremonyPhaseChange, ok_inj] at h
      exact ⟨[], by rw [h]; rfl⟩

end

end Ceremonies

namespace Dispatch

open Communities

/-- At the start of an assigning phase, the queued actions are enacted. -/
theorem onCeremonyPhaseChange_exactIndex {random : RandomNumberGenerator}
    {newPhase : CeremonyPhaseType} (h : ExactIndex config s.communities)
    (hfits : newPhase = .assigning →
      ActionsFit config (queuedActions s.democracy) s.communities)
    (hreacted : onCeremonyPhaseChange config random newPhase s = .ok s') :
    ExactIndex config s'.communities := by
  obtain ⟨enacted, henact, hceremonies⟩ := onCeremonyPhaseChange_spec hreacted
  have hexact : ExactIndex config enacted.communities := by
    cases newPhase with
    | assigning =>
        simp only [Democracy.onCeremonyPhaseChange, bind_eq_ok, ok_inj] at henact
        obtain ⟨attempted, hattempts, rfl⟩ := henact
        have hattempted : ExactIndex config attempted.communities :=
          Democracy.enactProposals_exactIndex (fun _ => rfl) h (hfits rfl) hattempts
        exact hattempted
    | registering =>
        simp only [Democracy.onCeremonyPhaseChange, ok_inj] at henact
        rw [← henact]
        exact h
    | attesting =>
        simp only [Democracy.onCeremonyPhaseChange, ok_inj] at henact
        rw [← henact]
        exact h
  obtain ⟨removed, hremoved⟩ := Ceremonies.onCeremonyPhaseChange_communities hceremonies
  rw [hremoved]
  exact hexact.removeCommunities removed

/-- The locations that the action removes, or adds by an enactment, fit the buckets. -/
def LocationsFit (config : Config AccountId) (s s' : Runtime AccountId)
    (action : Action AccountId) : Prop :=
  match action with
  | .removeLocation cid location =>
      s.scheduler.currentPhase = .registering → RemovalFits config s.communities cid location
  | .beginBlock .. | .nextPhase _ =>
      s.scheduler.currentPhase = .registering → s'.scheduler.currentPhase = .assigning →
        ActionsFit config (queuedActions s.democracy) s.communities
  | _ => True

theorem dispatchQuiet_exactIndex {action : Action AccountId} (h : ExactIndex config s.communities)
    (hfits : LocationsFit config s s' action) (hquiet : dispatchQuiet config s action = .ok s') :
    ExactIndex config s'.communities := by
  by_cases hphase : MayChangePhase action
  · rcases mayChangePhase_enters_or_ticks hphase hquiet with ⟨newPhase, henters⟩ | hticks
    · have hentered := henters.phase
      obtain ⟨now, blockNumber, t, random, -, hnext, hreacted⟩ := henters
      refine onCeremonyPhaseChange_exactIndex ?_ ?_ hreacted
      · exact h
      · intro hassigning
        rw [hassigning] at hentered hnext
        have hregistering : s.scheduler.currentPhase = .registering := by
          cases hphase : s.scheduler.currentPhase with
          | registering => rfl
          | assigning => simp [hphase, Scheduler.nextPhaseOf] at hnext
          | attesting => simp [hphase, Scheduler.nextPhaseOf] at hnext
        cases action with
        | beginBlock now random => exact hfits hregistering hentered
        | nextPhase random => exact hfits hregistering hentered
        | _ => cases hphase
    · obtain ⟨now, blockNumber, scheduler, rfl⟩ := hticks.runtime
      exact h
  · cases action with
    | newCommunity location bootstrappers metadata demurrage nominalIncome =>
        simp only [dispatchQuiet, bind_eq_ok, ok_inj] at hquiet
        obtain ⟨⟨communities, balances⟩, hnew, rfl⟩ := hquiet
        exact h.newCommunity hnew
    | addLocation cid location =>
        simp only [dispatchQuiet, Communities.addLocation, bind_eq_ok, ok_inj] at hquiet
        obtain ⟨communities, ⟨-, -, hadd⟩, rfl⟩ := hquiet
        obtain ⟨⟨⟨⟩, hok⟩, rfl⟩ := transactional_eq_ok.1 hadd
        exact h.doAddLocation (Or.inr hok)
    | removeLocation cid location =>
        simp only [dispatchQuiet, Communities.removeLocation, bind_eq_ok, ensure_eq_ok, ok_inj]
          at hquiet
        obtain ⟨communities, ⟨-, hregistering, hremove⟩, rfl⟩ := hquiet
        exact h.doRemoveLocation (hfits hregistering) hremove
    | updateCommunityMetadata cid metadata =>
        simp only [dispatchQuiet, doUpdateCommunityMetadata, bind_eq_ok, ok_inj] at hquiet
        obtain ⟨communities, ⟨-, -, -, -, rfl⟩, rfl⟩ := hquiet
        exact h.congr rfl rfl
    | updateNominalIncome cid nominalIncome =>
        simp only [dispatchQuiet, doUpdateNominalIncome, bind_eq_ok, ok_inj] at hquiet
        obtain ⟨communities, ⟨-, -, rfl⟩, rfl⟩ := hquiet
        exact h.congr rfl rfl
    | purgeCommunity cid =>
        simp only [dispatchQuiet, Communities.purgeCommunity, ok_inj] at hquiet
        rw [← hquiet]
        exact h.removeCommunities [cid]
    | setMinSolarTripTimeS minSolarTripTimeS =>
        simp only [dispatchQuiet, ok_inj] at hquiet
        rw [← hquiet]
        exact h.congr rfl rfl
    | setMaxSpeedMps maxSpeedMps =>
        simp only [dispatchQuiet, ok_inj] at hquiet
        rw [← hquiet]
        exact h.congr rfl rfl
    | beginBlock now random => exact absurd trivial hphase
    | nextPhase random => exact absurd trivial hphase
    | _ =>
        simp only [dispatchQuiet, bind_eq_ok, ok_inj] at hquiet
        grind

/-- Only calls that tell nothing but the new state change communities. -/
theorem Outcome.communities_or_quiet {action : Action AccountId}
    {observations : List (Observation AccountId)}
    (h : Outcome config s action s' observations) :
    s'.communities = s.communities ∨ dispatchQuiet config s action = .ok s' := by
  cases h with
  | register sender cid proof c t haction hcall hs => exact Or.inl (by rw [hs])
  | upgrade sender cid proof c t haction hcall hs => exact Or.inl (by rw [hs])
  | endorse sender cid newbie c t haction hcall hs => exact Or.inl (by rw [hs])
  | claim sender cid maybeMeetupIndex claim haction hcall hs => exact Or.inl (by rw [hs])
  | submit proposalAction commitments democracy cindexes haction hcall hcindexes hs =>
      exact Or.inl (by rw [hs])
  | vote sender proposalId vote reputations commitments democracy counted purpose haction hcall
      hpurpose hs => exact Or.inl (by rw [hs])
  | quiet hcall => exact Or.inr hcall

end Dispatch

/-! ## Runs -/

open Communities

namespace Chain

private theorem step_sortedIndex (config : Config AccountId) {chain : Chain AccountId}
    (action : Action AccountId) (h : SortedIndex config chain.runtime.communities) :
    SortedIndex config (chain.step config action).runtime.communities := by
  rcases step_outcome config chain action with ⟨observations, -, houtcome⟩ | hsame
  · rcases houtcome.communities_or_quiet with hcommunities | hquiet
    · rw [hcommunities]
      exact h
    · obtain ⟨effects, -, hchanges⟩ := Dispatch.dispatchQuiet_changes hquiet
      exact hchanges.sortedIndex h
  · rw [hsame]
    exact h

theorem step_exactIndex (config : Config AccountId) {chain : Chain AccountId}
    (action : Action AccountId) (h : ExactIndex config chain.runtime.communities)
    (hfits : Dispatch.LocationsFit config chain.runtime (chain.step config action).runtime action) :
    ExactIndex config (chain.step config action).runtime.communities := by
  rcases step_outcome config chain action with ⟨observations, -, houtcome⟩ | hsame
  · rcases houtcome.communities_or_quiet with hcommunities | hquiet
    · exact h.congr (by rw [hcommunities]) (by rw [hcommunities])
    · exact Dispatch.dispatchQuiet_exactIndex h hfits hquiet
  · rw [hsame]
    exact h

end Chain

omit [DecidableEq AccountId] in
theorem Communities.ExactIndex.genesis (config : Config AccountId) (genesis : GenesisConfig)
    (nativeBalances : StorageMap AccountId Nat)
    (assetBalances : StorageMap (AccountId × AssetKind) Nat) :
    ExactIndex config (genesis.build nativeBalances assetBalances).communities where
  cidsSorted := fun _ => .nil
  locationsSorted := fun _ _ => .nil
  places := fun _ _ _ hmem => absurd hmem List.not_mem_nil
  inhabited := fun _ _ hmem => absurd hmem List.not_mem_nil
  complete := fun _ _ hne => absurd rfl hne

namespace Communities

/-- Whatever happens, buckets are sorted, and no place of a community is listed twice. -/
theorem sortedIndex_of_run (config : Config AccountId) (genesis : GenesisConfig)
    (nativeBalances : StorageMap AccountId Nat)
    (assetBalances : StorageMap (AccountId × AssetKind) Nat) (actions : List (Action AccountId)) :
    SortedIndex config ((Chain.genesis genesis nativeBalances assetBalances).run config
      actions).runtime.communities :=
  Machine.run_invariant_of_step
    (fun chain : Chain AccountId => SortedIndex config chain.runtime.communities)
    (fun _ action h => Chain.step_sortedIndex config action h)
    (ExactIndex.genesis config genesis nativeBalances assetBalances).toSortedIndex actions

theorem getLocations_nodup_of_run (config : Config AccountId) (genesis : GenesisConfig)
    (nativeBalances : StorageMap AccountId Nat)
    (assetBalances : StorageMap (AccountId × AssetKind) Nat) (actions : List (Action AccountId))
    (cid : CommunityIdentifier) :
    (getLocations ((Chain.genesis genesis nativeBalances assetBalances).run config
      actions).runtime.communities cid).Nodup :=
  (sortedIndex_of_run config genesis nativeBalances assetBalances actions).getLocations_nodup cid

/-- The index is exact, so the search for nearby locations misses none in its buckets. -/
structure IndexHolds (config : Config AccountId) (communities : CommunitiesStorage AccountId) :
    Prop where
  buckets : ∀ cid geoHash, cid ∈ cidsByGeohash communities geoHash ↔
    locations communities cid geoHash ≠ []
  places : ∀ cid geoHash location, location ∈ locations communities cid geoHash →
    config.tryFromParams location = some geoHash
  cidsSorted : ∀ geoHash,
    StrictlySorted CommunityIdentifier.lt (cidsByGeohash communities geoHash)
  locationsSorted : ∀ cid geoHash,
    StrictlySorted Location.lt (locations communities cid geoHash)
  nearby : ∀ location found, getNearbyLocations config communities location = .ok found →
    ∃ geoHash buckets, config.tryFromParams location = some geoHash ∧
      getRelevantNeighborBuckets config communities geoHash location = .ok buckets ∧
      ∀ bucket ∈ buckets ++ [geoHash], ∀ cid, ∀ other ∈ locations communities cid bucket,
        other ∈ found

omit [DecidableEq AccountId] in
theorem ExactIndex.holds {communities : CommunitiesStorage AccountId}
    (h : ExactIndex config communities) : IndexHolds config communities where
  buckets := fun cid geoHash => ⟨h.inhabited cid geoHash, h.complete cid geoHash⟩
  places := h.places
  cidsSorted := h.cidsSorted
  locationsSorted := h.locationsSorted
  nearby := by
    intro location found hfound
    simp only [getNearbyLocations, bind_eq_ok, okOr_eq_ok, ok_inj] at hfound
    obtain ⟨geoHash, hplace, buckets, hbuckets, rfl⟩ := hfound
    refine ⟨geoHash, buckets, hplace, hbuckets, ?_⟩
    intro bucket hbucket cid other hother
    refine List.mem_flatMap.2 ⟨bucket, hbucket, List.mem_flatMap.2 ⟨cid, ?_, hother⟩⟩
    exact h.complete cid bucket (List.ne_nil_of_mem hother)

/-- The geohash index stays exact, while all removals and enacted additions fit it. -/
theorem geohash_index_exact (config : Config AccountId) (genesis : GenesisConfig)
    (nativeBalances : StorageMap AccountId Nat)
    (assetBalances : StorageMap (AccountId × AssetKind) Nat) (actions : List (Action AccountId))
    (hfits : Machine.Along (Chain.step config)
      (fun chain action => Dispatch.LocationsFit config chain.runtime
        (chain.step config action).runtime action)
      (Chain.genesis genesis nativeBalances assetBalances) actions) :
    IndexHolds config ((Chain.genesis genesis nativeBalances assetBalances).run config
      actions).runtime.communities :=
  (Machine.run_invariant _ (fun chain => ExactIndex config chain.runtime.communities)
    (fun _ action h hfits => Chain.step_exactIndex config action h hfits)
    (ExactIndex.genesis config genesis nativeBalances assetBalances) hfits).holds

end Communities

/-! ## A removal that does not fit -/

namespace Demo

/-- In the bucket of the first location of the islanders, but not one of theirs. -/
def elsewhere : Location := ⟨44 * 2 ^ 53, 45 * 2 ^ 53⟩

/-- The community removes a location that it does not have. -/
def removeElsewhere : List (Action Nat) :=
  [newDay 1, newCommunity island [1, 2, 3], .removeLocation islanders elsewhere]

/-- The community removes its only location. -/
def removeIsland : List (Action Nat) :=
  [newDay 1, newCommunity island [1, 2, 3], .removeLocation islanders island]

end Demo

theorem Communities.geohash_index_exact_removeIsland :
    IndexHolds Demo.runtimeConfig
      (Demo.start.run Demo.runtimeConfig Demo.removeIsland).runtime.communities :=
  Communities.geohash_index_exact Demo.runtimeConfig Demo.genesis ∅ ∅ Demo.removeIsland
    ⟨fun _ _ => trivial, trivial, by
      intro _ geoHash hplace
      cases hplace
      exact Or.inl (by decide +kernel), trivial⟩

/-- The community keeps a location in a bucket that no longer lists it. -/
theorem Communities.geohash_index_incomplete :
    ¬ IndexHolds Demo.runtimeConfig
      (Demo.start.run Demo.runtimeConfig Demo.removeElsewhere).runtime.communities := by
  intro h
  have hbuckets := (h.buckets Demo.islanders (Demo.geohash Demo.island)).2 (by decide +kernel)
  exact absurd hbuckets (by decide +kernel)

end Encointer
