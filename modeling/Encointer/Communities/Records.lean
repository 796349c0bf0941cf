import Encointer.Communities.ExactIndex

/-!
# The records of communities

What every call, enactment and removal keeps holds in every run. So the records of
the registered communities are complete and valid, and nothing is stored for others.
-/

namespace Encointer

open Checked Communities

variable {AccountId : Type} [DecidableEq AccountId] {config : Config AccountId}

/-! ## What all operations keep -/

/-- Everything that is done to communities keeps `P`. -/
structure KeptByCalls (config : Config AccountId) (P : CommunitiesStorage AccountId → Prop) :
    Prop where
  addLocation : ∀ communities cid location, P communities →
    P (doAddLocation config communities cid location).1
  removeLocation : ∀ communities communities' cid location, P communities →
    doRemoveLocation config communities cid location = .ok communities' → P communities'
  updateMetadata : ∀ communities communities' cid metadata, P communities →
    doUpdateCommunityMetadata communities cid metadata = .ok communities' → P communities'
  updateNominalIncome : ∀ communities communities' cid nominalIncome, P communities →
    doUpdateNominalIncome communities cid nominalIncome = .ok communities' → P communities'
  parameters : ∀ communities minSolarTripTimeS maxSpeedMps, P communities →
    P { communities with minSolarTripTimeS := minSolarTripTimeS, maxSpeedMps := maxSpeedMps }
  newCommunity : ∀ (s : Runtime AccountId) location bootstrappers metadata demurrage nominalIncome
    communities balances, P s.communities →
    newCommunity config s location bootstrappers metadata demurrage nominalIncome =
      .ok (communities, balances) → P communities
  removeCommunity : ∀ communities cid, P communities → P (removeCommunity communities cid)

namespace KeptByCalls

variable {P : CommunitiesStorage AccountId → Prop} {s s' : Runtime AccountId}

omit [DecidableEq AccountId] in
theorem enacted (h : KeptByCalls config P) {communities : CommunitiesStorage AccountId}
    (hP : P communities) (action : ProposalAction AccountId) :
    P (enacted config communities action) := by
  cases action with
  | addLocation cid location => exact h.addLocation communities cid location hP
  | removeLocation cid location =>
      simp only [Communities.enacted]
      cases hremove : doRemoveLocation config communities cid location with
      | error e => exact hP
      | ok removed => exact h.removeLocation communities removed cid location hP hremove
  | updateCommunityMetadata cid metadata =>
      simp only [Communities.enacted]
      cases hupdate : doUpdateCommunityMetadata communities cid metadata with
      | error e => exact hP
      | ok updated => exact h.updateMetadata communities updated cid metadata hP hupdate
  | updateNominalIncome cid nominalIncome =>
      simp only [Communities.enacted]
      cases hupdate : doUpdateNominalIncome communities cid nominalIncome with
      | error e => exact hP
      | ok updated => exact h.updateNominalIncome communities updated cid nominalIncome hP hupdate
  | _ => exact hP

omit [DecidableEq AccountId] in
theorem removeCommunities (h : KeptByCalls config P) (removed : List CommunityIdentifier)
    {communities : CommunitiesStorage AccountId} (hP : P communities) :
    P (removed.foldl Communities.removeCommunity communities) := by
  induction removed generalizing communities with
  | nil => exact hP
  | cons cid removed ih => exact ih (h.removeCommunity communities cid hP)

private theorem enactActions (h : KeptByCalls config P) :
    Democracy.KeptByActions config fun s s' : Runtime AccountId =>
      P s.communities → P s'.communities where
  refl := fun _ hP => hP
  trans := fun _ _ _ hfirst hrest hP => hrest (hfirst hP)
  enact := by
    intro s action hP
    rw [Communities.enactAction_communities]
    exact h.enacted hP action
  record := fun _ _ _ hP => hP

theorem onCeremonyPhaseChange (h : KeptByCalls config P) {random : RandomNumberGenerator}
    {newPhase : CeremonyPhaseType} (hP : P s.communities)
    (hreacted : Dispatch.onCeremonyPhaseChange config random newPhase s = .ok s') :
    P s'.communities := by
  obtain ⟨enacted, henact, hceremonies⟩ := Dispatch.onCeremonyPhaseChange_spec hreacted
  have henacted : P enacted.communities := by
    cases newPhase with
    | assigning =>
        simp only [Democracy.onCeremonyPhaseChange, bind_eq_ok, ok_inj] at henact
        obtain ⟨attempted, hattempts, rfl⟩ := henact
        have hattempted : P attempted.communities := h.enactActions.enactProposals hattempts hP
        exact hattempted
    | registering =>
        simp only [Democracy.onCeremonyPhaseChange, ok_inj] at henact
        rw [← henact]
        exact hP
    | attesting =>
        simp only [Democracy.onCeremonyPhaseChange, ok_inj] at henact
        rw [← henact]
        exact hP
  obtain ⟨removed, hremoved⟩ := Ceremonies.onCeremonyPhaseChange_communities hceremonies
  rw [hremoved]
  exact h.removeCommunities removed henacted

theorem dispatchQuiet (h : KeptByCalls config P) {action : Action AccountId}
    (hP : P s.communities) (hquiet : Dispatch.dispatchQuiet config s action = .ok s') :
    P s'.communities := by
  by_cases hphase : Dispatch.MayChangePhase action
  · rcases Dispatch.mayChangePhase_enters_or_ticks hphase hquiet with ⟨newPhase, henters⟩ | hticks
    · obtain ⟨now, blockNumber, t, random, -, -, hreacted⟩ := henters
      refine h.onCeremonyPhaseChange ?_ hreacted
      exact hP
    · obtain ⟨now, blockNumber, scheduler, rfl⟩ := hticks.runtime
      exact hP
  · cases action with
    | newCommunity location bootstrappers metadata demurrage nominalIncome =>
        simp only [Dispatch.dispatchQuiet, bind_eq_ok, ok_inj] at hquiet
        obtain ⟨⟨communities, balances⟩, hnew, rfl⟩ := hquiet
        exact h.newCommunity s _ _ _ _ _ communities balances hP hnew
    | addLocation cid location =>
        simp only [Dispatch.dispatchQuiet, Communities.addLocation, bind_eq_ok, ok_inj] at hquiet
        obtain ⟨communities, ⟨-, -, hadd⟩, rfl⟩ := hquiet
        obtain ⟨-, rfl⟩ := transactional_eq_ok.1 hadd
        exact h.addLocation s.communities cid location hP
    | removeLocation cid location =>
        simp only [Dispatch.dispatchQuiet, Communities.removeLocation, bind_eq_ok, ok_inj]
          at hquiet
        obtain ⟨communities, ⟨-, -, hremove⟩, rfl⟩ := hquiet
        exact h.removeLocation s.communities communities cid location hP hremove
    | updateCommunityMetadata cid metadata =>
        simp only [Dispatch.dispatchQuiet, bind_eq_ok, ok_inj] at hquiet
        obtain ⟨communities, hupdate, rfl⟩ := hquiet
        exact h.updateMetadata s.communities communities cid metadata hP hupdate
    | updateNominalIncome cid nominalIncome =>
        simp only [Dispatch.dispatchQuiet, bind_eq_ok, ok_inj] at hquiet
        obtain ⟨communities, hupdate, rfl⟩ := hquiet
        exact h.updateNominalIncome s.communities communities cid nominalIncome hP hupdate
    | purgeCommunity cid =>
        simp only [Dispatch.dispatchQuiet, Communities.purgeCommunity, ok_inj] at hquiet
        rw [← hquiet]
        exact h.removeCommunity s.communities cid hP
    | setMinSolarTripTimeS minSolarTripTimeS =>
        simp only [Dispatch.dispatchQuiet, ok_inj] at hquiet
        rw [← hquiet]
        exact h.parameters s.communities minSolarTripTimeS s.communities.maxSpeedMps hP
    | setMaxSpeedMps maxSpeedMps =>
        simp only [Dispatch.dispatchQuiet, ok_inj] at hquiet
        rw [← hquiet]
        exact h.parameters s.communities s.communities.minSolarTripTimeS maxSpeedMps hP
    | beginBlock now random => exact absurd trivial hphase
    | nextPhase random => exact absurd trivial hphase
    | _ =>
        simp only [Dispatch.dispatchQuiet, bind_eq_ok, ok_inj] at hquiet
        grind

theorem step (h : KeptByCalls config P) {chain : Chain AccountId} (action : Action AccountId)
    (hP : P chain.runtime.communities) : P (chain.step config action).runtime.communities := by
  rcases Chain.step_outcome config chain action with ⟨observations, -, houtcome⟩ | hsame
  · rcases houtcome.communities_or_quiet with hcommunities | hquiet
    · rw [hcommunities]
      exact hP
    · exact h.dispatchQuiet hP hquiet
  · rw [hsame]
    exact hP

theorem run (h : KeptByCalls config P) {chain : Chain AccountId} (hP : P chain.runtime.communities)
    (actions : List (Action AccountId)) : P (chain.run config actions).runtime.communities :=
  Machine.run_invariant_of_step (fun chain : Chain AccountId => P chain.runtime.communities)
    (fun _ action hP => h.step action hP) hP actions

end KeptByCalls

/-! ## Calls that only place locations -/

/-- Only the two indexes of locations differ. -/
structure OnlyPlaces (communities communities' : CommunitiesStorage AccountId) : Prop where
  bootstrappers : communities'.bootstrappers = communities.bootstrappers
  communityIdentifiers : communities'.communityIdentifiers = communities.communityIdentifiers
  communityMetadata : communities'.communityMetadata = communities.communityMetadata
  nominalIncome : communities'.nominalIncome = communities.nominalIncome

namespace OnlyPlaces

variable {communities communities' : CommunitiesStorage AccountId} {cid : CommunityIdentifier}
  {location : Location}

section

omit [DecidableEq AccountId]

theorem refl (communities : CommunitiesStorage AccountId) : OnlyPlaces communities communities :=
  ⟨rfl, rfl, rfl, rfl⟩

theorem trans {c c' c'' : CommunitiesStorage AccountId} (h : OnlyPlaces c c')
    (h' : OnlyPlaces c' c'') : OnlyPlaces c c'' where
  bootstrappers := h'.bootstrappers.trans h.bootstrappers
  communityIdentifiers := h'.communityIdentifiers.trans h.communityIdentifiers
  communityMetadata := h'.communityMetadata.trans h.communityMetadata
  nominalIncome := h'.nominalIncome.trans h.nominalIncome

theorem addCidToBucket (geoHash : GeoHash) :
    OnlyPlaces communities (addCidToBucket config communities geoHash cid).1 := by
  rcases addCidToBucket_cases config communities geoHash cid with
    ⟨-, hresult⟩ | ⟨-, -, hresult⟩ | ⟨-, hresult⟩
  · rw [hresult]
    exact refl communities
  · rw [hresult]
    exact refl communities
  · rw [hresult]
    exact ⟨rfl, rfl, rfl, rfl⟩

theorem addLocationToBucket {geoHash : GeoHash}
    (h : addLocationToBucket config communities cid geoHash location = .ok communities') :
    OnlyPlaces communities communities' := by
  rcases addLocationToBucket_cases h with ⟨-, rfl⟩ | ⟨-, -, rfl⟩
  · exact refl _
  · exact ⟨rfl, rfl, rfl, rfl⟩

theorem removeCidFromBucket (geoHash : GeoHash) :
    OnlyPlaces communities (removeCidFromBucket communities geoHash cid) := by
  unfold Communities.removeCidFromBucket
  simp only
  split
  · exact refl communities
  · exact ⟨rfl, rfl, rfl, rfl⟩

theorem removeLocationIntern (geoHash : GeoHash) :
    OnlyPlaces communities (removeLocationIntern communities cid location geoHash) := by
  unfold Communities.removeLocationIntern
  simp only
  split
  · exact removeCidFromBucket geoHash
  · split
    · apply OnlyPlaces.trans ?_ (removeCidFromBucket geoHash)
      exact ⟨rfl, rfl, rfl, rfl⟩
    · exact ⟨rfl, rfl, rfl, rfl⟩

theorem removeLocationsIntern (removed : List (GeoHash × Location)) :
    OnlyPlaces communities (removeLocationsIntern cid removed communities) := by
  induction removed generalizing communities with
  | nil => exact refl communities
  | cons entry removed ih => exact (removeLocationIntern entry.1).trans ih

theorem doAddLocation (cid : CommunityIdentifier) (location : Location) :
    OnlyPlaces communities (doAddLocation config communities cid location).1 := by
  unfold Communities.doAddLocation
  simp only
  split
  · exact refl communities
  · rename_i geoHash added hadd
    simp only [bind_eq_ok, ok_inj, Prod.mk.injEq] at hadd
    obtain ⟨-, -, -, -, _, -, _, hplaced, rfl, rfl⟩ := hadd
    exact (addLocationToBucket hplaced).trans (addCidToBucket _)

theorem doRemoveLocation
    (h : doRemoveLocation config communities cid location = .ok communities') :
    OnlyPlaces communities communities' := by
  simp only [Communities.doRemoveLocation, bind_eq_ok, ok_inj] at h
  obtain ⟨-, -, geoHash, -, rfl⟩ := h
  exact removeLocationIntern geoHash

end

end OnlyPlaces

/-! ## Records -/

structure CommunityRecord (config : Config AccountId) (communities : CommunitiesStorage AccountId)
    (cid : CommunityIdentifier) : Prop where
  enough : 3 ≤ (bootstrappers communities cid).length
  notTooMany : (bootstrappers communities cid).length ≤ config.maxBootstrappers
  identified : ∃ location,
    newCommunityIdentifier config location (bootstrappers communities cid) = some cid
  described : ∃ metadata, communities.communityMetadata.lookup cid = some metadata ∧
    metadata.validate = true ∧ IsIpfsCid metadata.assets ∧
      ∀ theme ∈ metadata.theme, IsIpfsCid theme

structure NoRecord (communities : CommunitiesStorage AccountId) (cid : CommunityIdentifier) :
    Prop where
  bootstrappers : communities.bootstrappers.lookup cid = none
  communityMetadata : communities.communityMetadata.lookup cid = none
  nominalIncome : communities.nominalIncome.lookup cid = none

/-- The tables of the pallet refer to the registered communities, and to no others. -/
structure RecordsConsistent (config : Config AccountId)
    (communities : CommunitiesStorage AccountId) : Prop where
  nodup : communities.communityIdentifiers.Nodup
  bounded : communities.communityIdentifiers.length ≤ config.maxCommunityIdentifiers
  recorded : ∀ cid ∈ communities.communityIdentifiers, CommunityRecord config communities cid
  unrecorded : ∀ cid, cid ∉ communities.communityIdentifiers → NoRecord communities cid
  places : ∀ cid geoHash, ∀ location ∈ locations communities cid geoHash,
    cid ∈ communities.communityIdentifiers ∧ isValidLocation location = true

namespace RecordsConsistent

variable {communities communities' : CommunitiesStorage AccountId} {cid : CommunityIdentifier}
  {location : Location}

section

omit [DecidableEq AccountId]

theorem places_changed (h : RecordsConsistent config communities)
    (hsame : OnlyPlaces communities communities')
    (hplaces : ∀ cid geoHash, ∀ location ∈ locations communities' cid geoHash,
      location ∈ locations communities cid geoHash ∨
        cid ∈ communities.communityIdentifiers ∧ isValidLocation location = true) :
    RecordsConsistent config communities' := by
  have hbootstrappers (cid : CommunityIdentifier) :
      bootstrappers communities' cid = bootstrappers communities cid := by
    rw [bootstrappers, hsame.bootstrappers, bootstrappers]
  constructor
  · rw [hsame.communityIdentifiers]
    exact h.nodup
  · rw [hsame.communityIdentifiers]
    exact h.bounded
  · intro cid hcid
    rw [hsame.communityIdentifiers] at hcid
    have hrecord := h.recorded cid hcid
    constructor
    · rw [hbootstrappers]
      exact hrecord.enough
    · rw [hbootstrappers]
      exact hrecord.notTooMany
    · rw [hbootstrappers]
      exact hrecord.identified
    · rw [hsame.communityMetadata]
      exact hrecord.described
  · intro cid hcid
    rw [hsame.communityIdentifiers] at hcid
    have hnone := h.unrecorded cid hcid
    constructor
    · rw [hsame.bootstrappers]
      exact hnone.bootstrappers
    · rw [hsame.communityMetadata]
      exact hnone.communityMetadata
    · rw [hsame.nominalIncome]
      exact hnone.nominalIncome
  · intro cid geoHash location hmem
    rw [hsame.communityIdentifiers]
    rcases hplaces cid geoHash location hmem with hold | hnew
    · exact h.places cid geoHash location hold
    · exact hnew

theorem addLocation (h : RecordsConsistent config communities) (cid : CommunityIdentifier)
    (location : Location) :
    RecordsConsistent config (doAddLocation config communities cid location).1 := by
  apply h.places_changed (OnlyPlaces.doAddLocation cid location)
  unfold Communities.doAddLocation
  simp only
  split
  · exact fun _ _ _ hmem => Or.inl hmem
  · rename_i geoHash added hadd
    simp only [bind_eq_ok, ensureCidExists, ensure_eq_ok, exists_const, ok_inj,
      Prod.mk.injEq] at hadd
    obtain ⟨hcid, ⟨⟩, hvalid, geoHash', -, added', hplaced, rfl, rfl⟩ := hadd
    simp only [validateLocation, bind_eq_ok, ensure_eq_ok, exists_const] at hvalid
    intro cid' geoHash'' location' hmem
    rw [locations_addCidToBucket] at hmem
    rcases addLocationToBucket_cases hplaced with ⟨-, rfl⟩ | ⟨-, -, rfl⟩
    · exact Or.inl hmem
    · rw [locations_insert] at hmem
      split at hmem
      · rename_i hkey
        cases hkey
        rcases List.eq_or_mem_of_mem_insertIdx hmem with rfl | hold
        · exact Or.inr ⟨hcid, hvalid.1⟩
        · exact Or.inl hold
      · exact Or.inl hmem

theorem removeLocation (h : RecordsConsistent config communities)
    (hremove : doRemoveLocation config communities cid location = .ok communities') :
    RecordsConsistent config communities' := by
  apply h.places_changed (OnlyPlaces.doRemoveLocation hremove)
  simp only [Communities.doRemoveLocation, bind_eq_ok, ok_inj] at hremove
  obtain ⟨-, -, geoHash, -, rfl⟩ := hremove
  intro cid' geoHash' location' hmem
  rw [locations_removeLocationIntern] at hmem
  split at hmem
  · rename_i hkey
    cases hkey
    exact Or.inl (List.mem_of_mem_erase hmem)
  · exact Or.inl hmem

theorem updateMetadata {metadata : CommunityMetadata} (h : RecordsConsistent config communities)
    (hupdate : doUpdateCommunityMetadata communities cid metadata = .ok communities') :
    RecordsConsistent config communities' := by
  simp only [doUpdateCommunityMetadata, ensureCidExists, bind_eq_ok, ensure_eq_ok, exists_const,
    ok_inj] at hupdate
  obtain ⟨hcid, hvalid, rfl⟩ := hupdate
  refine ⟨h.nodup, h.bounded, ?_, ?_, h.places⟩
  · intro cid' hcid'
    have hrecord := h.recorded cid' hcid'
    refine ⟨hrecord.enough, hrecord.notTooMany, hrecord.identified, ?_⟩
    rw [StorageMap.lookup_insert_eq]
    split
    · exact ⟨metadata, rfl, hvalid, metadata.isIpfsCid_of_validate hvalid⟩
    · exact hrecord.described
  · intro cid' hcid'
    have hnone := h.unrecorded cid' hcid'
    refine ⟨hnone.bootstrappers, ?_, hnone.nominalIncome⟩
    rw [StorageMap.lookup_insert_eq, if_neg]
    · exact hnone.communityMetadata
    · intro heq
      exact hcid' (heq ▸ hcid)

theorem updateNominalIncome {nominalIncome : Nat} (h : RecordsConsistent config communities)
    (hupdate : doUpdateNominalIncome communities cid nominalIncome = .ok communities') :
    RecordsConsistent config communities' := by
  simp only [doUpdateNominalIncome, ensureCidExists, bind_eq_ok, ensure_eq_ok, exists_const,
    ok_inj] at hupdate
  obtain ⟨hcid, rfl⟩ := hupdate
  refine ⟨h.nodup, h.bounded, ?_, ?_, h.places⟩
  · intro cid' hcid'
    have hrecord := h.recorded cid' hcid'
    exact ⟨hrecord.enough, hrecord.notTooMany, hrecord.identified, hrecord.described⟩
  · intro cid' hcid'
    have hnone := h.unrecorded cid' hcid'
    refine ⟨hnone.bootstrappers, hnone.communityMetadata, ?_⟩
    rw [StorageMap.lookup_insert_eq, if_neg]
    · exact hnone.nominalIncome
    · intro heq
      exact hcid' (heq ▸ hcid)

end

end RecordsConsistent

/-! ## New communities -/

omit [DecidableEq AccountId] in
private theorem addCidToBucket_locations (communities : CommunitiesStorage AccountId)
    (geoHash : GeoHash)
    (cid : CommunityIdentifier) :
    (addCidToBucket config communities geoHash cid).1.locations = communities.locations := by
  rcases addCidToBucket_cases config communities geoHash cid with
    ⟨-, hresult⟩ | ⟨-, -, hresult⟩ | ⟨-, hresult⟩
  · rw [hresult]
  · rw [hresult]
  · rw [hresult]

/-- What `newCommunity` checks and writes, apart from the bucket of the first location. -/
structure Founded (config : Config AccountId)
    (communities communities' : CommunitiesStorage AccountId)
    (cid : CommunityIdentifier) : Prop where
  fresh : cid ∉ communities.communityIdentifiers
  room : communities.communityIdentifiers.length < config.maxCommunityIdentifiers
  communityIdentifiers :
    communities'.communityIdentifiers = communities.communityIdentifiers ++ [cid]
  bootstrappers : ∃ bootstrappers, 3 ≤ bootstrappers.length ∧
    bootstrappers.length ≤ config.maxBootstrappers ∧
    (∃ location, newCommunityIdentifier config location bootstrappers = some cid) ∧
    communities'.bootstrappers = communities.bootstrappers.insert cid bootstrappers
  communityMetadata : ∃ metadata : CommunityMetadata,
    metadata.validate = true ∧
    communities'.communityMetadata = communities.communityMetadata.insert cid metadata
  nominalIncome : ∀ cid' ≠ cid,
    communities'.nominalIncome.lookup cid' = communities.nominalIncome.lookup cid'
  locations : ∃ geoHash location, isValidLocation location = true ∧
    communities'.locations = communities.locations.insert (cid, geoHash) [location]

omit [DecidableEq AccountId] in
theorem newCommunity_founded {s : Runtime AccountId} {communities : CommunitiesStorage AccountId}
    {location : Location} {bootstrappers : List AccountId} {metadata : CommunityMetadata}
    {demurrage : Option Demurrage} {nominalIncome : Option Nat}
    {balances : BalancesStorage AccountId}
    (h : newCommunity config s location bootstrappers metadata demurrage nominalIncome =
      .ok (communities, balances)) : ∃ cid, Founded config s.communities communities cid := by
  simp only [newCommunity, validateBootstrappers, validateLocation, bind_eq_ok, okOr_eq_ok,
    ensure_eq_ok, exists_const, ok_inj, Prod.mk.injEq] at h
  obtain ⟨⟨hmax, hmin⟩, hmetadata, cid, hcid, hfresh, ⟨⟩, ⟨hvalid, -⟩, geoHash, -, -, joined,
    hjoin, hroom, balances', -, rfl, -⟩ := h
  obtain ⟨-, rfl⟩ := transactional_eq_ok.1 hjoin
  have hsame : OnlyPlaces s.communities
      (addCidToBucket config s.communities geoHash cid).1 := .addCidToBucket geoHash
  rw [hsame.communityIdentifiers] at hroom
  refine ⟨cid, hfresh, hroom, ?_, ⟨bootstrappers, hmin, hmax, ⟨location, hcid⟩, ?_⟩,
    ⟨metadata, hmetadata, ?_⟩, ?_, ⟨geoHash, location, hvalid, ?_⟩⟩
  · rw [hsame.communityIdentifiers]
  · rw [hsame.bootstrappers]
  · rw [hsame.communityMetadata]
  · intro cid' hcid'
    rw [← hsame.nominalIncome]
    cases nominalIncome with
    | none => rfl
    | some income =>
        simp only [StorageMap.lookup_insert_eq]
        exact if_neg hcid'
  · rw [addCidToBucket_locations]

namespace RecordsConsistent

variable {communities communities' : CommunitiesStorage AccountId} {cid : CommunityIdentifier}

section

omit [DecidableEq AccountId]

theorem founded (h : RecordsConsistent config communities)
    (hnew : Founded config communities communities' cid) :
    RecordsConsistent config communities' := by
  obtain ⟨newBootstrappers, hmin, hmax, hidentified, hbootstrappers⟩ := hnew.bootstrappers
  obtain ⟨metadata, hmetadata, hdescribed⟩ := hnew.communityMetadata
  obtain ⟨geoHash, location, hvalid, hlocations⟩ := hnew.locations
  have hmem {cid' : CommunityIdentifier} : cid' ∈ communities'.communityIdentifiers ↔
      cid' ∈ communities.communityIdentifiers ∨ cid' = cid := by
    rw [hnew.communityIdentifiers, List.mem_append, List.mem_singleton]
  constructor
  · rw [hnew.communityIdentifiers]
    apply h.nodup.append (List.nodup_singleton cid)
    rw [List.disjoint_singleton]
    exact hnew.fresh
  · rw [hnew.communityIdentifiers, List.length_append, List.length_singleton]
    exact hnew.room
  · intro cid' hcid'
    by_cases hcid : cid' = cid
    · subst hcid
      have hown : bootstrappers communities' cid' = newBootstrappers := by
        rw [bootstrappers, hbootstrappers, StorageMap.get_insert, if_pos rfl]
      constructor
      · rw [hown]
        exact hmin
      · rw [hown]
        exact hmax
      · rw [hown]
        exact hidentified
      · refine ⟨metadata, ?_, hmetadata, metadata.isIpfsCid_of_validate hmetadata⟩
        rw [hdescribed, StorageMap.lookup_insert_eq, if_pos rfl]
    · have hrecord := h.recorded cid' ((hmem.1 hcid').resolve_right hcid)
      have hother : bootstrappers communities' cid' = bootstrappers communities cid' := by
        rw [bootstrappers, hbootstrappers, StorageMap.get_insert, if_neg hcid, bootstrappers]
      constructor
      · rw [hother]
        exact hrecord.enough
      · rw [hother]
        exact hrecord.notTooMany
      · rw [hother]
        exact hrecord.identified
      · rw [hdescribed, StorageMap.lookup_insert_eq, if_neg hcid]
        exact hrecord.described
  · intro cid' hcid'
    rw [hmem, not_or] at hcid'
    have hnone := h.unrecorded cid' hcid'.1
    constructor
    · rw [hbootstrappers, StorageMap.lookup_insert_eq, if_neg hcid'.2]
      exact hnone.bootstrappers
    · rw [hdescribed, StorageMap.lookup_insert_eq, if_neg hcid'.2]
      exact hnone.communityMetadata
    · rw [hnew.nominalIncome cid' hcid'.2]
      exact hnone.nominalIncome
  · intro cid' geoHash' location' hlocation
    rw [hmem]
    rw [Communities.locations, hlocations, StorageMap.get_insert] at hlocation
    split at hlocation
    · rename_i hkey
      cases hkey
      rw [List.mem_singleton.1 hlocation]
      exact ⟨Or.inr rfl, hvalid⟩
    · obtain ⟨hregistered, hvalid'⟩ := h.places cid' geoHash' location' hlocation
      exact ⟨Or.inl hregistered, hvalid'⟩

theorem removeCommunity (h : RecordsConsistent config communities) (cid : CommunityIdentifier) :
    RecordsConsistent config (removeCommunity communities cid) := by
  have hsame : OnlyPlaces communities
      (removeLocationsIntern cid (locationsOf communities cid) communities) :=
    .removeLocationsIntern (locationsOf communities cid)
  have hmem {cid' : CommunityIdentifier} :
      cid' ∈ (Communities.removeCommunity communities cid).communityIdentifiers ↔
        cid' ∈ communities.communityIdentifiers ∧ cid' ≠ cid := by
    rw [removeCommunity_communityIdentifiers, List.mem_filter, decide_eq_true_eq]
  have hbootstrappers : (Communities.removeCommunity communities cid).bootstrappers =
      communities.bootstrappers.erase cid := by
    rw [Communities.removeCommunity, hsame.bootstrappers]
  have hmetadata : (Communities.removeCommunity communities cid).communityMetadata =
      communities.communityMetadata.erase cid := by
    rw [Communities.removeCommunity, hsame.communityMetadata]
  have hincome : (Communities.removeCommunity communities cid).nominalIncome =
      communities.nominalIncome.erase cid := by
    rw [Communities.removeCommunity, hsame.nominalIncome]
  constructor
  · rw [removeCommunity_communityIdentifiers]
    exact h.nodup.filter _
  · rw [removeCommunity_communityIdentifiers]
    exact (List.length_filter_le _ _).trans h.bounded
  · intro cid' hcid'
    obtain ⟨hregistered, hother⟩ := hmem.1 hcid'
    have hrecord := h.recorded cid' hregistered
    have hkept : bootstrappers (Communities.removeCommunity communities cid) cid' =
        bootstrappers communities cid' := by
      rw [bootstrappers, hbootstrappers, StorageMap.get_erase, if_neg hother, bootstrappers]
    constructor
    · rw [hkept]
      exact hrecord.enough
    · rw [hkept]
      exact hrecord.notTooMany
    · rw [hkept]
      exact hrecord.identified
    · rw [hmetadata, StorageMap.lookup_erase_eq, if_neg hother]
      exact hrecord.described
  · intro cid' hcid'
    have hnone (hother : cid' ≠ cid) : NoRecord communities cid' :=
      h.unrecorded cid' fun hregistered => hcid' (hmem.2 ⟨hregistered, hother⟩)
    rw [hmem] at hcid'
    constructor
    · rw [hbootstrappers, StorageMap.lookup_erase_eq]
      split
      · rfl
      · rename_i hother
        exact (hnone hother).bootstrappers
    · rw [hmetadata, StorageMap.lookup_erase_eq]
      split
      · rfl
      · rename_i hother
        exact (hnone hother).communityMetadata
    · rw [hincome, StorageMap.lookup_erase_eq]
      split
      · rfl
      · rename_i hother
        exact (hnone hother).nominalIncome
  · intro cid' geoHash location hlocation
    rw [locations_removeCommunity] at hlocation
    split at hlocation
    · cases hlocation
    · rename_i hother
      rw [(removeLocationsIntern_frame hother geoHash).1] at hlocation
      obtain ⟨hregistered, hvalid⟩ := h.places cid' geoHash location hlocation
      exact ⟨hmem.2 ⟨hregistered, hother⟩, hvalid⟩

theorem keptByCalls (config : Config AccountId) :
    KeptByCalls config (RecordsConsistent config) where
  addLocation := fun _ cid location h => h.addLocation cid location
  removeLocation := fun _ _ _ _ h hremove => h.removeLocation hremove
  updateMetadata := fun _ _ _ _ h hupdate => h.updateMetadata hupdate
  updateNominalIncome := fun _ _ _ _ h hupdate => h.updateNominalIncome hupdate
  parameters := fun _ _ _ h =>
    ⟨h.nodup, h.bounded,
      fun cid hcid =>
        ⟨(h.recorded cid hcid).enough, (h.recorded cid hcid).notTooMany,
          (h.recorded cid hcid).identified, (h.recorded cid hcid).described⟩,
      fun cid hcid =>
        ⟨(h.unrecorded cid hcid).bootstrappers, (h.unrecorded cid hcid).communityMetadata,
          (h.unrecorded cid hcid).nominalIncome⟩,
      h.places⟩
  newCommunity := by
    intro s location bootstrappers metadata demurrage nominalIncome communities balances h hnew
    obtain ⟨cid, hfounded⟩ := newCommunity_founded hnew
    exact h.founded hfounded
  removeCommunity := fun _ cid h => h.removeCommunity cid

theorem genesis (config : Config AccountId) (genesis : GenesisConfig)
    (nativeBalances : StorageMap AccountId Nat)
    (assetBalances : StorageMap (AccountId × AssetKind) Nat) :
    RecordsConsistent config (genesis.build nativeBalances assetBalances).communities where
  nodup := List.nodup_nil
  bounded := Nat.zero_le _
  recorded := by
    intro cid hcid
    cases hcid
  unrecorded := by
    intro cid _
    exact ⟨rfl, rfl, rfl⟩
  places := by
    intro cid geoHash location hlocation
    cases hlocation

end

end RecordsConsistent

/-- In every run, a registered community has all its records, with its own bootstrappers behind
its identifier, and nothing is kept of any other. -/
theorem Communities.community_records_consistent (config : Config AccountId)
    (genesis : GenesisConfig) (nativeBalances : StorageMap AccountId Nat)
    (assetBalances : StorageMap (AccountId × AssetKind) Nat) (actions : List (Action AccountId)) :
    RecordsConsistent config ((Chain.genesis genesis nativeBalances assetBalances).run config
      actions).runtime.communities :=
  (RecordsConsistent.keptByCalls config).run
    (RecordsConsistent.genesis config genesis nativeBalances assetBalances) actions

end Encointer
