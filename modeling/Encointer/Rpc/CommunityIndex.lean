import Encointer.Communities.ExactIndex
import Encointer.Rpc.Communities

/-!
# What the runtime indexes about communities

Each change of communities is described together with its offchain writes: the
names that it indexes, and what it removes or leaves behind without a mark.
-/

namespace Encointer

open Communities

variable {AccountId : Type} [DecidableEq AccountId] {config : Config AccountId}
  {s s' : Runtime AccountId}

/-! ## Names and locations -/

namespace Communities

variable {communities communities' communities'' : CommunitiesStorage AccountId}
  {cid : CommunityIdentifier} {location : Location}

omit [DecidableEq AccountId] in
theorem mem_getLocations : location ∈ getLocations communities cid ↔
    ∃ geoHash, location ∈ locations communities cid geoHash := by
  have hlist : getLocations communities cid = (locationsOf communities cid).map Prod.snd := by
    rw [getLocations, locationsOf, List.map_flatMap]
    congr
    funext e
    split <;> simp
  rw [hlist, List.mem_map]
  constructor
  · rintro ⟨⟨geoHash, location'⟩, hmem, rfl⟩
    exact ⟨geoHash, mem_locationsOf.1 hmem⟩
  · rintro ⟨geoHash, hmem⟩
    exact ⟨(geoHash, location), mem_locationsOf.2 hmem, rfl⟩

def Named (communities : CommunitiesStorage AccountId)
    (names : StorageMap CommunityIdentifier PalletString) : Prop :=
  ∀ cid ∈ communities.communityIdentifiers, ∃ metadata,
    communities.communityMetadata.lookup cid = some metadata ∧
      names.lookup cid = some metadata.name

/-- What changes without a mark, when `removed` are removed and the locations in `left` are
left behind. -/
structure Unnoticed (communities communities' : CommunitiesStorage AccountId)
    (removed : List CommunityIdentifier) (left : CommunityIdentifier → Location → Prop) : Prop where
  identifiers : communities'.communityIdentifiers =
    communities.communityIdentifiers.filter fun cid => cid ∉ removed
  locations : ∀ cid, cid ∉ removed → ∀ location,
    location ∈ getLocations communities' cid ↔
      location ∈ getLocations communities cid ∨ left cid location
  registered : ∀ cid location, left cid location → cid ∈ communities.communityIdentifiers
  new : ∀ cid location, left cid location → cid ∉ removed →
    location ∉ getLocations communities cid

/-- What a change of communities writes offchain tells about it. -/
structure Indexed (communities communities' : CommunitiesStorage AccountId) (index : OffchainIndex)
    (removed : List CommunityIdentifier) (left : CommunityIdentifier → Location → Prop) : Prop where
  gone : ∀ cid ∈ removed, cid ∉ communities'.communityIdentifiers
  kept : ∀ cid ∈ communities.communityIdentifiers, cid ∉ removed →
    cid ∈ communities'.communityIdentifiers
  named : ∀ names, Named communities names → Named communities'
    (index.names.foldl (fun names e => names.insert e.1 e.2) names)
  unmarked : index.dirty = false →
    index.names = [] ∧ Unnoticed communities communities' removed left

def NothingLeft (_ : CommunityIdentifier) (_ : Location) : Prop := False

theorem nothingLeft_or (left : CommunityIdentifier → Location → Prop) :
    (fun cid location => NothingLeft cid location ∨ left cid location) = left := by
  funext cid location
  exact propext (or_iff_right id)

theorem or_nothingLeft (left : CommunityIdentifier → Location → Prop) :
    (fun cid location => left cid location ∨ NothingLeft cid location) = left := by
  funext cid location
  exact propext (or_iff_left id)

section

omit [DecidableEq AccountId]

theorem Unnoticed.trans {removed removed' : List CommunityIdentifier}
    {left left' : CommunityIdentifier → Location → Prop}
    (h : Unnoticed communities communities' removed left)
    (h' : Unnoticed communities' communities'' removed' left') :
    Unnoticed communities communities'' (removed ++ removed')
      fun cid location => left cid location ∨ left' cid location where
  identifiers := by
    rw [h'.identifiers, h.identifiers, List.filter_filter]
    apply List.filter_congr
    intro cid _
    simp [Bool.and_comm]
  locations := by
    intro cid hcid location
    rw [List.mem_append, not_or] at hcid
    rw [h'.locations cid hcid.2, h.locations cid hcid.1, or_assoc]
  registered := by
    rintro cid location (hleft | hleft)
    · exact h.registered cid location hleft
    · have hmem := h'.registered cid location hleft
      rw [h.identifiers] at hmem
      exact (List.mem_filter.1 hmem).1
  new := by
    intro cid location hleft hcid hmem
    rw [List.mem_append, not_or] at hcid
    rcases hleft with hleft | hleft
    · exact h.new cid location hleft hcid.1 hmem
    · exact h'.new cid location hleft hcid.2 ((h.locations cid hcid.1 location).2 (Or.inl hmem))

theorem Indexed.trans {index index' : OffchainIndex} {removed removed' : List CommunityIdentifier}
    {left left' : CommunityIdentifier → Location → Prop}
    (h : Indexed communities communities' index removed left)
    (h' : Indexed communities' communities'' index' removed' left')
    (hsubset : communities''.communityIdentifiers ⊆ communities'.communityIdentifiers) :
    Indexed communities communities'' (index.append index') (removed ++ removed')
      fun cid location => left cid location ∨ left' cid location where
  gone := by
    intro cid hcid hmem
    rcases List.mem_append.1 hcid with hcid | hcid
    · exact h.gone cid hcid (hsubset hmem)
    · exact h'.gone cid hcid hmem
  kept := by
    intro cid hmem hcid
    rw [List.mem_append, not_or] at hcid
    exact h'.kept cid (h.kept cid hmem hcid.1) hcid.2
  named := by
    intro names hnames
    rw [OffchainIndex.append, List.foldl_append]
    exact h'.named _ (h.named names hnames)
  unmarked := by
    intro hdirty
    rw [OffchainIndex.append, Bool.or_eq_false_iff] at hdirty
    obtain ⟨hnames, hunnoticed⟩ := h.unmarked hdirty.1
    obtain ⟨hnames', hunnoticed'⟩ := h'.unmarked hdirty.2
    refine ⟨?_, hunnoticed.trans hunnoticed'⟩
    rw [OffchainIndex.append, hnames, hnames']
    rfl

theorem Unnoticed.of_same (hcids : communities'.communityIdentifiers =
      communities.communityIdentifiers)
    (hlocations : communities'.locations = communities.locations) :
    Unnoticed communities communities' [] NothingLeft where
  identifiers := by
    rw [hcids]
    simp
  locations := by
    intro cid _ location
    rw [getLocations, hlocations]
    simp [getLocations, NothingLeft]
  registered := by
    rintro cid location ⟨⟩
  new := by
    rintro cid location ⟨⟩

/-- Where names stay, only the locations matter. -/
theorem Indexed.of_locations {index : OffchainIndex}
    {left : CommunityIdentifier → Location → Prop}
    (hcids : communities'.communityIdentifiers = communities.communityIdentifiers)
    (hmetadata : communities'.communityMetadata = communities.communityMetadata)
    (hnames : index.names = [])
    (hunnoticed : index.dirty = false → Unnoticed communities communities' [] left) :
    Indexed communities communities' index [] left where
  gone := by
    intro cid hcid
    cases hcid
  kept := by
    intro cid hmem _
    rw [hcids]
    exact hmem
  named := by
    intro names hnamed cid hmem
    rw [hcids] at hmem
    rw [hmetadata, hnames]
    exact hnamed cid hmem
  unmarked := by
    intro hdirty
    exact ⟨hnames, hunnoticed hdirty⟩

theorem Indexed.of_same (hcids : communities'.communityIdentifiers =
      communities.communityIdentifiers)
    (hmetadata : communities'.communityMetadata = communities.communityMetadata)
    (hlocations : communities'.locations = communities.locations) :
    Indexed communities communities' .empty [] NothingLeft :=
  .of_locations hcids hmetadata rfl fun _ => .of_same hcids hlocations

end

/-! ## Removals -/

section

omit [DecidableEq AccountId]

private theorem mem_getLocations_removeCommunity {cid' : CommunityIdentifier}
    (hother : cid' ≠ cid) :
    location ∈ getLocations (removeCommunity communities cid) cid' ↔
      location ∈ getLocations communities cid' := by
  rw [mem_getLocations, mem_getLocations]
  apply exists_congr
  intro geoHash
  rw [locations_removeCommunity, if_neg hother, (removeLocationsIntern_frame hother geoHash).1]

theorem removeCommunity_indexed (communities : CommunitiesStorage AccountId)
    (cid : CommunityIdentifier) : Indexed communities (removeCommunity communities cid)
      (removeCommunityIndex communities cid) [cid] NothingLeft := by
  have hidentifiers : (removeCommunity communities cid).communityIdentifiers =
      communities.communityIdentifiers.filter fun x => x ≠ cid :=
    removeCommunity_communityIdentifiers
  have hnames : (removeCommunityIndex communities cid).names = [] := by
    unfold removeCommunityIndex
    split <;> rfl
  constructor
  · intro cid' hcid' hmem
    rw [hidentifiers] at hmem
    simp [List.mem_singleton.1 hcid'] at hmem
  · intro cid' hmem hcid'
    rw [hidentifiers]
    rw [List.mem_singleton] at hcid'
    exact List.mem_filter.2 ⟨hmem, decide_eq_true hcid'⟩
  · intro names hnamed cid' hmem
    rw [hidentifiers, List.mem_filter, decide_eq_true_iff] at hmem
    obtain ⟨metadata, hstored, hname⟩ := hnamed cid' hmem.1
    refine ⟨metadata, ?_, ?_⟩
    · simp only [removeCommunity, (removeLocationsIntern_sameNames _).communityMetadata,
        StorageMap.lookup_erase_eq, if_neg hmem.2]
      exact hstored
    · rw [hnames]
      exact hname
  · intro _
    refine ⟨hnames, ?_, ?_, ?_, ?_⟩
    · rw [hidentifiers]
      simp
    · intro cid' hcid' location
      rw [List.mem_singleton] at hcid'
      rw [mem_getLocations_removeCommunity hcid']
      simp [NothingLeft]
    · rintro cid location ⟨⟩
    · rintro cid location ⟨⟩

theorem removeCommunities_subset (removed : List CommunityIdentifier)
    (communities : CommunitiesStorage AccountId) :
    (removed.foldl removeCommunity communities).communityIdentifiers ⊆
      communities.communityIdentifiers := by
  induction removed generalizing communities with
  | nil => exact fun _ => id
  | cons cid removed ih =>
      intro cid' hmem
      have hrest := ih (removeCommunity communities cid) hmem
      rw [removeCommunity_communityIdentifiers] at hrest
      exact (List.mem_filter.1 hrest).1

theorem removeCommunities_indexed (removed : List CommunityIdentifier)
    (communities : CommunitiesStorage AccountId) :
    Indexed communities (removed.foldl removeCommunity communities)
      (removeCommunitiesIndex removed communities) removed NothingLeft := by
  induction removed generalizing communities with
  | nil => exact .of_same rfl rfl rfl
  | cons cid removed ih =>
      have hall := (removeCommunity_indexed communities cid).trans
        (ih (removeCommunity communities cid))
        (removeCommunities_subset removed (removeCommunity communities cid))
      rw [nothingLeft_or] at hall
      exact hall

end

/-! ## Additions -/

/-- The location is new, and it is left behind at a bucket that is full of communities. -/
def AdditionLeaves (config : Config AccountId) (communities : CommunitiesStorage AccountId)
    (cid : CommunityIdentifier) (location : Location) (cid' : CommunityIdentifier)
    (location' : Location) : Prop :=
  cid' = cid ∧ location' = location ∧ location ∉ getLocations communities cid ∧
    ∃ geoHash, BucketFull config communities cid geoHash location

def doAddLocationIndex (config : Config AccountId) (communities : CommunitiesStorage AccountId)
    (cid : CommunityIdentifier) (location : Location) : OffchainIndex :=
  match (doAddLocation config communities cid location).2 with
  | .error _ => .empty
  | .ok () => .marked

section

omit [DecidableEq AccountId]

theorem mem_getLocations_addLocationToBucket {geoHash : GeoHash}
    (h : addLocationToBucket config communities cid geoHash location = .ok communities')
    (cid' : CommunityIdentifier) (location' : Location) :
    location' ∈ getLocations communities' cid' ↔
      location' ∈ getLocations communities cid' ∨ cid' = cid ∧ location' = location := by
  rcases addLocationToBucket_cases h with ⟨hmem, rfl⟩ | ⟨-, -, rfl⟩
  · constructor
    · exact Or.inl
    · rintro (hstored | ⟨rfl, rfl⟩)
      · exact hstored
      · exact mem_getLocations.2 ⟨geoHash, hmem⟩
  · rw [mem_getLocations, mem_getLocations]
    constructor
    · rintro ⟨geoHash', hmem⟩
      rw [locations_insert] at hmem
      split at hmem
      · rename_i hsame
        rw [Prod.mk.injEq] at hsame
        rcases (List.mem_insertIdx List.countP_le_length).1 hmem with rfl | hbefore
        · exact Or.inr ⟨hsame.1, rfl⟩
        · exact Or.inl ⟨geoHash, hsame.1 ▸ hbefore⟩
      · exact Or.inl ⟨geoHash', hmem⟩
    · rintro (⟨geoHash', hmem⟩ | ⟨rfl, rfl⟩)
      · refine ⟨geoHash', ?_⟩
        rw [locations_insert]
        split
        · rename_i hsame
          rw [Prod.mk.injEq] at hsame
          rw [hsame.1, hsame.2] at hmem
          exact (List.mem_insertIdx List.countP_le_length).2 (Or.inr hmem)
        · exact hmem
      · refine ⟨geoHash, ?_⟩
        rw [locations_insert, if_pos rfl]
        exact (List.mem_insertIdx List.countP_le_length).2 (Or.inl rfl)

/-- A failing addition changes nothing, or leaves the location at a full bucket. -/
theorem doAddLocation_failed (h : (doAddLocation config communities cid location).2 ≠ .ok ()) :
    ((doAddLocation config communities cid location).1 = communities ∧
        ∀ geoHash, ¬ BucketFull config communities cid geoHash location) ∨
      (∃ geoHash, BucketFull config communities cid geoHash location) ∧
        ∀ cid' location', location' ∈ getLocations (doAddLocation config communities cid location).1
            cid' ↔ location' ∈ getLocations communities cid' ∨ cid' = cid ∧ location' = location := by
  unfold doAddLocation at h ⊢
  simp only at h ⊢
  split
  · rename_i e hfailed
    refine Or.inl ⟨rfl, ?_⟩
    intro geoHash hfull
    obtain ⟨added, hadded⟩ := addLocationToBucket_of_room hfull.room
    simp [ensureCidExists, ensure, hfull.registered, hfull.valid, hfull.place, okOr, hadded, bind,
      Except.bind] at hfailed
  · rename_i geoHash added hadded
    simp only [hadded] at h
    simp only [bind_eq_ok, ensure_eq_ok, ensureCidExists, okOr_eq_ok, ok_inj, Prod.mk.injEq]
      at hadded
    obtain ⟨-, hcid, ⟨⟩, hvalid, geoHash', hplace, added', hadd, rfl, rfl⟩ := hadded
    have hbuckets : cidsByGeohash added' geoHash' = cidsByGeohash communities geoHash' := by
      rcases addLocationToBucket_cases hadd with ⟨-, rfl⟩ | ⟨-, -, rfl⟩
      · rfl
      · rfl
    have hroom : location ∈ locations communities cid geoHash' ∨
        (locations communities cid geoHash').length < config.maxLocationsPerGeohash := by
      rcases addLocationToBucket_cases hadd with ⟨hmem, -⟩ | ⟨-, hlength, -⟩
      · exact Or.inl hmem
      · exact Or.inr hlength
    rcases addCidToBucket_cases config added' geoHash' cid with
      ⟨-, hjoined⟩ | ⟨hunknown, hfull, hleft⟩ | ⟨-, hjoined⟩
    · rw [hjoined] at h
      exact absurd rfl h
    · rw [hbuckets] at hunknown hfull
      rw [hleft]
      exact Or.inr ⟨⟨geoHash', hcid, hvalid, hplace, hroom, hunknown, hfull⟩,
        mem_getLocations_addLocationToBucket hadd⟩
    · rw [hjoined] at h
      exact absurd rfl h

theorem doAddLocation_indexed (cid : CommunityIdentifier) (location : Location) :
    Indexed communities (doAddLocation config communities cid location).1
      (doAddLocationIndex config communities cid location) []
      (AdditionLeaves config communities cid location) := by
  apply Indexed.of_locations doAddLocation_sameNames.communityIdentifiers
    doAddLocation_sameNames.communityMetadata
  · unfold doAddLocationIndex
    split <;> rfl
  · intro hdirty
    have hfailed : (doAddLocation config communities cid location).2 ≠ .ok () := by
      intro hok
      rw [doAddLocationIndex, hok] at hdirty
      cases hdirty
    constructor
    · rw [doAddLocation_sameNames.communityIdentifiers]
      simp
    · intro cid' _ location'
      rcases doAddLocation_failed hfailed with ⟨hsame, hfits⟩ | ⟨hfull, hleft⟩
      · rw [hsame]
        constructor
        · exact Or.inl
        · rintro (hmem | ⟨-, -, -, geoHash, hfull⟩)
          · exact hmem
          · exact absurd hfull (hfits geoHash)
      · rw [hleft]
        constructor
        · rintro (hmem | ⟨rfl, rfl⟩)
          · exact Or.inl hmem
          · by_cases hstored : location' ∈ getLocations communities cid'
            · exact Or.inl hstored
            · exact Or.inr ⟨rfl, rfl, hstored, hfull⟩
        · rintro (hmem | ⟨rfl, rfl, -⟩)
          · exact Or.inl hmem
          · exact Or.inr ⟨rfl, rfl⟩
    · rintro cid' location' ⟨rfl, -, -, geoHash, hfull⟩
      exact hfull.registered
    · rintro cid' location' ⟨rfl, rfl, hnew, -⟩ _
      exact hnew

end

/-! ## Further changes -/

section

omit [DecidableEq AccountId]

theorem doRemoveLocation_indexed
    (h : doRemoveLocation config communities cid location = .ok communities') :
    Indexed communities communities' .marked [] NothingLeft := by
  have hsame := doRemoveLocation_sameNames h
  apply Indexed.of_locations hsame.communityIdentifiers hsame.communityMetadata rfl
  intro hdirty
  cases hdirty

theorem doUpdateCommunityMetadata_indexed {metadata : CommunityMetadata}
    (h : doUpdateCommunityMetadata communities cid metadata = .ok communities') :
    Indexed communities communities' (.named cid metadata.name) [] NothingLeft := by
  simp only [doUpdateCommunityMetadata, bind_eq_ok, ok_inj] at h
  obtain ⟨-, -, -, -, rfl⟩ := h
  constructor
  · intro cid' hcid'
    cases hcid'
  · intro cid' hmem _
    exact hmem
  · intro names hnamed cid' hmem
    simp only [OffchainIndex.named, List.foldl_cons, List.foldl_nil, StorageMap.lookup_insert_eq]
    split
    · exact ⟨metadata, rfl, rfl⟩
    · exact hnamed cid' hmem
  · intro hdirty
    cases hdirty

theorem doUpdateNominalIncome_indexed {nominalIncome : Nat}
    (h : doUpdateNominalIncome communities cid nominalIncome = .ok communities') :
    Indexed communities communities' .empty [] NothingLeft := by
  simp only [doUpdateNominalIncome, bind_eq_ok, ok_inj] at h
  obtain ⟨-, -, rfl⟩ := h
  exact .of_same rfl rfl rfl

theorem newCommunity_indexed {bootstrappers : List AccountId}
    {metadata : CommunityMetadata} {demurrage : Option Demurrage} {nominalIncome : Option Nat}
    {balances : BalancesStorage AccountId}
    (h : newCommunity config s location bootstrappers metadata demurrage nominalIncome =
      .ok (communities', balances)) :
    ∃ cid, newCommunityIdentifier config location bootstrappers = some cid ∧
      Indexed s.communities communities' (.named cid metadata.name) [] NothingLeft := by
  obtain ⟨cid, hcid, -, hcids⟩ := newCommunity_spec h
  refine ⟨cid, hcid, ?_, ?_, ?_, ?_⟩
  · intro cid' hcid'
    cases hcid'
  · intro cid' hmem _
    rw [hcids]
    exact List.mem_append_left [cid] hmem
  · intro names hnamed cid' hmem
    simp only [newCommunity, bind_eq_ok, okOr_eq_ok, ok_inj, Prod.mk.injEq] at h
    obtain ⟨-, -, -, -, cid'', hcid'', -, -, -, -, _, -, -, -, joined, hjoin, -, -, _, -, rfl, -⟩ := h
    obtain ⟨-, rfl⟩ := transactional_eq_ok.1 hjoin
    rw [hcid] at hcid''
    cases hcid''
    rw [hcids] at hmem
    simp only [OffchainIndex.named, List.foldl_cons, List.foldl_nil, StorageMap.lookup_insert_eq,
      (addCidToBucket_sameNames _).communityMetadata]
    split
    · exact ⟨metadata, rfl, rfl⟩
    · rename_i hother
      rcases List.mem_append.1 hmem with hmem | hmem
      · exact hnamed cid' hmem
      · exact absurd (List.mem_singleton.1 hmem) hother
  · intro hdirty
    cases hdirty

end

/-! ## Enactments -/

def EnactmentLeaves (config : Config AccountId) (communities : CommunitiesStorage AccountId) :
    ProposalAction AccountId → CommunityIdentifier → Location → Prop
  | .addLocation cid location => AdditionLeaves config communities cid location
  | _ => NothingLeft

def LeftBehind (config : Config AccountId) :
    List (ProposalAction AccountId) → CommunitiesStorage AccountId →
      CommunityIdentifier → Location → Prop
  | [], _ => NothingLeft
  | action :: rest, communities => fun cid location =>
      EnactmentLeaves config communities action cid location ∨
        LeftBehind config rest (enacted config communities action) cid location

end Communities

namespace Democracy

private theorem enactAction_indexed (action : ProposalAction AccountId) :
    Indexed s.communities (enacted config s.communities action) (enactActionIndex config s action)
      [] (EnactmentLeaves config s.communities action) := by
  cases action with
  | addLocation cid location => exact doAddLocation_indexed cid location
  | removeLocation cid location =>
      simp only [enactActionIndex, enactAction, enacted]
      cases hremove : doRemoveLocation config s.communities cid location with
      | error e => exact .of_same rfl rfl rfl
      | ok communities => exact doRemoveLocation_indexed hremove
  | updateCommunityMetadata cid metadata =>
      simp only [enactActionIndex, enactAction, enacted]
      cases hupdate : doUpdateCommunityMetadata s.communities cid metadata with
      | error e => exact .of_same rfl rfl rfl
      | ok communities => exact doUpdateCommunityMetadata_indexed hupdate
  | updateNominalIncome cid nominalIncome =>
      simp only [enactActionIndex, enactAction, enacted]
      cases hupdate : doUpdateNominalIncome s.communities cid nominalIncome with
      | error e => exact .of_same rfl rfl rfl
      | ok communities => exact doUpdateNominalIncome_indexed hupdate
  | _ =>
      unfold enactActionIndex
      split <;> exact .of_same rfl rfl rfl

private theorem enactProposal_indexed (proposalId : Nat) :
    Indexed s.communities (enactProposal config s proposalId).1.communities
        (enactProposalIndex config s proposalId) []
        (((s.democracy.proposals.lookup proposalId).map fun p => p.action).elim NothingLeft
          (EnactmentLeaves config s.communities)) ∧
      (enactProposal config s proposalId).1.communities.communityIdentifiers =
        s.communities.communityIdentifiers := by
  have hspec : (enactProposal config s proposalId).1.communities = _ ∧ _ :=
    enactProposal_communities proposalId
  rw [hspec.1, enactProposalIndex]
  cases s.democracy.proposals.lookup proposalId with
  | none => exact ⟨.of_same rfl rfl rfl, rfl⟩
  | some proposal =>
      refine ⟨enactAction_indexed proposal.action, ?_⟩
      rw [Option.map_some, Option.elim_some, ← enactAction_communities]
      exact (enactAction_enacted proposal.action).enacted.communityIdentifiers

omit [DecidableEq AccountId] in
private theorem leftBehind_cons {action : Nat → Option (ProposalAction AccountId)}
    {proposalId : Nat}
    {rest : List Nat} {communities : CommunitiesStorage AccountId} :
    (fun cid location => (action proposalId).elim NothingLeft (EnactmentLeaves config communities)
        cid location ∨ LeftBehind config (rest.filterMap action)
          ((action proposalId).elim communities (enacted config communities)) cid location) =
      LeftBehind config ((proposalId :: rest).filterMap action) communities := by
  cases hproposal : action proposalId with
  | none =>
      rw [List.filterMap_cons_none hproposal]
      exact nothingLeft_or _
  | some proposed =>
      rw [List.filterMap_cons_some hproposal]
      rfl

theorem enactProposals_indexed {action : Nat → Option (ProposalAction AccountId)}
    {proposalIds : List Nat}
    (haction : ∀ id, (s.democracy.proposals.lookup id).map (fun p => p.action) = action id)
    (h : enactProposals config proposalIds s = .ok s') :
    Indexed s.communities s'.communities (enactProposalsIndex config proposalIds s) []
        (LeftBehind config (proposalIds.filterMap action) s.communities) ∧
      s'.communities.communityIdentifiers = s.communities.communityIdentifiers := by
  induction proposalIds generalizing s with
  | nil =>
      simp only [enactProposals, ok_inj] at h
      rw [← h]
      exact ⟨.of_same rfl rfl rfl, rfl⟩
  | cons proposalId rest ih =>
      have hfirst : Indexed _ _ (enactProposalIndex config s proposalId) [] _ ∧ _ :=
        enactProposal_indexed proposalId
      have hspec : (enactProposal config s proposalId).1.communities = _ ∧ _ :=
        enactProposal_communities proposalId
      obtain ⟨hindexed, hidentifiers⟩ := hfirst
      obtain ⟨hcommunities, hactions⟩ := hspec
      rw [haction] at hindexed hcommunities
      have hactions' := fun id => (hactions id).trans (haction id)
      rw [← leftBehind_cons, ← hcommunities]
      unfold enactProposals at h
      split at h
      · cases h
      · rename_i attempted e hnotPanicked hresult
        unfold enactProposalsIndex
        rw [hresult] at hindexed hidentifiers hactions' ⊢
        obtain ⟨hrest, hsame⟩ := ih (by exact hactions') h
        have hsubset : s'.communities.communityIdentifiers ⊆
            attempted.communities.communityIdentifiers := fun _ hmem => hsame ▸ hmem
        split
        · rename_i hpanicked
          cases hpanicked
          exact absurd rfl hnotPanicked
        · rename_i hfailed
          cases hfailed
          exact ⟨hindexed.trans hrest hsubset, hsame.trans hidentifiers⟩
        · rename_i hok
          cases hok
      · rename_i attempted hresult
        unfold enactProposalsIndex
        rw [hresult] at hindexed hidentifiers hactions' ⊢
        obtain ⟨hrest, hsame⟩ := ih hactions' h
        have hsubset : s'.communities.communityIdentifiers ⊆
            attempted.communities.communityIdentifiers := fun _ hmem => hsame ▸ hmem
        exact ⟨hindexed.trans hrest hsubset, hsame.trans hidentifiers⟩

end Democracy

/-! ## Phase changes -/

namespace Ceremonies

omit [DecidableEq AccountId] in
/-- The communities that reached the timeout are removed. -/
theorem onCeremonyPhaseChange_indexed {random : RandomNumberGenerator}
    (h : onCeremonyPhaseChange config random .assigning s = .ok s') :
    Indexed s.communities s'.communities (purgeInactiveCommunitiesIndex s) (inactiveCommunities s)
        NothingLeft ∧
      s'.communities.communityIdentifiers ⊆ s.communities.communityIdentifiers := by
  rw [generateMeetupAssignmentParamsOf_communities h]
  have hpurged : (purgeInactiveCommunities s).communities =
      (inactiveCommunities s).foldl removeCommunity s.communities := purgeCommunities_communities _
  rw [hpurged]
  exact ⟨removeCommunities_indexed (inactiveCommunities s) s.communities,
    removeCommunities_subset (inactiveCommunities s) s.communities⟩

end Ceremonies

namespace Dispatch

def onCeremonyPhaseChangeRemoved (config : Config AccountId) (newPhase : CeremonyPhaseType)
    (s : Runtime AccountId) : List CommunityIdentifier :=
  match newPhase with
  | .assigning =>
      match Democracy.onCeremonyPhaseChange config s .assigning with
      | .error _ => []
      | .ok enacted => Ceremonies.inactiveCommunities enacted
  | .attesting => []
  | .registering => []

def onCeremonyPhaseChangeLeaves (config : Config AccountId) (newPhase : CeremonyPhaseType)
    (s : Runtime AccountId) : CommunityIdentifier → Location → Prop :=
  match newPhase with
  | .assigning => LeftBehind config (queuedActions s.democracy) s.communities
  | .attesting => NothingLeft
  | .registering => NothingLeft

theorem onCeremonyPhaseChange_indexed {random : RandomNumberGenerator}
    {newPhase : CeremonyPhaseType} (h : onCeremonyPhaseChange config random newPhase s = .ok s') :
    Indexed s.communities s'.communities (onCeremonyPhaseChangeIndex config newPhase s)
      (onCeremonyPhaseChangeRemoved config newPhase s)
      (onCeremonyPhaseChangeLeaves config newPhase s) := by
  obtain ⟨enacted, henact, hceremonies⟩ := onCeremonyPhaseChange_spec h
  cases newPhase with
  | assigning =>
      obtain ⟨hpurged, hsubset⟩ := Ceremonies.onCeremonyPhaseChange_indexed hceremonies
      simp only [onCeremonyPhaseChangeIndex, onCeremonyPhaseChangeRemoved, henact]
      simp only [Democracy.onCeremonyPhaseChange, bind_eq_ok, ok_inj] at henact
      obtain ⟨attempted, hattempts, rfl⟩ := henact
      obtain ⟨hindexed, -⟩ := Democracy.enactProposals_indexed (fun _ => rfl) hattempts
      have hall := hindexed.trans hpurged hsubset
      rw [or_nothingLeft] at hall
      exact hall
  | attesting =>
      simp only [Democracy.onCeremonyPhaseChange, ok_inj] at henact
      simp only [Ceremonies.onCeremonyPhaseChange, ok_inj] at hceremonies
      rw [← hceremonies, ← henact]
      exact .of_same rfl rfl rfl
  | registering =>
      simp only [Democracy.onCeremonyPhaseChange, ok_inj] at henact
      simp only [Ceremonies.onCeremonyPhaseChange] at hceremonies
      split at hceremonies
      · rw [ok_inj] at hceremonies
        rw [← hceremonies, ← henact]
        exact .of_same rfl rfl rfl
      · rw [ok_inj] at hceremonies
        rw [← hceremonies, ← henact]
        exact .of_same rfl rfl rfl

/-! ## Actions -/

def removedCommunities (config : Config AccountId) (s : Runtime AccountId)
    (action : Action AccountId) : List CommunityIdentifier :=
  match action with
  | .purgeCommunity cid => [cid]
  | action =>
      match announced s action with
      | none => []
      | some (newPhase, entered) => onCeremonyPhaseChangeRemoved config newPhase entered

def leftLocations (config : Config AccountId) (s : Runtime AccountId) (action : Action AccountId) :
    CommunityIdentifier → Location → Prop :=
  match announced s action with
  | none => NothingLeft
  | some (newPhase, entered) => onCeremonyPhaseChangeLeaves config newPhase entered

theorem progressPhase_announced {random : RandomNumberGenerator}
    {result : Except DispatchError Unit}
    (h : Scheduler.progressPhase (onCeremonyPhaseChange config random) s = (s', result))
    (hresult : result ≠ .error .panicked) :
    match progressPhaseAnnounced s with
    | none => s'.communities = s.communities
    | some (newPhase, entered) => entered.communities = s.communities ∧
        onCeremonyPhaseChange config random newPhase entered = .ok s' := by
  have hstarted : (Scheduler.startNextCeremony s).communities = s.communities := by
    rw [Scheduler.startNextCeremony_eq]
  unfold Scheduler.progressPhase at h
  simp only at h
  split at h
  · rename_i e hsync
    cases h
    unfold progressPhaseAnnounced
    simp only
    rw [hsync]
    exact hstarted
  · rename_i synced hsync
    unfold progressPhaseAnnounced
    simp only
    rw [hsync]
    obtain ⟨t, -, rfl⟩ := Scheduler.resyncAndSetNextPhaseTimestamp_spec hsync
    refine ⟨hstarted, ?_⟩
    split at h
    · rename_i e hfailed
      cases h
      rw [onCeremonyPhaseChange_panics hfailed] at hresult
      exact absurd rfl hresult
    · rename_i changed hok
      cases h
      exact hok

private theorem announced_spec {action : Action AccountId} (hphase : MayChangePhase action)
    (h : dispatchQuiet config s action = .ok s') :
    match announced s action with
    | none => s'.communities = s.communities
    | some (newPhase, entered) => entered.communities = s.communities ∧
        ∃ random, onCeremonyPhaseChange config random newPhase entered = .ok s' := by
  cases action with
  | beginBlock now random =>
      obtain ⟨-, hset⟩ := beginBlock_spec h
      simp only [announced]
      unfold Scheduler.onTimestampSet at hset
      split at hset
      · rename_i hfirst
        rw [if_pos hfirst]
        simp only [ite_eq_ok, error_ne_ok, and_false, false_or, ok_inj] at hset
        rw [← hset.2]
        have hkept : Scheduler.KeepsPhase { s with now := now, blockNumber := s.blockNumber + 1 }
            (Scheduler.startFirstCycle config
              { s with now := now, blockNumber := s.blockNumber + 1 }) :=
          Scheduler.startFirstCycle_keepsPhase _
        obtain ⟨scheduler, hs⟩ := hkept.runtime
        rw [hs]
      · rename_i hlater
        rw [if_neg hlater]
        split at hset
        · rename_i hpassed
          rw [if_pos hpassed]
          split at hset
          · cases hset
          · rename_i progressed result hresult hprogress
            rw [ok_inj] at hset
            rw [← hset]
            have hspec := progressPhase_announced hprogress hresult
            revert hspec
            cases progressPhaseAnnounced
                { s with now := now, blockNumber := s.blockNumber + 1 } with
            | none => exact id
            | some entry => exact fun hspec => ⟨hspec.1, random, hspec.2⟩
        · rename_i hwaits
          rw [if_neg hwaits]
          rw [ok_inj] at hset
          rw [← hset]
  | nextPhase random =>
      obtain ⟨⟨⟨⟩, hresult⟩, hstate⟩ := transactional_eq_ok.1 h
      have hprogress : Scheduler.progressPhase (onCeremonyPhaseChange config random) s =
          (s', .ok ()) := Prod.ext hstate hresult
      have hspec := progressPhase_announced hprogress (by simp)
      revert hspec
      simp only [announced]
      cases progressPhaseAnnounced s with
      | none => exact id
      | some entry => exact fun hspec => ⟨hspec.1, random, hspec.2⟩
  | _ => cases hphase

/-- A phase change, or a block without one. -/
theorem announced_indexed {action : Action AccountId} (hphase : MayChangePhase action)
    (h : dispatchQuiet config s action = .ok s') :
    Indexed s.communities s'.communities (offchainIndex config s action)
      (removedCommunities config s action) (leftLocations config s action) := by
  have hspec := announced_spec hphase h
  have hindex : offchainIndex config s action = (match announced s action with
      | none => .empty
      | some (newPhase, entered) => onCeremonyPhaseChangeIndex config newPhase entered) := by
    cases action with
    | beginBlock now random => rfl
    | nextPhase random => rfl
    | _ => cases hphase
  have hremoved : removedCommunities config s action = (match announced s action with
      | none => []
      | some (newPhase, entered) => onCeremonyPhaseChangeRemoved config newPhase entered) := by
    cases action with
    | purgeCommunity cid => cases hphase
    | _ => rfl
  rw [hindex, hremoved, leftLocations]
  revert hspec
  cases announced s action with
  | none =>
      intro hsame
      rw [hsame]
      exact .of_same rfl rfl rfl
  | some entry =>
      rintro ⟨hentered, random, hreacted⟩
      have hindexed := onCeremonyPhaseChange_indexed hreacted
      rw [hentered] at hindexed
      exact hindexed

theorem dispatchQuiet_indexed {action : Action AccountId}
    (h : dispatchQuiet config s action = .ok s') :
    Indexed s.communities s'.communities (offchainIndex config s action)
      (removedCommunities config s action) (leftLocations config s action) := by
  cases action with
  | beginBlock now random => exact announced_indexed trivial h
  | nextPhase random => exact announced_indexed trivial h
  | newCommunity location bootstrappers metadata demurrage nominalIncome =>
      simp only [dispatchQuiet, bind_eq_ok, ok_inj] at h
      obtain ⟨⟨communities, balances⟩, hnew, rfl⟩ := h
      obtain ⟨cid, hcid, hindexed⟩ := newCommunity_indexed hnew
      simp only [offchainIndex, hcid]
      exact hindexed
  | addLocation cid location =>
      simp only [dispatchQuiet, Communities.addLocation, bind_eq_ok, ok_inj] at h
      obtain ⟨communities, ⟨-, -, hadd⟩, rfl⟩ := h
      obtain ⟨⟨⟨⟩, hok⟩, rfl⟩ := transactional_eq_ok.1 hadd
      apply Indexed.of_locations doAddLocation_sameNames.communityIdentifiers
        doAddLocation_sameNames.communityMetadata rfl
      intro hdirty
      cases hdirty
  | removeLocation cid location =>
      simp only [dispatchQuiet, Communities.removeLocation, bind_eq_ok, ok_inj] at h
      obtain ⟨communities, ⟨-, -, hremove⟩, rfl⟩ := h
      exact doRemoveLocation_indexed hremove
  | updateCommunityMetadata cid metadata =>
      simp only [dispatchQuiet, bind_eq_ok, ok_inj] at h
      obtain ⟨communities, hupdate, rfl⟩ := h
      exact doUpdateCommunityMetadata_indexed hupdate
  | updateNominalIncome cid nominalIncome =>
      simp only [dispatchQuiet, bind_eq_ok, ok_inj] at h
      obtain ⟨communities, hupdate, rfl⟩ := h
      exact doUpdateNominalIncome_indexed hupdate
  | purgeCommunity cid =>
      simp only [dispatchQuiet, Communities.purgeCommunity, ok_inj] at h
      rw [← h]
      exact removeCommunity_indexed s.communities cid
  | setMinSolarTripTimeS minSolarTripTimeS =>
      simp only [dispatchQuiet, ok_inj] at h
      rw [← h]
      exact .of_same rfl rfl rfl
  | setMaxSpeedMps maxSpeedMps =>
      simp only [dispatchQuiet, ok_inj] at h
      rw [← h]
      exact .of_same rfl rfl rfl
  | _ =>
      have hsame : s'.communities = s.communities := by
        simp only [dispatchQuiet, bind_eq_ok, ok_inj] at h
        grind
      rw [hsame]
      exact .of_same rfl rfl rfl

/-- What a successful action writes offchain, removes and leaves behind. -/
theorem dispatch_indexed {action : Action AccountId} {observations : List (Observation AccountId)}
    (h : dispatch config s action = .ok (s', observations)) :
    Indexed s.communities s'.communities (offchainIndex config s action)
      (removedCommunities config s action) (leftLocations config s action) := by
  cases dispatch_outcome h with
  | register sender cid proof c t haction hcall hs =>
      subst haction hs
      exact .of_same rfl rfl rfl
  | upgrade sender cid proof c t haction hcall hs =>
      subst haction hs
      exact .of_same rfl rfl rfl
  | endorse sender cid newbie c t haction hcall hs =>
      subst haction hs
      exact .of_same rfl rfl rfl
  | claim sender cid maybeMeetupIndex claim haction hcall hs =>
      subst haction hs
      exact .of_same rfl rfl rfl
  | submit proposalAction commitments democracy cindexes haction hcall hcindexes hs =>
      subst haction hs
      exact .of_same rfl rfl rfl
  | vote sender proposalId vote reputations commitments democracy counted purpose haction hcall
      hpurpose hs =>
      subst haction hs
      exact .of_same rfl rfl rfl
  | quiet hcall => exact dispatchQuiet_indexed hcall

end Dispatch

end Encointer
