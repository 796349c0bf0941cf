import Encointer.Rpc.CommunityIndex

/-!
# The cache of communities

One dirty bit stands for all communities. It is missed by the removal of a
community without locations and by an enactment that leaves a location behind,
and a query for an older block takes it away.
-/

namespace Encointer

open Communities

variable {AccountId : Type} [DecidableEq AccountId] {config : Config AccountId}
  {s s' : Runtime AccountId}

/-! ## What a query looks at -/

namespace CommunitiesRpc

variable {storage : OffchainStorage} {block : Runtime AccountId} {node : Node AccountId}
  {cid : CommunityIdentifier}

def namesOf (s : Runtime AccountId) : List CidName :=
  s.communities.communityIdentifiers.map fun cid =>
    ⟨cid, (s.communities.communityMetadata.lookup cid).elim [] CommunityMetadata.name⟩

/-- The cache has exactly what the runtime has. -/
structure Holds (storage : OffchainStorage) (s : Runtime AccountId) : Prop where
  cids : storage.cids = some (namesOf s)
  locations : ∀ cid, storage.locations.lookup cid =
    if cid ∈ s.communities.communityIdentifiers then some (locationsOf s cid) else none

/-- A query without a block answers with exactly the communities of the runtime. -/
structure Node.Coherent (node : Node AccountId) : Prop where
  all : (communitiesGetAll node.offchain true (node.stateAt none)).1 = .ok (namesOf node.runtime)
  locations : ∀ cid, (communitiesGetLocations node.offchain true cid (node.stateAt none)).1 =
    if cid ∈ node.runtime.communities.communityIdentifiers then .ok (locationsOf node.runtime cid)
    else .error .offchainStorageNotFound

def Node.cache (node : Node AccountId) : OffchainStorage :=
  if cacheDirty node.offchain then refreshCache node.offchain node.runtime else node.offchain

section

omit [DecidableEq AccountId]

theorem Node.readCache_best (node : Node AccountId) :
    readCache node.offchain (node.stateAt none) = .ok node.cache := by
  unfold readCache cache
  split <;> rfl

theorem Node.coherent_iff : node.Coherent ↔ Holds node.cache node.runtime := by
  constructor
  · rintro ⟨hall, hlocations⟩
    constructor
    · simp only [communitiesGetAll, node.readCache_best] at hall
      cases hcids : node.cache.cids with
      | none => simp [hcids] at hall
      | some cids =>
          simp only [hcids, Bool.true_eq_false, if_false, ok_inj] at hall
          rw [hall]
    · intro cid
      have hcid := hlocations cid
      simp only [communitiesGetLocations, node.readCache_best] at hcid
      cases hstored : node.cache.locations.lookup cid with
      | none =>
          simp only [hstored, Bool.true_eq_false, if_false] at hcid
          split at hcid
          · cases hcid
          · rename_i hunknown
            rw [if_neg hunknown]
      | some locations =>
          simp only [hstored, Bool.true_eq_false, if_false] at hcid
          split at hcid
          · rename_i hregistered
            rw [if_pos hregistered, ok_inj.1 hcid]
          · cases hcid
  · rintro ⟨hcids, hlocations⟩
    constructor
    · simp [communitiesGetAll, node.readCache_best, hcids]
    · intro cid
      by_cases hregistered : cid ∈ node.runtime.communities.communityIdentifiers
      · simp [communitiesGetLocations, node.readCache_best, hlocations cid, hregistered]
      · simp [communitiesGetLocations, node.readCache_best, hlocations cid, hregistered]

theorem filterMap_named {names : StorageMap CommunityIdentifier PalletString}
    (h : Named s.communities names) :
    s.communities.communityIdentifiers.filterMap
        (fun cid => (names.lookup cid).map (CidName.mk cid)) = namesOf s := by
  rw [namesOf, ← List.filterMap_eq_map]
  apply List.filterMap_congr
  intro cid hmem
  obtain ⟨metadata, hstored, hname⟩ := h cid hmem
  simp [hstored, hname]

end

private theorem map_cid_filterMap {names : StorageMap CommunityIdentifier PalletString}
    {cids : List CommunityIdentifier} (h : ∀ cid ∈ cids, (names.lookup cid).isSome = true) :
    (cids.filterMap fun cid => (names.lookup cid).map (CidName.mk cid)).map CidName.cid = cids := by
  rw [List.map_filterMap]
  have hsome : cids.filterMap some = cids := List.filterMap_some
  nth_rewrite 2 [← hsome]
  apply List.filterMap_congr
  intro cid hmem
  obtain ⟨name, hname⟩ := Option.isSome_iff_exists.1 (h cid hmem)
  simp [hname]

/-- The block has the communities of the state, with the same locations. -/
structure SameCommunities (block s : Runtime AccountId) : Prop where
  identifiers : block.communities.communityIdentifiers = s.communities.communityIdentifiers
  locations : ∀ cid ∈ s.communities.communityIdentifiers, locationsOf block cid = locationsOf s cid

section

omit [DecidableEq AccountId]

/-- A refresh from a block is right just if the block has the same communities. -/
theorem holds_refresh_iff (hnamed : Named s.communities storage.names)
    (hknown : ∀ cid ∈ block.communities.communityIdentifiers,
      (storage.names.lookup cid).isSome = true)
    (hother : ∀ cid, cid ∉ s.communities.communityIdentifiers →
      storage.locations.lookup cid = none) :
    Holds (refreshCache storage block) s ↔ SameCommunities block s := by
  have hlookup (cid : CommunityIdentifier) :
      (refreshCache storage block).locations.lookup cid =
        if cid ∈ block.communities.communityIdentifiers then some (locationsOf block cid)
        else storage.locations.lookup cid :=
    StorageMap.lookup_foldl_insert (locationsOf block) _ storage.locations cid
  constructor
  · rintro ⟨hcids, hlocations⟩
    have hidentifiers : block.communities.communityIdentifiers =
        s.communities.communityIdentifiers := by
      have hlist := congrArg (List.map CidName.cid) (Option.some.inj hcids)
      rw [map_cid_filterMap hknown] at hlist
      rw [hlist, namesOf, List.map_map]
      exact List.map_id _
    refine ⟨hidentifiers, ?_⟩
    intro cid hmem
    have hcid := hlocations cid
    rw [hlookup, hidentifiers, if_pos hmem, if_pos hmem] at hcid
    exact Option.some.inj hcid
  · rintro ⟨hidentifiers, hlocations⟩
    constructor
    · simp only [refreshCache, hidentifiers, filterMap_named hnamed]
    · intro cid
      rw [hlookup, hidentifiers]
      split
      · rename_i hmem
        rw [hlocations cid hmem]
      · rename_i hmem
        exact hother cid hmem

theorem SameCommunities.refl (s : Runtime AccountId) : SameCommunities s s :=
  ⟨rfl, fun _ _ => rfl⟩

/-- A refresh from the best block is right, but for communities that are gone. -/
theorem holds_refresh_best_iff (hnamed : Named s.communities storage.names) :
    Holds (refreshCache storage s) s ↔ ∀ cid, cid ∉ s.communities.communityIdentifiers →
      storage.locations.lookup cid = none := by
  have hknown (cid : CommunityIdentifier) (hmem : cid ∈ s.communities.communityIdentifiers) :
      (storage.names.lookup cid).isSome = true := by
    obtain ⟨metadata, -, hname⟩ := hnamed cid hmem
    rw [hname]
    rfl
  constructor
  · intro h cid hmem
    have hlookup : (refreshCache storage s).locations.lookup cid = _ :=
      StorageMap.lookup_foldl_insert (locationsOf s) s.communities.communityIdentifiers
        storage.locations cid
    rw [h.locations cid, if_neg hmem, if_neg hmem] at hlookup
    exact hlookup.symm
  · intro hother
    exact (holds_refresh_iff hnamed hknown hother).2 (.refl s)

end

/-! ## Queries -/

def afterQuery (storage : OffchainStorage) (state : Option (Runtime AccountId)) : OffchainStorage :=
  match readCache storage state with
  | .error _ => storage
  | .ok cache => cache

section

omit [DecidableEq AccountId]

theorem communitiesGetAll_storage (storage : OffchainStorage)
    (state : Option (Runtime AccountId)) :
    (communitiesGetAll storage true state).2 = afterQuery storage state := by
  rw [communitiesGetAll, afterQuery, if_neg (by decide)]
  cases readCache storage state with
  | error e => rfl
  | ok cache =>
      simp only
      split <;> rfl

theorem communitiesGetLocations_storage (storage : OffchainStorage) (cid : CommunityIdentifier)
    (state : Option (Runtime AccountId)) :
    (communitiesGetLocations storage true cid state).2 = afterQuery storage state := by
  rw [communitiesGetLocations, afterQuery, if_neg (by decide)]
  cases readCache storage state with
  | error e => rfl
  | ok cache =>
      simp only
      split <;> rfl

theorem afterQuery_names (storage : OffchainStorage) (state : Option (Runtime AccountId)) :
    (afterQuery storage state).names = storage.names := by
  unfold afterQuery readCache
  split
  · rfl
  · rename_i cache hcache
    split at hcache
    · split at hcache
      · cases hcache
      · cases hcache
        rfl
    · cases hcache
      rfl

end

def Node.query (node : Node AccountId) (block : Option Nat) : Node AccountId :=
  { node with offchain := afterQuery node.offchain (node.stateAt block) }

/-! ## Runs of the node -/

/-- The names of the communities of all blocks are indexed, those of the best one rightly. -/
structure Node.Invariant (node : Node AccountId) : Prop where
  named : Named node.runtime.communities node.offchain.names
  known : ∀ block ∈ node.earlier, ∀ cid ∈ block.communities.communityIdentifiers,
    (node.offchain.names.lookup cid).isSome = true

omit [DecidableEq AccountId] in
theorem Node.Invariant.stateAt (h : node.Invariant) {block : Option Nat} {s : Runtime AccountId}
    (hstate : node.stateAt block = some s) :
    ∀ cid ∈ s.communities.communityIdentifiers,
      (node.offchain.names.lookup cid).isSome = true := by
  have hbest (cid : CommunityIdentifier)
      (hmem : cid ∈ node.runtime.communities.communityIdentifiers) :
      (node.offchain.names.lookup cid).isSome = true := by
    obtain ⟨metadata, -, hname⟩ := h.named cid hmem
    rw [hname]
    rfl
  cases block with
  | none =>
      cases hstate
      exact hbest
  | some block =>
      rcases List.mem_append.1 (List.mem_of_getElem? hstate) with hmem | hmem
      · exact h.known s hmem
      · rw [List.mem_singleton.1 hmem]
        exact hbest

private theorem isSome_names_index {index : OffchainIndex}
    (h : (storage.names.lookup cid).isSome = true) :
    ((storage.index index).names.lookup cid).isSome = true := by
  obtain ⟨names, dirty⟩ := index
  simp only [OffchainStorage.index]
  generalize storage.names = stored at h
  induction names generalizing stored with
  | nil => exact h
  | cons e names ih =>
      apply ih
      rw [StorageMap.lookup_insert_eq]
      split
      · rfl
      · exact h

/-- The step removes no community whose locations are in the cache, and leaves no location behind
unmarked; a query refreshes the cache from a block that has the same communities. -/
def KeepsCache (config : Config AccountId) (node : Node AccountId) : NodeEvent AccountId → Prop
  | .action action =>
      (Dispatch.dispatch config node.runtime action).isOk = true →
        (∀ cid ∈ Dispatch.removedCommunities config node.runtime action,
          node.offchain.locations.lookup cid = none) ∧
        (cacheDirty node.offchain = false →
          (Dispatch.offchainIndex config node.runtime action).dirty = true ∨
            ∀ cid location, ¬ Dispatch.leftLocations config node.runtime action cid location)
  | .communitiesGetAll block | .communitiesGetLocations _ block =>
      cacheDirty node.offchain = true →
        ∀ s, node.stateAt block = some s → SameCommunities s node.runtime

omit [DecidableEq AccountId] in
theorem Node.Invariant.query (h : node.Invariant) (block : Option Nat) :
    (node.query block).Invariant := by
  have hnames : (node.query block).offchain.names = node.offchain.names :=
    afterQuery_names node.offchain (node.stateAt block)
  constructor
  · rw [hnames]
    exact h.named
  · rw [hnames]
    exact h.known

theorem Node.Invariant.step (h : node.Invariant) (event : NodeEvent AccountId) :
    (node.step config event).Invariant := by
  cases event with
  | action action =>
      simp only [Node.step]
      split
      · rename_i s' observations hdispatch
        refine ⟨(Dispatch.dispatch_indexed hdispatch).named _ h.named, ?_⟩
        intro block hblock cid hmem
        apply isSome_names_index
        rcases List.mem_append.1 hblock with hblock | hblock
        · exact h.known block hblock cid hmem
        · rw [List.mem_singleton.1 hblock] at hmem
          obtain ⟨metadata, -, hname⟩ := h.named cid hmem
          rw [hname]
          rfl
      · exact h
  | communitiesGetAll block =>
      simp only [Node.step, communitiesGetAll_storage]
      exact h.query block
  | communitiesGetLocations cid block =>
      simp only [Node.step, communitiesGetLocations_storage]
      exact h.query block

omit [DecidableEq AccountId] in
/-- What is in no community of the best block is in no cache. -/
theorem Node.Coherent.other (h : node.Coherent)
    (hcid : cid ∉ node.runtime.communities.communityIdentifiers) :
    node.offchain.locations.lookup cid = none := by
  have hlocations := (Node.coherent_iff.1 h).locations cid
  rw [if_neg hcid] at hlocations
  unfold Node.cache at hlocations
  split at hlocations
  · have hlookup : (refreshCache node.offchain node.runtime).locations.lookup cid = _ :=
      StorageMap.lookup_foldl_insert (locationsOf node.runtime)
        node.runtime.communities.communityIdentifiers node.offchain.locations cid
    rw [hlocations, if_neg hcid] at hlookup
    exact hlookup.symm
  · exact hlocations

omit [DecidableEq AccountId] in
theorem Node.Invariant.query_coherent_iff (h : node.Invariant) (hcoherent : node.Coherent)
    (block : Option Nat) :
    (node.query block).Coherent ↔ (cacheDirty node.offchain = true →
      ∀ s, node.stateAt block = some s → SameCommunities s node.runtime) := by
  cases hdirty : cacheDirty node.offchain with
  | false =>
      have hsame : node.query block = node := by
        simp [Node.query, afterQuery, readCache, hdirty]
      rw [hsame]
      simp [hcoherent]
  | true =>
      cases hstate : node.stateAt block with
      | none =>
          have hsame : node.query block = node := by
            simp [Node.query, afterQuery, readCache, hdirty, hstate]
          rw [hsame]
          simp [hcoherent]
      | some s =>
          have hrefreshed : node.query block =
              { node with offchain := refreshCache node.offchain s } := by
            simp [Node.query, afterQuery, readCache, hdirty, hstate]
          rw [hrefreshed, Node.coherent_iff]
          have hrefresh := holds_refresh_iff h.named (h.stateAt hstate) fun cid => hcoherent.other
          simp only [Node.cache, cacheDirty, refreshCache, Option.getD_some, Bool.false_eq_true,
            if_false, forall_const, Option.some.injEq, forall_eq']
          exact hrefresh

theorem cacheDirty_index (storage : OffchainStorage) (index : OffchainIndex) :
    cacheDirty (storage.index index) = (index.dirty || cacheDirty storage) := by
  unfold cacheDirty OffchainStorage.index
  cases index.dirty <;> rfl

section

variable {communities : CommunitiesStorage AccountId} {index : OffchainIndex}
  {removed : List CommunityIdentifier} {left : CommunityIdentifier → Location → Prop}

omit [DecidableEq AccountId] in
/-- A dirty cache will be right, but for locations of removed communities in it. -/
theorem holds_dirty_iff (hnamed : Named s.communities storage.names)
    (hindexed : Indexed s.communities s'.communities index removed left)
    (hother : ∀ cid, cid ∉ s.communities.communityIdentifiers →
      storage.locations.lookup cid = none) :
    Holds (refreshCache (storage.index index) s') s' ↔
      ∀ cid ∈ removed, storage.locations.lookup cid = none := by
  rw [holds_refresh_best_iff (hindexed.named storage.names hnamed)]
  constructor
  · intro h cid hremoved
    exact h cid (hindexed.gone cid hremoved)
  · intro h cid hgone
    by_cases hbefore : cid ∈ s.communities.communityIdentifiers
    · by_cases hremoved : cid ∈ removed
      · exact h cid hremoved
      · exact absurd (hindexed.kept cid hbefore hremoved) hgone
    · exact hother cid hbefore

omit [DecidableEq AccountId] in
/-- A clean cache stays right just if nothing is removed and nothing left behind. -/
theorem holds_clean_iff (hnamed : Named s.communities storage.names)
    (hindexed : Indexed s.communities s'.communities index removed left)
    (hdirty : index.dirty = false) (h : Holds storage s) :
    Holds storage s' ↔ (∀ cid ∈ removed, storage.locations.lookup cid = none) ∧
      ∀ cid location, ¬ left cid location := by
  obtain ⟨hnames, hunnoticed⟩ := hindexed.unmarked hdirty
  constructor
  · intro h'
    have hremoved (cid : CommunityIdentifier) (hmem : cid ∈ removed) :
        storage.locations.lookup cid = none := by
      rw [h'.locations, if_neg (hindexed.gone cid hmem)]
    refine ⟨hremoved, ?_⟩
    intro cid location hleft
    have hregistered := hunnoticed.registered cid location hleft
    have hstored := h.locations cid
    rw [if_pos hregistered] at hstored
    have hkept : cid ∉ removed := by
      intro hmem
      rw [hremoved cid hmem] at hstored
      cases hstored
    rw [h'.locations, if_pos (hindexed.kept cid hregistered hkept), Option.some.injEq] at hstored
    have hafter : location ∈ locationsOf s' cid :=
      List.mem_toFinset.2 ((hunnoticed.locations cid hkept location).2 (Or.inr hleft))
    rw [hstored] at hafter
    exact hunnoticed.new cid location hleft hkept (List.mem_toFinset.1 hafter)
  · rintro ⟨hremoved, hleft⟩
    have hkept (cid : CommunityIdentifier)
        (hmem : cid ∈ s.communities.communityIdentifiers) : cid ∉ removed := by
      intro hgone
      have hstored := h.locations cid
      rw [if_pos hmem, hremoved cid hgone] at hstored
      cases hstored
    have hidentifiers : s'.communities.communityIdentifiers =
        s.communities.communityIdentifiers := by
      rw [hunnoticed.identifiers, List.filter_eq_self]
      intro cid hmem
      exact decide_eq_true (hkept cid hmem)
    have hnamed' : Named s'.communities storage.names := by
      have hafter := hindexed.named storage.names hnamed
      rw [hnames] at hafter
      exact hafter
    constructor
    · rw [h.cids, ← filterMap_named hnamed, ← filterMap_named hnamed', hidentifiers]
    · intro cid
      rw [h.locations, hidentifiers]
      split
      · rename_i hmem
        have hsame : locationsOf s' cid = locationsOf s cid := by
          ext location
          rw [locationsOf, List.mem_toFinset, hunnoticed.locations cid (hkept cid hmem),
            or_iff_left (hleft cid location), locationsOf, List.mem_toFinset]
        rw [hsame]
      · rfl

end

theorem Node.Invariant.action_coherent_iff (h : node.Invariant) (hcoherent : node.Coherent)
    {action : Action AccountId} {observations : List (Observation AccountId)}
    (hdispatch : Dispatch.dispatch config node.runtime action = .ok (s', observations)) :
    (node.step config (.action action)).Coherent ↔
      (∀ cid ∈ Dispatch.removedCommunities config node.runtime action,
          node.offchain.locations.lookup cid = none) ∧
        (cacheDirty node.offchain = false →
          (Dispatch.offchainIndex config node.runtime action).dirty = true ∨
            ∀ cid location, ¬ Dispatch.leftLocations config node.runtime action cid location) := by
  have hindexed := Dispatch.dispatch_indexed hdispatch
  have hholds := Node.coherent_iff.1 hcoherent
  simp only [Node.step, hdispatch]
  rw [Node.coherent_iff, Node.cache, cacheDirty_index]
  cases hmarked : (Dispatch.offchainIndex config node.runtime action).dirty with
  | true =>
      rw [Bool.true_or, if_pos rfl, holds_dirty_iff h.named hindexed fun cid => hcoherent.other]
      simp
  | false =>
      cases hdirty : cacheDirty node.offchain with
      | true =>
          rw [Bool.or_true, if_pos rfl, holds_dirty_iff h.named hindexed fun cid => hcoherent.other]
          simp
      | false =>
          have hclean : node.cache = node.offchain := by
            rw [Node.cache, hdirty]
            rfl
          have hsame : node.offchain.index (Dispatch.offchainIndex config node.runtime action) =
              node.offchain := by
            rw [OffchainStorage.index, hmarked, (hindexed.unmarked hmarked).1]
            rfl
          rw [hclean] at hholds
          rw [Bool.or_false, if_neg Bool.false_ne_true, hsame,
            holds_clean_iff h.named hindexed hmarked hholds]
          simp

theorem Node.Invariant.step_coherent_iff (h : node.Invariant) (hcoherent : node.Coherent)
    (event : NodeEvent AccountId) :
    (node.step config event).Coherent ↔ KeepsCache config node event := by
  cases event with
  | action action =>
      cases hdispatch : Dispatch.dispatch config node.runtime action with
      | error e =>
          have hsame : node.step config (.action action) = node := by
            simp only [Node.step, hdispatch]
          rw [hsame]
          constructor
          · intro _ hok
            rw [hdispatch] at hok
            cases hok
          · intro _
            exact hcoherent
      | ok result =>
          rw [h.action_coherent_iff hcoherent hdispatch]
          constructor
          · intro hkeeps _
            exact hkeeps
          · intro hkeeps
            apply hkeeps
            rw [hdispatch]
            rfl
  | communitiesGetAll block =>
      simp only [Node.step, communitiesGetAll_storage]
      exact h.query_coherent_iff hcoherent block
  | communitiesGetLocations cid block =>
      simp only [Node.step, communitiesGetLocations_storage]
      exact h.query_coherent_iff hcoherent block

/-! ## Reachable states -/

omit [DecidableEq AccountId] in
theorem Node.genesis_invariant (genesis : GenesisConfig) (nativeBalances : StorageMap AccountId Nat)
    (assetBalances : StorageMap (AccountId × AssetKind) Nat) :
    (Node.genesis genesis nativeBalances assetBalances).Invariant where
  named := by
    intro cid hmem
    cases hmem
  known := by
    intro block hblock
    cases hblock

omit [DecidableEq AccountId] in
theorem Node.genesis_coherent (genesis : GenesisConfig) (nativeBalances : StorageMap AccountId Nat)
    (assetBalances : StorageMap (AccountId × AssetKind) Nat) :
    (Node.genesis genesis nativeBalances assetBalances).Coherent := by
  have hnamed := (Node.genesis_invariant genesis nativeBalances assetBalances).named
  rw [Node.coherent_iff]
  exact (holds_refresh_best_iff hnamed).2 fun _ _ => rfl

/-- All queries without a block are answered rightly, at any time, just if each step keeps the
cache. -/
theorem community_cache_coherent_iff (config : Config AccountId) (genesis : GenesisConfig)
    (nativeBalances : StorageMap AccountId Nat)
    (assetBalances : StorageMap (AccountId × AssetKind) Nat)
    (events : List (NodeEvent AccountId)) :
    (∀ seen, seen <+: events →
        ((Node.genesis genesis nativeBalances assetBalances).run config seen).Coherent) ↔
      Machine.Along (Node.step config) (KeepsCache config)
        (Node.genesis genesis nativeBalances assetBalances) events := by
  exact Machine.Along.iff_prefixes_of_held Node.Coherent
    (fun node event hinv => hinv.step event)
    (fun node event hcoherent hinv => hinv.step_coherent_iff hcoherent event)
    (Node.genesis_coherent genesis nativeBalances assetBalances)
    (Node.genesis_invariant genesis nativeBalances assetBalances) events

end CommunitiesRpc

/-! ## Stale answers -/

namespace Demo

def startCommunitiesNode : CommunitiesRpc.Node Nat := CommunitiesRpc.Node.genesis genesis ∅ ∅

/-- A second community is registered one block later, and somebody asks for the earlier block. -/
def olderBlock : List (CommunitiesRpc.NodeEvent Nat) :=
  [.action (newDay 1), .action (newCommunity island [1, 2, 3]),
    .action (.beginBlock (day + 2) ⟨[]⟩), .action (newCommunity mainland [11, 12, 13]),
    .communitiesGetAll (some 2)]

/-- A community is removed after its only location, with a query in between. -/
def removedWithoutLocations : List (CommunitiesRpc.NodeEvent Nat) :=
  [.action (newDay 1), .action (newCommunity island [1, 2, 3]),
    .action (.removeLocation islanders island), .communitiesGetAll none,
    .action (.purgeCommunity islanders)]

/-- A community is removed together with its location. -/
def removedWithLocation : List (CommunitiesRpc.NodeEvent Nat) :=
  [.action (newDay 1), .action (newCommunity island [1, 2, 3]),
    .communitiesGetLocations islanders none, .action (.purgeCommunity islanders)]

end Demo

/-- The runtime has two communities. -/
theorem CommunitiesRpc.community_cache_stale :
    let node := Demo.startCommunitiesNode.run Demo.runtimeConfig Demo.olderBlock
    (communitiesGetAll node.offchain true (node.stateAt none)).1 =
        .ok [⟨Demo.islanders, [65]⟩] ∧
      namesOf node.runtime = [⟨Demo.islanders, [65]⟩, ⟨Demo.mainlanders, [65]⟩] := by
  decide +kernel

open CommunitiesRpc in
/-- The runtime has no communities, and the cache has one. -/
example :
    let node := Demo.startCommunitiesNode.run Demo.runtimeConfig Demo.removedWithoutLocations
    (communitiesGetAll node.offchain true (node.stateAt none)).1 =
        .ok [⟨Demo.islanders, [65]⟩] ∧ namesOf node.runtime = [] := by
  decide +kernel

open CommunitiesRpc in
/-- The cache is refreshed, and the locations of the removed community stay. -/
example :
    let node := Demo.startCommunitiesNode.run Demo.runtimeConfig Demo.removedWithLocation
    (communitiesGetLocations node.offchain true Demo.islanders (node.stateAt none)).1 =
        .ok {Demo.island} ∧ namesOf node.runtime = [] := by
  decide +kernel

end Encointer
