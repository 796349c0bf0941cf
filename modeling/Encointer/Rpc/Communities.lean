import Encointer.Runtime.Dispatch

/-!
# Communities by remote procedure call

The runtime indexes the names of communities offchain, and marks one cache of all
communities as dirty. The node refreshes that cache from the block that a query
asks for.
-/

namespace Encointer

structure CidName where
  cid : CommunityIdentifier
  name : PalletString
  deriving DecidableEq, Repr

/-! ## What the runtime writes offchain -/

/-- The names that are indexed, in order, and whether the cache is marked. -/
structure OffchainIndex where
  names : List (CommunityIdentifier × PalletString)
  dirty : Bool
  deriving DecidableEq, Repr

namespace OffchainIndex

def empty : OffchainIndex := ⟨[], false⟩

def marked : OffchainIndex := ⟨[], true⟩

def named (cid : CommunityIdentifier) (name : PalletString) : OffchainIndex := ⟨[(cid, name)], true⟩

def append (index index' : OffchainIndex) : OffchainIndex :=
  ⟨index.names ++ index'.names, index.dirty || index'.dirty⟩

end OffchainIndex

variable {AccountId : Type} [DecidableEq AccountId] (config : Config AccountId)

namespace Communities

/-- Each location that the community has is removed, and each removal marks the cache. -/
def removeCommunityIndex (communities : CommunitiesStorage AccountId) (cid : CommunityIdentifier) :
    OffchainIndex :=
  if getLocations communities cid = [] then .empty else .marked

def removeCommunitiesIndex :
    List CommunityIdentifier → CommunitiesStorage AccountId → OffchainIndex
  | [], _ => .empty
  | cid :: cids, communities =>
      (removeCommunityIndex communities cid).append
        (removeCommunitiesIndex cids (removeCommunity communities cid))

end Communities

namespace Democracy

/-- A failing action does not get to its offchain writes. -/
def enactActionIndex (s : Runtime AccountId) (action : ProposalAction AccountId) : OffchainIndex :=
  match (enactAction config s action).2 with
  | .error _ => .empty
  | .ok () =>
      match action with
      | .addLocation .. | .removeLocation .. => .marked
      | .updateCommunityMetadata cid metadata => .named cid metadata.name
      | _ => .empty

def enactProposalIndex (s : Runtime AccountId) (proposalId : Nat) : OffchainIndex :=
  match s.democracy.proposals.lookup proposalId with
  | none => .empty
  | some proposal => enactActionIndex config s proposal.action

def enactProposalsIndex : List Nat → Runtime AccountId → OffchainIndex
  | [], _ => .empty
  | proposalId :: rest, s =>
      match enactProposal config s proposalId with
      | (_, .error .panicked) => .empty
      | (enacted, .error e) =>
          (enactProposalIndex config s proposalId).append (enactProposalsIndex rest
            { enacted with events := enacted.events ++ [.enactmentFailed proposalId e] })
      | (enacted, .ok ()) =>
          (enactProposalIndex config s proposalId).append (enactProposalsIndex rest enacted)

end Democracy

namespace Ceremonies

def purgeInactiveCommunitiesIndex (s : Runtime AccountId) : OffchainIndex :=
  let (_, inactives) := updateInactivityCounters s.ceremonies
    (s.scheduler.currentCeremonyIndex - 1) s.ceremonies.inactivityTimeout
    s.communities.communityIdentifiers s.ceremonies.inactivityCounters
  Communities.removeCommunitiesIndex inactives s.communities

end Ceremonies

namespace Dispatch

/-- The phase that an action announces, and the state it announces it in. -/
def progressPhaseAnnounced (s : Runtime AccountId) : Option
    (CeremonyPhaseType × Runtime AccountId) :=
  let nextPhase := Scheduler.nextPhaseOf s.scheduler.currentPhase
  let next := s.scheduler.nextPhaseTimestamp + s.scheduler.phaseDurations.get nextPhase 0
  match Scheduler.resyncAndSetNextPhaseTimestamp (Scheduler.startNextCeremony s) next with
  | .error _ => none
  | .ok synced =>
      some (nextPhase, { synced with
        scheduler := { synced.scheduler with currentPhase := nextPhase } })

def announced (s : Runtime AccountId) :
    Action AccountId → Option (CeremonyPhaseType × Runtime AccountId)
  | .beginBlock now _ =>
      let s := { s with now := now, blockNumber := s.blockNumber + 1 }
      if s.scheduler.nextPhaseTimestamp = 0 then none
      else if s.scheduler.nextPhaseTimestamp < s.now then progressPhaseAnnounced s
      else none
  | .nextPhase _ => progressPhaseAnnounced s
  | _ => none

/-- The democracy pallet reacts before the ceremonies pallet. -/
def onCeremonyPhaseChangeIndex (newPhase : CeremonyPhaseType) (s : Runtime AccountId) :
    OffchainIndex :=
  match newPhase with
  | .assigning =>
      (Democracy.enactProposalsIndex config
        (s.democracy.enactmentQueue.entries.flatMap fun e => e.2) s).append
        (match Democracy.onCeremonyPhaseChange config s .assigning with
        | .error _ => .empty
        | .ok enacted => Ceremonies.purgeInactiveCommunitiesIndex enacted)
  | .attesting => .empty
  | .registering => .empty

/-- The offchain writes of a successful action about communities. -/
def offchainIndex (s : Runtime AccountId) (action : Action AccountId) : OffchainIndex :=
  match action with
  | .beginBlock .. | .nextPhase _ =>
      match announced s action with
      | none => .empty
      | some (newPhase, entered) => onCeremonyPhaseChangeIndex config newPhase entered
  | .newCommunity location bootstrappers metadata _ _ =>
      match Communities.newCommunityIdentifier config location bootstrappers with
      | none => .empty
      | some cid => .named cid metadata.name
  | .addLocation .. | .removeLocation .. => .marked
  | .updateCommunityMetadata cid metadata => .named cid metadata.name
  | .purgeCommunity cid => Communities.removeCommunityIndex s.communities cid
  | _ => .empty

end Dispatch

namespace CommunitiesRpc

/-! ## The offchain storage -/

/-- The entries for the dirty bit, the names, the list of communities and their locations. -/
structure OffchainStorage where
  cacheDirty : Option Bool
  names : StorageMap CommunityIdentifier PalletString
  cids : Option (List CidName)
  locations : StorageMap CommunityIdentifier (Finset Location)

def OffchainStorage.empty : OffchainStorage := ⟨none, ∅, none, ∅⟩

def OffchainStorage.index (storage : OffchainStorage) (index : OffchainIndex) : OffchainStorage :=
  { storage with
    cacheDirty := if index.dirty then some true else storage.cacheDirty
    names := index.names.foldl (fun names e => names.insert e.1 e.2) storage.names }

variable (storage : OffchainStorage)

/-- Dirty when it was never set. -/
def cacheDirty : Bool := storage.cacheDirty.getD true

/-- The locations by the runtime; the order of the buckets in storage is left out. -/
def locationsOf (s : Runtime AccountId) (cid : CommunityIdentifier) : Finset Location :=
  (Communities.getLocations s.communities cid).toFinset

/-- A community without an indexed name is left out, and entries of others stay. -/
def refreshCache (s : Runtime AccountId) : OffchainStorage :=
  let cids := s.communities.communityIdentifiers
  { storage with
    cacheDirty := some false
    cids := some (cids.filterMap fun cid => (storage.names.lookup cid).map (CidName.mk cid))
    locations := cids.foldl (fun locations cid => locations.insert cid (locationsOf s cid))
      storage.locations }

inductive RpcError where
  | offchainIndexingDisabled
  | offchainStorageNotFound
  /-- The block is not known. -/
  | runtime
  deriving DecidableEq, Repr

/-- The cache that a query reads, after a refresh from the state at its block if it is dirty. -/
def readCache (state : Option (Runtime AccountId)) : Except RpcError OffchainStorage :=
  if cacheDirty storage then
    match state with
    | none => .error .runtime
    | some s => .ok (refreshCache storage s)
  else
    .ok storage

def communitiesGetAll (offchainIndexing : Bool) (state : Option (Runtime AccountId)) :
    Except RpcError (List CidName) × OffchainStorage :=
  if offchainIndexing = false then
    (.error .offchainIndexingDisabled, storage)
  else
    match readCache storage state with
    | .error e => (.error e, storage)
    | .ok cache =>
        match cache.cids with
        | some cids => (.ok cids, cache)
        | none => (.error .offchainStorageNotFound, cache)

def communitiesGetLocations (offchainIndexing : Bool) (cid : CommunityIdentifier)
    (state : Option (Runtime AccountId)) :
    Except RpcError (Finset Location) × OffchainStorage :=
  if offchainIndexing = false then
    (.error .offchainIndexingDisabled, storage)
  else
    match readCache storage state with
    | .error e => (.error e, storage)
    | .ok cache =>
        match cache.locations.lookup cid with
        | some locations => (.ok locations, cache)
        | none => (.error .offchainStorageNotFound, cache)

/-! ## The node -/

/-- Every state that the chain has passed counts as a block. -/
structure Node (AccountId : Type) where
  runtime : Runtime AccountId
  earlier : List (Runtime AccountId)
  offchain : OffchainStorage

/-- The runtime takes an action, or somebody asks, for a block or for the best one. -/
inductive NodeEvent (AccountId : Type) where
  | action (action : Action AccountId)
  | communitiesGetAll (block : Option Nat)
  | communitiesGetLocations (cid : CommunityIdentifier) (block : Option Nat)

variable (node : Node AccountId)

def Node.stateAt : Option Nat → Option (Runtime AccountId)
  | none => some node.runtime
  | some block => (node.earlier ++ [node.runtime])[block]?

/-- What a failing action indexes is rolled back with it. -/
def Node.step : NodeEvent AccountId → Node AccountId
  | .action action =>
      match Dispatch.dispatch config node.runtime action with
      | .ok (s, _) =>
          { runtime := s
            earlier := node.earlier ++ [node.runtime]
            offchain := node.offchain.index (Dispatch.offchainIndex config node.runtime action) }
      | .error _ => node
  | .communitiesGetAll block =>
      { node with
        offchain := (communitiesGetAll node.offchain true (node.stateAt block)).2 }
  | .communitiesGetLocations cid block =>
      { node with
        offchain := (communitiesGetLocations node.offchain true cid (node.stateAt block)).2 }

def Node.run (events : List (NodeEvent AccountId)) : Node AccountId :=
  Machine.run (Node.step config) node events

def Node.genesis (genesis : GenesisConfig) (nativeBalances : StorageMap AccountId Nat)
    (assetBalances : StorageMap (AccountId × AssetKind) Nat) : Node AccountId :=
  ⟨genesis.build nativeBalances assetBalances, [], .empty⟩

end CommunitiesRpc

end Encointer
