import Encointer.Runtime.Dispatch

/-!
# Reputations by remote procedure call

The node caches the reputations of an account in its offchain storage. The
runtime marks the cache of an account as dirty, and the node refreshes it when
it is asked for the account.
-/

namespace Encointer

structure CeremonyInfo where
  ceremonyPhase : CeremonyPhaseType
  ceremonyIndex : Nat
  deriving DecidableEq, Repr

structure CommunityReputation where
  communityIdentifier : CommunityIdentifier
  reputation : Reputation
  deriving DecidableEq, Repr

structure ReputationCacheValue where
  ceremonyInfo : CeremonyInfo
  reputation : Finset (Nat × CommunityReputation)
  deriving DecidableEq

variable {AccountId : Type} [DecidableEq AccountId]

namespace Ceremonies

/-- The entries of the account; the order of the keys in storage is left out. -/
def getReputations (s : Runtime AccountId) (account : AccountId) :
    Finset (Nat × CommunityReputation) :=
  ((s.ceremonies.participantReputation.entries.filter fun t => t.1.2 = account).map fun t =>
    (t.1.1.2, ⟨t.1.1.1, t.2⟩)).toFinset

def getCeremonyInfo (s : Runtime AccountId) : CeremonyInfo :=
  ⟨s.scheduler.currentPhase, s.scheduler.currentCeremonyIndex⟩

/-! ## What the runtime marks -/

/-- The participants that the rewards loop visits. -/
def legitParticipants (s : Runtime AccountId) (sender : AccountId) (cid : CommunityIdentifier)
    (maybeMeetupIndex : Option Nat) : Except DispatchError (List AccountId) := do
  let cindex ← claimCindex s
  let meetupIndex ← meetupIndexOrOwn s (cid, cindex) sender maybeMeetupIndex
  let meetupParticipants ← getMeetupParticipants s.ceremonies (cid, cindex) meetupIndex
  match judgeMeetup s (cid, cindex) meetupParticipants with
  | .ok judgements => .ok (judgements.legit.filterMap fun i => meetupParticipants[i]?)
  | .error _ => .ok []

/-- The accounts whose cache a successful call marks as dirty. -/
def markedDirty (s : Runtime AccountId) : Action AccountId → List AccountId
  | .registerParticipant sender _ _ => [sender]
  | .upgradeRegistration sender _ _ => [sender]
  | .unregisterParticipant sender cid (some _) =>
      match getParticipantType s.ceremonies (cid, registrationCindex s) sender with
      | some .reputable | some .bootstrapper => [sender]
      | _ => []
  | .claimRewards sender cid maybeMeetupIndex =>
      match legitParticipants s sender cid maybeMeetupIndex with
      | .ok participants => participants
      | .error _ => []
  | _ => []

end Ceremonies

namespace CeremoniesRpc

/-- The entries of the offchain storage under the two keys of an account. -/
structure OffchainStorage (AccountId : Type) where
  reputationCacheDirty : StorageMap AccountId Bool
  reputationCache : StorageMap AccountId ReputationCacheValue

def OffchainStorage.setDirty (storage : OffchainStorage AccountId) (accounts : List AccountId) :
    OffchainStorage AccountId :=
  { storage with
    reputationCacheDirty := accounts.foldl (fun dirty account => dirty.insert account true)
      storage.reputationCacheDirty }

variable (storage : OffchainStorage AccountId) (s : Runtime AccountId) (account : AccountId)

/-- Dirty when it was never set. -/
def cacheDirty : Bool := storage.reputationCacheDirty.get account true

def refreshReputationCache (ceremonyInfo : CeremonyInfo) :
    ReputationCacheValue × OffchainStorage AccountId :=
  let reputation := Ceremonies.getReputations s account
  let reputationCacheValue := ⟨ceremonyInfo, reputation⟩
  (reputationCacheValue,
    { reputationCache := storage.reputationCache.insert account reputationCacheValue
      reputationCacheDirty := storage.reputationCacheDirty.insert account false })

inductive RpcError where
  | offchainIndexingDisabled
  deriving DecidableEq, Repr

/-- The state of the runtime is the one at the block of the query. -/
def getReputations (offchainIndexing : Bool) :
    Except RpcError (Finset (Nat × CommunityReputation)) × OffchainStorage AccountId :=
  if offchainIndexing = false then
    (.error .offchainIndexingDisabled, storage)
  else
    let ceremonyInfo := Ceremonies.getCeremonyInfo s
    let (refreshed, refreshedStorage) := refreshReputationCache storage s account ceremonyInfo
    if cacheDirty storage account then
      (.ok refreshed.reputation, refreshedStorage)
    else
      match storage.reputationCache.lookup account with
      | some reputationCacheValue =>
          if ceremonyInfo = reputationCacheValue.ceremonyInfo then
            (.ok reputationCacheValue.reputation, storage)
          else
            (.ok refreshed.reputation, refreshedStorage)
      | none => (.ok refreshed.reputation, refreshedStorage)

/-! ## The node -/

structure Node (AccountId : Type) where
  chain : Chain AccountId
  offchain : OffchainStorage AccountId

/-- The runtime takes an action, or somebody asks for the best block. -/
inductive NodeEvent (AccountId : Type) where
  | action (action : Action AccountId)
  | getReputations (account : AccountId)

variable (config : Config AccountId)

/-- What a failing action marks is rolled back with it. -/
def Node.step (node : Node AccountId) : NodeEvent AccountId → Node AccountId
  | .action action =>
      match Dispatch.dispatch config node.chain.runtime action with
      | .ok _ =>
          { chain := node.chain.step config action
            offchain := node.offchain.setDirty
              (Ceremonies.markedDirty node.chain.runtime action) }
      | .error _ => node
  | .getReputations account =>
      { node with
        offchain := (CeremoniesRpc.getReputations node.offchain node.chain.runtime account true).2 }

def Node.run (node : Node AccountId) (events : List (NodeEvent AccountId)) : Node AccountId :=
  Machine.run (Node.step config) node events

def Node.answer (node : Node AccountId) (account : AccountId) :
    Except RpcError (Finset (Nat × CommunityReputation)) :=
  (CeremoniesRpc.getReputations node.offchain node.chain.runtime account true).1

end CeremoniesRpc

end Encointer
