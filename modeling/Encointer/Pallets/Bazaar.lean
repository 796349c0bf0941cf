import Encointer.Runtime.Dispatch

/-!
# The bazaar

Members of a community run businesses there, and offer articles. The offerings
of a business are numbered by a counter that the business keeps.
-/

namespace Encointer

namespace Bazaar

inductive Error where
  | nonexistentCommunity
  | existingBusiness
  | nonexistentBusiness
  | nonexistentOffering
  /-- An argument does not fit its type, so the call cannot be decoded. -/
  | undecodable
  deriving DecidableEq, Repr

structure BusinessIdentifier (AccountId : Type) where
  communityIdentifier : CommunityIdentifier
  /-- The account that has the power to manage a business and its offerings. -/
  controller : AccountId
  deriving DecidableEq, Repr

structure BusinessData where
  url : PalletString
  /-- The identifier of the next offering. -/
  lastOid : UInt32
  deriving DecidableEq, Repr

structure OfferingData where
  url : PalletString
  deriving DecidableEq, Repr

structure Storage (AccountId : Type) where
  businessRegistry : StorageMap (CommunityIdentifier × AccountId) BusinessData
  offeringRegistry : StorageMap (BusinessIdentifier AccountId × UInt32) OfferingData

inductive Event (AccountId : Type) where
  | businessCreated (cid : CommunityIdentifier) (who : AccountId)
  | businessUpdated (cid : CommunityIdentifier) (who : AccountId)
  | businessDeleted (cid : CommunityIdentifier) (who : AccountId)
  | offeringCreated (cid : CommunityIdentifier) (who : AccountId) (oid : UInt32)
  | offeringUpdated (cid : CommunityIdentifier) (who : AccountId) (oid : UInt32)
  | offeringDeleted (cid : CommunityIdentifier) (who : AccountId) (oid : UInt32)
  deriving DecidableEq, Repr

def BusinessData.default : BusinessData := ⟨[], 0⟩

def OfferingData.default : OfferingData := ⟨[]⟩

variable {AccountId : Type} [DecidableEq AccountId]

/-! ## Calls -/

section

variable (communityIdentifiers : List CommunityIdentifier) (storage : Storage AccountId)
  (sender : AccountId) (cid : CommunityIdentifier)

def createBusiness (url : PalletString) : Except Error (Storage AccountId × Event AccountId) := do
  ensure (cid ∈ communityIdentifiers) .nonexistentCommunity
  ensure (storage.businessRegistry.contains (cid, sender) = false) .existingBusiness
  .ok ({ storage with
      businessRegistry := storage.businessRegistry.insert (cid, sender) ⟨url, 1⟩ },
    .businessCreated cid sender)

def updateBusiness (url : PalletString) : Except Error (Storage AccountId × Event AccountId) := do
  ensure (storage.businessRegistry.contains (cid, sender) = true) .nonexistentBusiness
  .ok ({ storage with
      businessRegistry := storage.businessRegistry.insert (cid, sender)
        { storage.businessRegistry.get (cid, sender) .default with url := url } },
    .businessUpdated cid sender)

def deleteBusiness : Except Error (Storage AccountId × Event AccountId) := do
  ensure (storage.businessRegistry.contains (cid, sender) = true) .nonexistentBusiness
  .ok (⟨storage.businessRegistry.erase (cid, sender),
      storage.offeringRegistry.removePrefix ⟨cid, sender⟩⟩,
    .businessDeleted cid sender)

/-- The counter wraps as in release builds. -/
def createOffering (url : PalletString) : Except Error (Storage AccountId × Event AccountId) := do
  ensure (storage.businessRegistry.contains (cid, sender) = true) .nonexistentBusiness
  let business := storage.businessRegistry.get (cid, sender) .default
  let oid := business.lastOid
  .ok (⟨storage.businessRegistry.insert (cid, sender)
        { business with lastOid := business.lastOid + 1 },
      storage.offeringRegistry.insert (⟨cid, sender⟩, oid) ⟨url⟩⟩,
    .offeringCreated cid sender oid)

def updateOffering (oid : UInt32) (url : PalletString) :
    Except Error (Storage AccountId × Event AccountId) := do
  let businessIdentifier : BusinessIdentifier AccountId := ⟨cid, sender⟩
  ensure (storage.offeringRegistry.contains (businessIdentifier, oid) = true) .nonexistentOffering
  .ok ({ storage with
      offeringRegistry := storage.offeringRegistry.insert (businessIdentifier, oid)
        { storage.offeringRegistry.get (businessIdentifier, oid) .default with url := url } },
    .offeringUpdated cid sender oid)

def deleteOffering (oid : UInt32) : Except Error (Storage AccountId × Event AccountId) := do
  let businessIdentifier : BusinessIdentifier AccountId := ⟨cid, sender⟩
  ensure (storage.offeringRegistry.contains (businessIdentifier, oid) = true) .nonexistentOffering
  .ok ({ storage with
      offeringRegistry := storage.offeringRegistry.erase (businessIdentifier, oid) },
    .offeringDeleted cid sender oid)

end

inductive Call where
  | createBusiness (cid : CommunityIdentifier) (url : PalletString)
  | updateBusiness (cid : CommunityIdentifier) (url : PalletString)
  | deleteBusiness (cid : CommunityIdentifier)
  | createOffering (cid : CommunityIdentifier) (url : PalletString)
  | updateOffering (cid : CommunityIdentifier) (oid : UInt32) (url : PalletString)
  | deleteOffering (cid : CommunityIdentifier) (oid : UInt32)
  deriving DecidableEq, Repr

namespace Call

def cid : Call → CommunityIdentifier
  | createBusiness cid _ | updateBusiness cid _ | deleteBusiness cid | createOffering cid _
  | updateOffering cid _ _ | deleteOffering cid _ => cid

def url : Call → Option PalletString
  | createBusiness _ url | updateBusiness _ url | createOffering _ url
  | updateOffering _ _ url => some url
  | deleteBusiness _ | deleteOffering _ _ => none

/-- A `PalletString` has room for 256 bytes. -/
def decodes (call : Call) : Bool := call.url.all fun url => url.length ≤ 256

end Call

def dispatch (communityIdentifiers : List CommunityIdentifier) (storage : Storage AccountId)
    (sender : AccountId) (call : Call) : Except Error (Storage AccountId × Event AccountId) := do
  ensure (call.decodes = true) .undecodable
  match call with
  | .createBusiness cid url => createBusiness communityIdentifiers storage sender cid url
  | .updateBusiness cid url => updateBusiness storage sender cid url
  | .deleteBusiness cid => deleteBusiness storage sender cid
  | .createOffering cid url => createOffering storage sender cid url
  | .updateOffering cid oid url => updateOffering storage sender cid oid url
  | .deleteOffering cid oid => deleteOffering storage sender cid oid

/-! ## Queries -/

section

variable (storage : Storage AccountId)

def getBusinesses (cid : CommunityIdentifier) : List (AccountId × BusinessData) :=
  storage.businessRegistry.entries.filterMap fun e =>
    if e.1.1 = cid then some (e.1.2, e.2) else none

def getOfferings (bid : BusinessIdentifier AccountId) : List OfferingData :=
  storage.offeringRegistry.entries.filterMap fun e => if e.1.1 = bid then some e.2 else none

end

end Bazaar

/-! ## The RPC of the bazaar -/

namespace Rpc.Bazaar

open Encointer.Bazaar

variable {AccountId : Type} [DecidableEq AccountId] (storage : Storage AccountId)

/-- The offerings of all businesses of the community, one business after the other. -/
def getOfferings (cid : CommunityIdentifier) : List OfferingData :=
  (Encointer.Bazaar.getBusinesses storage cid).flatMap fun bid =>
    Encointer.Bazaar.getOfferings storage ⟨cid, bid.1⟩

end Rpc.Bazaar

/-! ## The chain with its bazaar -/

structure BazaarChain (AccountId : Type) where
  chain : Chain AccountId
  bazaar : Bazaar.Storage AccountId

inductive BazaarAction (AccountId : Type) where
  | other (action : Action AccountId)
  | bazaar (sender : AccountId) (call : Bazaar.Call)

namespace BazaarChain

variable {AccountId : Type} [DecidableEq AccountId] (config : Config AccountId)
  (s : BazaarChain AccountId)

def communityIdentifiers : List CommunityIdentifier :=
  s.chain.runtime.communities.communityIdentifiers

/-- A failing action changes nothing. -/
def step : BazaarAction AccountId → BazaarChain AccountId
  | .other action => { s with chain := s.chain.step config action }
  | .bazaar sender call =>
      match Bazaar.dispatch s.communityIdentifiers s.bazaar sender call with
      | .ok (storage, _) => { s with bazaar := storage }
      | .error _ => s

/-- The event that the action deposits, if it is a call that succeeds. -/
def events : BazaarAction AccountId → List (Bazaar.Event AccountId)
  | .other _ => []
  | .bazaar sender call =>
      match Bazaar.dispatch s.communityIdentifiers s.bazaar sender call with
      | .ok (_, event) => [event]
      | .error _ => []

def genesis (chain : Chain AccountId) : BazaarChain AccountId := ⟨chain, ⟨∅, ∅⟩⟩

end BazaarChain

end Encointer
