import Encointer.Primitives.Ceremonies

/-!
# Democracy primitives

Proposals, what they do when enacted, and who may vote on them. Proposals and
the purposes of commitments are numbered.
-/

namespace Encointer

abbrev AssetKind := List UInt8

structure Tally where
  turnout : Nat
  ayes : Nat
  deriving DecidableEq, Repr

inductive Vote where
  | aye
  | nay
  deriving DecidableEq, Repr

inductive ProposalAccessPolicy where
  | global
  | community (cid : CommunityIdentifier)
  deriving DecidableEq, Repr

structure SwapNativeOption where
  cid : CommunityIdentifier
  nativeAllowance : Nat
  rate : Option Nat
  doBurn : Bool
  validFrom : Option Nat
  validUntil : Option Nat
  deriving DecidableEq, Repr

structure SwapAssetOption where
  cid : CommunityIdentifier
  assetId : AssetKind
  assetAllowance : Nat
  rate : Option Nat
  doBurn : Bool
  validFrom : Option Nat
  validUntil : Option Nat
  deriving DecidableEq, Repr

inductive ProposalAction (AccountId : Type) where
  | addLocation (cid : CommunityIdentifier) (location : Location)
  | removeLocation (cid : CommunityIdentifier) (location : Location)
  | updateCommunityMetadata (cid : CommunityIdentifier) (metadata : CommunityMetadata)
  | updateDemurrage (cid : CommunityIdentifier) (demurrage : Demurrage)
  | updateNominalIncome (cid : CommunityIdentifier) (nominalIncome : Nat)
  | setInactivityTimeout (inactivityTimeout : Nat)
  | petition (maybeCid : Option CommunityIdentifier) (petition : PalletString)
  | spendNative (maybeCid : Option CommunityIdentifier) (beneficiary : AccountId) (amount : Nat)
  | issueSwapNativeOption (cid : CommunityIdentifier) (owner : AccountId)
      (swapOption : SwapNativeOption)
  | spendAsset (maybeCid : Option CommunityIdentifier) (beneficiary : AccountId) (amount : Nat)
      (assetId : AssetKind)
  | issueSwapAssetOption (cid : CommunityIdentifier) (owner : AccountId)
      (swapOption : SwapAssetOption)
  deriving DecidableEq, Repr

inductive ProposalActionIdentifier where
  | addLocation (cid : CommunityIdentifier)
  | removeLocation (cid : CommunityIdentifier)
  | updateCommunityMetadata (cid : CommunityIdentifier)
  | updateDemurrage (cid : CommunityIdentifier)
  | updateNominalIncome (cid : CommunityIdentifier)
  | setInactivityTimeout
  | petition (maybeCid : Option CommunityIdentifier)
  | spendNative (maybeCid : Option CommunityIdentifier)
  | issueSwapNativeOption (cid : CommunityIdentifier)
  | spendAsset (maybeCid : Option CommunityIdentifier)
  | issueSwapAssetOption (cid : CommunityIdentifier)
  deriving DecidableEq, Repr

variable {AccountId : Type}

def ProposalAction.getAccessPolicy : ProposalAction AccountId → ProposalAccessPolicy
  | .addLocation cid _ => .community cid
  | .removeLocation cid _ => .community cid
  | .updateCommunityMetadata cid _ => .community cid
  | .updateDemurrage cid _ => .community cid
  | .updateNominalIncome cid _ => .community cid
  | .setInactivityTimeout _ => .global
  | .petition (some cid) _ => .community cid
  | .petition none _ => .global
  | .spendNative (some cid) _ _ => .community cid
  | .spendNative none _ _ => .global
  | .issueSwapNativeOption cid _ _ => .community cid
  | .spendAsset (some cid) _ _ _ => .community cid
  | .spendAsset none _ _ _ => .global
  | .issueSwapAssetOption cid _ _ => .community cid

def ProposalAction.getIdentifier : ProposalAction AccountId → ProposalActionIdentifier
  | .addLocation cid _ => .addLocation cid
  | .removeLocation cid _ => .removeLocation cid
  | .updateCommunityMetadata cid _ => .updateCommunityMetadata cid
  | .updateDemurrage cid _ => .updateDemurrage cid
  | .updateNominalIncome cid _ => .updateNominalIncome cid
  | .setInactivityTimeout _ => .setInactivityTimeout
  | .petition maybeCid _ => .petition maybeCid
  | .spendNative maybeCid _ _ => .spendNative maybeCid
  | .issueSwapNativeOption cid _ _ => .issueSwapNativeOption cid
  | .spendAsset maybeCid _ _ _ => .spendAsset maybeCid
  | .issueSwapAssetOption cid _ _ => .issueSwapAssetOption cid

/-- Whether an approved action supersedes other proposals of the same action type. -/
def ProposalAction.supersedesSameAction : ProposalAction AccountId → Bool
  | .addLocation _ _ => true
  | .removeLocation _ _ => true
  | .updateCommunityMetadata _ _ => true
  | .updateDemurrage _ _ => true
  | .updateNominalIncome _ _ => true
  | .setInactivityTimeout _ => true
  | .petition _ _ => false
  | .spendNative _ _ _ => false
  | .issueSwapNativeOption _ _ _ => false
  | .spendAsset _ _ _ _ => false
  | .issueSwapAssetOption _ _ _ => false

inductive ProposalState where
  | ongoing
  | confirming (since : Nat)
  | approved
  | supersededBy (id : Nat)
  | rejected
  | enacted
  deriving DecidableEq, Repr

def ProposalState.canUpdate : ProposalState → Bool
  | .confirming _ | .ongoing => true
  | _ => false

structure Proposal (AccountId : Type) where
  start : Nat
  startCindex : Nat
  action : ProposalAction AccountId
  state : ProposalState
  electorateSize : Nat
  deriving DecidableEq, Repr

end Encointer
