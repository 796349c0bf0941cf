import Encointer.Runtime.Storage

/-!
# Reputation commitments

A verified reputation can be committed once to each registered purpose. The
commitments to old ceremonies are purged with their reputations.
-/

namespace Encointer.Commitments

open Checked

variable {AccountId : Type} [DecidableEq AccountId]

def doRegisterPurpose (commitments : CommitmentsStorage AccountId) (descriptor : PalletString) :
    Except DispatchError (CommitmentsStorage AccountId × Nat) := do
  let currentId := commitments.currentPurposeId
  let nextId ← okOr (addU64 currentId 1) .purposeRegistryOverflow
  .ok ({ commitments with
      currentPurposeId := nextId
      purposes := commitments.purposes.insert currentId descriptor },
    currentId)

variable (s : Runtime AccountId)

def doCommitReputation (account : AccountId) (cid : CommunityIdentifier)
    (cindex : Nat) (purpose : Nat)
    (commitmentHash : Option (Vector UInt8 32)) :
    Except DispatchError (CommitmentsStorage AccountId) := do
  let commitments := s.commitments
  ensure (commitments.purposes.contains purpose = true) .inexistentPurpose
  ensure ((s.ceremonies.participantReputation.get ((cid, cindex), account)
    .unverified).isVerified = true) .noReputation
  ensure (commitments.commitments.contains ((cid, cindex), (purpose, account)) = false)
    .alreadyCommitted
  .ok { commitments with
    commitments :=
      commitments.commitments.insert ((cid, cindex), (purpose, account)) commitmentHash }

/-- All registered communities lose their commitments at `cindex`. -/
def purgeRegistry (cindex : Nat) : CommitmentsStorage AccountId :=
  { s.commitments with
    commitments := s.communities.communityIdentifiers.foldl
      (fun commitments cid => commitments.removePrefix (cid, cindex))
      s.commitments.commitments }

def onCeremonyPhaseChange (newPhase : CeremonyPhaseType) : CommitmentsStorage AccountId :=
  match newPhase with
  | .assigning => s.commitments
  | .attesting => s.commitments
  | .registering =>
      let reputationLifetime := s.ceremonies.reputationLifetime
      let cindex := s.scheduler.currentCeremonyIndex
      if reputationLifetime < cindex then
        purgeRegistry s (cindex - reputationLifetime - 1)
      else
        s.commitments

/-! ## Calls -/

def registerPurpose (descriptor : PalletString) :
    Except DispatchError (CommitmentsStorage AccountId) := do
  ensure (descriptor.length ≤ 128) .undecodable
  let (commitments, _) ← doRegisterPurpose s.commitments descriptor
  .ok commitments

def commitReputation (sender : AccountId) (cid : CommunityIdentifier)
    (cindex : Nat) (purpose : Nat)
    (commitmentHash : Option (Vector UInt8 32)) :
    Except DispatchError (CommitmentsStorage AccountId) :=
  doCommitReputation s sender cid cindex purpose commitmentHash

end Encointer.Commitments
