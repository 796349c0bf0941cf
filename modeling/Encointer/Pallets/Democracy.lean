import Encointer.Pallets.Ceremonies
import Encointer.Pallets.Commitments
import Encointer.Pallets.Treasuries

/-!
# Democracy

Reputations vote on proposals. A proposal is approved when it passes during the
confirmation period, and enacted when the next assigning phase starts.
-/

namespace Encointer.Democracy

open Checked

variable {AccountId : Type} [DecidableEq AccountId] (config : Config AccountId)
  (s : Runtime AccountId)

/-! ## The electorate -/

/-- A positive lifetime in cycles, rounded up. -/
def proposalLifetimeCycles : Except DispatchError Nat :=
  let cycleDuration := Scheduler.getCycleDuration s.scheduler
  if cycleDuration = 0 then
    .error .mathError
  else
    .ok ((config.proposalLifetime + cycleDuration - 1) / cycleDuration)

/--
The ceremony indices eligible for voting: the oldest reputation still exists at
the end of the proposal lifetime, and the reputation counts do not change any
more.
-/
def votingCindexes (proposalStart : Nat) :
    Except DispatchError (List Nat) := do
  let lifetimeCycles ← proposalLifetimeCycles config s
  let lowerBound := proposalStart - s.ceremonies.reputationLifetime + saturateU32 lifetimeCycles
  .ok (List.range' lowerBound (proposalStart - 2 + 1 - lowerBound))

def communityElectorate (cid : CommunityIdentifier) (cindexes : List Nat) : Nat :=
  (cindexes.map fun cindex => s.ceremonies.reputationCount.get (cid, cindex) 0).sum

def globalElectorate (cindexes : List Nat) : Nat :=
  (cindexes.map fun cindex => s.ceremonies.globalReputationCount.get cindex 0).sum

def electorateOf (policy : ProposalAccessPolicy) (cindexes : List Nat) : Nat :=
  match policy with
  | .community cid => communityElectorate s cid cindexes
  | .global => globalElectorate s cindexes

def getElectorate (startCindex : Nat) (action : ProposalAction AccountId) :
    Except DispatchError Nat := do
  let cindexes ← votingCindexes config s startCindex
  .ok (electorateOf s action.getAccessPolicy cindexes)

/-! ## Submission -/

/-- The text under which the purpose of a proposal is registered. -/
def proposalIdentifier (id : Nat) : PalletString :=
  ("democracyProposal" ++ toString id).toUTF8.toList

def submitProposal (action : ProposalAction AccountId) :
    Except DispatchError (CommitmentsStorage AccountId × DemocracyStorage AccountId) := do
  let democracy := s.democracy
  ensure (democracy.enactmentQueue.contains action.getIdentifier = false)
    .proposalWaitingForEnactment
  let cindex := s.scheduler.currentCeremonyIndex
  ensure (democracy.proposalCount + 1 < 2 ^ 128) .proposalIdOutOfBounds
  let nextProposalId := democracy.proposalCount + 1
  let electorateSize ← getElectorate config s cindex action
  let (commitments, purposeId) ←
    Commitments.doRegisterPurpose s.commitments (proposalIdentifier nextProposalId)
  .ok (commitments, { democracy with
    proposals := democracy.proposals.insert nextProposalId
      ⟨s.now, cindex, action, .ongoing, electorateSize⟩
    purposeIds := democracy.purposeIds.insert nextProposalId purposeId
    proposalCount := nextProposalId
    tallies := democracy.tallies.insert nextProposalId ⟨0, 0⟩ })

/-! ## Passing -/

/-- `U64F64::from_num`, which panics on a value that does not fit. -/
def fromNum (n : Nat) : Except DispatchError Nat :=
  if n < 2 ^ 64 then .ok (n * 2 ^ 64) else .error .panicked

/-- A product or quotient of the fixed-point numbers, when it fits. -/
def checkedU64F64 (bits : Nat) : Option Nat := if bits < 2 ^ 128 then some bits else none

def checkedDivU64F64 (a b : Nat) : Option Nat :=
  if b = 0 then none else checkedU64F64 (a * 2 ^ 64 / b)

/-- `sqrt(e) * sqrt(t) / (sqrt(e) / sqrt(t) + 1)`. -/
def approvalThreshold (sqrtE sqrtT : Nat) : Option Nat := do
  let product ← checkedU64F64 (sqrtE * sqrtT / 2 ^ 64)
  let quotient ← checkedDivU64F64 sqrtE sqrtT
  let divisor ← checkedU64F64 (quotient + 2 ^ 64)
  checkedDivU64F64 product divisor

/-- Electorate `e`, turnout `t` and approval `a`. -/
def positiveTurnoutBias (e t a : Nat) : Except DispatchError Bool := do
  let sqrtE ← okOr (config.sqrt (← fromNum e)) .aqbError
  let sqrtT ← okOr (config.sqrt (← fromNum t)) .aqbError
  let threshold ← okOr (approvalThreshold sqrtE sqrtT) .aqbError
  let approval ← fromNum a
  .ok (threshold < approval)

def isPassing (proposalId : Nat) : Except DispatchError Bool := do
  let tally ← okOr (s.democracy.tallies.lookup proposalId) .inexistentProposal
  let proposal ← okOr (s.democracy.proposals.lookup proposalId) .inexistentProposal
  let turnoutPerthousand := tally.turnout * 1000 / proposal.electorateSize
  if turnoutPerthousand < config.minTurnout then
    .ok false
  else
    positiveTurnoutBias config proposal.electorateSize tally.turnout tally.ayes

/-! ## The state of a proposal -/

/-- Maximum number of proposals per action type in the enactment queue. -/
def enactmentQueueMaxPerType : Nat := 128

/-- A full queue is logged, and the proposal is approved without being queued. -/
def enqueue (queue : StorageMap ProposalActionIdentifier (List Nat))
    (identifier : ProposalActionIdentifier) (proposalId : Nat) :
    StorageMap ProposalActionIdentifier (List Nat) :=
  let waiting := queue.get identifier []
  if waiting.length < enactmentQueueMaxPerType then
    queue.insert identifier (waiting ++ [proposalId])
  else
    queue

/-- The approved proposal that this one yields to, if it was submitted before the approval. -/
def supersededBy (proposal : Proposal AccountId) : Option Nat :=
  match s.democracy.lastApprovedProposalForAction.lookup proposal.action.getIdentifier with
  | none => none
  | some (approvedAt, id) =>
      if proposal.action.supersedesSameAction ∧ proposal.start < approvedAt then some id else none

/-- The state after an update that no other proposal cancels. -/
def updatedState (proposal : Proposal AccountId) (passing : Bool) : ProposalState :=
  let proposalTooOld := config.proposalLifetime < s.now - proposal.start
  match passing, proposal.state with
  | true, .confirming since =>
      if config.confirmationPeriod < s.now - since then .approved else proposal.state
  | true, _ => if proposalTooOld then .rejected else .confirming s.now
  | false, .confirming _ => if proposalTooOld then .rejected else .ongoing
  | false, _ => if proposalTooOld then .rejected else proposal.state

def setProposalState (proposalId : Nat) (proposal : Proposal AccountId)
    (state : ProposalState) : DemocracyStorage AccountId :=
  { s.democracy with
    proposals := s.democracy.proposals.insert proposalId { proposal with state := state } }

/-- An approved proposal waits for its enactment. -/
def approve (democracy : DemocracyStorage AccountId) (now : Nat) (proposalId : Nat)
    (identifier : ProposalActionIdentifier) : DemocracyStorage AccountId :=
  { democracy with
    enactmentQueue := enqueue democracy.enactmentQueue identifier proposalId
    lastApprovedProposalForAction :=
      democracy.lastApprovedProposalForAction.insert identifier (now, proposalId) }

def doUpdateProposalState (proposalId : Nat) :
    Except DispatchError (DemocracyStorage AccountId) := do
  let proposal ← okOr (s.democracy.proposals.lookup proposalId) .inexistentProposal
  ensure (proposal.state.canUpdate = true) .proposalCannotBeUpdated
  match supersededBy s proposal with
  | some id => .ok (setProposalState s proposalId proposal (.supersededBy id))
  | none =>
      let passing ← isPassing config s proposalId
      let state := updatedState config s proposal passing
      let democracy := setProposalState s proposalId proposal state
      .ok (if state = .approved then
        approve democracy s.now proposalId proposal.action.getIdentifier
      else
        democracy)

/-! ## Voting -/

/-- Whether a reputation may vote, apart from being valid and unused. -/
def isEligible (cindexes : List Nat) (policy : ProposalAccessPolicy)
    (cc : CommunityCeremony) : Bool :=
  cc.2 ∈ cindexes &&
    match policy with
    | .community cid => cc.1 = cid
    | .global => true

/-- The new commitments and the reputations that count; the source returns their number. -/
def commitReputations (cindexes : List Nat) (policy : ProposalAccessPolicy)
    (purposeId : Nat) (account : AccountId) :
    List CommunityCeremony → CommitmentsStorage AccountId →
      CommitmentsStorage AccountId × List CommunityCeremony
  | [], commitments => (commitments, [])
  | cc :: reputations, commitments =>
      if isEligible cindexes policy cc then
        match Commitments.doCommitReputation { s with commitments := commitments } account cc.1
            cc.2 purposeId none with
        | .error _ =>
            commitReputations cindexes policy purposeId account reputations commitments
        | .ok commitments =>
            let (commitments, counted) :=
              commitReputations cindexes policy purposeId account reputations commitments
            (commitments, cc :: counted)
      else
        commitReputations cindexes policy purposeId account reputations commitments

/-- The voting range can only fail when there is a reputation to check. -/
def validateAndCommitReputations (proposalId : Nat) (account : AccountId)
    (reputations : List CommunityCeremony) :
    Except DispatchError (CommitmentsStorage AccountId × List CommunityCeremony) := do
  let proposal ← okOr (s.democracy.proposals.lookup proposalId) .inexistentProposal
  let purposeId ← okOr (s.democracy.purposeIds.lookup proposalId) .inexistentProposal
  if reputations.isEmpty then
    .ok (s.commitments, [])
  else
    let cindexes ← votingCindexes config s proposal.startCindex
    .ok (commitReputations s cindexes proposal.action.getAccessPolicy purposeId account
      reputations s.commitments)

/-- The tally is read before the reputations are committed. -/
def vote (sender : AccountId) (proposalId : Nat) (vote : Vote)
    (reputations : List CommunityCeremony) :
    Except DispatchError
      (CommitmentsStorage AccountId × DemocracyStorage AccountId × List CommunityCeremony) := do
  ensure (reputations.length ≤ config.maxReputationCount) .undecodable
  let tally ← okOr (s.democracy.tallies.lookup proposalId) .inexistentProposal
  let democracy ← doUpdateProposalState config s proposalId
  let (commitments, counted) ← validateAndCommitReputations config
    { s with democracy := democracy } proposalId sender reputations
  let ayes :=
    match vote with
    | .aye => counted.length
    | .nay => 0
  ensure (tally.turnout + counted.length < 2 ^ 128 ∧ tally.ayes + ayes < 2 ^ 128)
    .voteCountOverflow
  let democracy := { democracy with
    tallies := democracy.tallies.insert proposalId
      ⟨tally.turnout + counted.length, tally.ayes + ayes⟩ }
  let democracy ← doUpdateProposalState config
    { s with commitments := commitments, democracy := democracy } proposalId
  .ok (commitments, democracy, counted)

/-! ## Enactment -/

def enactAction :
    ProposalAction AccountId → Runtime AccountId × Except DispatchError Unit
  | .addLocation cid location =>
      let (communities, result) := Communities.doAddLocation config s.communities cid location
      ({ s with communities := communities }, result)
  | .removeLocation cid location =>
      match Communities.doRemoveLocation config s.communities cid location with
      | .error e => (s, .error e)
      | .ok communities => ({ s with communities := communities }, .ok ())
  | .updateCommunityMetadata cid metadata =>
      match Communities.doUpdateCommunityMetadata s.communities cid metadata with
      | .error e => (s, .error e)
      | .ok communities => ({ s with communities := communities }, .ok ())
  | .updateDemurrage cid demurrage =>
      match Communities.doUpdateDemurrage s.communities s.balances cid demurrage with
      | .error e => (s, .error e)
      | .ok balances => ({ s with balances := balances }, .ok ())
  | .updateNominalIncome cid nominalIncome =>
      match Communities.doUpdateNominalIncome s.communities cid nominalIncome with
      | .error e => (s, .error e)
      | .ok communities => ({ s with communities := communities }, .ok ())
  | .setInactivityTimeout inactivityTimeout =>
      ({ s with ceremonies := Ceremonies.setInactivityTimeout s inactivityTimeout }, .ok ())
  | .petition _ _ => (s, .ok ())
  | .spendNative maybeCid beneficiary amount =>
      match Treasuries.doSpendNative config s.treasuries maybeCid beneficiary amount with
      | .error e => (s, .error e)
      | .ok treasuries => ({ s with treasuries := treasuries }, .ok ())
  | .issueSwapNativeOption cid owner swapOption =>
      ({ s with
        treasuries := Treasuries.doIssueSwapNativeOption s.treasuries cid owner swapOption },
        .ok ())
  | .spendAsset maybeCid beneficiary amount assetId =>
      match Treasuries.doSpendAsset config s.treasuries maybeCid beneficiary assetId amount with
      | .error e => (s, .error e)
      | .ok treasuries => ({ s with treasuries := treasuries }, .ok ())
  | .issueSwapAssetOption cid owner swapOption =>
      ({ s with
        treasuries := Treasuries.doIssueSwapAssetOption s.treasuries cid owner swapOption },
        .ok ())

/-- The hook that enacts proposals keeps what a failing action wrote. -/
def enactProposal (proposalId : Nat) : Runtime AccountId × Except DispatchError Unit :=
  match s.democracy.proposals.lookup proposalId with
  | none => (s, .error .inexistentProposal)
  | some proposal =>
      match enactAction config s proposal.action with
      | (enacted, .error e) => (enacted, .error e)
      | (enacted, .ok ()) =>
          ({ enacted with
            democracy := setProposalState enacted proposalId proposal .enacted
            events := enacted.events ++ [.proposalEnacted proposalId] }, .ok ())

/-- A failing enactment is reported by an event; a panic stops the block. -/
def enactProposals : List Nat → Runtime AccountId →
    Except DispatchError (Runtime AccountId)
  | [], s => .ok s
  | proposalId :: rest, s =>
      match enactProposal config s proposalId with
      | (_, .error .panicked) => .error .panicked
      | (enacted, .error e) =>
          enactProposals rest
            { enacted with events := enacted.events ++ [.enactmentFailed proposalId e] }
      | (enacted, .ok ()) => enactProposals rest enacted

def onCeremonyPhaseChange (newPhase : CeremonyPhaseType) :
    Except DispatchError (Runtime AccountId) :=
  match newPhase with
  | .assigning => do
      let enacted ← enactProposals config
        (s.democracy.enactmentQueue.entries.flatMap fun e => e.2) s
      .ok { enacted with democracy := { enacted.democracy with enactmentQueue := ∅ } }
  | .attesting => .ok s
  | .registering => .ok s

end Encointer.Democracy
