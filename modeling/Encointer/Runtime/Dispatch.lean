import Encointer.Pallets.Democracy
import Encointer.Pallets.Faucet

/-!
# Runs of the runtime

A run takes one action after another: the time stamp of a new block, or a call.
A failing action leaves the state as it was. What an action did to accounts and
reputations is recorded in a trace; the runtime never reads it.
-/

namespace Encointer

open Assignment

inductive Action (AccountId : Type) where
  /-- A new block with its time stamp and the draws of its random source. -/
  | beginBlock (now : Nat) (random : RandomNumberGenerator)
  -- scheduler
  | nextPhase (random : RandomNumberGenerator)
  | pushByOneDay
  | setPhaseDuration (ceremonyPhase : CeremonyPhaseType) (duration : Nat)
  | setNextPhaseTimestamp (timestamp : Nat)
  -- balances
  | transfer (sender dest : AccountId) (cid : CommunityIdentifier) (amount : Nat)
  | transferAll (sender dest : AccountId) (cid : CommunityIdentifier)
  -- communities
  | newCommunity (location : Location) (bootstrappers : List AccountId)
      (metadata : CommunityMetadata) (demurrage : Option Demurrage)
      (nominalIncome : Option Nat)
  | addLocation (cid : CommunityIdentifier) (location : Location)
  | removeLocation (cid : CommunityIdentifier) (location : Location)
  | updateCommunityMetadata (cid : CommunityIdentifier) (metadata : CommunityMetadata)
  | updateDemurrage (cid : CommunityIdentifier) (demurrage : Demurrage)
  | updateNominalIncome (cid : CommunityIdentifier) (nominalIncome : Nat)
  | setMinSolarTripTimeS (minSolarTripTimeS : Nat)
  | setMaxSpeedMps (maxSpeedMps : Nat)
  | purgeCommunity (cid : CommunityIdentifier)
  -- ceremonies
  | registerParticipant (sender : AccountId) (cid : CommunityIdentifier)
      (proof : Option (ProofOfAttendance AccountId))
  | upgradeRegistration (sender : AccountId) (cid : CommunityIdentifier)
      (proof : ProofOfAttendance AccountId)
  | unregisterParticipant (sender : AccountId) (cid : CommunityIdentifier)
      (maybeReputationCommunityCeremony : Option CommunityCeremony)
  | attestAttendees (sender : AccountId) (cid : CommunityIdentifier)
      (numberOfParticipantsVote : Nat) (attestations : List AccountId)
  | endorseNewcomer (sender : AccountId) (cid : CommunityIdentifier) (newbie : AccountId)
  | claimRewards (sender : AccountId) (cid : CommunityIdentifier)
      (maybeMeetupIndex : Option Nat)
  | setInactivityTimeout (inactivityTimeout : Nat)
  | setEndorsementTicketsPerBootstrapper (endorsementTicketsPerBootstrapper : Nat)
  | setEndorsementTicketsPerReputable (endorsementTicketsPerReputable : Nat)
  | setReputationLifetime (reputationLifetime : Nat)
  | setMeetupTimeOffset (meetupTimeOffset : Int)
  | setTimeTolerance (timeTolerance : Nat)
  | setLocationTolerance (locationTolerance : Nat)
  | purgeCommunityCeremony (cc : CommunityCeremony)
  -- reputation commitments
  | registerPurpose (descriptor : PalletString)
  | commitReputation (sender : AccountId) (cid : CommunityIdentifier)
      (cindex : Nat) (purpose : Nat)
      (commitmentHash : Option (Vector UInt8 32))
  -- treasuries
  | swapNative (sender : AccountId) (cid : CommunityIdentifier) (desiredNativeAmount : Nat)
  | swapAsset (sender : AccountId) (cid : CommunityIdentifier) (desiredAssetAmount : Nat)
  -- democracy
  | submitProposal (action : ProposalAction AccountId)
  | vote (sender : AccountId) (proposalId : Nat) (vote : Vote)
      (reputations : List CommunityCeremony)
  | updateProposalState (proposalId : Nat)
  -- faucets
  | createFaucet (sender : AccountId) (name : PalletString) (amount : Nat)
      (whitelist : Option (List CommunityIdentifier)) (dripAmount : Nat)
  | drip (sender faucetAccount : AccountId) (cid : CommunityIdentifier) (cindex : Nat)
  | dissolveFaucet (faucetAccount beneficiary : AccountId)
  | closeFaucet (sender faucetAccount : AccountId)
  | setReserveAmount (reserveAmount : Nat)

inductive Observation (AccountId : Type) where
  /-- `issue` credited the account for a meetup. -/
  | credited (cc : CommunityCeremony) (meetupIndex : Nat) (account : AccountId)
  /-- The account was registered, on the attendance of another account or its own. -/
  | registered (cc : CommunityCeremony) (account : AccountId) (participantType : ParticipantType)
      (reputation : Option (CommunityCeremony × AccountId))
  /-- The sender endorsed the newbie. -/
  | endorsed (cc : CommunityCeremony) (sender newbie : AccountId)
  /-- The identifier was handed out to a new purpose. -/
  | purposeRegistered (purpose : Nat)
  /-- The reputation was committed to the purpose. -/
  | committed (cc : CommunityCeremony) (purpose : Nat) (account : AccountId)
  /-- The proposal was submitted, for reputations with these ceremony indices. -/
  | submitted (proposalId : Nat) (cindexes : List Nat)
  /-- The reputation was counted in the turnout of the proposal. -/
  | counted (proposalId : Nat) (account : AccountId) (cc : CommunityCeremony)
  deriving DecidableEq, Repr

variable {AccountId : Type} [DecidableEq AccountId] (config : Config AccountId)

namespace Dispatch

def provenReputation (p : ProofOfAttendance AccountId) : CommunityCeremony × AccountId :=
  (p.source, p.attendeePublic)

/-- The pallets react to a phase change in this order. -/
def onCeremonyPhaseChange (random : RandomNumberGenerator) (newPhase : CeremonyPhaseType)
    (s : Runtime AccountId) : Except DispatchError (Runtime AccountId) := do
  let s ← Democracy.onCeremonyPhaseChange config s newPhase
  Ceremonies.onCeremonyPhaseChange config random newPhase
    { s with commitments := Commitments.onCeremonyPhaseChange s newPhase }

/-- Time stamps never decrease. -/
def beginBlock (s : Runtime AccountId) (now : Nat) (random : RandomNumberGenerator) :
    Except DispatchError (Runtime AccountId) := do
  ensure (s.now ≤ now) .panicked
  Scheduler.onTimestampSet config (onCeremonyPhaseChange config random)
    { s with now := now, blockNumber := s.blockNumber + 1 }

/-- The calls that tell nothing about their outcome but the new state. -/
def dispatchQuiet (s : Runtime AccountId) :
    Action AccountId → Except DispatchError (Runtime AccountId)
  | .beginBlock now random => beginBlock config s now random
  | .nextPhase random => Scheduler.nextPhase (onCeremonyPhaseChange config random) s
  | .pushByOneDay => .ok { s with scheduler := Scheduler.pushByOneDay config s }
  | .setPhaseDuration ceremonyPhase duration =>
      .ok { s with scheduler := Scheduler.setPhaseDuration s ceremonyPhase duration }
  | .setNextPhaseTimestamp timestamp =>
      .ok { s with scheduler := Scheduler.setNextPhaseTimestamp s timestamp }
  | .transfer sender dest cid amount => do
      .ok { s with balances := ← Balances.transfer config s sender dest cid amount }
  | .transferAll sender dest cid => do
      .ok { s with balances := ← Balances.transferAll config s sender dest cid }
  | .newCommunity location bootstrappers metadata demurrage nominalIncome => do
      let (communities, balances) ← Communities.newCommunity config s location bootstrappers
        metadata demurrage nominalIncome
      .ok { s with communities := communities, balances := balances }
  | .addLocation cid location => do
      .ok { s with communities := ← Communities.addLocation config s cid location }
  | .removeLocation cid location => do
      .ok { s with communities := ← Communities.removeLocation config s cid location }
  | .updateCommunityMetadata cid metadata => do
      .ok { s with
        communities := ← Communities.doUpdateCommunityMetadata s.communities cid metadata }
  | .updateDemurrage cid demurrage => do
      .ok { s with
        balances := ← Communities.doUpdateDemurrage s.communities s.balances cid demurrage }
  | .updateNominalIncome cid nominalIncome => do
      .ok { s with
        communities := ← Communities.doUpdateNominalIncome s.communities cid nominalIncome }
  | .setMinSolarTripTimeS minSolarTripTimeS =>
      .ok { s with communities := Communities.setMinSolarTripTimeS s minSolarTripTimeS }
  | .setMaxSpeedMps maxSpeedMps =>
      .ok { s with communities := Communities.setMaxSpeedMps s maxSpeedMps }
  | .purgeCommunity cid =>
      let (communities, balances) := Communities.purgeCommunity s cid
      .ok { s with communities := communities, balances := balances }
  | .unregisterParticipant sender cid maybeReputationCommunityCeremony => do
      .ok { s with
        ceremonies := ← Ceremonies.unregisterParticipant s sender cid
          maybeReputationCommunityCeremony }
  | .attestAttendees sender cid numberOfParticipantsVote attestations => do
      .ok { s with
        ceremonies := ← Ceremonies.attestAttendees config s sender cid numberOfParticipantsVote
          attestations }
  | .setInactivityTimeout inactivityTimeout =>
      .ok { s with ceremonies := Ceremonies.setInactivityTimeout s inactivityTimeout }
  | .setEndorsementTicketsPerBootstrapper tickets =>
      .ok { s with ceremonies := Ceremonies.setEndorsementTicketsPerBootstrapper s tickets }
  | .setEndorsementTicketsPerReputable tickets =>
      .ok { s with ceremonies := Ceremonies.setEndorsementTicketsPerReputable s tickets }
  | .setReputationLifetime reputationLifetime =>
      .ok { s with ceremonies := Ceremonies.setReputationLifetime s reputationLifetime }
  | .setMeetupTimeOffset meetupTimeOffset => do
      .ok { s with ceremonies := ← Ceremonies.setMeetupTimeOffset s meetupTimeOffset }
  | .setTimeTolerance timeTolerance =>
      .ok { s with ceremonies := Ceremonies.setTimeTolerance s timeTolerance }
  | .setLocationTolerance locationTolerance =>
      .ok { s with ceremonies := Ceremonies.setLocationTolerance s locationTolerance }
  | .purgeCommunityCeremony cc =>
      .ok { s with ceremonies := Ceremonies.purgeCommunityCeremony s cc }
  | .registerPurpose descriptor => do
      .ok { s with commitments := ← Commitments.registerPurpose s descriptor }
  | .commitReputation sender cid cindex purpose commitmentHash => do
      .ok { s with
        commitments := ← Commitments.commitReputation s sender cid cindex purpose commitmentHash }
  | .swapNative sender cid desiredNativeAmount => do
      let (treasuries, balances) ← Treasuries.swapNative config s sender cid desiredNativeAmount
      .ok { s with treasuries := treasuries, balances := balances }
  | .swapAsset sender cid desiredAssetAmount => do
      let (treasuries, balances) ← Treasuries.swapAsset config s sender cid desiredAssetAmount
      .ok { s with treasuries := treasuries, balances := balances }
  | .updateProposalState proposalId => do
      .ok { s with democracy := ← Democracy.doUpdateProposalState config s proposalId }
  | .createFaucet sender name amount whitelist dripAmount => do
      let (commitments, treasuries, faucet) ←
        Faucet.createFaucet config s sender name amount whitelist dripAmount
      .ok { s with commitments := commitments, treasuries := treasuries, faucet := faucet }
  | .drip sender faucetAccount cid cindex => do
      let (commitments, treasuries) ← Faucet.drip config s sender faucetAccount cid cindex
      .ok { s with commitments := commitments, treasuries := treasuries }
  | .dissolveFaucet faucetAccount beneficiary => do
      let (treasuries, faucet) ← Faucet.dissolveFaucet config s faucetAccount beneficiary
      .ok { s with treasuries := treasuries, faucet := faucet }
  | .closeFaucet sender faucetAccount => do
      let (treasuries, faucet) ← Faucet.closeFaucet config s sender faucetAccount
      .ok { s with treasuries := treasuries, faucet := faucet }
  | .setReserveAmount reserveAmount =>
      .ok { s with faucet := Faucet.setReserveAmount s reserveAmount }
  | .registerParticipant .. | .upgradeRegistration .. | .endorseNewcomer .. | .claimRewards ..
  | .submitProposal .. | .vote .. => .ok s

/-- Purposes get the current identifier; a drip commits to the purpose of the faucet. -/
def commitmentObservations (s : Runtime AccountId) :
    Action AccountId → List (Observation AccountId)
  | .registerPurpose _ | .createFaucet .. =>
      [.purposeRegistered s.commitments.currentPurposeId]
  | .commitReputation sender cid cindex purpose _ => [.committed (cid, cindex) purpose sender]
  | .drip sender faucetAccount cid cindex =>
      (s.faucet.faucets.lookup faucetAccount).toList.map fun faucet =>
        .committed (cid, cindex) faucet.purposeId sender
  | _ => []

def dispatch (s : Runtime AccountId) (action : Action AccountId) :
    Except DispatchError (Runtime AccountId × List (Observation AccountId)) :=
  match action with
  | .registerParticipant sender cid proof => do
      let (ceremonies, participantType) ← Ceremonies.registerParticipant config s sender cid proof
      .ok ({ s with ceremonies := ceremonies },
        [.registered (cid, Ceremonies.registrationCindex s) sender participantType
          (proof.map provenReputation)])
  | .upgradeRegistration sender cid proof => do
      let (ceremonies, participantType) ← Ceremonies.upgradeRegistration config s sender cid proof
      .ok ({ s with ceremonies := ceremonies },
        [.registered (cid, Ceremonies.registrationCindex s) sender participantType
          (some (provenReputation proof))])
  | .endorseNewcomer sender cid newbie => do
      let (ceremonies, participantType) ← Ceremonies.endorseNewcomer config s sender cid newbie
      .ok ({ s with ceremonies := ceremonies },
        .endorsed (cid, Ceremonies.endorsementCindex s) sender newbie ::
          participantType.toList.map fun participantType =>
            .registered (cid, Ceremonies.endorsementCindex s) newbie participantType none)
  | .claimRewards sender cid maybeMeetupIndex => do
      let claim ← Ceremonies.claimRewards config s sender cid maybeMeetupIndex
      .ok ({ s with ceremonies := claim.ceremonies, balances := claim.balances },
        claim.credited.map fun account => .credited claim.cc claim.meetupIndex account)
  | .submitProposal action => do
      let (commitments, democracy) ← Democracy.submitProposal config s action
      let cindexes ← Democracy.votingCindexes config s s.scheduler.currentCeremonyIndex
      .ok ({ s with commitments := commitments, democracy := democracy },
        [.purposeRegistered s.commitments.currentPurposeId,
          .submitted democracy.proposalCount cindexes])
  | .vote sender proposalId vote reputations => do
      let (commitments, democracy, counted) ←
        Democracy.vote config s sender proposalId vote reputations
      let purpose ← okOr (s.democracy.purposeIds.lookup proposalId) .inexistentProposal
      .ok ({ s with commitments := commitments, democracy := democracy },
        (counted.map fun cc => .counted proposalId sender cc) ++
          counted.map fun cc => .committed cc purpose sender)
  | action => do
      .ok (← dispatchQuiet config s action, commitmentObservations s action)

end Dispatch

structure Chain (AccountId : Type) where
  runtime : Runtime AccountId
  trace : List (Observation AccountId)

namespace Chain

def step (chain : Chain AccountId) (action : Action AccountId) : Chain AccountId :=
  match Dispatch.dispatch config chain.runtime action with
  | .ok (runtime, observations) => ⟨runtime, chain.trace ++ observations⟩
  | .error _ => chain

def genesis (genesis : GenesisConfig) (nativeBalances : StorageMap AccountId Nat)
    (assetBalances : StorageMap (AccountId × AssetKind) Nat) : Chain AccountId :=
  ⟨genesis.build nativeBalances assetBalances, []⟩

def run (chain : Chain AccountId) (actions : List (Action AccountId)) : Chain AccountId :=
  Machine.run (step config) chain actions

end Chain

end Encointer
