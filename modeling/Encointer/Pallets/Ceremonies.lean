import Encointer.Pallets.CeremonyPhases

/-!
# Calls of the ceremonies pallet

Registration is for the current ceremony, and in the attesting phase already for
the next one. Rewards are claimed for the current ceremony, and in the
registering phase still for the previous one.
-/

namespace Encointer.Ceremonies

open Assignment Checked MeetupValidation

variable {AccountId : Type} [DecidableEq AccountId] (config : Config AccountId)
  (s : Runtime AccountId)

def registrationCindex : Nat :=
  if s.scheduler.currentPhase = .attesting then
    s.scheduler.currentCeremonyIndex + 1
  else
    s.scheduler.currentCeremonyIndex

/-! ## Registration -/

/-- Links the proven reputation to the registration. -/
def linkReputation (cid : CommunityIdentifier) (cindex : Nat) (sender : AccountId)
    (p : ProofOfAttendance AccountId) : Except DispatchError (CeremoniesStorage AccountId) := do
  let ceremonies := s.ceremonies
  ensure (sender = p.proverPublic) .wrongProofSubject
  ensure (p.ceremonyIndex < cindex) .proofAcausal
  ensure (cindex - ceremonies.reputationLifetime ≤ p.ceremonyIndex) .proofOutdated
  ensure ((participantReputation ceremonies p.source
    p.attendeePublic).isVerifiedAndUnlinkedForCindex cindex = true)
    .attendanceUnverifiedOrAlreadyUsed
  ensure (p.attendeePublic ∈ Communities.bootstrappers s.communities cid →
    p.attendeePublic = sender) .bootstrapperReputationIsUntransferrable
  ensure (config.verifyProof p = true) .badProofOfAttendanceSignature
  .ok { ceremonies with
    participantReputation :=
      (ceremonies.participantReputation.insert (p.source, p.attendeePublic)
        (.verifiedLinked cindex)).insert ((cid, cindex), sender) .unverifiedReputable }

def linkProof (cid : CommunityIdentifier) (cindex : Nat) (sender : AccountId) :
    Option (ProofOfAttendance AccountId) → Except DispatchError (CeremoniesStorage AccountId)
  | none => .ok s.ceremonies
  | some p => linkReputation config s cid cindex sender p

def registerParticipant (sender : AccountId) (cid : CommunityIdentifier)
    (proof : Option (ProofOfAttendance AccountId)) :
    Except DispatchError (CeremoniesStorage AccountId × ParticipantType) := do
  ensure (s.scheduler.currentPhase.isRegisteringOrAttesting = true)
    .registeringOrAttestationPhaseRequired
  ensure (cid ∈ s.communities.communityIdentifiers) .inexistentCommunity
  let cindex := registrationCindex s
  ensure (isRegistered s.ceremonies cid cindex sender = false) .participantAlreadyRegistered
  let ceremonies ← linkProof config s cid cindex sender proof
  register config { s with ceremonies := ceremonies } cid cindex sender proof.isSome

/-- Newbies register again with a proof of attendance. -/
def upgradeRegistration (sender : AccountId) (cid : CommunityIdentifier)
    (proof : ProofOfAttendance AccountId) :
    Except DispatchError (CeremoniesStorage AccountId × ParticipantType) := do
  ensure (cid ∈ s.communities.communityIdentifiers) .inexistentCommunity
  ensure (s.scheduler.currentPhase.isRegisteringOrAttesting = true)
    .registeringOrAttestationPhaseRequired
  let cindex := registrationCindex s
  let participantType ← okOr (getParticipantType s.ceremonies (cid, cindex) sender)
    .participantIsNotRegistered
  if participantType = .newbie then
    let ceremonies ← removeParticipantFromRegistry s cid cindex sender
    registerParticipant config { s with ceremonies := ceremonies } sender cid (some proof)
  else
    .error .mustBeNewbieToUpgradeRegistration

/-- Any linked reputation of the sender within the lifetime can be given back. -/
def unlinkReputation (cid : CommunityIdentifier) (cindex : Nat) (sender : AccountId)
    (cc : CommunityCeremony) : Except DispatchError (CeremoniesStorage AccountId) := do
  let ceremonies := s.ceremonies
  ensure (cindex - ceremonies.reputationLifetime ≤ cc.2) .proofOutdated
  ensure (participantReputation ceremonies cc sender = .verifiedLinked cindex)
    .reputationMustBeLinked
  .ok { ceremonies with
    participantReputation :=
      (ceremonies.participantReputation.insert (cc, sender) .verifiedUnlinked).erase
        ((cid, cindex), sender) }

/-- Bootstrappers and reputables may refund a reputation, reputables have to. -/
def refundReputation (cid : CommunityIdentifier) (cindex : Nat) (sender : AccountId)
    (participantType : ParticipantType) (maybeReputationCommunityCeremony : Option CommunityCeremony) :
    Except DispatchError (CeremoniesStorage AccountId) :=
  match participantType, maybeReputationCommunityCeremony with
  | .endorsee, _ => .ok s.ceremonies
  | .newbie, _ => .ok s.ceremonies
  | .bootstrapper, none => .ok s.ceremonies
  | .reputable, none => .error .reputationCommunityCeremonyRequired
  | .bootstrapper, some cc => unlinkReputation s cid cindex sender cc
  | .reputable, some cc => unlinkReputation s cid cindex sender cc

def unregisterParticipant (sender : AccountId) (cid : CommunityIdentifier)
    (maybeReputationCommunityCeremony : Option CommunityCeremony) :
    Except DispatchError (CeremoniesStorage AccountId) := do
  ensure (s.scheduler.currentPhase.isRegisteringOrAttesting = true)
    .registeringOrAttestationPhaseRequired
  ensure (cid ∈ s.communities.communityIdentifiers) .inexistentCommunity
  let cindex := registrationCindex s
  let participantType ← okOr (getParticipantType s.ceremonies (cid, cindex) sender)
    .participantIsNotRegistered
  let ceremonies ← refundReputation s cid cindex sender participantType
    maybeReputationCommunityCeremony
  removeParticipantFromRegistry { s with ceremonies := ceremonies } cid cindex sender

/-! ## Attestations and endorsements -/

def attestAttendees (sender : AccountId) (cid : CommunityIdentifier)
    (numberOfParticipantsVote : Nat) (attestations : List AccountId) :
    Except DispatchError (CeremoniesStorage AccountId) := do
  ensure (numberOfParticipantsVote < 2 ^ 32 ∧ attestations.length ≤ config.maxAttestations)
    .undecodable
  ensure (s.scheduler.currentPhase = .attesting) .attestationPhaseRequired
  ensure (cid ∈ s.communities.communityIdentifiers) .inexistentCommunity
  let data ← gatherMeetupData config s cid sender
  ensure (attestations.length < data.participants.length) .tooManyAttestations
  let ceremonies := { s.ceremonies with
    meetupParticipantCountVote := s.ceremonies.meetupParticipantCountVote.insert
      ((cid, data.cindex), sender) numberOfParticipantsVote }
  addAttestationsToRegistry config ceremonies sender (cid, data.cindex) data.participants
    attestations

def endorsementCindex : Nat :=
  if s.scheduler.currentPhase = .registering then
    s.scheduler.currentCeremonyIndex
  else
    s.scheduler.currentCeremonyIndex + 1

/-- A newbie who is already registered is registered again, with the endorsement. -/
def reregisterNewbie (cid : CommunityIdentifier) (cindex : Nat) (newbie : AccountId) :
    Except DispatchError (CeremoniesStorage AccountId × Option ParticipantType) :=
  if s.ceremonies.newbieRegistry.index.contains ((cid, cindex), newbie) then do
    let ceremonies ← removeParticipantFromRegistry s cid cindex newbie
    let (ceremonies, participantType) ←
      register config { s with ceremonies := ceremonies } cid cindex newbie false
    .ok (ceremonies, some participantType)
  else
    .ok (s.ceremonies, none)

/-- The new count of endorsements starts from the number of registered endorsees. -/
def endorseNewcomer (sender : AccountId) (cid : CommunityIdentifier) (newbie : AccountId) :
    Except DispatchError (CeremoniesStorage AccountId × Option ParticipantType) := do
  ensure (cid ∈ s.communities.communityIdentifiers) .inexistentCommunity
  let cindex := endorsementCindex s
  ensure (isEndorsed s.ceremonies newbie (cid, cindex) = none) .alreadyEndorsed
  let ceremonies ← burnNewbieTickets s cid cindex sender
  let newEndorseeCount ← okOr (addU64 (ceremonies.endorseeRegistry.count.get (cid, cindex) 0) 1)
    .registryOverflow
  let ceremonies := { ceremonies with
    endorsees := ceremonies.endorsees.insert ((cid, cindex), newbie) ()
    endorseesCount := ceremonies.endorseesCount.insert (cid, cindex) newEndorseeCount }
  reregisterNewbie config { s with ceremonies := ceremonies } cid cindex newbie

/-! ## Claiming rewards -/

def claimCindex : Except DispatchError Nat :=
  match s.scheduler.currentPhase with
  | .registering => .ok (s.scheduler.currentCeremonyIndex - 1)
  | .attesting => .ok s.scheduler.currentCeremonyIndex
  | .assigning => .error .wrongPhaseForClaimingRewards

def meetupIndexOrOwn (cc : CommunityCeremony) (participant : AccountId) :
    Option Nat → Except DispatchError Nat
  | some index => .ok index
  | none => okOr (getMeetupIndex s.ceremonies cc participant) .participantIsNotRegistered

def validationFailure : MeetupValidationError → DispatchError × MeetupResult
  | .ballotEmpty => (.votesNotDependable, .votesNotDependable)
  | .noDependableVote => (.votesNotDependable, .votesNotDependable)
  | .indexOutOfBounds => (.meetupValidationIndexOutOfBounds, .meetupValidationIndexOutOfBounds)

def judgeMeetup (cc : CommunityCeremony) (meetupParticipants : List AccountId) :
    Except MeetupValidationError ParticipantJudgements :=
  let (participantVotes, participantAttestations) :=
    gatherMeetupValidationData s.ceremonies cc meetupParticipants
  getParticipantJudgements (List.range meetupParticipants.length) participantVotes
    participantAttestations attestationThresholdFn

/-- What a claim writes, the ceremony and the meetup it is about, and whom it credited. -/
structure Claim (AccountId : Type) where
  ceremonies : CeremoniesStorage AccountId
  balances : BalancesStorage AccountId
  cc : CommunityCeremony
  meetupIndex : Nat
  credited : List AccountId

/-- In the attesting phase, a failing early payout leaves the meetup open. -/
def claimRewards (sender : AccountId) (cid : CommunityIdentifier)
    (maybeMeetupIndex : Option Nat) : Except DispatchError (Claim AccountId) := do
  let cindex ← claimCindex s
  let meetupIndex ← meetupIndexOrOwn s (cid, cindex) sender maybeMeetupIndex
  ensure (s.ceremonies.issuedRewards.contains ((cid, cindex), meetupIndex) = false)
    .rewardsAlreadyIssued
  let meetupParticipants ← getMeetupParticipants s.ceremonies (cid, cindex) meetupIndex
  match judgeMeetup s (cid, cindex) meetupParticipants with
  | .error err =>
      ensure (s.scheduler.currentPhase = .registering) (validationFailure err).1
      .ok ⟨{ s.ceremonies with
          issuedRewards := s.ceremonies.issuedRewards.insert ((cid, cindex), meetupIndex)
            (validationFailure err).2 }, s.balances, (cid, cindex), meetupIndex, []⟩
  | .ok judgements =>
      ensure (s.scheduler.currentPhase = .attesting → judgements.earlyRewardsPossible = true)
        .earlyRewardsNotPossible
      ensure (∀ p ∈ judgements.excluded, p.index < meetupParticipants.length)
        .meetupValidationIndexOutOfBounds
      let (ceremonies, balances, credited) ←
        issueRewards config s (cid, cindex) meetupIndex meetupParticipants judgements.legit
      .ok ⟨ceremonies, balances, (cid, cindex), meetupIndex, credited⟩

/-! ## Parameters -/

def setInactivityTimeout (inactivityTimeout : Nat) : CeremoniesStorage AccountId :=
  { s.ceremonies with inactivityTimeout := inactivityTimeout }

def setEndorsementTicketsPerBootstrapper (endorsementTicketsPerBootstrapper : Nat) :
    CeremoniesStorage AccountId :=
  { s.ceremonies with endorsementTicketsPerBootstrapper := endorsementTicketsPerBootstrapper }

def setEndorsementTicketsPerReputable (endorsementTicketsPerReputable : Nat) :
    CeremoniesStorage AccountId :=
  { s.ceremonies with endorsementTicketsPerReputable := endorsementTicketsPerReputable }

def setReputationLifetime (reputationLifetime : Nat) : CeremoniesStorage AccountId :=
  { s.ceremonies with reputationLifetime := reputationLifetime }

/-- At most eight hours; the absolute value of the least `i32` stays negative. -/
def setMeetupTimeOffset (meetupTimeOffset : Int) :
    Except DispatchError (CeremoniesStorage AccountId) := do
  ensure (s.scheduler.currentPhase = .registering) .wrongPhaseForChangingMeetupTimeOffset
  ensure (|meetupTimeOffset| ≤ 8 * 3600 * 1000 ∨ meetupTimeOffset = -2 ^ 31)
    .invalidMeetupTimeOffset
  .ok { s.ceremonies with meetupTimeOffset := meetupTimeOffset }

def setTimeTolerance (timeTolerance : Nat) : CeremoniesStorage AccountId :=
  { s.ceremonies with timeTolerance := timeTolerance }

def setLocationTolerance (locationTolerance : Nat) : CeremoniesStorage AccountId :=
  { s.ceremonies with locationTolerance := locationTolerance }

def purgeCommunityCeremony (cc : CommunityCeremony) : CeremoniesStorage AccountId :=
  purgeCommunityCeremonyInternal s.ceremonies cc

end Encointer.Ceremonies
