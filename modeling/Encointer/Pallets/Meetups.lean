import Encointer.Pallets.Registry
import Encointer.MeetupValidation.Judgements

/-!
# Meetups

The meetup of a participant, the participants of a meetup, where and when they
meet, what they attest and the rewards they get.
-/

namespace Encointer.Ceremonies

open Assignment Checked

variable {AccountId : Type} [DecidableEq AccountId]

/-! ## Assigned participants -/

section

variable (ceremonies : CeremoniesStorage AccountId)

def meetupCount (cc : CommunityCeremony) : Nat := ceremonies.meetupCount.get cc 0

def assignmentCounts (cc : CommunityCeremony) : AssignmentCount :=
  ceremonies.assignmentCounts.get cc ⟨0, 0, 0, 0⟩

def assignments (cc : CommunityCeremony) : CeremonyAssignment :=
  ceremonies.assignments.get cc ⟨⟨0, 0, 0⟩, ⟨0, 0, 0⟩, ⟨0, 0, 0⟩, ⟨0, 0, 0⟩⟩

/-- The position among the participants of the type, from zero on, if it is assigned. -/
def assignedIndex (cc : CommunityCeremony) (participant : AccountId)
    (participantType : ParticipantType) (assigned : Nat) :
    Option Nat :=
  let participantIndex := (ceremonies.registry participantType).index.get (cc, participant) 0 - 1
  if participantIndex < assigned then some participantIndex else none

def getMeetupIndex (cc : CommunityCeremony) (participant : AccountId) :
    Option Nat := do
  let meetupCount := meetupCount ceremonies cc
  let assignmentCount := assignmentCounts ceremonies cc
  let assignment := assignments ceremonies cc
  let participantType ← getParticipantType ceremonies cc participant
  match participantType with
  | .bootstrapper => do
      let p ← assignedIndex ceremonies cc participant .bootstrapper assignmentCount.bootstrappers
      meetupIndex p assignment.bootstrappersReputables meetupCount
  | .reputable => do
      let p ← assignedIndex ceremonies cc participant .reputable assignmentCount.reputables
      meetupIndex (p + assignmentCount.bootstrappers) assignment.bootstrappersReputables
        meetupCount
  | .endorsee => do
      let p ← assignedIndex ceremonies cc participant .endorsee assignmentCount.endorsees
      meetupIndex p assignment.endorsees meetupCount
  | .newbie => do
      let p ← assignedIndex ceremonies cc participant .newbie assignmentCount.newbies
      meetupIndex p assignment.newbies meetupCount

/-- The registered account behind an assigned bootstrapper or reputable. -/
def bootstrapperOrReputable (cc : CommunityCeremony) (assigned : AssignmentCount)
    (p : Nat) : Option AccountId :=
  if p < assigned.bootstrappers then
    ceremonies.bootstrapperRegistry.registry.lookup (cc, p + 1)
  else if p < assigned.bootstrappers + assigned.reputables then
    ceremonies.reputableRegistry.registry.lookup (cc, p - assigned.bootstrappers + 1)
  else
    none

def registeredAt (cc : CommunityCeremony) (participantType : ParticipantType)
    (assigned : Nat) (p : Nat) : Option AccountId :=
  if p < assigned then
    (ceremonies.registry participantType).registry.lookup (cc, p + 1)
  else
    none

/-- Participants that are missing in the registry are skipped. -/
def getMeetupParticipants (cc : CommunityCeremony) (meetupIndex : Nat) :
    Except DispatchError (List AccountId) := do
  let meetupCount := meetupCount ceremonies cc
  ensure (1 ≤ meetupIndex ∧ meetupIndex ≤ meetupCount) .invalidMeetupIndex
  let params := assignments ceremonies cc
  let assigned := assignmentCounts ceremonies cc
  let bootstrappersReputables ← okOr (assignmentFnInverse (meetupIndex - 1)
    params.bootstrappersReputables meetupCount (assigned.bootstrappers + assigned.reputables))
    .getMeetupParticipantsError
  let endorsees ← okOr (assignmentFnInverse (meetupIndex - 1) params.endorsees meetupCount
    assigned.endorsees) .getMeetupParticipantsError
  let newbies ← okOr (assignmentFnInverse (meetupIndex - 1) params.newbies meetupCount
    assigned.newbies) .getMeetupParticipantsError
  .ok (bootstrappersReputables.filterMap (bootstrapperOrReputable ceremonies cc assigned) ++
    endorsees.filterMap (registeredAt ceremonies cc .endorsee assigned.endorsees) ++
    newbies.filterMap (registeredAt ceremonies cc .newbie assigned.newbies))

end

variable (config : Config AccountId) (s : Runtime AccountId)

/-! ## Place and time -/

def getMeetupLocation (cc : CommunityCeremony) (meetupIdx : Nat) :
    Option Location :=
  meetupLocation meetupIdx (Communities.getLocations s.communities cc.1)
    (assignments s.ceremonies cc).locations

/-- High sun at the location, by its longitude in whole degrees. -/
def meetupTime (location : Location) (attestingStart oneDay : Nat) (offset : Int) : Nat :=
  let perDegree := (oneDay : Int) / 360
  let lon := |location.lon.tdiv degree - 180|
  asU64 (attestingStart + lon * perDegree + offset)

/-- Only in the attesting phase. -/
def getMeetupTime (location : Location) : Option Nat :=
  if s.scheduler.currentPhase = .attesting then
    let duration := s.scheduler.phaseDurations.get .attesting 0
    let start := wrappingSubU64 s.scheduler.nextPhaseTimestamp duration
    some (meetupTime location start config.momentsPerDay s.ceremonies.meetupTimeOffset)
  else
    none

structure MeetupData (AccountId : Type) where
  cindex : Nat
  meetupIndex : Nat
  participants : List AccountId
  location : Location
  time : Nat

def gatherMeetupData (cid : CommunityIdentifier) (participant : AccountId) :
    Except DispatchError (MeetupData AccountId) := do
  let cindex := s.scheduler.currentCeremonyIndex
  let meetupIndex ← okOr (getMeetupIndex s.ceremonies (cid, cindex) participant)
    .participantIsNotRegistered
  let participants ← getMeetupParticipants s.ceremonies (cid, cindex) meetupIndex
  let location ← okOr (getMeetupLocation s (cid, cindex) meetupIndex) .meetupLocationNotFound
  let time ← okOr (getMeetupTime config s location) .meetupTimeCalculationError
  .ok ⟨cindex, meetupIndex, participants, location, time⟩

/-! ## Attestations -/

/-- The attestees in reverse order, without the participant itself and without strangers. -/
def verifiedAttestees (participant : AccountId) (meetupParticipants attestations : List AccountId) :
    List AccountId :=
  (attestations.filter fun attestee =>
    attestee ≠ participant ∧ attestee ∈ meetupParticipants).reverse

/-- A participant keeps the number of its first set of attestations. -/
def addAttestationsToRegistry (ceremonies : CeremoniesStorage AccountId) (participant : AccountId)
    (cc : CommunityCeremony) (meetupParticipants attestations : List AccountId) :
    Except DispatchError (CeremoniesStorage AccountId) := do
  let verifiedAttestees := verifiedAttestees participant meetupParticipants attestations
  ensure (verifiedAttestees ≠ []) .noValidAttestations
  let count := ceremonies.attestationCount.get cc 0
  let newIdx ← okOr (addU64 count 1) .checkedMath
  let registered := ceremonies.attestationIndex.contains (cc, participant)
  let idx := if registered then ceremonies.attestationIndex.get (cc, participant) 0 else newIdx
  ensure (verifiedAttestees.length ≤ config.maxAttestations) .tooManyAttestationsInBoundedVec
  .ok { ceremonies with
    attestationCount :=
      if registered then ceremonies.attestationCount
      else ceremonies.attestationCount.insert cc newIdx
    attestationRegistry := ceremonies.attestationRegistry.insert (cc, idx) verifiedAttestees
    attestationIndex := ceremonies.attestationIndex.insert (cc, participant) idx }

/-- Account ids become positions among the meetup participants. -/
def attestationIndices (meetupParticipants attestations : List AccountId) : List Nat :=
  attestations.filterMap fun p => meetupParticipants.findIdx? fun x => x = p

def gatherMeetupValidationData (ceremonies : CeremoniesStorage AccountId) (cc : CommunityCeremony)
    (meetupParticipants : List AccountId) : List Nat × List (List Nat) :=
  (meetupParticipants.map fun participant =>
      ceremonies.meetupParticipantCountVote.get (cc, participant) 0,
    meetupParticipants.map fun participant =>
      attestationIndices meetupParticipants (ceremonies.attestationRegistry.get
        (cc, ceremonies.attestationIndex.get (cc, participant) 0) []))

/-! ## Rewards -/

/-- The community-specific income if it is set, and the ceremony reward otherwise. -/
def nominalIncome (cid : CommunityIdentifier) : Nat :=
  (Communities.nominalIncome s.communities cid).getD s.ceremonies.ceremonyReward

/-- What the rewards loop changes, and whom it credited; the source counts these. -/
structure Payout (AccountId : Type) where
  balances : BalancesStorage AccountId
  participantReputation : StorageMap (CommunityCeremony × AccountId) Reputation
  credited : List AccountId

/-- A failed issuance is skipped; what it wrote stays. -/
def rewardParticipant (cc : CommunityCeremony) (reward : Nat)
    (meetupParticipants : List AccountId) (payout : Payout AccountId) (i : Nat) :
    Except DispatchError (Payout AccountId) := do
  let participant ← okOr meetupParticipants[i]? .meetupValidationIndexOutOfBounds
  match Balances.issue config s.blockNumber payout.balances cc.1 participant reward with
  | (balances, .ok ()) =>
      .ok {
        balances := balances
        participantReputation :=
          payout.participantReputation.insert (cc, participant) .verifiedUnlinked
        credited := payout.credited ++ [participant] }
  | (balances, .error _) => .ok { payout with balances := balances }

def issueRewards (cc : CommunityCeremony) (meetupIdx : Nat)
    (meetupParticipants : List AccountId) (participantsIndices : List Nat) :
    Except DispatchError
      (CeremoniesStorage AccountId × BalancesStorage AccountId × List AccountId) := do
  let ceremonies := s.ceremonies
  let reward := nominalIncome s cc.1
  let payout ← participantsIndices.foldlM (rewardParticipant config s cc reward meetupParticipants)
    ⟨s.balances, ceremonies.participantReputation, []⟩
  let reputationCount := payout.credited.length
  .ok ({ ceremonies with
      participantReputation := payout.participantReputation
      reputationCount := ceremonies.reputationCount.insert cc
        (ceremonies.reputationCount.get cc 0 + reputationCount)
      globalReputationCount := ceremonies.globalReputationCount.insert cc.2
        (ceremonies.globalReputationCount.get cc.2 0 + reputationCount)
      issuedRewards := ceremonies.issuedRewards.insert (cc, meetupIdx) .ok },
    payout.balances, payout.credited)

end Encointer.Ceremonies
