import Encointer.Pallets.Meetups
import Encointer.Pallets.Scheduler

/-!
# Ceremonies at a phase change

Inactive communities are purged and meetups are assigned when the assigning
phase starts; histories older than the reputation lifetime are purged when the
registering phase starts.
-/

namespace Encointer.Ceremonies

open Assignment Checked

variable {AccountId : Type} [DecidableEq AccountId] (config : Config AccountId)

/-! ## Purging -/

/-- The global count of the ceremony index goes with any community's history. -/
def purgeCommunityCeremonyInternal (ceremonies : CeremoniesStorage AccountId)
    (cc : CommunityCeremony) : CeremoniesStorage AccountId :=
  { ceremonies with
    bootstrapperRegistry := ceremonies.bootstrapperRegistry.purge cc
    reputableRegistry := ceremonies.reputableRegistry.purge cc
    endorseeRegistry := ceremonies.endorseeRegistry.purge cc
    newbieRegistry := ceremonies.newbieRegistry.purge cc
    assignmentCounts := ceremonies.assignmentCounts.erase cc
    assignments := ceremonies.assignments.erase cc
    participantReputation := ceremonies.participantReputation.removePrefix cc
    reputationCount := ceremonies.reputationCount.erase cc
    globalReputationCount := ceremonies.globalReputationCount.erase cc.2
    endorsees := ceremonies.endorsees.removePrefix cc
    endorseesCount := ceremonies.endorseesCount.erase cc
    meetupCount := ceremonies.meetupCount.erase cc
    attestationRegistry := ceremonies.attestationRegistry.removePrefix cc
    attestationIndex := ceremonies.attestationIndex.removePrefix cc
    attestationCount := ceremonies.attestationCount.erase cc
    meetupParticipantCountVote := ceremonies.meetupParticipantCountVote.removePrefix cc
    issuedRewards := ceremonies.issuedRewards.removePrefix cc
    burnedReputableNewbieTickets := ceremonies.burnedReputableNewbieTickets.removePrefix cc }

def purgeAll (ccs : List CommunityCeremony) (ceremonies : CeremoniesStorage AccountId) :
    CeremoniesStorage AccountId :=
  ccs.foldl purgeCommunityCeremonyInternal ceremonies

section

variable (s : Runtime AccountId)

def purgeRegistry (cindex : Nat) : CeremoniesStorage AccountId :=
  purgeAll (s.communities.communityIdentifiers.map fun cid => (cid, cindex)) s.ceremonies

/-- The ceremony indices within the reputation lifetime, up to the current one. -/
def cindexesWithinLifetime : List Nat :=
  let current := s.scheduler.currentCeremonyIndex
  let oldest := current - s.ceremonies.reputationLifetime
  List.range' oldest (current + 1 - oldest)

def purgeCommunity (cid : CommunityIdentifier) : Runtime AccountId :=
  let ceremonies := purgeAll ((cindexesWithinLifetime s).map fun cindex => (cid, cindex))
    s.ceremonies
  { s with
    ceremonies := { ceremonies with
      inactivityCounters := ceremonies.inactivityCounters.erase cid
      burnedBootstrapperNewbieTickets :=
        ceremonies.burnedBootstrapperNewbieTickets.removePrefix cid }
    communities := Communities.removeCommunity s.communities cid
    balances := Balances.purgeBalances s.balances cid }

end

/-! ## Inactivity -/

/-- Whether some meetup of the ceremony has a result. -/
def hasIssuedRewards (ceremonies : CeremoniesStorage AccountId) (cc : CommunityCeremony) : Bool :=
  ceremonies.issuedRewards.entries.any fun e => e.1.1 = cc

/-- The new counters, and the communities that reached the timeout. -/
def updateInactivityCounters (ceremonies : CeremoniesStorage AccountId)
    (cindex : Nat) (inactivityTimeout : Nat) :
    List CommunityIdentifier → StorageMap CommunityIdentifier Nat →
      StorageMap CommunityIdentifier Nat × List CommunityIdentifier
  | [], counters => (counters, [])
  | cid :: cids, counters =>
      let current := counters.get cid 0
      if hasIssuedRewards ceremonies (cid, cindex) then
        updateInactivityCounters ceremonies cindex inactivityTimeout cids (counters.insert cid 0)
      else if inactivityTimeout ≤ current then
        let (counters, inactives) :=
          updateInactivityCounters ceremonies cindex inactivityTimeout cids counters
        (counters, cid :: inactives)
      else
        updateInactivityCounters ceremonies cindex inactivityTimeout cids
          (counters.insert cid (current + 1))

/-! ## Assigning meetups -/

/-- The seats are an unsigned difference that may wrap. -/
def computeAssignmentAllowance (s : Runtime AccountId) (cc : CommunityCeremony)
    (meetupMultiplier : Nat) : Except DispatchError AssignmentCount := do
  let numLocations := (Communities.getLocations s.communities cc.1).length
  ensure (numLocations ≠ 0) .noLocationsAvailable
  let numRegisteredBootstrappers := s.ceremonies.bootstrapperRegistry.count.get cc 0
  let numRegisteredReputables := s.ceremonies.reputableRegistry.count.get cc 0
  let numRegisteredEndorsees := s.ceremonies.endorseeRegistry.count.get cc 0
  let numRegisteredNewbies := s.ceremonies.newbieRegistry.count.get cc 0
  let prime ← okOr (findPrimeBelow (numRegisteredBootstrappers + numRegisteredReputables))
    .panicked
  let maxNumMeetups := min numLocations prime
  let seats ← okOr (mulU64 maxNumMeetups meetupMultiplier) .checkedMath
  let seatsLeft := wrappingSubU64 seats numRegisteredBootstrappers
  let numAssignedReputables := min numRegisteredReputables seatsLeft
  let seatsLeft := seatsLeft - numAssignedReputables
  let numAssignedEndorsees := min numRegisteredEndorsees seatsLeft
  let seatsLeft := seatsLeft - numAssignedEndorsees
  ensure (config.meetupNewbieLimitDivider ≠ 0) .panicked
  let numAssignedNewbies := min (min numRegisteredNewbies seatsLeft)
    ((numRegisteredBootstrappers + numAssignedReputables + numAssignedEndorsees) /
      config.meetupNewbieLimitDivider)
  .ok ⟨numRegisteredBootstrappers, numAssignedReputables, numAssignedEndorsees,
    numAssignedNewbies⟩

def generateLocationAssignmentParams (s : Runtime AccountId) (cc : CommunityCeremony)
    (random : RandomNumberGenerator) : Option (AssignmentParams × RandomNumberGenerator) := do
  let numLocations := (Communities.getLocations s.communities cc.1).length
  let (s1, random) ← findRandomCoprimeBelow numLocations random
  let s2 ← findPrimeBelow numLocations
  some (⟨numLocations, s1, s2⟩, random)

/-- The four sets of parameters are drawn from one random source. -/
def generateAssignment (s : Runtime AccountId) (cc : CommunityCeremony)
    (allowance : AssignmentCount) (numMeetups : Nat) (random : RandomNumberGenerator) :
    Option (CeremonyAssignment × RandomNumberGenerator) := do
  let (bootstrappersReputables, random) ← generateAssignmentFunctionParams
    (allowance.bootstrappers + allowance.reputables) numMeetups random
  let (endorsees, random) ← generateAssignmentFunctionParams allowance.endorsees numMeetups random
  let (newbies, random) ← generateAssignmentFunctionParams allowance.newbies numMeetups random
  let (locations, random) ← generateLocationAssignmentParams s cc random
  some (⟨bootstrappersReputables, endorsees, newbies, locations⟩, random)

/-- Without enough participants for one meetup, nothing is assigned. -/
def generateMeetupAssignmentParams (s : Runtime AccountId) (cc : CommunityCeremony)
    (random : RandomNumberGenerator) :
    Except DispatchError (CeremoniesStorage AccountId × RandomNumberGenerator) := do
  let meetupMultiplier := config.meetupSizeTarget
  let allowance ← computeAssignmentAllowance config s cc meetupMultiplier
  let numMeetups ← okOr (checkedCeilDivision allowance.getNumberOfParticipants meetupMultiplier)
    .checkedMath
  if allowance.getNumberOfParticipants < config.meetupMinSize then
    .ok (s.ceremonies, random)
  else
    let (assignment, random) ← okOr (generateAssignment s cc allowance numMeetups random) .panicked
    .ok ({ s.ceremonies with
        assignments := s.ceremonies.assignments.insert cc assignment
        assignmentCounts := s.ceremonies.assignmentCounts.insert cc allowance
        meetupCount := s.ceremonies.meetupCount.insert cc numMeetups },
      random)

/-- A failing community is logged and skipped; a panic stops the block. -/
def generateMeetupAssignmentParamsOf (cindex : Nat) :
    List CommunityIdentifier → Runtime AccountId → RandomNumberGenerator →
      Except DispatchError (Runtime AccountId)
  | [], s, _ => .ok s
  | cid :: cids, s, random =>
      match generateMeetupAssignmentParams config s (cid, cindex) random with
      | .error .panicked => .error .panicked
      | .error _ => generateMeetupAssignmentParamsOf cindex cids s random
      | .ok (ceremonies, random) =>
          generateMeetupAssignmentParamsOf cindex cids { s with ceremonies := ceremonies } random

def generateAllMeetupAssignmentParams (s : Runtime AccountId) (random : RandomNumberGenerator) :
    Except DispatchError (Runtime AccountId) :=
  generateMeetupAssignmentParamsOf config s.scheduler.currentCeremonyIndex
    s.communities.communityIdentifiers s random

/-! ## The callback -/

/-- The communities that reached the timeout are purged. -/
def purgeInactiveCommunities (s : Runtime AccountId) : Runtime AccountId :=
  let (inactivityCounters, inactives) := updateInactivityCounters s.ceremonies
    (s.scheduler.currentCeremonyIndex - 1) s.ceremonies.inactivityTimeout
    s.communities.communityIdentifiers s.ceremonies.inactivityCounters
  inactives.foldl purgeCommunity
    { s with ceremonies := { s.ceremonies with inactivityCounters := inactivityCounters } }

def onCeremonyPhaseChange (random : RandomNumberGenerator) (newPhase : CeremonyPhaseType)
    (s : Runtime AccountId) : Except DispatchError (Runtime AccountId) :=
  match newPhase with
  | .assigning => generateAllMeetupAssignmentParams config (purgeInactiveCommunities s) random
  | .attesting => .ok s
  | .registering =>
      let cindex := s.scheduler.currentCeremonyIndex
      let reputationLifetime := s.ceremonies.reputationLifetime
      if reputationLifetime < cindex then
        .ok { s with ceremonies := purgeRegistry s (cindex - reputationLifetime - 1) }
      else
        .ok s

end Encointer.Ceremonies
