import Encointer.Pallets.Communities

/-!
# The participant registry

Four triples of maps number the participants of a ceremony from one on, one
triple for each participant type. A participant leaves by a swap with the last
one, so that the numbers stay continuous.
-/

namespace Encointer

open Assignment Checked

variable {AccountId : Type} [DecidableEq AccountId]

/-! ## One registry -/

namespace ParticipantRegistry

variable (r : ParticipantRegistry AccountId)

/-- The participant gets the next number, unless it overflows. -/
def register (cc : CommunityCeremony) (participant : AccountId) :
    Option (ParticipantRegistry AccountId) := do
  let participantIndex ← addU64 (r.count.get cc 0) 1
  some {
    registry := r.registry.insert (cc, participantIndex) participant
    index := r.index.insert (cc, participant) participantIndex
    count := r.count.insert cc participantIndex }

/-- The last participant takes the number of the leaving one. -/
def removeParticipantFromRegistry (cc : CommunityCeremony) (participant : AccountId) :
    ParticipantRegistry AccountId :=
  let participantCount := r.count.get cc 0
  let participantIndex := r.index.get (cc, participant) 0
  match r.registry.lookup (cc, participantCount) with
  | none => r
  | some lastParticipant => {
      registry := (r.registry.insert (cc, participantIndex) lastParticipant).erase
        (cc, participantCount)
      index := (r.index.insert (cc, lastParticipant) participantIndex).erase (cc, participant)
      count := r.count.insert cc (participantCount - 1) }

def purge (cc : CommunityCeremony) : ParticipantRegistry AccountId where
  registry := r.registry.removePrefix cc
  index := r.index.removePrefix cc
  count := r.count.erase cc

end ParticipantRegistry

/-! ## The registries of the pallet -/

def CeremoniesStorage.registry (ceremonies : CeremoniesStorage AccountId) :
    ParticipantType → ParticipantRegistry AccountId
  | .bootstrapper => ceremonies.bootstrapperRegistry
  | .reputable => ceremonies.reputableRegistry
  | .endorsee => ceremonies.endorseeRegistry
  | .newbie => ceremonies.newbieRegistry

def CeremoniesStorage.setRegistry (ceremonies : CeremoniesStorage AccountId)
    (participantType : ParticipantType) (r : ParticipantRegistry AccountId) :
    CeremoniesStorage AccountId :=
  match participantType with
  | .bootstrapper => { ceremonies with bootstrapperRegistry := r }
  | .reputable => { ceremonies with reputableRegistry := r }
  | .endorsee => { ceremonies with endorseeRegistry := r }
  | .newbie => { ceremonies with newbieRegistry := r }

namespace Ceremonies

section

variable (ceremonies : CeremoniesStorage AccountId)

def isRegistered (cid : CommunityIdentifier) (cindex : Nat) (sender : AccountId) :
    Bool :=
  ceremonies.bootstrapperRegistry.index.contains ((cid, cindex), sender) ||
    ceremonies.reputableRegistry.index.contains ((cid, cindex), sender) ||
    ceremonies.endorseeRegistry.index.contains ((cid, cindex), sender) ||
    ceremonies.newbieRegistry.index.contains ((cid, cindex), sender)

def getParticipantType (cc : CommunityCeremony) (participant : AccountId) :
    Option ParticipantType :=
  if ceremonies.bootstrapperRegistry.index.contains (cc, participant) then
    some .bootstrapper
  else if ceremonies.reputableRegistry.index.contains (cc, participant) then
    some .reputable
  else if ceremonies.endorseeRegistry.index.contains (cc, participant) then
    some .endorsee
  else if ceremonies.newbieRegistry.index.contains (cc, participant) then
    some .newbie
  else
    none

/-- The latest ceremony within the reputation lifetime that the participant was endorsed for. -/
def isEndorsed (participant : AccountId) (cc : CommunityCeremony) : Option Nat :=
  ((List.range (ceremonies.reputationLifetime + 1)).map fun i => cc.2 - i).find? fun cindex =>
    ceremonies.endorsees.contains ((cc.1, cindex), participant)

def addToRegistry (participantType : ParticipantType) (cc : CommunityCeremony)
    (sender : AccountId) : Except DispatchError (CeremoniesStorage AccountId) := do
  let r ← okOr ((ceremonies.registry participantType).register cc sender) .registryOverflow
  .ok (ceremonies.setRegistry participantType r)

end

variable (config : Config AccountId) (s : Runtime AccountId)

/-- An endorsed newcomer uses up the endorsement. -/
def register (cid : CommunityIdentifier) (cindex : Nat) (sender : AccountId)
    (isReputable : Bool) :
    Except DispatchError (CeremoniesStorage AccountId × ParticipantType) := do
  let ceremonies := s.ceremonies
  if sender ∈ Communities.bootstrappers s.communities cid then
    let ceremonies ← addToRegistry ceremonies .bootstrapper (cid, cindex) sender
    .ok (ceremonies, .bootstrapper)
  else if Balances.totalIssuance config s.blockNumber s.balances cid = 0 then
    .error .onlyBootstrappers
  else if isReputable then
    let ceremonies ← addToRegistry ceremonies .reputable (cid, cindex) sender
    .ok (ceremonies, .reputable)
  else
    match isEndorsed ceremonies sender (cid, cindex) with
    | some endorsedCindex =>
        let ceremonies ← addToRegistry ceremonies .endorsee (cid, cindex) sender
        .ok ({ ceremonies with
          endorsees := ceremonies.endorsees.erase ((cid, endorsedCindex), sender) }, .endorsee)
    | none =>
        let ceremonies ← addToRegistry ceremonies .newbie (cid, cindex) sender
        .ok (ceremonies, .newbie)

/-- Removes a participant from the registry maintaining continuous indices. -/
def removeParticipantFromRegistry (cid : CommunityIdentifier) (cindex : Nat)
    (participant : AccountId) : Except DispatchError (CeremoniesStorage AccountId) := do
  ensure (s.scheduler.currentPhase = .registering) .wrongPhaseForUnregistering
  let participantType ← okOr (getParticipantType s.ceremonies (cid, cindex) participant)
    .participantIsNotRegistered
  .ok (s.ceremonies.setRegistry participantType
    ((s.ceremonies.registry participantType).removeParticipantFromRegistry (cid, cindex)
      participant))

/-! ## Reputation and newbie tickets -/

def participantReputation (ceremonies : CeremoniesStorage AccountId) (cc : CommunityCeremony)
    (participant : AccountId) : Reputation :=
  ceremonies.participantReputation.get (cc, participant) .unverified

/-- Within the reputation lifetime. -/
def hasReputation (participant : AccountId) (cid : CommunityIdentifier) : Bool :=
  (List.range (s.ceremonies.reputationLifetime + 1)).any fun i =>
    (participantReputation s.ceremonies (cid, s.scheduler.currentCeremonyIndex - i)
      participant).isVerified

/-- The tickets of reputables are used first, because they refill with new reputation. -/
def burnNewbieTickets (cid : CommunityIdentifier) (cindex : Nat)
    (sender : AccountId) : Except DispatchError (CeremoniesStorage AccountId) :=
  let ceremonies := s.ceremonies
  let burnedReputable := ceremonies.burnedReputableNewbieTickets.get ((cid, cindex), sender) 0
  let burnedBootstrapper := ceremonies.burnedBootstrapperNewbieTickets.get (cid, sender) 0
  if hasReputation s sender cid ∧
      burnedReputable < ceremonies.endorsementTicketsPerReputable then
    .ok { ceremonies with
      burnedReputableNewbieTickets := ceremonies.burnedReputableNewbieTickets.insert
        ((cid, cindex), sender) (burnedReputable + 1) }
  else if sender ∈ Communities.bootstrappers s.communities cid ∧
      burnedBootstrapper < ceremonies.endorsementTicketsPerBootstrapper then
    .ok { ceremonies with
      burnedBootstrapperNewbieTickets := ceremonies.burnedBootstrapperNewbieTickets.insert
        (cid, sender) (burnedBootstrapper + 1) }
  else
    .error .noMoreNewbieTickets

end Ceremonies

end Encointer
