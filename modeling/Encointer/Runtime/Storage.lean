import Encointer.Runtime.Config

/-!
# Storage of the runtime

One structure for the storage items of each pallet, and their product. Ceremonies,
participants, meetups, attestations, purposes and proposals are known by numbers.
-/

namespace Encointer

open Assignment

variable {AccountId : Type} [DecidableEq AccountId]

structure SchedulerStorage where
  currentCeremonyIndex : Nat
  currentPhase : CeremonyPhaseType
  nextPhaseTimestamp : Nat
  phaseDurations : StorageMap CeremonyPhaseType Nat

structure BalancesStorage (AccountId : Type) where
  totalIssuance : StorageMap CommunityIdentifier BalanceEntry
  balance : StorageMap (CommunityIdentifier × AccountId) BalanceEntry
  demurragePerBlock : StorageMap CommunityIdentifier Demurrage
  /-- The sufficient references that this pallet took, less those that it gave back. -/
  sufficients : StorageMap AccountId Nat

structure CommunitiesStorage (AccountId : Type) where
  cidsByGeohash : StorageMap GeoHash (List CommunityIdentifier)
  locations : StorageMap (CommunityIdentifier × GeoHash) (List Location)
  bootstrappers : StorageMap CommunityIdentifier (List AccountId)
  communityIdentifiers : List CommunityIdentifier
  communityMetadata : StorageMap CommunityIdentifier CommunityMetadata
  nominalIncome : StorageMap CommunityIdentifier Nat
  minSolarTripTimeS : Nat
  maxSpeedMps : Nat

/-- The registry, index and count maps of one participant type. -/
structure ParticipantRegistry (AccountId : Type) where
  registry : StorageMap (CommunityCeremony × Nat) AccountId
  index : StorageMap (CommunityCeremony × AccountId) Nat
  count : StorageMap CommunityCeremony Nat

structure CeremoniesStorage (AccountId : Type) where
  bootstrapperRegistry : ParticipantRegistry AccountId
  reputableRegistry : ParticipantRegistry AccountId
  endorseeRegistry : ParticipantRegistry AccountId
  newbieRegistry : ParticipantRegistry AccountId
  burnedBootstrapperNewbieTickets : StorageMap (CommunityIdentifier × AccountId) Nat
  burnedReputableNewbieTickets : StorageMap (CommunityCeremony × AccountId) Nat
  assignmentCounts : StorageMap CommunityCeremony AssignmentCount
  assignments : StorageMap CommunityCeremony CeremonyAssignment
  participantReputation : StorageMap (CommunityCeremony × AccountId) Reputation
  reputationCount : StorageMap CommunityCeremony Nat
  /-- By ceremony index. -/
  globalReputationCount : StorageMap Nat Nat
  endorsees : StorageMap (CommunityCeremony × AccountId) Unit
  endorseesCount : StorageMap CommunityCeremony Nat
  meetupCount : StorageMap CommunityCeremony Nat
  attestationRegistry : StorageMap (CommunityCeremony × Nat) (List AccountId)
  attestationIndex : StorageMap (CommunityCeremony × AccountId) Nat
  attestationCount : StorageMap CommunityCeremony Nat
  meetupParticipantCountVote : StorageMap (CommunityCeremony × AccountId) Nat
  ceremonyReward : Nat
  locationTolerance : Nat
  timeTolerance : Nat
  /-- By meetup. -/
  issuedRewards : StorageMap (CommunityCeremony × Nat) MeetupResult
  inactivityCounters : StorageMap CommunityIdentifier Nat
  inactivityTimeout : Nat
  endorsementTicketsPerBootstrapper : Nat
  endorsementTicketsPerReputable : Nat
  reputationLifetime : Nat
  meetupTimeOffset : Int

structure CommitmentsStorage (AccountId : Type) where
  currentPurposeId : Nat
  purposes : StorageMap Nat PalletString
  commitments : StorageMap (CommunityCeremony × (Nat × AccountId)) (Option (Vector UInt8 32))

structure TreasuriesStorage (AccountId : Type) where
  swapNativeOptions : StorageMap (CommunityIdentifier × AccountId) SwapNativeOption
  swapAssetOptions : StorageMap (CommunityIdentifier × AccountId) SwapAssetOption
  /-- The balances that the native currency keeps. -/
  nativeBalances : StorageMap AccountId Nat
  /-- What the native currency keeps in reserve, by identifier and account. -/
  namedReserves : StorageMap (Vector UInt8 8 × AccountId) Nat
  assetBalances : StorageMap (AccountId × AssetKind) Nat

structure Faucet (AccountId : Type) where
  name : PalletString
  purposeId : Nat
  whitelist : Option (List CommunityIdentifier)
  dripAmount : Nat
  creator : AccountId

structure FaucetStorage (AccountId : Type) where
  faucets : StorageMap AccountId (Faucet AccountId)
  reserveAmount : Nat

structure DemocracyStorage (AccountId : Type) where
  /-- The purpose for which reputations are committed when they vote on a proposal. -/
  purposeIds : StorageMap Nat Nat
  proposals : StorageMap Nat (Proposal AccountId)
  proposalCount : Nat
  tallies : StorageMap Nat Tally
  /-- When a proposal was approved, and which. -/
  lastApprovedProposalForAction : StorageMap ProposalActionIdentifier (Nat × Nat)
  enactmentQueue : StorageMap ProposalActionIdentifier (List Nat)

/-- The events of enacted proposals. -/
inductive Event where
  | proposalEnacted (proposalId : Nat)
  | enactmentFailed (proposalId : Nat) (reason : DispatchError)
  deriving DecidableEq, Repr

/-- The time, the block number, the storage of all pallets and the events so far. -/
structure Runtime (AccountId : Type) where
  now : Nat
  blockNumber : Nat
  scheduler : SchedulerStorage
  balances : BalancesStorage AccountId
  communities : CommunitiesStorage AccountId
  ceremonies : CeremoniesStorage AccountId
  commitments : CommitmentsStorage AccountId
  treasuries : TreasuriesStorage AccountId
  democracy : DemocracyStorage AccountId
  faucet : FaucetStorage AccountId
  events : List Event

/-- No entries for any community ceremony. -/
def ParticipantRegistry.empty : ParticipantRegistry AccountId := ⟨∅, ∅, ∅⟩

/-- What the genesis configuration sets; all other storage starts empty. -/
structure GenesisConfig where
  currentCeremonyIndex : Nat
  currentPhase : CeremonyPhaseType
  phaseDurations : StorageMap CeremonyPhaseType Nat
  minSolarTripTimeS : Nat
  maxSpeedMps : Nat
  ceremonyReward : Nat
  locationTolerance : Nat
  timeTolerance : Nat
  inactivityTimeout : Nat
  endorsementTicketsPerBootstrapper : Nat
  endorsementTicketsPerReputable : Nat
  reputationLifetime : Nat
  meetupTimeOffset : Int
  proposalCount : Nat
  reserveAmount : Nat

def GenesisConfig.build (genesis : GenesisConfig) (nativeBalances : StorageMap AccountId Nat)
    (assetBalances : StorageMap (AccountId × AssetKind) Nat) : Runtime AccountId where
  now := 0
  blockNumber := 0
  scheduler := {
    currentCeremonyIndex := genesis.currentCeremonyIndex
    currentPhase := genesis.currentPhase
    nextPhaseTimestamp := 0
    phaseDurations := genesis.phaseDurations }
  balances := {
    totalIssuance := ∅
    balance := ∅
    demurragePerBlock := ∅
    sufficients := ∅ }
  communities := {
    cidsByGeohash := ∅
    locations := ∅
    bootstrappers := ∅
    communityIdentifiers := []
    communityMetadata := ∅
    nominalIncome := ∅
    minSolarTripTimeS := genesis.minSolarTripTimeS
    maxSpeedMps := genesis.maxSpeedMps }
  ceremonies := {
    bootstrapperRegistry := .empty
    reputableRegistry := .empty
    endorseeRegistry := .empty
    newbieRegistry := .empty
    burnedBootstrapperNewbieTickets := ∅
    burnedReputableNewbieTickets := ∅
    assignmentCounts := ∅
    assignments := ∅
    participantReputation := ∅
    reputationCount := ∅
    globalReputationCount := ∅
    endorsees := ∅
    endorseesCount := ∅
    meetupCount := ∅
    attestationRegistry := ∅
    attestationIndex := ∅
    attestationCount := ∅
    meetupParticipantCountVote := ∅
    ceremonyReward := genesis.ceremonyReward
    locationTolerance := genesis.locationTolerance
    timeTolerance := genesis.timeTolerance
    issuedRewards := ∅
    inactivityCounters := ∅
    inactivityTimeout := genesis.inactivityTimeout
    endorsementTicketsPerBootstrapper := genesis.endorsementTicketsPerBootstrapper
    endorsementTicketsPerReputable := genesis.endorsementTicketsPerReputable
    reputationLifetime := genesis.reputationLifetime
    meetupTimeOffset := genesis.meetupTimeOffset }
  commitments := { currentPurposeId := 0, purposes := ∅, commitments := ∅ }
  treasuries := {
    swapNativeOptions := ∅
    swapAssetOptions := ∅
    nativeBalances := nativeBalances
    namedReserves := ∅
    assetBalances := assetBalances }
  democracy := {
    purposeIds := ∅
    proposals := ∅
    proposalCount := genesis.proposalCount
    tallies := ∅
    lastApprovedProposalForAction := ∅
    enactmentQueue := ∅ }
  faucet := { faucets := ∅, reserveAmount := genesis.reserveAmount }
  events := []

end Encointer
