import Encointer.Primitives.Democracy
import Encointer.Library.StorageMap
import Encointer.Library.Machine

/-!
# Runtime constants and code outside the repository

The associated types and constants of the pallets' `Config` traits, and the
functions of other crates that the pallets call: hashes, geohashes,
transcendental functions of the fixed-point library, signatures and the native
currency. Nothing is assumed about these functions here.
-/

namespace Encointer

/-- The errors of the modelled pallets. -/
inductive DispatchError where
  -- scheduler
  | divisionByZero
  -- balances
  | balanceTooLow
  | totalIssuanceOverflow
  | noAccount
  | existentialDeposit
  -- communities
  | invalidLocation
  | invalidAmountBootstrappers
  | minimumDistanceViolationToOtherLocation
  | minimumDistanceViolationToDateLine
  | communityAlreadyRegistered
  | communityInexistent
  | invalidCommunityMetadata
  | invalidDemurrage
  | invalidLocationForGeohash
  | invalidGeohash
  | registrationPhaseRequired
  | tooManyCommunityIdentifiers
  | tooManyCommunityIdentifiersPerGeohash
  | tooManyLocationsPerGeohash
  | tooManyBootstrappers
  -- ceremonies
  | participantAlreadyRegistered
  | badProofOfAttendanceSignature
  | bootstrapperReputationIsUntransferrable
  | meetupLocationNotFound
  | meetupTimeCalculationError
  | noValidAttestations
  | attestationPhaseRequired
  | registeringOrAttestationPhaseRequired
  | inexistentCommunity
  | proofOutdated
  | proofAcausal
  | wrongProofSubject
  | attendanceUnverifiedOrAlreadyUsed
  | tooManyAttestations
  | noMoreNewbieTickets
  | alreadyEndorsed
  | participantIsNotRegistered
  | noLocationsAvailable
  | wrongPhaseForClaimingRewards
  | rewardsAlreadyIssued
  | votesNotDependable
  | registryOverflow
  | checkedMath
  | onlyBootstrappers
  | wrongPhaseForChangingMeetupTimeOffset
  | invalidMeetupTimeOffset
  | wrongPhaseForUnregistering
  | getMeetupParticipantsError
  | meetupValidationIndexOutOfBounds
  | earlyRewardsNotPossible
  | mustBeNewbieToUpgradeRegistration
  | reputationCommunityCeremonyRequired
  | reputationMustBeLinked
  | invalidMeetupIndex
  | tooManyAttestationsInBoundedVec
  -- reputation commitments
  | alreadyCommitted
  | noReputation
  | purposeRegistryOverflow
  | inexistentPurpose
  -- democracy
  | proposalIdOutOfBounds
  | inexistentProposal
  | voteCountOverflow
  | proposalCannotBeUpdated
  | aqbError
  | proposalWaitingForEnactment
  | mathError
  -- treasuries
  | noValidSwapOption
  | swapRateNotDefined
  | swapOverflow
  | insufficientNativeFunds
  | insufficientAllowance
  | payoutError
  | nativeTransferFailed
  -- faucets
  | faucetEmpty
  | insufficientBalance
  | faucetAlreadyExists
  | inexistentFaucet
  | purposeIdCreationFailed
  | communityNotInWhitelist
  | faucetNotEmpty
  | notCreator
  | invalidCommunityIdentifierInWhitelist
  | dripAmountTooSmall
  | nativeReserveFailed
  /-- The code panics: the transaction, or the block if it is a hook, is dropped. -/
  | panicked
  /-- An argument does not fit its type, so the call cannot be decoded. -/
  | undecodable
  deriving DecidableEq, Repr

structure BalanceEntry where
  /-- A `U64F64`, as bits, like all amounts of a community currency. -/
  principal : Nat
  /-- The block height at which the balance was last adjusted. -/
  lastUpdate : Nat
  deriving DecidableEq, Repr

structure Config (AccountId : Type) where
  momentsPerDay : Nat
  meetupSizeTarget : Nat
  meetupMinSize : Nat
  meetupNewbieLimitDivider : Nat
  maxAttestations : Nat
  maxCommunityIdentifiers : Nat
  maxCommunityIdentifiersPerGeohash : Nat
  maxLocationsPerGeohash : Nat
  maxBootstrappers : Nat
  defaultDemurrage : Demurrage
  existentialDeposit : Nat
  maxReputationCount : Nat
  confirmationPeriod : Nat
  proposalLifetime : Nat
  /-- In perthousand. -/
  minTurnout : Nat
  /-- `exp` on the bits of an `I64F64`. -/
  exp : Int → Option Int
  /-- `sqrt` on the bits of a `U64F64`. -/
  sqrt : Nat → Option Nat
  /-- `GeoHash::try_from_params`. -/
  tryFromParams : Location → Option GeoHash
  /-- `GeoHash::neighbors`: n, ne, e, se, s, sw, w and nw. -/
  neighbors : GeoHash → Option (Vector GeoHash 8)
  /-- `GeoHash::try_as_coordinates`: longitude, latitude and their errors. -/
  tryAsCoordinates : GeoHash → Option (Degree × Degree × Degree × Degree)
  /-- The orthodromic distance in meters. -/
  haversineDistance : Location → Location → Nat
  /-- The CRC checksum of the encoded bootstrappers. -/
  bootstrappersDigest : List AccountId → Vector UInt8 4
  /-- Whether the signature of `(prover_public, ceremony_index)` is the attendee's. -/
  verifyProof : ProofOfAttendance AccountId → Bool
  /-- `get_community_treasury_account_unchecked`, a hash of the pallet id and the argument. -/
  treasuryAccount : Option CommunityIdentifier → AccountId
  /-- `Currency::minimum_balance`. -/
  minimumBalance : Nat
  /-- `Currency::transfer` with `KeepAlive` on the native balances. -/
  currencyTransfer : StorageMap AccountId Nat → AccountId → AccountId → Nat →
    Option (StorageMap AccountId Nat)
  /-- `Currency::transfer` with `AllowDeath`. -/
  currencyTransferAllowDeath : StorageMap AccountId Nat → AccountId → AccountId → Nat →
    Option (StorageMap AccountId Nat)
  /-- `NamedReservableCurrency::reserve_named` on the free balances and the named reserves. -/
  currencyReserveNamed : StorageMap AccountId Nat → StorageMap (Vector UInt8 8 × AccountId) Nat →
    Vector UInt8 8 → AccountId → Nat →
    Option (StorageMap AccountId Nat × StorageMap (Vector UInt8 8 × AccountId) Nat)
  /-- `NamedReservableCurrency::unreserve_all_named`, which cannot fail. -/
  currencyUnreserveAllNamed : StorageMap AccountId Nat →
    StorageMap (Vector UInt8 8 × AccountId) Nat → Vector UInt8 8 → AccountId →
    StorageMap AccountId Nat × StorageMap (Vector UInt8 8 × AccountId) Nat
  /-- The pallet id of the faucets. -/
  faucetPalletId : Vector UInt8 8
  /-- The account of a faucet, a hash of its identifier. -/
  faucetAccount : PalletString → AccountId
  /-- The first eight bytes of an account. -/
  accountPrefix : AccountId → Vector UInt8 8
  /-- Where the remaining funds of closed faucets go. -/
  catchBasinAccount : AccountId
  /-- `Paymaster::transfer` on the asset balances. -/
  paymasterTransfer : StorageMap (AccountId × AssetKind) Nat → AccountId → AccountId →
    AssetKind → Nat → Option (StorageMap (AccountId × AssetKind) Nat)

end Encointer
