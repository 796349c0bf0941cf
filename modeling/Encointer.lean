import Encointer.Library.Checked
import Encointer.Library.Loop
import Encointer.Primitives.Random
import Encointer.Primitives.Communities
import Encointer.Assignment.Math
import Encointer.Assignment.MathFacts
import Encointer.Assignment.ModInv
import Encointer.Assignment.Assign
import Encointer.Assignment.Partition
import Encointer.MeetupValidation.Judgements
import Encointer.MeetupValidation.Specs
import Encointer.MeetupValidation.MajorityClique
import Encointer.MeetupValidation.EarlyPayout
import Encointer.Library.Machine
import Encointer.Library.StorageMap
import Encointer.Primitives.Ceremonies
import Encointer.Primitives.Democracy
import Encointer.Runtime.Config
import Encointer.Runtime.Storage
import Encointer.Pallets.Balances
import Encointer.Pallets.Scheduler
import Encointer.Pallets.Commitments
import Encointer.Pallets.Communities
import Encointer.Pallets.Treasuries
import Encointer.Pallets.Meetups
import Encointer.Pallets.CeremonyPhases
import Encointer.Pallets.Ceremonies
import Encointer.Pallets.Democracy
import Encointer.Pallets.Faucet
import Encointer.Runtime.Dispatch
import Encointer.Ceremonies.Bijection
import Encointer.Runtime.Changes
import Encointer.Ceremonies.CallSpecs
import Encointer.Runtime.PhaseSpecs
import Encointer.Runtime.Steps
import Encointer.Runtime.PhaseChanges
import Encointer.Ceremonies.RegistryBijection
import Encointer.Ceremonies.AssignedMeetups
import Encointer.Ceremonies.RewardOnce
import Encointer.Ceremonies.LinkInvariant
import Encointer.Ceremonies.ReputationBacking
import Encointer.Ceremonies.CounterSums
import Encointer.Democracy.VoteSpecs
import Encointer.Library.SpendOnce
import Encointer.Commitments.CommitOnce
import Encointer.Democracy.Turnout
import Encointer.Democracy.Lifecycle
import Encointer.Democracy.EnactmentQueue
import Encointer.Democracy.FullQueue
import Encointer.Democracy.Confirmation
import Encointer.Democracy.Supersession
import Encointer.Ceremonies.MeetupLocations
import Encointer.Communities.GeohashIndex
import Encointer.Communities.ExactIndex
import Encointer.Ceremonies.Ledger
import Encointer.Ceremonies.Histories
import Encointer.Ceremonies.EndorseesCount
import Encointer.Ceremonies.EndorsementTickets
import Encointer.Ceremonies.Inactivity
import Encointer.Ceremonies.Removal
import Encointer.Balances.Specs
import Encointer.Library.Totals
import Encointer.Balances.Conservation
import Encointer.Balances.References
import Encointer.Treasuries.SwapOptions
import Encointer.Treasuries.SwapAccounting
import Encointer.Pallets.ReputationRings
import Encointer.ReputationRings.SubRings
import Encointer.ReputationRings.Consistency
import Encointer.ReputationRings.Nesting
import Encointer.Faucets.Payouts
import Encointer.Library.Groth16
import Encointer.Library.LittleEndian
import Encointer.OfflinePayment.Verifiers
import Encointer.OfflinePayment.SetupCeremony
import Encointer.OfflinePayment.Verification
import Encointer.Rpc.Ceremonies
import Encointer.Rpc.ReputationCache
import Encointer.Rpc.Communities
import Encointer.Rpc.CommunityCache
import Encointer.OfflinePayment.DoubleSpend
import Encointer.MeetupValidation.Rounds
import Encointer.MeetupValidation.Fixpoint
import Encointer.MeetupValidation.LoneDissenter
import Encointer.MeetupValidation.Relabeling
import Encointer.Assignment.EvenSpread
import Encointer.Ceremonies.SeatAllocation
import Encointer.Ceremonies.BallotBox
import Encointer.Ceremonies.Ballots
import Encointer.Balances.Demurrage
import Encointer.Balances.Failures
import Encointer.Balances.RateChanges
import Encointer.Ceremonies.Unregistering
import Encointer.Runtime.CeremonyTimes
import Encointer.Democracy.ConstantElectorate
import Encointer.Balances.Conversions
import Encointer.Treasuries.ValidityWindow
import Encointer.Scheduler.FailedProgress
import Encointer.Scheduler.PhaseTiming
import Encointer.Democracy.QuorumBiasing
import Encointer.Democracy.FailedEnactment
import Encointer.Library.BoundedVec
import Encointer.Pallets.DemocracyMigrations
import Encointer.Democracy.QueueMigration
import Encointer.ReputationRings.Attendance
import Encointer.ReputationRings.Contents
import Encointer.Balances.FeeConversion
import Encointer.Library.Base58
import Encointer.Library.Utf8
import Encointer.Primitives.CommunityText
import Encointer.Library.Rejection
import Encointer.Primitives.HashedRandom
import Encointer.Primitives.HashedPermutation
import Encointer.Primitives.Bs58Verify
import Encointer.Library.Projection
import Encointer.Pallets.Bazaar
import Encointer.Bazaar.Offerings
import Encointer.Ceremonies.Provenance
import Encointer.Library.CauchyMatrix
import Encointer.Library.Gadgets
import Encointer.Library.Primality
import Encointer.OfflinePayment.Circuit
import Encointer.OfflinePayment.Wallet
import Encointer.Ceremonies.BootstrapperSeats
import Encointer.Ceremonies.CliqueRewards
import Encointer.Ceremonies.MeetupPlaces
import Encointer.Rpc.AccountData
import Encointer.Balances.MoneySupply
import Encointer.Democracy.Governance
