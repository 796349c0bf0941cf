import Encointer.Assignment.Assign

/-!
# Ceremony primitives

Phases, reputations and participants. A ceremony index counts cycles of several
days and a moment is a time stamp; both are unbounded here.
-/

namespace Encointer

open Assignment

inductive CeremonyPhaseType where
  | registering
  | assigning
  | attesting
  deriving DecidableEq, Repr

def CeremonyPhaseType.isRegisteringOrAttesting (phase : CeremonyPhaseType) : Bool :=
  phase ≠ .assigning

abbrev CommunityCeremony := CommunityIdentifier × Nat

inductive Reputation where
  /-- No attestations for the attendance claim. -/
  | unverified
  /-- No attestation yet, but linked to reputation. -/
  | unverifiedReputable
  /-- Verified attendance that has not been linked to a new registration. -/
  | verifiedUnlinked
  /-- Verified attendance that has been linked to a registration at the given index. -/
  | verifiedLinked (cindex : Nat)
  deriving DecidableEq, Repr

def Reputation.isVerified : Reputation → Bool
  | .verifiedLinked _ | .verifiedUnlinked => true
  | _ => false

def Reputation.isVerifiedAndUnlinkedForCindex (cindex : Nat) : Reputation → Bool
  | .verifiedUnlinked => true
  | .verifiedLinked c => c ≠ cindex
  | _ => false

inductive ParticipantType where
  | bootstrapper
  | reputable
  | endorsee
  | newbie
  deriving DecidableEq, Repr

/-- The attendee signs `(prover_public, ceremony_index)`. -/
structure ProofOfAttendance (AccountId : Type) where
  proverPublic : AccountId
  ceremonyIndex : Nat
  communityIdentifier : CommunityIdentifier
  attendeePublic : AccountId
  attendeeSignature : List UInt8
  deriving DecidableEq, Repr

def ProofOfAttendance.source {AccountId : Type} (p : ProofOfAttendance AccountId) :
    CommunityCeremony :=
  (p.communityIdentifier, p.ceremonyIndex)

structure AssignmentCount where
  bootstrappers : Nat
  reputables : Nat
  endorsees : Nat
  newbies : Nat
  deriving DecidableEq, Repr

def AssignmentCount.getNumberOfParticipants (count : AssignmentCount) : Nat :=
  count.bootstrappers + count.reputables + count.endorsees + count.newbies

structure CeremonyAssignment where
  bootstrappersReputables : AssignmentParams
  endorsees : AssignmentParams
  newbies : AssignmentParams
  locations : AssignmentParams
  deriving DecidableEq, Repr

inductive MeetupResult where
  | ok
  | votesNotDependable
  | meetupValidationIndexOutOfBounds
  deriving DecidableEq, Repr

theorem Reputation.isVerified_of_unlinkedForCindex {cindex : Nat} {r : Reputation}
    (h : r.isVerifiedAndUnlinkedForCindex cindex = true) : r.isVerified = true := by
  cases r <;> simp_all [isVerifiedAndUnlinkedForCindex, isVerified]

end Encointer
