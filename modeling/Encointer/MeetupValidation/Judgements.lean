import Mathlib.Data.List.Sort
import Encointer.Library.Checked

/-!
# Meetup validation

Validates the participants' rewards based on their votes and attestations.
Vectors are indexed by the participant: entry `i` of the votes is the vote of
participant `i`.
-/

namespace Encointer.MeetupValidation

open Checked

abbrev ParticipantIndex := Nat

abbrev Participants := List ParticipantIndex

abbrev Attestations := List (List ParticipantIndex)

/-- A number of attestations and the participants that have this number. -/
abbrev ParticipantGroup := Nat × Participants

inductive MeetupValidationError where
  | ballotEmpty
  | noDependableVote
  | indexOutOfBounds
  deriving DecidableEq, Repr

inductive ExclusionReason where
  | noVote
  | wrongVote
  | tooFewIncomingAttestations
  | tooFewOutgoingAttestations
  deriving DecidableEq, Repr

structure ExcludedParticipant where
  index : ParticipantIndex
  reason : ExclusionReason
  deriving DecidableEq, Repr

structure ParticipantJudgements where
  legit : Participants
  excluded : List ExcludedParticipant
  earlyRewardsPossible : Bool
  deriving DecidableEq, Repr

def getOrErr {α : Type} (xs : List α) (i : Nat) : Except MeetupValidationError α :=
  match xs[i]? with
  | some x => .ok x
  | none => .error .indexOutOfBounds

def ParticipantJudgements.excludeParticipants (judgements : ParticipantJudgements)
    (excluded : List (ParticipantIndex × ExclusionReason)) : ParticipantJudgements :=
  { judgements with
    legit := judgements.legit.filter fun i => i ∉ excluded.map Prod.fst
    excluded := judgements.excluded ++ excluded.map fun p => ⟨p.1, p.2⟩ }

/-! ## Votes -/

/-- Participants without a vote carry the default vote 0. -/
def getExcludedParticipantsNoVote (participants : Participants) (votes : List Nat) :
    Except MeetupValidationError (List (ParticipantIndex × ExclusionReason)) :=
  participants.foldlM (fun excluded i => do
    let vote ← getOrErr votes i
    .ok (if 0 < vote then excluded else excluded ++ [(i, .noVote)])) []

def getExcludedParticipantsWrongVote (participants : Participants) (votes : List Nat)
    (nConfirmed : Nat) :
    Except MeetupValidationError (List (ParticipantIndex × ExclusionReason)) :=
  participants.foldlM (fun excluded i => do
    let vote ← getOrErr votes i
    .ok (if vote ≠ nConfirmed then excluded ++ [(i, .wrongVote)] else excluded)) []

/-- Counts one vote; a vote seen for the first time is inserted in front. -/
def countVote (candidates : List (Nat × Nat)) (vote : Nat) : List (Nat × Nat) :=
  match candidates.findIdx? fun candidate => candidate.1 = vote with
  | some idx => candidates.modify idx fun candidate => (candidate.1, candidate.2 + 1)
  | none => (vote, 1) :: candidates

/-- The winning vote, its count, and whether there was only one candidate. -/
def findMajorityVote (participants : Participants) (votes : List Nat) :
    Except MeetupValidationError (Nat × Nat × Bool) := do
  let candidates ← participants.foldlM (fun candidates i => do
    let vote ← getOrErr votes i
    .ok (countVote candidates vote)) []
  if candidates.isEmpty then
    .error .ballotEmpty
  else
    -- a stable sort by descending vote count
    let sorted := candidates.insertionSort fun a b => b.2 ≤ a.2
    let (nConfirmed, voteCount) ← getOrErr sorted 0
    if voteCount < 3 then
      .error .noDependableVote
    else
      .ok (nConfirmed, voteCount, decide (candidates.length = 1))

/-! ## Early rewards -/

def voteYieldsMajority (numParticipants nConfirmed : Nat) : Bool :=
  numParticipants < saturateU32 (nConfirmed * 2)

def numAttestationsMatchesVote (legit : Participants) (attestations : Attestations)
    (nConfirmed : Nat) : Bool :=
  attestations.zipIdx.all fun (v, i) =>
    i ∉ legit ∨ v.length = wrappingSubU32 nConfirmed 1

def attestationGraphIsFullyConnected (legit : Participants) (attestations : Attestations) :
    Bool :=
  attestations.zipIdx.all fun (v, i) =>
    i ∉ legit ∨
      v.insertionSort (· ≤ ·) = (legit.filter fun p => p ≠ i).insertionSort (· ≤ ·)

def earlyRewardsPossible (legit : Participants) (attestations : Attestations)
    (numTotalParticipants nConfirmed : Nat) (voteIsUnanimous : Bool) : Bool :=
  voteIsUnanimous && voteYieldsMajority numTotalParticipants nConfirmed &&
    numAttestationsMatchesVote legit attestations nConfirmed &&
    attestationGraphIsFullyConnected legit attestations

/-! ## Attestations -/

def filterAttestations (participants : Participants) (attestations : Attestations) :
    Attestations :=
  attestations.map fun a => a.filter fun j => j ∈ participants

/-- Appends `p` to the last group, or opens a new one. -/
def pushIntoGroup (grouped : List ParticipantGroup) (value : Nat) (p : ParticipantIndex) :
    List ParticipantGroup :=
  match grouped.getLast? with
  | some (k, group) =>
      if k = value then grouped.dropLast ++ [(k, group ++ [p])] else grouped ++ [(value, [p])]
  | none => [(value, [p])]

/-- The indices in groups of equal value; the sort compares the values cast to `i32`. -/
def groupIndicesByValue (indices : Participants) (values : List Nat) :
    Except MeetupValidationError (List ParticipantGroup) :=
  if indices.any fun i => values.length ≤ i then
    .error .indexOutOfBounds
  else
    let sorted := indices.insertionSort fun a b =>
      asI32 (values.getD a 0) ≤ asI32 (values.getD b 0)
    sorted.foldlM (fun grouped p => do
      let value ← getOrErr values p
      .ok (pushIntoGroup grouped value p)) []

/-- How many others list `p`; also those that are no longer processed count. -/
def numIncomingAttestations (attestations : Attestations) (p : ParticipantIndex) : Nat :=
  attestations.zipIdx.countP fun (a, idx) => p ≠ idx ∧ p ∈ a

def groupParticipantsByNumIncomingAttestations (participants : Participants)
    (attestations : Attestations) : Except MeetupValidationError (List ParticipantGroup) :=
  groupIndicesByValue participants
    ((List.range attestations.length).map (numIncomingAttestations attestations))

def groupParticipantsByNumOutgoingAttestations (participants : Participants)
    (attestations : Attestations) : Except MeetupValidationError (List ParticipantGroup) :=
  groupIndicesByValue participants (attestations.map List.length)

/-- The participants a round removes: a least attested or least attesting group. -/
def participantsToExclude (thresholdFn : Nat → Nat) (numToProcess : Nat)
    (leastOutgoing leastIncoming : ParticipantGroup) :
    Option (Participants × ExclusionReason) :=
  if leastIncoming.1 < leastOutgoing.1 then
    if leastIncoming.1 < thresholdFn numToProcess then
      some (leastIncoming.2, .tooFewIncomingAttestations)
    else none
  else if leastOutgoing.1 < thresholdFn numToProcess then
    some (leastOutgoing.2, .tooFewOutgoingAttestations)
  else none

/-- The exclusion loop; the first argument is the number of iterations left. -/
def exclusionLoop (thresholdFn : Nat → Nat) :
    Nat → Participants → Attestations → List (ParticipantIndex × ExclusionReason) →
      Except MeetupValidationError (List (ParticipantIndex × ExclusionReason))
  | 0, _, _, excluded => .ok excluded
  | iterations + 1, toProcess, relevant, excluded =>
      if toProcess.isEmpty then
        .ok excluded
      else do
        let byOutgoing ← groupParticipantsByNumOutgoingAttestations toProcess relevant
        let byIncoming ← groupParticipantsByNumIncomingAttestations toProcess relevant
        let leastOutgoing ← getOrErr byOutgoing 0
        let leastIncoming ← getOrErr byIncoming 0
        match participantsToExclude thresholdFn toProcess.length leastOutgoing leastIncoming with
        | some (exclude, reason) =>
            let toProcess := toProcess.filter fun k => k ∉ exclude
            exclusionLoop thresholdFn iterations toProcess
              (filterAttestations toProcess relevant)
              (excluded ++ exclude.map fun p => (p, reason))
        | none => .ok excluded

def getExcludedParticipantsNumAttestations (participants : Participants)
    (attestations : Attestations) (thresholdFn : Nat → Nat) :
    Except MeetupValidationError (List (ParticipantIndex × ExclusionReason)) :=
  exclusionLoop thresholdFn participants.length participants
    (filterAttestations participants attestations) []

def getParticipantJudgements (participants : Participants) (votes : List Nat)
    (attestations : Attestations) (thresholdFn : Nat → Nat) :
    Except MeetupValidationError ParticipantJudgements := do
  let judgements : ParticipantJudgements := ⟨participants, [], false⟩
  let noVote ← getExcludedParticipantsNoVote judgements.legit votes
  let judgements := judgements.excludeParticipants noVote
  let (nConfirmed, _, voteIsUnanimous) ← findMajorityVote judgements.legit votes
  let wrongVote ← getExcludedParticipantsWrongVote judgements.legit votes nConfirmed
  let judgements := judgements.excludeParticipants wrongVote
  -- checked before participants are excluded based on attestations
  let early := earlyRewardsPossible judgements.legit attestations participants.length nConfirmed
    voteIsUnanimous
  let numAttestations ←
    getExcludedParticipantsNumAttestations judgements.legit attestations thresholdFn
  let judgements := judgements.excludeParticipants numAttestations
  .ok { judgements with earlyRewardsPossible := early }

/-- The threshold that `claim_rewards` passes. -/
def attestationThresholdFn (i : Nat) : Nat :=
  max (if 5 < i then i - 2 else i - 1) 1

example : (getParticipantJudgements [0, 1, 2] [3, 3, 3] [[1, 2], [0, 2], [0, 1]]
    attestationThresholdFn).toOption = some ⟨[0, 1, 2], [], true⟩ := by decide

end Encointer.MeetupValidation
