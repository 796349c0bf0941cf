import Encointer.Library.Loop
import Encointer.Assignment.Math
import Encointer.Primitives.Random
import Encointer.Primitives.Communities

/-!
# Everything regarding meetup assignments

`assignmentFn` sends a participant to a meetup, `assignmentFnInverse` lists the
participants of a meetup. A step of a loop that panics makes the result `none`.
-/

namespace Encointer.Assignment

open Checked

structure AssignmentParams where
  /-- Random prime below number of meetup participants, or the number of locations. -/
  m : Nat
  s1 : Nat
  s2 : Nat
  deriving DecidableEq, Repr, Inhabited

def assignmentFn (participantIndex : Nat) (params : AssignmentParams)
    (assignmentCount : Nat) : Option Nat := do
  let product ← mulU64 participantIndex params.s1
  let sum ← addU64 product params.s2
  let div ← checkedModulo sum params.m
  checkedModulo div assignmentCount

/-! ## Random parameters -/

def equalMappingLoop (params : AssignmentParams) (meetupCount countMax : Nat) :
    List Nat → List Nat → Option Bool
  | [], _ => some true
  | i :: rest, counts =>
      match assignmentFn i params meetupCount with
      | none => some false
      | some meetup => do
          let count ← counts[meetup]?
          if countMax < count + 1 then
            some false
          else
            equalMappingLoop params meetupCount countMax rest (counts.set meetup (count + 1))

/-- Only the participants from `params.m` on are counted. -/
def validateEqualMapping (numParticipants : Nat) (params : AssignmentParams)
    (meetupCount : Nat) : Option Bool :=
  if numParticipants < 2 then
    some true
  else
    let countMax :=
      (checkedCeilDivision (wrappingSubU64 numParticipants params.m) meetupCount).getD 0
    equalMappingLoop params meetupCount countMax
      (List.range' params.m (numParticipants - params.m)) (List.replicate meetupCount 0)

def maxSkips : Nat := 200

/-- The retry loop; the first argument is the number of rounds left. -/
def assignmentParamsLoop (numParticipants m numMeetups : Nat) :
    Nat → AssignmentParams → RandomNumberGenerator →
      Option (AssignmentParams × RandomNumberGenerator)
  | 0, params, random => some (params, random)
  | rounds + 1, _, random => do
      let (s1, random) := random.pickNonZeroU32 (wrappingSubU32 m 1)
      let (s2, random) := random.pickNonZeroU32 (wrappingSubU32 m 1)
      let params : AssignmentParams := ⟨m, s1, s2⟩
      if ← validateEqualMapping numParticipants params numMeetups then
        some (params, random)
      else
        assignmentParamsLoop numParticipants m numMeetups rounds params random

def generateAssignmentFunctionParams (numParticipants numMeetups : Nat)
    (random : RandomNumberGenerator) : Option (AssignmentParams × RandomNumberGenerator) := do
  let m := (← findPrimeBelow numParticipants) % 2 ^ 32
  let (s1, random) := random.pickNonZeroU32 (wrappingSubU32 m 1)
  let (s2, random) := random.pickNonZeroU32 (wrappingSubU32 m 1)
  assignmentParamsLoop numParticipants m numMeetups (maxSkips + 1) ⟨m, s1, s2⟩ random

def findRandomCoprimeBelow (upperBound : Nat) (random : RandomNumberGenerator) :
    Option (Nat × RandomNumberGenerator) :=
  if upperBound ≤ 1 then
    some (0, random)
  else if upperBound = 2 then
    some (1, random)
  else do
    let (candidates, random) ← randomPermutation (List.range' 1 (upperBound - 1)) random
    some ((candidates.find? (isCoprime upperBound)).getD 1, random)

/-! ## The inverse -/

def t3 (n currentIndex : Nat) (meetupIndex : Nat) (params : AssignmentParams)
    (t2 : Int) : Option Nat := do
  let t3 ← mulI64 (asI64 n) (asI64 currentIndex)
  let t3 ← addI64 t3 (asI64 meetupIndex)
  let t3 ← subI64 t3 (asI64 params.s2)
  let t3 ← remEuclidI64 t3 (asI64 params.m)
  let t3 ← mulI64 t3 t2
  let t3 ← remEuclidI64 t3 (asI64 params.m)
  some (asU64 t3)

/-- How many residues below `params.m` the meetup covers: a division rounded up. -/
def maxIndex (meetupIndex : Nat) (params : AssignmentParams)
    (assignmentCount : Nat) : Nat :=
  let span := params.m - meetupIndex
  span / assignmentCount + if asI64 span % asI64 assignmentCount ≠ 0 then 1 else 0

/-- What round `i` pushes: the participant `t3`, and the one `m` above it. -/
def inversePushes (meetupIndex : Nat) (params : AssignmentParams)
    (assignmentCount participantCount i : Nat) : Option (List Nat) := do
  let t2 ← checkedModInv (asI64 params.s1) (asI64 params.m)
  match t3 assignmentCount i meetupIndex params t2 with
  | none => some []
  | some t3 =>
      if participantCount ≤ t3 then
        some []
      else
        match addU64 t3 params.m with
        | some t3PlusM => some (if t3PlusM < participantCount then [t3, t3PlusM] else [t3])
        | none => some [t3]

/-- All participants of the meetup with `meetupIndex`. -/
def assignmentFnInverse (meetupIndex : Nat) (params : AssignmentParams)
    (assignmentCount participantCount : Nat) : Option (List Nat) :=
  if assignmentCount = 0 then
    some []
  else
    Loop.collectM (inversePushes meetupIndex params assignmentCount participantCount)
      (List.range (maxIndex meetupIndex params assignmentCount))

/-! ## Meetups and their locations -/

def meetupIndex (participantIndex : Nat) (params : AssignmentParams)
    (meetupCount : Nat) : Option Nat := do
  some ((← assignmentFn participantIndex params meetupCount) + 1)

def getMeetupLocationIndex (meetupIndex : Nat) (locations : List Location)
    (params : AssignmentParams) : Option Nat :=
  assignmentFn meetupIndex params locations.length

def meetupLocation (meetupIndex : Nat) (locations : List Location)
    (params : AssignmentParams) : Option Location := do
  locations[← getMeetupLocationIndex meetupIndex locations params]?

end Encointer.Assignment
