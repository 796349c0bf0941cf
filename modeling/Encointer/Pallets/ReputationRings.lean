import Encointer.Runtime.Dispatch
import Mathlib.Data.List.Sort

/-!
# Reputation rings

For each community, five rings group the accounts by how many of the last five
ceremonies they attended. A computation takes one step at a time: it scans the
ceremonies, and then builds the rings from the strictest level to the loosest.
Users may register keys between any two steps.
-/

namespace Encointer

/-- The compressed Bandersnatch public key. -/
abbrev BandersnatchPublicKey := Vector UInt8 32

inductive RingError where
  | computationAlreadyInProgress
  | noComputationPending
  | communityNotFound
  | invalidCeremonyIndex
  | computationAlreadyDone
  | ringTooLarge
  | wrongPhase
  /-- The code panics: the transaction, or the block if it is a hook, is dropped. -/
  | panicked
  deriving DecidableEq, Repr

inductive RingComputationPhase where
  /-- How many of the last five ceremonies have been scanned. -/
  | collectingMembers (nextCeremonyOffset : Nat)
  | buildingRing (currentLevel : Nat)
  | done
  deriving DecidableEq, Repr

structure RingComputationState (AccountId : Type) where
  community : CommunityIdentifier
  ceremonyIndex : Nat
  phase : RingComputationPhase
  /-- How many of the last five ceremonies the accounts attended. -/
  attendance : List (AccountId × Nat)

structure RingsStorage (AccountId : Type) where
  bandersnatchKeys : StorageMap AccountId BandersnatchPublicKey
  /-- By reputation level and index of the sub-ring. -/
  ringMembers : StorageMap (CommunityCeremony × Nat × Nat) (List BandersnatchPublicKey)
  /-- By reputation level. -/
  subRingCount : StorageMap (CommunityCeremony × Nat) Nat
  pendingRingComputation : Option (RingComputationState AccountId)
  /-- The communities that wait for their automatic computation. -/
  pendingCommunities : List CommunityIdentifier
  pendingCeremonyIndex : Nat

structure RingsConfig (AccountId : Type) where
  maxRingSize : Nat
  /-- The order of accounts, by which the attendance is sorted. -/
  accountLe : AccountId → AccountId → Bool

namespace ReputationRings

def maxReputationLevels : Nat := 5

variable {AccountId : Type} [DecidableEq AccountId] (config : RingsConfig AccountId)
  (s : Runtime AccountId) (rings : RingsStorage AccountId)

/-! ## Collecting members -/

def countAttendance (account : AccountId) : List (AccountId × Nat) → List (AccountId × Nat)
  | [] => [(account, 1)]
  | (a, n) :: rest =>
      if a = account then (a, min (n + 1) 255) :: rest else (a, n) :: countAttendance account rest

/-- All accounts with a key whose reputation is verified attended the ceremony. -/
def countAttendances (cc : CommunityCeremony) :
    List (AccountId × BandersnatchPublicKey) → List (AccountId × Nat) → List (AccountId × Nat)
  | [], attendance => attendance
  | (account, _) :: keys, attendance =>
      if (Ceremonies.participantReputation s.ceremonies cc account).isVerified then
        countAttendances cc keys (countAttendance account attendance)
      else
        countAttendances cc keys attendance

/-- Scans one past ceremony; there is none with index zero. -/
def collectMembersStep (state : RingComputationState AccountId) (offset : Nat) :
    RingComputationState AccountId :=
  if maxReputationLevels ≤ offset then
    { state with
      attendance := state.attendance.insertionSort fun a b => config.accountLe a.1 b.1 = true
      phase := .buildingRing maxReputationLevels }
  else
    let cindex := state.ceremonyIndex - offset
    if cindex = 0 then
      { state with phase := .collectingMembers (offset + 1) }
    else
      { state with
        attendance := countAttendances s (state.community, cindex) rings.bandersnatchKeys.entries
          state.attendance
        phase := .collectingMembers (offset + 1) }

/-! ## Building rings -/

def eligibleKeys (keys : StorageMap AccountId BandersnatchPublicKey)
    (attendance : List (AccountId × Nat)) (level : Nat) : List BandersnatchPublicKey :=
  attendance.filterMap fun entry => if level ≤ entry.2 then keys.lookup entry.1 else none

/-- Keys are sorted by their bytes. -/
def keyLe (a b : BandersnatchPublicKey) : Bool :=
  a.toList.map UInt8.toNat ≤ b.toList.map UInt8.toNat

/-- Fails for a division by zero. -/
def numSubRings (total : Nat) : Option Nat :=
  if total ≤ config.maxRingSize then
    some 1
  else if config.maxRingSize = 0 then
    none
  else
    some ((total + config.maxRingSize - 1) / config.maxRingSize)

/-- Sub-rings differ by at most one member. -/
def subRing (members : List BandersnatchPublicKey) (num i : Nat) : List BandersnatchPublicKey :=
  (members.take ((i + 1) * members.length / num)).drop (i * members.length / num)

/-- The sub-rings that were written before a failure stay. -/
def publishSubRings (cc : CommunityCeremony) (level : Nat) (members : List BandersnatchPublicKey)
    (num : Nat) :
    List Nat → RingsStorage AccountId → RingsStorage AccountId × Except RingError Unit
  | [], rings => (rings, .ok ())
  | i :: rest, rings =>
      let chunk := subRing members num i
      if config.maxRingSize < chunk.length then
        (rings, .error .ringTooLarge)
      else
        publishSubRings cc level members num rest
          { rings with ringMembers := rings.ringMembers.insert (cc, level, i) chunk }

/-- The rings of a level are split if there are too many members. -/
def buildRingStep (state : RingComputationState AccountId) (level : Nat) :
    RingsStorage AccountId × Except RingError (RingComputationState AccountId) :=
  if level = 0 then
    (rings, .ok { state with phase := .done })
  else
    let members := (eligibleKeys rings.bandersnatchKeys state.attendance level).insertionSort
      fun a b => keyLe a b = true
    let cc := (state.community, state.ceremonyIndex)
    match numSubRings config members.length with
    | none => (rings, .error .panicked)
    | some num =>
        match publishSubRings config cc level members num (List.range num) rings with
        | (rings, .error e) => (rings, .error e)
        | (rings, .ok ()) =>
            ({ rings with subRingCount := rings.subRingCount.insert (cc, level) num },
              .ok { state with phase := if level = 1 then .done else .buildingRing (level - 1) })

/-! ## Steps -/

def processComputationStep (state : RingComputationState AccountId) :
    RingsStorage AccountId × Except RingError (RingComputationState AccountId) :=
  match state.phase with
  | .collectingMembers nextCeremonyOffset =>
      (rings, .ok (collectMembersStep config s rings state nextCeremonyOffset))
  | .buildingRing currentLevel => buildRingStep config rings state currentLevel
  | .done => (rings, .ok state)

/-- The computation is kept until it is done. -/
def storeComputation (state : RingComputationState AccountId) : RingsStorage AccountId :=
  if state.phase = .done then
    { rings with pendingRingComputation := none }
  else
    { rings with pendingRingComputation := some state }

/--
One turn of the loop of `on_idle`, which takes turns as long as there is weight left. A step that
fails aborts the computation, and a panic drops the block.
-/
def onIdleTurn : RingsStorage AccountId :=
  match rings.pendingRingComputation with
  | some state =>
      if state.phase = .done then
        { rings with pendingRingComputation := none }
      else
        match processComputationStep config s rings state with
        | (rings, .ok state) => storeComputation rings state
        | (_, .error .panicked) => rings
        | (rings, .error _) => { rings with pendingRingComputation := none }
  | none =>
      match rings.pendingCommunities with
      | [] => rings
      | community :: queue =>
          { rings with
            pendingCommunities := queue
            pendingRingComputation :=
              some ⟨community, rings.pendingCeremonyIndex, .collectingMembers 0, []⟩ }

/-! ## Calls -/

def registerBandersnatchKey (who : AccountId) (key : BandersnatchPublicKey) :
    RingsStorage AccountId :=
  { rings with bandersnatchKeys := rings.bandersnatchKeys.insert who key }

def initiateRings (community : CommunityIdentifier) (ceremonyIndex : Nat) :
    Except RingError (RingsStorage AccountId) := do
  ensure (s.scheduler.currentPhase = .assigning) .wrongPhase
  ensure (rings.pendingRingComputation.isNone = true) .computationAlreadyInProgress
  ensure (community ∈ s.communities.communityIdentifiers) .communityNotFound
  ensure (0 < ceremonyIndex ∧ ceremonyIndex < s.scheduler.currentCeremonyIndex)
    .invalidCeremonyIndex
  .ok { rings with
    pendingRingComputation := some ⟨community, ceremonyIndex, .collectingMembers 0, []⟩ }

def continueRingComputation : Except RingError (RingsStorage AccountId) := do
  let state ← okOr rings.pendingRingComputation .noComputationPending
  ensure (state.phase ≠ .done) .computationAlreadyDone
  let (rings, result) := processComputationStep config s rings state
  let state ← result
  .ok (storeComputation rings state)

/-! ## Phase changes -/

def purgeCommunityCeremonyRings (cc : CommunityCeremony) (rings : RingsStorage AccountId) :
    RingsStorage AccountId :=
  { rings with
    ringMembers := rings.ringMembers.removePrefix cc
    subRingCount := rings.subRingCount.removePrefix cc }

def purgeRings (cindex : Nat) : RingsStorage AccountId :=
  s.communities.communityIdentifiers.foldl
    (fun rings cid => purgeCommunityCeremonyRings (cid, cindex) rings) rings

/-- A batch that is still in progress is not overwritten. -/
def onCeremonyPhaseChange (newPhase : CeremonyPhaseType) : RingsStorage AccountId :=
  match newPhase with
  | .assigning =>
      let completed := s.scheduler.currentCeremonyIndex - 1
      if completed = 0 ∨ rings.pendingCommunities ≠ [] then
        rings
      else
        { rings with
          pendingCommunities := s.communities.communityIdentifiers
          pendingCeremonyIndex := completed }
  | .registering =>
      let reputationLifetime := s.ceremonies.reputationLifetime
      let cindex := s.scheduler.currentCeremonyIndex
      if reputationLifetime < cindex then
        purgeRings s rings (cindex - reputationLifetime - 1)
      else
        rings
  | .attesting => rings

end ReputationRings

/-! ## The chain with its rings -/

structure RingsChain (AccountId : Type) where
  chain : Chain AccountId
  rings : RingsStorage AccountId

inductive RingsAction (AccountId : Type) where
  | other (action : Action AccountId)
  | registerBandersnatchKey (who : AccountId) (key : BandersnatchPublicKey)
  | initiateRings (community : CommunityIdentifier) (ceremonyIndex : Nat)
  | continueRingComputation
  | onIdleTurn

namespace RingsChain

variable {AccountId : Type} [DecidableEq AccountId]

/-- A failing action changes nothing. The pallet reacts to phase changes after the others. -/
def step (config : Config AccountId) (ringsConfig : RingsConfig AccountId)
    (s : RingsChain AccountId) (action : RingsAction AccountId) : RingsChain AccountId :=
  match action with
  | .other action =>
      let chain := s.chain.step config action
      if chain.runtime.scheduler.currentPhase = s.chain.runtime.scheduler.currentPhase then
        { s with chain := chain }
      else
        ⟨chain, ReputationRings.onCeremonyPhaseChange chain.runtime s.rings
          chain.runtime.scheduler.currentPhase⟩
  | .registerBandersnatchKey who key =>
      { s with rings := ReputationRings.registerBandersnatchKey s.rings who key }
  | .initiateRings community ceremonyIndex =>
      match ReputationRings.initiateRings s.chain.runtime s.rings community ceremonyIndex with
      | .ok rings => { s with rings := rings }
      | .error _ => s
  | .continueRingComputation =>
      match ReputationRings.continueRingComputation ringsConfig s.chain.runtime s.rings with
      | .ok rings => { s with rings := rings }
      | .error _ => s
  | .onIdleTurn =>
      { s with rings := ReputationRings.onIdleTurn ringsConfig s.chain.runtime s.rings }

def genesis (chain : Chain AccountId) : RingsChain AccountId := ⟨chain, ⟨∅, ∅, ∅, none, [], 0⟩⟩

end RingsChain

end Encointer
