import Encointer.Assignment.MathFacts
import Encointer.Ceremonies.RewardOnce
import Mathlib.Algebra.Order.Floor.Div

/-!
# The seats of a ceremony

The seats of the meetups are handed out to the bootstrappers, the reputables, the
endorsees and the newbies, in this order. What is left after the bootstrappers is an
unsigned difference: it is a number of seats only if all bootstrappers fit.
-/

namespace Encointer.Ceremonies

open Checked Assignment

variable {AccountId : Type} [DecidableEq AccountId]

def registeredParticipants (c : CeremoniesStorage AccountId) (cc : CommunityCeremony) :
    AssignmentCount where
  bootstrappers := c.bootstrapperRegistry.count.get cc 0
  reputables := c.reputableRegistry.count.get cc 0
  endorsees := c.endorseeRegistry.count.get cc 0
  newbies := c.newbieRegistry.count.get cc 0

/-- Every meetup takes place at its own location and is led by somebody with experience. -/
def maxNumMeetups (numLocations : Nat) (registered : AssignmentCount) : Nat :=
  min numLocations
    ((findPrimeBelow (registered.bootstrappers + registered.reputables)).getD 0)

def numSeats (numLocations target : Nat) (registered : AssignmentCount) : Nat :=
  maxNumMeetups numLocations registered * target

structure FairAllowance (registered allowance : AssignmentCount)
    (numLocations target divider : Nat) : Prop where
  bootstrappers_eq : allowance.bootstrappers = registered.bootstrappers
  reputables_le : allowance.reputables ≤ registered.reputables
  endorsees_le : allowance.endorsees ≤ registered.endorsees
  newbies_le : allowance.newbies ≤ registered.newbies
  /-- A reputable is only refused when the seats are taken. -/
  reputable_refused : allowance.reputables < registered.reputables →
    allowance.bootstrappers + allowance.reputables = numSeats numLocations target registered
  endorsee_seated : 0 < allowance.endorsees → allowance.reputables = registered.reputables
  newbie_seated : 0 < allowance.newbies → allowance.endorsees = registered.endorsees
  newbies_limited : allowance.newbies ≤
    (allowance.bootstrappers + allowance.reputables + allowance.endorsees) / divider
  meetups_le : allowance.getNumberOfParticipants ⌈/⌉ target ≤ numLocations

/-- The subtraction that the code makes without a check gives the difference. -/
def NoUnderflow (registered : AssignmentCount) (numLocations target : Nat) : Prop :=
  ∀ seats, mulU64 (maxNumMeetups numLocations registered) target = some seats →
    (wrappingSubU64 seats registered.bootstrappers : Int) =
      (seats : Int) - registered.bootstrappers

structure SafeAllowance (config : Config AccountId) (s : Runtime AccountId)
    (cc : CommunityCeremony) (target : Nat) : Prop where
  noUnderflow : NoUnderflow (registeredParticipants s.ceremonies cc)
    (Communities.getLocations s.communities cc.1).length target
  allowance : computeAssignmentAllowance config s cc target = .error .checkedMath ∨
    ∃ allowance, computeAssignmentAllowance config s cc target = .ok allowance ∧
      FairAllowance (registeredParticipants s.ceremonies cc) allowance
        (Communities.getLocations s.communities cc.1).length target
        config.meetupNewbieLimitDivider

/-! ## Handing out seats -/

/-- The seats that are left after the bootstrappers go to the others. -/
def allowanceOf (registered : AssignmentCount) (seatsLeft divider : Nat) : AssignmentCount :=
  let reputables := min registered.reputables seatsLeft
  let endorsees := min registered.endorsees (seatsLeft - reputables)
  { bootstrappers := registered.bootstrappers
    reputables := reputables
    endorsees := endorsees
    newbies := min (min registered.newbies (seatsLeft - reputables - endorsees))
      ((registered.bootstrappers + reputables + endorsees) / divider) }

private theorem maxNumMeetups_le (numLocations : Nat) (registered : AssignmentCount) :
    maxNumMeetups numLocations registered ≤ numLocations := min_le_left _ _

theorem allowanceOf_fair {registered : AssignmentCount} {numLocations target divider : Nat}
    (htarget : 1 ≤ target)
    (hfit : registered.bootstrappers ≤ numSeats numLocations target registered) :
    FairAllowance registered
      (allowanceOf registered
        (numSeats numLocations target registered - registered.bootstrappers) divider)
      numLocations target divider where
  bootstrappers_eq := rfl
  reputables_le := min_le_left _ _
  endorsees_le := min_le_left _ _
  newbies_le := (min_le_left _ _).trans (min_le_left _ _)
  reputable_refused := by
    simp only [allowanceOf]
    omega
  endorsee_seated := by
    simp only [allowanceOf]
    omega
  newbie_seated := by
    simp only [allowanceOf]
    omega
  newbies_limited := min_le_right _ _
  meetups_le := by
    have htotal : (allowanceOf registered
        (numSeats numLocations target registered - registered.bootstrappers)
        divider).getNumberOfParticipants ≤ numSeats numLocations target registered := by
      simp only [allowanceOf, AssignmentCount.getNumberOfParticipants]
      omega
    rw [ceilDiv_le_iff_le_mul htarget]
    calc
      _ ≤ maxNumMeetups numLocations registered * target := htotal
      _ ≤ numLocations * target := Nat.mul_le_mul_right target (maxNumMeetups_le _ _)
      _ = target * numLocations := Nat.mul_comm _ _

/-! ## The code -/

section Allowance

variable {config : Config AccountId} {s : Runtime AccountId} {cc : CommunityCeremony}
  {target : Nat}

omit [DecidableEq AccountId] in
theorem computeAssignmentAllowance_eq
    (hcounts : (registeredParticipants s.ceremonies cc).getNumberOfParticipants < 2 ^ 63)
    (hlocations : Communities.getLocations s.communities cc.1 ≠ [])
    (hdivider : 1 ≤ config.meetupNewbieLimitDivider) :
    computeAssignmentAllowance config s cc target =
      match mulU64 (maxNumMeetups (Communities.getLocations s.communities cc.1).length
        (registeredParticipants s.ceremonies cc)) target with
      | none => .error .checkedMath
      | some seats => .ok (allowanceOf (registeredParticipants s.ceremonies cc)
          (wrappingSubU64 seats (registeredParticipants s.ceremonies cc).bootstrappers)
          config.meetupNewbieLimitDivider) := by
  have hlength : (Communities.getLocations s.communities cc.1).length ≠ 0 := by
    rw [Ne, List.length_eq_zero_iff]
    exact hlocations
  have hnonzero : config.meetupNewbieLimitDivider ≠ 0 := Nat.one_le_iff_ne_zero.1 hdivider
  have hprime : ∃ prime, findPrimeBelow (s.ceremonies.bootstrapperRegistry.count.get cc 0 +
      s.ceremonies.reputableRegistry.count.get cc 0) = some prime := by
    apply findPrimeBelow_isSome
    simp only [registeredParticipants, AssignmentCount.getNumberOfParticipants] at hcounts
    omega
  obtain ⟨prime, hprime⟩ := hprime
  have hmeetups : maxNumMeetups (Communities.getLocations s.communities cc.1).length
      (registeredParticipants s.ceremonies cc) =
        min (Communities.getLocations s.communities cc.1).length prime := by
    unfold maxNumMeetups registeredParticipants
    rw [hprime, Option.getD_some]
  rw [hmeetups]
  unfold computeAssignmentAllowance
  simp only [hprime, okOr, ensure, if_pos hlength, if_pos hnonzero, bind, Except.bind]
  cases mulU64 (min (Communities.getLocations s.communities cc.1).length prime) target with
  | none => rfl
  | some seats => rfl

theorem noUnderflow_iff {registered : AssignmentCount} {numLocations : Nat}
    (hbootstrappers : registered.bootstrappers < 2 ^ 63) :
    NoUnderflow registered numLocations target ↔
      registered.bootstrappers ≤ numSeats numLocations target registered := by
  unfold NoUnderflow numSeats
  constructor
  · intro hsafe
    by_contra hlt
    rw [Nat.not_le] at hlt
    have hdifference := hsafe _ (mulU64_of_lt (by omega))
    omega
  · intro hfit seats hseats
    obtain ⟨hlt, rfl⟩ := toU64_eq_some.1 hseats
    rw [wrappingSubU64_of_le hfit hlt, Int.ofNat_sub hfit]

omit [DecidableEq AccountId] in
/-- The allowance is safe just if the seats are enough for all registered bootstrappers. -/
theorem allowance_safe_iff
    (hcounts : (registeredParticipants s.ceremonies cc).getNumberOfParticipants < 2 ^ 63)
    (hlocations : Communities.getLocations s.communities cc.1 ≠ [])
    (htarget : 1 ≤ target) (hdivider : 1 ≤ config.meetupNewbieLimitDivider) :
    SafeAllowance config s cc target ↔
      (registeredParticipants s.ceremonies cc).bootstrappers ≤
        numSeats (Communities.getLocations s.communities cc.1).length target
          (registeredParticipants s.ceremonies cc) := by
  have hbootstrappers : (registeredParticipants s.ceremonies cc).bootstrappers < 2 ^ 63 := by
    unfold AssignmentCount.getNumberOfParticipants at hcounts
    omega
  constructor
  · intro hsafe
    exact (noUnderflow_iff hbootstrappers).1 hsafe.noUnderflow
  · intro hfit
    refine ⟨(noUnderflow_iff hbootstrappers).2 hfit, ?_⟩
    rw [computeAssignmentAllowance_eq hcounts hlocations hdivider]
    cases hseats : mulU64 (maxNumMeetups (Communities.getLocations s.communities cc.1).length
        (registeredParticipants s.ceremonies cc)) target with
    | none => exact .inl rfl
    | some seats =>
        obtain ⟨hlt, rfl⟩ := toU64_eq_some.1 hseats
        have hleft := wrappingSubU64_of_le hfit hlt
        unfold numSeats at hleft
        refine .inr ⟨_, rfl, ?_⟩
        rw [hleft]
        exact allowanceOf_fair htarget hfit

end Allowance

/-! ## Too many bootstrappers -/

/-- Eleven bootstrappers register for a ceremony at a single location. -/
def crowdedRegistration : List (Action Nat) :=
  [Demo.newDay 1, Demo.newCommunity Demo.island (List.range 11)] ++
    Demo.register ⟨Demo.geohash Demo.island, Vector.replicate 4 55⟩ (List.range 11)

theorem allowance_safe_three :
    let s := (Demo.start.run Demo.runtimeConfig Demo.firstCeremony).runtime
    (registeredParticipants s.ceremonies (Demo.islanders, 1)).bootstrappers = 3 ∧
      SafeAllowance Demo.runtimeConfig s (Demo.islanders, 1) 10 :=
  ⟨by decide +kernel,
    (allowance_safe_iff (by decide +kernel) (by decide +kernel) (by decide) (by decide)).2
      (by decide +kernel)⟩

/-- Eleven seats are given out for one meetup of ten, and a second meetup has no location. -/
theorem allowance_unsafe :
    let config := { Demo.runtimeConfig with maxBootstrappers := 100 }
    let s := (Demo.start.run config crowdedRegistration).runtime
    let cc : CommunityCeremony := (⟨Demo.geohash Demo.island, Vector.replicate 4 55⟩, 1)
    (Communities.getLocations s.communities cc.1).length = 1 ∧
      registeredParticipants s.ceremonies cc = ⟨11, 0, 0, 0⟩ ∧
      computeAssignmentAllowance config s cc 10 = .ok ⟨11, 0, 0, 0⟩ ∧
      checkedCeilDivision 11 10 = some 2 ∧ ¬ SafeAllowance config s cc 10 := by
  intro config s cc
  have hlocations : (Communities.getLocations s.communities cc.1).length = 1 := by decide +kernel
  have hregistered : registeredParticipants s.ceremonies cc = ⟨11, 0, 0, 0⟩ := by decide +kernel
  have hallowance : computeAssignmentAllowance config s cc 10 = .ok ⟨11, 0, 0, 0⟩ := by
    decide +kernel
  refine ⟨hlocations, hregistered, hallowance, by decide, ?_⟩
  intro hsafe
  rcases hsafe.allowance with herror | ⟨allowance, hok, hfair⟩
  · rw [hallowance] at herror
    cases herror
  · rw [hallowance] at hok
    cases hok
    have hmeetups := hfair.meetups_le
    rw [hlocations] at hmeetups
    exact absurd hmeetups (by decide)

end Encointer.Ceremonies
