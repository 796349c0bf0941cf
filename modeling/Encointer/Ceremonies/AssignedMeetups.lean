import Encointer.Assignment.EvenSpread
import Encointer.Ceremonies.MeetupAgreement
import Encointer.Runtime.Steps

/-!
# Assigned meetups

A ceremony with meetups has parameters that fit its counts. Its registries are
frozen: the registration for it ended before its meetups were assigned.
-/

namespace Encointer

open Assignment Checked

/-! ## Generated parameters -/

namespace Assignment

theorem generateAssignmentFunctionParams_valid {n k : Nat} (hn : n < 2 ^ 31) (hk : 1 ≤ k)
    (hk' : k < 2 ^ 63) {params : AssignmentParams} {random random' : RandomNumberGenerator}
    (h : generateAssignmentFunctionParams n k random = some (params, random')) :
    params.Valid n k := by
  obtain ⟨drawn, random'', rounds, m, hprime, hgenerate, hdrawn, -⟩ :=
    generateAssignmentFunctionParams_ends hn k random
  rw [hgenerate, Option.some.injEq, Prod.mk.injEq] at h
  obtain ⟨rfl, -⟩ := h
  obtain rfl := hdrawn.m_eq
  exact AssignmentParams.Valid.of_findPrimeBelow hn hk hk' hprime hdrawn.s1_pos hdrawn.s1_lt
    hdrawn.s2_lt

theorem checkedCeilDivision_le {a b q : Nat} (h : checkedCeilDivision a b = some q) : q ≤ a := by
  simp only [checkedCeilDivision, addU64, subU64, Option.bind_eq_bind, Option.bind_eq_some_iff,
    toU64_eq_some] at h
  obtain ⟨sum, ⟨-, rfl⟩, difference, hdifference, h⟩ := h
  split at hdifference
  · rw [Option.some.injEq] at hdifference
    split at h
    · cases h
    · rw [Option.some.injEq] at h
      subst hdifference h
      cases a with
      | zero => exact (Nat.div_eq_of_lt (by omega)).le
      | succ a =>
          apply Nat.div_le_of_le_mul
          have hmul : b * (a + 1) = b * a + b := Nat.mul_succ b a
          have hle : a ≤ b * a := Nat.le_mul_of_pos_left a (by omega)
          omega
  · cases hdifference

end Assignment

variable {AccountId : Type} [DecidableEq AccountId] {config : Config AccountId}

namespace Ceremonies

variable {s s' : Runtime AccountId} {cc : CommunityCeremony}

/-! ## The allowance -/

def registeredCount (c : CeremoniesStorage AccountId) (cc : CommunityCeremony)
    (t : ParticipantType) : Nat :=
  (c.registry t).count.get cc 0

/-- The groups of registered participants stay below `2 ^ 31`. -/
def RegisteredCountsBelow (c : CeremoniesStorage AccountId) (cc : CommunityCeremony) : Prop :=
  registeredCount c cc .bootstrapper + registeredCount c cc .reputable < 2 ^ 31 ∧
    registeredCount c cc .endorsee < 2 ^ 31 ∧ registeredCount c cc .newbie < 2 ^ 31

instance (c : CeremoniesStorage AccountId) (cc : CommunityCeremony) :
    Decidable (RegisteredCountsBelow c cc) := inferInstanceAs (Decidable (_ ∧ _ ∧ _))

section

omit [DecidableEq AccountId]

private theorem assigned_le_registeredCount {multiplier : Nat} {allowance : AssignmentCount}
    (h : computeAssignmentAllowance config s cc multiplier = .ok allowance) (t : ParticipantType) :
    allowance.assigned t ≤ registeredCount s.ceremonies cc t := by
  simp only [computeAssignmentAllowance, bind_eq_ok, ensure_eq_ok, okOr_eq_ok, ok_inj,
    exists_const] at h
  obtain ⟨-, prime, -, seats, -, -, rfl⟩ := h
  cases t with
  | bootstrapper => exact le_rfl
  | reputable => exact min_le_left _ _
  | endorsee => exact min_le_left _ _
  | newbie => exact (min_le_left _ _).trans (min_le_left _ _)

private theorem generateAssignment_spec {allowance : AssignmentCount} {numMeetups : Nat}
    {assignment : CeremonyAssignment} {random random' : RandomNumberGenerator}
    (h : generateAssignment s cc allowance numMeetups random = some (assignment, random'))
    (t : ParticipantType) :
    ∃ start rest, generateAssignmentFunctionParams (allowance.groupSize t) numMeetups start =
      some (assignment.params t, rest) := by
  simp only [generateAssignment, Option.bind_eq_bind, Option.bind_eq_some_iff, Option.some.injEq,
    Prod.mk.injEq] at h
  obtain ⟨⟨first, r1⟩, hfirst, ⟨second, r2⟩, hsecond, ⟨third, r3⟩, hthird, ⟨locations, r4⟩, -,
    rfl, -⟩ := h
  cases t with
  | bootstrapper => exact ⟨_, _, hfirst⟩
  | reputable => exact ⟨_, _, hfirst⟩
  | endorsee => exact ⟨_, _, hsecond⟩
  | newbie => exact ⟨_, _, hthird⟩

/-- New assignments fit the registered participants. -/
theorem generateAssignment_valid {allowance : AssignmentCount} {numMeetups : Nat}
    {assignment : CeremonyAssignment} {random random' : RandomNumberGenerator}
    (hallowance : computeAssignmentAllowance config s cc config.meetupSizeTarget = .ok allowance)
    (hmeetups : checkedCeilDivision allowance.getNumberOfParticipants config.meetupSizeTarget =
      some numMeetups)
    (hassignment : generateAssignment s cc allowance numMeetups random =
      some (assignment, random'))
    (hpos : 0 < numMeetups) (hbelow : RegisteredCountsBelow s.ceremonies cc)
    (t : ParticipantType) : (assignment.params t).Valid (allowance.groupSize t) numMeetups := by
  have hassigned := assigned_le_registeredCount hallowance
  have hboot := hassigned .bootstrapper
  have hrep := hassigned .reputable
  have hendorsee := hassigned .endorsee
  have hnewbie := hassigned .newbie
  simp only [AssignmentCount.assigned] at hboot hrep hendorsee hnewbie
  obtain ⟨hreputables, hendorsees, hnewbies⟩ := hbelow
  have hsize : allowance.groupSize t < 2 ^ 31 := by
    cases t <;> simp only [AssignmentCount.groupSize] <;> omega
  have hle := checkedCeilDivision_le hmeetups
  simp only [AssignmentCount.getNumberOfParticipants] at hle
  obtain ⟨start, rest, hgenerate⟩ := generateAssignment_spec hassignment t
  exact generateAssignmentFunctionParams_valid hsize hpos (by omega) hgenerate

end

end Ceremonies

/-! ## What a change does to the meetups of a ceremony -/

structure SameMeetups (c c' : CeremoniesStorage AccountId) (cc : CommunityCeremony) : Prop where
  registry : ∀ t i, (c'.registry t).registry.lookup (cc, i) = (c.registry t).registry.lookup (cc, i)
  count : ∀ t, (c'.registry t).count.get cc 0 = (c.registry t).count.get cc 0
  meetupCount : c'.meetupCount.get cc 0 = c.meetupCount.get cc 0
  assignmentCounts : Ceremonies.assignmentCounts c' cc = Ceremonies.assignmentCounts c cc
  assignments : Ceremonies.assignments c' cc = Ceremonies.assignments c cc

namespace SameMeetups

variable {c c' : CeremoniesStorage AccountId} {cc : CommunityCeremony}

section

omit [DecidableEq AccountId]

theorem refl (c : CeremoniesStorage AccountId) (cc : CommunityCeremony) : SameMeetups c c cc where
  registry := by
    intro t i
    rfl
  count := by
    intro t
    rfl
  meetupCount := rfl
  assignmentCounts := rfl
  assignments := rfl

theorem of_eq (hregistry : c'.registry = c.registry) (hmeetupCount : c'.meetupCount = c.meetupCount)
    (hcounts : c'.assignmentCounts = c.assignmentCounts)
    (hassignments : c'.assignments = c.assignments) : SameMeetups c c' cc where
  registry := by
    intro t i
    rw [hregistry]
  count := by
    intro t
    rw [hregistry]
  meetupCount := by rw [hmeetupCount]
  assignmentCounts := by rw [Ceremonies.assignmentCounts, hcounts, Ceremonies.assignmentCounts]
  assignments := by rw [Ceremonies.assignments, hassignments, Ceremonies.assignments]

theorem registeredCountsBelow (h : SameMeetups c c' cc) :
    Ceremonies.RegisteredCountsBelow c' cc ↔ Ceremonies.RegisteredCountsBelow c cc := by
  simp only [Ceremonies.RegisteredCountsBelow, Ceremonies.registeredCount, h.count]

theorem paramsValid (h : SameMeetups c c' cc) :
    Ceremonies.ParamsValid c' cc ↔ Ceremonies.ParamsValid c cc := by
  simp only [Ceremonies.ParamsValid, h.assignmentCounts, h.assignments, Ceremonies.meetupCount,
    h.meetupCount]

end

theorem getMeetupIndex (h : SameMeetups c c' cc) (hinv : RegistryInvariant c.registry)
    (hinv' : RegistryInvariant c'.registry) (a : AccountId) :
    Ceremonies.getMeetupIndex c' cc a = Ceremonies.getMeetupIndex c cc a := by
  apply Option.ext
  intro k
  rw [Ceremonies.getMeetupIndex_eq_some_iff hinv', Ceremonies.getMeetupIndex_eq_some_iff hinv]
  simp only [Ceremonies.registeredAt, h.registry, h.assignmentCounts, h.assignments,
    Ceremonies.meetupCount, h.meetupCount]

omit [DecidableEq AccountId] in
theorem setRegistry {t : ParticipantType} {r : ParticipantRegistry AccountId}
    (hregistry : ∀ i, r.registry.lookup (cc, i) = (c.registry t).registry.lookup (cc, i))
    (hcount : r.count.get cc 0 = (c.registry t).count.get cc 0) :
    SameMeetups c (c.setRegistry t r) cc where
  registry := by
    intro t' i
    by_cases ht : t' = t
    · rw [ht, setRegistry_registry_self, hregistry]
    · rw [setRegistry_registry_ne c r ht]
  count := by
    intro t'
    by_cases ht : t' = t
    · rw [ht, setRegistry_registry_self, hcount]
    · rw [setRegistry_registry_ne c r ht]
  meetupCount := by cases t <;> rfl
  assignmentCounts := by cases t <;> rfl
  assignments := by cases t <;> rfl

omit [DecidableEq AccountId] in
theorem purge (c : CeremoniesStorage AccountId) {cc' : CommunityCeremony} (hcc : cc ≠ cc') :
    SameMeetups c (Ceremonies.purgeCommunityCeremonyInternal c cc') cc where
  registry := by
    intro t i
    cases t <;> exact (StorageMap.lookup_removePrefix _ _ _).trans (if_neg hcc)
  count := by
    intro t
    cases t <;> exact (StorageMap.get_erase _ _ _ _).trans (if_neg hcc)
  meetupCount := (StorageMap.get_erase _ _ _ _).trans (if_neg hcc)
  assignmentCounts := (StorageMap.get_erase _ _ _ _).trans (if_neg hcc)
  assignments := (StorageMap.get_erase _ _ _ _).trans (if_neg hcc)

end SameMeetups

inductive MeetupsChange (s s' : Runtime AccountId) (cc : CommunityCeremony) : Prop where
  | same (h : SameMeetups s.ceremonies s'.ceremonies cc)
  | registration (opened : s.scheduler.RegistrationOpen cc.2)
      (meetupCount : s'.ceremonies.meetupCount = s.ceremonies.meetupCount)
  | purged (meetupCount : s'.ceremonies.meetupCount.get cc 0 = 0)
  | assigned (time : s.scheduler.time = 3 * cc.2 + 1)
      (valid : 0 < s'.ceremonies.meetupCount.get cc 0 →
        Ceremonies.RegisteredCountsBelow s'.ceremonies cc →
          Ceremonies.ParamsValid s'.ceremonies cc)

theorem Change.meetupsChange {s s' : Runtime AccountId} {effects : List (Effect AccountId)}
    (hinv : RegistryInvariant s.ceremonies.registry) (h : Change config s effects s')
    (cc : CommunityCeremony) : MeetupsChange s s' cc := by
  cases h with
  | parameters ceremonies same =>
      exact .same (.of_eq same.registry same.meetupCount same.assignmentCounts same.assignments)
  | attest sender cid vote attestations ceremonies attested =>
      obtain ⟨same, -⟩ := Ceremonies.attestAttendees_spec attested
      exact .same (.of_eq same.registry same.meetupCount same.assignmentCounts same.assignments)
  | add t cc' participant r opened free added =>
      by_cases hcc : cc = cc'
      · subst hcc
        exact .registration opened (setRegistry_meetupCount _ t r)
      · apply MeetupsChange.same
        apply SameMeetups.setRegistry
        · intro i
          rw [ParticipantRegistry.lookup_registry_of_register added, if_neg (by simp [hcc])]
        · rw [ParticipantRegistry.count_of_register added, if_neg hcc]
  | remove t cc' participant opened registered =>
      by_cases hcc : cc = cc'
      · subst hcc
        exact .registration opened (setRegistry_meetupCount _ t _)
      · obtain ⟨number, hnumber⟩ := StorageMap.contains_eq_true.1 registered
        have hbijective := hinv.bijective t
        obtain ⟨last, hlast, -⟩ := ParticipantRegistry.exists_last hbijective hnumber
        apply MeetupsChange.same
        apply SameMeetups.setRegistry
        · intro i
          rw [ParticipantRegistry.lookup_registry_of_remove hnumber hlast,
            if_neg (by simp [hcc]), if_neg (by simp [hcc])]
        · rw [ParticipantRegistry.count_of_remove hbijective hnumber, if_neg hcc]
  | link cid cindex sender p ceremonies opened linked =>
      obtain ⟨-, -, rfl⟩ := Ceremonies.linkReputation_spec linked
      exact .same (.of_eq rfl rfl rfl rfl)
  | unlink cid cindex sender cc' ceremonies opened unlinked =>
      obtain ⟨-, rfl⟩ := Ceremonies.unlinkReputation_spec unlinked
      exact .same (.of_eq rfl rfl rfl rfl)
  | purge cc' =>
      by_cases hcc : cc = cc'
      · subst hcc
        exact .purged (by simp [Ceremonies.purgeCommunityCeremonyInternal, StorageMap.get_erase])
      · exact .same (SameMeetups.purge _ hcc)
  | assign cid ceremonies random random' assigning registered assigned =>
      rcases Ceremonies.generateMeetupAssignmentParams_spec assigned with
        rfl | ⟨allowance, numMeetups, assignment, hallowance, hmeetups, hgenerate, rfl⟩
      · exact .same (.refl _ cc)
      · by_cases hcc : cc = (cid, s.scheduler.currentCeremonyIndex)
        · subst hcc
          apply MeetupsChange.assigned
          · simp [SchedulerStorage.time, assigning, CeremonyPhaseType.rank]
          · intro hpos hbelow t
            have hvalid := Ceremonies.generateAssignment_valid hallowance hmeetups hgenerate
            simp only [StorageMap.get_insert, if_pos] at hpos
            simp only [Ceremonies.assignments, Ceremonies.assignmentCounts, Ceremonies.meetupCount,
              StorageMap.get_insert, if_pos]
            exact hvalid hpos hbelow t
        · exact .same {
            registry := by
              intro t i
              rfl
            count := by
              intro t
              rfl
            meetupCount := by rw [StorageMap.get_insert, if_neg hcc]
            assignmentCounts := by
              rw [Ceremonies.assignmentCounts, StorageMap.get_insert, if_neg hcc]
              rfl
            assignments := by
              rw [Ceremonies.assignments, StorageMap.get_insert, if_neg hcc]
              rfl }
  | _ => exact .same (.of_eq rfl rfl rfl rfl)

/-- Results are written by claims and go with a purge only. -/
theorem Change.issuedRewards {s s' : Runtime AccountId} {effects : List (Effect AccountId)}
    (h : Change config s effects s')
    (cc : CommunityCeremony) :
    (∀ k, s'.ceremonies.issuedRewards.lookup (cc, k) = s.ceremonies.issuedRewards.lookup (cc, k)) ∨
      ((∀ k, s'.ceremonies.issuedRewards.lookup (cc, k) = none) ∧
        s'.ceremonies.meetupCount.get cc 0 = 0) := by
  cases h with
  | parameters ceremonies same => exact Or.inl fun k => by rw [same.issuedRewards]
  | attest sender cid vote attestations ceremonies attested =>
      obtain ⟨same, -⟩ := Ceremonies.attestAttendees_spec attested
      exact Or.inl fun k => by rw [same.issuedRewards]
  | add t cc' participant r opened free added =>
      exact Or.inl fun k => by rw [setRegistry_issuedRewards]
  | remove t cc' participant opened registered =>
      exact Or.inl fun k => by rw [setRegistry_issuedRewards]
  | link cid cindex sender p ceremonies opened linked =>
      obtain ⟨-, -, rfl⟩ := Ceremonies.linkReputation_spec linked
      exact Or.inl fun _ => rfl
  | unlink cid cindex sender cc' ceremonies opened unlinked =>
      obtain ⟨-, rfl⟩ := Ceremonies.unlinkReputation_spec unlinked
      exact Or.inl fun _ => rfl
  | purge cc' =>
      simp only [Ceremonies.purgeCommunityCeremonyInternal, StorageMap.lookup_removePrefix,
        StorageMap.get_erase]
      by_cases hcc : cc = cc'
      · exact Or.inr ⟨fun k => if_pos hcc, if_pos hcc⟩
      · exact Or.inl fun k => if_neg hcc
  | assign cid ceremonies random random' assigning registered assigned =>
      rcases Ceremonies.generateMeetupAssignmentParams_spec assigned with
        rfl | ⟨allowance, numMeetups, assignment, -, -, -, rfl⟩
      · exact Or.inl fun _ => rfl
      · exact Or.inl fun _ => rfl
  | _ => exact Or.inl fun _ => rfl

/-! ## The invariant -/

/-- A ceremony with meetups is past its registration, and its parameters fit. -/
structure CeremonyAssigned (s : Runtime AccountId) (cc : CommunityCeremony) : Prop where
  started : 3 * cc.2 + 1 ≤ s.scheduler.time
  valid : Ceremonies.RegisteredCountsBelow s.ceremonies cc → Ceremonies.ParamsValid s.ceremonies cc

def AssignmentInvariant (s : Runtime AccountId) : Prop :=
  ∀ cc, 0 < s.ceremonies.meetupCount.get cc 0 → CeremonyAssigned s cc

namespace AssignmentInvariant

omit [DecidableEq AccountId] in
theorem genesis (genesis : GenesisConfig) (nativeBalances : StorageMap AccountId Nat)
    (assetBalances : StorageMap (AccountId × AssetKind) Nat) :
    AssignmentInvariant (genesis.build nativeBalances assetBalances) := by
  intro cc hpos
  exact absurd hpos (by simp [GenesisConfig.build])

variable {s s' : Runtime AccountId}

theorem change {effects : List (Effect AccountId)}
    (hregistry : RegistryInvariant s.ceremonies.registry) (hinv : AssignmentInvariant s)
    (h : Change config s effects s') : AssignmentInvariant s' := by
  intro cc hpos
  have htime := h.time_le
  cases h.meetupsChange hregistry cc with
  | same hsame =>
      rw [hsame.meetupCount] at hpos
      have hold := hinv cc hpos
      constructor
      · exact hold.started.trans htime
      · rw [hsame.registeredCountsBelow, hsame.paramsValid]
        exact hold.valid
  | registration opened hmeetupCount =>
      rw [hmeetupCount] at hpos
      have hstarted := (hinv cc hpos).started
      have hopen := opened.time_le
      omega
  | purged hmeetupCount => omega
  | assigned hnow hvalid =>
      constructor
      · omega
      · exact hvalid hpos

theorem claim {claim : Ceremonies.Claim AccountId} {participants : List AccountId}
    (hinv : AssignmentInvariant s) (heffect : Ceremonies.ClaimEffect s claim participants)
    (hs : s' = { s with ceremonies := claim.ceremonies, balances := claim.balances }) :
    AssignmentInvariant s' := by
  subst hs
  intro cc hpos
  have hsame : SameMeetups s.ceremonies claim.ceremonies cc :=
    .of_eq heffect.registry heffect.meetupCount heffect.assignmentCounts heffect.assignments
  rw [hsame.meetupCount] at hpos
  have hold := hinv cc hpos
  constructor
  · exact hold.started
  · rw [hsame.registeredCountsBelow, hsame.paramsValid]
    exact hold.valid

end AssignmentInvariant

end Encointer
