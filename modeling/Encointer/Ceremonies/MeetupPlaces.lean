import Encointer.Ceremonies.BootstrapperSeats
import Encointer.Ceremonies.MeetupLocations

/-!
# The places of meetups

The places are planned when the meetups are assigned. Until the next registration no
location comes or goes, so that the plan stays good for the whole ceremony: all of its
meetups have a place, and no two of them the same.
-/

namespace Encointer

open Checked Communities Assignment

variable {AccountId : Type} [DecidableEq AccountId] {config : Config AccountId}
  {s s' : Runtime AccountId} {effects : List (Effect AccountId)}

/-! ## Locations stay -/

/-- The registered communities stay, with all their locations. -/
def SamePlaces (communities communities' : CommunitiesStorage AccountId) : Prop :=
  ∀ cid ∈ communities.communityIdentifiers,
    cid ∈ communities'.communityIdentifiers ∧ getLocations communities' cid = getLocations communities cid

section

omit [DecidableEq AccountId]

theorem SamePlaces.of_eq {communities communities' : CommunitiesStorage AccountId}
    (hids : communities'.communityIdentifiers = communities.communityIdentifiers)
    (hlocations : communities'.locations = communities.locations) :
    SamePlaces communities communities' := by
  intro cid hcid
  rw [hids, getLocations, hlocations, getLocations]
  exact ⟨hcid, rfl⟩

theorem SamePlaces.trans {c c' c'' : CommunitiesStorage AccountId} (h : SamePlaces c c')
    (h' : SamePlaces c' c'') : SamePlaces c c'' := by
  intro cid hcid
  obtain ⟨hcid', heq⟩ := h cid hcid
  obtain ⟨hcid'', heq'⟩ := h' cid hcid'
  exact ⟨hcid'', heq'.trans heq⟩

private theorem getLocations_insert {communities communities' : CommunitiesStorage AccountId}
    {cid cid' : CommunityIdentifier} {geoHash : GeoHash} {bucket : List Location}
    (hlocations : communities'.locations = communities.locations.insert (cid, geoHash) bucket)
    (hother : cid' ≠ cid) : getLocations communities' cid' = getLocations communities cid' := by
  rw [getLocations, hlocations, getLocations]
  simp only [StorageMap.insert, StorageMap.erase, StorageMap.retain, List.flatMap_cons,
    if_neg hother.symm, List.nil_append, ne_eq, decide_not]
  induction communities.locations.entries with
  | nil => rfl
  | cons e entries ih =>
      by_cases hkey : e.1 = (cid, geoHash)
      · simp [hkey, ih, hother.symm]
      · simp [hkey, ih]

theorem SamePlaces.founded {communities communities' : CommunitiesStorage AccountId}
    {cid : CommunityIdentifier} (h : Founded config communities communities' cid) :
    SamePlaces communities communities' := by
  intro cid' hcid'
  obtain ⟨geoHash, location, -, hlocations⟩ := h.locations
  rw [h.communityIdentifiers]
  refine ⟨List.mem_append_left _ hcid', getLocations_insert hlocations ?_⟩
  intro heq
  exact h.fresh (heq ▸ hcid')

end

/-- Calls move locations in the registering phase only. -/
theorem Dispatch.dispatchQuiet_samePlaces {action : Action AccountId}
    (hphase : ¬ MayChangePhase action) (hkept : keepsCommunities action = true)
    (hclosed : s.scheduler.currentPhase ≠ .registering)
    (hquiet : dispatchQuiet config s action = .ok s') :
    SamePlaces s.communities s'.communities := by
  cases action with
  | newCommunity location bootstrappers metadata demurrage nominalIncome =>
      simp only [dispatchQuiet, bind_eq_ok, ok_inj] at hquiet
      obtain ⟨⟨communities, balances⟩, hnew, rfl⟩ := hquiet
      obtain ⟨cid, hfounded⟩ := newCommunity_founded hnew
      exact .founded hfounded
  | addLocation cid location =>
      simp only [dispatchQuiet, Communities.addLocation, bind_eq_ok, ensure_eq_ok, exists_const]
        at hquiet
      obtain ⟨-, ⟨hregistering, -⟩, -⟩ := hquiet
      exact absurd hregistering hclosed
  | removeLocation cid location =>
      simp only [dispatchQuiet, Communities.removeLocation, bind_eq_ok, ensure_eq_ok,
        exists_const] at hquiet
      obtain ⟨-, ⟨hregistering, -⟩, -⟩ := hquiet
      exact absurd hregistering hclosed
  | updateCommunityMetadata cid metadata =>
      simp only [dispatchQuiet, doUpdateCommunityMetadata, bind_eq_ok, ok_inj] at hquiet
      obtain ⟨communities, ⟨-, -, -, -, rfl⟩, rfl⟩ := hquiet
      exact .of_eq rfl rfl
  | updateNominalIncome cid nominalIncome =>
      simp only [dispatchQuiet, doUpdateNominalIncome, bind_eq_ok, ok_inj] at hquiet
      obtain ⟨communities, ⟨-, -, rfl⟩, rfl⟩ := hquiet
      exact .of_eq rfl rfl
  | purgeCommunity cid => cases hkept
  | setMinSolarTripTimeS minSolarTripTimeS =>
      simp only [dispatchQuiet, ok_inj] at hquiet
      rw [← hquiet]
      exact .of_eq rfl rfl
  | setMaxSpeedMps maxSpeedMps =>
      simp only [dispatchQuiet, ok_inj] at hquiet
      rw [← hquiet]
      exact .of_eq rfl rfl
  | beginBlock now random => exact absurd trivial hphase
  | nextPhase random => exact absurd trivial hphase
  | _ =>
      have hsame : s'.communities = s.communities := by
        simp only [dispatchQuiet, bind_eq_ok, ok_inj] at hquiet
        grind
      rw [hsame]
      exact .of_eq rfl rfl

/-! ## Assignments stay -/

def SameMeetupPlan (c c' : CeremoniesStorage AccountId) (cc : CommunityCeremony) : Prop :=
  Ceremonies.meetupCount c' cc = 0 ∨
    Ceremonies.meetupCount c' cc = Ceremonies.meetupCount c cc ∧
      Ceremonies.assignments c' cc = Ceremonies.assignments c cc

omit [DecidableEq AccountId] in
theorem SameMeetupPlan.of_eq {c c' : CeremoniesStorage AccountId} {cc : CommunityCeremony}
    (hcount : c'.meetupCount = c.meetupCount) (hassignments : c'.assignments = c.assignments) :
    SameMeetupPlan c c' cc := by
  right
  rw [Ceremonies.meetupCount, hcount, Ceremonies.assignments, hassignments]
  exact ⟨rfl, rfl⟩

omit [DecidableEq AccountId] in
theorem SameMeetupPlan.trans {c c' c'' : CeremoniesStorage AccountId} {cc : CommunityCeremony}
    (h : SameMeetupPlan c c' cc) (h' : SameMeetupPlan c' c'' cc) : SameMeetupPlan c c'' cc := by
  rcases h' with hnone | ⟨hcount', hassignments'⟩
  · exact Or.inl hnone
  · rcases h with hnone | ⟨hcount, hassignments⟩
    · exact Or.inl (hcount'.trans hnone)
    · exact Or.inr ⟨hcount'.trans hcount, hassignments'.trans hassignments⟩

theorem Change.sameMeetupPlan (h : Change config s effects s') {cc : CommunityCeremony}
    (hassign : .assign cc ∉ effects) : SameMeetupPlan s.ceremonies s'.ceremonies cc := by
  cases h with
  | parameters ceremonies same => exact .of_eq same.meetupCount same.assignments
  | attest sender cid vote attestations ceremonies attested =>
      obtain ⟨same, -⟩ := Ceremonies.attestAttendees_spec attested
      exact .of_eq same.meetupCount same.assignments
  | add t cc' participant r opened free added => cases t <;> exact .of_eq rfl rfl
  | remove t cc' participant opened registered => cases t <;> exact .of_eq rfl rfl
  | link cid cindex sender p ceremonies opened linked =>
      obtain ⟨-, -, rfl⟩ := Ceremonies.linkReputation_spec linked
      exact .of_eq rfl rfl
  | unlink cid cindex sender cc' ceremonies opened unlinked =>
      obtain ⟨-, rfl⟩ := Ceremonies.unlinkReputation_spec unlinked
      exact .of_eq rfl rfl
  | purge cc' =>
      by_cases hcc : cc = cc'
      · left
        rw [Ceremonies.meetupCount, Ceremonies.purgeCommunityCeremonyInternal,
          StorageMap.get_erase, if_pos hcc]
      · right
        rw [Ceremonies.meetupCount, Ceremonies.assignments,
          Ceremonies.purgeCommunityCeremonyInternal, StorageMap.get_erase, if_neg hcc,
          StorageMap.get_erase, if_neg hcc]
        exact ⟨rfl, rfl⟩
  | assign cid ceremonies random random' assigning registered assigned =>
      have hcc : cc ≠ (cid, s.scheduler.currentCeremonyIndex) := by
        intro heq
        exact hassign (List.mem_singleton.2 (congrArg Effect.assign heq))
      rcases Ceremonies.generateMeetupAssignmentParams_spec assigned with
        rfl | ⟨allowance, numMeetups, assignment, -, -, -, rfl⟩
      · exact .of_eq rfl rfl
      · right
        rw [Ceremonies.meetupCount, StorageMap.get_insert, if_neg hcc, Ceremonies.assignments,
          StorageMap.get_insert, if_neg hcc]
        exact ⟨rfl, rfl⟩
  | _ => exact .of_eq rfl rfl

theorem Changes.sameMeetupPlan (h : Changes config s effects s') {cc : CommunityCeremony}
    (hassign : .assign cc ∉ effects) : SameMeetupPlan s.ceremonies s'.ceremonies cc := by
  induction h with
  | refl => exact .of_eq rfl rfl
  | tail _ hchange ih =>
      rw [List.mem_append, not_or] at hassign
      exact (ih hassign.1).trans (hchange.sameMeetupPlan hassign.2)

/-! ## Planning -/

namespace Assignment

theorem findPrimeBelowLoop_pos {fuel n prime : Nat} (h : findPrimeBelowLoop fuel n = some prime) :
    1 ≤ prime := by
  induction fuel generalizing n with
  | zero => cases h
  | succ fuel ih =>
      simp only [findPrimeBelowLoop] at h
      split at h
      · rename_i hpos
        rw [Option.bind_eq_bind, Option.bind_eq_some_iff] at h
        obtain ⟨found, -, h⟩ := h
        split at h
        · cases h
          exact hpos
        · split at h
          · exact ih h
          · cases h
            exact one_le_two
      · cases h
        exact one_le_two

private theorem findPrimeBelow_pos {n prime : Nat} (h : findPrimeBelow n = some prime) :
    1 ≤ prime := by
  unfold findPrimeBelow at h
  split at h
  · cases h
    exact one_le_two
  · split at h
    · exact findPrimeBelowLoop_pos h
    · exact findPrimeBelowLoop_pos h

theorem checkedCeilDivision_le_of_le_mul {a b q m : Nat} (h : checkedCeilDivision a b = some q)
    (ha : a ≤ m * b) : q ≤ m := by
  simp only [checkedCeilDivision, addU64, subU64, Option.bind_eq_bind, Option.bind_eq_some_iff,
    toU64_eq_some] at h
  obtain ⟨sum, ⟨-, rfl⟩, difference, hdifference, h⟩ := h
  split at hdifference
  · rw [Option.some.injEq] at hdifference
    split at h
    · cases h
    · rename_i hpos
      rw [Option.some.injEq] at h
      rw [← h, ← hdifference, ← Nat.lt_succ_iff, Nat.div_lt_iff_lt_mul (Nat.pos_of_ne_zero hpos),
        Nat.succ_mul]
      omega
  · cases hdifference

end Assignment

namespace Ceremonies

omit [DecidableEq AccountId] in
/-- If one meetup has seats for the bootstrappers, there are seats for everybody. -/
theorem allowance_fits {cc : CommunityCeremony} {target : Nat} {allowance : AssignmentCount}
    (h : computeAssignmentAllowance config s cc target = .ok allowance)
    (hfew : registeredCount s.ceremonies cc .bootstrapper ≤ target) :
    1 ≤ (getLocations s.communities cc.1).length ∧
      allowance.getNumberOfParticipants ≤ (getLocations s.communities cc.1).length * target := by
  simp only [computeAssignmentAllowance, bind_eq_ok, ensure_eq_ok, okOr_eq_ok, ok_inj,
    exists_const] at h
  obtain ⟨hlocations, prime, hprime, seats, hseats, -, rfl⟩ := h
  have hpos := findPrimeBelow_pos hprime
  obtain ⟨hlt, rfl⟩ := toU64_eq_some.1 hseats
  have hone : 1 ≤ min (getLocations s.communities cc.1).length prime :=
    le_min (Nat.one_le_iff_ne_zero.2 hlocations) hpos
  have hfit : s.ceremonies.bootstrapperRegistry.count.get cc 0 ≤
      min (getLocations s.communities cc.1).length prime * target :=
    hfew.trans (Nat.le_mul_of_pos_left target hone)
  have hseats : min (getLocations s.communities cc.1).length prime * target ≤
      (getLocations s.communities cc.1).length * target :=
    Nat.mul_le_mul_right target (min_le_left _ _)
  refine ⟨Nat.one_le_iff_ne_zero.2 hlocations, ?_⟩
  simp only [wrappingSubU64_of_le hfit hlt, AssignmentCount.getNumberOfParticipants]
  omega

omit [DecidableEq AccountId] in
private theorem generateAssignment_locations {cc : CommunityCeremony} {allowance : AssignmentCount}
    {numMeetups : Nat} {assignment : CeremonyAssignment} {random random' : RandomNumberGenerator}
    (h : generateAssignment s cc allowance numMeetups random = some (assignment, random')) :
    ∃ start rest, generateLocationAssignmentParams s cc start =
      some (assignment.locations, rest) := by
  simp only [generateAssignment, Option.bind_eq_bind, Option.bind_eq_some_iff, Option.some.injEq,
    Prod.mk.injEq] at h
  obtain ⟨first, -, second, -, third, -, ⟨locations, rest⟩, hlocations, rfl, -⟩ := h
  exact ⟨_, _, hlocations⟩

end Ceremonies

/-- There is a place for each meetup, and the parameters fit the places. -/
structure PlacesPlanned (s : Runtime AccountId) (cc : CommunityCeremony) : Prop where
  registered : cc.1 ∈ s.communities.communityIdentifiers
  enough : Ceremonies.meetupCount s.ceremonies cc ≤ (getLocations s.communities cc.1).length
  forLocations : (getLocations s.communities cc.1).length < 2 ^ 31 →
    (Ceremonies.assignments s.ceremonies cc).locations.ForLocations
      (getLocations s.communities cc.1).length

omit [DecidableEq AccountId] in
/-- A plan outlives what keeps the places and the meetups. -/
theorem PlacesPlanned.keep {cc : CommunityCeremony} (h : PlacesPlanned s cc)
    (hplaces : SamePlaces s.communities s'.communities)
    (hplan : SameMeetupPlan s.ceremonies s'.ceremonies cc)
    (hpos : 0 < Ceremonies.meetupCount s'.ceremonies cc) : PlacesPlanned s' cc := by
  obtain ⟨hregistered, hlocations⟩ := hplaces cc.1 h.registered
  rcases hplan with hnone | ⟨hcount, hassignments⟩
  · omega
  · constructor
    · exact hregistered
    · rw [hcount, hlocations]
      exact h.enough
    · rw [hlocations, hassignments]
      exact h.forLocations

omit [DecidableEq AccountId] in
theorem Ceremonies.generateMeetupAssignmentParams_planned {cc : CommunityCeremony}
    {random random' : RandomNumberGenerator} {c : CeremoniesStorage AccountId}
    (h : generateMeetupAssignmentParams config s cc random = .ok (c, random'))
    (hregistered : cc.1 ∈ s.communities.communityIdentifiers)
    (hfew : registeredCount s.ceremonies cc .bootstrapper ≤ config.meetupSizeTarget) :
    c = s.ceremonies ∨ PlacesPlanned { s with ceremonies := c } cc ∧
      ∀ cc', cc' ≠ cc → SameMeetupPlan s.ceremonies c cc' := by
  rcases generateMeetupAssignmentParams_spec h with
    hsame | ⟨allowance, numMeetups, assignment, hallowance, hmeetups, hassignment, rfl⟩
  · exact Or.inl hsame
  · right
    obtain ⟨hpos, hfits⟩ := allowance_fits hallowance hfew
    constructor
    · constructor
      · exact hregistered
      · rw [Ceremonies.meetupCount, StorageMap.get_insert, if_pos rfl]
        exact checkedCeilDivision_le_of_le_mul hmeetups hfits
      · intro hlt
        rw [Ceremonies.assignments, StorageMap.get_insert, if_pos rfl]
        obtain ⟨start, rest, hlocations⟩ := generateAssignment_locations hassignment
        obtain ⟨params, random'', hparams, hfor⟩ :=
          generateLocationAssignmentParams_spec s cc start hpos hlt
        rw [hlocations, Option.some.injEq, Prod.mk.injEq] at hparams
        rw [hparams.1]
        exact hfor
    · intro cc' hother
      right
      rw [Ceremonies.meetupCount, StorageMap.get_insert, if_neg hother, Ceremonies.assignments,
        StorageMap.get_insert, if_neg hother]
      exact ⟨rfl, rfl⟩

/-- All meetups of the current ceremony have their places. -/
def MeetupsPlanned (s : Runtime AccountId) : Prop :=
  ∀ cid, 0 < Ceremonies.meetupCount s.ceremonies (cid, s.scheduler.currentCeremonyIndex) →
    PlacesPlanned s (cid, s.scheduler.currentCeremonyIndex)

omit [DecidableEq AccountId] in
theorem Ceremonies.generateMeetupAssignmentParamsOf_registry {cindex : Nat}
    {cids : List CommunityIdentifier} {random : RandomNumberGenerator}
    (h : generateMeetupAssignmentParamsOf config cindex cids s random = .ok s') :
    s'.ceremonies.registry = s.ceremonies.registry := by
  induction cids generalizing s random with
  | nil =>
      rw [generateMeetupAssignmentParamsOf, ok_inj] at h
      rw [h]
  | cons cid cids ih =>
      unfold generateMeetupAssignmentParamsOf at h
      split at h
      · cases h
      · exact ih h
      · rename_i ceremonies random' hassign
        exact (ih h).trans (generateMeetupAssignmentParams_registry hassign)

omit [DecidableEq AccountId] in
/-- Community by community, the meetups get their places. -/
theorem Ceremonies.generateMeetupAssignmentParamsOf_planned {cids : List CommunityIdentifier}
    {random : RandomNumberGenerator}
    (h : generateMeetupAssignmentParamsOf config s.scheduler.currentCeremonyIndex cids s random =
      .ok s')
    (hcids : ∀ cid ∈ cids, cid ∈ s.communities.communityIdentifiers)
    (hfew : ∀ cid, registeredCount s.ceremonies (cid, s.scheduler.currentCeremonyIndex)
      .bootstrapper ≤ config.meetupSizeTarget)
    (hplanned : MeetupsPlanned s) : MeetupsPlanned s' := by
  induction cids generalizing s random with
  | nil =>
      rw [generateMeetupAssignmentParamsOf, ok_inj] at h
      rw [← h]
      exact hplanned
  | cons cid cids ih =>
      have hrest : ∀ cid ∈ cids, cid ∈ s.communities.communityIdentifiers := by
        intro cid' hmem
        exact hcids cid' (List.mem_cons_of_mem cid hmem)
      unfold generateMeetupAssignmentParamsOf at h
      split at h
      · cases h
      · exact ih h hrest hfew hplanned
      · rename_i ceremonies random' hassign
        have hregistry := generateMeetupAssignmentParams_registry hassign
        apply ih (s := { s with ceremonies := ceremonies }) h hrest
        · intro cid'
          rw [registeredCount, hregistry]
          exact hfew cid'
        · intro cid' hpos
          rcases generateMeetupAssignmentParams_planned hassign (hcids cid List.mem_cons_self)
            (hfew cid) with rfl | ⟨hnew, hothers⟩
          · exact hplanned cid' hpos
          · by_cases hcid : cid' = cid
            · rw [hcid]
              exact hnew
            · have hplan := hothers (cid', s.scheduler.currentCeremonyIndex) (by simp [hcid])
              rcases hplan with hnone | ⟨hcount, hassignments⟩
              · exact absurd hnone (Nat.ne_of_gt hpos)
              · exact (hplanned cid' (hcount ▸ hpos)).keep (.of_eq rfl rfl)
                  (Or.inr ⟨hcount, hassignments⟩) hpos

/-! ## The phases of a ceremony -/

section

omit [DecidableEq AccountId]

theorem AssignmentInvariant.cindex_le (h : AssignmentInvariant s) {cc : CommunityCeremony}
    (hpos : 0 < Ceremonies.meetupCount s.ceremonies cc) :
    3 * cc.2 + 1 ≤ s.scheduler.time := (h cc hpos).started

theorem MeetupsPlanned.of_registering (h : AssignmentInvariant s)
    (hphase : s.scheduler.currentPhase = .registering) : MeetupsPlanned s := by
  intro cid hpos
  have hstarted := h.cindex_le hpos
  simp only [SchedulerStorage.time, hphase, CeremonyPhaseType.rank] at hstarted
  omega

/-- In the other phases, what keeps places and meetups keeps the plans. -/
theorem MeetupsPlanned.keep (h : MeetupsPlanned s) (hinv : AssignmentInvariant s)
    (htime : s.scheduler.time ≤ s'.scheduler.time)
    (hplaces : SamePlaces s.communities s'.communities)
    (hplan : ∀ cid, SameMeetupPlan s.ceremonies s'.ceremonies
      (cid, s'.scheduler.currentCeremonyIndex)) : MeetupsPlanned s' := by
  intro cid hpos
  have hcindex := SchedulerStorage.index_le_of_time_le htime
  rcases hplan cid with hnone | ⟨hcount, hassignments⟩
  · omega
  · have hbefore := hpos
    rw [hcount] at hbefore
    have hstarted := hinv.cindex_le hbefore
    have hrank : s.scheduler.currentPhase.rank ≤ 2 := by
      cases s.scheduler.currentPhase <;> decide
    have hsame : s'.scheduler.currentCeremonyIndex = s.scheduler.currentCeremonyIndex := by
      simp only [SchedulerStorage.time] at hstarted
      omega
    rw [hsame] at hpos hbefore hcount hassignments ⊢
    exact (h cid hbefore).keep hplaces (Or.inr ⟨hcount, hassignments⟩) hpos

end

theorem Dispatch.onCeremonyPhaseChange_planned {random : RandomNumberGenerator}
    (h : onCeremonyPhaseChange config random .assigning s = .ok s')
    (hphase : s.scheduler.currentPhase = .assigning)
    (hnone : ∀ cid, Ceremonies.meetupCount s.ceremonies
      (cid, s.scheduler.currentCeremonyIndex) = 0)
    (hfew : ∀ cid, Ceremonies.registeredCount s'.ceremonies
      (cid, s.scheduler.currentCeremonyIndex) .bootstrapper ≤ config.meetupSizeTarget) :
    MeetupsPlanned s' := by
  simp only [onCeremonyPhaseChange, bind_eq_ok] at h
  obtain ⟨enacted, henact, hceremonies⟩ := h
  obtain ⟨hframe, outcomes, -, henacted⟩ := Democracy.onCeremonyPhaseChange_changes henact
  have hnoAssign : ∀ cid, Effect.assign (cid, s.scheduler.currentCeremonyIndex) ∉
      Democracy.enactmentEffects .assigning s.democracy outcomes := by
    intro cid hmem
    rcases Democracy.mem_enactmentEffects hmem with ⟨_, _, h⟩ | h
    · cases h
    · cases h
  let ready : Runtime AccountId :=
    { enacted with commitments := Commitments.onCeremonyPhaseChange enacted .assigning }
  let purged := Ceremonies.purgeInactiveCommunities ready
  have hready : ready.scheduler = s.scheduler := hframe.scheduler
  have hpurged : purged.scheduler = s.scheduler :=
    (Ceremonies.purgeInactiveCommunities_scheduler ready).trans hready
  have hpurge : Changes config ready _ purged :=
    Ceremonies.purgeInactiveCommunities_changes (hready ▸ hphase)
  have hgenerate : Ceremonies.generateMeetupAssignmentParamsOf config
      purged.scheduler.currentCeremonyIndex purged.communities.communityIdentifiers purged
        random = .ok s' := hceremonies
  apply Ceremonies.generateMeetupAssignmentParamsOf_planned hgenerate (fun _ h => h)
  · intro cid
    rw [Ceremonies.registeredCount,
      ← Ceremonies.generateMeetupAssignmentParamsOf_registry hgenerate, hpurged]
    exact hfew cid
  · intro cid hpos
    have hplan : SameMeetupPlan s.ceremonies purged.ceremonies
        (cid, s.scheduler.currentCeremonyIndex) := by
      apply SameMeetupPlan.trans (henacted.sameMeetupPlan (hnoAssign cid))
      apply hpurge.sameMeetupPlan
      intro hmem
      have hphaseEffect : Effect.assign (cid, s.scheduler.currentCeremonyIndex) ∈
          Ceremonies.phaseEffects .assigning ready := hmem
      rcases Ceremonies.mem_phaseEffects hphaseEffect with ⟨_, h⟩ | ⟨_, h⟩
      · cases h
      · cases h
    rw [hpurged] at hpos
    rcases hplan with hzero | ⟨hcount, -⟩
    · omega
    · rw [hcount, hnone cid] at hpos
      omega

theorem MeetupsPlanned.enters {newPhase : CeremonyPhaseType} (h : MeetupsPlanned s)
    (hinv : AssignmentInvariant s) (hinv' : AssignmentInvariant s')
    (henters : Dispatch.Enters config s s' newPhase)
    (hfew : ∀ cid, Ceremonies.registeredCount s'.ceremonies
      (cid, s'.scheduler.currentCeremonyIndex) .bootstrapper ≤ config.meetupSizeTarget) :
    MeetupsPlanned s' := by
  have hphase := henters.phase
  cases newPhase with
  | registering => exact .of_registering hinv' hphase
  | assigning =>
      obtain ⟨now, blockNumber, t, random, -, hnext, hreacted⟩ := henters
      have hregistering : s.scheduler.currentPhase = .registering := by
        cases hbefore : s.scheduler.currentPhase with
        | registering => rfl
        | assigning => simp [hbefore, Scheduler.nextPhaseOf] at hnext
        | attesting => simp [hbefore, Scheduler.nextPhaseOf] at hnext
      have hcindex : (Scheduler.entered s t).currentCeremonyIndex =
          s.scheduler.currentCeremonyIndex := by
        simp [Scheduler.entered, Scheduler.startNextCeremony, hregistering]
      have hscheduler := (Dispatch.onCeremonyPhaseChange_scheduler hnext.symm hreacted).1
      apply Dispatch.onCeremonyPhaseChange_planned hreacted hnext.symm
      · intro cid
        rw [← Nat.le_zero, ← Nat.not_lt]
        intro hpos
        have hstarted := hinv.cindex_le hpos
        simp only [SchedulerStorage.time, hregistering, CeremonyPhaseType.rank, hcindex]
          at hstarted
        omega
      · rw [hscheduler] at hfew
        exact hfew
  | attesting =>
      obtain ⟨-, hnext, t, hscheduler⟩ := henters.scheduler
      cases henters.starts with
      | attesting hceremonies hcommunities =>
          apply h.keep hinv
          · rw [hscheduler]
            exact Scheduler.time_le_entered s t
          · exact .of_eq (by rw [hcommunities]) (by rw [hcommunities])
          · intro cid
            exact .of_eq (by rw [hceremonies]) (by rw [hceremonies])

/-- Within a phase other than the registration, places and meetups stay. -/
theorem Dispatch.Outcome.keepsPlans {action : Action AccountId}
    {observations : List (Observation AccountId)}
    (hregistry : RegistryInvariant s.ceremonies.registry)
    (houtcome : Outcome config s action s' observations) (haction : ¬ MayChangePhase action)
    (hkept : keepsCommunities action = true)
    (hclosed : s.scheduler.currentPhase ≠ .registering) :
    SamePlaces s.communities s'.communities ∧
      ∀ cc, SameMeetupPlan s.ceremonies s'.ceremonies cc := by
  constructor
  · rcases houtcome.communities_or_quiet with hsame | hquiet
    · exact .of_eq (by rw [hsame]) (by rw [hsame])
    · exact dispatchQuiet_samePlaces haction hkept hclosed hquiet
  · intro cc
    rcases houtcome.enters_or_keeps hregistry with
      ⟨hphase, -⟩ | ⟨claim, participants, hclaims⟩ | ⟨effects, hkeeps⟩
    · exact absurd hphase haction
    · rw [hclaims.runtime]
      exact .of_eq hclaims.effect.meetupCount hclaims.effect.assignments
    · apply hkeeps.changes.sameMeetupPlan
      intro hmem
      exact haction (hkeeps.caused.mayCause hmem)

/-- What may change the phase is none of the calls that tell their outcome. -/
theorem Dispatch.Outcome.quiet_of_mayChangePhase {action : Action AccountId}
    {observations : List (Observation AccountId)}
    (houtcome : Outcome config s action s' observations) (haction : MayChangePhase action) :
    dispatchQuiet config s action = .ok s' := by
  cases houtcome with
  | quiet hcall => exact hcall
  | register sender cid proof c t hcall => exact absurd haction (hcall ▸ id)
  | upgrade sender cid proof c t hcall => exact absurd haction (hcall ▸ id)
  | endorse sender cid newbie c t hcall => exact absurd haction (hcall ▸ id)
  | claim sender cid maybeMeetupIndex claim hcall => exact absurd haction (hcall ▸ id)
  | submit proposalAction commitments democracy cindexes hcall =>
      exact absurd haction (hcall ▸ id)
  | vote sender proposalId vote reputations commitments democracy counted purpose hcall =>
      exact absurd haction (hcall ▸ id)

theorem Dispatch.Outcome.phase_eq {action : Action AccountId}
    {observations : List (Observation AccountId)}
    (hregistry : RegistryInvariant s.ceremonies.registry)
    (houtcome : Outcome config s action s' observations) (haction : ¬ MayChangePhase action) :
    s'.scheduler.currentPhase = s.scheduler.currentPhase := by
  rcases houtcome.enters_or_keeps hregistry with
    ⟨hphase, -⟩ | ⟨claim, participants, hclaims⟩ | ⟨effects, hkeeps⟩
  · exact absurd hphase haction
  · rw [hclaims.runtime]
  · exact hkeeps.phase

theorem Chain.step_meetupsPlanned {chain : Chain AccountId}
    (hinv : CeremoniesInvariant chain.runtime) (h : MeetupsPlanned chain.runtime)
    {action : Action AccountId} (hkept : keepsCommunities action = true)
    (hinv' : CeremoniesInvariant (chain.step config action).runtime)
    (hfew : ∀ cid, Ceremonies.registeredCount (chain.step config action).runtime.ceremonies
      (cid, (chain.step config action).runtime.scheduler.currentCeremonyIndex) .bootstrapper ≤
        config.meetupSizeTarget) :
    MeetupsPlanned (chain.step config action).runtime := by
  have htime := Chain.step_time_le config chain action
  rcases Chain.step_outcome config chain action with ⟨observations, -, houtcome⟩ | hsame
  · by_cases haction : Dispatch.MayChangePhase action
    · have hquiet := houtcome.quiet_of_mayChangePhase haction
      rcases Dispatch.mayChangePhase_enters_or_ticks haction hquiet with
        ⟨newPhase, henters⟩ | hticks
      · exact h.enters hinv.assignment hinv'.assignment henters hfew
      · obtain ⟨now, blockNumber, scheduler, hs⟩ := hticks.runtime
        apply h.keep hinv.assignment htime
        · rw [hs]
          exact .of_eq rfl rfl
        · intro cid
          rw [hs]
          exact .of_eq rfl rfl
    · by_cases hphase : (chain.step config action).runtime.scheduler.currentPhase = .registering
      · exact .of_registering hinv'.assignment hphase
      · rw [houtcome.phase_eq hinv.registry haction] at hphase
        obtain ⟨hplaces, hplan⟩ := houtcome.keepsPlans hinv.registry haction hkept hphase
        exact h.keep hinv.assignment htime hplaces fun cid => hplan _
  · rw [hsame]
    exact h

/-- The meetups of the current ceremony have their places, and these stay as long as it is the
current one. -/
structure Planned (config : Config AccountId) (chain : Chain AccountId) : Prop where
  provenance : Provenance chain
  known : BootstrappersKnown config chain.runtime
  meetups : MeetupsPlanned chain.runtime

namespace Planned

theorem genesis (config : Config AccountId) (genesis : GenesisConfig)
    (nativeBalances : StorageMap AccountId Nat)
    (assetBalances : StorageMap (AccountId × AssetKind) Nat) :
    Planned config (Chain.genesis genesis nativeBalances assetBalances) where
  provenance := .genesis genesis nativeBalances assetBalances
  known := .genesis config genesis nativeBalances assetBalances
  meetups := by
    intro cid hpos
    exact absurd hpos (by simp [Chain.genesis, GenesisConfig.build, Ceremonies.meetupCount])

theorem step (hconfig : config.maxBootstrappers ≤ config.meetupSizeTarget)
    {chain : Chain AccountId} (h : Planned config chain) (action : Action AccountId)
    (hkept : keepsCommunities action = true) : Planned config (chain.step config action) := by
  have hprovenance : Provenance (chain.step config action) := h.provenance.step action
  have hknown := h.known.step h.provenance action hkept
  have hinv := hprovenance.reputation.ceremonies
  refine ⟨hprovenance, hknown, ?_⟩
  apply Chain.step_meetupsPlanned h.provenance.reputation.ceremonies h.meetups hkept hinv
  intro cid
  exact (hknown.count_le hinv.registry le_rfl).trans hconfig

theorem run (hconfig : config.maxBootstrappers ≤ config.meetupSizeTarget)
    {chain : Chain AccountId} (h : Planned config chain) {actions : List (Action AccountId)}
    (hkept : ∀ action ∈ actions, keepsCommunities action = true) :
    Planned config (chain.run config actions) :=
  Machine.run_invariant_of_forall (fun action : Action AccountId => keepsCommunities action = true)
    (Planned config) (fun _ action h hkept => h.step hconfig action hkept) h hkept

end Planned

/-- What a state has in common with an earlier one, after the registration for its ceremony. -/
structure SamePlans (s s' : Runtime AccountId) : Prop where
  time : s.scheduler.time ≤ s'.scheduler.time
  places : s'.scheduler.currentCeremonyIndex = s.scheduler.currentCeremonyIndex →
    SamePlaces s.communities s'.communities
  meetups : s'.scheduler.currentCeremonyIndex = s.scheduler.currentCeremonyIndex →
    ∀ cc, SameMeetupPlan s.ceremonies s'.ceremonies cc

namespace SamePlans

omit [DecidableEq AccountId] in
theorem of_eq (htime : s.scheduler.time ≤ s'.scheduler.time)
    (hcommunities : s'.communities = s.communities) (hceremonies : s'.ceremonies = s.ceremonies) :
    SamePlans s s' where
  time := htime
  places := fun _ => .of_eq (by rw [hcommunities]) (by rw [hcommunities])
  meetups := fun _ _ => .of_eq (by rw [hceremonies]) (by rw [hceremonies])

theorem step {chain : Chain AccountId}
    (hregistry : RegistryInvariant chain.runtime.ceremonies.registry)
    (hclosed : chain.runtime.scheduler.currentPhase ≠ .registering) {action : Action AccountId}
    (hkept : keepsCommunities action = true) :
    SamePlans chain.runtime (chain.step config action).runtime := by
  have htime := Chain.step_time_le config chain action
  rcases Chain.step_outcome config chain action with ⟨observations, -, houtcome⟩ | hsame
  · by_cases haction : Dispatch.MayChangePhase action
    · have hquiet := houtcome.quiet_of_mayChangePhase haction
      rcases Dispatch.mayChangePhase_enters_or_ticks haction hquiet with
        ⟨newPhase, henters⟩ | hticks
      · obtain ⟨-, hnext, t, hscheduler⟩ := henters.scheduler
        have hphase := henters.phase
        cases henters.starts with
        | attesting hceremonies hcommunities => exact of_eq htime hcommunities hceremonies
        | assigning counters removed hstarts =>
            cases hbefore : chain.runtime.scheduler.currentPhase with
            | registering => exact absurd hbefore hclosed
            | assigning => simp [hbefore, Scheduler.nextPhaseOf] at hnext
            | attesting => simp [hbefore, Scheduler.nextPhaseOf] at hnext
        | registering hstarts =>
            have hindex : (chain.step config action).runtime.scheduler.currentCeremonyIndex ≠
                chain.runtime.scheduler.currentCeremonyIndex := by
              intro hsame
              -- the time of the ceremony would go back
              simp only [SchedulerStorage.time, hphase, hsame, CeremonyPhaseType.rank] at htime
              cases hbefore : chain.runtime.scheduler.currentPhase with
              | registering => exact hclosed hbefore
              | assigning => simp [hbefore] at htime
              | attesting => simp [hbefore] at htime
            exact ⟨htime, fun h => absurd h hindex, fun h => absurd h hindex⟩
      · obtain ⟨now, blockNumber, scheduler, hs⟩ := hticks.runtime
        exact of_eq htime (by rw [hs]) (by rw [hs])
    · obtain ⟨hplaces, hmeetups⟩ := houtcome.keepsPlans hregistry haction hkept hclosed
      exact ⟨htime, fun _ => hplaces, fun _ => hmeetups⟩
  · rw [hsame]
    exact of_eq le_rfl rfl rfl

omit [DecidableEq AccountId] in
theorem trans {s'' : Runtime AccountId} (h : SamePlans s s') (h' : SamePlans s' s'') :
    SamePlans s s'' := by
  have hindex := SchedulerStorage.index_le_of_time_le h.time
  have hindex' := SchedulerStorage.index_le_of_time_le h'.time
  refine ⟨h.time.trans h'.time, ?_, ?_⟩
  · intro hsame
    exact (h.places (by omega)).trans (h'.places (by omega))
  · intro hsame cc
    exact (h.meetups (by omega) cc).trans (h'.meetups (by omega) cc)

end SamePlans

theorem Chain.run_time_le (config : Config AccountId) (chain : Chain AccountId)
    (actions : List (Action AccountId)) :
    chain.runtime.scheduler.time ≤ (chain.run config actions).runtime.scheduler.time :=
  Machine.run_invariant_of_step
    (fun later : Chain AccountId => chain.runtime.scheduler.time ≤ later.runtime.scheduler.time)
    (fun later action h => h.trans (later.step_time_le config action)) le_rfl actions

/-- Until the next registration, all steps keep the plans. -/
theorem SamePlans.run {chain : Chain AccountId} (hprovenance : Provenance chain)
    (hclosed : chain.runtime.scheduler.currentPhase ≠ .registering)
    {actions : List (Action AccountId)}
    (hkept : ∀ action ∈ actions, keepsCommunities action = true)
    (hindex : (chain.run config actions).runtime.scheduler.currentCeremonyIndex =
      chain.runtime.scheduler.currentCeremonyIndex) :
    SamePlans chain.runtime (chain.run config actions).runtime := by
  induction actions generalizing chain with
  | nil => exact .of_eq le_rfl rfl rfl
  | cons action rest ih =>
      have hstep : SamePlans chain.runtime (chain.step config action).runtime :=
        .step hprovenance.reputation.ceremonies.registry hclosed (hkept action List.mem_cons_self)
      have hlater := Chain.run_time_le config (chain.step config action) rest
      have hnext := SchedulerStorage.index_le_of_time_le hstep.time
      have hlast := SchedulerStorage.index_le_of_time_le hlater
      have hrun : (chain.run config (action :: rest)) = (chain.step config action).run config rest :=
        rfl
      rw [hrun] at hindex ⊢
      have hstill : (chain.step config action).runtime.scheduler.currentPhase ≠ .registering := by
        intro hregistering
        have htime := hstep.time
        simp only [SchedulerStorage.time, hregistering, CeremonyPhaseType.rank] at htime
        cases hbefore : chain.runtime.scheduler.currentPhase with
        | registering => exact hclosed hbefore
        | assigning =>
            simp only [hbefore] at htime
            omega
        | attesting =>
            simp only [hbefore] at htime
            omega
      apply hstep.trans
      apply ih (hprovenance.step action) hstill
      · intro later hmem
        exact hkept later (List.mem_cons_of_mem action hmem)
      · omega

namespace Ceremonies

/-- In every run without purges from outside, each meetup of the current ceremony has a location of
its community, and no other meetup has the same. -/
theorem meetup_places_distinct (config : Config AccountId)
    (hconfig : config.maxBootstrappers ≤ config.meetupSizeTarget) (genesis : GenesisConfig)
    (nativeBalances : StorageMap AccountId Nat)
    (assetBalances : StorageMap (AccountId × AssetKind) Nat) (actions : List (Action AccountId))
    (hkept : ∀ action ∈ actions, keepsCommunities action = true) (cid : CommunityIdentifier) :
    let s := ((Chain.genesis genesis nativeBalances assetBalances).run config actions).runtime
    let cc := (cid, s.scheduler.currentCeremonyIndex)
    (getLocations s.communities cid).length < 2 ^ 31 →
      ∀ k, 1 ≤ k → k ≤ Ceremonies.meetupCount s.ceremonies cc →
        ∃ location ∈ getLocations s.communities cid, getMeetupLocation s cc k = some location ∧
          ∀ k', 1 ≤ k' → k' ≤ Ceremonies.meetupCount s.ceremonies cc →
            getMeetupLocation s cc k' = some location → k' = k := by
  intro s cc hlt k hk hkm
  have hplanned : Planned config ((Chain.genesis genesis nativeBalances assetBalances).run config
    actions) := (Planned.genesis config genesis nativeBalances assetBalances).run hconfig hkept
  have hplaces : PlacesPlanned s cc := hplanned.meetups cid (hk.trans hkm)
  have hfor := hplaces.forLocations hlt
  have henough := hplaces.enough
  have hnodup : (getLocations s.communities cid).Nodup :=
    getLocations_nodup_of_run config genesis nativeBalances assetBalances actions cid
  let index (k : Nat) : Nat :=
    (k * (Ceremonies.assignments s.ceremonies cc).locations.s1 +
      (Ceremonies.assignments s.ceremonies cc).locations.s2) %
        (getLocations s.communities cid).length
  have hbound (k : Nat) : index k < (getLocations s.communities cid).length :=
    Nat.mod_lt _ hfor.pos
  have hlocation {k : Nat} (hk : k ≤ Ceremonies.meetupCount s.ceremonies cc) :
      getMeetupLocation s cc k = (getLocations s.communities cid)[index k]? := by
    unfold getMeetupLocation meetupLocation
    rw [hfor.index_eq (hk.trans henough)]
    rfl
  have hget := List.getElem?_eq_getElem (hbound k)
  refine ⟨_, List.mem_of_getElem? hget, (hlocation hkm).trans hget, ?_⟩
  intro k' hk' hkm' hsame
  rw [hlocation hkm', ← hget] at hsame
  have hindex := (List.getElem?_inj (hbound k') hnodup).1 hsame
  exact hfor.index_injective hk' hk (hkm'.trans henough) (hkm.trans henough) hindex

/-- The three islanders meet at a location of their own. -/
theorem meetup_places_distinct_islanders :
    let s := ((Chain.genesis Demo.genesis ∅ ∅).run Demo.runtimeConfig Demo.firstCeremony).runtime
    let cc := (Demo.islanders, s.scheduler.currentCeremonyIndex)
    ∃ location ∈ getLocations s.communities Demo.islanders,
      getMeetupLocation s cc 1 = some location ∧
        ∀ k', 1 ≤ k' → k' ≤ Ceremonies.meetupCount s.ceremonies cc →
          getMeetupLocation s cc k' = some location → k' = 1 :=
  meetup_places_distinct Demo.runtimeConfig (by decide) Demo.genesis ∅ ∅ Demo.firstCeremony
    (by decide +kernel) Demo.islanders (by decide +kernel) 1 le_rfl (by decide +kernel)

end Ceremonies

end Encointer
