import Encointer.Ceremonies.CounterSums
import Encointer.Ceremonies.Histories
import Encointer.Ceremonies.Provenance
import Encointer.Ceremonies.SeatAllocation
import Encointer.Communities.Records

/-!
# Seats for the bootstrappers

Who is registered as a bootstrapper is a bootstrapper of the community, unless the
community was purged from outside. So all of them have a seat, if one meetup has
seats for as many bootstrappers as a community may have.
-/

namespace Encointer

open Checked Communities Assignment

variable {AccountId : Type} [DecidableEq AccountId] {config : Config AccountId}
  {s s' : Runtime AccountId} {effects : List (Effect AccountId)}

/-! ## The bootstrappers of a community -/

omit [DecidableEq AccountId] in
theorem OnlyPlaces.bootstrappers_eq {communities communities' : CommunitiesStorage AccountId}
    (h : OnlyPlaces communities communities') (cid : CommunityIdentifier) :
    (cid ∈ communities'.communityIdentifiers ↔ cid ∈ communities.communityIdentifiers) ∧
      Communities.bootstrappers communities' cid = Communities.bootstrappers communities cid := by
  rw [h.communityIdentifiers, Communities.bootstrappers, h.bootstrappers, Communities.bootstrappers]
  exact ⟨Iff.rfl, rfl⟩

/-- A community keeps its bootstrappers from its foundation to its removal. -/
theorem Change.bootstrappers_cases (h : Change config s effects s') (cid : CommunityIdentifier) :
    ((cid ∈ s'.communities.communityIdentifiers ↔ cid ∈ s.communities.communityIdentifiers) ∧
        bootstrappers s'.communities cid = bootstrappers s.communities cid) ∨
      (.removeCommunity cid ∈ effects ∧ cid ∉ s'.communities.communityIdentifiers) ∨
      (.newCommunity cid ∈ effects ∧ cid ∉ s.communities.communityIdentifiers) := by
  cases h with
  | communities communities changed =>
      cases changed with
      | addLocation cid' location =>
          exact Or.inl ((OnlyPlaces.doAddLocation cid' location).bootstrappers_eq cid)
      | removeLocation cid' location _ removed =>
          exact Or.inl ((OnlyPlaces.doRemoveLocation removed).bootstrappers_eq cid)
      | records _ communityIdentifiers _ _ hbootstrappers =>
          rw [communityIdentifiers, bootstrappers, hbootstrappers, bootstrappers]
          exact Or.inl ⟨Iff.rfl, rfl⟩
  | newCommunity location bootstrappers' metadata demurrage nominalIncome communities balances cid'
      identifier created =>
      obtain ⟨founded, hfounded⟩ := newCommunity_founded created
      obtain ⟨cid'', hidentified, hfresh, hids⟩ := newCommunity_spec created
      rw [identifier, Option.some.injEq] at hidentified
      subst hidentified
      have hsame : founded = cid' := by
        have hlists := hfounded.communityIdentifiers.symm.trans hids
        rw [List.append_cancel_left_eq, List.singleton_inj] at hlists
        exact hlists
      subst hsame
      by_cases hcid : cid = founded
      · subst hcid
        exact Or.inr (Or.inr ⟨List.mem_cons_self, hfresh⟩)
      · left
        obtain ⟨_, -, -, -, hbootstrappers⟩ := hfounded.bootstrappers
        rw [hids, List.mem_append, List.mem_singleton, bootstrappers, hbootstrappers,
          StorageMap.get_insert, if_neg hcid, bootstrappers]
        exact ⟨or_iff_left hcid, rfl⟩
  | removeCommunity cid' =>
      have hmem : cid ∈ (Communities.removeCommunity s.communities cid').communityIdentifiers ↔
          cid ∈ s.communities.communityIdentifiers ∧ cid ≠ cid' := by
        rw [removeCommunity_communityIdentifiers, List.mem_filter, decide_eq_true_eq]
      by_cases hcid : cid = cid'
      · subst hcid
        exact Or.inr (Or.inl ⟨List.mem_cons_self, fun hgone => (hmem.1 hgone).2 rfl⟩)
      · left
        refine ⟨hmem.trans (and_iff_left hcid), ?_⟩
        have hsame : OnlyPlaces s.communities (removeLocationsIntern cid'
            (locationsOf s.communities cid') s.communities) := .removeLocationsIntern _
        rw [bootstrappers, Communities.removeCommunity, StorageMap.get_erase, if_neg hcid,
          hsame.bootstrappers, bootstrappers]
  | _ => exact Or.inl ⟨Iff.rfl, rfl⟩

/-- Nothing but a removal takes a community and its bootstrappers away. -/
theorem Changes.bootstrappers_of_before (h : Changes config s effects s')
    {cid : CommunityIdentifier} (hcid : cid ∈ s.communities.communityIdentifiers)
    (hkept : .removeCommunity cid ∉ effects) :
    cid ∈ s'.communities.communityIdentifiers ∧
      bootstrappers s'.communities cid = bootstrappers s.communities cid := by
  induction h with
  | refl => exact ⟨hcid, rfl⟩
  | tail hbefore hchange ih =>
      rw [List.mem_append, not_or] at hkept
      obtain ⟨hmem, heq⟩ := ih hkept.1
      rcases hchange.bootstrappers_cases cid with ⟨hiff, hsame⟩ | ⟨hgone, -⟩ | ⟨-, hnew⟩
      · exact ⟨hiff.2 hmem, hsame.trans heq⟩
      · exact absurd hgone hkept.2
      · exact absurd hmem hnew

/-- Nothing but a foundation brings a community and its bootstrappers. -/
theorem Changes.bootstrappers_of_after (h : Changes config s effects s')
    {cid : CommunityIdentifier} (hcid : cid ∈ s'.communities.communityIdentifiers)
    (hold : .newCommunity cid ∉ effects) :
    cid ∈ s.communities.communityIdentifiers ∧
      bootstrappers s'.communities cid = bootstrappers s.communities cid := by
  induction h with
  | refl => exact ⟨hcid, rfl⟩
  | tail hbefore hchange ih =>
      rw [List.mem_append, not_or] at hold
      rcases hchange.bootstrappers_cases cid with ⟨hiff, hsame⟩ | ⟨-, hgone⟩ | ⟨hnew, -⟩
      · obtain ⟨hmem, heq⟩ := ih (hiff.1 hcid) hold.1
        exact ⟨hmem, hsame.trans heq⟩
      · exact absurd hcid hgone
      · exact absurd hnew hold.2

/-! ## Registered bootstrappers -/

def RegisteredBootstrapper (c : CeremoniesStorage AccountId) (cc : CommunityCeremony)
    (a : AccountId) : Prop :=
  (c.registry .bootstrapper).index.contains (cc, a) = true

theorem registeredBootstrapper_iff {c : CeremoniesStorage AccountId} {cc : CommunityCeremony}
    {a : AccountId} :
    RegisteredBootstrapper c cc a ↔ (c.historyAt cc).index .bootstrapper a ≠ none := by
  rw [RegisteredBootstrapper, StorageMap.contains, Option.isSome_iff_ne_none]
  rfl

theorem SchedulerStorage.RegistrationOpen.le_time {scheduler : SchedulerStorage} {cindex : Nat}
    (h : scheduler.RegistrationOpen cindex) : 3 * cindex ≤ scheduler.time + 1 := by
  rcases h with ⟨hphase, rfl⟩ | ⟨hphase, rfl⟩
  · simp only [time, hphase, CeremonyPhaseType.rank]
    omega
  · simp only [time, hphase, CeremonyPhaseType.rank]
    omega

/-- Only one effect registers a bootstrapper, while the registration is open. -/
theorem Change.bootstrapper_or_add (hinv : RegistryInvariant s.ceremonies.registry)
    (h : Change config s effects s') {cc : CommunityCeremony} {a : AccountId}
    (hregistered : RegisteredBootstrapper s'.ceremonies cc a) :
    RegisteredBootstrapper s.ceremonies cc a ∨
      .add .bootstrapper cc a ∈ effects ∧ 3 * cc.2 ≤ s'.scheduler.time + 1 := by
  by_cases hkeeps : ∀ e ∈ effects, e.KeepsLinks
  · exact Or.inl ((h.linksShrink hinv hkeeps).registered .bootstrapper _ hregistered)
  · cases h with
    | add t cc' a' r opened free added =>
        have hadd : Change config s _ _ := .add t cc' a' r opened free added
        obtain ⟨-, -, -, -, hindex⟩ := hadd.add_inv
        rcases hindex .bootstrapper _ hregistered with ⟨rfl, hkey⟩ | hold
        · cases hkey
          exact Or.inr ⟨List.mem_cons_self, opened.le_time⟩
        · exact Or.inl hold
    | link cid cindex sender p ceremonies opened linked =>
        obtain ⟨-, -, rfl⟩ := Ceremonies.linkReputation_spec linked
        exact Or.inl hregistered
    | unlink cid cindex sender cc' ceremonies opened unlinked =>
        obtain ⟨-, rfl⟩ := Ceremonies.unlinkReputation_spec unlinked
        exact Or.inl hregistered
    | _ =>
        apply absurd _ hkeeps
        intro e he
        first
          | rw [List.mem_singleton.1 he]; trivial
          | cases he

theorem Changes.bootstrapper_or_add (hinv : RegistryInvariant s.ceremonies.registry)
    (h : Changes config s effects s') {cc : CommunityCeremony} {a : AccountId}
    (hregistered : RegisteredBootstrapper s'.ceremonies cc a) :
    RegisteredBootstrapper s.ceremonies cc a ∨
      .add .bootstrapper cc a ∈ effects ∧ 3 * cc.2 ≤ s'.scheduler.time + 1 := by
  induction h with
  | refl => exact Or.inl hregistered
  | tail hbefore hchange ih =>
      have htime := hchange.time_le
      rcases hchange.bootstrapper_or_add (hinv.changes hbefore) hregistered with
        hold | ⟨hadd, hopened⟩
      · rcases ih hold with hold | ⟨hadd, hopened⟩
        · exact Or.inl hold
        · exact Or.inr ⟨List.mem_append_left _ hadd, by omega⟩
      · exact Or.inr ⟨List.mem_append_right _ hadd, hopened⟩

theorem Dispatch.Claims.registeredBootstrapper {action : Action AccountId}
    {observations : List (Observation AccountId)} {claim : Ceremonies.Claim AccountId}
    {participants : List AccountId} (h : Claims s s' action observations claim participants)
    (cc : CommunityCeremony) (a : AccountId) :
    RegisteredBootstrapper s'.ceremonies cc a ↔ RegisteredBootstrapper s.ceremonies cc a := by
  rw [h.runtime, RegisteredBootstrapper, h.effect.registry, RegisteredBootstrapper]

theorem Dispatch.Enters.registeredBootstrapper {newPhase : CeremonyPhaseType}
    (h : Enters config s s' newPhase) {cc : CommunityCeremony} {a : AccountId}
    (hregistered : RegisteredBootstrapper s'.ceremonies cc a) :
    RegisteredBootstrapper s.ceremonies cc a := by
  rw [registeredBootstrapper_iff] at hregistered ⊢
  cases h.starts with
  | registering hstarts =>
      rw [hstarts.historyAt] at hregistered
      split at hregistered
      · exact absurd rfl hregistered
      · exact hregistered
  | assigning counters removed hstarts =>
      by_cases hpurged : cc.1 ∈ removed ∧ cc.2 ∈ Ceremonies.cindexesWithinLifetime s'
      · rw [hstarts.purged cc hpurged.1 hpurged.2] at hregistered
        exact absurd rfl hregistered
      · rcases hstarts.kept cc hpurged with hsame | ⟨-, -, _, _, _, hsame⟩
        · rw [hsame] at hregistered
          exact hregistered
        · rw [hsame] at hregistered
          exact hregistered
  | attesting hceremonies hcommunities =>
      rw [hceremonies] at hregistered
      exact hregistered

theorem Dispatch.Enters.bootstrappers {newPhase : CeremonyPhaseType}
    (h : Enters config s s' newPhase) {cid : CommunityIdentifier}
    (hcid : cid ∈ s'.communities.communityIdentifiers) :
    Communities.bootstrappers s'.communities cid = Communities.bootstrappers s.communities cid := by
  obtain ⟨now, blockNumber, t, random, -, hnext, hreacted⟩ := h
  obtain ⟨enacted, outcomes, assigned, -, -, hchanges⟩ :=
    onCeremonyPhaseChange_changes hnext.symm hreacted
  refine (hchanges.bootstrappers_of_after hcid ?_).2
  intro hmem
  rcases List.mem_append.1 hmem with henact | hmem
  · rcases Democracy.mem_enactmentEffects henact with ⟨proposalId, enacted, h⟩ | h
    · cases h
    · cases h
  · rcases List.mem_append.1 hmem with hphase | hassign
    · rcases Ceremonies.mem_phaseEffects hphase with ⟨cc, h⟩ | ⟨cid, h⟩
      · cases h
      · cases h
    · obtain ⟨cid, -, h⟩ := List.mem_map.1 hassign
      cases h

/-! ## The invariant -/

/-- Anything but a purge of a community from outside. -/
def keepsCommunities : Action AccountId → Bool
  | .purgeCommunity _ => false
  | _ => true

/-- The bootstrappers that are registered for a ceremony to come are bootstrappers. -/
structure BootstrappersKnown (config : Config AccountId) (s : Runtime AccountId) : Prop where
  records : RecordsConsistent config s.communities
  opened : ∀ cc a, RegisteredBootstrapper s.ceremonies cc a → 3 * cc.2 ≤ s.scheduler.time + 1
  known : ∀ cc a, s.scheduler.currentCeremonyIndex ≤ cc.2 →
    RegisteredBootstrapper s.ceremonies cc a → a ∈ bootstrappers s.communities cc.1

namespace BootstrappersKnown

theorem registered (h : BootstrappersKnown config s) {cid : CommunityIdentifier} {a : AccountId}
    (ha : a ∈ bootstrappers s.communities cid) : cid ∈ s.communities.communityIdentifiers := by
  by_contra hcid
  rw [bootstrappers, StorageMap.get_of_lookup_none (h.records.unrecorded cid hcid).bootstrappers]
    at ha
  cases ha

theorem genesis (config : Config AccountId) (genesis : GenesisConfig)
    (nativeBalances : StorageMap AccountId Nat)
    (assetBalances : StorageMap (AccountId × AssetKind) Nat) :
    BootstrappersKnown config (genesis.build nativeBalances assetBalances) where
  records := .genesis config genesis nativeBalances assetBalances
  opened := by
    intro cc a hregistered
    cases hregistered
  known := by
    intro cc a _ hregistered
    cases hregistered

/-- The registrations of a community that is removed for inactivity go with it. -/
theorem enters {newPhase : CeremonyPhaseType} (h : BootstrappersKnown config s)
    (henters : Dispatch.Enters config s s' newPhase)
    (hcindex : s.scheduler.currentCeremonyIndex ≤ s'.scheduler.currentCeremonyIndex)
    {cc : CommunityCeremony} {a : AccountId}
    (hcc : s'.scheduler.currentCeremonyIndex ≤ cc.2)
    (hregistered : RegisteredBootstrapper s'.ceremonies cc a) :
    a ∈ bootstrappers s'.communities cc.1 := by
  have hbefore := henters.registeredBootstrapper hregistered
  have hknown := h.known cc a (hcindex.trans hcc) hbefore
  have hcid : cc.1 ∈ s'.communities.communityIdentifiers := by
    cases henters.starts with
    | registering hstarts =>
        rw [hstarts.communities]
        exact h.registered hknown
    | assigning counters removed hstarts =>
        rw [hstarts.communityIdentifiers]
        refine ⟨h.registered hknown, ?_⟩
        intro hremoved
        -- a registration for the next ceremony is not open yet, and the current one is purged
        have hopened := h.opened cc a hbefore
        obtain ⟨-, hnext, t, hscheduler⟩ := henters.scheduler
        have hregistering : s.scheduler.currentPhase = .registering := by
          cases hphase : s.scheduler.currentPhase with
          | registering => rfl
          | assigning => simp [hphase, Scheduler.nextPhaseOf] at hnext
          | attesting => simp [hphase, Scheduler.nextPhaseOf] at hnext
        simp only [SchedulerStorage.time, hregistering, CeremonyPhaseType.rank] at hopened
        have hwithin : cc.2 ∈ Ceremonies.cindexesWithinLifetime s' := by
          rw [mem_cindexesWithinLifetime]
          omega
        rw [registeredBootstrapper_iff, hstarts.purged cc hremoved hwithin] at hregistered
        exact hregistered rfl
    | attesting hceremonies hcommunities =>
        rw [hcommunities]
        exact h.registered hknown
  rw [henters.bootstrappers hcid]
  exact hknown

/-- Calls register bootstrappers only, and leave the bootstrappers of a community alone. -/
theorem changes {action : Action AccountId} {observations : List (Observation AccountId)}
    {chain next : Chain AccountId} (h : BootstrappersKnown config chain.runtime)
    (hregistry : RegistryInvariant chain.runtime.ceremonies.registry)
    (heffects : Dispatch.ActionEffects config chain.runtime action observations effects)
    (hchanges : Changes config chain.runtime effects s')
    (hjustified : ∀ o ∈ observations, o.Justified chain next)
    (hkept : ∀ cid, .removeCommunity cid ∉ effects)
    (hcindex : chain.runtime.scheduler.currentCeremonyIndex ≤ s'.scheduler.currentCeremonyIndex)
    {cc : CommunityCeremony} {a : AccountId}
    (hcc : s'.scheduler.currentCeremonyIndex ≤ cc.2)
    (hregistered : RegisteredBootstrapper s'.ceremonies cc a) :
    a ∈ bootstrappers s'.communities cc.1 := by
  have hbefore : a ∈ bootstrappers chain.runtime.communities cc.1 := by
    rcases hchanges.bootstrapper_or_add hregistry hregistered with hold | ⟨hadd, -⟩
    · exact h.known cc a (hcindex.trans hcc) hold
    · obtain ⟨reputation, hobserved⟩ := heffects.registered_of_add hadd
      exact (hjustified _ hobserved).2
  have hcid := h.registered hbefore
  rw [(hchanges.bootstrappers_of_before hcid (hkept cc.1)).2]
  exact hbefore

theorem step {chain : Chain AccountId} (hprovenance : Provenance chain)
    (h : BootstrappersKnown config chain.runtime) (action : Action AccountId)
    (hkept : keepsCommunities action = true) :
    BootstrappersKnown config (chain.step config action).runtime := by
  have hregistry := hprovenance.reputation.ceremonies.registry
  have htime := Chain.step_time_le config chain action
  have hcindex : chain.runtime.scheduler.currentCeremonyIndex ≤
      (chain.step config action).runtime.scheduler.currentCeremonyIndex :=
    SchedulerStorage.index_le_of_time_le htime
  rcases Chain.step_outcome config chain action with ⟨observations, htrace, houtcome⟩ | hsame
  · have hjustified := hprovenance.justified htrace houtcome
    constructor
    · exact (RecordsConsistent.keptByCalls config).step action h.records
    · intro cc a hregistered
      rcases houtcome.enters_or_keeps hregistry with
        ⟨-, -, newPhase, henters⟩ | ⟨claim, participants, hclaims⟩ | ⟨effects, hkeeps⟩
      · have hopened := h.opened cc a (henters.registeredBootstrapper hregistered)
        omega
      · have hold := (hclaims.registeredBootstrapper cc a).1 hregistered
        have hopened := h.opened cc a hold
        omega
      · rcases hkeeps.changes.bootstrapper_or_add hregistry hregistered with hold | ⟨-, hopened⟩
        · have hopened := h.opened cc a hold
          omega
        · exact hopened
    · intro cc a hcc hregistered
      rcases houtcome.enters_or_keeps hregistry with
        ⟨-, -, newPhase, henters⟩ | ⟨claim, participants, hclaims⟩ | ⟨effects, hkeeps⟩
      · exact h.enters henters hcindex hcc hregistered
      · rw [hclaims.runtime]
        have hold := (hclaims.registeredBootstrapper cc a).1 hregistered
        exact h.known cc a (hcindex.trans hcc) hold
      · refine h.changes hregistry hkeeps.caused hkeeps.changes hjustified ?_ hcindex hcc hregistered
        intro cid hremoved
        rcases hkeeps.caused.mayCause hremoved with haction | hphase
        · rw [haction] at hkept
          cases hkept
        · cases hkeeps.clock hphase _ hremoved
  · rw [hsame]
    exact h

theorem run {chain : Chain AccountId} (hprovenance : Provenance chain)
    (h : BootstrappersKnown config chain.runtime) {actions : List (Action AccountId)}
    (hkept : ∀ action ∈ actions, keepsCommunities action = true) :
    BootstrappersKnown config (chain.run config actions).runtime := by
  have hboth : Provenance (chain.run config actions) ∧
      BootstrappersKnown config (chain.run config actions).runtime :=
    Machine.run_invariant_of_forall (fun action : Action AccountId => keepsCommunities action = true)
      (fun chain : Chain AccountId => Provenance chain ∧ BootstrappersKnown config chain.runtime)
      (fun _ action h hkept => ⟨h.1.step action, h.2.step h.1 action hkept⟩) ⟨hprovenance, h⟩ hkept
  exact hboth.2

/-- There are not more of them than the community may have. -/
theorem count_le (h : BootstrappersKnown config s)
    (hregistry : RegistryInvariant s.ceremonies.registry) {cc : CommunityCeremony}
    (hcc : s.scheduler.currentCeremonyIndex ≤ cc.2) :
    Ceremonies.registeredCount s.ceremonies cc .bootstrapper ≤ config.maxBootstrappers := by
  have hbijective := hregistry.bijective .bootstrapper cc
  let registry := s.ceremonies.registry .bootstrapper
  let accounts := bootstrappers s.communities cc.1
  -- the numbers of the registry lead to different bootstrappers
  have hcard : (Finset.Icc 1 (registry.count.get cc 0)).card ≤
      (accounts.map some).toFinset.card := by
    apply Finset.card_le_card_of_injOn fun i => registry.registry.lookup (cc, i)
    · intro i hi
      obtain ⟨a, ha⟩ := (hbijective.keys i).2 (Finset.mem_Icc.1 hi)
      have hindex := (hbijective.inverse i a).1 ha
      have hmem := h.known cc a hcc (StorageMap.contains_eq_true.2 ⟨i, hindex⟩)
      simp only [registry, ha]
      exact List.mem_toFinset.2 (List.mem_map_of_mem hmem)
    · intro i hi j hj hij
      obtain ⟨a, ha⟩ := (hbijective.keys i).2 (Finset.mem_Icc.1 hi)
      have hb : registry.registry.lookup (cc, j) = some a := hij.symm.trans ha
      have hi := (hbijective.inverse i a).1 ha
      have hj := (hbijective.inverse j a).1 hb
      rw [hi, Option.some.injEq] at hj
      exact hj
  have hlength : (accounts.map some).toFinset.card ≤ accounts.length := by
    have hsame : (accounts.map some).length = accounts.length := List.length_map _
    rw [← hsame]
    exact List.toFinset_card_le _
  have hmax : accounts.length ≤ config.maxBootstrappers := by
    by_cases hcid : cc.1 ∈ s.communities.communityIdentifiers
    · exact (h.records.recorded cc.1 hcid).notTooMany
    · have hnone := (h.records.unrecorded cc.1 hcid).bootstrappers
      have hnil : accounts = [] := StorageMap.get_of_lookup_none hnone
      rw [hnil]
      exact Nat.zero_le _
  rw [Nat.card_Icc, Nat.add_sub_cancel] at hcard
  exact (hcard.trans hlength).trans hmax

end BootstrappersKnown

namespace Ceremonies

/-! ## Enough seats -/

private theorem numSeats_of_few {registered : AssignmentCount} {numLocations target : Nat}
    (hfew : registered.bootstrappers ≤ target) (hlocations : 1 ≤ numLocations)
    (hcounts : registered.bootstrappers + registered.reputables < 2 ^ 64) :
    registered.bootstrappers ≤ numSeats numLocations target registered := by
  obtain ⟨prime, hprime⟩ := findPrimeBelow_isSome hcounts
  have hpos := (findPrimeBelow_bounds hcounts hprime).1.one_le
  have hmeetups : 1 ≤ maxNumMeetups numLocations registered := by
    rw [maxNumMeetups, hprime, Option.getD_some]
    exact le_min hlocations hpos
  exact hfew.trans (Nat.le_mul_of_pos_left target hmeetups)

omit [DecidableEq AccountId] in
/-- If the bootstrappers fit, the seats that are left are counted correctly. -/
theorem safeAllowance_of_few {cc : CommunityCeremony} (htarget : 1 ≤ config.meetupSizeTarget)
    (hdivider : 1 ≤ config.meetupNewbieLimitDivider)
    (hfew : (registeredParticipants s.ceremonies cc).bootstrappers ≤ config.meetupSizeTarget)
    (hcounts : (registeredParticipants s.ceremonies cc).getNumberOfParticipants < 2 ^ 63)
    (hlocations : getLocations s.communities cc.1 ≠ []) :
    SafeAllowance config s cc config.meetupSizeTarget := by
  have hsum := hcounts
  unfold AssignmentCount.getNumberOfParticipants at hsum
  have hfit := numSeats_of_few hfew (List.length_pos_iff.2 hlocations) (by omega)
  refine ⟨(noUnderflow_iff (by omega)).2 hfit, ?_⟩
  rw [computeAssignmentAllowance_eq hcounts hlocations hdivider]
  cases hseats : mulU64 (maxNumMeetups (getLocations s.communities cc.1).length
      (registeredParticipants s.ceremonies cc)) config.meetupSizeTarget with
  | none => exact Or.inl rfl
  | some seats =>
      obtain ⟨hlt, rfl⟩ := toU64_eq_some.1 hseats
      have hleft := wrappingSubU64_of_le hfit hlt
      unfold numSeats at hleft
      refine Or.inr ⟨_, rfl, ?_⟩
      rw [hleft]
      exact allowanceOf_fair htarget hfit

/-- In every run without purges from outside, only bootstrappers of the community register as such
for the current ceremony. If one meetup has seats for as many, the seats are handed out fairly. -/
theorem bootstrappers_have_seats (config : Config AccountId)
    (hconfig : config.maxBootstrappers ≤ config.meetupSizeTarget)
    (htarget : 1 ≤ config.meetupSizeTarget) (hdivider : 1 ≤ config.meetupNewbieLimitDivider)
    (genesis : GenesisConfig) (nativeBalances : StorageMap AccountId Nat)
    (assetBalances : StorageMap (AccountId × AssetKind) Nat) (actions : List (Action AccountId))
    (hkept : ∀ action ∈ actions, keepsCommunities action = true) (cid : CommunityIdentifier) :
    let s := ((Chain.genesis genesis nativeBalances assetBalances).run config actions).runtime
    let cc := (cid, s.scheduler.currentCeremonyIndex)
    (∀ a, RegisteredBootstrapper s.ceremonies cc a → a ∈ bootstrappers s.communities cid) ∧
      ((registeredParticipants s.ceremonies cc).getNumberOfParticipants < 2 ^ 63 →
        getLocations s.communities cid ≠ [] →
          SafeAllowance config s cc config.meetupSizeTarget) := by
  intro s cc
  have hprovenance : Provenance ((Chain.genesis genesis nativeBalances assetBalances).run config
    actions) := (Provenance.genesis genesis nativeBalances assetBalances).run actions
  have hknown : BootstrappersKnown config s :=
    (BootstrappersKnown.genesis config genesis nativeBalances assetBalances).run
      (Provenance.genesis genesis nativeBalances assetBalances) hkept
  refine ⟨fun a => hknown.known cc a le_rfl, ?_⟩
  intro hcounts hlocations
  have hfew : (registeredParticipants s.ceremonies cc).bootstrappers ≤ config.maxBootstrappers :=
    hknown.count_le hprovenance.reputation.ceremonies.registry le_rfl
  exact safeAllowance_of_few htarget hdivider (hfew.trans hconfig) hcounts hlocations

/-- The registered islanders have seats when their first ceremony is assigned. -/
theorem bootstrappers_have_seats_islanders :
    let s := ((Chain.genesis Demo.genesis ∅ ∅).run Demo.runtimeConfig Demo.firstCeremony).runtime
    let cc := (Demo.islanders, s.scheduler.currentCeremonyIndex)
    (∀ a, RegisteredBootstrapper s.ceremonies cc a →
        a ∈ bootstrappers s.communities Demo.islanders) ∧
      SafeAllowance Demo.runtimeConfig s cc Demo.runtimeConfig.meetupSizeTarget := by
  have h := bootstrappers_have_seats Demo.runtimeConfig (by decide) (by decide) (by decide)
    Demo.genesis ∅ ∅ Demo.firstCeremony (by decide +kernel) Demo.islanders
  exact ⟨h.1, h.2 (by decide +kernel) (by decide +kernel)⟩

end Ceremonies

end Encointer
