import Encointer.Ceremonies.EndorsementTickets
import Encointer.Ceremonies.Inactivity

/-!
# Removed communities

A community that is purged for its inactivity leaves no ceremony state behind: its
histories lie within the reputation lifetime, up to the ceremony that is open for
endorsements, and the purge covers these. A community that is removed by an
extrinsic of the communities pallet leaves all of them.
-/

namespace Encointer

open Ceremonies Dispatch

variable {AccountId : Type} [DecidableEq AccountId] {config : Config AccountId}
  {s s' : Runtime AccountId} {c c' c'' : CeremoniesStorage AccountId}
  {cid : CommunityIdentifier} {cindex : Nat} {sender : AccountId}

/-! ## New histories -/

def BeginsOnly (c c' : CeremoniesStorage AccountId) (fresh : CommunityCeremony) : Prop :=
  ∀ cc, cc ≠ fresh → c.historyAt cc = .empty → c'.historyAt cc = .empty

namespace BeginsOnly

variable {fresh : CommunityCeremony}

theorem trans (h : BeginsOnly c c' fresh) (h' : BeginsOnly c' c'' fresh) :
    BeginsOnly c c'' fresh :=
  fun cc hcc hempty => h' cc hcc (h cc hcc hempty)

theorem of_unchanged (h : ∀ cc, cc ≠ fresh → c'.historyAt cc = c.historyAt cc) :
    BeginsOnly c c' fresh :=
  fun cc hcc hempty => (h cc hcc).trans hempty

theorem of_participantReputation
    {participantReputation : StorageMap (CommunityCeremony × AccountId) Reputation}
    (h : ∀ cc a, cc ≠ fresh → c.historyAt cc = .empty →
      participantReputation.lookup (cc, a) = none) :
    BeginsOnly c { c with participantReputation := participantReputation } fresh := by
  intro cc hcc hempty
  have hnone : (fun a => participantReputation.lookup (cc, a)) = fun _ => none := by
    funext a
    exact h cc a hcc hempty
  have hwritten : ({ c with
      participantReputation := participantReputation } : CeremoniesStorage AccountId).historyAt cc =
      { c.historyAt cc with
        participantReputation := fun a => participantReputation.lookup (cc, a) } := rfl
  rw [hwritten, hempty, hnone]
  rfl

theorem of_endorsees {endorsees : StorageMap (CommunityCeremony × AccountId) Unit}
    (h : ∀ cc a, cc ≠ fresh → c.historyAt cc = .empty → endorsees.lookup (cc, a) = none) :
    BeginsOnly c { c with endorsees := endorsees } fresh := by
  intro cc hcc hempty
  have hnone : (fun a => endorsees.lookup (cc, a)) = fun _ => none := by
    funext a
    exact h cc a hcc hempty
  have hwritten : ({ c with endorsees := endorsees } : CeremoniesStorage AccountId).historyAt cc =
      { c.historyAt cc with endorsees := fun a => endorsees.lookup (cc, a) } := rfl
  rw [hwritten, hempty, hnone]
  rfl

end BeginsOnly

namespace Ceremonies

theorem participantReputation_of_empty {cc : CommunityCeremony} (h : c.historyAt cc = .empty)
    (a : AccountId) : c.participantReputation.lookup (cc, a) = none :=
  congrFun (congrArg CeremonyHistory.participantReputation h) a

theorem endorsees_of_empty {cc : CommunityCeremony} (h : c.historyAt cc = .empty)
    (a : AccountId) : c.endorsees.lookup (cc, a) = none :=
  congrFun (congrArg CeremonyHistory.endorsees h) a

theorem meetupCount_of_empty {cc : CommunityCeremony} (h : c.historyAt cc = .empty) :
    meetupCount c cc = 0 := by
  have hlookup : c.meetupCount.lookup cc = none := congrArg CeremonyHistory.meetupCount h
  rw [meetupCount, StorageMap.get_of_lookup_none hlookup]

/-! ## Registries -/

structure SameAt (r r' : ParticipantRegistry AccountId) (cc : CommunityCeremony) : Prop where
  registry : ∀ n, r'.registry.lookup (cc, n) = r.registry.lookup (cc, n)
  index : ∀ a, r'.index.lookup (cc, a) = r.index.lookup (cc, a)
  count : r'.count.lookup cc = r.count.lookup cc

theorem historyAt_setRegistry {t : ParticipantType} {r : ParticipantRegistry AccountId}
    {cc : CommunityCeremony} (h : SameAt (c.registry t) r cc) :
    (c.setRegistry t r).historyAt cc = c.historyAt cc := by
  have hregistry (t' : ParticipantType) :
      SameAt (c.registry t') ((c.setRegistry t r).registry t') cc := by
    by_cases ht : t' = t
    · rw [ht, setRegistry_registry_self]
      exact h
    · rw [setRegistry_registry_ne _ _ ht]
      exact ⟨fun _ => rfl, fun _ => rfl, rfl⟩
  have hwritten : (c.setRegistry t r).historyAt cc = { c.historyAt cc with
      registry := fun t' n => ((c.setRegistry t r).registry t').registry.lookup (cc, n)
      index := fun t' a => ((c.setRegistry t r).registry t').index.lookup (cc, a)
      count := fun t' => ((c.setRegistry t r).registry t').count.lookup cc } := by
    cases t <;> rfl
  rw [hwritten]
  simp only [(hregistry _).registry, (hregistry _).index, (hregistry _).count]
  rfl

private theorem register_sameAt {r r' : ParticipantRegistry AccountId} {cc cc' : CommunityCeremony}
    (h : r.register cc sender = some r') (hcc : cc' ≠ cc) : SameAt r r' cc' := by
  simp only [ParticipantRegistry.register, Option.bind_eq_bind, Option.bind_eq_some_iff,
    Option.some.injEq] at h
  obtain ⟨participantIndex, -, rfl⟩ := h
  constructor <;> simp [StorageMap.lookup_insert_eq, hcc]

private theorem removeParticipantFromRegistry_sameAt (r : ParticipantRegistry AccountId)
    {cc cc' : CommunityCeremony} (hcc : cc' ≠ cc) :
    SameAt r (r.removeParticipantFromRegistry cc sender) cc' := by
  unfold ParticipantRegistry.removeParticipantFromRegistry
  simp only
  split
  · exact ⟨fun _ => rfl, fun _ => rfl, rfl⟩
  · constructor <;> simp [StorageMap.lookup_insert_eq, StorageMap.lookup_erase_eq, hcc]

/-! ## Calls -/

theorem register_begins {isReputable : Bool} {t : ParticipantType}
    (h : register config s cid cindex sender isReputable = .ok (c, t)) :
    BeginsOnly s.ceremonies c (cid, cindex) := by
  obtain ⟨r, hr, hc, -⟩ := register_spec h
  have hset : BeginsOnly s.ceremonies (s.ceremonies.setRegistry t r) (cid, cindex) :=
    .of_unchanged fun cc hcc => historyAt_setRegistry (register_sameAt hr hcc)
  rcases hc with rfl | ⟨-, endorsedCindex, rfl⟩
  · exact hset
  · apply hset.trans
    apply BeginsOnly.of_endorsees
    intro cc a _ hempty
    have hnone := endorsees_of_empty hempty a
    rw [setRegistry_endorsees] at hnone
    simp [StorageMap.lookup_erase_eq, hnone]

theorem removeParticipantFromRegistry_begins
    (h : removeParticipantFromRegistry s cid cindex sender = .ok c) :
    BeginsOnly s.ceremonies c (cid, cindex) := by
  obtain ⟨-, t, -, rfl⟩ := removeParticipantFromRegistry_spec h
  exact .of_unchanged fun cc hcc =>
    historyAt_setRegistry (removeParticipantFromRegistry_sameAt _ hcc)

private theorem linkReputation_begins {p : ProofOfAttendance AccountId}
    (h : linkReputation config s cid cindex sender p = .ok c) :
    BeginsOnly s.ceremonies c (cid, cindex) := by
  obtain ⟨-, hverified, rfl⟩ := linkReputation_spec h
  apply BeginsOnly.of_participantReputation
  intro cc a hcc hempty
  have hnone := participantReputation_of_empty hempty
  have hsource : cc ≠ p.source := by
    rintro rfl
    rw [participantReputation, StorageMap.get_of_lookup_none (hnone p.attendeePublic)] at hverified
    cases hverified
  simp [StorageMap.lookup_insert_eq, hcc, hsource, hnone]

private theorem linkProof_begins {proof : Option (ProofOfAttendance AccountId)}
    (h : linkProof config s cid cindex sender proof = .ok c) :
    BeginsOnly s.ceremonies c (cid, cindex) := by
  cases proof with
  | none =>
      simp only [linkProof, ok_inj] at h
      rw [h]
      exact .of_unchanged fun _ _ => rfl
  | some p => exact linkReputation_begins h

theorem registerParticipant_begins {proof : Option (ProofOfAttendance AccountId)}
    {t : ParticipantType} (h : registerParticipant config s sender cid proof = .ok (c, t)) :
    BeginsOnly s.ceremonies c (cid, registrationCindex s) := by
  obtain ⟨-, -, -, linked, hlink, hregister⟩ := registerParticipant_spec h
  have hregistered := register_begins hregister
  exact (linkProof_begins hlink).trans hregistered

theorem upgradeRegistration_begins {proof : ProofOfAttendance AccountId} {t : ParticipantType}
    (h : upgradeRegistration config s sender cid proof = .ok (c, t)) :
    BeginsOnly s.ceremonies c (cid, registrationCindex s) := by
  obtain ⟨-, removed, hremove, hregister⟩ := upgradeRegistration_spec h
  have hregistered := registerParticipant_begins hregister
  exact (removeParticipantFromRegistry_begins hremove).trans hregistered

private theorem unlinkReputation_begins {cc : CommunityCeremony}
    (h : unlinkReputation s cid cindex sender cc = .ok c) :
    BeginsOnly s.ceremonies c (cid, cindex) := by
  obtain ⟨hlinked, rfl⟩ := unlinkReputation_spec h
  apply BeginsOnly.of_participantReputation
  intro cc' a hcc hempty
  have hnone := participantReputation_of_empty hempty
  have hsource : cc' ≠ cc := by
    rintro rfl
    rw [participantReputation, StorageMap.get_of_lookup_none (hnone sender)] at hlinked
    cases hlinked
  simp [StorageMap.lookup_insert_eq, StorageMap.lookup_erase_eq, hsource, hnone]

theorem unregisterParticipant_begins {maybe : Option CommunityCeremony}
    (h : unregisterParticipant s sender cid maybe = .ok c) :
    BeginsOnly s.ceremonies c (cid, registrationCindex s) := by
  obtain ⟨-, t, refunded, -, hrefund, hremove⟩ := unregisterParticipant_spec h
  have hremoved := removeParticipantFromRegistry_begins hremove
  rcases refundReputation_spec hrefund with rfl | ⟨-, source, -, hunlink⟩
  · exact hremoved
  · exact (unlinkReputation_begins hunlink).trans hremoved

theorem historyAt_attestations (c : CeremoniesStorage AccountId) (cc : CommunityCeremony)
    (votes : StorageMap (CommunityCeremony × AccountId) Nat)
    (registry : StorageMap (CommunityCeremony × Nat) (List AccountId))
    (index : StorageMap (CommunityCeremony × AccountId) Nat)
    (count : StorageMap CommunityCeremony Nat) :
    ({ c with
      meetupParticipantCountVote := votes
      attestationRegistry := registry
      attestationIndex := index
      attestationCount := count } : CeremoniesStorage AccountId).historyAt cc =
      { c.historyAt cc with
        meetupParticipantCountVote := fun a => votes.lookup (cc, a)
        attestationRegistry := fun n => registry.lookup (cc, n)
        attestationIndex := fun a => index.lookup (cc, a)
        attestationCount := count.lookup cc } := rfl

theorem attestAttendees_begins {vote : Nat} {attestations : List AccountId}
    (h : attestAttendees config s sender cid vote attestations = .ok c) :
    BeginsOnly s.ceremonies c (cid, s.scheduler.currentCeremonyIndex) := by
  simp only [attestAttendees, gatherMeetupData, addAttestationsToRegistry, bind_eq_ok, ensure_eq_ok,
    okOr_eq_ok, ok_inj, exists_const] at h
  obtain ⟨-, -, -, data, ⟨_, -, _, -, _, -, _, -, rfl⟩, -, -, idx, -, -, rfl⟩ := h
  apply BeginsOnly.of_unchanged
  intro cc hcc
  rw [historyAt_attestations]
  by_cases hregistered : StorageMap.contains s.ceremonies.attestationIndex
      ((cid, s.scheduler.currentCeremonyIndex), sender) = true
  · simp [hregistered, StorageMap.lookup_insert_eq, hcc]
    rfl
  · simp [hregistered, StorageMap.lookup_insert_eq, hcc]
    rfl

private theorem reregisterNewbie_begins {t : Option ParticipantType}
    (h : reregisterNewbie config s cid cindex sender = .ok (c, t)) :
    BeginsOnly s.ceremonies c (cid, cindex) := by
  rcases reregisterNewbie_spec h with ⟨rfl, -⟩ | ⟨removed, t', -, -, hremove, hregister⟩
  · exact .of_unchanged fun _ _ => rfl
  · have hregistered := register_begins hregister
    exact (removeParticipantFromRegistry_begins hremove).trans hregistered

private theorem historyAt_endorsements (c : CeremoniesStorage AccountId) (cc : CommunityCeremony)
    (endorsees : StorageMap (CommunityCeremony × AccountId) Unit)
    (endorseesCount : StorageMap CommunityCeremony Nat) :
    ({ c with
      endorsees := endorsees
      endorseesCount := endorseesCount } : CeremoniesStorage AccountId).historyAt cc =
      { c.historyAt cc with
        endorsees := fun a => endorsees.lookup (cc, a)
        endorseesCount := endorseesCount.lookup cc } := rfl

/-- A ticket of a bootstrapper belongs to no ceremony. -/
theorem burnNewbieTickets_historyAt (h : burnNewbieTickets s cid cindex sender = .ok c)
    {cc : CommunityCeremony} (hcc : cc ≠ (cid, cindex)) :
    c.historyAt cc = s.ceremonies.historyAt cc := by
  simp only [burnNewbieTickets, ite_eq_ok, ok_inj, error_ne_ok] at h
  rcases h with ⟨-, rfl⟩ | ⟨-, ⟨-, rfl⟩ | ⟨-, hfalse⟩⟩
  · have hkept : (fun a => (s.ceremonies.burnedReputableNewbieTickets.insert ((cid, cindex), sender)
        (s.ceremonies.burnedReputableNewbieTickets.get ((cid, cindex), sender) 0 + 1)).lookup
          (cc, a)) = fun a => s.ceremonies.burnedReputableNewbieTickets.lookup (cc, a) := by
      funext a
      simp [StorageMap.lookup_insert_eq, hcc]
    exact congrArg (fun burned => { s.ceremonies.historyAt cc with
      burnedReputableNewbieTickets := burned }) hkept
  · rfl
  · exact hfalse.elim

theorem endorseNewcomer_begins {newbie : AccountId} {t : Option ParticipantType}
    (h : endorseNewcomer config s sender cid newbie = .ok (c, t)) :
    BeginsOnly s.ceremonies c (cid, endorsementCindex s) := by
  simp only [endorseNewcomer, bind_eq_ok, ensure_eq_ok, okOr_eq_ok, exists_const] at h
  obtain ⟨-, -, burned, hburn, count, -, hreregister⟩ := h
  have hreregistered := reregisterNewbie_begins hreregister
  refine BeginsOnly.trans (.of_unchanged fun cc hcc => ?_) hreregistered
  rw [historyAt_endorsements, ← burnNewbieTickets_historyAt hburn hcc]
  simp [StorageMap.lookup_insert_eq, hcc]
  rfl

theorem historyAt_rewards (c : CeremoniesStorage AccountId) (cc : CommunityCeremony)
    (participantReputation : StorageMap (CommunityCeremony × AccountId) Reputation)
    (reputationCount : StorageMap CommunityCeremony Nat) (globalReputationCount : StorageMap Nat Nat)
    (issuedRewards : StorageMap (CommunityCeremony × Nat) MeetupResult) :
    ({ c with
      participantReputation := participantReputation
      reputationCount := reputationCount
      globalReputationCount := globalReputationCount
      issuedRewards := issuedRewards } : CeremoniesStorage AccountId).historyAt cc =
      { c.historyAt cc with
        participantReputation := fun a => participantReputation.lookup (cc, a)
        reputationCount := reputationCount.lookup cc
        issuedRewards := fun n => issuedRewards.lookup (cc, n) } := rfl

theorem claimRewards_begins {maybe : Option Nat} {claim : Claim AccountId}
    (h : claimRewards config s sender cid maybe = .ok claim) {cc : CommunityCeremony}
    (hempty : s.ceremonies.historyAt cc = .empty) : claim.ceremonies.historyAt cc = .empty := by
  simp only [claimRewards, bind_eq_ok] at h
  obtain ⟨cindex, -, meetupIdx, -, -, -, participants, hparticipants, h⟩ := h
  have hcc : cc ≠ (cid, cindex) := by
    rintro rfl
    simp only [getMeetupParticipants, bind_eq_ok, ensure_eq_ok, exists_const] at hparticipants
    obtain ⟨⟨hone, hle⟩, -⟩ := hparticipants
    rw [meetupCount_of_empty hempty] at hle
    omega
  rw [← hempty]
  split at h
  · simp only [bind_eq_ok, ok_inj] at h
    obtain ⟨-, -, rfl⟩ := h
    refine (historyAt_rewards s.ceremonies cc s.ceremonies.participantReputation
      s.ceremonies.reputationCount s.ceremonies.globalReputationCount _).trans ?_
    simp [StorageMap.lookup_insert_eq, hcc]
    rfl
  · simp only [bind_eq_ok, ok_inj] at h
    obtain ⟨-, -, -, -, ⟨c, balances, credited⟩, hissue, rfl⟩ := h
    obtain ⟨-, participantReputation, hreputation, rfl⟩ := issueRewards_spec hissue
    refine (historyAt_rewards s.ceremonies cc _ _ _ _).trans ?_
    simp [StorageMap.lookup_insert_eq, hreputation, hcc]
    rfl

end Ceremonies

/-! ## Steps -/

structure NoCeremonyState (c : CeremoniesStorage AccountId) (cid : CommunityIdentifier) :
    Prop where
  historyAt : ∀ cindex, c.historyAt (cid, cindex) = .empty
  burnedBootstrapperNewbieTickets : ∀ a,
    c.burnedBootstrapperNewbieTickets.lookup (cid, a) = none
  inactivityCounter : c.inactivityCounters.lookup cid = none

theorem Change.registered {effects : List (Effect AccountId)} (h : Change config s effects s')
    (hregistered : cid ∈ s.communities.communityIdentifiers) :
    cid ∈ s'.communities.communityIdentifiers ∨ .removeCommunity cid ∈ effects := by
  cases h with
  | communities communities changed =>
      simp only [changed.communityIdentifiers]
      exact Or.inl hregistered
  | newCommunity location bootstrappers metadata demurrage nominalIncome communities balances cid'
      identifier created =>
      obtain ⟨new, -, -, hcids⟩ := Communities.newCommunity_spec created
      simp only [hcids]
      exact Or.inl (List.mem_append_left _ hregistered)
  | removeCommunity cid' =>
      simp only [Communities.removeCommunity_communityIdentifiers]
      by_cases hcid : cid = cid'
      · rw [hcid]
        exact Or.inr List.mem_cons_self
      · exact Or.inl (by simpa [hcid] using hregistered)
  | _ => exact Or.inl hregistered

theorem Changes.registered {effects : List (Effect AccountId)} (h : Changes config s effects s')
    (hregistered : cid ∈ s.communities.communityIdentifiers) :
    cid ∈ s'.communities.communityIdentifiers ∨ .removeCommunity cid ∈ effects := by
  induction h with
  | refl => exact Or.inl hregistered
  | tail _ hchange ih =>
      rcases ih with hmem | hremoved
      · rcases hchange.registered hmem with hmem | hremoved
        · exact Or.inl hmem
        · exact Or.inr (List.mem_append_right _ hremoved)
      · exact Or.inr (List.mem_append_left _ hremoved)

namespace Dispatch

/-- What an action does to the ceremony state of communities. -/
inductive RemovalStep (config : Config AccountId) (s : Runtime AccountId)
    (action : Action AccountId) (s' : Runtime AccountId) : Prop where
  | inside (cid : CommunityIdentifier) (cindex : Nat)
      (registered : cid ∈ s.communities.communityIdentifiers)
      (current : s.scheduler.currentCeremonyIndex ≤ cindex) (opened : cindex ≤ endorsementCindex s)
      (begins : BeginsOnly s.ceremonies s'.ceremonies (cid, cindex))
      (tickets : ∀ cid' a, cid' ≠ cid →
        s'.ceremonies.burnedBootstrapperNewbieTickets.lookup (cid', a) =
          s.ceremonies.burnedBootstrapperNewbieTickets.lookup (cid', a))
      (counters : s'.ceremonies.inactivityCounters = s.ceremonies.inactivityCounters)
      (communities : s'.communities = s.communities) (scheduler : s'.scheduler = s.scheduler)
  | outside (begins : ∀ cc, s.ceremonies.historyAt cc = .empty →
        s'.ceremonies.historyAt cc = .empty)
      (tickets : s'.ceremonies.burnedBootstrapperNewbieTickets =
        s.ceremonies.burnedBootstrapperNewbieTickets)
      (counters : s'.ceremonies.inactivityCounters = s.ceremonies.inactivityCounters)
      (phase : s'.scheduler.currentPhase = s.scheduler.currentPhase)
      (registered : ∀ cid ∈ s.communities.communityIdentifiers,
        cid ∈ s'.communities.communityIdentifiers ∨ action = .purgeCommunity cid)
  | phase (newPhase : CeremonyPhaseType) (h : Enters config s s' newPhase)

omit [DecidableEq AccountId] in
theorem registrationCindex_of_phase (s : Runtime AccountId)
    (h : s.scheduler.currentPhase.isRegisteringOrAttesting = true) :
    s.scheduler.currentCeremonyIndex ≤ registrationCindex s ∧
      registrationCindex s ≤ endorsementCindex s := by
  unfold registrationCindex endorsementCindex
  cases hphase : s.scheduler.currentPhase with
  | registering => simp
  | assigning =>
      rw [hphase] at h
      cases h
  | attesting => simp

/-- A call within one community, without a ticket of a bootstrapper. -/
theorem RemovalStep.of_call {action : Action AccountId}
    (registered : cid ∈ s.communities.communityIdentifiers)
    (current : s.scheduler.currentCeremonyIndex ≤ cindex) (opened : cindex ≤ endorsementCindex s)
    (begins : BeginsOnly s.ceremonies c (cid, cindex)) (ledger : SameLedger s.ceremonies c) :
    RemovalStep config s action { s with ceremonies := c } := by
  have hbegins : BeginsOnly s.ceremonies ({ s with ceremonies := c } : Runtime AccountId).ceremonies
      (cid, cindex) := begins
  refine .inside cid cindex registered current opened hbegins ?_ ledger.inactivityCounters rfl rfl
  intro cid' a _
  exact congrArg (fun tickets => tickets.lookup (cid', a)) ledger.burnedBootstrapperNewbieTickets

theorem dispatchQuiet_removal {action : Action AccountId} (haction : ¬ MayChangePhase action)
    (h : dispatchQuiet config s action = .ok s') : RemovalStep config s action s' := by
  obtain ⟨effects, heffects, hchanges⟩ := dispatchQuiet_changes h
  have hregistered : ∀ cid ∈ s.communities.communityIdentifiers,
      cid ∈ s'.communities.communityIdentifiers ∨ action = .purgeCommunity cid := by
    intro cid hmem
    rcases hchanges.registered hmem with hstays | hremoved
    · exact Or.inl hstays
    · rcases heffects.mayCause hremoved with hpurge | hphase
      · exact Or.inr hpurge
      · exact absurd hphase haction
  cases dispatchQuiet_ceremonies haction h with
  | unregister sender cid maybe c hcall hs =>
      have hbegins := unregisterParticipant_begins hcall
      obtain ⟨hledger, -⟩ := unregisterParticipant_ledger hcall
      obtain ⟨hopen, -⟩ := unregisterParticipant_spec hcall
      simp only [unregisterParticipant, bind_eq_ok, ensure_eq_ok] at hcall
      obtain ⟨-, -, -, hcid, -⟩ := hcall
      obtain ⟨hcurrent, hopened⟩ := registrationCindex_of_phase s hopen
      rw [hs]
      exact .of_call hcid hcurrent hopened hbegins hledger
  | attest sender cid vote attestations c hcall hs =>
      have hbegins := attestAttendees_begins hcall
      obtain ⟨hledger, -⟩ := attestAttendees_ledger hcall
      simp only [attestAttendees, bind_eq_ok, ensure_eq_ok] at hcall
      obtain ⟨-, -, -, -, -, hcid, -⟩ := hcall
      rw [hs]
      exact .of_call hcid le_rfl (endorsementCindex_of_phase (s := s)).1 hbegins hledger
  | purge cc hs =>
      subst hs
      refine .outside ?_ rfl rfl rfl hregistered
      intro cc' hempty
      refine (historyAt_purge _ _ _).trans ?_
      rw [hempty, ite_self]
  | parameters _ historyAt ledger endorsees =>
      exact .outside (fun cc hempty => (historyAt cc).trans hempty)
        ledger.burnedBootstrapperNewbieTickets ledger.inactivityCounters
        (dispatchQuiet_currentPhase haction h) hregistered

theorem Outcome.removal {action : Action AccountId} {observations : List (Observation AccountId)}
    (h : Outcome config s action s' observations) : RemovalStep config s action s' := by
  have hsame (communities : s'.communities = s.communities) (scheduler : s'.scheduler = s.scheduler)
      (ceremonies : s'.ceremonies = s.ceremonies) : RemovalStep config s action s' := by
    refine .outside ?_ (by rw [ceremonies]) (by rw [ceremonies]) (by rw [scheduler]) ?_
    · intro cc hempty
      rw [ceremonies]
      exact hempty
    · intro cid hmem
      rw [communities]
      exact Or.inl hmem
  cases h with
  | register sender cid proof c t haction hcall hs hobs =>
      obtain ⟨hopen, hcid, -, -⟩ := registerParticipant_spec hcall
      obtain ⟨hledger, -, -⟩ := registerParticipant_ledger hcall
      obtain ⟨hcurrent, hopened⟩ := registrationCindex_of_phase s hopen
      rw [hs]
      exact .of_call hcid hcurrent hopened (registerParticipant_begins hcall) hledger
  | upgrade sender cid proof c t haction hcall hs hobs =>
      have hbegins := upgradeRegistration_begins hcall
      obtain ⟨hledger, -, -⟩ := upgradeRegistration_ledger hcall
      simp only [upgradeRegistration, bind_eq_ok, ensure_eq_ok] at hcall
      obtain ⟨-, hcid, -, hopen, -⟩ := hcall
      obtain ⟨hcurrent, hopened⟩ := registrationCindex_of_phase s hopen
      rw [hs]
      exact .of_call hcid hcurrent hopened hbegins hledger
  | endorse sender cid newbie c t haction hcall hs hobs =>
      have hendorses := endorseNewcomer_ledger hcall
      have hbegins := endorseNewcomer_begins hcall
      rw [hs]
      have hbegins' : BeginsOnly s.ceremonies ({ s with ceremonies := c } :
          Runtime AccountId).ceremonies (cid, endorsementCindex s) := hbegins
      refine .inside cid (endorsementCindex s) hendorses.registered
        (endorsementCindex_of_phase (s := s)).1 le_rfl hbegins' ?_ hendorses.inactivityCounters
        rfl rfl
      intro cid' a hcid
      rcases hendorses.burns with hburns | hburns
      · exact congrArg (fun tickets => tickets.lookup (cid', a)) hburns.bootstrapper
      · have hburned := congrArg (fun tickets => tickets.lookup (cid', a)) hburns.bootstrapper
        simp only [StorageMap.lookup_insert_eq, Prod.mk.injEq, hcid, false_and, if_false] at hburned
        exact hburned
  | claim sender cid maybeMeetupIndex claim haction hcall hs hobs =>
      obtain ⟨hledger, -⟩ := claimRewards_ledger hcall
      rw [hs]
      have hbegins : ∀ cc, s.ceremonies.historyAt cc = .empty →
          ({ s with ceremonies := claim.ceremonies, balances := claim.balances } :
            Runtime AccountId).ceremonies.historyAt cc = .empty :=
        fun _ hempty => claimRewards_begins hcall hempty
      exact .outside hbegins hledger.burnedBootstrapperNewbieTickets hledger.inactivityCounters rfl
        fun cid hmem => Or.inl hmem
  | submit proposalAction commitments democracy cindexes haction hcall hcindexes hs hobs =>
      rw [hs] at hsame ⊢
      exact hsame rfl rfl rfl
  | vote sender proposalId vote reputations commitments democracy counted purpose haction hcall
      hpurpose hs hobs =>
      rw [hs] at hsame ⊢
      exact hsame rfl rfl rfl
  | quiet hcall hobs heffects =>
      by_cases hphase : MayChangePhase action
      · rcases mayChangePhase_enters_or_ticks hphase hcall with ⟨newPhase, henters⟩ | hticks
        · exact .phase newPhase henters
        · have hkept := hticks.phase
          obtain ⟨now, blockNumber, scheduler, rfl⟩ := hticks.runtime
          exact .outside (fun _ hempty => hempty) rfl rfl hkept fun cid hmem => Or.inl hmem
      · exact dispatchQuiet_removal hphase hcall

/-- A community that is not registered gets no ceremony state, also when it is registered. -/
theorem RemovalStep.noCeremonyState {action : Action AccountId}
    (h : RemovalStep config s action s') (hcid : cid ∉ s.communities.communityIdentifiers)
    (hnone : NoCeremonyState s.ceremonies cid) : NoCeremonyState s'.ceremonies cid := by
  cases h with
  | inside cid' cindex registered current opened begins tickets counters communities scheduler =>
      have hne : cid ≠ cid' := by
        rintro rfl
        exact hcid registered
      refine ⟨?_, ?_, ?_⟩
      · intro cindex'
        apply begins
        · simp [hne]
        · exact hnone.historyAt cindex'
      · intro a
        rw [tickets cid a hne]
        exact hnone.burnedBootstrapperNewbieTickets a
      · rw [counters]
        exact hnone.inactivityCounter
  | outside begins tickets counters phase registered =>
      refine ⟨fun cindex => begins _ (hnone.historyAt cindex), ?_, ?_⟩
      · rw [tickets]
        exact hnone.burnedBootstrapperNewbieTickets
      · rw [counters]
        exact hnone.inactivityCounter
  | phase newPhase h =>
      have hstarts := h.starts
      cases hstarts with
      | registering hstarts =>
          refine ⟨?_, ?_, ?_⟩
          · intro cindex
            rw [hstarts.historyAt, hnone.historyAt, ite_self]
          · rw [hstarts.burnedBootstrapperNewbieTickets]
            exact hnone.burnedBootstrapperNewbieTickets
          · rw [hstarts.inactivityCounters]
            exact hnone.inactivityCounter
      | assigning counters removed hstarts =>
          have hgone : cid ∉ s'.communities.communityIdentifiers := by
            rw [hstarts.communityIdentifiers]
            exact fun hmem => hcid hmem.1
          refine ⟨?_, ?_, ?_⟩
          · intro cindex
            by_cases hpurged : cid ∈ removed ∧ cindex ∈ cindexesWithinLifetime s'
            · exact hstarts.purged (cid, cindex) hpurged.1 hpurged.2
            · rcases hstarts.kept (cid, cindex) hpurged with hkept | ⟨hmem, -⟩
              · rw [hkept]
                exact hnone.historyAt cindex
              · exact absurd hmem hgone
          · intro a
            rw [hstarts.burnedBootstrapperNewbieTickets, hnone.burnedBootstrapperNewbieTickets,
              ite_self]
          · have hcounter := (updateInactivityCounters_of_not_mem s.ceremonies
              (s'.scheduler.currentCeremonyIndex - 1) s'.ceremonies.inactivityTimeout
              s.ceremonies.inactivityCounters hcid).1
            rw [hstarts.inactive] at hcounter
            rw [hstarts.inactivityCounters, hcounter, hnone.inactivityCounter, ite_self]
      | attesting hceremonies hcommunities =>
          rw [hceremonies]
          exact hnone

end Dispatch

/-! ## Runs -/

namespace Ceremonies

variable {chain : Chain AccountId} {action : Action AccountId} {reputationLifetime : Nat}

/-- Histories of registered communities only, and within the lifetime. -/
structure NoLeftovers (reputationLifetime : Nat) (s : Runtime AccountId) : Prop where
  gone : ∀ cid, cid ∉ s.communities.communityIdentifiers → NoCeremonyState s.ceremonies cid
  recent : ∀ cc, s.ceremonies.historyAt cc ≠ .empty →
    s.scheduler.currentCeremonyIndex ≤ cc.2 + reputationLifetime ∧ cc.2 ≤ endorsementCindex s

def StartsRegistering (config : Config AccountId) (chain : Chain AccountId)
    (action : Action AccountId) : Prop :=
  chain.runtime.scheduler.currentPhase ≠ .registering ∧
    (chain.step config action).runtime.scheduler.currentPhase = .registering

instance (config : Config AccountId) (chain : Chain AccountId) (action : Action AccountId) :
    Decidable (StartsRegistering config chain action) :=
  inferInstanceAs (Decidable (_ ∧ _))

/--
The lifetime stays, the extrinsic of the communities pallet removes only communities
without ceremony state, and no history gets too old but at the start of a registering phase.
-/
structure RemovesCleanly (config : Config AccountId) (reputationLifetime : Nat)
    (chain : Chain AccountId) (action : Action AccountId) : Prop where
  lifetime : chain.runtime.ceremonies.reputationLifetime = reputationLifetime
  lifetime' : (chain.step config action).runtime.ceremonies.reputationLifetime =
    reputationLifetime
  removed : ∀ cid, action = .purgeCommunity cid → NoCeremonyState chain.runtime.ceremonies cid
  inTime : (chain.step config action).runtime.scheduler.currentCeremonyIndex =
      chain.runtime.scheduler.currentCeremonyIndex ∨
    StartsRegistering config chain action ∨
    ∀ cc, chain.runtime.ceremonies.historyAt cc ≠ .empty →
      (chain.step config action).runtime.scheduler.currentCeremonyIndex ≤
        cc.2 + reputationLifetime

/-- The index grows by one when a registering phase starts, and in no other phase change. -/
theorem entered_index {newPhase : CeremonyPhaseType} (h : Enters config s s' newPhase) :
    s'.scheduler.currentCeremonyIndex =
      if newPhase = .registering then s.scheduler.currentCeremonyIndex + 1
      else s.scheduler.currentCeremonyIndex := by
  obtain ⟨-, hnext, t, hscheduler⟩ := h.scheduler
  rw [hscheduler, hnext, Scheduler.entered, Scheduler.startNextCeremony]
  cases s.scheduler.currentPhase <;> rfl

/-- A removal by inactivity covers all that is left of the community. -/
theorem NoLeftovers.noCeremonyState_of_removed (h : NoLeftovers reputationLifetime s)
    {counters : StorageMap CommunityIdentifier Nat} {removed : List CommunityIdentifier}
    (henters : Enters config s s' .assigning) (hstarts : AssigningStarts s s' counters removed)
    (hlifetime : s'.ceremonies.reputationLifetime = reputationLifetime) (hcid : cid ∈ removed) :
    NoCeremonyState s'.ceremonies cid := by
  have hindex := entered_index henters
  have hphase : s.scheduler.currentPhase = .registering := by
    have hnext := henters.scheduler.2.1
    cases hbefore : s.scheduler.currentPhase with
    | registering => rfl
    | assigning =>
        rw [hbefore] at hnext
        cases hnext
    | attesting =>
        rw [hbefore] at hnext
        cases hnext
  have hopen : endorsementCindex s = s.scheduler.currentCeremonyIndex := if_pos hphase
  rw [if_neg (by simp)] at hindex
  refine ⟨?_, ?_, ?_⟩
  · intro cindex
    by_cases hwithin : cindex ∈ cindexesWithinLifetime s'
    · exact hstarts.purged (cid, cindex) hcid hwithin
    · rcases hstarts.kept (cid, cindex) fun hpurged => hwithin hpurged.2 with hkept | ⟨hmem, -⟩
      · rw [hkept]
        by_contra hnonempty
        obtain ⟨hold, hnew⟩ := h.recent (cid, cindex) hnonempty
        rw [mem_cindexesWithinLifetime, hindex, hlifetime] at hwithin
        rw [hopen] at hnew
        exact hwithin ⟨hold, hnew⟩
      · exact absurd hcid ((hstarts.communityIdentifiers cid).1 hmem).2
  · intro a
    rw [hstarts.burnedBootstrapperNewbieTickets, if_pos hcid]
  · rw [hstarts.inactivityCounters, if_pos hcid]

theorem NoLeftovers.gone_step (h : NoLeftovers reputationLifetime chain.runtime)
    (hok : RemovesCleanly config reputationLifetime chain action)
    (hstep : RemovalStep config chain.runtime action (chain.step config action).runtime)
    (hcid : cid ∉ (chain.step config action).runtime.communities.communityIdentifiers) :
    NoCeremonyState (chain.step config action).runtime.ceremonies cid := by
  by_cases hregistered : cid ∈ chain.runtime.communities.communityIdentifiers
  · cases hstep with
    | inside cid' cindex registered current opened begins tickets counters communities scheduler =>
        rw [communities] at hcid
        exact absurd hregistered hcid
    | outside begins tickets counters phase registered =>
        rcases registered cid hregistered with hstays | hremoved
        · exact absurd hstays hcid
        · have hnone := hok.removed cid hremoved
          refine ⟨fun cindex => begins _ (hnone.historyAt cindex), ?_, ?_⟩
          · rw [tickets]
            exact hnone.burnedBootstrapperNewbieTickets
          · rw [counters]
            exact hnone.inactivityCounter
    | phase newPhase henters =>
        have hstarts := henters.starts
        cases hstarts with
        | registering hstarts =>
            rw [hstarts.communities] at hcid
            exact absurd hregistered hcid
        | assigning counters removed hstarts =>
            apply h.noCeremonyState_of_removed henters hstarts hok.lifetime'
            by_contra hkept
            exact hcid ((hstarts.communityIdentifiers cid).2 ⟨hregistered, hkept⟩)
        | attesting hceremonies hcommunities =>
            rw [hcommunities] at hcid
            exact absurd hregistered hcid
  · exact hstep.noCeremonyState hregistered (h.gone cid hregistered)

theorem NoLeftovers.recent_step (h : NoLeftovers reputationLifetime chain.runtime)
    (hok : RemovesCleanly config reputationLifetime chain action)
    (hstep : RemovalStep config chain.runtime action (chain.step config action).runtime)
    {cc : CommunityCeremony}
    (hcc : (chain.step config action).runtime.ceremonies.historyAt cc ≠ .empty) :
    (chain.step config action).runtime.scheduler.currentCeremonyIndex ≤
        cc.2 + reputationLifetime ∧
      cc.2 ≤ endorsementCindex (chain.step config action).runtime := by
  have hopen := endorsementCindex_le (chain.step_time_le config action)
  cases hstep with
  | inside cid cindex registered current opened begins tickets counters communities scheduler =>
      rw [scheduler]
      by_cases hfresh : cc = (cid, cindex)
      · rw [hfresh]
        exact ⟨by omega, opened.trans hopen⟩
      · obtain ⟨hold, hnew⟩ := h.recent cc (mt (begins cc hfresh) hcc)
        exact ⟨hold, hnew.trans hopen⟩
  | outside begins tickets counters phase registered =>
      have hnonempty := mt (begins cc) hcc
      obtain ⟨hold, hnew⟩ := h.recent cc hnonempty
      refine ⟨?_, hnew.trans hopen⟩
      rcases hok.inTime with hindex | ⟨hbefore, hafter⟩ | hrecent
      · rw [hindex]
        exact hold
      · rw [phase] at hafter
        exact absurd hafter hbefore
      · exact hrecent cc hnonempty
  | phase newPhase henters =>
      have hindex := entered_index henters
      have hstarts := henters.starts
      cases hstarts with
      | registering hstarts =>
          rw [if_pos rfl] at hindex
          rw [hstarts.historyAt, hok.lifetime'] at hcc
          split at hcc
          · exact absurd rfl hcc
          · rename_i hkept
            obtain ⟨hold, hnew⟩ := h.recent cc hcc
            refine ⟨?_, hnew.trans hopen⟩
            have hregistered : cc.1 ∈ chain.runtime.communities.communityIdentifiers := by
              by_contra hgone
              exact hcc ((h.gone cc.1 hgone).historyAt cc.2)
            by_contra hlate
            exact hkept ⟨by omega, hregistered, by omega⟩
      | assigning counters removed hstarts =>
          rw [if_neg (by simp)] at hindex
          have hnot : ¬ (cc.1 ∈ removed ∧
              cc.2 ∈ cindexesWithinLifetime (chain.step config action).runtime) :=
            fun hpurged => hcc (hstarts.purged cc hpurged.1 hpurged.2)
          rcases hstarts.kept cc hnot with hkept | ⟨-, hcurrent, -⟩
          · rw [hkept] at hcc
            obtain ⟨hold, hnew⟩ := h.recent cc hcc
            rw [hindex]
            exact ⟨hold, hnew.trans hopen⟩
          · have hcurrent' := (endorsementCindex_of_phase
              (s := (chain.step config action).runtime)).1
            rw [hcurrent]
            exact ⟨by omega, hcurrent'⟩
      | attesting hceremonies hcommunities =>
          rw [if_neg (by simp)] at hindex
          rw [hceremonies] at hcc
          obtain ⟨hold, hnew⟩ := h.recent cc hcc
          rw [hindex]
          exact ⟨hold, hnew.trans hopen⟩

theorem NoLeftovers.step (h : NoLeftovers reputationLifetime chain.runtime)
    (hok : RemovesCleanly config reputationLifetime chain action) :
    NoLeftovers reputationLifetime (chain.step config action).runtime := by
  rcases chain.step_outcome config action with ⟨observations, -, houtcome⟩ | hsame
  · exact ⟨fun _ hcid => h.gone_step hok houtcome.removal hcid,
      fun _ hcc => h.recent_step hok houtcome.removal hcc⟩
  · rw [hsame]
    exact h

/--
A removed community leaves no ceremony state behind, in runs with a constant reputation
lifetime where the extrinsic of the communities pallet removes no community that has some. A
community that is registered, again or for the first time, starts without any.
-/
theorem no_ceremony_state_of_removed (config : Config AccountId) (genesis : GenesisConfig)
    (nativeBalances : StorageMap AccountId Nat)
    (assetBalances : StorageMap (AccountId × AssetKind) Nat) (actions : List (Action AccountId))
    (reputationLifetime : Nat)
    (hok : Machine.Along (Chain.step config) (RemovesCleanly config reputationLifetime)
      (Chain.genesis genesis nativeBalances assetBalances) actions)
    (cid : CommunityIdentifier) :
    let chain := (Chain.genesis genesis nativeBalances assetBalances).run config actions
    (cid ∉ chain.runtime.communities.communityIdentifiers →
      NoCeremonyState chain.runtime.ceremonies cid) ∧
    ∀ action, Registers config cid chain action →
      NoCeremonyState (chain.step config action).runtime.ceremonies cid := by
  intro chain
  have hgenesis : NoLeftovers reputationLifetime
      (Chain.genesis genesis nativeBalances assetBalances).runtime := by
    have hempty (cc : CommunityCeremony) : (Chain.genesis genesis nativeBalances
        assetBalances).runtime.ceremonies.historyAt cc = .empty := by
      unfold CeremoniesStorage.historyAt CeremonyHistory.empty
      congr
      all_goals
        funext t
        cases t <;> rfl
    exact ⟨fun cid _ => ⟨fun cindex => hempty _, fun _ => rfl, rfl⟩,
      fun cc hcc => absurd (hempty cc) hcc⟩
  have hinv : NoLeftovers reputationLifetime chain.runtime :=
    Machine.run_invariant _ (fun chain : Chain AccountId =>
      NoLeftovers reputationLifetime chain.runtime) (fun _ _ h hok => h.step hok) hgenesis hok
  refine ⟨hinv.gone cid, ?_⟩
  intro action hregisters
  have hnone := hinv.gone cid hregisters.1
  rcases chain.step_outcome config action with ⟨observations, -, houtcome⟩ | hsame
  · exact houtcome.removal.noCeremonyState hregisters.1 hnone
  · rw [hsame]
    exact hnone

end Ceremonies

/-! ## A community that is removed by the extrinsic -/

namespace Demo

/-- The community is idle in two ceremonies, with registrations for both, and is purged. -/
def purgedWithRegistrations : List (Action Nat) :=
  [newDay 1, newCommunity island [1, 2, 3], .registerParticipant 1 islanders none, newDay 2, newDay 3,
    newDay 4, .registerParticipant 2 islanders none, newDay 5]

/-- The extrinsic removes the community while a participant is registered. -/
def purgedByExtrinsic : List (Action Nat) :=
  [newDay 1, newCommunity island [1, 2, 3], .registerParticipant 1 islanders none,
    .purgeCommunity islanders]

def isRemoval : Action Nat → Bool
  | .purgeCommunity _ => true
  | _ => false

/-- Removals by inactivity only, and the lifetime covers all indices so far. -/
def removesByInactivity (reputationLifetime : Nat) (chain : Chain Nat) (action : Action Nat) :
    Prop :=
  chain.runtime.ceremonies.reputationLifetime = reputationLifetime ∧
    (chain.step runtimeConfig action).runtime.ceremonies.reputationLifetime =
      reputationLifetime ∧
    isRemoval action = false ∧
    (chain.step runtimeConfig action).runtime.scheduler.currentCeremonyIndex ≤ reputationLifetime

instance (reputationLifetime : Nat) (chain : Chain Nat) (action : Action Nat) :
    Decidable (removesByInactivity reputationLifetime chain action) :=
  inferInstanceAs (Decidable (_ ∧ _ ∧ _ ∧ _))

theorem removesByInactivity.removesCleanly {reputationLifetime : Nat} (chain : Chain Nat)
    (action : Action Nat) (h : removesByInactivity reputationLifetime chain action) :
    RemovesCleanly runtimeConfig reputationLifetime chain action := by
  obtain ⟨hlifetime, hlifetime', hremoval, hindex⟩ := h
  refine ⟨hlifetime, hlifetime', ?_, Or.inr (Or.inr fun cc _ => by omega)⟩
  rintro cid rfl
  cases hremoval

end Demo

theorem Ceremonies.no_ceremony_state_of_removed_purged :
    let chain := Demo.impatient.run Demo.runtimeConfig Demo.purgedWithRegistrations
    Demo.islanders ∉ chain.runtime.communities.communityIdentifiers ∧
      NoCeremonyState chain.runtime.ceremonies Demo.islanders := by
  have hgone : Demo.islanders ∉ (Demo.impatient.run Demo.runtimeConfig
      Demo.purgedWithRegistrations).runtime.communities.communityIdentifiers := by decide +kernel
  have hok : Machine.Along (Chain.step Demo.runtimeConfig) (Demo.removesByInactivity 6)
      Demo.impatient Demo.purgedWithRegistrations := by decide +kernel
  exact ⟨hgone, (Ceremonies.no_ceremony_state_of_removed Demo.runtimeConfig
    { Demo.genesis with inactivityTimeout := 1 } ∅ ∅ Demo.purgedWithRegistrations 6
    (hok.mono Demo.removesByInactivity.removesCleanly) Demo.islanders).1 hgone⟩

/-- The registration outlives the community. -/
theorem Ceremonies.ceremony_state_of_removed :
    let chain := Demo.start.run Demo.runtimeConfig Demo.purgedByExtrinsic
    Machine.Along (Chain.step Demo.runtimeConfig)
        (fun chain action => chain.runtime.ceremonies.reputationLifetime = 6 ∧
          (chain.step Demo.runtimeConfig action).runtime.ceremonies.reputationLifetime = 6)
        Demo.start Demo.purgedByExtrinsic ∧
      Demo.islanders ∉ chain.runtime.communities.communityIdentifiers ∧
      ¬ NoCeremonyState chain.runtime.ceremonies Demo.islanders := by
  refine ⟨by decide +kernel, by decide +kernel, ?_⟩
  intro hnone
  have hcount := congrArg (fun history => history.count .bootstrapper) (hnone.historyAt 1)
  have hregistered : ((Demo.start.run Demo.runtimeConfig
      Demo.purgedByExtrinsic).runtime.ceremonies.historyAt (Demo.islanders, 1)).count
        .bootstrapper = some 1 := by decide +kernel
  rw [hregistered] at hcount
  cases hcount

end Encointer
