import Encointer.Runtime.PhaseChanges

/-!
# Histories of community ceremonies

All that the storage knows about one community ceremony, taken together: a purge
empties this history, and leaves the histories of other ceremonies as they are.
-/

namespace Encointer

open Assignment

@[ext]
structure CeremonyHistory (AccountId : Type) where
  registry : ParticipantType → Nat → Option AccountId
  index : ParticipantType → AccountId → Option Nat
  count : ParticipantType → Option Nat
  burnedReputableNewbieTickets : AccountId → Option Nat
  assignmentCounts : Option AssignmentCount
  assignments : Option CeremonyAssignment
  participantReputation : AccountId → Option Reputation
  reputationCount : Option Nat
  endorsees : AccountId → Option Unit
  endorseesCount : Option Nat
  meetupCount : Option Nat
  attestationRegistry : Nat → Option (List AccountId)
  attestationIndex : AccountId → Option Nat
  attestationCount : Option Nat
  meetupParticipantCountVote : AccountId → Option Nat
  issuedRewards : Nat → Option MeetupResult

def CeremonyHistory.empty {AccountId : Type} : CeremonyHistory AccountId where
  registry := fun _ _ => none
  index := fun _ _ => none
  count := fun _ => none
  burnedReputableNewbieTickets := fun _ => none
  assignmentCounts := none
  assignments := none
  participantReputation := fun _ => none
  reputationCount := none
  endorsees := fun _ => none
  endorseesCount := none
  meetupCount := none
  attestationRegistry := fun _ => none
  attestationIndex := fun _ => none
  attestationCount := none
  meetupParticipantCountVote := fun _ => none
  issuedRewards := fun _ => none

variable {AccountId : Type} [DecidableEq AccountId] {config : Config AccountId}
  {s s' : Runtime AccountId}

def CeremoniesStorage.historyAt (c : CeremoniesStorage AccountId) (cc : CommunityCeremony) :
    CeremonyHistory AccountId where
  registry := fun t n => (c.registry t).registry.lookup (cc, n)
  index := fun t a => (c.registry t).index.lookup (cc, a)
  count := fun t => (c.registry t).count.lookup cc
  burnedReputableNewbieTickets := fun a => c.burnedReputableNewbieTickets.lookup (cc, a)
  assignmentCounts := c.assignmentCounts.lookup cc
  assignments := c.assignments.lookup cc
  participantReputation := fun a => c.participantReputation.lookup (cc, a)
  reputationCount := c.reputationCount.lookup cc
  endorsees := fun a => c.endorsees.lookup (cc, a)
  endorseesCount := c.endorseesCount.lookup cc
  meetupCount := c.meetupCount.lookup cc
  attestationRegistry := fun n => c.attestationRegistry.lookup (cc, n)
  attestationIndex := fun a => c.attestationIndex.lookup (cc, a)
  attestationCount := c.attestationCount.lookup cc
  meetupParticipantCountVote := fun a => c.meetupParticipantCountVote.lookup (cc, a)
  issuedRewards := fun k => c.issuedRewards.lookup (cc, k)

theorem SameStorage.historyAt {c c' : CeremoniesStorage AccountId} (h : SameStorage c c')
    (cc : CommunityCeremony) : c'.historyAt cc = c.historyAt cc := by
  unfold CeremoniesStorage.historyAt
  rw [h.registry, h.burnedReputableNewbieTickets, h.assignmentCounts, h.assignments,
    h.participantReputation, h.reputationCount, h.endorsees, h.endorseesCount, h.meetupCount,
    h.attestationRegistry, h.attestationIndex, h.attestationCount, h.meetupParticipantCountVote,
    h.issuedRewards]

namespace Ceremonies

/-! ## Purges -/

omit [DecidableEq AccountId] in
theorem registry_purge (c : CeremoniesStorage AccountId) (cc : CommunityCeremony)
    (t : ParticipantType) :
    (purgeCommunityCeremonyInternal c cc).registry t = (c.registry t).purge cc := by
  cases t <;> rfl

theorem historyAt_purge (c : CeremoniesStorage AccountId) (cc cc' : CommunityCeremony) :
    (purgeCommunityCeremonyInternal c cc).historyAt cc' =
      if cc' = cc then .empty else c.historyAt cc' := by
  unfold CeremoniesStorage.historyAt
  simp only [registry_purge]
  by_cases hcc : cc' = cc
  · simp [hcc, CeremonyHistory.empty, ParticipantRegistry.purge, purgeCommunityCeremonyInternal,
      StorageMap.lookup_removePrefix, StorageMap.lookup_erase_eq]
  · simp [hcc, ParticipantRegistry.purge, purgeCommunityCeremonyInternal,
      StorageMap.lookup_removePrefix, StorageMap.lookup_erase_eq]

theorem historyAt_purgeAll (ccs : List CommunityCeremony) (c : CeremoniesStorage AccountId)
    (cc : CommunityCeremony) :
    (purgeAll ccs c).historyAt cc = if cc ∈ ccs then .empty else c.historyAt cc := by
  induction ccs generalizing c with
  | nil => simp [purgeAll]
  | cons cc' ccs ih =>
      have hstep := ih (purgeCommunityCeremonyInternal c cc')
      rw [historyAt_purge] at hstep
      refine hstep.trans ?_
      by_cases hcc : cc = cc' <;> by_cases hmem : cc ∈ ccs <;> simp [hcc, hmem]

omit [DecidableEq AccountId] in
theorem purgeAll_frame (ccs : List CommunityCeremony) (c : CeremoniesStorage AccountId) :
    (purgeAll ccs c).burnedBootstrapperNewbieTickets = c.burnedBootstrapperNewbieTickets ∧
      (purgeAll ccs c).inactivityCounters = c.inactivityCounters ∧
      (purgeAll ccs c).inactivityTimeout = c.inactivityTimeout ∧
      (purgeAll ccs c).reputationLifetime = c.reputationLifetime := by
  induction ccs generalizing c with
  | nil => exact ⟨rfl, rfl, rfl, rfl⟩
  | cons cc ccs ih => exact ih (purgeCommunityCeremonyInternal c cc)

/-! ## Removals of inactive communities -/

omit [DecidableEq AccountId] in
private theorem cindexesWithinLifetime_purgeCommunity (s : Runtime AccountId)
    (cid : CommunityIdentifier) :
    cindexesWithinLifetime (purgeCommunity s cid) = cindexesWithinLifetime s := by
  simp [cindexesWithinLifetime, purgeCommunity, (purgeAll_frame _ s.ceremonies).2.2.2]

structure Removed (s s' : Runtime AccountId) (removed : List CommunityIdentifier) : Prop where
  scheduler : s'.scheduler = s.scheduler
  historyAt : ∀ cc, s'.ceremonies.historyAt cc =
    if cc.1 ∈ removed ∧ cc.2 ∈ cindexesWithinLifetime s then .empty else s.ceremonies.historyAt cc
  burnedBootstrapperNewbieTickets : ∀ cid a,
    s'.ceremonies.burnedBootstrapperNewbieTickets.lookup (cid, a) =
      if cid ∈ removed then none else s.ceremonies.burnedBootstrapperNewbieTickets.lookup (cid, a)
  inactivityCounters : ∀ cid, s'.ceremonies.inactivityCounters.lookup cid =
    if cid ∈ removed then none else s.ceremonies.inactivityCounters.lookup cid
  inactivityTimeout : s'.ceremonies.inactivityTimeout = s.ceremonies.inactivityTimeout
  reputationLifetime : s'.ceremonies.reputationLifetime = s.ceremonies.reputationLifetime
  communityIdentifiers : ∀ cid, cid ∈ s'.communities.communityIdentifiers ↔
    cid ∈ s.communities.communityIdentifiers ∧ cid ∉ removed

private theorem removed_purgeCommunity (s : Runtime AccountId) (cid : CommunityIdentifier) :
    Removed s (purgeCommunity s cid) [cid] := by
  have hframe := purgeAll_frame ((cindexesWithinLifetime s).map fun cindex => (cid, cindex))
    s.ceremonies
  constructor
  · rfl
  · intro cc
    have hhistory := historyAt_purgeAll
      ((cindexesWithinLifetime s).map fun cindex => (cid, cindex)) s.ceremonies cc
    refine Eq.trans ?_ (hhistory.trans ?_)
    · rfl
    · obtain ⟨cid', c⟩ := cc
      by_cases hcid : cid' = cid
      · simp [hcid]
      · simp [hcid, Ne.symm hcid]
  · intro cid' a
    simp [purgeCommunity, StorageMap.lookup_removePrefix, hframe.1]
  · intro cid'
    simp [purgeCommunity, StorageMap.lookup_erase_eq, hframe.2.1]
  · exact hframe.2.2.1
  · exact hframe.2.2.2
  · intro cid'
    simp [purgeCommunity, Communities.removeCommunity_communityIdentifiers]

theorem removed_purgeCommunities (removed : List CommunityIdentifier) (s : Runtime AccountId) :
    Removed s (removed.foldl purgeCommunity s) removed := by
  induction removed generalizing s with
  | nil => exact ⟨rfl, by simp, by simp, by simp, rfl, rfl, by simp⟩
  | cons cid removed ih =>
      have hfirst := removed_purgeCommunity s cid
      have hrest := ih (purgeCommunity s cid)
      constructor
      · exact hrest.scheduler
      · intro cc
        refine (hrest.historyAt cc).trans ?_
        rw [hfirst.historyAt, cindexesWithinLifetime_purgeCommunity]
        by_cases hcid : cc.1 = cid <;> by_cases hmem : cc.1 ∈ removed <;>
          by_cases hc : cc.2 ∈ cindexesWithinLifetime s <;> simp [hcid, hmem, hc]
      · intro cid' a
        refine (hrest.burnedBootstrapperNewbieTickets cid' a).trans ?_
        rw [hfirst.burnedBootstrapperNewbieTickets]
        by_cases hcid : cid' = cid <;> by_cases hmem : cid' ∈ removed <;> simp [hcid, hmem]
      · intro cid'
        refine (hrest.inactivityCounters cid').trans ?_
        rw [hfirst.inactivityCounters]
        by_cases hcid : cid' = cid <;> by_cases hmem : cid' ∈ removed <;> simp [hcid, hmem]
      · exact hrest.inactivityTimeout.trans hfirst.inactivityTimeout
      · exact hrest.reputationLifetime.trans hfirst.reputationLifetime
      · intro cid'
        refine (hrest.communityIdentifiers cid').trans ?_
        rw [hfirst.communityIdentifiers]
        simp [and_assoc]

/-! ## Assignments -/

structure Assigned (s s' : Runtime AccountId) (cids : List CommunityIdentifier) (cindex : Nat) :
    Prop where
  runtime : ∃ assignments assignmentCounts meetupCount, s' = { s with
    ceremonies := { s.ceremonies with
      assignments := assignments
      assignmentCounts := assignmentCounts
      meetupCount := meetupCount } }
  elsewhere : ∀ cc, cc ∉ (cids.map fun cid => (cid, cindex)) →
    s'.ceremonies.historyAt cc = s.ceremonies.historyAt cc

theorem generateMeetupAssignmentParamsOf_assigned {cindex : Nat}
    {cids : List CommunityIdentifier} {random : RandomNumberGenerator}
    (h : generateMeetupAssignmentParamsOf config cindex cids s random = .ok s') :
    Assigned s s' cids cindex := by
  induction cids generalizing s random with
  | nil =>
      rw [generateMeetupAssignmentParamsOf, ok_inj] at h
      rw [← h]
      exact ⟨⟨_, _, _, rfl⟩, fun _ _ => rfl⟩
  | cons cid cids ih =>
      have hmono (hrest : Assigned s s' cids cindex) : Assigned s s' (cid :: cids) cindex := by
        refine ⟨hrest.runtime, ?_⟩
        intro cc hnot
        exact hrest.elsewhere cc fun hmem => hnot (List.mem_cons_of_mem _ hmem)
      unfold generateMeetupAssignmentParamsOf at h
      split at h
      · cases h
      · exact hmono (ih h)
      · rename_i c random' hassign
        have hrest := ih h
        rcases generateMeetupAssignmentParams_spec hassign with rfl | ⟨_, _, _, -, -, -, rfl⟩
        · exact hmono hrest
        · obtain ⟨a, b, m, rfl⟩ := hrest.runtime
          refine ⟨⟨a, b, m, rfl⟩, ?_⟩
          intro cc hnot
          rw [List.map_cons, List.mem_cons, not_or] at hnot
          refine (hrest.elsewhere cc hnot.2).trans ?_
          simp only [CeremoniesStorage.historyAt, StorageMap.lookup_insert_eq, if_neg hnot.1]
          rfl

/-! ## Phase changes -/

structure RegisteringStarts (s s' : Runtime AccountId) : Prop where
  historyAt : ∀ cc, s'.ceremonies.historyAt cc =
    if s'.ceremonies.reputationLifetime < s'.scheduler.currentCeremonyIndex ∧
        cc.1 ∈ s.communities.communityIdentifiers ∧
        cc.2 = s'.scheduler.currentCeremonyIndex - s'.ceremonies.reputationLifetime - 1 then
      .empty
    else
      s.ceremonies.historyAt cc
  burnedBootstrapperNewbieTickets : s'.ceremonies.burnedBootstrapperNewbieTickets =
    s.ceremonies.burnedBootstrapperNewbieTickets
  inactivityCounters : s'.ceremonies.inactivityCounters = s.ceremonies.inactivityCounters
  reputationLifetime : s'.ceremonies.reputationLifetime = s.ceremonies.reputationLifetime
  communities : s'.communities = s.communities

structure AssigningStarts (s s' : Runtime AccountId)
    (counters : StorageMap CommunityIdentifier Nat) (removed : List CommunityIdentifier) :
    Prop where
  inactive : updateInactivityCounters s.ceremonies (s'.scheduler.currentCeremonyIndex - 1)
    s'.ceremonies.inactivityTimeout s.communities.communityIdentifiers
    s.ceremonies.inactivityCounters = (counters, removed)
  purged : ∀ cc, cc.1 ∈ removed → cc.2 ∈ cindexesWithinLifetime s' →
    s'.ceremonies.historyAt cc = .empty
  kept : ∀ cc, ¬ (cc.1 ∈ removed ∧ cc.2 ∈ cindexesWithinLifetime s') →
    s'.ceremonies.historyAt cc = s.ceremonies.historyAt cc ∨
      cc.1 ∈ s'.communities.communityIdentifiers ∧
        cc.2 = s'.scheduler.currentCeremonyIndex ∧
        ∃ assignments assignmentCounts meetupCount,
          s'.ceremonies.historyAt cc = { s.ceremonies.historyAt cc with
            assignments := assignments
            assignmentCounts := assignmentCounts
            meetupCount := meetupCount }
  burnedBootstrapperNewbieTickets : ∀ cid a,
    s'.ceremonies.burnedBootstrapperNewbieTickets.lookup (cid, a) =
      if cid ∈ removed then none else s.ceremonies.burnedBootstrapperNewbieTickets.lookup (cid, a)
  inactivityCounters : ∀ cid, s'.ceremonies.inactivityCounters.lookup cid =
    if cid ∈ removed then none else counters.lookup cid
  reputationLifetime : s'.ceremonies.reputationLifetime = s.ceremonies.reputationLifetime
  communityIdentifiers : ∀ cid, cid ∈ s'.communities.communityIdentifiers ↔
    cid ∈ s.communities.communityIdentifiers ∧ cid ∉ removed

inductive PhaseStarts (s s' : Runtime AccountId) : CeremonyPhaseType → Prop where
  | registering (h : RegisteringStarts s s') : PhaseStarts s s' .registering
  | assigning (counters : StorageMap CommunityIdentifier Nat)
      (removed : List CommunityIdentifier) (h : AssigningStarts s s' counters removed) :
      PhaseStarts s s' .assigning
  | attesting (ceremonies : s'.ceremonies = s.ceremonies)
      (communities : s'.communities = s.communities) : PhaseStarts s s' .attesting

omit [DecidableEq AccountId] in
theorem updateInactivityCounters_congr {c c' : CeremoniesStorage AccountId}
    (h : c'.issuedRewards = c.issuedRewards) (cindex inactivityTimeout : Nat)
    (cids : List CommunityIdentifier) (counters : StorageMap CommunityIdentifier Nat) :
    updateInactivityCounters c' cindex inactivityTimeout cids counters =
      updateInactivityCounters c cindex inactivityTimeout cids counters := by
  have hissued (cc : CommunityCeremony) : hasIssuedRewards c' cc = hasIssuedRewards c cc := by
    rw [hasIssuedRewards, h, hasIssuedRewards]
  induction cids generalizing counters with
  | nil => rfl
  | cons cid cids ih => simp [updateInactivityCounters, hissued, ih]

theorem onCeremonyPhaseChange_registering {random : RandomNumberGenerator}
    (h : onCeremonyPhaseChange config random .registering s = .ok s') : RegisteringStarts s s' := by
  simp only [onCeremonyPhaseChange] at h
  split at h
  · rename_i hlifetime
    rw [ok_inj] at h
    obtain ⟨hbootstrapper, hcounters, -, hkept⟩ := purgeAll_frame
      (s.communities.communityIdentifiers.map fun cid =>
        (cid, s.scheduler.currentCeremonyIndex - s.ceremonies.reputationLifetime - 1))
      s.ceremonies
    rw [← h]
    refine ⟨?_, hbootstrapper, hcounters, hkept, rfl⟩
    intro cc
    refine (historyAt_purgeAll _ _ cc).trans ?_
    obtain ⟨cid, c⟩ := cc
    simp [purgeRegistry, hkept, hlifetime, eq_comm]
  · rename_i hlifetime
    rw [ok_inj] at h
    rw [← h]
    refine ⟨?_, rfl, rfl, rfl, rfl⟩
    intro cc
    rw [if_neg fun hpurged => hlifetime hpurged.1]

theorem purgeInactiveCommunities_starts (s : Runtime AccountId) :
    ∃ counters, AssigningStarts s (purgeInactiveCommunities s) counters
      (inactiveCommunities s) := by
  refine ⟨(updateInactivityCounters s.ceremonies (s.scheduler.currentCeremonyIndex - 1)
    s.ceremonies.inactivityTimeout s.communities.communityIdentifiers
    s.ceremonies.inactivityCounters).1, ?_⟩
  have hremoved := removed_purgeCommunities (inactiveCommunities s)
    { s with ceremonies := { s.ceremonies with
      inactivityCounters := (updateInactivityCounters s.ceremonies
        (s.scheduler.currentCeremonyIndex - 1) s.ceremonies.inactivityTimeout
        s.communities.communityIdentifiers s.ceremonies.inactivityCounters).1 } }
  have hwithin : cindexesWithinLifetime (purgeInactiveCommunities s) =
      cindexesWithinLifetime s := by
    have hlifetime : (purgeInactiveCommunities s).ceremonies.reputationLifetime =
        s.ceremonies.reputationLifetime := hremoved.reputationLifetime
    simp [cindexesWithinLifetime, hlifetime, purgeInactiveCommunities_scheduler]
  constructor
  · rw [purgeInactiveCommunities_scheduler]
    exact congrArg (fun t => updateInactivityCounters _ _ t _ _) hremoved.inactivityTimeout
  · intro cc hmem hc
    rw [hwithin] at hc
    exact (hremoved.historyAt cc).trans (if_pos ⟨hmem, hc⟩)
  · intro cc hnot
    rw [hwithin] at hnot
    exact Or.inl ((hremoved.historyAt cc).trans (if_neg hnot))
  · exact hremoved.burnedBootstrapperNewbieTickets
  · exact hremoved.inactivityCounters
  · exact hremoved.reputationLifetime
  · exact hremoved.communityIdentifiers

theorem AssigningStarts.assigned {purged : Runtime AccountId}
    {counters : StorageMap CommunityIdentifier Nat} {removed : List CommunityIdentifier}
    (h : AssigningStarts s purged counters removed)
    (hassigned : Assigned purged s' purged.communities.communityIdentifiers
      purged.scheduler.currentCeremonyIndex) : AssigningStarts s s' counters removed := by
  obtain ⟨⟨a, b, m, rfl⟩, helsewhere⟩ := hassigned
  constructor
  · exact h.inactive
  · intro cc hmem hc
    refine (helsewhere cc ?_).trans (h.purged cc hmem hc)
    intro hassigned
    obtain ⟨cid, hcid, rfl⟩ := List.mem_map.1 hassigned
    exact ((h.communityIdentifiers cid).1 hcid).2 hmem
  · intro cc hnot
    by_cases hassigned : cc ∈ purged.communities.communityIdentifiers.map fun cid =>
        (cid, purged.scheduler.currentCeremonyIndex)
    · right
      obtain ⟨cid, hcid, rfl⟩ := List.mem_map.1 hassigned
      refine ⟨hcid, rfl, a.lookup (cid, purged.scheduler.currentCeremonyIndex),
        b.lookup (cid, purged.scheduler.currentCeremonyIndex),
        m.lookup (cid, purged.scheduler.currentCeremonyIndex), ?_⟩
      rcases h.kept _ hnot with hsame | ⟨-, -, a', b', m', hwritten⟩
      · rw [← hsame]
        rfl
      · have hwritten' := congrArg (fun h : CeremonyHistory AccountId => { h with
          assignments := a.lookup (cid, purged.scheduler.currentCeremonyIndex)
          assignmentCounts := b.lookup (cid, purged.scheduler.currentCeremonyIndex)
          meetupCount := m.lookup (cid, purged.scheduler.currentCeremonyIndex) }) hwritten
        exact hwritten'
    · rw [helsewhere cc hassigned]
      exact h.kept cc hnot
  · exact h.burnedBootstrapperNewbieTickets
  · exact h.inactivityCounters
  · exact h.reputationLifetime
  · exact h.communityIdentifiers

private theorem onCeremonyPhaseChange_assigning {random : RandomNumberGenerator}
    (h : onCeremonyPhaseChange config random .assigning s = .ok s') :
    ∃ counters removed, AssigningStarts s s' counters removed := by
  obtain ⟨counters, hpurged⟩ := purgeInactiveCommunities_starts s
  exact ⟨counters, _, hpurged.assigned (generateMeetupAssignmentParamsOf_assigned h)⟩

theorem onCeremonyPhaseChange_starts {random : RandomNumberGenerator}
    {newPhase : CeremonyPhaseType} (h : onCeremonyPhaseChange config random newPhase s = .ok s') :
    PhaseStarts s s' newPhase := by
  cases newPhase with
  | registering => exact .registering (onCeremonyPhaseChange_registering h)
  | assigning =>
      obtain ⟨counters, removed, hstarts⟩ := onCeremonyPhaseChange_assigning h
      exact .assigning counters removed hstarts
  | attesting =>
      simp only [onCeremonyPhaseChange, ok_inj] at h
      rw [h]
      exact .attesting rfl rfl

theorem PhaseStarts.congr {before : Runtime AccountId} {newPhase : CeremonyPhaseType}
    (h : PhaseStarts s s' newPhase) (hstorage : SameStorage before.ceremonies s.ceremonies)
    (hcids : s.communities.communityIdentifiers = before.communities.communityIdentifiers)
    (hsame : newPhase ≠ .assigning → s.ceremonies = before.ceremonies ∧
      s.communities = before.communities) : PhaseStarts before s' newPhase := by
  have hhistory := hstorage.historyAt
  cases h with
  | registering h =>
      obtain ⟨hceremonies, hcommunities⟩ := hsame (by simp)
      refine .registering ⟨?_, ?_, ?_, ?_, ?_⟩
      · rw [← hceremonies, ← hcids]
        exact h.historyAt
      · rw [← hceremonies]
        exact h.burnedBootstrapperNewbieTickets
      · rw [← hceremonies]
        exact h.inactivityCounters
      · rw [← hceremonies]
        exact h.reputationLifetime
      · rw [← hcommunities]
        exact h.communities
  | assigning counters removed h =>
      refine .assigning counters removed ⟨?_, h.purged, ?_, ?_, h.inactivityCounters, ?_, ?_⟩
      · rw [← hcids, ← hstorage.inactivityCounters,
          ← updateInactivityCounters_congr hstorage.issuedRewards]
        exact h.inactive
      · intro cc hnot
        rw [← hhistory]
        exact h.kept cc hnot
      · rw [← hstorage.burnedBootstrapperNewbieTickets]
        exact h.burnedBootstrapperNewbieTickets
      · rw [← hstorage.reputationLifetime]
        exact h.reputationLifetime
      · rw [← hcids]
        exact h.communityIdentifiers
  | attesting hceremonies hcommunities =>
      obtain ⟨hceremonies', hcommunities'⟩ := hsame (by simp)
      exact .attesting (hceremonies.trans hceremonies') (hcommunities.trans hcommunities')

end Ceremonies

omit [DecidableEq AccountId] in
theorem SameStorage.trans {c c' c'' : CeremoniesStorage AccountId} (h : SameStorage c c')
    (h' : SameStorage c' c'') : SameStorage c c'' where
  toSameRecords := h.toSameRecords.trans h'.toSameRecords
  burnedBootstrapperNewbieTickets :=
    h'.burnedBootstrapperNewbieTickets.trans h.burnedBootstrapperNewbieTickets
  burnedReputableNewbieTickets :=
    h'.burnedReputableNewbieTickets.trans h.burnedReputableNewbieTickets
  endorsees := h'.endorsees.trans h.endorsees
  endorseesCount := h'.endorseesCount.trans h.endorseesCount
  attestationRegistry := h'.attestationRegistry.trans h.attestationRegistry
  attestationIndex := h'.attestationIndex.trans h.attestationIndex
  attestationCount := h'.attestationCount.trans h.attestationCount
  meetupParticipantCountVote :=
    h'.meetupParticipantCountVote.trans h.meetupParticipantCountVote
  inactivityCounters := h'.inactivityCounters.trans h.inactivityCounters
  reputationLifetime := h'.reputationLifetime.trans h.reputationLifetime

namespace Democracy

private theorem keptByActions_sameStorage :
    KeptByActions config fun s s' : Runtime AccountId =>
      SameStorage s.ceremonies s'.ceremonies where
  refl := fun s => .refl s.ceremonies
  trans := fun _ _ _ h h' => h.trans h'
  enact := fun _ action => (enactAction_enacted action).ceremonies
  record := fun s _ _ => .refl s.ceremonies

private theorem onCeremonyPhaseChange_sameStorage {newPhase : CeremonyPhaseType}
    (h : onCeremonyPhaseChange config s newPhase = .ok s') :
    SameStorage s.ceremonies s'.ceremonies ∧ (newPhase ≠ .assigning → s' = s) := by
  cases newPhase with
  | registering =>
      simp only [onCeremonyPhaseChange, ok_inj] at h
      rw [h]
      exact ⟨.refl _, fun _ => rfl⟩
  | assigning =>
      simp only [onCeremonyPhaseChange, bind_eq_ok, ok_inj] at h
      obtain ⟨enacted, henact, rfl⟩ := h
      have hstorage := keptByActions_sameStorage.enactProposals henact
      exact ⟨hstorage, fun h => absurd rfl h⟩
  | attesting =>
      simp only [onCeremonyPhaseChange, ok_inj] at h
      rw [h]
      exact ⟨.refl _, fun _ => rfl⟩

end Democracy

/-- What an action does to the histories that starts a phase. -/
theorem Dispatch.Enters.starts {newPhase : CeremonyPhaseType} (h : Enters config s s' newPhase) :
    Ceremonies.PhaseStarts s s' newPhase := by
  obtain ⟨now, blockNumber, t, random, -, -, hreacted⟩ := h
  obtain ⟨enacted, henact, hceremonies⟩ := onCeremonyPhaseChange_spec hreacted
  obtain ⟨hstorage, hsame⟩ := Democracy.onCeremonyPhaseChange_sameStorage henact
  obtain ⟨hframe, -⟩ := Democracy.onCeremonyPhaseChange_changes henact
  have hstarts := Ceremonies.onCeremonyPhaseChange_starts hceremonies
  refine hstarts.congr hstorage hframe.communityIdentifiers ?_
  intro hphase
  rw [hsame hphase]
  exact ⟨rfl, rfl⟩

end Encointer
