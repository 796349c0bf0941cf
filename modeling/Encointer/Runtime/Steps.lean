import Encointer.Ceremonies.CallSpecs
import Encointer.Runtime.PhaseSpecs

/-!
# The elementary changes of an action
-/

namespace Encointer

variable {AccountId : Type} [DecidableEq AccountId] {config : Config AccountId}

namespace Dispatch

variable {s s' : Runtime AccountId}

/-! ## Phase changes -/

theorem onCeremonyPhaseChange_spec {random : RandomNumberGenerator}
    {newPhase : CeremonyPhaseType} (h : onCeremonyPhaseChange config random newPhase s = .ok s') :
    ∃ enacted, Democracy.onCeremonyPhaseChange config s newPhase = .ok enacted ∧
      Ceremonies.onCeremonyPhaseChange config random newPhase
        { enacted with commitments := Commitments.onCeremonyPhaseChange enacted newPhase } =
        .ok s' := by
  simp only [onCeremonyPhaseChange, bind_eq_ok] at h
  exact h

theorem onCeremonyPhaseChange_changes {random : RandomNumberGenerator}
    {newPhase : CeremonyPhaseType} (hphase : s.scheduler.currentPhase = newPhase)
    (h : onCeremonyPhaseChange config random newPhase s = .ok s') :
    ∃ enacted outcomes assigned,
      Democracy.onCeremonyPhaseChange config s newPhase = .ok enacted ∧
      (newPhase = .assigning → outcomes.length = (Democracy.queued s.democracy).length) ∧
      Changes config s (Democracy.enactmentEffects newPhase s.democracy outcomes ++
        (Ceremonies.phaseEffects newPhase enacted ++
          Ceremonies.assignEffects enacted assigned)) s' := by
  obtain ⟨enacted, henact, hceremonies⟩ := onCeremonyPhaseChange_spec h
  obtain ⟨henacted, outcomes, hlength, hattempts⟩ :=
    Democracy.onCeremonyPhaseChange_changes henact
  rw [← henacted.scheduler] at hphase
  have hsame (hcommitments : Commitments.onCeremonyPhaseChange enacted newPhase =
      enacted.commitments) : ∃ assigned, Changes config s
        (Democracy.enactmentEffects newPhase s.democracy outcomes ++
          (Ceremonies.phaseEffects newPhase enacted ++
            Ceremonies.assignEffects enacted assigned)) s' := by
    rw [hcommitments] at hceremonies
    obtain ⟨assigned, hchanges⟩ := Ceremonies.onCeremonyPhaseChange_changes hphase hceremonies
    exact ⟨assigned, hattempts.trans hchanges⟩
  cases newPhase with
  | assigning =>
      obtain ⟨assigned, hchanges⟩ := hsame rfl
      exact ⟨enacted, outcomes, assigned, henact, hlength, hchanges⟩
  | attesting =>
      obtain ⟨assigned, hchanges⟩ := hsame rfl
      exact ⟨enacted, outcomes, assigned, henact, hlength, hchanges⟩
  | registering =>
      by_cases hlifetime : enacted.ceremonies.reputationLifetime <
          enacted.scheduler.currentCeremonyIndex
      · refine ⟨enacted, outcomes, [], henact, hlength, ?_⟩
        simp only [Ceremonies.onCeremonyPhaseChange, Commitments.onCeremonyPhaseChange,
          if_pos hlifetime, ok_inj] at hceremonies
        simp only [Ceremonies.phaseEffects, if_pos hlifetime, Ceremonies.assignEffects,
          List.map_nil, List.append_nil]
        have hpurge : Changes config s _ _ := hattempts.trans (Ceremonies.purgeAll_changes
          (enacted.communities.communityIdentifiers.map fun cid =>
            (cid, enacted.scheduler.currentCeremonyIndex - enacted.ceremonies.reputationLifetime - 1))
          enacted)
        rw [List.map_map] at hpurge
        rw [← hceremonies]
        refine hpurge.silent (.forgetCommitments
          (enacted.scheduler.currentCeremonyIndex - enacted.ceremonies.reputationLifetime - 1) ?_)
        intro cid hcid
        obtain ⟨hmeetupCount, hreputation⟩ :=
          Ceremonies.purgeAll_gone (c := enacted.ceremonies) (Or.inl (List.mem_map_of_mem hcid))
        refine ⟨?_, hmeetupCount, hreputation⟩
        simp only [SchedulerStorage.time, hphase, CeremonyPhaseType.rank]
        omega
      · obtain ⟨assigned, hchanges⟩ := hsame (if_neg hlifetime)
        exact ⟨enacted, outcomes, assigned, henact, hlength, hchanges⟩

/--
The effects of a possible phase change. Proposals are enacted first; histories
are purged, and meetups are assigned, in the state with enacted proposals.
-/
inductive PhaseEffects (config : Config AccountId) (s : Runtime AccountId) :
    List (Effect AccountId) → Prop where
  | none : PhaseEffects config s []
  | clock : PhaseEffects config s [.clock]
  | changed (nextPhaseTimestamp : Nat) (enacted : Runtime AccountId)
      (outcomes : List Bool) (assigned : List CommunityIdentifier)
      (synced : Scheduler.resync (Scheduler.getCycleDuration s.scheduler) s.now
        (s.scheduler.nextPhaseTimestamp +
          s.scheduler.phaseDurations.get (Scheduler.nextPhaseOf s.scheduler.currentPhase) 0) =
        .ok nextPhaseTimestamp)
      (h : Democracy.onCeremonyPhaseChange config
        { s with scheduler := Scheduler.entered s nextPhaseTimestamp }
        (Scheduler.nextPhaseOf s.scheduler.currentPhase) = .ok enacted)
      (attempted : Scheduler.nextPhaseOf s.scheduler.currentPhase = .assigning →
        outcomes.length = (Democracy.queued s.democracy).length) :
      PhaseEffects config s (.clock ::
        (Democracy.enactmentEffects (Scheduler.nextPhaseOf s.scheduler.currentPhase) s.democracy
            outcomes ++
          (Ceremonies.phaseEffects (Scheduler.nextPhaseOf s.scheduler.currentPhase) enacted ++
            Ceremonies.assignEffects enacted assigned)))

theorem progressPhase_changes {random : RandomNumberGenerator}
    {result : Except DispatchError Unit}
    (h : Scheduler.progressPhase (onCeremonyPhaseChange config random) s = (s', result)) :
    ∃ effects, PhaseEffects config s effects ∧ Changes config s effects s' := by
  have hentered (t : Nat) :
      Changes config s [.clock] { s with scheduler := Scheduler.entered s t } :=
    Scheduler.changes_scheduler _ (Scheduler.time_le_entered s t)
  rcases Scheduler.progressPhase_spec h with ⟨rfl, -⟩ | ⟨t, ht, hcallback⟩
  · refine ⟨_, .clock, ?_⟩
    rw [Scheduler.startNextCeremony_eq]
    exact Scheduler.changes_scheduler _ (Scheduler.startNextCeremony_time_le s)
  · rcases hcallback with ⟨e, -, rfl, -⟩ | ⟨hok, -⟩
    · exact ⟨_, .clock, hentered t⟩
    · obtain ⟨enacted, outcomes, assigned, henact, hlength, hchanges⟩ :=
        onCeremonyPhaseChange_changes rfl hok
      exact ⟨_, .changed t enacted outcomes assigned ht henact hlength,
        (hentered t).trans hchanges⟩

/-- A phase change is due, unless this is the first block. -/
def phaseDue (s : Runtime AccountId) : Prop :=
  s.scheduler.nextPhaseTimestamp ≠ 0 ∧ s.scheduler.nextPhaseTimestamp < s.now

instance (s : Runtime AccountId) : Decidable (phaseDue s) :=
  inferInstanceAs (Decidable (_ ∧ _))

/-- The effects of a time stamp: those of a phase change, when one is due. -/
def TimestampEffects (config : Config AccountId) (s : Runtime AccountId)
    (effects : List (Effect AccountId)) : Prop :=
  effects = [] ∨ effects = [.clock] ∨ phaseDue s ∧ PhaseEffects config s effects

private theorem startFirstCycle_changes (s : Runtime AccountId) :
    ∃ effects, TimestampEffects config s effects ∧
      Changes config s effects (Scheduler.startFirstCycle config s) := by
  unfold Scheduler.startFirstCycle
  simp only
  split
  · rename_i synced hsync
    obtain ⟨t, -, rfl⟩ := Scheduler.resyncAndSetNextPhaseTimestamp_spec hsync
    refine ⟨_, Or.inr (Or.inl rfl), ?_⟩
    split
    · apply Scheduler.changes_scheduler
      simp only [SchedulerStorage.time]
      omega
    · exact Scheduler.changes_scheduler _ le_rfl
  · split
    · refine ⟨_, Or.inr (Or.inl rfl), ?_⟩
      apply Scheduler.changes_scheduler
      simp only [SchedulerStorage.time]
      omega
    · exact ⟨_, Or.inl rfl, .refl⟩

private theorem onTimestampSet_changes {random : RandomNumberGenerator}
    (h : Scheduler.onTimestampSet config (onCeremonyPhaseChange config random) s = .ok s') :
    ∃ effects, TimestampEffects config s effects ∧ Changes config s effects s' := by
  unfold Scheduler.onTimestampSet at h
  split at h
  · simp only [ite_eq_ok, error_ne_ok, and_false, false_or, ok_inj] at h
    rw [← h.2]
    exact startFirstCycle_changes s
  · rename_i hstarted
    split at h
    · rename_i hdue
      split at h
      · exact absurd h (by simp)
      · rename_i progressed result _ hprogress
        rw [ok_inj] at h
        rw [← h]
        obtain ⟨effects, hphase, hchanges⟩ := progressPhase_changes hprogress
        exact ⟨effects, Or.inr (Or.inr ⟨⟨hstarted, hdue⟩, hphase⟩), hchanges⟩
    · rw [ok_inj] at h
      rw [h]
      exact ⟨[], Or.inl rfl, .refl⟩

theorem beginBlock_spec {now : Nat} {random : RandomNumberGenerator}
    (h : beginBlock config s now random = .ok s') :
    s.now ≤ now ∧ Scheduler.onTimestampSet config (onCeremonyPhaseChange config random)
      { s with now := now, blockNumber := s.blockNumber + 1 } = .ok s' := by
  simp only [beginBlock, bind_eq_ok, ensure_eq_ok, exists_const] at h
  exact h

theorem beginBlock_changes {now : Nat} {random : RandomNumberGenerator}
    (h : beginBlock config s now random = .ok s') :
    ∃ effects, TimestampEffects config { s with now := now, blockNumber := s.blockNumber + 1 }
      effects ∧ Changes config s (.clock :: effects) s' := by
  obtain ⟨-, hset⟩ := beginBlock_spec h
  obtain ⟨effects, hphase, hchanges⟩ := onTimestampSet_changes hset
  have hclock : Change config s _ { s with now := now, blockNumber := s.blockNumber + 1 } :=
    .clock now (s.blockNumber + 1) s.scheduler le_rfl
  exact ⟨effects, hphase, hclock.changes.trans hchanges⟩

/-! ## Quiet actions -/

/-- The effects that a quiet action may have. -/
def QuietEffects (config : Config AccountId) (s : Runtime AccountId) (action : Action AccountId)
    (effects : List (Effect AccountId)) : Prop :=
  match action with
  | .beginBlock now _ =>
      ∃ timestampEffects, effects = .clock :: timestampEffects ∧ TimestampEffects config
        { s with now := now, blockNumber := s.blockNumber + 1 } timestampEffects
  | .pushByOneDay | .setPhaseDuration .. | .setNextPhaseTimestamp _ => effects = [.clock]
  | .nextPhase _ => PhaseEffects config s effects
  | .newCommunity location bootstrappers _ _ _ =>
      ∃ cid, Communities.newCommunityIdentifier config location bootstrappers = some cid ∧
        effects = [.newCommunity cid]
  | .purgeCommunity cid => effects = [.removeCommunity cid]
  | .purgeCommunityCeremony cc => effects = [.purge cc]
  | .setReputationLifetime reputationLifetime =>
      effects = [.setReputationLifetime reputationLifetime]
  | .unregisterParticipant sender cid maybe =>
      ∃ refund, Ceremonies.RefundEffects s sender cid maybe refund ∧
        effects = refund ++ [.remove (cid, Ceremonies.registrationCindex s) sender]
  | .updateProposalState proposalId => effects = [.update proposalId]
  | .registerPurpose _ | .createFaucet .. =>
      effects = [.registerPurpose s.commitments.currentPurposeId]
  | .commitReputation sender cid cindex purpose _ =>
      effects = [.commit (cid, cindex) purpose sender]
  | .drip sender faucetAccount cid cindex =>
      ∃ faucet, s.faucet.faucets.lookup faucetAccount = some faucet ∧
        effects = [.commit (cid, cindex) faucet.purposeId sender]
  | _ => effects = []

theorem quiet_of_ok {action : Action AccountId} {after : Runtime AccountId}
    {effects : List (Effect AccountId)}
    (h : (.ok after : Except DispatchError (Runtime AccountId)) = .ok s')
    (heffects : QuietEffects config s action effects) (hchanges : Changes config s effects after) :
    ∃ effects, QuietEffects config s action effects ∧ Changes config s effects s' := by
  rw [ok_inj] at h
  rw [← h]
  exact ⟨effects, heffects, hchanges⟩

theorem newCommunity_changes {location : Location} {bootstrappers : List AccountId}
    {metadata : CommunityMetadata} {demurrage : Option Demurrage} {nominalIncome : Option Nat}
    {communities : CommunitiesStorage AccountId} {balances : BalancesStorage AccountId}
    (h : Communities.newCommunity config s location bootstrappers metadata demurrage
      nominalIncome = .ok (communities, balances)) :
    ∃ cid, Communities.newCommunityIdentifier config location bootstrappers = some cid ∧
      Changes config s [.newCommunity cid]
        { s with communities := communities, balances := balances } := by
  obtain ⟨cid, hidentifier, -, -⟩ := Communities.newCommunity_spec h
  exact ⟨cid, hidentifier, (Change.newCommunity location bootstrappers metadata demurrage
    nominalIncome communities balances cid hidentifier h).changes⟩

theorem addLocation_changes {cid : CommunityIdentifier} {location : Location}
    {communities : CommunitiesStorage AccountId}
    (h : Communities.addLocation config s cid location = .ok communities) :
    Changes config s [] { s with communities := communities } := by
  simp only [Communities.addLocation, bind_eq_ok] at h
  obtain ⟨-, -, hadd⟩ := h
  obtain ⟨-, rfl⟩ := transactional_eq_ok.1 hadd
  exact (Change.communities _ (.addLocation cid location)).changes

theorem removeLocation_changes {cid : CommunityIdentifier} {location : Location}
    {communities : CommunitiesStorage AccountId}
    (h : Communities.removeLocation config s cid location = .ok communities) :
    Changes config s [] { s with communities := communities } := by
  simp only [Communities.removeLocation, bind_eq_ok] at h
  obtain ⟨-, -, hremove⟩ := h
  exact (Change.communities _ (.removeLocation cid location communities hremove)).changes

theorem registerPurpose_changes {descriptor : PalletString}
    {commitments : CommitmentsStorage AccountId}
    (h : Commitments.registerPurpose s descriptor = .ok commitments) :
    Changes config s [.registerPurpose s.commitments.currentPurposeId]
      { s with commitments := commitments } := by
  simp only [Commitments.registerPurpose, bind_eq_ok, ok_inj] at h
  obtain ⟨-, -, ⟨commitments, purpose⟩, hdo, rfl⟩ := h
  have hregistered : Change config s _ _ := .registerPurpose descriptor commitments purpose hdo
  rw [(Commitments.doRegisterPurpose_spec hdo).1] at hregistered
  exact hregistered.changes

theorem createFaucet_changes {sender : AccountId} {name : PalletString} {amount : Nat}
    {whitelist : Option (List CommunityIdentifier)} {dripAmount : Nat}
    {commitments : CommitmentsStorage AccountId} {treasuries : TreasuriesStorage AccountId}
    {faucet : FaucetStorage AccountId}
    (h : Faucet.createFaucet config s sender name amount whitelist dripAmount =
      .ok (commitments, treasuries, faucet)) :
    Changes config s [.registerPurpose s.commitments.currentPurposeId]
      { s with commitments := commitments, treasuries := treasuries, faucet := faucet } := by
  simp only [Faucet.createFaucet, bind_eq_ok, ok_inj, Prod.mk.injEq] at h
  obtain ⟨-, -, -, -, -, -, -, -, -, -, -, -, -, -, -, -, ⟨commitments, purpose⟩, hdo, rfl, rfl,
    rfl⟩ := h
  have hregistered : Change config s _ _ :=
    .registerPurpose (config.faucetPalletId.toList ++ name) commitments purpose hdo
  rw [(Commitments.doRegisterPurpose_spec hdo).1] at hregistered
  exact (hregistered.changes.silent (.treasuries _)).silent (.faucet _)

theorem drip_changes {sender faucetAccount : AccountId} {cid : CommunityIdentifier} {cindex : Nat}
    {commitments : CommitmentsStorage AccountId} {treasuries : TreasuriesStorage AccountId}
    (h : Faucet.drip config s sender faucetAccount cid cindex = .ok (commitments, treasuries)) :
    ∃ faucet, s.faucet.faucets.lookup faucetAccount = some faucet ∧
      Changes config s [.commit (cid, cindex) faucet.purposeId sender]
        { s with commitments := commitments, treasuries := treasuries } := by
  simp only [Faucet.drip, bind_eq_ok, okOr_eq_ok, ok_inj, Prod.mk.injEq] at h
  obtain ⟨faucet, hfaucet, -, -, commitments, hcommit, -, -, rfl, rfl⟩ := h
  have hcommitted : Change config s _ _ :=
    .commit sender cid cindex faucet.purposeId none commitments hcommit
  exact ⟨faucet, hfaucet, hcommitted.changes.silent (.treasuries _)⟩

theorem dispatchQuiet_changes {action : Action AccountId}
    (h : dispatchQuiet config s action = .ok s') :
    ∃ effects, QuietEffects config s action effects ∧ Changes config s effects s' := by
  cases action with
  | beginBlock now random =>
      obtain ⟨effects, heffects, hchanges⟩ := beginBlock_changes h
      exact ⟨_, ⟨effects, rfl, heffects⟩, hchanges⟩
  | nextPhase random =>
      obtain ⟨⟨⟨⟩, hresult⟩, hstate⟩ := transactional_eq_ok.1 h
      exact progressPhase_changes (Prod.ext hstate hresult)
  | pushByOneDay => exact quiet_of_ok h rfl (Scheduler.changes_scheduler _ le_rfl)
  | setPhaseDuration ceremonyPhase duration =>
      exact quiet_of_ok h rfl (Scheduler.changes_scheduler _ le_rfl)
  | setNextPhaseTimestamp timestamp =>
      exact quiet_of_ok h rfl (Scheduler.changes_scheduler _ le_rfl)
  | transfer sender dest cid amount =>
      simp only [dispatchQuiet, bind_eq_ok, ok_inj] at h
      obtain ⟨balances, -, rfl⟩ := h
      exact ⟨_, rfl, (Change.balances balances).changes⟩
  | transferAll sender dest cid =>
      simp only [dispatchQuiet, bind_eq_ok, ok_inj] at h
      obtain ⟨balances, -, rfl⟩ := h
      exact ⟨_, rfl, (Change.balances balances).changes⟩
  | newCommunity location bootstrappers metadata demurrage nominalIncome =>
      simp only [dispatchQuiet, bind_eq_ok, ok_inj] at h
      obtain ⟨⟨communities, balances⟩, hnew, rfl⟩ := h
      obtain ⟨cid, hidentifier, hchanges⟩ := newCommunity_changes hnew
      exact ⟨_, ⟨cid, hidentifier, rfl⟩, hchanges⟩
  | addLocation cid location =>
      simp only [dispatchQuiet, bind_eq_ok, ok_inj] at h
      obtain ⟨communities, hadd, rfl⟩ := h
      exact ⟨_, rfl, addLocation_changes hadd⟩
  | removeLocation cid location =>
      simp only [dispatchQuiet, bind_eq_ok, ok_inj] at h
      obtain ⟨communities, hremove, rfl⟩ := h
      exact ⟨_, rfl, removeLocation_changes hremove⟩
  | updateCommunityMetadata cid metadata =>
      simp only [dispatchQuiet, bind_eq_ok, ok_inj] at h
      obtain ⟨communities, hupdate, rfl⟩ := h
      exact ⟨_, rfl, (Change.communities _
        (Communities.doUpdateCommunityMetadata_change hupdate)).changes⟩
  | updateDemurrage cid demurrage =>
      simp only [dispatchQuiet, bind_eq_ok, ok_inj] at h
      obtain ⟨balances, -, rfl⟩ := h
      exact ⟨_, rfl, (Change.balances balances).changes⟩
  | updateNominalIncome cid nominalIncome =>
      simp only [dispatchQuiet, bind_eq_ok, ok_inj] at h
      obtain ⟨communities, hupdate, rfl⟩ := h
      exact ⟨_, rfl, (Change.communities _
        (Communities.doUpdateNominalIncome_change hupdate)).changes⟩
  | setMinSolarTripTimeS minSolarTripTimeS =>
      exact quiet_of_ok h rfl (Change.communities (Communities.setMinSolarTripTimeS s minSolarTripTimeS)
        (.records _ rfl rfl rfl rfl)).changes
  | setMaxSpeedMps maxSpeedMps =>
      exact quiet_of_ok h rfl (Change.communities (Communities.setMaxSpeedMps s maxSpeedMps)
        (.records _ rfl rfl rfl rfl)).changes
  | purgeCommunity cid =>
      exact quiet_of_ok h rfl ((Change.removeCommunity cid).changes.silent (.balances _))
  | unregisterParticipant sender cid maybe =>
      simp only [dispatchQuiet, bind_eq_ok, ok_inj] at h
      obtain ⟨ceremonies, hunregister, rfl⟩ := h
      obtain ⟨refund, hrefund, hchanges⟩ := Ceremonies.unregisterParticipant_changes hunregister
      exact ⟨_, ⟨refund, hrefund, rfl⟩, hchanges⟩
  | attestAttendees sender cid vote attestations =>
      simp only [dispatchQuiet, bind_eq_ok, ok_inj] at h
      obtain ⟨ceremonies, hattest, rfl⟩ := h
      exact ⟨_, rfl, Ceremonies.attestAttendees_changes hattest⟩
  | setInactivityTimeout inactivityTimeout =>
      exact quiet_of_ok h rfl (changes_of_sameStorage (.parameters _ _ _ _ _ _ _ _))
  | setEndorsementTicketsPerBootstrapper tickets =>
      exact quiet_of_ok h rfl (changes_of_sameStorage (.parameters _ _ _ _ _ _ _ _))
  | setEndorsementTicketsPerReputable tickets =>
      exact quiet_of_ok h rfl (changes_of_sameStorage (.parameters _ _ _ _ _ _ _ _))
  | setReputationLifetime reputationLifetime =>
      exact quiet_of_ok h rfl (Change.setReputationLifetime reputationLifetime).changes
  | setMeetupTimeOffset meetupTimeOffset =>
      simp only [dispatchQuiet, Ceremonies.setMeetupTimeOffset, bind_eq_ok, ok_inj] at h
      obtain ⟨ceremonies, ⟨-, -, -, -, rfl⟩, rfl⟩ := h
      exact ⟨_, rfl, changes_of_sameStorage (.parameters _ _ _ _ _ _ _ _)⟩
  | setTimeTolerance timeTolerance =>
      exact quiet_of_ok h rfl (changes_of_sameStorage (.parameters _ _ _ _ _ _ _ _))
  | setLocationTolerance locationTolerance =>
      exact quiet_of_ok h rfl (changes_of_sameStorage (.parameters _ _ _ _ _ _ _ _))
  | purgeCommunityCeremony cc => exact quiet_of_ok h rfl (Change.purge cc).changes
  | registerPurpose descriptor =>
      simp only [dispatchQuiet, bind_eq_ok, ok_inj] at h
      obtain ⟨commitments, hregister, rfl⟩ := h
      exact ⟨_, rfl, registerPurpose_changes hregister⟩
  | commitReputation sender cid cindex purpose commitmentHash =>
      simp only [dispatchQuiet, bind_eq_ok, ok_inj] at h
      obtain ⟨commitments, hcommit, rfl⟩ := h
      have hcommitted : Change config s _ _ :=
        .commit sender cid cindex purpose commitmentHash commitments hcommit
      exact ⟨_, rfl, hcommitted.changes⟩
  | swapNative sender cid desiredNativeAmount =>
      simp only [dispatchQuiet, bind_eq_ok, ok_inj] at h
      obtain ⟨⟨treasuries, balances⟩, -, rfl⟩ := h
      exact ⟨_, rfl, (Change.treasuries treasuries).changes.silent (.balances balances)⟩
  | swapAsset sender cid desiredAssetAmount =>
      simp only [dispatchQuiet, bind_eq_ok, ok_inj] at h
      obtain ⟨⟨treasuries, balances⟩, -, rfl⟩ := h
      exact ⟨_, rfl, (Change.treasuries treasuries).changes.silent (.balances balances)⟩
  | updateProposalState proposalId =>
      simp only [dispatchQuiet, bind_eq_ok, ok_inj] at h
      obtain ⟨democracy, hupdate, rfl⟩ := h
      exact ⟨_, rfl, (Change.update proposalId democracy hupdate).changes⟩
  | createFaucet sender name amount whitelist dripAmount =>
      simp only [dispatchQuiet, bind_eq_ok, ok_inj] at h
      obtain ⟨⟨commitments, treasuries, faucet⟩, hcreate, rfl⟩ := h
      exact ⟨_, rfl, createFaucet_changes hcreate⟩
  | drip sender faucetAccount cid cindex =>
      simp only [dispatchQuiet, bind_eq_ok, ok_inj] at h
      obtain ⟨⟨commitments, treasuries⟩, hdrip, rfl⟩ := h
      obtain ⟨faucet, hfaucet, hchanges⟩ := drip_changes hdrip
      exact ⟨_, ⟨faucet, hfaucet, rfl⟩, hchanges⟩
  | dissolveFaucet faucetAccount beneficiary =>
      simp only [dispatchQuiet, bind_eq_ok, ok_inj] at h
      obtain ⟨⟨treasuries, faucet⟩, -, rfl⟩ := h
      exact ⟨_, rfl, (Change.treasuries treasuries).changes.silent (.faucet faucet)⟩
  | closeFaucet sender faucetAccount =>
      simp only [dispatchQuiet, bind_eq_ok, ok_inj] at h
      obtain ⟨⟨treasuries, faucet⟩, -, rfl⟩ := h
      exact ⟨_, rfl, (Change.treasuries treasuries).changes.silent (.faucet faucet)⟩
  | setReserveAmount reserveAmount => exact quiet_of_ok h rfl (Change.faucet _).changes
  | submitProposal action => exact quiet_of_ok h rfl .refl
  | registerParticipant sender cid proof => exact quiet_of_ok h rfl .refl
  | upgradeRegistration sender cid proof => exact quiet_of_ok h rfl .refl
  | endorseNewcomer sender cid newbie => exact quiet_of_ok h rfl .refl
  | claimRewards sender cid maybeMeetupIndex => exact quiet_of_ok h rfl .refl
  | vote sender proposalId vote reputations => exact quiet_of_ok h rfl .refl

/-! ## All actions -/

/-- The effects and observations of an action other than a claim. -/
def ActionEffects (config : Config AccountId) (s : Runtime AccountId) (action : Action AccountId)
    (observations : List (Observation AccountId)) (effects : List (Effect AccountId)) : Prop :=
  match action with
  | .registerParticipant sender cid proof =>
      ∃ t, (t = .reputable → proof.isSome = true) ∧
        effects = Ceremonies.linkEffects (cid, Ceremonies.registrationCindex s) sender proof ++
          [.add t (cid, Ceremonies.registrationCindex s) sender] ∧
        observations = [.registered (cid, Ceremonies.registrationCindex s) sender t
          (proof.map provenReputation)]
  | .upgradeRegistration sender cid proof =>
      ∃ t, effects = [.remove (cid, Ceremonies.registrationCindex s) sender,
          .link (cid, Ceremonies.registrationCindex s) sender (provenReputation proof),
          .add t (cid, Ceremonies.registrationCindex s) sender] ∧
        observations = [.registered (cid, Ceremonies.registrationCindex s) sender t
          (some (provenReputation proof))]
  | .endorseNewcomer sender cid newbie =>
      ∃ (ticket : Effect AccountId) (t : Option ParticipantType), t ≠ some .reputable ∧
        Ceremonies.TicketEffect (cid, Ceremonies.endorsementCindex s) sender ticket ∧
        effects = [ticket, .endorse (cid, Ceremonies.endorsementCindex s) newbie] ++
          Ceremonies.reregisterEffects (cid, Ceremonies.endorsementCindex s) newbie t ∧
        observations = .endorsed (cid, Ceremonies.endorsementCindex s) sender newbie ::
          t.toList.map fun t => .registered (cid, Ceremonies.endorsementCindex s) newbie t none
  | .submitProposal _ =>
      ∃ proposalId cindexes, effects = [.submit proposalId] ∧
        Democracy.votingCindexes config s s.scheduler.currentCeremonyIndex = .ok cindexes ∧
        observations = [.purposeRegistered s.commitments.currentPurposeId,
          .submitted proposalId cindexes]
  | .vote sender proposalId _ _ =>
      ∃ (counted : List CommunityCeremony) (purpose : Nat),
        effects = [.vote proposalId sender counted] ∧
        s.democracy.purposeIds.lookup proposalId = some purpose ∧
        observations = (counted.map fun cc => .counted proposalId sender cc) ++
          counted.map fun cc => .committed cc purpose sender
  | action =>
      QuietEffects config s action effects ∧ observations = commitmentObservations s action

private theorem commitmentObservations_not_credited (action : Action AccountId)
    (cc : CommunityCeremony)
    (k : Nat) (a : AccountId) : Observation.credited cc k a ∉ commitmentObservations s action := by
  unfold commitmentObservations
  split <;> simp

theorem ActionEffects.not_credited {action : Action AccountId}
    {observations : List (Observation AccountId)} {effects : List (Effect AccountId)}
    (h : ActionEffects config s action observations effects) (cc : CommunityCeremony) (k : Nat)
    (a : AccountId) : Observation.credited cc k a ∉ observations := by
  unfold ActionEffects at h
  split at h
  · obtain ⟨t, -, -, rfl⟩ := h
    simp
  · obtain ⟨t, -, rfl⟩ := h
    simp
  · obtain ⟨ticket, t, -, -, -, rfl⟩ := h
    simp
  · obtain ⟨proposalId, cindexes, -, -, rfl⟩ := h
    simp
  · obtain ⟨counted, purpose, -, -, rfl⟩ := h
    simp
  · rw [h.2]
    exact commitmentObservations_not_credited action cc k a

/-! ## The actions behind an effect -/

/-- The actions that may start a new phase. -/
def MayChangePhase : Action AccountId → Prop
  | .beginBlock .. | .nextPhase _ => True
  | _ => False

/-- The actions that may write the time or the scheduler. -/
def MayMoveClock : Action AccountId → Prop
  | .beginBlock .. | .nextPhase _ | .pushByOneDay | .setPhaseDuration .. |
    .setNextPhaseTimestamp _ => True
  | _ => False

/-- The actions that may register the account. -/
def MayRegister (account : AccountId) : Action AccountId → Prop
  | .registerParticipant sender _ _ | .upgradeRegistration sender _ _ => sender = account
  | .endorseNewcomer _ _ newbie => newbie = account
  | _ => False

/-- The actions that may have the effect. -/
def MayCause (s : Runtime AccountId) (action : Action AccountId) : Effect AccountId → Prop
  | .clock => MayMoveClock action
  | .remove .. => True
  | .newCommunity _ => ∃ location bootstrappers metadata demurrage nominalIncome,
      action = .newCommunity location bootstrappers metadata demurrage nominalIncome
  | .removeCommunity cid => action = .purgeCommunity cid ∨ MayChangePhase action
  | .purge cc => action = .purgeCommunityCeremony cc ∨ MayChangePhase action
  | .assign _ | .attempt .. | .drain => MayChangePhase action
  | .setReputationLifetime reputationLifetime => action = .setReputationLifetime reputationLifetime
  | .add _ _ participant => MayRegister participant action
  | .link _ sender _ => MayRegister sender action
  | .unlink cc sender _ => ∃ maybe, action = .unregisterParticipant sender cc.1 maybe
  | .burnReputableTicket cc sender =>
      cc.2 = Ceremonies.endorsementCindex s ∧ ∃ newbie, action = .endorseNewcomer sender cc.1 newbie
  | .burnBootstrapperTicket cid sender => ∃ newbie, action = .endorseNewcomer sender cid newbie
  | .endorse cc newbie =>
      cc.2 = Ceremonies.endorsementCindex s ∧ ∃ sender, action = .endorseNewcomer sender cc.1 newbie
  | .registerPurpose purpose =>
      .purposeRegistered purpose ∈ commitmentObservations s action
  | .commit cc purpose account => .committed cc purpose account ∈ commitmentObservations s action
  | .submit _ => ∃ proposalAction, action = .submitProposal proposalAction
  | .vote proposalId sender _ => ∃ vote reputations, action = .vote sender proposalId vote reputations
  | .update proposalId => action = .updateProposalState proposalId

omit [DecidableEq AccountId] in
theorem MayChangePhase.moveClock {action : Action AccountId} (h : MayChangePhase action) :
    MayMoveClock action := by
  cases action with
  | beginBlock now random => trivial
  | nextPhase random => trivial
  | _ => cases h

theorem PhaseEffects.mayCause {action : Action AccountId} {effects : List (Effect AccountId)}
    {s' : Runtime AccountId} (h : PhaseEffects config s' effects) (haction : MayChangePhase action)
    {e : Effect AccountId} (he : e ∈ effects) : MayCause s action e := by
  cases h with
  | none => cases he
  | clock =>
      rw [List.mem_singleton.1 he]
      exact haction.moveClock
  | changed nextPhaseTimestamp enacted outcomes assigned =>
      rcases List.mem_cons.1 he with rfl | he
      · exact haction.moveClock
      · rcases List.mem_append.1 he with henact | he
        · rcases Democracy.mem_enactmentEffects henact with ⟨proposalId, enacted, rfl⟩ | rfl
          · exact haction
          · exact haction
        · rcases List.mem_append.1 he with hphase | hassign
          · rcases Ceremonies.mem_phaseEffects hphase with ⟨cc, rfl⟩ | ⟨cid, rfl⟩
            · exact Or.inr haction
            · exact Or.inr haction
          · obtain ⟨cid, -, rfl⟩ := List.mem_map.1 hassign
            exact haction

theorem TimestampEffects.mayCause {action : Action AccountId} {effects : List (Effect AccountId)}
    {s' : Runtime AccountId} (h : TimestampEffects config s' effects)
    (haction : MayChangePhase action) {e : Effect AccountId} (he : e ∈ effects) :
    MayCause s action e := by
  rcases h with rfl | rfl | ⟨-, hphase⟩
  · cases he
  · rw [List.mem_singleton.1 he]
    exact haction.moveClock
  · exact hphase.mayCause haction he

theorem QuietEffects.mayCause {action : Action AccountId} {effects : List (Effect AccountId)}
    (h : QuietEffects config s action effects) {e : Effect AccountId} (he : e ∈ effects) :
    MayCause s action e := by
  unfold QuietEffects at h
  split at h
  · obtain ⟨timestampEffects, rfl, htimestamp⟩ := h
    rcases List.mem_cons.1 he with rfl | he
    · trivial
    · exact htimestamp.mayCause (by trivial) he
  · rw [h, List.mem_singleton] at he
    rw [he]
    trivial
  · rw [h, List.mem_singleton] at he
    rw [he]
    trivial
  · rw [h, List.mem_singleton] at he
    rw [he]
    trivial
  · exact h.mayCause (by trivial) he
  · obtain ⟨cid, -, rfl⟩ := h
    rw [List.mem_singleton.1 he]
    exact ⟨_, _, _, _, _, rfl⟩
  · rw [h, List.mem_singleton] at he
    rw [he]
    exact Or.inl rfl
  · rw [h, List.mem_singleton] at he
    rw [he]
    exact Or.inl rfl
  · rw [h, List.mem_singleton] at he
    rw [he]
    rfl
  · obtain ⟨refund, hrefund, rfl⟩ := h
    rcases List.mem_append.1 he with hmem | hmem
    · rcases hrefund with rfl | ⟨-, -, source, rfl, rfl⟩
      · cases hmem
      · rw [List.mem_singleton.1 hmem]
        exact ⟨_, rfl⟩
    · rw [List.mem_singleton.1 hmem]
      trivial
  · rw [h, List.mem_singleton] at he
    rw [he]
    rfl
  · rw [h, List.mem_singleton] at he
    rw [he]
    exact List.mem_singleton.2 rfl
  · rw [h, List.mem_singleton] at he
    rw [he]
    exact List.mem_singleton.2 rfl
  · rw [h, List.mem_singleton] at he
    rw [he]
    exact List.mem_singleton.2 rfl
  · obtain ⟨faucet, hfaucet, rfl⟩ := h
    rw [List.mem_singleton.1 he]
    simp only [MayCause, commitmentObservations, hfaucet]
    exact List.mem_singleton.2 rfl
  · rw [h] at he
    cases he

/-- An effect tells much about the action. -/
theorem ActionEffects.mayCause {action : Action AccountId}
    {observations : List (Observation AccountId)} {effects : List (Effect AccountId)}
    (h : ActionEffects config s action observations effects) {e : Effect AccountId}
    (he : e ∈ effects) : MayCause s action e := by
  unfold ActionEffects at h
  split at h
  · obtain ⟨t, -, rfl, -⟩ := h
    rcases List.mem_append.1 he with hlink | hadd
    · obtain ⟨p, -, rfl⟩ := List.mem_map.1 hlink
      rfl
    · rw [List.mem_singleton.1 hadd]
      rfl
  · obtain ⟨t, rfl, -⟩ := h
    rcases List.mem_cons.1 he with rfl | he
    · trivial
    · rcases List.mem_pair.1 he with rfl | rfl
      · rfl
      · rfl
  · obtain ⟨ticket, t, -, hticket, rfl, -⟩ := h
    rcases List.mem_append.1 he with hendorse | hreregister
    · rcases List.mem_pair.1 hendorse with rfl | rfl
      · cases hticket with
        | reputable => exact ⟨rfl, _, rfl⟩
        | bootstrapper => exact ⟨_, rfl⟩
      · exact ⟨rfl, _, rfl⟩
    · cases t with
      | none => cases hreregister
      | some t =>
          rcases List.mem_pair.1 hreregister with rfl | rfl
          · trivial
          · rfl
  · obtain ⟨proposalId, cindexes, rfl, -⟩ := h
    rw [List.mem_singleton.1 he]
    exact ⟨_, rfl⟩
  · obtain ⟨counted, purpose, rfl, -⟩ := h
    rw [List.mem_singleton.1 he]
    exact ⟨_, _, rfl⟩
  · exact h.1.mayCause he

/-! ## Outcomes -/

/-- The actions whose observations are of interest, and the others. -/
inductive Outcome (config : Config AccountId) (s : Runtime AccountId) (action : Action AccountId)
    (s' : Runtime AccountId) (observations : List (Observation AccountId)) : Prop where
  | register (sender : AccountId) (cid : CommunityIdentifier)
      (proof : Option (ProofOfAttendance AccountId)) (c : CeremoniesStorage AccountId)
      (t : ParticipantType) (haction : action = .registerParticipant sender cid proof)
      (h : Ceremonies.registerParticipant config s sender cid proof = .ok (c, t))
      (hs : s' = { s with ceremonies := c })
      (hobs : observations = [.registered (cid, Ceremonies.registrationCindex s) sender t
        (proof.map provenReputation)])
  | upgrade (sender : AccountId) (cid : CommunityIdentifier)
      (proof : ProofOfAttendance AccountId) (c : CeremoniesStorage AccountId)
      (t : ParticipantType) (haction : action = .upgradeRegistration sender cid proof)
      (h : Ceremonies.upgradeRegistration config s sender cid proof = .ok (c, t))
      (hs : s' = { s with ceremonies := c })
      (hobs : observations = [.registered (cid, Ceremonies.registrationCindex s) sender t
        (some (provenReputation proof))])
  | endorse (sender : AccountId) (cid : CommunityIdentifier) (newbie : AccountId)
      (c : CeremoniesStorage AccountId) (t : Option ParticipantType)
      (haction : action = .endorseNewcomer sender cid newbie)
      (h : Ceremonies.endorseNewcomer config s sender cid newbie = .ok (c, t))
      (hs : s' = { s with ceremonies := c })
      (hobs : observations = .endorsed (cid, Ceremonies.endorsementCindex s) sender newbie ::
        t.toList.map fun t => .registered (cid, Ceremonies.endorsementCindex s) newbie t none)
  | claim (sender : AccountId) (cid : CommunityIdentifier) (maybeMeetupIndex : Option Nat)
      (claim : Ceremonies.Claim AccountId)
      (haction : action = .claimRewards sender cid maybeMeetupIndex)
      (h : Ceremonies.claimRewards config s sender cid maybeMeetupIndex = .ok claim)
      (hs : s' = { s with ceremonies := claim.ceremonies, balances := claim.balances })
      (hobs : observations =
        claim.credited.map fun account => .credited claim.cc claim.meetupIndex account)
  | submit (proposalAction : ProposalAction AccountId) (commitments : CommitmentsStorage AccountId)
      (democracy : DemocracyStorage AccountId) (cindexes : List Nat)
      (haction : action = .submitProposal proposalAction)
      (h : Democracy.submitProposal config s proposalAction = .ok (commitments, democracy))
      (hcindexes : Democracy.votingCindexes config s s.scheduler.currentCeremonyIndex =
        .ok cindexes)
      (hs : s' = { s with commitments := commitments, democracy := democracy })
      (hobs : observations = [.purposeRegistered s.commitments.currentPurposeId,
        .submitted democracy.proposalCount cindexes])
  | vote (sender : AccountId) (proposalId : Nat) (vote : Vote)
      (reputations : List CommunityCeremony) (commitments : CommitmentsStorage AccountId)
      (democracy : DemocracyStorage AccountId) (counted : List CommunityCeremony) (purpose : Nat)
      (haction : action = .vote sender proposalId vote reputations)
      (h : Democracy.vote config s sender proposalId vote reputations =
        .ok (commitments, democracy, counted))
      (hpurpose : s.democracy.purposeIds.lookup proposalId = some purpose)
      (hs : s' = { s with commitments := commitments, democracy := democracy })
      (hobs : observations = (counted.map fun cc => .counted proposalId sender cc) ++
        counted.map fun cc => .committed cc purpose sender)
  | quiet (h : dispatchQuiet config s action = .ok s')
      (hobs : observations = commitmentObservations s action)
      (heffects : ∀ effects, QuietEffects config s action effects →
        ActionEffects config s action observations effects)

theorem dispatch_outcome {action : Action AccountId} {observations : List (Observation AccountId)}
    (h : dispatch config s action = .ok (s', observations)) :
    Outcome config s action s' observations := by
  unfold dispatch at h
  split at h
  · rename_i sender cid proof
    simp only [bind_eq_ok, ok_inj, Prod.mk.injEq] at h
    obtain ⟨⟨c, t⟩, hcall, rfl, rfl⟩ := h
    exact .register sender cid proof c t rfl hcall rfl rfl
  · rename_i sender cid proof
    simp only [bind_eq_ok, ok_inj, Prod.mk.injEq] at h
    obtain ⟨⟨c, t⟩, hcall, rfl, rfl⟩ := h
    exact .upgrade sender cid proof c t rfl hcall rfl rfl
  · rename_i sender cid newbie
    simp only [bind_eq_ok, ok_inj, Prod.mk.injEq] at h
    obtain ⟨⟨c, t⟩, hcall, rfl, rfl⟩ := h
    exact .endorse sender cid newbie c t rfl hcall rfl rfl
  · rename_i sender cid maybeMeetupIndex
    simp only [bind_eq_ok, ok_inj, Prod.mk.injEq] at h
    obtain ⟨claim, hcall, rfl, rfl⟩ := h
    exact .claim sender cid maybeMeetupIndex claim rfl hcall rfl rfl
  · rename_i proposalAction
    simp only [bind_eq_ok, ok_inj, Prod.mk.injEq] at h
    obtain ⟨⟨commitments, democracy⟩, hcall, cindexes, hcindexes, rfl, rfl⟩ := h
    exact .submit proposalAction commitments democracy cindexes rfl hcall hcindexes rfl rfl
  · rename_i sender proposalId vote reputations
    simp only [bind_eq_ok, okOr_eq_ok, ok_inj, Prod.mk.injEq] at h
    obtain ⟨⟨commitments, democracy, counted⟩, hcall, purpose, hpurpose, rfl, rfl⟩ := h
    exact .vote sender proposalId vote reputations commitments democracy counted purpose rfl hcall
      hpurpose rfl rfl
  · rename_i hregister hupgrade hendorse _ hsubmit hvote
    simp only [bind_eq_ok, ok_inj, Prod.mk.injEq] at h
    obtain ⟨s'', hcall, rfl, rfl⟩ := h
    apply Outcome.quiet hcall rfl
    intro effects heffects
    unfold ActionEffects
    split
    · exact absurd rfl (hregister _ _ _)
    · exact absurd rfl (hupgrade _ _ _)
    · exact absurd rfl (hendorse _ _ _)
    · exact absurd rfl (hsubmit _)
    · exact absurd rfl (hvote _ _ _ _)
    · exact ⟨heffects, rfl⟩

theorem Outcome.time_le {action : Action AccountId} {observations : List (Observation AccountId)}
    (h : Outcome config s action s' observations) :
    s.scheduler.time ≤ s'.scheduler.time := by
  cases h with
  | register sender cid proof c t haction hcall hs => rw [hs]
  | upgrade sender cid proof c t haction hcall hs => rw [hs]
  | endorse sender cid newbie c t haction hcall hs => rw [hs]
  | claim sender cid maybeMeetupIndex claim haction hcall hs => rw [hs]
  | submit proposalAction commitments democracy cindexes haction hcall hcindexes hs => rw [hs]
  | vote sender proposalId vote reputations commitments democracy counted purpose haction hcall
      hpurpose hs => rw [hs]
  | quiet hcall =>
      obtain ⟨effects, -, hchanges⟩ := dispatchQuiet_changes hcall
      exact hchanges.time_le

theorem Outcome.vote_inv {sender : AccountId} {proposalId : Nat} {v : Vote}
    {reputations : List CommunityCeremony} {observations : List (Observation AccountId)}
    (h : Outcome config s (.vote sender proposalId v reputations) s' observations) :
    ∃ commitments democracy counted purpose,
      Democracy.vote config s sender proposalId v reputations =
        .ok (commitments, democracy, counted) ∧
      s.democracy.purposeIds.lookup proposalId = some purpose ∧
      s' = { s with commitments := commitments, democracy := democracy } ∧
      observations = (counted.map fun cc => .counted proposalId sender cc) ++
        counted.map fun cc => .committed cc purpose sender := by
  cases h with
  | vote sender' proposalId' vote' reputations' commitments democracy counted purpose haction hcall
      hpurpose hs hobs =>
      cases haction
      exact ⟨commitments, democracy, counted, purpose, hcall, hpurpose, hs, hobs⟩
  | quiet hcall hobs heffects =>
      obtain ⟨counted, purpose, hvote, -⟩ := heffects [] rfl
      cases hvote
  | register sender cid proof c t haction => cases haction
  | upgrade sender cid proof c t haction => cases haction
  | endorse sender cid newbie c t haction => cases haction
  | claim sender cid maybeMeetupIndex claim haction => cases haction
  | submit proposalAction commitments democracy cindexes haction => cases haction

/-- What a claim does to the state, for the meetup of `participants`. -/
structure Claims (s s' : Runtime AccountId) (action : Action AccountId)
    (observations : List (Observation AccountId)) (claim : Ceremonies.Claim AccountId)
    (participants : List AccountId) : Prop where
  call : ∃ sender maybeMeetupIndex, action = .claimRewards sender claim.cc.1 maybeMeetupIndex
  effect : Ceremonies.ClaimEffect s claim participants
  runtime : s' = { s with ceremonies := claim.ceremonies, balances := claim.balances }
  observations : observations =
    claim.credited.map fun account => .credited claim.cc claim.meetupIndex account

theorem Outcome.claims_or_changes {action : Action AccountId}
    {observations : List (Observation AccountId)}
    (hinv : RegistryInvariant s.ceremonies.registry)
    (h : Outcome config s action s' observations) :
    (∃ claim participants, Claims s s' action observations claim participants) ∨
      ∃ effects, ActionEffects config s action observations effects ∧
        Changes config s effects s' := by
  cases h with
  | register sender cid proof c t haction hcall hs hobs =>
      subst haction hs hobs
      have hproof := Ceremonies.registerParticipant_type hcall
      exact Or.inr ⟨_, ⟨t, hproof, rfl, rfl⟩, Ceremonies.registerParticipant_changes hcall⟩
  | upgrade sender cid proof c t haction hcall hs hobs =>
      subst haction hs hobs
      exact Or.inr ⟨_, ⟨t, rfl, rfl⟩, Ceremonies.upgradeRegistration_changes hcall⟩
  | endorse sender cid newbie c t haction hcall hs hobs =>
      subst haction hs hobs
      obtain ⟨ticket, hticket, hchanges⟩ := Ceremonies.endorseNewcomer_changes hinv hcall
      have htype := Ceremonies.endorseNewcomer_type hcall
      exact Or.inr ⟨_, ⟨ticket, t, htype, hticket, rfl, rfl⟩, hchanges⟩
  | claim sender cid maybeMeetupIndex claim haction hcall hs hobs =>
      obtain ⟨hcid, participants, heffect⟩ := Ceremonies.claimRewards_spec hcall
      rw [← hcid] at haction
      exact Or.inl ⟨claim, participants, ⟨sender, maybeMeetupIndex, haction⟩, heffect, hs, hobs⟩
  | submit proposalAction commitments democracy cindexes haction hcall hcindexes hs hobs =>
      subst haction hs hobs
      have hsubmit : Change config s _ _ := .submit proposalAction commitments democracy hcall
      exact Or.inr ⟨_, ⟨_, cindexes, rfl, hcindexes, rfl⟩, hsubmit.changes⟩
  | vote sender proposalId vote reputations commitments democracy counted purpose haction hcall
      hpurpose hs hobs =>
      subst haction hs hobs
      have hvote : Change config s _ _ :=
        .vote sender proposalId vote reputations commitments democracy counted hcall
      exact Or.inr ⟨_, ⟨counted, purpose, rfl, hpurpose, rfl⟩, hvote.changes⟩
  | quiet hcall hobs heffects =>
      obtain ⟨effects, hquiet, hchanges⟩ := dispatchQuiet_changes hcall
      exact Or.inr ⟨effects, heffects effects hquiet, hchanges⟩

end Dispatch

namespace Chain

/-- An action has an outcome, or it fails and is a step without changes. -/
theorem step_outcome (config : Config AccountId) (chain : Chain AccountId)
    (action : Action AccountId) :
    (∃ observations, (chain.step config action).trace = chain.trace ++ observations ∧
      Dispatch.Outcome config chain.runtime action (chain.step config action).runtime
        observations) ∨
      chain.step config action = chain := by
  unfold step
  split
  · rename_i s' observations hdispatch
    exact Or.inl ⟨observations, rfl, Dispatch.dispatch_outcome hdispatch⟩
  · exact Or.inr rfl

/-- Time never goes back. -/
theorem step_time_le (config : Config AccountId) (chain : Chain AccountId)
    (action : Action AccountId) :
    chain.runtime.scheduler.time ≤ (chain.step config action).runtime.scheduler.time := by
  rcases step_outcome config chain action with ⟨observations, -, houtcome⟩ | hsame
  · exact houtcome.time_le
  · rw [hsame]

/-- A step appends observations; a failing action is a step without changes. -/
theorem step_cases (config : Config AccountId) {chain : Chain AccountId}
    (action : Action AccountId) (hinv : RegistryInvariant chain.runtime.ceremonies.registry) :
    ∃ observations, (chain.step config action).trace = chain.trace ++ observations ∧
      ((∃ claim participants,
          Dispatch.Claims chain.runtime (chain.step config action).runtime action observations
            claim participants) ∨
        (∃ effects, Dispatch.ActionEffects config chain.runtime action observations effects ∧
          Changes config chain.runtime effects (chain.step config action).runtime) ∨
        ((chain.step config action).runtime = chain.runtime ∧ observations = [])) := by
  rcases step_outcome config chain action with ⟨observations, htrace, houtcome⟩ | hsame
  · refine ⟨observations, htrace, ?_⟩
    rcases houtcome.claims_or_changes hinv with hclaim | hchanges
    · exact Or.inl hclaim
    · exact Or.inr (Or.inl hchanges)
  · rw [hsame]
    exact ⟨[], (List.append_nil _).symm, Or.inr (Or.inr ⟨rfl, rfl⟩)⟩

theorem step_claims_or_changes (config : Config AccountId) {chain : Chain AccountId}
    (action : Action AccountId) (hinv : RegistryInvariant chain.runtime.ceremonies.registry) :
    ∃ observations, (chain.step config action).trace = chain.trace ++ observations ∧
      ((∃ claim participants,
          Dispatch.Claims chain.runtime (chain.step config action).runtime action observations
            claim participants) ∨
        ((∃ effects, Changes config chain.runtime effects (chain.step config action).runtime) ∧
          ∀ cc k a, Observation.credited cc k a ∉ observations)) := by
  obtain ⟨observations, htrace, hcases⟩ := step_cases config action hinv
  refine ⟨observations, htrace, ?_⟩
  rcases hcases with hclaim | ⟨effects, heffects, hchanges⟩ | ⟨hsame, hobs⟩
  · exact Or.inl hclaim
  · exact Or.inr ⟨⟨effects, hchanges⟩, heffects.not_credited⟩
  · rw [hsame, hobs]
    exact Or.inr ⟨⟨[], .refl⟩, by simp⟩

end Chain

end Encointer
