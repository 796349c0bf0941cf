import Encointer.Ceremonies.EndorsementTickets
import Encointer.Commitments.Purposes
import Encointer.Democracy.Turnout
import Encointer.Runtime.CeremonyTimes

/-!
# Constant electorates

When phases follow the time stamps of the blocks, the reputations that a proposal
counts outlive it: their ceremonies are two indices old at the submission, and are
purged only after the proposal lifetime. Until then they can be committed to its
purpose.
-/

namespace Encointer

open Ceremonies Scheduler

variable {AccountId : Type} [DecidableEq AccountId] {config : Config AccountId}
  {s s' : Runtime AccountId} {effects : List (Effect AccountId)} {cc : CommunityCeremony}

/-! ## Ceremonies without meetups -/

structure NoMeetups (s : Runtime AccountId) (cc : CommunityCeremony) : Prop where
  meetupCount : s.ceremonies.meetupCount.get cc 0 = 0
  reputationCount : s.ceremonies.reputationCount.get cc 0 = 0

theorem Change.meetupCount_eq_zero (h : Change config s effects s')
    (hassign : Effect.assign cc ∈ effects → 3 * cc.2 + 1 < s.scheduler.time)
    (hzero : s.ceremonies.meetupCount.get cc 0 = 0) :
    s'.ceremonies.meetupCount.get cc 0 = 0 := by
  cases h with
  | assign cid ceremonies random random' assigning registered assigned =>
      rcases generateMeetupAssignmentParams_spec assigned with rfl | ⟨_, _, _, -, -, -, rfl⟩
      · exact hzero
      · by_cases hcc : cc = (cid, s.scheduler.currentCeremonyIndex)
        · subst hcc
          have hlate := hassign List.mem_cons_self
          simp only [SchedulerStorage.time, assigning, CeremonyPhaseType.rank] at hlate
          omega
        · simp only [StorageMap.get_insert, if_neg hcc]
          exact hzero
  | parameters ceremonies same =>
      simp only [same.meetupCount]
      exact hzero
  | attest sender cid vote attestations ceremonies attested =>
      simp only [(attestAttendees_spec attested).1.meetupCount]
      exact hzero
  | add participantType cc' participant r opened free added =>
      simp only [setRegistry_meetupCount]
      exact hzero
  | remove participantType cc' participant opened registered =>
      simp only [setRegistry_meetupCount]
      exact hzero
  | link cid cindex sender p ceremonies opened linked =>
      obtain ⟨-, -, rfl⟩ := linkReputation_spec linked
      exact hzero
  | unlink cid cindex sender cc' ceremonies opened unlinked =>
      obtain ⟨-, rfl⟩ := unlinkReputation_spec unlinked
      exact hzero
  | purge cc' => simp [purgeCommunityCeremonyInternal, StorageMap.get_erase, hzero]
  | _ => exact hzero

/-- Meetups are assigned only while the ceremony is assigned. -/
theorem Changes.noMeetups (hattested : ReputationsAttested s) (h : Changes config s effects s')
    (hassign : Effect.assign cc ∈ effects → 3 * cc.2 + 1 < s.scheduler.time)
    (hnone : NoMeetups s cc) : NoMeetups s' cc := by
  constructor
  · induction h with
    | refl => exact hnone.meetupCount
    | tail hbefore hchange ih =>
        have hfirst := ih fun hmem => hassign (List.mem_append_left _ hmem)
        apply hchange.meetupCount_eq_zero ?_ hfirst
        intro hmem
        exact (hassign (List.mem_append_right _ hmem)).trans_le hbefore.time_le
  · have hcounts := h.counts hattested
    rw [hcounts.reputationCount, hnone.reputationCount, ite_self]

theorem Ceremonies.ClaimEffect.noMeetups {claim : Claim AccountId} {participants : List AccountId}
    (heffect : ClaimEffect s claim participants)
    (hs : s' = { s with ceremonies := claim.ceremonies, balances := claim.balances })
    (hnone : NoMeetups s cc) : NoMeetups s' cc := by
  subst hs
  have hne : cc ≠ claim.cc := by
    intro hcc
    have hpos := heffect.meetupCount_pos
    rw [← hcc, hnone.meetupCount] at hpos
    exact Nat.lt_irrefl 0 hpos
  constructor
  · rw [heffect.meetupCount]
    exact hnone.meetupCount
  · rw [heffect.reputationCount, if_neg hne]
    exact hnone.reputationCount

/-- Without calls of the scheduler, meetups are assigned when a phase is due. -/
theorem Dispatch.ActionEffects.assign_due {action : Action AccountId}
    {observations : List (Observation AccountId)}
    (h : ActionEffects config s action observations effects)
    (haction : action.leavesScheduler = true) (hmem : Effect.assign cc ∈ effects) :
    s.scheduler.nextPhaseTimestamp ≠ 0 := by
  have hphase : MayChangePhase action := h.mayCause hmem
  cases action with
  | beginBlock now random =>
      obtain ⟨timestampEffects, heffects, htimestamp⟩ := h.1
      rw [heffects] at hmem
      rcases List.mem_cons.1 hmem with hclock | hmem
      · cases hclock
      · rcases htimestamp with rfl | rfl | ⟨hdue, -⟩
        · cases hmem
        · cases List.mem_singleton.1 hmem
        · exact hdue.1
  | nextPhase random => cases haction
  | _ => cases hphase

theorem Chain.noMeetups (config : Config AccountId) {chain : Chain AccountId}
    {action : Action AccountId} (hinv : ReputationInvariant chain.runtime)
    (haction : action.leavesScheduler = true)
    (hlate : chain.runtime.scheduler.nextPhaseTimestamp ≠ 0 →
      3 * cc.2 + 1 < chain.runtime.scheduler.time)
    (hnone : NoMeetups chain.runtime cc) : NoMeetups (chain.step config action).runtime cc := by
  obtain ⟨observations, -, hcases⟩ := Chain.step_cases config action hinv.ceremonies.registry
  rcases hcases with ⟨claim, participants, hclaims⟩ | ⟨effects, heffects, hchanges⟩ | ⟨hsame, -⟩
  · exact hclaims.effect.noMeetups hclaims.runtime hnone
  · apply hchanges.noMeetups hinv.attested ?_ hnone
    intro hmem
    exact hlate (heffects.assign_due haction hmem)
  · rw [hsame]
    exact hnone

/-! ## Settled reputations -/

structure SameReputations (s s' : Runtime AccountId) (cc : CommunityCeremony) : Prop where
  reputationCount : s'.ceremonies.reputationCount.get cc 0 = s.ceremonies.reputationCount.get cc 0
  verified : verifiedAccounts s'.ceremonies cc = verifiedAccounts s.ceremonies cc

namespace SameReputations

theorem refl (s : Runtime AccountId) (cc : CommunityCeremony) : SameReputations s s cc := ⟨rfl, rfl⟩

theorem trans {s'' : Runtime AccountId} (h : SameReputations s s' cc)
    (h' : SameReputations s' s'' cc) : SameReputations s s'' cc :=
  ⟨h'.reputationCount.trans h.reputationCount, h'.verified.trans h.verified⟩

theorem of_historyAt
    (hcount : (s'.ceremonies.historyAt cc).reputationCount =
      (s.ceremonies.historyAt cc).reputationCount)
    (hreputation : (s'.ceremonies.historyAt cc).participantReputation =
      (s.ceremonies.historyAt cc).participantReputation) : SameReputations s s' cc where
  reputationCount := congrArg (fun count : Option Nat => count.getD 0) hcount
  verified := by
    apply verifiedAccounts_congr
    intro a
    have hlookup : s'.ceremonies.participantReputation.lookup (cc, a) =
        s.ceremonies.participantReputation.lookup (cc, a) := congrFun hreputation a
    rw [participantReputation, participantReputation, StorageMap.get, hlookup, StorageMap.get]

/-- Before the first meetups, there are no reputations to keep. -/
theorem of_noMeetups (hinv : ReputationInvariant s) (hinv' : ReputationInvariant s')
    (hnone : s.ceremonies.reputationCount.get cc 0 = 0)
    (hnone' : s'.ceremonies.reputationCount.get cc 0 = 0) : SameReputations s s' cc := by
  have hempty {t : Runtime AccountId} (ht : ReputationInvariant t)
      (hzero : t.ceremonies.reputationCount.get cc 0 = 0) :
      verifiedAccounts t.ceremonies cc = ∅ := by
    have hcovered := ht.covered cc
    rw [hzero] at hcovered
    exact Finset.card_eq_zero.1 (Nat.le_zero.1 hcovered)
  exact ⟨hnone'.trans hnone.symm, (hempty hinv' hnone').trans (hempty hinv hnone).symm⟩

end SameReputations

/-- A phase purges only ceremonies that are too old, and those of removed communities. -/
theorem Ceremonies.PhaseStarts.sameReputations {newPhase : CeremonyPhaseType}
    (h : PhaseStarts s s' newPhase) (hcid : cc.1 ∈ s'.communities.communityIdentifiers)
    (hyoung : s'.scheduler.currentCeremonyIndex ≤ cc.2 + s'.ceremonies.reputationLifetime) :
    SameReputations s s' cc := by
  cases h with
  | registering h =>
      have hhistory := h.historyAt cc
      rw [if_neg] at hhistory
      · exact .of_historyAt (by rw [hhistory]) (by rw [hhistory])
      · intro hpurged
        obtain ⟨hlifetime, -, hold⟩ := hpurged
        omega
  | assigning counters removed h =>
      have hkept := ((h.communityIdentifiers cc.1).1 hcid).2
      rcases h.kept cc fun hpurged => hkept hpurged.1 with hhistory | ⟨-, -, _, _, _, hhistory⟩
      · exact .of_historyAt (by rw [hhistory]) (by rw [hhistory])
      · exact .of_historyAt (by rw [hhistory]) (by rw [hhistory])
  | attesting ceremonies communities =>
      exact .of_historyAt (by rw [ceremonies]) (by rw [ceremonies])

/-- Nothing else changes the reputations of a ceremony after the next one, but a purge by call. -/
theorem Chain.sameReputations (config : Config AccountId) {chain : Chain AccountId}
    {action : Action AccountId} (hinv : ReputationInvariant chain.runtime)
    (hsettled : 3 * cc.2 + 6 ≤ chain.runtime.scheduler.time)
    (hcall : purgedCeremony action ≠ some cc)
    (hcid : cc.1 ∈ (chain.step config action).runtime.communities.communityIdentifiers)
    (hyoung : (chain.step config action).runtime.scheduler.currentCeremonyIndex ≤
      cc.2 + (chain.step config action).runtime.ceremonies.reputationLifetime) :
    SameReputations chain.runtime (chain.step config action).runtime cc := by
  rcases Chain.step_outcome config chain action with ⟨observations, -, houtcome⟩ | hsame
  · rcases houtcome.enters_or_keeps hinv.ceremonies.registry with ⟨-, -, newPhase, henters⟩ |
      ⟨claim, participants, hclaims⟩ | ⟨effects, hkeeps⟩
    · exact henters.starts.sameReputations hcid hyoung
    · have hattested := hclaims.effect.attested hinv.ceremonies
      have hne : cc ≠ claim.cc := by
        intro hcc
        rw [hcc] at hsettled
        omega
      rw [hclaims.runtime]
      constructor
      · simp only [hclaims.effect.reputationCount, if_neg hne, Nat.add_zero]
      · simp only [hclaims.effect.verifiedAccounts, if_neg hne]
    · have hcounts := hkeeps.changes.counts hinv.attested
      have hkept : cc ∉ effects.filterMap Effect.purged := by
        intro hmem
        obtain ⟨e, he, hpurged⟩ := List.mem_filterMap.1 hmem
        cases e with
        | purge cc' =>
            cases hpurged
            rcases hkeeps.caused.mayCause he with haction | hphase
            · exact hcall (by rw [haction]; rfl)
            · cases hkeeps.clock hphase _ he
        | _ => cases hpurged
      exact ⟨(hcounts.reputationCount cc).trans (if_neg hkept),
        (hcounts.verified cc).trans (if_neg hkept)⟩
  · rw [hsame]
    exact .refl _ cc

/-! ## Runs with constant settings -/

/-- No call of the scheduler, and no other reputation lifetime. -/
def Action.ordinary (reputationLifetime : Nat) : Action AccountId → Bool
  | .setReputationLifetime lifetime => decide (lifetime = reputationLifetime)
  | action => action.leavesScheduler

omit [DecidableEq AccountId] in
theorem Action.leavesScheduler_of_ordinary {reputationLifetime : Nat} {action : Action AccountId}
    (h : action.ordinary reputationLifetime = true) : action.leavesScheduler = true := by
  cases action with
  | setReputationLifetime lifetime => rfl
  | _ => exact h

theorem Chain.reputationLifetime_eq (config : Config AccountId) {chain : Chain AccountId}
    {action : Action AccountId} {reputationLifetime : Nat} (hinv : ReputationInvariant chain.runtime)
    (haction : action.ordinary reputationLifetime = true)
    (hlifetime : chain.runtime.ceremonies.reputationLifetime = reputationLifetime) :
    (chain.step config action).runtime.ceremonies.reputationLifetime = reputationLifetime := by
  obtain ⟨observations, -, hcases⟩ := Chain.step_cases config action hinv.ceremonies.registry
  rcases hcases with ⟨claim, participants, hclaims⟩ | ⟨effects, heffects, hchanges⟩ | ⟨hsame, -⟩
  · rw [hclaims.runtime]
    exact hclaims.effect.reputationLifetime.trans hlifetime
  · rcases (hchanges.counts hinv.attested).lifetime with hsame | hset
    · exact hsame.trans hlifetime
    · have hcall := heffects.mayCause hset
      rw [show action = _ from hcall] at haction
      exact of_decide_eq_true haction
  · rw [hsame]
    exact hlifetime

/-- What holds in a run without calls of the scheduler, and with one reputation lifetime. -/
structure OrdinaryInvariant (genesis : GenesisConfig) (s : Runtime AccountId) : Prop where
  reputations : ReputationInvariant s
  purposes : PurposesInvariant s.commitments
  clock : ClockInvariant genesis.phaseDurations s
  lifetime : s.ceremonies.reputationLifetime = genesis.reputationLifetime
  unmet : ∀ cc : CommunityCeremony, s.scheduler.nextPhaseTimestamp = 0 ∨ cc.2 = 0 → NoMeetups s cc

omit [DecidableEq AccountId] in
theorem Scheduler.ClockStep.first (h : ClockStep s s')
    (hfirst : s'.scheduler.nextPhaseTimestamp = 0) : s.scheduler.nextPhaseTimestamp = 0 := by
  cases h with
  | waits scheduler later due =>
      rw [scheduler] at hfirst
      exact hfirst
  | begins cindex t first later scheduler started due => exact first
  | enters t began later due synced scheduler =>
      rw [scheduler] at hfirst
      have hnow := (resync_bounds synced).1
      have hzero : t = 0 := hfirst
      omega

omit [DecidableEq AccountId] in
theorem ClockInvariant.cycle_pos {durations : StorageMap CeremonyPhaseType Nat}
    (hinv : ClockInvariant durations s) (hdurations : ∀ phase, 0 < durations.get phase 0) :
    getCycleDuration s.scheduler ≠ 0 := by
  have hphase := hdurations .registering
  unfold getCycleDuration
  rw [hinv.durations]
  omega

namespace OrdinaryInvariant

variable {genesis : GenesisConfig} {chain : Chain AccountId}

theorem build (genesis : GenesisConfig) (nativeBalances : StorageMap AccountId Nat)
    (assetBalances : StorageMap (AccountId × AssetKind) Nat) :
    OrdinaryInvariant genesis (genesis.build nativeBalances assetBalances) where
  reputations := .genesis genesis nativeBalances assetBalances
  purposes := .genesis genesis nativeBalances assetBalances
  clock := .genesis genesis nativeBalances assetBalances
  lifetime := rfl
  unmet := fun _ _ => ⟨rfl, rfl⟩

theorem clockStep (hdurations : ∀ phase, 0 < genesis.phaseDurations.get phase 0)
    (hinv : OrdinaryInvariant genesis chain.runtime) {action : Action AccountId}
    (haction : action.ordinary genesis.reputationLifetime = true) :
    ClockStep chain.runtime (chain.step config action).runtime :=
  Chain.clockStep config (hinv.clock.cycle_pos hdurations)
    (Action.leavesScheduler_of_ordinary haction)

theorem step (hdurations : ∀ phase, 0 < genesis.phaseDurations.get phase 0)
    (hinv : OrdinaryInvariant genesis chain.runtime) {action : Action AccountId}
    (haction : action.ordinary genesis.reputationLifetime = true) :
    OrdinaryInvariant genesis (chain.step config action).runtime := by
  have hclock : ClockStep chain.runtime (chain.step config action).runtime :=
    hinv.clockStep hdurations haction
  constructor
  · exact hinv.reputations.step action
  · exact (Chain.purposesStep config action hinv.reputations.ceremonies.registry).invariant
      hinv.purposes
  · exact hinv.clock.step hclock
  · exact Chain.reputationLifetime_eq config hinv.reputations haction hinv.lifetime
  · intro cc hcc
    have hbefore : chain.runtime.scheduler.nextPhaseTimestamp = 0 ∨ cc.2 = 0 :=
      hcc.imp_left hclock.first
    apply Chain.noMeetups config hinv.reputations (Action.leavesScheduler_of_ordinary haction) ?_
      (hinv.unmet cc hbefore)
    intro hbegan
    have hstarted := hinv.clock.started hbegan
    have hzero := hbefore.resolve_left hbegan
    unfold SchedulerStorage.time
    omega

theorem run (hdurations : ∀ phase, 0 < genesis.phaseDurations.get phase 0)
    (hinv : OrdinaryInvariant genesis chain.runtime) {actions : List (Action AccountId)}
    (hordinary : ∀ action ∈ actions, action.ordinary genesis.reputationLifetime = true) :
    OrdinaryInvariant genesis (chain.run config actions).runtime := by
  exact Machine.run_invariant_of_forall
    (fun action : Action AccountId => action.ordinary genesis.reputationLifetime = true)
    (fun chain : Chain AccountId => OrdinaryInvariant genesis chain.runtime)
    (fun _ _ h haction => h.step hdurations haction) hinv hordinary

end OrdinaryInvariant

/-! ## The voting range -/

namespace Democracy

omit [DecidableEq AccountId] in
/-- The range is two ceremonies old, and survives the proposal lifetime. -/
theorem votingCindexes_bounds {proposalStart c : Nat} {cindexes : List Nat}
    (h : votingCindexes config s proposalStart = .ok cindexes) (hc : c ∈ cindexes)
    (hlifetime : s.ceremonies.reputationLifetime < 2 ^ 32) :
    c ≤ proposalStart - 2 ∧
      proposalStart + (config.proposalLifetime + getCycleDuration s.scheduler - 1) /
        getCycleDuration s.scheduler ≤ c + s.ceremonies.reputationLifetime := by
  simp only [votingCindexes, proposalLifetimeCycles, bind_eq_ok, ite_eq_ok, error_ne_ok, and_false,
    false_or, ok_inj] at h
  obtain ⟨lifetimeCycles, ⟨-, rfl⟩, rfl⟩ := h
  obtain ⟨hlower, hupper⟩ := List.mem_range'_1.1 hc
  unfold Checked.saturateU32 Checked.u32Max at hlower hupper
  omega

end Democracy

/-! ## The purpose of a proposal -/

/-- Submitted proposals keep their purpose. -/
theorem Chain.purposeIds_eq (config : Config AccountId) {chain : Chain AccountId}
    (action : Action AccountId) (hinv : RegistryInvariant chain.runtime.ceremonies.registry)
    {id purpose : Nat} (hid : id ≤ chain.runtime.democracy.proposalCount)
    (hpurpose : chain.runtime.democracy.purposeIds.lookup id = some purpose) :
    id ≤ (chain.step config action).runtime.democracy.proposalCount ∧
      (chain.step config action).runtime.democracy.purposeIds.lookup id = some purpose := by
  rcases Chain.step_outcome config chain action with ⟨observations, -, houtcome⟩ | hsame
  · cases hother : action.other with
    | true =>
        obtain ⟨hballots, -⟩ := houtcome.other hinv hother
        rw [hballots.proposalCount, hballots.purposeIds]
        exact ⟨hid, hpurpose⟩
    | false =>
        cases action with
        | submitProposal proposalAction =>
            obtain ⟨commitments, democracy, cindexes, hsubmit, -, hs, -⟩ := houtcome.submit_inv
            obtain ⟨cindexes', purposeId, heffect⟩ := Democracy.submitProposal_spec hsubmit
            rw [hs, heffect.stored]
            constructor
            · exact hid.trans (Nat.le_succ _)
            · rw [StorageMap.lookup_insert_eq, if_neg (by omega)]
              exact hpurpose
        | vote sender proposalId v reputations =>
            obtain ⟨commitments, democracy, counted, purposeId, hvote, -, hs, -⟩ :=
              houtcome.vote_inv
            obtain ⟨proposal, tally, purposeId', heffect⟩ := Democracy.vote_spec hvote
            rw [hs]
            constructor
            · rw [heffect.ballots.proposalCount]
              exact hid
            · rw [heffect.ballots.purposeIds]
              exact hpurpose
        | _ => cases hother
  · rw [hsame]
    exact ⟨hid, hpurpose⟩

structure PurposeStands (s : Runtime AccountId) (id purpose : Nat) : Prop where
  submitted : id ≤ s.democracy.proposalCount
  purposeId : s.democracy.purposeIds.lookup id = some purpose
  registered : s.commitments.purposes.contains purpose = true

namespace PurposeStands

variable {chain : Chain AccountId} {id purpose : Nat}

/-- A submission registers a new purpose for the proposal. -/
theorem submission {action : ProposalAction AccountId} {commitments : CommitmentsStorage AccountId}
    {democracy : DemocracyStorage AccountId}
    (h : Democracy.submitProposal config chain.runtime action = .ok (commitments, democracy)) :
    PurposeStands (chain.step config (.submitProposal action)).runtime democracy.proposalCount
      chain.runtime.commitments.currentPurposeId := by
  obtain ⟨cindexes, purposeId, heffect⟩ := Democracy.submitProposal_spec h
  obtain rfl := (Commitments.doRegisterPurpose_spec heffect.purpose).1
  have hstep : (chain.step config (.submitProposal action)).runtime =
      { chain.runtime with commitments := commitments, democracy := democracy } := by
    unfold Chain.step Dispatch.dispatch
    simp only [h, heffect.range]
    rfl
  rw [hstep]
  constructor
  · exact le_rfl
  · simp only [heffect.stored, StorageMap.lookup_insert_eq, if_true]
  · exact (Commitments.doRegisterPurpose_purposesStep heffect.purpose).2

theorem step (h : PurposeStands chain.runtime id purpose) (action : Action AccountId)
    (hinv : RegistryInvariant chain.runtime.ceremonies.registry) :
    PurposeStands (chain.step config action).runtime id purpose := by
  obtain ⟨hsubmitted, hpurposeId⟩ :=
    Chain.purposeIds_eq config action hinv h.submitted h.purposeId
  exact ⟨hsubmitted, hpurposeId, (Chain.purposesStep config action hinv).kept _ h.registered⟩

theorem run (h : PurposeStands chain.runtime id purpose) (actions : List (Action AccountId))
    (hinv : ReputationInvariant chain.runtime) :
    PurposeStands (chain.run config actions).runtime id purpose := by
  have hrun : PurposeStands (chain.run config actions).runtime id purpose ∧
      ReputationInvariant (chain.run config actions).runtime :=
    Machine.run_invariant_of_step
      (fun chain : Chain AccountId =>
        PurposeStands chain.runtime id purpose ∧ ReputationInvariant chain.runtime)
      (fun _ action h => ⟨h.1.step action h.2.ceremonies.registry, h.2.step action⟩) ⟨h, hinv⟩
      actions
  exact hrun.1

end PurposeStands

/-! ## The electorate during the proposal lifetime -/

/-- What a run since the submission keeps until the proposal is too old. -/
structure SinceSubmission (config : Config AccountId) (genesis : GenesisConfig)
    (submission : Runtime AccountId) (cc : CommunityCeremony) (s : Runtime AccountId) : Prop where
  ordinary : OrdinaryInvariant genesis s
  elapsed : ∃ ceremonies, Elapsed submission s ceremonies
  settled : 3 * cc.2 + 6 ≤ s.scheduler.time
  same : s.now ≤ submission.now + config.proposalLifetime → SameReputations submission s cc

namespace SinceSubmission

variable {genesis : GenesisConfig} {submission : Runtime AccountId} {chain : Chain AccountId}

/-- The ceremony is purged after the proposal lifetime only. -/
theorem step (hdurations : ∀ phase, 0 < genesis.phaseDurations.get phase 0)
    (hcycle : getCycleDuration submission.scheduler ≠ 0)
    (hdue : submission.now ≤ submission.scheduler.nextPhaseTimestamp)
    (hyoung : submission.scheduler.currentCeremonyIndex +
      (config.proposalLifetime + getCycleDuration submission.scheduler - 1) /
        getCycleDuration submission.scheduler ≤ cc.2 + genesis.reputationLifetime)
    (h : SinceSubmission config genesis submission cc chain.runtime) {action : Action AccountId}
    (haction : action.ordinary genesis.reputationLifetime = true)
    (hcall : purgedCeremony action ≠ some cc)
    (hcid : cc.1 ∈ (chain.step config action).runtime.communities.communityIdentifiers) :
    SinceSubmission config genesis submission cc (chain.step config action).runtime := by
  have hclock : ClockStep chain.runtime (chain.step config action).runtime :=
    h.ordinary.clockStep hdurations haction
  have hordinary : OrdinaryInvariant genesis (chain.step config action).runtime :=
    h.ordinary.step hdurations haction
  obtain ⟨ceremonies, helapsed⟩ := h.elapsed
  obtain ⟨ceremonies', helapsed'⟩ := helapsed.step hclock
  constructor
  · exact hordinary
  · exact ⟨ceremonies', helapsed'⟩
  · exact h.settled.trans (Chain.step_time_le config chain action)
  · intro hnow
    have hsame := h.same (hclock.later.trans hnow)
    have hceremonies := helapsed'.ceremonies_le hcycle hdue hnow
    apply hsame.trans
    apply Chain.sameReputations config h.ordinary.reputations h.settled hcall hcid
    rw [helapsed'.cindex, hordinary.lifetime]
    omega

theorem run (hdurations : ∀ phase, 0 < genesis.phaseDurations.get phase 0)
    (hcycle : getCycleDuration submission.scheduler ≠ 0)
    (hdue : submission.now ≤ submission.scheduler.nextPhaseTimestamp)
    (hyoung : submission.scheduler.currentCeremonyIndex +
      (config.proposalLifetime + getCycleDuration submission.scheduler - 1) /
        getCycleDuration submission.scheduler ≤ cc.2 + genesis.reputationLifetime)
    (h : SinceSubmission config genesis submission cc chain.runtime)
    {actions : List (Action AccountId)}
    (hordinary : ∀ action ∈ actions, action.ordinary genesis.reputationLifetime = true)
    (hcall : ∀ action ∈ actions, purgedCeremony action ≠ some cc)
    (hcid : ∀ seen, seen <+: actions → seen ≠ [] →
      cc.1 ∈ (chain.run config seen).runtime.communities.communityIdentifiers) :
    SinceSubmission config genesis submission cc (chain.run config actions).runtime := by
  induction actions generalizing chain with
  | nil => exact h
  | cons action rest ih =>
      have hnext : SinceSubmission config genesis submission cc (chain.step config action).runtime :=
        h.step hdurations hcycle hdue hyoung (hordinary action List.mem_cons_self)
          (hcall action List.mem_cons_self)
          (hcid [action] (List.prefix_append [action] rest) (List.cons_ne_nil action []))
      apply ih hnext
      · intro action' hmem
        exact hordinary action' (List.mem_cons_of_mem _ hmem)
      · intro action' hmem
        exact hcall action' (List.mem_cons_of_mem _ hmem)
      · intro seen hseen _
        exact hcid (action :: seen) ((List.prefix_cons_inj action).2 hseen)
          (List.cons_ne_nil action seen)

end SinceSubmission

namespace OrdinaryInvariant

variable {genesis : GenesisConfig} {chain : Chain AccountId}

theorem noMeetups (hdurations : ∀ phase, 0 < genesis.phaseDurations.get phase 0)
    (hinv : OrdinaryInvariant genesis chain.runtime) {actions : List (Action AccountId)}
    (hordinary : ∀ action ∈ actions, action.ordinary genesis.reputationLifetime = true)
    (hsettled : 3 * cc.2 + 6 ≤ chain.runtime.scheduler.time)
    (hnone : NoMeetups chain.runtime cc) : NoMeetups (chain.run config actions).runtime cc := by
  have hrun : OrdinaryInvariant genesis (chain.run config actions).runtime ∧
      3 * cc.2 + 6 ≤ (chain.run config actions).runtime.scheduler.time ∧
      NoMeetups (chain.run config actions).runtime cc := by
    apply Machine.run_invariant_of_forall
      (fun action : Action AccountId => action.ordinary genesis.reputationLifetime = true)
      (fun chain : Chain AccountId => OrdinaryInvariant genesis chain.runtime ∧
        3 * cc.2 + 6 ≤ chain.runtime.scheduler.time ∧ NoMeetups chain.runtime cc) ?_
      ⟨hinv, hsettled, hnone⟩ hordinary
    intro chain action h haction
    obtain ⟨hinv, hsettled, hnone⟩ := h
    refine ⟨hinv.step hdurations haction,
      hsettled.trans (Chain.step_time_le config chain action), ?_⟩
    apply Chain.noMeetups config hinv.reputations
      (Action.leavesScheduler_of_ordinary haction) ?_ hnone
    intro _
    omega
  exact hrun.2.2

/-- The reputations of the voting range outlive the proposal. -/
theorem sameReputations (hdurations : ∀ phase, 0 < genesis.phaseDurations.get phase 0)
    (hlifetime : genesis.reputationLifetime < 2 ^ 32)
    (hinv : OrdinaryInvariant genesis chain.runtime) {actions : List (Action AccountId)}
    (hordinary : ∀ action ∈ actions, action.ordinary genesis.reputationLifetime = true)
    {cindexes : List Nat}
    (hrange : Democracy.votingCindexes config chain.runtime
      chain.runtime.scheduler.currentCeremonyIndex = .ok cindexes) (hc : cc.2 ∈ cindexes)
    (hcall : ∀ action ∈ actions, purgedCeremony action ≠ some cc)
    (hcid : ∀ seen, seen <+: actions → seen ≠ [] →
      cc.1 ∈ (chain.run config seen).runtime.communities.communityIdentifiers)
    (hnow : (chain.run config actions).runtime.now ≤
      chain.runtime.now + config.proposalLifetime) :
    SameReputations chain.runtime (chain.run config actions).runtime cc := by
  have hlast : OrdinaryInvariant genesis (chain.run config actions).runtime :=
    hinv.run hdurations hordinary
  rw [← hinv.lifetime] at hlifetime
  obtain ⟨hupper, hyoung⟩ := Democracy.votingCindexes_bounds hrange hc hlifetime
  rw [hinv.lifetime] at hyoung
  have hnone (h : NoMeetups chain.runtime cc)
      (h' : NoMeetups (chain.run config actions).runtime cc) :
      SameReputations chain.runtime (chain.run config actions).runtime cc :=
    .of_noMeetups hinv.reputations hlast.reputations h.reputationCount h'.reputationCount
  by_cases hfirst : cc.2 = 0
  · -- no ceremony has the index zero
    exact hnone (hinv.unmet cc (Or.inr hfirst)) (hlast.unmet cc (Or.inr hfirst))
  · have hsettled : 3 * cc.2 + 6 ≤ chain.runtime.scheduler.time := by
      unfold SchedulerStorage.time
      omega
    by_cases hbegan : chain.runtime.scheduler.nextPhaseTimestamp = 0
    · -- before the first block
      have hunmet := hinv.unmet cc (Or.inl hbegan)
      exact hnone hunmet (hinv.noMeetups hdurations hordinary hsettled hunmet)
    · have hstart : SinceSubmission config genesis chain.runtime cc chain.runtime :=
        ⟨hinv, ⟨0, .refl hbegan⟩, hsettled, fun _ => .refl _ cc⟩
      have hrun := hstart.run hdurations (hinv.clock.cycle_pos hdurations)
        (hinv.clock.due hbegan) hyoung hordinary hcall hcid
      exact hrun.same hnow

end OrdinaryInvariant

namespace Demo

end Demo

end Encointer
