import Encointer.Ceremonies.BallotBox
import Encointer.Ceremonies.RewardOnce

/-!
# Ballots are recorded faithfully

Only submissions write to the ballot box of a ceremony, and only a purge empties it.
From the attesting phase on the meetups stay as they are until they are purged, so what
was recorded for a member at its last submission is what it named of its meetup.
-/

namespace Encointer

open Ceremonies Dispatch

variable {AccountId : Type} [DecidableEq AccountId] {config : Config AccountId}
  {s s' : Runtime AccountId} {c c' c'' : CeremoniesStorage AccountId}
  {cid : CommunityIdentifier} {cindex : Nat} {sender : AccountId}

/-! ## Other calls -/

def SameBallotBoxes (c c' : CeremoniesStorage AccountId) : Prop :=
  ∀ cc, c'.ballotBox cc = c.ballotBox cc

theorem SameBallotBoxes.trans (h : SameBallotBoxes c c') (h' : SameBallotBoxes c' c'') :
    SameBallotBoxes c c'' :=
  fun cc => (h' cc).trans (h cc)

namespace Ceremonies

theorem setRegistry_ballotBox (c : CeremoniesStorage AccountId) (t : ParticipantType)
    (r : ParticipantRegistry AccountId) : SameBallotBoxes c (c.setRegistry t r) := by
  intro cc
  cases t <;> rfl

theorem register_ballotBox {isReputable : Bool} {t : ParticipantType}
    (h : register config s cid cindex sender isReputable = .ok (c, t)) :
    SameBallotBoxes s.ceremonies c := by
  obtain ⟨r, -, hc, -⟩ := register_spec h
  have hset := setRegistry_ballotBox s.ceremonies t r
  rcases hc with rfl | ⟨-, endorsedCindex, rfl⟩
  · exact hset
  · intro cc
    exact hset cc

theorem removeParticipantFromRegistry_ballotBox
    (h : removeParticipantFromRegistry s cid cindex sender = .ok c) :
    SameBallotBoxes s.ceremonies c := by
  obtain ⟨-, t, -, rfl⟩ := removeParticipantFromRegistry_spec h
  exact setRegistry_ballotBox _ _ _

private theorem linkProof_ballotBox {proof : Option (ProofOfAttendance AccountId)}
    (h : linkProof config s cid cindex sender proof = .ok c) :
    SameBallotBoxes s.ceremonies c := by
  cases proof with
  | none =>
      simp only [linkProof, ok_inj] at h
      rw [h]
      exact fun _ => rfl
  | some p =>
      obtain ⟨-, -, rfl⟩ := linkReputation_spec h
      exact fun _ => rfl

theorem registerParticipant_ballotBox {proof : Option (ProofOfAttendance AccountId)}
    {t : ParticipantType} (h : registerParticipant config s sender cid proof = .ok (c, t)) :
    SameBallotBoxes s.ceremonies c := by
  obtain ⟨-, -, -, linked, hlink, hregister⟩ := registerParticipant_spec h
  have hregistered := register_ballotBox hregister
  exact (linkProof_ballotBox hlink).trans hregistered

theorem upgradeRegistration_ballotBox {proof : ProofOfAttendance AccountId} {t : ParticipantType}
    (h : upgradeRegistration config s sender cid proof = .ok (c, t)) :
    SameBallotBoxes s.ceremonies c := by
  obtain ⟨-, removed, hremove, hregister⟩ := upgradeRegistration_spec h
  have hregistered := registerParticipant_ballotBox hregister
  exact (removeParticipantFromRegistry_ballotBox hremove).trans hregistered

theorem unregisterParticipant_ballotBox {maybe : Option CommunityCeremony}
    (h : unregisterParticipant s sender cid maybe = .ok c) : SameBallotBoxes s.ceremonies c := by
  obtain ⟨-, t, refunded, -, hrefund, hremove⟩ := unregisterParticipant_spec h
  have hremoved := removeParticipantFromRegistry_ballotBox hremove
  rcases refundReputation_spec hrefund with rfl | ⟨-, source, -, hunlink⟩
  · exact hremoved
  · obtain ⟨-, rfl⟩ := unlinkReputation_spec hunlink
    exact hremoved

private theorem reregisterNewbie_ballotBox {t : Option ParticipantType}
    (h : reregisterNewbie config s cid cindex sender = .ok (c, t)) :
    SameBallotBoxes s.ceremonies c := by
  rcases reregisterNewbie_spec h with ⟨rfl, -⟩ | ⟨removed, t', -, -, hremove, hregister⟩
  · exact fun _ => rfl
  · have hregistered := register_ballotBox hregister
    exact (removeParticipantFromRegistry_ballotBox hremove).trans hregistered

private theorem burnNewbieTickets_ballotBox (h : burnNewbieTickets s cid cindex sender = .ok c) :
    SameBallotBoxes s.ceremonies c := by
  simp only [burnNewbieTickets, ite_eq_ok, ok_inj, error_ne_ok] at h
  rcases h with ⟨-, rfl⟩ | ⟨-, ⟨-, rfl⟩ | ⟨-, hfalse⟩⟩
  · exact fun _ => rfl
  · exact fun _ => rfl
  · exact hfalse.elim

theorem endorseNewcomer_ballotBox {newbie : AccountId} {t : Option ParticipantType}
    (h : endorseNewcomer config s sender cid newbie = .ok (c, t)) :
    SameBallotBoxes s.ceremonies c := by
  simp only [endorseNewcomer, bind_eq_ok, ensure_eq_ok, okOr_eq_ok, exists_const] at h
  obtain ⟨-, -, burned, hburn, count, -, hreregister⟩ := h
  have hreregistered := reregisterNewbie_ballotBox hreregister
  have hburned : SameBallotBoxes s.ceremonies _ := burnNewbieTickets_ballotBox hburn
  intro cc
  exact (hreregistered cc).trans (hburned cc)

theorem claimRewards_ballotBox {maybe : Option Nat} {claim : Claim AccountId}
    (h : claimRewards config s sender cid maybe = .ok claim) :
    SameBallotBoxes s.ceremonies claim.ceremonies := by
  simp only [claimRewards, bind_eq_ok] at h
  obtain ⟨cindex, -, meetupIndex, -, -, -, participants, -, h⟩ := h
  split at h
  · simp only [bind_eq_ok, ok_inj] at h
    obtain ⟨-, -, rfl⟩ := h
    exact fun _ => rfl
  · simp only [bind_eq_ok, ok_inj] at h
    obtain ⟨-, -, -, -, ⟨c, balances, credited⟩, hissue, rfl⟩ := h
    obtain ⟨-, participantReputation, -, rfl⟩ := issueRewards_spec hissue
    exact fun _ => rfl

end Ceremonies

/-! ## Actions -/

/-- A ballot box stays as it is, or its ceremony is purged. -/
def KeepsOrPurges (s s' : Runtime AccountId) (cc : CommunityCeremony) : Prop :=
  s'.ceremonies.ballotBox cc = s.ceremonies.ballotBox cc ∨ s'.ceremonies.historyAt cc = .empty

namespace Dispatch

theorem Enters.keepsOrPurges {newPhase : CeremonyPhaseType} (h : Enters config s s' newPhase)
    (cc : CommunityCeremony) : KeepsOrPurges s s' cc := by
  cases h.starts with
  | registering hstarts =>
      have hhistory := hstarts.historyAt cc
      split_ifs at hhistory
      · exact .inr hhistory
      · exact .inl (congrArg CeremonyHistory.ballots hhistory)
  | assigning counters removed hstarts =>
      by_cases hpurged : cc.1 ∈ removed ∧ cc.2 ∈ cindexesWithinLifetime s'
      · exact .inr (hstarts.purged cc hpurged.1 hpurged.2)
      · rcases hstarts.kept cc hpurged with hkept | ⟨-, -, _, _, _, hassigned⟩
        · exact .inl (congrArg CeremonyHistory.ballots hkept)
        · left
          unfold CeremoniesStorage.ballotBox
          rw [hassigned]
          rfl
  | attesting hceremonies hcommunities =>
      left
      rw [hceremonies]

private theorem dispatchQuiet_keepsOrPurges {action : Action AccountId}
    (hattest : ∀ sender cid vote attestations,
      action ≠ .attestAttendees sender cid vote attestations)
    (haction : ¬ MayChangePhase action) (h : dispatchQuiet config s action = .ok s')
    (cc : CommunityCeremony) : KeepsOrPurges s s' cc := by
  cases dispatchQuiet_ceremonies haction h with
  | unregister sender cid maybe c hcall hs =>
      rw [hs]
      exact .inl (unregisterParticipant_ballotBox hcall cc)
  | attest sender cid vote attestations c hcall hs => exact absurd rfl (hattest _ _ _ _)
  | purge cc' hs =>
      rw [hs]
      have hpurge := historyAt_purge s.ceremonies cc' cc
      split_ifs at hpurge
      · exact .inr hpurge
      · exact .inl (congrArg CeremonyHistory.ballots hpurge)
  | parameters _ historyAt ledger endorsees =>
      exact .inl (congrArg CeremonyHistory.ballots (historyAt cc))

/-- Without a submission, a ballot box stays as it is or is emptied by a purge. -/
theorem Outcome.keepsOrPurges {action : Action AccountId}
    {observations : List (Observation AccountId)}
    (hattest : ∀ sender cid vote attestations,
      action ≠ .attestAttendees sender cid vote attestations)
    (h : Outcome config s action s' observations) (cc : CommunityCeremony) :
    KeepsOrPurges s s' cc := by
  cases h with
  | register sender cid proof c t haction hcall hs hobs =>
      rw [hs]
      exact .inl (registerParticipant_ballotBox hcall cc)
  | upgrade sender cid proof c t haction hcall hs hobs =>
      rw [hs]
      exact .inl (upgradeRegistration_ballotBox hcall cc)
  | endorse sender cid newbie c t haction hcall hs hobs =>
      rw [hs]
      exact .inl (endorseNewcomer_ballotBox hcall cc)
  | claim sender cid maybeMeetupIndex claim haction hcall hs hobs =>
      rw [hs]
      exact .inl (claimRewards_ballotBox hcall cc)
  | submit proposalAction commitments democracy cindexes haction hcall hcindexes hs hobs =>
      rw [hs]
      exact .inl rfl
  | vote sender proposalId vote reputations commitments democracy counted purpose haction hcall
      hpurpose hs hobs =>
      rw [hs]
      exact .inl rfl
  | quiet hcall hobs heffects =>
      by_cases hphase : MayChangePhase action
      · rcases mayChangePhase_enters_or_ticks hphase hcall with ⟨newPhase, henters⟩ | hticks
        · exact henters.keepsOrPurges cc
        · obtain ⟨now, blockNumber, scheduler, rfl⟩ := hticks.runtime
          exact .inl rfl
      · exact dispatchQuiet_keepsOrPurges hattest hphase hcall cc

end Dispatch

/-! ## The meetups from the attesting phase on -/

namespace SameMeetups

variable {cc : CommunityCeremony}

omit [DecidableEq AccountId] in
theorem trans (h : SameMeetups c c' cc) (h' : SameMeetups c' c'' cc) : SameMeetups c c'' cc where
  registry := fun t i => (h'.registry t i).trans (h.registry t i)
  count := fun t => (h'.count t).trans (h.count t)
  meetupCount := h'.meetupCount.trans h.meetupCount
  assignmentCounts := h'.assignmentCounts.trans h.assignmentCounts
  assignments := h'.assignments.trans h.assignments

omit [DecidableEq AccountId] in
theorem getMeetupParticipants (h : SameMeetups c c' cc) (k : Nat) :
    Ceremonies.getMeetupParticipants c' cc k = Ceremonies.getMeetupParticipants c cc k := by
  have hseat : bootstrapperOrReputable c' cc = bootstrapperOrReputable c cc := by
    funext assigned p
    unfold bootstrapperOrReputable
    have hbootstrapper := h.registry .bootstrapper (p + 1)
    have hreputable := h.registry .reputable (p - assigned.bootstrappers + 1)
    simp only [CeremoniesStorage.registry] at hbootstrapper hreputable
    rw [hbootstrapper, hreputable]
  have hregistered (t : ParticipantType) : registeredAt c' cc t = registeredAt c cc t := by
    funext assigned p
    unfold registeredAt
    rw [h.registry]
  have hmeetups : Ceremonies.meetupCount c' cc = Ceremonies.meetupCount c cc := h.meetupCount
  unfold Ceremonies.getMeetupParticipants
  rw [hseat, hregistered, hregistered, hmeetups, h.assignments, h.assignmentCounts]

end SameMeetups

/-- The meetups stay as they are, or are purged. -/
def MeetupsStay (s s' : Runtime AccountId) (cc : CommunityCeremony) : Prop :=
  SameMeetups s.ceremonies s'.ceremonies cc ∨ s'.ceremonies.meetupCount.get cc 0 = 0

omit [DecidableEq AccountId] in
theorem MeetupsStay.trans {s'' : Runtime AccountId} {cc : CommunityCeremony}
    (h : MeetupsStay s s' cc) (h' : MeetupsStay s' s'' cc) : MeetupsStay s s'' cc := by
  rcases h' with hsame' | hzero
  · rcases h with hsame | hzero
    · exact .inl (hsame.trans hsame')
    · exact .inr (hsame'.meetupCount.trans hzero)
  · exact .inr hzero

omit [DecidableEq AccountId] in
theorem MeetupsStay.meetupCount_eq_zero {cc : CommunityCeremony} (h : MeetupsStay s s' cc)
    (hzero : s.ceremonies.meetupCount.get cc 0 = 0) : s'.ceremonies.meetupCount.get cc 0 = 0 := by
  rcases h with hsame | hzero'
  · exact hsame.meetupCount.trans hzero
  · exact hzero'

theorem Change.meetupsStay {effects : List (Effect AccountId)} {cc : CommunityCeremony}
    (hinv : RegistryInvariant s.ceremonies.registry) (htime : 3 * cc.2 + 2 ≤ s.scheduler.time)
    (h : Change config s effects s') : MeetupsStay s s' cc := by
  cases h.meetupsChange hinv cc with
  | same hsame => exact .inl hsame
  | registration opened hmeetupCount =>
      have hopen := opened.time_le
      omega
  | purged hmeetupCount => exact .inr hmeetupCount
  | assigned hnow hvalid => omega

theorem Changes.meetupsStay {effects : List (Effect AccountId)} {cc : CommunityCeremony}
    (hinv : RegistryInvariant s.ceremonies.registry) (htime : 3 * cc.2 + 2 ≤ s.scheduler.time)
    (h : Changes config s effects s') :
    RegistryInvariant s'.ceremonies.registry ∧ MeetupsStay s s' cc := by
  induction h with
  | refl => exact ⟨hinv, .inl (.refl _ cc)⟩
  | tail hbefore hchange ih =>
      obtain ⟨hregistry, hstay⟩ := ih
      have hle := hbefore.time_le
      exact ⟨hregistry.change hchange,
        hstay.trans (hchange.meetupsStay hregistry (htime.trans hle))⟩

theorem Chain.step_meetupsStay {chain : Chain AccountId} {cc : CommunityCeremony}
    (hinv : RegistryInvariant chain.runtime.ceremonies.registry)
    (htime : 3 * cc.2 + 2 ≤ chain.runtime.scheduler.time) (action : Action AccountId) :
    MeetupsStay chain.runtime (chain.step config action).runtime cc := by
  obtain ⟨_, -, ⟨claim, participants, hclaims⟩ | ⟨⟨effects, hchanges⟩, -⟩⟩ :=
    Chain.step_claims_or_changes config action hinv
  · have heffect := hclaims.effect
    left
    rw [hclaims.runtime]
    exact .of_eq heffect.registry heffect.meetupCount heffect.assignmentCounts heffect.assignments
  · exact (hchanges.meetupsStay hinv htime).2

/-! ## Submissions -/

structure Submission (AccountId : Type) where
  vote : Nat
  attestations : List AccountId
  deriving DecidableEq, Repr

/-- A call that succeeds replaces what its sender submitted before for the ceremony. -/
def recordSubmission (config : Config AccountId) (chain : Chain AccountId)
    (action : Action AccountId)
    (submissions : CommunityCeremony → AccountId → Option (Submission AccountId)) :
    CommunityCeremony → AccountId → Option (Submission AccountId) :=
  match action with
  | .attestAttendees sender cid vote attestations =>
      if (dispatch config chain.runtime
          (.attestAttendees sender cid vote attestations)).isOk then
        Function.update submissions (cid, chain.runtime.scheduler.currentCeremonyIndex)
          (Function.update (submissions (cid, chain.runtime.scheduler.currentCeremonyIndex)) sender
            (some ⟨vote, attestations⟩))
      else
        submissions
  | _ => submissions

section Step

variable {chain : Chain AccountId} {vote : Nat} {attestations : List AccountId}
  (submissions : CommunityCeremony → AccountId → Option (Submission AccountId))

theorem step_attestAttendees (h : attestAttendees config chain.runtime sender cid vote
    attestations = .ok c) :
    chain.step config (.attestAttendees sender cid vote attestations) =
        ⟨{ chain.runtime with ceremonies := c }, chain.trace⟩ ∧
      recordSubmission config chain (.attestAttendees sender cid vote attestations) submissions =
        Function.update submissions (cid, chain.runtime.scheduler.currentCeremonyIndex)
          (Function.update (submissions (cid, chain.runtime.scheduler.currentCeremonyIndex)) sender
            (some ⟨vote, attestations⟩)) := by
  have hdispatch : dispatch config chain.runtime (.attestAttendees sender cid vote attestations) =
      .ok ({ chain.runtime with ceremonies := c }, []) := by
    simp only [dispatch, dispatchQuiet, h]
    rfl
  constructor
  · simp [Chain.step, hdispatch]
  · simp [recordSubmission, hdispatch, Except.isOk, Except.toBool]

theorem step_attestAttendees_failed {e : DispatchError}
    (h : attestAttendees config chain.runtime sender cid vote attestations = .error e) :
    chain.step config (.attestAttendees sender cid vote attestations) = chain ∧
      recordSubmission config chain (.attestAttendees sender cid vote attestations) submissions =
        submissions := by
  have hdispatch : dispatch config chain.runtime (.attestAttendees sender cid vote attestations) =
      .error e := by
    simp only [dispatch, dispatchQuiet, h]
    rfl
  constructor
  · simp [Chain.step, hdispatch]
  · simp [recordSubmission, hdispatch, Except.isOk, Except.toBool]

end Step

/-- The last successful submission of every account for every ceremony. -/
def lastSubmissions (config : Config AccountId) (chain : Chain AccountId)
    (actions : List (Action AccountId)) :
    CommunityCeremony → AccountId → Option (Submission AccountId) :=
  Machine.note (Chain.step config) (recordSubmission config) chain (fun _ _ => none) actions

def voteOf (submission : Option (Submission AccountId)) : Nat :=
  submission.elim 0 Submission.vote

def membersNamed (members : List AccountId) (participant : AccountId)
    (submission : Option (Submission AccountId)) : List AccountId :=
  (submission.elim [] Submission.attestations).filter fun a => a ≠ participant ∧ a ∈ members

def meetupOf (c : CeremoniesStorage AccountId) (cc : CommunityCeremony) (a : AccountId) :
    List AccountId :=
  ((getMeetupIndex c cc a).bind fun k => (getMeetupParticipants c cc k).toOption).getD []

theorem meetupOf_eq {cc : CommunityCeremony} {a : AccountId} {k : Nat} {members : List AccountId}
    (hk : getMeetupIndex c cc a = some k) (hmembers : getMeetupParticipants c cc k = .ok members) :
    meetupOf c cc a = members := by
  unfold meetupOf
  rw [hk, Option.bind_some, hmembers]
  rfl

theorem SameMeetups.meetupOf {cc : CommunityCeremony} (h : SameMeetups c c' cc)
    (hinv : RegistryInvariant c.registry) (hinv' : RegistryInvariant c'.registry) (a : AccountId) :
    meetupOf c' cc a = meetupOf c cc a := by
  unfold Encointer.meetupOf
  rw [h.getMeetupIndex hinv hinv']
  simp only [h.getMeetupParticipants]

def ballotsOf (c : CeremoniesStorage AccountId) (cc : CommunityCeremony)
    (submissions : AccountId → Option (Submission AccountId)) :
    AccountId → Option (Ballot AccountId) :=
  fun a => (submissions a).map fun submission =>
    ⟨submission.vote, verifiedAttestees a (meetupOf c cc a) submission.attestations⟩

theorem ballotsOf_ne_none_iff (c : CeremoniesStorage AccountId) (cc : CommunityCeremony)
    (submissions : AccountId → Option (Submission AccountId)) (a : AccountId) :
    ballotsOf c cc submissions a ≠ none ↔ submissions a ≠ none := by
  unfold ballotsOf
  rw [Ne, Option.map_eq_none_iff]

theorem ballotsOf_update (c : CeremoniesStorage AccountId) (cc : CommunityCeremony)
    (submissions : AccountId → Option (Submission AccountId)) (sender : AccountId)
    (submission : Submission AccountId) :
    ballotsOf c cc (Function.update submissions sender (some submission)) =
      Function.update (ballotsOf c cc submissions) sender (some ⟨submission.vote,
        verifiedAttestees sender (meetupOf c cc sender) submission.attestations⟩) := by
  funext a
  unfold ballotsOf
  by_cases heq : a = sender
  · rw [heq, Function.update_self, Function.update_self]
    rfl
  · rw [Function.update_of_ne heq, Function.update_of_ne heq]

/-! ## The invariant -/

/-- The box of a ceremony holds the ballots of all submissions, unless its meetups are purged. -/
structure BallotsRecorded (s : Runtime AccountId) (cc : CommunityCeremony)
    (submissions : AccountId → Option (Submission AccountId)) : Prop where
  attested : ∀ a, submissions a ≠ none → 3 * cc.2 + 2 ≤ s.scheduler.time
  held : ∃ ballots, (s.ceremonies.ballotBox cc).Holds ballots ∧
    (ballots = ballotsOf s.ceremonies cc submissions ∨
      3 * cc.2 + 2 ≤ s.scheduler.time ∧ s.ceremonies.meetupCount.get cc 0 = 0)

namespace BallotsRecorded

variable {cc : CommunityCeremony} {submissions : AccountId → Option (Submission AccountId)}

theorem genesis (genesis : GenesisConfig) (nativeBalances : StorageMap AccountId Nat)
    (assetBalances : StorageMap (AccountId × AssetKind) Nat) (cc : CommunityCeremony) :
    BallotsRecorded (genesis.build nativeBalances assetBalances) cc fun _ => none where
  attested := fun _ hsome => absurd rfl hsome
  held := ⟨_, BallotBox.holds_empty, .inl rfl⟩

private theorem keeps_nothing (h : BallotsRecorded s cc fun _ => none)
    (htime : s.scheduler.time ≤ s'.scheduler.time)
    (hstay : 3 * cc.2 + 2 ≤ s.scheduler.time → MeetupsStay s s' cc)
    (hbox : KeepsOrPurges s s' cc) : BallotsRecorded s' cc fun _ => none := by
  refine ⟨fun a ha => absurd rfl ha, ?_⟩
  rcases hbox with hkept | hempty
  · obtain ⟨ballots, hholds, hballots⟩ := h.held
    rw [hkept]
    refine ⟨ballots, hholds, ?_⟩
    rcases hballots with hnone | ⟨hattested, hzero⟩
    · exact .inl hnone
    · exact .inr ⟨hattested.trans htime, (hstay hattested).meetupCount_eq_zero hzero⟩
  · unfold CeremoniesStorage.ballotBox
    rw [hempty]
    exact ⟨_, BallotBox.holds_empty, .inl rfl⟩

/-- Without a submission, the box stays with the meetups, or the ceremony is purged. -/
theorem keeps (h : BallotsRecorded s cc submissions)
    (hinv : RegistryInvariant s.ceremonies.registry)
    (hinv' : RegistryInvariant s'.ceremonies.registry)
    (htime : s.scheduler.time ≤ s'.scheduler.time)
    (hstay : 3 * cc.2 + 2 ≤ s.scheduler.time → MeetupsStay s s' cc)
    (hbox : KeepsOrPurges s s' cc) : BallotsRecorded s' cc submissions := by
  by_cases hnone : submissions = fun _ => none
  · subst hnone
    exact h.keeps_nothing htime hstay hbox
  · obtain ⟨a, ha⟩ := Function.ne_iff.1 hnone
    have hattested := h.attested a ha
    have hattested' := hattested.trans htime
    have hmeetups := hstay hattested
    refine ⟨fun a ha => (h.attested a ha).trans htime, ?_⟩
    rcases hbox with hkept | hempty
    · obtain ⟨ballots, hholds, hballots⟩ := h.held
      rw [hkept]
      refine ⟨ballots, hholds, ?_⟩
      rcases hmeetups with hsame | hzero
      · rcases hballots with rfl | ⟨-, hzero⟩
        · left
          funext a
          unfold ballotsOf
          rw [hsame.meetupOf hinv hinv']
        · exact .inr ⟨hattested', hsame.meetupCount.trans hzero⟩
      · exact .inr ⟨hattested', hzero⟩
    · unfold CeremoniesStorage.ballotBox
      rw [hempty]
      exact ⟨_, BallotBox.holds_empty, .inr ⟨hattested', meetupCount_of_empty hempty⟩⟩

theorem submits {vote : Nat} {attestations : List AccountId}
    (h : BallotsRecorded s (cid, s.scheduler.currentCeremonyIndex) submissions)
    (hinv : RegistryInvariant s.ceremonies.registry) (hsame : SameRecords s.ceremonies c)
    (hsubmits : Submits config s c sender cid vote attestations) :
    BallotsRecorded { s with ceremonies := c } (cid, s.scheduler.currentCeremonyIndex)
      (Function.update submissions sender (some ⟨vote, attestations⟩)) := by
  obtain ⟨hattesting, k, members, hk, hmembers, hbox⟩ := hsubmits
  have hmeetups : SameMeetups s.ceremonies c (cid, s.scheduler.currentCeremonyIndex) :=
    .of_eq hsame.registry hsame.meetupCount hsame.assignmentCounts hsame.assignments
  have hinv' : RegistryInvariant c.registry := hsame.registry ▸ hinv
  have htime : s.scheduler.time = 3 * s.scheduler.currentCeremonyIndex + 2 := by
    simp only [SchedulerStorage.time, hattesting, CeremonyPhaseType.rank]
  refine ⟨fun _ _ => htime.ge, ?_⟩
  obtain ⟨ballots, hholds, hballots⟩ := h.held
  rcases hballots with rfl | ⟨-, hzero⟩
  · refine ⟨_, ?_, .inl rfl⟩
    have hold : ballotsOf c (cid, s.scheduler.currentCeremonyIndex) submissions =
        ballotsOf s.ceremonies (cid, s.scheduler.currentCeremonyIndex) submissions := by
      funext a
      unfold ballotsOf
      rw [hmeetups.meetupOf hinv hinv']
    rw [ballotsOf_update, hold, hmeetups.meetupOf hinv hinv', meetupOf_eq hk hmembers]
    have hsubmitted := hbox (cid, s.scheduler.currentCeremonyIndex)
    rw [if_pos rfl] at hsubmitted
    rw [hsubmitted]
    exact hholds.submit sender ⟨vote, verifiedAttestees sender members attestations⟩
  · have hbounds := (getMeetupParticipants_eq_ok.1 hmembers).1
    simp only [meetupCount, hzero] at hbounds
    omega

end BallotsRecorded

structure BallotsInvariant (chain : Chain AccountId)
    (submissions : CommunityCeremony → AccountId → Option (Submission AccountId)) : Prop where
  ceremonies : CeremoniesInvariant chain.runtime
  recorded : ∀ cc, BallotsRecorded chain.runtime cc (submissions cc)

theorem CeremoniesInvariant.step {chain : Chain AccountId}
    (hinv : CeremoniesInvariant chain.runtime)
    (action : Action AccountId) : CeremoniesInvariant (chain.step config action).runtime := by
  obtain ⟨_, -, ⟨claim, participants, hclaims⟩ | ⟨⟨effects, hchanges⟩, -⟩⟩ :=
    Chain.step_claims_or_changes config action hinv.registry
  · exact hinv.claim hclaims.effect hclaims.runtime
  · exact (RewardInvariant.changes hinv hchanges).1

namespace BallotsInvariant

variable {chain : Chain AccountId}
  {submissions : CommunityCeremony → AccountId → Option (Submission AccountId)}

theorem keeps {action : Action AccountId} (h : BallotsInvariant chain submissions)
    (hbox : ∀ cc, KeepsOrPurges chain.runtime (chain.step config action).runtime cc) :
    BallotsInvariant (chain.step config action) submissions := by
  have hinv' : CeremoniesInvariant (chain.step config action).runtime := h.ceremonies.step action
  refine ⟨hinv', ?_⟩
  intro cc
  apply (h.recorded cc).keeps h.ceremonies.registry hinv'.registry (chain.step_time_le config action)
  · intro hattested
    exact Chain.step_meetupsStay h.ceremonies.registry hattested action
  · exact hbox cc

theorem step (h : BallotsInvariant chain submissions) (action : Action AccountId) :
    BallotsInvariant (chain.step config action)
      (recordSubmission config chain action submissions) := by
  have hquiet (hattest : ∀ sender cid vote attestations,
      action ≠ .attestAttendees sender cid vote attestations) :
      BallotsInvariant (chain.step config action) submissions := by
    apply h.keeps
    intro cc
    rcases Chain.step_outcome config chain action with ⟨observations, -, houtcome⟩ | hfailed
    · exact houtcome.keepsOrPurges hattest cc
    · rw [hfailed]
      exact .inl rfl
  cases action with
  | attestAttendees sender cid vote attestations =>
      have hinv' : CeremoniesInvariant
          (chain.step config (.attestAttendees sender cid vote attestations)).runtime :=
        h.ceremonies.step _
      cases hcall : attestAttendees config chain.runtime sender cid vote attestations with
      | error e =>
          obtain ⟨hstep, hrecord⟩ := step_attestAttendees_failed submissions hcall
          rw [hstep, hrecord]
          exact h
      | ok c =>
          obtain ⟨hstep, hrecord⟩ := step_attestAttendees submissions hcall
          rw [hstep] at hinv' ⊢
          rw [hrecord]
          refine ⟨hinv', ?_⟩
          intro cc
          obtain ⟨hsame, -⟩ := attestAttendees_spec hcall
          have hsubmits := attestAttendees_submits hcall
          by_cases hcc : cc = (cid, chain.runtime.scheduler.currentCeremonyIndex)
          · rw [hcc, Function.update_self]
            exact (h.recorded _).submits h.ceremonies.registry hsame hsubmits
          · have hkept : KeepsOrPurges chain.runtime { chain.runtime with ceremonies := c } cc := by
              obtain ⟨-, _, _, -, -, hbox⟩ := hsubmits
              have hboxcc := hbox cc
              rw [if_neg hcc] at hboxcc
              exact .inl hboxcc
            rw [Function.update_of_ne hcc]
            exact (h.recorded cc).keeps h.ceremonies.registry hinv'.registry le_rfl
              (fun _ => .inl (.of_eq hsame.registry hsame.meetupCount hsame.assignmentCounts
                hsame.assignments)) hkept
  | _ => exact hquiet (by rintro _ _ _ _ ⟨⟩)

end BallotsInvariant

theorem ballots_run (config : Config AccountId) (genesis : GenesisConfig)
    (nativeBalances : StorageMap AccountId Nat)
    (assetBalances : StorageMap (AccountId × AssetKind) Nat) (actions : List (Action AccountId)) :
    BallotsInvariant ((Chain.genesis genesis nativeBalances assetBalances).run config actions)
      (lastSubmissions config (Chain.genesis genesis nativeBalances assetBalances) actions) := by
  have hgenesis : BallotsInvariant (Chain.genesis genesis nativeBalances assetBalances)
      (fun _ _ => none) :=
    ⟨.genesis genesis nativeBalances assetBalances,
      fun cc => .genesis genesis nativeBalances assetBalances cc⟩
  exact Machine.note_invariant_of_step (recordSubmission config) BallotsInvariant
    (fun _ action _ h => h.step action) hgenesis actions

/-! ## What is gathered -/

theorem map_attestationIndices {members attestees : List AccountId}
    (h : ∀ a ∈ attestees, a ∈ members) :
    (attestationIndices members attestees).map (fun j => members[j]?) = attestees.map some := by
  induction attestees with
  | nil => rfl
  | cons a attestees ih =>
      have ha : a ∈ members := h a List.mem_cons_self
      have hrest := ih fun b hb => h b (List.mem_cons_of_mem a hb)
      obtain ⟨j, hj⟩ : ∃ j, members.findIdx? (fun x => x = a) = some j := by
        rw [← Option.isSome_iff_exists, List.findIdx?_isSome, List.any_eq_true]
        exact ⟨a, ha, by simp⟩
      have hget : members[j]? = some a := by
        obtain ⟨hlt, hfound, -⟩ := List.findIdx?_eq_some_iff_getElem.1 hj
        rw [List.getElem?_eq_getElem hlt, of_decide_eq_true hfound]
      unfold attestationIndices at hrest ⊢
      have hcons : (a :: attestees).filterMap (fun p => members.findIdx? fun x => x = p) =
          j :: attestees.filterMap fun p => members.findIdx? fun x => x = p := by
        rw [List.filterMap_cons, hj]
      rw [hcons, List.map_cons, List.map_cons, hget, hrest]

/-- At the position of the member: its vote, and the positions of the members that it named. -/
def GathersSubmission (c : CeremoniesStorage AccountId) (cc : CommunityCeremony)
    (members : List AccountId) (i : Nat) (a : AccountId)
    (submission : Option (Submission AccountId)) : Prop :=
  ∃ row : List Nat, (gatherMeetupValidationData c cc members).1[i]? = some (voteOf submission) ∧
    (gatherMeetupValidationData c cc members).2[i]? = some row ∧
    (row.map fun j => members[j]?).Perm ((membersNamed members a submission).map some)

/-- What the box of a ceremony says about the members of its meetups. -/
structure FaithfulBallots (c : CeremoniesStorage AccountId) (cc : CommunityCeremony)
    (submissions : AccountId → Option (Submission AccountId)) : Prop where
  /-- Every member has the vote and the members that it named at last. -/
  gathered : ∀ (k : Nat) (members : List AccountId), getMeetupParticipants c cc k = .ok members →
    ∀ (i : Nat) (a : AccountId), members[i]? = some a → getMeetupIndex c cc a = some k →
      GathersSubmission c cc members i a (submissions a)
  distinct : ∀ a b number, c.attestationIndex.lookup (cc, a) = some number →
    c.attestationIndex.lookup (cc, b) = some number → a = b
  counted : ∃ voters : List AccountId, voters.Nodup ∧
    (∀ a, a ∈ voters ↔ c.attestationIndex.lookup (cc, a) ≠ none) ∧
    c.attestationCount.get cc 0 = voters.length
  /-- While the ceremony has meetups, those with an index are those that attested. -/
  attested : 0 < c.meetupCount.get cc 0 →
    ∀ a, c.attestationIndex.lookup (cc, a) ≠ none ↔ submissions a ≠ none

theorem perm_verifiedAttestees (members : List AccountId) (a : AccountId)
    (submission : Submission AccountId) :
    (verifiedAttestees a members submission.attestations).Perm
      (membersNamed members a (some submission)) :=
  List.reverse_perm _

theorem BallotsRecorded.gathered {cc : CommunityCeremony}
    {submissions : AccountId → Option (Submission AccountId)}
    (h : (s.ceremonies.ballotBox cc).Holds (ballotsOf s.ceremonies cc submissions)) {k i : Nat}
    {members : List AccountId} {a : AccountId}
    (hmembers : getMeetupParticipants s.ceremonies cc k = .ok members)
    (hi : members[i]? = some a) (hk : getMeetupIndex s.ceremonies cc a = some k) :
    GathersSubmission s.ceremonies cc members i a (submissions a) := by
  have hread := h.read_eq a
  unfold GathersSubmission
  rw [gatherMeetupValidationData_eq]
  simp only [List.getElem?_map, hi, Option.map_some, hread]
  refine ⟨_, ?_, rfl, ?_⟩
  · unfold ballotsOf voteOf
    cases submissions a <;> rfl
  · unfold ballotsOf
    cases hsubmission : submissions a with
    | none => exact List.Perm.refl _
    | some submission =>
        rw [Option.map_some, Option.getD_some, meetupOf_eq hk hmembers, map_attestationIndices]
        · exact (perm_verifiedAttestees members a submission).map some
        · intro b hb
          have hnamed := (perm_verifiedAttestees members a submission).mem_iff.1 hb
          exact (of_decide_eq_true (List.mem_filter.1 hnamed).2).2

/-- In every run, what is gathered for a meetup is what its members submitted last. -/
theorem ballots_recorded_faithfully (config : Config AccountId) (genesis : GenesisConfig)
    (nativeBalances : StorageMap AccountId Nat)
    (assetBalances : StorageMap (AccountId × AssetKind) Nat) (actions : List (Action AccountId))
    (cc : CommunityCeremony) :
    let start := Chain.genesis genesis nativeBalances assetBalances
    let c := (start.run config actions).runtime.ceremonies
    FaithfulBallots c cc (lastSubmissions config start actions cc) ∧
      (RegisteredCountsBelow c cc → ∀ k members, getMeetupParticipants c cc k = .ok members →
        ∀ a ∈ members, getMeetupIndex c cc a = some k) := by
  intro start c
  obtain ⟨hceremonies, hrecorded⟩ := ballots_run config genesis nativeBalances assetBalances actions
  obtain ⟨ballots, hholds, hballots⟩ := (hrecorded cc).held
  refine ⟨⟨?_, hholds.injective, ?_, ?_⟩, ?_⟩
  · intro k members hmembers i a hi hk
    rcases hballots with rfl | ⟨-, hzero⟩
    · exact BallotsRecorded.gathered hholds hmembers hi hk
    · have hbounds := (getMeetupParticipants_eq_ok.1 hmembers).1
      have hnone : meetupCount c cc = 0 := hzero
      omega
  · obtain ⟨voters, hnodup, hmem, hlength⟩ := hholds.counted
    refine ⟨voters, hnodup, ?_, hlength⟩
    intro a
    rw [hmem, ← hholds.index_isSome_iff, Option.isSome_iff_ne_none]
    rfl
  · intro hpos a
    rcases hballots with rfl | ⟨-, hzero⟩
    · rw [← ballotsOf_ne_none_iff, ← hholds.index_isSome_iff, Option.isSome_iff_ne_none]
      rfl
    · have hnone : c.meetupCount.get cc 0 = 0 := hzero
      omega
  · intro hbelow k members hmembers a ha
    exact ((hceremonies.meetupsAgree hbelow).mem_iff k members hmembers a).1 ha

example : (lastSubmissions Demo.runtimeConfig Demo.start Demo.firstCeremony (Demo.islanders, 1)) 1 =
    some ⟨3, [2, 3]⟩ := by decide +kernel

end Encointer
