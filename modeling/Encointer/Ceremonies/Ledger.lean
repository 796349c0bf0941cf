import Encointer.Ceremonies.Histories

/-!
# Tickets, endorsements and inactivity

Which actions touch the burned tickets, the endorsements, their counts and the
inactivity counters: endorsements, purges and phase changes. All others leave
the ledger of these as it is, although a registration may use up an endorsement.
-/

namespace Encointer

open Assignment

variable {AccountId : Type} [DecidableEq AccountId] {config : Config AccountId}
  {s s' : Runtime AccountId}

/-- The ledger of burned tickets, counted endorsements and inactive ceremonies. -/
structure SameLedger (c c' : CeremoniesStorage AccountId) : Prop where
  burnedBootstrapperNewbieTickets :
    c'.burnedBootstrapperNewbieTickets = c.burnedBootstrapperNewbieTickets
  burnedReputableNewbieTickets : c'.burnedReputableNewbieTickets = c.burnedReputableNewbieTickets
  endorseesCount : c'.endorseesCount = c.endorseesCount
  inactivityCounters : c'.inactivityCounters = c.inactivityCounters

section

omit [DecidableEq AccountId]

theorem SameLedger.refl (c : CeremoniesStorage AccountId) : SameLedger c c := ⟨rfl, rfl, rfl, rfl⟩

theorem SameLedger.trans {c c' c'' : CeremoniesStorage AccountId} (h : SameLedger c c')
    (h' : SameLedger c' c'') : SameLedger c c'' where
  burnedBootstrapperNewbieTickets :=
    h'.burnedBootstrapperNewbieTickets.trans h.burnedBootstrapperNewbieTickets
  burnedReputableNewbieTickets :=
    h'.burnedReputableNewbieTickets.trans h.burnedReputableNewbieTickets
  endorseesCount := h'.endorseesCount.trans h.endorseesCount
  inactivityCounters := h'.inactivityCounters.trans h.inactivityCounters

theorem CeremoniesStorage.setRegistry_ledger (c : CeremoniesStorage AccountId)
    (t : ParticipantType) (r : ParticipantRegistry AccountId) :
    SameLedger c (c.setRegistry t r) := by
  cases t <;> exact ⟨rfl, rfl, rfl, rfl⟩

end

/-! ## Calls -/

namespace Ceremonies

variable {cid : CommunityIdentifier} {cindex : Nat} {sender : AccountId}

def IsPending (c : CeremoniesStorage AccountId) (cc : CommunityCeremony) (newbie : AccountId) :
    Prop :=
  c.endorsees.contains (cc, newbie) = true

/-- The endorsements that are left, when `account` may have used one of its own. -/
structure PendingAfter (c c' : CeremoniesStorage AccountId) (cid : CommunityIdentifier)
    (account : AccountId) (used : Prop) : Prop where
  kept : ∀ cc newbie, IsPending c cc newbie →
    IsPending c' cc newbie ∨ used ∧ cc.1 = cid ∧ newbie = account
  old : ∀ cc newbie, IsPending c' cc newbie → IsPending c cc newbie

theorem PendingAfter.of_eq {c c' : CeremoniesStorage AccountId} {account : AccountId}
    {used : Prop} (h : c'.endorsees = c.endorsees) : PendingAfter c c' cid account used := by
  constructor
  · intro cc newbie hpending
    rw [IsPending, h]
    exact Or.inl hpending
  · intro cc newbie hpending
    rw [IsPending, h] at hpending
    exact hpending

theorem PendingAfter.from_eq {c c' c'' : CeremoniesStorage AccountId} {account : AccountId}
    {used : Prop} (h : PendingAfter c' c'' cid account used) (heq : c'.endorsees = c.endorsees) :
    PendingAfter c c'' cid account used := by
  constructor
  · intro cc newbie hpending
    rw [IsPending, ← heq] at hpending
    exact h.kept cc newbie hpending
  · intro cc newbie hpending
    have hold := h.old cc newbie hpending
    rw [IsPending, heq] at hold
    exact hold

theorem register_ledger {isReputable : Bool} {c : CeremoniesStorage AccountId}
    {t : ParticipantType} (h : register config s cid cindex sender isReputable = .ok (c, t)) :
    SameLedger s.ceremonies c ∧ PendingAfter s.ceremonies c cid sender (t = .endorsee) := by
  obtain ⟨r, -, hc, -⟩ := register_spec h
  have hset := s.ceremonies.setRegistry_ledger t r
  have hendorsees := setRegistry_endorsees s.ceremonies t r
  rcases hc with rfl | ⟨ht, endorsedCindex, rfl⟩
  · exact ⟨hset, .of_eq hendorsees⟩
  · refine ⟨⟨hset.1, hset.2, hset.3, hset.4⟩, ?_, ?_⟩
    · intro cc newbie hpending
      by_cases hused : (cc, newbie) = ((cid, endorsedCindex), sender)
      · rw [Prod.mk.injEq] at hused
        exact Or.inr ⟨ht, by rw [hused.1], hused.2⟩
      · refine Or.inl ?_
        rw [IsPending, hendorsees, StorageMap.contains, StorageMap.lookup_erase_eq, if_neg hused]
        exact hpending
    · intro cc newbie hpending
      rw [IsPending, hendorsees, StorageMap.contains, StorageMap.lookup_erase_eq] at hpending
      split at hpending
      · cases hpending
      · exact hpending

theorem removeParticipantFromRegistry_ledger {c : CeremoniesStorage AccountId}
    (h : removeParticipantFromRegistry s cid cindex sender = .ok c) :
    SameLedger s.ceremonies c ∧ c.endorsees = s.ceremonies.endorsees := by
  obtain ⟨-, t, -, rfl⟩ := removeParticipantFromRegistry_spec h
  exact ⟨s.ceremonies.setRegistry_ledger t _, setRegistry_endorsees s.ceremonies t _⟩

theorem linkProof_ledger {proof : Option (ProofOfAttendance AccountId)}
    {c : CeremoniesStorage AccountId} (h : linkProof config s cid cindex sender proof = .ok c) :
    SameLedger s.ceremonies c ∧ c.endorsees = s.ceremonies.endorsees := by
  cases proof with
  | none =>
      rw [linkProof, ok_inj] at h
      rw [← h]
      exact ⟨.refl _, rfl⟩
  | some p =>
      obtain ⟨-, -, rfl⟩ := linkReputation_spec h
      exact ⟨⟨rfl, rfl, rfl, rfl⟩, rfl⟩

theorem registerParticipant_ledger {proof : Option (ProofOfAttendance AccountId)}
    {c : CeremoniesStorage AccountId} {t : ParticipantType}
    (h : registerParticipant config s sender cid proof = .ok (c, t)) :
    SameLedger s.ceremonies c ∧ PendingAfter s.ceremonies c cid sender (t = .endorsee) := by
  obtain ⟨-, -, -, linked, hlink, hregister⟩ := registerParticipant_spec h
  obtain ⟨hledger, hendorsees⟩ := linkProof_ledger hlink
  obtain ⟨hledger', hpending⟩ := register_ledger hregister
  exact ⟨hledger.trans hledger', hpending.from_eq hendorsees⟩

theorem upgradeRegistration_ledger {proof : ProofOfAttendance AccountId}
    {c : CeremoniesStorage AccountId} {t : ParticipantType}
    (h : upgradeRegistration config s sender cid proof = .ok (c, t)) :
    SameLedger s.ceremonies c ∧ PendingAfter s.ceremonies c cid sender (t = .endorsee) := by
  obtain ⟨-, removed, hremove, hregister⟩ := upgradeRegistration_spec h
  obtain ⟨hledger, hendorsees⟩ := removeParticipantFromRegistry_ledger hremove
  obtain ⟨hledger', hpending⟩ := registerParticipant_ledger hregister
  exact ⟨hledger.trans hledger', hpending.from_eq hendorsees⟩

theorem unregisterParticipant_ledger {maybe : Option CommunityCeremony}
    {c : CeremoniesStorage AccountId} (h : unregisterParticipant s sender cid maybe = .ok c) :
    SameLedger s.ceremonies c ∧ c.endorsees = s.ceremonies.endorsees := by
  obtain ⟨-, t, refunded, -, hrefund, hremove⟩ := unregisterParticipant_spec h
  have hrefunded : SameLedger s.ceremonies refunded ∧
      refunded.endorsees = s.ceremonies.endorsees := by
    rcases refundReputation_spec hrefund with rfl | ⟨-, source, -, hunlink⟩
    · exact ⟨.refl _, rfl⟩
    · obtain ⟨-, rfl⟩ := unlinkReputation_spec hunlink
      exact ⟨⟨rfl, rfl, rfl, rfl⟩, rfl⟩
  obtain ⟨hledger, hendorsees⟩ := removeParticipantFromRegistry_ledger hremove
  exact ⟨hrefunded.1.trans hledger, hendorsees.trans hrefunded.2⟩

theorem attestAttendees_ledger {vote : Nat} {attestations : List AccountId}
    {c : CeremoniesStorage AccountId}
    (h : attestAttendees config s sender cid vote attestations = .ok c) :
    SameLedger s.ceremonies c ∧ c.endorsees = s.ceremonies.endorsees := by
  simp only [attestAttendees, addAttestationsToRegistry, bind_eq_ok, ensure_eq_ok, okOr_eq_ok,
    ok_inj, exists_const] at h
  obtain ⟨-, -, -, data, -, -, -, idx, -, -, rfl⟩ := h
  exact ⟨⟨rfl, rfl, rfl, rfl⟩, rfl⟩

theorem claimRewards_ledger {maybe : Option Nat} {claim : Claim AccountId}
    (h : claimRewards config s sender cid maybe = .ok claim) :
    SameLedger s.ceremonies claim.ceremonies ∧
      claim.ceremonies.endorsees = s.ceremonies.endorsees := by
  simp only [claimRewards, bind_eq_ok] at h
  obtain ⟨cindex, -, meetupIndex, -, -, -, participants, -, h⟩ := h
  split at h
  · simp only [bind_eq_ok, ok_inj] at h
    obtain ⟨-, -, rfl⟩ := h
    exact ⟨⟨rfl, rfl, rfl, rfl⟩, rfl⟩
  · simp only [bind_eq_ok, ok_inj] at h
    obtain ⟨-, -, -, -, ⟨c, balances, credited⟩, hissue, rfl⟩ := h
    obtain ⟨-, participantReputation, -, rfl⟩ := issueRewards_spec hissue
    exact ⟨⟨rfl, rfl, rfl, rfl⟩, rfl⟩

/-! ## Endorsements -/

structure BurnsReputable (s : Runtime AccountId) (c : CeremoniesStorage AccountId)
    (cc : CommunityCeremony) (sender : AccountId) : Prop where
  reputation : hasReputation s sender cc.1 = true
  left : s.ceremonies.burnedReputableNewbieTickets.get (cc, sender) 0 <
    s.ceremonies.endorsementTicketsPerReputable
  reputable : c.burnedReputableNewbieTickets = s.ceremonies.burnedReputableNewbieTickets.insert
    (cc, sender) (s.ceremonies.burnedReputableNewbieTickets.get (cc, sender) 0 + 1)
  bootstrapper : c.burnedBootstrapperNewbieTickets = s.ceremonies.burnedBootstrapperNewbieTickets

structure BurnsBootstrapper (s : Runtime AccountId) (c : CeremoniesStorage AccountId)
    (cc : CommunityCeremony) (sender : AccountId) : Prop where
  none_left : ¬ (hasReputation s sender cc.1 = true ∧
    s.ceremonies.burnedReputableNewbieTickets.get (cc, sender) 0 <
      s.ceremonies.endorsementTicketsPerReputable)
  bootstrapped : sender ∈ Communities.bootstrappers s.communities cc.1
  left : s.ceremonies.burnedBootstrapperNewbieTickets.get (cc.1, sender) 0 <
    s.ceremonies.endorsementTicketsPerBootstrapper
  bootstrapper : c.burnedBootstrapperNewbieTickets =
    s.ceremonies.burnedBootstrapperNewbieTickets.insert (cc.1, sender)
      (s.ceremonies.burnedBootstrapperNewbieTickets.get (cc.1, sender) 0 + 1)
  reputable : c.burnedReputableNewbieTickets = s.ceremonies.burnedReputableNewbieTickets

structure Endorses (s : Runtime AccountId) (c : CeremoniesStorage AccountId)
    (cc : CommunityCeremony) (sender newbie : AccountId) (t : Option ParticipantType) : Prop where
  registered : cc.1 ∈ s.communities.communityIdentifiers
  cindex : cc.2 = endorsementCindex s
  free : isEndorsed s.ceremonies newbie cc = none
  burns : BurnsReputable s c cc sender ∨ BurnsBootstrapper s c cc sender
  counted : c.endorseesCount = s.ceremonies.endorseesCount.insert cc
    (s.ceremonies.endorseeRegistry.count.get cc 0 + 1)
  inactivityCounters : c.inactivityCounters = s.ceremonies.inactivityCounters
  pending : IsPending c cc newbie ∨ t = some .endorsee
  kept : ∀ cc' newbie', IsPending s.ceremonies cc' newbie' →
    IsPending c cc' newbie' ∨ t = some .endorsee ∧ cc'.1 = cc.1 ∧ newbie' = newbie
  old : ∀ cc' newbie', IsPending c cc' newbie' →
    IsPending s.ceremonies cc' newbie' ∨ cc' = cc

private theorem reregisterNewbie_ledger {c : CeremoniesStorage AccountId}
    {t : Option ParticipantType}
    (h : reregisterNewbie config s cid cindex sender = .ok (c, t)) :
    SameLedger s.ceremonies c ∧
      PendingAfter s.ceremonies c cid sender (t = some .endorsee) := by
  rcases reregisterNewbie_spec h with ⟨rfl, rfl⟩ | ⟨removed, t', rfl, -, hremove, hregister⟩
  · exact ⟨.refl _, .of_eq rfl⟩
  · obtain ⟨hledger, hendorsees⟩ := removeParticipantFromRegistry_ledger hremove
    obtain ⟨hledger', hpending⟩ := register_ledger hregister
    rw [Option.some.injEq]
    exact ⟨hledger.trans hledger', hpending.from_eq hendorsees⟩

theorem endorseNewcomer_ledger {newbie : AccountId} {c : CeremoniesStorage AccountId}
    {t : Option ParticipantType} (h : endorseNewcomer config s sender cid newbie = .ok (c, t)) :
    Endorses s c (cid, endorsementCindex s) sender newbie t := by
  simp only [endorseNewcomer, bind_eq_ok, ensure_eq_ok, okOr_eq_ok, exists_const] at h
  obtain ⟨hregistered, hfree, burned, hburn, count, hcount, hreregister⟩ := h
  obtain ⟨hledger, hpendingAfter⟩ := reregisterNewbie_ledger hreregister
  have hinserted (cc' : CommunityCeremony) (newbie' : AccountId) :
      (StorageMap.contains (burned.endorsees.insert ((cid, endorsementCindex s), newbie) ())
        (cc', newbie')) = true ↔
      (cc', newbie') = ((cid, endorsementCindex s), newbie) ∨
        burned.endorsees.contains (cc', newbie') = true := by
    rw [StorageMap.contains_insert]
    simp
  have hburned : (BurnsReputable s burned (cid, endorsementCindex s) sender ∨
        BurnsBootstrapper s burned (cid, endorsementCindex s) sender) ∧
      burned.endorsees = s.ceremonies.endorsees ∧
      burned.endorseesCount = s.ceremonies.endorseesCount ∧
      burned.endorseeRegistry = s.ceremonies.endorseeRegistry ∧
      burned.inactivityCounters = s.ceremonies.inactivityCounters := by
    simp only [burnNewbieTickets, ite_eq_ok, ok_inj, error_ne_ok] at hburn
    rcases hburn with ⟨⟨hreputation, hleft⟩, rfl⟩ | ⟨hnone, hburn⟩
    · exact ⟨Or.inl ⟨hreputation, hleft, rfl, rfl⟩, rfl, rfl, rfl, rfl⟩
    · rcases hburn with ⟨⟨hbootstrapper, hleft⟩, rfl⟩ | ⟨-, hfalse⟩
      · exact ⟨Or.inr ⟨hnone, hbootstrapper, hleft, rfl, rfl⟩, rfl, rfl, rfl, rfl⟩
      · exact hfalse.elim
  obtain ⟨hburns, hendorsees, hcounts, hregistry, hinactivity⟩ := hburned
  have hreputable := hledger.burnedReputableNewbieTickets
  have hbootstrapper := hledger.burnedBootstrapperNewbieTickets
  constructor
  · exact hregistered
  · rfl
  · exact hfree
  · rcases hburns with hburns | hburns
    · exact Or.inl ⟨hburns.reputation, hburns.left, hreputable.trans hburns.reputable,
        hbootstrapper.trans hburns.bootstrapper⟩
    · exact Or.inr ⟨hburns.none_left, hburns.bootstrapped, hburns.left,
        hbootstrapper.trans hburns.bootstrapper, hreputable.trans hburns.reputable⟩
  · rw [hledger.endorseesCount, ← (Checked.toU64_eq_some.1 hcount).2, hregistry, hcounts]
  · exact hledger.inactivityCounters.trans hinactivity
  · rcases hpendingAfter.kept _ _ ((hinserted _ _).2 (Or.inl rfl)) with hpending | ⟨ht, -⟩
    · exact Or.inl hpending
    · exact Or.inr ht
  · intro cc' newbie' hpending
    rw [IsPending, ← hendorsees] at hpending
    exact hpendingAfter.kept cc' newbie' ((hinserted cc' newbie').2 (Or.inr hpending))
  · intro cc' newbie' hpending
    rcases (hinserted cc' newbie').1 (hpendingAfter.old cc' newbie' hpending) with heq | hold
    · rw [Prod.mk.injEq] at heq
      exact Or.inr heq.1
    · rw [hendorsees] at hold
      exact Or.inl hold

end Ceremonies

/-! ## Actions -/

namespace Dispatch

open Ceremonies

theorem dispatchQuiet_currentPhase {action : Action AccountId} (haction : ¬ MayChangePhase action)
    (h : dispatchQuiet config s action = .ok s') :
    s'.scheduler.currentPhase = s.scheduler.currentPhase := by
  rcases dispatchQuiet_enters_or_keeps h with ⟨hchanges, -⟩ | ⟨effects, hphase, -⟩
  · exact absurd hchanges haction
  · exact hphase

/-- What a quiet action within a phase does to the ceremonies storage. -/
inductive CeremoniesCall (config : Config AccountId) (s s' : Runtime AccountId) :
    Action AccountId → Prop where
  | unregister (sender : AccountId) (cid : CommunityIdentifier) (maybe : Option CommunityCeremony)
      (c : CeremoniesStorage AccountId) (hcall : unregisterParticipant s sender cid maybe = .ok c)
      (hs : s' = { s with ceremonies := c }) :
      CeremoniesCall config s s' (.unregisterParticipant sender cid maybe)
  | attest (sender : AccountId) (cid : CommunityIdentifier) (vote : Nat)
      (attestations : List AccountId) (c : CeremoniesStorage AccountId)
      (hcall : attestAttendees config s sender cid vote attestations = .ok c)
      (hs : s' = { s with ceremonies := c }) :
      CeremoniesCall config s s' (.attestAttendees sender cid vote attestations)
  | purge (cc : CommunityCeremony)
      (hs : s' = { s with ceremonies := purgeCommunityCeremonyInternal s.ceremonies cc }) :
      CeremoniesCall config s s' (.purgeCommunityCeremony cc)
  | parameters (action : Action AccountId)
      (historyAt : ∀ cc, s'.ceremonies.historyAt cc = s.ceremonies.historyAt cc)
      (ledger : SameLedger s.ceremonies s'.ceremonies)
      (endorsees : s'.ceremonies.endorsees = s.ceremonies.endorsees) :
      CeremoniesCall config s s' action

theorem dispatchQuiet_ceremonies {action : Action AccountId} (haction : ¬ MayChangePhase action)
    (h : dispatchQuiet config s action = .ok s') : CeremoniesCall config s s' action := by
  cases action with
  | beginBlock now random => exact absurd trivial haction
  | nextPhase random => exact absurd trivial haction
  | purgeCommunityCeremony cc =>
      simp only [dispatchQuiet, ok_inj] at h
      exact .purge cc h.symm
  | unregisterParticipant sender cid maybe =>
      simp only [dispatchQuiet, bind_eq_ok, ok_inj] at h
      obtain ⟨c, hunregister, hs⟩ := h
      exact .unregister sender cid maybe c hunregister hs.symm
  | attestAttendees sender cid vote attestations =>
      simp only [dispatchQuiet, bind_eq_ok, ok_inj] at h
      obtain ⟨c, hattest, hs⟩ := h
      exact .attest sender cid vote attestations c hattest hs.symm
  | setMeetupTimeOffset meetupTimeOffset =>
      simp only [dispatchQuiet, setMeetupTimeOffset, bind_eq_ok, ok_inj] at h
      obtain ⟨c, ⟨-, -, -, -, rfl⟩, rfl⟩ := h
      exact .parameters _ (fun _ => rfl) ⟨rfl, rfl, rfl, rfl⟩ rfl
  | setInactivityTimeout inactivityTimeout =>
      simp only [dispatchQuiet, ok_inj] at h
      rw [← h]
      exact .parameters _ (fun _ => rfl) ⟨rfl, rfl, rfl, rfl⟩ rfl
  | setEndorsementTicketsPerBootstrapper tickets =>
      simp only [dispatchQuiet, ok_inj] at h
      rw [← h]
      exact .parameters _ (fun _ => rfl) ⟨rfl, rfl, rfl, rfl⟩ rfl
  | setEndorsementTicketsPerReputable tickets =>
      simp only [dispatchQuiet, ok_inj] at h
      rw [← h]
      exact .parameters _ (fun _ => rfl) ⟨rfl, rfl, rfl, rfl⟩ rfl
  | setReputationLifetime reputationLifetime =>
      simp only [dispatchQuiet, ok_inj] at h
      rw [← h]
      exact .parameters _ (fun _ => rfl) ⟨rfl, rfl, rfl, rfl⟩ rfl
  | setTimeTolerance timeTolerance =>
      simp only [dispatchQuiet, ok_inj] at h
      rw [← h]
      exact .parameters _ (fun _ => rfl) ⟨rfl, rfl, rfl, rfl⟩ rfl
  | setLocationTolerance locationTolerance =>
      simp only [dispatchQuiet, ok_inj] at h
      rw [← h]
      exact .parameters _ (fun _ => rfl) ⟨rfl, rfl, rfl, rfl⟩ rfl
  | _ =>
      have hsame : s'.ceremonies = s.ceremonies := by
        simp only [dispatchQuiet, bind_eq_ok, ok_inj] at h
        grind
      refine .parameters _ ?_ ?_ ?_
      · intro cc
        rw [hsame]
      · rw [hsame]
        exact .refl _
      · rw [hsame]

/-- Within a phase, only the purge of a ceremony is not silent. -/
theorem dispatchQuiet_ledger {action : Action AccountId} (haction : ¬ MayChangePhase action)
    (h : dispatchQuiet config s action = .ok s') :
    s'.scheduler.currentPhase = s.scheduler.currentPhase ∧
        SameLedger s.ceremonies s'.ceremonies ∧
        s'.ceremonies.endorsees = s.ceremonies.endorsees ∨
      ∃ cc, action = .purgeCommunityCeremony cc ∧
        s' = { s with ceremonies := purgeCommunityCeremonyInternal s.ceremonies cc } := by
  have hphase := dispatchQuiet_currentPhase haction h
  cases dispatchQuiet_ceremonies haction h with
  | unregister sender cid maybe c hcall hs =>
      subst hs
      exact Or.inl ⟨hphase, unregisterParticipant_ledger hcall⟩
  | attest sender cid vote attestations c hcall hs =>
      subst hs
      exact Or.inl ⟨hphase, attestAttendees_ledger hcall⟩
  | purge cc hs => exact Or.inr ⟨cc, rfl, hs⟩
  | parameters _ historyAt ledger endorsees => exact Or.inl ⟨hphase, ledger, endorsees⟩

/-- What an action does to the ledger. -/
inductive LedgerStep (config : Config AccountId) (s : Runtime AccountId)
    (action : Action AccountId) (s' : Runtime AccountId)
    (observations : List (Observation AccountId)) : Prop where
  | same (phase : s'.scheduler.currentPhase = s.scheduler.currentPhase)
      (ledger : SameLedger s.ceremonies s'.ceremonies)
      (kept : ∀ cc newbie, IsPending s.ceremonies cc newbie →
        IsPending s'.ceremonies cc newbie ∨
          ∃ c reputation, .registered (cc.1, c) newbie .endorsee reputation ∈ observations)
      (old : ∀ cc newbie, IsPending s'.ceremonies cc newbie → IsPending s.ceremonies cc newbie)
      (silent : ∀ cc sender newbie, .endorsed cc sender newbie ∉ observations)
  | endorse (cid : CommunityIdentifier) (sender newbie : AccountId) (t : Option ParticipantType)
      (haction : action = .endorseNewcomer sender cid newbie)
      (h : Endorses s s'.ceremonies (cid, endorsementCindex s) sender newbie t)
      (hscheduler : s'.scheduler = s.scheduler)
      (hobs : observations = .endorsed (cid, endorsementCindex s) sender newbie ::
        t.toList.map fun t => .registered (cid, endorsementCindex s) newbie t none)
  | purge (cc : CommunityCeremony) (haction : action = .purgeCommunityCeremony cc)
      (hs : s' = { s with ceremonies := purgeCommunityCeremonyInternal s.ceremonies cc })
      (hobs : observations = [])
  | phase (newPhase : CeremonyPhaseType) (haction : MayChangePhase action)
      (hcall : dispatchQuiet config s action = .ok s') (h : Enters config s s' newPhase)
      (hobs : observations = [])

private theorem commitmentObservations_not_endorsed (action : Action AccountId)
    (cc : CommunityCeremony)
    (sender newbie : AccountId) : .endorsed cc sender newbie ∉ commitmentObservations s action := by
  cases action <;> simp [commitmentObservations]

theorem Outcome.ledger {action : Action AccountId} {observations : List (Observation AccountId)}
    (h : Outcome config s action s' observations) :
    LedgerStep config s action s' observations := by
  have hsilent (hphase : s'.scheduler.currentPhase = s.scheduler.currentPhase)
      (hledger : SameLedger s.ceremonies s'.ceremonies)
      (hendorsees : s'.ceremonies.endorsees = s.ceremonies.endorsees)
      (hobs : ∀ cc sender newbie, .endorsed cc sender newbie ∉ observations) :
      LedgerStep config s action s' observations := by
    refine .same hphase hledger ?_ ?_ hobs
    · intro cc newbie hpending
      rw [IsPending, hendorsees]
      exact Or.inl hpending
    · intro cc newbie hpending
      rw [IsPending, hendorsees] at hpending
      exact hpending
  cases h with
  | register sender cid proof c t haction hcall hs hobs =>
      obtain ⟨hledger, hkept, hold⟩ := registerParticipant_ledger hcall
      subst hs hobs
      refine .same rfl hledger ?_ hold (by simp)
      intro cc newbie hpending
      rcases hkept cc newbie hpending with hpending | ⟨rfl, rfl, rfl⟩
      · exact Or.inl hpending
      · exact Or.inr ⟨_, _, List.mem_cons_self⟩
  | upgrade sender cid proof c t haction hcall hs hobs =>
      obtain ⟨hledger, hkept, hold⟩ := upgradeRegistration_ledger hcall
      subst hs hobs
      refine .same rfl hledger ?_ hold (by simp)
      intro cc newbie hpending
      rcases hkept cc newbie hpending with hpending | ⟨rfl, rfl, rfl⟩
      · exact Or.inl hpending
      · exact Or.inr ⟨_, _, List.mem_cons_self⟩
  | endorse sender cid newbie c t haction hcall hs hobs =>
      subst hs
      exact .endorse cid sender newbie t haction (endorseNewcomer_ledger hcall) rfl hobs
  | claim sender cid maybeMeetupIndex claim haction hcall hs hobs =>
      obtain ⟨hledger, hendorsees⟩ := claimRewards_ledger hcall
      subst hs hobs
      exact hsilent rfl hledger hendorsees (by simp)
  | submit proposalAction commitments democracy cindexes haction hcall hcindexes hs hobs =>
      subst hs hobs
      exact hsilent rfl (.refl _) rfl (by simp)
  | vote sender proposalId vote reputations commitments democracy counted purpose haction hcall
      hpurpose hs hobs =>
      subst hs hobs
      exact hsilent rfl (.refl _) rfl (by simp)
  | quiet hcall hobs heffects =>
      subst hobs
      have hobs := commitmentObservations_not_endorsed (s := s) action
      by_cases hphase : MayChangePhase action
      · rcases mayChangePhase_enters_or_ticks hphase hcall with ⟨newPhase, henters⟩ | hticks
        · refine .phase newPhase hphase hcall henters ?_
          cases action with
          | beginBlock now random => rfl
          | nextPhase random => rfl
          | _ => cases hphase
        · have hsame := hticks.phase
          obtain ⟨now, blockNumber, scheduler, rfl⟩ := hticks.runtime
          exact hsilent hsame (.refl _) rfl hobs
      · rcases dispatchQuiet_ledger hphase hcall with ⟨hsame, hledger, hendorsees⟩ | ⟨cc, rfl, hs⟩
        · exact hsilent hsame hledger hendorsees hobs
        · exact .purge cc rfl hs rfl

end Dispatch

end Encointer
