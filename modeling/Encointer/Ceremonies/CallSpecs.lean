import Encointer.Runtime.Changes
import Encointer.MeetupValidation.Specs

/-!
# What the ceremonies pallet does

One lemma for each operation says what a success requires and what it writes;
from it, the operation is a sequence of elementary changes.
-/

namespace Encointer

open Assignment

variable {AccountId : Type} [DecidableEq AccountId] {config : Config AccountId}

/-! ## Registration -/

namespace Ceremonies

variable {s : Runtime AccountId} {cid : CommunityIdentifier} {cindex : Nat}
  {sender : AccountId}

theorem addToRegistry_spec {c c' : CeremoniesStorage AccountId} {t : ParticipantType}
    {cc : CommunityCeremony} (h : addToRegistry c t cc sender = .ok c') :
    ∃ r, (c.registry t).register cc sender = some r ∧ c' = c.setRegistry t r := by
  simp only [addToRegistry, bind_eq_ok, okOr_eq_ok, ok_inj] at h
  obtain ⟨r, hr, rfl⟩ := h
  exact ⟨r, hr, rfl⟩

/-- An endorsed participant uses up the endorsement; only a proof makes reputable. -/
theorem register_spec {isReputable : Bool} {c : CeremoniesStorage AccountId}
    {t : ParticipantType} (h : register config s cid cindex sender isReputable = .ok (c, t)) :
    ∃ r, (s.ceremonies.registry t).register (cid, cindex) sender = some r ∧
      (c = s.ceremonies.setRegistry t r ∨ t = .endorsee ∧ ∃ endorsedCindex,
        c = { s.ceremonies.setRegistry t r with
          endorsees :=
            (s.ceremonies.setRegistry t r).endorsees.erase ((cid, endorsedCindex), sender) }) ∧
      (t = .reputable → isReputable = true) := by
  unfold register at h
  simp only [ite_eq_ok, bind_eq_ok, ok_inj, Prod.mk.injEq, error_ne_ok] at h
  rcases h with ⟨-, c', hadd, rfl, rfl⟩ | ⟨-, h⟩
  · obtain ⟨r, hr, rfl⟩ := addToRegistry_spec hadd
    exact ⟨r, hr, Or.inl rfl, by simp⟩
  · rcases h with ⟨-, hfalse⟩ | ⟨-, h⟩
    · exact hfalse.elim
    · rcases h with ⟨hrep, c', hadd, rfl, rfl⟩ | ⟨-, h⟩
      · obtain ⟨r, hr, rfl⟩ := addToRegistry_spec hadd
        exact ⟨r, hr, Or.inl rfl, fun _ => hrep⟩
      · cases hendorsed : isEndorsed s.ceremonies sender (cid, cindex) with
        | none =>
            simp only [hendorsed, bind_eq_ok, ok_inj, Prod.mk.injEq] at h
            obtain ⟨c', hadd, rfl, rfl⟩ := h
            obtain ⟨r, hr, rfl⟩ := addToRegistry_spec hadd
            exact ⟨r, hr, Or.inl rfl, by simp⟩
        | some endorsedCindex =>
            simp only [hendorsed, bind_eq_ok, ok_inj, Prod.mk.injEq] at h
            obtain ⟨c', hadd, rfl, rfl⟩ := h
            obtain ⟨r, hr, rfl⟩ := addToRegistry_spec hadd
            exact ⟨r, hr, Or.inr ⟨rfl, endorsedCindex, rfl⟩, by simp⟩

theorem register_changes {isReputable : Bool} {c : CeremoniesStorage AccountId}
    {t : ParticipantType} (opened : s.scheduler.RegistrationOpen cindex)
    (free : ∀ t, (s.ceremonies.registry t).index.lookup ((cid, cindex), sender) = none)
    (h : register config s cid cindex sender isReputable = .ok (c, t)) :
    Changes config s [.add t (cid, cindex) sender] { s with ceremonies := c } := by
  obtain ⟨r, hr, hc, -⟩ := register_spec h
  have hadd : Change config s _ _ := .add t (cid, cindex) sender r opened free hr
  rcases hc with rfl | ⟨-, endorsedCindex, rfl⟩
  · exact hadd.changes
  · exact hadd.changes.silent (.consumeEndorsement (cid, endorsedCindex) sender)

theorem removeParticipantFromRegistry_spec {c : CeremoniesStorage AccountId}
    (h : removeParticipantFromRegistry s cid cindex sender = .ok c) :
    s.scheduler.currentPhase = .registering ∧
      ∃ t, getParticipantType s.ceremonies (cid, cindex) sender = some t ∧
        c = s.ceremonies.setRegistry t
          ((s.ceremonies.registry t).removeParticipantFromRegistry (cid, cindex) sender) := by
  simp only [removeParticipantFromRegistry, bind_eq_ok, ensure_eq_ok, okOr_eq_ok, ok_inj] at h
  obtain ⟨-, hphase, t, ht, rfl⟩ := h
  exact ⟨hphase, t, ht, rfl⟩

theorem removeParticipantFromRegistry_changes {c : CeremoniesStorage AccountId}
    (opened : s.scheduler.RegistrationOpen cindex)
    (h : removeParticipantFromRegistry s cid cindex sender = .ok c) :
    Changes config s [.remove (cid, cindex) sender] { s with ceremonies := c } := by
  obtain ⟨-, t, ht, rfl⟩ := removeParticipantFromRegistry_spec h
  exact (Change.remove t (cid, cindex) sender opened (contains_of_getParticipantType ht)).changes

omit [DecidableEq AccountId] in
theorem registrationOpen_registrationCindex (s : Runtime AccountId)
    (h : s.scheduler.currentPhase.isRegisteringOrAttesting = true) :
    s.scheduler.RegistrationOpen (registrationCindex s) := by
  unfold registrationCindex SchedulerStorage.RegistrationOpen
  cases hphase : s.scheduler.currentPhase with
  | registering => simp
  | assigning =>
      rw [hphase] at h
      exact absurd h (by decide)
  | attesting => simp

theorem linkReputation_spec {p : ProofOfAttendance AccountId} {c : CeremoniesStorage AccountId}
    (h : linkReputation config s cid cindex sender p = .ok c) :
    p.ceremonyIndex < cindex ∧
      (participantReputation s.ceremonies p.source
        p.attendeePublic).isVerifiedAndUnlinkedForCindex cindex = true ∧
      c = { s.ceremonies with
        participantReputation :=
          (s.ceremonies.participantReputation.insert (p.source, p.attendeePublic)
            (.verifiedLinked cindex)).insert ((cid, cindex), sender) .unverifiedReputable } := by
  simp only [linkReputation, bind_eq_ok, ensure_eq_ok, ok_inj, exists_const] at h
  obtain ⟨-, hcausal, -, hunlinked, -, -, rfl⟩ := h
  exact ⟨hcausal, hunlinked, rfl⟩

/-- What a successful registration did, in two steps. -/
theorem registerParticipant_spec {proof : Option (ProofOfAttendance AccountId)}
    {c : CeremoniesStorage AccountId} {t : ParticipantType}
    (h : registerParticipant config s sender cid proof = .ok (c, t)) :
    s.scheduler.currentPhase.isRegisteringOrAttesting = true ∧
      cid ∈ s.communities.communityIdentifiers ∧
      isRegistered s.ceremonies cid (registrationCindex s) sender = false ∧
      ∃ linked, linkProof config s cid (registrationCindex s) sender proof = .ok linked ∧
        register config { s with ceremonies := linked } cid (registrationCindex s) sender
          proof.isSome = .ok (c, t) := by
  simp only [registerParticipant, bind_eq_ok, ensure_eq_ok, exists_const] at h
  exact h

private theorem linkProof_registry {proof : Option (ProofOfAttendance AccountId)}
    {c : CeremoniesStorage AccountId} (h : linkProof config s cid cindex sender proof = .ok c) :
    c.registry = s.ceremonies.registry := by
  cases proof with
  | none =>
      simp only [linkProof, ok_inj] at h
      rw [← h]
  | some p =>
      obtain ⟨-, -, rfl⟩ := linkReputation_spec h
      rfl

def linkEffects (cc : CommunityCeremony) (sender : AccountId)
    (proof : Option (ProofOfAttendance AccountId)) : List (Effect AccountId) :=
  proof.toList.map fun p => .link cc sender (Dispatch.provenReputation p)

private theorem linkProof_changes {proof : Option (ProofOfAttendance AccountId)}
    {c : CeremoniesStorage AccountId} (opened : s.scheduler.RegistrationOpen cindex)
    (h : linkProof config s cid cindex sender proof = .ok c) :
    Changes config s (linkEffects (cid, cindex) sender proof) { s with ceremonies := c } := by
  cases proof with
  | none =>
      simp only [linkProof, ok_inj] at h
      rw [← h]
      exact .refl
  | some p => exact (Change.link cid cindex sender p c opened h).changes

theorem registerParticipant_changes {proof : Option (ProofOfAttendance AccountId)}
    {c : CeremoniesStorage AccountId} {t : ParticipantType}
    (h : registerParticipant config s sender cid proof = .ok (c, t)) :
    Changes config s
      (linkEffects (cid, registrationCindex s) sender proof ++
        [.add t (cid, registrationCindex s) sender]) { s with ceremonies := c } := by
  obtain ⟨hphase, -, hfree, linked, hlink, hregister⟩ := registerParticipant_spec h
  have opened := registrationOpen_registrationCindex s hphase
  have free := isRegistered_eq_false_iff.1 hfree
  rw [← linkProof_registry hlink] at free
  exact (linkProof_changes opened hlink).trans (register_changes opened free hregister)

theorem registerParticipant_type {proof : Option (ProofOfAttendance AccountId)}
    {c : CeremoniesStorage AccountId} {t : ParticipantType}
    (h : registerParticipant config s sender cid proof = .ok (c, t)) :
    t = .reputable → proof.isSome = true := by
  obtain ⟨-, -, -, linked, -, hregister⟩ := registerParticipant_spec h
  obtain ⟨-, -, -, htype⟩ := register_spec hregister
  exact htype

theorem upgradeRegistration_spec {proof : ProofOfAttendance AccountId}
    {c : CeremoniesStorage AccountId} {t : ParticipantType}
    (h : upgradeRegistration config s sender cid proof = .ok (c, t)) :
    s.scheduler.currentPhase.isRegisteringOrAttesting = true ∧
      ∃ removed,
        removeParticipantFromRegistry s cid (registrationCindex s) sender = .ok removed ∧
        registerParticipant config { s with ceremonies := removed } sender cid (some proof) =
          .ok (c, t) := by
  simp only [upgradeRegistration, bind_eq_ok, ensure_eq_ok, okOr_eq_ok, exists_const, ite_eq_ok,
    error_ne_ok, and_false, or_false] at h
  obtain ⟨-, hphase, _, -, -, removed, hremove, hregister⟩ := h
  exact ⟨hphase, removed, hremove, hregister⟩

theorem upgradeRegistration_changes {proof : ProofOfAttendance AccountId}
    {c : CeremoniesStorage AccountId} {t : ParticipantType}
    (h : upgradeRegistration config s sender cid proof = .ok (c, t)) :
    Changes config s
      [.remove (cid, registrationCindex s) sender,
        .link (cid, registrationCindex s) sender (Dispatch.provenReputation proof),
        .add t (cid, registrationCindex s) sender] { s with ceremonies := c } := by
  obtain ⟨hphase, removed, hremove, hregister⟩ := upgradeRegistration_spec h
  have opened := registrationOpen_registrationCindex s hphase
  exact (removeParticipantFromRegistry_changes opened hremove).trans
    (registerParticipant_changes hregister)

theorem unlinkReputation_spec {cc : CommunityCeremony} {c : CeremoniesStorage AccountId}
    (h : unlinkReputation s cid cindex sender cc = .ok c) :
    participantReputation s.ceremonies cc sender = .verifiedLinked cindex ∧
      c = { s.ceremonies with
        participantReputation :=
          (s.ceremonies.participantReputation.insert (cc, sender) .verifiedUnlinked).erase
            ((cid, cindex), sender) } := by
  simp only [unlinkReputation, bind_eq_ok, ensure_eq_ok, ok_inj, exists_const] at h
  obtain ⟨-, hlinked, rfl⟩ := h
  exact ⟨hlinked, rfl⟩

/-- A refund either changes nothing or unlinks the named reputation. -/
theorem refundReputation_spec {t : ParticipantType} {maybe : Option CommunityCeremony}
    {c : CeremoniesStorage AccountId}
    (h : refundReputation s cid cindex sender t maybe = .ok c) :
    c = s.ceremonies ∨
      ((t = .bootstrapper ∨ t = .reputable) ∧
        ∃ cc, maybe = some cc ∧ unlinkReputation s cid cindex sender cc = .ok c) := by
  cases t with
  | bootstrapper =>
      cases maybe with
      | none =>
          simp only [refundReputation, ok_inj] at h
          exact Or.inl h.symm
      | some cc => exact Or.inr ⟨Or.inl rfl, cc, rfl, h⟩
  | reputable =>
      cases maybe with
      | none => exact absurd h (by simp [refundReputation])
      | some cc => exact Or.inr ⟨Or.inr rfl, cc, rfl, h⟩
  | endorsee =>
      simp only [refundReputation, ok_inj] at h
      exact Or.inl h.symm
  | newbie =>
      simp only [refundReputation, ok_inj] at h
      exact Or.inl h.symm

theorem unregisterParticipant_spec {maybe : Option CommunityCeremony}
    {c : CeremoniesStorage AccountId} (h : unregisterParticipant s sender cid maybe = .ok c) :
    s.scheduler.currentPhase.isRegisteringOrAttesting = true ∧
      ∃ t refunded, getParticipantType s.ceremonies (cid, registrationCindex s) sender = some t ∧
        refundReputation s cid (registrationCindex s) sender t maybe = .ok refunded ∧
        removeParticipantFromRegistry { s with ceremonies := refunded } cid
          (registrationCindex s) sender = .ok c := by
  simp only [unregisterParticipant, bind_eq_ok, ensure_eq_ok, okOr_eq_ok, exists_const] at h
  obtain ⟨hphase, -, t, ht, refunded, hrefund, hremove⟩ := h
  exact ⟨hphase, t, refunded, ht, hrefund, hremove⟩

/-- A refund of the reputation that unregistering accepts. -/
def RefundEffects (s : Runtime AccountId) (sender : AccountId) (cid : CommunityIdentifier)
    (maybe : Option CommunityCeremony) (refund : List (Effect AccountId)) : Prop :=
  refund = [] ∨ s.scheduler.currentPhase = .registering ∧
    (getParticipantType s.ceremonies (cid, registrationCindex s) sender = some .bootstrapper ∨
      getParticipantType s.ceremonies (cid, registrationCindex s) sender = some .reputable) ∧
    ∃ source, maybe = some source ∧
      refund = [.unlink (cid, registrationCindex s) sender source]

theorem unregisterParticipant_changes {maybe : Option CommunityCeremony}
    {c : CeremoniesStorage AccountId} (h : unregisterParticipant s sender cid maybe = .ok c) :
    ∃ refund, RefundEffects s sender cid maybe refund ∧
      Changes config s (refund ++ [.remove (cid, registrationCindex s) sender])
        { s with ceremonies := c } := by
  obtain ⟨hphase, t, refunded, ht, hrefund, hremove⟩ := unregisterParticipant_spec h
  have opened := registrationOpen_registrationCindex s hphase
  have hremoved : Changes config { s with ceremonies := refunded }
      [.remove (cid, registrationCindex s) sender] { s with ceremonies := c } :=
    removeParticipantFromRegistry_changes opened hremove
  rcases refundReputation_spec hrefund with rfl | ⟨htype, source, hmaybe, hunlink⟩
  · exact ⟨[], Or.inl rfl, hremoved⟩
  · have hunlinked : Change config s _ { s with ceremonies := refunded } :=
      .unlink cid _ sender source refunded opened hunlink
    have hregistering := (removeParticipantFromRegistry_spec hremove).1
    have htype' : getParticipantType s.ceremonies (cid, registrationCindex s) sender =
          some .bootstrapper ∨
        getParticipantType s.ceremonies (cid, registrationCindex s) sender = some .reputable := by
      rw [ht, Option.some.injEq, Option.some.injEq]
      exact htype
    exact ⟨_, Or.inr ⟨hregistering, htype', source, hmaybe, rfl⟩, hunlinked.changes.trans hremoved⟩

/-! ## Attestations, endorsements and tickets -/

theorem attestAttendees_spec {vote : Nat} {attestations : List AccountId}
    {c : CeremoniesStorage AccountId}
    (h : attestAttendees config s sender cid vote attestations = .ok c) :
    SameRecords s.ceremonies c ∧ c.reputationLifetime = s.ceremonies.reputationLifetime := by
  simp only [attestAttendees, addAttestationsToRegistry, bind_eq_ok, ensure_eq_ok, okOr_eq_ok,
    ok_inj, exists_const] at h
  obtain ⟨-, -, -, data, -, -, -, idx, -, -, rfl⟩ := h
  exact ⟨⟨rfl, rfl, rfl, rfl, rfl, rfl, rfl, rfl⟩, rfl⟩

theorem attestAttendees_changes {vote : Nat} {attestations : List AccountId}
    {c : CeremoniesStorage AccountId}
    (h : attestAttendees config s sender cid vote attestations = .ok c) :
    Changes config s [] { s with ceremonies := c } :=
  (Change.attest sender cid vote attestations c h).changes

inductive TicketEffect (cc : CommunityCeremony) (sender : AccountId) : Effect AccountId → Prop where
  | reputable : TicketEffect cc sender (.burnReputableTicket cc sender)
  | bootstrapper : TicketEffect cc sender (.burnBootstrapperTicket cc.1 sender)

variable (config) in
private theorem burnNewbieTickets_spec {c : CeremoniesStorage AccountId}
    (h : burnNewbieTickets s cid cindex sender = .ok c) :
    ∃ ticket, TicketEffect (cid, cindex) sender ticket ∧
      Change config s [ticket] { s with ceremonies := c } ∧
      c.registry = s.ceremonies.registry ∧ c.endorsees = s.ceremonies.endorsees ∧
      c.reputationLifetime = s.ceremonies.reputationLifetime := by
  simp only [burnNewbieTickets, ite_eq_ok, ok_inj, error_ne_ok] at h
  rcases h with ⟨⟨hreputation, hleft⟩, rfl⟩ | ⟨-, h⟩
  · exact ⟨_, .reputable, .burnReputableTicket (cid, cindex) sender hreputation hleft, rfl, rfl, rfl⟩
  · rcases h with ⟨⟨hbootstrapper, hleft⟩, rfl⟩ | ⟨-, hfalse⟩
    · exact ⟨_, .bootstrapper, .burnBootstrapperTicket cid sender hbootstrapper hleft, rfl, rfl, rfl⟩
    · exact hfalse.elim

/-- Tickets and endorsements first, and then perhaps a second registration. -/
theorem endorseNewcomer_spec {newbie : AccountId} {c : CeremoniesStorage AccountId}
    {t : Option ParticipantType} (h : endorseNewcomer config s sender cid newbie = .ok (c, t)) :
    ∃ ticket endorsed, TicketEffect (cid, endorsementCindex s) sender ticket ∧
      Changes config s [ticket, .endorse (cid, endorsementCindex s) newbie]
        { s with ceremonies := endorsed } ∧
      endorsed.registry = s.ceremonies.registry ∧
      reregisterNewbie config { s with ceremonies := endorsed } cid (endorsementCindex s) newbie =
        .ok (c, t) := by
  simp only [endorseNewcomer, bind_eq_ok, ensure_eq_ok, okOr_eq_ok, exists_const] at h
  obtain ⟨hregistered, hfree, burned, hburn, count, hcount, hreregister⟩ := h
  obtain ⟨ticket, hticket, hchange, hregistry, hendorsees, hlifetime⟩ :=
    burnNewbieTickets_spec config hburn
  have hfree' : isEndorsed burned newbie (cid, endorsementCindex s) = none := by
    rw [isEndorsed, hendorsees, hlifetime]
    exact hfree
  have hendorse : Change config { s with ceremonies := burned } _ _ :=
    .endorse (cid, endorsementCindex s) newbie count hregistered hfree' hcount
  exact ⟨ticket, _, hticket, hchange.changes.tail hendorse, hregistry, hreregister⟩

theorem reregisterNewbie_spec {c : CeremoniesStorage AccountId} {t : Option ParticipantType}
    (h : reregisterNewbie config s cid cindex sender = .ok (c, t)) :
    (c = s.ceremonies ∧ t = none) ∨
      ∃ removed t', t = some t' ∧
        s.ceremonies.newbieRegistry.index.contains ((cid, cindex), sender) = true ∧
        removeParticipantFromRegistry s cid cindex sender = .ok removed ∧
        register config { s with ceremonies := removed } cid cindex sender false = .ok (c, t') := by
  simp only [reregisterNewbie, ite_eq_ok, bind_eq_ok, ok_inj, Prod.mk.injEq] at h
  rcases h with ⟨hnewbie, removed, hremove, ⟨c', t'⟩, hregister, rfl, rfl⟩ | ⟨-, rfl, rfl⟩
  · exact Or.inr ⟨removed, t', rfl, hnewbie, hremove, hregister⟩
  · exact Or.inl ⟨rfl, rfl⟩

theorem free_of_remove {c : CeremoniesStorage AccountId}
    (hinv : RegistryInvariant s.ceremonies.registry)
    (h : removeParticipantFromRegistry s cid cindex sender = .ok c) (t : ParticipantType) :
    (c.registry t).index.lookup ((cid, cindex), sender) = none := by
  obtain ⟨-, t', ht', rfl⟩ := removeParticipantFromRegistry_spec h
  have hcontains := contains_of_getParticipantType ht'
  obtain ⟨i, hi⟩ := StorageMap.contains_eq_true.1 hcontains
  by_cases ht : t = t'
  · subst ht
    rw [setRegistry_registry_self, ← StorageMap.contains_eq_false, Bool.eq_false_iff]
    intro hcontra
    rw [ParticipantRegistry.contains_index_of_remove (hinv.bijective t) hi] at hcontra
    exact hcontra.2 rfl
  · rw [setRegistry_registry_ne _ _ ht, ← StorageMap.contains_eq_false, Bool.eq_false_iff]
    intro hcontra
    exact ht (hinv.exclusive _ t t' hcontra hcontains)

def reregisterEffects (cc : CommunityCeremony) (newbie : AccountId) (t : Option ParticipantType) :
    List (Effect AccountId) :=
  t.toList.flatMap fun t => [.remove cc newbie, .add t cc newbie]

private theorem reregisterNewbie_changes {c : CeremoniesStorage AccountId}
    {t : Option ParticipantType}
    (hinv : RegistryInvariant s.ceremonies.registry)
    (hcindex : s.scheduler.currentPhase = .registering → cindex = s.scheduler.currentCeremonyIndex)
    (h : reregisterNewbie config s cid cindex sender = .ok (c, t)) :
    Changes config s (reregisterEffects (cid, cindex) sender t) { s with ceremonies := c } := by
  rcases reregisterNewbie_spec h with ⟨rfl, rfl⟩ | ⟨removed, t', rfl, -, hremove, hregister⟩
  · exact .refl
  · obtain ⟨hphase, -⟩ := removeParticipantFromRegistry_spec hremove
    have opened : s.scheduler.RegistrationOpen cindex := Or.inl ⟨hphase, hcindex hphase⟩
    exact (removeParticipantFromRegistry_changes opened hremove).trans
      (register_changes opened (free_of_remove hinv hremove) hregister)

theorem endorseNewcomer_changes {newbie : AccountId} {c : CeremoniesStorage AccountId}
    {t : Option ParticipantType} (hinv : RegistryInvariant s.ceremonies.registry)
    (h : endorseNewcomer config s sender cid newbie = .ok (c, t)) :
    ∃ ticket, TicketEffect (cid, endorsementCindex s) sender ticket ∧
      Changes config s ([ticket, .endorse (cid, endorsementCindex s) newbie] ++
        reregisterEffects (cid, endorsementCindex s) newbie t) { s with ceremonies := c } := by
  obtain ⟨ticket, endorsed, hticket, hendorsed, hregistry, hreregister⟩ := endorseNewcomer_spec h
  rw [← hregistry] at hinv
  refine ⟨ticket, hticket, hendorsed.trans ?_⟩
  apply reregisterNewbie_changes (s := { s with ceremonies := endorsed }) hinv ?_ hreregister
  intro hphase
  exact if_pos hphase

theorem endorseNewcomer_type {newbie : AccountId} {c : CeremoniesStorage AccountId}
    {t : Option ParticipantType} (h : endorseNewcomer config s sender cid newbie = .ok (c, t)) :
    t ≠ some .reputable := by
  obtain ⟨ticket, endorsed, -, -, -, hreregister⟩ := endorseNewcomer_spec h
  rcases reregisterNewbie_spec hreregister with ⟨-, rfl⟩ | ⟨removed, t', rfl, -, -, hregister⟩
  · simp
  · obtain ⟨-, -, -, htype⟩ := register_spec hregister
    intro ht
    exact absurd (htype (Option.some.inj ht)) (by simp)

/-! ## Rewards -/

/-- The loop credits some of the named participants, in order, and makes their reputation verified. -/
theorem rewardLoop_spec {cc : CommunityCeremony} {reward : Nat} {participants : List AccountId}
    {indices : List Nat} {payout payout' : Payout AccountId}
    (h : indices.foldlM (rewardParticipant config s cc reward participants) payout = .ok payout') :
    ∃ new, payout'.credited = payout.credited ++ new ∧
      new.Sublist (indices.filterMap fun i => participants[i]?) ∧
      ∀ k, payout'.participantReputation.lookup k =
        if k.1 = cc ∧ k.2 ∈ new then some .verifiedUnlinked
        else payout.participantReputation.lookup k := by
  induction indices generalizing payout with
  | nil =>
      simp only [List.foldlM_nil, pure_eq_ok] at h
      subst h
      exact ⟨[], by simp, List.nil_sublist _, by simp⟩
  | cons i indices ih =>
      simp only [List.foldlM_cons, bind_eq_ok] at h
      obtain ⟨next, hstep, hrest⟩ := h
      obtain ⟨new, hcredited, hsub, hlookup⟩ := ih hrest
      simp only [rewardParticipant, bind_eq_ok, okOr_eq_ok] at hstep
      obtain ⟨participant, hparticipant, hstep⟩ := hstep
      have hcons : (i :: indices).filterMap (fun i => participants[i]?) =
          participant :: indices.filterMap fun i => participants[i]? := by
        rw [List.filterMap_cons, hparticipant]
      split at hstep
      · rw [ok_inj] at hstep
        subst hstep
        refine ⟨participant :: new, ?_, ?_, ?_⟩
        · rw [hcredited, List.append_assoc, List.singleton_append]
        · rw [hcons]
          exact hsub.cons_cons participant
        · intro k
          rw [hlookup, StorageMap.lookup_insert_eq]
          obtain ⟨kcc, ka⟩ := k
          by_cases hcc : kcc = cc
          · by_cases hnew : ka ∈ new
            · simp [hcc, hnew]
            · by_cases hka : ka = participant
              · simp [hcc, hka]
              · simp [hcc, hnew, hka]
          · simp [hcc]
      · rw [ok_inj] at hstep
        subst hstep
        refine ⟨new, hcredited, ?_, hlookup⟩
        rw [hcons]
        exact hsub.cons participant

/-- What a claim for the meetup of `participants` writes. -/
structure ClaimEffect (s : Runtime AccountId) (claim : Claim AccountId)
    (participants : List AccountId) : Prop where
  cindex : claimCindex s = .ok claim.cc.2
  fresh : s.ceremonies.issuedRewards.lookup (claim.cc, claim.meetupIndex) = none
  members :
    getMeetupParticipants s.ceremonies claim.cc claim.meetupIndex = .ok participants
  credited : claim.credited.Sublist participants
  registry : claim.ceremonies.registry = s.ceremonies.registry
  assignmentCounts : claim.ceremonies.assignmentCounts = s.ceremonies.assignmentCounts
  assignments : claim.ceremonies.assignments = s.ceremonies.assignments
  meetupCount : claim.ceremonies.meetupCount = s.ceremonies.meetupCount
  reputationLifetime : claim.ceremonies.reputationLifetime = s.ceremonies.reputationLifetime
  participantReputation : ∀ k, claim.ceremonies.participantReputation.lookup k =
    if k.1 = claim.cc ∧ k.2 ∈ claim.credited then some .verifiedUnlinked
    else s.ceremonies.participantReputation.lookup k
  reputationCount : ∀ cc, claim.ceremonies.reputationCount.get cc 0 =
    s.ceremonies.reputationCount.get cc 0 + if cc = claim.cc then claim.credited.length else 0
  globalReputationCount : ∀ c, claim.ceremonies.globalReputationCount.get c 0 =
    s.ceremonies.globalReputationCount.get c 0 +
      if c = claim.cc.2 then claim.credited.length else 0
  issuedRewards : ∃ result, claim.ceremonies.issuedRewards =
    s.ceremonies.issuedRewards.insert (claim.cc, claim.meetupIndex) result

theorem issueRewards_spec {cc : CommunityCeremony} {meetupIdx : Nat}
    {participants : List AccountId} {indices : List Nat} {c : CeremoniesStorage AccountId}
    {balances : BalancesStorage AccountId} {credited : List AccountId}
    (h : issueRewards config s cc meetupIdx participants indices = .ok (c, balances, credited)) :
    credited.Sublist (indices.filterMap fun i => participants[i]?) ∧
      ∃ participantReputation : StorageMap (CommunityCeremony × AccountId) Reputation,
        (∀ k, participantReputation.lookup k =
          if k.1 = cc ∧ k.2 ∈ credited then some .verifiedUnlinked
          else s.ceremonies.participantReputation.lookup k) ∧
        c = { s.ceremonies with
          participantReputation := participantReputation
          reputationCount := s.ceremonies.reputationCount.insert cc
            (s.ceremonies.reputationCount.get cc 0 + credited.length)
          globalReputationCount := s.ceremonies.globalReputationCount.insert cc.2
            (s.ceremonies.globalReputationCount.get cc.2 0 + credited.length)
          issuedRewards := s.ceremonies.issuedRewards.insert (cc, meetupIdx) .ok } := by
  simp only [issueRewards, bind_eq_ok, ok_inj, Prod.mk.injEq] at h
  obtain ⟨payout, hloop, rfl, -, rfl⟩ := h
  obtain ⟨new, hcredited, hsub, hlookup⟩ := rewardLoop_spec hloop
  rw [List.nil_append] at hcredited
  rw [← hcredited] at hsub hlookup
  exact ⟨hsub, payout.participantReputation, hlookup, rfl⟩

/-- A failed meetup is marked without a reward; otherwise legit participants are credited. -/
theorem claimRewards_spec {maybe : Option Nat} {claim : Claim AccountId}
    (h : claimRewards config s sender cid maybe = .ok claim) :
    claim.cc.1 = cid ∧ ∃ participants, ClaimEffect s claim participants := by
  simp only [claimRewards, bind_eq_ok, ensure_eq_ok, exists_const] at h
  obtain ⟨cindex, hcindex, meetupIndex, -, hopen, participants, hparticipants, h⟩ := h
  rw [StorageMap.contains_eq_false] at hopen
  cases hjudge : judgeMeetup s (cid, cindex) participants with
  | error err =>
      simp only [hjudge, bind_eq_ok, ok_inj] at h
      obtain ⟨-, -, rfl⟩ := h
      exact ⟨rfl, participants, {
        cindex := hcindex
        fresh := hopen
        members := hparticipants
        credited := List.nil_sublist participants
        registry := rfl
        assignmentCounts := rfl
        assignments := rfl
        meetupCount := rfl
        reputationLifetime := rfl
        participantReputation := by simp
        reputationCount := by simp
        globalReputationCount := by simp
        issuedRewards := ⟨_, rfl⟩ }⟩
  | ok judgements =>
      simp only [hjudge, bind_eq_ok, ok_inj] at h
      obtain ⟨-, -, -, -, ⟨c, balances, credited⟩, hissue, rfl⟩ := h
      obtain ⟨hsub, participantReputation, hlookup, rfl⟩ := issueRewards_spec hissue
      have hlegit : judgements.legit.Sublist (List.range participants.length) :=
        MeetupValidation.legit_sublist hjudge
      exact ⟨rfl, participants, {
        cindex := hcindex
        fresh := hopen
        members := hparticipants
        credited := hsub.trans (Loop.filterMap_getElem_sublist hlegit)
        registry := rfl
        assignmentCounts := rfl
        assignments := rfl
        meetupCount := rfl
        reputationLifetime := rfl
        participantReputation := hlookup
        reputationCount := by
          intro cc
          rw [StorageMap.get_insert]
          split
          · rename_i hcc
            rw [hcc]
          · rfl
        globalReputationCount := by
          intro c
          rw [StorageMap.get_insert]
          split
          · rename_i hc
            rw [hc]
          · rfl
        issuedRewards := ⟨_, rfl⟩ }⟩

/-! ## Phase changes -/

theorem purgeAll_changes (ccs : List CommunityCeremony) (s : Runtime AccountId) :
    Changes config s (ccs.map .purge) { s with ceremonies := purgeAll ccs s.ceremonies } := by
  induction ccs generalizing s with
  | nil => exact .refl
  | cons cc ccs ih =>
      have hpurge : Change config s _ _ := .purge cc
      exact hpurge.changes.trans
        (ih { s with ceremonies := purgeCommunityCeremonyInternal s.ceremonies cc })

theorem purgeAll_gone {ccs : List CommunityCeremony} {c : CeremoniesStorage AccountId}
    {cc : CommunityCeremony}
    (h : cc ∈ ccs ∨ c.meetupCount.get cc 0 = 0 ∧ ∀ a, c.participantReputation.lookup (cc, a) = none) :
    (purgeAll ccs c).meetupCount.get cc 0 = 0 ∧
      ∀ a, (purgeAll ccs c).participantReputation.lookup (cc, a) = none := by
  induction ccs generalizing c with
  | nil =>
      rcases h with hmem | hgone
      · cases hmem
      · exact hgone
  | cons cc' ccs ih =>
      apply ih
      by_cases hcc : cc = cc'
      · right
        simp [purgeCommunityCeremonyInternal, StorageMap.get_erase, StorageMap.lookup_removePrefix,
          hcc]
      · rcases h with hmem | ⟨hmeetupCount, hreputation⟩
        · exact Or.inl (List.mem_of_ne_of_mem hcc hmem)
        · right
          simp [purgeCommunityCeremonyInternal, StorageMap.get_erase,
            StorageMap.lookup_removePrefix, hmeetupCount, hreputation]

def removalEffects (s : Runtime AccountId) (cid : CommunityIdentifier) : List (Effect AccountId) :=
  ((cindexesWithinLifetime s).map fun cindex => .purge (cid, cindex)) ++ [.removeCommunity cid]

private theorem purgeCommunity_changes (s : Runtime AccountId) (cid : CommunityIdentifier) :
    Changes config s (removalEffects s cid) (purgeCommunity s cid) := by
  let ccs := (cindexesWithinLifetime s).map fun cindex => (cid, cindex)
  have hpurge : Changes config s (ccs.map .purge)
      { s with ceremonies := purgeAll ccs s.ceremonies } := purgeAll_changes ccs s
  have hcounters : Change config { s with ceremonies := purgeAll ccs s.ceremonies } []
      { s with ceremonies := (purgeCommunity s cid).ceremonies } :=
    .forget cid
  have hcommunity : Change config { s with ceremonies := (purgeCommunity s cid).ceremonies }
      [.removeCommunity cid] { s with
        ceremonies := (purgeCommunity s cid).ceremonies
        communities := Communities.removeCommunity s.communities cid } :=
    .removeCommunity cid
  rw [List.map_map] at hpurge
  exact ((hpurge.silent hcounters).tail hcommunity).silent (.balances _)

omit [DecidableEq AccountId] in
/-- What a purge of a community leaves as it is. -/
theorem purgeAll_reputationLifetime (ccs : List CommunityCeremony)
    (c : CeremoniesStorage AccountId) :
    (purgeAll ccs c).reputationLifetime = c.reputationLifetime := by
  induction ccs generalizing c with
  | nil => rfl
  | cons cc ccs ih => exact ih (purgeCommunityCeremonyInternal c cc)

omit [DecidableEq AccountId] in
private theorem removalEffects_purgeCommunity (s : Runtime AccountId)
    (cid cid' : CommunityIdentifier) :
    removalEffects (purgeCommunity s cid) cid' = removalEffects s cid' := by
  have hlifetime : (purgeCommunity s cid).ceremonies.reputationLifetime =
      s.ceremonies.reputationLifetime := purgeAll_reputationLifetime _ s.ceremonies
  have hscheduler : (purgeCommunity s cid).scheduler = s.scheduler := rfl
  simp only [removalEffects, cindexesWithinLifetime, hlifetime, hscheduler]

private theorem purgeCommunities_changes (config : Config AccountId)
    (cids : List CommunityIdentifier)
    (s : Runtime AccountId) :
    Changes config s (cids.flatMap (removalEffects s)) (cids.foldl purgeCommunity s) := by
  induction cids generalizing s with
  | nil => exact .refl
  | cons cid cids ih =>
      have hrest := ih (purgeCommunity s cid)
      simp only [funext (removalEffects_purgeCommunity s cid)] at hrest
      exact (purgeCommunity_changes s cid).trans hrest

def inactiveCommunities (s : Runtime AccountId) : List CommunityIdentifier :=
  (updateInactivityCounters s.ceremonies (s.scheduler.currentCeremonyIndex - 1)
    s.ceremonies.inactivityTimeout s.communities.communityIdentifiers
    s.ceremonies.inactivityCounters).2

theorem purgeInactiveCommunities_changes {s : Runtime AccountId}
    (hphase : s.scheduler.currentPhase = .assigning) :
    Changes config s ((inactiveCommunities s).flatMap (removalEffects s))
      (purgeInactiveCommunities s) := by
  let counters := (updateInactivityCounters s.ceremonies (s.scheduler.currentCeremonyIndex - 1)
    s.ceremonies.inactivityTimeout s.communities.communityIdentifiers
    s.ceremonies.inactivityCounters).1
  have hcounters : Change config s []
      { s with ceremonies := { s.ceremonies with inactivityCounters := counters } } :=
    .inactivityCounters hphase
  have hpurged := purgeCommunities_changes config (inactiveCommunities s)
    { s with ceremonies := { s.ceremonies with inactivityCounters := counters } }
  exact hcounters.changes.trans hpurged

omit [DecidableEq AccountId] in
/-- Either nothing is assigned, or the ceremony gets parameters, counts and meetups. -/
theorem generateMeetupAssignmentParams_spec {cc : CommunityCeremony}
    {random random' : RandomNumberGenerator} {c : CeremoniesStorage AccountId}
    (h : generateMeetupAssignmentParams config s cc random = .ok (c, random')) :
    c = s.ceremonies ∨
      ∃ allowance numMeetups assignment,
        computeAssignmentAllowance config s cc config.meetupSizeTarget = .ok allowance ∧
        checkedCeilDivision allowance.getNumberOfParticipants config.meetupSizeTarget =
          some numMeetups ∧
        generateAssignment s cc allowance numMeetups random = some (assignment, random') ∧
        c = { s.ceremonies with
          assignments := s.ceremonies.assignments.insert cc assignment
          assignmentCounts := s.ceremonies.assignmentCounts.insert cc allowance
          meetupCount := s.ceremonies.meetupCount.insert cc numMeetups } := by
  simp only [generateMeetupAssignmentParams, bind_eq_ok, okOr_eq_ok, ite_eq_ok, ok_inj,
    Prod.mk.injEq] at h
  obtain ⟨allowance, hallowance, numMeetups, hmeetups, h⟩ := h
  rcases h with ⟨-, rfl, -⟩ | ⟨-, ⟨assignment, random''⟩, hgen, rfl, rfl⟩
  · exact Or.inl rfl
  · exact Or.inr ⟨allowance, numMeetups, assignment, hallowance, hmeetups, hgen, rfl⟩

omit [DecidableEq AccountId] in
theorem generateMeetupAssignmentParams_registry {cc : CommunityCeremony}
    {random random' : RandomNumberGenerator} {c : CeremoniesStorage AccountId}
    (h : generateMeetupAssignmentParams config s cc random = .ok (c, random')) :
    c.registry = s.ceremonies.registry := by
  rcases generateMeetupAssignmentParams_spec h with rfl | ⟨_, _, _, -, -, -, rfl⟩
  · rfl
  · rfl

def assignEffects (s : Runtime AccountId) (cids : List CommunityIdentifier) :
    List (Effect AccountId) :=
  cids.map fun cid => .assign (cid, s.scheduler.currentCeremonyIndex)

/-- Assigning meetups community by community, as far as it does not fail. -/
theorem generateMeetupAssignmentParamsOf_changes {cids : List CommunityIdentifier}
    {s s' : Runtime AccountId} {random : RandomNumberGenerator}
    (hphase : s.scheduler.currentPhase = .assigning)
    (hcids : ∀ cid ∈ cids, cid ∈ s.communities.communityIdentifiers)
    (h : generateMeetupAssignmentParamsOf config s.scheduler.currentCeremonyIndex cids s random =
      .ok s') : ∃ assigned, Changes config s (assignEffects s assigned) s' := by
  induction cids generalizing s random with
  | nil =>
      simp only [generateMeetupAssignmentParamsOf, ok_inj] at h
      rw [h]
      exact ⟨[], .refl⟩
  | cons cid cids ih =>
      have hrest : ∀ cid ∈ cids, cid ∈ s.communities.communityIdentifiers := by
        intro cid' hmem
        exact hcids cid' (List.mem_cons_of_mem cid hmem)
      unfold generateMeetupAssignmentParamsOf at h
      split at h
      · exact absurd h (by simp)
      · exact ih hphase hrest h
      · rename_i ceremonies random' hgen
        have hassign : Change config s _ { s with ceremonies := ceremonies } :=
          .assign cid ceremonies random random' hphase (hcids cid List.mem_cons_self) hgen
        obtain ⟨assigned, hchanges⟩ :=
          ih (s := { s with ceremonies := ceremonies }) hphase hrest h
        exact ⟨cid :: assigned, hassign.changes.trans hchanges⟩

omit [DecidableEq AccountId] in
private theorem purgeCommunities_frame (cids : List CommunityIdentifier) (s : Runtime AccountId) :
    (cids.foldl purgeCommunity s).scheduler = s.scheduler := by
  induction cids generalizing s with
  | nil => rfl
  | cons cid cids ih => exact ih (purgeCommunity s cid)

omit [DecidableEq AccountId] in
theorem purgeInactiveCommunities_scheduler (s : Runtime AccountId) :
    (purgeInactiveCommunities s).scheduler = s.scheduler :=
  purgeCommunities_frame _ _

/-- The histories and communities that go when a phase starts. -/
def phaseEffects (newPhase : CeremonyPhaseType) (s : Runtime AccountId) :
    List (Effect AccountId) :=
  match newPhase with
  | .assigning => (inactiveCommunities s).flatMap (removalEffects s)
  | .attesting => []
  | .registering =>
      if s.ceremonies.reputationLifetime < s.scheduler.currentCeremonyIndex then
        s.communities.communityIdentifiers.map fun cid => .purge
          (cid, s.scheduler.currentCeremonyIndex - s.ceremonies.reputationLifetime - 1)
      else
        []

omit [DecidableEq AccountId] in
theorem mem_phaseEffects {newPhase : CeremonyPhaseType} {s : Runtime AccountId}
    {e : Effect AccountId} (h : e ∈ phaseEffects newPhase s) :
    (∃ cc, e = .purge cc) ∨ ∃ cid, e = .removeCommunity cid := by
  cases newPhase with
  | registering =>
      unfold phaseEffects at h
      simp only at h
      split at h
      · obtain ⟨cid, -, rfl⟩ := List.mem_map.1 h
        exact Or.inl ⟨_, rfl⟩
      · cases h
  | assigning =>
      obtain ⟨cid, -, h⟩ := List.mem_flatMap.1 h
      rcases List.mem_append.1 h with hpurge | hremove
      · obtain ⟨cindex, -, rfl⟩ := List.mem_map.1 hpurge
        exact Or.inl ⟨_, rfl⟩
      · exact Or.inr ⟨cid, List.mem_singleton.1 hremove⟩
  | attesting => cases h

theorem onCeremonyPhaseChange_changes {random : RandomNumberGenerator}
    {newPhase : CeremonyPhaseType} {s s' : Runtime AccountId}
    (hphase : s.scheduler.currentPhase = newPhase)
    (h : onCeremonyPhaseChange config random newPhase s = .ok s') :
    ∃ assigned, Changes config s (phaseEffects newPhase s ++ assignEffects s assigned) s' := by
  cases newPhase with
  | registering =>
      refine ⟨[], ?_⟩
      simp only [assignEffects, List.map_nil, List.append_nil]
      simp only [onCeremonyPhaseChange, ite_eq_ok, ok_inj] at h
      rcases h with ⟨hlifetime, rfl⟩ | ⟨hlifetime, rfl⟩
      · have hpurge : Changes config s _ { s with ceremonies := purgeRegistry s _ } :=
          purgeAll_changes (s.communities.communityIdentifiers.map fun cid =>
            (cid, s.scheduler.currentCeremonyIndex - s.ceremonies.reputationLifetime - 1)) s
        rw [List.map_map] at hpurge
        rw [phaseEffects, if_pos hlifetime]
        exact hpurge
      · rw [phaseEffects, if_neg hlifetime]
        exact .refl
  | assigning =>
      have hscheduler := purgeInactiveCommunities_scheduler s
      have hpurge : Changes config s _ (purgeInactiveCommunities s) :=
        purgeInactiveCommunities_changes hphase
      have hassign : ∃ assigned, Changes config (purgeInactiveCommunities s)
          (assignEffects (purgeInactiveCommunities s) assigned) s' := by
        apply generateMeetupAssignmentParamsOf_changes ?_ ?_ h
        · rw [hscheduler]
          exact hphase
        · intro cid hmem
          exact hmem
      obtain ⟨assigned, hassign⟩ := hassign
      rw [assignEffects, hscheduler] at hassign
      exact ⟨assigned, hpurge.trans hassign⟩
  | attesting =>
      simp only [onCeremonyPhaseChange, ok_inj] at h
      rw [h]
      exact ⟨[], .refl⟩

end Ceremonies

end Encointer
