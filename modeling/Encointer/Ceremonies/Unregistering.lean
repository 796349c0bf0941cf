import Encointer.Ceremonies.RegistryBijection
import Encointer.Ceremonies.Histories
import Encointer.Ceremonies.RewardOnce

/-!
# Leaving a ceremony and coming back

A participant who unregisters gives back what the registration consumed, as far
as the pallet knows it: a linked reputation of the own account. A reputation that
somebody else lent, and an endorsement, are not given back, so their participants
stay, or come back as newbies.
-/

namespace Encointer

open Assignment Checked

variable {AccountId : Type} [DecidableEq AccountId] {config : Config AccountId}

/-! ## What every reachable state provides -/

structure RegistrationInvariant (s : Runtime AccountId) : Prop where
  registry : RegistryInvariant s.ceremonies.registry
  counts : ∀ t cc, (s.ceremonies.registry t).count.get cc 0 < 2 ^ 64
  earlier : ∀ cc a cindex,
    s.ceremonies.participantReputation.lookup (cc, a) = some (.verifiedLinked cindex) →
      cc.2 < cindex

namespace RegistrationInvariant

variable {s s' : Runtime AccountId}

theorem genesis (genesis : GenesisConfig) (nativeBalances : StorageMap AccountId Nat)
    (assetBalances : StorageMap (AccountId × AssetKind) Nat) :
    RegistrationInvariant (genesis.build nativeBalances assetBalances) where
  registry := .genesis genesis nativeBalances assetBalances
  counts := by
    intro t cc
    cases t <;> exact Nat.two_pow_pos 64
  earlier := by
    intro cc a cindex h
    cases h

theorem same (h : RegistrationInvariant s)
    (hregistry : s'.ceremonies.registry = s.ceremonies.registry)
    (hreputation : s'.ceremonies.participantReputation = s.ceremonies.participantReputation) :
    RegistrationInvariant s' where
  registry := hregistry ▸ h.registry
  counts := hregistry ▸ h.counts
  earlier := hreputation ▸ h.earlier

omit [DecidableEq AccountId] in
theorem counts_setRegistry {c : CeremoniesStorage AccountId} {t : ParticipantType}
    {r : ParticipantRegistry AccountId}
    (h : ∀ t cc, (c.registry t).count.get cc 0 < 2 ^ 64) (hr : ∀ cc, r.count.get cc 0 < 2 ^ 64)
    (t' : ParticipantType) (cc : CommunityCeremony) :
    ((c.setRegistry t r).registry t').count.get cc 0 < 2 ^ 64 := by
  by_cases ht : t' = t
  · subst ht
    rw [setRegistry_registry_self]
    exact hr cc
  · rw [setRegistry_registry_ne c r ht]
    exact h t' cc

theorem change {effects : List (Effect AccountId)} (hinv : RegistrationInvariant s)
    (h : Change config s effects s') : RegistrationInvariant s' := by
  have hregistry := hinv.registry.change h
  cases h with
  | parameters ceremonies same => exact hinv.same same.registry same.participantReputation
  | attest sender cid vote attestations ceremonies attested =>
      obtain ⟨same, -⟩ := Ceremonies.attestAttendees_spec attested
      exact hinv.same same.registry same.participantReputation
  | add participantType cc participant r opened free added =>
      refine ⟨hregistry, counts_setRegistry hinv.counts ?_, ?_⟩
      · intro cc'
        rw [ParticipantRegistry.count_of_register added]
        split
        · exact (ParticipantRegistry.register_eq_some.1 added).1
        · exact hinv.counts participantType cc'
      · rw [setRegistry_participantReputation]
        exact hinv.earlier
  | remove participantType cc participant opened registered =>
      obtain ⟨i, hi⟩ := StorageMap.contains_eq_true.1 registered
      refine ⟨hregistry, counts_setRegistry hinv.counts ?_, ?_⟩
      · intro cc'
        rw [ParticipantRegistry.count_of_remove (hinv.registry.bijective participantType) hi]
        have hcount := hinv.counts participantType cc
        split
        · omega
        · exact hinv.counts participantType cc'
      · rw [setRegistry_participantReputation]
        exact hinv.earlier
  | link cid cindex sender p ceremonies opened linked =>
      obtain ⟨hcausal, -, rfl⟩ := Ceremonies.linkReputation_spec linked
      refine ⟨hregistry, hinv.counts, ?_⟩
      intro cc a cindex' hlinked
      rw [StorageMap.lookup_insert_eq, StorageMap.lookup_insert_eq] at hlinked
      split at hlinked
      · cases hlinked
      · split at hlinked
        · rename_i hsource
          cases hsource
          cases hlinked
          exact hcausal
        · exact hinv.earlier cc a cindex' hlinked
  | unlink cid cindex sender cc ceremonies opened unlinked =>
      obtain ⟨-, rfl⟩ := Ceremonies.unlinkReputation_spec unlinked
      refine ⟨hregistry, hinv.counts, ?_⟩
      intro cc' a cindex' hlinked
      rw [StorageMap.lookup_erase_eq, StorageMap.lookup_insert_eq] at hlinked
      split at hlinked
      · cases hlinked
      · split at hlinked
        · cases hlinked
        · exact hinv.earlier cc' a cindex' hlinked
  | purge cc =>
      refine ⟨hregistry, ?_, ?_⟩
      · intro t cc'
        simp only [Ceremonies.registry_purge, ParticipantRegistry.purge, StorageMap.get_erase]
        split
        · exact Nat.two_pow_pos 64
        · exact hinv.counts t cc'
      · intro cc' a cindex hlinked
        simp only [Ceremonies.purgeCommunityCeremonyInternal,
          StorageMap.lookup_removePrefix] at hlinked
        split at hlinked
        · cases hlinked
        · exact hinv.earlier cc' a cindex hlinked
  | assign cid ceremonies random random' assigning registered assigned =>
      rcases Ceremonies.generateMeetupAssignmentParams_spec assigned with
        rfl | ⟨_, _, _, -, -, -, rfl⟩
      · exact hinv.same rfl rfl
      · exact hinv.same rfl rfl
  | _ => exact hinv.same rfl rfl

theorem changes {effects : List (Effect AccountId)} (hinv : RegistrationInvariant s)
    (h : Changes config s effects s') : RegistrationInvariant s' := by
  induction h with
  | refl => exact hinv
  | tail _ hchange ih => exact ih.change hchange

theorem step {chain : Chain AccountId} (hinv : RegistrationInvariant chain.runtime)
    (action : Action AccountId) : RegistrationInvariant (chain.step config action).runtime := by
  obtain ⟨_, -, ⟨claim, participants, hclaims⟩ | ⟨⟨effects, hchanges⟩, -⟩⟩ :=
    Chain.step_claims_or_changes config action hinv.registry
  · rw [hclaims.runtime]
    refine ⟨hclaims.effect.registry ▸ hinv.registry, hclaims.effect.registry ▸ hinv.counts, ?_⟩
    intro cc a cindex hlinked
    simp only [hclaims.effect.participantReputation] at hlinked
    split at hlinked
    · cases hlinked
    · exact hinv.earlier cc a cindex hlinked
  · exact hinv.changes hchanges

theorem run {chain : Chain AccountId} (hinv : RegistrationInvariant chain.runtime)
    (actions : List (Action AccountId)) :
    RegistrationInvariant (chain.run config actions).runtime :=
  Machine.run_invariant_of_step (fun chain : Chain AccountId => RegistrationInvariant chain.runtime)
    (fun _ action h => h.step action) hinv actions

end RegistrationInvariant

namespace Ceremonies

variable {s : Runtime AccountId} {c c' c'' : CeremoniesStorage AccountId}
  {cid : CommunityIdentifier} {cc : CommunityCeremony} {cindex : Nat} {sender : AccountId}
  {t : ParticipantType} {maybe : Option CommunityCeremony}

/-! ## Everybody else -/

/-- All other registrations, and the reputations and endorsements of all other accounts. -/
structure OthersUnaffected (c c' : CeremoniesStorage AccountId) (cc : CommunityCeremony)
    (sender : AccountId) : Prop where
  registrations : ∀ cc' a, (cc', a) ≠ (cc, sender) →
    getParticipantType c' cc' a = getParticipantType c cc' a
  reputations : ∀ cc' a, a ≠ sender →
    c'.participantReputation.lookup (cc', a) = c.participantReputation.lookup (cc', a)
  endorsements : ∀ cc' a, a ≠ sender → c'.endorsees.lookup (cc', a) = c.endorsees.lookup (cc', a)

theorem OthersUnaffected.trans (h : OthersUnaffected c c' cc sender)
    (h' : OthersUnaffected c' c'' cc sender) : OthersUnaffected c c'' cc sender where
  registrations := by
    intro cc' a hne
    exact (h'.registrations cc' a hne).trans (h.registrations cc' a hne)
  reputations := by
    intro cc' a hne
    exact (h'.reputations cc' a hne).trans (h.reputations cc' a hne)
  endorsements := by
    intro cc' a hne
    exact (h'.endorsements cc' a hne).trans (h.endorsements cc' a hne)

theorem getParticipantType_congr {a : AccountId}
    (h : ∀ t, (c'.registry t).index.contains (cc, a) = (c.registry t).index.contains (cc, a)) :
    getParticipantType c' cc a = getParticipantType c cc a := by
  have hbootstrapper := h .bootstrapper
  have hreputable := h .reputable
  have hendorsee := h .endorsee
  have hnewbie := h .newbie
  simp only [CeremoniesStorage.registry] at hbootstrapper hreputable hendorsee hnewbie
  rw [getParticipantType, getParticipantType, hbootstrapper, hreputable, hendorsee, hnewbie]

theorem getParticipantType_of_registry (h : c'.registry = c.registry) (a : AccountId) :
    getParticipantType c' cc a = getParticipantType c cc a := by
  apply getParticipantType_congr
  intro t
  rw [h]

/-- One registry is replaced, and only the entry of the sender comes or goes. -/
theorem othersUnaffected_setRegistry {r : ParticipantRegistry AccountId}
    (h : ∀ k, k ≠ (cc, sender) → r.index.contains k = (c.registry t).index.contains k) :
    OthersUnaffected c (c.setRegistry t r) cc sender where
  registrations := by
    intro cc' a hne
    apply getParticipantType_congr
    intro t'
    by_cases ht : t' = t
    · subst ht
      rw [setRegistry_registry_self]
      exact h _ hne
    · rw [setRegistry_registry_ne c r ht]
  reputations := by
    intro cc' a _
    rw [setRegistry_participantReputation]
  endorsements := by
    intro cc' a _
    rw [setRegistry_endorsees]

theorem othersUnaffected_remove (hinv : RegistryInvariant c.registry)
    (ht : getParticipantType c cc sender = some t) :
    OthersUnaffected c
      (c.setRegistry t ((c.registry t).removeParticipantFromRegistry cc sender)) cc sender := by
  obtain ⟨i, hi⟩ := StorageMap.contains_eq_true.1 (contains_of_getParticipantType ht)
  apply othersUnaffected_setRegistry
  intro k hk
  rw [Bool.eq_iff_iff, ParticipantRegistry.contains_index_of_remove (hinv.bijective t) hi]
  exact and_iff_left hk

theorem othersUnaffected_reputations
    {participantReputation : StorageMap (CommunityCeremony × AccountId) Reputation}
    (h : ∀ cc' a, a ≠ sender → participantReputation.lookup (cc', a) =
      c.participantReputation.lookup (cc', a)) :
    OthersUnaffected c { c with participantReputation := participantReputation } cc sender where
  registrations := by
    intro cc' a _
    exact getParticipantType_of_registry rfl a
  reputations := h
  endorsements := by
    intro cc' a _
    rfl

theorem othersUnaffected_register {isReputable : Bool}
    (h : register config s cid cindex sender isReputable = .ok (c, t)) :
    OthersUnaffected s.ceremonies c (cid, cindex) sender := by
  obtain ⟨r, hr, hc, -⟩ := register_spec h
  have hadded : OthersUnaffected s.ceremonies (s.ceremonies.setRegistry t r) (cid, cindex)
      sender := by
    apply othersUnaffected_setRegistry
    intro k hk
    rw [StorageMap.contains, StorageMap.contains,
      ParticipantRegistry.lookup_index_of_register hr, if_neg hk]
  rcases hc with rfl | ⟨-, endorsedCindex, rfl⟩
  · exact hadded
  · refine ⟨?_, hadded.reputations, ?_⟩
    · intro cc' a hne
      rw [← hadded.registrations cc' a hne]
      exact getParticipantType_of_registry rfl a
    · intro cc' a hne
      rw [← hadded.endorsements cc' a hne]
      exact (StorageMap.lookup_erase_eq _ _ _).trans (if_neg fun hk => hne (congrArg Prod.snd hk))

/-! ## Becoming a participant -/

def RegistersAs (config : Config AccountId) (s : Runtime AccountId) (cid : CommunityIdentifier)
    (cindex : Nat) (sender : AccountId) (isReputable : Bool) : ParticipantType → Prop
  | .bootstrapper => sender ∈ Communities.bootstrappers s.communities cid
  | .reputable => sender ∉ Communities.bootstrappers s.communities cid ∧
      Balances.totalIssuance config s.blockNumber s.balances cid ≠ 0 ∧ isReputable = true
  | .endorsee => sender ∉ Communities.bootstrappers s.communities cid ∧
      Balances.totalIssuance config s.blockNumber s.balances cid ≠ 0 ∧ isReputable = false ∧
      isEndorsed s.ceremonies sender (cid, cindex) ≠ none
  | .newbie => sender ∉ Communities.bootstrappers s.communities cid ∧
      Balances.totalIssuance config s.blockNumber s.balances cid ≠ 0 ∧ isReputable = false ∧
      isEndorsed s.ceremonies sender (cid, cindex) = none

private theorem register_registersAs {isReputable : Bool}
    (h : register config s cid cindex sender isReputable = .ok (c, t)) :
    RegistersAs config s cid cindex sender isReputable t := by
  unfold register at h
  simp only [ite_eq_ok, bind_eq_ok, ok_inj, Prod.mk.injEq, error_ne_ok] at h
  rcases h with ⟨hbootstrapper, c', -, -, rfl⟩ | ⟨hbootstrapper, h⟩
  · exact hbootstrapper
  · rcases h with ⟨-, hfalse⟩ | ⟨hissuance, h⟩
    · exact hfalse.elim
    · rcases h with ⟨hreputable, c', -, -, rfl⟩ | ⟨hreputable, h⟩
      · exact ⟨hbootstrapper, hissuance, hreputable⟩
      · rw [Bool.not_eq_true] at hreputable
        cases hendorsed : isEndorsed s.ceremonies sender (cid, cindex) with
        | none =>
            simp only [hendorsed, bind_eq_ok, ok_inj, Prod.mk.injEq] at h
            obtain ⟨c', -, -, rfl⟩ := h
            exact ⟨hbootstrapper, hissuance, hreputable, hendorsed⟩
        | some endorsedCindex =>
            simp only [hendorsed, bind_eq_ok, ok_inj, Prod.mk.injEq] at h
            obtain ⟨c', -, -, rfl⟩ := h
            exact ⟨hbootstrapper, hissuance, hreputable, by simp [hendorsed]⟩

theorem register_succeeds {isReputable : Bool}
    (h : RegistersAs config s cid cindex sender isReputable t)
    (hfits : (s.ceremonies.registry t).count.get (cid, cindex) 0 + 1 < 2 ^ 64) :
    ∃ c, register config s cid cindex sender isReputable = .ok (c, t) := by
  have hr : (s.ceremonies.registry t).register (cid, cindex) sender = some _ :=
    ParticipantRegistry.register_eq_some.2 ⟨hfits, rfl⟩
  have hadd : ∃ c, addToRegistry s.ceremonies t (cid, cindex) sender = .ok c := by
    rw [addToRegistry, hr]
    exact ⟨_, rfl⟩
  obtain ⟨c, hadd⟩ := hadd
  unfold register
  cases t with
  | bootstrapper =>
      have hbootstrapper : sender ∈ Communities.bootstrappers s.communities cid := h
      simp only [if_pos hbootstrapper, hadd]
      exact ⟨_, rfl⟩
  | reputable =>
      obtain ⟨hbootstrapper, hissuance, hreputable⟩ := h
      simp only [if_neg hbootstrapper, if_neg hissuance, if_pos hreputable, hadd]
      exact ⟨_, rfl⟩
  | endorsee =>
      obtain ⟨hbootstrapper, hissuance, hreputable, hendorsed⟩ := h
      obtain ⟨endorsedCindex, hendorsed⟩ := Option.ne_none_iff_exists'.1 hendorsed
      simp only [if_neg hbootstrapper, if_neg hissuance, hreputable, hendorsed, hadd]
      exact ⟨_, rfl⟩
  | newbie =>
      obtain ⟨hbootstrapper, hissuance, hreputable, hendorsed⟩ := h
      simp only [if_neg hbootstrapper, if_neg hissuance, hreputable, hendorsed, hadd]
      exact ⟨_, rfl⟩

theorem registerParticipant_registersAs {proof : Option (ProofOfAttendance AccountId)}
    (h : registerParticipant config s sender cid proof = .ok (c, t)) :
    ∃ linked, linkProof config s cid (registrationCindex s) sender proof = .ok linked ∧
      RegistersAs config { s with ceremonies := linked } cid (registrationCindex s) sender
        proof.isSome t := by
  obtain ⟨-, -, -, linked, hlink, hregister⟩ := registerParticipant_spec h
  exact ⟨linked, hlink, register_registersAs hregister⟩

/-! ## Linking and unlinking -/

theorem linkReputation_succeeds {p : ProofOfAttendance AccountId}
    (hprover : sender = p.proverPublic)
    (hcausal : p.ceremonyIndex < cindex)
    (hrecent : cindex - s.ceremonies.reputationLifetime ≤ p.ceremonyIndex)
    (hunlinked : (participantReputation s.ceremonies p.source
      p.attendeePublic).isVerifiedAndUnlinkedForCindex cindex = true)
    (hattendee : p.attendeePublic = sender) (hsigned : config.verifyProof p = true) :
    ∃ c, linkReputation config s cid cindex sender p = .ok c := by
  simp only [linkReputation, bind_eq_ok, ensure_eq_ok, ok_inj, exists_const]
  exact ⟨_, hprover, hcausal, hrecent, hunlinked, fun _ => hattendee, hsigned, rfl⟩

theorem unlinkReputation_eq_ok {source : CommunityCeremony} :
    unlinkReputation s cid cindex sender source = .ok c ↔
      cindex - s.ceremonies.reputationLifetime ≤ source.2 ∧
        participantReputation s.ceremonies source sender = .verifiedLinked cindex ∧
        c = { s.ceremonies with
          participantReputation :=
            (s.ceremonies.participantReputation.insert (source, sender) .verifiedUnlinked).erase
              ((cid, cindex), sender) } := by
  simp only [unlinkReputation, bind_eq_ok, ensure_eq_ok, ok_inj, exists_const]
  exact and_congr_right fun _ => and_congr_right fun _ => eq_comm

/-- All but reputations of the sender is as before. -/
structure OnlyReputations (c c' : CeremoniesStorage AccountId) (cc : CommunityCeremony)
    (sender : AccountId) : Prop where
  registry : c'.registry = c.registry
  endorsees : c'.endorsees = c.endorsees
  reputationLifetime : c'.reputationLifetime = c.reputationLifetime
  others : OthersUnaffected c c' cc sender

theorem OnlyReputations.refl (c : CeremoniesStorage AccountId) (cc : CommunityCeremony)
    (sender : AccountId) : OnlyReputations c c cc sender :=
  ⟨rfl, rfl, rfl, ⟨fun _ _ _ => rfl, fun _ _ _ => rfl, fun _ _ _ => rfl⟩⟩

private theorem unlinkReputation_only {source : CommunityCeremony}
    (h : unlinkReputation s cid cindex sender source = .ok c) :
    OnlyReputations s.ceremonies c (cid, cindex) sender := by
  obtain ⟨-, -, rfl⟩ := unlinkReputation_eq_ok.1 h
  refine ⟨rfl, rfl, rfl, othersUnaffected_reputations ?_⟩
  intro cc' a hne
  rw [StorageMap.lookup_erase_eq, StorageMap.lookup_insert_eq, if_neg (by simp [hne]),
    if_neg (by simp [hne])]

theorem refundReputation_only (h : refundReputation s cid cindex sender t maybe = .ok c) :
    OnlyReputations s.ceremonies c (cid, cindex) sender := by
  rcases refundReputation_spec h with rfl | ⟨-, source, -, hunlink⟩
  · exact .refl s.ceremonies (cid, cindex) sender
  · exact unlinkReputation_only hunlink

theorem linkReputation_only {p : ProofOfAttendance AccountId}
    (hattendee : p.attendeePublic = sender)
    (h : linkReputation config s cid cindex sender p = .ok c) :
    OnlyReputations s.ceremonies c (cid, cindex) sender := by
  obtain ⟨-, -, rfl⟩ := linkReputation_spec h
  refine ⟨rfl, rfl, rfl, othersUnaffected_reputations ?_⟩
  intro cc' a hne
  rw [StorageMap.lookup_insert_eq, StorageMap.lookup_insert_eq, if_neg (by simp [hne]),
    if_neg (by simp [hattendee, hne])]

theorem refundReputation_reputable
    (h : refundReputation s cid cindex sender .reputable maybe = .ok c) :
    ∃ source, maybe = some source ∧ unlinkReputation s cid cindex sender source = .ok c := by
  cases maybe with
  | none => cases h
  | some source => exact ⟨source, rfl, h⟩

/-! ## Leaving -/

omit [DecidableEq AccountId] in
theorem registrationCindex_registering (hphase : s.scheduler.currentPhase = .registering) :
    registrationCindex s = s.scheduler.currentCeremonyIndex := by
  rw [registrationCindex, hphase]
  rfl

/-- In the registering phase, whoever gets a refund is removed from the registry. -/
theorem unregisterParticipant_eq_ok (hphase : s.scheduler.currentPhase = .registering)
    (hcid : cid ∈ s.communities.communityIdentifiers)
    (ht : getParticipantType s.ceremonies (cid, s.scheduler.currentCeremonyIndex) sender = some t) :
    unregisterParticipant s sender cid maybe = .ok c ↔
      ∃ refunded,
        refundReputation s cid s.scheduler.currentCeremonyIndex sender t maybe = .ok refunded ∧
        c = refunded.setRegistry t ((refunded.registry t).removeParticipantFromRegistry
          (cid, s.scheduler.currentCeremonyIndex) sender) := by
  have hopen : CeremonyPhaseType.registering.isRegisteringOrAttesting = true := rfl
  simp only [unregisterParticipant, bind_eq_ok, ensure_eq_ok, okOr_eq_ok, exists_const,
    hcid, registrationCindex_registering hphase, ht, true_and, Option.some.injEq, exists_eq_left',
    removeParticipantFromRegistry, hphase, hopen, ok_inj]
  apply exists_congr
  intro refunded
  apply and_congr_right
  intro hrefund
  have hregistry := (refundReputation_only hrefund).registry
  rw [getParticipantType_of_registry hregistry, ht]
  simp only [Option.some.injEq, exists_eq_left']
  exact eq_comm

/-- What an unregistered participant finds. -/
structure Left (s : Runtime AccountId) (sender : AccountId) (cid : CommunityIdentifier)
    (t : ParticipantType) (c : CeremoniesStorage AccountId) : Prop where
  free : ∀ t', (c.registry t').index.lookup
    ((cid, s.scheduler.currentCeremonyIndex), sender) = none
  fits : (c.registry t).count.get (cid, s.scheduler.currentCeremonyIndex) 0 + 1 < 2 ^ 64
  endorsees : c.endorsees = s.ceremonies.endorsees
  reputationLifetime : c.reputationLifetime = s.ceremonies.reputationLifetime
  others : OthersUnaffected s.ceremonies c (cid, s.scheduler.currentCeremonyIndex) sender

theorem left_of_unregister (hinv : RegistrationInvariant s)
    (hphase : s.scheduler.currentPhase = .registering)
    (hcid : cid ∈ s.communities.communityIdentifiers)
    (ht : getParticipantType s.ceremonies (cid, s.scheduler.currentCeremonyIndex) sender = some t)
    (h : unregisterParticipant s sender cid maybe = .ok c) : Left s sender cid t c := by
  obtain ⟨-, _, refunded', -, hrefund', hremove⟩ := unregisterParticipant_spec h
  have hfree := free_of_remove (s := { s with ceremonies := refunded' })
    ((refundReputation_only hrefund').registry ▸ hinv.registry) hremove
  rw [registrationCindex_registering hphase] at hfree
  obtain ⟨refunded, hrefund, rfl⟩ := (unregisterParticipant_eq_ok hphase hcid ht).1 h
  have honly := refundReputation_only hrefund
  have hbijective : ∀ cc, (refunded.registry t).Bijective cc := by
    rw [honly.registry]
    exact hinv.registry.bijective t
  have ht' : getParticipantType refunded (cid, s.scheduler.currentCeremonyIndex) sender =
      some t := by
    rw [getParticipantType_of_registry honly.registry, ht]
  obtain ⟨i, hi⟩ := StorageMap.contains_eq_true.1 (contains_of_getParticipantType ht')
  refine ⟨hfree, ?_, (setRegistry_endorsees _ _ _).trans honly.endorsees,
    (setRegistry_reputationLifetime _ _ _).trans honly.reputationLifetime, ?_⟩
  · have hbounds := (hbijective _).index_bounds hi
    have hcount := hinv.counts t (cid, s.scheduler.currentCeremonyIndex)
    rw [← honly.registry] at hcount
    rw [setRegistry_registry_self, ParticipantRegistry.count_of_remove hbijective hi, if_pos rfl]
    omega
  · exact honly.others.trans (othersUnaffected_remove (honly.registry ▸ hinv.registry) ht')

/-! ## Coming back -/

theorem isEndorsed_congr (hendorsees : c'.endorsees = c.endorsees)
    (hlifetime : c'.reputationLifetime = c.reputationLifetime) :
    isEndorsed c' sender cc = isEndorsed c sender cc := by
  rw [isEndorsed, isEndorsed, hendorsees, hlifetime]

theorem Left.returns (hleft : Left s sender cid t c)
    (hphase : s.scheduler.currentPhase = .registering)
    (hcid : cid ∈ s.communities.communityIdentifiers)
    {proof : Option (ProofOfAttendance AccountId)} {linked : CeremoniesStorage AccountId}
    (hlink : linkProof config { s with ceremonies := c } cid s.scheduler.currentCeremonyIndex sender
      proof = .ok linked)
    (honly : OnlyReputations c linked (cid, s.scheduler.currentCeremonyIndex) sender)
    (has : RegistersAs config { s with ceremonies := linked } cid s.scheduler.currentCeremonyIndex
      sender proof.isSome t) :
    ∃ c', registerParticipant config { s with ceremonies := c } sender cid proof = .ok (c', t) ∧
      OthersUnaffected s.ceremonies c' (cid, s.scheduler.currentCeremonyIndex) sender := by
  have hcindex : registrationCindex { s with ceremonies := c } =
      s.scheduler.currentCeremonyIndex := registrationCindex_registering hphase
  have hfits := hleft.fits
  rw [← honly.registry] at hfits
  obtain ⟨c', hregister⟩ := register_succeeds has hfits
  refine ⟨c', ?_, (hleft.others.trans honly.others).trans (othersUnaffected_register hregister)⟩
  simp only [registerParticipant, bind_eq_ok, ensure_eq_ok, exists_const, hcindex]
  exact ⟨hphase ▸ rfl, hcid, isRegistered_eq_false_iff.2 hleft.free, linked, hlink, hregister⟩

/-! ## The main result -/

/-- The own attendance that was freed for a reputable, and no proof for all others. -/
def ReturnsWith (sender : AccountId) (maybe : Option CommunityCeremony)
    (proof : Option (ProofOfAttendance AccountId)) : ParticipantType → Prop
  | .bootstrapper => proof = none
  | .reputable => ∃ p, proof = some p ∧ maybe = some p.source ∧ p.attendeePublic = sender
  | .endorsee => proof = none
  | .newbie => proof = none

/-- The participant can leave, and after leaving in whatever way, come back as before. -/
structure Undoable (config : Config AccountId) (s : Runtime AccountId) (sender : AccountId)
    (cid : CommunityIdentifier) (t : ParticipantType) : Prop where
  leaves : ∃ maybe c, unregisterParticipant s sender cid maybe = .ok c
  returns : ∀ maybe c, unregisterParticipant s sender cid maybe = .ok c →
    OthersUnaffected s.ceremonies c (cid, s.scheduler.currentCeremonyIndex) sender ∧
      ∃ proof c', ReturnsWith sender maybe proof t ∧
        registerParticipant config { s with ceremonies := c } sender cid proof = .ok (c', t) ∧
        OthersUnaffected s.ceremonies c' (cid, s.scheduler.currentCeremonyIndex) sender

/-- Bootstrappers always can; others need an issued currency. Reputables need a
reputation of their own that is linked for this ceremony, endorsees another
endorsement, and newbies none. -/
def CanReturn (config : Config AccountId) (s : Runtime AccountId) (sender : AccountId)
    (cid : CommunityIdentifier) : ParticipantType → Prop
  | .bootstrapper => sender ∈ Communities.bootstrappers s.communities cid
  | .reputable => sender ∉ Communities.bootstrappers s.communities cid ∧
      Balances.totalIssuance config s.blockNumber s.balances cid ≠ 0 ∧
      ∃ source : CommunityCeremony,
        s.scheduler.currentCeremonyIndex - s.ceremonies.reputationLifetime ≤ source.2 ∧
        participantReputation s.ceremonies source sender =
          .verifiedLinked s.scheduler.currentCeremonyIndex
  | .endorsee => sender ∉ Communities.bootstrappers s.communities cid ∧
      Balances.totalIssuance config s.blockNumber s.balances cid ≠ 0 ∧
      isEndorsed s.ceremonies sender (cid, s.scheduler.currentCeremonyIndex) ≠ none
  | .newbie => sender ∉ Communities.bootstrappers s.communities cid ∧
      Balances.totalIssuance config s.blockNumber s.balances cid ≠ 0 ∧
      isEndorsed s.ceremonies sender (cid, s.scheduler.currentCeremonyIndex) = none

/-- Every account can sign for its own attendance. -/
def SelfSigned (config : Config AccountId) : Prop :=
  ∀ (account : AccountId) (source : CommunityCeremony), ∃ signature,
    config.verifyProof ⟨account, source.2, source.1, account, signature⟩ = true

theorem CanReturn.leaves (h : CanReturn config s sender cid t)
    (hphase : s.scheduler.currentPhase = .registering)
    (hcid : cid ∈ s.communities.communityIdentifiers)
    (ht : getParticipantType s.ceremonies (cid, s.scheduler.currentCeremonyIndex) sender =
      some t) :
    ∃ maybe c, unregisterParticipant s sender cid maybe = .ok c := by
  have hleaves (maybe : Option CommunityCeremony) {refunded : CeremoniesStorage AccountId}
      (hrefund : refundReputation s cid s.scheduler.currentCeremonyIndex sender t maybe =
        .ok refunded) : ∃ maybe c, unregisterParticipant s sender cid maybe = .ok c :=
    ⟨maybe, _, (unregisterParticipant_eq_ok hphase hcid ht).2 ⟨refunded, hrefund, rfl⟩⟩
  cases t with
  | bootstrapper => exact hleaves none rfl
  | reputable =>
      obtain ⟨-, -, source, hrecent, hlinked⟩ := h
      exact hleaves (some source) (unlinkReputation_eq_ok.2 ⟨hrecent, hlinked, rfl⟩)
  | endorsee => exact hleaves none rfl
  | newbie => exact hleaves none rfl

/-- A linked reputation is of an earlier ceremony. -/
theorem linked_earlier (hinv : RegistrationInvariant s) {source : CommunityCeremony}
    (h : participantReputation s.ceremonies source sender = .verifiedLinked cindex) :
    source.2 < cindex := by
  apply hinv.earlier source sender
  rw [participantReputation, StorageMap.get] at h
  cases hlookup : s.ceremonies.participantReputation.lookup (source, sender) with
  | none =>
      rw [hlookup] at h
      cases h
  | some reputation =>
      rw [hlookup] at h
      exact congrArg some h

/-- The attendance that was freed can be linked again. -/
theorem reputable_returns (hsigned : SelfSigned config) (hinv : RegistrationInvariant s)
    (hphase : s.scheduler.currentPhase = .registering)
    (hcid : cid ∈ s.communities.communityIdentifiers)
    (ht : getParticipantType s.ceremonies (cid, s.scheduler.currentCeremonyIndex) sender =
      some .reputable)
    (hbootstrapper : sender ∉ Communities.bootstrappers s.communities cid)
    (hissuance : Balances.totalIssuance config s.blockNumber s.balances cid ≠ 0)
    (h : unregisterParticipant s sender cid maybe = .ok c) :
    ∃ proof c', ReturnsWith sender maybe proof .reputable ∧
      registerParticipant config { s with ceremonies := c } sender cid proof =
        .ok (c', .reputable) ∧
      OthersUnaffected s.ceremonies c' (cid, s.scheduler.currentCeremonyIndex) sender := by
  have hleft := left_of_unregister hinv hphase hcid ht h
  obtain ⟨refunded, hrefund, hc⟩ := (unregisterParticipant_eq_ok hphase hcid ht).1 h
  obtain ⟨source, hmaybe, hunlink⟩ := refundReputation_reputable hrefund
  obtain ⟨hrecent, hlinked, hrefunded⟩ := unlinkReputation_eq_ok.1 hunlink
  have hearlier := linked_earlier hinv hlinked
  have hfreed : c.participantReputation.lookup (source, sender) = some .verifiedUnlinked := by
    have hne : source ≠ (cid, s.scheduler.currentCeremonyIndex) := by
      intro hsame
      rw [hsame] at hearlier
      exact lt_irrefl _ hearlier
    rw [hc, setRegistry_participantReputation, hrefunded, StorageMap.lookup_erase_eq,
      if_neg (by simp [hne]), StorageMap.lookup_insert_eq, if_pos rfl]
  obtain ⟨signature, hsignature⟩ := hsigned sender source
  let p : ProofOfAttendance AccountId := ⟨sender, source.2, source.1, sender, signature⟩
  have hlink : ∃ linked, linkReputation config { s with ceremonies := c } cid
      s.scheduler.currentCeremonyIndex sender p = .ok linked := by
    apply linkReputation_succeeds rfl hearlier ?_ ?_ rfl hsignature
    · rw [hleft.reputationLifetime]
      exact hrecent
    · have hread : participantReputation c source sender = .verifiedUnlinked :=
        StorageMap.get_of_lookup hfreed
      show (participantReputation c source sender).isVerifiedAndUnlinkedForCindex _ = true
      rw [hread]
      rfl
  obtain ⟨linked, hlink⟩ := hlink
  have honly : OnlyReputations c linked (cid, s.scheduler.currentCeremonyIndex) sender :=
    linkReputation_only (s := { s with ceremonies := c }) rfl hlink
  have hproof : linkProof config { s with ceremonies := c } cid s.scheduler.currentCeremonyIndex
      sender (some p) = .ok linked := hlink
  obtain ⟨c', hregister, hothers⟩ :=
    hleft.returns hphase hcid hproof honly ⟨hbootstrapper, hissuance, rfl⟩
  exact ⟨some p, c', ⟨p, rfl, hmaybe, rfl⟩, hregister, hothers⟩

theorem CanReturn.returns (h : CanReturn config s sender cid t) (hsigned : SelfSigned config)
    (hinv : RegistrationInvariant s) (hphase : s.scheduler.currentPhase = .registering)
    (hcid : cid ∈ s.communities.communityIdentifiers)
    (ht : getParticipantType s.ceremonies (cid, s.scheduler.currentCeremonyIndex) sender = some t)
    (hunregister : unregisterParticipant s sender cid maybe = .ok c) :
    ∃ proof c', ReturnsWith sender maybe proof t ∧
      registerParticipant config { s with ceremonies := c } sender cid proof = .ok (c', t) ∧
      OthersUnaffected s.ceremonies c' (cid, s.scheduler.currentCeremonyIndex) sender := by
  have hleft := left_of_unregister hinv hphase hcid ht hunregister
  have hendorsed : isEndorsed c sender (cid, s.scheduler.currentCeremonyIndex) =
      isEndorsed s.ceremonies sender (cid, s.scheduler.currentCeremonyIndex) :=
    isEndorsed_congr hleft.endorsees hleft.reputationLifetime
  have hreturns (has : RegistersAs config { s with ceremonies := c } cid
      s.scheduler.currentCeremonyIndex sender false t) :
      ∃ c', registerParticipant config { s with ceremonies := c } sender cid none = .ok (c', t) ∧
        OthersUnaffected s.ceremonies c' (cid, s.scheduler.currentCeremonyIndex) sender :=
    by
    have hproof : linkProof config { s with ceremonies := c } cid s.scheduler.currentCeremonyIndex
        sender none = .ok c := rfl
    exact hleft.returns hphase hcid hproof (.refl c _ sender) has
  cases t with
  | bootstrapper =>
      obtain ⟨c', hregister, hothers⟩ := hreturns h
      exact ⟨none, c', rfl, hregister, hothers⟩
  | reputable =>
      exact reputable_returns hsigned hinv hphase hcid ht h.1 h.2.1 hunregister
  | endorsee =>
      obtain ⟨c', hregister, hothers⟩ := hreturns ⟨h.1, h.2.1, rfl, hendorsed ▸ h.2.2⟩
      exact ⟨none, c', rfl, hregister, hothers⟩
  | newbie =>
      obtain ⟨c', hregister, hothers⟩ := hreturns ⟨h.1, h.2.1, rfl, hendorsed ▸ h.2.2⟩
      exact ⟨none, c', rfl, hregister, hothers⟩

theorem Undoable.canReturn (h : Undoable config s sender cid t) (hinv : RegistrationInvariant s)
    (hphase : s.scheduler.currentPhase = .registering)
    (hcid : cid ∈ s.communities.communityIdentifiers)
    (ht : getParticipantType s.ceremonies (cid, s.scheduler.currentCeremonyIndex) sender =
      some t) : CanReturn config s sender cid t := by
  obtain ⟨maybe, c, hunregister⟩ := h.leaves
  obtain ⟨-, proof, c', hwith, hregister, -⟩ := h.returns maybe c hunregister
  have hleft := left_of_unregister hinv hphase hcid ht hunregister
  obtain ⟨linked, hlink, has⟩ := registerParticipant_registersAs hregister
  have hcindex : registrationCindex { s with ceremonies := c } =
      s.scheduler.currentCeremonyIndex := registrationCindex_registering hphase
  have hendorsed (hproof : proof = none) :
      isEndorsed linked sender (cid, s.scheduler.currentCeremonyIndex) =
        isEndorsed s.ceremonies sender (cid, s.scheduler.currentCeremonyIndex) := by
    subst hproof
    cases hlink
    exact isEndorsed_congr hleft.endorsees hleft.reputationLifetime
  rw [hcindex] at has
  cases t with
  | bootstrapper => exact has
  | reputable =>
      obtain ⟨refunded, hrefund, -⟩ := (unregisterParticipant_eq_ok hphase hcid ht).1 hunregister
      obtain ⟨source, -, hunlink⟩ := refundReputation_reputable hrefund
      obtain ⟨hrecent, hlinked, -⟩ := unlinkReputation_eq_ok.1 hunlink
      exact ⟨has.1, has.2.1, source, hrecent, hlinked⟩
  | endorsee => exact ⟨has.1, has.2.1, hendorsed hwith ▸ has.2.2.2⟩
  | newbie => exact ⟨has.1, has.2.1, hendorsed hwith ▸ has.2.2.2⟩

/-- In every reachable state, exactly these participants can leave and come back. -/
theorem unregistering_undoable_iff (config : Config AccountId) (hsigned : SelfSigned config)
    (genesis : GenesisConfig) (nativeBalances : StorageMap AccountId Nat)
    (assetBalances : StorageMap (AccountId × AssetKind) Nat) (actions : List (Action AccountId))
    (sender : AccountId) (cid : CommunityIdentifier) (t : ParticipantType)
    (s : Runtime AccountId)
    (hs : s = ((Chain.genesis genesis nativeBalances assetBalances).run config actions).runtime)
    (hphase : s.scheduler.currentPhase = .registering)
    (hcid : cid ∈ s.communities.communityIdentifiers)
    (ht : getParticipantType s.ceremonies (cid, s.scheduler.currentCeremonyIndex) sender =
      some t) :
    Undoable config s sender cid t ↔ CanReturn config s sender cid t := by
  have hinv : RegistrationInvariant s := by
    rw [hs]
    exact RegistrationInvariant.run (.genesis genesis nativeBalances assetBalances) actions
  constructor
  · intro h
    exact h.canReturn hinv hphase hcid ht
  · intro h
    refine ⟨h.leaves hphase hcid ht, ?_⟩
    intro maybe c hunregister
    exact ⟨(left_of_unregister hinv hphase hcid ht hunregister).others,
      h.returns hsigned hinv hphase hcid ht hunregister⟩

end Ceremonies

namespace Demo

/-- Account 2 comes to the other community with its own attendance, account 20 with
the one that account 1 lends, and account 21 with an endorsement. -/
def visitors : List (Action Nat) :=
  secondCeremony ++
    [.registerParticipant 2 mainlanders (some (attended 2 islanders 2)),
      .registerParticipant 20 mainlanders (some (attended 20 islanders 1)),
      .endorseNewcomer 11 mainlanders 21, .registerParticipant 21 mainlanders none]

private theorem selfSigned : Ceremonies.SelfSigned runtimeConfig := by
  intro account source
  exact ⟨[], rfl⟩

end Demo

theorem Ceremonies.unregistering_undoable_own_attendance :
    Undoable Demo.runtimeConfig (Demo.start.run Demo.runtimeConfig Demo.visitors).runtime 2
      Demo.mainlanders .reputable :=
  (unregistering_undoable_iff Demo.runtimeConfig Demo.selfSigned Demo.genesis ∅ ∅ Demo.visitors 2
    Demo.mainlanders .reputable _ rfl (by decide +kernel) (by decide +kernel) (by decide +kernel)).2
    ⟨by decide +kernel, by decide +kernel, (Demo.islanders, 1), by decide +kernel,
      by decide +kernel⟩

/-- The lent reputation cannot be given back, and the endorsement is gone. -/
theorem Ceremonies.unregistering_not_undoable :
    let s := (Demo.start.run Demo.runtimeConfig Demo.visitors).runtime
    (s.scheduler.currentPhase = .registering ∧
        Demo.mainlanders ∈ s.communities.communityIdentifiers ∧
        getParticipantType s.ceremonies (Demo.mainlanders, s.scheduler.currentCeremonyIndex) 20 =
          some .reputable ∧
        getParticipantType s.ceremonies (Demo.mainlanders, s.scheduler.currentCeremonyIndex) 21 =
          some .endorsee) ∧
      ¬ Undoable Demo.runtimeConfig s 20 Demo.mainlanders .reputable ∧
      ¬ Undoable Demo.runtimeConfig s 21 Demo.mainlanders .endorsee := by
  intro s
  have hinv : RegistrationInvariant s :=
    RegistrationInvariant.run (.genesis Demo.genesis ∅ ∅) Demo.visitors
  have hphase : s.scheduler.currentPhase = .registering := by decide +kernel
  have hcid : Demo.mainlanders ∈ s.communities.communityIdentifiers := by decide +kernel
  have hreputable : getParticipantType s.ceremonies
      (Demo.mainlanders, s.scheduler.currentCeremonyIndex) 20 = some .reputable := by
    decide +kernel
  have hendorsee : getParticipantType s.ceremonies
      (Demo.mainlanders, s.scheduler.currentCeremonyIndex) 21 = some .endorsee := by
    decide +kernel
  refine ⟨⟨hphase, hcid, hreputable, hendorsee⟩, ?_, ?_⟩
  · intro h
    obtain ⟨-, -, source, -, hlinked⟩ := h.canReturn hinv hphase hcid hreputable
    have hnone : ∀ e ∈ s.ceremonies.participantReputation.entries, e.1.2 = 20 →
        e.2 = .unverifiedReputable := by
      decide +kernel
    rw [participantReputation, StorageMap.get] at hlinked
    cases hlookup : s.ceremonies.participantReputation.lookup (source, 20) with
    | none =>
        rw [hlookup] at hlinked
        cases hlinked
    | some reputation =>
        have hreputation : reputation = .unverifiedReputable :=
          hnone _ (StorageMap.lookup_eq_some_iff.1 hlookup) rfl
        rw [hlookup, hreputation] at hlinked
        cases hlinked
  · intro h
    obtain ⟨-, -, hendorsed⟩ := h.canReturn hinv hphase hcid hendorsee
    exact hendorsed (by decide +kernel)

end Encointer
