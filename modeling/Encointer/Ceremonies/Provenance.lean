import Encointer.Ceremonies.Ledger
import Encointer.Democracy.VoteSpecs
import Encointer.Faucets.Payouts

/-!
# Where reputations come from

A reputation is used only by who was credited for a meetup before, and is
credited only to who had registered for the ceremony, as a bootstrapper, with an
earlier reputation, with an endorsement, or as a newbie.
-/

namespace Encointer

open Ceremonies

variable {AccountId : Type} [DecidableEq AccountId] {config : Config AccountId}
  {s s' : Runtime AccountId} {effects : List (Effect AccountId)}

/-! ## Why a participant has its type -/

namespace Ceremonies

variable {cid : CommunityIdentifier} {cindex : Nat} {sender : AccountId}

private theorem exists_pending_of_isEndorsed {c : CeremoniesStorage AccountId}
    {endorsedCindex : Nat}
    (h : isEndorsed c sender (cid, cindex) = some endorsedCindex) :
    IsPending c (cid, endorsedCindex) sender := by
  have hfound := List.find?_some h
  exact hfound

theorem register_origin {isReputable : Bool} {c : CeremoniesStorage AccountId}
    {t : ParticipantType} (h : register config s cid cindex sender isReputable = .ok (c, t)) :
    (t = .bootstrapper → sender ∈ Communities.bootstrappers s.communities cid) ∧
      (t = .endorsee → ∃ endorsedCindex, IsPending s.ceremonies (cid, endorsedCindex) sender) := by
  unfold register at h
  simp only [ite_eq_ok, bind_eq_ok, ok_inj, Prod.mk.injEq, error_ne_ok] at h
  rcases h with ⟨hbootstrapper, _, _, _, rfl⟩ | ⟨-, h⟩
  · exact ⟨fun _ => hbootstrapper, by simp⟩
  · rcases h with ⟨-, hfalse⟩ | ⟨-, h⟩
    · exact hfalse.elim
    · rcases h with ⟨-, _, _, _, rfl⟩ | ⟨-, h⟩
      · simp
      · cases hendorsed : isEndorsed s.ceremonies sender (cid, cindex) with
        | none =>
            simp only [hendorsed, bind_eq_ok, ok_inj, Prod.mk.injEq] at h
            obtain ⟨_, _, _, rfl⟩ := h
            simp
        | some endorsedCindex =>
            simp only [hendorsed, bind_eq_ok, ok_inj, Prod.mk.injEq] at h
            obtain ⟨_, _, _, rfl⟩ := h
            exact ⟨by simp, fun _ => ⟨_, exists_pending_of_isEndorsed hendorsed⟩⟩

/-- Nothing happens between the parts of a registration that changes its reasons. -/
theorem registerParticipant_origin {proof : Option (ProofOfAttendance AccountId)}
    {c : CeremoniesStorage AccountId} {t : ParticipantType}
    (h : registerParticipant config s sender cid proof = .ok (c, t)) :
    (t = .bootstrapper → sender ∈ Communities.bootstrappers s.communities cid) ∧
      (t = .reputable → proof.isSome = true) ∧
      (t = .endorsee → ∃ endorsedCindex, IsPending s.ceremonies (cid, endorsedCindex) sender) ∧
      ∀ p ∈ proof, p.attendeePublic ∈ verifiedAccounts s.ceremonies p.source := by
  obtain ⟨-, -, -, linked, hlink, hregister⟩ := registerParticipant_spec h
  obtain ⟨hbootstrapper, hendorsee⟩ := register_origin hregister
  obtain ⟨-, hendorsees⟩ := linkProof_ledger hlink
  refine ⟨hbootstrapper, registerParticipant_type h, ?_, ?_⟩
  · intro ht
    obtain ⟨endorsedCindex, hpending⟩ := hendorsee ht
    rw [IsPending, hendorsees] at hpending
    exact ⟨endorsedCindex, hpending⟩
  · intro p hp
    rw [Option.mem_def.1 hp] at hlink
    obtain ⟨-, hunlinked, -⟩ := linkReputation_spec hlink
    exact mem_verifiedAccounts.2 (Reputation.isVerified_of_unlinkedForCindex hunlinked)

theorem hasReputation_iff {a : AccountId} :
    hasReputation s a cid = true ↔ ∃ i ≤ s.ceremonies.reputationLifetime,
      a ∈ verifiedAccounts s.ceremonies (cid, s.scheduler.currentCeremonyIndex - i) := by
  simp only [hasReputation, List.any_eq_true, List.mem_range, Nat.lt_succ_iff, mem_verifiedAccounts]

theorem ClaimEffect.registered {claim : Claim AccountId} {participants : List AccountId}
    (hinv : RegistryInvariant s.ceremonies.registry) (h : ClaimEffect s claim participants)
    {a : AccountId} (ha : a ∈ claim.credited) : Registered s.ceremonies claim.cc a := by
  have hregistered {t : ParticipantType} {i : Nat}
      (hlookup : (s.ceremonies.registry t).registry.lookup (claim.cc, i) = some a) :
      Registered s.ceremonies claim.cc a :=
    ⟨t, StorageMap.contains_eq_true.2 ⟨i, ((hinv.bijective t claim.cc).inverse i a).1 hlookup⟩⟩
  have hmem := h.credited.mem ha
  obtain ⟨-, first, second, third, -, -, -, hparticipants⟩ := getMeetupParticipants_eq_ok.1 h.members
  rw [hparticipants, List.mem_append, List.mem_append] at hmem
  rcases hmem with (hmem | hmem) | hmem
  · obtain ⟨p, -, hp⟩ := List.mem_filterMap.1 hmem
    unfold bootstrapperOrReputable at hp
    split at hp
    · exact hregistered (t := .bootstrapper) hp
    · split at hp
      · exact hregistered (t := .reputable) hp
      · cases hp
  · obtain ⟨p, -, hp⟩ := List.mem_filterMap.1 hmem
    unfold registeredAt at hp
    split at hp
    · exact hregistered hp
    · cases hp
  · obtain ⟨p, -, hp⟩ := List.mem_filterMap.1 hmem
    unfold registeredAt at hp
    split at hp
    · exact hregistered hp
    · cases hp

end Ceremonies

/-! ## Registrations and endorsements -/

theorem Change.registered_or_add (hinv : RegistryInvariant s.ceremonies.registry)
    (h : Change config s effects s') {cc : CommunityCeremony} {a : AccountId}
    (hregistered : Registered s'.ceremonies cc a) :
    Registered s.ceremonies cc a ∨ ∃ t, .add t cc a ∈ effects := by
  by_cases hkeeps : ∀ e ∈ effects, e.KeepsLinks
  · obtain ⟨t, ht⟩ := hregistered
    exact Or.inl ⟨t, (h.linksShrink hinv hkeeps).registered t _ ht⟩
  · cases h with
    | add t cc' a' r opened free added =>
        obtain ⟨t', ht'⟩ := hregistered
        have hadd : Change config s _ _ := .add t cc' a' r opened free added
        obtain ⟨-, -, -, -, hindex⟩ := hadd.add_inv
        rcases hindex t' _ ht' with ⟨-, hkey⟩ | hold
        · cases hkey
          exact Or.inr ⟨t, List.mem_cons_self⟩
        · exact Or.inl ⟨t', hold⟩
    | link cid cindex sender p ceremonies opened linked =>
        obtain ⟨-, -, rfl⟩ := linkReputation_spec linked
        exact Or.inl hregistered
    | unlink cid cindex sender cc' ceremonies opened unlinked =>
        obtain ⟨-, rfl⟩ := unlinkReputation_spec unlinked
        exact Or.inl hregistered
    | _ =>
        apply absurd _ hkeeps
        intro e he
        first
          | rw [List.mem_singleton.1 he]; trivial
          | cases he

theorem Changes.registered_or_add (hinv : RegistryInvariant s.ceremonies.registry)
    (h : Changes config s effects s') {cc : CommunityCeremony} {a : AccountId}
    (hregistered : Registered s'.ceremonies cc a) :
    Registered s.ceremonies cc a ∨ ∃ t, .add t cc a ∈ effects := by
  induction h with
  | refl => exact Or.inl hregistered
  | tail hbefore hchange ih =>
      rcases hchange.registered_or_add (hinv.changes hbefore) hregistered with hold | ⟨t, ht⟩
      · rcases ih hold with hold | ⟨t, ht⟩
        · exact Or.inl hold
        · exact Or.inr ⟨t, List.mem_append_left _ ht⟩
      · exact Or.inr ⟨t, List.mem_append_right _ ht⟩

theorem Change.pending_or_endorse (h : Change config s effects s') {cc : CommunityCeremony}
    {a : AccountId} (hpending : IsPending s'.ceremonies cc a) :
    IsPending s.ceremonies cc a ∨ .endorse cc a ∈ effects := by
  cases h with
  | parameters ceremonies same =>
      rw [IsPending, same.endorsees] at hpending
      exact Or.inl hpending
  | attest sender cid vote attestations ceremonies attested =>
      rw [IsPending, (attestAttendees_ledger attested).2] at hpending
      exact Or.inl hpending
  | consumeEndorsement cc' a' =>
      rw [IsPending, StorageMap.contains, StorageMap.lookup_erase_eq] at hpending
      split at hpending
      · cases hpending
      · exact Or.inl hpending
  | endorse cc' newbie count registered free counted =>
      rw [IsPending, StorageMap.contains, StorageMap.lookup_insert_eq] at hpending
      split at hpending
      · rename_i hkey
        cases hkey
        exact Or.inr List.mem_cons_self
      · exact Or.inl hpending
  | add t cc' a' r opened free added =>
      rw [IsPending, setRegistry_endorsees] at hpending
      exact Or.inl hpending
  | remove t cc' a' opened registered =>
      rw [IsPending, setRegistry_endorsees] at hpending
      exact Or.inl hpending
  | link cid cindex sender p ceremonies opened linked =>
      obtain ⟨-, -, rfl⟩ := linkReputation_spec linked
      exact Or.inl hpending
  | unlink cid cindex sender cc' ceremonies opened unlinked =>
      obtain ⟨-, rfl⟩ := unlinkReputation_spec unlinked
      exact Or.inl hpending
  | purge cc' =>
      rw [IsPending, purgeCommunityCeremonyInternal, StorageMap.contains,
        StorageMap.lookup_removePrefix] at hpending
      split at hpending
      · cases hpending
      · exact Or.inl hpending
  | assign cid ceremonies random random' assigning registered assigned =>
      rcases generateMeetupAssignmentParams_spec assigned with rfl | ⟨_, _, _, -, -, -, rfl⟩
      · exact Or.inl hpending
      · exact Or.inl hpending
  | _ => exact Or.inl hpending

theorem Changes.pending_or_endorse (h : Changes config s effects s') {cc : CommunityCeremony}
    {a : AccountId} (hpending : IsPending s'.ceremonies cc a) :
    IsPending s.ceremonies cc a ∨ .endorse cc a ∈ effects := by
  induction h with
  | refl => exact Or.inl hpending
  | tail _ hchange ih =>
      rcases hchange.pending_or_endorse hpending with hold | hnew
      · rcases ih hold with hold | hnew
        · exact Or.inl hold
        · exact Or.inr (List.mem_append_left _ hnew)
      · exact Or.inr (List.mem_append_right _ hnew)

/-! ## What the trace tells about effects -/

namespace Dispatch.ActionEffects

variable {action : Action AccountId} {observations : List (Observation AccountId)}

theorem registered_of_add (h : ActionEffects config s action observations effects)
    {t : ParticipantType} {cc : CommunityCeremony} {a : AccountId} (hmem : .add t cc a ∈ effects) :
    ∃ reputation, .registered cc a t reputation ∈ observations := by
  have hmay := h.mayCause hmem
  cases action with
  | registerParticipant sender cid proof =>
      obtain ⟨t', -, rfl, rfl⟩ := h
      rcases List.mem_append.1 hmem with hlink | hadd
      · obtain ⟨p, -, hp⟩ := List.mem_map.1 hlink
        cases hp
      · cases List.mem_singleton.1 hadd
        exact ⟨_, List.mem_singleton.2 rfl⟩
  | upgradeRegistration sender cid proof =>
      obtain ⟨t', rfl, rfl⟩ := h
      simp only [List.mem_cons, List.not_mem_nil, or_false, reduceCtorEq, false_or] at hmem
      cases hmem
      exact ⟨_, List.mem_singleton.2 rfl⟩
  | endorseNewcomer sender cid newbie =>
      obtain ⟨ticket, t', -, hticket, rfl, rfl⟩ := h
      rcases List.mem_append.1 hmem with hendorse | hregister
      · rcases List.mem_pair.1 hendorse with hadd | hadd
        · rw [← hadd] at hticket
          cases hticket
        · cases hadd
      · cases t' with
        | none => cases hregister
        | some t' =>
            rcases List.mem_pair.1 hregister with hadd | hadd
            · cases hadd
            · cases hadd
              exact ⟨none, List.mem_cons_of_mem _ (List.mem_singleton.2 rfl)⟩
  | _ => exact hmay.elim

theorem endorsed_of_endorse (h : ActionEffects config s action observations effects)
    {cc : CommunityCeremony} {a : AccountId} (hmem : .endorse cc a ∈ effects) :
    ∃ sender, .endorsed cc sender a ∈ observations := by
  obtain ⟨hcindex, sender, haction⟩ := h.mayCause hmem
  rw [haction] at h
  obtain ⟨ticket, t, -, -, -, rfl⟩ := h
  have hcc : (cc.1, Ceremonies.endorsementCindex s) = cc := Prod.ext rfl hcindex.symm
  rw [hcc]
  exact ⟨sender, List.mem_cons_self⟩

end Dispatch.ActionEffects

theorem Changes.verifiedAccounts_subset (h : Changes config s effects s')
    (hattested : ReputationsAttested s) (cc : CommunityCeremony) :
    verifiedAccounts s'.ceremonies cc ⊆ verifiedAccounts s.ceremonies cc := by
  rw [(h.counts hattested).verified]
  split
  · exact Finset.empty_subset _
  · exact Finset.Subset.refl _

theorem Dispatch.Outcome.claim_endorsees {sender : AccountId} {cid : CommunityIdentifier}
    {maybeMeetupIndex : Option Nat} {observations : List (Observation AccountId)}
    (h : Outcome config s (.claimRewards sender cid maybeMeetupIndex) s' observations) :
    s'.ceremonies.endorsees = s.ceremonies.endorsees := by
  cases h with
  | claim _ _ _ claim haction hcall hs hobs =>
      rw [hs]
      exact (claimRewards_ledger hcall).2
  | quiet hcall hobs heffects =>
      rw [Dispatch.dispatchQuiet, ok_inj] at hcall
      rw [hcall]
  | register _ _ _ _ _ haction => cases haction
  | upgrade _ _ _ _ _ haction => cases haction
  | endorse _ _ _ _ _ haction => cases haction
  | submit _ _ _ _ haction => cases haction
  | vote _ _ _ _ _ _ _ _ haction => cases haction

/-! ## The origin of everything -/

/-- What the state holds was observed when it came up. -/
structure Provenance (chain : Chain AccountId) : Prop where
  reputation : ReputationInvariant chain.runtime
  earned : ∀ cc, ∀ a ∈ verifiedAccounts chain.runtime.ceremonies cc, (cc, a) ∈ credits chain.trace
  registered : ∀ cc a, Registered chain.runtime.ceremonies cc a →
    ∃ t reputation, .registered cc a t reputation ∈ chain.trace
  endorsed : ∀ cc a, IsPending chain.runtime.ceremonies cc a →
    ∃ sender, .endorsed cc sender a ∈ chain.trace

namespace Provenance

variable {chain : Chain AccountId}

theorem genesis (genesis : GenesisConfig) (nativeBalances : StorageMap AccountId Nat)
    (assetBalances : StorageMap (AccountId × AssetKind) Nat) :
    Provenance (Chain.genesis genesis nativeBalances assetBalances) where
  reputation := .genesis genesis nativeBalances assetBalances
  earned := by
    intro cc a hmem
    have hempty : verifiedAccounts (genesis.build nativeBalances assetBalances).ceremonies cc = ∅ :=
      verifiedAccounts_eq_empty fun _ => StorageMap.lookup_empty _
    rw [Chain.genesis, hempty] at hmem
    exact absurd hmem (Finset.notMem_empty a)
  registered := by
    intro cc a hregistered
    obtain ⟨t, ht⟩ := hregistered
    cases t <;> cases ht
  endorsed := by
    intro cc a hpending
    cases hpending

theorem step (hinv : Provenance chain) (action : Action AccountId) :
    Provenance (chain.step config action) := by
  have hregistry := hinv.reputation.ceremonies.registry
  rcases Chain.step_outcome config chain action with ⟨observations, htrace, houtcome⟩ | hsame
  · have hold {o : Observation AccountId} (h : o ∈ chain.trace) :
        o ∈ (chain.step config action).trace := by
      rw [htrace]
      exact List.mem_append_left _ h
    have hnew {o : Observation AccountId} (h : o ∈ observations) :
        o ∈ (chain.step config action).trace := by
      rw [htrace]
      exact List.mem_append_right _ h
    have hcredits {k : CommunityCeremony × AccountId} (h : k ∈ credits chain.trace) :
        k ∈ credits (chain.step config action).trace := by
      rw [htrace, credits_append]
      exact List.mem_append_left _ h
    rcases houtcome.claims_or_changes hregistry with ⟨claim, participants, hclaims⟩ |
      ⟨effects, heffects, hchanges⟩
    · have heffect := hclaims.effect
      have hruntime := hclaims.runtime
      constructor
      · exact hinv.reputation.claim heffect hruntime
      · intro cc a hmem
        simp only [hruntime, heffect.verifiedAccounts] at hmem
        split at hmem
        · rename_i hcc
          rcases Finset.mem_union.1 hmem with hbefore | hcredited
          · exact hcredits (hinv.earned cc a hbefore)
          · rw [mem_credits, hcc]
            refine ⟨claim.meetupIndex, hnew ?_⟩
            rw [hclaims.observations]
            exact List.mem_map.2 ⟨a, List.mem_toFinset.1 hcredited, rfl⟩
        · exact hcredits (hinv.earned cc a hmem)
      · intro cc a hregistered
        rw [hruntime] at hregistered
        obtain ⟨t, reputation, hobserved⟩ :=
          hinv.registered cc a ((registered_of_registry heffect.registry).1 hregistered)
        exact ⟨t, reputation, hold hobserved⟩
      · intro cc a hpending
        obtain ⟨sender, maybe, haction⟩ := hclaims.call
        rw [haction] at houtcome
        rw [haction, IsPending, houtcome.claim_endorsees] at hpending
        obtain ⟨sender, hobserved⟩ := hinv.endorsed cc a hpending
        exact ⟨sender, hold hobserved⟩
    · constructor
      · exact hinv.reputation.changes hchanges
      · intro cc a hmem
        exact hcredits (hinv.earned cc a
          (hchanges.verifiedAccounts_subset hinv.reputation.attested cc hmem))
      · intro cc a hregistered
        rcases hchanges.registered_or_add hregistry hregistered with hbefore | ⟨t, ht⟩
        · obtain ⟨t, reputation, hobserved⟩ := hinv.registered cc a hbefore
          exact ⟨t, reputation, hold hobserved⟩
        · obtain ⟨reputation, hobserved⟩ := heffects.registered_of_add ht
          exact ⟨t, reputation, hnew hobserved⟩
      · intro cc a hpending
        rcases hchanges.pending_or_endorse hpending with hbefore | hendorse
        · obtain ⟨sender, hobserved⟩ := hinv.endorsed cc a hbefore
          exact ⟨sender, hold hobserved⟩
        · obtain ⟨sender, hobserved⟩ := heffects.endorsed_of_endorse hendorse
          exact ⟨sender, hnew hobserved⟩
  · rw [hsame]
    exact hinv

theorem run (hinv : Provenance chain) (actions : List (Action AccountId)) :
    Provenance (chain.run config actions) :=
  Machine.run_invariant_of_step Provenance (fun _ action h => h.step action) hinv actions

end Provenance

/-! ## Why an observation can be made -/

/-- The reason for what the trace records of the step from `chain` to `next`. -/
def Observation.Justified (chain next : Chain AccountId) : Observation AccountId → Prop
  | .credited cc _ account => ∃ t reputation, .registered cc account t reputation ∈ chain.trace
  | .registered cc account t reputation =>
      (∀ r ∈ reputation, r ∈ credits chain.trace) ∧
        match t with
        | .bootstrapper => account ∈ Communities.bootstrappers chain.runtime.communities cc.1
        | .reputable => reputation.isSome = true
        | .endorsee => ∃ cindex sender, .endorsed (cc.1, cindex) sender account ∈ next.trace
        | .newbie => True
  | .endorsed cc sender _ =>
      sender ∈ Communities.bootstrappers chain.runtime.communities cc.1 ∨
        ∃ cindex, ((cc.1, cindex), sender) ∈ credits chain.trace
  | .committed cc _ account => (cc, account) ∈ credits chain.trace
  | .counted proposalId account cc =>
      (cc, account) ∈ credits chain.trace ∧
        ∃ proposal, chain.runtime.democracy.proposals.lookup proposalId = some proposal ∧
          ∀ cid, proposal.action.getAccessPolicy = .community cid → cc.1 = cid
  | .purposeRegistered _ | .submitted .. => True

/-- Only verified reputations are committed. -/
theorem Changes.verified_of_commit (h : Changes config s effects s')
    (hattested : ReputationsAttested s) {cc : CommunityCeremony} (purpose : Nat) {a : AccountId}
    (hmem : .commit cc purpose a ∈ effects) : a ∈ verifiedAccounts s.ceremonies cc := by
  induction h with
  | refl => cases hmem
  | @tail before new s₁ s₂ hbefore hchange ih =>
      rcases List.mem_append.1 hmem with hmem | hmem
      · exact ih hmem
      · apply hbefore.verifiedAccounts_subset hattested
        cases hchange with
        | commit account cid cindex purpose' commitmentHash commitments committed =>
            obtain ⟨hverified, -⟩ := Commitments.doCommitReputation_spec committed
            cases List.mem_singleton.1 hmem
            exact mem_verifiedAccounts.2 hverified
        | _ => simp at hmem

namespace Provenance

variable {chain next : Chain AccountId}

/-- A registration has a reason, if its parts have one. -/
theorem justified_registered (hinv : Provenance chain)
    (hold : ∀ o ∈ chain.trace, o ∈ next.trace) {cc : CommunityCeremony} {a : AccountId}
    {t : ParticipantType} (proof : Option (ProofOfAttendance AccountId))
    (hbootstrapper : t = .bootstrapper →
      a ∈ Communities.bootstrappers chain.runtime.communities cc.1)
    (hreputable : t = .reputable → proof.isSome = true)
    (hendorsee : t = .endorsee → ∃ cindex, IsPending chain.runtime.ceremonies (cc.1, cindex) a ∨
      ∃ sender, .endorsed (cc.1, cindex) sender a ∈ next.trace)
    (hproof : ∀ p ∈ proof, p.attendeePublic ∈ verifiedAccounts chain.runtime.ceremonies p.source) :
    (Observation.registered cc a t (proof.map Dispatch.provenReputation)).Justified chain next := by
  constructor
  · intro r hr
    obtain ⟨p, hp, rfl⟩ := Option.mem_map.1 hr
    exact hinv.earned p.source p.attendeePublic (hproof p hp)
  · cases t with
    | bootstrapper => exact hbootstrapper rfl
    | reputable =>
        rw [Option.isSome_map]
        exact hreputable rfl
    | endorsee =>
        obtain ⟨cindex, hpending | hendorsed⟩ := hendorsee rfl
        · obtain ⟨sender, hobserved⟩ := hinv.endorsed _ _ hpending
          exact ⟨cindex, sender, hold _ hobserved⟩
        · exact ⟨cindex, hendorsed⟩
    | newbie => trivial

theorem justified_register (hinv : Provenance chain) (hold : ∀ o ∈ chain.trace, o ∈ next.trace)
    {sender : AccountId} {cid : CommunityIdentifier} {proof : Option (ProofOfAttendance AccountId)}
    {c : CeremoniesStorage AccountId} {t : ParticipantType}
    (hcall : registerParticipant config chain.runtime sender cid proof = .ok (c, t)) :
    (Observation.registered (cid, registrationCindex chain.runtime) sender t
      (proof.map Dispatch.provenReputation)).Justified chain next := by
  obtain ⟨hbootstrapper, hreputable, hendorsee, hproof⟩ := registerParticipant_origin hcall
  apply hinv.justified_registered hold proof hbootstrapper hreputable ?_ hproof
  intro ht
  obtain ⟨cindex, hpending⟩ := hendorsee ht
  exact ⟨cindex, Or.inl hpending⟩

/-- The registration is made again, with a proof, in a registry that lacks the participant. -/
theorem justified_upgrade (hinv : Provenance chain) (hold : ∀ o ∈ chain.trace, o ∈ next.trace)
    {sender : AccountId} {cid : CommunityIdentifier} {proof : ProofOfAttendance AccountId}
    {c : CeremoniesStorage AccountId} {t : ParticipantType}
    (hcall : upgradeRegistration config chain.runtime sender cid proof = .ok (c, t)) :
    (Observation.registered (cid, registrationCindex chain.runtime) sender t
      (some (Dispatch.provenReputation proof))).Justified chain next := by
  obtain ⟨-, removed, hremove, hregister⟩ := upgradeRegistration_spec hcall
  obtain ⟨hbootstrapper, hreputable, hendorsee, hproof⟩ := registerParticipant_origin hregister
  obtain ⟨-, hendorsees⟩ := removeParticipantFromRegistry_ledger hremove
  have hverified (cc : CommunityCeremony) :
      verifiedAccounts removed cc = verifiedAccounts chain.runtime.ceremonies cc := by
    obtain ⟨-, t', -, rfl⟩ := removeParticipantFromRegistry_spec hremove
    apply verifiedAccounts_congr
    intro a
    rw [participantReputation, setRegistry_participantReputation]
    rfl
  apply hinv.justified_registered hold (some proof) hbootstrapper hreputable
  · intro ht
    obtain ⟨cindex, hpending⟩ := hendorsee ht
    rw [IsPending, hendorsees] at hpending
    exact ⟨cindex, Or.inl hpending⟩
  · intro p hp
    rw [← hverified]
    exact hproof p hp

theorem justified_endorsed (hinv : Provenance chain) {sender newbie : AccountId}
    {cid : CommunityIdentifier} {c : CeremoniesStorage AccountId} {t : Option ParticipantType}
    (hcall : endorseNewcomer config chain.runtime sender cid newbie = .ok (c, t)) :
    (Observation.endorsed (cid, endorsementCindex chain.runtime) sender newbie).Justified
      chain next := by
  rcases (endorseNewcomer_ledger hcall).burns with hburns | hburns
  · obtain ⟨i, -, hverified⟩ := hasReputation_iff.1 hburns.reputation
    exact Or.inr ⟨_, hinv.earned _ _ hverified⟩
  · exact Or.inl hburns.bootstrapped

/-- A newbie who registered before is registered again, now with the endorsement. -/
theorem justified_reregistered (hinv : Provenance chain)
    (hold : ∀ o ∈ chain.trace, o ∈ next.trace) {sender newbie : AccountId}
    {cid : CommunityIdentifier} {c : CeremoniesStorage AccountId} {t : ParticipantType}
    (hcall : endorseNewcomer config chain.runtime sender cid newbie = .ok (c, some t))
    (hendorsed : .endorsed (cid, endorsementCindex chain.runtime) sender newbie ∈ next.trace) :
    (Observation.registered (cid, endorsementCindex chain.runtime) newbie t none).Justified
      chain next := by
  have htype := endorseNewcomer_type hcall
  obtain ⟨ticket, endorsed, hticket, hchanges, -, hreregister⟩ := endorseNewcomer_spec hcall
  rcases reregisterNewbie_spec hreregister with ⟨-, hnone⟩ |
    ⟨removed, t', hsome, -, hremove, hregister⟩
  · cases hnone
  · rw [Option.some.injEq] at hsome
    subst hsome
    obtain ⟨hbootstrapper, hendorsee⟩ := register_origin hregister
    apply hinv.justified_registered hold none hbootstrapper
    · intro hreputable
      rw [hreputable] at htype
      exact absurd rfl htype
    · intro hnew
      obtain ⟨cindex, hpending⟩ := hendorsee hnew
      obtain ⟨-, hendorsees⟩ := removeParticipantFromRegistry_ledger hremove
      rw [IsPending, hendorsees] at hpending
      refine ⟨cindex, ?_⟩
      rcases hchanges.pending_or_endorse hpending with hbefore | hmem
      · exact Or.inl hbefore
      · rcases List.mem_pair.1 hmem with heq | heq
        · rw [← heq] at hticket
          cases hticket
        · cases heq
          exact Or.inr ⟨sender, hendorsed⟩
    · intro p hp
      cases hp

theorem justified_vote (hinv : Provenance chain) (purpose : Nat) {sender : AccountId}
    {proposalId : Nat} {vote : Vote} {reputations counted : List CommunityCeremony}
    {commitments : CommitmentsStorage AccountId} {democracy : DemocracyStorage AccountId}
    (hcall : Democracy.vote config chain.runtime sender proposalId vote reputations =
      .ok (commitments, democracy, counted)) {cc : CommunityCeremony} (hcc : cc ∈ counted) :
    (Observation.counted proposalId sender cc).Justified chain next ∧
      (Observation.committed cc purpose sender).Justified chain next := by
  obtain ⟨proposal, tally, purposeId, heffect⟩ := Democracy.vote_spec hcall
  obtain ⟨cindexes, -, hcommitted⟩ := heffect.committed cc hcc
  have hearned := hinv.earned _ _ hcommitted.verified
  refine ⟨⟨hearned, proposal, heffect.hasProposal, ?_⟩, hearned⟩
  intro cid hpolicy
  have heligible := hcommitted.eligible
  simp only [hpolicy, Democracy.isEligible, Bool.and_eq_true, decide_eq_true_eq] at heligible
  exact heligible.2

theorem justified_quiet (hinv : Provenance chain) {action : Action AccountId}
    (hcall : Dispatch.dispatchQuiet config chain.runtime action = .ok next.runtime) :
    ∀ o ∈ Dispatch.commitmentObservations chain.runtime action, o.Justified chain next := by
  have hattested := hinv.reputation.attested
  obtain ⟨effects, hquiet, hchanges⟩ := Dispatch.dispatchQuiet_changes hcall
  intro o ho
  cases action with
  | commitReputation sender cid cindex purpose commitmentHash =>
      rw [List.mem_singleton.1 ho]
      apply hinv.earned
      apply hchanges.verified_of_commit hattested purpose
      rw [hquiet]
      exact List.mem_singleton.2 rfl
  | drip sender faucetAccount cid cindex =>
      obtain ⟨faucet, hfaucet, rfl⟩ := List.mem_map.1 ho
      obtain ⟨faucet', -, rfl⟩ := hquiet
      exact hinv.earned _ _ (hchanges.verified_of_commit hattested _ (List.mem_singleton.2 rfl))
  | registerPurpose descriptor =>
      rw [List.mem_singleton.1 ho]
      trivial
  | createFaucet sender name amount whitelist dripAmount =>
      rw [List.mem_singleton.1 ho]
      trivial
  | _ => cases ho

theorem justified (hinv : Provenance chain) {action : Action AccountId}
    {observations : List (Observation AccountId)}
    (htrace : next.trace = chain.trace ++ observations)
    (houtcome : Dispatch.Outcome config chain.runtime action next.runtime observations) :
    ∀ o ∈ observations, o.Justified chain next := by
  have hold : ∀ o ∈ chain.trace, o ∈ next.trace := by
    intro o ho
    rw [htrace]
    exact List.mem_append_left _ ho
  have hnew : ∀ o ∈ observations, o ∈ next.trace := by
    intro o ho
    rw [htrace]
    exact List.mem_append_right _ ho
  intro o ho
  cases houtcome with
  | register sender cid proof c t haction hcall hs hobs =>
      rw [hobs, List.mem_singleton] at ho
      rw [ho]
      exact hinv.justified_register hold hcall
  | upgrade sender cid proof c t haction hcall hs hobs =>
      rw [hobs, List.mem_singleton] at ho
      rw [ho]
      exact hinv.justified_upgrade hold hcall
  | endorse sender cid newbie c t haction hcall hs hobs =>
      rw [hobs] at ho hnew
      rcases List.mem_cons.1 ho with rfl | ho
      · exact hinv.justified_endorsed hcall
      · obtain ⟨t', ht', rfl⟩ := List.mem_map.1 ho
        rw [Option.mem_toList] at ht'
        rw [ht'] at hcall
        exact hinv.justified_reregistered hold hcall (hnew _ List.mem_cons_self)
  | claim sender cid maybeMeetupIndex claim haction hcall hs hobs =>
      obtain ⟨-, participants, heffect⟩ := claimRewards_spec hcall
      rw [hobs] at ho
      obtain ⟨a, ha, rfl⟩ := List.mem_map.1 ho
      exact hinv.registered _ _ (heffect.registered hinv.reputation.ceremonies.registry ha)
  | submit proposalAction commitments democracy cindexes haction hcall hcindexes hs hobs =>
      rw [hobs] at ho
      rcases List.mem_pair.1 ho with rfl | rfl
      · trivial
      · trivial
  | vote sender proposalId vote reputations commitments democracy counted purpose haction hcall
      hpurpose hs hobs =>
      rw [hobs] at ho
      rcases List.mem_append.1 ho with ho | ho
      · obtain ⟨cc, hcc, rfl⟩ := List.mem_map.1 ho
        exact (hinv.justified_vote purpose hcall hcc).1
      · obtain ⟨cc, hcc, rfl⟩ := List.mem_map.1 ho
        exact (hinv.justified_vote purpose hcall hcc).2
  | quiet hcall hobs heffects =>
      rw [hobs] at ho
      exact hinv.justified_quiet hcall o ho

end Provenance

/--
Along every run: whoever has a reputation was credited for it, and everything that a next action
does with participants and reputations has its reason in what happened before.
-/
theorem Ceremonies.reputations_have_provenance (config : Config AccountId)
    (genesis : GenesisConfig) (nativeBalances : StorageMap AccountId Nat)
    (assetBalances : StorageMap (AccountId × AssetKind) Nat) (actions : List (Action AccountId))
    (action : Action AccountId) :
    let chain := (Chain.genesis genesis nativeBalances assetBalances).run config actions
    let next := chain.step config action
    (∀ cc account, (participantReputation chain.runtime.ceremonies cc account).isVerified = true →
        (cc, account) ∈ credits chain.trace) ∧
      ∃ observations, next.trace = chain.trace ++ observations ∧
        ∀ o ∈ observations, o.Justified chain next := by
  intro chain next
  have hinv : Provenance chain :=
    (Provenance.genesis genesis nativeBalances assetBalances).run actions
  constructor
  · intro cc account hverified
    exact hinv.earned cc account (mem_verifiedAccounts.2 hverified)
  · rcases Chain.step_outcome config chain action with ⟨observations, htrace, houtcome⟩ | hsame
    · exact ⟨observations, htrace, hinv.justified htrace houtcome⟩
    · refine ⟨[], ?_, ?_⟩
      · rw [List.append_nil]
        exact congrArg Chain.trace hsame
      · intro o ho
        cases ho

end Encointer
