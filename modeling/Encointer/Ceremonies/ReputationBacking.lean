import Encointer.Ceremonies.LinkInvariant

/-!
# A reputation backs one registration

Along every run in which participants who unregister give back the reputation
they registered with, a reputation backs at most one registration for a ceremony
index. The code takes back any linked reputation of the participant, and then
the same reputation can back two registrations.
-/

namespace Encointer

open Ceremonies

variable {AccountId : Type} [DecidableEq AccountId] {config : Config AccountId}

/-! ## The reputation behind a registration -/

/-- The reputation that the account registered with, if the observation is about it. -/
def Observation.registration (cc : CommunityCeremony) (a : AccountId) :
    Observation AccountId → Option (Option (CommunityCeremony × AccountId))
  | .registered cc' a' _ reputation => if cc' = cc ∧ a' = a then some reputation else none
  | .credited .. | .endorsed .. | .purposeRegistered _ | .committed .. | .submitted ..
  | .counted .. => none

def provenBy (trace : List (Observation AccountId)) (cc : CommunityCeremony) (a : AccountId) :
    Option (CommunityCeremony × AccountId) :=
  (trace.reverse.findSome? (Observation.registration cc a)).join

theorem provenBy_registered (trace : List (Observation AccountId)) (cc : CommunityCeremony)
    (a : AccountId) (t : ParticipantType) (p : Option (CommunityCeremony × AccountId)) :
    provenBy (trace ++ [.registered cc a t p]) = rebacking (provenBy trace) cc a p := by
  funext cc' a'
  simp only [provenBy, rebacking, List.reverse_append, List.reverse_singleton,
    List.singleton_append, List.findSome?_cons, Observation.registration]
  by_cases hkey : cc = cc' ∧ a = a'
  · rw [if_pos hkey, if_pos ⟨hkey.1.symm, hkey.2.symm⟩]
    rfl
  · rw [if_neg hkey, if_neg fun h => hkey ⟨h.1.symm, h.2.symm⟩]

theorem provenBy_append {trace observations : List (Observation AccountId)}
    (h : ∀ observation ∈ observations, ∀ cc a, observation.registration cc a = none) :
    provenBy (trace ++ observations) = provenBy trace := by
  funext cc a
  have hnone : observations.reverse.findSome? (Observation.registration cc a) = none := by
    rw [List.findSome?_eq_none_iff]
    intro observation hmem
    exact h observation (List.mem_reverse.1 hmem) cc a
  rw [provenBy, List.reverse_append, List.findSome?_append, hnone, Option.none_or, provenBy]

/-! ## Registering and leaving -/

variable {s s' : Runtime AccountId}
  {backing : CommunityCeremony → AccountId → Option (CommunityCeremony × AccountId)}
  {credited : List (CommunityCeremony × AccountId)}

theorem LinksHold.register (h : LinksHold s backing credited) {t : ParticipantType}
    {cc : CommunityCeremony} {sender : AccountId} (proof : Option (ProofOfAttendance AccountId))
    (hchanges : Changes config s (linkEffects cc sender proof ++ [.add t cc sender]) s') :
    LinksHold s' (rebacking backing cc sender (proof.map Dispatch.provenReputation)) credited := by
  cases proof with
  | none =>
      obtain ⟨s₁, s₂, hbefore, hadd, hafter⟩ := hchanges.cons_cases
      have hsame := h.shrink hbefore.sameLinks.linksShrink
      have hadded := hsame.add (p := none) (fun _ hnone => by cases hnone) hadd
      exact hadded.shrink hafter.sameLinks.linksShrink
  | some p =>
      obtain ⟨s₁, s₂, hbefore, hlink, hrest⟩ := hchanges.cons_cases
      obtain ⟨s₃, s₄, hbetween, hadd, hafter⟩ := hrest.cons_cases
      obtain ⟨hlinked, hready⟩ := (h.shrink hbefore.sameLinks.linksShrink).link hlink
      have hready' := hready.same hbetween.sameLinks
      have hadded := (hlinked.shrink hbetween.sameLinks.linksShrink).add
        (p := some (Dispatch.provenReputation p)) (fun key hkey => by
          cases hkey
          exact hready') hadd
      exact hadded.shrink hafter.sameLinks.linksShrink

theorem LinksHold.unregister (h : LinksHold s backing credited)
    (hinv : RegistryInvariant s.ceremonies.registry) {cc source : CommunityCeremony}
    {sender : AccountId} (hreg : Registered s.ceremonies cc sender)
    (hown : backing cc sender = some (source, sender))
    (hchanges : Changes config s [.unlink cc sender source, .remove cc sender] s') :
    LinksHold s' backing credited := by
  obtain ⟨s₁, s₂, hbefore, hunlink, hrest⟩ := hchanges.cons_cases
  obtain ⟨s₃, s₄, hbetween, hremove, hafter⟩ := hrest.cons_cases
  have hforgotten : LinksHold s₁ (rebacking backing cc sender none) credited := by
    apply (h.shrink hbefore.sameLinks.linksShrink).rebacked
    intro cc' a p _ hp
    unfold rebacking at hp
    split at hp
    · cases hp
    · exact hp
  have hunused : ∀ cc' a, Registered s₁.ceremonies cc' a → cc'.2 = cc.2 →
      rebacking backing cc sender none cc' a ≠ some (source, sender) := by
    intro cc' a hreg' hindex hp
    unfold rebacking at hp
    split at hp
    · cases hp
    · rename_i hne
      have hreg'' := (registered_of_registry hbefore.sameLinks.registry).1 hreg'
      exact hne (h.unique cc' cc a sender (source, sender) hreg'' hreg hindex hp hown)
  have hunlinked := hforgotten.unlink hunused hunlink
  have hinv₃ := ((hinv.changes hbefore).change hunlink).changes hbetween
  have hremoved := (hunlinked.shrink hbetween.sameLinks.linksShrink).shrink
    (hremove.linksShrink hinv₃ (by
      intro e he
      rw [List.mem_singleton.1 he]
      trivial))
  apply (hremoved.shrink hafter.sameLinks.linksShrink).rebacked
  intro cc' a p hreg' hp
  have hgone := (registered_of_registry hafter.sameLinks.registry).1 hreg'
  obtain ⟨t, ht⟩ := hgone
  obtain ⟨-, -, -, hregistered⟩ := hremove.remove_inv hinv₃
  have hne := ((hregistered t _).1 ht).2
  have hkey : ¬ (cc' = cc ∧ a = sender) := by
    intro hkey
    rw [hkey.1, hkey.2] at hne
    exact hne rfl
  exact (if_neg hkey).trans hp

/-! ## Reputables have a proof -/

/-- Every reputable participant registered with a proof. -/
def ReputablesBacked (s : Runtime AccountId)
    (backing : CommunityCeremony → AccountId → Option (CommunityCeremony × AccountId)) : Prop :=
  ∀ cc a, (s.ceremonies.registry .reputable).index.contains (cc, a) = true →
    ∃ p, backing cc a = some p

theorem ReputablesBacked.shrink (h : ReputablesBacked s backing) (hshrink : LinksShrink s s') :
    ReputablesBacked s' backing := by
  intro cc a hreg
  exact h cc a (hshrink.registered .reputable _ hreg)

theorem ReputablesBacked.add (h : ReputablesBacked s backing) {t : ParticipantType}
    {cc : CommunityCeremony} {a : AccountId} {p : Option (CommunityCeremony × AccountId)}
    (hproof : t = .reputable → p.isSome = true) (hadd : Change config s [.add t cc a] s') :
    ReputablesBacked s' (rebacking backing cc a p) := by
  obtain ⟨-, hfree, -, -, hregistered⟩ := hadd.add_inv
  intro cc' a' hreg
  unfold rebacking
  rcases hregistered .reputable _ hreg with ⟨ht, hkey⟩ | hold
  · rw [if_pos (Prod.mk.inj hkey)]
    exact Option.isSome_iff_exists.1 (hproof ht.symm)
  · split
    · rename_i hkey
      rw [hkey.1, hkey.2] at hold
      exact absurd ⟨.reputable, hold⟩ hfree
    · exact h cc' a' hold

theorem ReputablesBacked.link (h : ReputablesBacked s backing) {cc : CommunityCeremony}
    {sender : AccountId} {p : CommunityCeremony × AccountId}
    (hlink : Change config s [.link cc sender p] s') : ReputablesBacked s' backing := by
  obtain ⟨-, -, rfl⟩ := hlink.link_inv
  exact h

theorem ReputablesBacked.register (h : ReputablesBacked s backing) {t : ParticipantType}
    {cc : CommunityCeremony} {sender : AccountId} (proof : Option (ProofOfAttendance AccountId))
    (hproof : t = .reputable → proof.isSome = true)
    (hchanges : Changes config s (linkEffects cc sender proof ++ [.add t cc sender]) s') :
    ReputablesBacked s' (rebacking backing cc sender (proof.map Dispatch.provenReputation)) := by
  rw [← Option.isSome_map (f := Dispatch.provenReputation)] at hproof
  cases proof with
  | none =>
      obtain ⟨s₁, s₂, hbefore, hadd, hafter⟩ := hchanges.cons_cases
      have hsame := h.shrink hbefore.sameLinks.linksShrink
      exact (hsame.add hproof hadd).shrink hafter.sameLinks.linksShrink
  | some p =>
      obtain ⟨s₁, s₂, hbefore, hlink, hrest⟩ := hchanges.cons_cases
      obtain ⟨s₃, s₄, hbetween, hadd, hafter⟩ := hrest.cons_cases
      have hlinked := (h.shrink hbefore.sameLinks.linksShrink).link hlink
      have hsame := hlinked.shrink hbetween.sameLinks.linksShrink
      exact (hsame.add hproof hadd).shrink hafter.sameLinks.linksShrink

/-! ## Unlinking -/

/-- A reputation becomes unlinked by an effect that names it. -/
theorem Change.unlinked_of {effects : List (Effect AccountId)}
    (hinv : RegistryInvariant s.ceremonies.registry) (h : Change config s effects s')
    {key : CommunityCeremony × AccountId}
    (hkey : s'.ceremonies.participantReputation.lookup key = some .verifiedUnlinked) :
    s.ceremonies.participantReputation.lookup key = some .verifiedUnlinked ∨
      ∃ cc, effects = [.unlink cc key.2 key.1] := by
  cases effects with
  | nil =>
      rw [h.sameLinks.participantReputation] at hkey
      exact Or.inl hkey
  | cons e rest =>
      have hlength := h.length_le
      rw [List.length_cons] at hlength
      obtain rfl : rest = [] := List.eq_nil_of_length_eq_zero (by omega)
      have hshrink (hkeeps : e.KeepsLinks) :
          s.ceremonies.participantReputation.lookup key = some .verifiedUnlinked := by
        have hsmaller := h.linksShrink hinv fun e' he' => by
          rw [List.mem_singleton.1 he']
          exact hkeeps
        rcases hsmaller.reputation key with hsame | hnone
        · exact hsame.symm.trans hkey
        · rw [hnone] at hkey
          cases hkey
      cases e with
      | add t cc participant =>
          obtain ⟨-, -, -, hsame, -⟩ := h.add_inv
          rw [hsame] at hkey
          exact Or.inl hkey
      | link cc sender p =>
          obtain ⟨-, -, rfl⟩ := h.link_inv
          rw [StorageMap.lookup_insert_eq, StorageMap.lookup_insert_eq] at hkey
          split at hkey
          · cases hkey
          · split at hkey
            · cases hkey
            · exact Or.inl hkey
      | unlink cc sender source =>
          obtain ⟨-, -, rfl⟩ := h.unlink_inv
          rw [StorageMap.lookup_erase_eq, StorageMap.lookup_insert_eq] at hkey
          split at hkey
          · cases hkey
          · split at hkey
            · rename_i heq
              rw [heq]
              exact Or.inr ⟨cc, rfl⟩
            · exact Or.inl hkey
      | _ => exact Or.inl (hshrink trivial)

theorem Changes.unlinked_of {effects : List (Effect AccountId)}
    (hinv : RegistryInvariant s.ceremonies.registry) (h : Changes config s effects s')
    {key : CommunityCeremony × AccountId}
    (hkey : s'.ceremonies.participantReputation.lookup key = some .verifiedUnlinked) :
    s.ceremonies.participantReputation.lookup key = some .verifiedUnlinked ∨
      ∃ cc, .unlink cc key.2 key.1 ∈ effects := by
  induction h with
  | refl => exact Or.inl hkey
  | tail hbefore hchange ih =>
      rcases hchange.unlinked_of (hinv.changes hbefore) hkey with hold | ⟨cc, rfl⟩
      · rcases ih hold with hfirst | ⟨cc, hmem⟩
        · exact Or.inl hfirst
        · exact Or.inr ⟨cc, List.mem_append_left _ hmem⟩
      · exact Or.inr ⟨cc, List.mem_append_right _ List.mem_cons_self⟩

/-! ## Actions -/

/-- Only registrations and refunds change links. -/
theorem MayCause.keepsLinks {action : Action AccountId} {e : Effect AccountId}
    (h : Dispatch.MayCause s action e)
    (hregister : ∀ participant, ¬ Dispatch.MayRegister participant action)
    (hunregister : ∀ sender cid maybe, action ≠ .unregisterParticipant sender cid maybe) :
    e.KeepsLinks := by
  cases e with
  | add t cc participant => exact hregister participant h
  | link cc sender reputation => exact hregister sender h
  | unlink cc sender source =>
      obtain ⟨maybe, haction⟩ := h
      exact hunregister sender cc.1 maybe haction
  | _ => trivial

def refundedReputation (s : Runtime AccountId) :
    Action AccountId → Option (CommunityCeremony × (CommunityCeremony × AccountId))
  | .unregisterParticipant sender cid (some source) =>
      let cc := (cid, registrationCindex s)
      let t := getParticipantType s.ceremonies cc sender
      if s.scheduler.currentPhase = .registering ∧
          (t = some .bootstrapper ∨ t = some .reputable) ∧
          participantReputation s.ceremonies source sender = .verifiedLinked cc.2 then
        some (cc, (source, sender))
      else
        none
  | _ => none

/-- A refunded reputation is the one that the participant registered with. -/
def RefundsOwnProof (chain : Chain AccountId) (action : Action AccountId) : Prop :=
  ∀ refund ∈ refundedReputation chain.runtime action,
    provenBy chain.trace refund.1 refund.2.2 = some refund.2

instance (chain : Chain AccountId) (action : Action AccountId) :
    Decidable (RefundsOwnProof chain action) :=
  inferInstanceAs (Decidable (∀ _ ∈ refundedReputation chain.runtime action, _))

/-- The registration that a refund leaves, and the reputation behind it. -/
theorem RefundsOwnProof.proven {chain : Chain AccountId} {sender : AccountId}
    {cid : CommunityIdentifier} {maybe : Option CommunityCeremony}
    (h : RefundsOwnProof chain (.unregisterParticipant sender cid maybe))
    {refund effects : List (Effect AccountId)}
    (hrefund : RefundEffects chain.runtime sender cid maybe refund)
    (hchanges : Changes config chain.runtime (refund ++ effects) s') :
    refund = [] ∨ ∃ source,
      refund = [.unlink (cid, registrationCindex chain.runtime) sender source] ∧
        participantReputation chain.runtime.ceremonies source sender =
          .verifiedLinked (registrationCindex chain.runtime) ∧
        Registered chain.runtime.ceremonies (cid, registrationCindex chain.runtime) sender ∧
        provenBy chain.trace (cid, registrationCindex chain.runtime) sender =
          some (source, sender) := by
  rcases hrefund with hnone | ⟨hphase, htype, source, rfl, rfl⟩
  · exact Or.inl hnone
  · obtain ⟨s₁, s₂, hbefore, hunlink, -⟩ := hchanges.cons_cases
    obtain ⟨-, hlinked, -⟩ := hunlink.unlink_inv
    rw [participantReputation, hbefore.sameLinks.participantReputation] at hlinked
    have hregistered : Registered chain.runtime.ceremonies
        (cid, registrationCindex chain.runtime) sender := by
      rcases htype with ht | ht
      · exact registered_of_getParticipantType ht
      · exact registered_of_getParticipantType ht
    refine Or.inr ⟨source, rfl, hlinked, hregistered, ?_⟩
    exact h ((cid, registrationCindex chain.runtime), (source, sender))
      (if_pos ⟨hphase, htype, hlinked⟩)

/-- Credits are for accounts without a reputation at the ceremony. -/
theorem LinksHold.claim (h : LinksHold s backing credited) {claim : Claim AccountId}
    {participants : List AccountId} (heffect : ClaimEffect s claim participants)
    (hnew : ∀ a ∈ claim.credited, (claim.cc, a) ∉ credited)
    (hs : s' = { s with ceremonies := claim.ceremonies, balances := claim.balances }) :
    LinksHold s' backing (credited ++ claim.credited.map fun a => (claim.cc, a)) := by
  subst hs
  have hregistered {cc : CommunityCeremony} {a : AccountId} :
      Registered claim.ceremonies cc a ↔ Registered s.ceremonies cc a :=
    registered_of_registry heffect.registry
  have hreputation (cc : CommunityCeremony) (a : AccountId) (hcredited : (cc, a) ∈ credited) :
      participantReputation claim.ceremonies cc a = participantReputation s.ceremonies cc a := by
    unfold participantReputation StorageMap.get
    rw [heffect.participantReputation, if_neg]
    intro hkey
    obtain ⟨rfl, ha⟩ := hkey
    exact hnew a ha hcredited
  constructor
  · intro cc a hverified
    rw [List.mem_append]
    by_cases hkey : cc = claim.cc ∧ a ∈ claim.credited
    · exact Or.inr (List.mem_map.2 ⟨a, hkey.2, by rw [hkey.1]⟩)
    · apply Or.inl
      apply h.earned
      have hsame : participantReputation claim.ceremonies cc a =
          participantReputation s.ceremonies cc a := by
        unfold participantReputation StorageMap.get
        rw [heffect.participantReputation, if_neg hkey]
      exact hsame ▸ hverified
  · intro cc a hreg
    exact h.opened cc a (hregistered.1 hreg)
  · intro cc a p hreg hp
    exact List.mem_append_left _ (h.backed cc a p (hregistered.1 hreg) hp)
  · intro cc a p hreg hp hopen
    rw [hreputation p.1 p.2 (h.backed cc a p (hregistered.1 hreg) hp)]
    exact h.unavailable cc a p (hregistered.1 hreg) hp hopen
  · intro cc cc' a a' p hreg hreg'
    exact h.unique cc cc' a a' p (hregistered.1 hreg) (hregistered.1 hreg')

theorem commitmentObservations_registration (s : Runtime AccountId) (action : Action AccountId) :
    ∀ observation ∈ Dispatch.commitmentObservations s action, ∀ cc a,
      observation.registration cc a = none := by
  intro observation hmem cc a
  unfold Dispatch.commitmentObservations at hmem
  split at hmem
  · rw [List.mem_singleton.1 hmem]
    rfl
  · rw [List.mem_singleton.1 hmem]
    rfl
  · rw [List.mem_singleton.1 hmem]
    rfl
  · obtain ⟨faucet, -, rfl⟩ := List.mem_map.1 hmem
    rfl
  · cases hmem

/-- First the participant is removed, which links nothing. -/
theorem Changes.cons_remove {cc : CommunityCeremony} {a : AccountId}
    {effects : List (Effect AccountId)} (hinv : RegistryInvariant s.ceremonies.registry)
    (h : Changes config s (.remove cc a :: effects) s') :
    ∃ removed, LinksShrink s removed ∧ Changes config removed effects s' := by
  obtain ⟨s₁, s₂, hbefore, hremoved, hrest⟩ := h.cons_cases
  refine ⟨s₂, hbefore.sameLinks.linksShrink.trans
    (hremoved.changes.linksShrink (hinv.changes hbefore) ?_), hrest⟩
  intro e he
  rw [List.mem_singleton.1 he]
  trivial

theorem endorse_linksHold {chain : Chain AccountId} {cc : CommunityCeremony}
    {sender newbie : AccountId} {ticket : Effect AccountId} {t : Option ParticipantType}
    (hinv : RegistryInvariant chain.runtime.ceremonies.registry)
    (hlinks : LinksHold chain.runtime (provenBy chain.trace) credited)
    (hreputables : ReputablesBacked chain.runtime (provenBy chain.trace))
    (htype : t ≠ some .reputable) (hticket : TicketEffect cc sender ticket)
    (hchanges : Changes config chain.runtime
      ([ticket, .endorse cc newbie] ++ reregisterEffects cc newbie t) s') :
    let trace := chain.trace ++ (.endorsed cc sender newbie ::
      t.toList.map fun t => .registered cc newbie t none)
    LinksHold s' (provenBy trace) credited ∧ ReputablesBacked s' (provenBy trace) := by
  obtain ⟨endorsed, hendorse, hreregister⟩ := hchanges.append_cases
  have hendorsed : LinksShrink chain.runtime endorsed := by
    apply hendorse.linksShrink hinv
    intro e he
    rcases List.mem_pair.1 he with rfl | rfl
    · cases hticket <;> trivial
    · trivial
  have hlinks' := hlinks.shrink hendorsed
  have hreputables' := hreputables.shrink hendorsed
  have hbacking : provenBy (chain.trace ++ [.endorsed cc sender newbie]) =
      provenBy chain.trace := by
    apply provenBy_append
    intro observation hmem cc a
    rw [List.mem_singleton.1 hmem]
    rfl
  rw [← hbacking] at hlinks' hreputables'
  rw [← List.singleton_append, ← List.append_assoc]
  cases t with
  | none =>
      have hsame := hreregister.sameLinks.linksShrink
      simp only [Option.toList_none, List.map_nil, List.append_nil]
      exact ⟨hlinks'.shrink hsame, hreputables'.shrink hsame⟩
  | some t =>
      obtain ⟨removed, hshrunk, hrest⟩ := Changes.cons_remove (hinv.changes hendorse) hreregister
      have hreputable : t = .reputable → (none : Option (ProofOfAttendance AccountId)).isSome =
          true := by
        intro ht
        rw [ht] at htype
        exact absurd rfl htype
      simp only [Option.toList_some, List.map_cons, List.map_nil]
      rw [provenBy_registered]
      exact ⟨(hlinks'.shrink hshrunk).register none hrest,
        (hreputables'.shrink hshrunk).register none hreputable hrest⟩

theorem quiet_linksHold {chain : Chain AccountId} {action : Action AccountId}
    {effects : List (Effect AccountId)}
    (hinv : RegistryInvariant chain.runtime.ceremonies.registry)
    (hlinks : LinksHold chain.runtime (provenBy chain.trace) credited)
    (hreputables : ReputablesBacked chain.runtime (provenBy chain.trace))
    (hrefunds : RefundsOwnProof chain action)
    (hregister : ∀ participant, ¬ Dispatch.MayRegister participant action)
    (hquiet : Dispatch.QuietEffects config chain.runtime action effects)
    (hchanges : Changes config chain.runtime effects s') :
    LinksHold s' (provenBy chain.trace) credited ∧
      ReputablesBacked s' (provenBy chain.trace) := by
  by_cases hunregister : ∃ sender cid maybe, action = .unregisterParticipant sender cid maybe
  · obtain ⟨sender, cid, maybe, rfl⟩ := hunregister
    obtain ⟨refund, hrefund, rfl⟩ := hquiet
    rcases hrefunds.proven hrefund hchanges with rfl | ⟨source, rfl, -, hreg, hown⟩
    · obtain ⟨removed, hshrunk, hrest⟩ := Changes.cons_remove hinv hchanges
      have hsame := hshrunk.trans hrest.sameLinks.linksShrink
      exact ⟨hlinks.shrink hsame, hreputables.shrink hsame⟩
    · refine ⟨hlinks.unregister hinv hreg hown hchanges, ?_⟩
      obtain ⟨s₁, s₂, hbefore, hunlink, hrest⟩ := hchanges.cons_cases
      have hinv₂ := (hinv.changes hbefore).change hunlink
      have hsame := hreputables.shrink hbefore.sameLinks.linksShrink
      have hunlinked : ReputablesBacked s₂ (provenBy chain.trace) := by
        obtain ⟨-, -, rfl⟩ := hunlink.unlink_inv
        exact hsame
      obtain ⟨removed, hshrunk, hend⟩ := Changes.cons_remove hinv₂ hrest
      exact hunlinked.shrink (hshrunk.trans hend.sameLinks.linksShrink)
  · have hshrunk := hchanges.linksShrink hinv fun e he =>
      MayCause.keepsLinks (hquiet.mayCause he) hregister
        fun sender cid maybe haction => hunregister ⟨sender, cid, maybe, haction⟩
    exact ⟨hlinks.shrink hshrunk, hreputables.shrink hshrunk⟩

theorem ActionEffects.linksHold {chain : Chain AccountId} {action : Action AccountId}
    {observations : List (Observation AccountId)} {effects : List (Effect AccountId)}
    (hinv : RegistryInvariant chain.runtime.ceremonies.registry)
    (hlinks : LinksHold chain.runtime (provenBy chain.trace) credited)
    (hreputables : ReputablesBacked chain.runtime (provenBy chain.trace))
    (hrefunds : RefundsOwnProof chain action)
    (h : Dispatch.ActionEffects config chain.runtime action observations effects)
    (hchanges : Changes config chain.runtime effects s') :
    LinksHold s' (provenBy (chain.trace ++ observations)) credited ∧
      ReputablesBacked s' (provenBy (chain.trace ++ observations)) := by
  unfold Dispatch.ActionEffects at h
  split at h
  · obtain ⟨t, hproof, rfl, rfl⟩ := h
    rw [provenBy_registered]
    exact ⟨hlinks.register _ hchanges, hreputables.register _ hproof hchanges⟩
  · rename_i sender cid proof
    obtain ⟨t, rfl, rfl⟩ := h
    obtain ⟨removed, hshrunk, hrest⟩ := Changes.cons_remove hinv hchanges
    rw [provenBy_registered]
    exact ⟨(hlinks.shrink hshrunk).register (some proof) hrest,
      (hreputables.shrink hshrunk).register (some proof) (fun _ => rfl) hrest⟩
  · obtain ⟨ticket, t, htype, hticket, rfl, rfl⟩ := h
    exact endorse_linksHold hinv hlinks hreputables htype hticket hchanges
  · obtain ⟨proposalId, cindexes, rfl, -, rfl⟩ := h
    have hsame := hchanges.linksShrink hinv fun e he => by
      rw [List.mem_singleton.1 he]
      trivial
    rw [provenBy_append fun observation hmem cc a => by
      rcases List.mem_pair.1 hmem with rfl | rfl
      · rfl
      · rfl]
    exact ⟨hlinks.shrink hsame, hreputables.shrink hsame⟩
  · rename_i sender proposalId vote reputations
    obtain ⟨counted, purpose, rfl, -, rfl⟩ := h
    have hsame := hchanges.linksShrink hinv fun e he => by
      rw [List.mem_singleton.1 he]
      trivial
    rw [provenBy_append fun observation hmem cc a => by
      rcases List.mem_append.1 hmem with hcounted | hcommitted
      · obtain ⟨cc', -, rfl⟩ := List.mem_map.1 hcounted
        rfl
      · obtain ⟨cc', -, rfl⟩ := List.mem_map.1 hcommitted
        rfl]
    exact ⟨hlinks.shrink hsame, hreputables.shrink hsame⟩
  · rename_i hregistered hupgraded hendorsed _ _
    obtain ⟨hquiet, rfl⟩ := h
    rw [provenBy_append (commitmentObservations_registration chain.runtime action)]
    refine quiet_linksHold hinv hlinks hreputables hrefunds ?_ hquiet hchanges
    intro participant hmay
    unfold Dispatch.MayRegister at hmay
    split at hmay
    · exact hregistered _ _ _ rfl
    · exact hupgraded _ _ _ rfl
    · exact hendorsed _ _ _ rfl
    · exact hmay

/-! ## Runs -/

structure BackingInvariant (chain : Chain AccountId) : Prop where
  reward : RewardInvariant chain
  links : LinksHold chain.runtime (provenBy chain.trace) (credits chain.trace)
  reputables : ReputablesBacked chain.runtime (provenBy chain.trace)

namespace BackingInvariant

variable {chain : Chain AccountId}

theorem genesis (genesis : GenesisConfig) (nativeBalances : StorageMap AccountId Nat)
    (assetBalances : StorageMap (AccountId × AssetKind) Nat) :
    BackingInvariant (Chain.genesis genesis nativeBalances assetBalances) := by
  have hempty (t : ParticipantType) (k : CommunityCeremony × AccountId) :
      ((genesis.build nativeBalances assetBalances).ceremonies.registry t).index.contains k =
        false := by
    cases t <;> simp [StorageMap.contains, GenesisConfig.build, CeremoniesStorage.registry,
      ParticipantRegistry.empty]
  have hnone (cc : CommunityCeremony) (a : AccountId) :
      ¬ Registered (genesis.build nativeBalances assetBalances).ceremonies cc a := by
    intro hregistered
    obtain ⟨t, ht⟩ := hregistered
    rw [hempty t] at ht
    cases ht
  constructor
  · exact RewardInvariant.genesis genesis nativeBalances assetBalances
  · constructor
    · intro cc a hverified
      rw [participantReputation, Chain.genesis, GenesisConfig.build] at hverified
      simp only [StorageMap.get_empty] at hverified
      cases hverified
    · intro cc a hregistered
      exact absurd hregistered (hnone cc a)
    · intro cc a p hregistered
      exact absurd hregistered (hnone cc a)
    · intro cc a p hregistered
      exact absurd hregistered (hnone cc a)
    · intro cc cc' a a' p hregistered
      exact absurd hregistered (hnone cc a)
  · intro cc a hregistered
    have hfalse := hempty .reputable (cc, a)
    exact absurd (hfalse.symm.trans hregistered) (by simp)

theorem step {action : Action AccountId} (hinv : BackingInvariant chain)
    (hbelow : ClaimCountsBelow chain action) (hrefunds : RefundsOwnProof chain action) :
    BackingInvariant (chain.step config action) := by
  have hregistry := hinv.reward.ceremonies.registry
  have hreward : RewardInvariant (chain.step config action) := hinv.reward.step hbelow
  obtain ⟨observations, htrace, hcases⟩ := Chain.step_cases config action hregistry
  rcases hcases with ⟨claim, participants, hclaims⟩ | ⟨effects, heffects, hchanges⟩ | ⟨hs, hobs⟩
  · have hagree := hinv.reward.ceremonies.meetupsAgree (hbelow.registeredCountsBelow hclaims)
    have hcredited : ∀ a ∈ claim.credited, (claim.cc, a) ∉ credits chain.trace := by
      intro a ha hold
      obtain ⟨k, hk⟩ := mem_credits.1 hold
      exact (hclaims.effect.credited_new hagree).2 a ha k (hinv.reward.recorded _ k a hk)
    have hbacking : provenBy (chain.trace ++ observations) = provenBy chain.trace := by
      apply provenBy_append
      intro observation hmem cc a
      rw [hclaims.observations] at hmem
      obtain ⟨b, -, rfl⟩ := List.mem_map.1 hmem
      rfl
    constructor
    · exact hreward
    · rw [htrace, hbacking, credits_append, hclaims.observations, credits_of_credited]
      exact hinv.links.claim hclaims.effect hcredited hclaims.runtime
    · rw [htrace, hbacking, hclaims.runtime]
      intro cc a hreg
      have hsame : claim.ceremonies.registry = chain.runtime.ceremonies.registry :=
        hclaims.effect.registry
      simp only [hsame] at hreg
      exact hinv.reputables cc a hreg
  · obtain ⟨hlinks, hreputables⟩ := ActionEffects.linksHold hregistry hinv.links hinv.reputables
      hrefunds heffects hchanges
    constructor
    · exact hreward
    · rw [htrace, credits_append, credits_eq_nil heffects.not_credited, List.append_nil]
      exact hlinks
    · rw [htrace]
      exact hreputables
  · constructor
    · exact hreward
    · rw [htrace, hs, hobs, List.append_nil]
      exact hinv.links
    · rw [htrace, hs, hobs, List.append_nil]
      exact hinv.reputables

theorem run (hinv : BackingInvariant chain) {actions : List (Action AccountId)}
    (hok : Machine.Along (Chain.step config)
      (fun chain action => ClaimCountsBelow chain action ∧ RefundsOwnProof chain action)
      chain actions) : BackingInvariant (chain.run config actions) :=
  Machine.run_invariant _ BackingInvariant
    (fun _ _ h hok => h.step hok.1 hok.2) hinv hok

end BackingInvariant

/-! ## Unlinking goes with a registration -/

/-- A reputation becomes unlinked only when the registration that it backs is removed. -/
def UnlinksWithRegistration (chain next : Chain AccountId) : Prop :=
  ∀ key cindex,
    chain.runtime.ceremonies.participantReputation.lookup key = some (.verifiedLinked cindex) →
    next.runtime.ceremonies.participantReputation.lookup key = some .verifiedUnlinked →
      ∃ cid a, Registered chain.runtime.ceremonies (cid, cindex) a ∧
        provenBy chain.trace (cid, cindex) a = some key ∧
        ¬ Registered next.runtime.ceremonies (cid, cindex) a

/-- Nobody is registered under the ceremony and account of the last removal. -/
theorem Changes.not_registered (hinv : RegistryInvariant s.ceremonies.registry)
    {effects : List (Effect AccountId)} {cc : CommunityCeremony} {a : AccountId}
    (heffects : ∀ e ∈ effects, ∃ sender source, e = .unlink cc sender source)
    (h : Changes config s (effects ++ [.remove cc a]) s') : ¬ Registered s'.ceremonies cc a := by
  induction effects generalizing s with
  | nil =>
      obtain ⟨s₁, s₂, hbefore, hremove, hafter⟩ := h.cons_cases
      obtain ⟨-, -, -, hregistered⟩ := hremove.remove_inv (hinv.changes hbefore)
      rw [registered_of_registry hafter.sameLinks.registry]
      intro hreg
      obtain ⟨t, ht⟩ := hreg
      exact ((hregistered t _).1 ht).2 rfl
  | cons e rest ih =>
      obtain ⟨s₁, s₂, hbefore, he, hrest⟩ := h.cons_cases
      exact ih ((hinv.changes hbefore).change he)
        (fun e' he' => heffects e' (List.mem_cons_of_mem e he')) hrest

theorem BackingInvariant.unlinksWithRegistration {chain : Chain AccountId}
    {action : Action AccountId} (hinv : BackingInvariant chain)
    (hbelow : ClaimCountsBelow chain action) (hrefunds : RefundsOwnProof chain action) :
    UnlinksWithRegistration chain (chain.step config action) := by
  intro key cindex hlinked hunlinked
  have hregistry := hinv.reward.ceremonies.registry
  obtain ⟨observations, -, hcases⟩ := Chain.step_cases config action hregistry
  rcases hcases with ⟨claim, participants, hclaims⟩ | ⟨effects, heffects, hchanges⟩ | ⟨hs, -⟩
  · have hagree := hinv.reward.ceremonies.meetupsAgree (hbelow.registeredCountsBelow hclaims)
    rw [hclaims.runtime] at hunlinked
    simp only [hclaims.effect.participantReputation] at hunlinked
    split at hunlinked
    · rename_i hkey
      have hearned : (key.1, key.2) ∈ credits chain.trace := by
        apply hinv.links.earned
        rw [participantReputation, StorageMap.get_of_lookup hlinked]
        rfl
      obtain ⟨k, hk⟩ := mem_credits.1 hearned
      have hrecorded := hinv.reward.recorded _ k _ hk
      rw [hkey.1] at hrecorded
      exact absurd hrecorded ((hclaims.effect.credited_new hagree).2 key.2 hkey.2 k)
    · rw [hlinked] at hunlinked
      cases hunlinked
  · rcases hchanges.unlinked_of hregistry hunlinked with hold | ⟨cc, hmem⟩
    · rw [hlinked] at hold
      cases hold
    · obtain ⟨maybe, rfl⟩ := heffects.mayCause hmem
      obtain ⟨refund, hrefund, rfl⟩ := heffects.1
      rcases hrefunds.proven hrefund hchanges with rfl | ⟨source, rfl, hsource, hreg, hown⟩
      · simp at hmem
      · simp only [List.cons_append, List.nil_append, List.mem_cons, Effect.unlink.injEq,
          reduceCtorEq, List.not_mem_nil, or_false] at hmem
        obtain ⟨-, -, hkey⟩ := hmem
        rw [← hkey] at hsource hown hchanges
        rw [participantReputation, StorageMap.get_of_lookup hlinked,
          Reputation.verifiedLinked.injEq] at hsource
        rw [hsource]
        refine ⟨cc.1, key.2, hreg, hown, ?_⟩
        apply Changes.not_registered hregistry ?_ hchanges
        intro e he
        rw [List.mem_singleton.1 he]
        exact ⟨key.2, key.1, rfl⟩
  · rw [hs, hlinked] at hunlinked
    cases hunlinked

/-! ## Results -/

/-- Each reputable participant has a proof, and for an index no two have the same. -/
structure ReputationsBackOnce (chain : Chain AccountId) : Prop where
  proven : ∀ cc a, chain.runtime.ceremonies.reputableRegistry.index.contains (cc, a) = true →
    ∃ p, provenBy chain.trace cc a = some p
  once : ∀ cc cc' a a' p, cc.2 = cc'.2 →
    chain.runtime.ceremonies.reputableRegistry.index.contains (cc, a) = true →
    chain.runtime.ceremonies.reputableRegistry.index.contains (cc', a') = true →
    provenBy chain.trace cc a = some p → provenBy chain.trace cc' a' = some p →
      cc = cc' ∧ a = a'

/-- Refunds of the own proof keep one registration behind each reputation, over all communities. -/
theorem Ceremonies.reputation_backs_one_registration (config : Config AccountId)
    (genesis : GenesisConfig) (nativeBalances : StorageMap AccountId Nat)
    (assetBalances : StorageMap (AccountId × AssetKind) Nat) (actions : List (Action AccountId))
    (hok : Machine.Along (Chain.step config)
      (fun chain action => ClaimCountsBelow chain action ∧ RefundsOwnProof chain action)
      (Chain.genesis genesis nativeBalances assetBalances) actions) :
    let chain := (Chain.genesis genesis nativeBalances assetBalances).run config actions
    ReputationsBackOnce chain ∧
      ∀ action, ClaimCountsBelow chain action → RefundsOwnProof chain action →
        UnlinksWithRegistration chain (chain.step config action) := by
  intro chain
  have hinv : BackingInvariant chain :=
    (BackingInvariant.genesis genesis nativeBalances assetBalances).run hok
  constructor
  · constructor
    · intro cc a hreg
      exact hinv.reputables cc a hreg
    · intro cc cc' a a' p hindex hreg hreg' hp hp'
      exact hinv.links.unique cc cc' a a' p ⟨.reputable, hreg⟩ ⟨.reputable, hreg'⟩ hindex hp hp'
  · intro action hbelow hrefunds
    exact hinv.unlinksWithRegistration hbelow hrefunds

/-- Participant 1 registers with the own reputation. -/
def Demo.refunded : List (Action Nat) :=
  firstCeremony ++ [newDay 4, .registerParticipant 1 islanders (some (attended 1 islanders 1))]

/-- Participant 1 leaves and takes the own reputation back. -/
def Demo.refund : Action Nat := .unregisterParticipant 1 islanders (some (islanders, 1))

theorem Ceremonies.reputation_backs_one_registration_refunded :
    ReputationsBackOnce (Demo.start.run Demo.runtimeConfig Demo.refunded) ∧
      UnlinksWithRegistration (Demo.start.run Demo.runtimeConfig Demo.refunded)
        ((Demo.start.run Demo.runtimeConfig Demo.refunded).step Demo.runtimeConfig Demo.refund) := by
  have hrun : Machine.Along (Chain.step Demo.runtimeConfig)
      (fun chain action => ClaimCountsBelow chain action ∧ RefundsOwnProof chain action)
      Demo.start Demo.refunded := by decide +kernel
  have hcounts : ClaimCountsBelow (Demo.start.run Demo.runtimeConfig Demo.refunded) Demo.refund := by
    decide +kernel
  have hrefunds : RefundsOwnProof (Demo.start.run Demo.runtimeConfig Demo.refunded) Demo.refund := by
    decide +kernel
  have hresult := Ceremonies.reputation_backs_one_registration Demo.runtimeConfig Demo.genesis ∅ ∅
    Demo.refunded hrun
  exact ⟨hresult.1, hresult.2 Demo.refund hcounts hrefunds⟩

/-- Participant 14 registers with the reputation of participant 1, who then gives it back. -/
def Demo.refundedTwice : List (Action Nat) :=
  secondCeremony ++ [.registerParticipant 1 islanders none,
    .registerParticipant 14 mainlanders (some (attended 14 islanders 1)),
    refund,
    .registerParticipant 15 mainlanders (some (attended 15 islanders 1))]

theorem Ceremonies.reputation_backs_two_registrations :
    ¬ ReputationsBackOnce (Demo.start.run Demo.runtimeConfig Demo.refundedTwice) := by
  have hregistered (a : Nat) (ha : a = 14 ∨ a = 15) :
      (Demo.start.run Demo.runtimeConfig
          Demo.refundedTwice).runtime.ceremonies.reputableRegistry.index.contains
            ((Demo.mainlanders, 2), a) = true ∧
        provenBy (Demo.start.run Demo.runtimeConfig Demo.refundedTwice).trace
          (Demo.mainlanders, 2) a = some ((Demo.islanders, 1), 1) := by
    rcases ha with rfl | rfl
    · decide +kernel
    · decide +kernel
  have h14 := hregistered 14 (Or.inl rfl)
  have h15 := hregistered 15 (Or.inr rfl)
  intro h
  have heq := (h.once _ _ 14 15 _ rfl h14.1 h15.1 h14.2 h15.2).2
  omega

end Encointer
