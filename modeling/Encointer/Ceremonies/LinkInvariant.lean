import Encointer.Ceremonies.RewardOnce

/-!
# Registrations and the reputations behind them

A registration with a proof is backed by the proven reputation. While the
registration can still change, its reputation cannot be linked a second time for
the same ceremony index, so no other registration is backed by it.
-/

namespace Encointer

variable {AccountId : Type} [DecidableEq AccountId] {config : Config AccountId}

/-! ## Effects on registrations and reputations -/

namespace Ceremonies

def Registered (c : CeremoniesStorage AccountId) (cc : CommunityCeremony) (a : AccountId) : Prop :=
  ∃ t, (c.registry t).index.contains (cc, a) = true

theorem registered_of_registry {c c' : CeremoniesStorage AccountId}
    (h : c'.registry = c.registry) {cc : CommunityCeremony} {a : AccountId} :
    Registered c' cc a ↔ Registered c cc a := by
  simp only [Registered, h]

theorem registered_of_getParticipantType {c : CeremoniesStorage AccountId}
    {cc : CommunityCeremony} {a : AccountId} {t : ParticipantType}
    (h : getParticipantType c cc a = some t) : Registered c cc a :=
  ⟨t, contains_of_getParticipantType h⟩

end Ceremonies

open Ceremonies

variable {s s' : Runtime AccountId} {effects : List (Effect AccountId)}

/-- A change without an effect leaves registrations and reputations. -/
structure SameLinks (s s' : Runtime AccountId) : Prop where
  registry : s'.ceremonies.registry = s.ceremonies.registry
  participantReputation : s'.ceremonies.participantReputation = s.ceremonies.participantReputation
  time : s.scheduler.time ≤ s'.scheduler.time

theorem Change.sameLinks (h : Change config s [] s') : SameLinks s s' := by
  cases h with
  | parameters ceremonies same => exact ⟨same.registry, same.participantReputation, le_rfl⟩
  | attest sender cid vote attestations ceremonies attested =>
      obtain ⟨same, -⟩ := attestAttendees_spec attested
      exact ⟨same.registry, same.participantReputation, le_rfl⟩
  | _ => exact ⟨rfl, rfl, le_rfl⟩

theorem Changes.sameLinks (h : Changes config s [] s') : SameLinks s s' := by
  generalize hnil : ([] : List (Effect AccountId)) = effects at h
  induction h with
  | refl => exact ⟨rfl, rfl, le_rfl⟩
  | tail _ hchange ih =>
      obtain ⟨rfl, rfl⟩ := List.append_eq_nil_iff.1 hnil.symm
      have hbefore := ih rfl
      have hafter := hchange.sameLinks
      exact ⟨hafter.registry.trans hbefore.registry,
        hafter.participantReputation.trans hbefore.participantReputation,
        hbefore.time.trans hafter.time⟩

theorem Change.link_inv {cc : CommunityCeremony} {sender : AccountId}
    {reputation : CommunityCeremony × AccountId}
    (h : Change config s [.link cc sender reputation] s') :
    s.scheduler.RegistrationOpen cc.2 ∧
      (participantReputation s.ceremonies reputation.1
        reputation.2).isVerifiedAndUnlinkedForCindex cc.2 = true ∧
      s' = { s with ceremonies := { s.ceremonies with
        participantReputation := (s.ceremonies.participantReputation.insert reputation
          (.verifiedLinked cc.2)).insert (cc, sender) .unverifiedReputable } } := by
  generalize heffects : [Effect.link cc sender reputation] = effects at h
  cases h with
  | link cid cindex sender' p ceremonies opened linked =>
      cases heffects
      obtain ⟨-, hunlinked, rfl⟩ := linkReputation_spec linked
      exact ⟨opened, hunlinked, rfl⟩
  | _ => cases heffects

theorem Change.unlink_inv {cc source : CommunityCeremony} {sender : AccountId}
    (h : Change config s [.unlink cc sender source] s') :
    s.scheduler.RegistrationOpen cc.2 ∧
      participantReputation s.ceremonies source sender = .verifiedLinked cc.2 ∧
      s' = { s with ceremonies := { s.ceremonies with
        participantReputation := (s.ceremonies.participantReputation.insert (source, sender)
          .verifiedUnlinked).erase (cc, sender) } } := by
  generalize heffects : [Effect.unlink cc sender source] = effects at h
  cases h with
  | unlink cid cindex sender' source' ceremonies opened unlinked =>
      cases heffects
      obtain ⟨hlinked, rfl⟩ := unlinkReputation_spec unlinked
      exact ⟨opened, hlinked, rfl⟩
  | _ => cases heffects

theorem Change.add_inv {t : ParticipantType} {cc : CommunityCeremony} {participant : AccountId}
    (h : Change config s [.add t cc participant] s') :
    s.scheduler.RegistrationOpen cc.2 ∧ ¬ Registered s.ceremonies cc participant ∧
      s'.scheduler = s.scheduler ∧
      s'.ceremonies.participantReputation = s.ceremonies.participantReputation ∧
      ∀ t' k, (s'.ceremonies.registry t').index.contains k = true →
        (t' = t ∧ k = (cc, participant)) ∨ (s.ceremonies.registry t').index.contains k = true := by
  generalize heffects : [Effect.add t cc participant] = effects at h
  cases h with
  | add t' cc' participant' r opened free added =>
      cases heffects
      refine ⟨opened, ?_, rfl, ?_, ?_⟩
      · intro hregistered
        obtain ⟨t', ht'⟩ := hregistered
        rw [StorageMap.contains, free t'] at ht'
        cases ht'
      · cases t <;> rfl
      · intro t' k hk
        by_cases ht : t' = t
        · subst ht
          rw [setRegistry_registry_self, StorageMap.contains,
            ParticipantRegistry.lookup_index_of_register added] at hk
          split at hk
          · rename_i hkey
            exact Or.inl ⟨rfl, hkey⟩
          · exact Or.inr hk
        · rw [setRegistry_registry_ne _ r ht] at hk
          exact Or.inr hk
  | _ => cases heffects

theorem Change.remove_inv (hinv : RegistryInvariant s.ceremonies.registry)
    {cc : CommunityCeremony} {participant : AccountId}
    (h : Change config s [.remove cc participant] s') :
    s.scheduler.RegistrationOpen cc.2 ∧ s'.scheduler = s.scheduler ∧
      s'.ceremonies.participantReputation = s.ceremonies.participantReputation ∧
      ∀ t k, (s'.ceremonies.registry t).index.contains k = true ↔
        (s.ceremonies.registry t).index.contains k = true ∧ k ≠ (cc, participant) := by
  generalize heffects : [Effect.remove cc participant] = effects at h
  cases h with
  | remove t' cc' participant' opened registered =>
      cases heffects
      obtain ⟨i, hi⟩ := StorageMap.contains_eq_true.1 registered
      refine ⟨opened, rfl, ?_, ?_⟩
      · cases t' <;> rfl
      · intro t k
        by_cases ht : t = t'
        · subst ht
          rw [setRegistry_registry_self,
            ParticipantRegistry.contains_index_of_remove (hinv.bijective t) hi]
        · rw [setRegistry_registry_ne _ _ ht]
          constructor
          · intro hk
            refine ⟨hk, ?_⟩
            intro hkey
            rw [hkey] at hk
            exact ht (hinv.exclusive _ t t' hk registered)
          · intro hk
            exact hk.1
  | _ => cases heffects

/-! ## Changes without new links -/

/-- Effects that neither register nor link nor unlink. -/
def Effect.KeepsLinks : Effect AccountId → Prop
  | .add .. | .link .. | .unlink .. => False
  | _ => True

/-- Time goes on, and registrations and reputations can only go. -/
structure LinksShrink (s s' : Runtime AccountId) : Prop where
  time : s.scheduler.time ≤ s'.scheduler.time
  registered : ∀ t k, (s'.ceremonies.registry t).index.contains k = true →
    (s.ceremonies.registry t).index.contains k = true
  reputation : ∀ key,
    s'.ceremonies.participantReputation.lookup key = s.ceremonies.participantReputation.lookup key ∨
      s'.ceremonies.participantReputation.lookup key = none

theorem LinksShrink.refl (s : Runtime AccountId) : LinksShrink s s where
  time := le_rfl
  registered := by
    intro t k hk
    exact hk
  reputation := by
    intro key
    exact Or.inl rfl

theorem LinksShrink.trans {s'' : Runtime AccountId} (h : LinksShrink s s')
    (h' : LinksShrink s' s'') : LinksShrink s s'' where
  time := h.time.trans h'.time
  registered := by
    intro t k hk
    exact h.registered t k (h'.registered t k hk)
  reputation := by
    intro key
    rcases h'.reputation key with hsame | hnone
    · rw [hsame]
      exact h.reputation key
    · exact Or.inr hnone

theorem SameLinks.linksShrink (h : SameLinks s s') : LinksShrink s s' where
  time := h.time
  registered := by
    intro t k hk
    rw [h.registry] at hk
    exact hk
  reputation := by
    intro key
    rw [h.participantReputation]
    exact Or.inl rfl

theorem Change.linksShrink (hinv : RegistryInvariant s.ceremonies.registry)
    (h : Change config s effects s') (hkeeps : ∀ e ∈ effects, e.KeepsLinks) :
    LinksShrink s s' := by
  cases h with
  | add => exact (hkeeps _ List.mem_cons_self).elim
  | link => exact (hkeeps _ List.mem_cons_self).elim
  | unlink => exact (hkeeps _ List.mem_cons_self).elim
  | clock now blockNumber scheduler advances => exact SameLinks.linksShrink ⟨rfl, rfl, advances⟩
  | parameters ceremonies same =>
      exact SameLinks.linksShrink ⟨same.registry, same.participantReputation, le_rfl⟩
  | attest sender cid vote attestations ceremonies attested =>
      obtain ⟨same, -⟩ := attestAttendees_spec attested
      exact SameLinks.linksShrink ⟨same.registry, same.participantReputation, le_rfl⟩
  | assign cid ceremonies random random' assigning registered assigned =>
      rcases generateMeetupAssignmentParams_spec assigned with rfl | ⟨_, _, _, -, -, -, rfl⟩
      · exact SameLinks.linksShrink ⟨rfl, rfl, le_rfl⟩
      · exact SameLinks.linksShrink ⟨rfl, rfl, le_rfl⟩
  | remove t cc participant opened registered =>
      have hremove : Change config s _ _ := .remove t cc participant opened registered
      obtain ⟨-, htime, hreputation, hregistered⟩ := hremove.remove_inv hinv
      constructor
      · rw [htime]
      · intro t k hk
        exact ((hregistered t k).1 hk).1
      · intro key
        rw [hreputation]
        exact Or.inl rfl
  | purge cc =>
      constructor
      · exact le_rfl
      · intro t k hk
        have hpurged : ((s.ceremonies.registry t).purge cc).index.contains k = true := by
          cases t <;> exact hk
        simp only [ParticipantRegistry.purge, StorageMap.contains,
          StorageMap.lookup_removePrefix] at hpurged
        split at hpurged
        · cases hpurged
        · exact hpurged
      · intro key
        simp only [purgeCommunityCeremonyInternal, StorageMap.lookup_removePrefix]
        by_cases hcc : key.1 = cc
        · exact Or.inr (if_pos hcc)
        · exact Or.inl (if_neg hcc)
  | _ => exact SameLinks.linksShrink ⟨rfl, rfl, le_rfl⟩

theorem Changes.linksShrink (hinv : RegistryInvariant s.ceremonies.registry)
    (h : Changes config s effects s') (hkeeps : ∀ e ∈ effects, e.KeepsLinks) :
    LinksShrink s s' := by
  induction h with
  | refl => exact LinksShrink.refl s
  | tail hbefore hchange ih =>
      have hshrunk := ih fun e he => hkeeps e (List.mem_append_left _ he)
      have hlast := hchange.linksShrink (hinv.changes hbefore) fun e he =>
        hkeeps e (List.mem_append_right _ he)
      exact hshrunk.trans hlast

/-! ## The invariant -/

/-- `backing` names the reputation behind a registration, and `credited` what was ever earned. -/
structure LinksHold (s : Runtime AccountId)
    (backing : CommunityCeremony → AccountId → Option (CommunityCeremony × AccountId))
    (credited : List (CommunityCeremony × AccountId)) : Prop where
  earned : ∀ cc a, (participantReputation s.ceremonies cc a).isVerified = true → (cc, a) ∈ credited
  opened : ∀ cc a, Registered s.ceremonies cc a → 3 * cc.2 ≤ s.scheduler.time + 1
  backed : ∀ cc a p, Registered s.ceremonies cc a → backing cc a = some p → p ∈ credited
  /-- Until the ceremony is over, the reputation cannot be linked to it again. -/
  unavailable : ∀ cc a p, Registered s.ceremonies cc a → backing cc a = some p →
    s.scheduler.time ≤ 3 * cc.2 + 1 →
      (participantReputation s.ceremonies p.1 p.2).isVerifiedAndUnlinkedForCindex cc.2 = false
  unique : ∀ cc cc' a a' p, Registered s.ceremonies cc a → Registered s.ceremonies cc' a' →
    cc.2 = cc'.2 → backing cc a = some p → backing cc' a' = some p → cc = cc' ∧ a = a'

namespace LinksHold

variable {backing backing' : CommunityCeremony → AccountId →
    Option (CommunityCeremony × AccountId)}
  {credited credited' : List (CommunityCeremony × AccountId)}

theorem rebacked (h : LinksHold s backing credited)
    (hbacking : ∀ cc a p, Registered s.ceremonies cc a → backing' cc a = some p →
      backing cc a = some p) : LinksHold s backing' credited where
  earned := h.earned
  opened := h.opened
  backed := by
    intro cc a p hreg hp
    exact h.backed cc a p hreg (hbacking cc a p hreg hp)
  unavailable := by
    intro cc a p hreg hp
    exact h.unavailable cc a p hreg (hbacking cc a p hreg hp)
  unique := by
    intro cc cc' a a' p hreg hreg' hindex hp hp'
    exact h.unique cc cc' a a' p hreg hreg' hindex (hbacking cc a p hreg hp)
      (hbacking cc' a' p hreg' hp')

theorem shrink (h : LinksHold s backing credited) (hshrink : LinksShrink s s') :
    LinksHold s' backing credited := by
  have hregistered {cc : CommunityCeremony} {a : AccountId} (hreg : Registered s'.ceremonies cc a) :
      Registered s.ceremonies cc a := by
    obtain ⟨t, ht⟩ := hreg
    exact ⟨t, hshrink.registered t _ ht⟩
  have hreputation (cc : CommunityCeremony) (a : AccountId) :
      participantReputation s'.ceremonies cc a = participantReputation s.ceremonies cc a ∨
        participantReputation s'.ceremonies cc a = .unverified := by
    unfold participantReputation StorageMap.get
    rcases hshrink.reputation (cc, a) with hsame | hnone
    · rw [hsame]
      exact Or.inl rfl
    · rw [hnone]
      exact Or.inr rfl
  have htime := hshrink.time
  constructor
  · intro cc a hverified
    rcases hreputation cc a with hsame | hnone
    · exact h.earned cc a (hsame ▸ hverified)
    · rw [hnone] at hverified
      cases hverified
  · intro cc a hreg
    exact (h.opened cc a (hregistered hreg)).trans (by omega)
  · intro cc a p hreg hp
    exact h.backed cc a p (hregistered hreg) hp
  · intro cc a p hreg hp hopen
    rcases hreputation p.1 p.2 with hsame | hnone
    · rw [hsame]
      exact h.unavailable cc a p (hregistered hreg) hp (by omega)
    · rw [hnone]
      rfl
  · intro cc cc' a a' p hreg hreg'
    exact h.unique cc cc' a a' p (hregistered hreg) (hregistered hreg')

/-- A registration that can still change is for the ceremony index that is open. -/
theorem index_eq (h : LinksHold s backing credited) {cindex : Nat}
    (opened : s.scheduler.RegistrationOpen cindex) {cc : CommunityCeremony} {a : AccountId}
    (hreg : Registered s.ceremonies cc a) (hopen : s.scheduler.time ≤ 3 * cc.2 + 1) :
    cc.2 = cindex := by
  have hbound := h.opened cc a hreg
  rcases opened with ⟨hphase, rfl⟩ | ⟨hphase, rfl⟩
  · simp only [SchedulerStorage.time, hphase, CeremonyPhaseType.rank] at hbound hopen
    omega
  · simp only [SchedulerStorage.time, hphase, CeremonyPhaseType.rank] at hbound hopen
    omega

end LinksHold

structure ReadyToBack (s : Runtime AccountId)
    (backing : CommunityCeremony → AccountId → Option (CommunityCeremony × AccountId))
    (credited : List (CommunityCeremony × AccountId)) (cindex : Nat)
    (p : CommunityCeremony × AccountId) : Prop where
  credited : p ∈ credited
  unavailable :
    (participantReputation s.ceremonies p.1 p.2).isVerifiedAndUnlinkedForCindex cindex = false
  unused : ∀ cc a, Registered s.ceremonies cc a → cc.2 = cindex → backing cc a ≠ some p

section

variable {backing : CommunityCeremony → AccountId → Option (CommunityCeremony × AccountId)}
  {credited : List (CommunityCeremony × AccountId)}

theorem ReadyToBack.same {cindex : Nat} {p : CommunityCeremony × AccountId}
    (h : ReadyToBack s backing credited cindex p) (hsame : SameLinks s s') :
    ReadyToBack s' backing credited cindex p where
  credited := h.credited
  unavailable := by
    rw [participantReputation, hsame.participantReputation]
    exact h.unavailable
  unused := by
    intro cc a hreg
    exact h.unused cc a ((registered_of_registry hsame.registry).1 hreg)

theorem LinksHold.link (h : LinksHold s backing credited) {cc : CommunityCeremony}
    {sender : AccountId} {p : CommunityCeremony × AccountId}
    (hlink : Change config s [.link cc sender p] s') :
    LinksHold s' backing credited ∧ ReadyToBack s' backing credited cc.2 p := by
  obtain ⟨opened, hunlinked, rfl⟩ := hlink.link_inv
  have hp : p ∈ credited := h.earned p.1 p.2 (Reputation.isVerified_of_unlinkedForCindex hunlinked)
  have hreputation (source : CommunityCeremony) (a : AccountId) :
      StorageMap.get ((s.ceremonies.participantReputation.insert p
          (.verifiedLinked cc.2)).insert (cc, sender) .unverifiedReputable) (source, a)
          .unverified =
        if (source, a) = (cc, sender) then .unverifiedReputable
        else if (source, a) = p then .verifiedLinked cc.2
        else participantReputation s.ceremonies source a := by
    rw [StorageMap.get_insert, StorageMap.get_insert]
    rfl
  constructor
  · constructor
    · intro source a hverified
      rw [participantReputation, hreputation] at hverified
      split at hverified
      · cases hverified
      · split at hverified
        · rename_i hkey
          exact hkey ▸ hp
        · exact h.earned source a hverified
    · exact h.opened
    · exact h.backed
    · intro cc' a q hreg hq hopen
      have hindex := h.index_eq opened hreg hopen
      rw [participantReputation, hreputation]
      split
      · rfl
      · split
        · simp [Reputation.isVerifiedAndUnlinkedForCindex, hindex]
        · exact h.unavailable cc' a q hreg hq hopen
    · exact h.unique
  · constructor
    · exact hp
    · rw [participantReputation, hreputation]
      split
      · rfl
      · rw [if_pos rfl]
        simp [Reputation.isVerifiedAndUnlinkedForCindex]
    · intro cc' a hreg hindex hbacking
      have htime := opened.time_le
      have hfree := h.unavailable cc' a p hreg hbacking (by omega)
      rw [hindex, hunlinked] at hfree
      cases hfree

def rebacking (backing : CommunityCeremony → AccountId → Option (CommunityCeremony × AccountId))
    (cc : CommunityCeremony) (a : AccountId) (p : Option (CommunityCeremony × AccountId)) :
    CommunityCeremony → AccountId → Option (CommunityCeremony × AccountId) :=
  fun cc' a' => if cc' = cc ∧ a' = a then p else backing cc' a'

theorem LinksHold.add (h : LinksHold s backing credited) {t : ParticipantType}
    {cc : CommunityCeremony} {a : AccountId} {p : Option (CommunityCeremony × AccountId)}
    (hready : ∀ key, p = some key → ReadyToBack s backing credited cc.2 key)
    (hadd : Change config s [.add t cc a] s') :
    LinksHold s' (rebacking backing cc a p) credited := by
  obtain ⟨opened, hfree, hscheduler, hreputation, hregistered⟩ := hadd.add_inv
  have hold {cc' : CommunityCeremony} {a' : AccountId} (hreg : Registered s'.ceremonies cc' a') :
      (cc' = cc ∧ a' = a) ∨ Registered s.ceremonies cc' a' := by
    obtain ⟨t', ht'⟩ := hreg
    rcases hregistered t' _ ht' with ⟨-, hkey⟩ | hold
    · exact Or.inl (Prod.mk.inj hkey)
    · exact Or.inr ⟨t', hold⟩
  have hbacking {cc' : CommunityCeremony} {a' : AccountId}
      (hreg : Registered s.ceremonies cc' a') : rebacking backing cc a p cc' a' = backing cc' a' := by
    apply if_neg
    intro hkey
    rw [hkey.1, hkey.2] at hreg
    exact hfree hreg
  have hnew : rebacking backing cc a p cc a = p := if_pos ⟨rfl, rfl⟩
  have hreputation' (source : CommunityCeremony) (b : AccountId) :
      participantReputation s'.ceremonies source b = participantReputation s.ceremonies source b := by
    rw [participantReputation, hreputation]
    rfl
  constructor
  · intro source b hverified
    rw [hreputation'] at hverified
    exact h.earned source b hverified
  · intro cc' a' hreg
    rw [hscheduler]
    rcases hold hreg with ⟨rfl, -⟩ | hreg
    · rcases opened with ⟨hphase, hindex⟩ | ⟨hphase, hindex⟩
      · simp only [SchedulerStorage.time, hphase, CeremonyPhaseType.rank]
        omega
      · simp only [SchedulerStorage.time, hphase, CeremonyPhaseType.rank]
        omega
    · exact h.opened cc' a' hreg
  · intro cc' a' key hreg hkey
    rcases hold hreg with ⟨rfl, rfl⟩ | hreg
    · rw [hnew] at hkey
      exact (hready key hkey).credited
    · rw [hbacking hreg] at hkey
      exact h.backed cc' a' key hreg hkey
  · intro cc' a' key hreg hkey hopen
    rw [hscheduler] at hopen
    rw [hreputation']
    rcases hold hreg with ⟨rfl, rfl⟩ | hreg
    · rw [hnew] at hkey
      exact (hready key hkey).unavailable
    · rw [hbacking hreg] at hkey
      exact h.unavailable cc' a' key hreg hkey hopen
  · intro cc₁ cc₂ a₁ a₂ key hreg₁ hreg₂ hindex h₁ h₂
    rcases hold hreg₁ with ⟨rfl, rfl⟩ | hreg₁
    · rcases hold hreg₂ with ⟨rfl, rfl⟩ | hreg₂
      · exact ⟨rfl, rfl⟩
      · rw [hnew] at h₁
        rw [hbacking hreg₂] at h₂
        exact absurd h₂ ((hready key h₁).unused cc₂ a₂ hreg₂ hindex.symm)
    · rw [hbacking hreg₁] at h₁
      rcases hold hreg₂ with ⟨rfl, rfl⟩ | hreg₂
      · rw [hnew] at h₂
        exact absurd h₁ ((hready key h₂).unused cc₁ a₁ hreg₁ hindex)
      · rw [hbacking hreg₂] at h₂
        exact h.unique cc₁ cc₂ a₁ a₂ key hreg₁ hreg₂ hindex h₁ h₂

/-- A reputation that backs no registration any more may be unlinked. -/
theorem LinksHold.unlink (h : LinksHold s backing credited) {cc source : CommunityCeremony}
    {sender : AccountId}
    (hunused : ∀ cc' a, Registered s.ceremonies cc' a → cc'.2 = cc.2 →
      backing cc' a ≠ some (source, sender))
    (hunlink : Change config s [.unlink cc sender source] s') :
    LinksHold s' backing credited := by
  obtain ⟨opened, hlinked, rfl⟩ := hunlink.unlink_inv
  have hreputation (cc' : CommunityCeremony) (a : AccountId) :
      StorageMap.get ((s.ceremonies.participantReputation.insert (source, sender)
          .verifiedUnlinked).erase (cc, sender)) (cc', a) .unverified =
        if (cc', a) = (cc, sender) then .unverified
        else if (cc', a) = (source, sender) then .verifiedUnlinked
        else participantReputation s.ceremonies cc' a := by
    rw [StorageMap.get_erase, StorageMap.get_insert]
    rfl
  constructor
  · intro cc' a hverified
    rw [participantReputation, hreputation] at hverified
    split at hverified
    · cases hverified
    · split at hverified
      · rename_i hkey
        rw [hkey]
        apply h.earned source sender
        rw [hlinked]
        rfl
      · exact h.earned cc' a hverified
  · exact h.opened
  · exact h.backed
  · intro cc' a key hreg hkey hopen
    have hindex := h.index_eq opened hreg hopen
    rw [participantReputation, hreputation]
    split
    · rfl
    · split
      · rename_i hsource
        rw [show key = (source, sender) from hsource] at hkey
        exact absurd hkey (hunused cc' a hreg hindex)
      · exact h.unavailable cc' a key hreg hkey hopen
  · exact h.unique

end

end Encointer
