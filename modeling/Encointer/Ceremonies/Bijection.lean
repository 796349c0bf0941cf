import Encointer.Pallets.Registry

/-!
# The registry is a bijection

In each registry the numbers from one up to the count belong to the registered
participants, and the index map is the inverse. Registering and swapping out a
participant keep this, for all community ceremonies at once.
-/

namespace Encointer

open Assignment Checked

variable {AccountId : Type} [DecidableEq AccountId]

namespace ParticipantRegistry

structure Bijective (r : ParticipantRegistry AccountId) (cc : CommunityCeremony) : Prop where
  keys : ∀ i, (∃ a, r.registry.lookup (cc, i) = some a) ↔ 1 ≤ i ∧ i ≤ r.count.get cc 0
  inverse : ∀ i a, r.registry.lookup (cc, i) = some a ↔ r.index.lookup (cc, a) = some i

variable {r r' : ParticipantRegistry AccountId} {cc : CommunityCeremony} {participant : AccountId}

theorem Bijective.index_bounds (h : r.Bijective cc) {a : AccountId} {i : Nat}
    (ha : r.index.lookup (cc, a) = some i) : 1 ≤ i ∧ i ≤ r.count.get cc 0 :=
  (h.keys i).1 ⟨a, (h.inverse i a).2 ha⟩

theorem Bijective.index_injective (h : r.Bijective cc) {a b : AccountId}
    {i : Nat} (ha : r.index.lookup (cc, a) = some i)
    (hb : r.index.lookup (cc, b) = some i) : a = b := by
  have hra : r.registry.lookup (cc, i) = some a := (h.inverse i a).2 ha
  have hrb : r.registry.lookup (cc, i) = some b := (h.inverse i b).2 hb
  rw [hra] at hrb
  exact Option.some.inj hrb

theorem bijective_empty (cc : CommunityCeremony) :
    (ParticipantRegistry.empty : ParticipantRegistry AccountId).Bijective cc where
  keys := by
    intro i
    simp only [empty, StorageMap.lookup_empty, StorageMap.get_empty]
    constructor
    · intro h
      obtain ⟨a, ha⟩ := h
      exact absurd ha (by simp)
    · intro h
      omega
  inverse := by
    intro i a
    simp [empty]

/-! ## Registering -/

theorem register_eq_some :
    r.register cc participant = some r' ↔
      r.count.get cc 0 + 1 < 2 ^ 64 ∧ r' = {
        registry := r.registry.insert (cc, r.count.get cc 0 + 1) participant
        index := r.index.insert (cc, participant) (r.count.get cc 0 + 1)
        count := r.count.insert cc (r.count.get cc 0 + 1) } := by
  unfold register
  by_cases h : r.count.get cc 0 + 1 < 2 ^ 64
  · rw [addU64_of_lt h]
    constructor
    · intro hr
      exact ⟨h, (Option.some.inj hr).symm⟩
    · intro hr
      exact congrArg some hr.2.symm
  · have hnone : addU64 (r.count.get cc 0) 1 = none := if_neg h
    rw [hnone]
    constructor
    · intro hr
      exact absurd hr (by simp)
    · intro hr
      exact absurd hr.1 h

theorem lookup_index_of_register (h : r.register cc participant = some r')
    (k : CommunityCeremony × AccountId) :
    r'.index.lookup k =
      if k = (cc, participant) then some (r.count.get cc 0 + 1) else r.index.lookup k := by
  obtain ⟨-, rfl⟩ := register_eq_some.1 h
  exact StorageMap.lookup_insert_eq _ _ _ _

theorem lookup_registry_of_register (h : r.register cc participant = some r')
    (k : CommunityCeremony × Nat) :
    r'.registry.lookup k =
      if k = (cc, r.count.get cc 0 + 1) then some participant else r.registry.lookup k := by
  obtain ⟨-, rfl⟩ := register_eq_some.1 h
  exact StorageMap.lookup_insert_eq _ _ _ _

theorem count_of_register (h : r.register cc participant = some r') (cc' : CommunityCeremony) :
    r'.count.get cc' 0 = if cc' = cc then r.count.get cc 0 + 1 else r.count.get cc' 0 := by
  obtain ⟨-, rfl⟩ := register_eq_some.1 h
  exact StorageMap.get_insert _ _ _ _ _

theorem Bijective.register (hr : ∀ cc, r.Bijective cc)
    (free : r.index.lookup (cc, participant) = none)
    (h : r.register cc participant = some r') (cc' : CommunityCeremony) : r'.Bijective cc' := by
  have hindex := lookup_index_of_register h
  have hregistry := lookup_registry_of_register h
  have hcount := count_of_register h
  by_cases hcc : cc' = cc
  · subst hcc
    have hlast : ∀ a, r.registry.lookup (cc', r.count.get cc' 0 + 1) ≠ some a := by
      intro a ha
      have := ((hr cc').keys _).1 ⟨a, ha⟩
      omega
    constructor
    · intro i
      rw [hcount, if_pos rfl, hregistry]
      by_cases hi : i = r.count.get cc' 0 + 1
      · simp [hi]
      · have hkeys := (hr cc').keys i
        rw [if_neg (by simpa using hi), hkeys]
        omega
    · intro i a
      rw [hregistry, hindex]
      by_cases hi : i = r.count.get cc' 0 + 1
      · subst hi
        by_cases ha : a = participant
        · simp [ha]
        · have hne : r.index.lookup (cc', a) ≠ some (r.count.get cc' 0 + 1) := by
            intro hcontra
            exact hlast a (((hr cc').inverse _ a).2 hcontra)
          simp [ha, hne, Ne.symm ha]
      · rw [if_neg (by simpa using hi)]
        by_cases ha : a = participant
        · subst ha
          have hne : r.registry.lookup (cc', i) ≠ some a := by
            intro hcontra
            have := ((hr cc').inverse i a).1 hcontra
            rw [free] at this
            exact absurd this (by simp)
          simp [hne, Ne.symm hi]
        · rw [if_neg (by simpa using ha)]
          exact (hr cc').inverse i a
  · constructor
    · intro i
      rw [hcount, if_neg hcc, hregistry, if_neg (by simp [hcc])]
      exact (hr cc').keys i
    · intro i a
      rw [hregistry, hindex, if_neg (by simp [hcc]), if_neg (by simp [hcc])]
      exact (hr cc').inverse i a

/-! ## Leaving -/

section remove

variable {i : Nat} (hr : ∀ cc, r.Bijective cc)
  (registered : r.index.lookup (cc, participant) = some i)

include hr registered

/-- The last participant, who takes the number of the leaving one. -/
theorem exists_last : ∃ last, r.registry.lookup (cc, r.count.get cc 0) = some last ∧
    r.index.lookup (cc, last) = some (r.count.get cc 0) := by
  have hi := (hr cc).index_bounds registered
  obtain ⟨last, hlast⟩ := ((hr cc).keys (r.count.get cc 0)).2 ⟨by omega, le_rfl⟩
  exact ⟨last, hlast, ((hr cc).inverse _ _).1 hlast⟩

omit hr in
theorem lookup_index_of_remove {last : AccountId}
    (hlast : r.registry.lookup (cc, r.count.get cc 0) = some last)
    (k : CommunityCeremony × AccountId) :
    (r.removeParticipantFromRegistry cc participant).index.lookup k =
      if k = (cc, participant) then none
      else if k = (cc, last) then some i
      else r.index.lookup k := by
  unfold removeParticipantFromRegistry
  rw [StorageMap.get_of_lookup registered]
  simp only [hlast]
  rw [StorageMap.lookup_erase_eq, StorageMap.lookup_insert_eq]

omit hr in
theorem lookup_registry_of_remove {last : AccountId}
    (hlast : r.registry.lookup (cc, r.count.get cc 0) = some last)
    (k : CommunityCeremony × Nat) :
    (r.removeParticipantFromRegistry cc participant).registry.lookup k =
      if k = (cc, r.count.get cc 0) then none
      else if k = (cc, i) then some last
      else r.registry.lookup k := by
  unfold removeParticipantFromRegistry
  rw [StorageMap.get_of_lookup registered]
  simp only [hlast]
  rw [StorageMap.lookup_erase_eq, StorageMap.lookup_insert_eq]

theorem count_of_remove (cc' : CommunityCeremony) :
    (r.removeParticipantFromRegistry cc participant).count.get cc' 0 =
      if cc' = cc then r.count.get cc 0 - 1 else r.count.get cc' 0 := by
  obtain ⟨last, hlast, -⟩ := exists_last hr registered
  unfold removeParticipantFromRegistry
  simp only [hlast]
  exact StorageMap.get_insert _ _ _ _ _

theorem contains_index_of_remove (k : CommunityCeremony × AccountId) :
    (r.removeParticipantFromRegistry cc participant).index.contains k = true ↔
      r.index.contains k = true ∧ k ≠ (cc, participant) := by
  obtain ⟨last, hlast, hindex⟩ := exists_last hr registered
  unfold StorageMap.contains
  rw [lookup_index_of_remove registered hlast]
  by_cases hk : k = (cc, participant)
  · simp [hk]
  · by_cases hl : k = (cc, last)
    · rw [if_neg hk, if_pos hl, hl, hindex]
      simp [← hl, hk]
    · rw [if_neg hk, if_neg hl]
      simp [hk]

theorem Bijective.removeParticipantFromRegistry (cc' : CommunityCeremony) :
    (r.removeParticipantFromRegistry cc participant).Bijective cc' := by
  obtain ⟨last, hlast, hlastIndex⟩ := exists_last hr registered
  have hindex := lookup_index_of_remove registered hlast
  have hregistry := lookup_registry_of_remove registered hlast
  have hcount := count_of_remove hr registered
  by_cases hcc : cc' = cc
  · subst hcc
    have hbounds := (hr cc').index_bounds registered
    have hown : r.registry.lookup (cc', i) = some participant :=
      ((hr cc').inverse i participant).2 registered
    constructor
    · intro j
      rw [hcount, if_pos rfl, hregistry]
      have hkeys := (hr cc').keys j
      by_cases hj : j = r.count.get cc' 0
      · simp only [hj, if_true]
        constructor
        · intro h
          obtain ⟨a, ha⟩ := h
          exact absurd ha (by simp)
        · intro h
          omega
      · rw [if_neg (by simpa using hj)]
        by_cases hji : j = i
        · subst hji
          simp only [if_true]
          constructor
          · intro _
            omega
          · intro _
            exact ⟨last, rfl⟩
        · rw [if_neg (by simpa using hji), hkeys]
          omega
    · intro j a
      rw [hregistry, hindex]
      have hinverse := (hr cc').inverse j a
      by_cases hj : j = r.count.get cc' 0
      · subst hj
        rw [if_pos rfl]
        by_cases ha : a = participant
        · simp [ha]
        · rw [if_neg (by simpa using ha)]
          by_cases hal : a = last
          · subst hal
            rw [if_pos rfl]
            have hne : i ≠ r.count.get cc' 0 := by
              intro hcontra
              rw [← hcontra] at hlast
              rw [hown] at hlast
              exact ha (Option.some.inj hlast).symm
            simp [hne]
          · rw [if_neg (by simpa using hal), ← hinverse, hlast]
            simp [Ne.symm hal]
      · rw [if_neg (by simpa using hj)]
        by_cases hji : j = i
        · subst hji
          rw [if_pos rfl]
          by_cases hal : a = last
          · subst hal
            by_cases ha : a = participant
            · subst ha
              rw [registered] at hlastIndex
              exact absurd (Option.some.inj hlastIndex) hj
            · simp [ha]
          · by_cases ha : a = participant
            · simp [ha, Ne.symm (ha ▸ hal)]
            · have hne : r.index.lookup (cc', a) ≠ some j := by
                intro hcontra
                exact ha ((hr cc').index_injective hcontra registered)
              simp [ha, hal, Ne.symm hal, hne]
        · rw [if_neg (by simpa using hji)]
          by_cases ha : a = participant
          · subst ha
            have hne : r.registry.lookup (cc', j) ≠ some a := by
              intro hcontra
              rw [hinverse, registered] at hcontra
              exact hji (Option.some.inj hcontra).symm
            simp [hne]
          · rw [if_neg (by simpa using ha)]
            by_cases hal : a = last
            · subst hal
              have hne : r.registry.lookup (cc', j) ≠ some a := by
                intro hcontra
                rw [hinverse, hlastIndex] at hcontra
                exact hj (Option.some.inj hcontra).symm
              simp [hne, Ne.symm hji]
            · rw [if_neg (by simpa using hal)]
              exact hinverse
  · constructor
    · intro j
      rw [hcount, if_neg hcc, hregistry, if_neg (by simp [hcc]), if_neg (by simp [hcc])]
      exact (hr cc').keys j
    · intro j a
      rw [hregistry, hindex, if_neg (by simp [hcc]), if_neg (by simp [hcc]),
        if_neg (by simp [hcc]), if_neg (by simp [hcc])]
      exact (hr cc').inverse j a

end remove

/-! ## Purging -/

theorem Bijective.purge (hr : ∀ cc, r.Bijective cc) (cc cc' : CommunityCeremony) :
    (r.purge cc).Bijective cc' := by
  unfold ParticipantRegistry.purge
  by_cases hcc : cc' = cc
  · constructor
    · intro i
      simp only [StorageMap.lookup_removePrefix, StorageMap.get_erase, hcc, if_true]
      constructor
      · intro h
        obtain ⟨a, ha⟩ := h
        exact absurd ha (by simp)
      · intro h
        omega
    · intro i a
      simp [StorageMap.lookup_removePrefix, hcc]
  · constructor
    · intro i
      simp only [StorageMap.lookup_removePrefix, StorageMap.get_erase, hcc, if_false]
      exact (hr cc').keys i
    · intro i a
      simp only [StorageMap.lookup_removePrefix, hcc, if_false]
      exact (hr cc').inverse i a

end ParticipantRegistry

/-! ## The four registries -/

section

omit [DecidableEq AccountId]

@[simp] theorem setRegistry_registry_self (c : CeremoniesStorage AccountId) (t : ParticipantType)
    (r : ParticipantRegistry AccountId) : (c.setRegistry t r).registry t = r := by
  cases t <;> rfl

theorem setRegistry_registry_ne (c : CeremoniesStorage AccountId) {t t' : ParticipantType}
    (r : ParticipantRegistry AccountId) (h : t' ≠ t) :
    (c.setRegistry t r).registry t' = c.registry t' := by
  cases t <;> cases t' <;> first | rfl | exact absurd rfl h

@[simp] theorem setRegistry_participantReputation (c : CeremoniesStorage AccountId)
    (t : ParticipantType) (r : ParticipantRegistry AccountId) :
    (c.setRegistry t r).participantReputation = c.participantReputation := by
  cases t <;> rfl

@[simp] theorem setRegistry_endorsees (c : CeremoniesStorage AccountId) (t : ParticipantType)
    (r : ParticipantRegistry AccountId) : (c.setRegistry t r).endorsees = c.endorsees := by
  cases t <;> rfl

@[simp] theorem setRegistry_meetupCount (c : CeremoniesStorage AccountId) (t : ParticipantType)
    (r : ParticipantRegistry AccountId) : (c.setRegistry t r).meetupCount = c.meetupCount := by
  cases t <;> rfl

@[simp] theorem setRegistry_issuedRewards (c : CeremoniesStorage AccountId) (t : ParticipantType)
    (r : ParticipantRegistry AccountId) : (c.setRegistry t r).issuedRewards = c.issuedRewards := by
  cases t <;> rfl

@[simp] theorem setRegistry_reputationLifetime (c : CeremoniesStorage AccountId) (t : ParticipantType)
    (r : ParticipantRegistry AccountId) :
    (c.setRegistry t r).reputationLifetime = c.reputationLifetime := by
  cases t <;> rfl

end

/-- Every registry is a bijection, and nobody is in two of them. -/
structure RegistryInvariant (registry : ParticipantType → ParticipantRegistry AccountId) :
    Prop where
  bijective : ∀ t cc, (registry t).Bijective cc
  exclusive : ∀ k t t', (registry t).index.contains k = true →
    (registry t').index.contains k = true → t = t'

namespace RegistryInvariant

variable {c : CeremoniesStorage AccountId} {cc : CommunityCeremony} {participant : AccountId}
  {participantType : ParticipantType}

theorem setRegistry {r : ParticipantRegistry AccountId} (h : RegistryInvariant c.registry)
    (hr : ∀ cc, r.Bijective cc)
    (hexclusive : ∀ k t, t ≠ participantType → r.index.contains k = true →
      (c.registry t).index.contains k = false) :
    RegistryInvariant (c.setRegistry participantType r).registry where
  bijective := by
    intro t cc'
    by_cases ht : t = participantType
    · subst ht
      rw [setRegistry_registry_self]
      exact hr cc'
    · rw [setRegistry_registry_ne c r ht]
      exact h.bijective t cc'
  exclusive := by
    intro k t t' ht ht'
    by_cases htype : t = participantType
    · subst htype
      by_cases htype' : t' = t
      · exact htype'.symm
      · rw [setRegistry_registry_self] at ht
        rw [setRegistry_registry_ne c r htype', hexclusive k t' htype' ht] at ht'
        exact absurd ht' (by simp)
    · by_cases htype' : t' = participantType
      · subst htype'
        rw [setRegistry_registry_self] at ht'
        rw [setRegistry_registry_ne c r htype, hexclusive k t htype ht'] at ht
        exact absurd ht (by simp)
      · rw [setRegistry_registry_ne c r htype] at ht
        rw [setRegistry_registry_ne c r htype'] at ht'
        exact h.exclusive k t t' ht ht'

theorem add {r : ParticipantRegistry AccountId} (h : RegistryInvariant c.registry)
    (free : ∀ t, (c.registry t).index.lookup (cc, participant) = none)
    (added : (c.registry participantType).register cc participant = some r) :
    RegistryInvariant (c.setRegistry participantType r).registry := by
  apply h.setRegistry
  · exact ParticipantRegistry.Bijective.register (h.bijective participantType)
      (free participantType) added
  · intro k t ht hk
    unfold StorageMap.contains at hk ⊢
    rw [ParticipantRegistry.lookup_index_of_register added] at hk
    by_cases hkey : k = (cc, participant)
    · rw [hkey, free t]
      rfl
    · rw [if_neg hkey] at hk
      rw [Bool.eq_false_iff]
      intro hcontra
      exact ht (h.exclusive k t participantType hcontra hk)

theorem remove (h : RegistryInvariant c.registry)
    (registered : (c.registry participantType).index.contains (cc, participant) = true) :
    RegistryInvariant (c.setRegistry participantType
      ((c.registry participantType).removeParticipantFromRegistry cc participant)).registry := by
  obtain ⟨i, hi⟩ := StorageMap.contains_eq_true.1 registered
  apply h.setRegistry
  · exact ParticipantRegistry.Bijective.removeParticipantFromRegistry
      (h.bijective participantType) hi
  · intro k t ht hk
    rw [ParticipantRegistry.contains_index_of_remove (h.bijective participantType) hi] at hk
    rw [Bool.eq_false_iff]
    intro hcontra
    exact ht (h.exclusive k t participantType hcontra hk.1)

theorem purge {registry registry' : ParticipantType → ParticipantRegistry AccountId}
    (h : RegistryInvariant registry) (hpurge : ∀ t, registry' t = (registry t).purge cc) :
    RegistryInvariant registry' where
  bijective := by
    intro t cc'
    rw [hpurge]
    exact ParticipantRegistry.Bijective.purge (h.bijective t) cc cc'
  exclusive := by
    intro k t t' ht ht'
    have hindex : ∀ t, (registry' t).index.contains k = true →
        (registry t).index.contains k = true := by
      intro t hcontains
      unfold StorageMap.contains at hcontains ⊢
      rw [hpurge, ParticipantRegistry.purge, StorageMap.lookup_removePrefix] at hcontains
      by_cases hk : k.1 = cc
      · rw [if_pos hk] at hcontains
        exact absurd hcontains (by simp)
      · rw [if_neg hk] at hcontains
        exact hcontains
    exact h.exclusive k t t' (hindex t ht) (hindex t' ht')

end RegistryInvariant

/-! ## The type of a participant -/

namespace Ceremonies

variable {c : CeremoniesStorage AccountId} {cc : CommunityCeremony} {participant : AccountId}
  {participantType : ParticipantType}

theorem contains_of_getParticipantType
    (h : getParticipantType c cc participant = some participantType) :
    (c.registry participantType).index.contains (cc, participant) = true := by
  unfold getParticipantType at h
  split at h
  · cases h
    assumption
  · split at h
    · cases h
      assumption
    · split at h
      · cases h
        assumption
      · split at h
        · cases h
          assumption
        · exact absurd h (by simp)

private theorem getParticipantType_eq_none (h : getParticipantType c cc participant = none)
    (t : ParticipantType) : (c.registry t).index.contains (cc, participant) = false := by
  unfold getParticipantType at h
  simp only [ite_eq_iff, reduceCtorEq, and_false, false_or, and_true, Bool.not_eq_true] at h
  cases t with
  | bootstrapper => exact h.1
  | reputable => exact h.2.1
  | endorsee => exact h.2.2.1
  | newbie => exact h.2.2.2

theorem getParticipantType_eq_some_iff (hinv : RegistryInvariant c.registry) :
    getParticipantType c cc participant = some participantType ↔
      (c.registry participantType).index.contains (cc, participant) = true := by
  constructor
  · exact contains_of_getParticipantType
  · intro h
    cases ht : getParticipantType c cc participant with
    | none =>
        rw [getParticipantType_eq_none ht participantType] at h
        exact absurd h (by simp)
    | some t => rw [hinv.exclusive _ t participantType (contains_of_getParticipantType ht) h]

theorem isRegistered_eq_false_iff {cid : CommunityIdentifier} {cindex : Nat} :
    isRegistered c cid cindex participant = false ↔
      ∀ t, (c.registry t).index.lookup ((cid, cindex), participant) = none := by
  unfold isRegistered
  simp only [Bool.or_eq_false_iff, StorageMap.contains_eq_false]
  constructor
  · intro h t
    cases t with
    | bootstrapper => exact h.1.1.1
    | reputable => exact h.1.1.2
    | endorsee => exact h.1.2
    | newbie => exact h.2
  · intro h
    exact ⟨⟨⟨h .bootstrapper, h .reputable⟩, h .endorsee⟩, h .newbie⟩

end Ceremonies

end Encointer
