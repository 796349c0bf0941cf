import Encointer.ReputationRings.Consistency

/-!
# Nested rings

The keys are read again for each level. The rings of a ceremony are nested as long
as nobody who belongs to a level that is built already gets another key before the
last level is built, and no key occurs twice as long as the members of each level
have different keys.
-/

namespace Encointer

namespace ReputationRings

variable {AccountId : Type} [DecidableEq AccountId] {config : RingsConfig AccountId}
  {s : Runtime AccountId} {rings rings' : RingsStorage AccountId}
  {state state' : RingComputationState AccountId} {cc : CommunityCeremony} {level : Nat}
  {account : AccountId} {attendance : List (AccountId × Nat)}

/-! ## Attendance -/

theorem mem_countAttendance {a : AccountId} {n : Nat}
    (h : (a, n) ∈ countAttendance account attendance) :
    (a, n) ∈ attendance ∨ a = account ∧ (n = 1 ∨ ∃ m, (account, m) ∈ attendance ∧ n ≤ m + 1) := by
  induction attendance with
  | nil =>
      simp only [countAttendance, List.mem_singleton, Prod.mk.injEq] at h
      exact Or.inr ⟨h.1, Or.inl h.2⟩
  | cons entry rest ih =>
      obtain ⟨b, m⟩ := entry
      unfold countAttendance at h
      split at h
      · rename_i hb
        rcases List.mem_cons.1 h with heq | hmem
        · rw [Prod.mk.injEq] at heq
          refine Or.inr ⟨heq.1.trans hb, Or.inr ⟨m, ?_, ?_⟩⟩
          · rw [← hb]
            exact List.mem_cons_self
          · rw [heq.2]
            exact Nat.min_le_left _ _
        · exact Or.inl (List.mem_cons_of_mem _ hmem)
      · rcases List.mem_cons.1 h with heq | hmem
        · rw [heq]
          exact Or.inl List.mem_cons_self
        · rcases ih hmem with hkept | ⟨ha, hcount⟩
          · exact Or.inl (List.mem_cons_of_mem _ hkept)
          · refine Or.inr ⟨ha, hcount.imp id ?_⟩
            rintro ⟨m', hm', hle⟩
            exact ⟨m', List.mem_cons_of_mem _ hm', hle⟩

theorem mem_countAttendances {keys : List (AccountId × BandersnatchPublicKey)}
    (hkeys : (keys.map Prod.fst).Nodup) {a : AccountId} {n : Nat}
    (h : (a, n) ∈ countAttendances s cc keys attendance) :
    (a, n) ∈ attendance ∨
      (Ceremonies.participantReputation s.ceremonies cc a).isVerified = true ∧
        a ∈ keys.map Prod.fst ∧ (n = 1 ∨ ∃ m, (a, m) ∈ attendance ∧ n ≤ m + 1) := by
  induction keys generalizing attendance with
  | nil => exact Or.inl h
  | cons entry keys ih =>
      obtain ⟨b, key⟩ := entry
      rw [List.map_cons, List.nodup_cons] at hkeys
      have hmono (a : AccountId) (ha : a ∈ keys.map Prod.fst) :
          a ∈ ((b, key) :: keys).map Prod.fst :=
        List.mem_cons_of_mem _ ha
      unfold countAttendances at h
      split at h
      · rename_i hverified
        rcases ih hkeys.2 h with hmem | ⟨hv, ha, hcount⟩
        · rcases mem_countAttendance hmem with hkept | ⟨rfl, hcount⟩
          · exact Or.inl hkept
          · exact Or.inr ⟨hverified, List.mem_cons_self, hcount⟩
        · refine Or.inr ⟨hv, hmono a ha, hcount.imp id ?_⟩
          rintro ⟨m, hm, hle⟩
          rcases mem_countAttendance hm with hkept | ⟨rfl, -⟩
          · exact ⟨m, hkept, hle⟩
          · exact absurd ha hkeys.1
      · rcases ih hkeys.2 h with hmem | ⟨hv, ha, hcount⟩
        · exact Or.inl hmem
        · exact Or.inr ⟨hv, hmono a ha, hcount⟩

/-! ## Backed keys -/

/-- At least `n` verified attendances of the account within `scanned` ceremonies have been met. -/
def Attended (met : (RingsChain AccountId → Prop) → Prop) (cc : CommunityCeremony) (scanned : Nat)
    (account : AccountId) (n : Nat) : Prop :=
  ∃ cindexes : Finset Nat, n ≤ cindexes.card ∧ ∀ cindex ∈ cindexes,
    0 < cindex ∧ cindex ≤ cc.2 ∧ cc.2 < cindex + scanned ∧
      met fun s => (Ceremonies.participantReputation s.chain.runtime.ceremonies (cc.1, cindex)
        account).isVerified = true

variable {met met' : (RingsChain AccountId → Prop) → Prop} {offset n : Nat}

theorem Attended.mono (h : Attended met cc offset account n) (hmet : ∀ p, met p → met' p)
    {offset' n' : Nat} (hoffset : offset ≤ offset') (hn : n' ≤ n) :
    Attended met' cc offset' account n' := by
  obtain ⟨cindexes, hcard, hall⟩ := h
  refine ⟨cindexes, hn.trans hcard, ?_⟩
  intro cindex hmem
  obtain ⟨hpos, hle, hlt, hverified⟩ := hall cindex hmem
  exact ⟨hpos, hle, by omega, hmet _ hverified⟩

theorem Attended.scan (h : Attended met cc offset account n) (hcindex : 0 < cc.2 - offset)
    (hverified : met fun s => (Ceremonies.participantReputation s.chain.runtime.ceremonies
      (cc.1, cc.2 - offset) account).isVerified = true) :
    Attended met cc (offset + 1) account (n + 1) := by
  obtain ⟨cindexes, hcard, hall⟩ := h
  have hnew : cc.2 - offset ∉ cindexes := by
    intro hmem
    have hlt := (hall _ hmem).2.2.1
    omega
  refine ⟨insert (cc.2 - offset) cindexes, ?_, ?_⟩
  · rw [Finset.card_insert_of_notMem hnew]
    omega
  · intro cindex hmem
    rcases Finset.mem_insert.1 hmem with rfl | hmem
    · exact ⟨hcindex, by omega, by omega, hverified⟩
    · obtain ⟨hpos, hle, hlt, hmet⟩ := hall cindex hmem
      exact ⟨hpos, hle, by omega, hmet⟩

/-- How many ceremonies were scanned. -/
def ceremoniesScanned : RingComputationPhase → Nat
  | .collectingMembers nextCeremonyOffset => nextCeremonyOffset
  | .buildingRing _ | .done => maxReputationLevels

/-- The attendance that was collected has been met. -/
structure Collected (met : (RingsChain AccountId → Prop) → Prop)
    (state : RingComputationState AccountId) : Prop where
  scanned : ceremoniesScanned state.phase ≤ maxReputationLevels
  attended : ∀ a n, (a, n) ∈ state.attendance →
    Attended met (state.community, state.ceremonyIndex) (ceremoniesScanned state.phase)
      a n

theorem Collected.mono (h : Collected met state) (hmet : ∀ p, met p → met' p) :
    Collected met' state :=
  ⟨h.scanned, fun a n hmem => (h.attended a n hmem).mono hmet le_rfl le_rfl⟩

theorem Collected.collect {chain : RingsChain AccountId}
    (hphase : state.phase = .collectingMembers offset) (hmet : ∀ p, p chain → met p)
    (h : Collected met state) :
    Collected met (collectMembersStep config chain.chain.runtime chain.rings state offset) := by
  obtain ⟨hscanned, hattended⟩ := h
  simp only [hphase, ceremoniesScanned] at hscanned hattended
  unfold collectMembersStep
  by_cases hlast : maxReputationLevels ≤ offset
  · rw [if_pos hlast]
    refine ⟨le_rfl, ?_⟩
    intro a n hmem
    exact (hattended a n ((List.perm_insertionSort _ _).mem_iff.1 hmem)).mono (fun _ hp => hp)
      hscanned le_rfl
  · rw [if_neg hlast]
    have hnext : offset + 1 ≤ maxReputationLevels := by omega
    simp only
    by_cases hzero : state.ceremonyIndex - offset = 0
    · rw [if_pos hzero]
      refine ⟨hnext, ?_⟩
      intro a n hmem
      exact (hattended a n hmem).mono (fun _ hp => hp) (Nat.le_succ offset) le_rfl
    · rw [if_neg hzero]
      refine ⟨hnext, ?_⟩
      intro a n hmem
      rcases mem_countAttendances chain.rings.bandersnatchKeys.nodupKeys hmem with
        hkept | ⟨hverified, -, hcount⟩
      · exact (hattended a n hkept).mono (fun _ hp => hp) (Nat.le_succ offset) le_rfl
      · have hnow := hmet (fun s => (Ceremonies.participantReputation s.chain.runtime.ceremonies
          (state.community, state.ceremonyIndex - offset) a).isVerified = true) hverified
        rcases hcount with rfl | ⟨m, hm, hle⟩
        · have hnone : Attended met (state.community, state.ceremonyIndex) offset a 0 :=
            ⟨∅, Nat.zero_le _, by simp⟩
          exact hnone.scan (Nat.pos_of_ne_zero hzero) hnow
        · exact ((hattended a m hm).scan (Nat.pos_of_ne_zero hzero) hnow).mono (fun _ hp => hp)
            le_rfl hle

/-! ## Rings -/

def ringKeys (rings : RingsStorage AccountId) (cc : CommunityCeremony) (level : Nat) :
    List BandersnatchPublicKey :=
  (List.range (rings.subRingCount.get (cc, level) 0)).flatMap fun k =>
    rings.ringMembers.get (cc, level, k) []

omit [DecidableEq AccountId] in
theorem ringKeys_congr (hmembers : rings'.ringMembers = rings.ringMembers)
    (hcount : rings'.subRingCount = rings.subRingCount) (cc : CommunityCeremony) (level : Nat) :
    ringKeys rings' cc level = ringKeys rings cc level := by
  rw [ringKeys, hmembers, hcount, ringKeys]

theorem Builds.ringKeys (h : Builds config rings rings' state state' level)
    (cc : CommunityCeremony) (level' : Nat) :
    ∃ members : List BandersnatchPublicKey,
      members.Perm (eligibleKeys rings.bandersnatchKeys state.attendance level) ∧
      ReputationRings.ringKeys rings' cc level' =
        if cc = (state.community, state.ceremonyIndex) ∧ level' = level then members
        else ReputationRings.ringKeys rings cc level' := by
  obtain ⟨members, num, ringMembers, hperm, hnum, hlookup, rfl⟩ := h.written
  refine ⟨members, hperm, ?_⟩
  unfold ReputationRings.ringKeys
  rw [StorageMap.get_insert]
  simp only [Prod.mk.injEq]
  by_cases hlevel : cc = (state.community, state.ceremonyIndex) ∧ level' = level
  · rw [if_pos hlevel, if_pos hlevel, ← subRings_flatMap members (numSubRings_pos hnum)]
    apply List.flatMap_congr
    intro k hk
    rw [StorageMap.get, hlookup, if_pos ⟨hlevel.1, hlevel.2, List.mem_range.1 hk⟩]
    rfl
  · rw [if_neg hlevel, if_neg hlevel]
    apply List.flatMap_congr
    intro k _
    rw [StorageMap.get, hlookup, if_neg fun hwritten => hlevel ⟨hwritten.1, hwritten.2.1⟩]
    rfl

omit [DecidableEq AccountId] in
theorem ringKeys_purge (s : Runtime AccountId) (rings : RingsStorage AccountId) (cindex : Nat)
    (cc : CommunityCeremony) :
    (∀ level, ringKeys (purgeRings s rings cindex) cc level = []) ∨
      ∀ level, ringKeys (purgeRings s rings cindex) cc level = ringKeys rings cc level := by
  obtain ⟨ringMembers, subRingCount, hpurge, hmembers, hcount⟩ := purgeRings_eq s rings cindex
  unfold ringKeys
  rw [hpurge]
  simp only [StorageMap.get, hmembers, hcount]
  by_cases hgone : cc.1 ∈ s.communities.communityIdentifiers ∧ cc.2 = cindex
  · simp [hgone]
  · simp [hgone]

/-- Accounts with more attendances are eligible for all levels below. -/
theorem eligibleKeys_subset {keys : StorageMap AccountId BandersnatchPublicKey} {level' : Nat}
    (hle : level ≤ level') :
    eligibleKeys keys attendance level' ⊆ eligibleKeys keys attendance level := by
  intro key hkey
  obtain ⟨entry, hmem, hentry⟩ := List.mem_filterMap.1 hkey
  split at hentry
  · rename_i hcount
    refine List.mem_filterMap.2 ⟨entry, hmem, ?_⟩
    rw [if_pos (hle.trans hcount)]
    exact hentry
  · cases hentry

theorem mem_eligibleKeys {keys : StorageMap AccountId BandersnatchPublicKey}
    {key : BandersnatchPublicKey} (h : key ∈ eligibleKeys keys attendance level) :
    ∃ account n, (account, n) ∈ attendance ∧ level ≤ n ∧ keys.lookup account = some key := by
  obtain ⟨⟨account, n⟩, hmem, hentry⟩ := List.mem_filterMap.1 h
  split at hentry
  · rename_i hcount
    exact ⟨account, n, hmem, hcount, hentry⟩
  · cases hentry

/-- Eligible keys stay, when nobody who is eligible gets another one. -/
theorem eligibleKeys_insert {keys : StorageMap AccountId BandersnatchPublicKey}
    {who : AccountId} {key : BandersnatchPublicKey}
    (hkept : ∀ n, (who, n) ∈ attendance → level ≤ n → keys.lookup who = some key) :
    eligibleKeys (keys.insert who key) attendance level = eligibleKeys keys attendance level := by
  apply List.filterMap_congr
  rintro ⟨account, n⟩ hmem
  by_cases hcount : level ≤ n
  · rw [if_pos hcount, if_pos hcount, StorageMap.lookup_insert_eq]
    split
    · rename_i haccount
      simp only at haccount
      subst haccount
      exact (hkept n hmem hcount).symm
    · rfl
  · rw [if_neg hcount, if_neg hcount]

/-! ## Nesting -/

/-- The levels above `level` are nested, and no key occurs twice in them. -/
structure NestedAbove (rings : RingsStorage AccountId) (cc : CommunityCeremony) (level : Nat) :
    Prop where
  subset : ∀ l, level < l → l < maxReputationLevels → ringKeys rings cc (l + 1) ⊆ ringKeys rings cc l
  nodup : ∀ l, level < l → l ≤ maxReputationLevels → (ringKeys rings cc l).Nodup

section

omit [DecidableEq AccountId]

theorem NestedAbove.congr (h : NestedAbove rings cc level)
    (hkeys : ∀ l, ringKeys rings' cc l = ringKeys rings cc l) : NestedAbove rings' cc level := by
  refine ⟨?_, ?_⟩
  · intro l hl hlt
    rw [hkeys, hkeys]
    exact h.subset l hl hlt
  · intro l hl hle
    rw [hkeys]
    exact h.nodup l hl hle

theorem NestedAbove.of_nil (hkeys : ∀ l, ringKeys rings cc l = []) :
    NestedAbove rings cc level := by
  refine ⟨?_, ?_⟩
  · intro l _ _
    rw [hkeys]
    exact List.nil_subset _
  · intro l _ _
    rw [hkeys]
    exact List.nodup_nil

theorem NestedAbove.mono (h : NestedAbove rings cc level) {level' : Nat} (hle : level ≤ level') :
    NestedAbove rings cc level' :=
  ⟨fun l hl => h.subset l (by omega), fun l hl => h.nodup l (by omega)⟩

end

def levelsLeft : RingComputationPhase → Nat
  | .collectingMembers _ => maxReputationLevels
  | .buildingRing currentLevel => currentLevel
  | .done => 0

/-- The levels of a ceremony that its pending computation has not built yet. -/
def unbuilt (rings : RingsStorage AccountId) (cc : CommunityCeremony) : Nat :=
  match rings.pendingRingComputation with
  | none => 0
  | some state =>
      if (state.community, state.ceremonyIndex) = cc then levelsLeft state.phase else 0

/-- The account had enough attendances, and had the key when it was published. -/
def Backed (met : (RingsChain AccountId → Prop) → Prop) (cc : CommunityCeremony) (level : Nat)
    (key : BandersnatchPublicKey) : Prop :=
  ∃ account, (met fun s => s.rings.bandersnatchKeys.lookup account = some key) ∧
    Attended met cc maxReputationLevels account level

theorem Backed.mono {key : BandersnatchPublicKey} (h : Backed met cc level key)
    (hmet : ∀ p, met p → met' p) : Backed met' cc level key := by
  obtain ⟨account, hkey, hattended⟩ := h
  exact ⟨account, hmet _ hkey, hattended.mono hmet le_rfl le_rfl⟩

/-- What holds of the rings in every state, also while they are computed. -/
structure RingsInvariant (met : (RingsChain AccountId → Prop) → Prop)
    (rings : RingsStorage AccountId) : Prop where
  collected : ∀ state, rings.pendingRingComputation = some state → Collected met state
  nested : ∀ cc, NestedAbove rings cc (unbuilt rings cc)
  /-- The level built last has the keys of eligible accounts, and these are the present ones. -/
  current : ∀ state level, rings.pendingRingComputation = some state →
    state.phase = .buildingRing level → level < maxReputationLevels →
    ringKeys rings (state.community, state.ceremonyIndex) (level + 1) ⊆
      eligibleKeys rings.bandersnatchKeys state.attendance (level + 1)
  backed : ∀ cc level key, key ∈ ringKeys rings cc level → Backed met cc level key

/--
The members of a level that is built have different keys, and no member of a level that is
built already registers another key before the computation is done.
-/
structure KeepsKeys (s : RingsChain AccountId) (action : RingsAction AccountId) : Prop where
  distinct : Computes action → ∀ state level, s.rings.pendingRingComputation = some state →
    state.phase = .buildingRing level →
    (eligibleKeys s.rings.bandersnatchKeys state.attendance level).Nodup
  kept : ∀ who key, action = .registerBandersnatchKey who key →
    ∀ state level, s.rings.pendingRingComputation = some state →
      state.phase = .buildingRing level → ∀ n, (who, n) ∈ state.attendance → level < n →
        s.rings.bandersnatchKeys.lookup who = some key

/-! ## Steps -/

omit [DecidableEq AccountId] in
theorem unbuilt_of_none (h : rings.pendingRingComputation = none) (cc : CommunityCeremony) :
    unbuilt rings cc = 0 := by
  rw [unbuilt, h]

omit [DecidableEq AccountId] in
theorem unbuilt_of_some (h : rings.pendingRingComputation = some state) (cc : CommunityCeremony) :
    unbuilt rings cc =
      if (state.community, state.ceremonyIndex) = cc then levelsLeft state.phase else 0 := by
  rw [unbuilt, h]

theorem levelsLeft_collectMembersStep (config : RingsConfig AccountId) (s : Runtime AccountId)
    (rings : RingsStorage AccountId) (state : RingComputationState AccountId) (offset : Nat) :
    levelsLeft (collectMembersStep config s rings state offset).phase = maxReputationLevels := by
  unfold collectMembersStep
  split
  · rfl
  · simp only
    split <;> rfl

theorem collectMembersStep_ceremony (config : RingsConfig AccountId) (s : Runtime AccountId)
    (rings : RingsStorage AccountId) (state : RingComputationState AccountId) (offset : Nat) :
    (collectMembersStep config s rings state offset).community = state.community ∧
      (collectMembersStep config s rings state offset).ceremonyIndex = state.ceremonyIndex := by
  unfold collectMembersStep
  split
  · exact ⟨rfl, rfl⟩
  · simp only
    split <;> exact ⟨rfl, rfl⟩

/-- After a level is built, one less is left. -/
theorem Builds.stored (h : Builds config rings rings' state state' level) :
    (level = 1 ∧ (storeComputation rings' state').pendingRingComputation = none) ∨
      (level ≠ 1 ∧ (storeComputation rings' state').pendingRingComputation =
        some { state with phase := .buildingRing (level - 1) }) := by
  rw [h.next, storeComputation]
  by_cases hlevel : level = 1
  · simp [hlevel]
  · simp [hlevel]

theorem Builds.unbuilt (h : Builds config rings rings' state state' level)
    (cc : CommunityCeremony) :
    ReputationRings.unbuilt (storeComputation rings' state') cc =
      if (state.community, state.ceremonyIndex) = cc then level - 1 else 0 := by
  rcases h.stored with ⟨hlevel, hnone⟩ | ⟨-, hsome⟩
  · rw [unbuilt_of_none hnone, hlevel]
    simp
  · rw [unbuilt_of_some hsome]
    rfl

namespace RingsInvariant

theorem mono (h : RingsInvariant met rings) (hmet : ∀ p, met p → met' p) :
    RingsInvariant met' rings where
  collected := fun state hpending => (h.collected state hpending).mono hmet
  nested := h.nested
  current := h.current
  backed := fun cc level key hkey => (h.backed cc level key hkey).mono hmet

theorem purge (h : RingsInvariant met rings) (s : Runtime AccountId) (cindex : Nat) :
    RingsInvariant met (purgeRings s rings cindex) := by
  obtain ⟨ringMembers, subRingCount, hpurge, -, -⟩ := purgeRings_eq s rings cindex
  have hpending : (purgeRings s rings cindex).pendingRingComputation =
      rings.pendingRingComputation := by rw [hpurge]
  have hkeys : (purgeRings s rings cindex).bandersnatchKeys = rings.bandersnatchKeys := by
    rw [hpurge]
  refine ⟨?_, ?_, ?_, ?_⟩
  · intro state hstate
    rw [hpending] at hstate
    exact h.collected state hstate
  · intro cc
    rw [unbuilt, hpending]
    rcases ringKeys_purge s rings cindex cc with hgone | hkept
    · exact .of_nil hgone
    · exact (h.nested cc).congr hkept
  · intro state level hstate hphase hlevel
    rw [hpending] at hstate
    rw [hkeys]
    rcases ringKeys_purge s rings cindex (state.community, state.ceremonyIndex) with hgone | hkept
    · rw [hgone]
      exact List.nil_subset _
    · rw [hkept]
      exact h.current state level hstate hphase hlevel
  · intro cc level key hkey
    rcases ringKeys_purge s rings cindex cc with hgone | hkept
    · rw [hgone] at hkey
      cases hkey
    · rw [hkept] at hkey
      exact h.backed cc level key hkey

theorem build {chain : RingsChain AccountId} {built : RingsStorage AccountId}
    (h : RingsInvariant met chain.rings) (hmet : ∀ p, met p → met' p) (hnow : ∀ p, p chain → met' p)
    (hpending : chain.rings.pendingRingComputation = some state)
    (hphase : state.phase = .buildingRing level)
    (hbuilds : Builds config chain.rings built state state' level)
    (hdistinct : (eligibleKeys chain.rings.bandersnatchKeys state.attendance level).Nodup) :
    RingsInvariant met' (storeComputation built state') := by
  have hcollected := h.collected state hpending
  have hunbuilt := unbuilt_of_some hpending
  rw [hphase, levelsLeft] at hunbuilt
  have hpositive := hbuilds.levels
  have hkeys : built.bandersnatchKeys = chain.rings.bandersnatchKeys := by
    obtain ⟨-, -, -, -, -, -, rfl⟩ := hbuilds.written
    rfl
  have hstored (cc : CommunityCeremony) (l : Nat) :
      ringKeys (storeComputation built state') cc l = ringKeys built cc l :=
    ringKeys_congr storeComputation_ringMembers storeComputation_subRingCount cc l
  refine ⟨?_, ?_, ?_, ?_⟩
  · intro state'' hstate
    rcases hbuilds.stored with ⟨-, hnone⟩ | ⟨-, hsome⟩
    · rw [hnone] at hstate
      cases hstate
    · rw [hsome, Option.some.injEq] at hstate
      rw [← hstate]
      refine ⟨le_rfl, ?_⟩
      intro a n hmem
      exact (hcollected.attended a n hmem).mono hmet hcollected.scanned le_rfl
  · intro cc
    have hnested := h.nested cc
    rw [hunbuilt] at hnested
    rw [hbuilds.unbuilt]
    refine NestedAbove.congr ?_ (hstored cc)
    by_cases hcc : (state.community, state.ceremonyIndex) = cc
    · rw [if_pos hcc] at hnested ⊢
      subst hcc
      refine ⟨?_, ?_⟩
      · intro l hl hlt
        obtain ⟨members, hperm, hl'⟩ := hbuilds.ringKeys (state.community, state.ceremonyIndex) l
        obtain ⟨_, -, habove⟩ := hbuilds.ringKeys (state.community, state.ceremonyIndex) (l + 1)
        rw [if_neg (by omega)] at habove
        rw [habove, hl']
        by_cases hlevel : l = level
        · rw [if_pos ⟨rfl, hlevel⟩, hlevel]
          have heligible := h.current state level hpending hphase (by omega)
          intro key hkey
          exact hperm.mem_iff.2 (eligibleKeys_subset (Nat.le_succ level) (heligible hkey))
        · rw [if_neg fun hwritten => hlevel hwritten.2]
          exact hnested.subset l (by omega) hlt
      · intro l hl hle
        obtain ⟨members, hperm, hl'⟩ := hbuilds.ringKeys (state.community, state.ceremonyIndex) l
        rw [hl']
        by_cases hlevel : l = level
        · rw [if_pos ⟨rfl, hlevel⟩]
          exact hperm.nodup_iff.2 hdistinct
        · rw [if_neg fun hwritten => hlevel hwritten.2]
          exact hnested.nodup l (by omega) hle
    · rw [if_neg hcc] at hnested ⊢
      refine hnested.congr ?_
      intro l
      obtain ⟨members, -, hl'⟩ := hbuilds.ringKeys cc l
      rw [hl', if_neg fun hwritten => hcc hwritten.1.symm]
  · intro state'' level' hstate hphase' hlt
    rcases hbuilds.stored with ⟨-, hnone⟩ | ⟨hlevel, hsome⟩
    · rw [hnone] at hstate
      cases hstate
    · rw [hsome, Option.some.injEq] at hstate
      subst hstate
      rw [RingComputationPhase.buildingRing.injEq] at hphase'
      have hnext : level' + 1 = level := by omega
      obtain ⟨members, hperm, hl'⟩ :=
        hbuilds.ringKeys (state.community, state.ceremonyIndex) level
      rw [if_pos ⟨rfl, rfl⟩] at hl'
      rw [hnext, hstored, hl', storeComputation_bandersnatchKeys, hkeys]
      exact hperm.subset
  · intro cc l key hkey
    obtain ⟨members, hperm, hl'⟩ := hbuilds.ringKeys cc l
    rw [hstored, hl'] at hkey
    by_cases hlevel : cc = (state.community, state.ceremonyIndex) ∧ l = level
    · rw [if_pos hlevel] at hkey
      obtain ⟨account, n, hmem, hcount, hlookup⟩ := mem_eligibleKeys (hperm.mem_iff.1 hkey)
      refine ⟨account, hnow _ hlookup, ?_⟩
      rw [hlevel.1, hlevel.2]
      exact (hcollected.attended account n hmem).mono hmet hcollected.scanned hcount
    · rw [if_neg hlevel] at hkey
      exact (h.backed cc l key hkey).mono hmet

theorem step {chain : RingsChain AccountId} {action : RingsAction AccountId}
    (h : RingsInvariant met chain.rings) (hmet : ∀ p, met p → met' p) (hnow : ∀ p, p chain → met' p)
    (hkeeps : KeepsKeys chain action)
    (hstep : RingsStep config chain.chain.runtime chain.rings action rings') :
    RingsInvariant met' rings' := by
  have h' := h.mono hmet
  cases hstep with
  | unchanged => exact h'
  | register who key registers =>
      refine ⟨h'.collected, fun cc => (h'.nested cc).congr fun _ => rfl, ?_, h'.backed⟩
      intro state level hpending hphase hlevel
      have hkept := hkeeps.kept who key registers state level hpending hphase
      have hcurrent := h'.current state level hpending hphase hlevel
      rw [← eligibleKeys_insert fun n hmem hle => hkept n hmem hle] at hcurrent
      exact hcurrent
  | queue pendingCommunities pendingCeremonyIndex =>
      exact ⟨h'.collected, fun cc => (h'.nested cc).congr fun _ => rfl, h'.current, h'.backed⟩
  | purge s' cindex => exact h'.purge s' cindex
  | start pendingCommunities community ceremonyIndex idle =>
      refine ⟨?_, ?_, ?_, h'.backed⟩
      · rintro state hstate
        cases hstate
        exact ⟨Nat.zero_le _, fun a n hmem => by cases hmem⟩
      · intro cc
        have hnested := h'.nested cc
        rw [unbuilt_of_none idle] at hnested
        exact (hnested.mono (Nat.zero_le _)).congr fun _ => rfl
      · rintro state level hstate hphase
        cases hstate
        cases hphase
  | collect state offset computes pending phase =>
      obtain ⟨hcommunity, hceremonyIndex⟩ := collectMembersStep_ceremony config chain.chain.runtime
        chain.rings state offset
      have hleft := levelsLeft_collectMembersStep config chain.chain.runtime chain.rings state offset
      refine ⟨?_, ?_, ?_, h'.backed⟩
      · intro state' hstate
        rw [Option.some.injEq] at hstate
        rw [← hstate]
        exact (h'.collected state pending).collect phase hnow
      · intro cc
        have hnested := h'.nested cc
        rw [unbuilt_of_some pending, phase, levelsLeft] at hnested
        rw [unbuilt]
        simp only [hcommunity, hceremonyIndex, hleft]
        exact hnested.congr fun _ => rfl
      · intro state' level hstate hphase hlevel
        rw [Option.some.injEq] at hstate
        rw [← hstate] at hphase
        rw [hphase, levelsLeft] at hleft
        omega
  | build state state' level built computes pending phase builds =>
      exact h.build hmet hnow pending phase builds (hkeeps.distinct computes state level pending phase)
  | finish state computes pending phase =>
      have hleft : levelsLeft state.phase = 0 := by
        rcases phase with hphase | hphase <;> rw [hphase] <;> rfl
      refine ⟨?_, ?_, ?_, h'.backed⟩
      · intro state' hstate
        cases hstate
      · intro cc
        have hnested := h'.nested cc
        rw [unbuilt_of_some pending, hleft, ite_self] at hnested
        exact hnested.congr fun _ => rfl
      · intro state' level hstate
        cases hstate

end RingsInvariant

/-! ## Runs -/

/-- The rings of a ceremony are nested, without duplicates, and backed by attendances. -/
structure Nested (met : (RingsChain AccountId → Prop) → Prop) (rings : RingsStorage AccountId)
    (cc : CommunityCeremony) : Prop where
  subset : ∀ level, 0 < level → level < maxReputationLevels →
    ringKeys rings cc (level + 1) ⊆ ringKeys rings cc level
  nodup : ∀ level, 0 < level → level ≤ maxReputationLevels → (ringKeys rings cc level).Nodup
  backed : ∀ level key, key ∈ ringKeys rings cc level → Backed met cc level key

/--
After a run that keeps the keys of members during computations, the rings of each ceremony are
nested whose computation is not under way.
-/
theorem rings_nested (config : Config AccountId) (ringsConfig : RingsConfig AccountId)
    (chain : Chain AccountId) (actions : List (RingsAction AccountId))
    (hkeeps : Machine.Along (RingsChain.step config ringsConfig) KeepsKeys
      (RingsChain.genesis chain) actions)
    (cc : CommunityCeremony) :
    let rings := (Machine.run (RingsChain.step config ringsConfig) (RingsChain.genesis chain)
      actions).rings
    (∀ state, rings.pendingRingComputation = some state →
      (state.community, state.ceremonyIndex) ≠ cc) →
    Nested (Machine.Met (RingsChain.step config ringsConfig) (RingsChain.genesis chain) actions)
      rings cc := by
  intro rings hdone
  have hgenesis (met : (RingsChain AccountId → Prop) → Prop) :
      RingsInvariant met (RingsChain.genesis chain).rings := by
    have hnone (cc : CommunityCeremony) (level : Nat) :
        ringKeys (RingsChain.genesis chain).rings cc level = [] := rfl
    refine ⟨fun state hstate => ?_, fun cc => .of_nil (hnone cc), fun state _ hstate => ?_, ?_⟩
    · cases hstate
    · cases hstate
    · intro cc level key hkey
      rw [hnone] at hkey
      cases hkey
  have hinv := Machine.met_invariant KeepsKeys
    (fun met (s : RingsChain AccountId) => RingsInvariant met s.rings)
    (fun met met' s action hmet hnow h hkeeps =>
      h.step hmet hnow hkeeps (s.step_rings config ringsConfig action)) hgenesis hkeeps
  have hbuilt : unbuilt rings cc = 0 := by
    cases hpending : rings.pendingRingComputation with
    | none => exact unbuilt_of_none hpending cc
    | some state => rw [unbuilt_of_some hpending, if_neg (hdone state hpending)]
  have hnested : NestedAbove rings cc (unbuilt rings cc) := hinv.nested cc
  rw [hbuilt] at hnested
  exact ⟨hnested.subset, hnested.nodup, hinv.backed cc⟩

end ReputationRings

/-! ## Keys during a computation -/

namespace ReputationRings

variable {AccountId : Type} [DecidableEq AccountId]

/-- The conditions on the action, for the computation that is pending. -/
def KeepsKeysOf (s : RingsChain AccountId) (action : RingsAction AccountId)
    (state : RingComputationState AccountId) (level : Nat) : Prop :=
  (Computes action → (eligibleKeys s.rings.bandersnatchKeys state.attendance level).Nodup) ∧
    match action with
    | .registerBandersnatchKey who key => ∀ entry ∈ state.attendance,
        entry.1 = who → level < entry.2 → s.rings.bandersnatchKeys.lookup who = some key
    | _ => True

instance (s : RingsChain AccountId) (action : RingsAction AccountId)
    (state : RingComputationState AccountId) (level : Nat) :
    Decidable (KeepsKeysOf s action state level) :=
  match action with
  | .registerBandersnatchKey .. => inferInstanceAs (Decidable (_ ∧ ∀ entry ∈ _, _))
  | .other _ => inferInstanceAs (Decidable (_ ∧ True))
  | .initiateRings .. => inferInstanceAs (Decidable (_ ∧ True))
  | .continueRingComputation => inferInstanceAs (Decidable (_ ∧ True))
  | .onIdleTurn => inferInstanceAs (Decidable (_ ∧ True))

private theorem keepsKeys_iff (s : RingsChain AccountId) (action : RingsAction AccountId) :
    KeepsKeys s action ↔ ∀ state ∈ s.rings.pendingRingComputation, match state.phase with
      | .buildingRing level => KeepsKeysOf s action state level
      | _ => True := by
  constructor
  · rintro ⟨hdistinct, hkept⟩ state hpending
    split
    · rename_i level hphase
      refine ⟨fun hcomputes => hdistinct hcomputes state level hpending hphase, ?_⟩
      cases action with
      | registerBandersnatchKey who key =>
          rintro ⟨account, n⟩ hmem rfl hlt
          exact hkept account key rfl state level hpending hphase n hmem hlt
      | _ => trivial
    · trivial
  · intro hall
    refine ⟨?_, ?_⟩
    · intro hcomputes state level hpending hphase
      have hof := hall state hpending
      rw [hphase] at hof
      exact hof.1 hcomputes
    · rintro who key rfl state level hpending hphase n hmem hlt
      have hof := hall state hpending
      rw [hphase] at hof
      exact hof.2 (who, n) hmem rfl hlt

instance (s : RingsChain AccountId) (action : RingsAction AccountId) :
    Decidable (KeepsKeys s action) :=
  haveI : ∀ state : RingComputationState AccountId, Decidable (match state.phase with
      | .buildingRing level => KeepsKeysOf s action state level
      | _ => True) := fun state =>
    match state.phase with
    | .buildingRing level => inferInstanceAs (Decidable (KeepsKeysOf s action state level))
    | .collectingMembers _ => inferInstanceAs (Decidable True)
    | .done => inferInstanceAs (Decidable True)
  decidable_of_iff _ (keepsKeys_iff s action).symm

end ReputationRings

namespace Demo

/-- The islanders meet twice, and the rings of both ceremonies are computed up to the last level. -/
def metTwice : List (RingsAction Nat) :=
  (firstCeremony ++ [newDay 4] ++ register islanders [1, 2, 3] ++ [newDay 5]).map .other ++
    [.registerBandersnatchKey 1 (key 1), .registerBandersnatchKey 2 (key 2),
      .registerBandersnatchKey 3 (key 3)] ++ turns 12 ++
    ([newDay 6] ++ meet islanders [1, 2, 3] ++ [.claimRewards 1 islanders none, newDay 7,
      newDay 8]).map .other ++ turns 11

/-- One of them gets another key before the last level is built. -/
def replacedKey : List (RingsAction Nat) :=
  metTwice ++ [.registerBandersnatchKey 1 (key 9)] ++ turns 1

/-- Two of them register the same key. -/
def sharedKey : List (RingsAction Nat) :=
  (firstCeremony ++ [newDay 4, newDay 5]).map .other ++
    [.registerBandersnatchKey 1 (key 1), .registerBandersnatchKey 2 (key 1),
      .registerBandersnatchKey 3 (key 3)] ++ turns 12

end Demo

theorem ReputationRings.rings_not_nested :
    let replaced := Machine.run (RingsChain.step Demo.runtimeConfig Demo.ringsConfig)
      (RingsChain.genesis Demo.start) Demo.replacedKey
    let shared := Machine.run (RingsChain.step Demo.runtimeConfig Demo.ringsConfig)
      (RingsChain.genesis Demo.start) Demo.sharedKey
    replaced.rings.pendingRingComputation.isNone = true ∧
      shared.rings.pendingRingComputation.isNone = true ∧
      ¬ ReputationRings.ringKeys replaced.rings (Demo.islanders, 2) 2 ⊆
        ReputationRings.ringKeys replaced.rings (Demo.islanders, 2) 1 ∧
      ¬ (ReputationRings.ringKeys shared.rings (Demo.islanders, 1) 1).Nodup :=
  ⟨by decide +kernel, by decide +kernel, by decide +kernel, by decide +kernel⟩

theorem ReputationRings.rings_nested_metTwice :
    let s := Machine.run (RingsChain.step Demo.runtimeConfig Demo.ringsConfig)
      (RingsChain.genesis Demo.start) (Demo.metTwice ++ Demo.turns 1)
    ReputationRings.ringKeys s.rings (Demo.islanders, 2) 2 =
        [Demo.key 1, Demo.key 2, Demo.key 3] ∧
      ReputationRings.Nested
        (Machine.Met (RingsChain.step Demo.runtimeConfig Demo.ringsConfig)
          (RingsChain.genesis Demo.start) (Demo.metTwice ++ Demo.turns 1))
        s.rings (Demo.islanders, 2) := by
  refine ⟨by decide +kernel, ReputationRings.rings_nested Demo.runtimeConfig Demo.ringsConfig
    Demo.start (Demo.metTwice ++ Demo.turns 1) (by decide +kernel) (Demo.islanders, 2) ?_⟩
  have hnone : (Machine.run (RingsChain.step Demo.runtimeConfig Demo.ringsConfig)
      (RingsChain.genesis Demo.start)
      (Demo.metTwice ++ Demo.turns 1)).rings.pendingRingComputation.isNone = true := by
    decide +kernel
  intro state hstate
  rw [hstate] at hnone
  cases hnone

end Encointer
