import Encointer.ReputationRings.SubRings
import Encointer.Ceremonies.RewardOnce

/-!
# Stale sub-rings

The sub-rings that can be read are those that are counted, until a level is built
again with fewer sub-rings: the step that builds it does not remove the others.
-/

namespace Encointer

namespace ReputationRings

variable {AccountId : Type} [DecidableEq AccountId] {config : RingsConfig AccountId}
  {s : Runtime AccountId} {rings rings' : RingsStorage AccountId}
  {state state' : RingComputationState AccountId} {level : Nat}

section

omit [DecidableEq AccountId]

@[simp] theorem storeComputation_ringMembers :
    (storeComputation rings state).ringMembers = rings.ringMembers := by
  unfold storeComputation
  split <;> rfl

@[simp] theorem storeComputation_subRingCount :
    (storeComputation rings state).subRingCount = rings.subRingCount := by
  unfold storeComputation
  split <;> rfl

@[simp] theorem storeComputation_bandersnatchKeys :
    (storeComputation rings state).bandersnatchKeys = rings.bandersnatchKeys := by
  unfold storeComputation
  split <;> rfl

end

/-- There are exactly the sub-rings that are counted. -/
def Consistent (rings : RingsStorage AccountId) : Prop :=
  ∀ cc level k, rings.ringMembers.contains (cc, level, k) = true ↔
    k < rings.subRingCount.get (cc, level) 0

omit [DecidableEq AccountId] in
theorem Consistent.congr (h : Consistent rings) (hmembers : rings'.ringMembers = rings.ringMembers)
    (hcount : rings'.subRingCount = rings.subRingCount) : Consistent rings' := by
  unfold Consistent
  rw [hmembers, hcount]
  exact h

omit [DecidableEq AccountId] in
theorem Consistent.purge (h : Consistent rings) (s : Runtime AccountId) (cindex : Nat) :
    Consistent (purgeRings s rings cindex) := by
  obtain ⟨ringMembers, subRingCount, hpurge, hmembers, hcount⟩ := purgeRings_eq s rings cindex
  rw [hpurge]
  intro cc level k
  have hbefore := h cc level k
  simp only [StorageMap.contains, StorageMap.get] at hbefore
  simp only [StorageMap.contains, StorageMap.get, hmembers, hcount]
  split
  · simp
  · exact hbefore

/-- The level has at most one sub-ring, or its members still fill more than all but one. -/
def FillsSubRings (config : RingsConfig AccountId) (rings : RingsStorage AccountId)
    (state : RingComputationState AccountId) (level : Nat) : Prop :=
  let count := rings.subRingCount.get ((state.community, state.ceremonyIndex), level) 0
  count ≤ 1 ∨ (count - 1) * config.maxRingSize <
    (eligibleKeys rings.bandersnatchKeys state.attendance level).length

/-- A level that is built stays consistent if there are not fewer sub-rings than before. -/
theorem Builds.consistent_iff (h : Consistent rings)
    (hbuilds : Builds config rings rings' state state' level) :
    Consistent rings' ↔ FillsSubRings config rings state level := by
  obtain ⟨members, num, ringMembers, hperm, hnum, hlookup, rfl⟩ := hbuilds.written
  unfold FillsSubRings
  rw [← hperm.length_eq, ← le_numSubRings_iff hnum]
  have hget (cc : CommunityCeremony) (level' : Nat) :
      (rings.subRingCount.insert ((state.community, state.ceremonyIndex), level) num).get
          (cc, level') 0 =
        if cc = (state.community, state.ceremonyIndex) ∧ level' = level then num
        else rings.subRingCount.get (cc, level') 0 := by
    rw [StorageMap.get_insert]
    simp only [Prod.mk.injEq]
  constructor
  · intro hafter
    by_contra hfewer
    have hstale := (h (state.community, state.ceremonyIndex) level num).2 (by omega)
    have hfree := hafter (state.community, state.ceremonyIndex) level num
    simp only [StorageMap.contains] at hstale hfree
    rw [hget, if_pos ⟨rfl, rfl⟩, hlookup, if_neg (by simp)] at hfree
    exact Nat.lt_irrefl num (hfree.1 hstale)
  · intro hle cc level' k
    have hbefore := h cc level' k
    simp only [StorageMap.contains] at hbefore
    simp only [StorageMap.contains]
    rw [hget, hlookup]
    by_cases hlevel : cc = (state.community, state.ceremonyIndex) ∧ level' = level
    · rw [if_pos hlevel]
      by_cases hk : k < num
      · rw [if_pos ⟨hlevel.1, hlevel.2, hk⟩]
        simp [hk]
      · rw [if_neg fun hwritten => hk hwritten.2.2, hbefore, hlevel.1, hlevel.2]
        omega
    · rw [if_neg hlevel, if_neg fun hwritten => hlevel ⟨hwritten.1, hwritten.2.1⟩]
      exact hbefore

/-! ## Runs -/

/-- The action does not build a level with fewer sub-rings than it has. -/
def KeepsSubRings (config : RingsConfig AccountId) (s : RingsChain AccountId)
    (action : RingsAction AccountId) : Prop :=
  Computes action → ∀ state level, s.rings.pendingRingComputation = some state →
    state.phase = .buildingRing level → 0 < level → FillsSubRings config s.rings state level

theorem step_consistent_iff (config : Config AccountId) (ringsConfig : RingsConfig AccountId)
    (s : RingsChain AccountId) (action : RingsAction AccountId) (h : Consistent s.rings) :
    Consistent (s.step config ringsConfig action).rings ↔
      KeepsSubRings ringsConfig s action := by
  by_cases hbuild : Computes action ∧ ∃ state level,
      s.rings.pendingRingComputation = some state ∧ state.phase = .buildingRing level ∧ 0 < level
  · obtain ⟨hcomputes, state, level, hpending, hphase, hlevel⟩ := hbuild
    have hkeeps : KeepsSubRings ringsConfig s action ↔
        FillsSubRings ringsConfig s.rings state level := by
      constructor
      · intro hall
        exact hall hcomputes state level hpending hphase hlevel
      · intro hfills _ state' level' hpending' hphase' _
        rw [hpending, Option.some.injEq] at hpending'
        subst hpending'
        rw [hphase, RingComputationPhase.buildingRing.injEq] at hphase'
        subst hphase'
        exact hfills
    rw [hkeeps]
    rcases RingsChain.step_builds config hcomputes hpending hphase hlevel with
      ⟨hmax, heligible, hsame⟩ | ⟨built, state', hbuilds, hstored⟩
    · have hfills : FillsSubRings ringsConfig s.rings state level := by
        refine Or.inr ?_
        rw [hmax, Nat.mul_zero]
        exact List.length_pos_iff.2 heligible
      rw [hsame]
      exact iff_of_true h hfills
    · rw [← hbuilds.consistent_iff h, hstored]
      constructor
      · intro hafter
        exact hafter.congr storeComputation_ringMembers.symm storeComputation_subRingCount.symm
      · intro hafter
        exact hafter.congr storeComputation_ringMembers storeComputation_subRingCount
  · have hkeeps : KeepsSubRings ringsConfig s action :=
      fun hcomputes state level hpending hphase hlevel =>
        absurd ⟨hcomputes, state, level, hpending, hphase, hlevel⟩ hbuild
    have hstep := s.step_rings config ringsConfig action
    generalize (s.step config ringsConfig action).rings = rings' at hstep
    refine iff_of_true ?_ hkeeps
    cases hstep with
    | unchanged => exact h
    | register who key => exact h.congr rfl rfl
    | queue pendingCommunities pendingCeremonyIndex => exact h.congr rfl rfl
    | purge s' cindex => exact h.purge s' cindex
    | start pendingCommunities community ceremonyIndex idle => exact h.congr rfl rfl
    | collect state offset computes pending phase => exact h.congr rfl rfl
    | build state state' level built computes pending phase builds =>
        exact absurd ⟨computes, state, level, pending, phase, builds.levels⟩ hbuild
    | finish state computes pending phase => exact h.congr rfl rfl

/--
In all states of a run, exactly the counted sub-rings can be read, if and only if no step of the
run builds a level of a ceremony again with fewer sub-rings than it had.
-/
theorem sub_rings_consistent_iff (config : Config AccountId) (ringsConfig : RingsConfig AccountId)
    (chain : Chain AccountId) (actions : List (RingsAction AccountId)) :
    (∀ seen, seen <+: actions →
      Consistent (Machine.run (RingsChain.step config ringsConfig) (RingsChain.genesis chain)
        seen).rings) ↔
    Machine.Along (RingsChain.step config ringsConfig) (KeepsSubRings ringsConfig)
      (RingsChain.genesis chain) actions := by
  have hgenesis : Consistent (RingsChain.genesis chain).rings := by
    intro cc level k
    simp [RingsChain.genesis, StorageMap.contains]
  exact Machine.Along.iff_prefixes (fun s : RingsChain AccountId => Consistent s.rings)
    (fun s action h _ => step_consistent_iff config ringsConfig s action h) hgenesis
    (.of_prefixes (fun _ => True) (fun _ _ _ _ => trivial) fun _ _ => trivial)

end ReputationRings

/-! ## Computing rings again -/

namespace Demo

def ringsConfig : RingsConfig Nat where
  maxRingSize := 2
  accountLe := fun a b => a ≤ b

def key (n : UInt8) : BandersnatchPublicKey := Vector.replicate 32 n

def turns (n : Nat) : List (RingsAction Nat) := List.replicate n .onIdleTurn

/--
The islanders register keys after their first ceremony. The rings of the second ceremony count
their attendance, and are computed again when it was purged.
-/
def computedAgain : List (RingsAction Nat) :=
  (firstCeremony ++ [.setReputationLifetime 2, newDay 4, newDay 5]).map .other ++
    [.registerBandersnatchKey 1 (key 1), .registerBandersnatchKey 2 (key 2),
      .registerBandersnatchKey 3 (key 3)] ++ turns 12 ++
    [newDay 6, newDay 7, newDay 8].map .other ++ turns 12 ++
    [newDay 9, newDay 10, newDay 11].map .other ++
    [.initiateRings islanders 2] ++ List.replicate 11 .continueRingComputation

end Demo

theorem ReputationRings.sub_rings_stale :
    let s := Machine.run (RingsChain.step Demo.runtimeConfig Demo.ringsConfig)
      (RingsChain.genesis Demo.start) Demo.computedAgain
    s.rings.pendingRingComputation.isNone = true ∧
      s.rings.subRingCount.get ((Demo.islanders, 2), 1) 0 = 1 ∧
      s.rings.ringMembers.lookup ((Demo.islanders, 2), 1, 1) = some [Demo.key 2, Demo.key 3] ∧
      ¬ ReputationRings.Consistent s.rings := by
  refine ⟨by decide +kernel, by decide +kernel, by decide +kernel, ?_⟩
  intro h
  exact absurd ((h (Demo.islanders, 2) 1 1).1 (by decide +kernel)) (by decide +kernel)

end Encointer
