import Encointer.Pallets.ReputationRings

/-!
# What a computation step writes

The sub-rings of a level are consecutive slices of its sorted members. A step
writes one level, and the computation that is pending.
-/

namespace Encointer

private theorem flatMap_slices {α : Type} (xs : List α) (f : Nat → Nat) (hzero : f 0 = 0)
    (hmono : ∀ i, f i ≤ f (i + 1)) (n : Nat) :
    (List.range n).flatMap (fun i => (xs.take (f (i + 1))).drop (f i)) = xs.take (f n) := by
  induction n with
  | zero => simp [hzero]
  | succ n ih =>
      have hprefix : xs.take (f n) = (xs.take (f (n + 1))).take (f n) := by
        rw [List.take_take, Nat.min_eq_left (hmono n)]
      rw [List.range_succ, List.flatMap_append, ih, hprefix]
      simp

namespace ReputationRings

variable {AccountId : Type} [DecidableEq AccountId] {config : RingsConfig AccountId}
  {s : Runtime AccountId} {rings rings' : RingsStorage AccountId}
  {state state' : RingComputationState AccountId} {cc : CommunityCeremony} {level num total : Nat}
  {members : List BandersnatchPublicKey}

/-! ## Sub-rings -/

theorem subRings_flatMap (members : List BandersnatchPublicKey) (hnum : 0 < num) :
    (List.range num).flatMap (subRing members num) = members := by
  have hslices := flatMap_slices members (fun i => i * members.length / num) (by simp)
    (fun i => Nat.div_le_div_right (Nat.mul_le_mul_right _ (Nat.le_succ i))) num
  rw [Nat.mul_div_cancel_left _ hnum, List.take_length] at hslices
  exact hslices

section

omit [DecidableEq AccountId]

theorem numSubRings_pos (h : numSubRings config total = some num) : 0 < num := by
  unfold numSubRings at h
  split at h
  · cases h
    exact Nat.one_pos
  · rename_i hlarge
    split at h
    · cases h
    · cases h
      apply Nat.div_pos
      · omega
      · omega

theorem numSubRings_le_mul (h : numSubRings config total = some num) :
    total ≤ num * config.maxRingSize := by
  unfold numSubRings at h
  split at h
  · rename_i hsmall
    cases h
    rw [Nat.one_mul]
    exact hsmall
  · split at h
    · cases h
    · rename_i hpos
      cases h
      have hceil := Nat.lt_mul_div_succ (total + config.maxRingSize - 1)
        (Nat.pos_of_ne_zero hpos)
      rw [Nat.mul_add_one, Nat.mul_comm] at hceil
      omega

/-- There are as many sub-rings as the members of all but one do not fill. -/
theorem le_numSubRings_iff (h : numSubRings config total = some num) (count : Nat) :
    count ≤ num ↔ count ≤ 1 ∨ (count - 1) * config.maxRingSize < total := by
  unfold numSubRings at h
  split at h
  · rename_i hsmall
    cases h
    constructor
    · exact Or.inl
    · rintro (hle | hlt)
      · exact hle
      · by_contra hmany
        have hmul : 1 * config.maxRingSize ≤ (count - 1) * config.maxRingSize :=
          Nat.mul_le_mul_right _ (by omega)
        omega
  · rename_i hlarge
    split at h
    · cases h
    · rename_i hpos
      cases h
      rw [Nat.le_div_iff_mul_le (Nat.pos_of_ne_zero hpos)]
      cases count with
      | zero => simp
      | succ count =>
          rw [Nat.add_mul, Nat.one_mul, Nat.add_sub_cancel]
          cases count with
          | zero =>
              simp
              omega
          | succ count =>
              generalize (count + 1) * config.maxRingSize = filled
              omega

theorem subRing_length_le (h : numSubRings config members.length = some num) (i : Nat) :
    (subRing members num i).length ≤ config.maxRingSize := by
  have hpos := numSubRings_pos h
  have hfits := numSubRings_le_mul h
  have hstep : (i + 1) * members.length / num ≤ i * members.length / num + config.maxRingSize := by
    rw [← Nat.add_mul_div_left _ _ hpos]
    apply Nat.div_le_div_right
    rw [Nat.add_mul, Nat.one_mul]
    omega
  rw [subRing, List.length_drop, List.length_take]
  omega

end

/-! ## Building -/

omit [DecidableEq AccountId] in
theorem publishSubRings_eq (cc : CommunityCeremony) (level : Nat)
    (hfits : ∀ i, (subRing members num i).length ≤ config.maxRingSize) (indices : List Nat)
    (rings : RingsStorage AccountId) :
    ∃ ringMembers, publishSubRings config cc level members num indices rings =
        ({ rings with ringMembers := ringMembers }, .ok ()) ∧
      ∀ k, ringMembers.lookup k = if k.1 = cc ∧ k.2.1 = level ∧ k.2.2 ∈ indices then
        some (subRing members num k.2.2) else rings.ringMembers.lookup k := by
  induction indices generalizing rings with
  | nil =>
      refine ⟨rings.ringMembers, rfl, ?_⟩
      simp
  | cons i rest ih =>
      obtain ⟨ringMembers, hpublish, hlookup⟩ := ih
        { rings with ringMembers := rings.ringMembers.insert (cc, level, i) (subRing members num i) }
      refine ⟨ringMembers, ?_, ?_⟩
      · rw [publishSubRings]
        simp only [Nat.not_lt.2 (hfits i), if_false]
        exact hpublish
      · rintro ⟨cc', level', k⟩
        rw [hlookup]
        by_cases hcc : cc' = cc
        · by_cases hlevel : level' = level
          · by_cases hrest : k ∈ rest
            · simp [hcc, hlevel, hrest]
            · by_cases hk : k = i
              · simp [hcc, hlevel, hk, StorageMap.lookup_insert_eq]
              · simp [hcc, hlevel, hrest, hk, StorageMap.lookup_insert_eq]
          · simp [hlevel, StorageMap.lookup_insert_eq]
        · simp [hcc, StorageMap.lookup_insert_eq]

/-- What a step that builds a level writes. -/
structure Builds (config : RingsConfig AccountId) (rings rings' : RingsStorage AccountId)
    (state state' : RingComputationState AccountId) (level : Nat) : Prop where
  levels : 0 < level
  written : ∃ members num ringMembers,
    members.Perm (eligibleKeys rings.bandersnatchKeys state.attendance level) ∧
    numSubRings config members.length = some num ∧
    (∀ k, ringMembers.lookup k =
      if k.1 = (state.community, state.ceremonyIndex) ∧ k.2.1 = level ∧ k.2.2 < num then
        some (subRing members num k.2.2)
      else rings.ringMembers.lookup k) ∧
    rings' = { rings with
      ringMembers := ringMembers
      subRingCount :=
        rings.subRingCount.insert ((state.community, state.ceremonyIndex), level) num }
  next : state' = { state with phase := if level = 1 then .done else .buildingRing (level - 1) }

/-- A level is built as a whole, or the code panics before anything is written. -/
theorem buildRingStep_cases {result : Except RingError (RingComputationState AccountId)}
    (h : buildRingStep config rings state level = (rings', result)) :
    (level = 0 ∧ rings' = rings ∧ result = .ok { state with phase := .done }) ∨
      (0 < level ∧ config.maxRingSize = 0 ∧
        eligibleKeys rings.bandersnatchKeys state.attendance level ≠ [] ∧
        rings' = rings ∧ result = .error .panicked) ∨
      ∃ state', result = .ok state' ∧ Builds config rings rings' state state' level := by
  unfold buildRingStep at h
  split at h
  · rename_i hzero
    cases h
    exact Or.inl ⟨hzero, rfl, rfl⟩
  · rename_i hlevel
    simp only at h
    generalize hmembers : List.insertionSort (fun a b => keyLe a b = true)
      (eligibleKeys rings.bandersnatchKeys state.attendance level) = members at h
    have hperm : members.Perm (eligibleKeys rings.bandersnatchKeys state.attendance level) := by
      rw [← hmembers]
      exact List.perm_insertionSort _ _
    split at h
    · rename_i hnum
      cases h
      refine Or.inr (Or.inl ⟨Nat.pos_of_ne_zero hlevel, ?_, ?_, rfl, rfl⟩)
      · unfold numSubRings at hnum
        split at hnum
        · cases hnum
        · split at hnum
          · assumption
          · cases hnum
      · intro hnone
        rw [hnone, List.perm_nil] at hperm
        rw [hperm] at hnum
        simp [numSubRings] at hnum
    · rename_i num hnum
      obtain ⟨ringMembers, hpublish, hlookup⟩ := publishSubRings_eq
        (state.community, state.ceremonyIndex) level (subRing_length_le hnum) (List.range num) rings
      rw [hpublish] at h
      cases h
      refine Or.inr (Or.inr ⟨_, rfl, Nat.pos_of_ne_zero hlevel, ?_, rfl⟩)
      refine ⟨members, num, ringMembers, hperm, hnum, ?_, rfl⟩
      intro k
      simp only [hlookup, List.mem_range]

/-! ## Purges -/

omit [DecidableEq AccountId] in
theorem purgeRings_eq (s : Runtime AccountId) (rings : RingsStorage AccountId) (cindex : Nat) :
    ∃ ringMembers subRingCount, purgeRings s rings cindex =
        { rings with ringMembers := ringMembers, subRingCount := subRingCount } ∧
      (∀ k, ringMembers.lookup k =
        if k.1.1 ∈ s.communities.communityIdentifiers ∧ k.1.2 = cindex then none
        else rings.ringMembers.lookup k) ∧
      ∀ k, subRingCount.lookup k =
        if k.1.1 ∈ s.communities.communityIdentifiers ∧ k.1.2 = cindex then none
        else rings.subRingCount.lookup k := by
  unfold purgeRings
  generalize s.communities.communityIdentifiers = cids
  induction cids generalizing rings with
  | nil => exact ⟨rings.ringMembers, rings.subRingCount, rfl, by simp, by simp⟩
  | cons cid cids ih =>
      obtain ⟨ringMembers, subRingCount, hpurge, hmembers, hcount⟩ :=
        ih (purgeCommunityCeremonyRings (cid, cindex) rings)
      refine ⟨ringMembers, subRingCount, hpurge, ?_, ?_⟩
      · rintro ⟨⟨cid', cindex'⟩, k⟩
        rw [hmembers]
        simp only [purgeCommunityCeremonyRings, StorageMap.lookup_removePrefix, Prod.mk.injEq,
          List.mem_cons]
        grind
      · rintro ⟨⟨cid', cindex'⟩, k⟩
        rw [hcount]
        simp only [purgeCommunityCeremonyRings, StorageMap.lookup_removePrefix, Prod.mk.injEq,
          List.mem_cons]
        grind

/-! ## Steps -/

/-- The action takes a step of the pending computation. -/
def Computes : RingsAction AccountId → Prop
  | .continueRingComputation | .onIdleTurn => True
  | _ => False

instance : DecidablePred (@Computes AccountId)
  | .continueRingComputation | .onIdleTurn => inferInstanceAs (Decidable True)
  | .other _ | .registerBandersnatchKey .. | .initiateRings .. => inferInstanceAs (Decidable False)

/-- What a step of the chain does to the rings. -/
inductive RingsStep (config : RingsConfig AccountId) (s : Runtime AccountId)
    (rings : RingsStorage AccountId) (action : RingsAction AccountId) :
    RingsStorage AccountId → Prop where
  | unchanged : RingsStep config s rings action rings
  | register (who : AccountId) (key : BandersnatchPublicKey)
      (registers : action = .registerBandersnatchKey who key) :
      RingsStep config s rings action (registerBandersnatchKey rings who key)
  | queue (pendingCommunities : List CommunityIdentifier) (pendingCeremonyIndex : Nat) :
      RingsStep config s rings action { rings with
        pendingCommunities := pendingCommunities
        pendingCeremonyIndex := pendingCeremonyIndex }
  | purge (s' : Runtime AccountId) (cindex : Nat) :
      RingsStep config s rings action (purgeRings s' rings cindex)
  | start (pendingCommunities : List CommunityIdentifier) (community : CommunityIdentifier)
      (ceremonyIndex : Nat) (idle : rings.pendingRingComputation = none) :
      RingsStep config s rings action { rings with
        pendingCommunities := pendingCommunities
        pendingRingComputation := some ⟨community, ceremonyIndex, .collectingMembers 0, []⟩ }
  | collect (state : RingComputationState AccountId) (offset : Nat)
      (computes : Computes action) (pending : rings.pendingRingComputation = some state)
      (phase : state.phase = .collectingMembers offset) :
      RingsStep config s rings action { rings with
        pendingRingComputation := some (collectMembersStep config s rings state offset) }
  | build (state state' : RingComputationState AccountId) (level : Nat)
      (built : RingsStorage AccountId) (computes : Computes action)
      (pending : rings.pendingRingComputation = some state)
      (phase : state.phase = .buildingRing level)
      (builds : Builds config rings built state state' level) :
      RingsStep config s rings action (storeComputation built state')
  | finish (state : RingComputationState AccountId) (computes : Computes action)
      (pending : rings.pendingRingComputation = some state)
      (phase : state.phase = .done ∨ state.phase = .buildingRing 0) :
      RingsStep config s rings action { rings with pendingRingComputation := none }

theorem collectMembersStep_not_done (offset : Nat) :
    (collectMembersStep config s rings state offset).phase ≠ .done := by
  unfold collectMembersStep
  split
  · simp
  · simp only
    split <;> simp

theorem processComputationStep_step (action : RingsAction AccountId) (haction : Computes action)
    (hpending : rings.pendingRingComputation = some state)
    {result : Except RingError (RingComputationState AccountId)}
    (h : processComputationStep config s rings state = (rings', result)) :
    (∃ state', result = .ok state' ∧ (state.phase ≠ .done →
        RingsStep config s rings action (storeComputation rings' state'))) ∨
      result = .error .panicked := by
  unfold processComputationStep at h
  split at h
  · rename_i offset hphase
    cases h
    refine Or.inl ⟨_, rfl, fun _ => ?_⟩
    rw [storeComputation, if_neg (collectMembersStep_not_done offset)]
    exact .collect state offset haction hpending hphase
  · rename_i level hphase
    rcases buildRingStep_cases h with ⟨rfl, rfl, rfl⟩ | ⟨-, -, -, -, rfl⟩ | ⟨state', rfl, hbuilds⟩
    · exact Or.inl ⟨_, rfl, fun _ => .finish state haction hpending (Or.inr hphase)⟩
    · exact Or.inr rfl
    · exact Or.inl ⟨_, rfl, fun _ => .build state state' level rings' haction hpending hphase hbuilds⟩
  · rename_i hphase
    cases h
    exact Or.inl ⟨_, rfl, fun hnot => absurd hphase hnot⟩

theorem onIdleTurn_step (config : RingsConfig AccountId) (s : Runtime AccountId)
    (rings : RingsStorage AccountId) :
    RingsStep config s rings .onIdleTurn (onIdleTurn config s rings) := by
  unfold onIdleTurn
  split
  · rename_i state hpending
    split
    · rename_i hdone
      exact .finish state trivial hpending (Or.inl hdone)
    · rename_i hphase
      split
      · rename_i rings' state' hprocess
        rcases processComputationStep_step .onIdleTurn trivial hpending hprocess with
          ⟨_, hok, hstep⟩ | herror
        · cases hok
          exact hstep hphase
        · cases herror
      · exact .unchanged
      · rename_i rings' e hpanic hprocess
        rcases processComputationStep_step .onIdleTurn trivial hpending hprocess with
          ⟨_, hok, -⟩ | herror
        · cases hok
        · cases herror
          exact absurd rfl hpanic
  · rename_i hpending
    split
    · exact .unchanged
    · exact .start _ _ _ hpending

theorem initiateRings_step {community : CommunityIdentifier} {ceremonyIndex : Nat}
    (h : initiateRings s rings community ceremonyIndex = .ok rings') :
    RingsStep config s rings (.initiateRings community ceremonyIndex) rings' := by
  simp only [initiateRings, bind_eq_ok, ensure_eq_ok, ok_inj, exists_const] at h
  obtain ⟨-, hidle, -, -, rfl⟩ := h
  exact .start rings.pendingCommunities community ceremonyIndex (Option.isNone_iff_eq_none.1 hidle)

theorem continueRingComputation_step
    (h : continueRingComputation config s rings = .ok rings') :
    RingsStep config s rings .continueRingComputation rings' := by
  simp only [continueRingComputation, bind_eq_ok, okOr_eq_ok, ensure_eq_ok, exists_const] at h
  obtain ⟨state, hpending, hphase, state', hresult, h⟩ := h
  generalize hprocess : processComputationStep config s rings state = result at hresult h
  obtain ⟨built, result⟩ := result
  simp only at hresult h
  rcases processComputationStep_step .continueRingComputation trivial hpending hprocess with
    ⟨_, hok, hstep⟩ | herror
  · rw [hresult, ok_inj] at hok
    rw [ok_inj] at h
    subst hok h
    exact hstep hphase
  · rw [hresult] at herror
    cases herror

private theorem onCeremonyPhaseChange_step {action : RingsAction AccountId} (s' : Runtime AccountId)
    (newPhase : CeremonyPhaseType) :
    RingsStep config s rings action (onCeremonyPhaseChange s' rings newPhase) := by
  cases newPhase with
  | registering =>
      simp only [onCeremonyPhaseChange]
      split
      · exact .purge s' _
      · exact .unchanged
  | assigning =>
      simp only [onCeremonyPhaseChange]
      split
      · exact .unchanged
      · exact .queue _ _
  | attesting => exact .unchanged

end ReputationRings

namespace RingsChain

open ReputationRings

variable {AccountId : Type} [DecidableEq AccountId]

theorem step_rings (config : Config AccountId) (ringsConfig : RingsConfig AccountId)
    (s : RingsChain AccountId) (action : RingsAction AccountId) :
    RingsStep ringsConfig s.chain.runtime s.rings action
      (s.step config ringsConfig action).rings := by
  cases action with
  | other action =>
      simp only [step]
      split
      · exact .unchanged
      · exact onCeremonyPhaseChange_step _ _
  | registerBandersnatchKey who key => exact .register who key rfl
  | initiateRings community ceremonyIndex =>
      simp only [step]
      split
      · rename_i rings h
        exact initiateRings_step h
      · exact .unchanged
  | continueRingComputation =>
      simp only [step]
      split
      · rename_i rings h
        exact continueRingComputation_step h
      · exact .unchanged
  | onIdleTurn => exact onIdleTurn_step _ _ _

theorem step_computes (config : Config AccountId) {ringsConfig : RingsConfig AccountId}
    {s : RingsChain AccountId} {action : RingsAction AccountId} (haction : Computes action)
    {state state' : RingComputationState AccountId} {built : RingsStorage AccountId}
    (hpending : s.rings.pendingRingComputation = some state) (hphase : state.phase ≠ .done)
    (hprocess : processComputationStep ringsConfig s.chain.runtime s.rings state =
      (built, .ok state')) :
    (s.step config ringsConfig action).rings = storeComputation built state' := by
  cases action with
  | continueRingComputation =>
      simp [step, continueRingComputation, hpending, hphase, hprocess, okOr, ensure, bind,
        Except.bind]
  | onIdleTurn => simp [step, ReputationRings.onIdleTurn, hpending, hphase, hprocess]
  | _ => cases haction

theorem step_builds (config : Config AccountId) {ringsConfig : RingsConfig AccountId}
    {s : RingsChain AccountId} {action : RingsAction AccountId} (haction : Computes action)
    {state : RingComputationState AccountId} {level : Nat}
    (hpending : s.rings.pendingRingComputation = some state)
    (hphase : state.phase = .buildingRing level) (hlevel : 0 < level) :
    (ringsConfig.maxRingSize = 0 ∧
        eligibleKeys s.rings.bandersnatchKeys state.attendance level ≠ [] ∧
        (s.step config ringsConfig action).rings = s.rings) ∨
      ∃ built state', Builds ringsConfig s.rings built state state' level ∧
        (s.step config ringsConfig action).rings = storeComputation built state' := by
  have hnot : state.phase ≠ .done := by simp [hphase]
  have hprocess : processComputationStep ringsConfig s.chain.runtime s.rings state =
      buildRingStep ringsConfig s.rings state level := by
    rw [processComputationStep, hphase]
  generalize hbuild : buildRingStep ringsConfig s.rings state level = result at hprocess
  obtain ⟨built, result⟩ := result
  rcases buildRingStep_cases hbuild with ⟨hzero, -, -⟩ | ⟨-, hmax, heligible, rfl, rfl⟩ |
    ⟨state', rfl, hbuilds⟩
  · omega
  · refine Or.inl ⟨hmax, heligible, ?_⟩
    cases action with
    | continueRingComputation =>
        simp [step, continueRingComputation, hpending, hnot, hprocess, okOr, ensure, bind,
          Except.bind]
    | onIdleTurn => simp [step, ReputationRings.onIdleTurn, hpending, hnot, hprocess]
    | _ => cases haction
  · exact Or.inr ⟨built, state', hbuilds, step_computes config haction hpending hnot hprocess⟩

end RingsChain

end Encointer
