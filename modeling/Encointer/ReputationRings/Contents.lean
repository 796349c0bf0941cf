import Encointer.ReputationRings.Attendance

/-!
# What the rings contain

Eleven steps compute the rings of a ceremony: six collect the members, and five
build a level each. A level has the sorted keys of the accounts with enough
attendances, and is cut into sub-rings of almost the same size.
-/

namespace Encointer

namespace ReputationRings

variable {AccountId : Type} [DecidableEq AccountId] {config : Config AccountId}
  {ringsConfig : RingsConfig AccountId} {origin s : RingsChain AccountId}
  {rings rings' : RingsStorage AccountId} {state : RingComputationState AccountId}
  {cc : CommunityCeremony} {level num i : Nat} {members : List BandersnatchPublicKey}

/-! ## Sub-rings -/

def subRings (rings : RingsStorage AccountId) (cc : CommunityCeremony) (level : Nat) :
    List (List BandersnatchPublicKey) :=
  (List.range (rings.subRingCount.get (cc, level) 0)).map fun i =>
    rings.ringMembers.get (cc, level, i) []

/-- The even split into `num` sub-rings. -/
def splitEvenly (members : List BandersnatchPublicKey) (num : Nat) :
    List (List BandersnatchPublicKey) :=
  (List.range num).map (subRing members num)

/-- The sub-ring as machine words cut it: sizes are `u32`, and products of them `usize`. -/
def subRingWords (usizeBits : Nat) (members : List BandersnatchPublicKey) (num i : Nat) :
    List BandersnatchPublicKey :=
  let total := members.length % 2 ^ 32
  (members.take ((i + 1) % 2 ^ 32 * total % 2 ^ usizeBits / num)).drop
    (i % 2 ^ 32 * total % 2 ^ usizeBits / num)

private theorem length_subRing (hi : i < num) :
    (subRing members num i).length =
      (i + 1) * members.length / num - i * members.length / num := by
  have hend : (i + 1) * members.length / num ≤ members.length := by
    apply Nat.div_le_of_le_mul
    exact Nat.mul_le_mul_right _ hi
  rw [subRing, List.length_drop, List.length_take, Nat.min_eq_left hend]

theorem length_subRing_bounds (hi : i < num) :
    members.length / num ≤ (subRing members num i).length ∧
      (subRing members num i).length ≤ members.length / num + 1 := by
  have hpos : 0 < num := by omega
  rw [length_subRing hi, Nat.add_mul, Nat.one_mul]
  generalize i * members.length = before
  have hlow : before / num + members.length / num ≤ (before + members.length) / num :=
    Nat.div_add_div_le_add_div
  have hhigh : (before + members.length) / num ≤ before / num + members.length / num + 1 := by
    rw [Nat.add_div hpos]
    apply Nat.add_le_add_left
    split
    · exact Nat.le_refl 1
    · exact Nat.zero_le 1
  rw [Nat.add_assoc] at hhigh
  exact ⟨Nat.le_sub_of_add_le' hlow, Nat.sub_le_iff_le_add'.2 hhigh⟩

section

omit [DecidableEq AccountId]

/-- A level that is split fills at least half of every sub-ring. -/
theorem half_le_div (h : numSubRings ringsConfig members.length = some num) (hsplit : 1 < num) :
    (ringsConfig.maxRingSize + 1) / 2 ≤ members.length / num := by
  have hlast := (le_numSubRings_iff h num).1 le_rfl
  have hfull : (num - 1) * ringsConfig.maxRingSize < members.length :=
    hlast.resolve_left (by omega)
  rw [Nat.le_div_iff_mul_le (by omega)]
  obtain ⟨rest, rfl⟩ : ∃ rest, num = rest + 2 := ⟨num - 2, by omega⟩
  have hhalf : (ringsConfig.maxRingSize + 1) / 2 * 2 ≤ ringsConfig.maxRingSize + 1 :=
    Nat.div_mul_le_self _ 2
  have hle : (ringsConfig.maxRingSize + 1) / 2 ≤ ringsConfig.maxRingSize := by omega
  have hrest : (ringsConfig.maxRingSize + 1) / 2 * rest ≤ ringsConfig.maxRingSize * rest :=
    Nat.mul_le_mul_right rest hle
  have hfull : (rest + 1) * ringsConfig.maxRingSize < members.length := hfull
  calc (ringsConfig.maxRingSize + 1) / 2 * (rest + 2)
      = (ringsConfig.maxRingSize + 1) / 2 * rest + (ringsConfig.maxRingSize + 1) / 2 * 2 :=
        Nat.mul_add _ _ _
    _ ≤ ringsConfig.maxRingSize * rest + (ringsConfig.maxRingSize + 1) :=
        Nat.add_le_add hrest hhalf
    _ = (rest + 1) * ringsConfig.maxRingSize + 1 := by ring
    _ ≤ members.length := hfull

/-- There is no empty sub-ring, unless it is the only one. -/
theorem numSubRings_le (h : numSubRings ringsConfig members.length = some num) :
    num ≤ members.length ∨ num = 1 := by
  by_cases hsplit : 1 < num
  · left
    have hlast := (le_numSubRings_iff h num).1 le_rfl
    have hfull : (num - 1) * ringsConfig.maxRingSize < members.length :=
      hlast.resolve_left (by omega)
    have hmax : 0 < ringsConfig.maxRingSize := by
      by_contra hzero
      have hfits := numSubRings_le_mul h
      rw [Nat.eq_zero_of_not_pos hzero, Nat.mul_zero] at hfits
      omega
    have hmul := Nat.mul_le_mul_left (num - 1) hmax
    omega
  · right
    have hpos := numSubRings_pos h
    omega

theorem numSubRings_lt (h : numSubRings ringsConfig members.length = some num)
    (hsize : members.length < 2 ^ 32) : num < 2 ^ 32 := by
  rcases numSubRings_le h with hle | hone
  · omega
  · omega

theorem subRingWords_eq (h : numSubRings ringsConfig members.length = some num)
    (hsize : members.length < 2 ^ 32) {usizeBits : Nat}
    (hproduct : num * members.length < 2 ^ usizeBits) (hi : i < num) :
    subRingWords usizeBits members num i = subRing members num i := by
  have hnum := numSubRings_lt h hsize
  have hword (k : Nat) (hk : k ≤ num) :
      k % 2 ^ 32 * members.length % 2 ^ usizeBits = k * members.length := by
    have hlt : k < 2 ^ 32 := by omega
    rw [Nat.mod_eq_of_lt hlt]
    exact Nat.mod_eq_of_lt ((Nat.mul_le_mul_right _ hk).trans_lt hproduct)
  unfold subRingWords
  simp only [Nat.mod_eq_of_lt hsize]
  rw [hword (i + 1) hi, hword i hi.le, subRing]

theorem num_mul_length_lt (h : numSubRings ringsConfig members.length = some num)
    (hsize : members.length < 2 ^ 32) : num * members.length < 2 ^ 64 := by
  calc num * members.length < 2 ^ 32 * 2 ^ 32 :=
        Nat.mul_lt_mul_of_lt_of_lt (numSubRings_lt h hsize) hsize
    _ = 2 ^ 64 := by norm_num

end

/-! ## The ring of a level -/

/-- Keys are compared as the numbers that their bytes write. -/
theorem keyLe_total (a b : BandersnatchPublicKey) : keyLe a b = true ∨ keyLe b a = true := by
  unfold keyLe
  rw [decide_eq_true_iff, decide_eq_true_iff]
  exact le_total _ _

private theorem keyLe_trans (a b c : BandersnatchPublicKey) (hab : keyLe a b = true)
    (hbc : keyLe b c = true) : keyLe a c = true := by
  unfold keyLe at hab hbc ⊢
  rw [decide_eq_true_iff] at hab hbc ⊢
  exact le_trans hab hbc

/-- The members of a level, as the step that builds it sorts them. -/
def levelMembers (rings : RingsStorage AccountId) (attendance : List (AccountId × Nat))
    (level : Nat) : List BandersnatchPublicKey :=
  (eligibleKeys rings.bandersnatchKeys attendance level).insertionSort fun a b => keyLe a b = true

theorem levelMembers_sorted (rings : RingsStorage AccountId)
    (attendance : List (AccountId × Nat)) (level : Nat) :
    (levelMembers rings attendance level).Pairwise fun a b => keyLe a b = true := by
  have : Std.Total fun a b : BandersnatchPublicKey => keyLe a b = true := ⟨keyLe_total⟩
  have : IsTrans BandersnatchPublicKey fun a b => keyLe a b = true := ⟨keyLe_trans⟩
  exact List.pairwise_insertionSort _ _

/--
The sub-rings of a level: sorted keys of exactly the members, cut evenly. Machine words compute
them if the products of sizes fit, as they do in 64 bits.
-/
structure RingOf (ringsConfig : RingsConfig AccountId) (origin : RingsChain AccountId)
    (cc : CommunityCeremony) (level : Nat) (chunks : List (List BandersnatchPublicKey)) :
    Prop where
  members : chunks.flatten.Perm (levelKeys origin cc level)
  sorted : chunks.flatten.Pairwise fun a b => keyLe a b = true
  even : ∀ a ∈ chunks, ∀ b ∈ chunks, a.length ≤ b.length + 1
  bounded : ∀ a ∈ chunks, a.length ≤ ringsConfig.maxRingSize
  half : 1 < chunks.length → ∀ a ∈ chunks, (ringsConfig.maxRingSize + 1) / 2 ≤ a.length
  count : numSubRings ringsConfig (chunks.flatten.length % 2 ^ 32) = some chunks.length
  products : chunks.length * chunks.flatten.length < 2 ^ 64
  words : ∀ usizeBits, chunks.length * chunks.flatten.length < 2 ^ usizeBits →
    chunks = (List.range chunks.length).map
      (subRingWords usizeBits chunks.flatten chunks.length)

private theorem flatten_splitEvenly (members : List BandersnatchPublicKey) (hnum : 0 < num) :
    (splitEvenly members num).flatten = members := by
  rw [splitEvenly, ← List.flatMap_def, subRings_flatMap members hnum]

theorem mem_splitEvenly {chunk : List BandersnatchPublicKey} :
    chunk ∈ splitEvenly members num ↔ ∃ i, i < num ∧ subRing members num i = chunk := by
  simp only [splitEvenly, List.mem_map, List.mem_range]

theorem ringOf_splitEvenly (hperm : members.Perm (levelKeys origin cc level))
    (hsorted : members.Pairwise fun a b => keyLe a b = true)
    (hnum : numSubRings ringsConfig members.length = some num)
    (hsize : members.length < 2 ^ 32) :
    RingOf ringsConfig origin cc level (splitEvenly members num) := by
  have hflatten := flatten_splitEvenly members (numSubRings_pos hnum)
  have hlength : (splitEvenly members num).length = num := by
    rw [splitEvenly, List.length_map, List.length_range]
  constructor
  · rw [hflatten]
    exact hperm
  · rw [hflatten]
    exact hsorted
  · intro a ha b hb
    obtain ⟨i, hi, rfl⟩ := mem_splitEvenly.1 ha
    obtain ⟨j, hj, rfl⟩ := mem_splitEvenly.1 hb
    exact (length_subRing_bounds hi).2.trans
      (Nat.add_le_add_right (length_subRing_bounds hj).1 1)
  · intro a ha
    obtain ⟨i, -, rfl⟩ := mem_splitEvenly.1 ha
    exact subRing_length_le hnum i
  · intro hsplit a ha
    rw [hlength] at hsplit
    obtain ⟨i, hi, rfl⟩ := mem_splitEvenly.1 ha
    exact (half_le_div hnum hsplit).trans (length_subRing_bounds hi).1
  · rw [hflatten, hlength, Nat.mod_eq_of_lt hsize]
    exact hnum
  · rw [hflatten, hlength]
    exact num_mul_length_lt hnum hsize
  · intro usizeBits hproduct
    rw [hflatten, hlength] at hproduct ⊢
    apply List.map_congr_left
    intro i hi
    exact (subRingWords_eq hnum hsize hproduct (List.mem_range.1 hi)).symm

/-! ## What a step computes -/

section

omit [DecidableEq AccountId]

theorem subRings_congr (hmembers : ∀ i, rings'.ringMembers.lookup (cc, level, i) =
      rings.ringMembers.lookup (cc, level, i))
    (hcount : rings'.subRingCount.lookup (cc, level) = rings.subRingCount.lookup (cc, level)) :
    subRings rings' cc level = subRings rings cc level := by
  simp only [subRings, StorageMap.get, hmembers, hcount]

private theorem numSubRings_of_pos (hmax : 0 < ringsConfig.maxRingSize) (total : Nat) :
    ∃ num, numSubRings ringsConfig total = some num := by
  unfold numSubRings
  split
  · exact ⟨1, rfl⟩
  · rw [if_neg (by omega)]
    exact ⟨_, rfl⟩

private theorem subRings_published
    {ringMembers : StorageMap (CommunityCeremony × Nat × Nat) (List BandersnatchPublicKey)}
    (hlookup : ∀ k, ringMembers.lookup k =
      if k.1 = cc ∧ k.2.1 = level ∧ k.2.2 ∈ List.range num then
        some (subRing members num k.2.2)
      else rings.ringMembers.lookup k) (cc' : CommunityCeremony) (level' : Nat) :
    subRings { rings with
        ringMembers := ringMembers
        subRingCount := rings.subRingCount.insert (cc, level) num } cc' level' =
      if cc' = cc ∧ level' = level then splitEvenly members num else subRings rings cc' level' := by
  by_cases hsame : cc' = cc ∧ level' = level
  · obtain ⟨rfl, rfl⟩ := hsame
    rw [if_pos ⟨rfl, rfl⟩, subRings, splitEvenly]
    simp only
    rw [StorageMap.get_insert, if_pos rfl]
    apply List.map_congr_left
    intro i hi
    rw [StorageMap.get, hlookup, if_pos ⟨rfl, rfl, hi⟩, Option.getD_some]
  · rw [if_neg hsame]
    apply subRings_congr
    · intro i
      rw [hlookup, if_neg fun h => hsame ⟨h.1, h.2.1⟩]
    · rw [StorageMap.lookup_insert_eq, if_neg fun h => hsame (Prod.mk.inj h)]

end

theorem buildRingStep_eq (hmax : 0 < ringsConfig.maxRingSize) (hlevel : 0 < level)
    (rings : RingsStorage AccountId) (state : RingComputationState AccountId) :
    ∃ built num,
      numSubRings ringsConfig (levelMembers rings state.attendance level).length = some num ∧
      buildRingStep ringsConfig rings state level = (built, .ok { state with
        phase := if level = 1 then .done else .buildingRing (level - 1) }) ∧
      ∀ cc' level', subRings built cc' level' =
        if cc' = (state.community, state.ceremonyIndex) ∧ level' = level then
          splitEvenly (levelMembers rings state.attendance level) num
        else subRings rings cc' level' := by
  obtain ⟨num, hnum⟩ := numSubRings_of_pos hmax
    (levelMembers rings state.attendance level).length
  obtain ⟨ringMembers, hpublish, hlookup⟩ := publishSubRings_eq
    (state.community, state.ceremonyIndex) level (subRing_length_le hnum) (List.range num) rings
  refine ⟨{ rings with
      ringMembers := ringMembers
      subRingCount :=
        rings.subRingCount.insert ((state.community, state.ceremonyIndex), level) num },
    num, hnum, ?_, subRings_published hlookup⟩
  unfold levelMembers at hnum hpublish
  rw [buildRingStep, if_neg (by omega)]
  simp only [hnum, hpublish]

theorem ringTooLarge_unreachable (ringsConfig : RingsConfig AccountId) (s : Runtime AccountId)
    (rings : RingsStorage AccountId) (state : RingComputationState AccountId) :
    (processComputationStep ringsConfig s rings state).2 ≠ .error .ringTooLarge := by
  unfold processComputationStep
  split
  · simp
  · rename_i level hphase
    generalize hbuild : buildRingStep ringsConfig rings state level = result
    obtain ⟨built, result⟩ := result
    rcases buildRingStep_cases hbuild with ⟨-, -, rfl⟩ | ⟨-, -, -, -, rfl⟩ | ⟨state', rfl, -⟩
    · simp
    · simp
    · simp
  · simp

/-! ## The stages of a computation -/

/-- The steps of a computation: one for each ceremony, one that sorts, and one for each level. -/
def totalSteps : Nat := 2 * maxReputationLevels + 1

def phaseAfter (steps : Nat) : RingComputationPhase :=
  if steps ≤ maxReputationLevels then .collectingMembers steps
  else .buildingRing (totalSteps - steps)

/-- The computation that is pending after some of its steps. -/
structure PendingAfter (origin : RingsChain AccountId) (cc : CommunityCeremony) (steps : Nat)
    (state : RingComputationState AccountId) : Prop where
  ceremony : (state.community, state.ceremonyIndex) = cc
  phase : state.phase = phaseAfter steps
  counted : Counted origin cc (min steps maxReputationLevels) state.attendance

/-- What is known after some steps: the attendance so far, and the levels that are built. -/
structure Stage (ringsConfig : RingsConfig AccountId) (origin : RingsChain AccountId)
    (cc : CommunityCeremony) (rings : RingsStorage AccountId) (steps : Nat) : Prop where
  pending : steps < totalSteps →
    ∃ state, rings.pendingRingComputation = some state ∧ PendingAfter origin cc steps state
  done : totalSteps ≤ steps → rings.pendingRingComputation = none
  built : ∀ level, totalSteps - steps < level → level ≤ maxReputationLevels →
    RingOf ringsConfig origin cc level (subRings rings cc level)

theorem collectMembersStep_pending {steps : Nat} (hsame : Unchanged origin cc s)
    (hsteps : steps ≤ maxReputationLevels) (h : PendingAfter origin cc steps state) :
    PendingAfter origin cc (steps + 1)
      (collectMembersStep ringsConfig s.chain.runtime s.rings state steps) := by
  obtain ⟨rfl, -, hcounted⟩ := h
  rw [Nat.min_eq_left hsteps] at hcounted
  unfold collectMembersStep
  by_cases hlast : maxReputationLevels ≤ steps
  · have hfive : steps = maxReputationLevels := by omega
    rw [if_pos hlast, hfive]
    rw [hfive] at hcounted
    exact ⟨rfl, rfl, hcounted.perm (List.perm_insertionSort _ _)⟩
  · have hphase : RingComputationPhase.collectingMembers (steps + 1) = phaseAfter (steps + 1) := by
      rw [phaseAfter, if_pos (by omega)]
    rw [if_neg hlast]
    simp only
    by_cases hzero : state.ceremonyIndex - steps = 0
    · rw [if_pos hzero]
      refine ⟨rfl, hphase, ?_⟩
      rw [Nat.min_eq_left (by omega)]
      exact hcounted.skip hzero
    · rw [if_neg hzero]
      refine ⟨rfl, hphase, ?_⟩
      rw [Nat.min_eq_left (by omega)]
      exact hcounted.scan hsame (by omega) (Nat.pos_of_ne_zero hzero)

/-- The level that is built has the members that the attendance says. -/
theorem ringOf_built (hsame : Unchanged origin cc s)
    (hpopulation : origin.rings.bandersnatchKeys.entries.length < 2 ^ 32)
    (hcounted : Counted origin cc maxReputationLevels state.attendance) (hlevel : 0 < level)
    (hnum : numSubRings ringsConfig (levelMembers s.rings state.attendance level).length =
      some num) :
    RingOf ringsConfig origin cc level
      (splitEvenly (levelMembers s.rings state.attendance level) num) := by
  have hperm : (levelMembers s.rings state.attendance level).Perm (levelKeys origin cc level) :=
    (List.perm_insertionSort _ _).trans (hcounted.eligibleKeys_perm hsame hlevel)
  have hsize : (levelMembers s.rings state.attendance level).length < 2 ^ 32 := by
    rw [hperm.length_eq, levelKeys, List.length_map]
    exact (List.length_filter_le _ _).trans_lt hpopulation
  exact ringOf_splitEvenly hperm (levelMembers_sorted s.rings state.attendance level) hnum hsize

omit [DecidableEq AccountId] in
theorem subRings_storeComputation (cc : CommunityCeremony) (level : Nat) :
    subRings (storeComputation rings state) cc level = subRings rings cc level := by
  rw [subRings, storeComputation_ringMembers, storeComputation_subRingCount, subRings]

omit [DecidableEq AccountId] in
theorem pendingRingComputation_storeComputation (hphase : state.phase ≠ .done) :
    (storeComputation rings state).pendingRingComputation = some state := by
  rw [storeComputation, if_neg hphase]

namespace Stage

variable {action : RingsAction AccountId} {steps : Nat} (config)

theorem start (ringsConfig : RingsConfig AccountId) (hstart : origin.rings.pendingRingComputation =
      some ⟨cc.1, cc.2, .collectingMembers 0, []⟩) :
    Stage ringsConfig origin cc origin.rings 0 := by
  constructor
  · intro _
    exact ⟨_, hstart, rfl, rfl, Counted.nil origin cc⟩
  · intro hdone
    cases hdone
  · intro level hlevel hle
    have htotal : totalSteps = 2 * maxReputationLevels + 1 := rfl
    omega

theorem collect (h : Stage ringsConfig origin cc s.rings steps)
    (hmax : steps ≤ maxReputationLevels) (hsame : Unchanged origin cc s) (haction : Computes action) :
    Stage ringsConfig origin cc (s.step config ringsConfig action).rings (steps + 1) := by
  have htotal : totalSteps = 2 * maxReputationLevels + 1 := rfl
  have hlevels : maxReputationLevels = 5 := rfl
  obtain ⟨state, hpending, hstate⟩ := h.pending (by omega)
  have hcollecting : state.phase = .collectingMembers steps := by
    rw [hstate.phase, phaseAfter, if_pos hmax]
  have hprocess : processComputationStep ringsConfig s.chain.runtime s.rings state =
      (s.rings, .ok (collectMembersStep ringsConfig s.chain.runtime s.rings state steps)) := by
    rw [processComputationStep, hcollecting]
  have hnot : state.phase ≠ .done := by simp [hcollecting]
  rw [RingsChain.step_computes config haction hpending hnot hprocess]
  constructor
  · intro _
    exact ⟨_, pendingRingComputation_storeComputation (collectMembersStep_not_done steps),
      collectMembersStep_pending hsame hmax hstate⟩
  · intro hdone
    omega
  · intro level hlevel hle
    omega

theorem build (h : Stage ringsConfig origin cc s.rings steps) (hmax : 0 < ringsConfig.maxRingSize)
    (hpopulation : origin.rings.bandersnatchKeys.entries.length < 2 ^ 32)
    (hcollected : maxReputationLevels < steps) (hsteps : steps < totalSteps)
    (hsame : Unchanged origin cc s)
    (haction : Computes action) :
    Stage ringsConfig origin cc (s.step config ringsConfig action).rings (steps + 1) := by
  obtain ⟨state, hpending, hstate⟩ := h.pending hsteps
  have hcounted := hstate.counted
  rw [Nat.min_eq_right hcollected.le] at hcounted
  have hbuilding : state.phase = .buildingRing (totalSteps - steps) := by
    rw [hstate.phase, phaseAfter, if_neg (by omega)]
  have hlevel : 0 < totalSteps - steps := by omega
  obtain ⟨built, num, hnum, hbuild, hsubRings⟩ := buildRingStep_eq hmax hlevel s.rings state
  have hprocess : processComputationStep ringsConfig s.chain.runtime s.rings state =
      buildRingStep ringsConfig s.rings state (totalSteps - steps) := by
    rw [processComputationStep, hbuilding]
  have hnot : state.phase ≠ .done := by simp [hbuilding]
  rw [hbuild] at hprocess
  rw [RingsChain.step_computes config haction hpending hnot hprocess]
  constructor
  · intro hnext
    have hphase : (if totalSteps - steps = 1 then RingComputationPhase.done
        else .buildingRing (totalSteps - steps - 1)) = phaseAfter (steps + 1) := by
      have hafter : phaseAfter (steps + 1) = .buildingRing (totalSteps - (steps + 1)) := by
        rw [phaseAfter, if_neg (by omega)]
      rw [hafter, if_neg (by omega), Nat.sub_sub]
    refine ⟨_, pendingRingComputation_storeComputation ?_, hstate.ceremony, hphase, ?_⟩
    · rw [if_neg (by omega)]
      simp
    · rw [Nat.min_eq_right (by omega)]
      exact hcounted
  · intro hlast
    rw [if_pos (by omega), storeComputation, if_pos rfl]
  · intro level hlt hle
    rw [subRings_storeComputation, hsubRings, hstate.ceremony]
    by_cases hnow : level = totalSteps - steps
    · rw [if_pos ⟨rfl, hnow⟩, hnow]
      exact ringOf_built hsame hpopulation hcounted hlevel hnum
    · rw [if_neg fun hbuilt => hnow hbuilt.2]
      exact h.built level (by omega) hle

theorem compute (h : Stage ringsConfig origin cc s.rings steps)
    (hmax : 0 < ringsConfig.maxRingSize)
    (hpopulation : origin.rings.bandersnatchKeys.entries.length < 2 ^ 32)
    (hsteps : steps < totalSteps) (hsame : Unchanged origin cc s) (haction : Computes action) :
    Stage ringsConfig origin cc (s.step config ringsConfig action).rings (steps + 1) := by
  by_cases hcollecting : steps ≤ maxReputationLevels
  · exact h.collect config hcollecting hsame haction
  · exact h.build config hmax hpopulation (by omega) hsteps hsame haction

end Stage

/-! ## Other actions -/

/-- The registering phase starts, and the rings of the ceremony are purged. -/
def Purges (config : Config AccountId) (cc : CommunityCeremony) (s : RingsChain AccountId) :
    RingsAction AccountId → Prop
  | .other action =>
      let after := (s.chain.step config action).runtime
      after.scheduler.currentPhase ≠ s.chain.runtime.scheduler.currentPhase ∧
        after.scheduler.currentPhase = .registering ∧
        after.ceremonies.reputationLifetime < after.scheduler.currentCeremonyIndex ∧
        cc.1 ∈ after.communities.communityIdentifiers ∧
        cc.2 = after.scheduler.currentCeremonyIndex - after.ceremonies.reputationLifetime - 1
  | _ => False

omit [DecidableEq AccountId] in
private theorem subRings_purgeRings (runtime : Runtime AccountId) (rings : RingsStorage AccountId)
    (cindex : Nat) (hother : ¬ (cc.1 ∈ runtime.communities.communityIdentifiers ∧ cc.2 = cindex))
    (level : Nat) : subRings (purgeRings runtime rings cindex) cc level = subRings rings cc level := by
  obtain ⟨ringMembers, subRingCount, hpurge, hmembers, hcount⟩ := purgeRings_eq runtime rings cindex
  rw [hpurge]
  apply subRings_congr
  · intro i
    rw [hmembers, if_neg hother]
  · rw [hcount, if_neg hother]

omit [DecidableEq AccountId] in
private theorem pendingRingComputation_purgeRings (runtime : Runtime AccountId)
    (rings : RingsStorage AccountId) (cindex : Nat) :
    (purgeRings runtime rings cindex).pendingRingComputation = rings.pendingRingComputation := by
  obtain ⟨ringMembers, subRingCount, hpurge, -, -⟩ := purgeRings_eq runtime rings cindex
  rw [hpurge]

private theorem step_other (ringsConfig : RingsConfig AccountId) {action : RingsAction AccountId}
    (hnot : ¬ Computes action) (hkept : ¬ Purges config cc s action)
    (hpending : s.rings.pendingRingComputation = some state) :
    (s.step config ringsConfig action).rings.pendingRingComputation = some state ∧
      ∀ level, subRings (s.step config ringsConfig action).rings cc level =
        subRings s.rings cc level := by
  cases action with
  | other action =>
      simp only [RingsChain.step]
      split
      · exact ⟨hpending, fun level => rfl⟩
      · rename_i hchanged
        unfold onCeremonyPhaseChange
        split
        · simp only
          split
          · exact ⟨hpending, fun level => rfl⟩
          · exact ⟨hpending, fun level => rfl⟩
        · rename_i hregistering
          simp only
          split
          · rename_i hold
            rw [pendingRingComputation_purgeRings]
            refine ⟨hpending, subRings_purgeRings _ _ _ ?_⟩
            intro hpurged
            exact hkept ⟨hchanged, hregistering, hold, hpurged.1, hpurged.2⟩
          · exact ⟨hpending, fun level => rfl⟩
        · exact ⟨hpending, fun level => rfl⟩
  | registerBandersnatchKey who key => exact ⟨hpending, fun level => rfl⟩
  | initiateRings community ceremonyIndex =>
      simp only [RingsChain.step]
      split
      · rename_i rings hstarted
        simp only [initiateRings, bind_eq_ok, ensure_eq_ok, ok_inj, exists_const] at hstarted
        rw [hpending] at hstarted
        cases hstarted.2.1
      · exact ⟨hpending, fun level => rfl⟩
  | continueRingComputation => exact absurd trivial hnot
  | onIdleTurn => exact absurd trivial hnot

theorem Stage.other {action : RingsAction AccountId} {steps : Nat} (hsteps : steps < totalSteps)
    (h : Stage ringsConfig origin cc s.rings steps) (hnot : ¬ Computes action)
    (hkept : ¬ Purges config cc s action) :
    Stage ringsConfig origin cc (s.step config ringsConfig action).rings steps := by
  obtain ⟨state, hpending, hstate⟩ := h.pending hsteps
  obtain ⟨hpending', hsubRings⟩ := step_other ringsConfig hnot hkept hpending
  constructor
  · intro _
    exact ⟨state, hpending', hstate⟩
  · intro hdone
    omega
  · intro level hlevel hle
    rw [hsubRings]
    exact h.built level hlevel hle

/-! ## Runs -/

/-- Keys and reputations stay as they were, and the rings of the ceremony are not purged. -/
structure Undisturbed (config : Config AccountId) (origin : RingsChain AccountId)
    (cc : CommunityCeremony) (s : RingsChain AccountId) (action : RingsAction AccountId) :
    Prop where
  unchanged : Unchanged origin cc s
  kept : ¬ Purges config cc s action

/--
The eleventh step of a computation finishes it, whatever else happens between the steps as long as
keys and reputations stay. Each level then is the ring of its members, and none is too large.
-/
theorem rings_computed (config : Config AccountId) (ringsConfig : RingsConfig AccountId)
    (hmax : 0 < ringsConfig.maxRingSize) (origin : RingsChain AccountId) (cc : CommunityCeremony)
    (hpopulation : origin.rings.bandersnatchKeys.entries.length < 2 ^ 32)
    (hstart : origin.rings.pendingRingComputation =
      some ⟨cc.1, cc.2, .collectingMembers 0, []⟩)
    (before : List (RingsAction AccountId)) (last : RingsAction AccountId) (hlast : Computes last)
    (hsteps : (before ++ [last]).countP (fun action => Computes action) = 11)
    (hundisturbed : Machine.Along (RingsChain.step config ringsConfig)
      (Undisturbed config origin cc) origin (before ++ [last])) :
    let computed := (Machine.run (RingsChain.step config ringsConfig) origin
      (before ++ [last])).rings
    computed.pendingRingComputation = none ∧
      (∀ level, 0 < level → level ≤ maxReputationLevels →
        RingOf ringsConfig origin cc level (subRings computed cc level)) ∧
      ∀ (s : Runtime AccountId) rings state,
        (processComputationStep ringsConfig s rings state).2 ≠ .error .ringTooLarge := by
  intro computed
  have hten : before.countP (fun action => Computes action) = 10 := by
    rw [List.countP_append, List.countP_singleton, decide_eq_true hlast] at hsteps
    simpa using hsteps
  rw [Machine.Along.append] at hundisturbed
  have hstage := Machine.tally_invariant (Undisturbed config origin cc)
    (fun _ action => if decide (Computes action) then 1 else 0)
    (fun s n => n < totalSteps → Stage ringsConfig origin cc s.rings n) ?_
    (fun _ => Stage.start ringsConfig hstart) hundisturbed.1
  · rw [Machine.tally_countP, hten, Nat.zero_add] at hstage
    have hdone := (hstage (by decide)).compute config hmax hpopulation (by decide)
      hundisturbed.2.1.unchanged hlast
    have hcomputed : Stage ringsConfig origin cc computed totalSteps := by
      unfold computed
      rw [Machine.run_concat]
      exact hdone
    refine ⟨hcomputed.done le_rfl, ?_, ringTooLarge_unreachable ringsConfig⟩
    intro level hlevel hle
    exact hcomputed.built level (by omega) hle
  · intro s action n hinv hok hlt
    by_cases haction : Computes action
    · rw [if_pos (decide_eq_true haction)] at hlt ⊢
      exact (hinv (by omega)).compute config hmax hpopulation (by omega) hok.unchanged haction
    · rw [if_neg (by simpa using haction)] at hlt ⊢
      exact (hinv hlt).other hlt haction hok.kept

/-! ## Steps without anything in between -/

private theorem bandersnatchKeys_computes {action : RingsAction AccountId}
    (haction : Computes action)
    (hstep : RingsStep ringsConfig s.chain.runtime rings action rings') :
    rings'.bandersnatchKeys = rings.bandersnatchKeys := by
  cases hstep with
  | unchanged => rfl
  | register who key registers =>
      subst registers
      cases haction
  | queue pendingCommunities pendingCeremonyIndex => rfl
  | purge s' cindex =>
      obtain ⟨ringMembers, subRingCount, hpurge, -, -⟩ := purgeRings_eq s' rings cindex
      rw [hpurge]
  | start pendingCommunities community ceremonyIndex idle => rfl
  | collect state offset computes pending phase => rfl
  | build state state' level built computes pending phase builds =>
      obtain ⟨-, -, -, -, -, -, rfl⟩ := builds.written
      rw [storeComputation_bandersnatchKeys]
  | finish state computes pending phase => rfl

/-- Computing steps do not disturb the computation. -/
theorem undisturbed_of_computes (config : Config AccountId) (ringsConfig : RingsConfig AccountId)
    (cc : CommunityCeremony) {actions : List (RingsAction AccountId)}
    (hcomputes : ∀ action ∈ actions, Computes action) (hsame : Unchanged origin cc s) :
    Machine.Along (RingsChain.step config ringsConfig) (Undisturbed config origin cc) s
      actions := by
  induction actions generalizing s with
  | nil => trivial
  | cons action rest ih =>
      have haction := hcomputes action List.mem_cons_self
      have hkept : ¬ Purges config cc s action := by
        intro hpurges
        cases action with
        | other action => cases haction
        | _ => cases hpurges
      have hchain : (s.step config ringsConfig action).chain = s.chain := by
        cases action with
        | continueRingComputation =>
            simp only [RingsChain.step]
            split <;> rfl
        | onIdleTurn => rfl
        | _ => cases haction
      have hkeys := bandersnatchKeys_computes haction (s.step_rings config ringsConfig action)
      refine ⟨⟨hsame, hkept⟩, ih (fun action hmem => hcomputes action (List.mem_cons_of_mem _ hmem))
        ⟨?_, ?_⟩⟩
      · intro account
        rw [hkeys]
        exact hsame.keys account
      · intro account cindex hle hlt
        rw [verifiedAt, hchain]
        exact hsame.verified account cindex hle hlt

end ReputationRings

namespace Demo

/-- The first ceremony of the islanders is over, and its rings are about to be computed. -/
def beforeRings : RingsChain Nat :=
  Machine.run (RingsChain.step runtimeConfig ringsConfig) (RingsChain.genesis start)
    ((firstCeremony ++ [newDay 4, newDay 5]).map .other ++
      [.registerBandersnatchKey 1 (key 1), .registerBandersnatchKey 2 (key 2),
        .registerBandersnatchKey 3 (key 3)] ++ turns 1)

end Demo

theorem Demo.beforeRings_pending : beforeRings.rings.pendingRingComputation =
    some ⟨islanders, 1, .collectingMembers 0, []⟩ := by
  have hfields : beforeRings.rings.pendingRingComputation.map (fun state =>
      (state.community, state.ceremonyIndex, state.phase, state.attendance)) =
      some (islanders, 1, .collectingMembers 0, []) := by decide +kernel
  obtain ⟨state, hstate, hfields⟩ := Option.map_eq_some_iff.1 hfields
  cases state
  cases hfields
  exact hstate

/-- Three members in sub-rings of at most two keys. -/
theorem ReputationRings.rings_computed_islanders :
    let computed := (Machine.run (RingsChain.step Demo.runtimeConfig Demo.ringsConfig)
      Demo.beforeRings (Demo.turns 10 ++ [.onIdleTurn])).rings
    subRings computed (Demo.islanders, 1) 1 = [[Demo.key 1], [Demo.key 2, Demo.key 3]] ∧
      computed.pendingRingComputation = none ∧
      (∀ level, 0 < level → level ≤ maxReputationLevels →
        RingOf Demo.ringsConfig Demo.beforeRings (Demo.islanders, 1) level
          (subRings computed (Demo.islanders, 1) level)) ∧
      ∀ (s : Runtime Nat) rings state,
        (processComputationStep Demo.ringsConfig s rings state).2 ≠ .error .ringTooLarge := by
  have hcomputes : ∀ action ∈ Demo.turns 10 ++ [.onIdleTurn], Computes action := by decide
  exact ⟨by decide +kernel, rings_computed Demo.runtimeConfig Demo.ringsConfig (by decide)
    Demo.beforeRings (Demo.islanders, 1) (by decide +kernel) Demo.beforeRings_pending
    (Demo.turns 10) .onIdleTurn trivial (by decide)
    (undisturbed_of_computes _ _ _ hcomputes (Unchanged.refl _ _))⟩

end Encointer
