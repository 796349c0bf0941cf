import Mathlib.Algebra.Order.Floor.Div
import Mathlib.Data.Int.CardIntervalMod
import Encointer.Assignment.Partition

/-!
# Participants are spread evenly

The participants below the prime take every residue once, so the meetups share them
evenly. The parameters are accepted only if the participants from the prime on are
shared evenly too.
-/

namespace Encointer.Assignment

open Checked

/-! ## Shares of a range -/

theorem countP_mod_range {m k j : Nat} (hj : j < k) :
    m / k ≤ (List.range m).countP (fun r => r % k = j) ∧
      (List.range m).countP (fun r => r % k = j) ≤ m ⌈/⌉ k := by
  have hk : 0 < k := by omega
  have hcount : (List.range m).countP (fun r => r % k = j) =
      m / k + if j % k < m % k then 1 else 0 := by
    rw [← Nat.count_modEq_card m hk j, Nat.count]
    apply List.countP_congr
    intro r _
    simp only [Nat.ModEq, Nat.mod_eq_of_lt hj]
  have hceil : m ≤ k * (m ⌈/⌉ k) := le_smul_ceilDiv hk
  have hdiv := Nat.div_add_mod m k
  rw [hcount]
  constructor
  · exact Nat.le_add_right _ _
  · split_ifs with hrest
    · have hlt : k * (m / k) < k * (m ⌈/⌉ k) := by omega
      exact Nat.lt_of_mul_lt_mul_left hlt
    · rw [Nat.add_zero]
      have hle : m ⌊/⌋ k ≤ m ⌈/⌉ k := floorDiv_le_ceilDiv
      exact hle

theorem checkedCeilDivision_getD_le (a : Nat) {k : Nat} (hk : 0 < k) :
    (checkedCeilDivision a k).getD 0 ≤ a ⌈/⌉ k := by
  have hnonzero : k ≠ 0 := by omega
  unfold checkedCeilDivision addU64
  by_cases hlt : a + k < 2 ^ 64
  · rw [toU64_of_lt hlt, Option.bind_eq_bind, Option.bind_some,
      subU64_of_le (show 1 ≤ a + k by omega), Option.bind_some,
      if_neg hnonzero, Option.getD_some, Nat.ceilDiv_eq_add_pred_div]
  · rw [toU64, if_neg hlt, Option.bind_eq_bind, Option.bind_none, Option.getD_none]
    exact Nat.zero_le _

/-! ## The participants of a meetup -/

def participantCount (params : AssignmentParams) (meetupCount meetup : Nat)
    (participants : List Nat) : Nat :=
  participants.countP fun p => assignmentFn p params meetupCount = some meetup

section Valid

variable {params : AssignmentParams} {n k k' j : Nat} (h : params.Valid n k')

include h

/-- The participants below the prime take every residue once. -/
theorem map_residue_perm : ((List.range params.m).map params.residue).Perm
    (List.range params.m) := by
  have hnodup : ((List.range params.m).map params.residue).Nodup := by
    apply List.Nodup.map_on _ List.nodup_range
    intro p hp q hq heq
    exact eq_of_residue_eq h (List.mem_range.1 hp) (List.mem_range.1 hq) heq
  apply (List.subperm_of_subset hnodup ?_).perm_of_length_le
  · rw [List.length_map]
  · intro r hr
    obtain ⟨p, -, rfl⟩ := List.mem_map.1 hr
    exact List.mem_range.2 (residue_lt h p)

theorem participantCount_range (hle : params.m ≤ n) (hj : j < k) :
    params.m / k ≤ participantCount params k j (List.range params.m) ∧
      participantCount params k j (List.range params.m) ≤ params.m ⌈/⌉ k := by
  have hresidues : participantCount params k j (List.range params.m) =
      (List.range params.m).countP fun r => r % k = j := by
    rw [← (map_residue_perm h).countP_eq, List.countP_map]
    apply List.countP_congr
    intro p hp
    have hlt := List.mem_range.1 hp
    rw [assignmentFn_residue h (by omega) (by omega)]
    simp
  rw [hresidues]
  exact countP_mod_range hj

end Valid

/-! ## The check -/

theorem equalMappingLoop_le {params : AssignmentParams} {k countMax j : Nat}
    (participants : List Nat) {counts : List Nat} (hj : j < counts.length)
    (hcounts : counts.getD j 0 ≤ countMax)
    (h : equalMappingLoop params k countMax participants counts = some true) :
    counts.getD j 0 + participantCount params k j participants ≤ countMax := by
  induction participants generalizing counts with
  | nil => exact hcounts
  | cons i rest ih =>
      unfold equalMappingLoop at h
      unfold participantCount at ih ⊢
      rw [List.countP_cons]
      cases hmeetup : assignmentFn i params k with
      | none =>
          rw [hmeetup] at h
          cases h
      | some meetup =>
          simp only [hmeetup, Option.bind_eq_bind, Option.bind_eq_some_iff] at h
          obtain ⟨count, hcount, h⟩ := h
          obtain ⟨hlt, hcount⟩ := List.getElem?_eq_some_iff.1 hcount
          have hover : ¬ countMax < count + 1 := by
            intro hover
            rw [if_pos hover] at h
            cases h
          rw [if_neg hover] at h
          have hset : (counts.set meetup (count + 1)).getD j 0 =
              counts.getD j 0 + if meetup = j then 1 else 0 := by
            by_cases heq : meetup = j
            · subst heq
              simp [hlt, hcount]
            · simp [heq]
          have hrest := ih (by rw [List.length_set]; exact hj) ?_ h
          · rw [hset] at hrest
            simp only [Option.some.injEq, decide_eq_true_iff]
            omega
          · rw [hset]
            by_cases heq : meetup = j
            · subst heq
              simp [hlt, hcount]
              omega
            · rw [if_neg heq]
              exact hcounts

private theorem assignmentFn_lt {p k meetup : Nat} {params : AssignmentParams}
    (h : assignmentFn p params k = some meetup) : meetup < k := by
  simp only [assignmentFn, Option.bind_eq_bind, Option.bind_eq_some_iff] at h
  obtain ⟨product, -, sum, -, div, -, hmod⟩ := h
  unfold checkedModulo at hmod
  split_ifs at hmod with hk
  rw [Option.some.injEq] at hmod
  rw [← hmod]
  exact Nat.mod_lt _ (Nat.pos_of_ne_zero hk)

private theorem equalMappingLoop_isSome {params : AssignmentParams} {k countMax : Nat}
    (participants : List Nat) {counts : List Nat} (hlength : counts.length = k) :
    ∃ equal, equalMappingLoop params k countMax participants counts = some equal := by
  induction participants generalizing counts with
  | nil => exact ⟨true, rfl⟩
  | cons i rest ih =>
      unfold equalMappingLoop
      cases hmeetup : assignmentFn i params k with
      | none => exact ⟨false, rfl⟩
      | some meetup =>
          have hlt : meetup < counts.length := by
            rw [hlength]
            exact assignmentFn_lt hmeetup
          simp only [List.getElem?_eq_getElem hlt, bind, Option.bind]
          split_ifs
          · exact ⟨false, rfl⟩
          · exact ih (by rw [List.length_set]; exact hlength)

theorem validateEqualMapping_isSome (n : Nat) (params : AssignmentParams) (k : Nat) :
    ∃ equal, validateEqualMapping n params k = some equal := by
  unfold validateEqualMapping
  split_ifs
  · exact ⟨true, rfl⟩
  · exact equalMappingLoop_isSome _ List.length_replicate

/-- Accepted parameters share out the participants from the prime on. -/
theorem participantCount_range' {n k j : Nat} {params : AssignmentParams} (hn : 2 ≤ n)
    (hn' : n < 2 ^ 64) (hle : params.m ≤ n) (hj : j < k)
    (h : validateEqualMapping n params k = some true) :
    participantCount params k j (List.range' params.m (n - params.m)) ≤ (n - params.m) ⌈/⌉ k := by
  unfold validateEqualMapping at h
  rw [if_neg (by omega), wrappingSubU64_of_le hle hn'] at h
  have hzero : (List.replicate k 0).getD j 0 = 0 := by simp
  have hcount := equalMappingLoop_le _ (by rw [List.length_replicate]; exact hj)
    (by rw [hzero]; exact Nat.zero_le _) h
  rw [hzero, Nat.zero_add] at hcount
  exact hcount.trans (checkedCeilDivision_getD_le _ (by omega))

/-! ## The retry loop -/

/-- The parameters that the retry loop may return. -/
structure AssignmentParams.Drawn (params : AssignmentParams) (m : Nat) : Prop where
  m_eq : params.m = m
  s1_pos : 1 ≤ params.s1
  s1_lt : params.s1 < m
  s2_lt : params.s2 < m

/-- The second parameter is drawn like the first one. -/
structure AssignmentParams.InRange (params : AssignmentParams) (m : Nat) : Prop
    extends params.Drawn m where
  s2_pos : 1 ≤ params.s2

theorem inRange_pick {m : Nat} (hm : 2 ≤ m) (hm' : m < 2 ^ 32)
    (random random' : RandomNumberGenerator) :
    AssignmentParams.InRange ⟨m, (random.pickNonZeroU32 (wrappingSubU32 m 1)).1,
      (random'.pickNonZeroU32 (wrappingSubU32 m 1)).1⟩ m := by
  have hsub : wrappingSubU32 m 1 = m - 1 := wrappingSubU32_of_le (by omega) hm'
  have h1 := random.pickNonZeroU32_bounds (show 1 ≤ m - 1 by omega) (by omega)
  have h2 := random'.pickNonZeroU32_bounds (show 1 ≤ m - 1 by omega) (by omega)
  rw [hsub]
  exact ⟨⟨rfl, h1.1, by simp only; omega, by simp only; omega⟩, h2.1⟩

theorem pickNonZeroU32_draws (random : RandomNumberGenerator) (max : Nat) :
    (random.pickNonZeroU32 max).2.draws = random.draws.drop 1 :=
  List.drop_one.symm

/-- Every round takes two picks, and no more rounds are made than are allowed. -/
theorem assignmentParamsLoop_ends {n m k : Nat} (hm : 2 ≤ m) (hm' : m < 2 ^ 32) (allowed : Nat)
    {start : AssignmentParams} (hstart : start.InRange m) (random : RandomNumberGenerator) :
    ∃ params random' rounds,
      assignmentParamsLoop n m k allowed start random = some (params, random') ∧
        params.InRange m ∧ rounds ≤ allowed ∧
        random'.draws = random.draws.drop (2 * rounds) := by
  induction allowed generalizing start random with
  | zero => exact ⟨start, random, 0, rfl, hstart, le_rfl, rfl⟩
  | succ allowed ih =>
      have hpick := inRange_pick hm hm' random (random.pickNonZeroU32 (wrappingSubU32 m 1)).2
      have hdraws : ((random.pickNonZeroU32 (wrappingSubU32 m 1)).2.pickNonZeroU32
          (wrappingSubU32 m 1)).2.draws = random.draws.drop 2 := by
        rw [pickNonZeroU32_draws, pickNonZeroU32_draws, List.drop_drop]
      obtain ⟨equal, hequal⟩ := validateEqualMapping_isSome n
        ⟨m, (random.pickNonZeroU32 (wrappingSubU32 m 1)).1,
          ((random.pickNonZeroU32 (wrappingSubU32 m 1)).2.pickNonZeroU32
            (wrappingSubU32 m 1)).1⟩ k
      unfold assignmentParamsLoop
      simp only [hequal, bind, Option.bind]
      cases equal with
      | true => exact ⟨_, _, 1, rfl, hpick, by omega, hdraws⟩
      | false =>
          obtain ⟨params, random', rounds, hloop, hrange, hle, hdrop⟩ := ih hpick
            ((random.pickNonZeroU32 (wrappingSubU32 m 1)).2.pickNonZeroU32
              (wrappingSubU32 m 1)).2
          refine ⟨params, random', rounds + 1, hloop, hrange, by omega, ?_⟩
          rw [hdrop, hdraws, List.drop_drop]
          congr 1
          omega

/-- The parameters are drawn twice before the first round, and then once in every round. -/
theorem generateAssignmentFunctionParams_ends {n : Nat} (hn : n < 2 ^ 31) (k : Nat)
    (random : RandomNumberGenerator) :
    ∃ params random' rounds m, findPrimeBelow n = some m ∧
      generateAssignmentFunctionParams n k random = some (params, random') ∧
        params.InRange m ∧ rounds ≤ 201 ∧
        random'.draws = random.draws.drop (2 + 2 * rounds) := by
  obtain ⟨m, hprime⟩ := findPrimeBelow_isSome (show n < 2 ^ 64 by omega)
  obtain ⟨hm, hle, -⟩ := findPrimeBelow_bounds (show n < 2 ^ 64 by omega) hprime
  have htwo := hm.two_le
  have hmod : m % 2 ^ 32 = m := Nat.mod_eq_of_lt (by omega)
  have hstart := inRange_pick htwo (by omega) random
    (random.pickNonZeroU32 (wrappingSubU32 m 1)).2
  obtain ⟨params, random', rounds, hloop, hrange, hrounds, hdrop⟩ :=
    assignmentParamsLoop_ends (n := n) (k := k) htwo (by omega) (maxSkips + 1) hstart
      ((random.pickNonZeroU32 (wrappingSubU32 m 1)).2.pickNonZeroU32 (wrappingSubU32 m 1)).2
  refine ⟨params, random', rounds, m, hprime, ?_, hrange, hrounds, ?_⟩
  · unfold generateAssignmentFunctionParams
    simp only [hprime, bind, Option.bind, hmod]
    exact hloop
  · rw [hdrop, pickNonZeroU32_draws, pickNonZeroU32_draws, List.drop_drop, List.drop_drop]
    congr 1
    omega

/-! ## The spread -/

private theorem participantCount_append (params : AssignmentParams) (k j : Nat) (ps qs : List Nat) :
    participantCount params k j (ps ++ qs) =
      participantCount params k j ps + participantCount params k j qs :=
  List.countP_append

private theorem range_split {m n : Nat} (hle : m ≤ n) :
    List.range n = List.range m ++ List.range' m (n - m) := by
  have happend := List.range'_append_1 (s := 0) (m := m) (n := n - m)
  rw [Nat.zero_add, Nat.add_sub_of_le hle] at happend
  rw [List.range_eq_range', List.range_eq_range']
  exact happend.symm

/-- Accepted parameters give every meetup its share, and the loop always ends with parameters. -/
theorem participants_spread_evenly (n k : Nat) (hn : 2 ≤ n ∧ n < 2 ^ 31) :
    (∀ params, findPrimeBelow n = some params.m → 1 ≤ params.s1 → params.s1 < params.m →
        1 ≤ params.s2 → params.s2 < params.m → validateEqualMapping n params k = some true →
        ∀ j < k, params.m / k ≤ participantCount params k j (List.range n) ∧
          participantCount params k j (List.range n) ≤
            params.m ⌈/⌉ k + (n - params.m) ⌈/⌉ k) ∧
      ∀ random, ∃ params random' rounds,
        generateAssignmentFunctionParams n k random = some (params, random') ∧
          rounds ≤ 201 ∧ random'.draws = random.draws.drop (2 + 2 * rounds) ∧
          findPrimeBelow n = some params.m ∧ 1 ≤ params.s1 ∧ params.s1 < params.m ∧
          1 ≤ params.s2 ∧ params.s2 < params.m := by
  constructor
  · intro params hm hs1 hs1' _ hs2' haccepted j hj
    have h : params.Valid n 1 :=
      AssignmentParams.Valid.of_findPrimeBelow hn.2 le_rfl (by omega) hm hs1 hs1' hs2'
    have hle : params.m ≤ n := by
      obtain ⟨-, hmax, -⟩ := findPrimeBelow_bounds (by omega) hm
      rw [Nat.max_eq_left hn.1] at hmax
      exact hmax
    obtain ⟨hlow, hhigh⟩ := participantCount_range h hle hj
    have hrest := participantCount_range' hn.1 (by omega) hle hj haccepted
    rw [range_split hle, participantCount_append]
    omega
  · intro random
    obtain ⟨params, random', rounds, m, hprime, hgenerate, hrange, hrounds, hdraws⟩ :=
      generateAssignmentFunctionParams_ends hn.2 k random
    obtain rfl := hrange.m_eq
    exact ⟨params, random', rounds, hgenerate, hrounds, hdraws, hprime, hrange.s1_pos,
      hrange.s1_lt, hrange.s2_pos, hrange.s2_lt⟩

theorem participants_spread_evenly_118 :
    validateEqualMapping 118 ⟨113, 78, 23⟩ 12 = some true ∧
      ∀ j < 12, 113 / 12 ≤ participantCount ⟨113, 78, 23⟩ 12 j (List.range 118) ∧
        participantCount ⟨113, 78, 23⟩ 12 j (List.range 118) ≤
          113 ⌈/⌉ 12 + (118 - 113) ⌈/⌉ 12 :=
  ⟨by decide, (participants_spread_evenly 118 12 (by omega)).1 ⟨113, 78, 23⟩ (by decide)
    (by decide) (by decide) (by decide) (by decide) (by decide)⟩

end Encointer.Assignment
