import Mathlib.Data.Nat.ModEq
import Encointer.Assignment.MathFacts
import Encointer.Ceremonies.RewardOnce

/-!
# Meetup locations

Meetup `k` takes the location `(k * s1 + s2) % m` of `m` locations. The multiplier
is coprime to `m`, so different meetups get different locations.
-/

namespace Encointer.Assignment

open Checked

/-! ## Coprime multipliers -/

/-- The subtractions of positive numbers end with their greatest common divisor. -/
theorem greatestCommonDenominatorLoop_eq {fuel a b : Nat} (ha : 0 < a) (hb : 0 < b)
    (hfuel : a + b ≤ fuel) : greatestCommonDenominatorLoop fuel a b = Nat.gcd a b := by
  induction fuel generalizing a b with
  | zero => omega
  | succ fuel ih =>
      unfold greatestCommonDenominatorLoop
      rw [if_neg (by omega)]
      split
      · rename_i hab
        rw [hab, Nat.gcd_self]
      · split
        · rename_i hlt
          rw [ih (by omega) hb (by omega), Nat.gcd_sub_self_left hlt.le]
        · rename_i hne hle
          rw [ih ha (by omega) (by omega), Nat.gcd_sub_self_right (by omega)]

/-- The recursion ends: more calls than the two numbers allow change nothing. -/
theorem greatestCommonDenominatorLoop_terminates {fuel a b : Nat} (hfuel : a + b < fuel) :
    greatestCommonDenominatorLoop fuel a b = getGreatestCommonDenominator a b := by
  unfold getGreatestCommonDenominator
  by_cases hzero : a = 0 ∨ b = 0
  · cases fuel with
    | zero => omega
    | succ fuel => simp [greatestCommonDenominatorLoop, hzero]
  · rw [greatestCommonDenominatorLoop_eq (by omega) (by omega) hfuel.le,
      greatestCommonDenominatorLoop_eq (by omega) (by omega) (by omega)]

theorem isCoprime_iff {a b : Nat} (ha : 0 < a) (hb : 0 < b) :
    isCoprime a b = true ↔ Nat.Coprime a b := by
  unfold isCoprime getGreatestCommonDenominator
  rw [greatestCommonDenominatorLoop_eq ha hb (by omega), decide_eq_true_eq]

/-- The search finds a multiplier: one is a candidate, and coprime to everything. -/
theorem findRandomCoprimeBelow_spec {m : Nat} (hm : 1 ≤ m) (hm' : m < 2 ^ 31)
    (random : RandomNumberGenerator) :
    ∃ s1 random', findRandomCoprimeBelow m random = some (s1, random') ∧ s1 < m ∧
      Nat.Coprime m s1 := by
  unfold findRandomCoprimeBelow
  by_cases hone : m ≤ 1
  · obtain rfl : m = 1 := by omega
    exact ⟨0, random, rfl, Nat.one_pos, Nat.coprime_one_left 0⟩
  · by_cases htwo : m = 2
    · subst htwo
      exact ⟨1, random, rfl, by omega, Nat.coprime_one_right 2⟩
    · rw [if_neg hone, if_neg htwo]
      have hnonempty : List.range' 1 (m - 1) ≠ [] := by
        intro hempty
        rw [List.range'_eq_nil_iff] at hempty
        omega
      have hlength : (List.range' 1 (m - 1)).length ≤ u32Max := by
        rw [List.length_range']
        unfold u32Max
        omega
      obtain ⟨candidates, random', hcandidates, hperm⟩ :=
        randomPermutation_perm hnonempty hlength random
      have hfound : (candidates.find? (isCoprime m)).isSome = true := by
        rw [List.find?_isSome]
        refine ⟨1, hperm.mem_iff.2 (List.mem_range'_1.2 (by omega)), ?_⟩
        exact (isCoprime_iff (by omega) Nat.one_pos).2 (Nat.coprime_one_right m)
      obtain ⟨s1, hs1⟩ := Option.isSome_iff_exists.1 hfound
      have hmem := List.mem_range'_1.1 (hperm.mem_iff.1 (List.mem_of_find?_eq_some hs1))
      refine ⟨s1, random', ?_, by omega, ?_⟩
      · simp [hcandidates, hs1]
      · exact (isCoprime_iff (by omega) (by omega)).1 (List.find?_some hs1)

/-! ## Locations -/

structure AssignmentParams.ForLocations (params : AssignmentParams) (m : Nat) : Prop where
  m_eq : params.m = m
  pos : 1 ≤ m
  lt : m < 2 ^ 31
  s1_lt : params.s1 < m
  coprime : Nat.Coprime m params.s1
  s2_lt : params.s2 < 2 ^ 31

theorem AssignmentParams.ForLocations.index_eq {params : AssignmentParams}
    {locations : List Location} (h : params.ForLocations locations.length) {k : Nat}
    (hk : k ≤ locations.length) : getMeetupLocationIndex k locations params =
      some ((k * params.s1 + params.s2) % locations.length) := by
  have hs1 := h.s1_lt
  have hs2 := h.s2_lt
  have hpos := h.pos
  have hlt := h.lt
  have hproduct : k * params.s1 ≤ 2 ^ 31 * 2 ^ 31 := Nat.mul_le_mul (by omega) (by omega)
  unfold getMeetupLocationIndex assignmentFn
  rw [mulU64_of_lt (by omega), Option.bind_eq_bind, Option.bind_some, addU64_of_lt (by omega)]
  simp [checkedModulo, h.m_eq, show locations.length ≠ 0 by omega]

/-- Different meetups have different indices. -/
theorem AssignmentParams.ForLocations.index_injective {params : AssignmentParams} {m k k' : Nat}
    (h : params.ForLocations m) (hk : 1 ≤ k) (hk' : 1 ≤ k') (hkm : k ≤ m) (hkm' : k' ≤ m)
    (heq : (k * params.s1 + params.s2) % m = (k' * params.s1 + params.s2) % m) : k = k' := by
  have hmod : k * params.s1 + params.s2 ≡ k' * params.s1 + params.s2 [MOD m] := heq
  have hcancel : k ≡ k' [MOD m] :=
    Nat.ModEq.cancel_right_of_coprime h.coprime (Nat.ModEq.add_right_cancel' _ hmod)
  -- both lie in one period, although the largest index is `m` itself
  have hshift : k - 1 ≡ k' - 1 [MOD m] := by
    apply Nat.ModEq.add_right_cancel' 1
    rw [Nat.sub_add_cancel hk, Nat.sub_add_cancel hk']
    exact hcancel
  have hsame : k - 1 = k' - 1 := by
    rw [Nat.ModEq, Nat.mod_eq_of_lt (by omega), Nat.mod_eq_of_lt (by omega)] at hshift
    exact hshift
  omega

end Encointer.Assignment

namespace Encointer.Ceremonies

open Assignment

variable {AccountId : Type}

theorem generateLocationAssignmentParams_spec (s : Runtime AccountId) (cc : CommunityCeremony)
    (random : RandomNumberGenerator)
    (hpos : 1 ≤ (Communities.getLocations s.communities cc.1).length)
    (hlt : (Communities.getLocations s.communities cc.1).length < 2 ^ 31) :
    ∃ params random', generateLocationAssignmentParams s cc random = some (params, random') ∧
      params.ForLocations (Communities.getLocations s.communities cc.1).length := by
  obtain ⟨s1, random', hs1, hs1lt, hcoprime⟩ := findRandomCoprimeBelow_spec hpos hlt random
  obtain ⟨s2, hs2⟩ := findPrimeBelow_isSome
    (show (Communities.getLocations s.communities cc.1).length < 2 ^ 64 by omega)
  have hbounds := findPrimeBelow_bounds
    (show (Communities.getLocations s.communities cc.1).length < 2 ^ 64 by omega) hs2
  refine ⟨⟨_, s1, s2⟩, random', ?_, rfl, hpos, hlt, hs1lt, hcoprime, ?_⟩
  · simp [generateLocationAssignmentParams, hs1, hs2]
  · have hle := hbounds.2.1
    show s2 < 2 ^ 31
    omega

/-- Every meetup has an index, and no two of them the same. -/
structure LocationsDistinct (locations : List Location) (params : AssignmentParams)
    (numMeetups : Nat) : Prop where
  defined : ∀ k, 1 ≤ k → k ≤ numMeetups →
    ∃ index, getMeetupLocationIndex k locations params = some index ∧ index < locations.length
  injective : ∀ k k', 1 ≤ k → k ≤ numMeetups → 1 ≤ k' → k' ≤ numMeetups →
    getMeetupLocationIndex k locations params = getMeetupLocationIndex k' locations params → k = k'
  places : locations.Nodup → ∀ k k', 1 ≤ k → k ≤ numMeetups → 1 ≤ k' → k' ≤ numMeetups →
    meetupLocation k locations params = meetupLocation k' locations params → k = k'

/-- Distinct meetups get distinct locations, whatever the random source draws; the search for
a multiplier ends, and so does each of its calls of the common divisor. -/
theorem meetup_locations_distinct (s : Runtime AccountId) (cc : CommunityCeremony)
    (random : RandomNumberGenerator) (numMeetups : Nat)
    (hpos : 1 ≤ (Communities.getLocations s.communities cc.1).length)
    (hlt : (Communities.getLocations s.communities cc.1).length < 2 ^ 31)
    (hmeetups : numMeetups ≤ (Communities.getLocations s.communities cc.1).length) :
    ∃ params random', generateLocationAssignmentParams s cc random = some (params, random') ∧
      LocationsDistinct (Communities.getLocations s.communities cc.1) params numMeetups ∧
      ∀ candidate fuel, params.m + candidate < fuel →
        greatestCommonDenominatorLoop fuel params.m candidate =
          getGreatestCommonDenominator params.m candidate := by
  obtain ⟨params, random', hparams, hvalid⟩ :=
    generateLocationAssignmentParams_spec s cc random hpos hlt
  generalize Communities.getLocations s.communities cc.1 = locations at hmeetups hvalid hpos ⊢
  refine ⟨params, random', hparams, ?_, fun _ _ => greatestCommonDenominatorLoop_terminates⟩
  have hindex {k : Nat} (hk : k ≤ numMeetups) : getMeetupLocationIndex k locations params =
      some ((k * params.s1 + params.s2) % locations.length) := hvalid.index_eq (by omega)
  have hbound (k : Nat) : (k * params.s1 + params.s2) % locations.length < locations.length :=
    Nat.mod_lt _ hpos
  constructor
  · intro k _ hk
    exact ⟨_, hindex hk, hbound k⟩
  · intro k k' h1 hk h1' hk' heq
    rw [hindex hk, hindex hk', Option.some.injEq] at heq
    exact hvalid.index_injective h1 h1' (by omega) (by omega) heq
  · intro hnodup k k' h1 hk h1' hk' heq
    unfold meetupLocation at heq
    simp only [hindex hk, hindex hk', Option.bind_eq_bind, Option.bind_some] at heq
    have hsame := (List.getElem?_inj (hbound k) hnodup).1 heq
    exact hvalid.index_injective h1 h1' (by omega) (by omega) hsame

end Encointer.Ceremonies

namespace Encointer

open Assignment

def Demo.threePlaces : Runtime Nat :=
  let s : Runtime Nat := Demo.genesis.build ∅ ∅
  { s with communities := { s.communities with
    locations :=
      (s.communities.locations.insert (Demo.islanders, Demo.geohash Demo.island)
        [Demo.island]).insert (Demo.islanders, Demo.geohash Demo.mainland)
          [Demo.mainland, ⟨Demo.mainland.lat, Demo.mainland.lon + degree⟩] } }

theorem Ceremonies.meetup_locations_distinct_threePlaces :
    ∃ params random', Ceremonies.generateLocationAssignmentParams Demo.threePlaces
        (Demo.islanders, 1) ⟨[7, 5]⟩ = some (params, random') ∧
      Ceremonies.LocationsDistinct
        (Communities.getLocations Demo.threePlaces.communities Demo.islanders) params 3 ∧
      ∀ candidate fuel, params.m + candidate < fuel →
        greatestCommonDenominatorLoop fuel params.m candidate =
          getGreatestCommonDenominator params.m candidate :=
  Ceremonies.meetup_locations_distinct Demo.threePlaces (Demo.islanders, 1) ⟨[7, 5]⟩ 3
    (by decide +kernel) (by decide +kernel) (by decide +kernel)

end Encointer
