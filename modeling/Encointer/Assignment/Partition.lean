import Mathlib.Data.Nat.ModEq
import Mathlib.Data.List.Perm.Basic
import Encointer.Assignment.MathFacts
import Encointer.Assignment.ModInv
import Encointer.Assignment.Assign

/-!
# The assignment is a partition

Participant `p` owns the residue `(p * s1 + s2) % m`. The residue map is a
bijection of the numbers below the prime `m`, and at most two participants
share a residue: `p` and `p + m`. Meetup `j` takes the residues congruent to
`j` modulo the number of meetups, which is what both directions compute.
-/

namespace Encointer.Assignment

open Checked

/-- Parameters that fit a group of `n` participants and `k` meetups. -/
structure AssignmentParams.Valid (params : AssignmentParams) (n k : Nat) : Prop where
  prime : params.m.Prime
  m_lt : params.m < 2 ^ 31
  n_lt : n < 2 ^ 31
  n_le : n ≤ 2 * params.m
  s1_pos : 1 ≤ params.s1
  s1_lt : params.s1 < params.m
  s2_lt : params.s2 < params.m
  k_pos : 1 ≤ k
  k_lt : k < 2 ^ 63

theorem AssignmentParams.Valid.of_findPrimeBelow {n k : Nat} {params : AssignmentParams}
    (hn : n < 2 ^ 31) (hk : 1 ≤ k) (hk' : k < 2 ^ 63) (hm : findPrimeBelow n = some params.m)
    (hs1 : 1 ≤ params.s1) (hs1' : params.s1 < params.m) (hs2 : params.s2 < params.m) :
    params.Valid n k := by
  obtain ⟨hprime, hle, hdouble⟩ := findPrimeBelow_bounds (by omega) hm
  exact ⟨hprime, by omega, hn, hdouble, hs1, hs1', hs2, hk, hk'⟩

def AssignmentParams.residue (params : AssignmentParams) (p : Nat) : Nat :=
  (p * params.s1 + params.s2) % params.m

section Valid

variable {params : AssignmentParams} {n k : Nat} (h : params.Valid n k)

include h

theorem AssignmentParams.Valid.m_pos : 0 < params.m := h.prime.pos

theorem AssignmentParams.Valid.coprime : Nat.Coprime params.m params.s1 :=
  h.prime.coprime_iff_not_dvd.mpr fun hdvd => by
    have := Nat.le_of_dvd h.s1_pos hdvd
    have := h.s1_lt
    omega

theorem residue_lt (p : Nat) : params.residue p < params.m := Nat.mod_lt _ h.m_pos

omit h in
theorem residue_add_m (params : AssignmentParams) (p : Nat) :
    params.residue (p + params.m) = params.residue p := by
  unfold AssignmentParams.residue
  rw [Nat.add_mul, Nat.add_right_comm, Nat.add_mul_mod_self_left]

/-- The residue map is injective below the prime. -/
theorem eq_of_residue_eq {p q : Nat} (hp : p < params.m) (hq : q < params.m)
    (heq : params.residue p = params.residue q) : p = q := by
  have hmod : p * params.s1 + params.s2 ≡ q * params.s1 + params.s2 [MOD params.m] := heq
  have hcancel : p ≡ q [MOD params.m] :=
    Nat.ModEq.cancel_right_of_coprime h.coprime (Nat.ModEq.add_right_cancel' _ hmod)
  simpa [Nat.ModEq, Nat.mod_eq_of_lt hp, Nat.mod_eq_of_lt hq] using hcancel

/-! ## The forward direction -/

/-- The participant's residue does not depend on the number of meetups. -/
theorem assignmentFn_residue {p k' : Nat} (hp : p < n) (hk : 1 ≤ k') :
    assignmentFn p params k' = some (params.residue p % k') := by
  have hprod : p * params.s1 ≤ 2 ^ 31 * 2 ^ 31 :=
    Nat.mul_le_mul (by have := h.n_lt; omega) (by have := h.s1_lt; have := h.m_lt; omega)
  have hs2 := h.s2_lt
  have hm := h.m_lt
  have hm0 := h.m_pos
  unfold assignmentFn
  rw [mulU64_of_lt (by omega), Option.bind_eq_bind, Option.bind_some, addU64_of_lt (by omega)]
  simp [checkedModulo, AssignmentParams.residue, show params.m ≠ 0 by omega,
    show k' ≠ 0 by omega]

theorem assignmentFn_eq {p : Nat} (hp : p < n) :
    assignmentFn p params k = some (params.residue p % k) :=
  assignmentFn_residue h hp h.k_pos

/-! ## The inverse direction -/

theorem lt_maxIndex_iff {i j : Nat} : i < maxIndex j params k ↔ k * i + j < params.m := by
  have hm := h.m_lt
  have hk := h.k_lt
  have hk0 := h.k_pos
  unfold maxIndex
  simp only [asI64_of_lt (show params.m - j < 2 ^ 63 by omega), asI64_of_lt hk]
  generalize hspan : params.m - j = span
  have hdiv := Nat.div_add_mod span k
  have hmod := Nat.mod_lt span hk0
  have hiff : ((span : Int) % (k : Int) ≠ 0) ↔ span % k ≠ 0 := by omega
  simp only [hiff]
  constructor
  · intro hi
    by_cases hz : span % k = 0
    · have hle : k * (i + 1) ≤ k * (span / k) :=
        Nat.mul_le_mul_left k (by simp only [hz, ne_eq, not_true, if_false] at hi; omega)
      rw [Nat.mul_add] at hle
      omega
    · have hle : k * i ≤ k * (span / k) :=
        Nat.mul_le_mul_left k (by simp only [ne_eq, hz, not_false_iff, if_true] at hi; omega)
      omega
  · intro hi
    have hlt : k * i < k * (span / k + if span % k ≠ 0 then 1 else 0) := by
      rw [Nat.mul_add]
      by_cases hz : span % k = 0
      · simp only [hz, ne_eq, not_true, if_false]
        omega
      · simp only [ne_eq, hz, not_false_iff, if_true]
        omega
    exact Nat.lt_of_mul_lt_mul_left hlt

/-- The value of one round when no operation leaves the `i64` range. -/
theorem t3_eq {i j t2 : Nat} (hlt : k * i + j < params.m) (ht2 : t2 < params.m) :
    ∃ e : Nat, (e : Int) = ((k * i + j : Nat) - params.s2 : Int) % params.m ∧ e < params.m ∧
      t3 k i j params t2 = some (e * t2 % params.m) := by
  have hm := h.m_lt
  have hm0 := h.m_pos
  have hs2 := h.s2_lt
  have hi : i < 2 ^ 63 := by
    have : i ≤ k * i := Nat.le_mul_of_pos_left i h.k_pos
    omega
  have hmInt : (0 : Int) < params.m := by omega
  obtain ⟨e, he⟩ : ∃ e : Nat, ((k * i + j : Nat) - params.s2 : Int) % params.m = e :=
    Int.eq_ofNat_of_zero_le (Int.emod_nonneg _ (by omega))
  have helt : e < params.m := by
    have := Int.emod_lt_of_pos ((k * i + j : Nat) - params.s2 : Int) hmInt
    omega
  have hprod : e * t2 ≤ 2 ^ 31 * 2 ^ 31 := Nat.mul_le_mul (by omega) (by omega)
  have hmodlt := Nat.mod_lt (e * t2) hm0
  refine ⟨e, he.symm, helt, ?_⟩
  unfold t3
  rw [asI64_of_lt h.k_lt, asI64_of_lt hi, asI64_of_lt (by omega : j < 2 ^ 63),
    asI64_of_lt (by omega : params.s2 < 2 ^ 63), asI64_of_lt (by omega : params.m < 2 ^ 63)]
  rw [mulI64_natCast (show k * i < 2 ^ 63 by omega), Option.bind_eq_bind, Option.bind_some,
    addI64_natCast (show k * i + j < 2 ^ 63 by omega), Option.bind_some,
    subI64_natCast (show k * i + j < 2 ^ 63 by omega) (show params.s2 < 2 ^ 63 by omega),
    Option.bind_some, remEuclidI64_of_pos hmInt, he, Option.bind_some,
    mulI64_natCast (show e * t2 < 2 ^ 63 by omega), Option.bind_some, remEuclidI64_of_pos hmInt,
    Option.bind_some, ← Int.natCast_emod, asU64_natCast (by omega)]

/-- Round `i` of meetup `j` finds the one participant below `m` with residue `k * i + j`. -/
theorem t3_spec {i j t2 : Nat} (hlt : k * i + j < params.m) (ht2 : t2 < params.m)
    (hinv : params.s1 * t2 ≡ 1 [MOD params.m]) :
    ∃ p < params.m, t3 k i j params t2 = some p ∧ params.residue p = k * i + j := by
  obtain ⟨e, he, -, hval⟩ := t3_eq h hlt ht2
  refine ⟨e * t2 % params.m, Nat.mod_lt _ h.m_pos, hval, ?_⟩
  have hemod : e + params.s2 ≡ k * i + j [MOD params.m] := by
    have hz : (e : Int) + params.s2 ≡ (k * i + j : Nat) [ZMOD params.m] := by
      rw [he]
      have := (Int.mod_modEq ((k * i + j : Nat) - params.s2 : Int) params.m).add_right params.s2
      simpa using this
    exact_mod_cast hz
  have hres : e * t2 % params.m * params.s1 + params.s2 ≡ k * i + j [MOD params.m] :=
    calc e * t2 % params.m * params.s1 + params.s2
        ≡ e * t2 * params.s1 + params.s2 [MOD params.m] :=
          ((Nat.mod_modEq _ _).mul_right _).add_right _
      _ = e * (params.s1 * t2) + params.s2 := by ring
      _ ≡ e * 1 + params.s2 [MOD params.m] := (hinv.mul_left e).add_right _
      _ = e + params.s2 := by rw [Nat.mul_one]
      _ ≡ k * i + j [MOD params.m] := hemod
  exact Nat.mod_eq_of_modEq hres hlt

theorem checkedModInv_valid :
    ∃ t2 : Nat, checkedModInv (asI64 params.s1) (asI64 params.m) = some (t2 : Int) ∧
      t2 < params.m ∧ params.s1 * t2 ≡ 1 [MOD params.m] := by
  have hm := h.m_lt
  have hs1 := h.s1_lt
  rw [asI64_of_lt (by omega), asI64_of_lt (by omega)]
  exact checkedModInv_spec h.s1_pos hs1 (by omega) h.coprime

/-- The participants of one residue are `p` and `p + m`. -/
theorem residue_eq_iff {p q : Nat} (hp : p < params.m) (hq : q < n) :
    params.residue q = params.residue p ↔ q = p ∨ q = p + params.m := by
  have hle := h.n_le
  constructor
  · intro heq
    by_cases hqm : q < params.m
    · exact Or.inl (eq_of_residue_eq h hqm hp heq)
    · have hshift := residue_add_m params (q - params.m)
      rw [Nat.sub_add_cancel (by omega)] at hshift
      have := eq_of_residue_eq h (p := q - params.m) (by omega) hp (hshift.symm.trans heq)
      exact Or.inr (by omega)
  · rintro (rfl | rfl)
    · rfl
    · exact residue_add_m params p

private theorem inversePushes_spec {i j : Nat} (hlt : k * i + j < params.m) :
    ∃ pushed, inversePushes j params k n i = some pushed ∧ pushed.Nodup ∧
      ∀ q, q ∈ pushed ↔ q < n ∧ params.residue q = k * i + j := by
  obtain ⟨t2, ht2, ht2lt, hinv⟩ := checkedModInv_valid h
  obtain ⟨p, hp, hp3, hres⟩ := t3_spec h hlt ht2lt hinv
  have hm := h.m_lt
  have hm0 := h.m_pos
  have hiff : ∀ q, q < n ∧ params.residue q = k * i + j ↔ q < n ∧ (q = p ∨ q = p + params.m) :=
    fun q => and_congr_right fun hq => by
      rw [← hres]
      exact residue_eq_iff h hp hq
  simp only [hiff]
  unfold inversePushes
  rw [ht2, Option.bind_eq_bind, Option.bind_some, hp3]
  simp only [addU64_of_lt (show p + params.m < 2 ^ 64 by omega)]
  by_cases hpn : n ≤ p
  · refine ⟨[], by rw [if_pos hpn], List.nodup_nil, fun q => ?_⟩
    simp only [List.not_mem_nil, false_iff]
    omega
  · rw [if_neg hpn]
    by_cases hpm : p + params.m < n
    · refine ⟨[p, p + params.m], by rw [if_pos hpm], by simp; omega, fun q => ?_⟩
      simp only [List.mem_cons, List.not_mem_nil, or_false]
      constructor
      · rintro (rfl | rfl)
        · exact ⟨by omega, Or.inl rfl⟩
        · exact ⟨hpm, Or.inr rfl⟩
      · exact And.right
    · refine ⟨[p], by rw [if_neg hpm], List.nodup_singleton p, fun q => ?_⟩
      rw [List.mem_singleton]
      constructor
      · rintro rfl
        exact ⟨by omega, Or.inl rfl⟩
      · rintro ⟨hq, rfl | rfl⟩
        · rfl
        · exact absurd hq hpm

/-- Meetup `j` lists each participant whose residue it takes, once. -/
theorem assignmentFnInverse_spec {j : Nat} (hj : j < k) :
    ∃ list, assignmentFnInverse j params k n = some list ∧ list.Nodup ∧
      ∀ q, q ∈ list ↔ q < n ∧ params.residue q % k = j := by
  have hspec : ∀ i < maxIndex j params k, ∃ pushed, inversePushes j params k n i = some pushed ∧
      pushed.Nodup ∧ ∀ q, q ∈ pushed ↔ q < n ∧ params.residue q = k * i + j := fun i hi =>
    inversePushes_spec h ((lt_maxIndex_iff h).mp hi)
  have hk := h.k_pos
  rw [assignmentFnInverse, if_neg (by omega)]
  obtain ⟨list, hlist, hnodup, hmem⟩ := Loop.collectM_nodup
    (inversePushes j params k n) (List.range (maxIndex j params k))
    (fun i hi => by
      obtain ⟨pushed, hp, -⟩ := hspec i (List.mem_range.mp hi)
      simp [hp])
    List.nodup_range
    (fun i hi pushed hp => by
      obtain ⟨pushed', hp', hnd, -⟩ := hspec i (List.mem_range.mp hi)
      obtain rfl : pushed' = pushed := by simpa [hp] using hp'.symm
      exact hnd)
    (fun i hi i' hi' pushed pushed' hp hp' q hq hq' => by
      obtain ⟨x, hx, -, hmem⟩ := hspec i (List.mem_range.mp hi)
      obtain ⟨x', hx', -, hmem'⟩ := hspec i' (List.mem_range.mp hi')
      obtain rfl : x = pushed := by simpa [hp] using hx.symm
      obtain rfl : x' = pushed' := by simpa [hp'] using hx'.symm
      have heq := ((hmem q).mp hq).2.symm.trans ((hmem' q).mp hq').2
      exact Nat.eq_of_mul_eq_mul_left hk (by omega))
  refine ⟨list, hlist, hnodup, fun q => ?_⟩
  rw [hmem]
  constructor
  · rintro ⟨i, hi, pushed, hp, hq⟩
    obtain ⟨x, hx, -, hmem⟩ := hspec i (List.mem_range.mp hi)
    obtain rfl : x = pushed := by simpa [hp] using hx.symm
    obtain ⟨hqn, hres⟩ := (hmem q).mp hq
    exact ⟨hqn, by rw [hres, Nat.mul_add_mod, Nat.mod_eq_of_lt hj]⟩
  · rintro ⟨hq, hres⟩
    have hdiv := Nat.div_add_mod (params.residue q) k
    have hi : params.residue q / k < maxIndex j params k := by
      rw [lt_maxIndex_iff h, ← hres, hdiv]
      exact residue_lt h q
    obtain ⟨pushed, hp, -, hmem⟩ := hspec _ hi
    exact ⟨_, List.mem_range.mpr hi, pushed, hp, (hmem q).mpr ⟨hq, by rw [← hres, hdiv]⟩⟩

/-- Both directions agree. -/
theorem mem_assignmentFnInverse_iff {j : Nat} (hj : j < k) {list : List Nat}
    (hlist : assignmentFnInverse j params k n = some list) (q : Nat) :
    q ∈ list ↔ q < n ∧ assignmentFn q params k = some j := by
  obtain ⟨list', hlist', -, hmem⟩ := assignmentFnInverse_spec h hj
  obtain rfl : list' = list := by simpa [hlist] using hlist'.symm
  rw [hmem]
  constructor
  · rintro ⟨hq, hres⟩
    exact ⟨hq, by rw [assignmentFn_eq h hq, hres]⟩
  · rintro ⟨hq, hfn⟩
    rw [assignmentFn_eq h hq, Option.some.injEq] at hfn
    exact ⟨hq, hfn⟩

/-- The lists of all meetups together are the participants, each once. -/
theorem collectM_assignmentFnInverse :
    ∃ list, Loop.collectM (fun j => assignmentFnInverse j params k n) (List.range k) = some list ∧
      list.Perm (List.range n) := by
  have hspec := fun j (hj : j < k) => assignmentFnInverse_spec h hj
  obtain ⟨list, hlist, hnodup, hmem⟩ := Loop.collectM_nodup
    (fun j => assignmentFnInverse j params k n) (List.range k)
    (fun j hj => by
      obtain ⟨xs, hxs, -⟩ := hspec j (List.mem_range.mp hj)
      simp [hxs])
    List.nodup_range
    (fun j hj xs hxs => by
      obtain ⟨xs', hxs', hnd, -⟩ := hspec j (List.mem_range.mp hj)
      obtain rfl : xs' = xs := by simpa [hxs] using hxs'.symm
      exact hnd)
    (fun j hj j' hj' xs xs' hxs hxs' q hq hq' => by
      have h1 := (mem_assignmentFnInverse_iff h (List.mem_range.mp hj) hxs q).mp hq
      have h2 := (mem_assignmentFnInverse_iff h (List.mem_range.mp hj') hxs' q).mp hq'
      simpa [h1.2] using h2.2)
  refine ⟨list, hlist, (List.perm_ext_iff_of_nodup hnodup List.nodup_range).mpr fun q => ?_⟩
  rw [hmem, List.mem_range]
  constructor
  · rintro ⟨j, hj, xs, hxs, hq⟩
    exact ((mem_assignmentFnInverse_iff h (List.mem_range.mp hj) hxs q).mp hq).1
  · intro hq
    have hj := Nat.mod_lt (params.residue q) h.k_pos
    obtain ⟨xs, hxs, -, hmem⟩ := hspec _ hj
    exact ⟨_, List.mem_range.mpr hj, xs, hxs, (hmem q).mpr ⟨hq, rfl⟩⟩

end Valid

/-! ## The partition -/

private theorem inverse_rounds_checked {params : AssignmentParams} {n k j : Nat}
    (h : params.Valid n k) :
    ∃ t2, checkedModInv (asI64 params.s1) (asI64 params.m) = some t2 ∧
      ∀ i < maxIndex j params k, ∃ p, t3 k i j params t2 = some p ∧
        addU64 p params.m = some (p + params.m) := by
  obtain ⟨t2, ht2, ht2lt, hinv⟩ := checkedModInv_valid h
  refine ⟨t2, ht2, fun i hi => ?_⟩
  obtain ⟨p, hp, hp3, -⟩ := t3_spec h ((lt_maxIndex_iff h).mp hi) ht2lt hinv
  have hm := h.m_lt
  exact ⟨p, hp3, addU64_of_lt (by omega)⟩

/-- The meetup assignment is a partition of the participants and its two directions agree. -/
theorem assignment_partition (n k : Nat) (params : AssignmentParams) (hn : 1 ≤ n ∧ n < 2 ^ 31)
    (hk : 1 ≤ k ∧ k < 2 ^ 31) (hm : findPrimeBelow n = some params.m)
    (hs1 : 1 ≤ params.s1 ∧ params.s1 < params.m) (hs2 : 1 ≤ params.s2 ∧ params.s2 < params.m) :
    (∃ list, Loop.collectM (fun j => assignmentFnInverse j params k n) (List.range k) =
        some list ∧ list.Perm (List.range n)) ∧
      (∀ p < n, ∃ j < k, assignmentFn p params k = some j) ∧
      (∀ j < k, ∃ list, assignmentFnInverse j params k n = some list ∧
        ∀ p, p ∈ list ↔ p < n ∧ assignmentFn p params k = some j) ∧
      ∀ j < k, ∃ t2, checkedModInv (asI64 params.s1) (asI64 params.m) = some t2 ∧
        ∀ i < maxIndex j params k, ∃ p, t3 k i j params t2 = some p ∧
          addU64 p params.m = some (p + params.m) := by
  have h : params.Valid n k :=
    AssignmentParams.Valid.of_findPrimeBelow hn.2 hk.1 (by omega) hm hs1.1 hs1.2 hs2.2
  refine ⟨collectM_assignmentFnInverse h, fun p hp => ?_, fun j hj => ?_, fun j _ => ?_⟩
  · exact ⟨_, Nat.mod_lt _ hk.1, assignmentFn_eq h hp⟩
  · obtain ⟨list, hlist, -⟩ := assignmentFnInverse_spec h hj
    exact ⟨list, hlist, fun p => mem_assignmentFnInverse_iff h hj hlist p⟩
  · exact inverse_rounds_checked h

theorem assignment_partition_118 :
    ∃ list, Loop.collectM (fun j => assignmentFnInverse j ⟨113, 78, 23⟩ 12 118) (List.range 12) =
      some list ∧ list.Perm (List.range 118) :=
  have hpartition := assignment_partition 118 12 ⟨113, 78, 23⟩ (by omega) (by omega) (by decide)
    (by decide) (by decide)
  hpartition.1

end Encointer.Assignment
