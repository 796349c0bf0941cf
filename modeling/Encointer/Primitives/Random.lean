import Mathlib.Data.List.Perm.Basic
import Encointer.Library.Checked

/-!
# The random number generator

The generator of the source hashes a seed and rejects the raw draws above the
largest multiple of the range. Its state here is the sequence of raw draws that
the rejection loop accepts, so every terminating behaviour of the hash is some
sequence; an exhausted sequence draws zero.
-/

namespace Encointer

open Checked

structure RandomNumberGenerator where
  draws : List Nat
  deriving Repr, DecidableEq

namespace RandomNumberGenerator

def nextDraw (random : RandomNumberGenerator) : Nat × RandomNumberGenerator :=
  (random.draws.headD 0 % 2 ^ 32, ⟨random.draws.tail⟩)

/-- A number at least zero, at most `max`. -/
def pickU32 (random : RandomNumberGenerator) (max : Nat) : Nat × RandomNumberGenerator :=
  let (raw, random) := random.nextDraw
  (if max < u32Max then raw % (max + 1) else raw, random)

/-- A number at least 1, at most `max`. -/
def pickNonZeroU32 (random : RandomNumberGenerator) (max : Nat) : Nat × RandomNumberGenerator :=
  let (n, random) := random.pickU32 (wrappingSubU32 max 1)
  (n + 1, random)

def pickUsize (random : RandomNumberGenerator) (max : Nat) : Nat × RandomNumberGenerator :=
  random.pickU32 (max % 2 ^ 32)

theorem pickU32_le (random : RandomNumberGenerator) (max : Nat) (h : max < u32Max) :
    (random.pickU32 max).1 ≤ max := by
  simp only [pickU32, nextDraw, if_pos h]
  exact Nat.le_of_lt_succ (Nat.mod_lt _ (Nat.succ_pos max))

theorem pickNonZeroU32_bounds (random : RandomNumberGenerator) {max : Nat} (h : 1 ≤ max)
    (hmax : max < 2 ^ 32) :
    1 ≤ (random.pickNonZeroU32 max).1 ∧ (random.pickNonZeroU32 max).1 ≤ max := by
  have hsub : wrappingSubU32 max 1 = max - 1 := wrappingSubU32_of_le h hmax
  have hle := random.pickU32_le (max - 1) (by unfold u32Max; omega)
  simp only [pickNonZeroU32, hsub]
  omega

end RandomNumberGenerator

/-! ## Permutations -/

/-- `Vec::swap_remove`: the last element takes the place of the removed one. -/
def swapRemove {α : Type} (xs : List α) (i : Nat) : Option (α × List α) := do
  let x ← xs[i]?
  let last ← xs.getLast?
  some (x, (xs.set i last).dropLast)

/-- `n` draws without replacement; the `k`-th one among the `n - k` elements left. -/
def permutationLoop {α : Type} : Nat → List α → RandomNumberGenerator →
    Option (List α × RandomNumberGenerator)
  | 0, _, random => some ([], random)
  | n + 1, input, random => do
      let (i, random) := random.pickUsize n
      let (x, input) ← swapRemove input i
      let (r, random) ← permutationLoop n input random
      some (x :: r, random)

/-- `none` in the source for an empty input; `none` here also for an index panic. -/
def randomPermutation {α : Type} (input : List α) (random : RandomNumberGenerator) :
    Option (List α × RandomNumberGenerator) :=
  if input.isEmpty then none else permutationLoop input.length input random

theorem swapRemove_perm {α : Type} {xs : List α} {i : Nat} (h : i < xs.length) :
    ∃ x rest, swapRemove xs i = some (x, rest) ∧ (x :: rest).Perm xs := by
  rcases List.eq_nil_or_concat xs with rfl | ⟨init, last, rfl⟩
  · cases h
  · rw [List.concat_eq_append] at h ⊢
    rw [List.length_append, List.length_singleton] at h
    by_cases hi : i < init.length
    · refine ⟨init[i], init.set i last, by simp [swapRemove, hi, List.getElem?_append_left], ?_⟩
      have hsplit : init = init.take i ++ init[i] :: init.drop (i + 1) := by
        rw [← List.drop_eq_getElem_cons hi, List.take_append_drop]
      have hset : init.set i last = init.take i ++ last :: init.drop (i + 1) := by
        rw [List.set_eq_take_append_cons_drop, if_pos hi]
      have hfront : (init[i] :: init.set i last).Perm
          (last :: init[i] :: (init.take i ++ init.drop (i + 1))) := by
        rw [hset]
        exact (List.perm_middle.cons _).trans (List.Perm.swap ..)
      have hback : init.Perm (init[i] :: (init.take i ++ init.drop (i + 1))) := by
        conv_lhs => rw [hsplit]
        exact List.perm_middle
      exact hfront.trans ((hback.symm.cons last).trans (List.perm_append_singleton last init).symm)
    · obtain rfl : i = init.length := by omega
      exact ⟨last, init, by simp [swapRemove], (List.perm_append_singleton last init).symm⟩

private theorem pickUsize_le (random : RandomNumberGenerator) {max : Nat} (h : max < u32Max) :
    (random.pickUsize max).1 ≤ max := by
  unfold RandomNumberGenerator.pickUsize
  rw [Nat.mod_eq_of_lt (by unfold u32Max at h; omega)]
  exact random.pickU32_le max h

/-- Drawing without replacement gives every element once. -/
theorem permutationLoop_perm {α : Type} {n : Nat} {input : List α} (hlength : input.length = n)
    (hn : n ≤ u32Max) (random : RandomNumberGenerator) :
    ∃ r random', permutationLoop n input random = some (r, random') ∧ r.Perm input := by
  induction n generalizing input random with
  | zero =>
      rw [List.length_eq_zero_iff.1 hlength]
      exact ⟨[], random, rfl, List.Perm.refl []⟩
  | succ n ih =>
      have hpick := pickUsize_le random (show n < u32Max by omega)
      obtain ⟨x, rest, hremove, hperm⟩ :=
        swapRemove_perm (show (random.pickUsize n).1 < input.length by omega)
      have hrest : rest.length = n := by
        have hlengths := hperm.length_eq
        rw [List.length_cons, hlength] at hlengths
        omega
      obtain ⟨r, random', hr, hrperm⟩ := ih hrest (by omega) (random.pickUsize n).2
      refine ⟨x :: r, random', ?_, (hrperm.cons x).trans hperm⟩
      simp [permutationLoop, hremove, hr]

theorem randomPermutation_perm {α : Type} {input : List α} (hinput : input ≠ [])
    (hlength : input.length ≤ u32Max) (random : RandomNumberGenerator) :
    ∃ r random', randomPermutation input random = some (r, random') ∧ r.Perm input := by
  unfold randomPermutation
  rw [if_neg (by simpa using hinput)]
  exact permutationLoop_perm rfl hlength random

end Encointer
