import Encointer.Library.StorageMap
import Mathlib.Algebra.BigOperators.Group.List.Basic
import Mathlib.Algebra.GroupWithZero.Nat

/-!
# Totals of storage maps

The sum of a weight over all entries of a storage map, and how writes change it:
the new weight of the key comes in for the old one.
-/

namespace Encointer

namespace StorageMap

variable {κ ν : Type}

def total (weight : κ → ν → Nat) (m : StorageMap κ ν) : Nat :=
  (m.entries.map fun e => weight e.1 e.2).sum

@[simp] theorem total_empty (weight : κ → ν → Nat) : total weight (∅ : StorageMap κ ν) = 0 := rfl

theorem total_congr {weight weight' : κ → ν → Nat} (m : StorageMap κ ν)
    (h : ∀ k v, weight k v = weight' k v) : total weight m = total weight' m := by
  have hweight : weight = weight' := by
    funext k v
    exact h k v
  rw [hweight]

theorem total_retain (weight : κ → ν → Nat) (m : StorageMap κ ν) (p : κ → Bool) :
    total weight (m.retain p) = total (fun k v => if p k then weight k v else 0) m := by
  unfold total retain
  simp only
  induction m.entries with
  | nil => rfl
  | cons e entries ih => cases h : p e.1 <;> simp [h, ih]

theorem total_add (weight weight' : κ → ν → Nat) (m : StorageMap κ ν) :
    total (fun k v => weight k v + weight' k v) m = total weight m + total weight' m := by
  unfold total
  induction m.entries with
  | nil => rfl
  | cons e entries ih =>
      simp only [List.map_cons, List.sum_cons, ih]
      omega

theorem total_map_le (g : Nat → Nat) (hadd : ∀ a b, g a + g b ≤ g (a + b))
    (weight : κ → ν → Nat) (m : StorageMap κ ν) :
    total (fun k v => g (weight k v)) m ≤ g (total weight m) := by
  unfold total
  induction m.entries with
  | nil => exact Nat.zero_le _
  | cons e entries ih =>
      have he := hadd (weight e.1 e.2) (entries.map fun e => weight e.1 e.2).sum
      simp only [List.map_cons, List.sum_cons]
      exact (Nat.add_le_add_left ih _).trans he

variable [DecidableEq κ]

theorem total_congr_lookup {weight weight' : κ → ν → Nat} (m : StorageMap κ ν)
    (h : ∀ k v, m.lookup k = some v → weight k v = weight' k v) :
    total weight m = total weight' m := by
  unfold total
  congr 1
  apply List.map_congr_left
  intro e he
  exact h e.1 e.2 (lookup_eq_some_iff.2 he)

def weightAt (weight : κ → ν → Nat) (m : StorageMap κ ν) (k : κ) : Nat :=
  (m.lookup k).elim 0 (weight k)

theorem weightAt_of_lookup {weight : κ → ν → Nat} {m : StorageMap κ ν} {k : κ} {v : ν}
    (h : m.lookup k = some v) : m.weightAt weight k = weight k v := by
  rw [weightAt, h, Option.elim_some]

theorem weightAt_of_lookup_none {weight : κ → ν → Nat} {m : StorageMap κ ν} {k : κ}
    (h : m.lookup k = none) : m.weightAt weight k = 0 := by
  rw [weightAt, h, Option.elim_none]

theorem total_single (weight : κ → ν → Nat) (m : StorageMap κ ν) (k : κ) :
    total (fun k' v => if k' = k then weight k' v else 0) m = m.weightAt weight k := by
  obtain ⟨entries, hnodup⟩ := m
  unfold total weightAt lookup
  simp only
  induction entries with
  | nil => rfl
  | cons e entries ih =>
      obtain ⟨k', v⟩ := e
      rw [List.map_cons, List.nodup_cons] at hnodup
      have hrest := ih hnodup.2
      rw [List.map_cons, List.sum_cons, hrest, List.lookup_cons]
      by_cases hk : k = k'
      · have hnone : entries.lookup k = none := by
          rw [List.lookup_eq_none_iff]
          intro e he
          have hne : k ≠ e.1 := by
            rintro rfl
            exact hnodup.1 (List.mem_map.2 ⟨e, he, hk⟩)
          simpa using hne
        simp [hk, hk ▸ hnone]
      · have hbeq : (k == k') = false := by simpa using hk
        simp [hbeq, Ne.symm hk]

theorem total_erase (weight : κ → ν → Nat) (m : StorageMap κ ν) (k : κ) :
    total weight (m.erase k) + m.weightAt weight k = total weight m := by
  rw [erase, total_retain, ← total_single, ← total_add]
  apply total_congr
  intro k' v
  by_cases hk : k' = k <;> simp [hk]

theorem weightAt_le_total (weight : κ → ν → Nat) (m : StorageMap κ ν) (k : κ) :
    m.weightAt weight k ≤ total weight m := by
  have herase := total_erase weight m k
  omega

theorem weightAt_add_le_total (weight : κ → ν → Nat) (m : StorageMap κ ν) {k k' : κ}
    (hk : k' ≠ k) : m.weightAt weight k + m.weightAt weight k' ≤ total weight m := by
  have herase := total_erase weight m k
  have hle := weightAt_le_total weight (m.erase k) k'
  have hkept : (m.erase k).weightAt weight k' = m.weightAt weight k' := by
    rw [weightAt, lookup_erase_eq, if_neg hk, weightAt]
  omega

theorem total_ext (weight : κ → ν → Nat) {m m' : StorageMap κ ν}
    (h : ∀ k, m'.lookup k = m.lookup k) : total weight m' = total weight m := by
  have hperm : m'.entries.Perm m.entries := by
    rw [List.perm_ext_iff_of_nodup m'.nodupKeys.of_map m.nodupKeys.of_map]
    rintro ⟨k, v⟩
    rw [← lookup_eq_some_iff, ← lookup_eq_some_iff, h]
  exact (hperm.map _).sum_eq

theorem total_change (weight : κ → ν → Nat) (m m' : StorageMap κ ν) (k : κ)
    (h : ∀ k', k' ≠ k → m'.lookup k' = m.lookup k') :
    total weight m' + m.weightAt weight k = total weight m + m'.weightAt weight k := by
  have herase := total_erase weight m k
  have herase' := total_erase weight m' k
  have hrest : total weight (m'.erase k) = total weight (m.erase k) := by
    apply total_ext
    intro k'
    rw [lookup_erase_eq, lookup_erase_eq]
    split
    · rfl
    · rename_i hk
      exact h k' hk
  omega

theorem total_change_two (weight : κ → ν → Nat) {m m' : StorageMap κ ν} {k₁ k₂ : κ}
    (hne : k₁ ≠ k₂) (h : ∀ k, k ≠ k₁ → k ≠ k₂ → m'.lookup k = m.lookup k) :
    total weight m' + (m.weightAt weight k₁ + m.weightAt weight k₂) =
      total weight m + (m'.weightAt weight k₁ + m'.weightAt weight k₂) := by
  have herase := total_erase weight m k₁
  have herase' := total_erase weight m' k₁
  have hrest := total_change weight (m.erase k₁) (m'.erase k₁) k₂ ?_
  · have hkept (m : StorageMap κ ν) :
        (m.erase k₁).weightAt weight k₂ = m.weightAt weight k₂ := by
      rw [weightAt, lookup_erase_eq, if_neg hne.symm, weightAt]
    rw [hkept, hkept] at hrest
    omega
  · intro k hk
    rw [lookup_erase_eq, lookup_erase_eq]
    split
    · rfl
    · rename_i hk'
      exact h k hk' hk

theorem total_change_other (weight : κ → ν → Nat) {m m' : StorageMap κ ν} (p : κ → Bool)
    (hweight : ∀ k v, p k = false → weight k v = 0)
    (h : ∀ k, p k = true → m'.lookup k = m.lookup k) : total weight m' = total weight m := by
  have hretain (m : StorageMap κ ν) : total weight (m.retain p) = total weight m := by
    rw [total_retain]
    apply total_congr
    intro k v
    cases hk : p k with
    | true => rfl
    | false => exact (hweight k v hk).symm
  rw [← hretain m', ← hretain m]
  apply total_ext
  intro k
  rw [lookup_retain, lookup_retain]
  cases hk : p k with
  | true => exact h k hk
  | false => rfl

end StorageMap

end Encointer
