import Mathlib.Data.List.Nodup
import Mathlib.Data.Finset.Image

/-!
# Storage maps

A storage map has finitely many entries with different keys. Reading, writing,
removing an entry and removing all entries with a common prefix are
characterized by `lookup`; few callers look at the entries themselves.
-/

namespace Encointer

/-- A finite map from keys to values. -/
structure StorageMap (κ ν : Type) where
  entries : List (κ × ν)
  nodupKeys : (entries.map Prod.fst).Nodup

namespace StorageMap

variable {κ ν : Type}

instance : EmptyCollection (StorageMap κ ν) := ⟨⟨[], List.nodup_nil⟩⟩

def retain (m : StorageMap κ ν) (p : κ → Bool) : StorageMap κ ν where
  entries := m.entries.filter fun e => p e.1
  nodupKeys := m.nodupKeys.sublist (List.filter_sublist.map Prod.fst)

/-- Reads every value as another type, and skips those that are of none. -/
def decodeValues {ν' : Type} (m : StorageMap κ ν) (f : ν → Option ν') : StorageMap κ ν' where
  entries := m.entries.filterMap fun e => (f e.2).map (e.1, ·)
  nodupKeys := by
    have hkeys : (m.entries.filterMap fun e => (f e.2).map (e.1, ·)).map Prod.fst =
        (m.entries.filter fun e => (f e.2).isSome).map Prod.fst := by
      induction m.entries with
      | nil => rfl
      | cons e entries ih =>
          cases hvalue : f e.2 with
          | none => simp [hvalue, ih]
          | some v => simp [hvalue, ih]
    rw [hkeys]
    exact m.nodupKeys.sublist (List.filter_sublist.map Prod.fst)

variable [DecidableEq κ]

def lookup (m : StorageMap κ ν) (k : κ) : Option ν := m.entries.lookup k

def erase (m : StorageMap κ ν) (k : κ) : StorageMap κ ν := m.retain fun k' => k' ≠ k

theorem not_mem_erase (m : StorageMap κ ν) (k : κ) :
    k ∉ (m.erase k).entries.map Prod.fst := by
  intro h
  obtain ⟨e, he, hk⟩ := List.mem_map.1 h
  exact of_decide_eq_true (List.mem_filter.1 he).2 hk

def insert (m : StorageMap κ ν) (k : κ) (v : ν) : StorageMap κ ν where
  entries := (k, v) :: (m.erase k).entries
  nodupKeys := List.nodup_cons.2 ⟨m.not_mem_erase k, (m.erase k).nodupKeys⟩

def get (m : StorageMap κ ν) (k : κ) (default : ν) : ν := (m.lookup k).getD default

def contains (m : StorageMap κ ν) (k : κ) : Bool := (m.lookup k).isSome

/-- Removes all entries under the first key `pre` of a double map. -/
def removePrefix {π : Type} [DecidableEq π] (m : StorageMap (π × κ) ν) (pre : π) :
    StorageMap (π × κ) ν :=
  m.retain fun k => k.1 ≠ pre

def support (m : StorageMap κ ν) : Finset κ := (m.entries.map Prod.fst).toFinset

/-! ## Lookups -/

theorem lookup_filter (p : κ → Bool) (entries : List (κ × ν)) (k : κ) :
    (entries.filter fun e => p e.1).lookup k = if p k then entries.lookup k else none := by
  induction entries with
  | nil => simp
  | cons e entries ih =>
      obtain ⟨k', v⟩ := e
      by_cases hk : k = k'
      · subst hk
        by_cases hp : p k
        · simp [hp]
        · simp [hp, ih]
      · have hbeq : (k == k') = false := by simpa using hk
        by_cases hp : p k'
        · simp [hp, List.lookup_cons, hbeq, ih]
        · simp [hp, List.lookup_cons, hbeq, ih]

theorem lookup_retain (m : StorageMap κ ν) (p : κ → Bool) (k : κ) :
    (m.retain p).lookup k = if p k then m.lookup k else none :=
  lookup_filter p m.entries k

theorem lookup_erase_eq (m : StorageMap κ ν) (k k' : κ) :
    (m.erase k).lookup k' = if k' = k then none else m.lookup k' := by
  unfold erase
  rw [lookup_retain]
  by_cases h : k' = k <;> simp [h]

theorem lookup_insert_eq (m : StorageMap κ ν) (k : κ) (v : ν) (k' : κ) :
    (m.insert k v).lookup k' = if k' = k then some v else m.lookup k' := by
  have hcons : (m.insert k v).lookup k' = if k' = k then some v else (m.erase k).lookup k' := by
    unfold lookup insert
    rw [List.lookup_cons]
    by_cases h : k' = k
    · simp [h]
    · have hbeq : (k' == k) = false := by simpa using h
      simp [hbeq, h]
  rw [hcons, lookup_erase_eq]
  split <;> rfl

theorem lookup_removePrefix {π : Type} [DecidableEq π] (m : StorageMap (π × κ) ν) (pre : π)
    (k : π × κ) : (m.removePrefix pre).lookup k = if k.1 = pre then none else m.lookup k := by
  unfold removePrefix
  rw [lookup_retain]
  by_cases h : k.1 = pre <;> simp [h]

theorem lookup_of_not_mem {entries : List (κ × ν)} {k : κ} (h : k ∉ entries.map Prod.fst) :
    entries.lookup k = none := by
  rw [List.lookup_eq_none_iff]
  intro e he
  have hne : k ≠ e.1 := fun hk => h (List.mem_map.2 ⟨e, he, hk.symm⟩)
  simpa using hne

theorem lookup_decodeValues {ν' : Type} (m : StorageMap κ ν) (f : ν → Option ν') (k : κ) :
    (m.decodeValues f).lookup k = (m.lookup k).bind f := by
  obtain ⟨entries, hnodup⟩ := m
  unfold lookup decodeValues
  simp only
  induction entries with
  | nil => rfl
  | cons e entries ih =>
      obtain ⟨k', v⟩ := e
      rw [List.map_cons, List.nodup_cons] at hnodup
      have ih := ih hnodup.2
      by_cases hk : k = k'
      · subst hk
        cases hvalue : f v with
        | some w => simp [hvalue]
        | none =>
            rw [lookup_of_not_mem hnodup.1] at ih
            simpa [hvalue] using ih
      · have hbeq : (k == k') = false := by simpa using hk
        cases hvalue : f v with
        | some w => simpa [hvalue, List.lookup_cons, hbeq] using ih
        | none => simpa [hvalue, List.lookup_cons, hbeq] using ih

@[simp] theorem lookup_empty (k : κ) : (∅ : StorageMap κ ν).lookup k = none := rfl

theorem lookup_eq_some_iff {m : StorageMap κ ν} {k : κ} {v : ν} :
    m.lookup k = some v ↔ (k, v) ∈ m.entries := by
  obtain ⟨entries, hnodup⟩ := m
  unfold lookup
  simp only
  induction entries with
  | nil => simp
  | cons e entries ih =>
      obtain ⟨k', v'⟩ := e
      rw [List.map_cons, List.nodup_cons] at hnodup
      rw [List.lookup_cons, List.mem_cons]
      by_cases hk : k = k'
      · subst hk
        have hnot : (k, v) ∉ entries := fun hmem =>
          hnodup.1 (List.mem_map.2 ⟨(k, v), hmem, rfl⟩)
        simp [hnot, eq_comm]
      · have hbeq : (k == k') = false := by simpa using hk
        rw [hbeq, ih hnodup.2]
        simp [hk]

theorem lookup_perm {entries entries' : List (κ × ν)} (hperm : entries.Perm entries')
    (hnodup : (entries.map Prod.fst).Nodup) (k : κ) : entries.lookup k = entries'.lookup k := by
  let m : StorageMap κ ν := ⟨entries, hnodup⟩
  let m' : StorageMap κ ν := ⟨entries', (hperm.map Prod.fst).nodup_iff.1 hnodup⟩
  have hsame (v : ν) : m.lookup k = some v ↔ m'.lookup k = some v := by
    rw [lookup_eq_some_iff, lookup_eq_some_iff]
    exact hperm.mem_iff
  exact Option.ext hsame

theorem lookup_foldl_insert (f : κ → ν) (ks : List κ) (m : StorageMap κ ν) (k' : κ) :
    (ks.foldl (fun m k => m.insert k (f k)) m).lookup k' =
      if k' ∈ ks then some (f k') else m.lookup k' := by
  induction ks generalizing m with
  | nil => rfl
  | cons k ks ih =>
      rw [List.foldl_cons, ih, lookup_insert_eq]
      by_cases hks : k' ∈ ks
      · simp [hks]
      · by_cases hk : k' = k
        · simp [hk]
        · simp [hks, hk]

/-! ## Values with a default -/

@[simp] theorem get_empty (k : κ) (d : ν) : get (∅ : StorageMap κ ν) k d = d := by
  simp [get]

theorem get_insert (m : StorageMap κ ν) (k : κ) (v : ν) (k' : κ) (d : ν) :
    (StorageMap.get (m.insert k v) k' d) = if k' = k then v else m.get k' d := by
  unfold get
  rw [lookup_insert_eq]
  split <;> rfl

theorem get_erase (m : StorageMap κ ν) (k k' : κ) (d : ν) :
    (StorageMap.get (m.erase k) k' d) = if k' = k then d else m.get k' d := by
  unfold get
  rw [lookup_erase_eq]
  split <;> rfl

theorem get_removePrefix {π : Type} [DecidableEq π] (m : StorageMap (π × κ) ν) (pre : π)
    (k : π × κ) (d : ν) :
    (m.removePrefix pre).get k d = if k.1 = pre then d else m.get k d := by
  unfold get
  rw [lookup_removePrefix]
  split <;> rfl

theorem get_of_lookup {m : StorageMap κ ν} {k : κ} {v d : ν} (h : m.lookup k = some v) :
    m.get k d = v := by
  rw [get, h, Option.getD_some]

theorem get_of_lookup_none {m : StorageMap κ ν} {k : κ} {d : ν} (h : m.lookup k = none) :
    m.get k d = d := by
  rw [get, h, Option.getD_none]

theorem lookup_of_get_ne {m : StorageMap κ ν} {k : κ} {d : ν} (h : m.get k d ≠ d) :
    m.lookup k = some (m.get k d) := by
  cases hk : m.lookup k with
  | none => exact absurd (get_of_lookup_none hk) h
  | some v => rw [get_of_lookup hk]

theorem contains_eq_true {m : StorageMap κ ν} {k : κ} :
    m.contains k = true ↔ ∃ v, m.lookup k = some v := Option.isSome_iff_exists

theorem contains_eq_false {m : StorageMap κ ν} {k : κ} :
    m.contains k = false ↔ m.lookup k = none := by
  unfold contains
  rw [Option.isSome_eq_false_iff, Option.isNone_iff_eq_none]

theorem contains_insert (m : StorageMap κ ν) (k : κ) (v : ν) (k' : κ) :
    StorageMap.contains (m.insert k v) k' = (decide (k' = k) || m.contains k') := by
  unfold contains
  rw [lookup_insert_eq]
  by_cases h : k' = k
  · simp [h]
  · simp [h]

/-! ## The support -/

theorem mem_support {m : StorageMap κ ν} {k : κ} : k ∈ m.support ↔ ∃ v, m.lookup k = some v := by
  unfold support lookup
  rw [List.mem_toFinset]
  induction m.entries with
  | nil => simp
  | cons e entries ih =>
      obtain ⟨k', v⟩ := e
      by_cases hk : k = k'
      · simp [hk]
      · have hbeq : (k == k') = false := by simpa using hk
        rw [List.map_cons, List.mem_cons, ih, List.lookup_cons]
        simp [hbeq, hk]

end StorageMap

end Encointer
