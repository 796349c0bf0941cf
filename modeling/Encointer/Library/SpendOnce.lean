import Encointer.Library.Machine
import Mathlib.Data.List.Nodup

/-!
# Keys that are spent once

A step spends keys that were not spent before, and a spent key stays spent. So no
run spends a key twice, whatever keys are and wherever a state remembers them.
-/

namespace Encointer

/-- The step from one set of spent keys to the next spends the new keys, in order. -/
structure SpendsOnce {κ : Type} (spent spent' : κ → Prop) (new : List κ) : Prop where
  nodup : new.Nodup
  fresh : ∀ k ∈ new, ¬ spent k
  grows : ∀ k, spent k → spent' k
  spends : ∀ k ∈ new, spent' k

namespace SpendsOnce

variable {κ : Type} {spent spent' spent'' : κ → Prop} {new new' old : List κ}

theorem of_nil (h : ∀ k, spent k → spent' k) : SpendsOnce spent spent' [] where
  nodup := List.nodup_nil
  fresh := by
    intro k hk
    cases hk
  grows := h
  spends := by
    intro k hk
    cases hk

theorem refl (spent : κ → Prop) : SpendsOnce spent spent [] :=
  of_nil fun _ h => h

theorem singleton {k : κ} (hfresh : ¬ spent k) (hgrows : ∀ k, spent k → spent' k)
    (hspends : spent' k) : SpendsOnce spent spent' [k] where
  nodup := List.nodup_singleton k
  fresh := by
    intro k' hk'
    rw [List.mem_singleton.1 hk']
    exact hfresh
  grows := hgrows
  spends := by
    intro k' hk'
    rw [List.mem_singleton.1 hk']
    exact hspends

theorem nodup_append (h : SpendsOnce spent spent' new) (hold : old.Nodup)
    (hspent : ∀ k ∈ old, spent k) : (old ++ new).Nodup := by
  apply List.Nodup.append hold h.nodup
  intro k hk hk'
  exact h.fresh k hk' (hspent k hk)

theorem spent_append (h : SpendsOnce spent spent' new) (hspent : ∀ k ∈ old, spent k) :
    ∀ k ∈ old ++ new, spent' k := by
  intro k hk
  rcases List.mem_append.1 hk with hk | hk
  · exact h.grows k (hspent k hk)
  · exact h.spends k hk

theorem trans (h : SpendsOnce spent spent' new) (h' : SpendsOnce spent' spent'' new') :
    SpendsOnce spent spent'' (new ++ new') where
  nodup := h'.nodup_append h.nodup h.spends
  fresh := by
    intro k hk hspent
    rcases List.mem_append.1 hk with hk | hk
    · exact h.fresh k hk hspent
    · exact h'.fresh k hk (h.grows k hspent)
  grows := by
    intro k hspent
    exact h'.grows k (h.grows k hspent)
  spends := h'.spent_append h.spends

end SpendsOnce

/-! ## Images of keys

What is spent may stand for something else, which is then spent with it. -/

section Images

variable {σ α κ φ : Type} {step : σ → α → σ} {f : κ → φ} {spends : σ → α → List κ}
  {spent : σ → κ → Prop}

/-- No key is spent whose image is that of a spent key. -/
def FreshImages (f : κ → φ) (spends : σ → α → List κ) (spent : σ → κ → Prop) (s : σ) (a : α) :
    Prop :=
  ∀ k ∈ spends s a, ∀ k', spent s k' → f k' ≠ f k

/-- The images of what a run spends are new and distinct just if those of each step are new. -/
theorem nodup_map_log_iff (hnodup : ∀ s a, ((spends s a).map f).Nodup)
    (hstep : ∀ s a k, spent (step s a) k ↔ spent s k ∨ k ∈ spends s a) (s : σ)
    (actions : List α) :
    (((Machine.log step spends s actions).map f).Nodup ∧
        ∀ k ∈ Machine.log step spends s actions, ∀ k', spent s k' → f k' ≠ f k) ↔
      Machine.Along step (FreshImages f spends spent) s actions := by
  induction actions generalizing s with
  | nil => simp [Machine.log, Machine.Along]
  | cons a rest ih =>
      rw [Machine.log, Machine.Along, ← ih, List.map_append, List.nodup_append]
      constructor
      · rintro ⟨⟨-, hrest, hdisjoint⟩, hnew⟩
        refine ⟨?_, hrest, ?_⟩
        · intro k hk
          exact hnew k (List.mem_append_left _ hk)
        · intro k hk k' hk'
          rcases (hstep s a k').1 hk' with hspent | hspends
          · exact hnew k (List.mem_append_right _ hk) k' hspent
          · exact hdisjoint (f k') (List.mem_map_of_mem hspends) (f k) (List.mem_map_of_mem hk)
      · rintro ⟨hfresh, hrest, hnew⟩
        refine ⟨⟨hnodup s a, hrest, ?_⟩, ?_⟩
        · intro image himage image' himage'
          obtain ⟨k', hk', rfl⟩ := List.mem_map.1 himage
          obtain ⟨k, hk, rfl⟩ := List.mem_map.1 himage'
          exact hnew k hk k' ((hstep s a k').2 (.inr hk'))
        · intro k hk k' hspent
          rcases List.mem_append.1 hk with hk | hk
          · exact hfresh k hk k' hspent
          · exact hnew k hk k' ((hstep s a k').2 (.inl hspent))

end Images

/-- An entry that records a key is the only one that does. -/
theorem eq_of_nodup_filterMap {α κ : Type} {f : α → Option κ} {entries : List α}
    (h : (entries.filterMap f).Nodup) {x y : α} {k : κ} (hx : x ∈ entries) (hy : y ∈ entries)
    (hfx : f x = some k) (hfy : f y = some k) : x = y := by
  induction entries with
  | nil => cases hx
  | cons e entries ih =>
      have hrest : (entries.filterMap f).Nodup :=
        List.Nodup.sublist ((List.sublist_cons_self e entries).filterMap f) h
      have hhead (z : α) (hz : z ∈ entries) (hfe : f e = some k) : f z ≠ some k := by
        intro hfz
        rw [List.filterMap_cons_some hfe, List.nodup_cons] at h
        exact h.1 (List.mem_filterMap.2 ⟨z, hz, hfz⟩)
      rcases List.mem_cons.1 hx with rfl | hx'
      · rcases List.mem_cons.1 hy with rfl | hy'
        · rfl
        · exact absurd hfy (hhead y hy' hfx)
      · rcases List.mem_cons.1 hy with rfl | hy'
        · exact absurd hfx (hhead x hx' hfy)
        · exact ih hrest hx' hy'

end Encointer
