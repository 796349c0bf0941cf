import Mathlib.Data.List.Basic
import Mathlib.Data.List.Nodup

/-!
# Loops that push results

A loop that fails in no round returns what its rounds push, in order.
-/

namespace Encointer.Loop

variable {α β : Type}

/-- A loop over `xs` whose round `x` appends `f x`, or aborts. -/
def collectM (f : α → Option (List β)) (xs : List α) : Option (List β) :=
  xs.foldlM (fun result x => do some (result ++ (← f x))) []

theorem foldlM_append_eq {f : α → Option (List β)} (xs : List α) (acc : List β)
    (hf : ∀ x ∈ xs, (f x).isSome) :
    xs.foldlM (fun result x => do some (result ++ (← f x))) acc =
      some (acc ++ xs.flatMap fun x => (f x).getD []) := by
  induction xs generalizing acc with
  | nil => simp
  | cons x xs ih =>
      obtain ⟨pushed, hx⟩ := Option.isSome_iff_exists.mp (hf x List.mem_cons_self)
      have hrest := ih (acc ++ pushed) fun y hy => hf y (List.mem_cons_of_mem x hy)
      simp only [List.foldlM_cons, hx, Option.bind_eq_bind, Option.bind_some] at hrest ⊢
      rw [hrest]
      simp [hx, List.append_assoc]

theorem collectM_eq {f : α → Option (List β)} {xs : List α} (hf : ∀ x ∈ xs, (f x).isSome) :
    collectM f xs = some (xs.flatMap fun x => (f x).getD []) :=
  foldlM_append_eq xs [] hf

/-- The collected list is duplicate-free when each round is and the rounds are disjoint. -/
theorem collectM_nodup (f : α → Option (List β)) (xs : List α) (hf : ∀ x ∈ xs, (f x).isSome)
    (hxs : xs.Nodup) (hnodup : ∀ x ∈ xs, ∀ pushed, f x = some pushed → pushed.Nodup)
    (hdisjoint : ∀ x ∈ xs, ∀ y ∈ xs, ∀ pushed pushed', f x = some pushed → f y = some pushed' →
      ∀ b, b ∈ pushed → b ∈ pushed' → x = y) :
    ∃ list, collectM f xs = some list ∧ list.Nodup ∧
      ∀ b, b ∈ list ↔ ∃ x ∈ xs, ∃ pushed, f x = some pushed ∧ b ∈ pushed := by
  refine ⟨_, collectM_eq hf, ?_, fun b => ?_⟩
  · rw [List.nodup_flatMap]
    constructor
    · intro x hx
      obtain ⟨pushed, hp⟩ := Option.isSome_iff_exists.mp (hf x hx)
      simpa [hp] using hnodup x hx pushed hp
    · refine List.Pairwise.imp_of_mem ?_ hxs
      intro x y hx hy hne b hb hb'
      obtain ⟨pushed, hp⟩ := Option.isSome_iff_exists.mp (hf x hx)
      obtain ⟨pushed', hp'⟩ := Option.isSome_iff_exists.mp (hf y hy)
      simp only [hp, hp', Option.getD_some] at hb hb'
      exact hne (hdisjoint x hx y hy pushed pushed' hp hp' b hb hb')
  · simp only [List.mem_flatMap]
    constructor
    · rintro ⟨x, hx, hb⟩
      obtain ⟨pushed, hp⟩ := Option.isSome_iff_exists.mp (hf x hx)
      exact ⟨x, hx, pushed, hp, by simpa [hp] using hb⟩
    · rintro ⟨x, hx, pushed, hp, hb⟩
      exact ⟨x, hx, by simpa [hp] using hb⟩

theorem filterMap_range_getElem (xs : List α) :
    (List.range xs.length).filterMap (fun i => xs[i]?) = xs := by
  induction xs with
  | nil => rfl
  | cons x xs ih =>
      rw [List.length_cons, List.range_succ_eq_map, List.filterMap_cons, List.filterMap_map]
      simpa using ih

theorem filterMap_getElem_sublist {xs : List α} {indices : List Nat}
    (h : indices.Sublist (List.range xs.length)) :
    (indices.filterMap fun i => xs[i]?).Sublist xs := by
  have hall := h.filterMap fun i => xs[i]?
  rw [filterMap_range_getElem] at hall
  exact hall

end Encointer.Loop
