import Mathlib.Data.List.Basic

/-!
# Strictly sorted lists

A list that is strictly sorted has no duplicates. Inserting a new element behind
all smaller ones, and erasing elements, keep it sorted.
-/

namespace Encointer

variable {α : Type}

/-- A decidable strict order in which different elements are comparable. -/
structure StrictOrder (lt : α → α → Bool) : Prop where
  irrefl : ∀ x, lt x x = false
  trans : ∀ x y z, lt x y = true → lt y z = true → lt x z = true
  connected : ∀ x y, x ≠ y → lt x y = true ∨ lt y x = true

/-- Every element is smaller than all that follow. -/
def StrictlySorted (lt : α → α → Bool) (xs : List α) : Prop :=
  xs.Pairwise fun x y => lt x y = true

namespace StrictlySorted

variable {lt : α → α → Bool} {xs : List α}

theorem nil : StrictlySorted lt ([] : List α) := List.Pairwise.nil

theorem singleton (x : α) : StrictlySorted lt [x] := List.pairwise_singleton _ x

theorem nodup (hlt : StrictOrder lt) (h : StrictlySorted lt xs) : xs.Nodup := by
  apply List.Pairwise.imp _ h
  intro x y hxy heq
  rw [heq, hlt.irrefl] at hxy
  cases hxy

theorem sublist {ys : List α} (h : StrictlySorted lt xs) (hsub : ys.Sublist xs) :
    StrictlySorted lt ys :=
  List.Pairwise.sublist hsub h

theorem countP_eq_zero (hlt : StrictOrder lt) {x y : α} (h : StrictlySorted lt (y :: xs))
    (hxy : lt x y = true) : (y :: xs).countP (fun z => lt z x) = 0 := by
  have hbelow : ∀ z, lt x z = true → ¬ lt z x = true := by
    intro z hxz hzx
    have hxx := hlt.trans x z x hxz hzx
    rw [hlt.irrefl] at hxx
    cases hxx
  rw [List.countP_eq_zero]
  intro z hz
  apply hbelow
  rcases List.mem_cons.1 hz with rfl | hz
  · exact hxy
  · exact hlt.trans x y z hxy (List.rel_of_pairwise_cons h hz)

theorem insertIdx (hlt : StrictOrder lt) {x : α} (h : StrictlySorted lt xs) (hx : x ∉ xs) :
    StrictlySorted lt (xs.insertIdx (xs.countP fun y => lt y x) x) := by
  induction xs with
  | nil => exact singleton x
  | cons y ys ih =>
      rw [List.mem_cons, not_or] at hx
      cases hyx : lt y x with
      | true =>
          have hcount : (y :: ys).countP (fun z => lt z x) = ys.countP (fun z => lt z x) + 1 :=
            List.countP_cons_of_pos hyx
          rw [hcount, List.insertIdx_succ_cons]
          refine List.Pairwise.cons ?_ (ih (List.Pairwise.of_cons h) hx.2)
          intro z hz
          rcases (List.mem_insertIdx List.countP_le_length).1 hz with rfl | hz
          · exact hyx
          · exact List.rel_of_pairwise_cons h hz
      | false =>
          have hxy : lt x y = true := by
            rcases hlt.connected x y hx.1 with hxy | hxy
            · exact hxy
            · rw [hyx] at hxy
              cases hxy
          rw [countP_eq_zero hlt h hxy, List.insertIdx_zero]
          refine List.Pairwise.cons ?_ h
          intro z hz
          rcases List.mem_cons.1 hz with rfl | hz
          · exact hxy
          · exact hlt.trans x y z hxy (List.rel_of_pairwise_cons h hz)

end StrictlySorted

theorem eraseIdx_of_findIdx? [DecidableEq α] {xs : List α} {x : α} {i : Nat}
    (h : xs.findIdx? (fun y => y = x) = some i) : xs.eraseIdx i = xs.erase x := by
  have hidx : xs.idxOf? x = some i := h
  rw [List.erase_eq_eraseIdx, hidx]

end Encointer
