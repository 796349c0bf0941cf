import Mathlib.Data.List.Nodup

/-!
# Bounded vectors

A vector that takes elements at its end until it is full. Pushing many elements,
where those that do not fit are dropped, keeps the first ones.
-/

namespace Encointer

namespace BoundedVec

variable {α : Type} {bound : Nat} {queue : List α}

/-- The vector with `x` at its end, if there is room. -/
def tryPush (bound : Nat) (queue : List α) (x : α) : Option (List α) :=
  if queue.length < bound then some (queue ++ [x]) else none

/-- Drops `x` when the vector is full. -/
def pushOrDrop (bound : Nat) (queue : List α) (x : α) : List α :=
  (tryPush bound queue x).getD queue

theorem pushOrDrop_of_lt (hroom : queue.length < bound) (x : α) :
    pushOrDrop bound queue x = queue ++ [x] := by
  unfold pushOrDrop tryPush
  rw [if_pos hroom, Option.getD_some]

theorem pushOrDrop_of_full (hfull : queue.length = bound) (x : α) :
    pushOrDrop bound queue x = queue := by
  unfold pushOrDrop tryPush
  rw [if_neg (by omega), Option.getD_none]

theorem foldl_pushOrDrop (xs : List α) (hbound : queue.length ≤ bound) :
    xs.foldl (pushOrDrop bound) queue = (queue ++ xs).take bound := by
  induction xs generalizing queue with
  | nil => rw [List.foldl_nil, List.append_nil, List.take_of_length_le hbound]
  | cons x xs ih =>
      rw [List.foldl_cons]
      by_cases hroom : queue.length < bound
      · have hlength : (queue ++ [x]).length ≤ bound := by
          rw [List.length_append, List.length_singleton]
          exact hroom
        rw [pushOrDrop_of_lt hroom, ih hlength, List.append_assoc, List.singleton_append]
      · have hfull : queue.length = bound := by omega
        rw [pushOrDrop_of_full hfull, ih hbound, ← hfull, List.take_left, List.take_left]

end BoundedVec

end Encointer
