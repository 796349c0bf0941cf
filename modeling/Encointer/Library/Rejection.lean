import Mathlib.Data.Int.CardIntervalMod
import Mathlib.Data.List.Basic

/-!
# Drawing until a draw is accepted

A loop that draws may not end, so it is given a number of turns; running out of
them is kept apart from a panic. Draws from the first multiples of a range are
fair: every remainder is hit equally often.
-/

namespace Encointer.Rejection

/-! ## The loop -/

/-- Why a computation has no result. -/
inductive Stop where
  | panicked
  | unfinished
  deriving DecidableEq, Repr

section

variable {σ α : Type}

/-- A turn panics, accepts what it draws, or only moves the state on. -/
def retry (turn : σ → Option (Option α × σ)) : Nat → σ → Except Stop (α × σ)
  | 0, _ => .error .unfinished
  | fuel + 1, s =>
      match turn s with
      | none => .error .panicked
      | some (some a, s') => .ok (a, s')
      | some (none, s') => retry turn fuel s'

/-- Some turn of the loop accepts its draw. -/
inductive Accepts (turn : σ → Option (Option α × σ)) : σ → Prop where
  | now {s s' : σ} {a : α} (h : turn s = some (some a, s')) : Accepts turn s
  | later {s s' : σ} (h : turn s = some (none, s')) (hrest : Accepts turn s') : Accepts turn s

variable {turn : σ → Option (Option α × σ)}

theorem retry_ne_panicked (hturn : ∀ s, (turn s).isSome) (fuel : Nat) (s : σ) :
    retry turn fuel s ≠ .error .panicked := by
  induction fuel generalizing s with
  | zero => simp [retry]
  | succ fuel ih =>
      obtain ⟨⟨drawn, s'⟩, hs⟩ := Option.isSome_iff_exists.mp (hturn s)
      cases drawn with
      | none =>
          rw [retry, hs]
          exact ih s'
      | some a => simp [retry, hs]

/-- The result is the one of the accepting turn. -/
theorem exists_turn_of_retry {fuel : Nat} {s s' : σ} {a : α} (h : retry turn fuel s = .ok (a, s')) :
    ∃ before, turn before = some (some a, s') := by
  induction fuel generalizing s with
  | zero => simp [retry] at h
  | succ fuel ih =>
      cases hs : turn s with
      | none => simp [retry, hs] at h
      | some result =>
          obtain ⟨drawn, next⟩ := result
          cases drawn with
          | none => exact ih (by simpa [retry, hs] using h)
          | some b =>
              have hresult : b = a ∧ next = s' := by simpa [retry, hs] using h
              exact ⟨s, by rw [hs, hresult.1, hresult.2]⟩

theorem retry_mono {fuel fuel' : Nat} {s : σ} {result : α × σ} (hfuel : fuel ≤ fuel')
    (h : retry turn fuel s = .ok result) : retry turn fuel' s = .ok result := by
  induction fuel generalizing s fuel' with
  | zero => simp [retry] at h
  | succ fuel ih =>
      obtain ⟨more, rfl⟩ : ∃ more, fuel' = more + 1 := ⟨fuel' - 1, by omega⟩
      cases hs : turn s with
      | none => simp [retry, hs] at h
      | some drawn =>
          obtain ⟨drawn, next⟩ := drawn
          cases drawn with
          | none =>
              rw [retry, hs] at h ⊢
              exact ih (by omega) h
          | some a => simpa [retry, hs] using h

/-- A loop with an accepting turn ends, given turns enough. -/
theorem exists_retry_of_accepts {s : σ} (h : Accepts turn s) :
    ∃ fuel a s', retry turn fuel s = .ok (a, s') := by
  induction h with
  | @now s s' a h => exact ⟨1, a, s', by simp [retry, h]⟩
  | later h _ ih =>
      obtain ⟨fuel, a, s', hretry⟩ := ih
      exact ⟨fuel + 1, a, s', by simp [retry, h, hretry]⟩

end

/-! ## Fairness -/

/-- How many draws are accepted: the multiples of the range among them. -/
def accepted (draws range : Nat) : Nat := draws / range * range

theorem accepted_le (draws range : Nat) : accepted draws range ≤ draws := Nat.div_mul_le_self _ _

theorem accepted_pos {draws range : Nat} (hrange : 0 < range) (h : range ≤ draws) :
    0 < accepted draws range :=
  Nat.mul_pos (Nat.div_pos h hrange) hrange

/-- Each remainder is drawn equally often among the accepted draws. -/
theorem card_accepted {draws range value : Nat} (h : value < range) :
    ((Finset.range (accepted draws range)).filter fun raw => raw % range = value).card =
      draws / range := by
  have hrange : 0 < range := Nat.zero_lt_of_lt h
  have hcount := Nat.count_modEq_card (b := accepted draws range) hrange value
  rw [Nat.count_eq_card_filter_range, accepted, Nat.mul_div_cancel _ hrange, Nat.mul_mod_left,
    if_neg (Nat.not_lt_zero _), Nat.add_zero] at hcount
  rw [← hcount, accepted]
  congr 1
  refine Finset.filter_congr fun raw _ => ?_
  rw [Nat.ModEq, Nat.mod_eq_of_lt h]

end Encointer.Rejection
