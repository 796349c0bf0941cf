import Mathlib.Data.Int.GCD
import Mathlib.Data.Int.ModEq
import Encointer.Assignment.Math

/-!
# The modular inverse

Extended Euclid keeps the products of remainders and coefficients equal to the
module, which bounds every intermediate value. The signs of the coefficients
alternate, so they are naturals up to one sign.
-/

namespace Encointer.Assignment

open Checked

/-- The state of the loop: remainders `r₀ > r₁`, coefficients `ε * u` and `-ε * v`. -/
structure EuclidState (a m : Nat) (r₀ r₁ u v : Nat) (ε : Int) : Prop where
  sign : ε = 1 ∨ ε = -1
  lt : r₁ < r₀
  le : r₀ ≤ m
  product : r₀ * v + r₁ * u = m
  gcd : Nat.gcd r₀ r₁ = Nat.gcd m a
  first : (r₀ : Int) ≡ a * (ε * u) [ZMOD m]
  second : (r₁ : Int) ≡ a * (-ε * v) [ZMOD m]

theorem EuclidState.start {a m : Nat} (ham : a < m) : EuclidState a m m a 0 1 (-1) where
  sign := Or.inr rfl
  lt := ham
  le := le_refl m
  product := by omega
  gcd := rfl
  first := by simp
  second := by simp [Int.ModEq]

theorem EuclidState.next {a m r₀ r₁ u v : Nat} {ε : Int} (h : EuclidState a m r₀ r₁ u v ε)
    (hr : 0 < r₁) :
    EuclidState a m r₁ (r₀ % r₁) v (u + r₀ / r₁ * v) (-ε) where
  sign := by rcases h.sign with h | h <;> simp [h]
  lt := Nat.mod_lt r₀ hr
  le := (h.lt.trans_le h.le).le
  product := by
    have hdiv := Nat.mod_add_div r₀ r₁
    calc r₁ * (u + r₀ / r₁ * v) + r₀ % r₁ * v
        = (r₀ % r₁ + r₁ * (r₀ / r₁)) * v + r₁ * u := by ring
      _ = m := by rw [hdiv, h.product]
  gcd := by rw [Nat.gcd_comm, ← Nat.gcd_rec, Nat.gcd_comm, h.gcd]
  first := by simpa using h.second
  second := by
    have hdiv : (r₀ : Int) % r₁ = r₀ - r₁ * (r₀ / r₁) := Int.emod_def r₀ r₁
    have hstep := h.first.sub (h.second.mul_right (r₀ / r₁ : Int))
    push_cast
    rw [hdiv]
    convert hstep using 1
    ring

theorem EuclidState.bounds {a m r₀ r₁ u v : Nat} {ε : Int} (h : EuclidState a m r₀ r₁ u v ε) :
    v ≤ m ∧ (0 < r₁ → u ≤ m) := by
  have hr₀ : 0 < r₀ := h.lt.pos
  refine ⟨?_, fun hr => ?_⟩
  · calc v ≤ r₀ * v := Nat.le_mul_of_pos_left v hr₀
      _ ≤ m := by rw [← h.product]; exact Nat.le_add_right _ _
  · calc u ≤ r₁ * u := Nat.le_mul_of_pos_left u hr
      _ ≤ m := by rw [← h.product]; exact Nat.le_add_left _ _

theorem natAbs_sign_mul {ε : Int} (h : ε = 1 ∨ ε = -1) (u : Nat) : |ε * u| = u := by
  rcases h with rfl | rfl <;> simp

theorem neg_sign {ε : Int} (h : ε = 1 ∨ ε = -1) : -ε = 1 ∨ -ε = -1 := by
  rcases h with rfl | rfl <;> simp

/-- The loop returns a coefficient of the gcd, at most half the module in size. -/
theorem modInvLoop_spec {a m : Nat} (hm : m < 2 ^ 62) (hcop : Nat.Coprime m a) (fuel : Nat)
    {r₀ r₁ u v : Nat} {ε : Int} (h : EuclidState a m r₀ r₁ u v ε)
    (hu : 2 * u ≤ m ∨ 0 < r₁) (hfuel : r₁ < fuel) :
    ∃ x : Int, modInvLoop fuel (r₀, r₁) (ε * u, -ε * v) = some x ∧
      |x| * 2 ≤ m ∧ a * x ≡ 1 [ZMOD m] := by
  induction fuel generalizing r₀ r₁ u v ε with
  | zero => omega
  | succ fuel ih =>
      by_cases hr : r₁ = 0
      · subst hr
        have hr₀ : r₀ = 1 := by simpa [Nat.gcd_zero_right, hcop] using h.gcd
        refine ⟨ε * u, by simp [modInvLoop], ?_, ?_⟩
        · rw [natAbs_sign_mul h.sign]
          rcases hu with hu | hu
          · omega
          · omega
        · simpa [hr₀] using h.first.symm
      · have hpos : 0 < r₁ := Nat.pos_of_ne_zero hr
        have hnext := h.next hpos
        have hdiv : divI64 (r₀ : Int) r₁ = some ((r₀ / r₁ : Nat) : Int) := by
          rw [divI64, if_neg (by omega), ← Int.ofNat_tdiv]
          have hquot := Nat.div_le_self r₀ r₁
          have hle := h.le
          generalize r₀ / r₁ = quotient at hquot ⊢
          exact toI64_of_bounds (by omega) (by omega)
        have hprod : mulI64 ((r₀ / r₁ : Nat) : Int) (-ε * v) = some (-ε * (r₀ / r₁ * v : Nat)) := by
          have heq : ((r₀ / r₁ : Nat) : Int) * (-ε * v) = -ε * (r₀ / r₁ * v : Nat) := by
            push_cast; ring
          have hle := hnext.bounds.1
          rw [mulI64, heq]
          refine toI64_of_abs ?_
          rw [natAbs_sign_mul (neg_sign h.sign)]
          omega
        have hdiff : subI64 (ε * u) (-ε * (r₀ / r₁ * v : Nat)) =
            some (-(-ε) * (u + r₀ / r₁ * v : Nat)) := by
          have heq : ε * u - -ε * (r₀ / r₁ * v : Nat) = -(-ε) * (u + r₀ / r₁ * v : Nat) := by
            push_cast; ring
          have hle := hnext.bounds.1
          rw [subI64, heq]
          refine toI64_of_abs ?_
          rw [natAbs_sign_mul (neg_sign (neg_sign h.sign))]
          omega
        have hrem : checkedModuloI64 (r₀ : Int) r₁ = some ((r₀ % r₁ : Nat) : Int) := by
          rw [checkedModuloI64, if_neg (by omega), Int.ofNat_tmod]
        have hv : 2 * v ≤ m ∨ 0 < r₀ % r₁ := by
          -- the last remainder is 1 and the one before it at least 2
          by_cases hz : r₀ % r₁ = 0
          · left
            have hgcd := hnext.gcd
            rw [hz, Nat.gcd_zero_right, hcop] at hgcd
            have hr₀ : 2 ≤ r₀ := by have := h.lt; omega
            calc 2 * v ≤ r₀ * v := Nat.mul_le_mul_right v hr₀
              _ ≤ m := by rw [← h.product]; exact Nat.le_add_right _ _
          · exact Or.inr (Nat.pos_of_ne_zero hz)
        obtain ⟨x, hx, hspec⟩ := ih hnext hv (by have := Nat.mod_lt r₀ hpos; omega)
        refine ⟨x, ?_, hspec⟩
        rw [modInvLoop, if_pos (by simpa using hr)]
        simp only [hdiv, hprod, hdiff, hrem, Option.bind_eq_bind, Option.bind_some]
        exact hx

private theorem makeNonnegativeLoop_spec {m : Nat} (hm : m < 2 ^ 62) {x : Int} (hx : |x| * 2 ≤ m)
    (hpos : 0 < m) :
    ∃ y : Int, makeNonnegativeLoop m (x.natAbs + 1) x = some y ∧ 0 ≤ y ∧ y < m ∧
      y ≡ x [ZMOD m] := by
  have hbound := abs_le.mp (show |x| ≤ m by omega)
  by_cases hneg : x < 0
  · obtain ⟨k, hk⟩ : ∃ k, x.natAbs + 1 = k + 2 := ⟨x.natAbs - 1, by omega⟩
    have habs : |x| = -x := abs_of_neg hneg
    refine ⟨x + m, ?_, by omega, by omega, by simp [Int.ModEq]⟩
    rw [hk, makeNonnegativeLoop, if_pos hneg, addI64, toI64_of_bounds (by omega) (by omega)]
    simp [makeNonnegativeLoop, show ¬ x + (m : Int) < 0 by omega]
  · have habs : |x| = x := abs_of_nonneg (by omega)
    exact ⟨x, by simp [makeNonnegativeLoop, hneg], by omega, by omega, Int.ModEq.rfl⟩

/-- `checked_mod_inv` inverts every unit, in the range `[0, m)`. -/
theorem checkedModInv_spec {a m : Nat} (ha : 1 ≤ a) (ham : a < m) (hm : m < 2 ^ 62)
    (hcop : Nat.Coprime m a) :
    ∃ x : Nat, checkedModInv a m = some (x : Int) ∧ x < m ∧ a * x ≡ 1 [MOD m] := by
  obtain ⟨x, hx, hsize, hinv⟩ := modInvLoop_spec hm hcop (a + 2) (EuclidState.start ham)
    (Or.inl (by omega)) (by omega)
  obtain ⟨y, hy, hy0, hym, hmod⟩ := makeNonnegativeLoop_spec hm hsize (by omega)
  obtain ⟨n, rfl⟩ := Int.eq_ofNat_of_zero_le hy0
  refine ⟨n, ?_, by omega, ?_⟩
  · unfold checkedModInv
    simp only [Int.natAbs_natCast]
    have hx' : modInvLoop (a + 2) (m, a) (0, 1) = some x := by simpa using hx
    rw [hx']
    exact hy
  · have hinv' : (a : Int) * (n : Int) ≡ 1 [ZMOD m] := (hmod.mul_left a).trans hinv
    exact_mod_cast hinv'

/-- Every unit of a module below `2 ^ 62` has its inverse returned, in the range `[0, module)`; no
checked operation fails on the way and both loops end. -/
theorem checkedModInv_correct {a module : Int} (hmodule : 2 ≤ module) (hmax : module < 2 ^ 62)
    (ha : 1 ≤ a) (hlt : a < module) (hcop : Int.gcd a module = 1) :
    ∃ x, checkedModInv a module = some x ∧ 0 ≤ x ∧ x < module ∧ a * x ≡ 1 [ZMOD module] := by
  lift a to Nat using by omega
  lift module to Nat using by omega
  have hcop' : Nat.Coprime module a := Nat.Coprime.symm hcop
  obtain ⟨x, hx, hxm, hmod⟩ :=
    checkedModInv_spec (by omega) (by omega) (by omega) hcop'
  refine ⟨x, hx, by omega, by omega, ?_⟩
  exact_mod_cast hmod

theorem checkedModInv_correct_69 :
    ∃ x, checkedModInv 69 113 = some x ∧ 0 ≤ x ∧ x < 113 ∧ 69 * x ≡ 1 [ZMOD 113] :=
  checkedModInv_correct (by decide) (by decide) (by decide) (by decide) (by decide)

end Encointer.Assignment
