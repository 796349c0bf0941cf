import Mathlib.LinearAlgebra.Lagrange
import Mathlib.LinearAlgebra.Matrix.ToLinearEquiv

/-!
# Cauchy matrices

The entries of a Cauchy matrix are the inverses of sums. All of its square
submatrices are nonsingular: a kernel vector would be the coefficients of a
polynomial with too many roots.
-/

namespace Encointer

namespace CauchyMatrix

open Polynomial

variable {F ι κ : Type} [Field F] [Fintype ι] [DecidableEq ι]

def cauchy (x : ι → F) (y : κ → F) : Matrix ι κ F := Matrix.of fun i j => (x i + y j)⁻¹

/-- The polynomial with the value `v j` times a nonzero factor at `-y j`. -/
noncomputable def kernelPolynomial (y v : ι → F) : F[X] :=
  ∑ j, C (v j) * ∏ k ∈ Finset.univ.erase j, (X + C (y k))

variable {x y v : ι → F}

theorem degree_kernelPolynomial_lt [Nonempty ι] (y v : ι → F) :
    (kernelPolynomial y v).degree < (Finset.univ : Finset ι).card := by
  have hpos : 0 < (Finset.univ : Finset ι).card := Finset.card_pos.2 Finset.univ_nonempty
  apply lt_of_le_of_lt (degree_sum_le _ _)
  rw [Finset.sup_lt_iff (WithBot.bot_lt_coe _)]
  intro j _
  have hprod : (∏ k ∈ Finset.univ.erase j, (X + C (y k))).degree =
      ((Finset.univ.erase j).card : WithBot Nat) := by
    rw [degree_prod]
    simp
  have hcard : (Finset.univ.erase j).card < (Finset.univ : Finset ι).card :=
    Finset.card_erase_lt_of_mem (Finset.mem_univ j)
  calc (C (v j) * ∏ k ∈ Finset.univ.erase j, (X + C (y k))).degree
      ≤ (C (v j)).degree + (∏ k ∈ Finset.univ.erase j, (X + C (y k))).degree := degree_mul_le _ _
    _ ≤ 0 + (∏ k ∈ Finset.univ.erase j, (X + C (y k))).degree := by gcongr; exact degree_C_le
    _ = (∏ k ∈ Finset.univ.erase j, (X + C (y k))).degree := zero_add _
    _ = ((Finset.univ.erase j).card : WithBot Nat) := hprod
    _ < ((Finset.univ : Finset ι).card : WithBot Nat) := by exact_mod_cast hcard

/-- At `x i` the polynomial is the product of row `i` with the vector, up to a factor. -/
theorem eval_kernelPolynomial (hxy : ∀ i j, x i + y j ≠ 0) (i : ι) :
    (kernelPolynomial y v).eval (x i) =
      (∏ k, (x i + y k)) * ∑ j, (x i + y j)⁻¹ * v j := by
  rw [kernelPolynomial, eval_finsetSum, Finset.mul_sum]
  apply Finset.sum_congr rfl
  intro j _
  have hprod : ∏ k, (x i + y k) = (x i + y j) * ∏ k ∈ Finset.univ.erase j, (x i + y k) :=
    (Finset.mul_prod_erase Finset.univ (fun k => x i + y k) (Finset.mem_univ j)).symm
  rw [eval_mul, eval_C, eval_prod, hprod]
  simp only [eval_add, eval_X, eval_C]
  field_simp [hxy i j]

theorem eval_kernelPolynomial_neg (j : ι) :
    (kernelPolynomial y v).eval (-y j) =
      v j * ∏ k ∈ Finset.univ.erase j, (-y j + y k) := by
  rw [kernelPolynomial, eval_finsetSum, Finset.sum_eq_single j]
  · simp [eval_prod]
  · intro j' _ hne
    have hmem : j ∈ Finset.univ.erase j' := Finset.mem_erase.2 ⟨hne.symm, Finset.mem_univ j⟩
    rw [eval_mul, eval_prod, Finset.prod_eq_zero hmem (by simp), mul_zero]
  · intro hmem
    exact absurd (Finset.mem_univ j) hmem

theorem det_cauchy_ne_zero (hx : Function.Injective x) (hy : Function.Injective y)
    (hxy : ∀ i j, x i + y j ≠ 0) : (cauchy x y).det ≠ 0 := by
  intro hdet
  obtain ⟨v, hv, hkernel⟩ := Matrix.exists_mulVec_eq_zero_iff.2 hdet
  obtain ⟨j, hj⟩ := Function.ne_iff.1 hv
  have : Nonempty ι := ⟨j⟩
  have hzero : kernelPolynomial y v = 0 := by
    apply eq_zero_of_degree_lt_of_eval_index_eq_zero Finset.univ hx.injOn
      (degree_kernelPolynomial_lt y v)
    intro i _
    have hrow : ∑ j, (x i + y j)⁻¹ * v j = 0 := congrFun hkernel i
    rw [eval_kernelPolynomial hxy, hrow, mul_zero]
  have heval : (kernelPolynomial y v).eval (-y j) = _ := eval_kernelPolynomial_neg j
  rw [hzero, eval_zero] at heval
  rcases mul_eq_zero.1 heval.symm with hvj | hprod
  · exact hj hvj
  · obtain ⟨k, hk, hdiff⟩ := Finset.prod_eq_zero_iff.1 hprod
    have heq : y k = y j := by
      rw [← sub_eq_zero, sub_eq_neg_add]
      exact hdiff
    exact (Finset.mem_erase.1 hk).1 (hy heq)

end CauchyMatrix

end Encointer
