import Mathlib.Algebra.Module.LinearMap.Basic
import Mathlib.Algebra.BigOperators.Group.List.Basic
import Mathlib.Algebra.Module.Torsion.Field
import Mathlib.LinearAlgebra.BilinearMap

/-!
# Groth16 proofs

The keys and proofs of the argument system over two groups, written additively,
and the equation that a proof satisfies under a bilinear pairing of the groups.
-/

namespace Encointer

namespace Groth16

structure VerifyingKey (G1 G2 : Type) where
  alphaG1 : G1
  betaG2 : G2
  gammaG2 : G2
  deltaG2 : G2
  gammaAbcG1 : List G1
  deriving DecidableEq

structure ProvingKey (G1 G2 : Type) where
  vk : VerifyingKey G1 G2
  betaG1 : G1
  deltaG1 : G1
  aQuery : List G1
  bG1Query : List G1
  bG2Query : List G2
  hQuery : List G1
  lQuery : List G1
  deriving DecidableEq

structure Proof (G1 G2 : Type) where
  a : G1
  b : G2
  c : G1
  deriving DecidableEq

section Equation

variable {R G1 G2 GT : Type} [CommRing R] [AddCommGroup G1] [AddCommGroup G2] [AddCommGroup GT]
  [Module R G1] [Module R G2] [Module R GT]

/-- The key has an element for each input, and one more. -/
def VerifyingKey.Fits (vk : VerifyingKey G1 G2) (inputs : List R) : Prop :=
  vk.gammaAbcG1.length = inputs.length + 1

instance (vk : VerifyingKey G1 G2) (inputs : List R) : Decidable (vk.Fits inputs) :=
  inferInstanceAs (Decidable (_ = _))

/-- The first element of the key and the combination of the others with the inputs. -/
def VerifyingKey.prepareInputs (vk : VerifyingKey G1 G2) (inputs : List R) : G1 :=
  (List.zipWith (· • ·) (1 :: inputs) vk.gammaAbcG1).sum

/-- `e(a, b) = e(alpha, beta) e(inputs, gamma) e(c, delta)`, in additive notation. -/
def Equation (pairing : G1 →ₗ[R] G2 →ₗ[R] GT) (vk : VerifyingKey G1 G2) (proof : Proof G1 G2)
    (inputs : List R) : Prop :=
  pairing proof.a proof.b = pairing vk.alphaG1 vk.betaG2 +
    pairing (vk.prepareInputs inputs) vk.gammaG2 + pairing proof.c vk.deltaG2

instance [DecidableEq GT] (pairing : G1 →ₗ[R] G2 →ₗ[R] GT) (vk : VerifyingKey G1 G2)
    (proof : Proof G1 G2) (inputs : List R) : Decidable (Equation pairing vk proof inputs) :=
  inferInstanceAs (Decidable (_ = _))

/-- The proof is valid for as many inputs as the key is made for. -/
def Valid (pairing : G1 →ₗ[R] G2 →ₗ[R] GT) (vk : VerifyingKey G1 G2) (proof : Proof G1 G2)
    (inputs : List R) : Prop :=
  vk.Fits inputs ∧ Equation pairing vk proof inputs

instance [DecidableEq GT] (pairing : G1 →ₗ[R] G2 →ₗ[R] GT) (vk : VerifyingKey G1 G2)
    (proof : Proof G1 G2) (inputs : List R) : Decidable (Valid pairing vk proof inputs) :=
  inferInstanceAs (Decidable (_ ∧ _))

end Equation

/-! ## Groups of prime order -/

section PrimeOrder

variable {F G1 G2 GT : Type} [Field F] [AddCommGroup G1] [AddCommGroup G2] [AddCommGroup GT]
  [Module F G1] [Module F G2] [Module F GT]

/-- Both groups have a generator, and the pairing is not trivial. -/
structure PrimeOrder (pairing : G1 →ₗ[F] G2 →ₗ[F] GT) (generatorG1 : G1) (generatorG2 : G2) :
    Prop where
  spansG1 : ∀ x : G1, ∃ d : F, x = d • generatorG1
  spansG2 : ∀ y : G2, ∃ d : F, y = d • generatorG2
  nondegenerate : pairing generatorG1 generatorG2 ≠ 0

namespace PrimeOrder

variable {pairing : G1 →ₗ[F] G2 →ₗ[F] GT} {generatorG1 : G1} {generatorG2 : G2}

theorem generatorG1_ne_zero (h : PrimeOrder pairing generatorG1 generatorG2) : generatorG1 ≠ 0 := by
  intro hzero
  apply h.nondegenerate
  rw [hzero, map_zero, LinearMap.zero_apply]

/-- Pairing with the generator loses nothing. -/
theorem pairing_generator_inj (h : PrimeOrder pairing generatorG1 generatorG2) {y y' : G2} :
    pairing generatorG1 y = pairing generatorG1 y' ↔ y = y' := by
  constructor
  · intro heq
    obtain ⟨d, rfl⟩ := h.spansG2 y
    obtain ⟨d', rfl⟩ := h.spansG2 y'
    rw [map_smul, map_smul] at heq
    rw [smul_left_injective F h.nondegenerate heq]
  · intro heq
    rw [heq]

end PrimeOrder

end PrimeOrder

end Groth16

end Encointer
