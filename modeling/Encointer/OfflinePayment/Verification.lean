import Encointer.OfflinePayment.Verifiers
import Mathlib.Algebra.Algebra.Bilinear

/-!
# The paths of verification

The pallet and the library for wallets accept exactly the valid proofs. The core
crate only asks whether the verifier failed, and so accepts every proof under a
key for five inputs.
-/

namespace Encointer

namespace OfflinePayment

open Groth16

variable {G1 G2 GT : Type} [AddCommGroup G1] [AddCommGroup G2] [AddCommGroup GT]
  [Module Fr G1] [Module Fr G2] [Module Fr GT] [DecidableEq GT]

/-- What arkworks promises about its verifier and its encodings. -/
structure Arkworks.Documented (ark : Arkworks G1 G2) (pairing : G1 →ₗ[Fr] G2 →ₗ[Fr] GT) :
    Prop where
  verifies : ∀ vk proof inputs, vk.Fits inputs →
    ark.verifyProof (ark.prepare vk) proof inputs = .ok (decide (Equation pairing vk proof inputs))
  malformed : ∀ vk proof inputs, ¬ vk.Fits inputs →
    ∃ e, ark.verifyProof (ark.prepare vk) proof inputs = .error e
  processed : ∀ pvk inputs proof,
    ark.verifyWithProcessedVk pvk inputs proof = ark.verifyProof pvk proof inputs
  vkRoundTrip : ∀ vk, ark.deserializeVk (ark.serializeVk vk) = some vk
  proofRoundTrip : ∀ proof, ark.deserializeProof (ark.serializeProof proof) = some proof

variable {ark : Arkworks G1 G2} {pairing : G1 →ₗ[Fr] G2 →ₗ[Fr] GT}
  {vk : VerifyingKey G1 G2} {proof : Proof G1 G2}

theorem unwrapOrFalse_verifyProof (hark : ark.Documented pairing) (inputs : List Fr) :
    unwrapOrFalse (ark.verifyProof (ark.prepare vk) proof inputs) =
      decide (Valid pairing vk proof inputs) := by
  by_cases hfits : vk.Fits inputs
  · rw [hark.verifies vk proof inputs hfits]
    simp [unwrapOrFalse, Valid, hfits]
  · obtain ⟨e, he⟩ := hark.malformed vk proof inputs hfits
    rw [he]
    simp [unwrapOrFalse, Valid, hfits]

theorem verifyGroth16Proof_eq (hark : ark.Documented pairing) (inputs : PublicInputs) :
    verifyGroth16Proof ark ⟨vk⟩ ⟨proof.a, proof.b, proof.c⟩ inputs =
      decide (Valid pairing vk proof inputs.toVec) :=
  unwrapOrFalse_verifyProof hark inputs.toVec

theorem verifyProofFfi_eq (hark : ark.Documented pairing)
    (commitment recipientHash amount cidHash nullifier : Bytes32) :
    verifyProofFfi ark (ark.serializeVk vk) (ark.serializeProof proof) commitment recipientHash
        amount cidHash nullifier =
      decide (Valid pairing vk proof
        (PublicInputs.fromBytes commitment recipientHash amount cidHash nullifier).toVec) := by
  simp only [verifyProofFfi, hark.vkRoundTrip, hark.proofRoundTrip, hark.processed]
  exact unwrapOrFalse_verifyProof hark _

/-- Whether the verifier failed does not tell what it found. -/
theorem verifyProof_eq (hark : ark.Documented pairing) (inputs : List Fr) :
    verifyProof ark vk proof inputs = decide (vk.Fits inputs) := by
  show (ark.verifyProof (ark.prepare vk) proof inputs).isOk = decide (vk.Fits inputs)
  by_cases hfits : vk.Fits inputs
  · rw [hark.verifies vk proof inputs hfits, decide_eq_true hfits]
    rfl
  · obtain ⟨e, he⟩ := hark.malformed vk proof inputs hfits
    rw [he, decide_eq_false hfits]
    rfl

/-- The three paths give the same answer: whether the proof is valid. -/
structure PathsAgree (ark : Arkworks G1 G2) (pairing : G1 →ₗ[Fr] G2 →ₗ[Fr] GT)
    (vk : VerifyingKey G1 G2) (proof : Proof G1 G2) (inputs : PublicInputs) : Prop where
  core : verifyProof ark vk proof inputs.toVec =
    verifyGroth16Proof ark ⟨vk⟩ ⟨proof.a, proof.b, proof.c⟩ inputs
  ffi : ∀ commitment recipientHash amount cidHash nullifier,
    PublicInputs.fromBytes commitment recipientHash amount cidHash nullifier = inputs →
      verifyProofFfi ark (ark.serializeVk vk) (ark.serializeProof proof) commitment recipientHash
        amount cidHash nullifier = verifyGroth16Proof ark ⟨vk⟩ ⟨proof.a, proof.b, proof.c⟩ inputs
  exact : verifyGroth16Proof ark ⟨vk⟩ ⟨proof.a, proof.b, proof.c⟩ inputs = true ↔
    Valid pairing vk proof inputs.toVec

/-- The self-test of a proving key passes only if its proof is valid under the embedded key. -/
def SelfTestSound (ark : Arkworks G1 G2) (pairing : G1 →ₗ[Fr] G2 →ₗ[Fr] GT)
    (pk : ProvingKey G1 G2) (seed : Nat) : Prop :=
  verifyCeremonyPk ark pk seed = true →
    ∃ proof inputs, ceremonyProof ark pk seed = some (proof, inputs) ∧
      Valid pairing pk.vk proof inputs

private theorem pathsAgree_iff (hark : ark.Documented pairing) (vk : VerifyingKey G1 G2)
    (proof : Proof G1 G2) (inputs : PublicInputs) :
    PathsAgree ark pairing vk proof inputs ↔
      (vk.Fits inputs.toVec → Equation pairing vk proof inputs.toVec) := by
  constructor
  · intro hagree hfits
    have hcore := hagree.core
    rw [verifyProof_eq hark, verifyGroth16Proof_eq hark, decide_eq_true hfits] at hcore
    exact (of_decide_eq_true hcore.symm).2
  · intro hequation
    constructor
    · rw [verifyProof_eq hark, verifyGroth16Proof_eq hark, decide_eq_decide]
      constructor
      · intro hfits
        exact ⟨hfits, hequation hfits⟩
      · intro hvalid
        exact hvalid.1
    · rintro commitment recipientHash amount cidHash nullifier rfl
      rw [verifyProofFfi_eq hark, verifyGroth16Proof_eq hark]
    · rw [verifyGroth16Proof_eq hark, decide_eq_true_iff]

private theorem selfTestSound_iff (hark : ark.Documented pairing) (pk : ProvingKey G1 G2)
    (seed : Nat) :
    SelfTestSound ark pairing pk seed ↔
      ∀ proof inputs, ceremonyProof ark pk seed = some (proof, inputs) → pk.vk.Fits inputs →
        Equation pairing pk.vk proof inputs := by
  unfold SelfTestSound verifyCeremonyPk
  cases hproof : ceremonyProof ark pk seed with
  | none => simp
  | some result =>
      obtain ⟨proof, inputs⟩ := result
      simp only [verifyProof_eq hark, decide_eq_true_iff, Option.some.injEq, Prod.mk.injEq]
      constructor
      · rintro hsound _ _ ⟨rfl, rfl⟩ hfits
        obtain ⟨_, _, ⟨rfl, rfl⟩, hvalid⟩ := hsound hfits
        exact hvalid.2
      · intro hequation hfits
        exact ⟨proof, inputs, ⟨rfl, rfl⟩, hfits, hequation proof inputs ⟨rfl, rfl⟩ hfits⟩

/--
The paths of verification agree on a proof unless it is invalid under a key for five inputs. A
proving key passes its self-test rightly unless it makes such a proof.
-/
theorem verification_paths_agree_iff (ark : Arkworks G1 G2) (pairing : G1 →ₗ[Fr] G2 →ₗ[Fr] GT)
    (hark : ark.Documented pairing) :
    (∀ vk proof inputs, PathsAgree ark pairing vk proof inputs ↔
      (vk.Fits inputs.toVec → Equation pairing vk proof inputs.toVec)) ∧
    ∀ pk seed, SelfTestSound ark pairing pk seed ↔
      ∀ proof inputs, ceremonyProof ark pk seed = some (proof, inputs) → pk.vk.Fits inputs →
        Equation pairing pk.vk proof inputs := by
  constructor
  · intro vk proof inputs
    exact pathsAgree_iff hark vk proof inputs
  · intro pk seed
    exact selfTestSound_iff hark pk seed

/-! ## Groups of exponents -/

namespace Demo

/-- Elements of the groups, by their discrete logarithms. -/
def product : Fr →ₗ[Fr] Fr →ₗ[Fr] Fr := LinearMap.mul Fr Fr

def encode (elements : List Fr) : List UInt8 :=
  elements.flatMap fun element => (fieldToBytes32 element).toList

def decode (bytes : List UInt8) : List Fr :=
  (LittleEndian.chunks 32 (bytes.length / 32) bytes).map fun chunk =>
    (LittleEndian.bytesToNat chunk : Fr)

theorem decode_encode (elements : List Fr) : decode (encode elements) = elements := by
  have hwidth (element : Fr) : (fieldToBytes32 element).toList.length = 32 :=
    Vector.length_toList
  have hcount : (encode elements).length / 32 = elements.length := by
    rw [encode, LittleEndian.length_flatMap hwidth]
    omega
  rw [decode, hcount, encode, LittleEndian.chunks_flatMap hwidth, List.map_map]
  apply List.map_id''
  exact bytes32ToField_fieldToBytes32

/-- Verifies as arkworks does, and proves with keys whose queries are all at infinity. -/
def arkworks : Arkworks Fr Fr where
  PreparedVerifyingKey := VerifyingKey Fr Fr
  prepare := id
  verifyProof := fun pvk proof inputs =>
    if pvk.Fits inputs then .ok (decide (Equation product pvk proof inputs))
    else .error .malformedVerifyingKey
  verifyWithProcessedVk := fun pvk inputs proof =>
    if pvk.Fits inputs then .ok (decide (Equation product pvk proof inputs))
    else .error .malformedVerifyingKey
  prove := fun pk _ _ => .ok ⟨pk.vk.alphaG1, pk.vk.betaG2, 0⟩
  poseidonHash := List.sum
  serializeVk := fun vk =>
    encode (vk.alphaG1 :: vk.betaG2 :: vk.gammaG2 :: vk.deltaG2 :: vk.gammaAbcG1)
  deserializeVk := fun bytes =>
    match decode bytes with
    | alphaG1 :: betaG2 :: gammaG2 :: deltaG2 :: gammaAbcG1 =>
        some ⟨alphaG1, betaG2, gammaG2, deltaG2, gammaAbcG1⟩
    | _ => none
  serializeProof := fun proof => encode [proof.a, proof.b, proof.c]
  deserializeProof := fun bytes =>
    match decode bytes with
    | [a, b, c] => some ⟨a, b, c⟩
    | _ => none

theorem arkworks_documented : arkworks.Documented product where
  verifies := by
    intro vk proof inputs hfits
    exact if_pos hfits
  malformed := by
    intro vk proof inputs hfits
    exact ⟨.malformedVerifyingKey, if_neg hfits⟩
  processed := by
    intro pvk inputs proof
    rfl
  vkRoundTrip := by
    intro vk
    simp only [arkworks, decode_encode]
  proofRoundTrip := by
    intro proof
    simp only [arkworks, decode_encode]

/-- With neither `alpha` nor `delta`, and for five inputs. -/
def key : VerifyingKey Fr Fr := ⟨0, 1, 1, 0, [1, 0, 0, 0, 0, 0]⟩

def provingKey : ProvingKey Fr Fr := ⟨key, 0, 0, [0], [0], [0], [0], [0]⟩

def fiveInputs : PublicInputs := ⟨1, (2 : Nat), (3 : Nat), (4 : Nat), (5 : Nat)⟩

end Demo

theorem verification_paths_agree_valid :
    PathsAgree Demo.arkworks Demo.product Demo.key ⟨1, 1, 0⟩ Demo.fiveInputs :=
  ((verification_paths_agree_iff Demo.arkworks Demo.product Demo.arkworks_documented).1
    Demo.key ⟨1, 1, 0⟩ Demo.fiveInputs).2 fun _ => by decide +kernel

/-- The core crate accepts a proof that the others reject, and the self-test passes with it. -/
theorem verification_paths_disagree :
    ¬ PathsAgree Demo.arkworks Demo.product Demo.key ⟨0, 1, 0⟩ Demo.fiveInputs ∧
      ¬ SelfTestSound Demo.arkworks Demo.product Demo.provingKey 0 := by
  constructor
  · intro hagree
    exact absurd hagree.core (by decide +kernel)
  · intro hsound
    obtain ⟨proof, inputs, hproof, hvalid⟩ := hsound (by decide +kernel)
    cases hproof
    exact absurd hvalid.2 (by decide +kernel)

end OfflinePayment

end Encointer
