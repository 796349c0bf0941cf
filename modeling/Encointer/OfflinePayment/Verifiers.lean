import Encointer.Library.Groth16
import Encointer.Library.LittleEndian
import Mathlib.Algebra.Field.ZMod
import Mathlib.Data.ZMod.Basic

/-!
# Proving and verifying offline payments

The circuit of an offline payment has five public inputs. Proofs for it are
verified by the core crate, by the pallet, and by the library for wallets.
-/

namespace Encointer

namespace OfflinePayment

open Groth16

/-! ## The scalar field -/

/-- The order of the groups of BN254. -/
def frModulus : Nat :=
  21888242871839275222246405745257275088548364400416034343698204186575808495617

instance : NeZero frModulus := ⟨by decide⟩

abbrev Fr := ZMod frModulus

abbrev Bytes32 := Vector UInt8 32

def bytes32ToField (bytes : Bytes32) : Fr := (LittleEndian.bytesToNat bytes.toList : Fr)

def fieldToBytes32 (field : Fr) : Bytes32 :=
  ⟨(LittleEndian.natToBytes 32 field.val).toArray, by
    rw [List.size_toArray, LittleEndian.length_natToBytes]⟩

theorem bytes32ToField_fieldToBytes32 (field : Fr) :
    bytes32ToField (fieldToBytes32 field) = field := by
  have hlt : field.val < 256 ^ 32 := (ZMod.val_lt field).trans (by decide)
  have hlist : (fieldToBytes32 field).toList = LittleEndian.natToBytes 32 field.val := rfl
  rw [bytes32ToField, hlist, LittleEndian.bytesToNat_natToBytes hlt, ZMod.natCast_zmod_val]

/-! ## The circuit -/

structure OfflinePaymentCircuit where
  commitment : Fr
  recipientHash : Fr
  amount : Fr
  assetHash : Fr
  nullifier : Fr
  zkSecret : Fr
  nonce : Fr

namespace OfflinePaymentCircuit

/-- The commitment and the nullifier are hashes of the secret. -/
def new (poseidonHash : List Fr → Fr) (zkSecret nonce recipientHash amount assetHash : Fr) :
    OfflinePaymentCircuit where
  commitment := poseidonHash [zkSecret]
  recipientHash := recipientHash
  amount := amount
  assetHash := assetHash
  nullifier := poseidonHash [zkSecret, nonce]
  zkSecret := zkSecret
  nonce := nonce

def publicInputs (circuit : OfflinePaymentCircuit) : List Fr :=
  [circuit.commitment, circuit.recipientHash, circuit.amount, circuit.assetHash, circuit.nullifier]

end OfflinePaymentCircuit

/-! ## The proof system -/

inductive SynthesisError where
  | missingCS
  | assignmentMissing
  | divisionByZero
  | unsatisfiable
  | polynomialDegreeTooLarge
  | unexpectedIdentity
  | malformedVerifyingKey
  | unconstrainedVariable
  deriving DecidableEq, Repr

/-- The functions of arkworks, over the groups of the curve. -/
structure Arkworks (G1 G2 : Type) where
  PreparedVerifyingKey : Type
  prepare : VerifyingKey G1 G2 → PreparedVerifyingKey
  verifyProof : PreparedVerifyingKey → Proof G1 G2 → List Fr → Except SynthesisError Bool
  verifyWithProcessedVk : PreparedVerifyingKey → List Fr → Proof G1 G2 →
    Except SynthesisError Bool
  /-- The last argument seeds the randomness of the proof. -/
  prove : ProvingKey G1 G2 → OfflinePaymentCircuit → Nat → Except SynthesisError (Proof G1 G2)
  poseidonHash : List Fr → Fr
  serializeVk : VerifyingKey G1 G2 → List UInt8
  deserializeVk : List UInt8 → Option (VerifyingKey G1 G2)
  serializeProof : Proof G1 G2 → List UInt8
  deserializeProof : List UInt8 → Option (Proof G1 G2)

variable {G1 G2 : Type} (ark : Arkworks G1 G2)

/-! ## The core crate -/

def verifyProof (verifyingKey : VerifyingKey G1 G2) (proof : Proof G1 G2)
    (publicInputs : List Fr) : Bool :=
  let pvk := ark.prepare verifyingKey
  (ark.verifyProof pvk proof publicInputs).isOk

def generateProof (provingKey : ProvingKey G1 G2)
    (zkSecret nonce recipientHash amount assetHash : Fr) (seed : Nat) :
    Option (Proof G1 G2 × List Fr) :=
  let circuit := OfflinePaymentCircuit.new ark.poseidonHash zkSecret nonce recipientHash amount
    assetHash
  let publicInputs := circuit.publicInputs
  match ark.prove provingKey circuit seed with
  | .ok proof => some (proof, publicInputs)
  | .error _ => none

/-- The proof of the self-test: 32 times 1, 2, 3, 4 and 5 as inputs. -/
def ceremonyProof (pk : ProvingKey G1 G2) (seed : Nat) : Option (Proof G1 G2 × List Fr) :=
  generateProof ark pk (bytes32ToField (Vector.replicate 32 1))
    (bytes32ToField (Vector.replicate 32 2)) (bytes32ToField (Vector.replicate 32 3))
    (bytes32ToField (Vector.replicate 32 4)) (bytes32ToField (Vector.replicate 32 5)) seed

/-- Generates a proof with the key, and verifies it with the embedded key. -/
def verifyCeremonyPk (pk : ProvingKey G1 G2) (seed : Nat) : Bool :=
  match ceremonyProof ark pk seed with
  | some (proof, publicInputs) => verifyProof ark pk.vk proof publicInputs
  | none => false

/-! ## The pallet -/

structure Groth16Proof (G1 G2 : Type) where
  a : G1
  b : G2
  c : G1

structure Groth16VerifyingKey (G1 G2 : Type) where
  inner : VerifyingKey G1 G2

structure PublicInputs where
  commitment : Fr
  recipientHash : Fr
  amount : Fr
  assetHash : Fr
  nullifier : Fr
  deriving DecidableEq

def Groth16Proof.toArkProof (proof : Groth16Proof G1 G2) : Proof G1 G2 :=
    ⟨proof.a, proof.b, proof.c⟩

def Groth16Proof.fromBytes (bytes : List UInt8) : Option (Groth16Proof G1 G2) :=
  (ark.deserializeProof bytes).map fun proof => ⟨proof.a, proof.b, proof.c⟩

def Groth16VerifyingKey.fromBytes (bytes : List UInt8) : Option (Groth16VerifyingKey G1 G2) :=
  (ark.deserializeVk bytes).map Groth16VerifyingKey.mk

namespace PublicInputs

def fromBytes (commitment recipientHash amount assetHash nullifier : Bytes32) : PublicInputs where
  commitment := bytes32ToField commitment
  recipientHash := bytes32ToField recipientHash
  amount := bytes32ToField amount
  assetHash := bytes32ToField assetHash
  nullifier := bytes32ToField nullifier

def toVec (inputs : PublicInputs) : List Fr :=
  [inputs.commitment, inputs.recipientHash, inputs.amount, inputs.assetHash, inputs.nullifier]

end PublicInputs

/-- `unwrap_or(false)`. -/
def unwrapOrFalse {ε : Type} : Except ε Bool → Bool
  | .ok valid => valid
  | .error _ => false

def verifyGroth16Proof (vk : Groth16VerifyingKey G1 G2) (proof : Groth16Proof G1 G2)
    (publicInputs : PublicInputs) : Bool :=
  let arkProof := proof.toArkProof
  let inputs := publicInputs.toVec
  let pvk := ark.prepare vk.inner
  unwrapOrFalse (ark.verifyProof pvk arkProof inputs)

/-! ## The library for wallets -/

def verifyProofFfi (vkBytes proofBytes : List UInt8)
    (commitment recipientHash amount cidHash nullifier : Bytes32) : Bool :=
  match ark.deserializeVk vkBytes with
  | none => false
  | some vk =>
      match ark.deserializeProof proofBytes with
      | none => false
      | some proof =>
          let publicInputs := [bytes32ToField commitment, bytes32ToField recipientHash,
            bytes32ToField amount, bytes32ToField cidHash, bytes32ToField nullifier]
          let pvk := ark.prepare vk
          unwrapOrFalse (ark.verifyWithProcessedVk pvk publicInputs proof)

end OfflinePayment

end Encointer
