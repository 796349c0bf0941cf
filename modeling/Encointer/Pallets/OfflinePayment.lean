import Encointer.OfflinePayment.Verifiers
import Encointer.Runtime.Dispatch

/-!
# Offline payments

Anyone can submit the proof of an offline payment, in a community currency or in
the native one. Both kinds of payments share one set of used nullifiers.
-/

namespace Encointer

namespace OfflinePayment

inductive Error where
  | alreadyRegistered
  | noOfflineIdentity
  | nullifierAlreadyUsed
  | invalidProof
  | proofDeserializationFailed
  | noVerificationKey
  | vkDeserializationFailed
  | amountMustBePositive
  | senderEqualsRecipient
  | insufficientBalance
  | transfer (error : DispatchError)
  /-- An argument does not fit its type, so the call cannot be decoded. -/
  | undecodable
  deriving DecidableEq, Repr

structure Storage (AccountId : Type) where
  offlineIdentities : StorageMap AccountId Bytes32
  usedNullifiers : StorageMap Bytes32 Unit
  verificationKey : Option (List UInt8)

/-- The constants of the pallet, and the functions of other crates that it calls. -/
structure PalletConfig (AccountId G1 G2 : Type) where
  ark : Arkworks G1 G2
  blake2_256 : List UInt8 → Bytes32
  encodeAccount : AccountId → List UInt8
  /-- The hash of block zero, which is never pruned. -/
  genesisHash : Bytes32
  maxProofSize : Nat
  maxVkSize : Nat

variable {AccountId G1 G2 : Type} [DecidableEq AccountId] (config : Config AccountId)
  (pallet : PalletConfig AccountId G1 G2)

/-! ## Public inputs -/

def hashRecipient (recipient : List UInt8) : Bytes32 := pallet.blake2_256 recipient

def hashCid (cid : CommunityIdentifier) : Bytes32 :=
  pallet.blake2_256 (cid.geohash.toList ++ cid.digest.toList)

/-- Sixteen bytes of the amount and sixteen zeros. -/
def amountToBytes (amount : Nat) : Bytes32 :=
  ⟨(LittleEndian.natToBytes 16 amount ++ List.replicate 16 0).toArray, by
    rw [List.size_toArray, List.length_append, LittleEndian.length_natToBytes,
      List.length_replicate]⟩

/-- The amount by its bits. -/
def balanceToBytes (amount : Nat) : Bytes32 := amountToBytes amount

def nativeTokenCidHash : Bytes32 := pallet.blake2_256 "encointer-native-token".toUTF8.toList

def nativeBalanceToBytes (amount : Nat) : Bytes32 := amountToBytes amount

/-! ## Calls -/

section

variable (storage : Storage AccountId)

def registerOfflineIdentity (who : AccountId) (commitment : Bytes32) :
    Except Error (Storage AccountId) := do
  ensure (storage.offlineIdentities.contains who = false) .alreadyRegistered
  .ok { storage with offlineIdentities := storage.offlineIdentities.insert who commitment }

def setVerificationKey (vk : List UInt8) : Except Error (Storage AccountId) := do
  ensure (vk.length ≤ pallet.maxVkSize) .undecodable
  let _ ← okOr (Groth16VerifyingKey.fromBytes pallet.ark vk) .vkDeserializationFailed
  .ok { storage with verificationKey := some vk }

/-- What both kinds of payments do, for the asset's balance, hash, bytes and transfer. -/
def settle {β : Type} (balance : Nat) (assetHash amountBytes : Bytes32) (transfer : Except Error β)
    (proof : List UInt8) (sender recipient : AccountId) (amount : Nat) (nullifier : Bytes32) :
    Except Error (β × Storage AccountId) := do
  ensure (proof.length ≤ pallet.maxProofSize) .undecodable
  ensure (0 < amount) .amountMustBePositive
  ensure (sender ≠ recipient) .senderEqualsRecipient
  let commitment ← okOr (storage.offlineIdentities.lookup sender) .noOfflineIdentity
  ensure (storage.usedNullifiers.contains nullifier = false) .nullifierAlreadyUsed
  ensure (amount ≤ balance) .insufficientBalance
  let vkBytes ← okOr storage.verificationKey .noVerificationKey
  let vk ← okOr (Groth16VerifyingKey.fromBytes pallet.ark vkBytes) .vkDeserializationFailed
  let zkProof ← okOr (Groth16Proof.fromBytes pallet.ark proof) .proofDeserializationFailed
  let recipientHash := hashRecipient pallet (pallet.encodeAccount recipient)
  let chainAssetHash := pallet.blake2_256 (assetHash.toList ++ pallet.genesisHash.toList)
  let publicInputs :=
    PublicInputs.fromBytes commitment recipientHash amountBytes chainAssetHash nullifier
  ensure (verifyGroth16Proof pallet.ark vk zkProof publicInputs = true) .invalidProof
  let moved ← transfer
  .ok (moved, { storage with usedNullifiers := storage.usedNullifiers.insert nullifier () })

variable (s : Runtime AccountId)

def submitOfflinePayment (proof : List UInt8) (sender recipient : AccountId) (amount : Nat)
    (cid : CommunityIdentifier) (nullifier : Bytes32) :
    Except Error (BalancesStorage AccountId × Storage AccountId) :=
  settle pallet storage (Balances.balance config s.blockNumber s.balances cid sender)
    (hashCid pallet cid) (balanceToBytes amount)
    ((transactional (Balances.doTransfer config s.blockNumber s.balances cid sender recipient
      amount)).mapError .transfer)
    proof sender recipient amount nullifier

def submitNativeOfflinePayment (proof : List UInt8) (sender recipient : AccountId) (amount : Nat)
    (nullifier : Bytes32) : Except Error (StorageMap AccountId Nat × Storage AccountId) :=
  settle pallet storage (s.treasuries.nativeBalances.get sender 0) (nativeTokenCidHash pallet)
    (nativeBalanceToBytes (min amount (2 ^ 128 - 1)))
    (okOr (config.currencyTransfer s.treasuries.nativeBalances sender recipient amount)
      (.transfer .nativeTransferFailed))
    proof sender recipient amount nullifier

end

end OfflinePayment

/-! ## The chain with its offline payments -/

structure PaymentChain (AccountId : Type) where
  chain : Chain AccountId
  offlinePayment : OfflinePayment.Storage AccountId

/-- Anyone can submit a payment, so the submitters are left out. -/
inductive PaymentAction (AccountId : Type) where
  | other (action : Action AccountId)
  | registerOfflineIdentity (who : AccountId) (commitment : OfflinePayment.Bytes32)
  | submitOfflinePayment (proof : List UInt8) (sender recipient : AccountId) (amount : Nat)
      (cid : CommunityIdentifier) (nullifier : OfflinePayment.Bytes32)
  | submitNativeOfflinePayment (proof : List UInt8) (sender recipient : AccountId) (amount : Nat)
      (nullifier : OfflinePayment.Bytes32)
  | setVerificationKey (vk : List UInt8)

namespace PaymentChain

open OfflinePayment

variable {AccountId G1 G2 : Type} [DecidableEq AccountId] (config : Config AccountId)
  (pallet : PalletConfig AccountId G1 G2) (s : PaymentChain AccountId)

/-- A failing action changes nothing. -/
def step : PaymentAction AccountId → PaymentChain AccountId
  | .other action => { s with chain := s.chain.step config action }
  | .registerOfflineIdentity who commitment =>
      match registerOfflineIdentity s.offlinePayment who commitment with
      | .ok storage => { s with offlinePayment := storage }
      | .error _ => s
  | .submitOfflinePayment proof sender recipient amount cid nullifier =>
      match submitOfflinePayment config pallet s.offlinePayment s.chain.runtime proof sender
        recipient amount cid nullifier with
      | .ok (balances, storage) =>
          { chain := { s.chain with runtime := { s.chain.runtime with balances := balances } }
            offlinePayment := storage }
      | .error _ => s
  | .submitNativeOfflinePayment proof sender recipient amount nullifier =>
      match submitNativeOfflinePayment config pallet s.offlinePayment s.chain.runtime proof sender
        recipient amount nullifier with
      | .ok (nativeBalances, storage) =>
          { chain := { s.chain with
              runtime := { s.chain.runtime with
                treasuries := { s.chain.runtime.treasuries with nativeBalances := nativeBalances } } }
            offlinePayment := storage }
      | .error _ => s
  | .setVerificationKey vk =>
      match setVerificationKey pallet s.offlinePayment vk with
      | .ok storage => { s with offlinePayment := storage }
      | .error _ => s

/-- The nullifier of a payment, if the action settles one. -/
def settled : PaymentAction AccountId → List Bytes32
  | .submitOfflinePayment proof sender recipient amount cid nullifier =>
      match submitOfflinePayment config pallet s.offlinePayment s.chain.runtime proof sender
        recipient amount cid nullifier with
      | .ok _ => [nullifier]
      | .error _ => []
  | .submitNativeOfflinePayment proof sender recipient amount nullifier =>
      match submitNativeOfflinePayment config pallet s.offlinePayment s.chain.runtime proof sender
        recipient amount nullifier with
      | .ok _ => [nullifier]
      | .error _ => []
  | _ => []

def genesis (chain : Chain AccountId) : PaymentChain AccountId := ⟨chain, ⟨∅, ∅, none⟩⟩

end PaymentChain

end Encointer
