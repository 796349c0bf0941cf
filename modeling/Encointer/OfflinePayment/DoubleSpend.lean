import Encointer.Library.SpendOnce
import Encointer.OfflinePayment.Verification
import Encointer.Pallets.OfflinePayment
import Encointer.Ceremonies.RewardOnce

/-!
# Payments that settle twice

A nullifier is used once, by its bytes. The proof only knows the element of the
field that the bytes denote, and an element is denoted by several strings of bytes.
-/

namespace Encointer

namespace OfflinePayment

open Groth16

variable {AccountId G1 G2 : Type} [DecidableEq AccountId] {config : Config AccountId}
  {pallet : PalletConfig AccountId G1 G2} {storage storage' : Storage AccountId}

/-! ## Settlements -/

/-- The proof is valid for the payment, under the key that is set. -/
def Proven (pallet : PalletConfig AccountId G1 G2) (storage : Storage AccountId)
    (assetHash amountBytes : Bytes32) (proof : List UInt8) (sender recipient : AccountId)
    (nullifier : Bytes32) : Prop :=
  ∃ commitment vkBytes vk zkProof,
    storage.offlineIdentities.lookup sender = some commitment ∧
    storage.verificationKey = some vkBytes ∧
    Groth16VerifyingKey.fromBytes pallet.ark vkBytes = some vk ∧
    Groth16Proof.fromBytes pallet.ark proof = some zkProof ∧
    verifyGroth16Proof pallet.ark vk zkProof
      (PublicInputs.fromBytes commitment (hashRecipient pallet (pallet.encodeAccount recipient))
        amountBytes (pallet.blake2_256 (assetHash.toList ++ pallet.genesisHash.toList))
        nullifier) = true

/-- What has to hold of a payment before its amount is transferred. -/
structure Payable (pallet : PalletConfig AccountId G1 G2) (storage : Storage AccountId)
    (balance : Nat) (assetHash amountBytes : Bytes32) (proof : List UInt8)
    (sender recipient : AccountId) (amount : Nat) (nullifier : Bytes32) : Prop where
  size : proof.length ≤ pallet.maxProofSize
  positive : 0 < amount
  others : sender ≠ recipient
  fresh : storage.usedNullifiers.contains nullifier = false
  covered : amount ≤ balance
  proven : Proven pallet storage assetHash amountBytes proof sender recipient nullifier

section

variable {β : Type} {balance amount : Nat} {assetHash amountBytes nullifier : Bytes32}
  {transfer : Except Error β} {proof : List UInt8} {sender recipient : AccountId}

theorem settle_eq_ok {moved : β} :
    settle pallet storage balance assetHash amountBytes transfer proof sender recipient amount
        nullifier = .ok (moved, storage') ↔
      Payable pallet storage balance assetHash amountBytes proof sender recipient amount
          nullifier ∧
        transfer = .ok moved ∧
        storage' = { storage with
          usedNullifiers := storage.usedNullifiers.insert nullifier () } := by
  simp only [settle, bind_eq_ok, ensure_eq_ok, okOr_eq_ok, ok_inj, Prod.mk.injEq]
  constructor
  · rintro ⟨_, hsize, _, hpositive, _, hothers, commitment, hcommitment, _, hfresh, _, hcovered,
      vkBytes, hkey, vk, hvk, zkProof, hproof, _, hvalid, moved', hmoved, rfl, rfl⟩
    exact ⟨⟨hsize, hpositive, hothers, hfresh, hcovered,
      commitment, vkBytes, vk, zkProof, hcommitment, hkey, hvk, hproof, hvalid⟩, hmoved, rfl⟩
  · rintro ⟨hpayable, hmoved, rfl⟩
    obtain ⟨commitment, vkBytes, vk, zkProof, hcommitment, hkey, hvk, hproof, hvalid⟩ :=
      hpayable.proven
    exact ⟨(), hpayable.size, (), hpayable.positive, (), hpayable.others, commitment, hcommitment,
      (), hpayable.fresh, (), hpayable.covered, vkBytes, hkey, vk, hvk, zkProof, hproof, (),
      hvalid, moved, hmoved, rfl, rfl⟩

end

private theorem mapError_transactional_eq_ok {ε ε' α β : Type} {result : β × Except ε α}
    {f : ε → ε'}
    {b : β} : (transactional result).mapError f = .ok b ↔ result.2.isOk = true ∧ result.1 = b := by
  obtain ⟨s, r⟩ := result
  cases r <;> simp [transactional, Except.map, Except.mapError, Except.isOk, Except.toBool]

section

variable {s : Runtime AccountId} {proof : List UInt8} {sender recipient : AccountId}
  {amount : Nat} {cid : CommunityIdentifier} {nullifier : Bytes32}

theorem submitOfflinePayment_eq_ok {balances : BalancesStorage AccountId} :
    submitOfflinePayment config pallet storage s proof sender recipient amount cid nullifier =
        .ok (balances, storage') ↔
      Payable pallet storage (Balances.balance config s.blockNumber s.balances cid sender)
          (hashCid pallet cid) (balanceToBytes amount) proof sender recipient amount nullifier ∧
        ((Balances.doTransfer config s.blockNumber s.balances cid sender recipient amount).2.isOk =
            true ∧
          (Balances.doTransfer config s.blockNumber s.balances cid sender recipient amount).1 =
            balances) ∧
        storage' = { storage with
          usedNullifiers := storage.usedNullifiers.insert nullifier () } := by
  rw [submitOfflinePayment, settle_eq_ok, mapError_transactional_eq_ok]

theorem submitNativeOfflinePayment_eq_ok {nativeBalances : StorageMap AccountId Nat} :
    submitNativeOfflinePayment config pallet storage s proof sender recipient amount nullifier =
        .ok (nativeBalances, storage') ↔
      Payable pallet storage (s.treasuries.nativeBalances.get sender 0)
          (nativeTokenCidHash pallet) (nativeBalanceToBytes (min amount (2 ^ 128 - 1))) proof
          sender recipient amount nullifier ∧
        config.currencyTransfer s.treasuries.nativeBalances sender recipient amount =
          some nativeBalances ∧
        storage' = { storage with
          usedNullifiers := storage.usedNullifiers.insert nullifier () } := by
  rw [submitNativeOfflinePayment, settle_eq_ok, okOr_eq_ok]

end

end OfflinePayment

namespace PaymentChain

open OfflinePayment

variable {AccountId G1 G2 : Type} [DecidableEq AccountId] {config : Config AccountId}
  {pallet : PalletConfig AccountId G1 G2} {s : PaymentChain AccountId}
  {action : PaymentAction AccountId}

/-- The action is a payment with this nullifier that can be settled. -/
def Settles (config : Config AccountId) (pallet : PalletConfig AccountId G1 G2)
    (s : PaymentChain AccountId) (nullifier : Bytes32) : PaymentAction AccountId → Prop
  | .submitOfflinePayment proof sender recipient amount cid nullifier' =>
      nullifier' = nullifier ∧
        Payable pallet s.offlinePayment
          (Balances.balance config s.chain.runtime.blockNumber s.chain.runtime.balances cid sender)
          (hashCid pallet cid) (balanceToBytes amount) proof sender recipient amount nullifier ∧
        (Balances.doTransfer config s.chain.runtime.blockNumber s.chain.runtime.balances cid
          sender recipient amount).2.isOk = true
  | .submitNativeOfflinePayment proof sender recipient amount nullifier' =>
      nullifier' = nullifier ∧
        Payable pallet s.offlinePayment
          (s.chain.runtime.treasuries.nativeBalances.get sender 0) (nativeTokenCidHash pallet)
          (nativeBalanceToBytes (min amount (2 ^ 128 - 1))) proof sender recipient amount
          nullifier ∧
        (config.currencyTransfer s.chain.runtime.treasuries.nativeBalances sender recipient
          amount).isSome = true
  | _ => False

/-- A payment is settled just if it can be; its nullifier is then used, and no other. -/
theorem step_settles (config : Config AccountId) (pallet : PalletConfig AccountId G1 G2)
    (s : PaymentChain AccountId) (action : PaymentAction AccountId) :
    (∃ nullifier, Settles config pallet s nullifier action ∧
      s.settled config pallet action = [nullifier] ∧
      (s.step config pallet action).offlinePayment.usedNullifiers =
        s.offlinePayment.usedNullifiers.insert nullifier ()) ∨
    ((∀ nullifier, ¬ Settles config pallet s nullifier action) ∧
      s.settled config pallet action = [] ∧
      (s.step config pallet action).offlinePayment.usedNullifiers =
        s.offlinePayment.usedNullifiers) := by
  cases action with
  | other action =>
      exact .inr ⟨fun _ h => h, rfl, rfl⟩
  | registerOfflineIdentity who commitment =>
      refine .inr ⟨fun _ h => h, rfl, ?_⟩
      cases hcall : registerOfflineIdentity s.offlinePayment who commitment with
      | error e => simp only [step, hcall]
      | ok storage =>
          simp only [step, hcall]
          simp only [registerOfflineIdentity, bind_eq_ok, ensure_eq_ok, ok_inj] at hcall
          obtain ⟨_, _, rfl⟩ := hcall
          rfl
  | setVerificationKey vk =>
      refine .inr ⟨fun _ h => h, rfl, ?_⟩
      cases hcall : setVerificationKey pallet s.offlinePayment vk with
      | error e => simp only [step, hcall]
      | ok storage =>
          simp only [step, hcall]
          simp only [setVerificationKey, bind_eq_ok, ensure_eq_ok, okOr_eq_ok, ok_inj] at hcall
          obtain ⟨_, _, _, _, rfl⟩ := hcall
          rfl
  | submitOfflinePayment proof sender recipient amount cid nullifier =>
      cases hcall : submitOfflinePayment config pallet s.offlinePayment s.chain.runtime proof
        sender recipient amount cid nullifier with
      | error e =>
          refine .inr ⟨?_, by simp only [settled, hcall], by simp only [step, hcall]⟩
          rintro _ ⟨rfl, hpayable, htransfer⟩
          have hok := submitOfflinePayment_eq_ok.2 ⟨hpayable, ⟨htransfer, rfl⟩, rfl⟩
          exact absurd (hcall.symm.trans hok) (by simp)
      | ok result =>
          obtain ⟨balances, storage⟩ := result
          obtain ⟨hpayable, ⟨htransfer, -⟩, hstorage⟩ := submitOfflinePayment_eq_ok.1 hcall
          refine .inl ⟨nullifier, ⟨rfl, hpayable, htransfer⟩, by simp only [settled, hcall], ?_⟩
          simp only [step, hcall, hstorage]
  | submitNativeOfflinePayment proof sender recipient amount nullifier =>
      cases hcall : submitNativeOfflinePayment config pallet s.offlinePayment s.chain.runtime proof
        sender recipient amount nullifier with
      | error e =>
          refine .inr ⟨?_, by simp only [settled, hcall], by simp only [step, hcall]⟩
          rintro _ ⟨rfl, hpayable, htransfer⟩
          obtain ⟨nativeBalances, hsome⟩ := Option.isSome_iff_exists.1 htransfer
          have hok := submitNativeOfflinePayment_eq_ok.2 ⟨hpayable, hsome, rfl⟩
          exact absurd (hcall.symm.trans hok) (by simp)
      | ok result =>
          obtain ⟨nativeBalances, storage⟩ := result
          obtain ⟨hpayable, htransfer, hstorage⟩ := submitNativeOfflinePayment_eq_ok.1 hcall
          refine .inl ⟨nullifier, ⟨rfl, hpayable, ?_⟩, by simp only [settled, hcall], ?_⟩
          · exact Option.isSome_iff_exists.2 ⟨nativeBalances, htransfer⟩
          · simp only [step, hcall, hstorage]

/-! ## Runs -/

def Used (s : PaymentChain AccountId) (nullifier : Bytes32) : Prop :=
  s.offlinePayment.usedNullifiers.contains nullifier = true

/-- No payment can be settled whose nullifier denotes the element of a used one. -/
def NoAlias (config : Config AccountId) (pallet : PalletConfig AccountId G1 G2)
    (s : PaymentChain AccountId) (action : PaymentAction AccountId) : Prop :=
  ∀ nullifier, Settles config pallet s nullifier action →
    ∀ used, s.Used used → bytes32ToField used ≠ bytes32ToField nullifier

theorem mem_settled {nullifier : Bytes32} :
    nullifier ∈ s.settled config pallet action ↔ Settles config pallet s nullifier action := by
  rcases step_settles config pallet s action with ⟨nullifier', hsettles, hsettled, -⟩ |
    ⟨hnone, hsettled, -⟩
  · rw [hsettled, List.mem_singleton]
    constructor
    · rintro rfl
      exact hsettles
    · intro h
      cases action with
      | submitOfflinePayment => exact h.1.symm.trans hsettles.1
      | submitNativeOfflinePayment => exact h.1.symm.trans hsettles.1
      | _ => cases h
  · rw [hsettled]
    simp [hnone]

private theorem nodup_settled (config : Config AccountId) (pallet : PalletConfig AccountId G1 G2)
    (s : PaymentChain AccountId) (action : PaymentAction AccountId) :
    ((s.settled config pallet action).map bytes32ToField).Nodup := by
  rcases step_settles config pallet s action with ⟨nullifier, -, hsettled, -⟩ | ⟨-, hsettled, -⟩
  · rw [hsettled]
    exact List.nodup_singleton _
  · rw [hsettled]
    exact List.nodup_nil

private theorem used_step (config : Config AccountId) (pallet : PalletConfig AccountId G1 G2)
    (s : PaymentChain AccountId) (action : PaymentAction AccountId) (nullifier : Bytes32) :
    (s.step config pallet action).Used nullifier ↔
      s.Used nullifier ∨ nullifier ∈ s.settled config pallet action := by
  unfold Used
  rcases step_settles config pallet s action with ⟨nullifier', -, hsettled, hused⟩ |
    ⟨-, hsettled, hused⟩
  · rw [hsettled, hused, StorageMap.contains_eq_true, StorageMap.contains_eq_true,
      StorageMap.lookup_insert_eq, List.mem_singleton]
    by_cases heq : nullifier = nullifier' <;> simp [heq]
  · rw [hsettled, hused]
    simp

theorem freshImages_iff :
    FreshImages bytes32ToField (settled config pallet) Used s action ↔
      NoAlias config pallet s action := by
  unfold FreshImages NoAlias
  simp only [mem_settled]

/--
The settled nullifiers denote different elements of the field, unless a payment is settled whose
nullifier denotes the element of one that was used before, by other bytes.
-/
theorem payments_settle_once_iff (config : Config AccountId)
    (pallet : PalletConfig AccountId G1 G2) (chain : Chain AccountId)
    (actions : List (PaymentAction AccountId)) :
    ((Machine.log (step config pallet) (settled config pallet) (genesis chain) actions).map
        bytes32ToField).Nodup ↔
      Machine.Along (step config pallet) (NoAlias config pallet) (genesis chain) actions := by
  have hnone (nullifier : Bytes32) : ¬ (genesis chain).Used nullifier := by
    intro hused
    cases hused
  have hiff := nodup_map_log_iff (nodup_settled config pallet) (used_step config pallet)
    (genesis chain) actions
  simp only [hnone, false_implies, implies_true, and_true] at hiff
  rw [hiff]
  constructor
  · intro h
    exact h.mono fun _ _ => freshImages_iff.1
  · intro h
    exact h.mono fun _ _ => freshImages_iff.2

end PaymentChain

/-! ## One proof, two payments -/

namespace OfflinePayment.Demo

open Groth16

/-- Transfers keep the sender alive. -/
def paymentConfig : Config Nat := { Encointer.Demo.runtimeConfig with
  currencyTransfer := fun balances sender dest amount =>
    if balances.get sender 0 < amount + 1 then
      none
    else
      let balances := balances.insert sender (balances.get sender 0 - amount)
      some (balances.insert dest (balances.get dest 0 + amount)) }

def paymentPallet : PalletConfig Nat Fr Fr where
  ark := arkworks
  blake2_256 := fun bytes => fieldToBytes32 (LittleEndian.bytesToNat bytes)
  encodeAccount := LittleEndian.natToBytes 4
  genesisHash := Vector.replicate 32 69
  maxProofSize := 256
  maxVkSize := 2048

/-- The first element of a proof has to be the nullifier. -/
def paymentKey : VerifyingKey Fr Fr := ⟨0, 1, 1, 0, [0, 0, 0, 0, 0, 1]⟩

def paymentProof : Proof Fr Fr := ⟨(5 : Nat), 1, 0⟩

def nullifier : Bytes32 := ⟨(LittleEndian.natToBytes 32 5).toArray, by decide⟩

/-- Other bytes for the same element. -/
def nullifierAlias : Bytes32 :=
  ⟨(LittleEndian.natToBytes 32 (frModulus + 5)).toArray, by
    rw [List.size_toArray, LittleEndian.length_natToBytes]⟩

def payTwice : List (PaymentAction Nat) :=
  [.setVerificationKey (arkworks.serializeVk paymentKey),
    .registerOfflineIdentity 1 (Vector.replicate 32 7),
    .submitNativeOfflinePayment (arkworks.serializeProof paymentProof) 1 2 10 nullifier,
    .submitNativeOfflinePayment (arkworks.serializeProof paymentProof) 1 2 10 nullifierAlias]

def wallet : PaymentChain Nat :=
  .genesis (Chain.genesis Encointer.Demo.genesis ((∅ : StorageMap Nat Nat).insert 1 100) ∅)

end OfflinePayment.Demo

open OfflinePayment Demo in
/-- The recipient is paid twice with one proof. -/
theorem PaymentChain.payment_settles_twice :
    let settled := Machine.log (PaymentChain.step paymentConfig paymentPallet)
      (PaymentChain.settled paymentConfig paymentPallet) wallet payTwice
    let s := Machine.run (PaymentChain.step paymentConfig paymentPallet) wallet payTwice
    settled = [nullifier, nullifierAlias] ∧ ¬ (settled.map bytes32ToField).Nodup ∧
      s.chain.runtime.treasuries.nativeBalances.get 2 0 = 20 := by
  decide +kernel

end Encointer
