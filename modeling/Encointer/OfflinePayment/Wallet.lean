import Encointer.OfflinePayment.Circuit
import Encointer.OfflinePayment.DoubleSpend

/-!
# The wallet of the payer

The wallet derives a secret from the seed of the account, registers its hash, and
proves payments with it. The chain settles what a wallet proves, unless something
else than the proof is in the way.
-/

namespace Encointer

namespace OfflinePayment

open Groth16 R1cs

/-! ## The library for wallets -/

def commitmentDomain : List UInt8 := "encointer-offline-commitment".toUTF8.toList

def deriveZkSecret (blake2_256 : List UInt8 → Bytes32) (seed : List UInt8) : Bytes32 :=
  blake2_256 (seed ++ commitmentDomain)

section

variable {G1 G2 : Type} (ark : Arkworks G1 G2)

def computeCommitment (zkSecret : Bytes32) : Bytes32 :=
  let secretField := bytes32ToField zkSecret
  let commitment := ark.poseidonHash [secretField]
  fieldToBytes32 commitment

structure ProofOutput where
  commitment : Bytes32
  proofBytes : List UInt8
  nullifier : Bytes32

/-- The last argument seeds the randomness of the proof. -/
def generateProofFfi (deserializePk : List UInt8 → Option (ProvingKey G1 G2))
    (pkBytes : List UInt8) (zkSecret nonce recipientHash amount cidHash : Bytes32) (seed : Nat) :
    Except String ProofOutput := do
  let pk ← okOr (deserializePk pkBytes) "Failed to deserialize proving key"
  let (proof, publicInputs) ← okOr
    (generateProof ark pk (bytes32ToField zkSecret) (bytes32ToField nonce)
      (bytes32ToField recipientHash) (bytes32ToField amount) (bytes32ToField cidHash) seed)
    "Proof generation failed"
  .ok ⟨fieldToBytes32 (publicInputs.getD 0 0), ark.serializeProof proof,
    fieldToBytes32 (publicInputs.getD 4 0)⟩

end

/-! ## Honest proofs -/

variable {G1 G2 GT : Type} [AddCommGroup G1] [AddCommGroup G2] [AddCommGroup GT]
  [Module Fr G1] [Module Fr G2] [Module Fr GT] [DecidableEq GT]

/--
What arkworks promises about a key: whoever satisfies the constraints of the circuit that the key
was made for gets a valid proof.
-/
structure Complete (ark : Arkworks G1 G2) (pairing : G1 →ₗ[Fr] G2 →ₗ[Fr] GT)
    (poseidonVar : Gadget Fr) (pk : ProvingKey G1 G2) : Prop where
  proves : ∀ circuit seed,
    (synthesize poseidonVar circuit).constraints =
      (synthesize poseidonVar (.new ark.poseidonHash 1 1 1 1 1)).constraints →
    (synthesize poseidonVar circuit).Satisfied →
    ∃ proof, ark.prove pk circuit seed = .ok proof ∧
      Valid pairing pk.vk proof circuit.publicInputs

section

variable {ark : Arkworks G1 G2} {pairing : G1 →ₗ[Fr] G2 →ₗ[Fr] GT} {poseidonVar : Gadget Fr}
  {pk : ProvingKey G1 G2}

omit [AddCommGroup G1] [AddCommGroup G2] [Module Fr G1] [Module Fr G2] in
private theorem publicInputs_new (ark : Arkworks G1 G2)
    (zkSecret nonce recipientHash amount assetHash : Bytes32) :
    (OfflinePaymentCircuit.new ark.poseidonHash (bytes32ToField zkSecret) (bytes32ToField nonce)
        (bytes32ToField recipientHash) (bytes32ToField amount)
        (bytes32ToField assetHash)).publicInputs =
      (PublicInputs.fromBytes (computeCommitment ark zkSecret) recipientHash amount assetHash
        (fieldToBytes32
          (ark.poseidonHash [bytes32ToField zkSecret, bytes32ToField nonce]))).toVec := by
  simp only [OfflinePaymentCircuit.new, OfflinePaymentCircuit.publicInputs, PublicInputs.fromBytes,
    PublicInputs.toVec, computeCommitment, bytes32ToField_fieldToBytes32]

omit [DecidableEq GT] in
private theorem generateProof_complete (hcomplete : Complete ark pairing poseidonVar pk)
    (hg : poseidonVar.Computes fun inputs => [ark.poseidonHash inputs])
    (zkSecret nonce recipientHash amount assetHash : Fr) (seed : Nat) :
    let circuit := OfflinePaymentCircuit.new ark.poseidonHash zkSecret nonce recipientHash amount
      assetHash
    ∃ proof, generateProof ark pk zkSecret nonce recipientHash amount assetHash seed =
        some (proof, circuit.publicInputs) ∧
      Valid pairing pk.vk proof circuit.publicInputs := by
  intro circuit
  have hsatisfied : (synthesize poseidonVar circuit).Satisfied := satisfied_synthesize hg rfl rfl
  have hsame : (synthesize poseidonVar circuit).constraints =
      (synthesize poseidonVar (.new ark.poseidonHash 1 1 1 1 1)).constraints := by
    rw [constraints_synthesize hg, constraints_synthesize hg]
  obtain ⟨proof, hprove, hvalid⟩ := hcomplete.proves circuit seed hsame hsatisfied
  refine ⟨proof, ?_, hvalid⟩
  simp only [generateProof, circuit] at hprove ⊢
  rw [hprove]

/-- The proof of a wallet has the commitment of its secret, and is valid for what it says. -/
theorem generateProofFfi_complete (hark : ark.Documented pairing)
    (hcomplete : Complete ark pairing poseidonVar pk)
    (hg : poseidonVar.Computes fun inputs => [ark.poseidonHash inputs])
    {deserializePk : List UInt8 → Option (ProvingKey G1 G2)} {pkBytes : List UInt8}
    (hpk : deserializePk pkBytes = some pk)
    (zkSecret nonce recipientHash amount assetHash : Bytes32) (seed : Nat) :
    ∃ output zkProof, generateProofFfi ark deserializePk pkBytes zkSecret nonce recipientHash
        amount assetHash seed = .ok output ∧
      output.commitment = computeCommitment ark zkSecret ∧
      output.nullifier = fieldToBytes32
        (ark.poseidonHash [bytes32ToField zkSecret, bytes32ToField nonce]) ∧
      Groth16Proof.fromBytes ark output.proofBytes = some zkProof ∧
      verifyGroth16Proof ark ⟨pk.vk⟩ zkProof (PublicInputs.fromBytes output.commitment
        recipientHash amount assetHash output.nullifier) = true ∧
      verifyProofFfi ark (ark.serializeVk pk.vk) output.proofBytes output.commitment recipientHash
        amount assetHash output.nullifier = true := by
  obtain ⟨proof, hproof, hvalid⟩ := generateProof_complete hcomplete hg (bytes32ToField zkSecret)
    (bytes32ToField nonce) (bytes32ToField recipientHash) (bytes32ToField amount)
    (bytes32ToField assetHash) seed
  have hinputs := publicInputs_new ark zkSecret nonce recipientHash amount assetHash
  rw [hinputs] at hvalid
  refine ⟨⟨computeCommitment ark zkSecret, ark.serializeProof proof, fieldToBytes32
      (ark.poseidonHash [bytes32ToField zkSecret, bytes32ToField nonce])⟩,
    ⟨proof.a, proof.b, proof.c⟩, ?_, rfl, rfl, ?_, ?_, ?_⟩
  · simp only [generateProofFfi, bind_eq_ok, okOr_eq_ok]
    exact ⟨pk, hpk, _, hproof, rfl⟩
  · rw [Groth16Proof.fromBytes, hark.proofRoundTrip]
    rfl
  · rw [verifyGroth16Proof_eq hark]
    exact decide_eq_true hvalid
  · rw [verifyProofFfi_eq hark]
    exact decide_eq_true hvalid

end

end OfflinePayment

namespace PaymentChain

open OfflinePayment Groth16 R1cs

variable {AccountId G1 G2 GT : Type} [DecidableEq AccountId] {config : Config AccountId}
  {pallet : PalletConfig AccountId G1 G2} {s : PaymentChain AccountId}
  {action : PaymentAction AccountId}

/-! ## What a payer relies on -/

/-- The account has registered the commitment, and the chain has the key. -/
structure Prepared (s : PaymentChain AccountId) (who : AccountId) (commitment : Bytes32)
    (vkBytes : List UInt8) : Prop where
  identity : s.offlinePayment.offlineIdentities.lookup who = some commitment
  key : s.offlinePayment.verificationKey = some vkBytes

def KeepsKey : PaymentAction AccountId → Prop
  | .setVerificationKey _ => False
  | _ => True

/-- Nobody can replace an identity. -/
theorem Prepared.step {who : AccountId} {commitment : Bytes32} {vkBytes : List UInt8}
    (h : s.Prepared who commitment vkBytes) (hkeeps : KeepsKey action) :
    (s.step config pallet action).Prepared who commitment vkBytes := by
  cases action with
  | other action => exact ⟨h.identity, h.key⟩
  | registerOfflineIdentity who' commitment' =>
      cases hcall : registerOfflineIdentity s.offlinePayment who' commitment' with
      | error e => simpa only [PaymentChain.step, hcall] using h
      | ok storage =>
          simp only [PaymentChain.step, hcall]
          simp only [registerOfflineIdentity, bind_eq_ok, ensure_eq_ok, ok_inj] at hcall
          obtain ⟨_, hnew, rfl⟩ := hcall
          refine ⟨?_, h.key⟩
          have hne : who ≠ who' := by
            rintro rfl
            rw [StorageMap.contains_eq_false, h.identity] at hnew
            cases hnew
          rw [StorageMap.lookup_insert_eq, if_neg hne]
          exact h.identity
  | submitOfflinePayment proof sender recipient amount cid nullifier =>
      cases hcall : submitOfflinePayment config pallet s.offlinePayment s.chain.runtime proof
        sender recipient amount cid nullifier with
      | error e => simpa only [PaymentChain.step, hcall] using h
      | ok result =>
          obtain ⟨balances, storage⟩ := result
          obtain ⟨-, -, hstorage⟩ := submitOfflinePayment_eq_ok.1 hcall
          simp only [PaymentChain.step, hcall, hstorage]
          exact ⟨h.identity, h.key⟩
  | submitNativeOfflinePayment proof sender recipient amount nullifier =>
      cases hcall : submitNativeOfflinePayment config pallet s.offlinePayment s.chain.runtime proof
        sender recipient amount nullifier with
      | error e => simpa only [PaymentChain.step, hcall] using h
      | ok result =>
          obtain ⟨nativeBalances, storage⟩ := result
          obtain ⟨-, -, hstorage⟩ := submitNativeOfflinePayment_eq_ok.1 hcall
          simp only [PaymentChain.step, hcall, hstorage]
          exact ⟨h.identity, h.key⟩
  | setVerificationKey vk => cases hkeeps

theorem prepared_run {who : AccountId} {commitment : Bytes32} {vkBytes : List UInt8}
    (hnew : s.offlinePayment.offlineIdentities.lookup who = none)
    (hkey : s.offlinePayment.verificationKey = some vkBytes)
    {actions : List (PaymentAction AccountId)} (hkeeps : ∀ action ∈ actions, KeepsKey action) :
    (Machine.run (PaymentChain.step config pallet) s
      (.registerOfflineIdentity who commitment :: actions)).Prepared who commitment vkBytes := by
  have hfirst : (s.step config pallet (.registerOfflineIdentity who commitment)).Prepared who
      commitment vkBytes := by
    have hfree : s.offlinePayment.offlineIdentities.contains who = false :=
      StorageMap.contains_eq_false.2 hnew
    simp only [PaymentChain.step, registerOfflineIdentity, hfree]
    refine ⟨?_, hkey⟩
    change (s.offlinePayment.offlineIdentities.insert who commitment).lookup who = some commitment
    rw [StorageMap.lookup_insert_eq, if_pos rfl]
  exact Machine.run_invariant_of_forall KeepsKey
    (fun s : PaymentChain AccountId => s.Prepared who commitment vkBytes)
    (fun _ _ h hkeeps => h.step hkeeps) hfirst hkeeps

/-! ## Honest payments -/

/-- What has to hold of a payment apart from its proof. -/
structure Ready (pallet : PalletConfig AccountId G1 G2) (s : PaymentChain AccountId)
    (balance : Nat) (output : ProofOutput) (sender recipient : AccountId) (amount : Nat) :
    Prop where
  size : output.proofBytes.length ≤ pallet.maxProofSize
  positive : 0 < amount
  others : sender ≠ recipient
  fresh : ¬ s.Used output.nullifier
  covered : amount ≤ balance

/-- With a valid proof, nothing else is asked for. -/
theorem payable_iff_ready {balance : Nat} {assetHash amountBytes : Bytes32} {output : ProofOutput}
    {sender recipient : AccountId} {amount : Nat}
    (hproven : Proven pallet s.offlinePayment assetHash amountBytes output.proofBytes sender
      recipient output.nullifier) :
    Payable pallet s.offlinePayment balance assetHash amountBytes output.proofBytes sender recipient
        amount output.nullifier ↔
      Ready pallet s balance output sender recipient amount := by
  constructor
  · intro h
    refine ⟨h.size, h.positive, h.others, ?_, h.covered⟩
    rw [Used, h.fresh]
    decide
  · intro h
    exact ⟨h.size, h.positive, h.others, Bool.eq_false_iff.2 h.fresh, h.covered, hproven⟩

/-- The hash of an asset on this chain. -/
def chainAssetHash (pallet : PalletConfig AccountId G1 G2) (assetHash : Bytes32) : Bytes32 :=
  pallet.blake2_256 (assetHash.toList ++ pallet.genesisHash.toList)

section

variable [AddCommGroup G1] [AddCommGroup G2] [AddCommGroup GT] [Module Fr G1] [Module Fr G2]
  [Module Fr GT] [DecidableEq GT]

/--
A payer registers the commitment of a wallet, and anything else happens but a change of the key.
Then the wallet makes a proof that another wallet accepts, and that the chain settles just if the
nullifier is fresh and the amount can be transferred, in a community currency or in the native one.
-/
theorem honest_payment_settles_iff (config : Config AccountId)
    (pallet : PalletConfig AccountId G1 G2) (pairing : G1 →ₗ[Fr] G2 →ₗ[Fr] GT)
    (hark : pallet.ark.Documented pairing) (poseidonVar : Gadget Fr)
    (hg : poseidonVar.Computes fun inputs => [pallet.ark.poseidonHash inputs])
    (pk : ProvingKey G1 G2) (hcomplete : Complete pallet.ark pairing poseidonVar pk)
    (deserializePk : List UInt8 → Option (ProvingKey G1 G2)) (pkBytes : List UInt8)
    (hpk : deserializePk pkBytes = some pk) (s : PaymentChain AccountId)
    (hkey : s.offlinePayment.verificationKey = some (pallet.ark.serializeVk pk.vk))
    (sender : AccountId) (hnew : s.offlinePayment.offlineIdentities.lookup sender = none)
    (accountSeed : List UInt8) (actions : List (PaymentAction AccountId))
    (hkeeps : ∀ action ∈ actions, KeepsKey action) :
    let zkSecret := deriveZkSecret pallet.blake2_256 accountSeed
    let s' := Machine.run (PaymentChain.step config pallet) s
      (.registerOfflineIdentity sender (computeCommitment pallet.ark zkSecret) :: actions)
    ∀ (nonce : Bytes32) (seed : Nat) (recipient : AccountId) (amount : Nat),
      let recipientHash := hashRecipient pallet (pallet.encodeAccount recipient)
      (∀ cid : CommunityIdentifier,
        let assetHash := chainAssetHash pallet (hashCid pallet cid)
        ∃ output, generateProofFfi pallet.ark deserializePk pkBytes zkSecret nonce recipientHash
            (balanceToBytes amount) assetHash seed = .ok output ∧
          verifyProofFfi pallet.ark (pallet.ark.serializeVk pk.vk) output.proofBytes
            output.commitment recipientHash (balanceToBytes amount) assetHash output.nullifier =
              true ∧
          (output.nullifier ∈ s'.settled config pallet
              (.submitOfflinePayment output.proofBytes sender recipient amount cid
                output.nullifier) ↔
            Ready pallet s' (Balances.balance config s'.chain.runtime.blockNumber
                s'.chain.runtime.balances cid sender) output sender recipient amount ∧
              (Balances.doTransfer config s'.chain.runtime.blockNumber s'.chain.runtime.balances cid
                sender recipient amount).2.isOk = true)) ∧
      let amountBytes := nativeBalanceToBytes (min amount (2 ^ 128 - 1))
      let assetHash := chainAssetHash pallet (nativeTokenCidHash pallet)
      ∃ output, generateProofFfi pallet.ark deserializePk pkBytes zkSecret nonce recipientHash
          amountBytes assetHash seed = .ok output ∧
        verifyProofFfi pallet.ark (pallet.ark.serializeVk pk.vk) output.proofBytes
          output.commitment recipientHash amountBytes assetHash output.nullifier = true ∧
        (output.nullifier ∈ s'.settled config pallet
            (.submitNativeOfflinePayment output.proofBytes sender recipient amount
              output.nullifier) ↔
          Ready pallet s' (s'.chain.runtime.treasuries.nativeBalances.get sender 0) output sender
              recipient amount ∧
            (config.currencyTransfer s'.chain.runtime.treasuries.nativeBalances sender recipient
              amount).isSome = true) := by
  intro zkSecret s' nonce seed recipient amount recipientHash
  have hprepared : s'.Prepared sender (computeCommitment pallet.ark zkSecret)
      (pallet.ark.serializeVk pk.vk) := prepared_run hnew hkey hkeeps
  -- for both kinds of assets, the wallet proves what the chain checks
  have hproof (assetHash amountBytes : Bytes32) :
      ∃ output, generateProofFfi pallet.ark deserializePk pkBytes zkSecret nonce recipientHash
          amountBytes (chainAssetHash pallet assetHash) seed = .ok output ∧
        verifyProofFfi pallet.ark (pallet.ark.serializeVk pk.vk) output.proofBytes
          output.commitment recipientHash amountBytes (chainAssetHash pallet assetHash)
          output.nullifier = true ∧
        Proven pallet s'.offlinePayment assetHash amountBytes output.proofBytes sender recipient
          output.nullifier := by
    obtain ⟨output, zkProof, houtput, hcommitment, -, hdecoded, hvalid, hwallet⟩ :=
      generateProofFfi_complete hark hcomplete hg hpk zkSecret nonce recipientHash amountBytes
        (chainAssetHash pallet assetHash) seed
    rw [hcommitment] at hvalid
    refine ⟨output, houtput, hwallet, _, _, ⟨pk.vk⟩, zkProof, hprepared.identity, hprepared.key,
      ?_, hdecoded, hvalid⟩
    rw [Groth16VerifyingKey.fromBytes, hark.vkRoundTrip]
    rfl
  constructor
  · intro cid assetHash
    obtain ⟨output, houtput, hwallet, hproven⟩ := hproof (hashCid pallet cid) (balanceToBytes amount)
    refine ⟨output, houtput, hwallet, ?_⟩
    rw [mem_settled, Settles, payable_iff_ready hproven]
    exact and_iff_right rfl
  · intro amountBytes assetHash
    obtain ⟨output, houtput, hwallet, hproven⟩ := hproof (nativeTokenCidHash pallet) amountBytes
    refine ⟨output, houtput, hwallet, ?_⟩
    rw [mem_settled, Settles, payable_iff_ready hproven]
    exact and_iff_right rfl

end

end PaymentChain

/-! ## A payer -/

namespace OfflinePayment.Demo

open Groth16

/-- Hashes as the circuit does, and proves with keys that have neither `alpha` nor `delta`. -/
def honestArkworks : Arkworks Fr Fr := { arkworks with
  prove := fun pk circuit _ => .ok ⟨pk.vk.prepareInputs circuit.publicInputs, 1, 0⟩
  poseidonHash := poseidonConfig.hashBlock }

private theorem honestArkworks_documented : honestArkworks.Documented product where
  verifies := arkworks_documented.verifies
  malformed := arkworks_documented.malformed
  processed := arkworks_documented.processed
  vkRoundTrip := arkworks_documented.vkRoundTrip
  proofRoundTrip := arkworks_documented.proofRoundTrip

/-- Each public input matters. -/
def payerKey : VerifyingKey Fr Fr :=
  ⟨0, 1, 1, 0, [1, (2 : Nat), (3 : Nat), (4 : Nat), (5 : Nat), (6 : Nat)]⟩

def payerProvingKey : ProvingKey Fr Fr := ⟨payerKey, 0, 0, [], [], [], [], []⟩

private theorem payerProvingKey_complete :
    Complete honestArkworks product poseidonConfig.hashBlockVar payerProvingKey where
  proves circuit seed _ _ := by
    refine ⟨_, rfl, rfl, ?_⟩
    simp [Equation, product, payerProvingKey, payerKey]

def payerPallet : PalletConfig Nat Fr Fr := { paymentPallet with ark := honestArkworks }

/-- The key is set, and account 1 has 100 native tokens. -/
def payerChain : PaymentChain Nat := { wallet with
  offlinePayment := { wallet.offlinePayment with
    verificationKey := some (honestArkworks.serializeVk payerKey) } }

/-- The bytes of the only proving key. -/
def deserializePayerKey (bytes : List UInt8) : Option (ProvingKey Fr Fr) :=
  if bytes = [80, 75] then some payerProvingKey else none

end OfflinePayment.Demo

open OfflinePayment Demo in
/-- Account 1 registers, account 3 too, and then account 1 pays 10 native tokens to account 2. -/
theorem PaymentChain.honest_payment_of_wallet :
    let zkSecret := deriveZkSecret payerPallet.blake2_256 [1, 2, 3]
    let s := Machine.run (PaymentChain.step paymentConfig payerPallet) payerChain
      [.registerOfflineIdentity 1 (computeCommitment honestArkworks zkSecret),
        .registerOfflineIdentity 3 (computeCommitment honestArkworks (deriveZkSecret
          payerPallet.blake2_256 [4]))]
    let recipientHash := hashRecipient payerPallet (payerPallet.encodeAccount 2)
    let assetHash := chainAssetHash payerPallet (nativeTokenCidHash payerPallet)
    ∃ output, generateProofFfi honestArkworks deserializePayerKey [80, 75] zkSecret
        (Vector.replicate 32 7) recipientHash (nativeBalanceToBytes 10) assetHash 0 = .ok output ∧
      verifyProofFfi honestArkworks (honestArkworks.serializeVk payerKey) output.proofBytes
        output.commitment recipientHash (nativeBalanceToBytes 10) assetHash output.nullifier = true ∧
      (output.nullifier ∈ s.settled paymentConfig payerPallet
          (.submitNativeOfflinePayment output.proofBytes 1 2 10 output.nullifier) ↔
        Ready payerPallet s (s.chain.runtime.treasuries.nativeBalances.get 1 0) output 1 2 10 ∧
          (paymentConfig.currencyTransfer s.chain.runtime.treasuries.nativeBalances 1 2 10).isSome =
            true) :=
  (PaymentChain.honest_payment_settles_iff paymentConfig payerPallet product
    honestArkworks_documented poseidonConfig.hashBlockVar
    (PoseidonConfig.computes_hashBlockVar rfl) payerProvingKey payerProvingKey_complete
    deserializePayerKey [80, 75] rfl payerChain rfl 1 rfl [1, 2, 3]
    [.registerOfflineIdentity 3 (computeCommitment honestArkworks (deriveZkSecret
      payerPallet.blake2_256 [4]))]
    (by
      intro action haction
      rw [List.mem_singleton.1 haction]
      trivial) (Vector.replicate 32 7) 0 2 10).2

end Encointer
