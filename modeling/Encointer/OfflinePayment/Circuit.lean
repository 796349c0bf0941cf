import Encointer.OfflinePayment.PoseidonSponge

/-!
# The circuit of an offline payment

The circuit hashes the secret to the commitment, and the secret with the nonce to
the nullifier. Its other public inputs are not constrained.
-/

namespace Encointer

namespace OfflinePayment

open R1cs

/-! ## Constraints -/

/-- `poseidonVar` absorbs its arguments in a fresh sponge, and squeezes one element. -/
def generateConstraints (poseidonVar : Gadget Fr) (circuit : OfflinePaymentCircuit) :
    Synthesis Fr Unit := do
  let commitmentVar ← newInput circuit.commitment
  let _recipientHashVar ← newInput circuit.recipientHash
  let _amountVar ← newInput circuit.amount
  let _assetHashVar ← newInput circuit.assetHash
  let nullifierVar ← newInput circuit.nullifier
  let zkSecretVar ← newWitness circuit.zkSecret
  let nonceVar ← newWitness circuit.nonce
  let computedCommitment ← poseidonVar.run [zkSecretVar]
  enforceEqual (computedCommitment.getD 0 []) commitmentVar
  let computedNullifier ← poseidonVar.run [zkSecretVar, nonceVar]
  enforceEqual (computedNullifier.getD 0 []) nullifierVar

def synthesize (poseidonVar : Gadget Fr) (circuit : OfflinePaymentCircuit) :
    ConstraintSystem Fr :=
  (generateConstraints poseidonVar circuit .empty).2

/-! ## What the constraints are -/

def inputVar (index : Nat) : LinearCombination Fr := [(1, .input index)]

def witnessVar (index : Nat) : LinearCombination Fr := [(1, .witness index)]

section

variable {poseidonVar : Gadget Fr} {poseidonHash : List Fr → Fr}

def allocated (circuit : OfflinePaymentCircuit) : Assignment Fr :=
  ⟨circuit.publicInputs, [circuit.zkSecret, circuit.nonce]⟩

/-- With the witnesses of the first hash. -/
def committed (poseidonVar : Gadget Fr) (circuit : OfflinePaymentCircuit) : Assignment Fr :=
  poseidonVar.extend (allocated circuit) [witnessVar 0]

/-- What a gadget squeezes, from some number of witnesses on. -/
def squeezed (poseidonVar : Gadget Fr) (numWitnesses : Nat) (args : List (LinearCombination Fr)) :
    LinearCombination Fr :=
  (poseidonVar.output 5 numWitnesses args).getD 0 []

/-- The constraints, which depend on no value. -/
def circuitConstraints (poseidonVar : Gadget Fr) : List (Constraint Fr) :=
  let numWitnesses := 2 + poseidonVar.count 5 2 [witnessVar 0]
  poseidonVar.constraints 5 2 [witnessVar 0] ++
    [equality (squeezed poseidonVar 2 [witnessVar 0]) (inputVar 0)] ++
    poseidonVar.constraints 5 numWitnesses [witnessVar 0, witnessVar 1] ++
    [equality (squeezed poseidonVar numWitnesses [witnessVar 0, witnessVar 1]) (inputVar 4)]

variable (hg : poseidonVar.Computes fun inputs => [poseidonHash inputs])

include hg

private theorem length_committed (circuit : OfflinePaymentCircuit) :
    (committed poseidonVar circuit).witnesses.length =
      2 + poseidonVar.count 5 2 [witnessVar 0] :=
  hg.length_extend (allocated circuit) [witnessVar 0]

/-- The keys can be made with any values for the variables. -/
theorem constraints_synthesize (circuit : OfflinePaymentCircuit) :
    (synthesize poseidonVar circuit).constraints = circuitConstraints poseidonVar := by
  unfold circuitConstraints
  rw [← length_committed hg circuit]
  rfl

omit hg

/-! ## What the constraints mean -/

@[simp] theorem eval_inputVar (z : Assignment Fr) (index : Nat) :
    eval z (inputVar index) = z.inputs.getD index 0 := by
  rw [inputVar, eval_singleton, one_mul, Assignment.value]

@[simp] theorem eval_witnessVar (z : Assignment Fr) (index : Nat) :
    eval z (witnessVar index) = z.witnesses.getD index 0 := by
  rw [witnessVar, eval_singleton, one_mul, Assignment.value]

theorem getD_of_map_eq {z : Assignment Fr} {out : List (LinearCombination Fr)} {x : Fr}
    (h : out.map (eval z) = [x]) : eval z (out.getD 0 []) = x := by
  cases out with
  | nil => cases h
  | cons y out =>
      rw [List.map_cons] at h
      exact (List.cons.inj h).1

theorem hashes_of_holds (hg : poseidonVar.Computes fun inputs => [poseidonHash inputs])
    {z : Assignment Fr}
    (hholds : ∀ constraint ∈ circuitConstraints poseidonVar, constraint.Holds z) :
    z.inputs.getD 0 0 = poseidonHash [z.witnesses.getD 0 0] ∧
      z.inputs.getD 4 0 = poseidonHash [z.witnesses.getD 0 0, z.witnesses.getD 1 0] := by
  let numWitnesses := 2 + poseidonVar.count 5 2 [witnessVar 0]
  have hfirst := hg.sound 5 2 [witnessVar 0] z fun constraint hmem =>
    hholds constraint (by simp [circuitConstraints, hmem])
  have hsecond := hg.sound 5 numWitnesses [witnessVar 0, witnessVar 1] z fun constraint hmem =>
    hholds constraint (by simp [circuitConstraints, numWitnesses, hmem])
  have hcommitment := holds_equality.1
    (hholds (equality (squeezed poseidonVar 2 [witnessVar 0]) (inputVar 0))
      (by simp [circuitConstraints]))
  have hnullifier := holds_equality.1
    (hholds (equality (squeezed poseidonVar numWitnesses [witnessVar 0, witnessVar 1]) (inputVar 4))
      (by simp [circuitConstraints, numWitnesses]))
  rw [squeezed, getD_of_map_eq hfirst] at hcommitment
  rw [squeezed, getD_of_map_eq hsecond] at hnullifier
  simp only [List.map_cons, List.map_nil, eval_inputVar, eval_witnessVar] at hcommitment hnullifier
  exact ⟨hcommitment.symm, hnullifier.symm⟩

theorem covers_witnessVar {z : Assignment Fr} {index : Nat} (h : index < z.witnesses.length) :
    z.Covers (witnessVar index) := by
  intro term hterm
  rw [List.mem_singleton.1 hterm]
  exact h

theorem covers_inputVar {z : Assignment Fr} {index : Nat} (h : index < z.inputs.length) :
    z.Covers (inputVar index) := by
  intro term hterm
  rw [List.mem_singleton.1 hterm]
  exact h

private theorem eval_allocated (circuit : OfflinePaymentCircuit) :
    eval (allocated circuit) (inputVar 0) = circuit.commitment ∧
      eval (allocated circuit) (inputVar 4) = circuit.nullifier ∧
      eval (allocated circuit) (witnessVar 0) = circuit.zkSecret ∧
      eval (allocated circuit) (witnessVar 1) = circuit.nonce := by
  simp [allocated, OfflinePaymentCircuit.publicInputs]

/-- A prover who knows the secret and the nonce satisfies the constraints. -/
theorem satisfied_synthesize (hg : poseidonVar.Computes fun inputs => [poseidonHash inputs])
    {circuit : OfflinePaymentCircuit}
    (hcommitment : circuit.commitment = poseidonHash [circuit.zkSecret])
    (hnullifier : circuit.nullifier = poseidonHash [circuit.zkSecret, circuit.nonce]) :
    (synthesize poseidonVar circuit).Satisfied := by
  obtain ⟨heval0, heval4, hevalSecret, hevalNonce⟩ := eval_allocated circuit
  have hsecret : (allocated circuit).Covers (witnessVar 0) := covers_witnessVar Nat.zero_lt_two
  have hnonce : (allocated circuit).Covers (witnessVar 1) := covers_witnessVar Nat.one_lt_two
  have hcommitmentVar : (allocated circuit).Covers (inputVar 0) :=
    covers_inputVar (Nat.zero_lt_succ 4)
  have hnullifierVar : (allocated circuit).Covers (inputVar 4) :=
    covers_inputVar (Nat.lt_succ_self 4)
  have hstart : ConstraintSystem.Satisfied ⟨allocated circuit, []⟩ :=
    ConstraintSystem.satisfied_empty.extend circuit.publicInputs [circuit.zkSecret, circuit.nonce]
  -- the first hash, and its comparison with the commitment
  have hargs : ∀ arg ∈ [witnessVar 0], (allocated circuit).Covers arg := by
    intro arg harg
    rw [List.mem_singleton.1 harg]
    exact hsecret
  have houtput : eval (committed poseidonVar circuit) (squeezed poseidonVar 2 [witnessVar 0]) =
      eval (committed poseidonVar circuit) (inputVar 0) := by
    calc eval (committed poseidonVar circuit) (squeezed poseidonVar 2 [witnessVar 0])
        = poseidonHash ([witnessVar 0].map (eval (allocated circuit))) :=
          getD_of_map_eq (hg.eval_output hargs)
      _ = circuit.commitment := by rw [hcommitment, List.map_singleton, hevalSecret]
      _ = eval (committed poseidonVar circuit) (inputVar 0) := by
          rw [committed, Gadget.extend, eval_extend hcommitmentVar, heval0]
  have hfirst := (hstart.run hg hargs).enforceEqual (hg.covers_getD hargs)
    (hcommitmentVar.extend [] _) houtput
  -- the second hash, and its comparison with the nullifier
  have hargs' : ∀ arg ∈ [witnessVar 0, witnessVar 1],
      (committed poseidonVar circuit).Covers arg := by
    intro arg harg
    rcases List.mem_pair.1 harg with rfl | rfl
    · exact hsecret.extend [] _
    · exact hnonce.extend [] _
  have hvalues : [witnessVar 0, witnessVar 1].map (eval (committed poseidonVar circuit)) =
      [circuit.zkSecret, circuit.nonce] := by
    rw [List.map_cons, List.map_singleton, committed, Gadget.extend, eval_extend hsecret,
      eval_extend hnonce, hevalSecret, hevalNonce]
  have houtput' := getD_of_map_eq (hg.eval_output hargs')
  rw [hvalues, ← hnullifier, ← heval4, ← eval_extend hnullifierVar [] (poseidonVar.witnesses
    (allocated circuit) [witnessVar 0])] at houtput'
  exact (hfirst.run hg hargs').enforceEqual (hg.covers_getD hargs')
    ((hnullifierVar.extend [] _).extend [] _)
    (houtput'.trans (eval_extend (hnullifierVar.extend [] _) [] _).symm)

/-- With a key that was made for any values, the public inputs are accepted just if somebody can
know a secret and a nonce with these hashes, whatever recipient, amount and asset they name. -/
theorem circuit_satisfiable_iff (poseidonVar : Gadget Fr) (poseidonHash : List Fr → Fr)
    (hg : poseidonVar.Computes fun inputs => [poseidonHash inputs])
    (setup : OfflinePaymentCircuit) (inputs : PublicInputs) :
    (∃ witnesses, ∀ constraint ∈ (synthesize poseidonVar setup).constraints,
        constraint.Holds ⟨inputs.toVec, witnesses⟩) ↔
      ∃ zkSecret nonce, inputs.commitment = poseidonHash [zkSecret] ∧
        inputs.nullifier = poseidonHash [zkSecret, nonce] := by
  constructor
  · rintro ⟨witnesses, hholds⟩
    rw [constraints_synthesize hg] at hholds
    exact ⟨_, _, hashes_of_holds hg hholds⟩
  · rintro ⟨zkSecret, nonce, hcommitment, hnullifier⟩
    let circuit : OfflinePaymentCircuit :=
      ⟨inputs.commitment, inputs.recipientHash, inputs.amount, inputs.assetHash, inputs.nullifier,
        zkSecret, nonce⟩
    have hsatisfied : (synthesize poseidonVar circuit).Satisfied :=
      satisfied_synthesize hg hcommitment hnullifier
    rw [constraints_synthesize hg setup, ← constraints_synthesize hg circuit]
    exact ⟨_, hsatisfied.holds⟩

/-- The setup circuit has ones everywhere; the payer knows 42 and 7. -/
theorem circuit_satisfiable_poseidon :
    let hash := poseidonConfig.hashBlock
    let poseidonVar := poseidonConfig.hashBlockVar
    let setup := OfflinePaymentCircuit.new hash 1 1 1 1 1
    let inputs : PublicInputs := ⟨hash [42], 111, 1000, 222, hash [42, 7]⟩
    ∃ witnesses, ∀ constraint ∈ (synthesize poseidonVar setup).constraints,
      constraint.Holds ⟨inputs.toVec, witnesses⟩ :=
  (circuit_satisfiable_iff poseidonConfig.hashBlockVar poseidonConfig.hashBlock
    (PoseidonConfig.computes_hashBlockVar rfl) _ _).2 ⟨42, 7, rfl, rfl⟩

end

end OfflinePayment

end Encointer
