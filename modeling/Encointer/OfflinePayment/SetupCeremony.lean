import Encointer.Library.Groth16
import Mathlib.Algebra.BigOperators.Group.List.Basic
import Mathlib.Algebra.Algebra.Bilinear
import Mathlib.Algebra.Field.ZMod
import Mathlib.Tactic.NormNum.Prime

/-!
# The ceremony of the trusted setup

Each contribution multiplies the delta of the keys by a scalar, and divides what
is a quotient by delta. Its receipt proves that the contributor knows the scalar.
-/

namespace Encointer

namespace OfflinePayment

open Groth16

variable {F G1 G2 GT : Type} [Field F] [DecidableEq F] [AddCommGroup G1] [AddCommGroup G2]
  [AddCommGroup GT] [Module F G1] [Module F G2] [Module F GT] [DecidableEq GT]

/-! ## Contributions -/

structure ContributionReceipt (G1 G2 : Type) where
  dG1 : G1
  oldDeltaG2 : G2
  newDeltaG2 : G2

def inverse (d : F) : Option F := if d = 0 then none else some d⁻¹

/-- The call panics on the scalar zero. -/
def ceremonyContributeWithScalar (generator : G1) (pk : ProvingKey G1 G2) (d : F) :
    Option (ProvingKey G1 G2 × ContributionReceipt G1 G2) := do
  let dInv ← inverse d
  let oldDeltaG2 := pk.vk.deltaG2
  let newDeltaG2 := d • pk.vk.deltaG2
  let pk := { pk with
    vk := { pk.vk with deltaG2 := newDeltaG2 }
    deltaG1 := d • pk.deltaG1
    hQuery := pk.hQuery.map fun h => dInv • h
    lQuery := pk.lQuery.map fun l => dInv • l }
  some (pk, ⟨d • generator, oldDeltaG2, newDeltaG2⟩)

def verifyContribution (pairing : G1 →ₗ[F] G2 →ₗ[F] GT) (generator : G1)
    (receipt : ContributionReceipt G1 G2) : Bool :=
  pairing receipt.dG1 receipt.oldDeltaG2 = pairing generator receipt.newDeltaG2

def ceremonyContributions (generator : G1) : ProvingKey G1 G2 → List F →
    Option (ProvingKey G1 G2 × List (ContributionReceipt G1 G2))
  | pk, [] => some (pk, [])
  | pk, d :: ds => do
      let (pk, receipt) ← ceremonyContributeWithScalar generator pk d
      let (pk, receipts) ← ceremonyContributions generator pk ds
      some (pk, receipt :: receipts)

/-! ## Rerandomized keys -/

/-- The key with other terms in place of those that depend on delta. -/
def withDeltaTerms (pk : ProvingKey G1 G2) (deltaG1 : G1) (deltaG2 : G2) (hQuery lQuery : List G1) :
    ProvingKey G1 G2 :=
  { pk with
    vk := { pk.vk with deltaG2 := deltaG2 }
    deltaG1 := deltaG1
    hQuery := hQuery
    lQuery := lQuery }

/-- Delta is multiplied by `D`, and what it divides is divided by `D`. -/
structure Rerandomized (D : F) (pk pk' : ProvingKey G1 G2) : Prop where
  deltaG1 : pk'.deltaG1 = D • pk.deltaG1
  deltaG2 : pk'.vk.deltaG2 = D • pk.vk.deltaG2
  hQuery : pk'.hQuery.map (fun h => D • h) = pk.hQuery
  lQuery : pk'.lQuery.map (fun l => D • l) = pk.lQuery
  others : withDeltaTerms pk' pk.deltaG1 pk.vk.deltaG2 pk.hQuery pk.lQuery = pk

namespace Rerandomized

section

omit [DecidableEq F]

theorem map_one_smul (elements : List G1) : elements.map (fun x => (1 : F) • x) = elements := by
  simp

theorem refl (pk : ProvingKey G1 G2) : Rerandomized (1 : F) pk pk where
  deltaG1 := (one_smul F _).symm
  deltaG2 := (one_smul F _).symm
  hQuery := map_one_smul _
  lQuery := map_one_smul _
  others := rfl

theorem map_mul_smul {D D' : F} {elements elements' elements'' : List G1}
    (h : elements'.map (fun x => D • x) = elements)
    (h' : elements''.map (fun x => D' • x) = elements') :
    elements''.map (fun x => (D * D') • x) = elements := by
  rw [← h, ← h', List.map_map]
  apply List.map_congr_left
  intro x hx
  exact mul_smul D D' x

theorem trans {D D' : F} {pk pk' pk'' : ProvingKey G1 G2} (h : Rerandomized D pk pk')
    (h' : Rerandomized D' pk' pk'') : Rerandomized (D * D') pk pk'' where
  deltaG1 := by rw [h'.deltaG1, h.deltaG1, smul_smul, mul_comm]
  deltaG2 := by rw [h'.deltaG2, h.deltaG2, smul_smul, mul_comm]
  hQuery := map_mul_smul h.hQuery h'.hQuery
  lQuery := map_mul_smul h.lQuery h'.lQuery
  others := by
    rw [← h.others, ← h'.others]
    rfl

end

end Rerandomized

/-! ## Chains of receipts -/

/-- The receipts lead from one delta to another, and each of them is accepted. -/
structure ReceiptChain (pairing : G1 →ₗ[F] G2 →ₗ[F] GT) (generator : G1) (start finish : G2)
    (receipts : List (ContributionReceipt G1 G2)) : Prop where
  accepted : ∀ receipt ∈ receipts, verifyContribution pairing generator receipt = true
  chained : receipts.IsChain fun receipt next => receipt.newDeltaG2 = next.oldDeltaG2
  first : ∀ receipt ∈ receipts.head?, receipt.oldDeltaG2 = start
  last : ∀ receipt ∈ receipts.getLast?, receipt.newDeltaG2 = finish
  empty : receipts = [] → start = finish

namespace ReceiptChain

variable {pairing : G1 →ₗ[F] G2 →ₗ[F] GT} {generator : G1} {start finish : G2}
  {receipts : List (ContributionReceipt G1 G2)}

omit [DecidableEq F] in
theorem nil (delta : G2) : ReceiptChain pairing generator delta delta [] where
  accepted := by simp
  chained := .nil
  first := by simp
  last := by simp
  empty := by simp

omit [DecidableEq F] in
theorem cons {receipt : ContributionReceipt G1 G2}
    (haccepted : verifyContribution pairing generator receipt = true)
    (h : ReceiptChain pairing generator receipt.newDeltaG2 finish receipts) :
    ReceiptChain pairing generator receipt.oldDeltaG2 finish (receipt :: receipts) where
  accepted := by
    intro receipt' hmem
    rcases List.mem_cons.1 hmem with rfl | hmem
    · exact haccepted
    · exact h.accepted receipt' hmem
  chained := by
    rw [List.isChain_cons]
    constructor
    · intro next hnext
      exact (h.first next hnext).symm
    · exact h.chained
  first := by simp
  last := by
    cases receipts with
    | nil => simpa using h.empty rfl
    | cons next rest => simpa [List.getLast?_cons_cons] using h.last
  empty := by simp

end ReceiptChain

/-! ## The whole ceremony -/

/-- A nonzero scalar is accepted, on both sides of the pairing. -/
theorem ceremonyContributeWithScalar_spec (pairing : G1 →ₗ[F] G2 →ₗ[F] GT) (generator : G1)
    (pk : ProvingKey G1 G2) {d : F} (hd : d ≠ 0) :
    ∃ pk' receipt, ceremonyContributeWithScalar generator pk d = some (pk', receipt) ∧
      Rerandomized d pk pk' ∧ verifyContribution pairing generator receipt = true ∧
      receipt.oldDeltaG2 = pk.vk.deltaG2 ∧ receipt.newDeltaG2 = pk'.vk.deltaG2 := by
  have hquery (elements : List G1) :
      (elements.map fun x => d⁻¹ • x).map (fun x => d • x) = elements := by
    rw [List.map_map]
    apply List.map_id''
    intro x
    exact smul_inv_smul₀ hd x
  have hinverse : inverse d = some d⁻¹ := if_neg hd
  rw [ceremonyContributeWithScalar, hinverse]
  refine ⟨_, _, rfl, ?_, ?_, rfl, rfl⟩
  · constructor
    · rfl
    · rfl
    · exact hquery pk.hQuery
    · exact hquery pk.lQuery
    · rfl
  · simp [verifyContribution]

/--
Contributions with nonzero scalars multiply delta by the product of all, divide the queries by it,
and leave the other terms. Their receipts are accepted, and lead from the first key to the last.
-/
theorem ceremony_contributions_preserve (pairing : G1 →ₗ[F] G2 →ₗ[F] GT) (generator : G1)
    (pk : ProvingKey G1 G2) (ds : List F) (hds : ∀ d ∈ ds, d ≠ 0) :
    ∃ pk' receipts, ceremonyContributions generator pk ds = some (pk', receipts) ∧
      receipts.length = ds.length ∧ Rerandomized ds.prod pk pk' ∧
      ReceiptChain pairing generator pk.vk.deltaG2 pk'.vk.deltaG2 receipts := by
  induction ds generalizing pk with
  | nil =>
      rw [List.prod_nil]
      exact ⟨pk, [], rfl, rfl, .refl pk, .nil _⟩
  | cons d ds ih =>
      obtain ⟨pk₁, receipt, hcontribute, hfirst, haccepted, hold, hnew⟩ :=
        ceremonyContributeWithScalar_spec pairing generator pk (hds d List.mem_cons_self)
      obtain ⟨pk', receipts, hcontributions, hlength, hrest, hchain⟩ :=
        ih pk₁ fun d' hd' => hds d' (List.mem_cons_of_mem d hd')
      refine ⟨pk', receipt :: receipts, ?_, ?_, ?_, ?_⟩
      · simp [ceremonyContributions, hcontribute, hcontributions]
      · rw [List.length_cons, List.length_cons, hlength]
      · rw [List.prod_cons]
        exact hfirst.trans hrest
      · rw [← hnew] at hchain
        rw [← hold]
        exact hchain.cons haccepted

/-! ## Which receipts are accepted -/

/-- The contributor has multiplied delta by a nonzero scalar that the receipt fixes. -/
def Honest (F : Type) [Field F] [Module F G1] [Module F G2] (generator : G1)
    (receipt : ContributionReceipt G1 G2) : Prop :=
  ∃ d : F, d ≠ 0 ∧ receipt.dG1 = d • generator ∧ receipt.newDeltaG2 = d • receipt.oldDeltaG2

omit [DecidableEq F] in
/-- The check compares the new delta with the multiple that the receipt fixes. -/
theorem verifyContribution_smul {pairing : G1 →ₗ[F] G2 →ₗ[F] GT} {generatorG1 : G1}
    {generatorG2 : G2} (h : PrimeOrder pairing generatorG1 generatorG2) (d : F)
    (oldDeltaG2 newDeltaG2 : G2) :
    verifyContribution pairing generatorG1 ⟨d • generatorG1, oldDeltaG2, newDeltaG2⟩ = true ↔
      newDeltaG2 = d • oldDeltaG2 := by
  rw [verifyContribution, decide_eq_true_eq, map_smul, LinearMap.smul_apply, ← map_smul,
    h.pairing_generator_inj]
  exact eq_comm

/-- The check is exact, but for a receipt of the scalar zero that makes delta zero. -/
theorem verifyContribution_exact_iff (pairing : G1 →ₗ[F] G2 →ₗ[F] GT) (generatorG1 : G1)
    (generatorG2 : G2) (h : PrimeOrder pairing generatorG1 generatorG2)
    (receipt : ContributionReceipt G1 G2) :
    (verifyContribution pairing generatorG1 receipt = true ↔ Honest F generatorG1 receipt) ↔
      receipt.dG1 ≠ 0 ∨ receipt.newDeltaG2 ≠ 0 := by
  obtain ⟨dG1, oldDeltaG2, newDeltaG2⟩ := receipt
  obtain ⟨d, rfl⟩ := h.spansG1 dG1
  have hscalar (d' : F) : d • generatorG1 = d' • generatorG1 ↔ d = d' :=
    (smul_left_injective F h.generatorG1_ne_zero).eq_iff
  have hzero : d • generatorG1 = 0 ↔ d = 0 := by
    rw [← zero_smul F generatorG1, hscalar]
  have hhonest : Honest F generatorG1 ⟨d • generatorG1, oldDeltaG2, newDeltaG2⟩ ↔
      d ≠ 0 ∧ newDeltaG2 = d • oldDeltaG2 := by
    constructor
    · rintro ⟨d', hd', hdG1, hnew⟩
      rw [(hscalar d').1 hdG1]
      exact ⟨hd', hnew⟩
    · rintro ⟨hd, hnew⟩
      exact ⟨d, hd, rfl, hnew⟩
  rw [verifyContribution_smul h, hhonest, ne_eq, ne_eq, hzero]
  by_cases hd : d = 0
  · simp [hd]
  · simp [hd]

/-! ## Three contributions -/

namespace Demo

instance primeOrderFact : Fact (Nat.Prime 101) := ⟨by norm_num⟩

/-- A key over groups of prime order, by discrete logarithms. -/
def initialKey : ProvingKey (ZMod 101) (ZMod 101) :=
  ⟨⟨2, 3, 5, 7, [11, 13]⟩, 17, 7, [19], [23], [29], [31, 37], [41]⟩

end Demo

theorem ceremony_contributions_preserve_three :
    ∃ pk' receipts, ceremonyContributions 1 Demo.initialKey [(10 : ZMod 101), 20, 30] =
        some (pk', receipts) ∧ receipts.length = 3 ∧
      Rerandomized ([(10 : ZMod 101), 20, 30] : List (ZMod 101)).prod Demo.initialKey pk' ∧
      ReceiptChain (LinearMap.mul (ZMod 101) (ZMod 101)) 1 Demo.initialKey.vk.deltaG2
        pk'.vk.deltaG2 receipts :=
  ceremony_contributions_preserve (LinearMap.mul (ZMod 101) (ZMod 101)) 1 Demo.initialKey
    [(10 : ZMod 101), 20, 30] (by decide)

/-! ## A receipt that makes delta zero -/

namespace Demo

private theorem primeOrder : PrimeOrder (LinearMap.mul (ZMod 101) (ZMod 101)) 1 1 where
  spansG1 := fun x => ⟨x, (mul_one x).symm⟩
  spansG2 := fun y => ⟨y, (mul_one y).symm⟩
  nondegenerate := by
    intro h
    rw [LinearMap.mul_apply', mul_one] at h
    exact one_ne_zero h

def honestReceipt : ContributionReceipt (ZMod 101) (ZMod 101) := ⟨10, 7, 70⟩

def wrongReceipt : ContributionReceipt (ZMod 101) (ZMod 101) := ⟨10, 7, 71⟩

/-- The identity points of both groups. -/
def identityReceipt : ContributionReceipt (ZMod 101) (ZMod 101) := ⟨0, 7, 0⟩

end Demo

theorem verifyContribution_exact_honest :
    (verifyContribution (LinearMap.mul (ZMod 101) (ZMod 101)) 1 Demo.honestReceipt = true ↔
      Honest (ZMod 101) 1 Demo.honestReceipt) ∧
    (verifyContribution (LinearMap.mul (ZMod 101) (ZMod 101)) 1 Demo.wrongReceipt = true ↔
      Honest (ZMod 101) 1 Demo.wrongReceipt) := by
  have hexact := verifyContribution_exact_iff (LinearMap.mul (ZMod 101) (ZMod 101)) 1 1
    Demo.primeOrder
  exact ⟨(hexact Demo.honestReceipt).2 (Or.inl (by decide)),
    (hexact Demo.wrongReceipt).2 (Or.inl (by decide))⟩

theorem identity_receipt_accepted :
    verifyContribution (LinearMap.mul (ZMod 101) (ZMod 101)) 1 Demo.identityReceipt = true ∧
      ¬ Honest (ZMod 101) 1 Demo.identityReceipt := by
  refine ⟨by decide, ?_⟩
  rintro ⟨d, hd, hdG1, -⟩
  rw [smul_eq_mul, mul_one] at hdG1
  exact hd hdG1.symm

end OfflinePayment

end Encointer
