import Encointer.Library.Gadgets
import Encointer.OfflinePayment.PoseidonParameters

/-!
# The Poseidon sponge

The hash of at most as many elements as the rate, which takes one permutation: by
value, and as a gadget.
-/

namespace Encointer

namespace OfflinePayment

open R1cs

namespace PoseidonConfig

variable (config : PoseidonConfig)

/-! ## By value -/

/-- Half of the full rounds come first, and half last. -/
def isFull (r : Nat) : Bool :=
  r < config.fullRounds / 2 || config.fullRounds / 2 + config.partialRounds ≤ r

def boxes (r : Nat) : Nat := if config.isFull r then config.rate + config.capacity else 1

def round (r : Nat) (state : List Fr) : List Fr :=
  let keyed := List.zipWith (· + ·) state (config.ark.getD r [])
  let substituted := (List.range (config.boxes r)).foldl
    (fun state i => state.modify i (· ^ config.alpha)) keyed
  config.mds.map fun row => dot row substituted

def permute (state : List Fr) : List Fr :=
  (List.range (config.fullRounds + config.partialRounds)).foldl
    (fun state r => config.round r state) state

/-- One block is absorbed, one element is squeezed. -/
def hashBlock (inputs : List Fr) : Fr :=
  let state := List.replicate config.capacity 0 ++
    (inputs ++ List.replicate config.rate 0).take config.rate
  (config.permute state).getD config.capacity 0

/-! ## As a gadget -/

def roundVar (r : Nat) : Gadget Fr :=
  ((Gadget.addConstants (config.ark.getD r [])).comp
    (Gadget.rounds Gadget.fifthPowerAt (List.range (config.boxes r)))).comp
      (Gadget.multiply config.mds)

def permuteVar : Gadget Fr :=
  Gadget.rounds config.roundVar (List.range (config.fullRounds + config.partialRounds))

def absorbVar : Gadget Fr :=
  Gadget.wires fun args => List.replicate config.capacity [] ++
    (args ++ List.replicate config.rate []).take config.rate

def squeezeVar : Gadget Fr :=
  Gadget.wires fun args => [args.getD config.capacity []]

def hashBlockVar : Gadget Fr :=
  (config.absorbVar.comp config.permuteVar).comp config.squeezeVar

variable {config}

private theorem computes_roundVar (halpha : config.alpha = 5) (r : Nat) :
    (config.roundVar r).Computes (config.round r) := by
  have hboxes := Gadget.computes_rounds (F := Fr) Gadget.computes_fifthPowerAt
    (List.range (config.boxes r))
  have hround := ((Gadget.computes_addConstants (config.ark.getD r [])).comp hboxes).comp
    (Gadget.computes_multiply config.mds)
  have hvalue : config.round r = (fun state => config.mds.map fun row => dot row state) ∘
      (fun state => (List.range (config.boxes r)).foldl
        (fun state i => state.modify i (· ^ 5)) state) ∘
      fun state => List.zipWith (· + ·) state (config.ark.getD r []) := by
    funext state
    simp only [round, halpha, Function.comp]
  rw [hvalue]
  exact hround

private theorem computes_absorbVar : config.absorbVar.Computes fun inputs =>
    List.replicate config.capacity 0 ++
      (inputs ++ List.replicate config.rate 0).take config.rate := by
  apply Gadget.computes_wires
  · intro z args
    simp only [List.map_append, List.map_take, List.map_replicate, eval_nil]
  · intro z args hargs x hx
    have hmem : x = [] ∨ x ∈ args := by
      rcases List.mem_append.1 hx with hx | hx
      · exact Or.inl (List.eq_of_mem_replicate hx)
      · rcases List.mem_append.1 (List.mem_of_mem_take hx) with hx | hx
        · exact Or.inr hx
        · exact Or.inl (List.eq_of_mem_replicate hx)
    rcases hmem with rfl | hmem
    · exact covers_nil
    · exact hargs x hmem

private theorem computes_squeezeVar : config.squeezeVar.Computes fun state =>
    [state.getD config.capacity 0] := by
  apply Gadget.computes_wires
  · intro z args
    cases harg : args[config.capacity]? <;> simp [harg]
  · intro z args hargs x hx
    rw [List.mem_singleton.1 hx, List.getD_eq_getElem?_getD]
    cases harg : args[config.capacity]? with
    | none => exact covers_nil
    | some arg => exact hargs arg (List.mem_of_getElem? harg)

theorem computes_hashBlockVar (halpha : config.alpha = 5) :
    config.hashBlockVar.Computes fun inputs => [config.hashBlock inputs] := by
  have hpermute := Gadget.computes_rounds (computes_roundVar halpha)
    (List.range (config.fullRounds + config.partialRounds))
  exact (computes_absorbVar.comp hpermute).comp computes_squeezeVar

end PoseidonConfig

end OfflinePayment

end Encointer
