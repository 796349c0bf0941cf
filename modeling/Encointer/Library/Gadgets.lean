import Encointer.Library.R1cs
import Mathlib.Data.List.Induction

/-!
# Gadgets

Wires, fifth powers, and rounds: the parts of a permutation.
-/

namespace Encointer

namespace R1cs

variable {F : Type} [CommRing F]

/-! ## Linear combinations -/

def scale (coefficient : F) (x : LinearCombination F) : LinearCombination F :=
  x.map fun term => (coefficient * term.1, term.2)

def plusConstant (x : LinearCombination F) (constant : F) : LinearCombination F :=
  (constant, .one) :: x

/-- A row of a matrix times the state. -/
def combine (row : List F) (state : List (LinearCombination F)) : LinearCombination F :=
  (List.zipWith scale row state).flatten

def dot (row state : List F) : F := (List.zipWith (· * ·) row state).sum

section

variable {z : Assignment F} {x : LinearCombination F} {args : List (LinearCombination F)}

@[simp] theorem eval_nil (z : Assignment F) : eval z ([] : LinearCombination F) = 0 := rfl

theorem eval_scale (z : Assignment F) (coefficient : F) (x : LinearCombination F) :
    eval z (scale coefficient x) = coefficient * eval z x := by
  induction x with
  | nil => simp [scale]
  | cons term x ih =>
      simp only [eval, scale, List.map_cons, List.sum_cons] at ih ⊢
      rw [ih]
      ring

theorem eval_plusConstant (z : Assignment F) (x : LinearCombination F) (constant : F) :
    eval z (plusConstant x constant) = eval z x + constant := by
  simp [eval, plusConstant, Assignment.value, add_comm]

theorem eval_flatten (z : Assignment F) (args : List (LinearCombination F)) :
    eval z args.flatten = (args.map (eval z)).sum := by
  induction args with
  | nil => rfl
  | cons arg args ih => rw [List.flatten_cons, eval_append, ih, List.map_cons, List.sum_cons]

theorem eval_combine (z : Assignment F) (row : List F) (state : List (LinearCombination F)) :
    eval z (combine row state) = dot row (state.map (eval z)) := by
  rw [combine, eval_flatten, dot, List.map_zipWith, List.zipWith_map_right]
  simp only [eval_scale]

omit [CommRing F] in
theorem covers_nil : z.Covers [] := by
  intro term hterm
  cases hterm

theorem covers_scale (coefficient : F) (h : z.Covers x) : z.Covers (scale coefficient x) := by
  intro term hterm
  obtain ⟨term', hterm', rfl⟩ := List.mem_map.1 hterm
  exact h term' hterm'

omit [CommRing F] in
theorem covers_plusConstant (h : z.Covers x) (constant : F) :
    z.Covers (plusConstant x constant) := by
  intro term hterm
  rcases List.mem_cons.1 hterm with rfl | hterm
  · trivial
  · exact h term hterm

omit [CommRing F] in
theorem covers_flatten (h : ∀ arg ∈ args, z.Covers arg) : z.Covers args.flatten := by
  intro term hterm
  obtain ⟨arg, harg, hterm⟩ := List.mem_flatten.1 hterm
  exact h arg harg term hterm

theorem covers_combine (row : List F) (h : ∀ arg ∈ args, z.Covers arg) :
    z.Covers (combine row args) := by
  apply covers_flatten
  intro arg harg
  obtain ⟨i, hi, rfl⟩ := List.mem_iff_getElem.1 harg
  rw [List.getElem_zipWith]
  exact covers_scale _ (h _ (List.getElem_mem _))

end

namespace Gadget

/-! ## Wires -/

def wires (out : List (LinearCombination F) → List (LinearCombination F)) : Gadget F where
  count := fun _ _ _ => 0
  output := fun _ _ args => out args
  constraints := fun _ _ _ => []
  witnesses := fun _ _ => []

theorem computes_wires {out : List (LinearCombination F) → List (LinearCombination F)}
    {f : List F → List F} (heval : ∀ z args, (out args).map (eval z) = f (args.map (eval z)))
    (hcovers : ∀ (z : Assignment F) args, (∀ arg ∈ args, z.Covers arg) →
      ∀ x ∈ out args, z.Covers x) :
    (wires out).Computes f where
  length := by
    intro z args
    rfl
  sound := by
    intro numInputs numWitnesses args z _
    exact heval z args
  covers := by
    intro z args hargs x hx
    exact (hcovers z args hargs x hx).extend [] []
  complete := by
    intro z args _ constraint hmem
    cases hmem

theorem computes_id : (wires (fun args : List (LinearCombination F) => args)).Computes id :=
  computes_wires (fun _ _ => rfl) fun _ _ hargs => hargs

def addConstants (constants : List F) : Gadget F :=
  wires fun args => List.zipWith plusConstant args constants

theorem computes_addConstants (constants : List F) :
    (addConstants constants).Computes fun state => List.zipWith (· + ·) state constants := by
  apply computes_wires
  · intro z args
    rw [List.map_zipWith, List.zipWith_map_left]
    simp only [eval_plusConstant]
  · intro z args hargs x hx
    obtain ⟨i, hi, rfl⟩ := List.mem_iff_getElem.1 hx
    rw [List.getElem_zipWith]
    exact covers_plusConstant (hargs _ (List.getElem_mem _)) _

def multiply (matrix : List (List F)) : Gadget F :=
  wires fun args => matrix.map fun row => combine row args

theorem computes_multiply (matrix : List (List F)) :
    (multiply matrix).Computes fun state => matrix.map fun row => dot row state := by
  apply computes_wires
  · intro z args
    rw [List.map_map]
    apply List.map_congr_left
    intro row _
    exact eval_combine z row args
  · intro z args hargs x hx
    obtain ⟨row, _, rfl⟩ := List.mem_map.1 hx
    exact covers_combine row hargs

/-! ## Fifth powers -/

section

variable {z : Assignment F} {arg : LinearCombination F} {args : List (LinearCombination F)} {i : Nat}

def newWitness (numWitnesses index : Nat) : LinearCombination F :=
  [(1, .witness (numWitnesses + index))]

theorem eval_newWitness (z : Assignment F) (witnesses : List F) (index : Nat) :
    eval (z.extend [] witnesses) (newWitness z.witnesses.length index) =
      witnesses.getD index 0 := by
  rw [newWitness, eval_singleton, one_mul, Assignment.value, Assignment.extend,
    List.getD_eq_getElem?_getD, List.getD_eq_getElem?_getD,
    List.getElem?_append_right (Nat.le_add_right _ _), Nat.add_sub_cancel_left]

theorem covers_newWitness (z : Assignment F) {witnesses : List F} (index : Nat)
    (h : index < witnesses.length) :
    (z.extend [] witnesses).Covers (newWitness z.witnesses.length index) := by
  intro term hterm
  rw [List.mem_singleton.1 hterm]
  simp only [Assignment.Has, Assignment.extend, List.length_append]
  omega

/-- Square, square again and multiply. -/
def powerConstraints (numWitnesses : Nat) (arg : LinearCombination F) : List (Constraint F) :=
  [⟨arg, arg, newWitness numWitnesses 0⟩,
    ⟨newWitness numWitnesses 0, newWitness numWitnesses 0, newWitness numWitnesses 1⟩,
    ⟨newWitness numWitnesses 1, arg, newWitness numWitnesses 2⟩]

def powers (x : F) : List F := [x ^ 2, x ^ 4, x ^ 5]

theorem eval_power {numWitnesses : Nat}
    (hholds : ∀ constraint ∈ powerConstraints numWitnesses arg, constraint.Holds z) :
    eval z (newWitness numWitnesses 2) = eval z arg ^ 5 := by
  have hsquare := hholds _ List.mem_cons_self
  have hfourth := hholds _ (List.mem_cons_of_mem _ List.mem_cons_self)
  have hfifth := hholds _ (List.mem_cons_of_mem _ (List.mem_cons_of_mem _ List.mem_cons_self))
  rw [Constraint.Holds] at hsquare hfourth hfifth
  calc eval z (newWitness numWitnesses 2)
      = eval z (newWitness numWitnesses 1) * eval z arg := hfifth.symm
    _ = eval z arg ^ 5 := by
        rw [← hfourth, ← hsquare]
        ring

theorem powers_complete (harg : z.Covers arg) :
    ∀ constraint ∈ powerConstraints z.witnesses.length arg,
      constraint.Covered (z.extend [] (powers (eval z arg))) ∧
        constraint.Holds (z.extend [] (powers (eval z arg))) := by
  let z' := z.extend [] (powers (eval z arg))
  have hcovers : z'.Covers arg := harg.extend [] _
  have hnew : ∀ index < 3, z'.Covers (newWitness z.witnesses.length index) :=
    fun index hlt => covers_newWitness z index hlt
  have heval : eval z' arg = eval z arg := eval_extend harg [] _
  have hevalNew : ∀ index, eval z' (newWitness z.witnesses.length index) =
      (powers (eval z arg)).getD index 0 := eval_newWitness z _
  intro constraint hmem
  change constraint.Covered z' ∧ constraint.Holds z'
  simp only [powerConstraints, List.mem_cons, List.not_mem_nil, or_false] at hmem
  rcases hmem with rfl | rfl | rfl
  · refine ⟨⟨hcovers, hcovers, hnew 0 (by decide)⟩, ?_⟩
    rw [Constraint.Holds, heval, hevalNew]
    exact (sq _).symm
  · refine ⟨⟨hnew 0 (by decide), hnew 0 (by decide), hnew 1 (by decide)⟩, ?_⟩
    rw [Constraint.Holds, hevalNew, hevalNew]
    exact (pow_add _ 2 2).symm
  · refine ⟨⟨hnew 1 (by decide), hcovers, hnew 2 (by decide)⟩, ?_⟩
    rw [Constraint.Holds, heval, hevalNew, hevalNew]
    exact (pow_succ _ 4).symm

def fifthPowerAt (i : Nat) : Gadget F where
  count := fun _ _ args => if i < args.length then 3 else 0
  output := fun _ numWitnesses args => args.modify i fun _ => newWitness numWitnesses 2
  constraints := fun _ numWitnesses args => args[i]?.toList.flatMap (powerConstraints numWitnesses)
  witnesses := fun z args => args[i]?.toList.flatMap fun arg => powers (eval z arg)

theorem computes_fifthPowerAt (i : Nat) :
    (fifthPowerAt i : Gadget F).Computes fun state => state.modify i (· ^ 5) where
  length := by
    intro z args
    by_cases hi : i < args.length
    · simp [fifthPowerAt, hi, powers]
    · simp [fifthPowerAt, hi]
  sound := by
    intro numInputs numWitnesses args z hholds
    apply List.ext_getElem?
    intro j
    simp only [fifthPowerAt, List.getElem?_map, List.getElem?_modify]
    by_cases hij : i = j
    · subst hij
      cases harg : args[i]? with
      | none => rfl
      | some arg =>
          simp only [fifthPowerAt, harg, Option.toList_some, List.flatMap_singleton] at hholds
          simp [eval_power hholds]
    · simp [hij]
  covers := by
    intro z args hargs x hx
    obtain ⟨j, hj, rfl⟩ := List.mem_iff_getElem.1 hx
    simp only [fifthPowerAt, List.getElem_modify]
    have hlt : j < args.length := by simpa [fifthPowerAt] using hj
    split
    · rename_i hij
      subst hij
      simp only [Gadget.extend, List.getElem?_eq_getElem hlt, Option.toList_some,
        List.flatMap_singleton]
      exact covers_newWitness z 2 (Nat.lt_succ_self 2)
    · exact (hargs _ (List.getElem_mem hlt)).extend [] _
  complete := by
    intro z args hargs constraint hmem
    cases harg : args[i]? with
    | none => simp [fifthPowerAt, harg] at hmem
    | some arg =>
        simp only [fifthPowerAt, harg, Option.toList_some, List.flatMap_singleton] at hmem
        have hcomplete := powers_complete (hargs arg (List.mem_of_getElem? harg)) constraint hmem
        simpa only [Gadget.extend, fifthPowerAt, harg, Option.toList_some,
          List.flatMap_singleton] using hcomplete

end

/-! ## Rounds -/

def rounds {ι : Type} (g : ι → Gadget F) (indices : List ι) : Gadget F :=
  indices.foldl (fun first i => first.comp (g i)) (wires fun args => args)

theorem computes_rounds {ι : Type} {g : ι → Gadget F} {f : ι → List F → List F}
    (hg : ∀ i, (g i).Computes (f i)) (indices : List ι) :
    (rounds g indices).Computes fun state => indices.foldl (fun state i => f i state) state := by
  unfold rounds
  -- the induction is on the last round
  induction indices using List.reverseRecOn with
  | nil => exact computes_id
  | append_singleton indices i ih =>
      simp only [List.foldl_append, List.foldl_cons, List.foldl_nil]
      exact ih.comp (hg i)

end Gadget

end R1cs

end Encointer
