import Mathlib.Algebra.BigOperators.Group.List.Basic
import Mathlib.Algebra.Ring.Defs
import Mathlib.Tactic.Ring

/-!
# Rank-1 constraint systems

A circuit allocates variables with their values and adds constraints on them. The
prover keeps a satisfied system satisfied; the verifier learns from the
constraints alone what the variables are.
-/

namespace Encointer

namespace R1cs

/-! ## Variables and constraints -/

inductive Variable where
  | one
  | input (index : Nat)
  | witness (index : Nat)
  deriving DecidableEq, Repr

/-- A sum of variables with coefficients. -/
abbrev LinearCombination (F : Type) := List (F × Variable)

/-- The product of the first two combinations is the third. -/
structure Constraint (F : Type) where
  a : LinearCombination F
  b : LinearCombination F
  c : LinearCombination F

/-- The values of the public inputs and of the witnesses, in the order of allocation. -/
structure Assignment (F : Type) where
  inputs : List F
  witnesses : List F

variable {F : Type} [CommRing F]

def Assignment.value (z : Assignment F) : Variable → F
  | .one => 1
  | .input index => z.inputs.getD index 0
  | .witness index => z.witnesses.getD index 0

def eval (z : Assignment F) (combination : LinearCombination F) : F :=
  (combination.map fun term => term.1 * z.value term.2).sum

def Constraint.Holds (constraint : Constraint F) (z : Assignment F) : Prop :=
  eval z constraint.a * eval z constraint.b = eval z constraint.c

/-- More inputs and more witnesses. -/
def Assignment.extend (z : Assignment F) (inputs witnesses : List F) : Assignment F :=
  ⟨z.inputs ++ inputs, z.witnesses ++ witnesses⟩

/-- The variable is allocated. -/
def Assignment.Has (z : Assignment F) : Variable → Prop
  | .one => True
  | .input index => index < z.inputs.length
  | .witness index => index < z.witnesses.length

/-- All variables of the combination are allocated. -/
def Assignment.Covers (z : Assignment F) (combination : LinearCombination F) : Prop :=
  ∀ term ∈ combination, z.Has term.2

structure Constraint.Covered (constraint : Constraint F) (z : Assignment F) : Prop where
  a : z.Covers constraint.a
  b : z.Covers constraint.b
  c : z.Covers constraint.c

section

variable {z : Assignment F} {combination : LinearCombination F} {constraint : Constraint F}

@[simp] theorem eval_singleton (z : Assignment F) (coefficient : F) (v : Variable) :
    eval z [(coefficient, v)] = coefficient * z.value v := by
  simp [eval]

section

omit [CommRing F]

theorem Assignment.Has.extend {v : Variable} (h : z.Has v) (inputs witnesses : List F) :
    (z.extend inputs witnesses).Has v := by
  cases v with
  | one => trivial
  | input index =>
      have hlt : index < z.inputs.length := h
      simp only [Has, Assignment.extend, List.length_append]
      omega
  | witness index =>
      have hlt : index < z.witnesses.length := h
      simp only [Has, Assignment.extend, List.length_append]
      omega

theorem Assignment.Covers.extend (h : z.Covers combination) (inputs witnesses : List F) :
    (z.extend inputs witnesses).Covers combination := by
  intro term hterm
  exact (h term hterm).extend inputs witnesses

theorem Constraint.Covered.extend (h : constraint.Covered z) (inputs witnesses : List F) :
    constraint.Covered (z.extend inputs witnesses) :=
  ⟨h.a.extend inputs witnesses, h.b.extend inputs witnesses, h.c.extend inputs witnesses⟩

end

theorem value_extend {v : Variable} (h : z.Has v) (inputs witnesses : List F) :
    (z.extend inputs witnesses).value v = z.value v := by
  cases v with
  | one => rfl
  | input index =>
      have hlt : index < z.inputs.length := h
      simp [Assignment.value, Assignment.extend, List.getElem?_append_left hlt]
  | witness index =>
      have hlt : index < z.witnesses.length := h
      simp [Assignment.value, Assignment.extend, List.getElem?_append_left hlt]

theorem eval_extend (h : z.Covers combination) (inputs witnesses : List F) :
    eval (z.extend inputs witnesses) combination = eval z combination := by
  unfold eval
  congr 1
  apply List.map_congr_left
  intro term hterm
  rw [value_extend (h term hterm)]

theorem Constraint.Covered.holds_extend (h : constraint.Covered z) (inputs witnesses : List F) :
    constraint.Holds (z.extend inputs witnesses) ↔ constraint.Holds z := by
  rw [Constraint.Holds, Constraint.Holds, eval_extend h.a, eval_extend h.b, eval_extend h.c]

end

/-! ## Synthesis -/

structure ConstraintSystem (F : Type) where
  assignment : Assignment F
  constraints : List (Constraint F)

namespace ConstraintSystem

def empty : ConstraintSystem F := ⟨⟨[], []⟩, []⟩

/-- All constraints hold, and are about allocated variables. -/
structure Satisfied (cs : ConstraintSystem F) : Prop where
  covered : ∀ constraint ∈ cs.constraints, constraint.Covered cs.assignment
  holds : ∀ constraint ∈ cs.constraints, constraint.Holds cs.assignment

theorem satisfied_empty : (empty : ConstraintSystem F).Satisfied where
  covered := by
    intro constraint hmem
    cases hmem
  holds := by
    intro constraint hmem
    cases hmem

end ConstraintSystem

/-- A step of a circuit. -/
abbrev Synthesis (F : Type) := StateM (ConstraintSystem F)

def newInput (value : F) : Synthesis F (LinearCombination F) := fun cs =>
  ([(1, .input cs.assignment.inputs.length)],
    { cs with assignment := cs.assignment.extend [value] [] })

def newWitness (value : F) : Synthesis F (LinearCombination F) := fun cs =>
  ([(1, .witness cs.assignment.witnesses.length)],
    { cs with assignment := cs.assignment.extend [] [value] })

def minus (x y : LinearCombination F) : LinearCombination F :=
  x ++ y.map fun term => (-term.1, term.2)

/-- The difference, times one, is zero. -/
def equality (x y : LinearCombination F) : Constraint F := ⟨minus x y, [(1, .one)], []⟩

def enforceEqual (x y : LinearCombination F) : Synthesis F Unit := fun cs =>
  ((), { cs with constraints := cs.constraints ++ [equality x y] })

/--
A part of a circuit. The constraints that it adds depend on how many variables there are, and
not on their values, so that the keys of a proof system are made for all values at once.
-/
structure Gadget (F : Type) where
  count : (numInputs numWitnesses : Nat) → List (LinearCombination F) → Nat
  output : (numInputs numWitnesses : Nat) → List (LinearCombination F) → List (LinearCombination F)
  constraints : (numInputs numWitnesses : Nat) → List (LinearCombination F) → List (Constraint F)
  witnesses : Assignment F → List (LinearCombination F) → List F

/-- The assignment with the witnesses of a gadget. -/
def Gadget.extend (gadget : Gadget F) (z : Assignment F) (args : List (LinearCombination F)) :
    Assignment F :=
  z.extend [] (gadget.witnesses z args)

def Gadget.run (gadget : Gadget F) (args : List (LinearCombination F)) :
    Synthesis F (List (LinearCombination F)) := fun cs =>
  let z := cs.assignment
  (gadget.output z.inputs.length z.witnesses.length args,
    { assignment := gadget.extend z args
      constraints := cs.constraints ++
        gadget.constraints z.inputs.length z.witnesses.length args })

/-- The gadget computes `f`: whatever satisfies its constraints, and so do its witnesses. -/
structure Gadget.Computes (gadget : Gadget F) (f : List F → List F) : Prop where
  length : ∀ (z : Assignment F) args, (gadget.witnesses z args).length =
    gadget.count z.inputs.length z.witnesses.length args
  sound : ∀ numInputs numWitnesses args (z : Assignment F),
    (∀ constraint ∈ gadget.constraints numInputs numWitnesses args, constraint.Holds z) →
    (gadget.output numInputs numWitnesses args).map (eval z) = f (args.map (eval z))
  covers : ∀ (z : Assignment F) args, (∀ arg ∈ args, z.Covers arg) →
    ∀ out ∈ gadget.output z.inputs.length z.witnesses.length args, (gadget.extend z args).Covers out
  complete : ∀ (z : Assignment F) args, (∀ arg ∈ args, z.Covers arg) →
    ∀ constraint ∈ gadget.constraints z.inputs.length z.witnesses.length args,
      constraint.Covered (gadget.extend z args) ∧ constraint.Holds (gadget.extend z args)

/-! ## The verifier: what constraints say -/

section

variable {z : Assignment F} {x y : LinearCombination F}

theorem eval_append (z : Assignment F) (x y : LinearCombination F) :
    eval z (x ++ y) = eval z x + eval z y := by
  simp [eval]

theorem eval_minus (z : Assignment F) (x y : LinearCombination F) :
    eval z (minus x y) = eval z x - eval z y := by
  rw [minus, eval_append, sub_eq_add_neg]
  congr 1
  induction y with
  | nil => simp [eval]
  | cons term y ih =>
      simp only [eval, List.map_cons, List.sum_cons] at ih ⊢
      rw [ih]
      ring

theorem holds_equality : (equality x y).Holds z ↔ eval z x = eval z y := by
  rw [Constraint.Holds, equality, eval_minus, eval_singleton]
  simp [eval, Assignment.value, sub_eq_zero]

theorem covered_equality (hx : z.Covers x) (hy : z.Covers y) : (equality x y).Covered z where
  a := by
    intro term hterm
    rcases List.mem_append.1 hterm with hterm | hterm
    · exact hx term hterm
    · obtain ⟨term', hterm', rfl⟩ := List.mem_map.1 hterm
      exact hy term' hterm'
  b := by
    intro term hterm
    rw [List.mem_singleton.1 hterm]
    trivial
  c := by
    intro term hterm
    cases hterm

end

/-! ## The prover: satisfied systems stay satisfied -/

namespace ConstraintSystem.Satisfied

variable {cs : ConstraintSystem F}

theorem extend (h : cs.Satisfied) (inputs witnesses : List F) :
    ConstraintSystem.Satisfied
      { cs with assignment := cs.assignment.extend inputs witnesses } where
  covered := by
    intro constraint hmem
    exact (h.covered constraint hmem).extend inputs witnesses
  holds := by
    intro constraint hmem
    exact ((h.covered constraint hmem).holds_extend inputs witnesses).2 (h.holds constraint hmem)

theorem append (h : cs.Satisfied) {constraints : List (Constraint F)}
    (hnew : ∀ constraint ∈ constraints,
      constraint.Covered cs.assignment ∧ constraint.Holds cs.assignment) :
    ConstraintSystem.Satisfied { cs with constraints := cs.constraints ++ constraints } where
  covered := by
    intro constraint hmem
    rcases List.mem_append.1 hmem with hmem | hmem
    · exact h.covered constraint hmem
    · exact (hnew constraint hmem).1
  holds := by
    intro constraint hmem
    rcases List.mem_append.1 hmem with hmem | hmem
    · exact h.holds constraint hmem
    · exact (hnew constraint hmem).2

theorem enforceEqual (h : cs.Satisfied) {x y : LinearCombination F} (hx : cs.assignment.Covers x)
    (hy : cs.assignment.Covers y) (heq : eval cs.assignment x = eval cs.assignment y) :
    (R1cs.enforceEqual x y cs).2.Satisfied := by
  apply h.append
  intro constraint hmem
  rw [List.mem_singleton.1 hmem]
  exact ⟨covered_equality hx hy, holds_equality.2 heq⟩

theorem run (h : cs.Satisfied) {gadget : Gadget F} {f : List F → List F}
    (hg : gadget.Computes f) {args : List (LinearCombination F)}
    (hargs : ∀ arg ∈ args, cs.assignment.Covers arg) :
    (gadget.run args cs).2.Satisfied :=
  (h.extend [] _).append (hg.complete cs.assignment args hargs)

end ConstraintSystem.Satisfied

/-! ## Composition of gadgets -/

namespace Gadget

variable {g h : Gadget F} {f f' : List F → List F}

/-- What the gadget puts out, when its own witnesses are used. -/
theorem Computes.eval_output (hg : g.Computes f) {z : Assignment F}
    {args : List (LinearCombination F)} (hargs : ∀ arg ∈ args, z.Covers arg) :
    (g.output z.inputs.length z.witnesses.length args).map (eval (g.extend z args)) =
      f (args.map (eval z)) := by
  rw [hg.sound _ _ _ _ fun constraint hmem => (hg.complete z args hargs constraint hmem).2]
  congr 1
  apply List.map_congr_left
  intro arg harg
  exact eval_extend (hargs arg harg) [] _

theorem Computes.length_extend (hg : g.Computes f) (z : Assignment F)
    (args : List (LinearCombination F)) :
    (g.extend z args).witnesses.length =
      z.witnesses.length + g.count z.inputs.length z.witnesses.length args := by
  rw [Gadget.extend, Assignment.extend, List.length_append, hg.length]

theorem Computes.covers_getD (hg : g.Computes f) {z : Assignment F}
    {args : List (LinearCombination F)} (hargs : ∀ arg ∈ args, z.Covers arg) {i : Nat} :
    (g.extend z args).Covers ((g.output z.inputs.length z.witnesses.length args).getD i []) := by
  rw [List.getD_eq_getElem?_getD]
  cases hout : (g.output z.inputs.length z.witnesses.length args)[i]? with
  | none =>
      intro term hterm
      cases hterm
  | some out => exact hg.covers z args hargs out (List.mem_of_getElem? hout)

omit [CommRing F] in
@[simp] theorem inputs_extend (z : Assignment F) (args : List (LinearCombination F)) :
    (g.extend z args).inputs = z.inputs := List.append_nil _

/-- The first gadget, and the second on what it puts out. -/
def comp (g h : Gadget F) : Gadget F where
  count := fun numInputs numWitnesses args =>
    g.count numInputs numWitnesses args +
      h.count numInputs (numWitnesses + g.count numInputs numWitnesses args)
        (g.output numInputs numWitnesses args)
  output := fun numInputs numWitnesses args =>
    h.output numInputs (numWitnesses + g.count numInputs numWitnesses args)
      (g.output numInputs numWitnesses args)
  constraints := fun numInputs numWitnesses args =>
    g.constraints numInputs numWitnesses args ++
      h.constraints numInputs (numWitnesses + g.count numInputs numWitnesses args)
        (g.output numInputs numWitnesses args)
  witnesses := fun z args =>
    g.witnesses z args ++
      h.witnesses (g.extend z args) (g.output z.inputs.length z.witnesses.length args)

omit [CommRing F] in
theorem extend_comp (z : Assignment F) (args : List (LinearCombination F)) :
    (g.comp h).extend z args =
      h.extend (g.extend z args) (g.output z.inputs.length z.witnesses.length args) := by
  simp only [Gadget.extend, comp, Assignment.extend, List.append_nil, List.append_assoc]

theorem Computes.comp (hg : g.Computes f) (hh : h.Computes f') :
    (g.comp h).Computes (f' ∘ f) where
  length := by
    intro z args
    simp only [Gadget.comp, List.length_append, hg.length, hh.length, hg.length_extend,
      inputs_extend]
  sound := by
    intro numInputs numWitnesses args z hholds
    have hfirst := hg.sound numInputs numWitnesses args z fun constraint hmem =>
      hholds constraint (List.mem_append_left _ hmem)
    have hsecond := hh.sound numInputs (numWitnesses + g.count numInputs numWitnesses args)
      (g.output numInputs numWitnesses args) z fun constraint hmem =>
        hholds constraint (List.mem_append_right _ hmem)
    rw [hfirst] at hsecond
    exact hsecond
  covers := by
    intro z args hargs
    have hsecond := hh.covers (g.extend z args) _ (hg.covers z args hargs)
    rw [hg.length_extend, inputs_extend] at hsecond
    rw [extend_comp]
    exact hsecond
  complete := by
    intro z args hargs constraint hmem
    have hsecond := hh.complete (g.extend z args) _ (hg.covers z args hargs)
    rw [hg.length_extend, inputs_extend] at hsecond
    rw [extend_comp]
    rcases List.mem_append.1 hmem with hmem | hmem
    · obtain ⟨hcovered, hholds⟩ := hg.complete z args hargs constraint hmem
      exact ⟨hcovered.extend [] _, (hcovered.holds_extend [] _).2 hholds⟩
    · exact hsecond constraint hmem

end Gadget

end R1cs

end Encointer
