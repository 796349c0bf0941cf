import Mathlib.Data.List.Infix
import Mathlib.Algebra.BigOperators.Group.Finset.Basic

/-!
# Fallible steps and runs

A transaction either fails, and the state stays as it was, or yields a new
state. A function that may fail after it has written returns its state beside
its result; its caller decides whether the writes stay. The lemmas here take a
successful computation apart, and carry an invariant from one step to all steps
of a run.
-/

namespace Encointer

/-! ## Computations that can fail -/

section Except

variable {ε α β : Type}

def ensure (p : Prop) [Decidable p] (e : ε) : Except ε Unit := if p then .ok () else .error e

theorem ensure_eq_ok {p : Prop} [Decidable p] {e : ε} {u : Unit} : ensure p e = .ok u ↔ p := by
  unfold ensure
  by_cases h : p <;> simp [h]

theorem bind_eq_ok {x : Except ε α} {f : α → Except ε β} {b : β} :
    (x >>= f) = .ok b ↔ ∃ a, x = .ok a ∧ f a = .ok b := by
  cases x with
  | error e => simp [bind, Except.bind]
  | ok a => simp [bind, Except.bind]

theorem bind_eq_error {x : Except ε α} {f : α → Except ε β} {e : ε} :
    (x >>= f) = .error e ↔ x = .error e ∨ ∃ a, x = .ok a ∧ f a = .error e := by
  cases x with
  | error e => simp [bind, Except.bind]
  | ok a => simp [bind, Except.bind]

theorem isOk_iff {x : Except ε α} : x.isOk = true ↔ ∃ a, x = .ok a := by
  cases x <;> simp [Except.isOk, Except.toBool]

theorem isOk_ensure_bind (p : Prop) [Decidable p] (e : ε) (f : Unit → Except ε α) :
    (ensure p e >>= f).isOk = (decide p && (f ()).isOk) := by
  by_cases h : p
  · simp [ensure, h, bind, Except.bind]
  · simp [ensure, h, bind, Except.bind, Except.isOk, Except.toBool]

def okOr (x : Option α) (e : ε) : Except ε α :=
  match x with
  | some a => .ok a
  | none => .error e

theorem okOr_eq_ok {x : Option α} {e : ε} {a : α} : okOr x e = .ok a ↔ x = some a := by
  cases x <;> simp [okOr]

theorem okOr_eq_error {x : Option α} {e e' : ε} : okOr x e = .error e' ↔ x = none ∧ e = e' := by
  cases x <;> simp [okOr]

theorem ok_inj {a b : α} : (Except.ok a : Except ε α) = .ok b ↔ a = b := by simp

theorem pure_eq_ok {a b : α} : (pure a : Except ε α) = .ok b ↔ a = b := by
  simp [pure, Except.pure]

theorem error_ne_ok {e : ε} {a : α} : (Except.error e : Except ε α) = .ok a ↔ False := by simp

theorem ite_eq_ok {p : Prop} [Decidable p] {x y : Except ε α} {a : α} :
    (if p then x else y) = .ok a ↔ (p ∧ x = .ok a) ∨ (¬ p ∧ y = .ok a) := by
  by_cases h : p <;> simp [h]

/-- A call whose writes are rolled back when it fails. -/
def transactional (result : β × Except ε α) : Except ε β := result.2.map fun _ => result.1

theorem transactional_eq_ok {result : β × Except ε α} {b : β} :
    transactional result = .ok b ↔ (∃ a, result.2 = .ok a) ∧ result.1 = b := by
  obtain ⟨s, r⟩ := result
  cases r <;> simp [transactional, Except.map]

end Except

/-! ## Runs -/

namespace Machine

variable {σ α : Type} (step : σ → α → σ)

/-- The state after a sequence of actions. -/
def run (s : σ) (actions : List α) : σ := actions.foldl step s

/-- Each action meets `ok` in the state it is taken in. -/
def Along (ok : σ → α → Prop) : σ → List α → Prop
  | _, [] => True
  | s, a :: rest => ok s a ∧ Along ok (step s a) rest

instance Along.decidable (ok : σ → α → Prop) [∀ s a, Decidable (ok s a)] :
    ∀ s actions, Decidable (Along step ok s actions)
  | _, [] => inferInstanceAs (Decidable True)
  | s, a :: rest =>
      haveI := Along.decidable ok (step s a) rest
      inferInstanceAs (Decidable (ok s a ∧ Along step ok (step s a) rest))

variable {step}

@[simp] theorem run_nil (s : σ) : run step s [] = s := rfl

@[simp] theorem run_cons (s : σ) (a : α) (rest : List α) :
    run step s (a :: rest) = run step (step s a) rest := rfl

theorem run_append (s : σ) (as bs : List α) :
    run step s (as ++ bs) = run step (run step s as) bs := List.foldl_append

theorem Along.append {ok : σ → α → Prop} {s : σ} {as bs : List α} :
    Along step ok s (as ++ bs) ↔ Along step ok s as ∧ Along step ok (run step s as) bs := by
  induction as generalizing s with
  | nil => simp [Along]
  | cons a as ih =>
      simp only [List.cons_append, Along, ih, run_cons]
      exact and_assoc.symm

theorem Along.mono {ok ok' : σ → α → Prop} (h : ∀ s a, ok s a → ok' s a) {s : σ}
    {actions : List α} (hok : Along step ok s actions) : Along step ok' s actions := by
  induction actions generalizing s with
  | nil => trivial
  | cons a rest ih => exact ⟨h s a hok.1, ih hok.2⟩

theorem Along.and {ok ok' : σ → α → Prop} {s : σ} {actions : List α}
    (hok : Along step ok s actions) (hok' : Along step ok' s actions) :
    Along step (fun s a => ok s a ∧ ok' s a) s actions := by
  induction actions generalizing s with
  | nil => trivial
  | cons a rest ih => exact ⟨⟨hok.1, hok'.1⟩, ih hok.2 hok'.2⟩

/-- What every allowed step preserves holds after every allowed run. -/
theorem run_invariant (ok : σ → α → Prop) (inv : σ → Prop)
    (hstep : ∀ s a, inv s → ok s a → inv (step s a)) {s : σ} (h : inv s) {actions : List α}
    (hok : Along step ok s actions) : inv (run step s actions) := by
  induction actions generalizing s with
  | nil => exact h
  | cons a rest ih => exact ih (hstep s a h hok.1) hok.2

theorem run_concat (s : σ) (actions : List α) (a : α) :
    run step s (actions ++ [a]) = step (run step s actions) a := by
  rw [run_append, run_cons, run_nil]

theorem run_invariant_of_step (inv : σ → Prop) (hstep : ∀ s a, inv s → inv (step s a)) {s : σ}
    (h : inv s) (actions : List α) : inv (run step s actions) := by
  induction actions generalizing s with
  | nil => exact h
  | cons a rest ih => exact ih (hstep s a h)

theorem run_invariant_of_forall (ok : α → Prop) (inv : σ → Prop)
    (hstep : ∀ s a, inv s → ok a → inv (step s a)) {s : σ} (h : inv s) {actions : List α}
    (hok : ∀ a ∈ actions, ok a) : inv (run step s actions) := by
  induction actions generalizing s with
  | nil => exact h
  | cons a rest ih =>
      apply ih (hstep s a h (hok a List.mem_cons_self))
      intro a' hmem
      exact hok a' (List.mem_cons_of_mem a hmem)

/-! ## Tallies -/

def tally (step : σ → α → σ) (measure : σ → α → Nat) : σ → List α → Nat
  | _, [] => 0
  | s, a :: rest => measure s a + tally step measure (step s a) rest

@[simp] theorem tally_nil (measure : σ → α → Nat) (s : σ) : tally step measure s [] = 0 := rfl

@[simp] theorem tally_cons (measure : σ → α → Nat) (s : σ) (a : α) (rest : List α) :
    tally step measure s (a :: rest) = measure s a + tally step measure (step s a) rest := rfl

theorem tally_countP (p : α → Bool) (s : σ) (actions : List α) :
    tally step (fun _ a => if p a then 1 else 0) s actions = actions.countP p := by
  induction actions generalizing s with
  | nil => rfl
  | cons a rest ih =>
      rw [tally_cons, ih, List.countP_cons]
      exact Nat.add_comm _ _

theorem tally_invariant (ok : σ → α → Prop) (measure : σ → α → Nat) (inv : σ → Nat → Prop)
    (hstep : ∀ s a n, inv s n → ok s a → inv (step s a) (n + measure s a)) {s : σ} {n : Nat}
    (h : inv s n) {actions : List α} (hok : Along step ok s actions) :
    inv (run step s actions) (n + tally step measure s actions) := by
  induction actions generalizing s n with
  | nil => exact h
  | cons a rest ih =>
      have hrest := ih (hstep s a n h hok.1) hok.2
      rw [Nat.add_assoc] at hrest
      exact hrest

/--
What the steps spend comes out of what was there at first, and each step does what is right
whatever is left by then.
-/
theorem tally_spends (ok : σ → α → Prop) (spent : σ → α → Nat) (left : σ → Nat → Prop)
    (right : σ → α → Prop)
    (hstep : ∀ s a n, left s n → ok s a → spent s a ≤ n ∧ left (step s a) (n - spent s a))
    (hright : ∀ s a n, left s n → right s a) {s : σ} {n : Nat} (h : left s n) {actions : List α}
    (hok : Along step ok s actions) :
    tally step spent s actions ≤ n ∧
      left (run step s actions) (n - tally step spent s actions) ∧ Along step right s actions := by
  induction actions generalizing s n with
  | nil => exact ⟨Nat.zero_le n, h, trivial⟩
  | cons a rest ih =>
      obtain ⟨hle, hleft⟩ := hstep s a n h hok.1
      obtain ⟨hrest, hlast, halong⟩ := ih hleft hok.2
      rw [Nat.sub_sub] at hlast
      rw [tally_cons]
      exact ⟨by omega, hlast, hright s a n h, halong⟩

theorem tally_mono {ok : σ → α → Prop} {measure measure' : σ → α → Nat}
    (hle : ∀ s a, ok s a → measure s a ≤ measure' s a) {s : σ} {actions : List α}
    (hok : Along step ok s actions) :
    tally step measure s actions ≤ tally step measure' s actions := by
  induction actions generalizing s with
  | nil => exact le_rfl
  | cons a rest ih => exact Nat.add_le_add (hle s a hok.1) (ih hok.2)

theorem tally_add (measure measure' : σ → α → Nat) (s : σ) (actions : List α) :
    tally step (fun s a => measure s a + measure' s a) s actions =
      tally step measure s actions + tally step measure' s actions := by
  induction actions generalizing s with
  | nil => rfl
  | cons a rest ih =>
      simp only [tally_cons, ih]
      omega

theorem tally_sum {ι : Type} [DecidableEq ι] (indices : Finset ι) (measure : ι → σ → α → Nat)
    (s : σ) (actions : List α) :
    tally step (fun s a => ∑ i ∈ indices, measure i s a) s actions =
      ∑ i ∈ indices, tally step (measure i) s actions := by
  induction actions generalizing s with
  | nil => simp
  | cons a rest ih => simp [ih, Finset.sum_add_distrib]

/-- What holds of all states is met by all steps. -/
theorem Along.of_prefixes {ok : σ → α → Prop} (held : σ → Prop)
    (hok : ∀ s a, held s → held (step s a) → ok s a) {s : σ} {actions : List α}
    (h : ∀ seen, seen <+: actions → held (run step s seen)) : Along step ok s actions := by
  induction actions generalizing s with
  | nil => trivial
  | cons a rest ih =>
      refine ⟨hok s a (h [] List.nil_prefix) (h [a] (List.prefix_append [a] rest)), ?_⟩
      apply ih
      intro seen hseen
      exact h (a :: seen) ((List.prefix_cons_inj a).2 hseen)

/-- An invariant of the allowed steps is there for each of them. -/
theorem Along.with_invariant {ok ok' : σ → α → Prop} (inv : σ → Prop)
    (hstep : ∀ s a, inv s → ok s a → inv (step s a) ∧ ok' s a) {s : σ} (h : inv s)
    {actions : List α} (hok : Along step ok s actions) : Along step ok' s actions := by
  induction actions generalizing s with
  | nil => trivial
  | cons a rest ih =>
      obtain ⟨hnext, hok'⟩ := hstep s a h hok.1
      exact ⟨hok', ih hnext hok.2⟩

/-- Where each allowed step keeps the invariant just if it is good, the good runs are those
that keep it throughout. -/
theorem Along.iff_prefixes (inv : σ → Prop) {ok good : σ → α → Prop}
    (hstep : ∀ s a, inv s → ok s a → (inv (step s a) ↔ good s a)) {s : σ} (h : inv s)
    {actions : List α} (hok : Along step ok s actions) :
    (∀ seen, seen <+: actions → inv (run step s seen)) ↔ Along step good s actions := by
  induction actions generalizing s with
  | nil =>
      constructor
      · intro _
        trivial
      · intro _ seen hseen
        rw [List.prefix_nil.1 hseen]
        exact h
  | cons a rest ih =>
      constructor
      · intro hall
        have hnext : inv (step s a) := hall [a] (List.prefix_append [a] rest)
        refine ⟨(hstep s a h hok.1).1 hnext, (ih hnext hok.2).1 ?_⟩
        intro seen hseen
        exact hall (a :: seen) ((List.prefix_cons_inj a).2 hseen)
      · intro hgood seen hseen
        have hnext : inv (step s a) := (hstep s a h hok.1).2 hgood.1
        cases seen with
        | nil => exact h
        | cons a' seen =>
            obtain ⟨rfl, hrest⟩ := List.cons_prefix_cons.1 hseen
            exact (ih hnext hok.2).2 hgood.2 seen hrest

/-- The same for an invariant that depends on another one, which every step keeps. -/
theorem Along.iff_prefixes_of_held (inv : σ → Prop) {held : σ → Prop} {good : σ → α → Prop}
    (hheld : ∀ s a, held s → held (step s a))
    (hstep : ∀ s a, inv s → held s → (inv (step s a) ↔ good s a)) {s : σ} (h : inv s)
    (hs : held s) (actions : List α) :
    (∀ seen, seen <+: actions → inv (run step s seen)) ↔ Along step good s actions := by
  have halong : Along step (fun s _ => held s) s actions := by
    apply Along.of_prefixes held fun _ _ h _ => h
    intro seen _
    exact run_invariant_of_step held hheld hs seen
  exact Along.iff_prefixes inv hstep h halong

/-- What an observer notes of a run, step by step. -/
def note {β : Type} (step : σ → α → σ) (f : σ → α → β → β) : σ → β → List α → β
  | _, b, [] => b
  | s, b, a :: rest => note step f (step s a) (f s a b) rest

theorem note_concat {β : Type} (f : σ → α → β → β) (s : σ) (b : β) (actions : List α) (a : α) :
    note step f s b (actions ++ [a]) = f (run step s actions) a (note step f s b actions) := by
  induction actions generalizing s b with
  | nil => rfl
  | cons a' rest ih => exact ih (step s a') (f s a' b)

/-- The entries of a log that the steps of a run write, in order. -/
def log {β : Type} (step : σ → α → σ) (entries : σ → α → List β) : σ → List α → List β
  | _, [] => []
  | s, a :: rest => entries s a ++ log step entries (step s a) rest

theorem log_invariant {β : Type} (entries : σ → α → List β) (inv : σ → List β → Prop)
    (hstep : ∀ s a logged, inv s logged → inv (step s a) (logged ++ entries s a)) {s : σ}
    {logged : List β} (h : inv s logged) (actions : List α) :
    inv (run step s actions) (logged ++ log step entries s actions) := by
  induction actions generalizing s logged with
  | nil =>
      rw [log, List.append_nil]
      exact h
  | cons a rest ih =>
      rw [log, ← List.append_assoc]
      exact ih (hstep s a logged h)

theorem note_invariant {β : Type} (ok : σ → α → Prop) (f : σ → α → β → β) (inv : σ → β → Prop)
    (hstep : ∀ s a b, inv s b → ok s a → inv (step s a) (f s a b)) {s : σ} {b : β} (h : inv s b)
    {actions : List α} (hok : Along step ok s actions) :
    inv (run step s actions) (note step f s b actions) := by
  induction actions generalizing s b with
  | nil => exact h
  | cons a rest ih => exact ih (hstep s a b h hok.1) hok.2

theorem note_invariant_of_step {β : Type} (f : σ → α → β → β) (inv : σ → β → Prop)
    (hstep : ∀ s a b, inv s b → inv (step s a) (f s a b)) {s : σ} {b : β} (h : inv s b)
    (actions : List α) : inv (run step s actions) (note step f s b actions) := by
  induction actions generalizing s b with
  | nil => exact h
  | cons a rest ih => exact ih (hstep s a b h)

/-! ## What has been met -/

/-- Some state of the run, the first and the last included, satisfies `p`. -/
def Met (step : σ → α → σ) (s : σ) (actions : List α) (p : σ → Prop) : Prop :=
  ∃ seen, seen <+: actions ∧ p (run step s seen)

theorem Met.append {s : σ} {actions : List α} {p : σ → Prop} (h : Met step s actions p)
    (more : List α) : Met step s (actions ++ more) p := by
  obtain ⟨seen, hseen, hp⟩ := h
  exact ⟨seen, hseen.trans (List.prefix_append actions more), hp⟩

theorem Met.last {s : σ} {actions : List α} {p : σ → Prop} (h : p (run step s actions)) :
    Met step s actions p :=
  ⟨actions, List.prefix_refl actions, h⟩

theorem met_invariant (ok : σ → α → Prop) (inv : ((σ → Prop) → Prop) → σ → Prop)
    (hstep : ∀ (met met' : (σ → Prop) → Prop) s a, (∀ p, met p → met' p) → (∀ p, p s → met' p) →
      inv met s → ok s a → inv met' (step s a)) {s : σ}
    (h : ∀ met, inv met s) {actions : List α} (hok : Along step ok s actions) :
    inv (Met step s actions) (run step s actions) := by
  induction actions using List.reverseRecOn with
  | nil => exact h _
  | append_singleton as a ih =>
      obtain ⟨has, ha⟩ := Along.append.1 hok
      rw [run_concat]
      exact hstep (Met step s as) _ _ a (fun p hp => hp.append [a])
        (fun p hp => (Met.last hp).append [a]) (ih has) ha.1

/-- What the states of a run contribute in which an action is taken. -/
def visited {β : Type} [DecidableEq β] (step : σ → α → σ) (f : σ → Finset β) : σ → List α → Finset β
  | _, [] => ∅
  | s, a :: rest => f s ∪ visited step f (step s a) rest

theorem Along.visited_subset {β : Type} [DecidableEq β] (f : σ → Finset β) (s : σ)
    (actions : List α) : Along step (fun s' _ => f s' ⊆ visited step f s actions) s actions := by
  induction actions generalizing s with
  | nil => trivial
  | cons a rest ih =>
      refine ⟨Finset.subset_union_left, (ih (step s a)).mono ?_⟩
      intro s' a' hsubset
      exact hsubset.trans Finset.subset_union_right

/-! ## What has held for some time -/

/-- Every state of the run, since one with `began`, satisfies `held`. -/
def HeldSince (step : σ → α → σ) (s : σ) (actions : List α) (began held : σ → Prop) : Prop :=
  ∃ before since, actions = before ++ since ∧ began (run step s before) ∧
    ∀ seen, seen <+: since → held (run step s (before ++ seen))

namespace HeldSince

variable {s : σ} {actions : List α} {began began' held : σ → Prop}

theorem begin_last (hbegan : began (run step s actions)) (hheld : held (run step s actions)) :
    HeldSince step s actions began held := by
  refine ⟨actions, [], (List.append_nil actions).symm, hbegan, ?_⟩
  intro seen hseen
  rw [List.prefix_nil.1 hseen, List.append_nil]
  exact hheld

theorem extend (h : HeldSince step s actions began held) {a : α}
    (hheld : held (run step s (actions ++ [a]))) :
    HeldSince step s (actions ++ [a]) began held := by
  obtain ⟨before, since, rfl, hbegan, hsince⟩ := h
  refine ⟨before, since ++ [a], List.append_assoc before since [a], hbegan, ?_⟩
  intro seen hseen
  rcases List.prefix_concat_iff.1 hseen with rfl | hseen
  · rw [← List.append_assoc]
    exact hheld
  · exact hsince seen hseen

theorem last (h : HeldSince step s actions began held) : held (run step s actions) := by
  obtain ⟨before, since, rfl, -, hsince⟩ := h
  exact hsince since (List.prefix_refl since)

theorem mono (h : HeldSince step s actions began held) (hbegan : ∀ s, began s → began' s) :
    HeldSince step s actions began' held := by
  obtain ⟨before, since, hactions, hbefore, hsince⟩ := h
  exact ⟨before, since, hactions, hbegan _ hbefore, hsince⟩

end HeldSince

end Machine

end Encointer
