import Encointer.Library.Machine

/-!
# What one party sees of a run

A party sees a part of the state. Where the actions that do not concern it leave
that part as it is, and the others change it as a machine of its own would, it
sees a run of that machine, whatever happens in between.
-/

namespace Encointer

namespace Machine

variable {σ α β : Type}

/-- The steps that concern a party are steps of its view, and the others do not change it. -/
structure Projects (step : σ → α → σ) (viewStep : β → α → β) (view : σ → β)
    (concerns : α → Bool) : Prop where
  own : ∀ s a, concerns a = true → view (step s a) = viewStep (view s) a
  others : ∀ s a, concerns a = false → view (step s a) = view s

namespace Projects

variable {step : σ → α → σ} {viewStep : β → α → β} {view : σ → β} {concerns : α → Bool}

/-- The party sees the actions that concern it, and no others. -/
theorem run (h : Projects step viewStep view concerns) (s : σ) (actions : List α) :
    view (Machine.run step s actions) =
      Machine.run viewStep (view s) (actions.filter concerns) := by
  induction actions generalizing s with
  | nil => rfl
  | cons a rest ih =>
      rw [run_cons, ih (step s a)]
      cases hconcerns : concerns a with
      | true => rw [List.filter_cons_of_pos hconcerns, run_cons, h.own s a hconcerns]
      | false =>
          rw [List.filter_cons_of_neg (by simp [hconcerns]), h.others s a hconcerns]

end Projects

end Machine

end Encointer
