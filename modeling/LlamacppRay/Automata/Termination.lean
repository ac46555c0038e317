import Mathlib

/-! What a system comes to in the end, in whatever order its parts go on. -/

namespace LlamacppRay.Automata
variable {State : Type*} {due may : State → State → Prop} {goal : State → Prop}

/-- The goal is reached in the end. Until it is, some step is due, and no choice among the steps that may be taken
puts it off for ever. -/
inductive Inevitable (due may : State → State → Prop) (goal : State → Prop) : State → Prop
  | here {state : State} (reached : goal state) : Inevitable due may goal state
  | later {state : State} (waits : ∃ next, due state next)
      (any : ∀ next, may state next → Inevitable due may goal next) : Inevitable due may goal state

/-- The rule of variants: each step keeps the invariant and comes down, and short of the goal one is due. -/
theorem Inevitable.of_variant {Value : Type*} [Preorder Value] [WellFoundedLT Value] (Inv : State → Prop)
    (variant : State → Value) (keeps : ∀ state next, Inv state → may state next → Inv next)
    (declines : ∀ state next, Inv state → may state next → variant next < variant state)
    (goes_on : ∀ state, Inv state → ¬goal state → ∃ next, due state next) {state : State} (start : Inv state) :
    Inevitable due may goal state := by
  induction value_eq : variant state using WellFoundedLT.induction generalizing state with
  | ind value ih =>
    by_cases reached : goal state
    · exact .here reached
    · refine .later (goes_on state start reached) fun next step => ?_
      have lower := declines state next start step
      rw [value_eq] at lower
      exact ih _ lower (keeps state next start step) rfl

end LlamacppRay.Automata
