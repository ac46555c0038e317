import Mathlib

/-! Traces of transition systems with silent steps: what a state can show, and how a weak
simulation carries it over to another system. -/

namespace LlamacppRay.Automata.Traces
variable {State Other Label Input : Type*}

inductive Emits (step : State → Option Label → State → Prop) : State → List Label → Prop
  | stop (state : State) : Emits step state []
  | silent {state next : State} {trace : List Label} (moved : step state none next)
      (rest : Emits step next trace) : Emits step state trace
  | shown {state next : State} {label : Label} {trace : List Label}
      (moved : step state (some label) next) (rest : Emits step next trace) :
      Emits step state (label :: trace)

/-- Silent steps, and then the label if there is one. -/
inductive Weak (step : State → Option Label → State → Prop) : State → Option Label → State → Prop
  | stay (state : State) : Weak step state none state
  | silent {state next last : State} {label : Option Label} (moved : step state none next)
      (rest : Weak step next label last) : Weak step state label last
  | shown {state next : State} {label : Label} (moved : step state (some label) next) :
      Weak step state (some label) next

theorem Weak.emits {step : State → Option Label → State → Prop} {state last : State}
    {label : Option Label} {trace : List Label} (weak : Weak step state label last)
    (rest : Emits step last trace) :
    Emits step state (label.toList ++ trace) := by
  induction weak with
  | stay state => exact rest
  | silent moved _ ih => exact .silent moved (ih rest)
  | shown moved => exact .shown moved rest

def Simulates (step : State → Option Label → State → Prop) (answer : Other → Option Label → Other → Prop)
    (related : State → Other → Prop) : Prop :=
  ∀ state label next other, related state other → step state label next →
    ∃ last, Weak answer other label last ∧ related next last

theorem Simulates.emits {step : State → Option Label → State → Prop}
    {answer : Other → Option Label → Other → Prop} {related : State → Other → Prop}
    (simulates : Simulates step answer related) {state : State} {other : Other} {trace : List Label}
    (start : related state other) (emits : Emits step state trace) : Emits answer other trace := by
  induction emits generalizing other with
  | stop state => exact .stop other
  | silent moved _ ih =>
    obtain ⟨last, weak, match_next⟩ := simulates _ _ _ _ start moved
    exact weak.emits (ih match_next)
  | shown moved _ ih =>
    obtain ⟨last, weak, match_next⟩ := simulates _ _ _ _ start moved
    exact weak.emits (ih match_next)

/-- A system without silent steps whose label and next state are determined by an input has one
trace for each list of inputs. -/
theorem emits_unique {step : State → Option Label → State → Prop} {input : Label → Input}
    (loud : ∀ state next, ¬step state none next)
    (determined : ∀ state first second next next', step state (some first) next →
      step state (some second) next' → input first = input second → first = second ∧ next = next')
    {state : State} {trace trace' : List Label} (left : Emits step state trace)
    (right : Emits step state trace') (same : trace.map input = trace'.map input) :
    trace = trace' := by
  induction left generalizing trace' with
  | stop state =>
    rw [List.map_nil] at same
    exact (List.map_eq_nil_iff.mp same.symm).symm
  | silent moved => exact absurd moved (loud _ _)
  | @shown state next label trace moved _ ih =>
    cases right with
    | stop => cases same
    | silent moved' => exact absurd moved' (loud _ _)
    | @shown _ next' label' trace' moved' rest' =>
      rw [List.map_cons, List.map_cons] at same
      obtain ⟨head, tail⟩ := List.cons.inj same
      obtain ⟨rfl, rfl⟩ := determined _ _ _ _ _ moved moved' head
      rw [ih rest' tail]

end LlamacppRay.Automata.Traces
