import Mathlib

/-! Machines driven by events. A step may be impossible, so it returns an option; a run is a
list of events, and everything that is proved about runs goes through the rules of this module. -/

namespace LlamacppRay.Automata

structure Machine (State Event : Type*) where
  step : State → Event → Option State

namespace Machine
variable {State Event : Type*} (machine : Machine State Event)

def run : State → List Event → Option State
  | state, [] => some state
  | state, event :: rest => (machine.step state event).bind fun next => run next rest

@[simp] theorem run_nil (state : State) : machine.run state [] = some state := rfl

@[simp] theorem run_cons (state : State) (event : Event) (rest : List Event) :
    machine.run state (event :: rest) =
      (machine.step state event).bind fun next => machine.run next rest := rfl

theorem run_append (state : State) (first second : List Event) :
    machine.run state (first ++ second) =
      (machine.run state first).bind fun middle => machine.run middle second := by
  induction first generalizing state with
  | nil => rfl
  | cons event rest ih =>
    simp only [List.cons_append, run_cons]
    cases machine.step state event with
    | none => rfl
    | some next => exact ih next

theorem run_of_any {state : State} {events : List Event} {test : State → Bool}
    (passed : (machine.run state events).any test = true) :
    ∃ last, machine.run state events = some last ∧ test last = true := by
  cases ran : machine.run state events with
  | none =>
    rw [ran] at passed
    cases passed
  | some last =>
    rw [ran] at passed
    exact ⟨last, rfl, passed⟩

def Reaches (state last : State) : Prop := ∃ events, machine.run state events = some last

theorem Reaches.refl (state : State) : machine.Reaches state state := ⟨[], rfl⟩

variable {machine}

theorem Reaches.trans {first second third : State} (left : machine.Reaches first second)
    (right : machine.Reaches second third) : machine.Reaches first third := by
  obtain ⟨before, ranBefore⟩ := left
  obtain ⟨after, ranAfter⟩ := right
  exact ⟨before ++ after, by rw [run_append, ranBefore]; exact ranAfter⟩

theorem Reaches.single {state next : State} {event : Event}
    (step : machine.step state event = some next) : machine.Reaches state next :=
  ⟨[event], by simp only [run_cons, step, Option.bind_some, run_nil]⟩

theorem run_invariant {Inv : State → Prop}
    (keeps : ∀ state event next, Inv state → machine.step state event = some next → Inv next)
    {state last : State} {events : List Event} (start : Inv state)
    (ran : machine.run state events = some last) : Inv last := by
  induction events generalizing state with
  | nil => cases ran; exact start
  | cons event rest ih =>
    rw [run_cons, Option.bind_eq_some_iff] at ran
    obtain ⟨next, step, ran⟩ := ran
    exact ih (keeps state event next start step) ran

theorem Reaches.invariant {Inv : State → Prop}
    (keeps : ∀ state event next, Inv state → machine.step state event = some next → Inv next)
    {state last : State} (reached : machine.Reaches state last) (start : Inv state) : Inv last := by
  obtain ⟨events, ran⟩ := reached
  exact run_invariant keeps start ran

variable (machine)

/-- Every step of the run satisfies the condition in the state it is taken from. -/
def Along (ok : State → Event → Prop) : State → List Event → Prop
  | _, [] => True
  | state, event :: rest => ok state event ∧ ∀ next, machine.step state event = some next → Along ok next rest

instance decidableAlong {ok : State → Event → Prop} [∀ state event, Decidable (ok state event)] :
    (state : State) → (events : List Event) → Decidable (machine.Along ok state events)
  | _, [] => isTrue trivial
  | state, event :: rest =>
      have : DecidablePred fun next => machine.Along ok next rest := fun next => decidableAlong next rest
      inferInstanceAs (Decidable (ok state event ∧ ∀ next ∈ machine.step state event, machine.Along ok next rest))

/-- Every state the run passes through is good, its first and its last one included. -/
def Throughout (good : State → Prop) : State → List Event → Prop
  | state, [] => good state
  | state, event :: rest =>
      good state ∧ ∀ next, machine.step state event = some next → Throughout good next rest

theorem along_of_forall {ok : State → Event → Prop} {events : List Event}
    (all : ∀ event ∈ events, ∀ state, ok state event) (state : State) :
    machine.Along ok state events := by
  induction events generalizing state with
  | nil => trivial
  | cons event rest ih =>
    have later := ih fun other member => all other (List.mem_cons_of_mem event member)
    exact ⟨all event List.mem_cons_self state, fun next _ => later next⟩

variable {machine}

theorem forall_of_along {ok : State → Event → Prop} {good : Event → Prop}
    (means : ∀ state event, ok state event → good event) {state last : State} {events : List Event}
    (along : machine.Along ok state events) (ran : machine.run state events = some last) :
    ∀ event ∈ events, good event := by
  induction events generalizing state with
  | nil => simp
  | cons event rest ih =>
    rw [run_cons, Option.bind_eq_some_iff] at ran
    obtain ⟨next, step, ran⟩ := ran
    exact List.forall_mem_cons.mpr ⟨means state event along.1, ih (along.2 next step) ran⟩

/-- Where a good state steps to a good one exactly when the step meets the condition, a run
stays good exactly when all its steps meet it. -/
theorem throughout_iff_along {Inv good : State → Prop} {ok : State → Event → Prop}
    (keeps : ∀ state event next, Inv state → machine.step state event = some next → Inv next)
    (exact_step : ∀ state event next, Inv state → good state → machine.step state event = some next →
      (good next ↔ ok state event))
    {state last : State} {events : List Event} (start : Inv state) (first : good state)
    (ran : machine.run state events = some last) :
    machine.Throughout good state events ↔ machine.Along ok state events := by
  induction events generalizing state with
  | nil => simp only [Throughout, Along, first]
  | cons event rest ih =>
    rw [run_cons, Option.bind_eq_some_iff] at ran
    obtain ⟨next, step, ran⟩ := ran
    have inv := keeps state event next start step
    have now := exact_step state event next start first step
    have only : ∀ other, machine.step state event = some other → other = next := by
      intro other same
      exact Option.some.inj (same.symm.trans step)
    constructor
    · rintro ⟨-, later⟩
      have good_next : good next := by
        have := later next step
        cases rest with
        | nil => exact this
        | cons => exact this.1
      refine ⟨now.mp good_next, fun other same => ?_⟩
      rw [only other same]
      exact (ih inv good_next ran).mp (later next step)
    · rintro ⟨met, later⟩
      have good_next := now.mpr met
      refine ⟨first, fun other same => ?_⟩
      rw [only other same]
      exact (ih inv good_next ran).mpr (later next step)

theorem throughout_of_along {Inv good : State → Prop} {ok : State → Event → Prop}
    (keeps : ∀ state event next, Inv state → ok state event →
      machine.step state event = some next → Inv next)
    (holds : ∀ state, Inv state → good state) {state : State} {events : List Event}
    (start : Inv state) (along : machine.Along ok state events) :
    machine.Throughout good state events := by
  induction events generalizing state with
  | nil => exact holds state start
  | cons event rest ih =>
    obtain ⟨met, later⟩ := along
    exact ⟨holds state start, fun next step => ih (keeps state event next start met step) (later next step)⟩

theorem run_invariant_along {Inv : State → Prop} {ok : State → Event → Prop}
    (keeps : ∀ state event next, Inv state → ok state event →
      machine.step state event = some next → Inv next)
    {state last : State} {events : List Event} (start : Inv state) (along : machine.Along ok state events)
    (ran : machine.run state events = some last) : Inv last := by
  induction events generalizing state with
  | nil => cases ran; exact start
  | cons event rest ih =>
    rw [run_cons, Option.bind_eq_some_iff] at ran
    obtain ⟨next, step, ran⟩ := ran
    exact ih (keeps state event next start along.1 step) (along.2 next step) ran

theorem along_congr {ok ok' : State → Event → Prop} {state last : State} {events : List Event}
    (same : ∀ middle event next, machine.Reaches state middle → machine.step middle event = some next →
      (ok middle event ↔ ok' middle event))
    (ran : machine.run state events = some last) :
    machine.Along ok state events ↔ machine.Along ok' state events := by
  induction events generalizing state with
  | nil => exact Iff.rfl
  | cons event rest ih =>
    rw [run_cons, Option.bind_eq_some_iff] at ran
    obtain ⟨next, step, ran⟩ := ran
    have later := ih (fun middle event' next' reached =>
      same middle event' next' (.trans (.single step) reached)) ran
    refine and_congr (same state event next (.refl machine state) step) ?_
    simpa only [step, Option.some.injEq, forall_eq'] using later

/-- A run is clean at its end exactly when no step spoiled it: a step that meets the condition
keeps clean states clean, any other step spoils them for good. -/
theorem clean_iff_along {Clean Spoiled : State → Prop} {ok : State → Event → Prop}
    (keeps : ∀ state event next, Clean state → ok state event →
      machine.step state event = some next → Clean next)
    (spoils : ∀ state event next, Clean state → ¬ok state event →
      machine.step state event = some next → Spoiled next)
    (stays : ∀ state event next, Spoiled state → machine.step state event = some next → Spoiled next)
    {state last : State} {events : List Event} (start : Clean state)
    (ran : machine.run state events = some last) :
    (machine.Along ok state events ∧ Clean last) ∨
      (¬machine.Along ok state events ∧ Spoiled last) := by
  induction events generalizing state with
  | nil => cases ran; exact Or.inl ⟨trivial, start⟩
  | cons event rest ih =>
    rw [run_cons, Option.bind_eq_some_iff] at ran
    obtain ⟨next, step, ran⟩ := ran
    by_cases met : ok state event
    · have clean := keeps state event next start met step
      rcases ih clean ran with ⟨along, last⟩ | ⟨broken, last⟩
      · refine Or.inl ⟨⟨met, fun other same => ?_⟩, last⟩
        rw [Option.some.inj (same.symm.trans step)]
        exact along
      · exact Or.inr ⟨fun along => broken (along.2 next step), last⟩
    · have spoiled := spoils state event next start met step
      exact Or.inr ⟨fun along => met along.1, run_invariant stays spoiled ran⟩

/-- A relation between two machines that is kept when the second one answers each step of the
first by a run of its own. -/
def Simulates {Other Label : Type*} (concrete : Machine State Event) (abstract : Machine Other Label)
    (related : State → Other → Prop) : Prop :=
  ∀ state event next other, related state other → concrete.step state event = some next →
    ∃ events last, abstract.run other events = some last ∧ related next last

theorem Simulates.reaches {Other Label : Type*} {abstract : Machine Other Label}
    {related : State → Other → Prop} (simulates : machine.Simulates abstract related)
    {state last : State} {other : Other} (start : related state other)
    (reached : machine.Reaches state last) :
    ∃ final, abstract.Reaches other final ∧ related last final := by
  obtain ⟨events, ran⟩ := reached
  induction events generalizing state other with
  | nil => cases ran; exact ⟨other, Reaches.refl abstract other, start⟩
  | cons event rest ih =>
    rw [run_cons, Option.bind_eq_some_iff] at ran
    obtain ⟨next, step, ran⟩ := ran
    obtain ⟨answer, middle, answered, match_next⟩ := simulates state event next other start step
    obtain ⟨final, reached, match_last⟩ := ih match_next ran
    exact ⟨final, Reaches.trans ⟨answer, answered⟩ reached, match_last⟩

end Machine
end LlamacppRay.Automata
