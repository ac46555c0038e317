import Mathlib

/-! Shell scripts: commands one after the other, loops over a number of rounds, and tests that break off a loop.
A triple speaks of both ways out of a script; a bounded loop leaves by its last round or by a break. -/

namespace LlamacppRay.Shell

inductive Script (Command Test : Type) where
  | run (command : Command)
  /-- `first; second` -/
  | seq (first second : Script Command Test)
  /-- `test || break` -/
  | orBreak (test : Test)
  /-- `for i in $(seq 1 rounds); do body; done`, with a body that makes no use of `i`. -/
  | loop (rounds : Nat) (body : Script Command Test)

/-- What the commands and tests do; a test may take its time. -/
structure Host (Command Test State : Type) where
  run : Command → State → State
  test : Test → State → State × Bool

inductive Flow where
  | next
  | broken
  deriving DecidableEq

section Execution
variable {Command Test State : Type} (host : Host Command Test State)

def rounds (body : State → State × Flow) : Nat → State → State
  | 0, state => state
  | count + 1, state =>
    match body state with
    | (after, .next) => rounds body count after
    | (after, .broken) => after

def exec : Script Command Test → State → State × Flow
  | .run command, state => (host.run command state, .next)
  | .seq first second, state =>
    match exec first state with
    | (after, .next) => exec second after
    | (after, .broken) => (after, .broken)
  | .orBreak test, state =>
    match host.test test state with
    | (after, true) => (after, .next)
    | (after, false) => (after, .broken)
  | .loop count body, state => (rounds (exec body) count state, .next)

/-- From a state with the precondition the script goes on in a state with the second condition, or it breaks in
one with the third. -/
def Triple (before : State → Prop) (script : Script Command Test) (after broken : State → Prop) : Prop :=
  ∀ state, before state →
    ((exec host script state).2 = .next ∧ after (exec host script state).1) ∨
      ((exec host script state).2 = .broken ∧ broken (exec host script state).1)

end Execution

namespace Triple
variable {Command Test State : Type} {host : Host Command Test State} {before middle after broken : State → Prop}
  {first second body : Script Command Test}

theorem run {command : Command} (does : ∀ state, before state → after (host.run command state)) :
    Triple host before (.run command) after broken :=
  fun state holds => Or.inl ⟨rfl, does state holds⟩

theorem orBreak {test : Test}
    (passes : ∀ state, before state → (host.test test state).2 = true → after (host.test test state).1)
    (breaks : ∀ state, before state → (host.test test state).2 = false → broken (host.test test state).1) :
    Triple host before (.orBreak test) after broken := by
  intro state holds
  rw [exec]
  cases tested : host.test test state with
  | mk next answer =>
    have passed := passes state holds
    have failed := breaks state holds
    rw [tested] at passed failed
    cases answer with
    | true => exact Or.inl ⟨rfl, passed rfl⟩
    | false => exact Or.inr ⟨rfl, failed rfl⟩

theorem seq (left : Triple host before first middle broken) (right : Triple host middle second after broken) :
    Triple host before (.seq first second) after broken := by
  intro state holds
  rw [exec]
  rcases left state holds with ⟨goes, reached⟩ | ⟨stops, reached⟩
  · cases ran : exec host first state with
    | mk next flow =>
      rw [ran] at goes reached
      cases goes
      exact right next reached
  · cases ran : exec host first state with
    | mk next flow =>
      rw [ran] at stops reached
      cases stops
      exact Or.inr ⟨rfl, reached⟩

theorem rounds_invariant {inv : Nat → State → Prop} {count start : Nat}
    (round : ∀ index, start ≤ index → index < start + count → Triple host (inv index) body (inv (index + 1)) broken)
    {state : State} (holds : inv start state) :
    inv (start + count) (rounds (exec host body) count state) ∨
      broken (rounds (exec host body) count state) := by
  induction count generalizing start state with
  | zero => exact Or.inl holds
  | succ count ih =>
    rw [rounds]
    rcases round start le_rfl (by omega) state holds with ⟨goes, reached⟩ | ⟨stops, reached⟩
    · cases ran : exec host body state with
      | mk next flow =>
        rw [ran] at goes reached
        cases goes
        have later : inv (start + 1 + count) (rounds (exec host body) count next) ∨
            broken (rounds (exec host body) count next) :=
          ih (fun index low high => round index (by omega) (by omega)) reached
        rwa [Nat.add_right_comm] at later
    · cases ran : exec host body state with
      | mk next flow =>
        rw [ran] at stops reached
        cases stops
        exact Or.inr reached

/-- The rule for loops: all rounds are done or one of them has broken off, and nothing tells which. -/
theorem loop {inv : Nat → State → Prop} {count : Nat} {never : State → Prop}
    (round : ∀ index < count, Triple host (inv index) body (inv (index + 1)) broken) :
    Triple host (inv 0) (.loop count body) (fun state => inv count state ∨ broken state) never := by
  intro state holds
  have done : inv (0 + count) (rounds (exec host body) count state) ∨ broken (rounds (exec host body) count state) :=
    rounds_invariant (fun index _ high => round index (by omega)) holds
  rw [Nat.zero_add] at done
  exact Or.inl ⟨rfl, done⟩

theorem result (triple : Triple host before first after fun _ => False) {state : State} (holds : before state) :
    after (exec host first state).1 := by
  rcases triple state holds with ⟨-, reached⟩ | ⟨-, impossible⟩
  · exact reached
  · exact False.elim impossible

end Triple
end LlamacppRay.Shell
