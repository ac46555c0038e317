import Mathlib

/-! Servers, which take one request after the other and answer each of them. -/

namespace LlamacppRay.Automata

structure Server (State Request Answer : Type*) where
  serve : State → Request → State × Answer

namespace Server
variable {State Request Answer : Type*} (server : Server State Request Answer)

def after (state : State) (requests : List Request) : State :=
  requests.foldl (fun state request => (server.serve state request).1) state

def answers : State → List Request → List Answer
  | _, [] => []
  | state, request :: rest => (server.serve state request).2 :: answers (server.serve state request).1 rest

@[simp] theorem after_nil (state : State) : server.after state [] = state := rfl

@[simp] theorem after_cons (state : State) (request : Request) (rest : List Request) :
    server.after state (request :: rest) = server.after (server.serve state request).1 rest := rfl

@[simp] theorem answers_nil (state : State) : server.answers state [] = [] := rfl

@[simp] theorem answers_cons (state : State) (request : Request) (rest : List Request) :
    server.answers state (request :: rest) =
      (server.serve state request).2 :: server.answers (server.serve state request).1 rest := rfl

variable {server}

theorem after_invariant {Inv : State → Prop}
    (keeps : ∀ state request, Inv state → Inv (server.serve state request).1) {state : State} (start : Inv state)
    (requests : List Request) : Inv (server.after state requests) := by
  induction requests generalizing state with
  | nil => exact start
  | cons request rest ih => exact ih (keeps state request start)

theorem after_count (measure : State → Nat) (counted : Answer → Bool) {Inv : State → Prop}
    (keeps : ∀ state request, Inv state → Inv (server.serve state request).1)
    (each : ∀ state request, Inv state → measure (server.serve state request).1 =
      measure state + if counted (server.serve state request).2 then 1 else 0)
    {state : State} (start : Inv state) (requests : List Request) :
    measure (server.after state requests) = measure state + (server.answers state requests).countP counted := by
  induction requests generalizing state with
  | nil => rfl
  | cons request rest ih =>
    rw [after_cons, answers_cons, List.countP_cons, ih (keeps state request start), each state request start]
    omega

theorem after_collect {α : Type*} (collected : State → List α) (shown : Answer → Option α) {Inv : State → Prop}
    (keeps : ∀ state request, Inv state → Inv (server.serve state request).1)
    (each : ∀ state request, Inv state → collected (server.serve state request).1 =
      collected state ++ (shown (server.serve state request).2).toList)
    {state : State} (start : Inv state) (requests : List Request) :
    collected (server.after state requests) = collected state ++ (server.answers state requests).filterMap shown := by
  induction requests generalizing state with
  | nil => exact (List.append_nil _).symm
  | cons request rest ih =>
    rw [after_cons, answers_cons, ih (keeps state request start), each state request start, List.append_assoc]
    cases first : shown (server.serve state request).2 with
    | none => rw [List.filterMap_cons_none first, Option.toList_none, List.nil_append]
    | some value => rw [List.filterMap_cons_some first, Option.toList_some, List.singleton_append]

/-- Two servers whose states stay related and that answer alike cannot be told apart. -/
theorem answers_eq_of_related {Other : Type*} {other : Server Other Request Answer} {related : State → Other → Prop}
    (alike : ∀ state state' request, related state state' →
      (server.serve state request).2 = (other.serve state' request).2 ∧
        related (server.serve state request).1 (other.serve state' request).1)
    {state : State} {state' : Other} (start : related state state') (requests : List Request) :
    server.answers state requests = other.answers state' requests ∧
      related (server.after state requests) (other.after state' requests) := by
  induction requests generalizing state state' with
  | nil => exact ⟨rfl, start⟩
  | cons request rest ih =>
    obtain ⟨same, next⟩ := alike state state' request start
    obtain ⟨later, last⟩ := ih next
    exact ⟨by rw [answers_cons, answers_cons, same, later], last⟩

end Server
end LlamacppRay.Automata
