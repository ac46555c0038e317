import LlamacppRay.Automata.Traces
import LlamacppRay.Gateway.SubmitInference
import LlamacppRay.Gateway.StreamInference

/-! The schedule of one call, with everything else left out: what a call asks of the pool depends
on the pool, on the outcomes of its dispatches and on nothing more. -/

namespace LlamacppRay.Gateway
open LlamacppRay.Asyncio LlamacppRay.Automata.Traces LlamacppRay.Python

inductive Outcome where
  | transport
  | status (code : Int)
  | success

def Outcome.Possible : Outcome → Prop
  | .status code => ¬(200 ≤ code ∧ code ≤ 299)
  | _ => True

instance : (outcome : Outcome) → Decidable outcome.Possible
  | .transport => isTrue trivial
  | .status code => inferInstanceAs (Decidable ¬(200 ≤ code ∧ code ≤ 299))
  | .success => isTrue trivial

def Outcome.retryable : Outcome → Bool
  | .transport => true
  | .status code => code ∈ RETRYABLE_HTTP_STATUS
  | .success => false

/-- What moves a call: the rest of the system has worked on the pool, an awaited thing is over, or
a dispatch has ended. -/
inductive Stimulus where
  | others (pool : NodePool)
  | wake
  | ended (outcome : Outcome)

structure Shown where
  stimulus : Stimulus
  actions : List Action

inductive Plan where
  | head (locals : Locals)
  | queued (locals : Locals) (future : Future)
  | holding (locals : Locals) (ip : String)
  | finished

namespace Plan

def attempt (p : NodePool) (locals : Locals) : (NodePool × Plan) × List Action :=
  let asked := Action.asked locals.excluded locals.affinityIp
  match p.acquire locals.excluded locals.affinityIp with
  | (p, .granted ip) => ((p, .holding locals ip), [asked, .granted ip, .dispatched ip p.port])
  | (p, .busy) => ((p, .finished), [asked, .rejected, .stopped])
  | (p, .blocked future) => ((p, .queued locals future), [asked, .queued])

def retest (p : NodePool) (locals : Locals) (future : Future) : (NodePool × Plan) × List Action :=
  match p.wake future locals.excluded locals.affinityIp with
  | (p, .granted ip) => ((p, .holding locals ip), [.dequeued, .granted ip, .dispatched ip p.port])
  | (p, .busy) => ((p, .finished), [.dequeued, .rejected, .stopped])
  | (p, .blocked future) => ((p, .queued locals future), [.requeued])

/-- The slot is given back; a retryable failure is followed by the next attempt while there is one. -/
def settle (p : NodePool) (locals : Locals) (ip : String) (outcome : Outcome) : (NodePool × Plan) × List Action :=
  if outcome.retryable ∧ locals.attempt < MAX_RETRIES then
    let p := (p.release ip).evict ip
    let excluded := insert ip locals.excluded
    ((p, .head { locals with excluded := excluded, attempt := locals.attempt + 1 }),
      [.released ip, .evicted ip, .slept (backoff (tier p excluded) locals.attempt)])
  else ((p.release ip, .finished), [.released ip, .stopped])

def step : NodePool × Plan → Stimulus → Option ((NodePool × Plan) × List Action)
  | (_, plan), .others p => some ((p, plan), [])
  | (p, .head locals), .wake => some (attempt p locals)
  | (p, .queued locals future), .wake => some (retest p locals future)
  | (p, .holding locals ip), .ended outcome => if outcome.Possible then some (settle p locals ip outcome) else none
  | _, _ => none

def Shows (state : NodePool × Plan) (label : Option Shown) (next : NodePool × Plan) : Prop :=
  ∃ shown, label = some shown ∧ step state shown.stimulus = some (next, shown.actions)

def start (pool : NodePool) (hash : String → Int) (affinityKey : Option String) : Plan :=
  match affinityIp pool hash affinityKey with
  | some affinityIp => .head ⟨affinityIp, ∅, 0⟩
  | none => .finished

/-- A plan is determined by what happens to it. -/
theorem emits_unique {state : NodePool × Plan} {trace trace' : List Shown}
    (left : Emits Shows state trace) (right : Emits Shows state trace')
    (same : trace.map Shown.stimulus = trace'.map Shown.stimulus) :
    trace = trace' := by
  refine Automata.Traces.emits_unique ?_ ?_ left right same
  · intro state next ⟨shown, nothing, _⟩
    cases nothing
  · intro state first second next next' ⟨shown, rfl_first, moved⟩ ⟨shown', rfl_second, moved'⟩ same
    cases rfl_first
    cases rfl_second
    rw [same, moved'] at moved
    obtain ⟨rfl, rfl_actions⟩ := Prod.mk.inj (Option.some.inj moved)
    obtain ⟨stimulus, actions⟩ := first
    obtain ⟨stimulus', actions'⟩ := second
    cases same
    cases rfl_actions
    exact ⟨rfl, rfl⟩

end Plan
end LlamacppRay.Gateway
