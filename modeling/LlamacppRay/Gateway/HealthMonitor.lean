import LlamacppRay.Automata.Machine
import LlamacppRay.Gateway.Retry

/-! The health monitor: one loop probes the text pool and the multimodal pool in turn. A round
sends one probe to each node and is applied to the shared healthy set once every probe has been
answered; evictions by the dispatchers go on in the meantime. -/

namespace LlamacppRay.Gateway
open LlamacppRay.Automata LlamacppRay.Python

def parseIps (csv : String) : List String := splitStrip ',' csv

/-- `_probe`: whether the node answered 200. A timeout or any other exception counts as a no. -/
def probe : Except Fault Int → Bool
  | .ok status => status = 200
  | .error _ => false

def applyResult (healthy : Finset String) (result : String × Bool) : Finset String :=
  if result.2 then insert result.1 healthy else healthy.erase result.1

/-- The loop of `_probe_pool` over the gathered results. -/
def applyResults (healthy : Finset String) (results : List (String × Bool)) : Finset String :=
  results.foldl applyResult healthy

inductive PoolName where
  | text
  | multimodal
  deriving DecidableEq

/-- A round of `_probe_pool` in flight, with the answers that have come in. -/
structure Round where
  pool : PoolName
  answers : List (String × Option Bool)

def Round.results (round : Round) : Option (List (String × Bool)) :=
  round.answers.mapM fun (ip, answer) => answer.map fun ok => (ip, ok)

def Round.send (pool : PoolName) (ips : List String) : Round :=
  ⟨pool, ips.map fun ip => (ip, none)⟩

structure ProbeLoop where
  ips : PoolName → List String
  healthy : PoolName → Finset String
  /-- No round while the loop sleeps out its interval. -/
  round : Option Round

inductive ProbeEvent where
  | answered (index : Nat) (reply : Except Fault Int)
  | gathered
  | slept
  | evicted (pool : PoolName) (ip : String)

namespace ProbeLoop

/-- `health_probe_loop` at its first suspension: every node counts as healthy. -/
def start (textIps multimodalIps : List String) : ProbeLoop where
  ips := fun
    | .text => textIps
    | .multimodal => multimodalIps
  healthy := fun
    | .text => textIps.toFinset
    | .multimodal => multimodalIps.toFinset
  round := some (Round.send .text textIps)

def step (state : ProbeLoop) : ProbeEvent → Option ProbeLoop
  | .answered index reply => do
      let round ← state.round
      match round.answers[index]? with
      | some (ip, none) =>
          return { state with
            round := some { round with answers := round.answers.set index (ip, some (probe reply)) } }
      | _ => none
  | .gathered => do
      let round ← state.round
      let results ← round.results
      let healthy := Function.update state.healthy round.pool (applyResults (state.healthy round.pool) results)
      match round.pool with
      | .text =>
          return { state with healthy := healthy, round := some (Round.send .multimodal (state.ips .multimodal)) }
      | .multimodal => return { state with healthy := healthy, round := none }
  | .slept =>
      match state.round with
      | none => some { state with round := some (Round.send .text (state.ips .text)) }
      | some _ => none
  | .evicted pool ip =>
      some { state with healthy := Function.update state.healthy pool ((state.healthy pool).erase ip) }

end ProbeLoop
end LlamacppRay.Gateway
