import LlamacppRay.Asyncio.Monitor
import LlamacppRay.Python.Builtins

/-! The scheduling state of one pool of llama-server nodes. `in_flight` has exactly the node
addresses as keys; the function is read at no other argument. The lock is not part of this
record: `acquire`, `wake`, `cancelWait` and `release` are the sections run under it. -/

namespace LlamacppRay.Gateway
open LlamacppRay.Asyncio LlamacppRay.Python

structure NodePool where
  ips : List String
  port : Int
  parallel : Int
  maxQueued : Int
  healthy : Finset String
  inFlight : String → Int
  waiting : Int
  cond : Condition

inductive Acquired where
  | granted (ip : String)
  | busy
  | blocked (future : Future)
  deriving DecidableEq

namespace NodePool

def new (ips : List String) (port parallel maxQueued : Int) (healthy : Finset String) : NodePool where
  ips := ips
  port := port
  parallel := parallel
  maxQueued := maxQueued
  healthy := healthy
  inFlight := fun _ => 0
  waiting := 0
  cond := Condition.new

def candidates (pool : NodePool) (exclude : Finset String) : List String :=
  let poolIps := pool.ips.filter fun ip => ip ∉ exclude
  let knownHealthy := poolIps.filter fun ip => ip ∈ pool.healthy
  let relevant := if knownHealthy = [] then poolIps else knownHealthy
  relevant.filter fun ip => pool.inFlight ip < pool.parallel

def hasAlternate (pool : NodePool) (exclude : Finset String) : Bool :=
  pool.candidates exclude ≠ []

/-- The affinity node if it is a candidate, else the first candidate of least load. -/
def choose (pool : NodePool) (candidates : List String) (affinityIp : Option String) : Option String :=
  match affinityIp with
  | some ip => if ip ≠ "" ∧ ip ∈ candidates then some ip else minBy pool.inFlight candidates
  | none => minBy pool.inFlight candidates

def occupy (pool : NodePool) (ip : String) : NodePool :=
  { pool with inFlight := Function.update pool.inFlight ip (pool.inFlight ip + 1) }

def enqueue (pool : NodePool) : NodePool := { pool with waiting := pool.waiting + 1 }
def dequeue (pool : NodePool) : NodePool := { pool with waiting := pool.waiting - 1 }

/-- Suspending in `_cond.wait()`, and coming out of it. -/
def park (pool : NodePool) : NodePool := { pool with cond := pool.cond.wait }
def unpark (pool : NodePool) (future : Future) : NodePool := { pool with cond := pool.cond.forget future }

/-- The `while` loop of `acquire` from its head: it ends with a grant or in `_cond.wait()`. -/
def waitTurn (pool : NodePool) (exclude : Finset String) (affinityIp : Option String) : NodePool × Acquired :=
  match pool.choose (pool.candidates exclude) affinityIp with
  | some chosen => (pool.dequeue.occupy chosen, .granted chosen)
  | none => (pool.park, .blocked pool.cond.fresh)

def acquire (pool : NodePool) (exclude : Finset String) (affinityIp : Option String) : NodePool × Acquired :=
  match pool.choose (pool.candidates exclude) affinityIp with
  | some chosen => (pool.occupy chosen, .granted chosen)
  | none =>
    if pool.maxQueued ≤ pool.waiting then (pool, .busy)
    else pool.enqueue.waitTurn exclude affinityIp

/-- A queued call goes on: `_cond.wait()` returns and the loop tests its condition again. -/
def wake (pool : NodePool) (future : Future) (exclude : Finset String) (affinityIp : Option String) :
    NodePool × Acquired :=
  (pool.unpark future).waitTurn exclude affinityIp

/-- A queued call is cancelled: the `finally` clause runs and the error goes out. -/
def cancelWait (pool : NodePool) (future : Future) : NodePool :=
  (pool.unpark future).dequeue

/-- `release` on an address that is no key of `in_flight` ends in a `KeyError` before any change. -/
def release (pool : NodePool) (ip : String) : NodePool :=
  if ip ∈ pool.ips then
    { pool with
      inFlight := Function.update pool.inFlight ip (max 0 (pool.inFlight ip - 1))
      cond := pool.cond.notifyAll }
  else pool

def evict (pool : NodePool) (ip : String) : NodePool :=
  { pool with healthy := pool.healthy.erase ip }

/-- `affinity_node` of a key with this hash; no result is the `ZeroDivisionError` of an empty pool. -/
def affinityNode (pool : NodePool) (hash : Int) : Option (Option String) := do
  let preferred ← indexMod hash pool.ips
  if preferred ∈ pool.healthy then return some preferred
  let healthyIps := pool.ips.filter fun ip => ip ∈ pool.healthy
  if healthyIps = [] then return none
  let ip ← indexMod hash healthyIps
  return some ip

def makePool (ipsCsv : String) (port parallel maxQueued : Int) (healthy : Finset String) : NodePool :=
  new (splitStrip ',' ipsCsv) port parallel maxQueued healthy

/-! ### What the operations leave alone -/

@[simp] theorem occupy_parallel (pool : NodePool) (ip : String) :
    (pool.occupy ip).parallel = pool.parallel := rfl
@[simp] theorem occupy_waiting (pool : NodePool) (ip : String) :
    (pool.occupy ip).waiting = pool.waiting := rfl
@[simp] theorem occupy_inFlight (pool : NodePool) (ip : String) :
    (pool.occupy ip).inFlight = Function.update pool.inFlight ip (pool.inFlight ip + 1) := rfl

@[simp] theorem enqueue_waiting (pool : NodePool) : pool.enqueue.waiting = pool.waiting + 1 := rfl
@[simp] theorem park_waiting (pool : NodePool) : pool.park.waiting = pool.waiting := rfl
@[simp] theorem unpark_waiting (pool : NodePool) (future : Future) :
    (pool.unpark future).waiting = pool.waiting := rfl
@[simp] theorem cancelWait_waiting (pool : NodePool) (future : Future) :
    (pool.cancelWait future).waiting = pool.waiting - 1 := rfl

theorem release_known {pool : NodePool} {ip : String} (known : ip ∈ pool.ips) :
    pool.release ip = { pool with
      inFlight := Function.update pool.inFlight ip (max 0 (pool.inFlight ip - 1))
      cond := pool.cond.notifyAll } :=
  if_pos known

theorem release_unknown {pool : NodePool} {ip : String} (unknown : ip ∉ pool.ips) :
    pool.release ip = pool :=
  if_neg unknown

theorem release_keeps {Field : Type*} (field : NodePool → Field) (pool : NodePool) (ip : String)
    (apart : ∀ inFlight cond, field { pool with inFlight := inFlight, cond := cond } = field pool) :
    field (pool.release ip) = field pool := by
  by_cases known : ip ∈ pool.ips
  · rw [release_known known]
    exact apart _ _
  · rw [release_unknown known]

@[simp] theorem release_ips (pool : NodePool) (ip : String) : (pool.release ip).ips = pool.ips :=
  pool.release_keeps ips ip fun _ _ => rfl
@[simp] theorem release_parallel (pool : NodePool) (ip : String) :
    (pool.release ip).parallel = pool.parallel :=
  pool.release_keeps parallel ip fun _ _ => rfl
@[simp] theorem release_maxQueued (pool : NodePool) (ip : String) :
    (pool.release ip).maxQueued = pool.maxQueued :=
  pool.release_keeps maxQueued ip fun _ _ => rfl
@[simp] theorem release_healthy (pool : NodePool) (ip : String) :
    (pool.release ip).healthy = pool.healthy :=
  pool.release_keeps healthy ip fun _ _ => rfl
@[simp] theorem release_waiting (pool : NodePool) (ip : String) :
    (pool.release ip).waiting = pool.waiting :=
  pool.release_keeps waiting ip fun _ _ => rfl

/-! ### The candidate filter -/

theorem mem_candidates {pool : NodePool} {exclude : Finset String} {ip : String} :
    ip ∈ pool.candidates exclude ↔
      (ip ∈ pool.ips ∧ ip ∉ exclude) ∧ pool.inFlight ip < pool.parallel ∧
        (ip ∈ pool.healthy ∨ ∀ other ∈ pool.ips, other ∉ exclude → other ∉ pool.healthy) := by
  have none_healthy : (pool.ips.filter fun ip => ip ∉ exclude).filter (fun ip => ip ∈ pool.healthy) = [] ↔
      ∀ other ∈ pool.ips, other ∉ exclude → other ∉ pool.healthy := by
    simp only [List.filter_eq_nil_iff, List.mem_filter, decide_eq_true_eq, and_imp]
  simp only [candidates]
  split
  next nobody =>
    have fallback := none_healthy.mp nobody
    simp only [List.mem_filter, decide_eq_true_eq]
    tauto
  next somebody =>
    have blocked : ¬∀ other ∈ pool.ips, other ∉ exclude → other ∉ pool.healthy :=
      fun all => somebody (none_healthy.mpr all)
    simp only [List.mem_filter, decide_eq_true_eq]
    tauto

theorem candidates_eq_nil {pool : NodePool} {exclude : Finset String} :
    pool.candidates exclude = [] ↔ ∀ ip, ip ∉ pool.candidates exclude :=
  List.eq_nil_iff_forall_not_mem

theorem candidates_occupy {pool : NodePool} {exclude : Finset String} {ip : String}
    (full : pool.candidates exclude = []) : (pool.occupy ip).candidates exclude = [] := by
  rw [candidates_eq_nil] at full ⊢
  intro other member
  apply full other
  rw [mem_candidates] at member ⊢
  obtain ⟨known, free, rest⟩ := member
  refine ⟨known, ?_, rest⟩
  simp only [occupy_inFlight, occupy_parallel] at free
  by_cases same : other = ip
  · subst other
    rw [Function.update_self] at free
    omega
  · rwa [Function.update_of_ne same] at free

/-! ### The choice among the candidates -/

theorem choose_mem {pool : NodePool} {candidates : List String} {affinityIp : Option String}
    {ip : String} (chosen : pool.choose candidates affinityIp = some ip) : ip ∈ candidates := by
  unfold choose at chosen
  split at chosen
  next preferred =>
    split at chosen
    next eligible =>
      cases chosen
      exact eligible.2
    next => exact minBy_mem chosen
  next => exact minBy_mem chosen

theorem choose_eq_none {pool : NodePool} {candidates : List String} {affinityIp : Option String} :
    pool.choose candidates affinityIp = none ↔ candidates = [] := by
  unfold choose
  split
  next preferred =>
    split
    next eligible =>
      have inhabited := List.ne_nil_of_mem eligible.2
      simp only [reduceCtorEq, inhabited]
    next => exact minBy_eq_none
  next => exact minBy_eq_none

section
variable {pool : NodePool} {exclude : Finset String} {affinityIp : Option String} {ip : String}

theorem chosen_known (chosen : pool.choose (pool.candidates exclude) affinityIp = some ip) :
    ip ∈ pool.ips :=
  (mem_candidates.mp (choose_mem chosen)).1.1

theorem chosen_allowed (chosen : pool.choose (pool.candidates exclude) affinityIp = some ip) :
    ip ∉ exclude :=
  (mem_candidates.mp (choose_mem chosen)).1.2

theorem chosen_free (chosen : pool.choose (pool.candidates exclude) affinityIp = some ip) :
    pool.inFlight ip < pool.parallel :=
  (mem_candidates.mp (choose_mem chosen)).2.1

end

/-! ### How `acquire` ends -/

section Acquire
variable {pool : NodePool} {exclude : Finset String} {affinityIp : Option String}

theorem acquire_granted {ip : String} (chosen : pool.choose (pool.candidates exclude) affinityIp = some ip) :
    pool.acquire exclude affinityIp = (pool.occupy ip, .granted ip) := by
  simp only [acquire, chosen]

theorem acquire_busy (full : pool.candidates exclude = []) (queue : pool.maxQueued ≤ pool.waiting) :
    pool.acquire exclude affinityIp = (pool, .busy) := by
  simp only [acquire, choose_eq_none.mpr full, if_pos queue]

/-- `waiting` has no part in the candidates, so the loop suspends at its first test. -/
theorem acquire_blocked (full : pool.candidates exclude = [])
    (queue : pool.waiting < pool.maxQueued) :
    pool.acquire exclude affinityIp = (pool.enqueue.park, .blocked pool.cond.fresh) := by
  have nobody : pool.choose (pool.candidates exclude) affinityIp = none := choose_eq_none.mpr full
  have again : pool.enqueue.choose (pool.enqueue.candidates exclude) affinityIp = none := nobody
  simp only [acquire, nobody, if_neg (not_le.mpr queue), waitTurn, again]
  rfl

theorem wake_granted {future : Future} {ip : String}
    (chosen : pool.choose (pool.candidates exclude) affinityIp = some ip) :
    pool.wake future exclude affinityIp = ((pool.cancelWait future).occupy ip, .granted ip) := by
  have again : (pool.unpark future).choose ((pool.unpark future).candidates exclude) affinityIp = some ip := chosen
  simp only [wake, waitTurn, again, cancelWait]

theorem wake_blocked {future : Future} (full : pool.candidates exclude = []) :
    pool.wake future exclude affinityIp =
      ((pool.unpark future).park, .blocked pool.cond.fresh) := by
  have again : (pool.unpark future).choose ((pool.unpark future).candidates exclude) affinityIp = none :=
    choose_eq_none.mpr full
  simp only [wake, waitTurn, again]
  rfl

variable (pool exclude affinityIp)

inductive Acquires : NodePool × Acquired → Prop
  | granted (ip : String) (chosen : pool.choose (pool.candidates exclude) affinityIp = some ip) :
      Acquires (pool.occupy ip, .granted ip)
  | busy (full : pool.candidates exclude = []) (queue : pool.maxQueued ≤ pool.waiting) :
      Acquires (pool, .busy)
  | blocked (full : pool.candidates exclude = []) (queue : pool.waiting < pool.maxQueued) :
      Acquires (pool.enqueue.park, .blocked pool.cond.fresh)

theorem acquire_cases : Acquires pool exclude affinityIp (pool.acquire exclude affinityIp) := by
  cases chosen : pool.choose (pool.candidates exclude) affinityIp with
  | some ip =>
    rw [acquire_granted chosen]
    exact .granted ip chosen
  | none =>
    have full := choose_eq_none.mp chosen
    rcases le_or_gt pool.maxQueued pool.waiting with queue | queue
    · rw [acquire_busy full queue]
      exact .busy full queue
    · rw [acquire_blocked full queue]
      exact .blocked full queue

inductive Wakes (future : Future) : NodePool × Acquired → Prop
  | granted (ip : String) (chosen : pool.choose (pool.candidates exclude) affinityIp = some ip) :
      Wakes future ((pool.cancelWait future).occupy ip, .granted ip)
  | blocked (full : pool.candidates exclude = []) :
      Wakes future ((pool.unpark future).park, .blocked pool.cond.fresh)

theorem wake_cases (future : Future) :
    Wakes pool exclude affinityIp future (pool.wake future exclude affinityIp) := by
  cases chosen : pool.choose (pool.candidates exclude) affinityIp with
  | some ip =>
    rw [wake_granted chosen]
    exact .granted ip chosen
  | none =>
    have full := choose_eq_none.mp chosen
    rw [wake_blocked full]
    exact .blocked full

end Acquire

end NodePool
end LlamacppRay.Gateway
