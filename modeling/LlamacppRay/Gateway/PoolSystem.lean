import LlamacppRay.Gateway.HealthMonitor

/-! A pool under arbitrary clients: any number of calls of `acquire` with any arguments, releases,
evictions, probe rounds and cancellations, in any order. The calls that matter to the pool are
the ones blocked in `acquire`, so these are kept. -/

namespace LlamacppRay.Gateway
open LlamacppRay.Asyncio LlamacppRay.Automata

/-- A call blocked in `acquire`: its future in the condition and its arguments. -/
structure Waiter where
  future : Future
  exclude : Finset String
  affinityIp : Option String
  deriving DecidableEq

structure PoolSystem where
  pool : Monitor NodePool
  blocked : Multiset Waiter

inductive PoolEvent where
  | acquire (exclude : Finset String) (affinityIp : Option String)
  | wake (waiter : Waiter)
  | cancel (waiter : Waiter)
  | release (ip : String)
  | evict (ip : String)
  | probed (results : List (String × Bool))

/-- The healthy set that an eviction or a round of probes leaves; nothing else changes it. -/
def PoolEvent.health (healthy : Finset String) : PoolEvent → Option (Finset String)
  | .evict ip => some (healthy.erase ip)
  | .probed results => some (applyResults healthy results)
  | _ => none

namespace PoolSystem

def new (ips : List String) (port parallel maxQueued : Int) (healthy : Finset String) : PoolSystem :=
  ⟨Monitor.unlocked (NodePool.new ips port parallel maxQueued healthy), 0⟩

def step (s : PoolSystem) : PoolEvent → Option PoolSystem
  | .acquire exclude affinityIp => do
      let (pool, result) ← s.pool.critical fun p => p.acquire exclude affinityIp
      match result with
      | .blocked future => return ⟨pool, ⟨future, exclude, affinityIp⟩ ::ₘ s.blocked⟩
      | _ => return ⟨pool, s.blocked⟩
  | .wake waiter =>
      if waiter ∈ s.blocked then do
        let (pool, result) ← s.pool.critical fun p => p.wake waiter.future waiter.exclude waiter.affinityIp
        match result with
        | .blocked future => return ⟨pool, { waiter with future := future } ::ₘ s.blocked.erase waiter⟩
        | _ => return ⟨pool, s.blocked.erase waiter⟩
      else none
  | .cancel waiter =>
      if waiter ∈ s.blocked then do
        let pool ← s.pool.update fun p => p.cancelWait waiter.future
        return ⟨pool, s.blocked.erase waiter⟩
      else none
  | .release ip => do
      let pool ← s.pool.update fun p => p.release ip
      return ⟨pool, s.blocked⟩
  | .evict ip => some ⟨s.pool.modify fun p => p.evict ip, s.blocked⟩
  | .probed results =>
      some ⟨s.pool.modify fun p => { p with healthy := applyResults p.healthy results }, s.blocked⟩

def machine : Machine PoolSystem PoolEvent := ⟨step⟩

/-- How the call of `acquire` that a step runs ends, or goes on waiting. -/
def reply (s : PoolSystem) : PoolEvent → Option Acquired
  | .acquire exclude affinityIp => some (s.pool.value.acquire exclude affinityIp).2
  | .wake waiter => some (s.pool.value.wake waiter.future waiter.exclude waiter.affinityIp).2
  | _ => none

/-! ### What one step can do -/

inductive Moves (p : NodePool) (blocked : Multiset Waiter) :
    PoolEvent → NodePool → Multiset Waiter → Prop
  | granted {exclude : Finset String} {affinityIp : Option String} {ip : String}
      (chosen : p.choose (p.candidates exclude) affinityIp = some ip) :
      Moves p blocked (.acquire exclude affinityIp) (p.occupy ip) blocked
  | rejected {exclude : Finset String} {affinityIp : Option String}
      (full : p.candidates exclude = []) (queue : p.maxQueued ≤ p.waiting) :
      Moves p blocked (.acquire exclude affinityIp) p blocked
  | queued {exclude : Finset String} {affinityIp : Option String} (full : p.candidates exclude = [])
      (queue : p.waiting < p.maxQueued) :
      Moves p blocked (.acquire exclude affinityIp) p.enqueue.park
        (⟨p.cond.fresh, exclude, affinityIp⟩ ::ₘ blocked)
  | served {waiter : Waiter} {ip : String} (member : waiter ∈ blocked)
      (chosen : p.choose (p.candidates waiter.exclude) waiter.affinityIp = some ip) :
      Moves p blocked (.wake waiter) ((p.cancelWait waiter.future).occupy ip) (blocked.erase waiter)
  | requeued {waiter : Waiter} (member : waiter ∈ blocked)
      (full : p.candidates waiter.exclude = []) :
      Moves p blocked (.wake waiter) (p.unpark waiter.future).park
        ({ waiter with future := p.cond.fresh } ::ₘ blocked.erase waiter)
  | withdrawn {waiter : Waiter} (member : waiter ∈ blocked) :
      Moves p blocked (.cancel waiter) (p.cancelWait waiter.future) (blocked.erase waiter)
  | released (ip : String) : Moves p blocked (.release ip) (p.release ip) blocked
  | evicted (ip : String) : Moves p blocked (.evict ip) (p.evict ip) blocked
  | probed (results : List (String × Bool)) :
      Moves p blocked (.probed results) { p with healthy := applyResults p.healthy results } blocked

theorem step_iff {p : NodePool} {blocked : Multiset Waiter} {event : PoolEvent}
    {next : PoolSystem} :
    step ⟨Monitor.unlocked p, blocked⟩ event = some next ↔
      ∃ p' blocked', next = ⟨Monitor.unlocked p', blocked'⟩ ∧
        Moves p blocked event p' blocked' := by
  constructor
  · intro stepped
    cases event with
    | acquire exclude affinityIp =>
      have cases_of := p.acquire_cases exclude affinityIp
      simp only [step, Monitor.critical_unlocked, Option.bind_eq_bind, Option.bind_some] at stepped
      generalize p.acquire exclude affinityIp = acquired at cases_of stepped
      cases cases_of with
      | granted ip chosen => cases stepped; exact ⟨_, _, rfl, .granted chosen⟩
      | busy full queue => cases stepped; exact ⟨_, _, rfl, .rejected full queue⟩
      | blocked full queue => cases stepped; exact ⟨_, _, rfl, .queued full queue⟩
    | wake waiter =>
      have cases_of := p.wake_cases waiter.exclude waiter.affinityIp waiter.future
      by_cases member : waiter ∈ blocked
      · simp only [step, if_pos member, Monitor.critical_unlocked, Option.bind_eq_bind,
          Option.bind_some] at stepped
        generalize p.wake waiter.future waiter.exclude waiter.affinityIp = acquired at cases_of stepped
        cases cases_of with
        | granted ip chosen => cases stepped; exact ⟨_, _, rfl, .served member chosen⟩
        | blocked full => cases stepped; exact ⟨_, _, rfl, .requeued member full⟩
      · simp only [step, if_neg member] at stepped
        cases stepped
    | cancel waiter =>
      by_cases member : waiter ∈ blocked
      · simp only [step, if_pos member, Monitor.update_unlocked, Option.bind_eq_bind,
          Option.bind_some] at stepped
        cases stepped
        exact ⟨_, _, rfl, .withdrawn member⟩
      · simp only [step, if_neg member] at stepped
        cases stepped
    | release ip => cases stepped; exact ⟨_, _, rfl, .released ip⟩
    | evict ip => cases stepped; exact ⟨_, _, rfl, .evicted ip⟩
    | probed results => cases stepped; exact ⟨_, _, rfl, .probed results⟩
  · intro moved
    obtain ⟨p', blocked', rfl, moves⟩ := moved
    cases moves with
    | granted chosen =>
      simp only [step, Monitor.critical_unlocked, Option.bind_eq_bind, Option.bind_some,
        NodePool.acquire_granted chosen]
      rfl
    | rejected full queue =>
      simp only [step, Monitor.critical_unlocked, Option.bind_eq_bind, Option.bind_some,
        NodePool.acquire_busy full queue]
      rfl
    | queued full queue =>
      simp only [step, Monitor.critical_unlocked, Option.bind_eq_bind, Option.bind_some,
        NodePool.acquire_blocked full queue]
      rfl
    | served member chosen =>
      simp only [step, if_pos member, Monitor.critical_unlocked, Option.bind_eq_bind, Option.bind_some,
        NodePool.wake_granted chosen]
      rfl
    | requeued member full =>
      simp only [step, if_pos member, Monitor.critical_unlocked, Option.bind_eq_bind, Option.bind_some,
        NodePool.wake_blocked full]
      rfl
    | withdrawn member =>
      simp only [step, if_pos member, Monitor.update_unlocked, Option.bind_eq_bind, Option.bind_some]
      rfl
    | released ip => rfl
    | evicted ip => rfl
    | probed results => rfl

theorem moves_of_step {s next : PoolSystem} {event : PoolEvent} (free : s.pool.locked = false)
    (stepped : machine.step s event = some next) :
    ∃ p' blocked', next = ⟨Monitor.unlocked p', blocked'⟩ ∧
      Moves s.pool.value s.blocked event p' blocked' := by
  obtain ⟨pool, blocked⟩ := s
  rw [show pool = Monitor.unlocked pool.value from Monitor.eq_unlocked free] at stepped
  exact step_iff.mp stepped

/-! ### Queue accounting -/

structure Accounted (ips : List String) (parallel maxQueued : Int) (p : NodePool)
    (blocked : Multiset Waiter) :
    Prop where
  ips_eq : p.ips = ips
  parallel_eq : p.parallel = parallel
  maxQueued_eq : p.maxQueued = maxQueued
  waiting : p.waiting = blocked.card
  bounded : p.waiting ≤ max 0 maxQueued
  issued : ∀ waiter ∈ blocked, waiter.future < p.cond.fresh

section
variable {ips : List String} {port parallel maxQueued : Int} {healthy : Finset String}

theorem accounted_new : Accounted ips parallel maxQueued (NodePool.new ips port parallel maxQueued healthy) 0 where
  ips_eq := rfl
  parallel_eq := rfl
  maxQueued_eq := rfl
  waiting := rfl
  bounded := le_max_left 0 maxQueued
  issued := by simp

theorem Accounted.moves {p p' : NodePool} {blocked blocked' : Multiset Waiter} {event : PoolEvent}
    (accounted : Accounted ips parallel maxQueued p blocked)
    (moves : Moves p blocked event p' blocked') :
    Accounted ips parallel maxQueued p' blocked' := by
  obtain ⟨rfl, rfl, rfl, waiting, bounded, issued⟩ := accounted
  cases moves with
  | granted chosen => exact ⟨rfl, rfl, rfl, waiting, bounded, issued⟩
  | rejected full queue => exact ⟨rfl, rfl, rfl, waiting, bounded, issued⟩
  | queued full queue =>
    refine ⟨rfl, rfl, rfl, ?_, ?_, ?_⟩
    · simp only [NodePool.park_waiting, NodePool.enqueue_waiting, Multiset.card_cons, waiting]
      rfl
    · simp only [NodePool.park_waiting, NodePool.enqueue_waiting]
      omega
    · intro waiter member
      rcases Multiset.mem_cons.mp member with rfl | older
      · exact Nat.lt_succ_self _
      · exact (issued waiter older).trans (Nat.lt_succ_self _)
  | @served waiter ip member chosen =>
    have one_less := Multiset.card_erase_add_one member
    refine ⟨rfl, rfl, rfl, ?_, ?_, fun other remains => issued other (Multiset.mem_of_mem_erase remains)⟩
    · simp only [NodePool.occupy_waiting, NodePool.cancelWait_waiting]
      omega
    · simp only [NodePool.occupy_waiting, NodePool.cancelWait_waiting]
      omega
  | @requeued waiter member full =>
    have one_less := Multiset.card_erase_add_one member
    refine ⟨rfl, rfl, rfl, ?_, bounded, ?_⟩
    · simp only [NodePool.park_waiting, NodePool.unpark_waiting, Multiset.card_cons]
      omega
    · intro other remains
      rcases Multiset.mem_cons.mp remains with rfl | older
      · exact Nat.lt_succ_self _
      · exact (issued other (Multiset.mem_of_mem_erase older)).trans (Nat.lt_succ_self _)
  | @withdrawn waiter member =>
    have one_less := Multiset.card_erase_add_one member
    refine ⟨rfl, rfl, rfl, ?_, ?_, fun other remains => issued other (Multiset.mem_of_mem_erase remains)⟩
    · simp only [NodePool.cancelWait_waiting]
      omega
    · simp only [NodePool.cancelWait_waiting]
      omega
  | released ip =>
    by_cases known : ip ∈ p.ips
    · rw [NodePool.release_known known]
      exact ⟨rfl, rfl, rfl, waiting, bounded, issued⟩
    · rw [NodePool.release_unknown known]
      exact ⟨rfl, rfl, rfl, waiting, bounded, issued⟩
  | evicted ip => exact ⟨rfl, rfl, rfl, waiting, bounded, issued⟩
  | probed results => exact ⟨rfl, rfl, rfl, waiting, bounded, issued⟩

theorem accounted_step {s next : PoolSystem} {event : PoolEvent}
    (accounted : s.pool.locked = false ∧ Accounted ips parallel maxQueued s.pool.value s.blocked)
    (stepped : machine.step s event = some next) :
    next.pool.locked = false ∧ Accounted ips parallel maxQueued next.pool.value next.blocked := by
  obtain ⟨p', blocked', rfl, moves⟩ := moves_of_step accounted.1 stepped
  exact ⟨rfl, accounted.2.moves moves⟩

theorem accounted_reachable {s : PoolSystem}
    (reached : machine.Reaches (new ips port parallel maxQueued healthy) s) :
    s.pool.locked = false ∧ Accounted ips parallel maxQueued s.pool.value s.blocked :=
  reached.invariant (fun _ _ _ accounted stepped => accounted_step accounted stepped) ⟨rfl, accounted_new⟩

end

end PoolSystem
end LlamacppRay.Gateway
