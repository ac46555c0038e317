import LlamacppRay.Gateway.PoolSystem

/-! The queue of a pool over whole runs: what it counts, when it rejects, and which changes of
the pool leave a waiter asleep that could be served. -/

namespace LlamacppRay.Gateway
open LlamacppRay.Asyncio LlamacppRay.Automata

namespace NodePool

theorem acquire_eq_busy {pool : NodePool} {exclude : Finset String} {affinityIp : Option String} :
    (pool.acquire exclude affinityIp).2 = .busy ↔
      pool.candidates exclude = [] ∧ pool.maxQueued ≤ pool.waiting := by
  have ends := pool.acquire_cases exclude affinityIp
  generalize pool.acquire exclude affinityIp = acquired at ends
  cases ends with
  | granted ip chosen =>
    have some_candidate := List.ne_nil_of_mem (choose_mem chosen)
    simp only [reduceCtorEq, some_candidate, false_and]
  | busy full queue => simp only [full, queue, and_self]
  | blocked full queue => simp only [reduceCtorEq, full, not_le.mpr queue, and_false]

theorem wake_ne_busy (pool : NodePool) (future : Future) (exclude : Finset String)
    (affinityIp : Option String) :
    (pool.wake future exclude affinityIp).2 ≠ .busy := by
  have ends := pool.wake_cases exclude affinityIp future
  generalize pool.wake future exclude affinityIp = acquired at ends
  cases ends with
  | granted ip chosen => simp only [ne_eq, reduceCtorEq, not_false_eq_true]
  | blocked full => simp only [ne_eq, reduceCtorEq, not_false_eq_true]

end NodePool

namespace PoolSystem

theorem reply_eq_busy {s : PoolSystem} {event : PoolEvent} :
    s.reply event = some .busy ↔ ∃ exclude affinityIp, event = .acquire exclude affinityIp ∧
      s.pool.value.candidates exclude = [] ∧ s.pool.value.maxQueued ≤ s.pool.value.waiting := by
  cases event with
  | acquire exclude affinityIp =>
    simp only [reply, Option.some.injEq, NodePool.acquire_eq_busy, PoolEvent.acquire.injEq]
    constructor
    · intro rejected
      exact ⟨exclude, affinityIp, ⟨rfl, rfl⟩, rejected⟩
    · intro ⟨_, _, ⟨same, _⟩, rejected⟩
      exact same ▸ rejected
  | wake waiter => simp [reply, NodePool.wake_ne_busy]
  | _ => simp [reply]

theorem reply_granted {s next : PoolSystem} {event : PoolEvent} {ip : String}
    (free : s.pool.locked = false) (granted : s.reply event = some (.granted ip))
    (stepped : machine.step s event = some next) :
    ip ∈ s.pool.value.ips ∧ next.pool.value.inFlight =
      Function.update s.pool.value.inFlight ip (s.pool.value.inFlight ip + 1) := by
  obtain ⟨p', blocked', rfl, moves⟩ := moves_of_step free stepped
  cases moves with
  | granted chosen =>
    simp only [reply, NodePool.acquire_granted chosen, Option.some.injEq, Acquired.granted.injEq] at granted
    subst granted
    exact ⟨NodePool.chosen_known chosen, rfl⟩
  | served member chosen =>
    simp only [reply, NodePool.wake_granted chosen, Option.some.injEq, Acquired.granted.injEq] at granted
    subst granted
    exact ⟨NodePool.chosen_known chosen, rfl⟩
  | rejected full queue => simp [reply, NodePool.acquire_busy full queue] at granted
  | queued full queue => simp [reply, NodePool.acquire_blocked full queue] at granted
  | requeued member full => simp [reply, NodePool.wake_blocked full] at granted
  | _ => cases granted

theorem rejected_step {s next : PoolSystem} {event : PoolEvent} (free : s.pool.locked = false)
    (busy : s.reply event = some .busy) (stepped : machine.step s event = some next) :
    next = s := by
  obtain ⟨exclude, affinityIp, rfl, full, queue⟩ := reply_eq_busy.mp busy
  obtain ⟨p', blocked', rfl, moves⟩ := moves_of_step free stepped
  cases moves with
  | granted chosen =>
    have member := NodePool.choose_mem chosen
    rw [full] at member
    cases member
  | rejected => rw [← Monitor.eq_unlocked free]
  | queued _ room => exact absurd queue (not_le.mpr room)

theorem withdrawn_step {s next : PoolSystem} {waiter : Waiter} (free : s.pool.locked = false)
    (stepped : machine.step s (.cancel waiter) = some next) :
    waiter ∈ s.blocked ∧ next.blocked = s.blocked.erase waiter ∧
      next.pool.value.inFlight = s.pool.value.inFlight := by
  obtain ⟨p', blocked', rfl, moves⟩ := moves_of_step free stepped
  cases moves with
  | withdrawn member => exact ⟨member, rfl, rfl⟩

/-- Queue accounting is exact and rejection is atomic. -/
theorem queue_accounting {ips : List String} {port parallel maxQueued : Int}
    {healthy : Finset String} {s : PoolSystem}
    (reached : machine.Reaches (new ips port parallel maxQueued healthy) s) :
    (s.pool.value.waiting = s.blocked.card ∧ s.pool.value.waiting ≤ max 0 maxQueued) ∧
    (∀ event, s.reply event = some .busy ↔ ∃ exclude affinityIp, event = .acquire exclude affinityIp ∧
      s.pool.value.candidates exclude = [] ∧ maxQueued ≤ s.blocked.card) ∧
    (∀ event next, s.reply event = some .busy → machine.step s event = some next → next = s) ∧
    (∀ waiter next, machine.step s (.cancel waiter) = some next →
      waiter ∈ s.blocked ∧ next.blocked = s.blocked.erase waiter ∧
        next.pool.value.waiting = next.blocked.card ∧
          next.pool.value.inFlight = s.pool.value.inFlight) ∧
    (∀ event ip next, s.reply event = some (.granted ip) → machine.step s event = some next →
      ip ∈ ips ∧ next.pool.value.inFlight =
        Function.update s.pool.value.inFlight ip (s.pool.value.inFlight ip + 1)) := by
  obtain ⟨free, accounted⟩ := accounted_reachable reached
  refine ⟨⟨accounted.waiting, accounted.bounded⟩, ?_, ?_, ?_, ?_⟩
  · intro event
    rw [reply_eq_busy, accounted.waiting, accounted.maxQueued_eq]
  · intro event next busy stepped
    exact rejected_step free busy stepped
  · intro waiter next stepped
    obtain ⟨member, rest, untouched⟩ := withdrawn_step free stepped
    exact ⟨member, rest, (accounted_step ⟨free, accounted⟩ stepped).2.waiting, untouched⟩
  · intro event ip next granted stepped
    have result := reply_granted free granted stepped
    rw [accounted.ips_eq] at result
    exact result

theorem queue_accounting_two_calls : ∃ s, machine.run (new ["10.0.0.1"] 8080 1 1 ∅)
      [.acquire ∅ none, .acquire ∅ none] = some s ∧
    s.pool.value.waiting = s.blocked.card ∧ s.reply (.acquire ∅ none) = some .busy := by
  have queued : ((machine.run (new ["10.0.0.1"] 8080 1 1 ∅) [.acquire ∅ none, .acquire ∅ none]).any
    fun s => s.reply (.acquire ∅ none) = some .busy) = true := by decide
  obtain ⟨s, ran, busy⟩ := machine.run_of_any queued
  exact ⟨s, ran, (queue_accounting ⟨_, ran⟩).1.1, of_decide_eq_true busy⟩

end PoolSystem

/-! ### Wake-ups -/

namespace NodePool

/-- With this healthy set, a call that has no candidate now would have one: a free node it may use
has become healthy, or the last healthy node it may use is gone while another one is free. -/
def Enables (pool : NodePool) (healthy exclude : Finset String) : Prop :=
  (∃ ip ∈ pool.ips, ip ∉ exclude ∧ pool.inFlight ip < pool.parallel ∧ ip ∉ pool.healthy ∧ ip ∈ healthy) ∨
    (∃ ip ∈ pool.ips, ip ∉ exclude ∧ ip ∈ pool.healthy) ∧ (∀ ip ∈ pool.ips, ip ∉ exclude → ip ∉ healthy) ∧
      ∃ ip ∈ pool.ips, ip ∉ exclude ∧ pool.inFlight ip < pool.parallel

theorem enables_iff {pool : NodePool} {exclude : Finset String} (healthy : Finset String)
    (full : pool.candidates exclude = []) :
    NodePool.candidates { pool with healthy := healthy } exclude = [] ↔
      ¬pool.Enables healthy exclude := by
  rw [candidates_eq_nil] at full ⊢
  simp only [mem_candidates, not_and, not_or, and_imp] at full ⊢
  constructor
  · intro still enabled
    rcases enabled with ⟨ip, known, allowed, free, -, up⟩ | ⟨-, down, ip, known, allowed, free⟩
    · exact (still ip known allowed free).1 up
    · exact (still ip known allowed free).2 down
  · intro disabled ip known allowed free
    constructor
    · intro up
      exact disabled (Or.inl ⟨ip, known, allowed, free, (full ip known allowed free).1, up⟩)
    · intro down
      have healthy_before : ∃ other ∈ pool.ips, other ∉ exclude ∧ other ∈ pool.healthy := by
        have some_healthy := (full ip known allowed free).2
        simp only [not_forall, not_not] at some_healthy
        obtain ⟨other, other_known, other_allowed, other_healthy⟩ := some_healthy
        exact ⟨other, other_known, other_allowed, other_healthy⟩
      exact disabled (Or.inr ⟨healthy_before, down, ip, known, allowed, free⟩)

end NodePool

namespace PoolSystem

def Conserving (s : PoolSystem) : Prop :=
  ∀ waiter ∈ s.blocked, waiter.future ∈ s.pool.value.cond.pending → s.pool.value.candidates waiter.exclude = []

/-- The step is no change of health that lets an unnotified sleeper go ahead. -/
def Harmless (s : PoolSystem) (event : PoolEvent) : Prop :=
  ∀ healthy ∈ event.health s.pool.value.healthy, ∀ waiter ∈ s.blocked, waiter.future ∈ s.pool.value.cond.pending →
    ¬s.pool.value.Enables healthy waiter.exclude

instance (s : PoolSystem) : Decidable s.Conserving :=
  inferInstanceAs (Decidable (∀ waiter ∈ s.blocked, _ → _))

/-- Neither evictions nor probes notify, so they are the only steps that can break the property. -/
theorem conserving_step {ips : List String} {parallel maxQueued : Int} {s next : PoolSystem}
    {event : PoolEvent}
    (accounted : s.pool.locked = false ∧ Accounted ips parallel maxQueued s.pool.value s.blocked)
    (conserving : s.Conserving) (stepped : machine.step s event = some next) :
    next.Conserving ↔ s.Harmless event := by
  obtain ⟨p', blocked', rfl, moves⟩ := moves_of_step accounted.1 stepped
  have issued := accounted.2.issued
  have health_kept : event.health s.pool.value.healthy = none →
      (∀ waiter ∈ blocked', waiter.future ∈ p'.cond.pending → p'.candidates waiter.exclude = []) →
        (Conserving ⟨Monitor.unlocked p', blocked'⟩ ↔ s.Harmless event) := by
    intro unchanged kept
    refine iff_of_true kept ?_
    intro healthy changed
    rw [unchanged] at changed
    cases changed
  cases moves with
  | granted chosen =>
    apply health_kept rfl
    intro waiter member asleep
    exact NodePool.candidates_occupy (conserving waiter member asleep)
  | rejected full queue => exact health_kept rfl conserving
  | queued full queue =>
    apply health_kept rfl
    intro waiter member asleep
    rcases Multiset.mem_cons.mp member with rfl | older
    · exact full
    · rcases Finset.mem_insert.mp asleep with same | before
      · exact absurd same (Nat.ne_of_lt (issued waiter older))
      · exact conserving waiter older before
  | served member chosen =>
    apply health_kept rfl
    intro waiter remains asleep
    have before := conserving waiter (Multiset.mem_of_mem_erase remains) (Finset.mem_of_mem_erase asleep)
    exact NodePool.candidates_occupy before
  | requeued member full =>
    apply health_kept rfl
    intro waiter remains asleep
    rcases Multiset.mem_cons.mp remains with rfl | older
    · exact full
    · have known := Multiset.mem_of_mem_erase older
      rcases Finset.mem_insert.mp asleep with same | before
      · exact absurd same (Nat.ne_of_lt (issued waiter known))
      · exact conserving waiter known (Finset.mem_of_mem_erase before)
  | withdrawn member =>
    apply health_kept rfl
    intro waiter remains asleep
    exact conserving waiter (Multiset.mem_of_mem_erase remains) (Finset.mem_of_mem_erase asleep)
  | released ip =>
    apply health_kept rfl
    intro waiter member asleep
    by_cases known : ip ∈ s.pool.value.ips
    · simp [NodePool.release_known known] at asleep
    · rw [NodePool.release_unknown known] at asleep ⊢
      exact conserving waiter member asleep
  | evicted ip =>
    simp only [Conserving, Harmless, PoolEvent.health, Option.mem_def, Option.some.injEq, forall_eq']
    exact forall₃_congr fun waiter member asleep => NodePool.enables_iff _ (conserving waiter member asleep)
  | probed results =>
    simp only [Conserving, Harmless, PoolEvent.health, Option.mem_def, Option.some.injEq, forall_eq']
    exact forall₃_congr fun waiter member asleep => NodePool.enables_iff _ (conserving waiter member asleep)

/-- A run keeps the queue work-conserving exactly as long as no eviction and no probe round lets
an unnotified sleeper go ahead. -/
theorem work_conserving_iff {ips : List String} {port parallel maxQueued : Int}
    {healthy : Finset String} {events : List PoolEvent} {last : PoolSystem}
    (ran : machine.run (new ips port parallel maxQueued healthy) events = some last) :
    machine.Throughout Conserving (new ips port parallel maxQueued healthy) events ↔
      machine.Along Harmless (new ips port parallel maxQueued healthy) events := by
  refine Machine.throughout_iff_along (fun _ _ _ accounted stepped => accounted_step accounted stepped)
    (fun _ _ _ accounted conserving stepped => conserving_step accounted conserving stepped)
    ⟨rfl, (accounted_new : Accounted ips parallel maxQueued _ 0)⟩ ?_ ran
  intro waiter member
  simp [new] at member

theorem work_conserving_release : ∃ s, machine.run (new ["10.0.0.1"] 8080 1 1 ∅)
      [.acquire ∅ none, .acquire ∅ none, .release "10.0.0.1"] = some s ∧
    machine.Throughout Conserving (new ["10.0.0.1"] 8080 1 1 ∅)
      [.acquire ∅ none, .acquire ∅ none, .release "10.0.0.1"] := by
  have ends : ((machine.run (new ["10.0.0.1"] 8080 1 1 ∅)
    [.acquire ∅ none, .acquire ∅ none, .release "10.0.0.1"]).any fun _ => true) = true := by decide
  obtain ⟨s, ran, -⟩ := machine.run_of_any ends
  refine ⟨s, ran, (work_conserving_iff ran).mpr ?_⟩
  simp [Machine.Along, Harmless, PoolEvent.health]

/-- A probe finds the second node up again while the only healthy node is busy: the queued call
sleeps on although a node is free. -/
theorem recovered_node_left_idle :
    ¬∀ s, machine.Reaches (new ["10.0.0.1", "10.0.0.2"] 8080 1 1 {"10.0.0.1"}) s →
      s.Conserving := by
  intro always
  have asleep : ((machine.run (new ["10.0.0.1", "10.0.0.2"] 8080 1 1 {"10.0.0.1"})
    [.acquire ∅ none, .acquire ∅ none, .probed [("10.0.0.1", true), ("10.0.0.2", true)]]).any
      fun s => ¬s.Conserving) = true := by decide
  obtain ⟨s, ran, broken⟩ := machine.run_of_any asleep
  exact of_decide_eq_true broken (always s ⟨_, ran⟩)

end PoolSystem
end LlamacppRay.Gateway
