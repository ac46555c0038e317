import LlamacppRay.Gateway.PoolSystem

/-! The affinity node of a key over the health history of a pool. The hash of a key is fixed for the
process; the node depends on the healthy set and on nothing else that changes. -/

namespace LlamacppRay.Gateway
open LlamacppRay.Asyncio LlamacppRay.Automata LlamacppRay.Python

namespace NodePool
variable {pool : NodePool} {hash : Int} {preferred : String}

def healthyIps (pool : NodePool) : List String := pool.ips.filter fun ip => ip ∈ pool.healthy

theorem mem_healthyIps {ip : String} : ip ∈ pool.healthyIps ↔ ip ∈ pool.ips ∧ ip ∈ pool.healthy := by
  rw [healthyIps, List.mem_filter, decide_eq_true_eq]

theorem affinityNode_of_up (indexed : indexMod hash pool.ips = some preferred)
    (up : preferred ∈ pool.healthy) : pool.affinityNode hash = some (some preferred) := by
  simp only [affinityNode, indexed, Option.bind_eq_bind, Option.bind_some, if_pos up]
  rfl

theorem affinityNode_of_down (indexed : indexMod hash pool.ips = some preferred)
    (down : preferred ∉ pool.healthy) :
    pool.affinityNode hash =
      if pool.healthyIps = [] then some none else (indexMod hash pool.healthyIps).bind fun ip => some (some ip) := by
  simp only [affinityNode, indexed, Option.bind_eq_bind, Option.bind_some, if_neg down]
  rfl

/-- Every index is in range, the answer is a node that is up, and there is one where any node is. -/
theorem affinityNode_cases (indexed : indexMod hash pool.ips = some preferred)
    (member : preferred ∈ pool.ips) :
    (∃ node, pool.affinityNode hash = some (some node) ∧ node ∈ pool.ips ∧ node ∈ pool.healthy) ∨
      (pool.affinityNode hash = some none ∧ ∀ node ∈ pool.ips, node ∉ pool.healthy) := by
  by_cases up : preferred ∈ pool.healthy
  · exact Or.inl ⟨preferred, affinityNode_of_up indexed up, member, up⟩
  · rw [affinityNode_of_down indexed up]
    by_cases nobody : pool.healthyIps = []
    · refine Or.inr ⟨if_pos nobody, fun node known healthy => ?_⟩
      have present := mem_healthyIps.mpr ⟨known, healthy⟩
      rw [nobody] at present
      cases present
    · obtain ⟨node, present, found⟩ := indexMod_eq_some hash nobody
      have both := mem_healthyIps.mp present
      exact Or.inl ⟨node, by rw [if_neg nobody, found]; rfl, both⟩

theorem affinityNode_congr {other : NodePool} (ips_eq : other.ips = pool.ips)
    (same : ∀ node ∈ pool.ips, (node ∈ other.healthy ↔ node ∈ pool.healthy)) :
    other.affinityNode hash = pool.affinityNode hash := by
  have healthyIps_eq : other.healthyIps = pool.healthyIps := by
    rw [healthyIps, healthyIps, ips_eq]
    apply List.filter_congr
    intro node known
    rw [decide_eq_decide]
    exact same node known
  by_cases inhabited : pool.ips = []
  · have nothing : ∀ p : NodePool, p.ips = [] → p.affinityNode hash = none := by
      intro p empty
      simp only [affinityNode, empty, indexMod, List.getElem?_nil, Option.bind_eq_bind, Option.bind_none]
    rw [nothing other (ips_eq.trans inhabited), nothing pool inhabited]
  · obtain ⟨preferred, member, indexed⟩ := indexMod_eq_some hash inhabited
    have indexed' : indexMod hash other.ips = some preferred := ips_eq ▸ indexed
    by_cases up : preferred ∈ pool.healthy
    · rw [affinityNode_of_up indexed up, affinityNode_of_up indexed' ((same preferred member).mpr up)]
    · rw [affinityNode_of_down indexed up,
        affinityNode_of_down indexed' (mt (same preferred member).mp up), healthyIps_eq]

end NodePool

/-! ### What a step does to the healthy set -/

def PoolEvent.Elsewhere (node : String) : PoolEvent → Prop
  | .evict ip => ip ≠ node
  | .probed results => ∀ result ∈ results, result.1 ≠ node
  | _ => True

theorem applyResults_elsewhere {node : String} {results : List (String × Bool)}
    (elsewhere : ∀ result ∈ results, result.1 ≠ node) (healthy : Finset String) :
    node ∈ applyResults healthy results ↔ node ∈ healthy := by
  induction results generalizing healthy with
  | nil => exact Iff.rfl
  | cons result rest ih =>
    have other : node ≠ result.1 := (elsewhere result List.mem_cons_self).symm
    have first : node ∈ applyResult healthy result ↔ node ∈ healthy := by
      unfold applyResult
      split
      · rw [Finset.mem_insert, or_iff_right other]
      · rw [Finset.mem_erase, and_iff_right other]
    have later := ih (fun result' member => elsewhere result' (List.mem_cons_of_mem result member))
      (applyResult healthy result)
    exact later.trans first

theorem PoolEvent.health_elsewhere {node : String} {event : PoolEvent} (elsewhere : event.Elsewhere node)
    (healthy : Finset String) : node ∈ (event.health healthy).getD healthy ↔ node ∈ healthy := by
  cases event with
  | evict ip =>
    have other : node ≠ ip := Ne.symm elsewhere
    rw [health, Option.getD_some, Finset.mem_erase, and_iff_right other]
  | probed results => exact applyResults_elsewhere elsewhere healthy
  | _ => exact Iff.rfl

namespace PoolSystem

theorem Moves.healthy {p p' : NodePool} {blocked blocked' : Multiset Waiter} {event : PoolEvent}
    (moves : Moves p blocked event p' blocked') : p'.healthy = (event.health p.healthy).getD p.healthy := by
  cases moves with
  | released ip => exact p.release_healthy ip
  | _ => rfl

theorem up_elsewhere {node : String} {s last : PoolSystem} {events : List PoolEvent}
    (free : s.pool.locked = false) (up : node ∈ s.pool.value.healthy)
    (elsewhere : ∀ event ∈ events, event.Elsewhere node) (ran : machine.run s events = some last) :
    node ∈ last.pool.value.healthy := by
  induction events generalizing s with
  | nil =>
    cases ran
    exact up
  | cons event rest ih =>
    rw [Machine.run_cons, Option.bind_eq_some_iff] at ran
    obtain ⟨next, stepped, ran⟩ := ran
    obtain ⟨p, blocked, rfl, moves⟩ := moves_of_step free stepped
    apply ih rfl _ _ ran
    · rw [Monitor.unlocked_value, moves.healthy]
      exact (PoolEvent.health_elsewhere (elsewhere event List.mem_cons_self) _).mpr up
    · intro other member
      exact elsewhere other (List.mem_cons_of_mem event member)

section
variable {ips : List String} {port parallel maxQueued : Int} {healthy : Finset String}

/-- In every state of every run the key has an answer; it is the preferred node while this one is up,
some other node that is up otherwise, and none only if no node is up. -/
theorem affinity_sticky (inhabited : ips ≠ []) (hash : Int) {s : PoolSystem} {events : List PoolEvent}
    (ran : machine.run (new ips port parallel maxQueued healthy) events = some s) :
    ∃ preferred answer, indexMod hash ips = some preferred ∧ s.pool.value.affinityNode hash = some answer ∧
      (∀ node, answer = some node → node ∈ ips ∧ node ∈ s.pool.value.healthy) ∧
      (answer = none ↔ ∀ node ∈ ips, node ∉ s.pool.value.healthy) ∧
      (preferred ∈ s.pool.value.healthy → answer = some preferred) ∧
      (∀ more last, preferred ∈ s.pool.value.healthy → (∀ event ∈ more, event.Elsewhere preferred) →
        machine.run s more = some last → last.pool.value.affinityNode hash = some (some preferred)) ∧
      (∀ next, machine.step s (.probed [(preferred, true)]) = some next →
        next.pool.value.affinityNode hash = some (some preferred)) ∧
      ∀ more last, machine.run s more = some last →
        (∀ node ∈ ips, (node ∈ last.pool.value.healthy ↔ node ∈ s.pool.value.healthy)) →
          last.pool.value.affinityNode hash = s.pool.value.affinityNode hash := by
  obtain ⟨free, accounted⟩ := accounted_reachable ⟨events, ran⟩
  obtain ⟨preferred, member, indexed⟩ := indexMod_eq_some hash inhabited
  have reaches : ∀ more last, machine.run s more = some last → last.pool.value.ips = ips := by
    intro more last continued
    have whole : machine.run (new ips port parallel maxQueued healthy) (events ++ more) = some last := by
      rw [Machine.run_append, ran]
      exact continued
    exact (accounted_reachable ⟨events ++ more, whole⟩).2.ips_eq
  have indexedIn : ∀ p : NodePool, p.ips = ips → indexMod hash p.ips = some preferred := by
    intro p same
    rw [same]
    exact indexed
  have now := indexedIn s.pool.value accounted.ips_eq
  have known : preferred ∈ s.pool.value.ips := accounted.ips_eq ▸ member
  have sticks : ∀ more last, machine.run s more = some last → preferred ∈ last.pool.value.healthy →
      last.pool.value.affinityNode hash = some (some preferred) := by
    intro more last continued up
    exact NodePool.affinityNode_of_up (indexedIn last.pool.value (reaches more last continued)) up
  have sticky : ∀ more last, preferred ∈ s.pool.value.healthy →
      (∀ event ∈ more, event.Elsewhere preferred) → machine.run s more = some last →
        last.pool.value.affinityNode hash = some (some preferred) := by
    intro more last up elsewhere continued
    exact sticks more last continued (up_elsewhere free up elsewhere continued)
  have returns : ∀ next, machine.step s (.probed [(preferred, true)]) = some next →
      next.pool.value.affinityNode hash = some (some preferred) := by
    intro next stepped
    apply sticks [.probed [(preferred, true)]] next
    · rw [Machine.run_cons, stepped]
      rfl
    · cases stepped
      exact Finset.mem_insert_self preferred s.pool.value.healthy
  have steady : ∀ more last, machine.run s more = some last →
      (∀ node ∈ ips, (node ∈ last.pool.value.healthy ↔ node ∈ s.pool.value.healthy)) →
        last.pool.value.affinityNode hash = s.pool.value.affinityNode hash := by
    intro more last continued same
    apply NodePool.affinityNode_congr ((reaches more last continued).trans accounted.ips_eq.symm)
    rw [accounted.ips_eq]
    exact same
  rcases NodePool.affinityNode_cases now known with ⟨node, answered, present, up⟩ | ⟨answered, down⟩
  · rw [accounted.ips_eq] at present
    refine ⟨preferred, some node, indexed, answered, ?_, ?_, ?_, sticky, returns, steady⟩
    · intro other same
      cases same
      exact ⟨present, up⟩
    · exact iff_of_false nofun fun allDown => allDown node present up
    · intro preferredUp
      rw [NodePool.affinityNode_of_up now preferredUp] at answered
      exact (Option.some.inj answered).symm
  · rw [accounted.ips_eq] at down
    refine ⟨preferred, none, indexed, answered, nofun, iff_of_true rfl down, ?_, sticky, returns, steady⟩
    intro preferredUp
    exact absurd preferredUp (down preferred member)

/-- A key of a negative hash, after the eviction of its preferred node. -/
theorem affinity_sticky_evicted : ∃ s answer,
    machine.run (new ["10.0.0.1", "10.0.0.2", "10.0.0.3"] 8080 1 5 {"10.0.0.1", "10.0.0.2", "10.0.0.3"})
        [.evict "10.0.0.2"] = some s ∧
      s.pool.value.affinityNode (-2) = some answer ∧
        (answer = none ↔ ∀ node ∈ ["10.0.0.1", "10.0.0.2", "10.0.0.3"], node ∉ s.pool.value.healthy) := by
  obtain ⟨preferred, answer, facts⟩ := @affinity_sticky ["10.0.0.1", "10.0.0.2", "10.0.0.3"] 8080 1 5
    {"10.0.0.1", "10.0.0.2", "10.0.0.3"} (by decide) (-2) _ [.evict "10.0.0.2"] rfl
  exact ⟨_, answer, rfl, facts.2.1, facts.2.2.2.1⟩

end

end PoolSystem
end LlamacppRay.Gateway
