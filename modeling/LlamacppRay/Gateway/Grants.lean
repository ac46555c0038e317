import LlamacppRay.Gateway.PoolSystem

/-! Which node a call of `acquire` is given, at once or after any number of wake-ups, while other
calls, releases, evictions and probe rounds change the pool in between. -/

namespace LlamacppRay.Gateway
open LlamacppRay.Asyncio LlamacppRay.Automata LlamacppRay.Python

structure Eligible (pool : NodePool) (exclude : Finset String) (ip : String) : Prop where
  known : ip ∈ pool.ips
  allowed : ip ∉ exclude
  free : pool.inFlight ip < pool.parallel
  healthy : ip ∈ pool.healthy ∨ ∀ other ∈ pool.ips, other ∉ exclude → other ∉ pool.healthy

/-- The node a call has to be given: its affinity node if this one is eligible, else the first in
the list of nodes among the eligible ones with the fewest calls in flight. -/
structure RightNode (pool : NodePool) (exclude : Finset String) (affinityIp : Option String)
    (ip : String) : Prop where
  eligible : Eligible pool exclude ip
  preferred : ∀ affinity, affinityIp = some affinity → Eligible pool exclude affinity → ip = affinity
  least : (∀ affinity, affinityIp = some affinity → ¬Eligible pool exclude affinity) →
    ∃ front back, pool.ips = front ++ ip :: back ∧
      (∀ other ∈ front, Eligible pool exclude other → pool.inFlight ip < pool.inFlight other) ∧
      ∀ other ∈ back, Eligible pool exclude other → pool.inFlight ip ≤ pool.inFlight other

namespace NodePool
variable {pool : NodePool} {exclude : Finset String} {affinityIp : Option String} {ip : String}

theorem mem_candidates_iff_eligible : ip ∈ pool.candidates exclude ↔ Eligible pool exclude ip := by
  rw [mem_candidates]
  constructor
  · rintro ⟨⟨known, allowed⟩, free, healthy⟩
    exact ⟨known, allowed, free, healthy⟩
  · intro eligible
    exact ⟨⟨eligible.known, eligible.allowed⟩, eligible.free, eligible.healthy⟩

theorem eligible_of_chosen (chosen : pool.choose (pool.candidates exclude) affinityIp = some ip) :
    Eligible pool exclude ip :=
  mem_candidates_iff_eligible.mp (choose_mem chosen)

theorem candidates_eq_filter [DecidablePred (Eligible pool exclude)] :
    pool.candidates exclude = pool.ips.filter fun ip => Eligible pool exclude ip := by
  have member : ∀ other, other ∈ pool.candidates exclude ↔ Eligible pool exclude other :=
    fun other => mem_candidates_iff_eligible
  unfold candidates at member ⊢
  simp only at member ⊢
  split at member
  next nobody =>
    rw [if_pos nobody, List.filter_filter]
    apply List.filter_congr
    intro other known
    have same := member other
    simp only [List.mem_filter, known, true_and, decide_eq_true_eq] at same
    rw [← Bool.decide_and, decide_eq_decide, ← same, and_comm]
  next somebody =>
    rw [if_neg somebody, List.filter_filter, List.filter_filter]
    apply List.filter_congr
    intro other known
    have same := member other
    simp only [List.mem_filter, known, true_and, decide_eq_true_eq] at same
    rw [← Bool.decide_and, ← Bool.decide_and, decide_eq_decide, ← same]
    tauto

theorem minBy_candidates (least : minBy pool.inFlight (pool.candidates exclude) = some ip) :
    ∃ front back, pool.ips = front ++ ip :: back ∧
      (∀ other ∈ front, Eligible pool exclude other → pool.inFlight ip < pool.inFlight other) ∧
      ∀ other ∈ back, Eligible pool exclude other → pool.inFlight ip ≤ pool.inFlight other := by
  classical
  obtain ⟨before, after, parts, smaller, notLarger⟩ := minBy_split least
  rw [candidates_eq_filter, List.filter_eq_append_iff] at parts
  obtain ⟨head, tail, whole, keptHead, keptTail⟩ := parts
  rw [List.filter_eq_cons_iff] at keptTail
  obtain ⟨skipped, back, tailParts, noneSkipped, -, keptBack⟩ := keptTail
  refine ⟨head ++ skipped, back, ?_, ?_, ?_⟩
  · rw [whole, tailParts, List.append_assoc]
  · intro other member eligible
    rcases List.mem_append.mp member with early | passed
    · apply smaller other
      rw [← keptHead, List.mem_filter]
      exact ⟨early, decide_eq_true eligible⟩
    · exact absurd (decide_eq_true eligible) (noneSkipped other passed)
  · intro other member eligible
    apply notLarger other
    rw [← keptBack, List.mem_filter]
    exact ⟨member, decide_eq_true eligible⟩

theorem chosen_right (named : affinityIp ≠ some "")
    (chosen : pool.choose (pool.candidates exclude) affinityIp = some ip) :
    RightNode pool exclude affinityIp ip := by
  have eligible := eligible_of_chosen chosen
  cases affinityIp with
  | none =>
    refine ⟨eligible, ?_, fun _ => minBy_candidates chosen⟩
    intro affinity absent
    cases absent
  | some affinity =>
    have nonempty : affinity ≠ "" := fun blank => named (congrArg some blank)
    by_cases member : affinity ∈ pool.candidates exclude
    · have same : affinity = ip := by
        simpa only [choose, if_pos (And.intro nonempty member), Option.some.injEq] using chosen
      subst same
      refine ⟨eligible, ?_, ?_⟩
      · intro other present _
        exact Option.some.inj present
      · intro unfit
        exact absurd eligible (unfit affinity rfl)
    · have scanned : minBy pool.inFlight (pool.candidates exclude) = some ip := by
        simpa only [choose, if_neg (fun both => member (And.right both) : ¬(affinity ≠ "" ∧ _))] using chosen
      refine ⟨eligible, ?_, fun _ => minBy_candidates scanned⟩
      intro other present fit
      cases present
      exact absurd (mem_candidates_iff_eligible.mpr fit) member

theorem candidates_of_saturated
    (somebody : ∃ node ∈ pool.ips, node ∉ exclude ∧ node ∈ pool.healthy)
    (saturated : ∀ node ∈ pool.ips, node ∉ exclude → node ∈ pool.healthy →
      pool.parallel ≤ pool.inFlight node) :
    pool.candidates exclude = [] := by
  rw [candidates_eq_nil]
  intro node member
  have eligible := mem_candidates_iff_eligible.mp member
  obtain ⟨other, known, allowed, healthy⟩ := somebody
  rcases eligible.healthy with up | allDown
  · have full := saturated node eligible.known eligible.allowed up
    have free := eligible.free
    omega
  · exact allDown other known allowed healthy

end NodePool

namespace PoolSystem

def arguments : PoolEvent → Option (Finset String × Option String)
  | .acquire exclude affinityIp => some (exclude, affinityIp)
  | .wake waiter => some (waiter.exclude, waiter.affinityIp)
  | _ => none

/-- A blocked call waits with the arguments it was made with, however often it was woken. -/
theorem blocked_called {start s : PoolSystem} {events : List PoolEvent} (free : start.pool.locked = false)
    (ran : machine.run start events = some s) {waiter : Waiter} (member : waiter ∈ s.blocked) :
    (∃ first ∈ start.blocked, first.exclude = waiter.exclude ∧ first.affinityIp = waiter.affinityIp) ∨
      PoolEvent.acquire waiter.exclude waiter.affinityIp ∈ events := by
  induction events generalizing start with
  | nil =>
    cases ran
    exact Or.inl ⟨waiter, member, rfl, rfl⟩
  | cons event rest ih =>
    rw [Machine.run_cons, Option.bind_eq_some_iff] at ran
    obtain ⟨next, stepped, ran⟩ := ran
    obtain ⟨p, blocked, rfl, moves⟩ := moves_of_step free stepped
    rcases ih rfl ran with ⟨first, present, sameExclude, sameAffinity⟩ | later
    · -- a waiter after the step is one from before it, up to the future, or the call just made
      have older : (∃ earlier ∈ start.blocked,
          earlier.exclude = first.exclude ∧ earlier.affinityIp = first.affinityIp) ∨
          event = .acquire first.exclude first.affinityIp := by
        cases moves with
        | queued full queue =>
          rcases Multiset.mem_cons.mp present with rfl | before
          · exact Or.inr rfl
          · exact Or.inl ⟨first, before, rfl, rfl⟩
        | @requeued woken waiting full =>
          rcases Multiset.mem_cons.mp present with rfl | before
          · exact Or.inl ⟨woken, waiting, rfl, rfl⟩
          · exact Or.inl ⟨first, Multiset.mem_of_mem_erase before, rfl, rfl⟩
        | served => exact Or.inl ⟨first, Multiset.mem_of_mem_erase present, rfl, rfl⟩
        | withdrawn => exact Or.inl ⟨first, Multiset.mem_of_mem_erase present, rfl, rfl⟩
        | granted => exact Or.inl ⟨first, present, rfl, rfl⟩
        | rejected => exact Or.inl ⟨first, present, rfl, rfl⟩
        | released => exact Or.inl ⟨first, present, rfl, rfl⟩
        | evicted => exact Or.inl ⟨first, present, rfl, rfl⟩
        | probed => exact Or.inl ⟨first, present, rfl, rfl⟩
      rw [sameExclude, sameAffinity] at older
      rcases older with ⟨earlier, before, excludes, affinity⟩ | now
      · exact Or.inl ⟨earlier, before, excludes, affinity⟩
      · exact Or.inr (now ▸ List.mem_cons_self)
    · exact Or.inr (List.mem_cons_of_mem event later)

theorem reply_of_moves {s : PoolSystem} {p' : NodePool} {blocked' : Multiset Waiter} {event : PoolEvent}
    {exclude : Finset String} {affinityIp : Option String} {result : Acquired}
    (moves : Moves s.pool.value s.blocked event p' blocked') (asked : arguments event = some (exclude, affinityIp))
    (replied : s.reply event = some result) :
    (∃ ip, result = .granted ip ∧ s.pool.value.choose (s.pool.value.candidates exclude) affinityIp = some ip ∧
        p'.inFlight = Function.update s.pool.value.inFlight ip (s.pool.value.inFlight ip + 1)) ∨
      (s.pool.value.candidates exclude = [] ∧
        (result = .busy ∨ ∃ future, result = .blocked future ∧ ⟨future, exclude, affinityIp⟩ ∈ blocked')) := by
  cases moves with
  | @granted exclude' affinity' ip chosen =>
    cases asked
    rw [reply, NodePool.acquire_granted chosen] at replied
    cases replied
    exact Or.inl ⟨ip, rfl, chosen, rfl⟩
  | rejected full queue =>
    cases asked
    rw [reply, NodePool.acquire_busy full queue] at replied
    cases replied
    exact Or.inr ⟨full, Or.inl rfl⟩
  | queued full queue =>
    cases asked
    rw [reply, NodePool.acquire_blocked full queue] at replied
    cases replied
    exact Or.inr ⟨full, Or.inr ⟨_, rfl, Multiset.mem_cons_self _ _⟩⟩
  | @served waiter ip member chosen =>
    cases asked
    rw [reply, NodePool.wake_granted chosen] at replied
    cases replied
    exact Or.inl ⟨ip, rfl, chosen, rfl⟩
  | requeued member full =>
    cases asked
    rw [reply, NodePool.wake_blocked full] at replied
    cases replied
    exact Or.inr ⟨full, Or.inr ⟨_, rfl, Multiset.mem_cons_self _ _⟩⟩
  | withdrawn => cases asked
  | released => cases asked
  | evicted => cases asked
  | probed => cases asked

section
variable {ips : List String} {port parallel maxQueued : Int} {healthy : Finset String}

/-- In every run a call is granted the right node for the state of the pool at that moment, at its first try or at a
wake-up; while the healthy nodes it may use are all full, it waits or is rejected. -/
theorem grants_right_node {s next : PoolSystem} {events : List PoolEvent} {event : PoolEvent}
    {exclude : Finset String} {affinityIp : Option String} {result : Acquired}
    (ran : machine.run (new ips port parallel maxQueued healthy) events = some s)
    (stepped : machine.step s event = some next)
    (asked : arguments event = some (exclude, affinityIp)) (named : affinityIp ≠ some "")
    (replied : s.reply event = some result) :
    PoolEvent.acquire exclude affinityIp ∈ events ++ [event] ∧
      s.pool.value.ips = ips ∧ s.pool.value.parallel = parallel ∧
      (∀ ip, result = .granted ip → RightNode s.pool.value exclude affinityIp ip ∧
        next.pool.value.inFlight = Function.update s.pool.value.inFlight ip (s.pool.value.inFlight ip + 1)) ∧
      ((∃ node ∈ ips, node ∉ exclude ∧ node ∈ s.pool.value.healthy) →
        (∀ node ∈ ips, node ∉ exclude → node ∈ s.pool.value.healthy →
          parallel ≤ s.pool.value.inFlight node) →
        result = .busy ∨
          ∃ future, result = .blocked future ∧ ⟨future, exclude, affinityIp⟩ ∈ next.blocked) := by
  obtain ⟨free, accounted⟩ := accounted_reachable ⟨events, ran⟩
  obtain ⟨p', blocked', rfl, moves⟩ := moves_of_step free stepped
  have outcome := reply_of_moves moves asked replied
  have called : PoolEvent.acquire exclude affinityIp ∈ events ++ [event] := by
    cases event with
    | acquire =>
      cases asked
      exact List.mem_append_right events List.mem_cons_self
    | wake waiter =>
      cases asked
      have waiting : waiter ∈ s.blocked := by
        cases moves with
        | served member => exact member
        | requeued member => exact member
      rcases blocked_called rfl ran waiting with ⟨first, absent, -⟩ | earlier
      · exact absurd absent (Multiset.notMem_zero first)
      · exact List.mem_append_left [_] earlier
    | cancel => cases asked
    | release => cases asked
    | evict => cases asked
    | probed => cases asked
  refine ⟨called, accounted.ips_eq, accounted.parallel_eq, ?_, ?_⟩
  · intro ip granted
    rcases outcome with ⟨chosenIp, same, chosen, taken⟩ | ⟨-, busy | ⟨future, blocked, -⟩⟩
    · cases granted.symm.trans same
      exact ⟨NodePool.chosen_right named chosen, taken⟩
    · cases granted.symm.trans busy
    · cases granted.symm.trans blocked
  · intro somebody saturated
    have full : s.pool.value.candidates exclude = [] := by
      apply NodePool.candidates_of_saturated
      · rw [accounted.ips_eq]
        exact somebody
      · rw [accounted.ips_eq, accounted.parallel_eq]
        exact saturated
    rcases outcome with ⟨ip, -, chosen, -⟩ | ⟨-, rest⟩
    · rw [NodePool.choose_eq_none.mpr full] at chosen
      cases chosen
    · exact rest

theorem grants_right_node_woken :
    ∃ s, machine.run (new ["10.0.0.1"] 8080 1 5 {"10.0.0.1"})
        [.acquire ∅ none, .acquire ∅ none, .release "10.0.0.1"] = some s ∧
      RightNode s.pool.value ∅ none "10.0.0.1" := by
  refine ⟨_, rfl, ?_⟩
  have granted := @grants_right_node ["10.0.0.1"] 8080 1 5 {"10.0.0.1"} _ _
    [.acquire ∅ none, .acquire ∅ none, .release "10.0.0.1"] (.wake ⟨0, ∅, none⟩) ∅ none _
    rfl rfl rfl nofun rfl
  exact (granted.2.2.2.1 "10.0.0.1" rfl).1

end

end PoolSystem
end LlamacppRay.Gateway
