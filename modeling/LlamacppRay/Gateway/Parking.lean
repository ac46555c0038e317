import LlamacppRay.Gateway.Occupancy

/-! Calls parked in `acquire`. A call excludes one more node with every failed attempt and queues
with that exclude set, so a small pool can have no node left that the call would accept. -/

namespace LlamacppRay.Gateway
open LlamacppRay.Asyncio LlamacppRay.Automata

/-! ### What can still help a waiting call -/

def PoolEvent.Relief : PoolEvent → Prop
  | .release _ => True
  | .evict _ => True
  | .probed _ => True
  | _ => False

namespace PoolSystem

/-- There is a node for a call with this exclude set, and some releases and health updates make it
a candidate. -/
def Hopeful (s : PoolSystem) (exclude : Finset String) : Prop :=
  (∃ ip ∈ s.pool.value.ips, ip ∉ exclude) ∧ ∃ events last, (∀ event ∈ events, event.Relief) ∧
    machine.run s events = some last ∧ last.pool.value.candidates exclude ≠ []

/-- One release and one good probe are enough. -/
theorem hopeful_iff {parallel : Int} {s : PoolSystem} {exclude : Finset String}
    (free : s.pool.locked = false) (range : InRange parallel s.pool.value) :
    s.Hopeful exclude ↔ 1 ≤ parallel ∧ ∃ ip ∈ s.pool.value.ips, ip ∉ exclude := by
  constructor
  · intro ⟨allowed, events, last, _, ran, some_candidate⟩
    refine ⟨?_, allowed⟩
    obtain ⟨ip, member⟩ := List.exists_mem_of_ne_nil _ some_candidate
    have room := (NodePool.mem_candidates.mp member).2.1
    have after := (Machine.run_invariant (fun _ _ _ before stepped => inRange_step before stepped)
      ⟨free, range⟩ ran).2
    have counted := after.nonneg ip
    rw [after.parallel_eq] at room
    omega
  · intro ⟨slot, ip, known, allowed⟩
    obtain ⟨pool, blocked⟩ := s
    obtain ⟨p, rfl⟩ := Monitor.exists_unlocked free
    have before := range.le ip
    have fixed := range.parallel_eq
    simp only [Monitor.unlocked_value] at known before fixed
    have freed : (p.release ip).inFlight ip < (p.release ip).parallel := by
      simp only [NodePool.release_known known, Function.update_self, fixed]
      omega
    have candidate : ip ∈ NodePool.candidates
        { p.release ip with healthy := applyResults (p.release ip).healthy [(ip, true)] } exclude := by
      refine NodePool.mem_candidates.mpr ⟨⟨?_, allowed⟩, freed, Or.inl (Finset.mem_insert_self ip _)⟩
      simpa using known
    exact ⟨⟨ip, known, allowed⟩, [.release ip, .probed [(ip, true)]],
      ⟨Monitor.unlocked _, blocked⟩, by simp [PoolEvent.Relief], rfl, List.ne_nil_of_mem candidate⟩

end PoolSystem

/-! ### Exclude sets and attempts -/

/-- During an attempt: no more nodes are excluded than attempts have failed. -/
def Locals.Fair (locals : Locals) : Prop :=
  locals.excluded.card ≤ locals.attempt ∧ locals.attempt ≤ MAX_RETRIES

def Locals.Spent (locals : Locals) : Prop :=
  locals.excluded.card ≤ locals.attempt + 1 ∧ locals.attempt < MAX_RETRIES

theorem Locals.Fair.spent {locals : Locals} (fair : locals.Fair)
    (more : locals.attempt < MAX_RETRIES) (ip : String) :
    Locals.Spent { locals with excluded := insert ip locals.excluded } :=
  ⟨(Finset.card_insert_le ip locals.excluded).trans (Nat.succ_le_succ fair.1), more⟩

theorem Locals.Spent.fair {locals : Locals} (spent : locals.Spent) :
    Locals.Fair { locals with attempt := locals.attempt + 1 } :=
  ⟨spent.1, spent.2⟩

def Submit.Fair : Submit → Prop
  | .entering locals => locals.Fair
  | .acquiring locals _ => locals.Fair
  | .sending locals _ => locals.Fair
  | .sleeping locals => locals.Spent
  | _ => True

def Stream.Fair : Stream → Prop
  | .entering locals => locals.Fair
  | .acquiring locals _ => locals.Fair
  | .opening locals _ => locals.Fair
  | .reading locals _ _ _ => locals.Fair
  | .yielding locals _ _ _ => locals.Fair
  | .sleeping locals _ _ => locals.Spent
  | .closing locals _ .continuing => locals.Fair
  | .closing locals _ (.raising exn) => exn.isException = true → locals.Fair
  | _ => True

def Point.Fair : Point → Prop
  | .submit st => st.Fair
  | .stream st => st.Fair

theorem Submit.AtHead.fair {st : Submit} {r : Resume} {locals : Locals} (head : AtHead st r locals)
    (before : st.Fair) : locals.Fair := by
  cases head with
  | first => exact before
  | again => exact Locals.Spent.fair before

theorem Stream.AtHead.fair {st : Stream} {r : Resume} {locals : StreamLocals}
    (head : AtHead st r locals) (before : st.Fair) : locals.Fair := by
  cases head with
  | first => exact before
  | again => exact Locals.Spent.fair before
  | left => exact before

theorem Stream.Raises.fair {st : Stream} {r : Resume} {locals : StreamLocals} {ip : String}
    {exn : Exn} (raises : Raises st r locals ip exn) (caught : exn.isException = true)
    (before : st.Fair) : locals.Fair := by
  cases raises with
  | unopened => exact before
  | cancelled => exact before
  | closed => exact before caught

theorem Submit.Step.fair {p p' : NodePool} {st next : Submit} {r : Resume} {actions : List Action}
    (step : Submit.Step p st r p' next actions) (before : st.Fair) : next.Fair := by
  cases step with
  | granted head => exact head.fair before
  | queued head => exact head.fair before
  | served => exact before
  | requeued => exact before
  | rerouted outcome failure more => exact Locals.Fair.spent before more _
  | quiet ends => cases ends <;> trivial
  | _ => trivial

theorem Stream.Step.fair {p p' : NodePool} {st next : Stream} {r : Resume} {actions : List Action}
    (step : Stream.Step p st r p' next actions) (before : st.Fair) : next.Fair := by
  cases step with
  | granted head => exact head.fair before
  | queued head => exact head.fair before
  | served => exact before
  | requeued => exact before
  | accepted => exact before
  | refused => exact fun _ => before
  | turned failure status more => exact Locals.Fair.spent before more _
  | line => exact before
  | blank => exact before
  | pulled => exact before
  | severed => exact fun _ => before
  | rerouted raises silent more => exact Locals.Fair.spent (raises.fair rfl before) more _
  | interrupted interrupts =>
    cases interrupts with
    | reading => exact fun _ => before
    | closed => exact fun _ => before
    | thrown => exact fun _ => before
    | asleep => exact fun caught => Bool.noConfusion caught
  | quiet moves =>
    cases moves with
    | continued => exact Locals.Spent.fair before
    | _ => trivial
  | _ => trivial

theorem Point.Step.fair {p p' : NodePool} {point next : Point} {r : Resume} {actions : List Action}
    (step : Point.Step p point r p' next actions) (before : point.Fair) : next.Fair := by
  cases step with
  | submit step => exact step.fair before
  | stream step => exact step.fair before

theorem Point.Fair.waiter {point : Point} {waiter : Waiter} (fair : point.Fair)
    (waits : point.waiter = some waiter) :
    waiter.exclude.card ≤ MAX_RETRIES := by
  cases point with
  | submit st =>
    cases st with
    | acquiring locals future => cases waits; exact fair.1.trans fair.2
    | _ => cases waits
  | stream st =>
    cases st with
    | acquiring locals future => cases waits; exact fair.1.trans fair.2
    | _ => cases waits

namespace Router

theorem fair_reachable {hash : String → Int} {p : NodePool} {s : Router}
    (reached : (machine hash).Reaches ⟨Monitor.unlocked p, []⟩ s) {waiter : Waiter}
    (waits : waiter ∈ s.poolSystem.blocked) : waiter.exclude.card ≤ MAX_RETRIES := by
  have fresh : ∀ affinityIp, Locals.Fair ⟨affinityIp, ∅, 0⟩ := fun _ => ⟨le_rfl, Nat.zero_le _⟩
  obtain ⟨call, member, queued⟩ := List.mem_filterMap.mp (Multiset.mem_coe.mp waits)
  obtain ⟨index, found⟩ := List.mem_iff_getElem?.mp member
  have fair := @call_invariant hash p (fun call => call.point.Fair) ?_ ?_ ?_ s reached index call found
  · exact fair.waiter queued
  · intro p affinityKey
    exact Submit.start_cases (motive := Submit.Fair) fresh (fun _ => trivial) p hash affinityKey
  · intro p affinityKey
    exact Stream.start_cases (motive := Stream.Fair) fresh (fun _ => trivial) p hash affinityKey
  · intro p p' call r point actions before step
    exact step.fair before

end Router

/-! ### A call alone on a small pool -/

theorem NodePool.candidates_ne_nil {pool : NodePool} {exclude : Finset String} {ip : String}
    (known : ip ∈ pool.ips) (allowed : ip ∉ exclude)
    (free : ∀ ip, pool.inFlight ip < pool.parallel) :
    pool.candidates exclude ≠ [] := by
  by_cases up : ∃ other ∈ pool.ips, other ∉ exclude ∧ other ∈ pool.healthy
  · obtain ⟨other, there, permitted, healthy⟩ := up
    exact List.ne_nil_of_mem (mem_candidates.mpr ⟨⟨there, permitted⟩, free other, Or.inl healthy⟩)
  · have down : ∀ other ∈ pool.ips, other ∉ exclude → other ∉ pool.healthy :=
      fun other there permitted healthy => up ⟨other, there, permitted, healthy⟩
    exact List.ne_nil_of_mem (mem_candidates.mpr ⟨⟨known, allowed⟩, free ip, Or.inr down⟩)

theorem Submit.AtHead.resumed {st : Submit} {locals : Locals} (head : AtHead st .wake locals)
    (pool : Monitor NodePool) : st.resume pool .wake = loop pool locals := by
  cases head <;> rfl

namespace Router

structure Lone (ips : List String) (parallel maxQueued : Int) (locals : Locals) (s : Router) :
    Prop where
  alone : ∃ st log, s.calls = [⟨.submit st, log⟩] ∧ Submit.AtHead st .wake locals
  free : s.pool.locked = false
  ips_eq : s.pool.value.ips = ips
  parallel_eq : s.pool.value.parallel = parallel
  maxQueued_eq : s.pool.value.maxQueued = maxQueued
  waiting : s.pool.value.waiting = 0
  idle : ∀ ip, s.pool.value.inFlight ip = 0

section
variable {hash : String → Int} {ips : List String} {parallel maxQueued : Int} {locals : Locals}

theorem submit_step {pool pool' : Monitor NodePool} {st next : Submit} {log actions : List Action}
    {r : Resume} (resumed : st.resume pool r = some (pool', next, actions)) :
    (machine hash).step ⟨pool, [⟨.submit st, log⟩]⟩ (.resume 0 r) =
      some ⟨pool', [⟨.submit next, log ++ actions⟩]⟩ := by
  simp [machine, Router.step, Point.resume, resumed]

theorem Lone.retry {s : Router} (lone : s.Lone ips parallel maxQueued locals) (slot : 1 ≤ parallel)
    (more : locals.attempt < MAX_RETRIES) (allowed : ∃ ip ∈ ips, ip ∉ locals.excluded) :
    ∃ next ip, (machine hash).Reaches s next ∧ ip ∈ ips ∧ ip ∉ locals.excluded ∧
      next.Lone ips parallel maxQueued
        { locals with excluded := insert ip locals.excluded, attempt := locals.attempt + 1 } := by
  obtain ⟨⟨st, log, rfl_calls, head⟩, free, rfl, rfl, rfl, waiting, idle⟩ := lone
  obtain ⟨pool, calls⟩ := s
  obtain ⟨p, rfl⟩ := Monitor.exists_unlocked free
  obtain ⟨node, known, permitted⟩ := allowed
  simp only [Monitor.unlocked_value] at rfl_calls known slot waiting idle
  subst rfl_calls
  have some_candidate := NodePool.candidates_ne_nil known permitted fun ip => by rw [idle ip]; omega
  obtain ⟨ip, chosen⟩ : ∃ ip, p.choose (p.candidates locals.excluded) locals.affinityIp = some ip :=
    Option.ne_none_iff_exists'.mp fun nobody => some_candidate (NodePool.choose_eq_none.mp nobody)
  have there := NodePool.chosen_known chosen
  have fresh := NodePool.chosen_allowed chosen
  have granted : st.resume (Monitor.unlocked p) .wake = some (Monitor.unlocked (p.occupy ip),
      .sending locals ip, [.asked locals.excluded locals.affinityIp, .granted ip, .dispatched ip p.port]) := by
    simp only [head.resumed, Submit.loop, Monitor.critical_unlocked, NodePool.acquire_granted chosen]
    rfl
  have failed : (Submit.sending locals ip).resume (Monitor.unlocked (p.occupy ip))
      (.posted 0 (.error (.transport "All connection attempts failed"))) =
        some (Monitor.unlocked (((p.occupy ip).release ip).evict ip),
          .sleeping { locals with excluded := insert ip locals.excluded }, [.released ip, .evicted ip,
            .slept (backoff (tier (((p.occupy ip).release ip).evict ip) (insert ip locals.excluded))
              locals.attempt)]) := by
    simp only [Submit.resume, send, Submit.sent, Fault.exn, Monitor.update_unlocked, Option.bind_eq_bind,
      Option.bind_some, Submit.reroute, if_neg (Nat.not_le.mpr more)]
    rfl
  refine ⟨_, ip, Machine.Reaches.trans (.single (submit_step granted)) (.single (submit_step failed)),
    there, fresh, ⟨_, _, rfl, .again _⟩, rfl, ?_, ?_, ?_, ?_, ?_⟩
  · exact NodePool.release_ips _ ip
  · exact NodePool.release_parallel _ ip
  · exact NodePool.release_maxQueued _ ip
  · exact (NodePool.release_waiting _ ip).trans waiting
  · intro other
    have counted : 1 ≤ (p.occupy ip).inFlight ip := by simp [idle]
    have known_still : ip ∈ (p.occupy ip).ips := there
    calc ((p.occupy ip).release ip).inFlight other
        = (p.occupy ip).inFlight other - share (some ip) other :=
          NodePool.release_inFlight_share known_still counted other
      _ = p.inFlight other := by
          rw [NodePool.occupy_inFlight_share]
          omega
      _ = 0 := idle other

theorem Lone.park {s : Router} (lone : s.Lone ips parallel maxQueued locals) (queue : 0 < maxQueued)
    (full : s.pool.value.candidates locals.excluded = []) :
    ∃ next, (machine hash).Reaches s next ∧ next.pool.value.ips = ips ∧
      ∃ waiter ∈ next.poolSystem.blocked, waiter.exclude = locals.excluded := by
  obtain ⟨⟨st, log, rfl_calls, head⟩, free, rfl, rfl, rfl, waiting, idle⟩ := lone
  obtain ⟨pool, calls⟩ := s
  obtain ⟨p, rfl⟩ := Monitor.exists_unlocked free
  simp only [Monitor.unlocked_value] at rfl_calls full waiting queue
  subst rfl_calls
  have parked : st.resume (Monitor.unlocked p) .wake = some (Monitor.unlocked p.enqueue.park,
      .acquiring locals p.cond.fresh, [.asked locals.excluded locals.affinityIp, .queued]) := by
    simp only [head.resumed, Submit.loop, Monitor.critical_unlocked,
      NodePool.acquire_blocked full (by omega : p.waiting < p.maxQueued)]
    rfl
  refine ⟨_, .single (submit_step parked), rfl, ⟨p.cond.fresh, locals.excluded, locals.affinityIp⟩, ?_, rfl⟩
  simp [poolSystem, blocked, Point.waiter, Submit.waiter]

theorem Lone.exhaust (slot : 1 ≤ parallel) (left : Nat) : ∀ {locals : Locals} {s : Router},
    s.Lone ips parallel maxQueued locals → (ips.toFinset \ locals.excluded).card = left →
      locals.attempt + left ≤ MAX_RETRIES →
        ∃ next locals', (machine hash).Reaches s next ∧ next.Lone ips parallel maxQueued locals' ∧
          ips.toFinset ⊆ locals'.excluded := by
  induction left with
  | zero =>
    intro locals s lone none_left enough
    refine ⟨s, locals, .refl _ s, lone, ?_⟩
    exact Finset.sdiff_eq_empty_iff_subset.mp (Finset.card_eq_zero.mp none_left)
  | succ left ih =>
    intro locals s lone some_left enough
    obtain ⟨node, member⟩ := Finset.card_pos.mp (by omega : 0 < (ips.toFinset \ locals.excluded).card)
    obtain ⟨there, permitted⟩ := Finset.mem_sdiff.mp member
    obtain ⟨middle, ip, reached, known, fresh, again⟩ :=
      lone.retry slot (by omega) ⟨node, List.mem_toFinset.mp there, permitted⟩
    have fewer : (ips.toFinset \ insert ip locals.excluded).card = left := by
      rw [Finset.sdiff_insert, Finset.card_erase_of_mem, some_left]
      · rfl
      · exact Finset.mem_sdiff.mpr ⟨List.mem_toFinset.mpr known, fresh⟩
    obtain ⟨last, locals', further, lone', all⟩ := ih again fewer (by simp only; omega)
    exact ⟨last, locals', reached.trans further, lone', all⟩

theorem lone_submitted {port : Int} {healthy : Finset String} :
    ∃ s, (machine hash).Reaches (new ips port parallel maxQueued healthy) s ∧
      s.Lone ips parallel maxQueued ⟨none, ∅, 0⟩ :=
  ⟨_, @Machine.Reaches.single _ _ _ _ _ (.submit none) rfl,
    ⟨_, _, rfl, .first _⟩, rfl, rfl, rfl, rfl, rfl, fun _ => rfl⟩

theorem hopeful_reachable_iff {port : Int} {healthy : Finset String} :
    (∀ s, (machine hash).Reaches (new ips port parallel maxQueued healthy) s →
      ∀ waiter ∈ s.poolSystem.blocked, s.poolSystem.Hopeful waiter.exclude) ↔
    maxQueued ≤ 0 ∨ (1 ≤ parallel ∧ MAX_RETRIES < ips.toFinset.card) := by
  constructor
  · intro always
    by_contra narrow
    have queue : 0 < maxQueued := by omega
    have hopeless : ∀ {locals : Locals} {s : Router},
        (machine hash).Reaches (new ips port parallel maxQueued healthy) s →
          s.Lone ips parallel maxQueued locals → s.pool.value.candidates locals.excluded = [] →
            1 ≤ parallel ∧ ∃ ip ∈ ips, ip ∉ locals.excluded := by
      intro locals s reached lone full
      obtain ⟨next, parked, same, waiter, waits, excluded⟩ := lone.park queue full
      obtain ⟨free, there⟩ := poolSystem_reachable (reached.trans parked)
      have hopeful := (PoolSystem.hopeful_iff free (PoolSystem.inRange_reachable there)).mp
        (always next (reached.trans parked) waiter waits)
      rw [excluded] at hopeful
      rwa [show next.poolSystem.pool.value.ips = ips from same] at hopeful
    obtain ⟨s, reached, lone⟩ := @lone_submitted hash ips parallel maxQueued port healthy
    by_cases slot : 1 ≤ parallel
    · have few : (ips.toFinset \ ∅).card ≤ MAX_RETRIES := by
        rw [Finset.sdiff_empty]
        omega
      obtain ⟨last, locals, further, lone', all⟩ := lone.exhaust slot _ rfl (by simp only; omega)
      have full : last.pool.value.candidates locals.excluded = [] := by
        rw [NodePool.candidates_eq_nil]
        intro ip member
        obtain ⟨⟨known, allowed⟩, -⟩ := NodePool.mem_candidates.mp member
        rw [lone'.ips_eq] at known
        exact allowed (all (List.mem_toFinset.mpr known))
      obtain ⟨-, ip, known, allowed⟩ := hopeless (reached.trans further) lone' full
      exact allowed (all (List.mem_toFinset.mpr known))
    · have full : s.pool.value.candidates ∅ = [] := by
        rw [NodePool.candidates_eq_nil]
        intro ip member
        obtain ⟨-, room, -⟩ := NodePool.mem_candidates.mp member
        rw [lone.idle ip, lone.parallel_eq] at room
        omega
      exact slot (hopeless reached lone full).1
  · intro wide s reached waiter waits
    obtain ⟨free, there⟩ := poolSystem_reachable reached
    have accounted := (PoolSystem.accounted_reachable there).2
    rw [PoolSystem.hopeful_iff free (PoolSystem.inRange_reachable there)]
    rcases wide with closed | ⟨slot, many⟩
    · have waiting := accounted.waiting
      have bounded := accounted.bounded
      have positive := Multiset.card_pos_iff_exists_mem.mpr ⟨waiter, waits⟩
      omega
    · refine ⟨slot, ?_⟩
      have fewer : waiter.exclude.card < ips.toFinset.card :=
        Nat.lt_of_le_of_lt (fair_reachable reached waits) many
      obtain ⟨ip, known, allowed⟩ := Finset.exists_mem_notMem_of_card_lt_card fewer
      refine ⟨ip, ?_, allowed⟩
      rw [accounted.ips_eq]
      exact List.mem_toFinset.mp known

end

/-- No request of a pool that `_make_pool` builds is ever parked with nowhere to go if and only if
nothing can queue, or there are slots and more nodes than a request has retries. -/
theorem never_parked_iff {hash : String → Int} (ipsCsv : String) (port parallel maxQueued : Int)
    (healthy : Finset String) :
    (∀ s, (machine hash).Reaches
        ⟨Monitor.unlocked (NodePool.makePool ipsCsv port parallel maxQueued healthy), []⟩ s →
      ∀ waiter ∈ s.poolSystem.blocked, s.poolSystem.Hopeful waiter.exclude) ↔
    maxQueued ≤ 0 ∨ (1 ≤ parallel ∧
      MAX_RETRIES < (NodePool.makePool ipsCsv port parallel maxQueued healthy).ips.toFinset.card) :=
  hopeful_reachable_iff

/-- The only node fails once; the retry then waits for a node outside its exclude set for good. -/
theorem retry_parked_on_single_node : ¬∀ s, (machine fun _ => 0).Reaches
      ⟨Monitor.unlocked (NodePool.makePool "10.0.0.1" 8080 1 20 ∅), []⟩ s →
    ∀ waiter ∈ s.poolSystem.blocked, s.poolSystem.Hopeful waiter.exclude := by
  intro always
  have parked : (((machine fun _ => 0).run ⟨Monitor.unlocked (NodePool.makePool "10.0.0.1" 8080 1 20 ∅), []⟩
    [.submit none, .resume 0 .wake, .resume 0 (.posted 0 (.error (.transport "connection refused"))),
      .resume 0 .wake]).any fun s =>
        ¬∀ waiter ∈ s.poolSystem.blocked, ∃ ip ∈ s.pool.value.ips, ip ∉ waiter.exclude) = true := by decide
  obtain ⟨s, ran, nowhere⟩ := Machine.run_of_any _ parked
  refine of_decide_eq_true nowhere fun waiter waits => ?_
  exact (always s ⟨_, ran⟩ waiter waits).1

end Router
end LlamacppRay.Gateway
