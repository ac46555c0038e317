import LlamacppRay.Automata.Tasks
import LlamacppRay.Gateway.Slots

/-! The counters of the pool against the slots of the calls: `in_flight` is exactly what the calls
hold, so no node is given more than `parallel` of them and no release is clamped. -/

namespace LlamacppRay.Gateway
open LlamacppRay.Asyncio LlamacppRay.Automata

namespace NodePool

theorem occupy_inFlight_share (pool : NodePool) (ip other : String) :
    (pool.occupy ip).inFlight other = pool.inFlight other + share (some ip) other := by
  by_cases same : other = ip
  · subst same
    simp
  · simp [share, same, Ne.symm same]

/-- The clamp of `release` does nothing where a slot is counted. -/
theorem release_inFlight_share {pool : NodePool} {ip : String} (known : ip ∈ pool.ips)
    (counted : 1 ≤ pool.inFlight ip) (other : String) :
    (pool.release ip).inFlight other = pool.inFlight other - share (some ip) other := by
  by_cases same : other = ip
  · subst same
    simp only [release_known known, Function.update_self, share_self]
    omega
  · simp [release_known known, share, same, Ne.symm same]

end NodePool

/-! ### Capacity -/

namespace PoolSystem

structure InRange (parallel : Int) (p : NodePool) : Prop where
  parallel_eq : p.parallel = parallel
  nonneg : ∀ ip, 0 ≤ p.inFlight ip
  le : ∀ ip, p.inFlight ip ≤ max 0 parallel

section
variable {parallel : Int} {p : NodePool}

theorem InRange.occupy {exclude : Finset String} {affinityIp : Option String} {ip : String}
    (range : InRange parallel p) (chosen : p.choose (p.candidates exclude) affinityIp = some ip) :
    InRange parallel (p.occupy ip) := by
  have room := NodePool.chosen_free chosen
  rw [range.parallel_eq] at room
  refine ⟨range.parallel_eq, fun other => ?_, fun other => ?_⟩
  · have before := range.nonneg other
    have more := share_nonneg (some ip) other
    rw [NodePool.occupy_inFlight_share]
    omega
  · have before := range.le other
    rw [NodePool.occupy_inFlight_share, share]
    split
    next same =>
      cases same
      omega
    next => omega

theorem InRange.release (range : InRange parallel p) (ip : String) :
    InRange parallel (p.release ip) := by
  by_cases known : ip ∈ p.ips
  · rw [NodePool.release_known known]
    refine ⟨range.parallel_eq, fun other => ?_, fun other => ?_⟩
    · by_cases same : other = ip
      · subst same
        simp only [Function.update_self]
        exact le_max_left _ _
      · simpa only [Function.update_of_ne same] using range.nonneg other
    · have before := range.le other
      by_cases same : other = ip
      · subst same
        simp only [Function.update_self]
        omega
      · simpa only [Function.update_of_ne same] using before
  · rw [NodePool.release_unknown known]
    exact range

end

theorem inRange_step {parallel : Int} {s next : PoolSystem} {event : PoolEvent}
    (before : s.pool.locked = false ∧ InRange parallel s.pool.value)
    (stepped : machine.step s event = some next) :
    next.pool.locked = false ∧ InRange parallel next.pool.value := by
  obtain ⟨free, range⟩ := before
  obtain ⟨p', blocked', rfl, moves⟩ := moves_of_step free stepped
  refine ⟨rfl, ?_⟩
  cases moves with
  | granted chosen => exact range.occupy chosen
  | @served waiter ip member chosen =>
    have untouched : InRange parallel (s.pool.value.cancelWait waiter.future) := ⟨range.1, range.2, range.3⟩
    exact untouched.occupy chosen
  | released ip => exact range.release ip
  | rejected => exact range
  | _ => exact ⟨range.1, range.2, range.3⟩

theorem inRange_reachable {ips : List String} {port parallel maxQueued : Int}
    {healthy : Finset String} {s : PoolSystem}
    (reached : machine.Reaches (new ips port parallel maxQueued healthy) s) :
    InRange parallel s.pool.value := by
  have start : InRange parallel (new ips port parallel maxQueued healthy).pool.value :=
    ⟨rfl, fun _ => le_rfl, fun _ => le_max_left 0 parallel⟩
  exact (reached.invariant (fun _ _ _ before stepped => inRange_step before stepped) ⟨rfl, start⟩).2

end PoolSystem

/-! ### One stretch of one call -/

theorem neutral_of_aside {actions : List Action} (aside : Aside actions) : Neutral actions :=
  fun _ => ⟨fun member => aside _ member, fun member => aside _ member⟩

theorem Turnover.held_of_released {ips : List String} {before after : Option String} {ip : String}
    {actions : List Action} (turnover : Turnover ips before actions after)
    (member : .released ip ∈ actions) :
    before = some ip := by
  cases turnover with
  | kept neutral => exact absurd member (neutral ip).2
  | taken known neutral =>
    have unreleased := (neutral ip).2
    simp only [List.mem_cons, not_or, reduceCtorEq, false_or] at unreleased member
    rcases member with first | rest
    · exact absurd first unreleased.1
    · exact absurd rest unreleased.2
  | dropped neutral =>
    rcases List.mem_cons.mp member with same | rest
    · cases same
      rfl
    · exact absurd rest (neutral ip).2

section
variable {p p' : NodePool} {before after : Option Waiter} {actions : List Action}

theorem Effect.inFlight (effect : Effect p before p' after actions)
    (counted : ∀ ip, .released ip ∈ actions → ip ∈ p.ips ∧ 1 ≤ p.inFlight ip) (ip : String) :
    p'.inFlight ip = p.inFlight ip + slots actions ip := by
  cases effect with
  | none aside => rw [neutral_slots (neutral_of_aside aside), add_zero]
  | @granted exclude affinityIp chosen_ip chosen =>
    rw [NodePool.occupy_inFlight_share, ← slots_granted]
    simp [slots, List.count_cons]
  | @served waiter chosen_ip chosen =>
    rw [NodePool.occupy_inFlight_share, ← slots_granted]
    simp [slots, List.count_cons, NodePool.cancelWait, NodePool.dequeue, NodePool.unpark]
  | released other =>
    obtain ⟨known, holds⟩ := counted other List.mem_cons_self
    rw [NodePool.release_inFlight_share known holds, sub_eq_add_neg, ← slots_released]
    simp [slots, List.count_cons]
  | rerouted other pause =>
    obtain ⟨known, holds⟩ := counted other List.mem_cons_self
    rw [show ((p.release other).evict other).inFlight = (p.release other).inFlight from rfl,
      NodePool.release_inFlight_share known holds, sub_eq_add_neg, ← slots_released]
    simp [slots, List.count_cons]
  | rejected => rw [neutral_slots (by simp [Neutral]), add_zero]
  | _ => rw [neutral_slots (by simp [Neutral]), add_zero]; rfl

end

theorem Call.Owns.turnover {ips : List String} {call : Call} {held held' : Option String}
    {actions : List Action} {next : Point} (owns : call.Owns ips held)
    (turnover : Turnover ips held actions held') (shown : held' = next.held ∨ next.Over) :
    Call.Owns ips ⟨next, call.log ++ actions⟩ held' where
  shown := shown
  slots_eq := by
    intro ip
    rw [slots_append, owns.slots_eq]
    exact turnover.slots_eq ip
  known := by
    intro ip same
    cases turnover with
    | kept => exact owns.known ip same
    | taken known => cases same; exact known
    | dropped => cases same
  matched := turnover.matched owns.matched owns.slots_eq

theorem Call.Owns.step {p p' : NodePool} {call : Call} {held : Option String} {r : Resume}
    {next : Point} {actions : List Action} (owns : call.Owns p.ips held)
    (step : Point.Step p call.point r p' next actions) :
    ∃ held', Turnover p.ips held actions held' ∧
      Call.Owns p.ips ⟨next, call.log ++ actions⟩ held' := by
  rcases owns.shown with shown | ended
  · by_cases loses : call.point.Loses r
    · obtain ⟨neutral, ended, -⟩ := step.lost loses
      exact ⟨held, .kept neutral, owns.turnover (.kept neutral) (Or.inr ended)⟩
    · have turnover := step.turnover loses
      rw [← shown] at turnover
      exact ⟨next.held, turnover, owns.turnover turnover (Or.inl rfl)⟩
  · obtain ⟨neutral, ended⟩ := step.stays_over ended
    exact ⟨held, .kept neutral, owns.turnover (.kept neutral) (Or.inr ended)⟩

theorem Call.Owns.idle {ips : List String} {point : Point} (nothing : point.held = none) :
    Call.Owns ips ⟨point, []⟩ none where
  shown := Or.inl nothing.symm
  slots_eq := fun _ => rfl
  known := by
    intro ip same
    cases same
  matched := by
    intro before ip after split
    simp at split

theorem Submit.start_held (p : NodePool) (hash : String → Int) (affinityKey : Option String) :
    (Submit.start p hash affinityKey).held = none :=
  Submit.start_cases (motive := fun st => st.held = none) (fun _ => rfl) (fun _ => rfl) p hash affinityKey

theorem Stream.start_held (p : NodePool) (hash : String → Int) (affinityKey : Option String) :
    (Stream.start p hash affinityKey).held = none :=
  Stream.start_cases (motive := fun st => st.held = none) (fun _ => rfl) (fun _ => rfl) p hash affinityKey

/-! ### Whole runs -/

namespace Router

/-- The counters of the pool are what they were at first and what the calls hold on top. -/
structure Balanced (base : String → Int) (ips : List String) (s : Router) : Prop where
  free : s.pool.locked = false
  ips_eq : s.pool.value.ips = ips
  owns : ∀ call ∈ s.calls, ∃ held, call.Owns ips held
  inFlight : ∀ ip, s.pool.value.inFlight ip = base ip + (s.calls.map fun call => slots call.log ip).sum

section
variable {base : String → Int} {ips : List String} {s : Router}

theorem Balanced.slots_range (balanced : s.Balanced base ips) {call : Call}
    (member : call ∈ s.calls) (ip : String) :
    slots call.log ip = 0 ∨ slots call.log ip = 1 := by
  obtain ⟨held, owns⟩ := balanced.owns call member
  rw [owns.slots_eq, share]
  split
  · exact Or.inr rfl
  · exact Or.inl rfl

theorem Balanced.slots_nonneg (balanced : s.Balanced base ips) (ip : String) :
    ∀ call ∈ s.calls, 0 ≤ slots call.log ip := by
  intro call member
  rcases balanced.slots_range member ip with none_held | one_held <;> omega

theorem Balanced.counted (balanced : s.Balanced base ips) (start : ∀ ip, 0 ≤ base ip) {index : Nat}
    {call : Call} (running : s.calls[index]? = some call) (ip : String) :
    slots call.log ip ≤ s.pool.value.inFlight ip := by
  have one := Tasks.le_sum (balanced.slots_nonneg ip) running
  have first := start ip
  rw [balanced.inFlight ip]
  omega

theorem Balanced.released (balanced : s.Balanced base ips) (start : ∀ ip, 0 ≤ base ip) {index : Nat}
    {call : Call} {held held' : Option String} {actions : List Action}
    (running : s.calls[index]? = some call) (owns : call.Owns ips held)
    (turnover : Turnover ips held actions held') {ip : String} (member : .released ip ∈ actions) :
    ip ∈ ips ∧ 1 ≤ s.pool.value.inFlight ip := by
  have holder := turnover.held_of_released member
  have one := balanced.counted start running ip
  rw [owns.slots_eq, holder, share_self] at one
  exact ⟨owns.known ip holder, one⟩

theorem Balanced.started (balanced : s.Balanced base ips) {point : Point}
    (nothing : point.held = none) :
    Balanced base ips ⟨Monitor.unlocked s.pool.value, s.calls ++ [⟨point, []⟩]⟩ where
  free := rfl
  ips_eq := balanced.ips_eq
  owns := by
    intro call member
    rcases List.mem_append.mp member with old | new
    · exact balanced.owns call old
    · rw [List.mem_singleton.mp new]
      exact ⟨none, .idle nothing⟩
  inFlight := by
    intro ip
    rw [List.map_append, List.sum_append]
    exact (balanced.inFlight ip).trans (by simp [slots])

theorem Balanced.resumed (balanced : s.Balanced base ips) (start : ∀ ip, 0 ≤ base ip) {index : Nat}
    {call : Call} {r : Resume} {p' : NodePool} {point : Point} {actions : List Action}
    (running : s.calls[index]? = some call)
    (step : Point.Step s.pool.value call.point r p' point actions) :
    Balanced base ips ⟨Monitor.unlocked p', s.calls.set index ⟨point, call.log ++ actions⟩⟩ ∧
      ∀ ip, .released ip ∈ actions → 1 ≤ s.pool.value.inFlight ip ∧
        p'.inFlight ip = s.pool.value.inFlight ip - 1 := by
  obtain ⟨held, owns⟩ := balanced.owns call (Tasks.mem_of_running running)
  rw [← balanced.ips_eq] at owns
  obtain ⟨held', turnover, owns'⟩ := owns.step step
  rw [balanced.ips_eq] at owns owns' turnover
  have counted : ∀ ip, .released ip ∈ actions → ip ∈ s.pool.value.ips ∧ 1 ≤ s.pool.value.inFlight ip := by
    intro ip member
    rw [balanced.ips_eq]
    exact balanced.released start running owns turnover member
  have moved := step.effect.inFlight counted
  constructor
  · refine ⟨rfl, step.effect.ips.trans balanced.ips_eq, Tasks.forall_mem_set balanced.owns ⟨held', owns'⟩, ?_⟩
    intro ip
    have before := balanced.inFlight ip
    rw [Tasks.sum_running (fun call => slots call.log ip) running] at before
    have now := Tasks.sum_set (fun call => slots call.log ip) (Tasks.bound_of_running running)
      ⟨point, call.log ++ actions⟩
    calc p'.inFlight ip = s.pool.value.inFlight ip + slots actions ip := moved ip
      _ = base ip + (slots (call.log ++ actions) ip +
            ((s.calls.eraseIdx index).map fun call => slots call.log ip).sum) := by
          rw [before, slots_append]
          ring
      _ = _ := by rw [now]
  · intro ip member
    have given := turnover.slots_eq ip
    have holder := turnover.held_of_released member
    cases turnover with
    | kept neutral => exact absurd member (neutral ip).2
    | taken => cases holder
    | dropped neutral =>
      rw [holder, share_self, share_none] at given
      have after := moved ip
      exact ⟨(counted ip member).2, by omega⟩

theorem Balanced.step {hash : String → Int} {next : Router} {event : RouterEvent}
    (balanced : s.Balanced base ips) (start : ∀ ip, 0 ≤ base ip)
    (stepped : (machine hash).step s event = some next) :
    next.Balanced base ips ∧ ∀ ip, .released ip ∈ s.actions event → 1 ≤ s.pool.value.inFlight ip ∧
      next.pool.value.inFlight ip = s.pool.value.inFlight ip - 1 := by
  obtain ⟨p', calls', rfl, moves⟩ := moves_of_step balanced.free stepped
  generalize s.actions event = actions at moves
  have silent : ∀ {after : Router}, after.Balanced base ips → after.Balanced base ips ∧
      ∀ ip, Action.released ip ∈ [] → 1 ≤ s.pool.value.inFlight ip ∧
        after.pool.value.inFlight ip = s.pool.value.inFlight ip - 1 :=
    fun kept => ⟨kept, fun ip member => absurd member List.not_mem_nil⟩
  cases moves with
  | submitted affinityKey => exact silent (balanced.started (Submit.start_held _ hash affinityKey))
  | streamed affinityKey => exact silent (balanced.started (Stream.start_held _ hash affinityKey))
  | resumed running step => exact balanced.resumed start running step
  | evicted ip => exact silent ⟨rfl, balanced.ips_eq, balanced.owns, balanced.inFlight⟩
  | probed results => exact silent ⟨rfl, balanced.ips_eq, balanced.owns, balanced.inFlight⟩

theorem balanced_idle {p : NodePool} : Balanced p.inFlight p.ips ⟨Monitor.unlocked p, []⟩ where
  free := rfl
  ips_eq := rfl
  owns := by simp
  inFlight := by simp

theorem balanced_reachable {hash : String → Int} {p : NodePool} (start : ∀ ip, 0 ≤ p.inFlight ip)
    (reached : (machine hash).Reaches ⟨Monitor.unlocked p, []⟩ s) : s.Balanced p.inFlight p.ips :=
  reached.invariant (fun _ _ _ balanced stepped => (balanced.step start stepped).1) balanced_idle

end

/-- No node is ever over-committed, no call gives back a slot it does not hold, and the clamp of
`release` never fires. -/
theorem never_over_committed {hash : String → Int} {ips : List String}
    {port parallel maxQueued : Int} {healthy : Finset String} {s : Router} (room : 1 ≤ parallel)
    (reached : (machine hash).Reaches (new ips port parallel maxQueued healthy) s) :
    (∀ ip, (s.calls.countP fun call => 0 < slots call.log ip) = s.pool.value.inFlight ip ∧
      0 ≤ s.pool.value.inFlight ip ∧ s.pool.value.inFlight ip ≤ parallel) ∧
    (∀ call ∈ s.calls, Matched call.log) ∧
    ∀ event next, (machine hash).step s event = some next → ∀ ip, .released ip ∈ s.actions event →
      1 ≤ s.pool.value.inFlight ip ∧
        next.pool.value.inFlight ip = s.pool.value.inFlight ip - 1 := by
  have start : ∀ ip, 0 ≤ (NodePool.new ips port parallel maxQueued healthy).inFlight ip := fun _ => le_rfl
  have balanced := balanced_reachable start reached
  refine ⟨fun ip => ⟨?_, ?_⟩, ?_, ?_⟩
  · rw [Tasks.countP_eq_sum fun call member => balanced.slots_range member ip, balanced.inFlight ip]
    exact (zero_add _).symm
  · have range := PoolSystem.inRange_reachable (poolSystem_reachable reached).2
    have bound := range.le ip
    rw [max_eq_right (by omega)] at bound
    exact ⟨range.nonneg ip, bound⟩
  · intro call member
    obtain ⟨held, owns⟩ := balanced.owns call member
    exact owns.matched
  · intro event next stepped
    exact (balanced.step start stepped).2

theorem never_over_committed_one_call : ∃ s, (machine fun _ => 0).run (new ["10.0.0.1"] 8080 1 1 ∅)
      [.submit none, .resume 0 .wake] = some s ∧
    (s.calls.countP fun call => 0 < slots call.log "10.0.0.1") = s.pool.value.inFlight "10.0.0.1" ∧
      s.pool.value.inFlight "10.0.0.1" = 1 := by
  have dispatched : (((machine fun _ => 0).run (new ["10.0.0.1"] 8080 1 1 ∅) [.submit none, .resume 0 .wake]).any
    fun s => s.pool.value.inFlight "10.0.0.1" = 1) = true := by decide
  obtain ⟨s, ran, one⟩ := Machine.run_of_any _ dispatched
  exact ⟨s, ran, ((never_over_committed (by decide) ⟨_, ran⟩).1 "10.0.0.1").1, of_decide_eq_true one⟩

end Router
end LlamacppRay.Gateway
