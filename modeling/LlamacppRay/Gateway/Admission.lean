import LlamacppRay.Gateway.Leaks
import LlamacppRay.Gateway.Parking

/-! What a pool admits and what becomes of the calls it has admitted: how many there are at most, when a call is
turned away, that a queued call is only ever waiting for others to finish, and what a lost slot does to its node. -/

namespace LlamacppRay.Gateway
open LlamacppRay.Asyncio LlamacppRay.Automata

/-- The call waits in the queue or holds a slot of one of these nodes. -/
def Call.admitted (ips : List String) (call : Call) : Bool :=
  call.point.waiter.isSome || ips.any fun ip => 0 < slots call.log ip

namespace Router

/-! ### How many calls are admitted -/

section
variable {hash : String → Int} {ips : List String} {port parallel maxQueued : Int} {healthy : Finset String}
  {s : Router}

theorem inRange (reached : (machine hash).Reaches (new ips port parallel maxQueued healthy) s) :
    PoolSystem.InRange parallel s.pool.value :=
  PoolSystem.inRange_reachable (poolSystem_reachable reached).2

end
end Router

theorem Effect.full {p p' : NodePool} {before after : Option Waiter} {actions : List Action}
    (effect : Effect p before p' after actions) (rejected : .rejected ∈ actions) :
    ∃ exclude affinityIp, .asked exclude affinityIp ∈ actions ∧ p.candidates exclude = [] ∧
      p.maxQueued ≤ p.waiting := by
  cases effect with
  | none aside => exact (aside _ rejected).elim
  | @rejected exclude affinityIp full queue => exact ⟨exclude, affinityIp, List.mem_cons_self, full, queue⟩
  | _ => simp at rejected

namespace Router
variable {hash : String → Int} {ips : List String} {port parallel maxQueued : Int} {healthy : Finset String}
  {s next : Router} {event : RouterEvent}

end Router

/-! ### What a queued call waits for -/

namespace PoolSystem

/-- A queued call that has not been notified, and does not exclude every node, waits for a slot to be released. -/
def Awaited (s : PoolSystem) : Prop :=
  ∀ waiter ∈ s.blocked, waiter.future ∈ s.pool.value.cond.pending →
    (∃ ip ∈ s.pool.value.ips, ip ∉ waiter.exclude) → ∃ ip, 0 < s.pool.value.inFlight ip

theorem InRange.taken {parallel : Int} {p : NodePool} (range : InRange parallel p) (room : 1 ≤ parallel)
    {exclude : Finset String} (full : p.candidates exclude = []) (usable : ∃ ip ∈ p.ips, ip ∉ exclude) :
    ∃ ip, 0 < p.inFlight ip := by
  by_contra idle
  obtain ⟨ip, known, allowed⟩ := usable
  refine NodePool.candidates_ne_nil known allowed (fun other => ?_) full
  have bound : ¬0 < p.inFlight other := fun taken => idle ⟨other, taken⟩
  rw [range.parallel_eq]
  omega

theorem Awaited.step {ips : List String} {parallel maxQueued : Int} {s next : PoolSystem} {event : PoolEvent}
    (room : 1 ≤ parallel) (free : s.pool.locked = false) (range : InRange parallel s.pool.value)
    (accounted : Accounted ips parallel maxQueued s.pool.value s.blocked) (awaited : s.Awaited)
    (stepped : machine.step s event = some next) : next.Awaited := by
  obtain ⟨p', blocked', rfl, moves⟩ := moves_of_step free stepped
  have older : ∀ {waiter : Waiter}, waiter ∈ s.blocked →
      waiter.future ∈ insert s.pool.value.cond.fresh s.pool.value.cond.pending →
        waiter.future ∈ s.pool.value.cond.pending := by
    intro waiter member pending
    refine Finset.mem_of_mem_insert_of_ne pending ?_
    exact (accounted.issued waiter member).ne
  intro waiter member pending usable
  cases moves with
  | @granted _ _ ip chosen =>
    have counted := range.nonneg ip
    refine ⟨ip, ?_⟩
    simp only [Monitor.unlocked_value, NodePool.occupy_inFlight, Function.update_self]
    omega
  | rejected full queue => exact awaited waiter member pending usable
  | queued full queue =>
    rcases Multiset.mem_cons.mp member with rfl | there
    · exact range.taken room full usable
    · exact awaited waiter there (older there pending) usable
  | @served other ip among chosen =>
    have counted := range.nonneg ip
    refine ⟨ip, ?_⟩
    simp only [Monitor.unlocked_value, NodePool.occupy_inFlight, Function.update_self, NodePool.cancelWait]
    show 0 < s.pool.value.inFlight ip + 1
    omega
  | @requeued other among full =>
    rcases Multiset.mem_cons.mp member with rfl | there
    · exact range.taken room full usable
    · have was := Multiset.mem_of_mem_erase there
      refine awaited waiter was (older was ?_) usable
      exact Finset.insert_subset_insert _ (Finset.erase_subset _ _) pending
  | withdrawn among =>
    exact awaited waiter (Multiset.mem_of_mem_erase member) (Finset.mem_of_mem_erase pending) usable
  | released ip =>
    by_cases known : ip ∈ s.pool.value.ips
    · simp only [Monitor.unlocked_value, NodePool.release_known known, Condition.notifyAll_pending,
        Finset.notMem_empty] at pending
    · simp only [Monitor.unlocked_value, NodePool.release_unknown known] at pending usable ⊢
      exact awaited waiter member pending usable
  | evicted ip => exact awaited waiter member pending usable
  | probed results => exact awaited waiter member pending usable

theorem awaited_reachable {ips : List String} {port parallel maxQueued : Int} {healthy : Finset String}
    {s : PoolSystem} (room : 1 ≤ parallel) (reached : machine.Reaches (new ips port parallel maxQueued healthy) s) :
    s.Awaited := by
  have keeps : ∀ s event next,
      (machine.Reaches (new ips port parallel maxQueued healthy) s ∧ Awaited s) → machine.step s event = some next →
        machine.Reaches (new ips port parallel maxQueued healthy) next ∧ next.Awaited := by
    intro s event next ⟨there, awaited⟩ stepped
    obtain ⟨free, accounted⟩ := accounted_reachable there
    exact ⟨there.trans (.single stepped), awaited.step room free (inRange_reachable there) accounted stepped⟩
  refine (reached.invariant keeps ⟨.refl _ _, ?_⟩).2
  intro waiter member
  cases member

end PoolSystem

/-! ### A queued call waits for others to finish -/

namespace Router

/-- A queued call comes out of `_cond.wait()` only after it has been notified. -/
def Due (s : Router) (index : Nat) (r : Resume) : Prop :=
  r = .wake → ∀ call, s.calls[index]? = some call → ∀ waiter, call.point.waiter = some waiter →
    waiter.future ∉ s.pool.value.cond.pending

/-- Only suspended calls go on, queued ones when they have been notified, by answers that make none forget its slot. -/
def GoesOn (hash : String → Int) (s : Router) (events : List RouterEvent) : Prop :=
  (machine hash).Along (fun s event => ∃ index r, event = .resume index r ∧ r.Calm ∧ s.Due index r) s events

/-- The call at the index can be brought to give back what it holds, without any other call. -/
def Finishes (hash : String → Int) (s : Router) (index : Nat) : Prop :=
  ∃ events last call, GoesOn hash s events ∧ (machine hash).run s events = some last ∧
    last.calls = s.calls.set index call ∧ call.point.held = none

section
variable {hash : String → Int} {p p' : NodePool} {calls : List Call} {index : Nat} {call : Call} {r : Resume}
  {point : Point} {actions : List Action}

theorem step_resume (running : calls[index]? = some call)
    (resumed : call.point.resume (Monitor.unlocked p) r = some (Monitor.unlocked p', point, actions)) :
    (machine hash).step ⟨Monitor.unlocked p, calls⟩ (.resume index r) =
      some ⟨Monitor.unlocked p', calls.set index ⟨point, call.log ++ actions⟩⟩ := by
  simp only [machine, step, running, Option.bind_eq_bind, Option.bind_some, resumed]
  rfl

theorem due_of_waiter_none (running : calls[index]? = some call) (unqueued : call.point.waiter = none) :
    Due ⟨Monitor.unlocked p, calls⟩ index r := by
  intro _ other there waiter waits
  cases running.symm.trans there
  rw [unqueued] at waits
  cases waits

theorem Finishes.later (calm : r.Calm) (running : calls[index]? = some call) (unqueued : call.point.waiter = none)
    (resumed : call.point.resume (Monitor.unlocked p) r = some (Monitor.unlocked p', point, actions))
    (rest : Finishes hash ⟨Monitor.unlocked p', calls.set index ⟨point, call.log ++ actions⟩⟩ index) :
    Finishes hash ⟨Monitor.unlocked p, calls⟩ index := by
  obtain ⟨events, last, final, goes, ran, same, gone⟩ := rest
  have stepped := @step_resume hash _ _ _ _ _ _ _ _ running resumed
  refine ⟨.resume index r :: events, last, final, ⟨⟨index, r, rfl, calm, due_of_waiter_none running unqueued⟩, ?_⟩,
    ?_, ?_, gone⟩
  · intro next same
    cases stepped.symm.trans same
    exact goes
  · rw [Machine.run_cons, stepped]
    exact ran
  · rw [same, List.set_set]

theorem Finishes.last (calm : r.Calm) (running : calls[index]? = some call) (unqueued : call.point.waiter = none)
    (resumed : call.point.resume (Monitor.unlocked p) r = some (Monitor.unlocked p', point, actions))
    (gone : point.held = none) : Finishes hash ⟨Monitor.unlocked p, calls⟩ index := by
  refine .later calm running unqueued resumed ?_
  exact ⟨[], _, ⟨point, call.log ++ actions⟩, trivial, rfl, by rw [List.set_set], gone⟩

theorem running_set (running : calls[index]? = some call) (other : Call) :
    (calls.set index other)[index]? = some other :=
  List.getElem?_set_self (List.getElem?_eq_some_iff.mp running).1

end

end Router

theorem Stream.caught_released (p : NodePool) (locals : StreamLocals) (ip : String) {exn : Exn}
    (caught : exn.isException = true) :
    ∃ p' st actions, Stream.caught (Monitor.unlocked p) locals ip exn = some (Monitor.unlocked p', st, actions) ∧
      st.held = none := by
  cases exn with
  | transportError message =>
    simp only [Stream.caught, Monitor.update_unlocked, Option.bind_eq_bind, Option.bind_some]
    split
    · exact ⟨_, _, _, rfl, rfl⟩
    · split
      · exact ⟨_, _, _, rfl, rfl⟩
      · exact ⟨_, _, _, rfl, rfl⟩
  | httpStatusError response | httpException statusCode detail | other message => exact ⟨_, _, _, rfl, rfl⟩
  | cancelledError | generatorExit => cases caught

namespace Router
variable {hash : String → Int} {ips : List String} {port parallel maxQueued : Int} {healthy : Finset String}
  {s next : Router} {event : RouterEvent}

section
variable {p : NodePool} {calls : List Call} {index : Nat} {log : List Action} {locals : StreamLocals} {ip : String}

theorem finishes_closing {exn : Exn} (caught : exn.isException = true)
    (running : calls[index]? = some ⟨.stream (.closing locals ip (.raising exn)), log⟩) :
    Finishes hash ⟨Monitor.unlocked p, calls⟩ index := by
  obtain ⟨p', st, actions, released, gone⟩ := Stream.caught_released p locals ip caught
  have resumed : Point.resume (Monitor.unlocked p) (.stream (.closing locals ip (.raising exn))) .wake =
      some (Monitor.unlocked p', .stream st, actions) := by
    rw [Point.resume, Stream.resume, Stream.closed, released]
    rfl
  exact .last (r := .wake) trivial running rfl resumed gone

/-- A body has an end, so its reader gets there. -/
theorem finishes_reading {lines : List String} {ending : Option Fault} {calls : List Call} {log : List Action}
    {locals : StreamLocals} (running : calls[index]? = some ⟨.stream (.reading locals ip lines ending), log⟩) :
    Finishes hash ⟨Monitor.unlocked p, calls⟩ index := by
  induction lines generalizing calls log locals with
  | nil =>
    cases ending with
    | none => exact .last (r := .wake) trivial running rfl rfl rfl
    | some fault =>
      exact .later (r := .wake) trivial running rfl rfl
        (finishes_closing fault.exn_isException (running_set running _))
  | cons line lines ih =>
    by_cases empty : line = ""
    · subst empty
      exact .later (r := .wake) trivial running rfl rfl (ih (running_set running _))
    · have yields : Point.resume (Monitor.unlocked p) (.stream (.reading locals ip (line :: lines) ending)) .wake =
          some (Monitor.unlocked p, .stream (.yielding { locals with startedStreaming := true } ip lines ending),
            [.yielded (chunkOf line)]) := by
        rw [Point.resume, Stream.resume, Stream.lineRead, if_pos empty]
        rfl
      have asked := running_set running ⟨.stream (.yielding { locals with startedStreaming := true } ip lines ending),
        log ++ [.yielded (chunkOf line)]⟩
      exact .later (r := .wake) trivial running rfl yields
        (.later (r := .wake) trivial asked rfl rfl (ih (running_set asked _)))

theorem finishes (free : s.pool.locked = false) {call : Call} (running : s.calls[index]? = some call)
    (holds : call.point.held.isSome = true) : Finishes hash s index := by
  obtain ⟨pool, calls⟩ := s
  obtain ⟨p, rfl⟩ := Monitor.exists_unlocked free
  obtain ⟨point, log⟩ := call
  cases point with
  | submit st =>
    cases st with
    | sending locals ip =>
      have calm : Resume.Calm (.posted 0 (.ok ⟨⟨200, ""⟩, some (.obj []), ""⟩)) := by
        intro message failed
        cases failed
      exact .last calm running rfl rfl rfl
    | _ => cases holds
  | stream st =>
    cases st with
    | opening locals ip =>
      exact .later (r := .opened (.ok ⟨⟨200, ""⟩, [], none⟩)) trivial running rfl rfl
        (finishes_reading (running_set running _))
    | reading locals ip lines ending => exact finishes_reading running
    | yielding locals ip lines ending =>
      exact .later (r := .wake) trivial running rfl rfl (finishes_reading (running_set running _))
    | closing locals ip exit =>
      cases exit with
      | raising exn =>
        have caught : exn.isException = true := by
          by_contra uncaught
          simp [Point.held, Stream.held, uncaught] at holds
        exact finishes_closing caught running
      | _ => cases holds
    | _ => cases holds

end

theorem GoesOn.calm {last : Router} {events : List RouterEvent} (goes : GoesOn hash s events)
    (ran : (machine hash).run s events = some last) : ∀ event ∈ events, event.Calm := by
  refine Machine.forall_of_along ?_ goes ran
  rintro state event ⟨index, r, rfl, calm, -⟩
  exact calm

theorem slot_of_taken (reached : (machine hash).Reaches (new ips port parallel maxQueued healthy) s) {ip : String}
    (taken : 0 < s.pool.value.inFlight ip) :
    ∃ (index : Nat) (call : Call), s.calls[index]? = some call ∧ 0 < slots call.log ip := by
  have balanced : s.Balanced (fun _ => 0) ips := balanced_reachable (fun _ => le_rfl) reached
  have counted : 0 < s.calls.countP fun call => 0 < slots call.log ip := by
    have held := balanced.inFlight ip
    have count : ((s.calls.countP fun call => 0 < slots call.log ip) : Int) = _ :=
      Tasks.countP_eq_sum fun call member => balanced.slots_range member ip
    omega
  obtain ⟨call, member, holds⟩ := List.countP_pos_iff.mp counted
  obtain ⟨index, found⟩ := List.mem_iff_getElem?.mp member
  exact ⟨index, call, found, of_decide_eq_true holds⟩

theorem Keeping.holds {index : Nat} {call : Call} {ip : String} (keeping : s.Keeping ips index)
    (found : s.calls[index]? = some call) (one : 0 < slots call.log ip) : call.point.held.isSome = true := by
  rw [(keeping.owns call found).slots_eq, share] at one
  split at one
  next holder => rw [holder]; rfl
  next => omega

theorem held_of_waiter {call : Call} {waiter : Waiter} (waits : call.point.waiter = some waiter) :
    call.point.held = none := by
  obtain ⟨point, log⟩ := call
  cases point with
  | submit st => cases st <;> first | rfl | cases waits
  | stream st => cases st <;> first | rfl | cases waits

/-- A queued call that cannot go ahead, for want of a node or of a notification, waits for a slot that is taken. -/
theorem taken_of_waiting (room : 1 ≤ parallel)
    (reached : (machine hash).Reaches (new ips port parallel maxQueued healthy) s) {call : Call} {waiter : Waiter}
    (member : call ∈ s.calls) (waits : call.point.waiter = some waiter)
    (usable : ∃ ip ∈ s.pool.value.ips, ip ∉ waiter.exclude)
    (stuck : s.pool.value.candidates waiter.exclude = [] ∨ waiter.future ∈ s.pool.value.cond.pending) :
    ∃ ip, 0 < s.pool.value.inFlight ip := by
  rcases stuck with full | pending
  · exact (inRange reached).taken room full usable
  · have among : waiter ∈ s.poolSystem.blocked :=
      Multiset.mem_coe.mpr (List.mem_filterMap.mpr ⟨call, member, waits⟩)
    exact PoolSystem.awaited_reachable room (poolSystem_reachable reached).2 waiter among pending usable

end Router

/-! ### What lost slots do to a node -/

theorem Effect.room_of_granted {p p' : NodePool} {before after : Option Waiter} {actions : List Action} {ip : String}
    (effect : Effect p before p' after actions) (granted : .granted ip ∈ actions) : p.inFlight ip < p.parallel := by
  cases effect with
  | none aside => exact (aside _ granted).elim
  | @granted exclude affinityIp chosen_ip chosen =>
    have same : ip = chosen_ip := by simpa using granted
    exact same ▸ NodePool.chosen_free chosen
  | @served waiter chosen_ip chosen =>
    have same : ip = chosen_ip := by simpa using granted
    exact same ▸ NodePool.chosen_free chosen
  | _ => simp at granted

namespace Router
variable {hash : String → Int} {ips : List String} {port parallel maxQueued : Int} {healthy : Finset String}
  {s next last : Router} {event : RouterEvent} {ip : String}

/-- The call at the index has ended, or is past all its operations, with a slot of the node. -/
def Lost (ip : String) (index : Nat) (s : Router) : Prop :=
  ∃ call, s.calls[index]? = some call ∧ call.point.Over ∧ 0 < slots call.log ip

theorem Lost.step {index : Nat} (lost : s.Lost ip index) (free : s.pool.locked = false)
    (stepped : (machine hash).step s event = some next) : next.Lost ip index := by
  obtain ⟨before, running, ended, holds⟩ := lost
  obtain ⟨call, found⟩ := running_step free stepped running
  have cases_of := follows free stepped found
  rw [running] at cases_of
  cases cases_of with
  | passed call other => exact ⟨before, found, ended, holds⟩
  | resumed step =>
    obtain ⟨neutral, ended⟩ := step.stays_over ended
    refine ⟨_, found, ended, ?_⟩
    rw [slots_append, neutral_slots neutral, add_zero]
    exact holds

/-- A node that has lost as many slots as it may serve calls is never dispatched to again. -/
theorem lost_slots_close_node
    (reached : (machine hash).Reaches (new ips port parallel maxQueued healthy) s) {indices : Finset Nat}
    (lost : ∀ index ∈ indices, s.Lost ip index) (all : parallel ≤ indices.card) (later : (machine hash).Reaches s last) :
    parallel ≤ last.pool.value.inFlight ip ∧
      ∀ event next, (machine hash).step last event = some next → .granted ip ∉ last.actions event := by
  have keeps : ∀ (s : Router) event next, (s.pool.locked = false ∧ ∀ index ∈ indices, s.Lost ip index) →
      (machine hash).step s event = some next →
        next.pool.locked = false ∧ ∀ index ∈ indices, next.Lost ip index := by
    intro s event next ⟨free, lost⟩ stepped
    exact ⟨(pool_step free stepped).1, fun index member => (lost index member).step free stepped⟩
  obtain ⟨free, still⟩ := later.invariant keeps ⟨free_reachable rfl reached, lost⟩
  have range := inRange (reached.trans later)
  have balanced : last.Balanced (fun _ => 0) ips := balanced_reachable (fun _ => le_rfl) (reached.trans later)
  have counted : indices.card ≤ last.calls.countP fun call => 0 < slots call.log ip := by
    apply Tasks.card_le_countP
    intro index member
    obtain ⟨call, found, -, holds⟩ := still index member
    exact ⟨call, found, decide_eq_true holds⟩
  have full : parallel ≤ last.pool.value.inFlight ip := by
    have held := balanced.inFlight ip
    have count : ((last.calls.countP fun call => 0 < slots call.log ip) : Int) = _ :=
      Tasks.countP_eq_sum fun call member => balanced.slots_range member ip
    omega
  refine ⟨full, ?_⟩
  intro event next stepped granted
  obtain ⟨p', calls', rfl, moves⟩ := moves_of_step free stepped
  generalize last.actions event = actions at moves granted
  cases moves with
  | resumed running step =>
    have free_slot := step.effect.room_of_granted granted
    rw [range.parallel_eq] at free_slot
    omega
  | _ => cases granted

theorem lost_slots_close_node_cancelled : ∃ s, (machine fun _ => 0).run (new ["10.0.0.1"] 8080 1 1 ∅)
      [.submit none, .resume 0 .wake, .resume 0 .cancel] = some s ∧
    ∀ last, (machine fun _ => 0).Reaches s last → ∀ event next, (machine fun _ => 0).step last event = some next →
      .granted "10.0.0.1" ∉ last.actions event := by
  refine ⟨_, rfl, ?_⟩
  intro last later
  have reached : (machine fun _ => 0).Reaches (new ["10.0.0.1"] 8080 1 1 ∅) _ :=
    ⟨[.submit none, .resume 0 .wake, .resume 0 .cancel], rfl⟩
  refine (@lost_slots_close_node _ _ _ _ _ _ _ _ "10.0.0.1" reached {0} ?_ (by decide) later).2
  intro index member
  rw [Finset.mem_singleton.mp member]
  exact ⟨_, rfl, trivial, by decide⟩

end Router
end LlamacppRay.Gateway
