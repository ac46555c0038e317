import LlamacppRay.Gateway.PoolQueue
import LlamacppRay.Gateway.SubmitInference
import LlamacppRay.Gateway.StreamInference

/-! One pool under the two dispatchers: any number of calls of `submit_inference` and
`stream_inference`, resumed in any order, with health probes and evictions in between. -/

namespace LlamacppRay.Gateway
open LlamacppRay.Asyncio LlamacppRay.Automata

inductive Point where
  | submit (st : Submit)
  | stream (st : Stream)

structure Call where
  point : Point
  /-- Everything the call has done so far. -/
  log : List Action

structure Router where
  pool : Monitor NodePool
  calls : List Call

inductive RouterEvent where
  | submit (affinityKey : Option String)
  | stream (affinityKey : Option String)
  | resume (index : Nat) (r : Resume)
  | evict (ip : String)
  | probed (results : List (String × Bool))

def Point.resume (pool : Monitor NodePool) : Point → Resume → Option (Stretch Point)
  | .submit st, r => (st.resume pool r).map fun (pool, st, actions) => (pool, .submit st, actions)
  | .stream st, r => (st.resume pool r).map fun (pool, st, actions) => (pool, .stream st, actions)

namespace Router

def new (ips : List String) (port parallel maxQueued : Int) (healthy : Finset String) : Router :=
  ⟨Monitor.unlocked (NodePool.new ips port parallel maxQueued healthy), []⟩

/-- The hash function of strings is fixed for the process. -/
def step (hash : String → Int) (s : Router) : RouterEvent → Option Router
  | .submit affinityKey =>
      some { s with calls := s.calls ++ [⟨.submit (Submit.start s.pool.value hash affinityKey), []⟩] }
  | .stream affinityKey =>
      some { s with calls := s.calls ++ [⟨.stream (Stream.start s.pool.value hash affinityKey), []⟩] }
  | .resume index r => do
      let call ← s.calls[index]?
      let (pool, point, actions) ← call.point.resume s.pool r
      return ⟨pool, s.calls.set index ⟨point, call.log ++ actions⟩⟩
  | .evict ip => some { s with pool := s.pool.modify fun p => p.evict ip }
  | .probed results =>
      some { s with pool := s.pool.modify fun p => { p with healthy := applyResults p.healthy results } }

def machine (hash : String → Int) : Machine Router RouterEvent := ⟨step hash⟩

def actions (s : Router) : RouterEvent → List Action
  | .resume index r =>
      match s.calls[index]?.bind fun call => call.point.resume s.pool r with
      | some (_, _, actions) => actions
      | none => []
  | _ => []

end Router

/-! ### What one step can do -/

inductive Point.Step (p : NodePool) : Point → Resume → NodePool → Point → List Action → Prop
  | submit {st next : Submit} {r : Resume} {p' : NodePool} {actions : List Action}
      (step : Submit.Step p st r p' next actions) : Step p (.submit st) r p' (.submit next) actions
  | stream {st next : Stream} {r : Resume} {p' : NodePool} {actions : List Action}
      (step : Stream.Step p st r p' next actions) : Step p (.stream st) r p' (.stream next) actions

theorem Point.resume_step {p : NodePool} {point : Point} {r : Resume} {after : Stretch Point}
    (ran : point.resume (Monitor.unlocked p) r = some after) :
    ∃ p', after.1 = Monitor.unlocked p' ∧ Point.Step p point r p' after.2.1 after.2.2 := by
  cases point with
  | submit st =>
    simp only [resume, Option.map_eq_some_iff] at ran
    obtain ⟨stretch, resumed, rfl⟩ := ran
    obtain ⟨p', free, step⟩ := Submit.resume_step resumed
    exact ⟨p', free, .submit step⟩
  | stream st =>
    simp only [resume, Option.map_eq_some_iff] at ran
    obtain ⟨stretch, resumed, rfl⟩ := ran
    obtain ⟨p', free, step⟩ := Stream.resume_step resumed
    exact ⟨p', free, .stream step⟩

inductive Router.Moves (hash : String → Int) (p : NodePool) (calls : List Call) :
    RouterEvent → NodePool → List Call → List Action → Prop
  | submitted (affinityKey : Option String) :
      Moves hash p calls (.submit affinityKey) p
        (calls ++ [⟨.submit (Submit.start p hash affinityKey), []⟩]) []
  | streamed (affinityKey : Option String) :
      Moves hash p calls (.stream affinityKey) p
        (calls ++ [⟨.stream (Stream.start p hash affinityKey), []⟩]) []
  | resumed {index : Nat} {r : Resume} {call : Call} {p' : NodePool} {point : Point}
      {actions : List Action} (running : calls[index]? = some call)
      (step : Point.Step p call.point r p' point actions) :
      Moves hash p calls (.resume index r) p' (calls.set index ⟨point, call.log ++ actions⟩) actions
  | evicted (ip : String) : Moves hash p calls (.evict ip) (p.evict ip) calls []
  | probed (results : List (String × Bool)) :
      Moves hash p calls (.probed results) { p with healthy := applyResults p.healthy results } calls []

theorem Router.moves_of_step {hash : String → Int} {s next : Router} {event : RouterEvent}
    (free : s.pool.locked = false) (stepped : (Router.machine hash).step s event = some next) :
    ∃ p' calls', next = ⟨Monitor.unlocked p', calls'⟩ ∧
      Router.Moves hash s.pool.value s.calls event p' calls' (s.actions event) := by
  obtain ⟨pool, calls⟩ := s
  obtain ⟨p, rfl⟩ := Monitor.exists_unlocked free
  cases event with
  | submit affinityKey => cases stepped; exact ⟨_, _, rfl, .submitted affinityKey⟩
  | stream affinityKey => cases stepped; exact ⟨_, _, rfl, .streamed affinityKey⟩
  | resume index r =>
    simp only [machine, Router.step, Option.bind_eq_bind, Option.bind_eq_some_iff] at stepped
    obtain ⟨call, running, stretch, resumed, done⟩ := stepped
    cases done
    obtain ⟨p', unlocked, step⟩ := Point.resume_step resumed
    have did : Router.actions ⟨Monitor.unlocked p, calls⟩ (.resume index r) = stretch.2.2 := by
      simp only [Router.actions, running, Option.bind_some, resumed]
    rw [did, unlocked]
    exact ⟨p', _, rfl, .resumed running step⟩
  | evict ip => cases stepped; exact ⟨_, _, rfl, .evicted ip⟩
  | probed results => cases stepped; exact ⟨_, _, rfl, .probed results⟩

/-! ### The two dispatchers as clients of the pool -/

def Submit.waiter : Submit → Option Waiter
  | .acquiring locals future => some ⟨future, locals.excluded, locals.affinityIp⟩
  | _ => none

def Stream.waiter : Stream → Option Waiter
  | .acquiring locals future => some ⟨future, locals.excluded, locals.affinityIp⟩
  | _ => none

def Point.waiter : Point → Option Waiter
  | .submit st => st.waiter
  | .stream st => st.waiter

def Submit.excluded : Submit → Finset String
  | .entering locals => locals.excluded
  | .acquiring locals _ => locals.excluded
  | .sending locals _ => locals.excluded
  | .sleeping locals => locals.excluded
  | _ => ∅

def Stream.excluded : Stream → Finset String
  | .entering locals => locals.excluded
  | .acquiring locals _ => locals.excluded
  | .opening locals _ => locals.excluded
  | .reading locals _ _ _ => locals.excluded
  | .yielding locals _ _ _ => locals.excluded
  | .sleeping locals _ _ => locals.excluded
  | .closing locals _ _ => locals.excluded
  | _ => ∅

def Point.excluded : Point → Finset String
  | .submit st => st.excluded
  | .stream st => st.excluded

theorem Submit.AtHead.excluded_eq {st : Submit} {r : Resume} {locals : Locals} (head : AtHead st r locals) :
    st.excluded = locals.excluded := by
  cases head <;> rfl

theorem Stream.AtHead.excluded_eq {st : Stream} {r : Resume} {locals : StreamLocals} (head : AtHead st r locals) :
    st.excluded = locals.excluded := by
  cases head <;> rfl

def Aside (actions : List Action) : Prop :=
  ∀ action ∈ actions, match action with
    | .answered _ | .yielded _ | .stopped => True
    | _ => False

/-- Every stretch of either dispatcher is one of these sequences of pool operations. -/
inductive Effect (p : NodePool) : Option Waiter → NodePool → Option Waiter → List Action → Prop
  | none {actions : List Action} (aside : Aside actions) : Effect p none p none actions
  | granted {exclude : Finset String} {affinityIp : Option String} {ip : String}
      (chosen : p.choose (p.candidates exclude) affinityIp = some ip) :
      Effect p none (p.occupy ip) none [.asked exclude affinityIp, .granted ip, .dispatched ip p.port]
  | rejected {exclude : Finset String} {affinityIp : Option String}
      (full : p.candidates exclude = []) (queue : p.maxQueued ≤ p.waiting) :
      Effect p none p none [.asked exclude affinityIp, .rejected, .stopped]
  | queued {exclude : Finset String} {affinityIp : Option String} (full : p.candidates exclude = [])
      (queue : p.waiting < p.maxQueued) :
      Effect p none p.enqueue.park (some ⟨p.cond.fresh, exclude, affinityIp⟩) [.asked exclude affinityIp, .queued]
  | served {waiter : Waiter} {ip : String}
      (chosen : p.choose (p.candidates waiter.exclude) waiter.affinityIp = some ip) :
      Effect p (some waiter) ((p.cancelWait waiter.future).occupy ip) none
        [.dequeued, .granted ip, .dispatched ip p.port]
  | requeued {waiter : Waiter} (full : p.candidates waiter.exclude = []) :
      Effect p (some waiter) (p.unpark waiter.future).park (some { waiter with future := p.cond.fresh }) [.requeued]
  | withdrawn (waiter : Waiter) :
      Effect p (some waiter) (p.cancelWait waiter.future) none [.dequeued, .stopped]
  | released (ip : String) : Effect p none (p.release ip) none [.released ip, .stopped]
  | rerouted (ip : String) (pause : ℚ) :
      Effect p none ((p.release ip).evict ip) none [.released ip, .evicted ip, .slept pause]

theorem Submit.AtHead.waiter_none {st : Submit} {r : Resume} {locals : Locals}
    (head : AtHead st r locals) :
    st.waiter = none := by
  cases head <;> rfl

theorem Stream.AtHead.waiter_none {st : Stream} {r : Resume} {locals : StreamLocals}
    (head : AtHead st r locals) :
    st.waiter = none := by
  cases head <;> rfl

theorem Stream.Raises.waiter_none {st : Stream} {r : Resume} {locals : StreamLocals} {ip : String}
    {exn : Exn} (raises : Raises st r locals ip exn) : st.waiter = none := by
  cases raises <;> rfl

theorem Submit.Step.effect {p p' : NodePool} {st next : Submit} {r : Resume} {actions : List Action}
    (step : Submit.Step p st r p' next actions) : Effect p st.waiter p' next.waiter actions := by
  cases step with
  | granted head chosen => rw [head.waiter_none]; exact .granted chosen
  | rejected head full queue => rw [head.waiter_none]; exact .rejected full queue
  | queued head full queue => rw [head.waiter_none]; exact .queued full queue
  | @served locals future ip chosen =>
    exact @Effect.served p ⟨future, locals.excluded, locals.affinityIp⟩ ip chosen
  | @requeued locals future full =>
    exact @Effect.requeued p ⟨future, locals.excluded, locals.affinityIp⟩ full
  | withdrawn locals future => exact .withdrawn ⟨future, _, _⟩
  | succeeded outcome => exact .released _
  | refused outcome final => exact .released _
  | exhausted outcome failure last => exact .released _
  | rerouted outcome failure more => exact .rerouted _ _
  | broken outcome => exact .none (by simp [Aside])
  | cancelled locals ip => exact .none (by simp [Aside])
  | quiet ends => cases ends <;> exact .none (by simp [Aside])

theorem Stream.Step.effect {p p' : NodePool} {st next : Stream} {r : Resume} {actions : List Action}
    (step : Stream.Step p st r p' next actions) : Effect p st.waiter p' next.waiter actions := by
  cases step with
  | granted head chosen => rw [head.waiter_none]; exact .granted chosen
  | rejected head full queue => rw [head.waiter_none]; exact .rejected full queue
  | queued head full queue => rw [head.waiter_none]; exact .queued full queue
  | @served locals future ip chosen =>
    exact @Effect.served p ⟨future, locals.excluded, locals.affinityIp⟩ ip chosen
  | @requeued locals future full =>
    exact @Effect.requeued p ⟨future, locals.excluded, locals.affinityIp⟩ full
  | withdrawn locals future => exact .withdrawn ⟨future, _, _⟩
  | turned failure status more => exact .rerouted _ _
  | finished => exact .released _
  | rethrown raises caught final => rw [raises.waiter_none]; exact .released _
  | exhausted raises silent last => rw [raises.waiter_none]; exact .released _
  | rerouted raises silent more => rw [raises.waiter_none]; exact .rerouted _ _
  | escaped raises uncaught => rw [raises.waiter_none]; exact .none (by simp [Aside])
  | interrupted interrupts => cases interrupts <;> exact .none (by simp [Aside])
  | quiet moves => cases moves <;> exact .none (by simp [Aside])
  | _ => exact .none (by simp [Aside])

theorem Point.Step.effect {p p' : NodePool} {point next : Point} {r : Resume}
    {actions : List Action} (step : Point.Step p point r p' next actions) :
    Effect p point.waiter p' next.waiter actions := by
  cases step with
  | submit step => exact step.effect
  | stream step => exact step.effect

theorem Effect.ips {p p' : NodePool} {before after : Option Waiter} {actions : List Action}
    (effect : Effect p before p' after actions) : p'.ips = p.ips := by
  cases effect with
  | released ip => exact p.release_ips ip
  | rerouted ip pause => exact p.release_ips ip
  | _ => rfl

theorem Submit.start_waiter (p : NodePool) (hash : String → Int) (affinityKey : Option String) :
    (Submit.start p hash affinityKey).waiter = none :=
  Submit.start_cases (motive := fun st => st.waiter = none) (fun _ => rfl) (fun _ => rfl) p hash affinityKey

theorem Stream.start_waiter (p : NodePool) (hash : String → Int) (affinityKey : Option String) :
    (Stream.start p hash affinityKey).waiter = none :=
  Stream.start_cases (motive := fun st => st.waiter = none) (fun _ => rfl) (fun _ => rfl) p hash affinityKey

/-! ### One call among the others -/

/-- What a step does to the call at an index: it begins it, passes it by or resumes it. -/
inductive Follows (hash : String → Int) (p p' : NodePool) (index : Nat) :
    Option Call → RouterEvent → Call → Prop
  | submitted (affinityKey : Option String) :
      Follows hash p p' index none (.submit affinityKey) ⟨.submit (Submit.start p hash affinityKey), []⟩
  | streamed (affinityKey : Option String) :
      Follows hash p p' index none (.stream affinityKey) ⟨.stream (Stream.start p hash affinityKey), []⟩
  | passed {event : RouterEvent} (call : Call) (other : ∀ r, event ≠ .resume index r) :
      Follows hash p p' index (some call) event call
  | resumed {call : Call} {r : Resume} {point : Point} {actions : List Action}
      (step : Point.Step p call.point r p' point actions) :
      Follows hash p p' index (some call) (.resume index r) ⟨point, call.log ++ actions⟩

namespace Router

theorem follows {hash : String → Int} {s next : Router} {event : RouterEvent}
    (free : s.pool.locked = false) (stepped : (machine hash).step s event = some next) {index : Nat}
    {call : Call} (found : next.calls[index]? = some call) :
    Follows hash s.pool.value next.pool.value index s.calls[index]? event call := by
  obtain ⟨p', calls', rfl, moves⟩ := moves_of_step free stepped
  generalize s.actions event = actions at moves
  have begun : ∀ new : Call, (s.calls ++ [new])[index]? = some call →
      s.calls[index]? = some call ∨ s.calls[index]? = none ∧ call = new := by
    intro new among
    rw [List.getElem?_append] at among
    split at among
    next => exact Or.inl among
    next beyond =>
      rw [List.getElem?_singleton] at among
      split at among
      next => exact Or.inr ⟨List.getElem?_eq_none (Nat.le_of_not_lt beyond), (Option.some.inj among).symm⟩
      next => cases among
  cases moves with
  | submitted affinityKey =>
    rcases begun _ found with old | ⟨fresh, rfl⟩
    · rw [old]
      exact .passed call (by simp)
    · rw [fresh]
      exact .submitted affinityKey
  | streamed affinityKey =>
    rcases begun _ found with old | ⟨fresh, rfl⟩
    · rw [old]
      exact .passed call (by simp)
    · rw [fresh]
      exact .streamed affinityKey
  | @resumed other r running_call p' point actions running step =>
    by_cases same : other = index
    · subst same
      rw [List.getElem?_set_self (List.getElem?_eq_some_iff.mp running).1] at found
      cases found
      rw [running]
      exact .resumed step
    · rw [List.getElem?_set_ne same] at found
      rw [found]
      exact .passed call (by simp [same])
  | evicted ip => rw [found]; exact .passed call (by simp)
  | probed results => rw [found]; exact .passed call (by simp)

theorem running_step {hash : String → Int} {s next : Router} {event : RouterEvent}
    (free : s.pool.locked = false) (stepped : (machine hash).step s event = some next) {index : Nat}
    {call : Call} (running : s.calls[index]? = some call) :
    ∃ call', next.calls[index]? = some call' := by
  obtain ⟨p', calls', rfl, moves⟩ := moves_of_step free stepped
  generalize s.actions event = actions at moves
  have bound := (List.getElem?_eq_some_iff.mp running).1
  have stays : index < calls'.length := by
    cases moves with
    | submitted => simp only [List.length_append]; omega
    | streamed => simp only [List.length_append]; omega
    | resumed => simpa only [List.length_set] using bound
    | _ => exact bound
  exact ⟨calls'[index], List.getElem?_eq_getElem stays⟩

theorem pool_step {hash : String → Int} {s next : Router} {event : RouterEvent}
    (free : s.pool.locked = false) (stepped : (machine hash).step s event = some next) :
    next.pool.locked = false ∧ next.pool.value.ips = s.pool.value.ips := by
  obtain ⟨p', calls', rfl, moves⟩ := moves_of_step free stepped
  refine ⟨rfl, ?_⟩
  cases moves with
  | resumed running step => exact step.effect.ips
  | _ => rfl

theorem free_reachable {hash : String → Int} {s s' : Router} (free : s.pool.locked = false)
    (reached : (machine hash).Reaches s s') : s'.pool.locked = false :=
  reached.invariant (fun _ _ _ before stepped => (pool_step before stepped).1) free

theorem call_invariant_known {hash : String → Int} {start : NodePool} {Inv : Call → Prop}
    (submitted : ∀ p affinityKey, Inv ⟨.submit (Submit.start p hash affinityKey), []⟩)
    (streamed : ∀ p affinityKey, Inv ⟨.stream (Stream.start p hash affinityKey), []⟩)
    (resumed : ∀ p p' call r point actions, p.ips = start.ips → Inv call →
      Point.Step p call.point r p' point actions → Inv ⟨point, call.log ++ actions⟩)
    {s : Router} (reached : (machine hash).Reaches ⟨Monitor.unlocked start, []⟩ s) {index : Nat}
    {call : Call} (found : s.calls[index]? = some call) : Inv call := by
  have keeps : ∀ s event next,
      ((s.pool.locked = false ∧ s.pool.value.ips = start.ips) ∧
        ∀ (index : Nat) call, s.calls[index]? = some call → Inv call) →
        (machine hash).step s event = some next →
          (next.pool.locked = false ∧ next.pool.value.ips = start.ips) ∧
            ∀ (index : Nat) call, next.calls[index]? = some call → Inv call := by
    intro s event next ⟨⟨free, known⟩, all⟩ stepped
    have pool := pool_step free stepped
    refine ⟨⟨pool.1, pool.2.trans known⟩, fun index call found => ?_⟩
    have cases_of := follows free stepped found
    generalize running : s.calls[index]? = earlier at cases_of
    cases cases_of with
    | submitted affinityKey => exact submitted _ affinityKey
    | streamed affinityKey => exact streamed _ affinityKey
    | passed call other => exact all index call running
    | resumed step => exact resumed _ _ _ _ _ _ known (all index _ running) step
  exact (reached.invariant keeps ⟨⟨rfl, rfl⟩, by simp⟩).2 index call found

theorem call_invariant {hash : String → Int} {start : NodePool} {Inv : Call → Prop}
    (submitted : ∀ p affinityKey, Inv ⟨.submit (Submit.start p hash affinityKey), []⟩)
    (streamed : ∀ p affinityKey, Inv ⟨.stream (Stream.start p hash affinityKey), []⟩)
    (resumed : ∀ p p' call r point actions, Inv call → Point.Step p call.point r p' point actions →
      Inv ⟨point, call.log ++ actions⟩)
    {s : Router} (reached : (machine hash).Reaches ⟨Monitor.unlocked start, []⟩ s) {index : Nat}
    {call : Call} (found : s.calls[index]? = some call) : Inv call :=
  call_invariant_known submitted streamed
    (fun p p' call r point actions _ before step => resumed p p' call r point actions before step) reached found

theorem submit_invariant {hash : String → Int} {start : NodePool} {Inv : Submit → List Action → Prop}
    (started : ∀ p affinityKey, Inv (Submit.start p hash affinityKey) [])
    (resumed : ∀ p p' st r next log actions, Inv st log → Submit.Step p st r p' next actions →
      Inv next (log ++ actions))
    {s : Router} (reached : (machine hash).Reaches ⟨Monitor.unlocked start, []⟩ s) {index : Nat} {st : Submit}
    {log : List Action} (found : s.calls[index]? = some ⟨.submit st, log⟩) : Inv st log := by
  refine @call_invariant hash start (fun call => ∀ st, call.point = .submit st → Inv st call.log)
    ?_ ?_ ?_ s reached index _ found st rfl
  · intro p affinityKey st same
    cases same
    exact started p affinityKey
  · intro p affinityKey st same
    cases same
  · intro p p' call r point actions before step next same
    obtain ⟨point, log⟩ := call
    cases step with
    | submit step =>
      cases same
      exact resumed _ _ _ _ _ _ _ (before _ rfl) step
    | stream step => cases same

theorem stream_invariant {hash : String → Int} {start : NodePool} {Inv : Stream → List Action → Prop}
    (started : ∀ p affinityKey, Inv (Stream.start p hash affinityKey) [])
    (resumed : ∀ p p' st r next log actions, Inv st log → Stream.Step p st r p' next actions →
      Inv next (log ++ actions))
    {s : Router} (reached : (machine hash).Reaches ⟨Monitor.unlocked start, []⟩ s) {index : Nat} {st : Stream}
    {log : List Action} (found : s.calls[index]? = some ⟨.stream st, log⟩) : Inv st log := by
  refine @call_invariant hash start (fun call => ∀ st, call.point = .stream st → Inv st call.log)
    ?_ ?_ ?_ s reached index _ found st rfl
  · intro p affinityKey st same
    cases same
  · intro p affinityKey st same
    cases same
    exact started p affinityKey
  · intro p p' call r point actions before step next same
    obtain ⟨point, log⟩ := call
    cases step with
    | submit step => cases same
    | stream step =>
      cases same
      exact resumed _ _ _ _ _ _ _ (before _ rfl) step

end Router

/-! ### The router refines the pool under arbitrary clients -/

namespace Router

def blocked (calls : List Call) : Multiset Waiter := ↑(calls.filterMap fun call => call.point.waiter)

def poolSystem (s : Router) : PoolSystem := ⟨s.pool, blocked s.calls⟩

theorem blocked_concat (calls : List Call) (call : Call) (idle : call.point.waiter = none) :
    blocked (calls ++ [call]) = blocked calls := by
  simp [blocked, idle]

theorem blocked_of_running {calls : List Call} {index : Nat} {call : Call}
    (running : calls[index]? = some call) :
    blocked calls = ↑call.point.waiter.toList + blocked (calls.eraseIdx index) := by
  obtain ⟨bound, rfl⟩ := List.getElem?_eq_some_iff.mp running
  have same := (List.getElem_cons_eraseIdx_perm bound).symm.filterMap fun call => call.point.waiter
  simp only [blocked, Multiset.coe_add]
  rw [Multiset.coe_eq_coe]
  refine same.trans ?_
  cases waiting : calls[index].point.waiter <;> simp [waiting]

theorem blocked_set {calls : List Call} {index : Nat} (bound : index < calls.length) (call : Call) :
    blocked (calls.set index call) = ↑call.point.waiter.toList + blocked (calls.eraseIdx index) := by
  have found : (calls.set index call)[index]? = some call := by
    rw [List.getElem?_set_self bound]
  rw [blocked_of_running found, List.eraseIdx_set_eq]

end Router

theorem Effect.refines {p p' : NodePool} {before after : Option Waiter} {actions : List Action}
    (effect : Effect p before p' after actions) (others : Multiset Waiter) :
    ∃ events, PoolSystem.machine.run ⟨Monitor.unlocked p, ↑before.toList + others⟩ events =
      some ⟨Monitor.unlocked p', ↑after.toList + others⟩ := by
  have single : ∀ {event : PoolEvent} {blocked' : Multiset Waiter},
      PoolSystem.Moves p (↑before.toList + others) event p' blocked' → blocked' = ↑after.toList + others →
        ∃ events, PoolSystem.machine.run ⟨Monitor.unlocked p, ↑before.toList + others⟩ events =
          some ⟨Monitor.unlocked p', ↑after.toList + others⟩ := by
    intro event blocked' moves same
    subst same
    have stepped : PoolSystem.machine.step _ event = _ := PoolSystem.step_iff.mpr ⟨_, _, rfl, moves⟩
    exact ⟨[event], by rw [Machine.run_cons, stepped]; rfl⟩
  cases effect with
  | none aside => exact ⟨[], rfl⟩
  | granted chosen => exact single (.granted chosen) rfl
  | @rejected exclude affinityIp full queue =>
    exact single (@PoolSystem.Moves.rejected p _ exclude affinityIp full queue) rfl
  | @queued exclude affinityIp full queue =>
    exact single (@PoolSystem.Moves.queued p _ exclude affinityIp full queue) (by simp)
  | served chosen => exact single (.served (by simp) chosen) (by simp)
  | requeued full => exact single (.requeued (by simp) full) (by simp)
  | withdrawn waiter => exact single (.withdrawn (by simp)) (by simp)
  | released ip => exact single (.released ip) rfl
  | rerouted ip pause => exact ⟨[.release ip, .evict ip], rfl⟩

namespace Router

/-- Each step of the router is a run of the pool under arbitrary clients. -/
theorem refines_poolSystem (hash : String → Int) :
    (machine hash).Simulates PoolSystem.machine
      fun s other => s.pool.locked = false ∧ other = s.poolSystem := by
  intro s event next other related stepped
  obtain ⟨free, rfl⟩ := related
  obtain ⟨p', calls', rfl, moves⟩ := moves_of_step free stepped
  have view : s.poolSystem = ⟨Monitor.unlocked s.pool.value, blocked s.calls⟩ := by
    rw [← Monitor.eq_unlocked free]
    rfl
  rw [view]
  generalize s.actions event = actions at moves
  have started : ∀ call : Call, call.point.waiter = none → ∃ events last,
      PoolSystem.machine.run ⟨Monitor.unlocked s.pool.value, blocked s.calls⟩ events = some last ∧
        (Monitor.unlocked s.pool.value).locked = false ∧
          last = Router.poolSystem ⟨Monitor.unlocked s.pool.value, s.calls ++ [call]⟩ := by
    intro call idle
    exact ⟨[], _, rfl, rfl, by rw [poolSystem, blocked_concat s.calls call idle]⟩
  cases moves with
  | submitted affinityKey => exact started _ (Submit.start_waiter _ hash affinityKey)
  | streamed affinityKey => exact started _ (Stream.start_waiter _ hash affinityKey)
  | @resumed index r call point' p' actions running step =>
    obtain ⟨events, ran⟩ := step.effect.refines (blocked (s.calls.eraseIdx index))
    have bound := (List.getElem?_eq_some_iff.mp running).1
    refine ⟨events, _, ?_, rfl, rfl⟩
    rw [poolSystem, blocked_set bound, blocked_of_running running]
    exact ran
  | evicted ip => exact ⟨[.evict ip], _, rfl, rfl, rfl⟩
  | probed results => exact ⟨[.probed results], _, rfl, rfl, rfl⟩

section
variable {hash : String → Int} {ips : List String} {port parallel maxQueued : Int}
    {healthy : Finset String}

theorem poolSystem_reachable {s : Router}
    (reached : (machine hash).Reaches (new ips port parallel maxQueued healthy) s) :
    s.pool.locked = false ∧
      PoolSystem.machine.Reaches (PoolSystem.new ips port parallel maxQueued healthy) s.poolSystem := by
  obtain ⟨final, there, free, rfl⟩ := (refines_poolSystem hash).reaches ⟨rfl, rfl⟩ reached
  exact ⟨free, there⟩

theorem accounted {s : Router} (reached : (machine hash).Reaches (new ips port parallel maxQueued healthy) s) :
    s.pool.locked = false ∧ PoolSystem.Accounted ips parallel maxQueued s.pool.value (blocked s.calls) := by
  obtain ⟨free, there⟩ := poolSystem_reachable reached
  exact ⟨free, (PoolSystem.accounted_reachable there).2⟩

end
end Router
end LlamacppRay.Gateway
