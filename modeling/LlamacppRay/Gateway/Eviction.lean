import LlamacppRay.Gateway.Streaming

/-! Failed dispatches and the healthy set. Both dispatchers evict a node only when they go on to
another attempt, so a failure that ends the call leaves its node where it was. -/

namespace LlamacppRay.Gateway
open LlamacppRay.Asyncio LlamacppRay.Automata

/-- The node whose failure the call has on its hands: its dispatch ends in this step with a
transport error or a retryable status, or it has and the exception is on its way out. -/
def Point.failing : Point → Resume → Option String
  | .submit (.sending _ ip), .posted _ result =>
      match send result with
      | .error exn => if exn.retryable then some ip else none
      | .ok _ => none
  | .stream (.opening _ ip), .opened (.error fault) => if fault.exn.retryable then some ip else none
  | .stream (.opening _ ip), .opened (.ok response) =>
      if response.status ∈ RETRYABLE_HTTP_STATUS then some ip else none
  | .stream (.reading _ ip [] (some fault)), .wake => if fault.exn.retryable then some ip else none
  | .stream (.closing _ ip (.raising exn)), .wake => if exn.retryable then some ip else none
  | .stream (.closing _ ip (.raising exn)), .cancel => if exn.retryable then some ip else none
  | _, _ => none

/-- No attempt follows: the limit is reached, a chunk is out, or the call is cancelled on its way out. -/
def Point.spares : Point → Resume → Bool
  | .submit (.sending locals _), .posted _ _ => MAX_RETRIES ≤ locals.attempt
  | .stream (.opening locals _), .opened (.error _) => MAX_RETRIES ≤ locals.attempt
  | .stream (.closing locals _ (.raising _)), .wake => MAX_RETRIES ≤ locals.attempt || locals.startedStreaming
  | .stream (.closing _ _ (.raising _)), .cancel => true
  | _, _ => false

def proceeds (actions : List Action) : Bool :=
  actions.any fun action => match action with
    | .slept _ => true
    | .dispatched _ _ => true
    | .stopped => true
    | _ => false

/-! ### One stretch -/

theorem NodePool.evicted_release (pool : NodePool) (ip : String) :
    ip ∉ ((pool.release ip).evict ip).healthy :=
  Finset.notMem_erase ip _

/-- A retryable status leaves the response block as an exception only at the attempt limit. -/
def Stream.Late : Stream → Prop
  | .closing locals _ (.raising (.httpStatusError reply)) =>
      reply.status ∈ RETRYABLE_HTTP_STATUS → MAX_RETRIES ≤ locals.attempt
  | _ => True

theorem Stream.Step.late {p p' : NodePool} {st next : Stream} {r : Resume} {actions : List Action}
    (step : Stream.Step p st r p' next actions) : next.Late := by
  cases step with
  | @refused locals ip response failure final =>
    intro listed
    have error := @Response.isError_of_retryable response.toResponse listed
    by_contra more
    exact final ⟨error.1, listed, Nat.lt_of_not_le more⟩
  | @severed locals ip fault => cases fault <;> trivial
  | interrupted interrupts => cases interrupts <;> trivial
  | quiet moves => cases moves <;> trivial
  | _ => trivial

theorem Exn.retryable_cases {exn : Exn} (failure : exn.retryable = true) :
    (∃ message, exn = .transportError message) ∨
      ∃ reply, exn = .httpStatusError reply ∧ reply.status ∈ RETRYABLE_HTTP_STATUS := by
  cases exn with
  | transportError message => exact Or.inl ⟨message, rfl⟩
  | httpStatusError reply => exact Or.inr ⟨reply, rfl, of_decide_eq_true failure⟩
  | _ => cases failure

section
variable {p p' : NodePool} {r : Resume} {actions : List Action} {ip : String}

theorem Submit.Step.evicts {st next : Submit} (step : Submit.Step p st r p' next actions)
    (failing : Point.failing (.submit st) r = some ip) :
    ip ∉ p'.healthy ↔ Point.spares (.submit st) r = false ∨ ip ∉ p.healthy := by
  cases step with
  | @exhausted locals node queueMs result exn outcome failure last =>
    have spares : Point.spares (.submit (.sending locals node)) (.posted queueMs result) = true :=
      decide_eq_true last
    rw [NodePool.release_healthy, spares]
    exact ⟨Or.inr, fun either => either.resolve_left Bool.noConfusion⟩
  | @rerouted locals node queueMs result exn outcome failure more =>
    simp only [Point.failing, outcome, failure, ↓reduceIte, Option.some.injEq] at failing
    subst failing
    exact iff_of_true (p.evicted_release node) (Or.inl (decide_eq_false (Nat.not_le.mpr more)))
  | succeeded outcome => simp [Point.failing, outcome] at failing
  | @refused locals node queueMs result reply outcome final =>
    simp [Point.failing, outcome, Exn.retryable, final] at failing
  | broken outcome => simp [Point.failing, outcome, Exn.retryable] at failing
  | granted head => cases head <;> cases failing
  | rejected head => cases head <;> cases failing
  | queued head => cases head <;> cases failing
  | quiet ends => cases ends <;> cases failing
  | _ => cases failing

theorem Stream.Step.evicts {st next : Stream} (step : Stream.Step p st r p' next actions)
    (late : st.Late)
    (unstarted : ∀ locals node, st = .opening locals node → locals.startedStreaming = false)
    (failing : Point.failing (.stream st) r = some ip) (acted : proceeds actions = true) :
    ip ∉ p'.healthy ↔ Point.spares (.stream st) r = false ∨ ip ∉ p.healthy := by
  have spared : p'.healthy = p.healthy → Point.spares (.stream st) r = true →
      (ip ∉ p'.healthy ↔ Point.spares (.stream st) r = false ∨ ip ∉ p.healthy) := by
    intro same spares
    rw [same]
    exact ⟨Or.inr, fun either => either.resolve_left fun kept => Bool.noConfusion (spares.symm.trans kept)⟩
  cases step with
  | @turned locals node response failure status more =>
    simp only [Point.failing, status, ↓reduceIte, Option.some.injEq] at failing
    subst failing
    exact iff_of_true (p.evicted_release node) (Or.inl rfl)
  | @rethrown _ _ locals node exn raises caught final =>
    apply spared (p.release_healthy node)
    cases raises with
    | unopened locals node fault =>
      cases fault with
      | transport message =>
        rcases final with other | started
        · exact absurd rfl (other message)
        · rw [unstarted locals node rfl] at started
          cases started
      | other message => cases failing
    | cancelled => cases caught
    | closed locals node exn =>
      simp only [Point.failing, Option.ite_none_right_eq_some] at failing
      rcases Exn.retryable_cases failing.1 with ⟨message, rfl⟩ | ⟨reply, rfl, status⟩
      · have started := final.resolve_left fun other => other message rfl
        simp only [Point.spares, started, Bool.or_true]
      · simp only [Point.spares, late status, decide_true, Bool.true_or]
  | @exhausted _ _ locals node message raises silent last =>
    apply spared (p.release_healthy node)
    rcases raises.of_transport with ⟨rfl, rfl⟩ | ⟨rfl, rfl⟩
    · exact decide_eq_true last
    · simp only [Point.spares, last, decide_true, Bool.true_or]
  | @rerouted _ _ locals node message raises silent more =>
    have evicted := p.evicted_release node
    rcases raises.of_transport with ⟨rfl, rfl⟩ | ⟨rfl, rfl⟩
    · simp only [Point.failing, Fault.exn, Exn.retryable, ↓reduceIte, Option.some.injEq] at failing
      subst failing
      exact iff_of_true evicted (Or.inl (decide_eq_false (Nat.not_le.mpr more)))
    · simp only [Point.failing, Exn.retryable, ↓reduceIte, Option.some.injEq] at failing
      subst failing
      refine iff_of_true evicted (Or.inl ?_)
      simp only [Point.spares, silent, Nat.not_le.mpr more, decide_false, Bool.or_false]
  | superseded => exact spared rfl rfl
  | escaped raises uncaught =>
    cases raises with
    | unopened locals node fault => cases fault <;> cases uncaught
    | cancelled => cases failing
    | closed locals node exn =>
      simp only [Point.failing, Option.ite_none_right_eq_some] at failing
      rcases Exn.retryable_cases failing.1 with ⟨message, rfl⟩ | ⟨reply, rfl, -⟩ <;> cases uncaught
  | granted head => cases head <;> cases failing
  | rejected head => cases head <;> cases failing
  | queued head => cases head <;> cases failing
  | quiet moves => cases moves <;> cases failing
  | _ => first | cases failing | cases acted

theorem Submit.Step.proceeds_of_spares {st next : Submit}
    (step : Submit.Step p st r p' next actions) (spares : Point.spares (.submit st) r = true) :
    proceeds actions = true := by
  cases step with
  | granted head => cases head <;> cases spares
  | rejected head => cases head <;> cases spares
  | queued head => cases head <;> cases spares
  | quiet ends => cases ends <;> cases spares
  | succeeded => rfl
  | refused => rfl
  | exhausted => rfl
  | rerouted => rfl
  | broken => rfl
  | _ => cases spares

theorem Stream.Step.proceeds_of_spares {st next : Stream}
    (step : Stream.Step p st r p' next actions) (spares : Point.spares (.stream st) r = true) :
    proceeds actions = true := by
  cases step with
  | granted head => cases head <;> cases spares
  | rejected head => cases head <;> cases spares
  | queued head => cases head <;> cases spares
  | quiet moves => cases moves <;> cases spares
  | interrupted interrupts => cases interrupts <;> cases spares
  | rethrown => rfl
  | exhausted => rfl
  | rerouted => rfl
  | escaped => rfl
  | superseded => rfl
  | _ => cases spares

def Point.Steady : Point → Prop
  | .submit _ => True
  | .stream st => st.Late ∧ ∀ locals node, st = .opening locals node → locals.startedStreaming = false

theorem Point.Step.evicts {point next : Point} (step : Point.Step p point r p' next actions)
    (steady : point.Steady) :
    (∀ ip, point.failing r = some ip → proceeds actions = true → ip ∉ p'.healthy) ↔
      ¬∃ ip, point.failing r = some ip ∧ point.spares r = true ∧ ip ∈ p.healthy := by
  have exact_node : ∀ ip, point.failing r = some ip → proceeds actions = true →
      (ip ∉ p'.healthy ↔ point.spares r = false ∨ ip ∉ p.healthy) := by
    intro ip failing acted
    cases step with
    | submit step => exact step.evicts failing
    | stream step => exact step.evicts steady.1 steady.2 failing acted
  have acts : point.spares r = true → proceeds actions = true := by
    intro spares
    cases step with
    | submit step => exact step.proceeds_of_spares spares
    | stream step => exact step.proceeds_of_spares spares
  constructor
  · intro evicted ⟨ip, failing, spares, healthy⟩
    rcases (exact_node ip failing (acts spares)).mp (evicted ip failing (acts spares)) with kept | gone
    · exact Bool.noConfusion (spares.symm.trans kept)
    · exact gone healthy
  · intro unspared ip failing acted
    rw [exact_node ip failing acted]
    cases spares : point.spares r with
    | true => exact Or.inr fun healthy => unspared ⟨ip, failing, spares, healthy⟩
    | false => exact Or.inl rfl

end

/-! ### Whole runs -/

namespace Router

def failing (s : Router) : RouterEvent → Option String
  | .resume index r => s.calls[index]?.bind fun call => call.point.failing r
  | _ => none

def spares (s : Router) : RouterEvent → Bool
  | .resume index r => s.calls[index]?.any fun call => call.point.spares r
  | _ => false

def Spares (s : Router) (event : RouterEvent) : Prop :=
  ∃ ip ∈ s.failing event, s.spares event = true ∧ ip ∈ s.pool.value.healthy

/-- Where the call sleeps, dispatches or terminates after a failure, the node is out of the healthy set. -/
def Evicting (hash : String → Int) (s : Router) (event : RouterEvent) : Prop :=
  ∀ ip ∈ s.failing event, proceeds (s.actions event) = true →
    ∀ next ∈ step hash s event, ip ∉ next.pool.value.healthy

instance (s : Router) (event : RouterEvent) : Decidable (s.Spares event) :=
  inferInstanceAs (Decidable (∃ ip ∈ s.failing event, _))

instance (hash : String → Int) (s : Router) (event : RouterEvent) : Decidable (s.Evicting hash event) :=
  inferInstanceAs (Decidable (∀ ip ∈ s.failing event, _ →
    ∀ next ∈ step hash s event, ip ∉ next.pool.value.healthy))

section
variable {hash : String → Int} {p : NodePool} {s : Router}

theorem steady_reachable (reached : (machine hash).Reaches ⟨Monitor.unlocked p, []⟩ s) {index : Nat}
    {call : Call} (running : s.calls[index]? = some call) : call.point.Steady := by
  obtain ⟨point, log⟩ := call
  cases point with
  | submit st => trivial
  | stream st =>
    refine ⟨?_, ?_⟩
    · refine @stream_invariant hash p (fun st _ => st.Late) ?_ ?_ s reached index st log running
      · intro p affinityKey
        exact Stream.start_cases (motive := Stream.Late) (fun _ => trivial) (fun _ => trivial) p hash affinityKey
      · intro p p' st r next log actions before step
        exact step.late
    · intro locals node same
      have told := (told_reachable reached running).1
      rw [same] at told
      exact told.1

theorem evicting_iff {next : Router} {event : RouterEvent}
    (reached : (machine hash).Reaches ⟨Monitor.unlocked p, []⟩ s)
    (stepped : (machine hash).step s event = some next) :
    s.Evicting hash event ↔ ¬s.Spares event := by
  have free := free_reachable rfl reached
  obtain ⟨p', calls', rfl, moves⟩ := moves_of_step free stepped
  have property : s.Evicting hash event ↔ ∀ ip, s.failing event = some ip →
      proceeds (s.actions event) = true → ip ∉ p'.healthy := by
    have result : step hash s event = some ⟨Monitor.unlocked p', calls'⟩ := stepped
    simp only [Evicting, result, Option.mem_def, Option.some.injEq, forall_eq']
    rfl
  rw [property]
  generalize s.actions event = actions at moves
  cases moves with
  | @resumed index r call p' point actions running step =>
    have acted : s.failing (.resume index r) = call.point.failing r := by
      simp only [failing, running, Option.bind_some]
    have spared : s.spares (.resume index r) = call.point.spares r := by
      simp only [spares, running, Option.any_some]
    simp only [Spares, acted, spared, Option.mem_def]
    exact step.evicts (steady_reachable reached running)
  | _ => simp [failing, Spares]

/-- Over a run every failed dispatch evicts its node if and only if no call acts on the failure of a
healthy node at the attempt limit, after its first chunk or while it is being cancelled. -/
theorem failures_evicted_iff {events : List RouterEvent} {last : Router}
    (ran : (machine hash).run ⟨Monitor.unlocked p, []⟩ events = some last) :
    (machine hash).Along (fun s event => s.Evicting hash event) ⟨Monitor.unlocked p, []⟩ events ↔
      (machine hash).Along (fun s event => ¬s.Spares event) ⟨Monitor.unlocked p, []⟩ events :=
  Machine.along_congr (fun _ _ _ reached stepped => evicting_iff reached stepped) ran

end

theorem failures_evicted_first_attempt : ∃ s,
    (machine fun _ => 0).run (new ["10.0.0.1"] 8080 1 1 {"10.0.0.1"})
    [.submit none, .resume 0 .wake,
      .resume 0 (.posted 0 (.error (.transport "connection refused")))] = some s ∧
    (machine fun _ => 0).Along (fun s event => s.Evicting (fun _ => 0) event)
      (new ["10.0.0.1"] 8080 1 1 {"10.0.0.1"}) [.submit none, .resume 0 .wake,
        .resume 0 (.posted 0 (.error (.transport "connection refused")))] := by
  have ends : (((machine fun _ => 0).run (new ["10.0.0.1"] 8080 1 1 {"10.0.0.1"}) [.submit none, .resume 0 .wake,
    .resume 0 (.posted 0 (.error (.transport "connection refused")))]).any fun _ => true) = true := by decide
  obtain ⟨s, ran, -⟩ := Machine.run_of_any _ ends
  exact ⟨s, ran, (failures_evicted_iff ran).mpr (by decide)⟩

/-- The node breaks the body off after the first chunk and stays in the healthy set. -/
theorem broken_stream_not_evicted : ¬∀ s,
    (machine fun _ => 0).Reaches (new ["10.0.0.1"] 8080 1 1 {"10.0.0.1"}) s →
      ∀ event, s.Evicting (fun _ => 0) event := by
  intro always
  have spared : (((machine fun _ => 0).run (new ["10.0.0.1"] 8080 1 1 {"10.0.0.1"}) [.stream none, .resume 0 .wake,
    .resume 0 (.opened (.ok ⟨⟨200, ""⟩, ["data: a"], some (.transport "peer closed connection")⟩)),
    .resume 0 .wake, .resume 0 .wake, .resume 0 .wake]).any
      fun s => ¬s.Evicting (fun _ => 0) (.resume 0 .wake)) = true := by decide
  obtain ⟨s, ran, broken⟩ := Machine.run_of_any _ spared
  exact of_decide_eq_true broken (always s ⟨_, ran⟩ _)

end Router
end LlamacppRay.Gateway
