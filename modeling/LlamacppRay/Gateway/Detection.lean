import LlamacppRay.Gateway.Grants
import LlamacppRay.Gateway.Service

/-! The monitor as a failure detector: how long it takes a pool to learn that a node is up or down, whatever calls
and rounds of probes are under way, and what becomes of the traffic then. -/

namespace LlamacppRay.Gateway
open LlamacppRay.Asyncio LlamacppRay.Automata LlamacppRay.Python

/-! ### What the answers of a round decide -/

theorem mem_of_lastAnswer {Answer : Type*} {entries : List (String × Answer)} {ip : String} {answer : Answer}
    (last : lastAnswer entries ip = some answer) : (ip, answer) ∈ entries := by
  induction entries with
  | nil => cases last
  | cons entry rest ih =>
    obtain ⟨node, first⟩ := entry
    rw [lastAnswer, Option.or_eq_some_iff] at last
    rcases last with later | ⟨-, here⟩
    · exact List.mem_cons_of_mem _ (ih later)
    · split at here
      next same =>
        cases here
        exact same ▸ List.mem_cons_self
      next => cases here

theorem lastAnswer_isSome {Answer : Type*} {entries : List (String × Answer)} {ip : String}
    (asked : ip ∈ entries.map Prod.fst) : (lastAnswer entries ip).isSome = true := by
  induction entries with
  | nil => cases asked
  | cons entry rest ih =>
    rw [lastAnswer, Option.isSome_or, Bool.or_eq_true]
    rcases List.mem_cons.mp asked with rfl | later
    · exact Or.inr (by simp)
    · exact Or.inl (ih later)

theorem mem_applyResults_of_agreed {healthy : Finset String} {results : List (String × Bool)} {ip : String} {up : Bool}
    (agreed : ∀ ok, (ip, ok) ∈ results → ok = up) (asked : ip ∈ results.map Prod.fst) :
    ip ∈ applyResults healthy results ↔ up = true := by
  obtain ⟨ok, last⟩ := Option.isSome_iff_exists.mp (lastAnswer_isSome asked)
  rw [mem_applyResults, last, agreed ok (mem_of_lastAnswer last), Option.getD_some]

/-! ### What a call does to the health of a node -/

theorem Effect.healthy_of_unevicted {p p' : NodePool} {before after : Option Waiter} {actions : List Action}
    (effect : Effect p before p' after actions) {ip : String} (kept : .evicted ip ∉ actions) :
    ip ∈ p'.healthy ↔ ip ∈ p.healthy := by
  cases effect with
  | released other => rw [p.release_healthy]
  | rerouted other pause =>
    have apart : ip ≠ other := by
      rintro rfl
      simp at kept
    show ip ∈ (p.release other).healthy.erase other ↔ _
    rw [p.release_healthy, Finset.mem_erase, and_iff_right apart]
  | _ => exact Iff.rfl

/-! ### To which nodes a call is sent -/

section
variable {p p' : NodePool} {r : Resume} {actions : List Action} {ip : String}

theorem Submit.Step.eligible_of_granted {st next : Submit} (step : Submit.Step p st r p' next actions)
    (granted : .granted ip ∈ actions) : Eligible p st.excluded ip := by
  cases step with
  | @granted _ _ locals other head chosen =>
    have same : ip = other := by simpa using granted
    rw [head.excluded_eq, same]
    exact NodePool.eligible_of_chosen chosen
  | @served locals future other chosen =>
    have same : ip = other := by simpa using granted
    exact same ▸ NodePool.eligible_of_chosen chosen
  | quiet ends => cases ends <;> simp at granted
  | _ => simp at granted

theorem Stream.Step.eligible_of_granted {st next : Stream} (step : Stream.Step p st r p' next actions)
    (granted : .granted ip ∈ actions) : Eligible p st.excluded ip := by
  cases step with
  | @granted _ _ locals other head chosen =>
    have same : ip = other := by simpa using granted
    rw [head.excluded_eq, same]
    exact NodePool.eligible_of_chosen chosen
  | @served locals future other chosen =>
    have same : ip = other := by simpa using granted
    exact same ▸ NodePool.eligible_of_chosen chosen
  | interrupted interrupts => cases interrupts <;> simp at granted
  | quiet moves => cases moves <;> simp at granted
  | _ => simp at granted

theorem Point.Step.eligible_of_granted {point next : Point} (step : Point.Step p point r p' next actions)
    (granted : .granted ip ∈ actions) : Eligible p point.excluded ip := by
  cases step with
  | submit step => exact step.eligible_of_granted granted
  | stream step => exact step.eligible_of_granted granted

end

namespace Router
variable {hash : String → Int} {s next : Router} {event : RouterEvent} {ip : String}

theorem healthy_of_unevicted (free : s.pool.locked = false) (stepped : (machine hash).step s event = some next)
    (unprobed : ∀ results, event ≠ .probed results) (unasked : ∀ node, event ≠ .evict node)
    (kept : .evicted ip ∉ s.actions event) : ip ∈ next.pool.value.healthy ↔ ip ∈ s.pool.value.healthy := by
  obtain ⟨p', calls', rfl, moves⟩ := moves_of_step free stepped
  generalize s.actions event = actions at moves kept
  cases moves with
  | submitted | streamed => exact Iff.rfl
  | resumed running step => exact step.effect.healthy_of_unevicted kept
  | evicted node => exact absurd rfl (unasked node)
  | probed results => exact absurd rfl (unprobed results)

theorem eligible_of_granted {index : Nat} {r : Resume} {call : Call} (free : s.pool.locked = false)
    (stepped : (machine hash).step s (.resume index r) = some next) (running : s.calls[index]? = some call)
    (granted : .granted ip ∈ s.actions (.resume index r)) : Eligible s.pool.value call.point.excluded ip := by
  obtain ⟨p', calls', rfl, moves⟩ := moves_of_step free stepped
  generalize s.actions (.resume index r) = actions at moves granted
  cases moves with
  | resumed found step =>
    cases running.symm.trans found
    exact step.eligible_of_granted granted

end Router

namespace Service
variable {settings : Settings} {hash : String → Int} {s next : Service} {event : ServiceEvent} {pool : PoolName}
  {ip : String} {up : Bool}

/-! ### A node that is up, or down, from now on -/

/-- In this step the node answers a probe as it should, and no call evicts it while it is up. -/
def Reliable (pool : PoolName) (ip : String) (up : Bool) (s : Service) (event : ServiceEvent) : Prop :=
  (∀ index reply round, event = .answered index reply → s.task = .probing round → round.pool = pool →
    round.answers[index]? = some (ip, none) → probe reply = up) ∧
  (up = true → ∀ asked, event.request = some (pool, asked) → .evicted ip ∉ (s.routers pool).actions asked)

def Unanimous (pool : PoolName) (ip : String) (up : Bool) (s : Service) : Prop :=
  ∀ round, s.task = .probing round → round.pool = pool → ∀ ok, (ip, some ok) ∈ round.answers → ok = up

theorem unanimous_sent {routers : PoolName → Router} {gauges : PoolName → Nat} (asked : PoolName)
    (ips : List String) : Unanimous pool ip up ⟨routers, .probing (Round.send asked ips), gauges⟩ := by
  intro round same _ ok member
  cases same
  obtain ⟨node, -, entry⟩ := List.mem_map.mp member
  cases entry

theorem Unanimous.step (unanimous : Unanimous pool ip up s) (reliable : Reliable pool ip up s event)
    (stepped : (machine settings hash).step s event = some next) : Unanimous pool ip up next := by
  cases moves_of_step stepped with
  | called asks step => exact unanimous
  | @answered round index node reply probing asked =>
    intro after same here ok member
    cases same
    rcases List.mem_or_eq_of_mem_set member with old | new
    · exact unanimous round probing here ok old
    · cases new
      exact reliable.1 index reply round rfl probing here asked
  | started | textGathered | slept => exact unanimous_sent _ _
  | multimodalGathered => exact fun round same => by cases same
  | cancelled => exact fun round same => by cases same

theorem asked_of_probing (reached : (machine settings hash).Reaches (start settings) s) {round : Round}
    (probing : s.task = .probing round) : round.answers.map Prod.fst = settings.probeIps round.pool := by
  rcases monitored_reachable reached with ⟨idle, -⟩ | ⟨-, loop, follows⟩
  · rw [probing] at idle
    simp at idle
  · rw [Settings.rounds_probe_pool (fun _ => ∅) follows.reached (follows.probing round probing)]
    cases round.pool <;> rfl

theorem healthy_of_gathered (reached : (machine settings hash).Reaches (start settings) s)
    (known : ip ∈ settings.probeIps pool) (unanimous : Unanimous pool ip up s) {round : Round}
    (probing : s.task = .probing round) (here : round.pool = pool)
    (stepped : (machine settings hash).step s .gathered = some next) : ip ∈ next.healthy pool ↔ up = true := by
  have settles : ∀ {results : List (String × Bool)} {router : Router}, round.results = some results →
      (Router.machine hash).step (s.routers round.pool) (.probed results) = some router →
        (ip ∈ (s.withRouter round.pool router).healthy pool ↔ up = true) := by
    intro results router complete step
    have entries := round.answers_of_results complete
    have asked : ip ∈ results.map Prod.fst := by
      have nodes := asked_of_probing reached probing
      rw [entries, List.map_map, here] at nodes
      exact nodes ▸ known
    rw [withRouter_healthy, here, Function.update_self, Router.healthy_of_probed step]
    refine mem_applyResults_of_agreed (fun ok member => unanimous round probing here ok ?_) asked
    rw [entries]
    exact List.mem_map.mpr ⟨_, member, rfl⟩
  cases moves_of_step stepped with
  | called asks => cases asks
  | textGathered same name complete step =>
    cases probing.symm.trans same
    rw [← name] at step
    have settled := settles complete step
    rw [name] at settled
    exact settled
  | multimodalGathered same name complete step =>
    cases probing.symm.trans same
    rw [← name] at step
    have settled := settles complete step
    rw [name] at settled
    exact settled

structure Detected (pool : PoolName) (ip : String) (up : Bool) (s : Service) : Prop where
  begun : s.task ≠ .created
  unanimous : Unanimous pool ip up s
  healthy : ip ∈ s.healthy pool ↔ up = true

theorem Detected.called {asked : RouterEvent} {changed : PoolName} {router : Router}
    (detected : Detected pool ip up s) (alone : ∀ pool, Alone settings hash pool (s.routers pool))
    (reliable : Reliable pool ip up s event) (asks : event.request = some (changed, asked))
    (step : (Router.machine hash).step (s.routers changed) asked = some router) :
    ip ∈ (s.withRouter changed router).healthy pool ↔ up = true := by
  cases up with
  | false =>
    have absent : ip ∉ s.healthy pool := fun there => Bool.noConfusion (detected.healthy.mp there)
    simp only [Bool.false_eq_true, iff_false]
    exact fun there => absent (healthy_of_call alone asks step pool there)
  | true =>
    have present := detected.healthy.mpr rfl
    simp only [iff_true]
    rw [withRouter_healthy]
    by_cases same : pool = changed
    · subst same
      rw [Function.update_self]
      refine (Router.healthy_of_unevicted (alone pool).free step ?_ ?_ (reliable.2 rfl asked asks)).mpr present
      · rintro results rfl
        cases event <;> cases asks
      · rintro node rfl
        cases event <;> cases asks
    · rwa [Function.update_of_ne same]

theorem Detected.step (detected : Detected pool ip up s) (known : ip ∈ settings.probeIps pool)
    (reached : (machine settings hash).Reaches (start settings) s) (reliable : Reliable pool ip up s event)
    (stepped : (machine settings hash).step s event = some next) : Detected pool ip up next := by
  have unanimous := detected.unanimous.step reliable stepped
  have elsewhere : ∀ {changed : PoolName} {router : Router}, changed ≠ pool →
      (ip ∈ (s.withRouter changed router).healthy pool ↔ up = true) := by
    intro changed router apart
    rw [withRouter_healthy, Function.update_of_ne apart.symm]
    exact detected.healthy
  cases moves_of_step stepped with
  | called asks step =>
    exact ⟨detected.begun, unanimous, detected.called (alone_reachable reached) reliable asks step⟩
  | started created => exact absurd created detected.begun
  | answered reply probing asked => exact ⟨by simp, unanimous, detected.healthy⟩
  | textGathered probing name complete step =>
    refine ⟨by simp, unanimous, ?_⟩
    by_cases here : PoolName.text = pool
    · exact healthy_of_gathered reached known detected.unanimous probing (name.trans here) stepped
    · exact elsewhere here
  | multimodalGathered probing name complete step =>
    refine ⟨by simp, unanimous, ?_⟩
    by_cases here : PoolName.multimodal = pool
    · exact healthy_of_gathered reached known detected.unanimous probing (name.trans here) stepped
    · exact elsewhere here
  | slept sleeping => exact ⟨by simp, unanimous, detected.healthy⟩
  | cancelled running => exact ⟨by simp, unanimous, detected.healthy⟩

theorem unanimous_run {first last : Service} {events : List ServiceEvent} (unanimous : Unanimous pool ip up first)
    (reliable : (machine settings hash).Along (Reliable pool ip up) first events)
    (ran : (machine settings hash).run first events = some last) : Unanimous pool ip up last := by
  refine Machine.run_invariant_along ?_ unanimous reliable ran
  intro s event next before reliable stepped
  exact before.step reliable stepped

theorem detected_run {first last : Service} {events : List ServiceEvent} (detected : Detected pool ip up first)
    (known : ip ∈ settings.probeIps pool) (reached : (machine settings hash).Reaches (start settings) first)
    (reliable : (machine settings hash).Along (Reliable pool ip up) first events)
    (ran : (machine settings hash).run first events = some last) : Detected pool ip up last := by
  have keeps : ∀ (s : Service) event next,
      ((machine settings hash).Reaches (start settings) s ∧ Detected pool ip up s) → Reliable pool ip up s event →
        (machine settings hash).step s event = some next →
          (machine settings hash).Reaches (start settings) next ∧ Detected pool ip up next := by
    intro s event next ⟨there, detected⟩ reliable stepped
    exact ⟨there.trans (.single stepped), detected.step known there reliable stepped⟩
  exact (Machine.run_invariant_along keeps ⟨reached, detected⟩ reliable ran).2

/-- A call is sent to the node only when it has given up every node of the pool that is healthy. -/
def Avoided (hash : String → Int) (pool : PoolName) (ip : String) (s : Service) : Prop :=
  ∀ index r next call, (Router.machine hash).step (s.routers pool) (.resume index r) = some next →
    (s.routers pool).calls[index]? = some call → .granted ip ∈ (s.routers pool).actions (.resume index r) →
      ip ∉ call.point.excluded ∧
        ∀ other ∈ (s.routers pool).pool.value.ips, other ∉ call.point.excluded → other ∉ s.healthy pool

/-- Once a round has been applied during which a node was up, or down, it is healthy or not accordingly for as long as
it stays so, whatever calls and rounds go on; and while it is down it is avoided. -/
theorem node_detected {first asked settled last : Service} {round : Round} {before after : List ServiceEvent}
    (reached : (machine settings hash).Reaches (start settings) first) (known : ip ∈ settings.probeIps pool)
    (unanimous : Unanimous pool ip up first)
    (reliable : (machine settings hash).Along (Reliable pool ip up) first before)
    (ran : (machine settings hash).run first before = some asked) (probing : asked.task = .probing round)
    (here : round.pool = pool) (gathered : (machine settings hash).step asked .gathered = some settled)
    (stays : (machine settings hash).Along (Reliable pool ip up) settled after)
    (later : (machine settings hash).run settled after = some last) :
    (ip ∈ last.healthy pool ↔ up = true) ∧ (up = false → Avoided hash pool ip last) := by
  have there : (machine settings hash).Reaches (start settings) asked := reached.trans ⟨before, ran⟩
  have applied : (machine settings hash).Reaches (start settings) settled := there.trans (.single gathered)
  have agreed := unanimous_run unanimous reliable ran
  have silent : Reliable pool ip up asked .gathered := by
    constructor
    · intro index reply round same
      cases same
    · intro up call asks
      cases asks
  have detected : Detected pool ip up settled := by
    refine ⟨?_, agreed.step silent gathered, healthy_of_gathered there known agreed probing here gathered⟩
    cases moves_of_step gathered with
    | called asks => cases asks
    | textGathered | multimodalGathered => simp
  have now := detected_run detected known applied stays later
  refine ⟨now.healthy, fun down index r next call stepped running granted => ?_⟩
  have alone := alone_reachable (applied.trans ⟨after, later⟩) pool
  have eligible := Router.eligible_of_granted alone.free stepped running granted
  refine ⟨eligible.allowed, eligible.healthy.resolve_left fun healthy => ?_⟩
  rw [down] at now
  exact Bool.noConfusion (now.healthy.mp healthy)

theorem node_detected_down : ∃ first asked settled last,
    (machine { textNodeIps := "10.0.0.1,10.0.0.2" } fun _ => 0).run (start { textNodeIps := "10.0.0.1,10.0.0.2" })
      [.started] = some first ∧
    (machine { textNodeIps := "10.0.0.1,10.0.0.2" } fun _ => 0).run first
      [.answered 1 (.ok 200), .answered 0 (.error (.transport "refused"))] = some asked ∧
    (machine { textNodeIps := "10.0.0.1,10.0.0.2" } fun _ => 0).step asked .gathered = some settled ∧
    (machine { textNodeIps := "10.0.0.1,10.0.0.2" } fun _ => 0).run settled
      [.submit false none, .resume .text 0 .wake] = some last ∧
    "10.0.0.1" ∉ last.healthy .text ∧ Avoided (fun _ => 0) .text "10.0.0.1" last := by
  refine ⟨_, _, _, _, rfl, rfl, rfl, rfl, ?_⟩
  have detected := @node_detected { textNodeIps := "10.0.0.1,10.0.0.2" } (fun _ => 0) .text "10.0.0.1" false
    _ _ _ _ _ [.answered 1 (.ok 200), .answered 0 (.error (.transport "refused"))]
    [.submit false none, .resume .text 0 .wake] ⟨[.started], rfl⟩ (by decide) (unanimous_sent _ _) ?_ rfl rfl rfl rfl
    ?_ rfl
  · exact ⟨fun there => Bool.noConfusion (detected.1.mp there), detected.2 rfl⟩
  · refine ⟨⟨?_, by simp⟩, fun next stepped => ⟨⟨?_, by simp⟩, fun _ _ => trivial⟩⟩
    · intro index reply round same probing here asked
      cases same
      cases probing
      exact absurd asked (by decide)
    · intro index reply round same probing here asked
      cases same
      rfl
  · refine Machine.along_of_forall _ (fun event member s => ⟨?_, by simp⟩) _
    intro index reply round same
    subst same
    simp at member

end Service
end LlamacppRay.Gateway
