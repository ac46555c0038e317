import LlamacppRay.Gateway.Router

/-! The backoff schedule a call sleeps on after a failed attempt, against the state of the pool it
sleeps in. -/

namespace LlamacppRay.Gateway
open LlamacppRay.Asyncio LlamacppRay.Automata

/-- The pause fits the pool: the slow schedule where every node is excluded or down, the fast one
where some healthy node that is not excluded has a free slot. -/
def TierFits (pool : NodePool) (excluded : Finset String) (attempt : Nat) (seconds : ℚ) : Prop :=
  ((∀ node ∈ pool.ips, node ∈ excluded ∨ node ∉ pool.healthy) →
      seconds = backoff POOL_EXHAUSTED_BACKOFFS_SECONDS attempt) ∧
    ((∃ node ∈ pool.ips, node ∉ excluded ∧ node ∈ pool.healthy ∧ pool.inFlight node < pool.parallel) →
      seconds = backoff FAST_REROUTE_BACKOFFS_SECONDS attempt)

/-- Every node is excluded or down, and a slot is free on one that is not excluded. -/
def IdleOutage (pool : NodePool) (excluded : Finset String) : Prop :=
  (∀ node ∈ pool.ips, node ∈ excluded ∨ node ∉ pool.healthy) ∧
    ∃ node ∈ pool.ips, node ∉ excluded ∧ pool.inFlight node < pool.parallel

instance (pool : NodePool) (excluded : Finset String) (attempt : Nat) (seconds : ℚ) :
    Decidable (TierFits pool excluded attempt seconds) :=
  inferInstanceAs (Decidable ((_ → _) ∧ ((∃ node ∈ pool.ips, _) → _)))

instance (pool : NodePool) (excluded : Finset String) : Decidable (IdleOutage pool excluded) :=
  inferInstanceAs (Decidable ((∀ node ∈ pool.ips, _) ∧ ∃ node ∈ pool.ips, _))

/-! ### The choice of the schedule -/

theorem backoff_mem (schedule : Schedule) (attempt : Nat) : backoff schedule attempt ∈ schedule.seconds :=
  List.get_mem _ _

theorem fast_ne_exhausted (attempt : Nat) :
    backoff FAST_REROUTE_BACKOFFS_SECONDS attempt ≠ backoff POOL_EXHAUSTED_BACKOFFS_SECONDS attempt := by
  have apart : ∀ pause ∈ FAST_REROUTE_BACKOFFS_SECONDS.seconds,
      pause ∉ POOL_EXHAUSTED_BACKOFFS_SECONDS.seconds := by decide +kernel
  intro same
  apply apart _ (backoff_mem FAST_REROUTE_BACKOFFS_SECONDS attempt)
  rw [same]
  exact backoff_mem POOL_EXHAUSTED_BACKOFFS_SECONDS attempt

theorem NodePool.hasAlternate_iff {pool : NodePool} {excluded : Finset String} :
    pool.hasAlternate excluded = true ↔ ∃ node, node ∈ pool.candidates excluded := by
  rw [hasAlternate, decide_eq_true_eq]
  constructor
  · exact List.exists_mem_of_ne_nil _
  · rintro ⟨node, member⟩
    exact List.ne_nil_of_mem member

theorem tier_fits_iff {pool : NodePool} {excluded : Finset String} {attempt : Nat} :
    TierFits pool excluded attempt (backoff (tier pool excluded) attempt) ↔ ¬IdleOutage pool excluded := by
  by_cases alternate : pool.hasAlternate excluded = true
  · have fast : tier pool excluded = FAST_REROUTE_BACKOFFS_SECONDS := if_pos alternate
    obtain ⟨node, member⟩ := NodePool.hasAlternate_iff.mp alternate
    obtain ⟨⟨known, allowed⟩, free, -⟩ := NodePool.mem_candidates.mp member
    rw [fast]
    constructor
    · intro fits outage
      exact fast_ne_exhausted attempt (fits.1 outage.1)
    · intro apart
      refine ⟨fun down => ?_, fun _ => rfl⟩
      exact absurd ⟨down, node, known, allowed, free⟩ apart
  · have slow : tier pool excluded = POOL_EXHAUSTED_BACKOFFS_SECONDS := if_neg alternate
    rw [slow]
    refine iff_of_true ⟨fun _ => rfl, ?_⟩ ?_
    · rintro ⟨node, known, allowed, healthy, free⟩
      apply absurd _ alternate
      exact NodePool.hasAlternate_iff.mpr
        ⟨node, NodePool.mem_candidates.mpr ⟨⟨known, allowed⟩, free, Or.inl healthy⟩⟩
    · rintro ⟨down, node, known, allowed, free⟩
      apply absurd _ alternate
      have nobody : ∀ other ∈ pool.ips, other ∉ excluded → other ∉ pool.healthy :=
        fun other present kept => (down other present).resolve_left kept
      exact NodePool.hasAlternate_iff.mpr
        ⟨node, NodePool.mem_candidates.mpr ⟨⟨known, allowed⟩, free, Or.inr nobody⟩⟩

/-- The failed node is excluded from then on, so what its release and its eviction change is not seen. -/
theorem idleOutage_failed {pool : NodePool} {excluded : Finset String} {ip : String} :
    IdleOutage ((pool.release ip).evict ip) (insert ip excluded) ↔ IdleOutage pool (insert ip excluded) := by
  have ips_eq : ((pool.release ip).evict ip).ips = pool.ips := pool.release_ips ip
  have parallel_eq : ((pool.release ip).evict ip).parallel = pool.parallel := pool.release_parallel ip
  have healthy_iff : ∀ node, node ∈ insert ip excluded ∨ node ∉ ((pool.release ip).evict ip).healthy ↔
      node ∈ insert ip excluded ∨ node ∉ pool.healthy := by
    intro node
    have kept : ((pool.release ip).evict ip).healthy = pool.healthy.erase ip :=
      congrArg (fun healthy => healthy.erase ip) (pool.release_healthy ip)
    rw [kept, Finset.mem_erase, Finset.mem_insert]
    tauto
  have inFlight_eq : ∀ node, node ∉ insert ip excluded →
      ((pool.release ip).evict ip).inFlight node = pool.inFlight node := by
    intro node allowed
    have other : node ≠ ip := fun same => allowed (same ▸ Finset.mem_insert_self ip excluded)
    change (pool.release ip).inFlight node = pool.inFlight node
    by_cases known : ip ∈ pool.ips
    · rw [NodePool.release_known known]
      exact Function.update_of_ne other _ _
    · rw [NodePool.release_unknown known]
  unfold IdleOutage
  rw [ips_eq, parallel_eq]
  refine and_congr (forall₂_congr fun node _ => healthy_iff node) (exists_congr fun node => ?_)
  refine and_congr_right fun _ => and_congr_right fun allowed => ?_
  rw [inFlight_eq node allowed]

/-! ### The steps that go on to another attempt -/

def pauses (actions : List Action) : List ℚ :=
  actions.filterMap fun action => match action with
    | .slept seconds => some seconds
    | _ => none

def Point.asleep : Point → Option (Finset String × Nat)
  | .submit (.sleeping locals) => some (locals.excluded, locals.attempt)
  | .stream (.sleeping locals _ _) => some (locals.excluded, locals.attempt)
  | _ => none

def Point.reroutes : Point → Resume → Option (Locals × String)
  | .submit (.sending locals ip), .posted _ result =>
      match send result with
      | .error exn => if exn.retryable ∧ locals.attempt < MAX_RETRIES then some (locals, ip) else none
      | .ok _ => none
  | .stream (.opening locals ip), .opened (.error fault) =>
      if fault.exn.retryable ∧ locals.startedStreaming = false ∧ locals.attempt < MAX_RETRIES then
        some (locals.toLocals, ip)
      else none
  | .stream (.opening locals ip), .opened (.ok response) =>
      if response.status ∈ RETRYABLE_HTTP_STATUS ∧ locals.attempt < MAX_RETRIES then some (locals.toLocals, ip)
      else none
  | .stream (.closing locals ip (.raising exn)), .wake =>
      match exn with
      | .transportError _ =>
          if locals.startedStreaming = false ∧ locals.attempt < MAX_RETRIES then some (locals.toLocals, ip)
          else none
      | _ => none
  | _, _ => none

structure Rerouted (p : NodePool) (locals : Locals) (ip : String) (p' : NodePool) (next : Point)
    (actions : List Action) : Prop where
  more : locals.attempt < MAX_RETRIES
  pool : p' = (p.release ip).evict ip
  asleep : next.asleep = some (insert ip locals.excluded, locals.attempt)
  actions_eq : actions = [.released ip, .evicted ip,
    .slept (backoff (tier p' (insert ip locals.excluded)) locals.attempt)]

section
variable {p p' : NodePool} {r : Resume} {actions : List Action}

theorem Submit.Step.reroutes {st next : Submit} (step : Submit.Step p st r p' next actions) :
    (∃ locals ip, Point.reroutes (.submit st) r = some (locals, ip) ∧
        Rerouted p locals ip p' (.submit next) actions) ∨
      (Point.reroutes (.submit st) r = none ∧ pauses actions = []) := by
  cases step with
  | @rerouted locals ip queueMs result exn outcome failure more =>
    refine Or.inl ⟨locals, ip, ?_, more, rfl, rfl, rfl⟩
    simp only [Point.reroutes, outcome, failure, more, and_self, ↓reduceIte]
  | @exhausted locals ip queueMs result exn outcome failure last =>
    refine Or.inr ⟨?_, rfl⟩
    simp only [Point.reroutes, outcome, Nat.not_lt.mpr last, and_false, ↓reduceIte]
  | succeeded outcome => exact Or.inr ⟨by simp only [Point.reroutes, outcome], rfl⟩
  | refused outcome final =>
    refine Or.inr ⟨?_, rfl⟩
    simp [Point.reroutes, outcome, Exn.retryable, final]
  | broken outcome =>
    refine Or.inr ⟨?_, rfl⟩
    simp [Point.reroutes, outcome, Exn.retryable]
  | granted head => cases head <;> exact Or.inr ⟨rfl, rfl⟩
  | rejected head => cases head <;> exact Or.inr ⟨rfl, rfl⟩
  | queued head => cases head <;> exact Or.inr ⟨rfl, rfl⟩
  | quiet ends => cases ends <;> exact Or.inr ⟨rfl, rfl⟩
  | _ => exact Or.inr ⟨rfl, rfl⟩

theorem Stream.Raises.not_reroutes {st : Stream} {locals : StreamLocals} {ip : String} {exn : Exn}
    (raises : Raises st r locals ip exn)
    (final : (∀ message, exn ≠ .transportError message) ∨ locals.startedStreaming = true) :
    Point.reroutes (.stream st) r = none := by
  cases raises with
  | unopened locals ip fault =>
    cases fault with
    | transport message =>
      have started := final.resolve_left fun other => other message rfl
      simp [Point.reroutes, started]
    | other message => simp [Point.reroutes, Fault.exn, Exn.retryable]
  | cancelled => rfl
  | closed locals ip exn =>
    cases exn with
    | transportError message =>
      have started := final.resolve_left fun other => other message rfl
      simp [Point.reroutes, started]
    | _ => rfl

theorem Stream.Step.reroutes {st next : Stream} (step : Stream.Step p st r p' next actions) :
    (∃ locals ip, Point.reroutes (.stream st) r = some (locals, ip) ∧
        Rerouted p locals ip p' (.stream next) actions) ∨
      (Point.reroutes (.stream st) r = none ∧ pauses actions = []) := by
  cases step with
  | @turned locals ip response failure status more =>
    refine Or.inl ⟨locals.toLocals, ip, ?_, more, rfl, rfl, rfl⟩
    simp only [Point.reroutes, status, more, and_self, ↓reduceIte]
  | @rerouted _ _ locals ip message raises silent more =>
    refine Or.inl ⟨locals.toLocals, ip, ?_, more, rfl, rfl, rfl⟩
    rcases raises.of_transport with ⟨rfl, rfl⟩ | ⟨rfl, rfl⟩
    · simp only [Point.reroutes, Fault.exn, Exn.retryable, silent, more, and_self, ↓reduceIte]
    · simp only [Point.reroutes, silent, more, and_self, ↓reduceIte]
  | @exhausted _ _ locals ip message raises silent last =>
    refine Or.inr ⟨?_, rfl⟩
    rcases raises.of_transport with ⟨rfl, rfl⟩ | ⟨rfl, rfl⟩
    · simp only [Point.reroutes, Nat.not_lt.mpr last, and_false, ↓reduceIte]
    · simp only [Point.reroutes, Nat.not_lt.mpr last, and_false, ↓reduceIte]
  | @refused locals ip response failure final =>
    refine Or.inr ⟨?_, rfl⟩
    have spent : ¬(response.status ∈ RETRYABLE_HTTP_STATUS ∧ locals.attempt < MAX_RETRIES) :=
      fun both => final ⟨(Response.isError_of_retryable both.1).1, both⟩
    simp only [Point.reroutes, if_neg spent]
  | @accepted locals ip response success =>
    refine Or.inr ⟨?_, rfl⟩
    have fine : ¬(response.status ∈ RETRYABLE_HTTP_STATUS ∧ locals.attempt < MAX_RETRIES) := by
      intro both
      rw [(Response.isError_of_retryable both.1).2] at success
      cases success
    simp only [Point.reroutes, if_neg fine]
  | rethrown raises caught final => exact Or.inr ⟨raises.not_reroutes final, rfl⟩
  | escaped raises uncaught =>
    exact Or.inr ⟨raises.not_reroutes (Or.inl (Exn.ne_transport_of_uncaught uncaught)), rfl⟩
  | granted head => cases head <;> exact Or.inr ⟨rfl, rfl⟩
  | rejected head => cases head <;> exact Or.inr ⟨rfl, rfl⟩
  | queued head => cases head <;> exact Or.inr ⟨rfl, rfl⟩
  | interrupted interrupts => cases interrupts <;> exact Or.inr ⟨rfl, rfl⟩
  | quiet moves => cases moves <;> exact Or.inr ⟨rfl, rfl⟩
  | _ => exact Or.inr ⟨rfl, rfl⟩

theorem Point.Step.reroutes {point next : Point} (step : Point.Step p point r p' next actions) :
    (∃ locals ip, point.reroutes r = some (locals, ip) ∧ Rerouted p locals ip p' next actions) ∨
      (point.reroutes r = none ∧ pauses actions = []) := by
  cases step with
  | submit step => exact step.reroutes
  | stream step => exact step.reroutes

end

/-! ### Whole runs -/

namespace Router

def asleep (s : Router) : RouterEvent → Option (Finset String × Nat)
  | .resume index _ => s.calls[index]?.bind fun call => call.point.asleep
  | _ => none

def reroutes (s : Router) : RouterEvent → Option (Locals × String)
  | .resume index r => s.calls[index]?.bind fun call => call.point.reroutes r
  | _ => none

def Tiered (hash : String → Int) (s : Router) (event : RouterEvent) : Prop :=
  ∀ _failed ∈ s.reroutes event, ∀ next ∈ step hash s event, ∃ sleeper ∈ next.asleep event,
    ∃ seconds ∈ pauses (s.actions event), TierFits next.pool.value sleeper.1 sleeper.2 seconds

/-- The failed node leaves an outage behind in which a node that is down has a free slot. -/
def Overlooks (s : Router) (event : RouterEvent) : Prop :=
  ∃ failed ∈ s.reroutes event, IdleOutage s.pool.value (insert failed.2 failed.1.excluded)

instance (hash : String → Int) (s : Router) (event : RouterEvent) : Decidable (s.Tiered hash event) :=
  inferInstanceAs (Decidable (∀ _failed ∈ s.reroutes event, ∀ next ∈ step hash s event,
    ∃ sleeper ∈ next.asleep event, ∃ seconds ∈ pauses (s.actions event), _))

instance (s : Router) (event : RouterEvent) : Decidable (s.Overlooks event) :=
  inferInstanceAs (Decidable (∃ failed ∈ s.reroutes event, _))

section
variable {hash : String → Int} {p : NodePool} {s : Router}

theorem tiered_iff {next : Router} {event : RouterEvent} (free : s.pool.locked = false)
    (stepped : (machine hash).step s event = some next) :
    s.Tiered hash event ↔ ¬s.Overlooks event := by
  obtain ⟨p', calls', rfl, moves⟩ := moves_of_step free stepped
  have result : step hash s event = some ⟨Monitor.unlocked p', calls'⟩ := stepped
  simp only [Tiered, Overlooks, result, Option.mem_def, Option.some.injEq, forall_eq']
  generalize s.actions event = actions at moves
  cases moves with
  | @resumed index r call p' point actions running step =>
    have now : s.reroutes (.resume index r) = call.point.reroutes r := by
      simp only [reroutes, running, Option.bind_some]
    have bound := (List.getElem?_eq_some_iff.mp running).1
    have later : Router.asleep ⟨Monitor.unlocked p', s.calls.set index ⟨point, call.log ++ actions⟩⟩
        (.resume index r) = point.asleep := by
      simp only [asleep, List.getElem?_set_self bound, Option.bind_some]
    rw [now, later]
    rcases step.reroutes with ⟨locals, ip, failed, rerouted⟩ | ⟨goesOn, -⟩
    · have chosen := @tier_fits_iff p' (insert ip locals.excluded) locals.attempt
      have pause : pauses actions = [backoff (tier p' (insert ip locals.excluded)) locals.attempt] := by
        rw [rerouted.actions_eq]
        rfl
      rw [failed, rerouted.asleep, pause]
      simp only [Option.some.injEq, forall_eq', exists_eq_left', List.mem_singleton, exists_eq_left,
        Monitor.unlocked_value]
      rw [chosen, rerouted.pool, idleOutage_failed]
    · simp [goesOn]
  | _ => simp [reroutes]

/-- In a run every pause fits the pool if and only if no failed attempt leaves every node excluded or
down with a free slot on one of the nodes that are only down. -/
theorem tiers_fit_iff {events : List RouterEvent} {last : Router}
    (ran : (machine hash).run ⟨Monitor.unlocked p, []⟩ events = some last) :
    (machine hash).Along (fun s event => s.Tiered hash event) ⟨Monitor.unlocked p, []⟩ events ↔
      (machine hash).Along (fun s event => ¬s.Overlooks event) ⟨Monitor.unlocked p, []⟩ events :=
  Machine.along_congr (fun _ _ _ reached stepped => tiered_iff (free_reachable rfl reached) stepped) ran

end

theorem tiers_fit_alternate : ∃ s,
    (machine fun _ => 0).run (new ["10.0.0.1", "10.0.0.2"] 8080 1 1 {"10.0.0.1", "10.0.0.2"})
      [.submit none, .resume 0 .wake,
        .resume 0 (.posted 0 (.error (.transport "connection refused")))] = some s ∧
    (machine fun _ => 0).Along (fun s event => s.Tiered (fun _ => 0) event)
      (new ["10.0.0.1", "10.0.0.2"] 8080 1 1 {"10.0.0.1", "10.0.0.2"}) [.submit none, .resume 0 .wake,
        .resume 0 (.posted 0 (.error (.transport "connection refused")))] := by
  have ends : (((machine fun _ => 0).run (new ["10.0.0.1", "10.0.0.2"] 8080 1 1 {"10.0.0.1", "10.0.0.2"})
      [.submit none, .resume 0 .wake, .resume 0 (.posted 0 (.error (.transport "connection refused")))]).any
        fun _ => true) = true := by decide
  obtain ⟨s, ran, -⟩ := Machine.run_of_any _ ends
  exact ⟨s, ran, (tiers_fit_iff ran).mpr (by decide)⟩

/-- The second node is down but idle: the fallback of the candidate filter takes it for an alternate. -/
theorem outage_slept_fast : ¬∀ s,
    (machine fun _ => 0).Reaches (new ["10.0.0.1", "10.0.0.2"] 8080 1 1 {"10.0.0.1"}) s →
      ∀ event, s.Tiered (fun _ => 0) event := by
  intro always
  have fast : (((machine fun _ => 0).run (new ["10.0.0.1", "10.0.0.2"] 8080 1 1 {"10.0.0.1"})
      [.submit none, .resume 0 .wake]).any fun s => ¬s.Tiered (fun _ => 0)
        (.resume 0 (.posted 0 (.error (.transport "connection refused"))))) = true := by decide +kernel
  obtain ⟨s, ran, unfit⟩ := Machine.run_of_any _ fast
  exact of_decide_eq_true unfit (always s ⟨_, ran⟩ _)

end Router
end LlamacppRay.Gateway
