import LlamacppRay.Gateway.Config
import LlamacppRay.Gateway.Admission

/-! The inference side of the gateway as one system: a pool and its dispatchers for each type of request, and the
health monitor that probes the nodes of both pools in turn, writes into the healthy sets that the pools share with it
and exports their sizes. -/

namespace LlamacppRay.Gateway
open LlamacppRay.Asyncio LlamacppRay.Automata LlamacppRay.Python

inductive ProbeTask where
  | created
  | probing (round : Round)
  | sleeping
  | cancelled

structure Service where
  routers : PoolName → Router
  task : ProbeTask
  /-- `HEALTHY_TEXT_NODES` and `HEALTHY_MULTIMODAL_NODES`. -/
  gauges : PoolName → Nat

inductive ServiceEvent where
  | submit (multimodal : Bool) (affinityKey : Option String)
  | stream (multimodal : Bool) (affinityKey : Option String)
  | resume (pool : PoolName) (index : Nat) (r : Resume)
  /-- The task runs for the first time. -/
  | started
  | answered (index : Nat) (reply : Except Fault Int)
  | gathered
  | slept
  /-- `lifespan` ends. -/
  | cancelled

def poolFor (multimodal : Bool) : PoolName := if multimodal then .multimodal else .text

/-- The nodes of the monitor, which reads the settings on its own. -/
def Settings.probeIps (settings : Settings) : PoolName → List String
  | .text => parseIps settings.textNodeIps
  | .multimodal => parseIps settings.multimodalNodeIps

def ServiceEvent.request : ServiceEvent → Option (PoolName × RouterEvent)
  | .submit multimodal affinityKey => some (poolFor multimodal, .submit affinityKey)
  | .stream multimodal affinityKey => some (poolFor multimodal, .stream affinityKey)
  | .resume pool index r => some (pool, .resume index r)
  | _ => none

namespace Service

/-- When the modules are loaded the healthy sets are empty, and a gauge exports zero until it is set. -/
def start (settings : Settings) : Service where
  routers pool := ⟨Monitor.unlocked (settings.pool (fun _ => ∅) pool), []⟩
  task := .created
  gauges _ := 0

def healthy (s : Service) (pool : PoolName) : Finset String := (s.routers pool).pool.value.healthy

/-- One step of the calls on a pool, or of the monitor on its healthy set. -/
def onPool (hash : String → Int) (s : Service) (pool : PoolName) (event : RouterEvent) : Option Service :=
  ((s.routers pool).step hash event).map fun router =>
    { s with routers := Function.update s.routers pool router }

/-- `healthy_text_nodes.update(text_ips)` and its like. -/
def welcome (settings : Settings) (s : Service) (pool : PoolName) : Router :=
  { s.routers pool with
    pool := (s.routers pool).pool.modify fun p => { p with healthy := p.healthy ∪ (settings.probeIps pool).toFinset } }

def step (settings : Settings) (hash : String → Int) (s : Service) : ServiceEvent → Option Service
  | .started =>
      match s.task with
      | .created =>
          some ⟨s.welcome settings, .probing (Round.send .text (settings.probeIps .text)), s.gauges⟩
      | _ => none
  | .answered index reply =>
      match s.task with
      | .probing round =>
          match round.answers[index]? with
          | some (ip, none) =>
              some { s with task := .probing ⟨round.pool, round.answers.set index (ip, some (probe reply))⟩ }
          | _ => none
      | _ => none
  | .gathered =>
      match s.task with
      | .probing round => do
          let results ← round.results
          let s ← s.onPool hash round.pool (.probed results)
          match round.pool with
          | .text => return { s with task := .probing (Round.send .multimodal (settings.probeIps .multimodal)) }
          | .multimodal => return { s with task := .sleeping, gauges := fun pool => (s.healthy pool).card }
      | _ => none
  | .slept =>
      match s.task with
      | .sleeping => some { s with task := .probing (Round.send .text (settings.probeIps .text)) }
      | _ => none
  | .cancelled =>
      match s.task with
      | .cancelled => none
      | _ => some { s with task := .cancelled }
  | event => event.request.bind fun (pool, event) => s.onPool hash pool event

def machine (settings : Settings) (hash : String → Int) : Machine Service ServiceEvent := ⟨step settings hash⟩

end Service

/-! ### What one step can do -/

namespace Service

def withRouter (s : Service) (pool : PoolName) (router : Router) : Service :=
  { s with routers := Function.update s.routers pool router }

inductive Moves (settings : Settings) (hash : String → Int) (s : Service) : ServiceEvent → Service → Prop
  | called {event : ServiceEvent} {pool : PoolName} {asked : RouterEvent} {router : Router}
      (asks : event.request = some (pool, asked))
      (step : (Router.machine hash).step (s.routers pool) asked = some router) :
      Moves settings hash s event (s.withRouter pool router)
  | started (created : s.task = .created) :
      Moves settings hash s .started
        ⟨s.welcome settings, .probing (Round.send .text (settings.probeIps .text)), s.gauges⟩
  | answered {round : Round} {index : Nat} {ip : String} (reply : Except Fault Int) (probing : s.task = .probing round)
      (asked : round.answers[index]? = some (ip, none)) :
      Moves settings hash s (.answered index reply)
        { s with task := .probing ⟨round.pool, round.answers.set index (ip, some (probe reply))⟩ }
  | textGathered {round : Round} {results : List (String × Bool)} {router : Router} (probing : s.task = .probing round)
      (pool : round.pool = .text) (complete : round.results = some results)
      (step : (Router.machine hash).step (s.routers .text) (.probed results) = some router) :
      Moves settings hash s .gathered { s.withRouter .text router with
        task := .probing (Round.send .multimodal (settings.probeIps .multimodal)) }
  | multimodalGathered {round : Round} {results : List (String × Bool)} {router : Router}
      (probing : s.task = .probing round) (pool : round.pool = .multimodal) (complete : round.results = some results)
      (step : (Router.machine hash).step (s.routers .multimodal) (.probed results) = some router) :
      Moves settings hash s .gathered { s.withRouter .multimodal router with
        task := .sleeping
        gauges := fun pool => ((s.withRouter .multimodal router).healthy pool).card }
  | slept (sleeping : s.task = .sleeping) :
      Moves settings hash s .slept { s with task := .probing (Round.send .text (settings.probeIps .text)) }
  | cancelled (running : s.task ≠ .cancelled) : Moves settings hash s .cancelled { s with task := .cancelled }

variable {settings : Settings} {hash : String → Int} {s next : Service} {event : ServiceEvent}

theorem moves_of_call {pool : PoolName} {asked : RouterEvent} (asks : event.request = some (pool, asked))
    (stepped : s.onPool hash pool asked = some next) : Moves settings hash s event next := by
  obtain ⟨router, step, rfl⟩ := Option.map_eq_some_iff.mp stepped
  exact .called asks step

theorem moves_of_step (stepped : (machine settings hash).step s event = some next) :
    Moves settings hash s event next := by
  cases event with
  | submit multimodal affinityKey => exact moves_of_call rfl stepped
  | stream multimodal affinityKey => exact moves_of_call rfl stepped
  | resume pool index r => exact moves_of_call rfl stepped
  | started =>
    simp only [machine, step] at stepped
    split at stepped
    next created => cases stepped; exact .started created
    next => cases stepped
  | answered index reply =>
    simp only [machine, step] at stepped
    split at stepped
    next round probing =>
      split at stepped
      next ip asked => cases stepped; exact .answered reply probing asked
      next => cases stepped
    next => cases stepped
  | gathered =>
    simp only [machine, step] at stepped
    split at stepped
    next round probing =>
      simp only [Option.bind_eq_bind, Option.bind_eq_some_iff] at stepped
      obtain ⟨results, complete, after, applied, stepped⟩ := stepped
      obtain ⟨router, step, rfl⟩ := Option.map_eq_some_iff.mp applied
      cases pool : round.pool with
      | text => rw [pool] at stepped step; cases stepped; exact .textGathered probing pool complete step
      | multimodal => rw [pool] at stepped step; cases stepped; exact .multimodalGathered probing pool complete step
    next => cases stepped
  | slept =>
    simp only [machine, step] at stepped
    split at stepped
    next sleeping => cases stepped; exact .slept sleeping
    next => cases stepped
  | cancelled =>
    simp only [machine, step] at stepped
    split at stepped
    next => cases stepped
    next running => cases stepped; exact .cancelled running

end Service

/-! ### The pools and the monitor as they run alone -/

theorem Effect.healthy {p p' : NodePool} {before after : Option Waiter} {actions : List Action}
    (effect : Effect p before p' after actions) : p'.healthy = p.healthy ∨ ∃ ip, p'.healthy = p.healthy.erase ip := by
  cases effect with
  | released ip => exact Or.inl (p.release_healthy ip)
  | rerouted ip pause =>
    refine Or.inr ⟨ip, ?_⟩
    show (p.release ip).healthy.erase ip = _
    rw [p.release_healthy]
  | _ => exact Or.inl rfl

theorem Router.healthy_of_probed {hash : String → Int} {s next : Router} {results : List (String × Bool)}
    (stepped : (Router.machine hash).step s (.probed results) = some next) :
    next.pool.value.healthy = applyResults s.pool.value.healthy results := by
  cases stepped
  rfl

theorem Router.healthy_of_call {hash : String → Int} {s next : Router} {event : ServiceEvent} {pool : PoolName}
    {asked : RouterEvent} (free : s.pool.locked = false) (asks : event.request = some (pool, asked))
    (stepped : (Router.machine hash).step s asked = some next) :
    next.pool.value.healthy = s.pool.value.healthy ∨
      ∃ ip, next.pool.value.healthy = s.pool.value.healthy.erase ip := by
  obtain ⟨p', calls', rfl, moves⟩ := Router.moves_of_step free stepped
  generalize s.actions asked = actions at moves
  cases moves with
  | submitted | streamed => exact Or.inl rfl
  | resumed running step => exact step.effect.healthy
  | evicted | probed => cases event <;> cases asks

/-- A node that answers 200 to all its probes is healthy afterwards, and this is what the start of the monitor does. -/
theorem applyResults_welcome (healthy : Finset String) (ips : List String) :
    applyResults healthy (ips.map fun ip => (ip, true)) = healthy ∪ ips.toFinset := by
  induction ips generalizing healthy with
  | nil => simp [applyResults]
  | cons ip rest ih =>
    show applyResults (insert ip healthy) (rest.map fun ip => (ip, true)) = _
    rw [ih, List.toFinset_cons, Finset.insert_union, Finset.union_insert]

theorem Settings.healthProbeLoop_ips (settings : Settings) : settings.healthProbeLoop.ips = settings.probeIps := by
  funext pool
  cases pool <;> rfl

theorem Settings.healthProbeLoop_healthy (settings : Settings) :
    settings.healthProbeLoop.healthy = fun pool => (settings.probeIps pool).toFinset := by
  funext pool
  cases pool <;> rfl

theorem ProbeLoop.Moves.reaches {start state next : ProbeLoop} {event : ProbeEvent}
    (moves : ProbeLoop.Moves state event next) (reached : (Machine.mk ProbeLoop.step).Reaches start state) :
    (Machine.mk ProbeLoop.step).Reaches start next :=
  reached.trans (.single (ProbeLoop.step_iff.mpr moves))

namespace Service
variable {settings : Settings} {hash : String → Int} {s next : Service} {event : ServiceEvent} {pool : PoolName}

theorem withRouter_routers (router : Router) (other : PoolName) :
    (s.withRouter pool router).routers other = if other = pool then router else s.routers other := by
  rw [withRouter]
  by_cases same : other = pool
  · subst same
    simp
  · simp [same]

theorem withRouter_healthy (router : Router) :
    (s.withRouter pool router).healthy = Function.update s.healthy pool router.pool.value.healthy := by
  funext other
  rw [healthy, withRouter_routers]
  by_cases same : other = pool
  · subst same
    simp
  · simp [same, healthy]

def Alone (settings : Settings) (hash : String → Int) (pool : PoolName) (router : Router) : Prop :=
  (Router.machine hash).Reaches ⟨Monitor.unlocked (settings.pool (fun _ => ∅) pool), []⟩ router

theorem Alone.free {router : Router} (alone : Alone settings hash pool router) : router.pool.locked = false :=
  Router.free_reachable rfl alone

theorem Alone.step {router after : Router} {asked : RouterEvent} (alone : Alone settings hash pool router)
    (stepped : (Router.machine hash).step router asked = some after) : Alone settings hash pool after :=
  .trans alone (.single stepped)

theorem Alone.welcome (alone : Alone settings hash pool (s.routers pool)) :
    Alone settings hash pool (s.welcome settings pool) := by
  have stepped : (Router.machine hash).step (s.routers pool)
      (.probed ((settings.probeIps pool).map fun ip => (ip, true))) = some (s.welcome settings pool) := by
    simp only [Router.machine, Router.step, Service.welcome, Monitor.modify, applyResults_welcome]
  exact alone.step stepped

theorem alone_step (alone : ∀ pool, Alone settings hash pool (s.routers pool))
    (stepped : (machine settings hash).step s event = some next) (pool : PoolName) :
    Alone settings hash pool (next.routers pool) := by
  have other : ∀ {changed : PoolName} {router : Router}, Alone settings hash changed router →
      Alone settings hash pool ((s.withRouter changed router).routers pool) := by
    intro changed router new
    rw [withRouter_routers]
    split
    next same => exact same ▸ new
    next => exact alone pool
  cases moves_of_step stepped with
  | called asks step => exact other ((alone _).step step)
  | started created => exact (alone pool).welcome
  | textGathered probing name complete step => exact other ((alone _).step step)
  | multimodalGathered probing name complete step => exact other ((alone _).step step)
  | _ => exact alone pool

theorem alone_reachable (reached : (machine settings hash).Reaches (start settings) s) (pool : PoolName) :
    Alone settings hash pool (s.routers pool) := by
  have keeps : ∀ (s : Service) event next, (∀ pool, Alone settings hash pool (s.routers pool)) →
      (machine settings hash).step s event = some next → ∀ pool, Alone settings hash pool (next.routers pool) :=
    fun _ _ _ alone stepped => alone_step alone stepped
  exact reached.invariant keeps (fun pool => .refl _ _) pool

/-- The monitor without the calls: a state it can reach alone, where their evictions are events of their own. -/
structure Follows (settings : Settings) (s : Service) (loop : ProbeLoop) : Prop where
  reached : (Machine.mk ProbeLoop.step).Reaches settings.healthProbeLoop loop
  ips : loop.ips = settings.probeIps
  healthy : loop.healthy = s.healthy
  probing : ∀ round, s.task = .probing round → loop.round = some round
  sleeping : s.task = .sleeping → loop.round = none

def Monitored (settings : Settings) (s : Service) : Prop :=
  ((s.task = .created ∨ s.task = .cancelled) ∧ ∀ pool, s.healthy pool = ∅) ∨
    s.task ≠ .created ∧ ∃ loop, Follows settings s loop

theorem Follows.evict {loop : ProbeLoop} (follows : Follows settings s loop) {router : Router}
    (changed : router.pool.value.healthy = s.healthy pool ∨
      ∃ ip, router.pool.value.healthy = (s.healthy pool).erase ip) :
    ∃ loop, Follows settings (s.withRouter pool router) loop := by
  rcases changed with same | ⟨ip, less⟩
  · refine ⟨loop, follows.reached, follows.ips, ?_, follows.probing, follows.sleeping⟩
    rw [withRouter_healthy, same, Function.update_eq_self]
    exact follows.healthy
  · have moves := @ProbeLoop.Moves.evicted loop pool ip
    refine ⟨_, moves.reaches follows.reached, follows.ips, ?_, follows.probing, follows.sleeping⟩
    rw [withRouter_healthy, less, ← follows.healthy]

theorem Follows.gather {loop : ProbeLoop} (follows : Follows settings s loop) {round : Round}
    {results : List (String × Bool)} (probing : s.task = .probing round) (complete : round.results = some results)
    {router : Router}
    (stepped : (Router.machine hash).step (s.routers round.pool) (.probed results) = some router) :
    ∃ after, (Machine.mk ProbeLoop.step).Reaches settings.healthProbeLoop after ∧ after.ips = settings.probeIps ∧
      after.healthy = (s.withRouter round.pool router).healthy ∧ after.round = loop.following round.pool := by
  have running := follows.probing round probing
  have moves := ProbeLoop.Moves.gathered running complete
  refine ⟨_, moves.reaches follows.reached, follows.ips, ?_, rfl⟩
  rw [withRouter_healthy, Router.healthy_of_probed stepped, ← follows.healthy]
  show _ = Function.update loop.healthy round.pool (applyResults (s.healthy round.pool) results)
  rw [← follows.healthy]

theorem Monitored.step (monitored : Monitored settings s) (alone : ∀ pool, Alone settings hash pool (s.routers pool))
    (stepped : (machine settings hash).step s event = some next) : Monitored settings next := by
  cases moves_of_step stepped with
  | @called event pool asked router asks step =>
    have changed := Router.healthy_of_call (alone pool).free asks step
    rcases monitored with ⟨idle, empty⟩ | ⟨ran, loop, follows⟩
    · refine Or.inl ⟨idle, ?_⟩
      intro other
      rw [withRouter_healthy]
      by_cases same : other = pool
      · subst same
        rw [Function.update_self]
        have before : (s.routers other).pool.value.healthy = ∅ := empty other
        rcases changed with kept | ⟨ip, less⟩
        · rw [kept, before]
        · rw [less, before, Finset.erase_empty]
      · rw [Function.update_of_ne same]
        exact empty other
    · exact Or.inr ⟨ran, follows.evict changed⟩
  | started created =>
    rcases monitored with ⟨-, empty⟩ | ⟨ran, -⟩
    · refine Or.inr ⟨by simp, settings.healthProbeLoop, .refl _ _, settings.healthProbeLoop_ips, ?_, ?_, by simp⟩
      · rw [settings.healthProbeLoop_healthy]
        funext pool
        have before : (s.routers pool).pool.value.healthy = ∅ := empty pool
        show _ = (s.routers pool).pool.value.healthy ∪ (settings.probeIps pool).toFinset
        rw [before, Finset.empty_union]
      · intro round same
        cases same
        rfl
    · exact absurd created ran
  | answered reply probing asked =>
    rcases monitored with ⟨idle, -⟩ | ⟨-, loop, follows⟩
    · rw [probing] at idle
      simp at idle
    · have moves := ProbeLoop.Moves.answered reply (follows.probing _ probing) asked
      refine Or.inr ⟨by simp, _, moves.reaches follows.reached, follows.ips, follows.healthy, ?_, by simp⟩
      intro round same
      cases same
      rfl
  | textGathered probing name complete step =>
    rcases monitored with ⟨idle, -⟩ | ⟨-, loop, follows⟩
    · rw [probing] at idle
      simp at idle
    · rw [← name] at step
      obtain ⟨after, reached, ips, healthy, round⟩ := follows.gather probing complete step
      rw [name] at healthy round
      refine Or.inr ⟨by simp, after, reached, ips, healthy, ?_, by simp⟩
      intro following same
      cases same
      rw [round, ProbeLoop.following, follows.ips]
  | multimodalGathered probing name complete step =>
    rcases monitored with ⟨idle, -⟩ | ⟨-, loop, follows⟩
    · rw [probing] at idle
      simp at idle
    · rw [← name] at step
      obtain ⟨after, reached, ips, healthy, round⟩ := follows.gather probing complete step
      rw [name] at healthy round
      exact Or.inr ⟨by simp, after, reached, ips, healthy, by simp, fun _ => round⟩
  | slept sleeping =>
    rcases monitored with ⟨idle, -⟩ | ⟨-, loop, follows⟩
    · rw [sleeping] at idle
      simp at idle
    · have moves := ProbeLoop.Moves.slept (follows.sleeping sleeping)
      refine Or.inr ⟨by simp, _, moves.reaches follows.reached, follows.ips, follows.healthy, ?_, by simp⟩
      intro round same
      cases same
      rw [← follows.ips]
  | cancelled running =>
    rcases monitored with ⟨-, empty⟩ | ⟨-, loop, follows⟩
    · exact Or.inl ⟨Or.inr rfl, empty⟩
    · exact Or.inr ⟨by simp, loop, follows.reached, follows.ips, follows.healthy, by simp, by simp⟩

theorem monitored_reachable (reached : (machine settings hash).Reaches (start settings) s) :
    Monitored settings s := by
  have keeps : ∀ (s : Service) event next,
      (Monitored settings s ∧ ∀ pool, Alone settings hash pool (s.routers pool)) →
        (machine settings hash).step s event = some next →
          Monitored settings next ∧ ∀ pool, Alone settings hash pool (next.routers pool) :=
    fun _ _ _ before stepped => ⟨before.1.step before.2 stepped, alone_step before.2 stepped⟩
  refine (reached.invariant keeps ⟨Or.inl ⟨Or.inl rfl, ?_⟩, fun pool => .refl _ _⟩).1
  intro pool
  cases pool <;> rfl

/-- However the requests of both types, the probes and the start and end of the monitor interleave, each pool is in a
state that it can reach alone, and the monitor in one that it can reach beside nothing but evictions. -/
theorem parts_run_alone (reached : (machine settings hash).Reaches (start settings) s) :
    (∀ pool, (Router.machine hash).Reaches ⟨Monitor.unlocked (settings.pool (fun _ => ∅) pool), []⟩
      (s.routers pool)) ∧ Monitored settings s :=
  ⟨alone_reachable reached, monitored_reachable reached⟩

theorem parts_run_alone_started : ∃ s, (machine {} fun _ => 0).run (start {}) [.submit true none, .started] = some s ∧
    Monitored {} s := by
  refine ⟨_, rfl, ?_⟩
  exact (@parts_run_alone {} (fun _ => 0) _ ⟨[.submit true none, .started], rfl⟩).2

end Service

/-! ### The exported sizes -/

namespace Service
variable {settings : Settings} {hash : String → Int} {s next : Service} {event : ServiceEvent} {pool : PoolName}

def Gathers (s : Service) (pool : PoolName) (event : ServiceEvent) : Prop :=
  event = .gathered ∧ ∃ round, s.task = .probing round ∧ round.pool = pool

/-- The monitor is not about to probe the multimodal nodes, with the text nodes just counted. -/
def Settled (s : Service) : Prop :=
  s.task = .sleeping ∨ ∃ round, s.task = .probing round ∧ round.pool = .text

/-- A size on display is one the healthy set has at least fallen to since, unless the round of the text nodes has
been applied and that of the others has not. -/
structure Gauged (s : Service) : Prop where
  begun : s.task ≠ .created
  multimodal : (s.healthy .multimodal).card ≤ s.gauges .multimodal
  text : s.Settled → (s.healthy .text).card ≤ s.gauges .text

theorem healthy_of_call (alone : ∀ pool, Alone settings hash pool (s.routers pool)) {asked : RouterEvent}
    {router : Router} (asks : event.request = some (pool, asked))
    (step : (Router.machine hash).step (s.routers pool) asked = some router) (other : PoolName) :
    (s.withRouter pool router).healthy other ⊆ s.healthy other := by
  rw [withRouter_healthy]
  by_cases same : other = pool
  · subst same
    rw [Function.update_self]
    rcases Router.healthy_of_call (alone other).free asks step with kept | ⟨ip, less⟩
    · rw [kept]
      exact Finset.Subset.refl _
    · rw [less]
      exact Finset.erase_subset _ _
  · rw [Function.update_of_ne same]

theorem Gauged.step (gauged : s.Gauged) (alone : ∀ pool, Alone settings hash pool (s.routers pool))
    (stepped : (machine settings hash).step s event = some next) : next.Gauged := by
  cases moves_of_step stepped with
  | called asks step =>
    have fewer := fun other => Finset.card_le_card (healthy_of_call alone asks step other)
    exact ⟨gauged.begun, (fewer _).trans gauged.multimodal, fun settled => (fewer _).trans (gauged.text settled)⟩
  | started created => exact absurd created gauged.begun
  | answered reply probing asked =>
    refine ⟨by simp, gauged.multimodal, ?_⟩
    rintro (asleep | ⟨round, same, text⟩)
    · cases asleep
    · cases same
      exact gauged.text (Or.inr ⟨_, probing, text⟩)
  | @textGathered round results router probing name complete step =>
    refine ⟨by simp, ?_, ?_⟩
    · show ((s.withRouter .text router).healthy .multimodal).card ≤ _
      rw [withRouter_healthy, Function.update_of_ne (by simp)]
      exact gauged.multimodal
    · rintro (asleep | ⟨round, same, text⟩)
      · cases asleep
      · cases same
        cases text
  | multimodalGathered probing name complete step => exact ⟨by simp, le_rfl, fun _ => le_rfl⟩
  | slept sleeping => exact ⟨by simp, gauged.multimodal, fun _ => gauged.text (Or.inl sleeping)⟩
  | cancelled running =>
    refine ⟨by simp, gauged.multimodal, ?_⟩
    rintro (asleep | ⟨round, same, -⟩)
    · cases asleep
    · cases same

/-- Until the round of a pool is over, its gauge stays and only evictions change its healthy set. The text nodes are
counted again before the gauges are. -/
structure Since (pool : PoolName) (updated last : Service) : Prop where
  begun : last.task ≠ .created
  ahead : pool = .text → ∀ round, last.task = .probing round → round.pool = .text
  gauges : last.gauges = updated.gauges
  fewer : last.healthy pool ⊆ updated.healthy pool

theorem Since.step {updated : Service} (since : Since pool updated s) (unfinished : ¬s.Gathers pool event)
    (alone : ∀ pool, Alone settings hash pool (s.routers pool))
    (stepped : (machine settings hash).step s event = some next) : Since pool updated next := by
  obtain ⟨begun, ahead, gauges, fewer⟩ := since
  cases moves_of_step stepped with
  | called asks step =>
    exact ⟨begun, ahead, gauges, (healthy_of_call alone asks step pool).trans fewer⟩
  | started created => exact absurd created begun
  | answered reply probing asked =>
    refine ⟨by simp, fun text round same => ?_, gauges, fewer⟩
    have before := ahead text _ probing
    cases same
    exact before
  | @textGathered round results router probing name complete step =>
    have other : pool ≠ .text := by
      rintro rfl
      exact unfinished ⟨rfl, _, probing, name⟩
    refine ⟨by simp, fun text => absurd text other, gauges, ?_⟩
    show (s.withRouter .text router).healthy pool ⊆ _
    rw [withRouter_healthy, Function.update_of_ne other]
    exact fewer
  | multimodalGathered probing name complete step =>
    cases pool with
    | text => cases name.symm.trans (ahead rfl _ probing)
    | multimodal => exact absurd ⟨rfl, _, probing, name⟩ unfinished
  | slept sleeping =>
    refine ⟨by simp, fun _ round same => ?_, gauges, fewer⟩
    cases same
    rfl
  | cancelled running => exact ⟨by simp, nofun, gauges, fewer⟩

end Service
end LlamacppRay.Gateway
