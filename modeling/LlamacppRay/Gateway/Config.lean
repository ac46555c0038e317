import LlamacppRay.Automata.Machine
import LlamacppRay.Python.Separated
import LlamacppRay.Gateway.NodePool
import LlamacppRay.Gateway.ProbeRounds

/-! The settings from which the pools and the health monitor take their nodes. The text nodes are read three
times: by the validator, which writes them back as one text, by the pool and by the monitor. -/

namespace LlamacppRay.Gateway
open LlamacppRay.Automata LlamacppRay.Python

structure Settings where
  textNodeIps : String := "10.208.211.52,10.208.211.53,10.208.211.54,10.208.211.55," ++
    "10.208.211.56,10.208.211.57,10.208.211.58,10.208.211.62"
  textLlamaPort : Int := 8080
  textMaxQueuedRequests : Int := 20
  multimodalNodeIps : String := "10.208.211.60,10.208.211.61,10.208.211.63,10.208.211.64," ++
    "10.208.211.65,10.208.211.67"
  multimodalLlamaPort : Int := 8080
  multimodalMaxQueuedRequests : Int := 50
  llamaParallel : Int := 1
  multimodalLlamaParallel : Int := 2
  controllerNodeIp : String := "10.208.211.62"
  controllerAsWorker : Bool := false
  doclingNodeIp : String := "10.208.211.54"
  doclingNodeAsWorker : Bool := false

namespace Settings

def excluded (settings : Settings) : Finset String :=
  let excluded := if settings.controllerAsWorker then ∅ else {settings.controllerNodeIp}
  if settings.doclingNodeAsWorker then excluded else insert settings.doclingNodeIp excluded

/-- `[ip.strip() for ip in text_node_ips.split(",") if ip.strip() and ip.strip() not in excluded]` -/
def workers (settings : Settings) : List String :=
  ((split ',' settings.textNodeIps).filter fun ip => strip ip ≠ "" ∧ strip ip ∉ settings.excluded).map strip

/-- The validator `_apply_node_settings`. -/
def applyNodeSettings (settings : Settings) : Settings :=
  { settings with textNodeIps := ",".intercalate settings.workers }

def textPool (settings : Settings) (healthy : Finset String) : NodePool :=
  NodePool.makePool settings.textNodeIps settings.textLlamaPort settings.llamaParallel
    settings.textMaxQueuedRequests healthy

def multimodalPool (settings : Settings) (healthy : Finset String) : NodePool :=
  NodePool.makePool settings.multimodalNodeIps settings.multimodalLlamaPort settings.multimodalLlamaParallel
    settings.multimodalMaxQueuedRequests healthy

def pool (settings : Settings) (healthy : PoolName → Finset String) : PoolName → NodePool
  | .text => settings.textPool (healthy .text)
  | .multimodal => settings.multimodalPool (healthy .multimodal)

def healthProbeLoop (settings : Settings) : ProbeLoop :=
  ProbeLoop.start (parseIps settings.textNodeIps) (parseIps settings.multimodalNodeIps)

@[simp] theorem applyNodeSettings_excluded (settings : Settings) :
    settings.applyNodeSettings.excluded = settings.excluded := rfl

theorem mem_excluded {settings : Settings} {ip : String} :
    ip ∈ settings.excluded ↔ (settings.controllerAsWorker = false ∧ ip = settings.controllerNodeIp) ∨
      (settings.doclingNodeAsWorker = false ∧ ip = settings.doclingNodeIp) := by
  rw [excluded]
  cases settings.controllerAsWorker with
  | true => cases settings.doclingNodeAsWorker <;> simp
  | false =>
    cases settings.doclingNodeAsWorker with
    | true => simp
    | false =>
      simp only [Bool.false_eq_true, if_false, Finset.mem_insert, Finset.mem_singleton, true_and]
      exact or_comm

theorem workers_eq (settings : Settings) :
    settings.workers = (parseIps settings.textNodeIps).filter fun ip => ip ∉ settings.excluded := by
  rw [parseIps, splitStrip, List.filter_map, List.filter_filter, workers]
  congr 2
  funext part
  rw [Bool.decide_and, Bool.and_comm]
  rfl

theorem isToken_of_mem_workers {settings : Settings} {ip : String} (member : ip ∈ settings.workers) :
    IsToken ',' ip := by
  rw [workers_eq] at member
  exact isToken_of_mem_splitStrip (List.mem_filter.mp member).1

theorem not_mem_workers {settings : Settings} {ip : String} (barred : ip ∈ settings.excluded) :
    ip ∉ settings.workers := by
  intro member
  rw [workers_eq] at member
  exact of_decide_eq_true (List.mem_filter.mp member).2 barred

/-- What the validator wrote is read as the list it wrote. -/
theorem parseIps_applyNodeSettings (settings : Settings) :
    parseIps settings.applyNodeSettings.textNodeIps = settings.workers :=
  splitStrip_intercalate fun _ member => isToken_of_mem_workers member

theorem makePool_ips (csv : String) (port parallel maxQueued : Int) (healthy : Finset String) :
    (NodePool.makePool csv port parallel maxQueued healthy).ips = parseIps csv := rfl

/-- None of the nodes kept is excluded the second time. -/
theorem applyNodeSettings_workers (settings : Settings) :
    settings.applyNodeSettings.workers = settings.workers := by
  rw [workers_eq, parseIps_applyNodeSettings, applyNodeSettings_excluded, List.filter_eq_self]
  intro ip member
  exact decide_eq_true fun barred => not_mem_workers barred member

theorem applyNodeSettings_idempotent (settings : Settings) :
    settings.applyNodeSettings.applyNodeSettings = settings.applyNodeSettings := by
  have same := settings.applyNodeSettings_workers
  calc settings.applyNodeSettings.applyNodeSettings
    _ = { settings with textNodeIps := ",".intercalate settings.applyNodeSettings.workers } := rfl
    _ = settings.applyNodeSettings := by rw [same]; rfl

theorem workers_eq_parts (settings : Settings) :
    settings.workers = ((split ',' settings.textNodeIps).map strip).filter fun ip => ip ≠ "" ∧
      ¬(settings.controllerAsWorker = false ∧ ip = settings.controllerNodeIp) ∧
      ¬(settings.doclingNodeAsWorker = false ∧ ip = settings.doclingNodeIp) := by
  rw [workers_eq, parseIps, splitStrip_eq, List.filter_filter]
  congr 1
  funext ip
  rw [← Bool.decide_and]
  apply decide_eq_decide.mpr
  rw [mem_excluded, not_or, and_comm]

/-- The router and the health monitor work on the same nodes: those of the original text, in order and as
often as they stand there, without the two that do other work. -/
theorem node_lists_agree (settings : Settings) (port parallel maxQueued : Int) (healthy : Finset String) :
    (NodePool.makePool settings.applyNodeSettings.textNodeIps port parallel maxQueued healthy).ips =
        ((split ',' settings.textNodeIps).map strip).filter (fun ip => ip ≠ "" ∧
          ¬(settings.controllerAsWorker = false ∧ ip = settings.controllerNodeIp) ∧
          ¬(settings.doclingNodeAsWorker = false ∧ ip = settings.doclingNodeIp)) ∧
      parseIps settings.applyNodeSettings.textNodeIps =
        (NodePool.makePool settings.applyNodeSettings.textNodeIps port parallel maxQueued healthy).ips ∧
      (settings.controllerAsWorker = false →
        settings.controllerNodeIp ∉
            (NodePool.makePool settings.applyNodeSettings.textNodeIps port parallel maxQueued healthy).ips ∧
          settings.controllerNodeIp ∉ parseIps settings.applyNodeSettings.textNodeIps) ∧
      (settings.doclingNodeAsWorker = false →
        settings.doclingNodeIp ∉
            (NodePool.makePool settings.applyNodeSettings.textNodeIps port parallel maxQueued healthy).ips ∧
          settings.doclingNodeIp ∉ parseIps settings.applyNodeSettings.textNodeIps) ∧
      settings.applyNodeSettings.applyNodeSettings = settings.applyNodeSettings := by
  rw [makePool_ips, parseIps_applyNodeSettings]
  refine ⟨settings.workers_eq_parts, rfl, ?_, ?_, settings.applyNodeSettings_idempotent⟩
  · intro off
    have barred := not_mem_workers (mem_excluded.mpr (Or.inl ⟨off, rfl⟩))
    exact ⟨barred, barred⟩
  · intro off
    have barred := not_mem_workers (mem_excluded.mpr (Or.inr ⟨off, rfl⟩))
    exact ⟨barred, barred⟩

example : ({} : Settings).applyNodeSettings.textNodeIps =
    "10.208.211.52,10.208.211.53,10.208.211.55,10.208.211.56,10.208.211.57,10.208.211.58" := by
  decide +kernel

/-! ### The monitor probes the nodes of the pool -/

structure ProbesAll (ips : PoolName → List String) (state : ProbeLoop) : Prop where
  nodes : state.ips = ips
  asked : ∀ round, state.round = some round → round.answers.map Prod.fst = ips round.pool

theorem send_asks (pool : PoolName) (ips : List String) :
    (Round.send pool ips).answers.map Prod.fst = ips := by
  rw [Round.send, List.map_map]
  exact List.map_id' ips

theorem ProbesAll.step {ips : PoolName → List String} {state next : ProbeLoop} {event : ProbeEvent}
    (all : ProbesAll ips state) (stepped : state.step event = some next) : ProbesAll ips next := by
  cases ProbeLoop.step_iff.mp stepped with
  | @answered round index ip reply running asked =>
    refine ⟨all.nodes, ?_⟩
    intro after same
    cases same
    have before := all.asked round running
    have there : (round.answers.map Prod.fst)[index]? = some ip := by
      rw [List.getElem?_map, asked]
      rfl
    rw [← before, List.map_set]
    obtain ⟨bound, same⟩ := List.getElem?_eq_some_iff.mp there
    rw [← same]
    exact List.set_getElem_self bound
  | @gathered round results running complete =>
    refine ⟨all.nodes, ?_⟩
    intro after same
    cases pool : round.pool with
    | text =>
      simp only [ProbeLoop.following, pool, Option.some.injEq] at same
      rw [← same, send_asks, all.nodes]
      rfl
    | multimodal => simp [ProbeLoop.following, pool] at same
  | slept idle =>
    refine ⟨all.nodes, ?_⟩
    intro after same
    cases same
    rw [send_asks, all.nodes]
    rfl
  | evicted pool ip => exact ⟨all.nodes, all.asked⟩

theorem probesAll_start (textIps multimodalIps : List String) :
    ProbesAll (ProbeLoop.start textIps multimodalIps).ips (ProbeLoop.start textIps multimodalIps) := by
  refine ⟨rfl, ?_⟩
  intro round same
  cases same
  exact send_asks .text textIps

theorem rounds_probe_pool {settings : Settings} {state : ProbeLoop} {round : Round}
    (healthy : PoolName → Finset String) (reached : (Machine.mk ProbeLoop.step).Reaches settings.healthProbeLoop state)
    (running : state.round = some round) :
    round.answers.map Prod.fst = (settings.pool healthy round.pool).ips := by
  have start := probesAll_start (parseIps settings.textNodeIps) (parseIps settings.multimodalNodeIps)
  have all : ProbesAll settings.healthProbeLoop.ips state :=
    reached.invariant (fun _ _ _ before stepped => before.step stepped) start
  rw [all.asked round running]
  cases round.pool <;> rfl

end Settings
end LlamacppRay.Gateway
