import LlamacppRay.Cron.Isolation

/-! The sync job over all nodes and over many nights. What its calls do to the files and builds of the nodes is told
call by call; on each node this comes to runs of that node alone. -/

namespace LlamacppRay.Cron.SyncJob
open LlamacppRay.Automata LlamacppRay.Python

/-! ### What the calls do -/

/-- A call of rsync or of the build command changes the node it is made for; the other calls only look, or provide
what is not modelled here. -/
def effect (runs : String → NodeRun) (nodes : String → Node) : String × Step → String → Node
  | (ip, .rsync) => Function.update nodes ip ((runs ip).synced (nodes ip))
  | (ip, .build) => Function.update nodes ip (Cron.buildRemote (runs ip) (nodes ip)).1
  | _ => nodes

def after (runs : String → NodeRun) (nodes : String → Node) (calls : List (String × Step)) : String → Node :=
  calls.foldl (effect runs) nodes

theorem after_append (runs : String → NodeRun) (nodes : String → Node) (calls later : List (String × Step)) :
    after runs nodes (calls ++ later) = after runs (after runs nodes calls) later :=
  List.foldl_append

section
variable {runs : String → NodeRun} {nodes : String → Node} {ip : String}

theorem effect_elsewhere {call : String × Step} (other : call.1 ≠ ip) : effect runs nodes call ip = nodes ip := by
  unfold effect
  split
  · exact Function.update_of_ne (Ne.symm other) _ _
  · exact Function.update_of_ne (Ne.symm other) _ _
  · rfl

theorem after_elsewhere {calls : List (String × Step)} (others : ∀ call ∈ calls, call.1 ≠ ip) :
    after runs nodes calls ip = nodes ip := by
  induction calls generalizing nodes with
  | nil => rfl
  | cons call rest ih =>
    have here := @ih (effect runs nodes call) fun other later => others other (List.mem_cons_of_mem _ later)
    exact here.trans (effect_elsewhere (others call List.mem_cons_self))

def Step.onNode (run : NodeRun) (node : Node) : Step → Node
  | .rsync => run.synced node
  | .build => (Cron.buildRemote run node).1
  | _ => node

theorem after_own (steps : List Step) :
    after runs nodes (steps.map fun step => (ip, step)) ip =
      steps.foldl (fun node step => step.onNode (runs ip) node) (nodes ip) := by
  induction steps generalizing nodes with
  | nil => rfl
  | cons step rest ih =>
    have first : effect runs nodes (ip, step) ip = step.onNode (runs ip) (nodes ip) := by
      cases step with
      | rsync | build => exact Function.update_self _ _ _
      | _ => rfl
    rw [List.map_cons, List.foldl_cons, ← first]
    exact ih

end

/-! ### The steps of one node -/

section
variable {run : NodeRun} {node : Node} {outcome : Step → Outcome}

theorem passed_if {broken : Prop} [Decidable broken] {done : Bool} (nothing : broken → done = false) :
    passed (if broken then .error () else .ok done) = done := by
  split
  next stopped => exact (nothing stopped).symm
  next => cases done <;> rfl

theorem Shows.syncs (shows : Shows run node outcome) (active : run.active = true) :
    run.syncs = repoReady outcome := by
  rw [NodeRun.syncs, active, shows.ensureDependencies, shows.ensureRemoteRepoStructure, passed_if, passed_if, repoReady,
    Bool.true_and]
  · exact not_succeeded_of_raised
  · intro broken
    obtain ⟨e, ended⟩ := raised_iff.mp broken
    rw [depsReady, ended]
    rfl

theorem Shows.builds (shows : Shows run node outcome) (active : run.active = true) :
    run.builds node = allowed outcome .build := by
  have validation : Cron.validateRequiredFiles run (run.synced node) = _ :=
    validateFiles_shown requiredFiles_nodup shows.files
  rw [NodeRun.builds, shows.syncs active, validation, passed_if not_all_of_broken, allowed, sourcesChanged,
    shows.changes, Bool.and_assoc (repoReady outcome)]

theorem foldl_plan (run : NodeRun) (node : Node) (outcome : Step → Outcome) :
    (plan outcome).foldl (fun node step => step.onNode run node) node =
      let synced := if allowed outcome .rsync then run.synced node else node
      if allowed outcome .build then (Cron.buildRemote run synced).1 else synced := by
  rw [plan, List.foldl_filter]
  simp [pipeline, requiredFiles, Step.onNode]

theorem Shows.after (shows : Shows run node outcome) (active : run.active = true) :
    (plan outcome).foldl (fun node step => step.onNode run node) node = (Cron.main run node).1 := by
  have syncs := shows.syncs active
  have builds := shows.builds active
  have rsync : allowed outcome .rsync = run.syncs := syncs.symm
  rw [foldl_plan, rsync, ← builds]
  rcases @NodeRun.main_cases run node with
    ⟨before, ending, result, -⟩ | ⟨reached, unbuilt, ending, result, -⟩ | ⟨reached, -, unbuilt, result⟩ |
    ⟨reached, built, result⟩
  · have unbuilt : run.builds node = false := by simp [NodeRun.builds, before]
    rw [result, before, unbuilt]
    rfl
  · rw [result, reached, unbuilt]
    rfl
  · rw [result, reached, unbuilt]
    rfl
  · rw [result, reached, built]
    rfl

end

/-! ### The nodes a job gets to -/

/-- The active nodes up to the first one at which a call raises outside a `try` statement. -/
def attempted (world : World) : List String → List String
  | [] => []
  | ip :: rest => ip :: if Broken (world ip) (plan (world ip)) then [] else attempted world rest

theorem attempted_sublist (world : World) (nodes : List String) : (attempted world nodes).Sublist nodes := by
  induction nodes with
  | nil => exact .slnil
  | cons ip rest ih =>
    rw [attempted]
    split
    · exact (List.nil_sublist rest).cons_cons ip
    · exact ih.cons_cons ip

theorem forEach_attempted (world : World) (nodes : List String) :
    (Program.forEach (processNode world) nodes).emissions = (attempted world nodes).flatMap (callsFor world) := by
  induction nodes with
  | nil => rfl
  | cons ip rest ih =>
    have follows := processNode_follows world ip
    rw [attempted, List.flatMap_cons]
    by_cases broken : Broken (world ip) (plan (world ip))
    · obtain ⟨e, failed⟩ := follows.fails broken
      rw [if_pos broken, Program.forEach_cons_of_error failed, List.flatMap_nil, List.append_nil]
      exact follows.takes
    · rw [if_neg broken, Program.forEach_cons_of_ok (follows.returns broken), ih]
      exact congrArg (· ++ _) follows.takes

theorem main_emissions (world : World) (nodes : List String) : (main world nodes).emissions =
    (nodes.map fun ip => (ip, .probe)) ++
      (attempted world (activeNodes world nodes)).flatMap (callsFor world) := by
  rw [main_eq, forEach_attempted]

section
variable {world : World} {runs : String → NodeRun} {fleet : String → Node} {nodes : List String} {ip : String}

theorem after_probes : after runs fleet (nodes.map fun ip => (ip, .probe)) = fleet := by
  induction nodes with
  | nil => rfl
  | cons ip rest ih => exact ih

theorem callsFor_elsewhere {others : List String} (absent : ip ∉ others) :
    ∀ call ∈ others.flatMap (callsFor world), call.1 ≠ ip := by
  intro call among
  obtain ⟨other, there, called⟩ := List.mem_flatMap.mp among
  obtain ⟨step, -, rfl⟩ := List.mem_map.mp called
  rintro rfl
  exact absent there

theorem after_main_absent (absent : ip ∉ attempted world (activeNodes world nodes)) :
    after runs fleet (main world nodes).emissions ip = fleet ip := by
  rw [main_emissions, after_append, after_probes]
  exact after_elsewhere (callsFor_elsewhere absent)

theorem after_main_attempted (distinct : nodes.Nodup) (among : ip ∈ attempted world (activeNodes world nodes))
    (shows : Shows (runs ip) (fleet ip) (world ip)) (active : (runs ip).active = true) :
    after runs fleet (main world nodes).emissions ip = (Cron.main (runs ip) (fleet ip)).1 := by
  have once : (attempted world (activeNodes world nodes)).Nodup :=
    (distinct.filter _).sublist (attempted_sublist _ _)
  obtain ⟨front, back, split⟩ := List.append_of_mem among
  rw [split, List.nodup_append, List.nodup_cons] at once
  obtain ⟨-, ⟨not_later, -⟩, apart⟩ := once
  have not_earlier : ip ∉ front := fun early => apart ip early ip List.mem_cons_self rfl
  have before : after runs fleet (front.flatMap (callsFor world)) ip = fleet ip :=
    after_elsewhere (callsFor_elsewhere not_earlier)
  rw [main_emissions, split, List.flatMap_append, List.flatMap_cons, after_append, after_probes, after_append,
    after_append, after_elsewhere (callsFor_elsewhere not_later), callsFor, after_own, before]
  exact shows.after active

end

/-! ### Job after job -/

/-- The nodes after some jobs, and how the loop body ended for each in the last job, if it got that far. -/
structure Fleet where
  nodes : String → Node
  endings : String → Ending

/-- A job: how its calls end, and what becomes of the nodes for which they are made. -/
structure Night where
  world : World
  runs : String → NodeRun

namespace Night
variable (night : Night) (allNodeIps : List String)

def attempts (ip : String) : Prop := ip ∈ attempted night.world (activeNodes night.world allNodeIps)

instance (ip : String) : Decidable (night.attempts allNodeIps ip) :=
  inferInstanceAs (Decidable (ip ∈ attempted night.world (activeNodes night.world allNodeIps)))

def own (ip : String) : NodeRun := { night.runs ip with active := decide (night.attempts allNodeIps ip) }

end Night

namespace Fleet

def start (files : String → Option Files) : Fleet where
  nodes ip := (Synced.start (files ip)).node
  endings _ := .notActive

def step (allNodeIps : List String) (fleet : Fleet) (night : Night) : Option Fleet :=
  some {
    nodes := after (night.own allNodeIps) fleet.nodes (main night.world allNodeIps).emissions
    endings := fun ip =>
      if night.attempts allNodeIps ip then
        match (processNode night.world ip).result with
        | .ok ending => ending
        | .error _ => .raised
      else .notActive }

def machine (allNodeIps : List String) : Machine Fleet Night := ⟨step allNodeIps⟩

def Shown (allNodeIps : List String) (fleet : Fleet) (night : Night) : Prop :=
  ∀ ip, night.attempts allNodeIps ip → Shows (night.own allNodeIps ip) (fleet.nodes ip) (night.world ip)

variable {allNodeIps : List String} {fleet next last : Fleet} {night : Night} {ip : String}

theorem own_step (distinct : allNodeIps.Nodup) (shown : Shown allNodeIps fleet night)
    (stepped : (machine allNodeIps).step fleet night = some next) (ip : String) :
    Cron.main (night.own allNodeIps ip) (fleet.nodes ip) = (next.nodes ip, next.endings ip) := by
  cases stepped
  by_cases attempts : night.attempts allNodeIps ip
  · have shows := shown ip attempts
    have active : (night.own allNodeIps ip).active = true := decide_eq_true attempts
    have follows := processNode_follows night.world ip
    refine Prod.ext (after_main_attempted distinct attempts shows active).symm ?_
    rw [shows.ending active]
    simp only [if_pos attempts]
    by_cases broken : Broken (night.world ip) (plan (night.world ip))
    · obtain ⟨e, failed⟩ := follows.fails broken
      rw [if_pos broken, failed]
    · rw [if_neg broken, follows.returns broken]
  · have idle : (night.own allNodeIps ip).active = false := decide_eq_false attempts
    refine Prod.ext ?_ ?_
    · rw [Cron.main, idle]
      exact (after_main_absent attempts).symm
    · rw [Cron.main, idle]
      exact (if_neg attempts).symm

theorem own_run (distinct : allNodeIps.Nodup) {nights : List Night}
    (shown : (machine allNodeIps).Along (Shown allNodeIps) fleet nights)
    (ran : (machine allNodeIps).run fleet nights = some last) (ip : String) (unbuilt : Bool) :
    ∃ left, Synced.machine.run ⟨fleet.nodes ip, fleet.endings ip, unbuilt⟩
      (nights.map fun night => night.own allNodeIps ip) = some ⟨last.nodes ip, last.endings ip, left⟩ := by
  induction nights generalizing fleet unbuilt with
  | nil =>
    cases ran
    exact ⟨unbuilt, rfl⟩
  | cons night rest ih =>
    rw [Machine.run_cons, Option.bind_eq_some_iff] at ran
    obtain ⟨next, stepped, ran⟩ := ran
    have first : Synced.machine.step ⟨fleet.nodes ip, fleet.endings ip, unbuilt⟩ (night.own allNodeIps ip) =
        some ⟨next.nodes ip, next.endings ip, (night.own allNodeIps ip).leavesUnbuilt (fleet.nodes ip) unbuilt⟩ := by
      simp only [Synced.machine, Synced.step, own_step distinct shown.1 stepped ip]
    obtain ⟨left, later⟩ := ih (shown.2 next stepped) ran
      ((night.own allNodeIps ip).leavesUnbuilt (fleet.nodes ip) unbuilt)
    refine ⟨left, ?_⟩
    rw [List.map_cons, Machine.run_cons, first]
    exact later

/-- Over any number of jobs and nodes each node comes to what its own runs make of it, and as long as none of these
skips the build with something left unbuilt, a node reported as done has a complete build of its source files. -/
theorem nodes_run_alone (distinct : allNodeIps.Nodup) {files : String → Option Files} {nights : List Night}
    (shown : (machine allNodeIps).Along (Shown allNodeIps) (start files) nights)
    (ran : (machine allNodeIps).run (start files) nights = some last) (ip : String) :
    (∃ left, Synced.machine.run (Synced.start (files ip)) (nights.map fun night => night.own allNodeIps ip) =
      some ⟨last.nodes ip, last.endings ip, left⟩) ∧
    (Synced.machine.Along Synced.Built (Synced.start (files ip)) (nights.map fun night => night.own allNodeIps ip) →
      (last.endings ip).finishes = true → (last.nodes ip).UpToDate) := by
  have fresh : Synced.start (files ip) = ⟨(start files).nodes ip, .notActive, (Synced.start (files ip)).unbuilt⟩ := by
    cases found : files ip <;> simp [start, found, Synced.start]
  obtain ⟨left, own⟩ := own_run distinct shown ran ip (Synced.start (files ip)).unbuilt
  rw [fresh]
  refine ⟨⟨left, own⟩, fun built finishes => ?_⟩
  have sound : Synced.Sound ⟨last.nodes ip, last.endings ip, left⟩ := by
    refine Machine.run_invariant_along ?_ ?_ built own
    · intro s run next sound met stepped
      exact Synced.sound_step sound met stepped
    · rw [← fresh]
      exact Synced.sound_start (files ip)
  exact sound.2 finishes

/-! Both nodes are to be given an edit, and the dependency check of the second one does not come back. -/

def twoNodes : List String := ["10.0.0.1", "10.0.0.2"]

def cutOff : Night where
  world ip step :=
    if ip = "10.0.0.2" ∧ step = .checkDependencies then .error .timeoutExpired
    else .ok ⟨0, if step = .rsync then Synced.edited.line else "ubuntu"⟩
  runs ip :=
    { Synced.runWith [Synced.edited] .completed with
      checkDependencies := if ip = "10.0.0.2" then .raised else .ran }

theorem cutOff_shows (ip : String) :
    Shows (cutOff.own twoNodes ip) ((start fun _ => some Synced.checkout).nodes ip) (cutOff.world ip) := by
  have apart : ∀ step, step ≠ .checkDependencies → cutOff.world ip step =
      .ok ⟨0, if step = .rsync then Synced.edited.line else "ubuntu"⟩ := by
    intro step other
    exact if_neg fun both => other both.2
  have changes : reportsChange (.ok ⟨0, Synced.edited.line⟩) =
      (true && (Synced.runWith [Synced.edited] .completed).transfer.changed) := by
    decide +kernel
  have there : ∀ file ∈ requiredFiles,
      (((Synced.runWith [Synced.edited] .completed).synced ⟨Synced.checkout, .absent⟩).files file).isSome = true := by
    decide +kernel
  constructor
  · by_cases second : ip = "10.0.0.2"
    · subst second
      rfl
    · have check : cutOff.world ip .checkDependencies = .ok ⟨0, "ubuntu"⟩ := if_neg fun both => second both.1
      have ran : (cutOff.own twoNodes ip).checkDependencies = .ran := if_neg second
      rw [check, ran]
      rfl
  · rw [apart _ (by simp)]
    rfl
  · rw [apart _ (by simp)]
    rfl
  · rw [apart _ (by simp)]
    rfl
  · rw [apart _ (by simp)]
    exact changes
  · intro file required
    rw [apart _ (by simp)]
    have found : testing (cutOff.own twoNodes ip)
        ((cutOff.own twoNodes ip).synced ((start fun _ => some Synced.checkout).nodes ip)) file = .ran :=
      if_pos (there file required)
    rw [found]
    rfl
  · rw [apart _ (by simp)]
    rfl

theorem nodes_run_alone_two : ∃ last,
    (machine twoNodes).run (start fun _ => some Synced.checkout) [cutOff] = some last ∧
    (last.nodes "10.0.0.1").UpToDate ∧ last.endings "10.0.0.2" = .raised := by
  have distinct : twoNodes.Nodup := by decide
  have shown : (machine twoNodes).Along (Shown twoNodes) (start fun _ => some Synced.checkout) [cutOff] :=
    ⟨fun ip _ => cutOff_shows ip, fun _ _ => trivial⟩
  have built : Synced.machine.Along Synced.Built (Synced.start (some Synced.checkout))
      ([cutOff].map fun night => night.own twoNodes "10.0.0.1") := by
    decide +kernel
  refine ⟨_, rfl, ?_, by decide +kernel⟩
  exact (nodes_run_alone distinct shown rfl "10.0.0.1").2 built (by decide +kernel)

end Fleet
end LlamacppRay.Cron.SyncJob
