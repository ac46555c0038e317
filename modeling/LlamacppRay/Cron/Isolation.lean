import LlamacppRay.Cron.Builds
import LlamacppRay.Cron.SyncJob

/-! What the nodes of a sync job have to do with each other. The steps a node allows are told from its own
outcomes; a job takes exactly these as long as no call outside a `try` statement raises. -/

namespace LlamacppRay.Cron.SyncJob
open LlamacppRay.Python

/-! ### The steps that the earlier ones allow -/

def depsReady (outcome : Step → Outcome) : Bool :=
  succeeded (outcome .checkDependencies) ||
    (refused (outcome .checkDependencies) && succeeded (outcome .installDependencies))

def repoReady (outcome : Step → Outcome) : Bool := depsReady outcome && succeeded (outcome .makeDirectories)

def sourcesChanged (outcome : Step → Outcome) : Bool := repoReady outcome && reportsChange (outcome .rsync)

def filePresent (outcome : Step → Outcome) (file : String) : Bool := succeeded (outcome (.testFile file))

def allowed (outcome : Step → Outcome) : Step → Bool
  | .probe => false
  | .checkDependencies => true
  | .installDependencies => refused (outcome .checkDependencies)
  | .makeDirectories => depsReady outcome
  | .rsync => repoReady outcome
  | .testFile file =>
      sourcesChanged outcome && (requiredFiles.takeWhile fun earlier => earlier ≠ file).all (filePresent outcome)
  | .build => sourcesChanged outcome && requiredFiles.all (filePresent outcome)

def pipeline : List Step :=
  [.checkDependencies, .installDependencies] ++ [.makeDirectories, .rsync] ++ requiredFiles.map .testFile ++ [.build]

def plan (outcome : Step → Outcome) : List Step := pipeline.filter fun step => allowed outcome step

/-- The calls that stand in a `try` statement. -/
def guarded : Step → Bool
  | .probe | .installDependencies | .rsync | .build => true
  | .checkDependencies | .makeDirectories | .testFile _ => false

/-- A call outside a `try` statement is among the steps and raises. -/
def Broken (outcome : Step → Outcome) (steps : List Step) : Prop :=
  ∃ step ∈ steps, guarded step = false ∧ raised (outcome step) = true

instance (outcome : Step → Outcome) (steps : List Step) : Decidable (Broken outcome steps) :=
  inferInstanceAs (Decidable (∃ step ∈ steps, guarded step = false ∧ raised (outcome step) = true))

/-! ### The files -/

def tested (present : String → Bool) (files : List String) : List String :=
  files.filter fun file => (files.takeWhile fun earlier => earlier ≠ file).all present

theorem tested_cons {present : String → Bool} {file : String} {rest : List String} (once : file ∉ rest) :
    tested present (file :: rest) = file :: if present file then tested present rest else [] := by
  have later : ∀ other ∈ rest, ((file :: rest).takeWhile fun earlier => earlier ≠ other).all present =
      (present file && (rest.takeWhile fun earlier => earlier ≠ other).all present) := by
    intro other among
    have different : file ≠ other := fun same => once (same ▸ among)
    simp [different]
  have first : ((file :: rest).takeWhile fun earlier => earlier ≠ file).all present = true := by simp
  rw [tested, List.filter_cons, if_pos first, List.filter_congr later]
  cases present file with
  | true => simp [tested]
  | false => simp

/-! ### Following a plan -/

/-- The program takes these steps; one that raises outside a `try` statement ends it, and else it returns the
value. -/
structure Follows {α : Type} (world : World) (ip : String) (p : Job α) (steps : List Step) (value : α) : Prop where
  takes : p.emissions = steps.map fun step => (ip, step)
  fails : Broken (world ip) steps → ∃ e, p.result = .error e
  returns : ¬Broken (world ip) steps → p.result = .ok value

theorem not_broken_nil (outcome : Step → Outcome) : ¬Broken outcome [] := by
  rintro ⟨step, among, -⟩
  cases among

theorem broken_append {outcome : Step → Outcome} {steps later : List Step} :
    Broken outcome (steps ++ later) ↔ Broken outcome steps ∨ Broken outcome later := by
  simp only [Broken, List.mem_append, or_and_right, exists_or]

theorem broken_cons {outcome : Step → Outcome} {step : Step} {later : List Step} :
    Broken outcome (step :: later) ↔
      (guarded step = false ∧ raised (outcome step) = true) ∨ Broken outcome later := by
  simp only [Broken, List.mem_cons, or_and_right, exists_or, exists_eq_left]

theorem broken_singleton {outcome : Step → Outcome} {step : Step} (bare : guarded step = false) :
    Broken outcome [step] ↔ raised (outcome step) = true := by
  simp [Broken, bare]

theorem not_broken_of_guarded {outcome : Step → Outcome} {steps : List Step}
    (wrapped : ∀ step ∈ steps, guarded step = true) : ¬Broken outcome steps := by
  rintro ⟨step, among, bare, -⟩
  cases (wrapped step among).symm.trans bare

section Rules
variable {world : World} {ip : String} {α β : Type}

theorem Follows.pure (value : α) : Follows world ip (pure value) [] value where
  takes := rfl
  fails := fun broken => absurd broken (not_broken_nil _)
  returns := fun _ => rfl

/-- What raises must leave nothing to do. -/
theorem Follows.bind {p : Job α} {next : α → Job β} {steps later : List Step} {value : α} {value' : β}
    (first : Follows world ip p steps value) (stops : Broken (world ip) steps → later = [])
    (rest : ¬Broken (world ip) steps → Follows world ip (next value) later value') :
    Follows world ip (p >>= next) (steps ++ later) value' := by
  by_cases broken : Broken (world ip) steps
  · obtain ⟨e, failed⟩ := first.fails broken
    rw [Program.bind_of_error failed, stops broken, List.append_nil]
    exact ⟨first.takes, fun _ => ⟨e, rfl⟩, fun calm => absurd broken calm⟩
  · have after := rest broken
    rw [Program.bind_of_ok (first.returns broken)]
    have same : Broken (world ip) (steps ++ later) ↔ Broken (world ip) later := by
      rw [broken_append, or_iff_right broken]
    refine ⟨?_, fun later => after.fails (same.mp later), fun calm => after.returns (calm ∘ same.mpr)⟩
    rw [List.map_append, ← first.takes, ← after.takes]

theorem Follows.run {step : Step} {next : Completed → Job β} {later : List Step} {value : β}
    (bare : guarded step = false) (stops : raised (world ip step) = true → later = [])
    (rest : ∀ result, world ip step = .ok result → Follows world ip (next result) later value) :
    Follows world ip (run world ip step >>= next) (step :: later) value := by
  cases ended : world ip step with
  | error e =>
    have broken : Broken (world ip) [step] := (broken_singleton bare).mpr (by rw [ended]; rfl)
    rw [run_eq, ended, stops (by rw [ended]; rfl)]
    exact ⟨rfl, fun _ => ⟨e, rfl⟩, fun calm => absurd broken calm⟩
  | ok result =>
    have calm : ¬Broken (world ip) [step] := by
      rw [broken_singleton bare, ended]
      exact Bool.false_ne_true
    have after := rest result ended
    have same : Broken (world ip) (step :: later) ↔ Broken (world ip) later := by
      rw [← List.singleton_append, broken_append, or_iff_right calm]
    rw [run_eq, ended]
    refine ⟨?_, fun later => after.fails (same.mp later), fun calm => after.returns (calm ∘ same.mpr)⟩
    rw [List.map_cons, ← after.takes]
    rfl

theorem Follows.guarded (step : Step) (value : α) (wrapped : guarded step = true) :
    Follows world ip ⟨[(ip, step)], .ok value⟩ [step] value where
  takes := rfl
  fails := fun broken => absurd broken (not_broken_of_guarded (by simpa using wrapped))
  returns := fun _ => rfl

end Rules

/-! ### One node -/

theorem requiredFiles_nodup : requiredFiles.Nodup := by decide

theorem plan_eq (outcome : Step → Outcome) : plan outcome =
    .checkDependencies :: ((if refused (outcome .checkDependencies) then [.installDependencies] else []) ++
      if depsReady outcome then
        .makeDirectories :: if succeeded (outcome .makeDirectories) then
          .rsync :: if reportsChange (outcome .rsync) then
            (tested (filePresent outcome) requiredFiles).map .testFile ++
              if requiredFiles.all (filePresent outcome) then [.build] else []
          else []
        else []
      else []) := by
  have files : (requiredFiles.map Step.testFile).filter (fun step => allowed outcome step) =
      if sourcesChanged outcome then (tested (filePresent outcome) requiredFiles).map .testFile else [] := by
    rw [List.filter_map]
    cases changes : sourcesChanged outcome with
    | true => simp [tested, Function.comp_def, allowed, changes]
    | false => simp [Function.comp_def, allowed, changes]
  have checks : [Step.checkDependencies, .installDependencies].filter (fun step => allowed outcome step) =
      .checkDependencies :: if refused (outcome .checkDependencies) then [.installDependencies] else [] := by
    simp [List.filter_cons, allowed]
  rw [plan, pipeline, List.filter_append, List.filter_append, List.filter_append, files, checks]
  cases ready : depsReady outcome with
  | false => simp [allowed, sourcesChanged, repoReady, ready]
  | true =>
    cases made : succeeded (outcome .makeDirectories) with
    | false => simp [allowed, sourcesChanged, repoReady, ready, made]
    | true =>
      cases changes : reportsChange (outcome .rsync) with
      | false => simp [allowed, sourcesChanged, repoReady, ready, made, changes]
      | true => simp [List.filter_cons, allowed, sourcesChanged, repoReady, ready, made, changes]

section OneNode
variable (world : World) (ip : String)

theorem ensureDependencies_follows : Follows world ip (ensureDependencies world ip)
    (.checkDependencies :: if refused (world ip .checkDependencies) then [.installDependencies] else [])
    (depsReady (world ip)) := by
  apply Follows.run rfl
  · intro broken
    obtain ⟨e, ended⟩ := raised_iff.mp broken
    rw [ended]
    rfl
  · intro result ended
    rw [ended, depsReady, ended, tried_eq]
    by_cases good : result.returncode = 0
    · simpa [good, refused, succeeded] using Follows.pure true
    · simpa [good, refused, succeeded] using Follows.guarded .installDependencies _ rfl

theorem ensureRemoteRepoStructure_follows : Follows world ip (ensureRemoteRepoStructure world ip)
    [.makeDirectories] (succeeded (world ip .makeDirectories)) := by
  apply Follows.run rfl fun _ => rfl
  intro result ended
  rw [ended]
  exact Follows.pure _

theorem validateFiles_follows {files : List String} (distinct : files.Nodup) :
    Follows world ip (validateFiles world ip files)
      ((tested (filePresent (world ip)) files).map Step.testFile) (files.all (filePresent (world ip))) := by
  induction files with
  | nil => exact Follows.pure true
  | cons file rest ih =>
    obtain ⟨once, distinct⟩ := List.nodup_cons.mp distinct
    rw [tested_cons once, List.map_cons, List.all_cons]
    apply Follows.run rfl
    · intro broken
      rw [filePresent, not_succeeded_of_raised broken]
      rfl
    · intro result ended
      have present : filePresent (world ip) file = decide (result.returncode = 0) := by
        rw [filePresent, ended]
        rfl
      rw [present]
      by_cases good : result.returncode = 0
      · simpa [good] using ih distinct
      · simpa [good] using Follows.pure false

def ending (outcome : Step → Outcome) : Ending :=
  if !depsReady outcome then .dependenciesFailed
  else if !succeeded (outcome .makeDirectories) then .structureFailed
  else if !succeeded (outcome .rsync) then .syncFailed
  else if !reportsChange (outcome .rsync) then .skippingBuild
  else if !requiredFiles.all (filePresent outcome) then .validationFailed
  else if !succeeded (outcome .build) then .buildFailed
  else .updated

theorem not_ready_of_broken {outcome : Step → Outcome}
    (broken : Broken outcome
      (.checkDependencies :: if refused (outcome .checkDependencies) then [.installDependencies] else [])) :
    depsReady outcome = false := by
  obtain ⟨step, among, bare, failed⟩ := broken
  rcases List.mem_cons.mp among with rfl | installs
  · obtain ⟨e, ended⟩ := raised_iff.mp failed
    rw [depsReady, ended]
    rfl
  · have wrapped : step = .installDependencies := by
      split at installs
      · exact List.mem_singleton.mp installs
      · cases installs
    rw [wrapped] at bare
    cases bare

theorem succeeded_of_reportsChange {outcome : Outcome} (changes : reportsChange outcome = true) :
    succeeded outcome = true := by
  cases outcome with
  | ok result => exact (Bool.and_eq_true_iff.mp changes).1
  | error e => cases changes

theorem not_all_of_broken {outcome : Step → Outcome} {files : List String}
    (broken : Broken outcome ((tested (filePresent outcome) files).map Step.testFile)) :
    files.all (filePresent outcome) = false := by
  obtain ⟨step, among, -, failed⟩ := broken
  obtain ⟨file, reached, rfl⟩ := List.mem_map.mp among
  rw [List.all_eq_false]
  refine ⟨file, List.mem_of_mem_filter reached, ?_⟩
  rw [filePresent, not_succeeded_of_raised failed]
  exact Bool.false_ne_true

/-- A `continue` of the loop body leaves nothing of the plan to do. -/
theorem processNode_follows : Follows world ip (processNode world ip) (plan (world ip)) (ending (world ip)) := by
  rw [plan_eq, ← List.cons_append]
  apply Follows.bind (ensureDependencies_follows world ip)
  · intro broken
    rw [not_ready_of_broken broken]
    rfl
  intro _
  cases ready : depsReady (world ip) with
  | false => simpa [ending, ready] using Follows.pure Ending.dependenciesFailed
  | true =>
    rw [if_pos rfl, ← List.singleton_append]
    apply Follows.bind (ensureRemoteRepoStructure_follows world ip)
    · intro broken
      rw [not_succeeded_of_raised ((broken_singleton rfl).mp broken)]
      rfl
    intro _
    cases made : succeeded (world ip .makeDirectories) with
    | false => simpa [ending, ready, made] using Follows.pure Ending.structureFailed
    | true =>
      rw [if_pos rfl, ← List.singleton_append, rsyncLlamaCpp_eq]
      apply Follows.bind (Follows.guarded .rsync _ rfl)
      · intro broken
        exact absurd broken (not_broken_of_guarded (by simp [guarded]))
      intro _
      cases changes : reportsChange (world ip .rsync) with
      | false =>
        cases synced : succeeded (world ip .rsync) with
        | false => simpa [ending, ready, made, synced] using Follows.pure Ending.syncFailed
        | true => simpa [ending, ready, made, synced, changes] using Follows.pure Ending.skippingBuild
      | true =>
        have synced := succeeded_of_reportsChange changes
        rw [synced, if_pos rfl]
        apply Follows.bind (validateFiles_follows world ip requiredFiles_nodup)
        · intro broken
          rw [not_all_of_broken broken]
          rfl
        intro _
        cases present : requiredFiles.all (filePresent (world ip)) with
        | false => simpa [ending, ready, made, synced, changes, present] using Follows.pure Ending.validationFailed
        | true =>
          rw [if_pos rfl, ← List.append_nil [Step.build], buildRemote_eq]
          apply Follows.bind (Follows.guarded .build _ rfl) (fun _ => rfl)
          intro _
          cases built : succeeded (world ip .build) with
          | false =>
            simpa [ending, ready, made, synced, changes, present, built] using Follows.pure Ending.buildFailed
          | true => simpa [ending, ready, made, synced, changes, present, built] using Follows.pure Ending.updated

theorem processNode_returns_iff :
    (∃ ending, (processNode world ip).result = .ok ending) ↔ ¬Broken (world ip) (plan (world ip)) := by
  have follows := processNode_follows world ip
  constructor
  · rintro ⟨ending, returned⟩ broken
    obtain ⟨e, failed⟩ := follows.fails broken
    cases returned.symm.trans failed
  · intro calm
    exact ⟨_, follows.returns calm⟩

end OneNode

/-! ### The whole job -/

def callsFor (world : World) (ip : String) : List (String × Step) := (plan (world ip)).map fun step => (ip, step)

section Jobs
variable {world : World} {nodes : List String}

theorem main_eq (world : World) (nodes : List String) : main world nodes =
    ⟨(nodes.map fun ip => (ip, .probe)) ++ (Program.forEach (processNode world) (activeNodes world nodes)).emissions,
      (Program.forEach (processNode world) (activeNodes world nodes)).result⟩ := by
  rw [main, getActiveNodes_eq, Program.mk_ok_bind]
  by_cases nobody : activeNodes world nodes = []
  · simp [nobody, Program.forEach]
  · simp [nobody]

theorem processNode_emissions (world : World) : (fun ip => (processNode world ip).emissions) = callsFor world := by
  funext ip
  exact (processNode_follows world ip).takes

theorem returns_of_calm (calm : ∀ ip ∈ nodes, ¬Broken (world ip) (plan (world ip))) :
    ∀ ip ∈ nodes, ∃ ending, (processNode world ip).result = .ok ending := by
  intro ip among
  exact (processNode_returns_iff world ip).mpr (calm ip among)

theorem main_of_calm (calm : ∀ ip ∈ activeNodes world nodes, ¬Broken (world ip) (plan (world ip))) :
    main world nodes =
      ⟨(nodes.map fun ip => (ip, .probe)) ++ (activeNodes world nodes).flatMap (callsFor world), .ok ()⟩ := by
  rw [main_eq, Program.forEach_of_ok (returns_of_calm calm), processNode_emissions]

theorem main_of_broken {front back : List String} {ip : String} (split : activeNodes world nodes = front ++ ip :: back)
    (calm : ∀ other ∈ front, ¬Broken (world other) (plan (world other)))
    (broken : Broken (world ip) (plan (world ip))) :
    (main world nodes).emissions =
        (nodes.map fun ip => (ip, .probe)) ++ (front.flatMap (callsFor world) ++ callsFor world ip) ∧
      ∃ e, (main world nodes).result = .error e := by
  obtain ⟨e, failed⟩ := (processNode_follows world ip).fails broken
  have takes := processNode_emissions world
  rw [main_eq, split, Program.forEach_of_error (returns_of_calm calm) failed, takes, congrFun takes ip]
  exact ⟨rfl, e, rfl⟩

/-- Every active node is checked, in order, each node's calls are those its own outcomes allow, and the job ends
normally. -/
structure Isolated (world : World) (nodes : List String) : Prop where
  checks : ((main world nodes).emissions.filter fun call => call.2 = .checkDependencies).map Prod.fst =
    activeNodes world nodes
  calls : (main world nodes).emissions =
    (nodes.map fun ip => (ip, .probe)) ++ (activeNodes world nodes).flatMap (callsFor world)
  ends : (main world nodes).result = .ok ()

theorem callsFor_checks (world : World) (ip : String) :
    ((callsFor world ip).filter fun call => call.2 = .checkDependencies).map Prod.fst = [ip] := by
  have own : ((plan (world ip)).filter fun step => step = .checkDependencies) = [.checkDependencies] := by
    rw [plan, List.filter_comm]
    have one : (pipeline.filter fun step => step = .checkDependencies) = [.checkDependencies] := by decide
    rw [one]
    rfl
  rw [callsFor, List.filter_map, Function.comp_def, own]
  rfl

/-- One bad node stops the job exactly when its dependency check, the command for the directories or a test of a
file is reached and raises. -/
theorem isolated_iff (world : World) (nodes : List String) :
    Isolated world nodes ↔ ∀ ip ∈ activeNodes world nodes, ∀ step ∈ plan (world ip),
      guarded step = false → raised (world ip step) = false := by
  have calm_iff (ip : String) : ¬Broken (world ip) (plan (world ip)) ↔
      ∀ step ∈ plan (world ip), guarded step = false → raised (world ip step) = false := by
    simp only [Broken, not_exists, not_and, Bool.not_eq_true]
  simp only [← calm_iff]
  constructor
  · intro isolated ip active
    have ended := isolated.ends
    rw [main_eq] at ended
    exact (processNode_returns_iff world ip).mp (Program.forEach_returns_iff.mp ended ip active)
  · intro calm
    have done := main_of_calm calm
    refine ⟨?_, by rw [done], by rw [done]⟩
    have probes : ((nodes.map fun ip => (ip, Step.probe)).filter fun call => call.2 = .checkDependencies) = [] := by
      simp
    rw [done, List.filter_append, probes, List.nil_append, List.filter_flatMap, List.map_flatMap]
    simp only [callsFor_checks, List.flatMap_singleton']

/-! The node whose dependency check does not come back, and all others in order. -/

def hangingCheck : World := fun ip step =>
  if ip = "10.208.211.52" ∧ step = .checkDependencies then .error .timeoutExpired else .ok ⟨0, "ubuntu"⟩

/-- Fourteen of the fifteen active nodes are never attempted. -/
theorem hanging_check_stops_job : activeNodes hangingCheck allNodeIps = allNodeIps ∧
    ("10.208.211.53", .checkDependencies) ∉ (main hangingCheck allNodeIps).emissions ∧
    ¬Isolated hangingCheck allNodeIps := by
  have active : activeNodes hangingCheck allNodeIps = allNodeIps := by decide +kernel
  have missed : ("10.208.211.53", .checkDependencies) ∉ (main hangingCheck allNodeIps).emissions := by
    decide +kernel
  refine ⟨active, missed, ?_⟩
  intro isolated
  have checked : "10.208.211.53" ∈
      ((main hangingCheck allNodeIps).emissions.filter fun call => call.2 = .checkDependencies).map Prod.fst := by
    rw [isolated.checks, active]
    decide +kernel
  obtain ⟨⟨ip, step⟩, among, rfl⟩ := List.mem_map.mp checked
  obtain ⟨emitted, same⟩ := List.mem_filter.mp among
  have check : step = .checkDependencies := of_decide_eq_true same
  subst check
  exact missed emitted

end Jobs

/-! ### The job and the run of one node

What a run of one node says of its commands is what their outcomes show. -/

def Shown : Command → Outcome → Prop
  | .ran, outcome => succeeded outcome = true
  | .failed, outcome => refused outcome = true
  | .raised, outcome => raised outcome = true

def testing (run : NodeRun) (node : Node) (file : String) : Command :=
  match run.validate file with
  | .ran => if (node.files file).isSome then .ran else .failed
  | .failed => .failed
  | .raised => .raised

structure Shows (run : NodeRun) (node : Node) (outcome : Step → Outcome) : Prop where
  check : Shown run.checkDependencies (outcome .checkDependencies)
  install : Shown run.installDependencies (outcome .installDependencies)
  directories : Shown run.makeDirectories (outcome .makeDirectories)
  transfer : succeeded (outcome .rsync) = run.transfer.completed
  changes : reportsChange (outcome .rsync) = (run.transfer.completed && run.transfer.changed)
  files : ∀ file ∈ requiredFiles,
    Shown (testing run (run.synced node) file) (outcome (.testFile file))
  build : succeeded (outcome .build) = (Cron.buildRemote run (run.synced node)).2

theorem shown_cases {command : Command} {outcome : Outcome} (shown : Shown command outcome) :
    command = .ran ∧ succeeded outcome = true ∧ refused outcome = false ∧ raised outcome = false ∨
      command = .failed ∧ succeeded outcome = false ∧ refused outcome = true ∧ raised outcome = false ∨
      command = .raised ∧ succeeded outcome = false ∧ refused outcome = false ∧ raised outcome = true := by
  cases outcome with
  | error e => cases command <;> simp_all [Shown, succeeded, refused, raised]
  | ok result => cases command <;> simp_all [Shown, succeeded, refused, raised]

section Runs
variable {run : NodeRun} {node : Node} {outcome : Step → Outcome}

theorem Shows.ensureDependencies (shows : Shows run node outcome) : Cron.ensureDependencies run =
    if raised (outcome .checkDependencies) then .error () else .ok (depsReady outcome) := by
  rw [Cron.ensureDependencies, depsReady]
  rcases shown_cases shows.check with ⟨same, ran, -, calm⟩ | ⟨same, failed, denied, calm⟩ | ⟨same, -, -, broken⟩
  · simp [same, ran, calm]
  · rcases shown_cases shows.install with ⟨again, ran, -, -⟩ | ⟨again, failed', -, -⟩ | ⟨again, failed', -, -⟩
    · simp [same, again, failed, denied, calm, ran]
    · simp [same, again, failed, calm, failed']
    · simp [same, again, failed, calm, failed']
  · simp [same, broken]

theorem Shows.ensureRemoteRepoStructure (shows : Shows run node outcome) : Cron.ensureRemoteRepoStructure run =
    if raised (outcome .makeDirectories) then .error () else .ok (succeeded (outcome .makeDirectories)) := by
  rw [Cron.ensureRemoteRepoStructure]
  rcases shown_cases shows.directories with ⟨same, ran, -, calm⟩ | ⟨same, failed, -, calm⟩ | ⟨same, -, -, broken⟩
  · simp [same, ran, calm]
  · simp [same, failed, calm]
  · simp [same, broken]

theorem validateFiles_of_ran {file : String} {rest : List String} (same : testing run node file = .ran) :
    Cron.validateFiles run node (file :: rest) = Cron.validateFiles run node rest := by
  rw [Cron.validateFiles]
  cases validated : run.validate file with
  | failed => simp [testing, validated] at same
  | raised => simp [testing, validated] at same
  | ran =>
    cases there : (node.files file).isSome with
    | true => rfl
    | false => simp [testing, validated, there] at same

theorem validateFiles_of_failed {file : String} {rest : List String} (same : testing run node file = .failed) :
    Cron.validateFiles run node (file :: rest) = .ok false := by
  rw [Cron.validateFiles]
  cases validated : run.validate file with
  | failed => rfl
  | raised => simp [testing, validated] at same
  | ran =>
    cases there : (node.files file).isSome with
    | true => simp [testing, validated, there] at same
    | false => rfl

theorem validateFiles_of_raised {file : String} {rest : List String} (same : testing run node file = .raised) :
    Cron.validateFiles run node (file :: rest) = .error () := by
  rw [Cron.validateFiles]
  cases validated : run.validate file with
  | failed => simp [testing, validated] at same
  | raised => rfl
  | ran => cases there : (node.files file).isSome <;> simp [testing, validated, there] at same

theorem validateFiles_shown {files : List String} (distinct : files.Nodup)
    (shown : ∀ file ∈ files, Shown (testing run node file) (outcome (.testFile file))) :
    Cron.validateFiles run node files =
      if Broken outcome ((tested (filePresent outcome) files).map Step.testFile) then .error ()
      else .ok (files.all (filePresent outcome)) := by
  induction files with
  | nil => simp [Cron.validateFiles, tested, not_broken_nil]
  | cons file rest ih =>
    obtain ⟨once, distinct⟩ := List.nodup_cons.mp distinct
    obtain ⟨first, later⟩ := List.forall_mem_cons.mp shown
    have present : filePresent outcome file = succeeded (outcome (.testFile file)) := rfl
    rw [tested_cons once, List.map_cons, List.all_cons, present]
    simp only [broken_cons]
    rcases shown_cases first with ⟨same, ran, -, calm⟩ | ⟨same, failed, -, calm⟩ | ⟨same, -, -, broken⟩
    · simp [validateFiles_of_ran same, ran, calm, ih distinct later]
    · simp [validateFiles_of_failed same, failed, calm, not_broken_nil]
    · simp [validateFiles_of_raised same, guarded, broken]

theorem Shows.ending_of_changed (shows : Shows run node outcome) (reached : run.syncs = true)
    (completed : run.transfer.completed = true) (changed : run.transfer.changed = true) :
    (Cron.main run node).2 =
      if Broken outcome ((tested (filePresent outcome) requiredFiles).map Step.testFile ++
        if requiredFiles.all (filePresent outcome) then [.build] else []) then .raised
      else if !requiredFiles.all (filePresent outcome) then .validationFailed
      else if !succeeded (outcome .build) then .buildFailed
      else .updated := by
  have build : ¬Broken outcome (if requiredFiles.all (filePresent outcome) then [.build] else []) :=
    not_broken_of_guarded (by split <;> simp [guarded])
  have validation : Cron.validateRequiredFiles run (run.synced node) = _ :=
    validateFiles_shown requiredFiles_nodup shows.files
  simp only [broken_append, build, or_false]
  by_cases stopped : Broken outcome ((tested (filePresent outcome) requiredFiles).map Step.testFile)
  · rw [if_pos stopped] at validation ⊢
    rw [NodeRun.main_of_raised reached completed changed validation]
  · rw [if_neg stopped] at validation ⊢
    cases present : requiredFiles.all (filePresent outcome) with
    | false =>
      rw [present] at validation
      rw [NodeRun.main_of_missing reached completed changed validation]
      rfl
    | true =>
      rw [present] at validation
      have builds : run.builds node = true := by
        rw [NodeRun.builds, reached, completed, changed, validation]
        rfl
      rw [NodeRun.main_of_builds node builds, ← shows.build]
      cases succeeded (outcome .build) <;> rfl

/-- The two models of a node's part in the job agree on how it ends. -/
theorem Shows.ending (shows : Shows run node outcome) (active : run.active = true) :
    (Cron.main run node).2 = if Broken outcome (plan outcome) then .raised else ending outcome := by
  have dependencies := shows.ensureDependencies
  have directories := shows.ensureRemoteRepoStructure
  have install : ¬Broken outcome (if refused (outcome .checkDependencies) then [.installDependencies] else []) :=
    not_broken_of_guarded (by split <;> simp [guarded])
  have none := not_broken_nil outcome
  rw [plan_eq]
  simp only [broken_cons, broken_append, install, false_or]
  cases checked : raised (outcome .checkDependencies) with
  | true => simp [Cron.main, active, dependencies, checked, guarded]
  | false =>
    rw [checked] at dependencies
    cases ready : depsReady outcome with
    | false => simp [Cron.main, active, dependencies, ready, none, SyncJob.ending]
    | true =>
      rw [ready] at dependencies
      cases broken : raised (outcome .makeDirectories) with
      | true => simp [Cron.main, active, dependencies, directories, broken_cons, broken, guarded]
      | false =>
        rw [broken] at directories
        cases made : succeeded (outcome .makeDirectories) with
        | false =>
          simp [Cron.main, active, dependencies, directories, made, none, broken_cons, broken, SyncJob.ending, ready]
        | true =>
          rw [made] at directories
          have reached : run.syncs = true := NodeRun.syncs_iff.mpr ⟨active, dependencies, directories⟩
          have transfer := shows.transfer
          have changes := shows.changes
          cases completed : run.transfer.completed with
          | false =>
            rw [completed] at transfer changes
            rw [NodeRun.main_of_broken_transfer node reached completed]
            simp [SyncJob.ending, ready, made, transfer, changes, none, broken_cons, broken, guarded]
          | true =>
            rw [completed] at transfer changes
            cases changed : run.transfer.changed with
            | false =>
              rw [changed] at changes
              rw [NodeRun.main_of_unchanged node reached completed changed]
              simp [SyncJob.ending, ready, made, transfer, changes, none, broken_cons, broken, guarded]
            | true =>
              rw [changed] at changes
              have rest := shows.ending_of_changed reached completed changed
              simp [rest, changes, broken_cons, broken, guarded, SyncJob.ending, ready, made, transfer]

end Runs
end LlamacppRay.Cron.SyncJob
