import LlamacppRay.Automata.Machine
import LlamacppRay.Cron.LlamaCppSync

/-! Runs of the sync job on one node. Whether to build is decided by what the run itself has
transferred; what the last build was made from is not recorded anywhere. -/

namespace LlamacppRay.Cron
open LlamacppRay.Automata

def Change.isContent : Change → Bool
  | .sent _ | .deleted => true
  | .attributes => false

def passed (result : Except Unit Bool) : Bool := result matches .ok true

theorem passed_iff {result : Except Unit Bool} : passed result = true ↔ result = .ok true := by
  unfold passed
  split
  · simp
  · rename_i unlike
    exact iff_of_false Bool.false_ne_true unlike

def Ending.finishes (ending : Ending) : Bool := ending matches .skippingBuild | .updated

namespace NodeRun
variable (run : NodeRun) (node : Node)

def syncs : Bool := run.active && passed (ensureDependencies run) && passed (ensureRemoteRepoStructure run)

/-- rsync, as far as it gets, transfers or deletes a source file. -/
def touches : Bool :=
  run.syncs && run.transfer.items.any fun item => isSource item.path && item.change.isContent

def idle : Bool := run.syncs && run.transfer.completed && !run.transfer.changed

def synced : Node := (rsyncLlamaCpp run.transfer node).1

def builds : Bool :=
  run.syncs && run.transfer.completed && run.transfer.changed && passed (validateRequiredFiles run (run.synced node))

variable {run}

theorem syncs_iff : run.syncs = true ↔
    run.active = true ∧ ensureDependencies run = .ok true ∧ ensureRemoteRepoStructure run = .ok true := by
  rw [syncs, Bool.and_eq_true, Bool.and_eq_true, passed_iff, passed_iff, and_assoc]

theorem main_of_stopped (stopped : run.syncs = false) :
    ∃ ending, main run node = (node, ending) ∧ ending.finishes = false := by
  cases active : run.active with
  | false => exact ⟨.notActive, by simp [main, active], rfl⟩
  | true =>
    cases dependencies : ensureDependencies run with
    | error => exact ⟨.raised, by simp [main, active, dependencies], rfl⟩
    | ok installed =>
      cases installed with
      | false => exact ⟨.dependenciesFailed, by simp [main, active, dependencies], rfl⟩
      | true =>
        cases directories : ensureRemoteRepoStructure run with
        | error => exact ⟨.raised, by simp [main, active, dependencies, directories], rfl⟩
        | ok made =>
          cases made with
          | false => exact ⟨.structureFailed, by simp [main, active, dependencies, directories], rfl⟩
          | true =>
            rw [syncs_iff.mpr ⟨active, dependencies, directories⟩] at stopped
            cases stopped

theorem main_of_broken_transfer (reached : run.syncs = true) (broken : run.transfer.completed = false) :
    main run node = (run.synced node, .syncFailed) := by
  obtain ⟨active, dependencies, directories⟩ := syncs_iff.mp reached
  simp [main, active, dependencies, directories, rsyncLlamaCpp, synced, broken]

theorem main_of_unchanged (reached : run.syncs = true) (completed : run.transfer.completed = true)
    (unchanged : run.transfer.changed = false) : main run node = (run.synced node, .skippingBuild) := by
  obtain ⟨active, dependencies, directories⟩ := syncs_iff.mp reached
  simp [main, active, dependencies, directories, rsyncLlamaCpp, synced, completed, unchanged]

section Validation
variable {node} (reached : run.syncs = true) (completed : run.transfer.completed = true)
  (changed : run.transfer.changed = true)
include reached completed changed

theorem main_of_raised (validated : validateRequiredFiles run (run.synced node) = .error ()) :
    main run node = (run.synced node, .raised) := by
  obtain ⟨active, dependencies, directories⟩ := syncs_iff.mp reached
  rw [synced, rsyncLlamaCpp] at validated
  simp [main, active, dependencies, directories, rsyncLlamaCpp, synced, completed, changed, validated]

theorem main_of_missing (validated : validateRequiredFiles run (run.synced node) = .ok false) :
    main run node = (run.synced node, .validationFailed) := by
  obtain ⟨active, dependencies, directories⟩ := syncs_iff.mp reached
  rw [synced, rsyncLlamaCpp] at validated
  simp [main, active, dependencies, directories, rsyncLlamaCpp, synced, completed, changed, validated]

theorem main_of_invalid (invalid : passed (validateRequiredFiles run (run.synced node)) = false) :
    ∃ ending, main run node = (run.synced node, ending) ∧ ending.finishes = false := by
  cases validated : validateRequiredFiles run (run.synced node) with
  | error => exact ⟨.raised, main_of_raised reached completed changed validated, rfl⟩
  | ok valid =>
    cases valid with
    | false => exact ⟨.validationFailed, main_of_missing reached completed changed validated, rfl⟩
    | true =>
      rw [validated] at invalid
      cases invalid

end Validation

theorem main_of_builds (builds : run.builds node = true) :
    main run node = ((buildRemote run (run.synced node)).1,
      if (buildRemote run (run.synced node)).2 then .updated else .buildFailed) := by
  simp only [NodeRun.builds, Bool.and_eq_true, passed_iff] at builds
  obtain ⟨⟨⟨reached, completed⟩, changed⟩, validated⟩ := builds
  obtain ⟨active, dependencies, directories⟩ := syncs_iff.mp reached
  cases built : buildRemote run (run.synced node) with
  | mk after success =>
    rw [synced, rsyncLlamaCpp] at validated built
    cases success with
    | false => simp [main, active, dependencies, directories, rsyncLlamaCpp, completed, changed, validated, built]
    | true => simp [main, active, dependencies, directories, rsyncLlamaCpp, completed, changed, validated, built]

theorem main_cases :
    (run.syncs = false ∧ ∃ ending, main run node = (node, ending) ∧ ending.finishes = false) ∨
    (run.syncs = true ∧ run.builds node = false ∧
      ∃ ending, main run node = (run.synced node, ending) ∧ ending.finishes = false) ∨
    (run.syncs = true ∧ run.idle = true ∧ run.builds node = false ∧
      main run node = (run.synced node, .skippingBuild)) ∨
    (run.syncs = true ∧ run.builds node = true ∧
      main run node = ((buildRemote run (run.synced node)).1,
        if (buildRemote run (run.synced node)).2 then .updated else .buildFailed)) := by
  cases reached : run.syncs with
  | false => exact Or.inl ⟨rfl, main_of_stopped node reached⟩
  | true =>
    refine Or.inr ?_
    cases completed : run.transfer.completed with
    | false =>
      have unbuilt : run.builds node = false := by simp [builds, completed]
      exact Or.inl ⟨rfl, unbuilt, .syncFailed, main_of_broken_transfer node reached completed, rfl⟩
    | true =>
      cases changed : run.transfer.changed with
      | false =>
        have unbuilt : run.builds node = false := by simp [builds, changed]
        have idle : run.idle = true := by simp [idle, reached, completed, changed]
        exact Or.inr (Or.inl ⟨rfl, idle, unbuilt, main_of_unchanged node reached completed changed⟩)
      | true =>
        have builds_iff : run.builds node = passed (validateRequiredFiles run (run.synced node)) := by
          simp [builds, reached, completed, changed]
        cases valid : passed (validateRequiredFiles run (run.synced node)) with
        | false =>
          exact Or.inl ⟨rfl, builds_iff.trans valid, main_of_invalid reached completed changed valid⟩
        | true =>
          have built := builds_iff.trans valid
          exact Or.inr (Or.inr ⟨rfl, built, main_of_builds node built⟩)

variable (run)

/-- Whether sources or build directory of the node are changed without a completed build after it. -/
def leavesUnbuilt (unbuilt : Bool) : Bool :=
  if run.builds node then
    match run.building with
    | .completed | .unwatched => false
    | .notStarted => unbuilt || run.touches
    | .removed | .brokenOff => true
  else unbuilt || run.touches

end NodeRun

/-! ### Runs -/

/-- The node after some runs, how the last one ended, and whether source files were transferred or
deleted, or the build directory damaged, since a build was last completed. -/
structure Synced where
  node : Node
  ending : Ending
  unbuilt : Bool

namespace Synced

def step (s : Synced) (run : NodeRun) : Option Synced :=
  some ⟨(main run s.node).1, (main run s.node).2, run.leavesUnbuilt s.node s.unbuilt⟩

def machine : Machine Synced NodeRun := ⟨step⟩

def start : Option Files → Synced
  | none => ⟨⟨fun _ => none, .absent⟩, .notActive, true⟩
  | some files => ⟨⟨files, .complete (sources files)⟩, .notActive, false⟩

/-- A run that ends well leaves a complete build of the source files on the node. -/
def Truthful (s : Synced) : Prop := s.ending.finishes = true → s.node.UpToDate

/-- No run skips the build while something is left unbuilt. -/
def Built (s : Synced) (run : NodeRun) : Prop := run.idle = true → s.unbuilt = false

instance decidableBuilt (s : Synced) (run : NodeRun) : Decidable (s.Built run) :=
  inferInstanceAs (Decidable (run.idle = true → s.unbuilt = false))

def Sound (s : Synced) : Prop := (s.unbuilt = false → s.node.UpToDate) ∧ s.Truthful

variable {s next : Synced} {run : NodeRun}

theorem sources_synced {node : Node} (reached : run.syncs = true) (untouched : run.touches = false) :
    sources (run.synced node).files = sources node.files := by
  refine sources_apply fun item member source => ?_
  have still : item.change.isContent = false := by
    rw [NodeRun.touches, reached, Bool.true_and, List.any_eq_false] at untouched
    simpa [source] using untouched item member
  cases changed : item.change with
  | attributes => rfl
  | sent content => rw [changed] at still; cases still
  | deleted => rw [changed] at still; cases still

theorem upToDate_synced {node : Node} (fresh : node.UpToDate) (reached : run.syncs = true)
    (untouched : run.touches = false) : (run.synced node).UpToDate := by
  rw [Node.UpToDate, sources_synced reached untouched]
  exact fresh

theorem untouched_of_idle (idle : run.idle = true) : run.touches = false := by
  have quiet : run.transfer.changed = false := by
    have := idle
    simp only [NodeRun.idle, Bool.and_eq_true, Bool.not_eq_true'] at this
    exact this.2
  rw [NodeRun.touches, Bool.and_eq_false_iff]
  right
  apply List.any_eq_false.mpr
  intro item member both
  have source := (Bool.and_eq_true_iff.mp both).1
  rw [changed_of_source member source] at quiet
  cases quiet

theorem sound_step (sound : s.Sound) (built : s.Built run) (stepped : s.step run = some next) :
    next.Sound := by
  cases stepped
  obtain ⟨fresh, -⟩ := sound
  rcases NodeRun.main_cases s.node with
    ⟨before, ending, result, early⟩ | ⟨reached, unbuilt, ending, result, early⟩ |
    ⟨reached, idle, unbuilt, result⟩ | ⟨reached, builds, result⟩
  · rw [Sound, Truthful, result]
    refine ⟨fun clean => fresh ?_, fun ends => absurd ends (by simp [early])⟩
    simp only [NodeRun.leavesUnbuilt, NodeRun.builds, before, Bool.false_and, Bool.false_eq_true,
      ↓reduceIte, Bool.or_eq_false_iff] at clean
    exact clean.1
  · rw [Sound, Truthful, result]
    refine ⟨fun clean => ?_, fun ends => absurd ends (by simp [early])⟩
    simp only [NodeRun.leavesUnbuilt, unbuilt, Bool.false_eq_true, ↓reduceIte, Bool.or_eq_false_iff] at clean
    exact upToDate_synced (fresh clean.1) reached clean.2
  · have kept := upToDate_synced (fresh (built idle)) reached (untouched_of_idle idle)
    rw [Sound, Truthful, result]
    exact ⟨fun _ => kept, fun _ => kept⟩
  · rw [Sound, Truthful, result]
    simp only [NodeRun.leavesUnbuilt, builds, ↓reduceIte]
    cases building : run.building with
    | completed => simp [buildRemote, building, Node.UpToDate]
    | unwatched => simp [buildRemote, building, Node.UpToDate, Ending.finishes]
    | removed => simp [buildRemote, building, Ending.finishes]
    | brokenOff => simp [buildRemote, building, Ending.finishes]
    | notStarted =>
      simp only [buildRemote, building, Bool.or_eq_false_iff, Bool.false_eq_true, ↓reduceIte]
      refine ⟨fun clean => upToDate_synced (fresh clean.1) reached clean.2, fun ends => ?_⟩
      cases ends

theorem sound_start (files : Option Files) : (start files).Sound := by
  cases files with
  | none => exact ⟨fun clean => (by cases clean), fun ends => (by cases ends)⟩
  | some files => exact ⟨fun _ => rfl, fun ends => (by cases ends)⟩

/-- As long as no run skips the build with something left unbuilt, a run that says the node is
done leaves on it a complete build of exactly its source files. -/
theorem truthful_throughout (files : Option Files) (runs : List NodeRun)
    (built : machine.Along Built (start files) runs) : machine.Throughout Truthful (start files) runs :=
  Machine.throughout_of_along (fun _ _ _ sound met stepped => sound_step sound met stepped)
    (fun _ sound => sound.2) (sound_start files) built

/-! ### Two runs -/

def checkout : Files := fun path =>
  if path = "CMakeLists.txt" then some "project(llama.cpp)"
  else if path = "tools/mtmd/models/granite-speech.cpp" then some "// granite"
  else if path = "src/llama.cpp" then some "// first version"
  else none

def runWith (items : List Item) (building : Building) : NodeRun where
  active := true
  checkDependencies := .ran
  installDependencies := .ran
  makeDirectories := .ran
  transfer := ⟨items, true⟩
  validate := fun _ => .ran
  building := building

def edited : Item := ⟨"<f.st......", "src/llama.cpp", .sent "// second version"⟩

theorem truthful_throughout_runs :
    machine.Throughout Truthful (start (some checkout)) [runWith [edited] .completed, runWith [] .completed] :=
  truthful_throughout (some checkout) _ (by decide +kernel)

/-- The build of the edit breaks off; the next run has nothing to transfer and reports that there
is nothing to build, on a node without a build. -/
theorem not_truthful_throughout :
    ¬∀ (files : Option Files) (runs : List NodeRun), machine.Throughout Truthful (start files) runs := by
  intro always
  have ends := always (some checkout) [runWith [edited] .brokenOff, runWith [] .completed]
  have last := (ends.2 _ rfl).2 _ rfl
  have idle : (main (runWith [] .completed)
      (main (runWith [edited] .brokenOff) (start (some checkout)).node).1).2.finishes = true := by decide +kernel
  have built := last idle
  cases built

end Synced
end LlamacppRay.Cron
