import Mathlib

/-! One node in a run of the sync job. What rsync does to the node, and where the steps fail, are
inputs of a run: the edits of the source tree show in what rsync transfers. -/

namespace LlamacppRay.Cron

def contains (part text : String) : Bool := decide (part.toList <:+: text.toList)
def endsWith (tail text : String) : Bool := decide (tail.toList <:+ text.toList)

/-! ### The node -/

/-- Files by their path below the repository; the build directory is kept apart. -/
abbrev Files := String → Option String

/-- The C, C++, header and CMakeLists files. -/
def isSource (path : String) : Bool :=
  ([".c", ".cc", ".cpp", ".cxx", ".h", ".hh", ".hpp", ".hxx"].any fun suffix => endsWith suffix path) ||
    path == "CMakeLists.txt" || endsWith "/CMakeLists.txt" path

def sources (files : Files) : Files := fun path => if isSource path then files path else none

/-- A complete build is told by the source files it was made from. -/
inductive Build where
  | absent
  | incomplete
  | complete (madeFrom : Files)

structure Node where
  files : Files
  build : Build

/-- The build directory is the product of the source files that are on the node. -/
def Node.UpToDate (node : Node) : Prop := node.build = .complete (sources node.files)

/-! ### What happens in a run -/

/-- A remote command: it runs to its end, it is reported as failed, or `subprocess` raises. -/
inductive Command where
  | ran
  | failed
  | raised

inductive Change where
  | sent (content : String)
  | deleted
  | attributes

structure Item where
  flags : String
  path : String
  change : Change

structure Transfer where
  items : List Item
  completed : Bool

inductive Building where
  | completed
  | notStarted
  | removed
  | brokenOff
  /-- The connection is lost and the build goes on to its end. -/
  | unwatched

structure NodeRun where
  active : Bool
  checkDependencies : Command
  installDependencies : Command
  makeDirectories : Command
  transfer : Transfer
  validate : String → Command
  building : Building

/-- How the loop body ends for the node; `raised` ends the whole job. -/
inductive Ending where
  | notActive
  | dependenciesFailed
  | structureFailed
  | syncFailed
  | skippingBuild
  | validationFailed
  | buildFailed
  | updated
  | raised
  deriving DecidableEq

/-! ### The steps -/

def ensureDependencies (run : NodeRun) : Except Unit Bool :=
  match run.checkDependencies with
  | .raised => .error ()
  | .ran => .ok true
  | .failed =>
    match run.installDependencies with
    | .ran => .ok true
    | .failed | .raised => .ok false

def ensureRemoteRepoStructure (run : NodeRun) : Except Unit Bool :=
  match run.makeDirectories with
  | .raised => .error ()
  | .ran => .ok true
  | .failed => .ok false

def Item.apply (item : Item) (files : Files) : Files :=
  match item.change with
  | .sent content => Function.update files item.path (some content)
  | .deleted => Function.update files item.path none
  | .attributes => files

def Item.line (item : Item) : String := item.flags ++ " " ++ item.path

def changedExtensions : List String := [".cpp", ".cc", ".c", ".h", ".hpp", "CMakeLists.txt"]

def Transfer.changed (transfer : Transfer) : Bool :=
  transfer.items.any fun item => changedExtensions.any fun ext => contains ext item.line

def Transfer.apply (transfer : Transfer) (files : Files) : Files :=
  transfer.items.foldl (fun files item => item.apply files) files

def rsyncLlamaCpp (transfer : Transfer) (node : Node) : Node × (Bool × Bool) :=
  ({ node with files := transfer.apply node.files },
    if transfer.completed then (true, transfer.changed) else (false, false))

def requiredFiles : List String := ["CMakeLists.txt", "tools/mtmd/models/granite-speech.cpp"]

def validateFiles (run : NodeRun) (node : Node) : List String → Except Unit Bool
  | [] => .ok true
  | file :: rest =>
    match run.validate file with
    | .raised => .error ()
    | .failed => .ok false
    | .ran => if (node.files file).isSome then validateFiles run node rest else .ok false

def validateRequiredFiles (run : NodeRun) (node : Node) : Except Unit Bool :=
  validateFiles run node requiredFiles

/-- `rm -rf build` and a build from scratch. -/
def buildRemote (run : NodeRun) (node : Node) : Node × Bool :=
  match run.building with
  | .completed => ({ node with build := .complete (sources node.files) }, true)
  | .notStarted => (node, false)
  | .removed => ({ node with build := .absent }, false)
  | .brokenOff => ({ node with build := .incomplete }, false)
  | .unwatched => ({ node with build := .complete (sources node.files) }, false)

/-- The body of the loop of `main`, for one node. -/
def main (run : NodeRun) (node : Node) : Node × Ending :=
  if !run.active then (node, .notActive)
  else
    match ensureDependencies run with
    | .error _ => (node, .raised)
    | .ok false => (node, .dependenciesFailed)
    | .ok true =>
      match ensureRemoteRepoStructure run with
      | .error _ => (node, .raised)
      | .ok false => (node, .structureFailed)
      | .ok true =>
        match rsyncLlamaCpp run.transfer node with
        | (node, (false, _)) => (node, .syncFailed)
        | (node, (true, false)) => (node, .skippingBuild)
        | (node, (true, true)) =>
          match validateRequiredFiles run node with
          | .error _ => (node, .raised)
          | .ok false => (node, .validationFailed)
          | .ok true =>
            match buildRemote run node with
            | (node, true) => (node, .updated)
            | (node, false) => (node, .buildFailed)

/-! ### What the test on the output covers -/

theorem contains_of_endsWith {part tail path text : String} (inside : contains part tail = true)
    (ends : endsWith tail path = true) (listed : path.toList <:+: text.toList) :
    contains part text = true := by
  have part_tail : part.toList <:+: tail.toList := of_decide_eq_true inside
  have tail_path : tail.toList <:+ path.toList := of_decide_eq_true ends
  exact decide_eq_true ((part_tail.trans tail_path.isInfix).trans listed)

theorem path_infix_line (item : Item) : item.path.toList <:+: item.line.toList := by
  rw [Item.line, String.toList_append]
  exact (List.suffix_append _ _).isInfix

theorem changed_of_source {transfer : Transfer} {item : Item} (member : item ∈ transfer.items)
    (source : isSource item.path = true) : transfer.changed = true := by
  have covered : ∀ tail ∈ [".c", ".cc", ".cpp", ".cxx", ".h", ".hh", ".hpp", ".hxx", "/CMakeLists.txt"],
      ∃ ext ∈ changedExtensions, contains ext tail = true := by decide
  have ends (tail : String) (listed : ∃ ext ∈ changedExtensions, contains ext tail = true)
      (ended : endsWith tail item.path = true) :
      ∃ ext ∈ changedExtensions, contains ext item.line = true := by
    obtain ⟨ext, known, inside⟩ := listed
    exact ⟨ext, known, contains_of_endsWith inside ended (path_infix_line item)⟩
  have found : ∃ ext ∈ changedExtensions, contains ext item.line = true := by
    rw [isSource, Bool.or_eq_true, Bool.or_eq_true, List.any_eq_true] at source
    rcases source with (⟨suffix, known, ended⟩ | root) | ended
    · exact ends suffix (covered suffix (List.mem_append_left ["/CMakeLists.txt"] known)) ended
    · have named : item.path = "CMakeLists.txt" := by simpa using root
      exact ends "CMakeLists.txt" (by decide) (by rw [named]; decide)
    · exact ends "/CMakeLists.txt" (by decide) ended
  obtain ⟨ext, known, inside⟩ := found
  exact List.any_eq_true.mpr ⟨item, member, List.any_eq_true.mpr ⟨ext, known, inside⟩⟩

theorem sources_apply_item {item : Item} {files : Files}
    (kept : isSource item.path = true → item.change = .attributes) :
    sources (item.apply files) = sources files := by
  funext path
  rw [sources, sources]
  split
  next source =>
    by_cases same : path = item.path
    · rw [Item.apply, kept (same ▸ source)]
    · cases changed : item.change with
      | sent content =>
        rw [Item.apply, changed]
        exact Function.update_of_ne same _ _
      | deleted =>
        rw [Item.apply, changed]
        exact Function.update_of_ne same _ _
      | attributes => rw [Item.apply, changed]
  next => rfl

theorem sources_apply {transfer : Transfer} {files : Files}
    (kept : ∀ item ∈ transfer.items, isSource item.path = true → item.change = .attributes) :
    sources (transfer.apply files) = sources files := by
  rw [Transfer.apply]
  generalize transfer.items = items at kept
  induction items generalizing files with
  | nil => rfl
  | cons item rest ih =>
    rw [List.foldl_cons, ih fun other member => kept other (List.mem_cons_of_mem item member)]
    exact sources_apply_item (kept item List.mem_cons_self)

end LlamacppRay.Cron
