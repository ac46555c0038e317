import LlamacppRay.Python.Lines
import LlamacppRay.Python.Program
import LlamacppRay.Cron.LlamaCppSync

/-! The sync job over all nodes. How each remote call of each node ends is an input; the calls that are made
show in what the job emits. -/

namespace LlamacppRay.Cron.SyncJob
open LlamacppRay.Python

/-- The remote calls made for a node; the files are named by their path below the repository. -/
inductive Step where
  | probe
  | checkDependencies
  | installDependencies
  | makeDirectories
  | rsync
  | testFile (file : String)
  | build
  deriving DecidableEq

inductive RunError where
  | timeoutExpired
  | osError
  | unicodeDecodeError

/-- `subprocess.CompletedProcess` -/
structure Completed where
  returncode : Int
  stdout : String

abbrev Outcome := Except RunError Completed

abbrev World := String → Step → Outcome

abbrev Job := Program (String × Step) RunError

/-! ### The steps of a node -/

/-- `run_ssh`, and the call of rsync. -/
def run (world : World) (ip : String) (step : Step) : Job Completed := do
  Program.emit (ip, step)
  Program.lift (world ip step)

/-- `str.lower`, as far as ASCII letters go. -/
def lower (s : String) : String := String.ofList (s.toList.map Char.toLower)

def isWslActive (world : World) (ip : String) : Job Bool :=
  Program.catching
    (do
      let result ← run world ip .probe
      return result.returncode = 0 && contains "ubuntu" (lower result.stdout))
    fun _ => some (pure false)

def getActiveNodes (world : World) : List String → Job (List String)
  | [] => pure []
  | ip :: rest => do
      let active ← isWslActive world ip
      let others ← getActiveNodes world rest
      return if active then ip :: others else others

/-- The check stands outside the `try` statement. -/
def ensureDependencies (world : World) (ip : String) : Job Bool := do
  let result ← run world ip .checkDependencies
  if result.returncode = 0 then return true
  Program.catching
    (do
      let result ← run world ip .installDependencies
      return result.returncode = 0)
    fun _ => some (pure false)

def ensureRemoteRepoStructure (world : World) (ip : String) : Job Bool := do
  let result ← run world ip .makeDirectories
  return result.returncode = 0

def changed (stdout : String) : Bool :=
  (splitlines stdout).any fun line => changedExtensions.any fun ext => contains ext line

def rsyncLlamaCpp (world : World) (ip : String) : Job (Bool × Bool) :=
  Program.catching
    (do
      let result ← run world ip .rsync
      if result.returncode ≠ 0 then return (false, false)
      return (true, changed result.stdout))
    fun _ => some (pure (false, false))

def validateFiles (world : World) (ip : String) : List String → Job Bool
  | [] => pure true
  | file :: rest => do
      let result ← run world ip (.testFile file)
      if result.returncode ≠ 0 then return false
      validateFiles world ip rest

def validateRequiredFiles (world : World) (ip : String) : Job Bool := validateFiles world ip requiredFiles

def buildRemote (world : World) (ip : String) : Job Bool :=
  Program.catching
    (do
      let result ← run world ip .build
      return result.returncode = 0)
    fun _ => some (pure false)

/-- The body of the loop of `main`, which has no `try` statement of its own. -/
def processNode (world : World) (ip : String) : Job Ending := do
  if !(← ensureDependencies world ip) then return .dependenciesFailed
  if !(← ensureRemoteRepoStructure world ip) then return .structureFailed
  let (syncOk, sourceChanged) ← rsyncLlamaCpp world ip
  if !syncOk then return .syncFailed
  if !sourceChanged then return .skippingBuild
  if !(← validateRequiredFiles world ip) then return .validationFailed
  if !(← buildRemote world ip) then return .buildFailed
  return .updated

/-- `main`, with the list of all nodes as an argument. -/
def main (world : World) (allNodeIps : List String) : Job Unit := do
  let activeNodes ← getActiveNodes world allNodeIps
  if activeNodes = [] then return
  Program.forEach (processNode world) activeNodes

def sourceNodeIp : String := "10.208.211.62"

def allNodeIps : List String :=
  ((List.range' 1 16).map fun i => "10.208.211." ++ toString (51 + i)).filter fun ip => ip ≠ sourceNodeIp

/-! ### How a call ends -/

def succeeded : Outcome → Bool
  | .ok result => result.returncode = 0
  | .error _ => false

def refused : Outcome → Bool
  | .ok result => result.returncode ≠ 0
  | .error _ => false

def raised : Outcome → Bool
  | .ok _ => false
  | .error _ => true

def reportsChange : Outcome → Bool
  | .ok result => result.returncode = 0 && changed result.stdout
  | .error _ => false

def answersUbuntu : Outcome → Bool
  | .ok result => result.returncode = 0 && contains "ubuntu" (lower result.stdout)
  | .error _ => false

theorem raised_iff {outcome : Outcome} : raised outcome = true ↔ ∃ e, outcome = .error e := by
  cases outcome with
  | ok result => simp [raised]
  | error e => simp [raised]

theorem not_succeeded_of_raised {outcome : Outcome} (broken : raised outcome = true) : succeeded outcome = false := by
  obtain ⟨e, rfl⟩ := raised_iff.mp broken
  rfl

/-! ### What each step of a node does -/

section Specifications
variable (world : World) (ip : String)

@[simp] theorem run_eq (step : Step) : run world ip step = ⟨[(ip, step)], world ip step⟩ := rfl

theorem isWslActive_eq : isWslActive world ip = ⟨[(ip, .probe)], .ok (answersUbuntu (world ip .probe))⟩ := by
  rw [isWslActive, run_eq]
  cases world ip .probe with
  | ok result => rfl
  | error e => rfl

def activeNodes (allNodeIps : List String) : List String :=
  allNodeIps.filter fun ip => answersUbuntu (world ip .probe)

theorem getActiveNodes_eq (nodes : List String) :
    getActiveNodes world nodes = ⟨nodes.map fun ip => (ip, .probe), .ok (activeNodes world nodes)⟩ := by
  induction nodes with
  | nil => rfl
  | cons ip rest ih =>
    rw [getActiveNodes, isWslActive_eq, ih]
    cases active : answersUbuntu (world ip .probe) with
    | true => simp [activeNodes, active]
    | false => simp [activeNodes, active]

/-- A call in a `try` statement: an exception counts as a failure. -/
theorem tried_eq (step : Step) :
    (Program.catching
        (do
          let result ← run world ip step
          return result.returncode = 0)
        fun _ => some (pure false) : Job Bool) =
      ⟨[(ip, step)], .ok (succeeded (world ip step))⟩ := by
  rw [run_eq]
  cases world ip step with
  | ok result => rfl
  | error e => rfl

theorem buildRemote_eq : buildRemote world ip = ⟨[(ip, .build)], .ok (succeeded (world ip .build))⟩ :=
  tried_eq world ip .build

theorem rsyncLlamaCpp_eq : rsyncLlamaCpp world ip =
    ⟨[(ip, .rsync)], .ok (succeeded (world ip .rsync), reportsChange (world ip .rsync))⟩ := by
  rw [rsyncLlamaCpp, run_eq]
  cases world ip .rsync with
  | error e => rfl
  | ok result =>
    by_cases good : result.returncode = 0
    · simp [good, succeeded, reportsChange, Program.catching]
    · simp [good, succeeded, reportsChange, Program.catching]

end Specifications
end LlamacppRay.Cron.SyncJob
