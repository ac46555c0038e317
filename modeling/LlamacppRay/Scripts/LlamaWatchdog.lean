import LlamacppRay.Shell.Script

/-! The restart commands of the watchdog. How long each command takes and how each llama-server on the node
answers to SIGKILL are inputs; times are in milliseconds. -/

namespace LlamacppRay.Scripts
open LlamacppRay.Shell

/-- What becomes of a llama-server: it dies some time after so many SIGKILLs (none, for one that ends by
itself), or it is stuck. -/
inductive Fate where
  | never
  | after (kills delay : Nat)
  deriving DecidableEq

def Fate.deadAt (kills : List Nat) (now : Nat) : Fate → Bool
  | .never => false
  | .after count delay =>
    match (0 :: kills)[count]? with
    | some sent => sent + delay ≤ now
    | none => false

inductive Command where
  | pkill
  | sleep (seconds : Nat)
  | mv
  | nohup (arguments : List String)

inductive Test where
  | pgrep

structure Node where
  now : Nat
  /-- The number of commands and tests so far. -/
  executed : Nat
  kills : List Nat
  /-- For each launch the llama-servers that were alive at its side. -/
  launches : List (List Fate)

def Node.start : Node := ⟨0, 0, [], []⟩

def Node.pass (node : Node) (pace : Nat → Nat) : Node :=
  { node with now := node.now + pace node.executed, executed := node.executed + 1 }

def alive (servers : List Fate) (node : Node) : List Fate :=
  servers.filter fun fate => !fate.deadAt node.kills node.now

def runCommand (pace : Nat → Nat) (servers : List Fate) (node : Node) : Command → Node
  | .pkill => ({ node with kills := node.kills ++ [node.now] } : Node).pass pace
  | .sleep seconds => ({ node with now := node.now + 1000 * seconds } : Node).pass pace
  | .mv => node.pass pace
  | .nohup _ => ({ node with launches := node.launches ++ [alive servers node] } : Node).pass pace

def runTest (pace : Nat → Nat) (servers : List Fate) (node : Node) : Test → Node × Bool
  | .pgrep => (node.pass pace, alive servers node ≠ [])

def host (pace : Nat → Nat) (servers : List Fate) : Host Command Test Node where
  run command node := runCommand pace servers node command
  test test node := runTest pace servers node test

/-! ### The commands -/

def killWaitLoop : Script Command Test :=
  .loop 10 (.seq (.orBreak .pgrep) (.seq (.run .pkill) (.run (.sleep 1))))

def restartCommand (arguments : List String) : Script Command Test :=
  .seq killWaitLoop (.seq (.run .mv) (.run (.nohup arguments)))

def llamaServer : String := "/home/administrator/projects/local_llm/llama.cpp/build/bin/llama-server"
def textModel : String := "/mnt/d/Models/gemma-4-26b-qat/gemma-4-26B_q4_0-it.gguf"
def multimodalModel : String := "/mnt/d/Models/qwen-3-vl/Qwen3VL-8B-Instruct-Q8_0.gguf"
def multimodalMmproj : String := "/mnt/d/Models/qwen-3-vl/mmproj-Qwen3VL-8B-Instruct-Q8_0.gguf"
def controllerIp : String := "10.208.211.62"

/-- Whether the command runs on the controller itself or over SSH. -/
inductive Place where
  | eval
  | remoteExec (ip : String)

structure Restart where
  place : Place
  command : Script Command Test

def restartTextNode (ip : String) : Restart where
  place := if ip = controllerIp then .eval else .remoteExec ip
  command := restartCommand [llamaServer, "-m", textModel, "-ngl", "999", "-c", "65536", "--host", ip, "--port", "8080",
    "--parallel", "1", "--flash-attn", "auto", "--cache-type-k", "q4_0", "--cache-type-v", "q4_0", "--cont-batching",
    "--no-context-shift", "--metrics"]

def restartMultimodalNode (ip : String) : Restart where
  place := .remoteExec ip
  command := restartCommand [llamaServer, "-m", multimodalModel, "--mmproj", multimodalMmproj, "-ngl", "999",
    "-c", "65536", "--host", ip, "--port", "8080", "--parallel", "2", "--flash-attn", "auto", "--cache-type-k", "q8_0",
    "--cache-type-v", "q8_0", "--cont-batching", "--metrics"]

/-- The launches of a run of the command, each with the llama-servers that were alive at its side. -/
def launches (pace : Nat → Nat) (servers : List Fate) (command : Script Command Test) : List (List Fate) :=
  (exec (host pace servers) command Node.start).1.launches

def LaunchesAlone (pace : Nat → Nat) (servers : List Fate) (command : Script Command Test) : Prop :=
  ∀ beside ∈ launches pace servers command, beside = []

/-! ### Ten full rounds -/

def elapsed (pace : Nat → Nat) (count : Nat) : Nat := ((List.range count).map pace).sum

/-- The SIGKILLs of the first rounds. A round is a test and two commands, and sleeps one second. -/
def killTimes (pace : Nat → Nat) (rounds : Nat) : List Nat :=
  (List.range rounds).map fun round => elapsed pace (3 * round + 1) + 1000 * round

def launchTime (pace : Nat → Nat) : Nat := elapsed pace 31 + 10000

/-- The llama-server dies of at most ten SIGKILLs, and not later than the launch after ten rounds. -/
def Fate.InTime (pace : Nat → Nat) : Fate → Prop
  | .never => False
  | .after 0 delay => delay ≤ launchTime pace
  | .after (round + 1) delay =>
      round < 10 ∧ elapsed pace (3 * round + 1) + 1000 * round + delay ≤ launchTime pace

theorem elapsed_succ (pace : Nat → Nat) (count : Nat) :
    elapsed pace (count + 1) = elapsed pace count + pace count := by
  rw [elapsed, elapsed, List.range_succ, List.map_append, List.sum_append]
  simp

theorem elapsed_mono (pace : Nat → Nat) {first second : Nat} (le : first ≤ second) :
    elapsed pace first ≤ elapsed pace second := by
  induction second, le using Nat.le_induction with
  | base => exact le_rfl
  | succ second _ ih =>
    rw [elapsed_succ]
    omega

theorem killTimes_succ (pace : Nat → Nat) (rounds : Nat) : killTimes pace (rounds + 1) =
    killTimes pace rounds ++ [elapsed pace (3 * rounds + 1) + 1000 * rounds] := by
  rw [killTimes, killTimes, List.range_succ, List.map_append]
  rfl

theorem killTimes_prefix (pace : Nat → Nat) {first second : Nat} (le : first ≤ second) :
    killTimes pace first <+: killTimes pace second := by
  induction second, le using Nat.le_induction with
  | base => exact List.prefix_rfl
  | succ second _ ih =>
    rw [killTimes_succ]
    exact ih.trans (List.prefix_append _ _)

theorem Fate.deadAt_mono {fate : Fate} {kills more : List Nat} {now later : Nat} (front : kills <+: more)
    (le : now ≤ later) (dead : fate.deadAt kills now = true) : fate.deadAt more later = true := by
  cases fate with
  | never => cases dead
  | after count delay =>
    rw [deadAt] at dead ⊢
    cases sent : (0 :: kills)[count]? with
    | none =>
      rw [sent] at dead
      cases dead
    | some time =>
      obtain ⟨rest, rfl⟩ := front
      obtain ⟨bound, -⟩ := List.getElem?_eq_some_iff.mp sent
      have same : (0 :: (kills ++ rest))[count]? = some time := by
        rw [← List.cons_append, List.getElem?_append_left bound, sent]
      rw [sent] at dead
      rw [same]
      have early := of_decide_eq_true dead
      exact decide_eq_true (early.trans le)

theorem Fate.deadAt_launch {pace : Nat → Nat} {fate : Fate} :
    fate.deadAt (killTimes pace 10) (launchTime pace) = true ↔ fate.InTime pace := by
  cases fate with
  | never => exact iff_of_false Bool.false_ne_true not_false
  | after count delay =>
    cases count with
    | zero => simp [deadAt, InTime]
    | succ round =>
      rw [deadAt, List.getElem?_cons_succ, killTimes, List.getElem?_map, InTime]
      by_cases bound : round < 10
      · rw [List.getElem?_range bound]
        simp [bound]
      · rw [List.getElem?_eq_none (by simpa using bound)]
        simp [bound]

/-! ### The loop -/

structure At (pace : Nat → Nat) (count slept sent : Nat) (node : Node) : Prop where
  executed : node.executed = count
  now : node.now = elapsed pace count + 1000 * slept
  kills : node.kills = killTimes pace sent
  launches : node.launches = []

structure AllDead (pace : Nat → Nat) (servers : List Fate) (node : Node) : Prop where
  dead : ∀ fate ∈ servers, fate.deadAt node.kills node.now = true
  inTime : ∀ fate ∈ servers, fate.InTime pace
  launches : node.launches = []

section Loop
variable {pace : Nat → Nat} {servers : List Fate}

theorem alive_eq_nil {node : Node} :
    alive servers node = [] ↔ ∀ fate ∈ servers, fate.deadAt node.kills node.now = true := by
  rw [alive, List.filter_eq_nil_iff]
  simp

theorem At.pass {count slept sent : Nat} {node : Node} (here : At pace count slept sent node) :
    At pace (count + 1) slept sent (node.pass pace) := by
  refine ⟨congrArg (· + 1) here.executed, ?_, here.kills, here.launches⟩
  show node.now + pace node.executed = _
  rw [here.now, here.executed, elapsed_succ]
  omega

theorem AllDead.pass {node : Node} (all : AllDead pace servers node) : AllDead pace servers (node.pass pace) where
  dead := fun fate among => Fate.deadAt_mono List.prefix_rfl (Nat.le_add_right _ _) (all.dead fate among)
  inTime := all.inTime
  launches := all.launches

theorem poll_triple {round : Nat} (low : round < 10) :
    Triple (host pace servers) (At pace (3 * round) round round) (.orBreak .pgrep)
      (At pace (3 * round + 1) round round) (AllDead pace servers) := by
  apply Triple.orBreak
  · intro node here _
    exact here.pass
  · intro node here nobody
    have dead := alive_eq_nil.mp (not_not.mp (of_decide_eq_false nobody))
    have inTime : ∀ fate ∈ servers, fate.InTime pace := by
      intro fate among
      have front : node.kills <+: killTimes pace 10 := here.kills ▸ killTimes_prefix pace (by omega)
      have early : node.now ≤ launchTime pace := by
        have less := elapsed_mono pace (show 3 * round ≤ 31 by omega)
        have now := here.now
        rw [launchTime]
        omega
      exact Fate.deadAt_launch.mp (Fate.deadAt_mono front early (dead fate among))
    exact AllDead.pass ⟨dead, inTime, here.launches⟩

theorem kill_triple {round : Nat} :
    Triple (host pace servers) (At pace (3 * round + 1) round round) (.run .pkill)
      (At pace (3 * round + 2) round (round + 1)) (AllDead pace servers) := by
  apply Triple.run
  intro node here
  apply At.pass
  refine ⟨here.executed, here.now, ?_, here.launches⟩
  rw [killTimes_succ, ← here.kills, ← here.now]

theorem sleep_triple {round : Nat} :
    Triple (host pace servers) (At pace (3 * round + 2) round (round + 1)) (.run (.sleep 1))
      (At pace (3 * (round + 1)) (round + 1) (round + 1)) (AllDead pace servers) := by
  apply Triple.run
  intro node here
  show At pace (3 * round + 2 + 1) (round + 1) (round + 1) _
  apply At.pass
  refine ⟨here.executed, ?_, here.kills, here.launches⟩
  show node.now + 1000 * 1 = _
  rw [here.now]
  omega

/-- After the loop ten SIGKILLs have been sent, whatever they have done, or all servers are dead. -/
theorem killWaitLoop_triple :
    Triple (host pace servers) (At pace 0 0 0) killWaitLoop
      (fun node => At pace 30 10 10 node ∨ AllDead pace servers node) fun _ => False :=
  Triple.loop fun _ low => (poll_triple low).seq (kill_triple.seq sleep_triple)

def survivors (pace : Nat → Nat) (servers : List Fate) : List Fate :=
  servers.filter fun fate => !fate.deadAt (killTimes pace 10) (launchTime pace)

theorem survivors_eq_nil : survivors pace servers = [] ↔ ∀ fate ∈ servers, fate.InTime pace := by
  rw [survivors, List.filter_eq_nil_iff]
  simp [Fate.deadAt_launch]

theorem launch_triple (arguments : List String) :
    Triple (host pace servers) (fun node => At pace 30 10 10 node ∨ AllDead pace servers node)
      (.seq (.run .mv) (.run (.nohup arguments))) (fun node => node.launches = [survivors pace servers])
      fun _ => False := by
  have moves : Triple (host pace servers) (fun node => At pace 30 10 10 node ∨ AllDead pace servers node)
      (.run .mv) (fun node => At pace 31 10 10 node ∨ AllDead pace servers node) fun _ => False := by
    apply Triple.run
    intro node reached
    exact reached.imp At.pass AllDead.pass
  have starts : Triple (host pace servers) (fun node => At pace 31 10 10 node ∨ AllDead pace servers node)
      (.run (.nohup arguments)) (fun node => node.launches = [survivors pace servers]) fun _ => False := by
    apply Triple.run
    intro node reached
    show node.launches ++ [alive servers node] = _
    rcases reached with here | all
    · have now : node.now = launchTime pace := here.now
      rw [here.launches, List.nil_append, alive, here.kills, now, survivors]
    · rw [all.launches, List.nil_append, alive_eq_nil.mpr all.dead, survivors_eq_nil.mpr all.inTime]
  exact moves.seq starts

theorem launches_restartCommand (arguments : List String) :
    launches pace servers (restartCommand arguments) = [survivors pace servers] :=
  (killWaitLoop_triple.seq (launch_triple arguments)).result ⟨rfl, rfl, rfl, rfl⟩

theorem restartCommand_alone_iff (arguments : List String) :
    LaunchesAlone pace servers (restartCommand arguments) ↔ ∀ fate ∈ servers, fate.InTime pace := by
  rw [LaunchesAlone, launches_restartCommand, List.forall_mem_singleton, survivors_eq_nil]

end Loop

/-- Either restart command launches its server alone exactly when every llama-server on the node dies in time. -/
theorem launches_alone_iff (ip : String) (pace : Nat → Nat) (servers : List Fate) :
    (LaunchesAlone pace servers (restartTextNode ip).command ↔ ∀ fate ∈ servers, fate.InTime pace) ∧
      (LaunchesAlone pace servers (restartMultimodalNode ip).command ↔ ∀ fate ∈ servers, fate.InTime pace) :=
  ⟨restartCommand_alone_iff _, restartCommand_alone_iff _⟩

/-- A server stuck in a call to the GPU gets a second one at its side. -/
theorem stuck_server_joined :
    launches (fun _ => 0) [.never] (restartTextNode "10.208.211.52").command = [[.never]] ∧
      ¬LaunchesAlone (fun _ => 0) [.never] (restartTextNode "10.208.211.52").command := by
  have joined : launches (fun _ => 0) [.never] (restartTextNode "10.208.211.52").command = [[.never]] := rfl
  refine ⟨joined, ?_⟩
  intro alone
  have nobody := alone [.never] (joined ▸ List.mem_singleton_self _)
  cases nobody

/-! A SIGKILL in the last round has a second to do its work. -/

example : Fate.InTime (fun _ => 0) (.after 10 1000) ∧ ¬Fate.InTime (fun _ => 0) (.after 10 1001) := by
  simp [Fate.InTime, launchTime, elapsed]

end LlamacppRay.Scripts
