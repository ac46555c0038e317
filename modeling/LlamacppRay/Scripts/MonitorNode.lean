import LlamacppRay.Automata.Histories
import LlamacppRay.Automata.Machine
import LlamacppRay.Scripts.LlamaWatchdog

/-! The loop that the watchdog runs for each node, on its own and without end. What the node and the network do in
a cycle is an input; times are in milliseconds, and only curl, the restart command and the sleeps take any. -/

namespace LlamacppRay.Scripts
open LlamacppRay.Automata LlamacppRay.Automata.Histories

def POLL_INTERVAL : Nat := 30
def RESTART_WAIT : Nat := 120
def FAILURE_BACKOFFS_SECONDS : List Nat := [30, 30, 60, 120, 300, 300]

/-- The backoff after so many failures in a row, the last entry for all that are beyond the schedule. -/
def failureBackoff (consecutiveFailures : Nat) : Nat :=
  let idx := if FAILURE_BACKOFFS_SECONDS.length ≤ consecutiveFailures then FAILURE_BACKOFFS_SECONDS.length - 1
    else consecutiveFailures
  FAILURE_BACKOFFS_SECONDS.getD idx 0

structure Environment where
  /-- Whether a health check that starts at this time is answered, and how long it takes. -/
  healthy : Nat → Bool
  curl : Nat → Nat
  /-- How long the restart command takes, and whether it returns zero. -/
  took : Nat
  status : Bool
  /-- Whether the command is run on the node, whatever becomes of the connection to it. -/
  reached : Bool
  reached_of_status : status = true → reached = true
  /-- The llama-servers that are alive on the node, and its pace in the restart command. -/
  fates : List Fate
  pace : Nat → Nat

inductive Message where
  | down
  | restartFailed
  | recovered (seconds : Nat)
  | notRecovered
  | needsReboot (consecutiveFailures backoff : Nat)
  deriving DecidableEq

def Message.text (ip type : String) : Message → String
  | .down => ip ++ " (" ++ type ++ ") llama-server DOWN — restarting"
  | .restartFailed =>
    if type = "multimodal" then ip ++ " SSH restart command failed" else ip ++ " restart command failed"
  | .recovered seconds => ip ++ " (" ++ type ++ ") recovered after " ++ toString seconds ++ "s"
  | .notRecovered => ip ++ " (" ++ type ++ ") FAILED to recover after " ++ toString RESTART_WAIT ++
      "s — will retry next cycle"
  | .needsReboot consecutiveFailures backoff => ip ++ " (" ++ type ++ ") " ++ toString consecutiveFailures ++
      " consecutive restart failures — likely needs a local/physical reboot (SSH unresponsive), backing off to " ++
      toString backoff ++ "s between attempts"

/-- `wait_for_health` from the head of its loop: when it returns, and whether the node has answered. -/
def waitForHealth (env : Environment) (now elapsed : Nat) : Nat × Bool :=
  if elapsed < RESTART_WAIT then
    if env.healthy now then (now + env.curl now, true)
    else waitForHealth env (now + env.curl now + 5000) (elapsed + 5)
  else (now, false)
termination_by RESTART_WAIT - elapsed

structure Checked where
  now : Nat
  succeeded : Bool
  /-- When the restart command was started, if it was. -/
  restarted : Option Nat
  /-- When it was over, if it returned zero. -/
  launched : Option Nat
  messages : List Message

def checkAndRestart (env : Environment) (now : Nat) : Checked :=
  let started := now + env.curl now
  if env.healthy now then ⟨started, true, none, none, []⟩
  else if env.status then
    let ended := started + env.took
    match waitForHealth env ended 0 with
    | (later, true) =>
      ⟨later, true, some started, some ended, [.down, .recovered (later / 1000 - started / 1000)]⟩
    | (later, false) => ⟨later, false, some started, some ended, [.down, .notRecovered]⟩
  else ⟨started + env.took, false, some started, none, [.down, .restartFailed]⟩

def restartNode (ip type : String) : Restart :=
  if type = "multimodal" then restartMultimodalNode ip else restartTextNode ip

/-- The llama-servers on the node after a launch: the one launched and those beside it. -/
def serversAfter (ip type : String) (env : Environment) (restarted : Bool) : Nat :=
  if restarted && env.reached then
    (launches env.pace env.fates (restartNode ip type).command).foldl (fun _ beside => beside.length + 1)
      env.fates.length
  else env.fates.length

structure Cycle where
  began : Nat
  succeeded : Bool
  restarted : Option Nat
  /-- The seconds slept. -/
  pause : Nat
  messages : List Message
  /-- The llama-servers on the node at its end. -/
  servers : Nat

def Cycle.failed (cycle : Cycle) : Bool := !cycle.succeeded

structure MonitorNode where
  now : Nat
  consecutiveFailures : Nat
  /-- When the last restart command that returned zero was over. -/
  launched : Option Nat
  servers : Nat
  cycles : List Cycle

namespace MonitorNode
variable (ip type : String)

def start (now servers : Nat) : MonitorNode := ⟨now, 0, none, servers, []⟩

def cycle (s : MonitorNode) (env : Environment) (checked : Checked) : Cycle where
  began := s.now
  succeeded := checked.succeeded
  restarted := checked.restarted
  pause := if checked.succeeded then POLL_INTERVAL else failureBackoff s.consecutiveFailures
  messages :=
    if checked.succeeded = false ∧ s.consecutiveFailures + 1 = 3 then
      checked.messages ++ [.needsReboot (s.consecutiveFailures + 1) (failureBackoff s.consecutiveFailures)]
    else checked.messages
  servers := serversAfter ip type env checked.restarted.isSome

def after (s : MonitorNode) (env : Environment) (checked : Checked) : MonitorNode where
  now := checked.now + 1000 * (s.cycle ip type env checked).pause
  consecutiveFailures := if checked.succeeded then 0 else s.consecutiveFailures + 1
  launched := checked.launched.or s.launched
  servers := (s.cycle ip type env checked).servers
  cycles := s.cycles ++ [s.cycle ip type env checked]

/-- One round of the loop. Servers may have ended since the last one, and none has come from elsewhere. -/
def step (s : MonitorNode) (env : Environment) : Option MonitorNode :=
  if env.fates.length ≤ s.servers then some (s.after ip type env (checkAndRestart env s.now)) else none

def machine : Machine MonitorNode Environment := ⟨step ip type⟩

end MonitorNode

/-! ### The wait for the new server -/

theorem waitForHealth_le {env : Environment} {now elapsed later : Nat} {answered : Bool}
    (waited : waitForHealth env now elapsed = (later, answered)) : now ≤ later := by
  fun_induction waitForHealth env now elapsed with
  | case1 now elapsed early up => cases waited; exact Nat.le_add_right _ _
  | case2 now elapsed early up ih => have := ih waited; omega
  | case3 now elapsed late => cases waited; exact le_rfl

theorem le_of_waitForHealth {env : Environment} {now elapsed later : Nat}
    (waited : waitForHealth env now elapsed = (later, false)) : now + 1000 * (RESTART_WAIT - elapsed) ≤ later := by
  fun_induction waitForHealth env now elapsed with
  | case1 now elapsed early up => cases waited
  | case2 now elapsed early up ih => have := ih waited; omega
  | case3 now elapsed late => cases waited; omega

/-- A check may take up to five seconds more, which the loop does not count. -/
theorem waitForHealth_bound {env : Environment} (quick : ∀ time, env.curl time ≤ 5000) {now elapsed later : Nat}
    {answered : Bool} (waited : waitForHealth env now elapsed = (later, answered)) :
    later ≤ now + 10000 * ((RESTART_WAIT - elapsed + 4) / 5) := by
  fun_induction waitForHealth env now elapsed with
  | case1 now elapsed early up =>
    cases waited
    have short := quick now
    omega
  | case2 now elapsed early up ih =>
    have later_bound := ih waited
    have short := quick now
    omega
  | case3 now elapsed late => cases waited; omega

theorem healthy_of_waitForHealth {env : Environment} {now elapsed later : Nat}
    (waited : waitForHealth env now elapsed = (later, true)) :
    ∃ time, now ≤ time ∧ time ≤ later ∧ env.healthy time = true := by
  fun_induction waitForHealth env now elapsed with
  | case1 now elapsed early up =>
    cases waited
    exact ⟨now, le_rfl, Nat.le_add_right _ _, up⟩
  | case2 now elapsed early up ih =>
    obtain ⟨time, from_now, to_later, answered⟩ := ih waited
    exact ⟨time, by omega, to_later, answered⟩
  | case3 now elapsed late => cases waited

/-! ### What one cycle can do -/

inductive Checks (env : Environment) (now : Nat) : Checked → Prop
  | up (answered : env.healthy now = true) : Checks env now ⟨now + env.curl now, true, none, none, []⟩
  | refused (down : env.healthy now = false) (failed : env.status = false) :
      Checks env now ⟨now + env.curl now + env.took, false, some (now + env.curl now), none, [.down, .restartFailed]⟩
  | recovered {later : Nat} (down : env.healthy now = false) (ran : env.status = true)
      (waited : waitForHealth env (now + env.curl now + env.took) 0 = (later, true)) :
      Checks env now ⟨later, true, some (now + env.curl now), some (now + env.curl now + env.took),
        [.down, .recovered (later / 1000 - (now + env.curl now) / 1000)]⟩
  | waited {later : Nat} (down : env.healthy now = false) (ran : env.status = true)
      (waited : waitForHealth env (now + env.curl now + env.took) 0 = (later, false)) :
      Checks env now ⟨later, false, some (now + env.curl now), some (now + env.curl now + env.took),
        [.down, .notRecovered]⟩

theorem checkAndRestart_cases (env : Environment) (now : Nat) : Checks env now (checkAndRestart env now) := by
  unfold checkAndRestart
  cases answered : env.healthy now with
  | true => exact .up answered
  | false =>
    cases status : env.status with
    | false => exact .refused answered status
    | true =>
      simp only [Bool.false_eq_true, if_false, if_true]
      generalize ends : waitForHealth env (now + env.curl now + env.took) 0 = wait
      obtain ⟨later, result⟩ := wait
      cases result with
      | true => exact .recovered answered status ends
      | false => exact .waited answered status ends

namespace Checks
variable {env : Environment} {now : Nat} {checked : Checked}

theorem restarted_between (checks : Checks env now checked) {time : Nat} (restarted : checked.restarted = some time) :
    now ≤ time ∧ time ≤ checked.now := by
  cases checks with
  | up => cases restarted
  | refused => cases restarted; simp
  | recovered down ran waited =>
    cases restarted
    exact ⟨Nat.le_add_right _ _, (Nat.le_add_right _ _).trans (waitForHealth_le waited)⟩
  | waited down ran waited =>
    cases restarted
    exact ⟨Nat.le_add_right _ _, (Nat.le_add_right _ _).trans (waitForHealth_le waited)⟩

theorem now_le (checks : Checks env now checked) : now ≤ checked.now := by
  cases checks with
  | up => exact Nat.le_add_right _ _
  | refused => exact (Nat.le_add_right _ _).trans (Nat.le_add_right _ _)
  | recovered down ran waited | waited down ran waited =>
    have later := waitForHealth_le waited
    exact ((Nat.le_add_right _ _).trans (Nat.le_add_right _ _)).trans later

theorem not_needsReboot (checks : Checks env now checked) (failures backoff : Nat) :
    .needsReboot failures backoff ∉ checked.messages := by
  cases checks <;> simp

end Checks

namespace MonitorNode
variable {ip type : String} {s next : MonitorNode} {env : Environment}

theorem step_eq_some (stepped : (machine ip type).step s env = some next) :
    env.fates.length ≤ s.servers ∧ ∃ checked, Checks env s.now checked ∧ next = s.after ip type env checked := by
  simp only [machine, step] at stepped
  split at stepped
  next known =>
    cases stepped
    exact ⟨known, _, checkAndRestart_cases env s.now, rfl⟩
  next => cases stepped

end MonitorNode

/-! ### The schedule -/

structure Cycle.Follows (failures : Nat) (cycle : Cycle) : Prop where
  pause : cycle.pause = if cycle.succeeded then POLL_INTERVAL else failureBackoff failures
  reboot : ∀ count backoff, .needsReboot count backoff ∈ cycle.messages ↔
    cycle.succeeded = false ∧ failures = 2 ∧ count = 3 ∧ backoff = failureBackoff 2

structure MonitorNode.Scheduled (s : MonitorNode) : Prop where
  failures : s.consecutiveFailures = streak Cycle.failed s.cycles
  follows : ∀ before cycle rest, s.cycles = before ++ cycle :: rest → cycle.Follows (streak Cycle.failed before)

namespace MonitorNode
variable {ip type : String} {s next : MonitorNode} {env : Environment}

theorem cycle_follows {checked : Checked} (checks : Checks env s.now checked) :
    (s.cycle ip type env checked).Follows s.consecutiveFailures := by
  have quiet := checks.not_needsReboot
  refine ⟨rfl, ?_⟩
  intro count backoff
  by_cases third : checked.succeeded = false ∧ s.consecutiveFailures = 2
  · simp [cycle, third, quiet]
  · have calm : ¬(checked.succeeded = false ∧ s.consecutiveFailures + 1 = 3) := by
      rintro ⟨failed, same⟩
      exact third ⟨failed, by omega⟩
    rw [cycle, if_neg calm]
    simp only [quiet, false_iff]
    rintro ⟨failed, same, -⟩
    exact third ⟨failed, same⟩

theorem Scheduled.step (scheduled : s.Scheduled) (stepped : (machine ip type).step s env = some next) :
    next.Scheduled := by
  obtain ⟨-, checked, checks, rfl⟩ := step_eq_some stepped
  constructor
  · show (if checked.succeeded then 0 else s.consecutiveFailures + 1) = streak Cycle.failed (s.cycles ++ [_])
    rw [streak_concat, scheduled.failures, Cycle.failed, cycle]
    cases checked.succeeded <;> rfl
  · intro before one rest split
    rcases split_concat split with ⟨shorter, -, old⟩ | ⟨-, rfl, rfl⟩
    · exact scheduled.follows before one shorter old
    · rw [← scheduled.failures]
      exact cycle_follows checks

theorem scheduled_reachable {now servers : Nat} (reached : (machine ip type).Reaches (start now servers) s) :
    s.Scheduled := by
  apply reached.invariant (fun _ _ _ before stepped => before.step stepped)
  exact ⟨rfl, by simp [start]⟩

end MonitorNode

end LlamacppRay.Scripts
