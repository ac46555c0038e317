import LlamacppRay.Scripts.MonitorNode

/-! The loop of the watchdog over whole runs: the backoffs of an outage and its one call for a reboot, how many
restart commands and servers an outage can pile up, when a second server runs beside the first, and which load times
the schedule leaves enough room for. -/

namespace LlamacppRay.Scripts
open LlamacppRay.Automata LlamacppRay.Automata.Histories

/-! ### The backoffs of an outage -/

def Cycle.asksReboot (cycle : Cycle) : Bool :=
  cycle.messages.any fun
    | .needsReboot _ _ => true
    | _ => false

theorem Cycle.Follows.asksReboot {failures : Nat} {cycle : Cycle} (follows : cycle.Follows failures) :
    cycle.asksReboot = true ↔ cycle.succeeded = false ∧ failures = 2 := by
  rw [Cycle.asksReboot, List.any_eq_true]
  constructor
  · rintro ⟨message, member, asks⟩
    cases message with
    | needsReboot count backoff =>
      have meets := (follows.reboot count backoff).mp member
      exact ⟨meets.1, meets.2.1⟩
    | _ => cases asks
  · rintro ⟨failed, third⟩
    exact ⟨_, (follows.reboot 3 (failureBackoff 2)).mpr ⟨failed, third, rfl, rfl⟩, rfl⟩

/-- Cycles of the history that all failed and that no failure comes before. -/
structure MonitorNode.Outage (s : MonitorNode) (before outage rest : List Cycle) : Prop where
  split : s.cycles = before ++ outage ++ rest
  failed : ∀ cycle ∈ outage, cycle.failed = true
  fresh : streak Cycle.failed before = 0

namespace MonitorNode
variable {ip type : String} {s : MonitorNode} {before outage rest : List Cycle}

theorem Outage.parts (out : s.Outage before outage rest) {index : Nat} (bound : index < outage.length) :
    s.cycles = (before ++ outage.take index) ++ outage[index] :: (outage.drop (index + 1) ++ rest) := by
  have cut : outage = outage.take index ++ outage[index] :: outage.drop (index + 1) := by
    rw [← List.drop_eq_getElem_cons bound, List.take_append_drop]
  calc s.cycles
    _ = before ++ outage ++ rest := out.split
    _ = before ++ (outage.take index ++ outage[index] :: outage.drop (index + 1)) ++ rest :=
        congrArg (before ++ · ++ rest) cut
    _ = (before ++ outage.take index) ++ outage[index] :: (outage.drop (index + 1) ++ rest) := by
        simp only [List.append_assoc, List.cons_append]

theorem Outage.follows (out : s.Outage before outage rest) (scheduled : s.Scheduled) {index : Nat}
    (bound : index < outage.length) : outage[index].Follows index := by
  have taken : ∀ cycle ∈ outage.take index, cycle.failed = true :=
    fun cycle member => out.failed cycle (List.mem_of_mem_take member)
  have follows := scheduled.follows _ _ _ (out.parts bound)
  rw [streak_append _ _ taken, out.fresh, Nat.zero_add, List.length_take_of_le bound.le] at follows
  exact follows

theorem Outage.pause (out : s.Outage before outage rest) (scheduled : s.Scheduled) {index : Nat}
    (bound : index < outage.length) : outage[index].pause = failureBackoff index := by
  have failed : outage[index].succeeded = false := by
    simpa [Cycle.failed] using out.failed _ (List.getElem_mem bound)
  rw [(out.follows scheduled bound).pause, failed]
  rfl

/-- An outage sleeps through the schedule from its beginning, and asks for a reboot in its third cycle only. -/
theorem outage_follows_schedule {now servers : Nat} (reached : (machine ip type).Reaches (start now servers) s)
    (out : s.Outage before outage rest) :
    outage.map Cycle.pause = (List.range outage.length).map failureBackoff ∧
      ∀ index (bound : index < outage.length), outage[index].asksReboot = true ↔ index = 2 := by
  have scheduled := scheduled_reachable reached
  constructor
  · apply List.ext_getElem (by simp)
    intro index bound _
    rw [List.length_map] at bound
    simp [out.pause scheduled bound]
  · intro index bound
    have failed : outage[index].succeeded = false := by
      simpa [Cycle.failed] using out.failed _ (List.getElem_mem bound)
    rw [(out.follows scheduled bound).asksReboot]
    simp [failed]

def unreachable : Environment where
  healthy _ := false
  curl _ := 0
  took := 0
  status := false
  reached := false
  reached_of_status ran := by cases ran
  fates := []
  pace _ := 0

theorem outage_follows_schedule_three : ∃ s,
    (machine "10.208.211.52" "text").run (start 0 0) [unreachable, unreachable, unreachable] = some s ∧
      s.cycles.map Cycle.pause = (List.range s.cycles.length).map failureBackoff := by
  have ends : (((machine "10.208.211.52" "text").run (start 0 0) [unreachable, unreachable, unreachable]).any
    fun s => s.cycles.all Cycle.failed) = true := rfl
  obtain ⟨s, ran, failed⟩ := Machine.run_of_any _ ends
  have out : s.Outage [] s.cycles [] := ⟨by simp, List.all_eq_true.mp failed, rfl⟩
  exact ⟨s, ran, (outage_follows_schedule ⟨_, ran⟩ out).1⟩

end MonitorNode

/-! ### Time and servers -/

theorem launches_restartNode (ip type : String) (pace : Nat → Nat) (servers : List Fate) :
    launches pace servers (restartNode ip type).command = [survivors pace servers] := by
  rw [restartNode]
  split
  · exact launches_restartCommand _
  · exact launches_restartCommand _

theorem serversAfter_eq (ip type : String) (env : Environment) (restarted : Bool) :
    serversAfter ip type env restarted =
      if restarted && env.reached then (survivors env.pace env.fates).length + 1 else env.fates.length := by
  rw [serversAfter, launches_restartNode]
  rfl

theorem serversAfter_le (ip type : String) (env : Environment) (restarted : Bool) :
    serversAfter ip type env restarted ≤ env.fates.length + 1 := by
  have fewer : (survivors env.pace env.fates).length ≤ env.fates.length := List.length_filter_le _ _
  rw [serversAfter_eq]
  split <;> omega

structure MonitorNode.Timed (s : MonitorNode) : Prop where
  chain : s.cycles.IsChain fun first second => first.began + 1000 * first.pause ≤ second.began
  past : ∀ cycle ∈ s.cycles.getLast?, cycle.began + 1000 * cycle.pause ≤ s.now
  restarts : ∀ cycle ∈ s.cycles, ∀ started ∈ cycle.restarted, cycle.began ≤ started

/-- The servers that are on the node after these cycles, of a node that had so many at the start. -/
def serversLeft (servers : Nat) (cycles : List Cycle) : Nat := (cycles.getLast?.map Cycle.servers).getD servers

theorem serversLeft_concat (servers : Nat) (cycles : List Cycle) (cycle : Cycle) :
    serversLeft servers (cycles ++ [cycle]) = cycle.servers := by
  rw [serversLeft, List.getLast?_concat]
  rfl

/-- Every cycle finds at most the servers that were left, and launches one more. -/
structure MonitorNode.Piled (servers : Nat) (s : MonitorNode) : Prop where
  left : s.servers = serversLeft servers s.cycles
  grows : ∀ before cycle rest, s.cycles = before ++ cycle :: rest → cycle.servers ≤ serversLeft servers before + 1

namespace MonitorNode
variable {ip type : String} {s next : MonitorNode} {env : Environment} {before outage rest : List Cycle}

theorem Timed.step (timed : s.Timed) (stepped : (machine ip type).step s env = some next) : next.Timed := by
  obtain ⟨-, checked, checks, rfl⟩ := step_eq_some stepped
  refine ⟨isChain_concat timed.chain timed.past, ?_, ?_⟩
  · intro last ends
    rw [after, List.getLast?_concat] at ends
    cases ends
    exact Nat.add_le_add_right checks.now_le _
  · intro other member
    rcases List.mem_append.mp member with old | new
    · exact timed.restarts other old
    · rw [List.mem_singleton.mp new]
      exact fun started restarted => (checks.restarted_between restarted).1

theorem timed_reachable {now servers : Nat} (reached : (machine ip type).Reaches (start now servers) s) :
    s.Timed := by
  apply reached.invariant (fun _ _ _ before stepped => before.step stepped)
  exact ⟨.nil, by simp [start], by simp [start]⟩

theorem Piled.step {servers : Nat} (piled : s.Piled servers) (stepped : (machine ip type).step s env = some next) :
    next.Piled servers := by
  obtain ⟨known, checked, -, rfl⟩ := step_eq_some stepped
  refine ⟨(serversLeft_concat servers _ _).symm, ?_⟩
  intro before cycle rest split
  rcases split_concat split with ⟨shorter, -, old⟩ | ⟨-, rfl, rfl⟩
  · exact piled.grows before cycle shorter old
  · rw [← piled.left]
    exact (serversAfter_le ip type env checked.restarted.isSome).trans (Nat.add_le_add_right known 1)

theorem piled_reachable {now servers : Nat} (reached : (machine ip type).Reaches (start now servers) s) :
    s.Piled servers := by
  apply reached.invariant (fun _ _ _ before stepped => before.step stepped)
  exact ⟨rfl, by simp [start]⟩

def slept (failures : Nat) : Nat := ((List.range failures).map failureBackoff).sum

theorem slept_succ (failures : Nat) : slept (failures + 1) = slept failures + failureBackoff failures := by
  rw [slept, List.range_succ, List.map_append, List.sum_append, List.map_singleton, List.sum_singleton]
  rfl

theorem failureBackoff_late {failures : Nat} (late : 4 ≤ failures) : failureBackoff failures = 300 := by
  by_cases last : failures = 4
  · subst last
    rfl
  · by_cases fifth : failures = 5
    · subst fifth
      rfl
    · have beyond : FAILURE_BACKOFFS_SECONDS.length ≤ failures := by
        show 6 ≤ failures
        omega
      rw [failureBackoff, if_pos beyond]
      rfl

/-- The fourth failure and every one after it are five minutes apart. -/
theorem le_slept (failures : Nat) : 300 * failures ≤ slept failures + 960 := by
  rcases Nat.le_total failures 4 with few | many
  · interval_cases failures <;> decide
  · induction failures, many using Nat.le_induction with
    | base => decide
    | succ failures many ih =>
      rw [slept_succ, failureBackoff_late many]
      omega

theorem Outage.began_le (out : s.Outage before outage rest) (scheduled : s.Scheduled) (timed : s.Timed)
    {index : Nat} (bound : index < outage.length) :
    outage[0].began + 1000 * slept index ≤ outage[index].began := by
  have part : outage <:+: s.cycles := ⟨before, rest, out.split.symm⟩
  have chain := timed.chain.infix part
  have pauses : (outage.take index).map (fun cycle => 1000 * cycle.pause) =
      (List.range index).map fun failures => 1000 * failureBackoff failures := by
    apply List.ext_getElem (by simpa using bound.le)
    intro place small _
    have inside : place < outage.length := by simp at small; omega
    simp [out.pause scheduled inside]
  have room := stamp_add_sum_le chain bound
  rw [pauses, List.sum_map_mul_left] at room
  exact room

theorem Outage.servers_le {servers : Nat} (out : s.Outage before outage rest) (piled : s.Piled servers) {index : Nat}
    (bound : index < outage.length) : outage[index].servers ≤ serversLeft servers before + (index + 1) := by
  have grows := piled.grows _ _ _ (out.parts bound)
  induction index with
  | zero => simpa using grows
  | succ index ih =>
    have shorter : index < outage.length := Nat.lt_of_succ_lt bound
    have earlier := ih shorter (piled.grows _ _ _ (out.parts shorter))
    rw [List.take_succ_eq_append_getElem shorter, ← List.append_assoc, serversLeft_concat] at grows
    omega

/-- In so many seconds an outage sees no more restart commands than the schedule has room for, and no more servers
pile up on the node beside those left before it, whether or not any of them dies. -/
theorem outage_bounded {now servers : Nat} (reached : (machine ip type).Reaches (start now servers) s)
    (out : s.Outage before outage rest) (seconds : Nat) : ∀ first ∈ outage.head?,
      300 * (outage.countP fun cycle => cycle.restarted.any (· ≤ first.began + 1000 * seconds)) ≤ seconds + 1260 ∧
      ∀ cycle ∈ outage, cycle.began ≤ first.began + 1000 * seconds →
        300 * cycle.servers ≤ 300 * serversLeft servers before + seconds + 1260 := by
  intro first begins
  have scheduled := scheduled_reachable reached
  have timed := timed_reachable reached
  have some_cycle : 0 < outage.length := by
    cases outage with
    | nil => cases begins
    | cons cycle later => simp
  have begun : first = outage[0] := by
    rw [List.head?_eq_getElem?, List.getElem?_eq_getElem some_cycle] at begins
    exact (Option.some.inj begins).symm
  subst begun
  have soon : ∀ index (bound : index < outage.length), outage[index].began ≤ outage[0].began + 1000 * seconds →
      300 * index ≤ seconds + 960 := by
    intro index bound early
    have began := out.began_le scheduled timed bound
    have enough := le_slept index
    omega
  constructor
  · have count : outage.countP (fun cycle => cycle.restarted.any (· ≤ outage[0].began + 1000 * seconds)) ≤
        (seconds + 960) / 300 + 1 := by
      apply countP_le
      intro index bound passed
      obtain ⟨started, restarted, early⟩ := (Option.any_eq_true _ _).mp passed
      have member : outage[index] ∈ s.cycles := by
        rw [out.split]
        exact List.mem_append_left _ (List.mem_append_right _ (List.getElem_mem bound))
      have began := timed.restarts _ member started restarted
      have place := soon index bound (began.trans (of_decide_eq_true early))
      omega
    omega
  · intro cycle member early
    obtain ⟨index, bound, rfl⟩ := List.getElem_of_mem member
    have few := out.servers_le (piled_reachable reached) bound
    have place := soon index bound early
    omega

/-- A cycle in which SSH drops after the launch, on a node whose servers do not die. -/
def cutOff (beside : Nat) : Environment :=
  { unreachable with reached := true, reached_of_status := fun _ => rfl, fates := List.replicate beside .never }

theorem outage_bounded_two : ∃ s first last,
    (machine "10.208.211.52" "text").run (start 0 1) [cutOff 1, cutOff 2] = some s ∧
      s.cycles = [first, last] ∧ first.servers = 2 ∧ last.servers = 3 ∧
        300 * (s.cycles.countP fun cycle => cycle.restarted.any (· ≤ first.began + 1000 * 30)) ≤ 30 + 1260 ∧
          300 * last.servers ≤ 300 * 1 + 30 + 1260 := by
  have piles : (((machine "10.208.211.52" "text").run (start 0 1) [cutOff 1, cutOff 2]).any
      fun s => s.cycles.map (fun cycle => (cycle.failed, cycle.servers, cycle.began)) =
        [(true, 2, 0), (true, 3, 30000)]) = true := rfl
  obtain ⟨s, ran, passed⟩ := Machine.run_of_any _ piles
  have seen := of_decide_eq_true passed
  obtain ⟨first, last, same⟩ := List.length_eq_two.mp (by simpa using congrArg List.length seen)
  simp only [same, List.map_cons, List.map_nil, List.cons.injEq, Prod.mk.injEq, and_true] at seen
  obtain ⟨⟨failed, two, begun⟩, failed_again, three, later⟩ := seen
  have out : s.Outage [] s.cycles [] := ⟨by simp, by simp [same, failed, failed_again], rfl⟩
  have bounded := outage_bounded ⟨_, ran⟩ out 30 first (by simp [same])
  exact ⟨s, first, last, ran, same, two, three, bounded.1, bounded.2 last (by simp [same]) (by omega)⟩

/-! ### One server at a time -/

def Replaces (s : MonitorNode) (env : Environment) : Prop :=
  env.healthy s.now = false → env.reached = true → ∀ fate ∈ env.fates, fate.InTime env.pace

theorem servers_step (few : s.servers ≤ 1) (stepped : (machine ip type).step s env = some next) :
    next.servers ≤ 1 ↔ s.Replaces env := by
  obtain ⟨known, checked, checks, rfl⟩ := step_eq_some stepped
  have restarted : checked.restarted.isSome = !env.healthy s.now := by
    cases checks with
    | up answered => simp [answered]
    | refused down failed | recovered down ran waited | waited down ran waited => simp [down]
  show serversAfter ip type env checked.restarted.isSome ≤ 1 ↔ _
  rw [serversAfter_eq, restarted, Replaces]
  cases down : env.healthy s.now with
  | true => simp [known.trans few]
  | false =>
    cases reached : env.reached with
    | false => simp [known.trans few]
    | true =>
      simp only [Bool.not_false, Bool.and_self, if_true, forall_const]
      rw [← survivors_eq_nil, ← List.length_eq_zero_iff]
      omega

/-- On a node with at most one llama-server the loop keeps it so exactly as long as no restart command is run beside
a server that does not die in time. -/
theorem one_server_iff {now servers : Nat} (few : servers ≤ 1) {events : List Environment} {last : MonitorNode}
    (ran : (machine ip type).run (start now servers) events = some last) :
    (machine ip type).Throughout (fun s => s.servers ≤ 1) (start now servers) events ↔
      (machine ip type).Along Replaces (start now servers) events :=
  @Machine.throughout_iff_along _ _ (machine ip type) (fun _ => True) (fun s => s.servers ≤ 1) Replaces
    (fun _ _ _ _ _ => trivial) (fun _ _ _ _ before stepped => servers_step before stepped) _ _ _ trivial few ran

/-- A cycle that restarts a node whose server dies of nothing and never answers. -/
def stuck : Environment :=
  { unreachable with status := true, reached := true, reached_of_status := fun _ => rfl, fates := [.never] }

def up : Environment := { stuck with healthy := fun _ => true }

theorem one_server_iff_stuck : ∃ last,
    (machine "10.208.211.52" "text").run (start 0 1) [stuck] = some last ∧
      ¬(machine "10.208.211.52" "text").Throughout (fun s => s.servers ≤ 1) (start 0 1) [stuck] := by
  refine ⟨_, rfl, ?_⟩
  rw [one_server_iff le_rfl (Eq.refl ((machine "10.208.211.52" "text").run (start 0 1) [stuck]))]
  intro along
  exact along.1 rfl rfl .never (List.mem_singleton_self _)

/-! ### Load times -/

structure Loads (load : Nat) (s : MonitorNode) (env : Environment) : Prop where
  status : env.healthy s.now = false → env.status = true
  ready : ∀ ended ∈ s.launched, ended + load ≤ s.now → env.healthy s.now = true

/-- An outage lasts at most as many failures as the schedule needs to leave a server the time it takes to load. -/
theorem outages_end {load failures : Nat} (enough : load ≤ 1000 * (RESTART_WAIT + failureBackoff failures))
    {now servers : Nat} {events : List Environment} {last : MonitorNode}
    (loads : (machine ip type).Along (Loads load) (start now servers) events)
    (ran : (machine ip type).run (start now servers) events = some last) :
    last.consecutiveFailures ≤ failures + 1 := by
  have keeps : ∀ s env next, (s.consecutiveFailures ≤ failures + 1 ∧ (s.consecutiveFailures = failures + 1 →
      ∃ ended, s.launched = some ended ∧ ended + load ≤ s.now)) → Loads load s env →
        (machine ip type).step s env = some next → next.consecutiveFailures ≤ failures + 1 ∧
          (next.consecutiveFailures = failures + 1 →
            ∃ ended, next.launched = some ended ∧ ended + load ≤ next.now) := by
    intro s env next ⟨bounded, room⟩ loads stepped
    obtain ⟨-, checked, checks, rfl⟩ := step_eq_some stepped
    cases checks with
    | up answered => simp [after]
    | recovered down ran waited => simp [after]
    | refused down failed =>
      have ran := loads.status down
      rw [failed] at ran
      cases ran
    | @waited later down ran waited =>
      have fewer : s.consecutiveFailures ≠ failures + 1 := by
        intro all
        obtain ⟨ended, launched, long⟩ := room all
        have answered := loads.ready ended launched long
        rw [down] at answered
        cases answered
      have late := le_of_waitForHealth waited
      simp only [after, cycle, Bool.false_eq_true, if_false, Option.some_or, Option.some.injEq, exists_eq_left']
      refine ⟨by omega, ?_⟩
      intro all
      have last_but_one : s.consecutiveFailures = failures := by omega
      rw [last_but_one]
      omega
  exact (Machine.run_invariant_along keeps ⟨Nat.zero_le _, fun all => absurd all (by simp [start])⟩ loads ran).1

theorem outages_end_up : ∃ last, (machine "10.208.211.52" "text").run (start 0 1) [stuck, stuck, up] = some last ∧
    last.cycles.map Cycle.failed = [true, true, false] ∧ last.consecutiveFailures ≤ 5 := by
  have recovers : (((machine "10.208.211.52" "text").run (start 0 1) [stuck, stuck, up]).any
      fun last => last.cycles.map Cycle.failed = [true, true, false]) = true := by decide +kernel
  obtain ⟨last, ran, failed⟩ := Machine.run_of_any _ recovers
  have enough : 420000 ≤ 1000 * (RESTART_WAIT + failureBackoff 4) := by decide
  have early : ((machine "10.208.211.52" "text").step (start 0 1) stuck).all (fun s => s.now < 420000) = true := by
    decide +kernel
  have loads : (machine "10.208.211.52" "text").Along (Loads 420000) (start 0 1) [stuck, stuck, up] := by
    refine ⟨⟨fun _ => rfl, fun ended launched => by cases launched⟩, fun second stepped => ⟨⟨fun _ => rfl, ?_⟩, ?_⟩⟩
    · intro ended _ late
      have loading := of_decide_eq_true (Option.all_eq_true _ _ |>.mp early second stepped)
      omega
    · exact fun third _ => ⟨⟨fun _ => rfl, fun _ _ _ => rfl⟩, fun _ _ => trivial⟩
  exact ⟨last, ran, of_decide_eq_true failed, outages_end enough loads ran⟩

structure Slow (load : Nat) (s : MonitorNode) (env : Environment) : Prop where
  quick : ∀ time, env.curl time ≤ 5000
  status : env.status = true
  down : s.launched = none → env.healthy s.now = false
  loading : ∀ ended ∈ s.launched, s.now < ended + load → env.healthy s.now = false
  waiting : ∀ time, s.now + env.curl s.now + env.took ≤ time →
    time < s.now + env.curl s.now + env.took + load → env.healthy time = false

theorem failureBackoff_le (failures : Nat) : failureBackoff failures ≤ 300 := by
  rcases Nat.le_total failures 4 with few | many
  · interval_cases failures <;> decide
  · exact (failureBackoff_late many).le

theorem cycles_length {events : List Environment} {last : MonitorNode}
    (ran : (machine ip type).run s events = some last) : last.cycles.length = s.cycles.length + events.length := by
  induction events generalizing s with
  | nil => cases ran; rfl
  | cons env rest ih =>
    rw [Machine.run_cons, Option.bind_eq_some_iff] at ran
    obtain ⟨next, stepped, ran⟩ := ran
    obtain ⟨-, checked, -, rfl⟩ := step_eq_some stepped
    rw [ih ran, after, List.length_append, List.length_singleton, List.length_cons]
    omega

/-- Every cycle has restarted the node and failed, and the last server has not had the time to load. -/
structure Hopeless (s : MonitorNode) : Prop where
  cycles : ∀ cycle ∈ s.cycles, cycle.failed = true ∧ cycle.restarted.isSome = true
  recent : ∀ ended ∈ s.launched, s.now ≤ ended + 1000 * (2 * RESTART_WAIT + 300)

theorem Hopeless.step {load : Nat} (long : 1000 * (2 * RESTART_WAIT + 300) < load) (hopeless : s.Hopeless)
    (slow : s.Slow load env) (stepped : (machine ip type).step s env = some next) : next.Hopeless := by
  obtain ⟨-, checked, checks, rfl⟩ := step_eq_some stepped
  have down : env.healthy s.now = false := by
    cases launched : s.launched with
    | none => exact slow.down launched
    | some ended =>
      have recent := hopeless.recent ended launched
      exact slow.loading ended launched (recent.trans_lt (Nat.add_lt_add_left long ended))
  cases checks with
  | up answered =>
    rw [down] at answered
    cases answered
  | refused _ failed =>
    have ran := slow.status
    rw [failed] at ran
    cases ran
  | recovered _ ran waited =>
    obtain ⟨time, from_end, to_later, answered⟩ := healthy_of_waitForHealth waited
    have in_time := waitForHealth_bound slow.quick waited
    have early : time < s.now + env.curl s.now + env.took + load := by
      simp only [RESTART_WAIT] at long in_time
      omega
    rw [slow.waiting time from_end early] at answered
    cases answered
  | waited _ ran waited =>
    refine ⟨?_, ?_⟩
    · intro cycle member
      rcases List.mem_append.mp member with old | new
      · exact hopeless.cycles cycle old
      · rw [List.mem_singleton.mp new]
        exact ⟨rfl, rfl⟩
    · intro ended launched
      cases launched
      have in_time := waitForHealth_bound slow.quick waited
      have short := failureBackoff_le s.consecutiveFailures
      simp only [after, cycle, Bool.false_eq_true, if_false, RESTART_WAIT] at in_time ⊢
      omega

/-- A server that takes longer to load than the longest backoff leaves it is replaced again and again: every cycle
finds the node down, restarts it and fails. -/
theorem never_recovers {load : Nat} (long : 1000 * (2 * RESTART_WAIT + 300) < load) {now servers : Nat}
    {events : List Environment} {last : MonitorNode}
    (slow : (machine ip type).Along (Slow load) (start now servers) events)
    (ran : (machine ip type).run (start now servers) events = some last) :
    last.cycles.length = events.length ∧
      ∀ cycle ∈ last.cycles, cycle.failed = true ∧ cycle.restarted.isSome = true := by
  have length := cycles_length ran
  rw [start, List.length_nil, Nat.zero_add] at length
  have hopeless : (start now servers).Hopeless := ⟨by simp [start], by simp [start]⟩
  exact ⟨length, (Machine.run_invariant_along (fun _ _ _ before slow stepped => before.step long slow stepped)
    hopeless slow ran).cycles⟩

theorem never_recovers_twice : ∃ last,
    (machine "10.208.211.52" "text").run (start 0 1) [stuck, stuck] = some last ∧
      last.cycles.length = 2 ∧ ∀ cycle ∈ last.cycles, cycle.failed = true ∧ cycle.restarted.isSome = true := by
  have goes : (((machine "10.208.211.52" "text").run (start 0 1) [stuck, stuck]).any fun _ => true) = true := by
    decide +kernel
  obtain ⟨last, ran, -⟩ := Machine.run_of_any _ goes
  have slow : ∀ env ∈ [stuck, stuck], ∀ s : MonitorNode, s.Slow 600000 env := by
    intro env member s
    have same : env = stuck := by simpa using member
    rw [same]
    exact ⟨fun _ => Nat.zero_le _, rfl, fun _ => rfl, fun _ _ _ => rfl, fun _ _ _ => rfl⟩
  exact ⟨last, ran, never_recovers (by decide) ((machine _ _).along_of_forall slow _) ran⟩

end MonitorNode

/-! ### No node is left alone -/

structure Environment.Quick (env : Environment) : Prop where
  curl : ∀ time, env.curl time ≤ 5000
  took : env.took ≤ 20000

structure Cycle.Soon (time : Nat) (cycle : Cycle) : Prop where
  always : time ≤ cycle.began + 565000
  answered : cycle.restarted = none → time ≤ cycle.began + 35000

structure MonitorNode.Attended (s : MonitorNode) : Prop where
  chain : s.cycles.IsChain fun first second => first.Soon second.began
  last : ∀ cycle ∈ s.cycles.getLast?, cycle.Soon s.now

theorem Checks.soon {env : Environment} {now : Nat} {checked : Checked} (checks : Checks env now checked)
    (quick : env.Quick) : checked.now ≤ now + 265000 ∧ (checked.restarted = none →
      checked.succeeded = true ∧ checked.now ≤ now + 5000) := by
  have check := quick.curl now
  have took := quick.took
  cases checks with
  | up answered => exact ⟨by dsimp only; omega, fun _ => ⟨rfl, by dsimp only; omega⟩⟩
  | refused down failed => exact ⟨by dsimp only; omega, fun none => by cases none⟩
  | recovered down ran waited | waited down ran waited =>
    have in_time := waitForHealth_bound quick.curl waited
    simp only [RESTART_WAIT] at in_time
    exact ⟨by dsimp only; omega, fun none => by cases none⟩

namespace MonitorNode
variable {ip type : String} {s next : MonitorNode} {env : Environment}

theorem cycle_soon {checked : Checked} (checks : Checks env s.now checked) (quick : env.Quick) :
    (s.cycle ip type env checked).Soon (s.after ip type env checked).now := by
  obtain ⟨in_time, answered⟩ := checks.soon quick
  have short := failureBackoff_le s.consecutiveFailures
  constructor
  · simp only [after, cycle, POLL_INTERVAL]
    split <;> omega
  · intro none
    obtain ⟨succeeded, in_time⟩ := answered none
    simp only [after, cycle, succeeded, if_true, POLL_INTERVAL]
    omega

theorem Attended.step (attended : s.Attended) (quick : env.Quick)
    (stepped : (machine ip type).step s env = some next) : next.Attended := by
  obtain ⟨-, checked, checks, rfl⟩ := step_eq_some stepped
  refine ⟨isChain_concat attended.chain fun last ends => attended.last last ends, ?_⟩
  intro last ends
  rw [after, List.getLast?_concat] at ends
  cases ends
  exact cycle_soon checks quick

/-- A node is looked at again within 565 seconds, whatever has happened to it, and within 35 seconds when it has
answered. -/
theorem checks_go_on {now servers : Nat} {events : List Environment} {last : MonitorNode}
    (quick : ∀ env ∈ events, env.Quick) (ran : (machine ip type).run (start now servers) events = some last) :
    last.Attended := by
  have along := (machine ip type).along_of_forall (fun env member (_ : MonitorNode) => quick env member)
    (start now servers)
  exact Machine.run_invariant_along (fun _ _ _ before quick stepped => before.step quick stepped)
    ⟨.nil, by simp [start]⟩ along ran

theorem checks_go_on_unreachable : ∃ last,
    (machine "10.208.211.52" "text").run (start 0 0) [unreachable, unreachable] = some last ∧ last.Attended := by
  have quick : ∀ env ∈ [unreachable, unreachable], env.Quick := by
    intro env member
    have same : env = unreachable := by simpa using member
    rw [same]
    exact ⟨fun _ => Nat.zero_le _, Nat.zero_le _⟩
  have ran : ((machine "10.208.211.52" "text").run (start 0 0) [unreachable, unreachable]).isSome = true := rfl
  obtain ⟨last, ran⟩ := Option.isSome_iff_exists.mp ran
  exact ⟨last, ran, checks_go_on quick ran⟩

end MonitorNode
end LlamacppRay.Scripts
