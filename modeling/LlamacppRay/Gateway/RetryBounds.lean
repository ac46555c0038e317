import LlamacppRay.Gateway.BackoffTiers

/-! How often one call can dispatch and how long it can sleep. Every failed attempt excludes its node,
and the attempt number counts the nodes tried as well as the pauses. -/

namespace LlamacppRay.Gateway
open LlamacppRay.Asyncio LlamacppRay.Automata

/-! ### Sums over a schedule -/

theorem sum_le_sum_of_getElem {xs ys : List ℚ} (short : xs.length ≤ ys.length)
    (below : ∀ (i : Nat) x y, xs[i]? = some x → ys[i]? = some y → x ≤ y) (positive : ∀ y ∈ ys, 0 ≤ y) :
    xs.sum ≤ ys.sum := by
  induction xs generalizing ys with
  | nil => exact List.sum_nonneg positive
  | cons x xs ih =>
    cases ys with
    | nil => simp at short
    | cons y ys =>
      have first : x ≤ y := below 0 x y rfl rfl
      have rest : xs.sum ≤ ys.sum := by
        apply ih (Nat.le_of_succ_le_succ short)
        · intro i x' y' here there
          exact below (i + 1) x' y' here there
        · intro y' member
          exact positive y' (List.mem_cons_of_mem y member)
      rw [List.sum_cons, List.sum_cons]
      exact add_le_add first rest

def OnSchedule (attempt : Nat) (seconds : ℚ) : Prop :=
  ∃ schedule ∈ [FAST_REROUTE_BACKOFFS_SECONDS, POOL_EXHAUSTED_BACKOFFS_SECONDS],
    schedule.seconds[min attempt (schedule.seconds.length - 1)]? = some seconds

theorem onSchedule_backoff (pool : NodePool) (excluded : Finset String) (attempt : Nat) :
    OnSchedule attempt (backoff (tier pool excluded) attempt) := by
  refine ⟨tier pool excluded, ?_, List.getElem?_eq_getElem _⟩
  unfold tier
  split
  · exact List.mem_cons_self
  · exact List.mem_cons_of_mem _ List.mem_cons_self

/-- Five pauses, one after each of the first five attempts, take 226 seconds at most. -/
theorem sum_pauses_le {seconds : List ℚ} (few : seconds.length ≤ MAX_RETRIES)
    (paced : ∀ (i : Nat) pause, seconds[i]? = some pause → OnSchedule i pause) : seconds.sum ≤ 226 := by
  have below : ∀ i < 5, ∀ schedule ∈ [FAST_REROUTE_BACKOFFS_SECONDS, POOL_EXHAUSTED_BACKOFFS_SECONDS],
      ∀ pause ∈ schedule.seconds[min i (schedule.seconds.length - 1)]?,
        ∀ longest ∈ POOL_EXHAUSTED_BACKOFFS_SECONDS.seconds[i]?, pause ≤ longest := by decide +kernel
  have positive : ∀ longest ∈ POOL_EXHAUSTED_BACKOFFS_SECONDS.seconds, 0 ≤ longest := by decide +kernel
  have total : POOL_EXHAUSTED_BACKOFFS_SECONDS.seconds.sum = 226 := by decide +kernel
  calc seconds.sum ≤ POOL_EXHAUSTED_BACKOFFS_SECONDS.seconds.sum := by
        apply sum_le_sum_of_getElem few _ positive
        intro i pause longest here there
        obtain ⟨schedule, either, read⟩ := paced i pause here
        exact below i (List.getElem?_eq_some_iff.mp there).1 schedule either pause read longest there
    _ = 226 := total

/-! ### What a call has done so far -/

def dispatches (actions : List Action) : List String :=
  actions.filterMap fun action => match action with
    | .dispatched ip _ => some ip
    | _ => none

structure Tally (ips : List String) (used : Finset String) (tries sleeps : Nat) (log : List Action) :
    Prop where
  distinct : (dispatches log).Nodup
  used_eq : (dispatches log).toFinset = used
  tries_eq : (dispatches log).length = tries
  known : ∀ node ∈ dispatches log, node ∈ ips
  sleeps_eq : (pauses log).length = sleeps
  paced : ∀ (i : Nat) seconds, (pauses log)[i]? = some seconds → OnSchedule i seconds

theorem dispatches_append (log actions : List Action) :
    dispatches (log ++ actions) = dispatches log ++ dispatches actions :=
  List.filterMap_append

theorem pauses_append (log actions : List Action) : pauses (log ++ actions) = pauses log ++ pauses actions :=
  List.filterMap_append

section
variable {ips : List String} {used : Finset String} {tries sleeps : Nat} {log actions : List Action}

theorem tally_nil : Tally ips ∅ 0 0 [] where
  distinct := List.nodup_nil
  used_eq := rfl
  tries_eq := rfl
  known := by simp [dispatches]
  sleeps_eq := rfl
  paced := by simp [pauses]

theorem Tally.aside (tally : Tally ips used tries sleeps log) (undispatched : dispatches actions = [])
    (awake : pauses actions = []) : Tally ips used tries sleeps (log ++ actions) := by
  have sameNodes : dispatches (log ++ actions) = dispatches log := by
    rw [dispatches_append, undispatched, List.append_nil]
  have samePauses : pauses (log ++ actions) = pauses log := by
    rw [pauses_append, awake, List.append_nil]
  obtain ⟨distinct, used_eq, tries_eq, known, sleeps_eq, paced⟩ := tally
  rw [← sameNodes] at distinct used_eq tries_eq known
  rw [← samePauses] at sleeps_eq paced
  exact ⟨distinct, used_eq, tries_eq, known, sleeps_eq, paced⟩

theorem Tally.dispatch (tally : Tally ips used tries sleeps log) {ip : String} (fresh : ip ∉ used)
    (member : ip ∈ ips) (sent : dispatches actions = [ip]) (awake : pauses actions = []) :
    Tally ips (insert ip used) (tries + 1) sleeps (log ++ actions) := by
  have nodes : dispatches (log ++ actions) = dispatches log ++ [ip] := by rw [dispatches_append, sent]
  have samePauses : pauses (log ++ actions) = pauses log := by
    rw [pauses_append, awake, List.append_nil]
  have unseen : ip ∉ dispatches log := by
    rw [← List.mem_toFinset, tally.used_eq]
    exact fresh
  refine ⟨?_, ?_, ?_, ?_, ?_, ?_⟩
  · rw [nodes]
    exact tally.distinct.append (List.nodup_singleton ip) (List.disjoint_singleton.mpr unseen)
  · rw [nodes, List.toFinset_append, tally.used_eq, Finset.insert_eq, Finset.union_comm]
    rfl
  · rw [nodes, List.length_append, tally.tries_eq]
    rfl
  · intro node present
    rw [nodes, List.mem_append, List.mem_singleton] at present
    rcases present with earlier | rfl
    · exact tally.known node earlier
    · exact member
  · rw [samePauses]
    exact tally.sleeps_eq
  · rw [samePauses]
    exact tally.paced

theorem Tally.sleep (tally : Tally ips used tries sleeps log) {seconds : ℚ}
    (scheduled : OnSchedule sleeps seconds) (undispatched : dispatches actions = [])
    (slept : pauses actions = [seconds]) : Tally ips used tries (sleeps + 1) (log ++ actions) := by
  have sameNodes : dispatches (log ++ actions) = dispatches log := by
    rw [dispatches_append, undispatched, List.append_nil]
  have longer : pauses (log ++ actions) = pauses log ++ [seconds] := by rw [pauses_append, slept]
  obtain ⟨distinct, used_eq, tries_eq, known, sleeps_eq, paced⟩ := tally
  rw [← sameNodes] at distinct used_eq tries_eq known
  refine ⟨distinct, used_eq, tries_eq, known, ?_, ?_⟩
  · rw [longer, List.length_append, sleeps_eq]
    rfl
  · intro i pause found
    rw [longer, List.getElem?_append] at found
    by_cases earlier : i < (pauses log).length
    · rw [if_pos earlier] at found
      exact paced i pause found
    · rw [if_neg earlier, List.getElem?_singleton] at found
      split at found
      next last =>
        cases found
        have here : i = sleeps := by omega
        rw [here]
        exact scheduled
      next => cases found

end

/-! ### The phases of an attempt -/

section
variable (ips : List String) (log : List Action)

def Locals.Trying (locals : Locals) : Prop :=
  locals.attempt ≤ MAX_RETRIES ∧ Tally ips locals.excluded locals.attempt locals.attempt log

def Locals.Sent (locals : Locals) (ip : String) : Prop :=
  locals.attempt ≤ MAX_RETRIES ∧ Tally ips (insert ip locals.excluded) (locals.attempt + 1) locals.attempt log

def Locals.Resting (locals : Locals) : Prop :=
  locals.attempt < MAX_RETRIES ∧ Tally ips locals.excluded (locals.attempt + 1) (locals.attempt + 1) log

def Within : Prop :=
  ∃ used tries sleeps, tries ≤ MAX_RETRIES + 1 ∧ sleeps ≤ MAX_RETRIES ∧ Tally ips used tries sleeps log

def Submit.Counted : Submit → Prop
  | .entering locals => locals.Trying ips log
  | .acquiring locals _ => locals.Trying ips log
  | .sending locals ip => locals.Sent ips log ip
  | .sleeping locals => locals.Resting ips log
  | _ => Within ips log

/-- An exception of the response block may also come out of the pause, but then no attempt follows. -/
def Stream.Counted : Stream → Prop
  | .entering locals => locals.Trying ips log
  | .acquiring locals _ => locals.Trying ips log
  | .opening locals ip => locals.Sent ips log ip
  | .reading locals ip _ _ => locals.Sent ips log ip
  | .yielding locals ip _ _ => locals.Sent ips log ip
  | .sleeping locals _ _ => locals.Resting ips log
  | .closing locals _ .continuing => locals.Trying ips log
  | .closing locals ip (.raising exn) =>
      Within ips log ∧ (exn.isException = true → locals.Sent ips log ip)
  | _ => Within ips log

def Point.Counted : Point → Prop
  | .submit st => st.Counted ips log
  | .stream st => st.Counted ips log

end

section
variable {ips : List String} {log actions : List Action} {locals : Locals} {ip : String}

theorem Locals.Trying.within (trying : locals.Trying ips log) : Within ips log :=
  ⟨_, _, _, Nat.le_succ_of_le trying.1, trying.1, trying.2⟩

theorem Locals.Sent.within (sent : locals.Sent ips log ip) : Within ips log :=
  ⟨_, _, _, Nat.succ_le_succ sent.1, sent.1, sent.2⟩

theorem Locals.Resting.within (resting : locals.Resting ips log) : Within ips log :=
  ⟨_, _, _, Nat.le_succ_of_le resting.1, resting.1, resting.2⟩

theorem Within.aside (within : Within ips log) (undispatched : dispatches actions = [])
    (awake : pauses actions = []) : Within ips (log ++ actions) := by
  obtain ⟨used, tries, sleeps, fewTries, fewSleeps, tally⟩ := within
  exact ⟨used, tries, sleeps, fewTries, fewSleeps, tally.aside undispatched awake⟩

theorem Locals.Trying.aside (trying : locals.Trying ips log) (undispatched : dispatches actions = [])
    (awake : pauses actions = []) : locals.Trying ips (log ++ actions) :=
  ⟨trying.1, trying.2.aside undispatched awake⟩

theorem Locals.Sent.aside (sent : locals.Sent ips log ip) (undispatched : dispatches actions = [])
    (awake : pauses actions = []) : locals.Sent ips (log ++ actions) ip :=
  ⟨sent.1, sent.2.aside undispatched awake⟩

theorem Locals.Trying.dispatch {p : NodePool} (trying : locals.Trying ips log) (known : p.ips = ips)
    (chosen : p.choose (p.candidates locals.excluded) locals.affinityIp = some ip)
    (sent : dispatches actions = [ip]) (awake : pauses actions = []) :
    locals.Sent ips (log ++ actions) ip :=
  ⟨trying.1, trying.2.dispatch (NodePool.chosen_allowed chosen) (known ▸ NodePool.chosen_known chosen) sent awake⟩

theorem Locals.Sent.reroute (sent : locals.Sent ips log ip) (more : locals.attempt < MAX_RETRIES)
    (pool : NodePool) :
    Locals.Resting ips (log ++ [.released ip, .evicted ip,
        .slept (backoff (tier pool (insert ip locals.excluded)) locals.attempt)])
      { locals with excluded := insert ip locals.excluded } :=
  ⟨more, sent.2.sleep (onSchedule_backoff pool _ locals.attempt) rfl rfl⟩

theorem Locals.Resting.again (resting : locals.Resting ips log) :
    Locals.Trying ips log { locals with attempt := locals.attempt + 1 } :=
  ⟨resting.1, resting.2⟩

end

/-! ### One stretch -/

section
variable {ips : List String} {log actions : List Action} {p p' : NodePool} {r : Resume}

theorem Submit.AtHead.trying {st : Submit} {locals : Locals} (head : AtHead st r locals)
    (before : st.Counted ips log) : locals.Trying ips log := by
  cases head with
  | first => exact before
  | again => exact Locals.Resting.again before

theorem Stream.AtHead.trying {st : Stream} {locals : StreamLocals} (head : AtHead st r locals)
    (before : st.Counted ips log) : locals.Trying ips log := by
  cases head with
  | first => exact before
  | again => exact Locals.Resting.again before
  | left => exact before

theorem Submit.Counted.within {st : Submit} (counted : st.Counted ips log) : Within ips log := by
  cases st with
  | entering => exact Locals.Trying.within counted
  | acquiring => exact Locals.Trying.within counted
  | sending => exact Locals.Sent.within counted
  | sleeping => exact Locals.Resting.within counted
  | leaving => exact counted
  | done => exact counted

theorem Stream.Counted.within {st : Stream} (counted : st.Counted ips log) : Within ips log := by
  cases st with
  | entering => exact Locals.Trying.within counted
  | acquiring => exact Locals.Trying.within counted
  | opening => exact Locals.Sent.within counted
  | reading => exact Locals.Sent.within counted
  | yielding => exact Locals.Sent.within counted
  | sleeping => exact Locals.Resting.within counted
  | closing locals ip exit =>
    cases exit with
    | returning => exact counted
    | continuing => exact Locals.Trying.within counted
    | raising exn => exact counted.1
  | leaving => exact counted
  | done => exact counted

theorem Stream.Raises.sent {st : Stream} {locals : StreamLocals} {ip : String} {exn : Exn}
    (raises : Raises st r locals ip exn) (caught : exn.isException = true)
    (before : st.Counted ips log) : locals.Sent ips log ip := by
  cases raises with
  | unopened => exact before
  | cancelled => exact before
  | closed => exact before.2 caught

theorem Submit.Step.counted {st next : Submit} (step : Submit.Step p st r p' next actions)
    (known : p.ips = ips) (before : st.Counted ips log) : next.Counted ips (log ++ actions) := by
  cases step with
  | granted head chosen => exact (head.trying before).dispatch known chosen rfl rfl
  | rejected head => exact before.within.aside rfl rfl
  | queued head => exact (head.trying before).aside rfl rfl
  | served chosen => exact Locals.Trying.dispatch before known chosen rfl rfl
  | requeued => exact Locals.Trying.aside before rfl rfl
  | @rerouted locals ip queueMs result exn outcome failure more => exact Locals.Sent.reroute before more _
  | quiet ends => cases ends <;> exact before.within.aside rfl rfl
  | _ => exact before.within.aside rfl rfl

theorem Stream.Step.counted {st next : Stream} (step : Stream.Step p st r p' next actions)
    (known : p.ips = ips) (before : st.Counted ips log) : next.Counted ips (log ++ actions) := by
  cases step with
  | granted head chosen => exact (head.trying before).dispatch known chosen rfl rfl
  | rejected head => exact before.within.aside rfl rfl
  | queued head => exact (head.trying before).aside rfl rfl
  | served chosen => exact Locals.Trying.dispatch before known chosen rfl rfl
  | requeued => exact Locals.Trying.aside before rfl rfl
  | accepted => exact Locals.Sent.aside before rfl rfl
  | refused => exact ⟨before.within.aside rfl rfl, fun _ => Locals.Sent.aside before rfl rfl⟩
  | turned failure status more => exact Locals.Sent.reroute before more _
  | line => exact Locals.Sent.aside before rfl rfl
  | blank => exact Locals.Sent.aside before rfl rfl
  | pulled => exact Locals.Sent.aside before rfl rfl
  | severed => exact ⟨before.within.aside rfl rfl, fun _ => Locals.Sent.aside before rfl rfl⟩
  | rerouted raises silent more => exact Locals.Sent.reroute (raises.sent rfl before) more _
  | interrupted interrupts => cases interrupts <;> exact ⟨before.within.aside rfl rfl, nofun⟩
  | quiet moves =>
    cases moves with
    | continued => exact (Locals.Resting.again before).aside rfl rfl
    | _ => exact before.within.aside rfl rfl
  | _ => exact before.within.aside rfl rfl

end

namespace Router

/-- One call is sent to distinct nodes of the pool, at most six times, and sleeps for at most 226
seconds, whatever the backends answer and whatever else happens to the pool. -/
theorem retries_bounded {hash : String → Int} {start : NodePool} {s : Router}
    (reached : (machine hash).Reaches ⟨Monitor.unlocked start, []⟩ s) {index : Nat} {call : Call}
    (found : s.calls[index]? = some call) :
    (dispatches call.log).Nodup ∧
      (dispatches call.log).length ≤ min (MAX_RETRIES + 1) start.ips.toFinset.card ∧
      (pauses call.log).sum ≤ 226 ∧
      ∀ (attempt : Nat) seconds, (pauses call.log)[attempt]? = some seconds → OnSchedule attempt seconds := by
  have counted : call.point.Counted start.ips call.log := by
    refine @call_invariant_known hash start (fun call => call.point.Counted start.ips call.log)
      ?_ ?_ ?_ s reached index call found
    · intro p affinityKey
      exact Submit.start_cases (motive := fun st => st.Counted start.ips [])
        (fun _ => ⟨Nat.zero_le _, tally_nil⟩) (fun _ => ⟨_, _, _, Nat.zero_le _, Nat.zero_le _, tally_nil⟩)
        p hash affinityKey
    · intro p affinityKey
      exact Stream.start_cases (motive := fun st => st.Counted start.ips [])
        (fun _ => ⟨Nat.zero_le _, tally_nil⟩) (fun _ => ⟨_, _, _, Nat.zero_le _, Nat.zero_le _, tally_nil⟩)
        p hash affinityKey
    · intro p p' call r point actions known before step
      obtain ⟨earlier, log⟩ := call
      cases step with
      | submit step => exact step.counted known before
      | stream step => exact step.counted known before
  have within : Within start.ips call.log := by
    obtain ⟨point, log⟩ := call
    cases point with
    | submit st => exact Submit.Counted.within counted
    | stream st => exact Stream.Counted.within counted
  obtain ⟨used, tries, sleeps, fewTries, fewSleeps, tally⟩ := within
  refine ⟨tally.distinct, ?_, ?_, tally.paced⟩
  · apply le_min
    · rw [tally.tries_eq]
      exact fewTries
    · rw [← List.toFinset_card_of_nodup tally.distinct]
      apply Finset.card_le_card
      intro node member
      exact List.mem_toFinset.mpr (tally.known node (List.mem_toFinset.mp member))
  · exact sum_pauses_le (tally.sleeps_eq.trans_le fewSleeps) tally.paced

/-- The first node fails, is marked healthy again during the pause, and the call goes to the other one. -/
theorem retries_bounded_second_node : ∃ s call,
    (machine fun _ => 0).Reaches (new ["10.0.0.1", "10.0.0.2"] 8080 1 1 {"10.0.0.1", "10.0.0.2"}) s ∧
      s.calls[0]? = some call ∧ dispatches call.log = ["10.0.0.1", "10.0.0.2"] ∧
        (dispatches call.log).Nodup ∧ (pauses call.log).sum ≤ 226 := by
  have ends : (((machine fun _ => 0).run (new ["10.0.0.1", "10.0.0.2"] 8080 1 1 {"10.0.0.1", "10.0.0.2"})
      [.submit none, .resume 0 .wake, .resume 0 (.posted 0 (.error (.transport "connection refused"))),
        .probed [("10.0.0.1", true)], .resume 0 .wake]).any fun s =>
          s.calls[0]?.any fun call => dispatches call.log = ["10.0.0.1", "10.0.0.2"]) = true := by
    decide +kernel
  obtain ⟨s, ran, last⟩ := Machine.run_of_any _ ends
  obtain ⟨call, found, both⟩ := (Option.any_eq_true _ _).mp last
  have bounds := retries_bounded ⟨_, ran⟩ found
  exact ⟨s, call, ⟨_, ran⟩, found, of_decide_eq_true both, bounds.1, bounds.2.2.1⟩

end Router
end LlamacppRay.Gateway
