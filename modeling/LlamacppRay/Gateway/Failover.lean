import LlamacppRay.Gateway.Eviction
import LlamacppRay.Gateway.Exhaustion
import LlamacppRay.Gateway.RetryBounds

/-! Failover. A call gives up each node that fails it and is never sent there again, so the failures of a few nodes
cost it a few pauses, and it ends with one of them only if it has no attempt left or its consumer has heard a chunk. -/

namespace LlamacppRay.Gateway
open LlamacppRay.Asyncio LlamacppRay.Automata LlamacppRay.Python

/-! ### One stretch -/

/-- What a stretch does to the nodes of a call: it is sent to one more, gives up the one that has failed it, or
neither. -/
inductive Turn (failing : Option String) (before after : Finset String) (log actions : List Action) : Prop
  | sent (ip : String) (tried : (dispatches log).toFinset = before) (same : after = before)
      (one : dispatches actions = [ip]) (awake : pauses actions = []) (kept : ∀ node, .evicted node ∉ actions)
  | failed (ip : String) (fails : failing = some ip) (tried : (dispatches log).toFinset = insert ip before)
      (more : after = insert ip before) (none : dispatches actions = [])
      (pause : (pauses (log ++ actions)).length = (dispatches log).length)
      (only : ∀ node, .evicted node ∈ actions → node = ip)
  | aside (fewer : after ⊆ before) (none : dispatches actions = []) (awake : pauses actions = [])
      (kept : ∀ node, .evicted node ∉ actions)

section
variable {ips : List String} {log actions : List Action} {p p' : NodePool} {r : Resume} {locals : Locals} {ip : String}

theorem Locals.Sent.failed {failing : Option String} {pause : ℚ} (sent : locals.Sent ips log ip)
    (fails : failing = some ip) :
    Turn failing locals.excluded (insert ip locals.excluded) log [.released ip, .evicted ip, .slept pause] := by
  have slept : (pauses (log ++ [.released ip, .evicted ip, .slept pause])).length = locals.attempt + 1 := by
    rw [pauses_append, List.length_append, sent.2.sleeps_eq]
    rfl
  exact .failed ip fails sent.2.used_eq rfl rfl (slept.trans sent.2.tries_eq.symm) (by simp)

theorem Submit.Step.turn {st next : Submit} (step : Submit.Step p st r p' next actions)
    (counted : st.Counted ips log) :
    Turn (Point.failing (.submit st) r) st.excluded next.excluded log actions := by
  cases step with
  | granted head chosen =>
    exact .sent _ ((head.trying counted).2.used_eq.trans head.excluded_eq.symm) head.excluded_eq.symm rfl rfl (by simp)
  | rejected head => exact .aside (Finset.empty_subset _) rfl rfl (by simp)
  | queued head => exact .aside head.excluded_eq.ge rfl rfl (by simp)
  | served chosen => exact .sent _ counted.2.used_eq rfl rfl rfl (by simp)
  | requeued => exact .aside subset_rfl rfl rfl (by simp)
  | @rerouted locals ip queueMs result exn outcome failure more =>
    have fails : Point.failing (.submit (.sending locals ip)) (.posted queueMs result) = some ip := by
      simp only [Point.failing, outcome, failure, ↓reduceIte]
    exact Locals.Sent.failed counted fails
  | quiet ends => cases ends <;> exact .aside (Finset.empty_subset _) rfl rfl (by simp)
  | _ => exact .aside (Finset.empty_subset _) rfl rfl (by simp)

theorem Stream.Step.turn {st next : Stream} (step : Stream.Step p st r p' next actions)
    (counted : st.Counted ips log) :
    Turn (Point.failing (.stream st) r) st.excluded next.excluded log actions := by
  cases step with
  | granted head chosen =>
    exact .sent _ ((head.trying counted).2.used_eq.trans head.excluded_eq.symm) head.excluded_eq.symm rfl rfl (by simp)
  | rejected head => exact .aside (Finset.empty_subset _) rfl rfl (by simp)
  | queued head => exact .aside head.excluded_eq.ge rfl rfl (by simp)
  | served chosen => exact .sent _ counted.2.used_eq rfl rfl rfl (by simp)
  | @turned locals ip response failure status more =>
    have fails : Point.failing (.stream (.opening locals ip)) (.opened (.ok response)) = some ip := if_pos status
    exact Locals.Sent.failed counted fails
  | @rerouted _ _ locals ip message raises silent more =>
    have sent := raises.sent rfl counted
    rcases raises.of_transport with ⟨rfl, rfl⟩ | ⟨rfl, rfl⟩
    · exact Locals.Sent.failed sent rfl
    · exact Locals.Sent.failed sent rfl
  | withdrawn | rethrown | exhausted | escaped | superseded => exact .aside (Finset.empty_subset _) rfl rfl (by simp)
  | interrupted interrupts => cases interrupts <;> exact .aside subset_rfl rfl rfl (by simp)
  | quiet moves =>
    cases moves with
    | continued => exact .aside subset_rfl rfl rfl (by simp)
    | _ => exact .aside (Finset.empty_subset _) rfl rfl (by simp)
  | _ => exact .aside subset_rfl rfl rfl (by simp)

theorem Point.Step.turn {point next : Point} (step : Point.Step p point r p' next actions)
    (counted : point.Counted ips log) : Turn (point.failing r) point.excluded next.excluded log actions := by
  cases step with
  | submit step => exact step.turn counted
  | stream step => exact step.turn counted

end

/-! ### A set of nodes that covers all failures -/

structure Covered (bad excluded : Finset String) (log : List Action) : Prop where
  excluded_le : excluded ⊆ bad
  evicted : ∀ ip, .evicted ip ∈ log → ip ∈ bad
  earlier : ∀ ip ∈ (dispatches log).dropLast, ip ∈ bad
  slept : (pauses log).length ≤ bad.card

section
variable {bad : Finset String} {log actions : List Action}

theorem covered_nil : Covered bad ∅ [] where
  excluded_le := Finset.empty_subset bad
  evicted := by simp
  earlier := by simp [dispatches]
  slept := Nat.zero_le _

theorem Covered.turn {failing : Option String} {before after : Finset String} (covered : Covered bad before log)
    (turn : Turn failing before after log actions) (blamed : ∀ ip ∈ failing, ip ∈ bad)
    (distinct : (dispatches log).Nodup) : Covered bad after (log ++ actions) := by
  have evicted : ∀ ip, (.evicted ip ∈ actions → ip ∈ bad) → .evicted ip ∈ log ++ actions → ip ∈ bad := by
    intro ip now member
    rcases List.mem_append.mp member with old | new
    · exact covered.evicted ip old
    · exact now new
  cases turn with
  | sent ip tried same one awake kept =>
    refine ⟨same ▸ covered.excluded_le, fun node => evicted node fun new => absurd new (kept node), ?_, ?_⟩
    · intro node member
      rw [dispatches_append, one, List.dropLast_concat, ← List.mem_toFinset, tried] at member
      exact covered.excluded_le member
    · rw [pauses_append, awake, List.append_nil]
      exact covered.slept
  | failed ip fails tried more none pause only =>
    have all : (dispatches log).toFinset ⊆ bad := by
      rw [tried]
      exact Finset.insert_subset (blamed ip fails) covered.excluded_le
    refine ⟨?_, fun node => evicted node fun new => only node new ▸ blamed ip fails, ?_, ?_⟩
    · rw [more, ← tried]
      exact all
    · rw [dispatches_append, none, List.append_nil]
      exact covered.earlier
    · calc (pauses (log ++ actions)).length = (dispatches log).length := pause
        _ = (dispatches log).toFinset.card := (List.toFinset_card_of_nodup distinct).symm
        _ ≤ bad.card := Finset.card_le_card all
  | aside fewer none awake kept =>
    refine ⟨fewer.trans covered.excluded_le, fun node => evicted node fun new => absurd new (kept node), ?_, ?_⟩
    · rw [dispatches_append, none, List.append_nil]
      exact covered.earlier
    · rw [pauses_append, awake, List.append_nil]
      exact covered.slept

theorem Covered.dispatches_le {excluded : Finset String} (covered : Covered bad excluded log)
    (distinct : (dispatches log).Nodup) : (dispatches log).length ≤ bad.card + 1 := by
  have earlier : (dispatches log).dropLast.toFinset ⊆ bad := by
    intro ip member
    exact covered.earlier ip (List.mem_toFinset.mp member)
  have few := Finset.card_le_card earlier
  rw [List.toFinset_card_of_nodup (distinct.sublist (List.dropLast_sublist _)), List.length_dropLast] at few
  omega

end

/-! ### Failures that are not passed on -/

section
variable {bad : Finset String} {ips : List String} {log actions : List Action} {p p' : NodePool} {r : Resume}
  {locals : Locals} {ip : String}

/-- With no more bad nodes than retries a failing attempt is never the last one. -/
theorem Locals.Sent.more (sent : locals.Sent ips log ip) (given_up : locals.excluded ⊆ bad) (blamed : ip ∈ bad)
    (few : bad.card ≤ MAX_RETRIES) : locals.attempt < MAX_RETRIES := by
  have tries : (insert ip locals.excluded).card = locals.attempt + 1 := by
    rw [← sent.2.used_eq, List.toFinset_card_of_nodup sent.2.distinct, sent.2.tries_eq]
  have covered := Finset.card_le_card (Finset.insert_subset blamed given_up)
  omega

theorem Point.not_exhausts {point : Point} (counted : point.Counted ips log) (given_up : point.excluded ⊆ bad)
    (blamed : ∀ ip ∈ point.failing r, ip ∈ bad) (few : bad.card ≤ MAX_RETRIES) : point.exhausts r = false := by
  by_contra spent
  have last : ∀ {locals : Locals} {ip : String}, locals.Sent ips log ip → locals.excluded ⊆ bad →
      point.failing r = some ip → ¬MAX_RETRIES ≤ locals.attempt := by
    intro locals ip sent excluded fails
    exact Nat.not_le.mpr (sent.more excluded (blamed ip fails) few)
  rw [Bool.not_eq_false] at spent
  cases point with
  | submit st =>
    cases st with
    | sending locals ip =>
      cases r with
      | posted queueMs result =>
        cases outcome : send result with
        | ok data => simp [exhausts, outcome] at spent
        | error exn =>
          simp only [exhausts, outcome, Bool.and_eq_true, decide_eq_true_eq] at spent
          exact last counted given_up (by simp only [failing, outcome, spent.1, ↓reduceIte]) spent.2
      | _ => cases spent
    | _ => cases spent
  | stream st =>
    cases st with
    | opening locals ip =>
      cases r with
      | opened result =>
        cases result with
        | ok response => cases spent
        | error fault =>
          simp only [exhausts, Bool.and_eq_true, decide_eq_true_eq] at spent
          exact last counted given_up (if_pos spent.1.1) spent.2
      | _ => cases spent
    | closing locals ip exit =>
      cases exit with
      | raising exn =>
        cases exn with
        | transportError message =>
          cases r with
          | wake =>
            simp only [exhausts, Bool.and_eq_true, decide_eq_true_eq] at spent
            exact last (counted.2 rfl) given_up rfl spent.2
          | _ => cases spent
        | _ => cases r <;> cases spent
      | _ => cases spent
    | _ => cases spent

/-- A call that ends with status 503 was turned away by the queue. -/
def Point.Excused (point : Point) (log : List Action) : Prop :=
  ∀ detail, point.error = some (.httpException 503 detail) → .rejected ∈ log

theorem Point.Step.excused {point next : Point} (step : Point.Step p point r p' next actions)
    (failing : point.Failing log) (more : point.exhausts r = false) (before : point.Excused log) :
    next.Excused (log ++ actions) := by
  have ends := step.ends failing
  intro detail failed
  generalize next.error = error at ends failed
  cases ends with
  | full going more refused => exact List.mem_append_right log refused
  | unreached cause going last => cases more.symm.trans last
  | kept => exact List.mem_append_left actions (before detail failed)
  | cancelled => cases failed
  | other error ordinary => exact absurd rfl (ordinary _ failed detail)

def Stream.Settled : Stream → Prop
  | .leaving (.error (.httpStatusError reply)) => reply.status ∉ RETRYABLE_HTTP_STATUS
  | .done (.error (.httpStatusError reply)) => reply.status ∉ RETRYABLE_HTTP_STATUS
  | _ => True

theorem Stream.Step.settled {st next : Stream} (step : Stream.Step p st r p' next actions)
    (counted : st.Counted ips log) (late : st.Late) (given_up : st.excluded ⊆ bad)
    (blamed : ∀ ip ∈ Point.failing (.stream st) r, ip ∈ bad) (few : bad.card ≤ MAX_RETRIES)
    (before : st.Settled) : next.Settled := by
  cases step with
  | @rethrown _ _ locals ip exn raises caught final =>
    cases raises with
    | unopened locals ip fault => cases fault <;> trivial
    | cancelled => trivial
    | closed locals ip exn =>
      cases exn with
      | httpStatusError reply =>
        intro listed
        have fails : ip ∈ Point.failing (.stream (.closing locals ip (.raising (.httpStatusError reply)))) .wake :=
          if_pos (decide_eq_true listed)
        have more := Locals.Sent.more (counted.2 rfl) given_up (blamed ip fails) few
        have last := late listed
        omega
      | _ => trivial
  | @escaped _ _ locals ip exn raises uncaught =>
    cases raises with
    | unopened locals ip fault => cases fault <;> cases uncaught
    | cancelled => trivial
    | closed locals ip exn => cases exn <;> trivial
  | interrupted interrupts => cases interrupts <;> trivial
  | quiet moves =>
    cases moves with
    | left result =>
      cases result with
      | ok => trivial
      | error exn => cases exn <;> exact before
    | _ => trivial
  | _ => trivial

theorem Submit.Failing.not_retryable {st : Submit} {exn : Exn} (failing : st.Failing)
    (failed : Point.error (.submit st) = some exn) : ¬exn.retryable = true := by
  have fails : Submit.Fails exn := by
    cases st with
    | leaving result => cases result <;> cases failed; exact failing
    | done result => cases result <;> cases failed; exact failing
    | _ => cases failed
  cases fails with
  | rejected reply => rw [retryable_httpException]; exact Bool.false_ne_true
  | _ => exact Bool.false_ne_true

theorem Stream.Failing.heard {st : Stream} {exn : Exn} (failing : st.Failing log) (settled : st.Settled)
    (failed : Point.error (.stream st) = some exn) (retryable : exn.retryable = true) : chunks log ≠ [] := by
  have both : Stream.Fails log exn ∧ ∀ reply, exn = .httpStatusError reply → reply.status ∉ RETRYABLE_HTTP_STATUS := by
    cases st with
    | leaving result =>
      cases result <;> cases failed
      refine ⟨failing, fun reply same => ?_⟩
      subst same
      exact settled
    | done result =>
      cases result <;> cases failed
      refine ⟨failing, fun reply same => ?_⟩
      subst same
      exact settled
    | _ => cases failed
  obtain ⟨fails, final⟩ := both
  cases fails with
  | severed message heard => exact heard
  | rejected reply refused => exact absurd (of_decide_eq_true retryable) (final reply rfl)
  | _ => cases retryable

end

/-! ### Whole runs -/

namespace Router

section
variable {hash : String → Int} {start : NodePool} {s : Router} {events : List RouterEvent} {index : Nat} {call : Call}

theorem call_invariant_along {Inv : Call → Prop} {ok : Router → RouterEvent → Prop}
    (submitted : ∀ p affinityKey, Inv ⟨.submit (Submit.start p hash affinityKey), []⟩)
    (streamed : ∀ p affinityKey, Inv ⟨.stream (Stream.start p hash affinityKey), []⟩)
    (resumed : ∀ (s : Router) p' index r call point actions,
      (machine hash).Reaches ⟨Monitor.unlocked start, []⟩ s → ok s (.resume index r) → s.calls[index]? = some call →
        Inv call → Point.Step s.pool.value call.point r p' point actions → Inv ⟨point, call.log ++ actions⟩)
    (ran : (machine hash).run ⟨Monitor.unlocked start, []⟩ events = some s)
    (along : (machine hash).Along ok ⟨Monitor.unlocked start, []⟩ events) (found : s.calls[index]? = some call) :
    Inv call := by
  have keeps : ∀ (s : Router) event next,
      ((machine hash).Reaches ⟨Monitor.unlocked start, []⟩ s ∧
        ∀ (index : Nat) call, s.calls[index]? = some call → Inv call) → ok s event →
          (machine hash).step s event = some next →
            (machine hash).Reaches ⟨Monitor.unlocked start, []⟩ next ∧
              ∀ (index : Nat) call, next.calls[index]? = some call → Inv call := by
    intro s event next ⟨reached, all⟩ met stepped
    refine ⟨reached.trans (.single stepped), fun index call found => ?_⟩
    have cases_of := follows (free_reachable rfl reached) stepped found
    generalize running : s.calls[index]? = earlier at cases_of
    cases cases_of with
    | submitted affinityKey => exact submitted _ affinityKey
    | streamed affinityKey => exact streamed _ affinityKey
    | passed call other => exact all index call running
    | resumed step => exact resumed s _ index _ _ _ _ reached met running (all index _ running) step
  have first : (machine hash).Reaches ⟨Monitor.unlocked start, []⟩ ⟨Monitor.unlocked start, []⟩ ∧
      ∀ (index : Nat) call, ([] : List Call)[index]? = some call → Inv call := ⟨.refl _ _, by simp⟩
  exact (Machine.run_invariant_along keeps first along ran).2 index call found

theorem counted_reachable (reached : (machine hash).Reaches ⟨Monitor.unlocked start, []⟩ s)
    (found : s.calls[index]? = some call) : call.point.Counted start.ips call.log := by
  have fresh : ∀ affinityIp, Locals.Trying start.ips [] ⟨affinityIp, ∅, 0⟩ := fun _ => ⟨Nat.zero_le _, tally_nil⟩
  have nothing : Within start.ips [] := ⟨_, _, _, Nat.zero_le _, Nat.zero_le _, tally_nil⟩
  refine @call_invariant_known hash start (fun call => call.point.Counted start.ips call.log) ?_ ?_ ?_ s reached index
    call found
  · intro p affinityKey
    exact Submit.start_cases (motive := fun st => st.Counted start.ips []) fresh (fun _ => nothing) p hash affinityKey
  · intro p affinityKey
    exact Stream.start_cases (motive := fun st => st.Counted start.ips []) fresh (fun _ => nothing) p hash affinityKey
  · intro p p' call r point actions known before step
    obtain ⟨earlier, log⟩ := call
    cases step with
    | submit step => exact step.counted known before
    | stream step => exact step.counted known before

theorem within_reachable (reached : (machine hash).Reaches ⟨Monitor.unlocked start, []⟩ s)
    (found : s.calls[index]? = some call) : Within start.ips call.log := by
  have counted := counted_reachable reached found
  obtain ⟨point, log⟩ := call
  cases point with
  | submit st => exact Submit.Counted.within counted
  | stream st => exact Stream.Counted.within counted

theorem distinct_reachable (reached : (machine hash).Reaches ⟨Monitor.unlocked start, []⟩ s)
    (found : s.calls[index]? = some call) : (dispatches call.log).Nodup := by
  obtain ⟨used, tries, sleeps, fewTries, fewSleeps, tally⟩ := within_reachable reached found
  exact tally.distinct

/-- Only these nodes fail: every transport error and every retryable status of the run is an answer of one of them. -/
def Blames (bad : Finset String) (s : Router) (event : RouterEvent) : Prop := ∀ ip ∈ s.failing event, ip ∈ bad

instance (bad : Finset String) (s : Router) (event : RouterEvent) : Decidable (s.Blames bad event) :=
  inferInstanceAs (Decidable (∀ ip ∈ s.failing event, ip ∈ bad))

theorem Blames.point {bad : Finset String} {r : Resume} (blames : s.Blames bad (.resume index r))
    (found : s.calls[index]? = some call) : ∀ ip ∈ call.point.failing r, ip ∈ bad := by
  intro ip fails
  apply blames ip
  simp only [failing, found, Option.bind_some]
  exact fails

structure Unharmed (bad : Finset String) (call : Call) : Prop where
  covered : Covered bad call.point.excluded call.log
  excused : bad.card ≤ MAX_RETRIES → call.point.Excused call.log
  settled : bad.card ≤ MAX_RETRIES → ∀ st, call.point = .stream st → st.Settled

theorem start_unharmed (p : NodePool) (bad : Finset String) (affinityKey : Option String) :
    Unharmed bad ⟨.submit (Submit.start p hash affinityKey), []⟩ ∧
      Unharmed bad ⟨.stream (Stream.start p hash affinityKey), []⟩ := by
  have entered : ∀ point : Point, point.excluded = ∅ →
      (∀ statusCode detail, point.error ≠ some (.httpException statusCode detail)) →
        (∀ st, point = .stream st → st.Settled) → Unharmed bad ⟨point, []⟩ := by
    intro point fresh calm settled
    refine ⟨?_, fun _ detail failed => absurd failed (calm 503 detail), fun _ => settled⟩
    rw [fresh]
    exact covered_nil
  constructor
  · apply entered
    · exact Submit.start_cases (motive := fun st => st.excluded = ∅) (fun _ => rfl) (fun _ => rfl) p hash affinityKey
    · intro statusCode detail failed
      unfold Submit.start at failed
      split at failed
      · cases failed
      · cases failed
    · intro st same
      cases same
  · apply entered
    · exact Stream.start_cases (motive := fun st => st.excluded = ∅) (fun _ => rfl) (fun _ => rfl) p hash affinityKey
    · intro statusCode detail failed
      unfold Stream.start at failed
      split at failed
      · cases failed
      · cases failed
    · intro st same
      cases same
      unfold Stream.start
      split
      · trivial
      · trivial

theorem unharmed_of_blames {bad : Finset String}
    (ran : (machine hash).run ⟨Monitor.unlocked start, []⟩ events = some s)
    (blamed : (machine hash).Along (Blames bad) ⟨Monitor.unlocked start, []⟩ events)
    (found : s.calls[index]? = some call) : Unharmed bad call := by
  refine @call_invariant_along hash start s events index call (Unharmed bad) (Blames bad) ?_ ?_ ?_ ran blamed found
  · exact fun p affinityKey => (start_unharmed p bad affinityKey).1
  · exact fun p affinityKey => (start_unharmed p bad affinityKey).2
  · intro s p' index r call point actions reached blames running before step
    have counted := counted_reachable reached running
    have known := blames.point running
    have given_up := before.covered.excluded_le
    refine ⟨before.covered.turn (step.turn counted) known (distinct_reachable reached running), ?_, ?_⟩
    · intro few
      exact step.excused (failing_reachable reached running) (Point.not_exhausts counted given_up known few)
        (before.excused few)
    · intro few st same
      obtain ⟨point, log⟩ := call
      cases step with
      | submit step => cases same
      | stream step =>
        cases same
        exact step.settled counted (steady_reachable reached running).1 given_up known few (before.settled few _ rfl)

/-- Where only these nodes fail, a call is sent to each of them at most once and to one other node at most. If they are
no more than its retries, it gets a 503 from a full queue only, and is told of a failure only behind a chunk. -/
theorem failures_masked {bad : Finset String}
    (ran : (machine hash).run ⟨Monitor.unlocked start, []⟩ events = some s)
    (blamed : (machine hash).Along (Blames bad) ⟨Monitor.unlocked start, []⟩ events)
    (found : s.calls[index]? = some call) :
    (∀ ip ∈ (dispatches call.log).dropLast, ip ∈ bad) ∧ (dispatches call.log).length ≤ bad.card + 1 ∧
      (∀ ip, .evicted ip ∈ call.log → ip ∈ bad) ∧ (pauses call.log).length ≤ bad.card ∧
      (bad.card ≤ MAX_RETRIES →
        (∀ detail, call.point.error = some (.httpException 503 detail) → .rejected ∈ call.log) ∧
          ∀ exn, call.point.error = some exn → exn.retryable = true → chunks call.log ≠ []) := by
  have unharmed := unharmed_of_blames ran blamed found
  have covered := unharmed.covered
  have distinct := distinct_reachable ⟨_, ran⟩ found
  refine ⟨covered.earlier, covered.dispatches_le distinct, covered.evicted, covered.slept, ?_⟩
  intro few
  refine ⟨unharmed.excused few, ?_⟩
  intro exn failed retryable
  obtain ⟨point, log⟩ := call
  cases point with
  | submit st => exact absurd retryable ((failing_reachable ⟨_, ran⟩ found).not_retryable failed)
  | stream st => exact (failing_reachable ⟨_, ran⟩ found).heard (unharmed.settled few st rfl) failed retryable

end

theorem failures_masked_one_node : ∃ s call,
    (machine fun _ => 0).run (new ["10.0.0.1", "10.0.0.2"] 8080 1 1 {"10.0.0.1", "10.0.0.2"})
      [.submit none, .resume 0 .wake, .resume 0 (.posted 0 (.error (.transport "connection refused"))),
        .resume 0 .wake] = some s ∧
    s.calls[0]? = some call ∧ dispatches call.log = ["10.0.0.1", "10.0.0.2"] ∧
      (dispatches call.log).length ≤ ({"10.0.0.1"} : Finset String).card + 1 ∧
      (pauses call.log).length ≤ ({"10.0.0.1"} : Finset String).card := by
  have ends : (((machine fun _ => 0).run (new ["10.0.0.1", "10.0.0.2"] 8080 1 1 {"10.0.0.1", "10.0.0.2"})
      [.submit none, .resume 0 .wake, .resume 0 (.posted 0 (.error (.transport "connection refused"))),
        .resume 0 .wake]).any fun s =>
          s.calls[0]?.any fun call => dispatches call.log = ["10.0.0.1", "10.0.0.2"]) = true := by
    decide +kernel
  obtain ⟨s, ran, last⟩ := Machine.run_of_any _ ends
  obtain ⟨call, found, both⟩ := (Option.any_eq_true _ _).mp last
  have masked := @failures_masked _ _ _ _ _ _ {"10.0.0.1"} ran (by decide) found
  exact ⟨s, call, ran, found, of_decide_eq_true both, masked.2.1, masked.2.2.2.1⟩

end Router
end LlamacppRay.Gateway
