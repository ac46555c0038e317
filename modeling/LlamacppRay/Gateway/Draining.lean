import LlamacppRay.Automata.Termination
import LlamacppRay.Gateway.Admission

/-! A pool drains. Once no further calls arrive, the calls it has come to their end in whatever order they go on, and
only a lost slot, or a queued call that excludes every node, leaves one behind. -/

namespace LlamacppRay.Gateway
open LlamacppRay.Asyncio LlamacppRay.Automata

/-! ### What a call has still to do -/

/-- The attempts that are left to a call, and how far it has come with this one. -/
def Locals.effort (locals : Locals) (stage : Nat) : Nat := 6 * (MAX_RETRIES - locals.attempt) + 3 + stage

def Submit.effort : Submit → Nat
  | .entering locals => locals.effort 5
  | .acquiring locals _ => locals.effort 4
  | .sending locals _ => locals.effort 3
  | .sleeping locals => locals.effort 0
  | .leaving _ => 1
  | .done _ => 0

def Stream.effort : Stream → Nat
  | .entering locals => locals.effort 5
  | .acquiring locals _ => locals.effort 4
  | .opening locals _ => locals.effort 3
  | .reading locals _ _ _ => locals.effort 2
  | .yielding locals _ _ _ => locals.effort 2
  | .sleeping locals _ _ => locals.effort 0
  | .closing locals _ .continuing => locals.effort 5
  | .closing locals _ (.raising exn) => if exn.isException then locals.effort 1 else 2
  | .closing _ _ .returning => 2
  | .leaving _ => 1
  | .done _ => 0

def Point.effort : Point → Nat
  | .submit st => st.effort
  | .stream st => st.effort

/-- What a call does without any more effort: it reads its response to the end, and where it is queued and has been
notified it tests its condition once. -/
def Point.rest (pending : Finset Future) : Point → Nat
  | .submit (.acquiring _ future) => if future ∈ pending then 0 else 1
  | .stream (.acquiring _ future) => if future ∈ pending then 0 else 1
  | .stream (.reading _ _ lines _) => 2 * lines.length
  | .stream (.yielding _ _ lines _) => 2 * lines.length + 1
  | _ => 0

theorem Locals.effort_again {locals : Locals} (more : locals.attempt < MAX_RETRIES) {stage : Nat} (within : stage ≤ 5) :
    Locals.effort { locals with attempt := locals.attempt + 1 } stage < locals.effort 0 := by
  simp only [effort]
  omega

theorem Locals.two_lt_effort (locals : Locals) (stage : Nat) : 2 < locals.effort stage := by
  simp only [effort]
  omega

theorem Locals.effort_lt (locals : Locals) {stage later : Nat} (before : stage < later) :
    locals.effort stage < locals.effort later := by
  simp only [effort]
  omega

theorem Submit.AtHead.effort_lt {st : Submit} {r : Resume} {locals : Locals} (head : AtHead st r locals)
    (fair : st.Fair) {stage : Nat} (within : stage < 5) : locals.effort stage < st.effort := by
  cases head with
  | first => exact locals.effort_lt within
  | again => exact Locals.effort_again fair.2 within.le

theorem Stream.AtHead.effort_lt {st : Stream} {r : Resume} {locals : StreamLocals} (head : AtHead st r locals)
    (fair : st.Fair) {stage : Nat} (within : stage < 5) : locals.effort stage < st.effort := by
  cases head with
  | first => exact Locals.effort_lt _ within
  | again => exact Locals.effort_again fair.2 within.le
  | left => exact Locals.effort_lt _ within

theorem Submit.AtHead.two_lt_effort {st : Submit} {r : Resume} {locals : Locals} (head : AtHead st r locals)
    (fair : st.Fair) : 2 < st.effort :=
  (locals.two_lt_effort 0).trans (head.effort_lt fair (by decide))

theorem Stream.AtHead.two_lt_effort {st : Stream} {r : Resume} {locals : StreamLocals} (head : AtHead st r locals)
    (fair : st.Fair) : 2 < st.effort :=
  (locals.two_lt_effort 0).trans (head.effort_lt fair (by decide))

/-- A resumption brings the call nearer to its end, or leaves it less to do without wakening another call. -/
inductive Nearer (pending pending' : Finset Future) (point next : Point) : Prop
  | effort (less : next.effort < point.effort) : Nearer pending pending' point next
  | rest (same : next.effort = point.effort) (kept : pending ⊆ pending')
      (less : next.rest pending' < point.rest pending) : Nearer pending pending' point next

theorem Nearer.ends {pending pending' : Finset Future} {point next : Point} (last : next.effort ≤ 2)
    (before : 2 < point.effort) : Nearer pending pending' point next :=
  .effort (Nat.lt_of_le_of_lt last before)

theorem rest_requeued {p : NodePool} {future : Future} (due : future ∉ p.cond.pending) :
    p.cond.pending ⊆ (p.unpark future).park.cond.pending ∧
      (if p.cond.fresh ∈ (p.unpark future).park.cond.pending then 0 else 1) <
        if future ∈ p.cond.pending then 0 else 1 := by
  have now : (p.unpark future).park.cond.pending = insert p.cond.fresh p.cond.pending := by
    simp only [NodePool.park, NodePool.unpark, Condition.wait, Condition.forget, Finset.erase_eq_of_notMem due]
  rw [now, if_pos (Finset.mem_insert_self _ _), if_neg due]
  exact ⟨Finset.subset_insert _ _, Nat.one_pos⟩

section
variable {p p' : NodePool} {r : Resume} {actions : List Action}

theorem Submit.Step.nearer {st next : Submit} (step : Submit.Step p st r p' next actions) (fair : st.Fair)
    (due : r = .wake → ∀ waiter, st.waiter = some waiter → waiter.future ∉ p.cond.pending) :
    Nearer p.cond.pending p'.cond.pending (.submit st) (.submit next) := by
  cases step with
  | granted head => exact .effort (head.effort_lt fair (by decide))
  | rejected head => exact .ends one_le_two (head.two_lt_effort fair)
  | queued head => exact .effort (head.effort_lt fair (by decide))
  | served => exact .effort (Locals.effort_lt _ (by decide))
  | requeued full =>
    obtain ⟨kept, less⟩ := rest_requeued (due rfl _ rfl)
    exact .rest rfl kept less
  | withdrawn locals | succeeded | refused | exhausted | broken | cancelled locals =>
    exact .ends one_le_two (Locals.two_lt_effort _ _)
  | rerouted => exact .effort (Locals.effort_lt _ (by decide : 0 < 3))
  | quiet ends =>
    cases ends with
    | unentered => exact .ends (Nat.zero_le 2) (Locals.two_lt_effort _ _)
    | awakened => exact .ends one_le_two (Locals.two_lt_effort _ _)
    | left => exact .effort Nat.one_pos
    | cut => exact .effort Nat.one_pos

theorem Stream.Raises.two_le_effort {st : Stream} {locals : StreamLocals} {ip : String} {exn : Exn}
    (raises : Raises st r locals ip exn) : 2 ≤ st.effort := by
  cases raises with
  | unopened | cancelled => exact (Locals.two_lt_effort _ _).le
  | closed =>
    simp only [effort]
    split
    · exact (Locals.two_lt_effort _ _).le
    · exact le_rfl

theorem Stream.Raises.effort_lt {st : Stream} {locals : StreamLocals} {ip : String} {exn : Exn}
    (raises : Raises st r locals ip exn) (caught : exn.isException = true) : locals.effort 0 < st.effort := by
  cases raises with
  | unopened | cancelled => exact Locals.effort_lt _ (by decide)
  | closed =>
    simp only [effort, caught, if_true]
    exact Locals.effort_lt _ (by decide)

theorem Stream.Step.nearer {st next : Stream} (step : Stream.Step p st r p' next actions) (fair : st.Fair)
    (due : r = .wake → ∀ waiter, st.waiter = some waiter → waiter.future ∉ p.cond.pending) :
    Nearer p.cond.pending p'.cond.pending (.stream st) (.stream next) := by
  cases step with
  | granted head => exact .effort (head.effort_lt fair (by decide))
  | rejected head => exact .ends one_le_two (head.two_lt_effort fair)
  | queued head => exact .effort (head.effort_lt fair (by decide))
  | served => exact .effort (Locals.effort_lt _ (by decide))
  | requeued full =>
    obtain ⟨kept, less⟩ := rest_requeued (due rfl _ rfl)
    exact .rest rfl kept less
  | withdrawn => exact .ends one_le_two (Locals.two_lt_effort _ _)
  | accepted => exact .effort (Locals.effort_lt _ (by decide))
  | refused => exact .effort (Locals.effort_lt _ (by decide : 1 < 3))
  | turned => exact .effort (Locals.effort_lt _ (by decide : 0 < 3))
  | line | blank | pulled => exact .rest rfl subset_rfl (by simp only [Point.rest, List.length_cons]; omega)
  | finished => exact .ends le_rfl (Locals.two_lt_effort _ _)
  | @severed locals ip fault =>
    have caught : (Stream.closing locals ip (.raising fault.exn)).effort = locals.effort 1 :=
      if_pos fault.exn_isException
    exact .effort (caught.trans_lt (Locals.effort_lt _ (by decide)))
  | rethrown raises | exhausted raises | escaped raises => exact .effort raises.two_le_effort
  | rerouted raises => exact .effort (raises.effort_lt rfl)
  | interrupted interrupts =>
    cases interrupts with
    | reading | closed | thrown | asleep => exact .ends le_rfl (Locals.two_lt_effort _ _)
  | @superseded locals ip exn => exact .effort (Raises.two_le_effort (.closed locals ip exn))
  | quiet moves =>
    cases moves with
    | unentered => exact .ends (Nat.zero_le 2) (Locals.two_lt_effort _ _)
    | awakened | dropped => exact .ends one_le_two (Locals.two_lt_effort _ _)
    | continued => exact .effort (Locals.effort_again fair.2 le_rfl)
    | returned | overtaken => exact .effort one_lt_two
    | left | cut => exact .effort Nat.one_pos

theorem Point.Step.nearer {point next : Point} (step : Point.Step p point r p' next actions) (fair : point.Fair)
    (due : r = .wake → ∀ waiter, point.waiter = some waiter → waiter.future ∉ p.cond.pending) :
    Nearer p.cond.pending p'.cond.pending point next := by
  cases step with
  | submit step => exact step.nearer fair due
  | stream step => exact step.nearer fair due

end

/-! ### The calls together -/

theorem Point.rest_mono {pending pending' : Finset Future} (kept : pending ⊆ pending') (point : Point) :
    point.rest pending' ≤ point.rest pending := by
  have fewer : ∀ future : Future, (if future ∈ pending' then 0 else 1) ≤ if future ∈ pending then 0 else 1 := by
    intro future
    by_cases waits : future ∈ pending
    · rw [if_pos (kept waits)]
      exact Nat.zero_le _
    · rw [if_neg waits]
      split <;> omega
  unfold rest
  split
  · exact fewer _
  · exact fewer _
  · exact le_rfl
  · exact le_rfl
  · exact le_rfl

namespace Router

/-- What all calls have still to do: their effort first, then what they do without any. -/
def toDo (s : Router) : ℕ ×ₗ ℕ :=
  toLex ((s.calls.map fun call => call.point.effort).sum,
    (s.calls.map fun call => call.point.rest s.pool.value.cond.pending).sum)

def OfHealth : RouterEvent → Prop
  | .evict _ => True
  | .probed _ => True
  | _ => False

/-- One of the calls goes on, after any changes of the health of nodes. -/
def Goes (hash : String → Int) (allowed : Resume → Prop) (s next : Router) : Prop :=
  ∃ changes middle index r, (∀ event ∈ changes, OfHealth event) ∧ (machine hash).run s changes = some middle ∧
    middle.Due index r ∧ allowed r ∧ (machine hash).step middle (.resume index r) = some next

section
variable {hash : String → Int} {s next middle : Router}

theorem toDo_health {changes : List RouterEvent} (only : ∀ event ∈ changes, OfHealth event)
    (ran : (machine hash).run s changes = some middle) : middle.toDo = s.toDo := by
  induction changes generalizing s with
  | nil =>
    cases ran
    rfl
  | cons event rest ih =>
    rw [Machine.run_cons, Option.bind_eq_some_iff] at ran
    obtain ⟨next, stepped, ran⟩ := ran
    rw [ih (fun other member => only other (List.mem_cons_of_mem _ member)) ran]
    cases event with
    | evict | probed =>
      cases stepped
      rfl
    | _ => exact (only _ List.mem_cons_self).elim

theorem toDo_lt {index : Nat} {r : Resume} (free : s.pool.locked = false) (due : s.Due index r)
    (fair : ∀ call, s.calls[index]? = some call → call.point.Fair)
    (stepped : (machine hash).step s (.resume index r) = some next) : next.toDo < s.toDo := by
  obtain ⟨p', calls', rfl, moves⟩ := moves_of_step free stepped
  generalize s.actions _ = actions at moves
  cases moves with
  | @resumed _ _ call _ point _ running step =>
    have bound := Tasks.bound_of_running running
    have efforts := Tasks.sum_running (fun call : Call => call.point.effort) running
    have rests := Tasks.sum_running (fun call : Call => call.point.rest s.pool.value.cond.pending) running
    have nearer := step.nearer (fair call running) fun woken => due woken call running
    refine Prod.Lex.toLex_lt_toLex.mpr ?_
    simp only [Tasks.sum_set _ bound, efforts, rests, Monitor.unlocked_value]
    cases nearer with
    | effort less => exact Or.inl (Nat.add_lt_add_right less _)
    | rest same kept less =>
      refine Or.inr ⟨by rw [same], Nat.add_lt_add_of_lt_of_le less ?_⟩
      exact List.sum_le_sum fun other _ => other.point.rest_mono kept

end
end Router

/-! ### A call can go on -/

theorem Submit.loop_goes (p : NodePool) (locals : Locals) : ∃ after, loop (Monitor.unlocked p) locals = some after := by
  simp only [loop, Monitor.critical_unlocked, Option.bind_eq_bind, Option.bind_some]
  split
  · exact ⟨_, rfl⟩
  · exact ⟨_, rfl⟩
  · exact ⟨_, rfl⟩

theorem Stream.loop_goes (p : NodePool) (locals : StreamLocals) :
    ∃ after, loop (Monitor.unlocked p) locals = some after := by
  simp only [loop, Monitor.critical_unlocked, Option.bind_eq_bind, Option.bind_some]
  split
  · exact ⟨_, rfl⟩
  · exact ⟨_, rfl⟩
  · exact ⟨_, rfl⟩

theorem Stream.caught_goes (p : NodePool) (locals : StreamLocals) (ip : String) (exn : Exn) :
    ∃ after, caught (Monitor.unlocked p) locals ip exn = some after := by
  by_cases handled : exn.isException = true
  · obtain ⟨p', st, actions, released, -⟩ := caught_released p locals ip handled
    exact ⟨_, released⟩
  · cases exn with
    | cancelledError | generatorExit => exact ⟨_, rfl⟩
    | _ => exact absurd rfl handled

theorem Submit.goes (p : NodePool) (st : Submit) (going : ∀ result, st ≠ .done result) :
    ∃ r after, r.Calm ∧ st.resume (Monitor.unlocked p) r = some after := by
  cases st with
  | entering locals =>
    obtain ⟨after, ran⟩ := loop_goes p locals
    exact ⟨.wake, after, trivial, ran⟩
  | acquiring locals future =>
    cases ends : p.wake future locals.excluded locals.affinityIp with
    | mk p' acquired =>
      refine ⟨.wake, ?_⟩
      simp only [resume, woken, Monitor.critical_unlocked, ends, Option.bind_eq_bind, Option.bind_some]
      cases acquired with
      | granted | busy | blocked => exact ⟨_, trivial, rfl⟩
  | sending locals ip =>
    refine ⟨.posted 0 (.ok ⟨⟨200, ""⟩, some (.obj []), ""⟩), _, ?_, rfl⟩
    intro message failed
    cases failed
  | sleeping locals =>
    obtain ⟨after, ran⟩ := loop_goes p { locals with attempt := locals.attempt + 1 }
    exact ⟨.wake, after, trivial, ran⟩
  | leaving result => exact ⟨.wake, _, trivial, rfl⟩
  | done result => exact absurd rfl (going result)

theorem Stream.goes (p : NodePool) (st : Stream) (going : ∀ result, st ≠ .done result) :
    ∃ r after, r.Calm ∧ st.resume (Monitor.unlocked p) r = some after := by
  cases st with
  | entering locals =>
    obtain ⟨after, ran⟩ := loop_goes p locals
    exact ⟨.wake, after, trivial, ran⟩
  | acquiring locals future =>
    cases ends : p.wake future locals.excluded locals.affinityIp with
    | mk p' acquired =>
      refine ⟨.wake, ?_⟩
      simp only [resume, woken, Monitor.critical_unlocked, ends, Option.bind_eq_bind, Option.bind_some]
      cases acquired with
      | granted | busy | blocked => exact ⟨_, trivial, rfl⟩
  | opening locals ip => exact ⟨.opened (.ok ⟨⟨200, ""⟩, [], none⟩), _, trivial, rfl⟩
  | reading locals ip lines ending =>
    refine ⟨.wake, ?_⟩
    simp only [resume]
    unfold lineRead
    split
    · split
      · exact ⟨_, trivial, rfl⟩
      · exact ⟨_, trivial, rfl⟩
    · exact ⟨_, trivial, rfl⟩
    · exact ⟨_, trivial, rfl⟩
  | yielding locals ip lines ending => exact ⟨.wake, _, trivial, rfl⟩
  | sleeping locals ip inResponse =>
    cases inResponse with
    | true => exact ⟨.wake, _, trivial, rfl⟩
    | false =>
      obtain ⟨after, ran⟩ := loop_goes p { locals with attempt := locals.attempt + 1 }
      exact ⟨.wake, after, trivial, ran⟩
  | closing locals ip exit =>
    cases exit with
    | returning => exact ⟨.wake, _, trivial, rfl⟩
    | continuing =>
      obtain ⟨after, ran⟩ := loop_goes p locals
      exact ⟨.wake, after, trivial, ran⟩
    | raising exn =>
      obtain ⟨after, ran⟩ := caught_goes p locals ip exn
      exact ⟨.wake, after, trivial, ran⟩
  | leaving result => exact ⟨.wake, _, trivial, rfl⟩
  | done result => exact absurd rfl (going result)

theorem Point.goes (p : NodePool) {point : Point} (going : ¬point.Ended) :
    ∃ r after, r.Calm ∧ point.resume (Monitor.unlocked p) r = some after := by
  cases point with
  | submit st =>
    obtain ⟨r, after, calm, ran⟩ := Submit.goes p st fun result same => going (same ▸ trivial)
    exact ⟨r, _, calm, Option.map_eq_some_iff.mpr ⟨after, ran, rfl⟩⟩
  | stream st =>
    obtain ⟨r, after, calm, ran⟩ := Stream.goes p st fun result same => going (same ▸ trivial)
    exact ⟨r, _, calm, Option.map_eq_some_iff.mpr ⟨after, ran, rfl⟩⟩

/-! ### Where a pool comes to rest -/

namespace Router
variable {hash : String → Int} {ips : List String} {port parallel maxQueued : Int} {healthy : Finset String}
  {s : Router}

/-- Nothing more comes. Each call has ended, or is queued without a notification to come: it has excluded every node
of a small pool, or a slot has been lost. -/
def Drained (s : Router) : Prop :=
  ∀ call ∈ s.calls, call.point.Ended ∨ ∃ waiter, call.point.waiter = some waiter ∧
    waiter.future ∈ s.pool.value.cond.pending ∧
      (s.pool.value.ips.toFinset ⊆ waiter.exclude ∧ s.pool.value.ips.toFinset.card ≤ MAX_RETRIES ∨
        ∃ ip index, s.Lost ip index)

theorem point_fair (reached : (machine hash).Reaches (new ips port parallel maxQueued healthy) s) {index : Nat}
    {call : Call} (found : s.calls[index]? = some call) : call.point.Fair := by
  have fresh : ∀ affinityIp, Locals.Fair ⟨affinityIp, ∅, 0⟩ := fun _ => ⟨le_rfl, Nat.zero_le _⟩
  refine @call_invariant hash _ (fun call => call.point.Fair) ?_ ?_ ?_ s reached index call found
  · intro p affinityKey
    exact Submit.start_cases (motive := Submit.Fair) fresh (fun _ => trivial) p hash affinityKey
  · intro p affinityKey
    exact Stream.start_cases (motive := Stream.Fair) fresh (fun _ => trivial) p hash affinityKey
  · intro p p' call r point actions before step
    exact step.fair before

theorem lost_or_goes (reached : (machine hash).Reaches (new ips port parallel maxQueued healthy) s) {ip : String}
    (taken : 0 < s.pool.value.inFlight ip) :
    (∃ ip index, s.Lost ip index) ∨
      ∃ (index : Nat) (call : Call), s.calls[index]? = some call ∧ call.point.held.isSome = true := by
  obtain ⟨index, call, found, one⟩ := slot_of_taken reached taken
  obtain ⟨events, ran⟩ := reached
  rcases keeping_iff_along index ran with ⟨-, keeping⟩ | ⟨-, leaking⟩
  · exact Or.inr ⟨index, call, found, keeping.holds found one⟩
  · left
    obtain ⟨lost, other, there, owns, ended⟩ := leaking.owns
    refine ⟨other, index, lost, there, ended, ?_⟩
    rw [owns.slots_eq, share_self]
    exact Int.one_pos

theorem goes_of_not_drained (room : 1 ≤ parallel)
    (reached : (machine hash).Reaches (new ips port parallel maxQueued healthy) s) (left : ¬s.Drained) :
    ∃ next, Goes hash Resume.Calm s next := by
  have free := free_reachable rfl reached
  by_contra still
  have goes : ∀ {index : Nat} {call : Call}, s.calls[index]? = some call → ¬call.point.Ended →
      ¬∀ waiter, call.point.waiter = some waiter → waiter.future ∉ s.pool.value.cond.pending := by
    intro index call found going due
    obtain ⟨r, after, calm, resumed⟩ := call.point.goes s.pool.value going
    rw [← Monitor.eq_unlocked free] at resumed
    have stepped : (machine hash).step s (.resume index r) =
        some ⟨after.1, s.calls.set index ⟨after.2.1, call.log ++ after.2.2⟩⟩ := by
      simp only [machine, step, found, resumed, Option.bind_eq_bind, Option.bind_some]
      rfl
    refine still ⟨_, [], s, index, r, by simp, rfl, ?_, calm, stepped⟩
    intro woken other there waiter waits
    cases found.symm.trans there
    exact due waiter waits
  refine left fun call member => ?_
  obtain ⟨index, found⟩ := List.mem_iff_getElem?.mp member
  by_cases ended : call.point.Ended
  · exact Or.inl ended
  · obtain ⟨waiter, waits⟩ := not_forall.mp (goes found ended)
    obtain ⟨queued, pending⟩ := Classical.not_imp.mp waits
    refine Or.inr ⟨waiter, queued, not_not.mp pending, ?_⟩
    by_cases usable : ∃ ip ∈ s.pool.value.ips, ip ∉ waiter.exclude
    · obtain ⟨ip, taken⟩ := taken_of_waiting room reached member queued usable (Or.inr (not_not.mp pending))
      rcases lost_or_goes reached taken with lost | ⟨holder, holding, running, holds⟩
      · exact Or.inr lost
      · refine absurd (fun other waits => ?_) (goes running fun ended => ?_)
        · rw [held_of_waiter waits] at holds
          cases holds
        · rw [ended.held_none] at holds
          cases holds
    · have all : s.pool.value.ips.toFinset ⊆ waiter.exclude := by
        intro ip known
        by_contra allowed
        exact usable ⟨ip, List.mem_toFinset.mp known, allowed⟩
      exact Or.inl ⟨all, (Finset.card_le_card all).trans ((point_fair reached found).waiter queued)⟩

/-- Once no more calls arrive, every order in which the calls of a pool go on comes to an end, with no call left behind
but those that wait for a lost slot or exclude every node. -/
theorem drains (room : 1 ≤ parallel) (reached : (machine hash).Reaches (new ips port parallel maxQueued healthy) s) :
    Inevitable (Goes hash Resume.Calm) (Goes hash fun _ => True) Drained s := by
  refine .of_variant ((machine hash).Reaches (new ips port parallel maxQueued healthy)) toDo ?_ ?_ ?_ reached
  · rintro s next reached ⟨changes, middle, index, r, -, ran, -, -, stepped⟩
    exact (reached.trans ⟨changes, ran⟩).trans (.single stepped)
  · rintro s next reached ⟨changes, middle, index, r, only, ran, due, -, stepped⟩
    have there := reached.trans ⟨changes, ran⟩
    rw [← toDo_health only ran]
    exact toDo_lt (free_reachable rfl there) due (fun call found => point_fair there found) stepped
  · intro s reached left
    exact goes_of_not_drained room reached left

theorem drains_two_calls : ∃ s, (machine fun _ => 0).run (new ["10.0.0.1"] 8080 1 1 ∅)
      [.submit none, .stream none, .resume 0 .wake, .resume 1 .wake] = some s ∧
    Inevitable (Goes (fun _ => 0) Resume.Calm) (Goes (fun _ => 0) fun _ => True) Drained s := by
  have goes : (((machine fun _ => 0).run (new ["10.0.0.1"] 8080 1 1 ∅)
      [.submit none, .stream none, .resume 0 .wake, .resume 1 .wake]).any fun _ => true) = true := by decide
  obtain ⟨s, ran, -⟩ := Machine.run_of_any _ goes
  exact ⟨s, ran, drains (by decide) ⟨_, ran⟩⟩

end Router
end LlamacppRay.Gateway
