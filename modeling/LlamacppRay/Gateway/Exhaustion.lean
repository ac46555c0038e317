import LlamacppRay.Gateway.Failures

/-! Calls that end with status 503: the pool was full, or the last attempt failed. The two carry the
same status, and only the run behind a call tells them apart. -/

namespace LlamacppRay.Gateway
open LlamacppRay.Asyncio LlamacppRay.Automata LlamacppRay.Python

def Point.error : Point → Option Exn
  | .submit (.leaving (.error exn)) => some exn
  | .submit (.done (.error exn)) => some exn
  | .stream (.leaving (.error exn)) => some exn
  | .stream (.done (.error exn)) => some exn
  | _ => none

/-- The attempt that fails is the last one: on an earlier one the call would go on. -/
def Point.exhausts : Point → Resume → Bool
  | .submit (.sending locals _), .posted _ result =>
      match send result with
      | .error exn => exn.retryable && MAX_RETRIES ≤ locals.attempt
      | .ok _ => false
  | .stream (.opening locals _), .opened (.error fault) =>
      fault.exn.retryable && !locals.startedStreaming && MAX_RETRIES ≤ locals.attempt
  | .stream (.closing locals _ (.raising exn)), .wake =>
      match exn with
      | .transportError _ => !locals.startedStreaming && MAX_RETRIES ≤ locals.attempt
      | _ => false
  | _, _ => false

/-- An exception that is no `HTTPException` of status 503. -/
def Exn.Ordinary (exn : Exn) : Prop := ∀ detail, exn ≠ .httpException 503 detail

theorem poolFull_ne_unreachable (cause : Exn) : poolFull ≠ unreachable cause := by
  intro same
  simp only [poolFull, unreachable, Exn.httpException.injEq, Json.obj.injEq, List.cons.injEq, Prod.mk.injEq,
    Json.str.injEq, true_and, and_true] at same
  have initials := congrArg (fun text => text.toList.head?) same
  simp at initials

/-! ### One stretch -/

inductive Point.Ends (point : Point) (r : Resume) (actions : List Action) : Option Exn → Prop
  | full (going : point.error = none) (more : point.exhausts r = false) (refused : .rejected ∈ actions) :
      Ends point r actions (some poolFull)
  | unreached (cause : Exn) (going : point.error = none) (last : point.exhausts r = true)
      (accepted : .rejected ∉ actions) : Ends point r actions (some (unreachable cause))
  | kept (awake : r ≠ .cancel) (more : point.exhausts r = false) (accepted : .rejected ∉ actions) :
      Ends point r actions point.error
  | cancelled (stopped : r = .cancel) (more : point.exhausts r = false) (accepted : .rejected ∉ actions) :
      Ends point r actions (some .cancelledError)
  | other (error : Option Exn) (ordinary : ∀ exn, error = some exn → exn.Ordinary) (going : point.error = none)
      (more : point.exhausts r = false) (accepted : .rejected ∉ actions) : Ends point r actions error

theorem Point.Ends.silent {point : Point} {r : Resume} {actions : List Action} (going : point.error = none)
    (more : point.exhausts r = false) (accepted : .rejected ∉ actions) : point.Ends r actions none :=
  .other none nofun going more accepted

section
variable {p p' : NodePool} {r : Resume} {actions log : List Action}

theorem Submit.finish_error {ip : String} {queueMs : Int} {data : Json} {exn : Exn}
    (failed : finish ip queueMs data = .error exn) : exn.Ordinary := by
  unfold finish at failed
  split at failed
  · cases failed
  · cases failed
    nofun

theorem Submit.AtHead.going {st : Submit} {locals : Locals} (head : AtHead st r locals) :
    Point.error (.submit st) = none ∧ Point.exhausts (.submit st) r = false := by
  cases head <;> exact ⟨rfl, rfl⟩

theorem Stream.AtHead.going {st : Stream} {locals : StreamLocals} (head : AtHead st r locals) :
    Point.error (.stream st) = none ∧ Point.exhausts (.stream st) r = false := by
  cases head <;> exact ⟨rfl, rfl⟩

theorem Stream.Raises.going {st : Stream} {locals : StreamLocals} {ip : String} {exn : Exn}
    (raises : Raises st r locals ip exn) : Point.error (.stream st) = none := by
  cases raises <;> rfl

theorem Submit.Step.ends {st next : Submit} (step : Submit.Step p st r p' next actions) :
    Point.Ends (.submit st) r actions (Point.error (.submit next)) := by
  cases step with
  | granted head => exact .silent head.going.1 head.going.2 (by simp)
  | rejected head => exact .full head.going.1 head.going.2 (by simp)
  | queued head => exact .silent head.going.1 head.going.2 (by simp)
  | served => exact .silent rfl rfl (by simp)
  | requeued => exact .silent rfl rfl (by simp)
  | withdrawn => exact .cancelled rfl rfl (by simp)
  | @succeeded locals ip queueMs result data outcome =>
    refine .other _ ?_ rfl (by simp only [Point.exhausts, outcome]) (by simp)
    intro exn failed
    cases finished : finish ip queueMs data with
    | ok data =>
      rw [finished] at failed
      cases failed
    | error other =>
      rw [finished] at failed
      cases failed
      exact finish_error finished
  | @refused locals ip queueMs result reply outcome final =>
    have more : Point.exhausts (.submit (.sending locals ip)) (.posted queueMs result) = false := by
      simp [Point.exhausts, outcome, Exn.retryable, final]
    refine .other _ ?_ rfl more (by simp)
    intro exn failed
    cases failed
    intro detail same
    rw [(detail_of_httpException same).1] at final
    exact final (by decide)
  | @exhausted locals ip queueMs result exn outcome failure last =>
    refine .unreached exn rfl ?_ (by simp)
    simp only [Point.exhausts, outcome, failure, last, decide_true, Bool.and_self]
  | @rerouted locals ip queueMs result exn outcome failure more =>
    refine .silent rfl ?_ (by simp)
    simp only [Point.exhausts, outcome, failure, Nat.not_le.mpr more, decide_false, Bool.and_false]
  | @broken locals ip queueMs result message outcome =>
    refine .other _ ?_ rfl (by simp [Point.exhausts, outcome, Exn.retryable]) (by simp)
    intro exn failed
    cases failed
    nofun
  | cancelled => exact .cancelled rfl rfl (by simp)
  | quiet ends =>
    cases ends with
    | unentered => exact .cancelled rfl rfl (by simp)
    | awakened => exact .cancelled rfl rfl (by simp)
    | left result =>
      have same : Point.error (.submit (.done result)) = Point.error (.submit (.leaving result)) := by
        cases result <;> rfl
      rw [same]
      exact .kept nofun rfl (by simp)
    | cut => exact .cancelled rfl rfl (by simp)

theorem Stream.Raised.ordinary {exn : Exn} (raised : Raised log exn) : exn.Ordinary := by
  cases raised <;> nofun

theorem Stream.Raises.not_exhausts {st : Stream} {locals : StreamLocals} {ip : String} {exn : Exn}
    (raises : Raises st r locals ip exn)
    (final : (∀ message, exn ≠ .transportError message) ∨ locals.startedStreaming = true) :
    Point.exhausts (.stream st) r = false := by
  cases raises with
  | unopened locals ip fault =>
    cases fault with
    | transport message =>
      have started := final.resolve_left fun other => other message rfl
      simp [Point.exhausts, started]
    | other message => simp [Point.exhausts, Fault.exn, Exn.retryable]
  | cancelled => rfl
  | closed locals ip exn =>
    cases exn with
    | transportError message =>
      have started := final.resolve_left fun other => other message rfl
      simp [Point.exhausts, started]
    | _ => rfl

theorem Stream.Step.ends {st next : Stream} (step : Stream.Step p st r p' next actions)
    (before : st.Failing log) : Point.Ends (.stream st) r actions (Point.error (.stream next)) := by
  cases step with
  | granted head => exact .silent head.going.1 head.going.2 (by simp)
  | rejected head => exact .full head.going.1 head.going.2 (by simp)
  | queued head => exact .silent head.going.1 head.going.2 (by simp)
  | served => exact .silent rfl rfl (by simp)
  | requeued => exact .silent rfl rfl (by simp)
  | withdrawn => exact .cancelled rfl rfl (by simp)
  | accepted => exact .silent rfl rfl (by simp)
  | refused => exact .silent rfl rfl (by simp)
  | turned => exact .silent rfl rfl (by simp)
  | line => exact .silent rfl rfl (by simp)
  | blank => exact .silent rfl rfl (by simp)
  | pulled => exact .silent rfl rfl (by simp)
  | finished => exact .silent rfl rfl (by simp)
  | severed => exact .silent rfl rfl (by simp)
  | rethrown raises caught final =>
    refine .other _ ?_ raises.going (raises.not_exhausts final) (by simp)
    intro other failed
    cases failed
    exact (raises.raised before).2.ordinary
  | @exhausted _ _ locals ip message raises silent last =>
    refine .unreached _ raises.going ?_ (by simp)
    rcases raises.of_transport with ⟨rfl, rfl⟩ | ⟨rfl, rfl⟩
    · simp only [Point.exhausts, Fault.exn, Exn.retryable, silent, last, decide_true, Bool.not_false, Bool.and_self]
    · simp only [Point.exhausts, silent, last, decide_true, Bool.not_false, Bool.and_self]
  | @rerouted _ _ locals ip message raises silent more =>
    refine .silent raises.going ?_ (by simp)
    rcases raises.of_transport with ⟨rfl, rfl⟩ | ⟨rfl, rfl⟩
    · simp only [Point.exhausts, Nat.not_le.mpr more, decide_false, Bool.and_false]
    · simp only [Point.exhausts, Nat.not_le.mpr more, decide_false, Bool.and_false]
  | escaped raises uncaught =>
    have more := raises.not_exhausts (Or.inl (Exn.ne_transport_of_uncaught uncaught))
    refine .other _ ?_ raises.going more (by simp)
    intro other failed
    cases failed
    exact (raises.raised before).2.ordinary
  | interrupted interrupts => cases interrupts <;> exact .silent rfl rfl (by simp)
  | superseded => exact .cancelled rfl rfl (by simp)
  | quiet moves =>
    cases moves with
    | unentered => exact .cancelled rfl rfl (by simp)
    | awakened => exact .cancelled rfl rfl (by simp)
    | continued => exact .silent rfl rfl (by simp)
    | returned => exact .silent rfl rfl (by simp)
    | overtaken => exact .cancelled rfl rfl (by simp)
    | dropped => exact .cancelled rfl rfl (by simp)
    | left result =>
      have same : Point.error (.stream (.done result)) = Point.error (.stream (.leaving result)) := by
        cases result <;> rfl
      rw [same]
      exact .kept nofun rfl (by simp)
    | cut => exact .cancelled rfl rfl (by simp)

theorem Point.Step.ends {point next : Point} (step : Point.Step p point r p' next actions)
    (before : point.Failing log) : point.Ends r actions next.error := by
  cases step with
  | submit step => exact step.ends
  | stream step => exact step.ends before

end

/-! ### The run behind a call -/

namespace Router

/-- In a step of the run the last attempt of the call fails, and the call is not cancelled after it. -/
def Exhausted (hash : String → Int) (start : Router) (index : Nat) (events : List RouterEvent) : Prop :=
  ∃ before r after s call, events = before ++ .resume index r :: after ∧
    (machine hash).run start before = some s ∧ s.calls[index]? = some call ∧ call.point.exhausts r = true ∧
      .resume index .cancel ∉ after

section
variable {hash : String → Int} {start s : Router} {index : Nat} {events : List RouterEvent}

theorem exhausted_concat (ran : (machine hash).run start events = some s) (event : RouterEvent) :
    Exhausted hash start index (events ++ [event]) ↔
      (∃ r call, event = .resume index r ∧ s.calls[index]? = some call ∧ call.point.exhausts r = true) ∨
        Exhausted hash start index events ∧ event ≠ .resume index .cancel := by
  constructor
  · rintro ⟨before, r, after, s', call, parts, ranBefore, there, exhausts, uncancelled⟩
    rcases List.eq_nil_or_concat' after with rfl | ⟨rest, last, rfl⟩
    · obtain ⟨rfl, same⟩ := List.append_inj' parts rfl
      cases ran.symm.trans ranBefore
      exact Or.inl ⟨r, call, List.singleton_inj.mp same, there, exhausts⟩
    · have shifted : events ++ [event] = (before ++ .resume index r :: rest) ++ [last] := by
        rw [parts, List.append_assoc]
        rfl
      obtain ⟨earlier, same⟩ := List.append_inj' shifted rfl
      cases same
      rw [List.mem_append, not_or, List.mem_singleton] at uncancelled
      refine Or.inr ⟨⟨before, r, rest, s', call, earlier, ranBefore, there, exhausts, uncancelled.1⟩, ?_⟩
      exact Ne.symm uncancelled.2
  · rintro (⟨r, call, rfl, running, exhausts⟩ |
      ⟨⟨before, r, after, s', call, parts, ranBefore, there, exhausts, uncancelled⟩, awake⟩)
    · exact ⟨events, r, [], s, call, rfl, ran, running, exhausts, List.not_mem_nil⟩
    · refine ⟨before, r, after ++ [event], s', call, ?_, ranBefore, there, exhausts, ?_⟩
      · rw [parts, List.append_assoc]
        rfl
      · rw [List.mem_append, not_or, List.mem_singleton]
        exact ⟨uncancelled, Ne.symm awake⟩

theorem exhausted_concat_resumed {call : Call} (ran : (machine hash).run start events = some s)
    (running : s.calls[index]? = some call) (r : Resume) :
    Exhausted hash start index (events ++ [.resume index r]) ↔
      call.point.exhausts r = true ∨ Exhausted hash start index events ∧ r ≠ .cancel := by
  rw [exhausted_concat ran]
  refine or_congr ?_ (and_congr_right fun _ => by simp)
  constructor
  · rintro ⟨r', call', same, there, exhausts⟩
    cases same
    cases running.symm.trans there
    exact exhausts
  · intro exhausts
    exact ⟨r, call, rfl, running, exhausts⟩

theorem exhausted_concat_other {event : RouterEvent} (ran : (machine hash).run start events = some s)
    (other : ∀ r, event ≠ .resume index r) :
    Exhausted hash start index (events ++ [event]) ↔ Exhausted hash start index events := by
  rw [exhausted_concat ran]
  constructor
  · rintro (⟨r, call, same, -⟩ | ⟨exhausted, -⟩)
    · exact absurd same (other r)
    · exact exhausted
  · intro exhausted
    exact Or.inr ⟨exhausted, other .cancel⟩

theorem running_run {last : Router} {call : Call} (free : s.pool.locked = false)
    (ran : (machine hash).run s events = some last) (running : s.calls[index]? = some call) :
    ∃ call', last.calls[index]? = some call' := by
  have keeps : ∀ s event next, (s.pool.locked = false ∧ ∃ call : Call, s.calls[index]? = some call) →
      (machine hash).step s event = some next →
        next.pool.locked = false ∧ ∃ call : Call, next.calls[index]? = some call := by
    rintro s event next ⟨free, call, running⟩ stepped
    exact ⟨(pool_step free stepped).1, running_step free stepped running⟩
  exact (Machine.run_invariant keeps ⟨free, call, running⟩ ran).2

theorem running_of_exhausted (free : start.pool.locked = false)
    (ran : (machine hash).run start events = some s) (exhausted : Exhausted hash start index events) :
    ∃ call, s.calls[index]? = some call := by
  obtain ⟨before, r, after, middle, call, rfl, ranBefore, running, -, -⟩ := exhausted
  rw [Machine.run_append, ranBefore] at ran
  exact running_run (free_reachable free ⟨before, ranBefore⟩) ran running

/-- How a call stands with status 503, the run so far being given. -/
inductive Verdict (exhausted : Prop) (call : Call) : Prop
  | full (error : call.point.error = some poolFull) (refused : .rejected ∈ call.log) (alive : ¬exhausted)
  | unreached (cause : Exn) (error : call.point.error = some (unreachable cause))
      (accepted : .rejected ∉ call.log) (spent : exhausted)
  | other (ordinary : ∀ exn, call.point.error = some exn → exn.Ordinary) (alive : ¬exhausted)
      (withdrawn : .rejected ∈ call.log → call.point.error = some .cancelledError)

theorem Verdict.congr {exhausted exhausted' : Prop} {call : Call} (verdict : Verdict exhausted call)
    (same : exhausted' ↔ exhausted) : Verdict exhausted' call := by
  rw [propext same]
  exact verdict

theorem Verdict.resumed {exhausted exhausted' : Prop} {call : Call} {r : Resume} {actions : List Action}
    {point : Point} (verdict : Verdict exhausted call) (ends : call.point.Ends r actions point.error)
    (now : exhausted' ↔ call.point.exhausts r = true ∨ exhausted ∧ r ≠ .cancel) :
    Verdict exhausted' ⟨point, call.log ++ actions⟩ := by
  have calm : ∀ detail, Exn.cancelledError ≠ .httpException 503 detail := nofun
  generalize result : point.error = error at ends
  cases ends with
  | full going more refused =>
    refine .full result (List.mem_append_right call.log refused) ?_
    rw [now, more]
    rintro (spent | ⟨spent, -⟩)
    · cases spent
    · cases verdict with
      | full error => cases going.symm.trans error
      | unreached cause error => cases going.symm.trans error
      | other ordinary alive => exact alive spent
  | unreached cause going last accepted =>
    refine .unreached cause result ?_ (now.mpr (Or.inl last))
    rw [List.mem_append, not_or]
    refine ⟨fun refused => ?_, accepted⟩
    cases verdict with
    | full error => cases going.symm.trans error
    | unreached cause error => cases going.symm.trans error
    | other ordinary alive withdrawn => cases going.symm.trans (withdrawn refused)
  | kept awake more accepted =>
    have unchanged : exhausted' ↔ exhausted := by
      rw [now, more]
      simp [awake]
    have sameLog : .rejected ∈ call.log ++ actions ↔ .rejected ∈ call.log := by
      rw [List.mem_append, or_iff_left accepted]
    cases verdict with
    | full error refused alive => exact .full (result.trans error) (sameLog.mpr refused) (mt unchanged.mp alive)
    | unreached cause error untouched spent =>
      exact .unreached cause (result.trans error) (mt sameLog.mp untouched) (unchanged.mpr spent)
    | other ordinary alive withdrawn =>
      refine .other ?_ (mt unchanged.mp alive) fun refused => result.trans (withdrawn (sameLog.mp refused))
      intro exn failed
      exact ordinary exn (result.symm.trans failed)
  | cancelled stopped more accepted =>
    refine .other ?_ ?_ fun _ => result
    · intro exn failed
      cases result.symm.trans failed
      exact calm
    · rw [now, more]
      simp [stopped]
  | other error ordinary going more accepted =>
    have fresh : ¬exhausted ∧ .rejected ∉ call.log := by
      cases verdict with
      | full error => cases going.symm.trans error
      | unreached cause error => cases going.symm.trans error
      | other ordinary alive withdrawn => exact ⟨alive, fun refused => by cases going.symm.trans (withdrawn refused)⟩
    refine .other ?_ ?_ ?_
    · intro exn failed
      exact ordinary exn (result.symm.trans failed)
    · rw [now, more]
      simp [fresh.1]
    · intro refused
      rcases List.mem_append.mp refused with earlier | latest
      · exact absurd earlier fresh.2
      · exact absurd latest accepted

theorem start_verdict {p : NodePool} {exhausted : Prop} (alive : ¬exhausted) (affinityKey : Option String) :
    Verdict exhausted ⟨.submit (Submit.start p hash affinityKey), []⟩ ∧
      Verdict exhausted ⟨.stream (Stream.start p hash affinityKey), []⟩ := by
  have entered : ∀ point : Point, (∀ exn, point.error = some exn → ∃ message, exn = .other message) →
      Verdict exhausted ⟨point, []⟩ := by
    intro point only
    refine .other ?_ alive fun refused => absurd refused List.not_mem_nil
    intro exn failed
    obtain ⟨message, rfl⟩ := only exn failed
    intro detail same
    cases same
  constructor
  · apply entered
    unfold Submit.start
    split
    · intro exn failed
      cases failed
    · intro exn failed
      cases failed
      exact ⟨_, rfl⟩
  · apply entered
    unfold Stream.start
    split
    · intro exn failed
      cases failed
    · intro exn failed
      cases failed
      exact ⟨_, rfl⟩

theorem verdict_reachable {p : NodePool} {call : Call}
    (ran : (machine hash).run ⟨Monitor.unlocked p, []⟩ events = some s) (found : s.calls[index]? = some call) :
    Verdict (Exhausted hash ⟨Monitor.unlocked p, []⟩ index events) call := by
  induction events using List.reverseRecOn generalizing s call with
  | nil =>
    cases ran
    cases found
  | append_singleton events event ih =>
    rw [Machine.run_append, Option.bind_eq_some_iff] at ran
    obtain ⟨middle, ranBefore, ranLast⟩ := ran
    have stepped : (machine hash).step middle event = some s := by
      rw [Machine.run_cons, Option.bind_eq_some_iff] at ranLast
      obtain ⟨next, stepped, done⟩ := ranLast
      cases done
      exact stepped
    have free := free_reachable rfl ⟨events, ranBefore⟩
    have cases_of := follows free stepped found
    generalize running : middle.calls[index]? = earlier at cases_of
    have unbegun : middle.calls[index]? = none → ¬Exhausted hash ⟨Monitor.unlocked p, []⟩ index events := by
      intro absent exhausted
      obtain ⟨call', present⟩ := running_of_exhausted rfl ranBefore exhausted
      cases absent.symm.trans present
    cases cases_of with
    | submitted affinityKey =>
      exact (start_verdict (unbegun running) affinityKey).1.congr (exhausted_concat_other ranBefore nofun)
    | streamed affinityKey =>
      exact (start_verdict (unbegun running) affinityKey).2.congr (exhausted_concat_other ranBefore nofun)
    | passed call other => exact (ih ranBefore running).congr (exhausted_concat_other ranBefore other)
    | resumed step =>
      have failing := failing_reachable ⟨events, ranBefore⟩ running
      exact (ih ranBefore running).resumed (step.ends failing) (exhausted_concat_resumed ranBefore running _)

end

end Router

/-! ### An `HTTPException` comes before every chunk -/

def Stream.Hushed : Stream → List Action → Prop
  | .leaving (.error (.httpException _ _)), log => chunks log = []
  | .done (.error (.httpException _ _)), log => chunks log = []
  | _, _ => True

section
variable {p p' : NodePool} {st next : Stream} {r : Resume} {actions log : List Action}

theorem Stream.Raised.hushed {exn : Exn} (raised : Raised log exn) (after : List Action) :
    Hushed (.leaving (.error exn)) after := by
  cases raised <;> trivial

theorem Stream.Step.hushed (step : Stream.Step p st r p' next actions) (told : st.Told log)
    (failing : st.Failing log) (before : st.Hushed log) : next.Hushed (log ++ actions) := by
  cases step with
  | rejected head => exact (head.silent told).quietly rfl
  | exhausted raises silent =>
    have nothing := (raises.delivered told).2 silent
    change chunks (log ++ [_, _]) = []
    rw [chunks_append, nothing]
    rfl
  | rethrown raises => exact (raises.raised failing).2.hushed _
  | escaped raises => exact (raises.raised failing).2.hushed _
  | quiet moves =>
    cases moves with
    | left result =>
      rw [List.append_nil]
      cases result with
      | ok => trivial
      | error exn => cases exn <;> exact before
    | _ => trivial
  | _ => trivial

end

/-- A stream that ends with an `HTTPException` has yielded nothing. -/
theorem Router.silent_of_httpException {hash : String → Int} {p : NodePool} {s : Router} {index : Nat}
    {statusCode : Int} {detail : Json} {log : List Action}
    (reached : (machine hash).Reaches ⟨Monitor.unlocked p, []⟩ s)
    (found : s.calls[index]? = some ⟨.stream (.done (.error (.httpException statusCode detail))), log⟩) :
    chunks log = [] := by
  have hushed := @stream_invariant hash p (fun st log => st.Told log ∧ st.Failing log ∧ st.Hushed log) ?_ ?_ s reached
    index _ log found
  · exact hushed.2.2
  · intro p affinityKey
    refine ⟨?_, Stream.start_failing hash affinityKey, ?_⟩
    · exact Stream.start_cases (motive := fun st => st.Told []) (fun _ => ⟨rfl, rfl⟩)
        (fun _ => delivered_of_silent rfl) p hash affinityKey
    · unfold Stream.start
      split <;> trivial
  · intro p p' st r next log actions ⟨told, failing, hushed⟩ step
    exact ⟨step.told told, step.failing failing, step.hushed told failing hushed⟩

end LlamacppRay.Gateway
