import LlamacppRay.Gateway.Plan

/-! Both dispatchers carry out the same plan. The two loops are written differently, so each of them
is compared with the plan and not with the other. -/

namespace LlamacppRay.Gateway
open LlamacppRay.Asyncio LlamacppRay.Automata.Traces LlamacppRay.Python

/-! ### One call and everything else -/

/-- What counts as schedule: the operations on the pool and the waits. -/
def schedule (actions : List Action) : List Action :=
  actions.filter fun action => match action with
    | .answered _ => false
    | .yielded _ => false
    | _ => true

def shown (stimulus : Stimulus) : List Action → Option Shown
  | [] => none
  | action :: rest => some ⟨stimulus, action :: rest⟩

/-- A single call, with the pool changed by the others at any of its suspensions. -/
inductive Solo {Point : Type} (resume : Monitor NodePool → Point → Resume → Option (Stretch Point))
    (stimulus : Point → Resume → Option Stimulus) :
    NodePool × Point → Option Shown → NodePool × Point → Prop
  | others (p p' : NodePool) (point : Point) :
      Solo resume stimulus (p, point) (some ⟨.others p', []⟩) (p', point)
  | resumed {p p' : NodePool} {point next : Point} {r : Resume} {actions : List Action}
      {cause : Stimulus} (caused : stimulus point r = some cause)
      (ran : resume (Monitor.unlocked p) point r = some (Monitor.unlocked p', next, actions)) :
      Solo resume stimulus (p, point) (shown cause (schedule actions)) (p', next)

theorem Solo.silent {Point : Type} {resume : Monitor NodePool → Point → Resume → Option (Stretch Point)}
    {stimulus : Point → Resume → Option Stimulus} {p p' : NodePool} {point next : Point}
    {r : Resume} {actions : List Action} {cause : Stimulus} (caused : stimulus point r = some cause)
    (ran : resume (Monitor.unlocked p) point r = some (Monitor.unlocked p', next, actions))
    (nothing : schedule actions = []) : Solo resume stimulus (p, point) none (p', next) := by
  have step : Solo resume stimulus (p, point) (shown cause (schedule actions)) (p', next) := .resumed caused ran
  rwa [nothing] at step

def Outcome.ofExn : Exn → Option Outcome
  | .transportError _ => some .transport
  | .httpStatusError response => some (.status response.status)
  | _ => none

def Outcome.ofSend (result : Except Fault Reply) : Option Outcome :=
  match send result with
  | .ok _ => some .success
  | .error exn => ofExn exn

/-- A transport error may also break off a body of which no line has come. -/
def Outcome.ofOpened : Except Fault Streamed → Option Outcome
  | .error fault => ofExn fault.exn
  | .ok response =>
      if response.isSuccess then
        match response.ending with
        | none => some .success
        | some fault => if response.lines.all fun line => line = "" then ofExn fault.exn else none
      else some (.status response.status)

theorem Outcome.possible_status (response : Response) :
    (Outcome.status response.status).Possible ↔ response.isSuccess = false := by
  simp only [Outcome.Possible, Response.isSuccess, Bool.and_eq_false_iff, decide_eq_false_iff_not]
  omega

/-- The resumptions by which a call runs to its end without being cancelled, and their stimuli. -/
def Submit.stimulus : Submit → Resume → Option Stimulus
  | .sending _ _, .posted _ result => (Outcome.ofSend result).map .ended
  | _, .wake => some .wake
  | _, _ => none

def Stream.stimulus : Stream → Resume → Option Stimulus
  | .opening _ _, .opened result => (Outcome.ofOpened result).map .ended
  | .reading _ _ [] none, .wake => some (.ended .success)
  | .closing _ _ (.raising exn), .wake => (Outcome.ofExn exn).map .ended
  | _, .wake => some .wake
  | _, _ => none

def Submit.Performs := Solo Submit.resume Submit.stimulus
def Stream.Performs := Solo Stream.resume Stream.stimulus

/-! ### The plan's steps are shown -/

namespace Plan
variable (p : NodePool) (locals : Locals) (future : Future) (ip : String) (outcome : Outcome)
    (cause : Stimulus)

theorem shown_attempt : shown cause (schedule (attempt p locals).2) =
    some ⟨cause, (attempt p locals).2⟩ := by
  unfold attempt
  split <;> rfl

theorem shown_retest : shown cause (schedule (retest p locals future).2) =
    some ⟨cause, (retest p locals future).2⟩ := by
  unfold retest
  split <;> rfl

theorem shown_settle : shown cause (schedule (settle p locals ip outcome).2) =
    some ⟨cause, (settle p locals ip outcome).2⟩ := by
  unfold settle
  split <;> rfl

variable {p locals ip outcome}

theorem settle_retry (failure : outcome.retryable = true) (more : locals.attempt < MAX_RETRIES) :
    settle p locals ip outcome = (((p.release ip).evict ip,
      .head { locals with excluded := insert ip locals.excluded, attempt := locals.attempt + 1 }),
      [.released ip, .evicted ip,
        .slept (backoff (tier ((p.release ip).evict ip) (insert ip locals.excluded)) locals.attempt)]) :=
  if_pos ⟨failure, more⟩

theorem settle_final (final : ¬(outcome.retryable = true ∧ locals.attempt < MAX_RETRIES)) :
    settle p locals ip outcome = ((p.release ip, .finished), [.released ip, .stopped]) :=
  if_neg final

end Plan

/-! ### `submit_inference` -/

namespace Submit

def ofPlan : Plan → Submit
  | .head locals => .entering locals
  | .queued locals future => .acquiring locals future
  | .holding locals ip => .sending locals ip
  | .finished => .leaving (.error poolFull)

inductive Plays : Submit → Plan → Prop
  | entering (locals : Locals) : Plays (.entering locals) (.head locals)
  | acquiring (locals : Locals) (future : Future) :
      Plays (.acquiring locals future) (.queued locals future)
  | sending (locals : Locals) (ip : String) : Plays (.sending locals ip) (.holding locals ip)
  | sleeping (locals : Locals) :
      Plays (.sleeping locals) (.head { locals with attempt := locals.attempt + 1 })
  | leaving (result : Except Exn Json) : Plays (.leaving result) .finished
  | done (result : Except Exn Json) : Plays (.done result) .finished

theorem plays_ofPlan (plan : Plan) : Plays (ofPlan plan) plan := by
  cases plan with
  | head locals => exact .entering locals
  | queued locals future => exact .acquiring locals future
  | holding locals ip => exact .sending locals ip
  | finished => exact .leaving _

theorem loop_eq (p : NodePool) (locals : Locals) : loop (Monitor.unlocked p) locals =
    some (Monitor.unlocked (Plan.attempt p locals).1.1, ofPlan (Plan.attempt p locals).1.2,
      (Plan.attempt p locals).2) := by
  simp only [loop, Plan.attempt, Monitor.critical_unlocked, Option.bind_eq_bind, Option.bind_some]
  rcases p.acquire locals.excluded locals.affinityIp with ⟨p', ip | _ | future⟩ <;> rfl

theorem woken_eq (p : NodePool) (locals : Locals) (future : Future) :
    woken (Monitor.unlocked p) locals future =
    some (Monitor.unlocked (Plan.retest p locals future).1.1, ofPlan (Plan.retest p locals future).1.2,
      (Plan.retest p locals future).2) := by
  simp only [woken, Plan.retest, Monitor.critical_unlocked, Option.bind_eq_bind, Option.bind_some]
  rcases p.wake future locals.excluded locals.affinityIp with ⟨p', ip | _ | again⟩ <;> rfl

theorem possible_of_send {result : Except Fault Reply} {outcome : Outcome}
    (ended : Outcome.ofSend result = some outcome) : outcome.Possible := by
  unfold Outcome.ofSend at ended
  cases sent : send result with
  | ok data =>
    rw [sent] at ended
    cases ended
    trivial
  | error exn =>
    rw [sent] at ended
    cases exn with
    | transportError message => cases ended; trivial
    | httpStatusError reply =>
      cases ended
      exact (Outcome.possible_status reply.toResponse).mpr (send_status sent)
    | _ => cases ended

theorem reroute_eq (p : NodePool) (locals : Locals) (ip : String) {exn : Exn} {outcome : Outcome}
    (failure : outcome.retryable = true) :
    ∃ next, reroute (Monitor.unlocked (p.release ip)) locals ip exn =
      some (Monitor.unlocked (Plan.settle p locals ip outcome).1.1, next, (Plan.settle p locals ip outcome).2) ∧
        Plays next (Plan.settle p locals ip outcome).1.2 := by
  by_cases last : MAX_RETRIES ≤ locals.attempt
  · rw [Plan.settle_final (by omega), reroute, if_pos last]
    exact ⟨_, rfl, .leaving _⟩
  · rw [Plan.settle_retry failure (by omega), reroute, if_neg last]
    exact ⟨_, rfl, .sleeping _⟩

theorem sent_eq (p : NodePool) (locals : Locals) (ip : String) (queueMs : Int)
    {result : Except Fault Reply} {outcome : Outcome}
    (ended : Outcome.ofSend result = some outcome) :
    ∃ next, sent (Monitor.unlocked p) locals ip queueMs (send result) =
      some (Monitor.unlocked (Plan.settle p locals ip outcome).1.1, next, (Plan.settle p locals ip outcome).2) ∧
        Plays next (Plan.settle p locals ip outcome).1.2 := by
  unfold Outcome.ofSend at ended
  cases came : send result with
  | ok data =>
    rw [came] at ended
    cases ended
    rw [Plan.settle_final (by simp [Outcome.retryable])]
    exact ⟨_, rfl, .leaving _⟩
  | error exn =>
    rw [came] at ended
    cases exn with
    | transportError message =>
      cases ended
      exact reroute_eq p locals ip rfl
    | httpStatusError reply =>
      cases ended
      simp only [sent, Monitor.update_unlocked, Option.bind_eq_bind, Option.bind_some]
      by_cases final : reply.status ∉ RETRYABLE_HTTP_STATUS
      · rw [Plan.settle_final (by simp [Outcome.retryable, final]), if_pos final]
        exact ⟨_, rfl, .leaving _⟩
      · rw [if_neg final]
        exact reroute_eq p locals ip (decide_eq_true (not_not.mp final))
    | _ => cases ended

def Matches (state : NodePool × Submit) (plan : NodePool × Plan) : Prop := state.1 = plan.1 ∧ Plays state.2 plan.2

theorem follows_plan : Simulates Performs Plan.Shows Matches := by
  intro ⟨p, st⟩ label ⟨p', next⟩ ⟨q, plan⟩ ⟨same, plays⟩ moved
  cases same
  cases moved with
  | others => exact ⟨(p', plan), .shown ⟨_, rfl, rfl⟩, rfl, plays⟩
  | @resumed _ _ _ _ r actions cause caused ran =>
    cases plays with
    | entering locals =>
      cases r with
      | wake =>
        cases caused
        cases (loop_eq p locals).symm.trans ran
        rw [Plan.shown_attempt]
        exact ⟨_, .shown ⟨_, rfl, rfl⟩, rfl, plays_ofPlan _⟩
      | _ => cases caused
    | acquiring locals future =>
      cases r with
      | wake =>
        cases caused
        cases (woken_eq p locals future).symm.trans ran
        rw [Plan.shown_retest]
        exact ⟨_, .shown ⟨_, rfl, rfl⟩, rfl, plays_ofPlan _⟩
      | _ => cases caused
    | sending locals ip =>
      cases r with
      | posted queueMs result =>
        obtain ⟨outcome, ended, rfl⟩ := Option.map_eq_some_iff.mp caused
        obtain ⟨after, settled, plays'⟩ := sent_eq p locals ip queueMs ended
        cases settled.symm.trans ran
        rw [Plan.shown_settle]
        exact ⟨_, .shown ⟨_, rfl, if_pos (possible_of_send ended)⟩, rfl, plays'⟩
      | wake => cases ran
      | _ => cases caused
    | sleeping locals =>
      cases r with
      | wake =>
        cases caused
        cases (loop_eq p { locals with attempt := locals.attempt + 1 }).symm.trans ran
        rw [Plan.shown_attempt]
        exact ⟨_, .shown ⟨_, rfl, rfl⟩, rfl, plays_ofPlan _⟩
      | _ => cases caused
    | leaving result =>
      cases r with
      | wake => cases ran; exact ⟨_, .stay _, rfl, .done result⟩
      | _ => cases caused
    | done result => cases r <;> cases ran

def resultOf : Outcome → Except Fault Reply
  | .transport => .error (.transport "connection refused")
  | .status code => .ok ⟨⟨code, ""⟩, none, ""⟩
  | .success => .ok ⟨⟨200, ""⟩, some (.obj []), ""⟩

theorem ofSend_resultOf {outcome : Outcome} (possible : outcome.Possible) :
    Outcome.ofSend (resultOf outcome) = some outcome := by
  cases outcome with
  | transport => rfl
  | success => rfl
  | status code =>
    have failure := (Outcome.possible_status ⟨code, ""⟩).mp possible
    simp only [Outcome.ofSend, resultOf, send, raiseForStatus, failure]
    rfl

theorem follows_back : Simulates Plan.Shows Performs fun plan state => Matches state plan := by
  intro ⟨p, plan⟩ label ⟨p', plan'⟩ ⟨q, st⟩ ⟨same, plays⟩ ⟨⟨cause, actions⟩, labelled, moved⟩
  cases same
  cases labelled
  have wakes : ∀ {result : (NodePool × Plan) × List Action}, some result = some ((p', plan'), actions) →
      st.stimulus .wake = some .wake →
        st.resume (Monitor.unlocked p) .wake = some (Monitor.unlocked result.1.1, ofPlan result.1.2, result.2) →
          shown .wake (schedule result.2) = some ⟨.wake, result.2⟩ →
            ∃ last, Weak Performs (p, st) (some ⟨.wake, actions⟩) last ∧ Matches last (p', plan') := by
    intro result came caused ran labelled
    cases came
    have step : Performs (p, st) (some ⟨.wake, actions⟩) (p', ofPlan plan') := labelled ▸ Solo.resumed caused ran
    exact ⟨_, .shown step, rfl, plays_ofPlan plan'⟩
  cases cause with
  | others pool =>
    cases moved
    exact ⟨(p', st), .shown (.others p p' st), rfl, plays⟩
  | wake =>
    cases plays with
    | entering locals => exact wakes moved rfl (loop_eq p locals) (Plan.shown_attempt p locals .wake)
    | acquiring locals future =>
      exact wakes moved rfl (woken_eq p locals future) (Plan.shown_retest p locals future .wake)
    | sleeping locals => exact wakes moved rfl (loop_eq p _) (Plan.shown_attempt p _ .wake)
    | _ => cases moved
  | ended outcome =>
    cases plays with
    | sending locals ip =>
      simp only [Plan.step, Option.ite_none_right_eq_some] at moved
      obtain ⟨possible, settled⟩ := moved
      obtain ⟨next, ran, plays'⟩ := sent_eq p locals ip 0 (ofSend_resultOf possible)
      have labelled := Plan.shown_settle p locals ip outcome (.ended outcome)
      rw [Option.some.inj settled] at ran plays' labelled
      have caused : (sending locals ip).stimulus (.posted 0 (resultOf outcome)) = some (.ended outcome) := by
        simp only [stimulus, ofSend_resultOf possible, Option.map_some]
      have step : Performs (p, .sending locals ip) (some ⟨.ended outcome, actions⟩) (p', next) :=
        labelled ▸ Solo.resumed caused ran
      exact ⟨_, .shown step, rfl, plays'⟩
    | _ => cases moved

theorem start_plays (p : NodePool) (hash : String → Int) (affinityKey : Option String) :
    Plays (start p hash affinityKey) (Plan.start p hash affinityKey) := by
  cases found : affinityIp p hash affinityKey with
  | some affinityIp =>
    simp only [start, Plan.start, found]
    exact .entering _
  | none =>
    simp only [start, Plan.start, found]
    exact .done _

end Submit

/-! ### `stream_inference` -/

namespace Stream

def ofPlan : Plan → Stream
  | .head locals => .entering ⟨locals, false⟩
  | .queued locals future => .acquiring ⟨locals, false⟩ future
  | .holding locals ip => .opening ⟨locals, false⟩ ip
  | .finished => .leaving (.error poolFull)

/-- A body that the considered outcomes allow: it ends, or it breaks off before any line. -/
def Readable (locals : StreamLocals) (lines : List String) (ending : Option Fault) : Prop :=
  ending = none ∨ (locals.startedStreaming = false ∧ (∀ line ∈ lines, line = "") ∧
    ∃ message, ending = some (.transport message))

inductive Plays : Stream → Plan → Prop
  | entering (locals : Locals) : Plays (.entering ⟨locals, false⟩) (.head locals)
  | acquiring (locals : Locals) (future : Future) :
      Plays (.acquiring ⟨locals, false⟩ future) (.queued locals future)
  | opening (locals : Locals) (ip : String) :
      Plays (.opening ⟨locals, false⟩ ip) (.holding locals ip)
  | reading (locals : StreamLocals) (ip : String) (lines : List String) (ending : Option Fault)
      (readable : Readable locals lines ending) :
      Plays (.reading locals ip lines ending) (.holding locals.toLocals ip)
  | yielding (locals : StreamLocals) (ip : String) (lines : List String) :
      Plays (.yielding locals ip lines none) (.holding locals.toLocals ip)
  | sleeping (locals : Locals) (ip : String) (inResponse : Bool) :
      Plays (.sleeping ⟨locals, false⟩ ip inResponse) (.head { locals with attempt := locals.attempt + 1 })
  | continuing (locals : Locals) (ip : String) :
      Plays (.closing ⟨locals, false⟩ ip .continuing) (.head locals)
  | severed (locals : Locals) (ip message : String) :
      Plays (.closing ⟨locals, false⟩ ip (.raising (.transportError message))) (.holding locals ip)
  | refused (locals : Locals) (ip : String) (reply : Reply) (failure : reply.isSuccess = false)
      (final : ¬(reply.status ∈ RETRYABLE_HTTP_STATUS ∧ locals.attempt < MAX_RETRIES)) :
      Plays (.closing ⟨locals, false⟩ ip (.raising (.httpStatusError reply))) (.holding locals ip)
  | returning (locals : StreamLocals) (ip : String) :
      Plays (.closing locals ip .returning) .finished
  | leaving (result : Except Exn Unit) : Plays (.leaving result) .finished
  | done (result : Except Exn Unit) : Plays (.done result) .finished

inductive Ready : Stream → Plan → Prop
  | entering (locals : Locals) : Ready (.entering ⟨locals, false⟩) (.head locals)
  | acquiring (locals : Locals) (future : Future) :
      Ready (.acquiring ⟨locals, false⟩ future) (.queued locals future)
  | opening (locals : Locals) (ip : String) :
      Ready (.opening ⟨locals, false⟩ ip) (.holding locals ip)
  | sleeping (locals : Locals) (ip : String) (inResponse : Bool) :
      Ready (.sleeping ⟨locals, false⟩ ip inResponse) (.head { locals with attempt := locals.attempt + 1 })
  | returning (locals : StreamLocals) (ip : String) :
      Ready (.closing locals ip .returning) .finished
  | leaving (result : Except Exn Unit) : Ready (.leaving result) .finished
  | done (result : Except Exn Unit) : Ready (.done result) .finished

theorem Ready.plays {st : Stream} {plan : Plan} (ready : Ready st plan) : Plays st plan := by
  cases ready with
  | entering locals => exact .entering locals
  | acquiring locals future => exact .acquiring locals future
  | opening locals ip => exact .opening locals ip
  | sleeping locals ip inResponse => exact .sleeping locals ip inResponse
  | returning locals ip => exact .returning locals ip
  | leaving result => exact .leaving result
  | done result => exact .done result

theorem ready_ofPlan (plan : Plan) : Ready (ofPlan plan) plan := by
  cases plan with
  | head locals => exact .entering locals
  | queued locals future => exact .acquiring locals future
  | holding locals ip => exact .opening locals ip
  | finished => exact .leaving _

theorem loop_eq (p : NodePool) (locals : Locals) : loop (Monitor.unlocked p) ⟨locals, false⟩ =
    some (Monitor.unlocked (Plan.attempt p locals).1.1, ofPlan (Plan.attempt p locals).1.2,
      (Plan.attempt p locals).2) := by
  simp only [loop, Plan.attempt, Monitor.critical_unlocked, Option.bind_eq_bind, Option.bind_some]
  rcases p.acquire locals.excluded locals.affinityIp with ⟨p', ip | _ | future⟩ <;> rfl

theorem woken_eq (p : NodePool) (locals : Locals) (future : Future) :
    woken (Monitor.unlocked p) ⟨locals, false⟩ future =
      some (Monitor.unlocked (Plan.retest p locals future).1.1, ofPlan (Plan.retest p locals future).1.2,
        (Plan.retest p locals future).2) := by
  simp only [woken, Plan.retest, Monitor.critical_unlocked, Option.bind_eq_bind, Option.bind_some]
  rcases p.wake future locals.excluded locals.affinityIp with ⟨p', ip | _ | again⟩ <;> rfl

theorem caught_transport (p : NodePool) (locals : Locals) (ip message : String) :
    ∃ next, caught (Monitor.unlocked p) ⟨locals, false⟩ ip (.transportError message) =
      some (Monitor.unlocked (Plan.settle p locals ip .transport).1.1, next,
        (Plan.settle p locals ip .transport).2) ∧
        Ready next (Plan.settle p locals ip .transport).1.2 := by
  simp only [caught, Monitor.update_unlocked, Option.bind_eq_bind, Option.bind_some, Bool.false_eq_true,
    ↓reduceIte]
  by_cases last : MAX_RETRIES ≤ locals.attempt
  · rw [Plan.settle_final (by omega), if_pos last]
    exact ⟨_, rfl, .leaving _⟩
  · rw [Plan.settle_retry rfl (by omega), if_neg last]
    exact ⟨_, rfl, .sleeping _ _ _⟩

theorem caught_status (p : NodePool) (locals : Locals) (ip : String) {reply : Reply}
    (final : ¬(reply.status ∈ RETRYABLE_HTTP_STATUS ∧ locals.attempt < MAX_RETRIES)) :
    ∃ next, caught (Monitor.unlocked p) ⟨locals, false⟩ ip (.httpStatusError reply) =
      some (Monitor.unlocked (Plan.settle p locals ip (.status reply.status)).1.1, next,
        (Plan.settle p locals ip (.status reply.status)).2) ∧
        Ready next (Plan.settle p locals ip (.status reply.status)).1.2 := by
  rw [Plan.settle_final (by simpa [Outcome.retryable] using final)]
  exact ⟨_, rfl, .leaving _⟩

theorem answered_retry (p : NodePool) (locals : Locals) (ip : String) {response : Streamed}
    (listed : response.status ∈ RETRYABLE_HTTP_STATUS) (more : locals.attempt < MAX_RETRIES) :
    ∃ next, answered (Monitor.unlocked p) ⟨locals, false⟩ ip response =
      some (Monitor.unlocked (Plan.settle p locals ip (.status response.status)).1.1, next,
        (Plan.settle p locals ip (.status response.status)).2) ∧
        Ready next (Plan.settle p locals ip (.status response.status)).1.2 := by
  have failure : (Outcome.status response.status).retryable = true := decide_eq_true listed
  rw [Plan.settle_retry failure more, answered, if_pos ⟨(Response.isError_of_retryable listed).1, listed, more⟩]
  exact ⟨_, rfl, .sleeping _ _ _⟩

theorem answered_refused (p : NodePool) (locals : Locals) (ip : String) {response : Streamed}
    (failure : response.isSuccess = false)
    (final : ¬(response.status ∈ RETRYABLE_HTTP_STATUS ∧ locals.attempt < MAX_RETRIES)) :
    answered (Monitor.unlocked p) ⟨locals, false⟩ ip response =
      some (Monitor.unlocked p,
        .closing ⟨locals, false⟩ ip (.raising (.httpStatusError response.unread)), []) := by
  have raised : raiseForStatus response.unread = .error (.httpStatusError response.unread) :=
    if_neg (Bool.eq_false_iff.mp failure)
  rw [answered, if_neg fun retry => final retry.2, raised]

theorem answered_success (p : NodePool) (locals : Locals) (ip : String) {response : Streamed}
    (success : response.isSuccess = true) :
    answered (Monitor.unlocked p) ⟨locals, false⟩ ip response =
      some (Monitor.unlocked p, .reading ⟨locals, false⟩ ip response.lines response.ending,
        [.answered response.lines]) := by
  have raised : raiseForStatus response.unread = .ok () := if_pos success
  have no_retry : ¬(response.isError = true ∧ response.status ∈ RETRYABLE_HTTP_STATUS ∧
      locals.attempt < MAX_RETRIES) := by
    intro retry
    have failure := (Response.isError_of_retryable retry.2.1).2
    rw [success] at failure
    cases failure
  rw [answered, if_neg no_retry, raised]

theorem lineRead_finished (p : NodePool) (locals : StreamLocals) (ip : String) :
    lineRead (Monitor.unlocked p) locals ip [] none =
      some (Monitor.unlocked (Plan.settle p locals.toLocals ip .success).1.1, .closing locals ip .returning,
        (Plan.settle p locals.toLocals ip .success).2) := by
  rw [Plan.settle_final (by simp [Outcome.retryable])]
  rfl

def Matches (state : NodePool × Stream) (plan : NodePool × Plan) : Prop := state.1 = plan.1 ∧ Plays state.2 plan.2

theorem readable_of_opened {locals : Locals} {response : Streamed} {outcome : Outcome}
    (success : response.isSuccess = true) (ended : Outcome.ofOpened (.ok response) = some outcome) :
    Readable ⟨locals, false⟩ response.lines response.ending := by
  simp only [Outcome.ofOpened, success, ↓reduceIte] at ended
  cases broken : response.ending with
  | none => exact Or.inl rfl
  | some fault =>
    rw [broken] at ended
    simp only [Option.ite_none_right_eq_some] at ended
    obtain ⟨blank, exn⟩ := ended
    cases fault with
    | transport message =>
      refine Or.inr ⟨rfl, fun line member => ?_, message, rfl⟩
      exact of_decide_eq_true (List.all_eq_true.mp blank line member)
    | other message => cases exn

theorem lineRead_matches {p p' : NodePool} {locals : StreamLocals} {ip text : String}
    {lines : List String} {ending : Option Fault} {next : Stream} {actions : List Action}
    (readable : Readable locals (text :: lines) ending)
    (ran : lineRead (Monitor.unlocked p) locals ip (text :: lines) ending =
      some (Monitor.unlocked p', next, actions)) :
    schedule actions = [] ∧ Matches (p', next) (p, .holding locals.toLocals ip) := by
  by_cases blank : text = ""
  · subst blank
    cases ran
    refine ⟨rfl, rfl, .reading _ _ _ _ ?_⟩
    rcases readable with whole | ⟨silent, empty, severed⟩
    · exact Or.inl whole
    · exact Or.inr ⟨silent, fun line member => empty line (List.mem_cons_of_mem _ member), severed⟩
  · simp only [lineRead, ne_eq, blank, not_false_eq_true, ↓reduceIte] at ran
    cases ran
    rcases readable with rfl | ⟨-, empty, -⟩
    · exact ⟨rfl, rfl, .yielding { locals with startedStreaming := true } ip lines⟩
    · exact absurd (empty text List.mem_cons_self) blank

section Answers
variable {p p' : NodePool} {locals : Locals} {ip : String} {next : Stream} {actions : List Action}

theorem attempt_matches
    (ran : loop (Monitor.unlocked p) ⟨locals, false⟩ = some (Monitor.unlocked p', next, actions)) :
    ∃ last, Weak Plan.Shows (p, .head locals) (shown .wake (schedule actions)) last ∧ Matches (p', next) last := by
  cases (loop_eq p locals).symm.trans ran
  rw [Plan.shown_attempt]
  exact ⟨_, .shown ⟨_, rfl, rfl⟩, rfl, (ready_ofPlan _).plays⟩

theorem settle_matches {outcome : Outcome} {stretch : Option (Stretch Stream)} (possible : outcome.Possible)
    (settled : ∃ after, stretch = some (Monitor.unlocked (Plan.settle p locals ip outcome).1.1, after,
      (Plan.settle p locals ip outcome).2) ∧ Ready after (Plan.settle p locals ip outcome).1.2)
    (ran : stretch = some (Monitor.unlocked p', next, actions)) :
    ∃ last, Weak Plan.Shows (p, .holding locals ip) (shown (.ended outcome) (schedule actions)) last ∧
      Matches (p', next) last := by
  obtain ⟨after, settled, ready⟩ := settled
  cases settled.symm.trans ran
  rw [Plan.shown_settle]
  exact ⟨_, .shown ⟨_, rfl, if_pos possible⟩, rfl, ready.plays⟩

theorem opened_matches {result : Except Fault Streamed} {outcome : Outcome}
    (ended : Outcome.ofOpened result = some outcome)
    (ran : resume (Monitor.unlocked p) (.opening ⟨locals, false⟩ ip) (.opened result) =
      some (Monitor.unlocked p', next, actions)) :
    ∃ last, Weak Plan.Shows (p, .holding locals ip) (shown (.ended outcome) (schedule actions)) last ∧
      Matches (p', next) last := by
  cases result with
  | error fault =>
    cases fault with
    | transport message =>
      cases ended
      exact settle_matches trivial (caught_transport p locals ip message) ran
    | other message => cases ended
  | ok response =>
    cases success : response.isSuccess with
    | true =>
      have readable := @readable_of_opened locals response outcome success ended
      cases (answered_success p locals ip success).symm.trans ran
      exact ⟨_, .stay _, rfl, .reading _ _ _ _ readable⟩
    | false =>
      simp only [Outcome.ofOpened, success, Bool.false_eq_true, ↓reduceIte, Option.some.injEq] at ended
      subst ended
      by_cases retry : response.status ∈ RETRYABLE_HTTP_STATUS ∧ locals.attempt < MAX_RETRIES
      · exact settle_matches ((Outcome.possible_status _).mpr success)
          (answered_retry p locals ip retry.1 retry.2) ran
      · cases (answered_refused p locals ip success retry).symm.trans ran
        exact ⟨_, .stay _, rfl, .refused locals ip response.unread success retry⟩

theorem ended_matches {locals : StreamLocals} {ending : Option Fault} {cause : Stimulus}
    (readable : Readable locals [] ending) (caused : stimulus (.reading locals ip [] ending) .wake = some cause)
    (ran : lineRead (Monitor.unlocked p) locals ip [] ending = some (Monitor.unlocked p', next, actions)) :
    ∃ last, Weak Plan.Shows (p, .holding locals.toLocals ip) (shown cause (schedule actions)) last ∧
      Matches (p', next) last := by
  cases ending with
  | none =>
    cases caused
    cases (lineRead_finished p locals ip).symm.trans ran
    rw [Plan.shown_settle, Plan.settle_final (by simp [Outcome.retryable])]
    exact ⟨_, .shown ⟨_, rfl, rfl⟩, rfl, .returning locals ip⟩
  | some fault =>
    rcases readable with whole | ⟨silent, -, message, broken⟩
    · cases whole
    · cases broken
      cases ran
      obtain ⟨locals, started⟩ := locals
      cases silent
      exact ⟨_, .stay _, rfl, .severed locals ip message⟩

end Answers

theorem follows_plan : Simulates Performs Plan.Shows Matches := by
  intro ⟨p, st⟩ label ⟨p', next⟩ ⟨q, plan⟩ ⟨same, plays⟩ moved
  cases same
  cases moved with
  | others => exact ⟨(p', plan), .shown ⟨_, rfl, rfl⟩, rfl, plays⟩
  | @resumed _ _ _ _ r actions cause caused ran =>
    cases plays with
    | entering locals =>
      cases r with
      | wake =>
        cases caused
        exact attempt_matches ran
      | _ => cases caused
    | acquiring locals future =>
      cases r with
      | wake =>
        cases caused
        cases (woken_eq p locals future).symm.trans ran
        rw [Plan.shown_retest]
        exact ⟨_, .shown ⟨_, rfl, rfl⟩, rfl, (ready_ofPlan _).plays⟩
      | _ => cases caused
    | opening locals ip =>
      cases r with
      | opened result =>
        obtain ⟨outcome, ended, rfl⟩ := Option.map_eq_some_iff.mp caused
        exact opened_matches ended ran
      | wake => cases ran
      | _ => cases caused
    | reading locals ip lines ending readable =>
      cases r with
      | wake =>
        cases lines with
        | cons text lines =>
          obtain ⟨silent, matched⟩ := lineRead_matches readable ran
          rw [silent]
          exact ⟨_, .stay _, matched⟩
        | nil => exact ended_matches readable caused ran
      | cancel => cases lines <;> cases ending <;> cases caused
      | _ => cases ran
    | yielding locals ip lines =>
      cases r with
      | wake => cases ran; exact ⟨_, .stay _, rfl, .reading locals ip lines none (Or.inl rfl)⟩
      | _ => cases caused
    | sleeping locals ip inResponse =>
      cases r with
      | wake =>
        cases inResponse with
        | true => cases ran; exact ⟨_, .stay _, rfl, .continuing _ ip⟩
        | false =>
          cases caused
          exact attempt_matches ran
      | _ => cases caused
    | continuing locals ip =>
      cases r with
      | wake =>
        cases caused
        exact attempt_matches ran
      | _ => cases caused
    | severed locals ip message =>
      cases r with
      | wake =>
        cases caused
        exact settle_matches trivial (caught_transport p locals ip message) ran
      | _ => cases caused
    | refused locals ip reply failure final =>
      cases r with
      | wake =>
        cases caused
        exact settle_matches ((Outcome.possible_status _).mpr failure) (caught_status p locals ip final) ran
      | _ => cases caused
    | returning locals ip =>
      cases r with
      | wake => cases ran; exact ⟨_, .stay _, rfl, .leaving _⟩
      | _ => cases caused
    | leaving result =>
      cases r with
      | wake => cases ran; exact ⟨_, .stay _, rfl, .done result⟩
      | _ => cases caused
    | done result => cases r <;> cases ran

def resultOf : Outcome → Except Fault Streamed
  | .transport => .error (.transport "connection refused")
  | .status code => .ok ⟨⟨code, ""⟩, [], none⟩
  | .success => .ok ⟨⟨200, ""⟩, [], none⟩

theorem ofOpened_resultOf {outcome : Outcome} (possible : outcome.Possible) :
    Outcome.ofOpened (resultOf outcome) = some outcome := by
  cases outcome with
  | transport => rfl
  | success => rfl
  | status code =>
    have failure := (Outcome.possible_status ⟨code, ""⟩).mp possible
    simp only [Outcome.ofOpened, resultOf, failure, Bool.false_eq_true, ↓reduceIte]

theorem opening_settles (p : NodePool) (locals : Locals) (ip : String) {outcome : Outcome}
    (possible : outcome.Possible) :
    ∃ next, Weak Performs (p, .opening ⟨locals, false⟩ ip)
        (some ⟨.ended outcome, (Plan.settle p locals ip outcome).2⟩)
        ((Plan.settle p locals ip outcome).1.1, next) ∧
      Ready next (Plan.settle p locals ip outcome).1.2 := by
  have caused : (opening ⟨locals, false⟩ ip).stimulus (.opened (resultOf outcome)) = some (.ended outcome) := by
    simp only [stimulus, ofOpened_resultOf possible, Option.map_some]
  have labelled := Plan.shown_settle p locals ip outcome (.ended outcome)
  have at_once : ∀ {next : Stream},
      (opening ⟨locals, false⟩ ip).resume (Monitor.unlocked p) (.opened (resultOf outcome)) =
        some (Monitor.unlocked (Plan.settle p locals ip outcome).1.1, next,
          (Plan.settle p locals ip outcome).2) →
      Weak Performs (p, .opening ⟨locals, false⟩ ip)
        (some ⟨.ended outcome, (Plan.settle p locals ip outcome).2⟩)
        ((Plan.settle p locals ip outcome).1.1, next) := by
    intro next ran
    exact .shown (labelled ▸ Solo.resumed caused ran)
  have later : ∀ {middle next : Stream} {acted : List Action}, schedule acted = [] →
      (opening ⟨locals, false⟩ ip).resume (Monitor.unlocked p) (.opened (resultOf outcome)) =
        some (Monitor.unlocked p, middle, acted) →
      middle.stimulus .wake = some (.ended outcome) →
      middle.resume (Monitor.unlocked p) .wake =
        some (Monitor.unlocked (Plan.settle p locals ip outcome).1.1, next,
          (Plan.settle p locals ip outcome).2) →
      Weak Performs (p, .opening ⟨locals, false⟩ ip)
        (some ⟨.ended outcome, (Plan.settle p locals ip outcome).2⟩)
        ((Plan.settle p locals ip outcome).1.1, next) := by
    intro middle next acted silent opened caused' ran
    exact .silent (Solo.silent caused opened silent) (.shown (labelled ▸ Solo.resumed caused' ran))
  cases outcome with
  | transport =>
    obtain ⟨next, ran, ready⟩ := caught_transport p locals ip "connection refused"
    exact ⟨next, at_once ran, ready⟩
  | success =>
    have opened := @answered_success p locals ip ⟨⟨200, ""⟩, [], none⟩ rfl
    have read := lineRead_finished p ⟨locals, false⟩ ip
    refine ⟨_, later rfl opened rfl read, ?_⟩
    rw [Plan.settle_final (by simp [Outcome.retryable])]
    exact .returning _ ip
  | status code =>
    by_cases retry : code ∈ RETRYABLE_HTTP_STATUS ∧ locals.attempt < MAX_RETRIES
    · obtain ⟨next, ran, ready⟩ := @answered_retry p locals ip ⟨⟨code, ""⟩, [], none⟩ retry.1 retry.2
      exact ⟨next, at_once ran, ready⟩
    · have failure := (Outcome.possible_status ⟨code, ""⟩).mp possible
      have opened := @answered_refused p locals ip ⟨⟨code, ""⟩, [], none⟩ failure retry
      obtain ⟨next, ran, ready⟩ := @caught_status p locals ip (Streamed.unread ⟨⟨code, ""⟩, [], none⟩) retry
      exact ⟨next, later rfl opened rfl ran, ready⟩

theorem follows_back : Simulates Plan.Shows Performs
    fun plan state => state.1 = plan.1 ∧ Ready state.2 plan.2 := by
  intro ⟨p, plan⟩ label ⟨p', plan'⟩ ⟨q, st⟩ ⟨same, ready⟩ ⟨⟨cause, actions⟩, labelled, moved⟩
  cases same
  cases labelled
  have wakes : ∀ {point : Stream} {result : (NodePool × Plan) × List Action},
      some result = some ((p', plan'), actions) → point.stimulus .wake = some .wake →
        point.resume (Monitor.unlocked p) .wake = some (Monitor.unlocked result.1.1, ofPlan result.1.2, result.2) →
          shown .wake (schedule result.2) = some ⟨.wake, result.2⟩ →
            Weak Performs (p, point) (some ⟨.wake, actions⟩) (p', ofPlan plan') := by
    intro point result came caused ran labelled
    cases came
    exact .shown (labelled ▸ Solo.resumed caused ran)
  cases cause with
  | others pool =>
    cases moved
    exact ⟨(p', st), .shown (.others p p' st), rfl, ready⟩
  | wake =>
    cases ready with
    | entering locals =>
      exact ⟨_, wakes moved rfl (loop_eq p locals) (Plan.shown_attempt p locals .wake), rfl, ready_ofPlan plan'⟩
    | acquiring locals future =>
      exact ⟨_, wakes moved rfl (woken_eq p locals future) (Plan.shown_retest p locals future .wake), rfl,
        ready_ofPlan plan'⟩
    | sleeping locals ip inResponse =>
      have again := loop_eq p { locals with attempt := locals.attempt + 1 }
      have labelled := Plan.shown_attempt p { locals with attempt := locals.attempt + 1 } .wake
      cases inResponse with
      | false => exact ⟨_, wakes moved rfl again labelled, rfl, ready_ofPlan plan'⟩
      | true =>
        have leaves : Performs (p, .sleeping ⟨locals, false⟩ ip true) none
            (p, .closing ⟨{ locals with attempt := locals.attempt + 1 }, false⟩ ip .continuing) :=
          @Solo.silent _ resume stimulus p p _ _ .wake [] .wake rfl rfl rfl
        exact ⟨_, .silent leaves (wakes moved rfl again labelled), rfl, ready_ofPlan plan'⟩
    | _ => cases moved
  | ended outcome =>
    cases ready with
    | opening locals ip =>
      simp only [Plan.step, Option.ite_none_right_eq_some] at moved
      obtain ⟨possible, settled⟩ := moved
      obtain ⟨next, weak, ready'⟩ := opening_settles p locals ip possible
      rw [Option.some.inj settled] at weak ready'
      exact ⟨_, weak, rfl, ready'⟩
    | _ => cases moved

theorem start_ready (p : NodePool) (hash : String → Int) (affinityKey : Option String) :
    Ready (start p hash affinityKey) (Plan.start p hash affinityKey) := by
  cases found : affinityIp p hash affinityKey with
  | some affinityIp =>
    simp only [start, Plan.start, found]
    exact .entering _
  | none =>
    simp only [start, Plan.start, found]
    exact .done _

end Stream

/-! ### The two dispatchers -/

section
variable (p : NodePool) (hash : String → Int) (affinityKey : Option String) (trace : List Shown)

theorem Submit.emits_iff : Emits Submit.Performs (p, Submit.start p hash affinityKey) trace ↔
    Emits Plan.Shows (p, Plan.start p hash affinityKey) trace :=
  ⟨Submit.follows_plan.emits ⟨rfl, Submit.start_plays p hash affinityKey⟩,
    Submit.follows_back.emits ⟨rfl, Submit.start_plays p hash affinityKey⟩⟩

theorem Stream.emits_iff : Emits Stream.Performs (p, Stream.start p hash affinityKey) trace ↔
    Emits Plan.Shows (p, Plan.start p hash affinityKey) trace :=
  ⟨Stream.follows_plan.emits ⟨rfl, (Stream.start_ready p hash affinityKey).plays⟩,
    Stream.follows_back.emits ⟨rfl, Stream.start_ready p hash affinityKey⟩⟩

end

/-- The two dispatchers schedule identically: they have the same traces of pool operations and
waits, and these depend on the stimuli only. -/
theorem dispatchers_schedule_identically (p : NodePool) (hash : String → Int)
    (affinityKey : Option String) :
    (∀ trace, Emits Submit.Performs (p, Submit.start p hash affinityKey) trace ↔
      Emits Stream.Performs (p, Stream.start p hash affinityKey) trace) ∧
    ∀ trace trace', Emits Submit.Performs (p, Submit.start p hash affinityKey) trace →
      Emits Stream.Performs (p, Stream.start p hash affinityKey) trace' →
        trace.map Shown.stimulus = trace'.map Shown.stimulus → trace = trace' := by
  constructor
  · intro trace
    rw [Submit.emits_iff, Stream.emits_iff]
  · intro trace trace' submitted streamed same
    rw [Submit.emits_iff] at submitted
    rw [Stream.emits_iff] at streamed
    exact Plan.emits_unique submitted streamed same

end LlamacppRay.Gateway
