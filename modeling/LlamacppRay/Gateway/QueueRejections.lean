import LlamacppRay.Gateway.ChatPaths
import LlamacppRay.Gateway.Exhaustion

/-! The counter of queue rejections against the pool: which requests are counted, and which of them
were turned away by a full pool. -/

namespace LlamacppRay.Gateway.Chat
open LlamacppRay.Asyncio LlamacppRay.Automata LlamacppRay.Python

def Emission.isQueueRejection : Emission → Bool
  | .queueRejected _ => true
  | _ => false

def rejections (emissions : List Emission) : List Emission := emissions.filter Emission.isQueueRejection

def failure {α : Type} : Except Exn α → Option Exn
  | .error exc => some exc
  | .ok _ => none

/-- A request goes through the router as this call, or it ends before it gets there. -/
inductive Routed (env : Environment) (request : Request) : Option Call → Prop
  | turnedAway (checked : env.check.passes = false) : Routed env request none
  | unreadable (exc : Exn) (stream : request.stream = true)
      (estimated : estimatePromptTokens request.messages = .error exc) : Routed env request none
  | unstarted (stream : request.stream = true) (body : env.stream = none) : Routed env request none
  | submitted (checked : env.check.passes = true) (direct : request.stream = false) (log : List Action) :
      Routed env request (some ⟨.submit (.done env.submit), log⟩)
  | streamed (starts : Starts env request) (ending : Except Exn Unit) (log : List Action)
      (body : env.stream = some (chunks log, ending)) :
      Routed env request (some ⟨.stream (.done ending), log⟩)

/-- The call ended because `acquire` raised `PoolBusyError`, on its first dispatch or on a retry. -/
def TurnedDown (call : Option Call) : Prop :=
  ∃ call' ∈ call, .rejected ∈ call'.log ∧ call'.point.error ≠ some .cancelledError

def Counted (platform : Platform) (env : Environment) (request : Request) (call : Option Call) : Prop :=
  (TurnedDown call → rejections (serve platform env request) = [.queueRejected request.requestType]) ∧
    (¬TurnedDown call → rejections (serve platform env request) = [])

/-! ### What the handlers count -/

abbrev Uncounted (emission : Emission) : Prop := emission.isQueueRejection = false

theorem rejections_append (first second : List Emission) :
    rejections (first ++ second) = rejections first ++ rejections second :=
  List.filter_append ..

theorem rejections_of_emits {α : Type} {p : Handling α} (uncounted : p.Emits Uncounted) :
    rejections p.emissions = [] := by
  rw [rejections, List.filter_eq_nil_iff]
  intro emission among counted
  exact Bool.noConfusion ((uncounted emission among).symm.trans counted)

def rejectionsOf (request : Request) (error : Option Exn) : List Emission :=
  if error.any isQueueRejection then [.queueRejected request.requestType] else []

section
variable {platform : Platform} {env : Environment} {request : Request}

theorem uncounted_logRequest (site : Site) (row : Except Exn RequestLog) :
    (logRequest env site row).Emits Uncounted := by
  refine .bind (.lift row) fun _ _ => .bind (.emit rfl) fun _ _ => ?_
  cases env.writes site with
  | some exc => exact .raise exc
  | none => exact .emit rfl

theorem uncounted_logGuarded (site : Site) (row : Except Exn RequestLog) (message : String) :
    (logGuarded env site row message).Emits Uncounted := by
  refine .catching (uncounted_logRequest site row) fun exc handler caught => ?_
  split at caught
  · cases caught
    exact .emit rfl
  · cases caught

theorem uncounted_inc {emission : Int → Emission} (uncounted : ∀ amount, Uncounted (emission amount)) (amount : Int) :
    (inc emission amount).Emits Uncounted := by
  unfold inc
  split
  · exact .raise _
  · exact .emit (uncounted amount)

theorem uncounted_infer : (infer platform env request).Emits Uncounted := by
  unfold infer
  split
  · exact .bind (.lift _) fun _ _ => .pure _
  · refine .bind (.emit rfl) fun _ _ => .bind (.emit rfl) fun _ _ => .bind (.lift _) fun _ _ =>
      .bind (.lift _) fun completion _ => .bind (uncounted_logGuarded _ _ _) fun _ _ =>
        .bind (.emit rfl) fun _ _ => .bind (.emit rfl) fun _ _ =>
          .bind (uncounted_inc (fun _ => rfl) _) fun _ _ =>
            .bind (uncounted_inc (fun _ => rfl) _) fun _ _ => ?_
    split
    · exact .pure _
    · exact .raise _

theorem uncounted_of_uncaught {exc : Exn} (uncaught : exc.isException = false) : isQueueRejection exc = false := by
  cases exc with
  | httpException statusCode detail => cases uncaught
  | _ => rfl

theorem inc_raises (emission : Int → Emission) (amount : Int) :
    (inc emission amount).Raises fun exc => isQueueRejection exc = false := by
  cases refused : incError amount with
  | some exc =>
    obtain ⟨message, rfl⟩ := ordinary_incError refused
    rw [inc, refused]
    exact .raise rfl
  | none =>
    rw [inc, refused]
    exact .emit _

theorem report_raises (completion : Completion) :
    (report platform env request completion).Raises fun exc => isQueueRejection exc = false := by
  refine .bind (fun exc failed => uncounted_of_uncaught (logGuarded_raises _ _ _ _ exc failed)) fun _ _ =>
    .bind (.emit _) fun _ _ => .bind (.emit _) fun _ _ =>
      .bind (inc_raises _ _) fun _ _ => .bind (inc_raises _ _) fun _ _ => ?_
  split
  · exact .pure _
  · exact .raise rfl

theorem Ordinary.uncounted {α : Type} {r : Except Exn α} (ordinary : Ordinary r) (exc : Exn)
    (failed : r = .error exc) : isQueueRejection exc = false := by
  obtain ⟨message, rfl⟩ := ordinary exc failed
  rfl

theorem infer_failure : (failure (infer platform env request).result).any isQueueRejection =
    (!request.stream && (failure env.submit).any isQueueRejection) := by
  have uncounted : ∀ {p : Handling Answer}, (p.Raises fun exc => isQueueRejection exc = false) →
      (failure p.result).any isQueueRejection = false := by
    intro p raises
    cases result : p.result with
    | ok answer => rfl
    | error exc => exact raises exc result
  cases stream : request.stream with
  | true =>
    apply uncounted
    simp only [infer, stream, ↓reduceIte]
    exact .bind (.lift fun exc failed => (ordinary_estimate _).uncounted exc failed) fun _ _ => .pure _
  | false =>
    cases submitted : env.submit with
    | error exc =>
      have stopped : (infer platform env request).result = .error exc := by
        simp only [infer, stream, submitted]
        rfl
      rw [stopped]
      rfl
    | ok answer =>
      apply uncounted
      simp only [infer, stream, submitted, Bool.false_eq_true, ↓reduceIte]
      refine .bind (.emit _) fun _ _ => .bind (.emit _) fun _ _ => .bind (.lift fun _ same => by cases same) fun _ _ =>
        .bind (.lift fun exc failed => ?_) fun completion _ => report_raises completion
      exact (ordinary_complete platform request _).uncounted exc failed

theorem rejections_onError {exc : Exn} {handler : Handling Answer}
    (caught : onError platform env request exc = some handler) :
    rejections handler.emissions = rejectionsOf request (some exc) := by
  cases exc with
  | httpException statusCode detail =>
    cases caught
    have rest : ((do
        count request statusCode "false" "unknown"
        logGuarded env .httpError (httpErrorRow platform env request statusCode detail)
          "Failed to log HTTPException request"
        Program.raise (.httpException statusCode detail) : Handling Answer)).Emits Uncounted :=
      .bind (.emit rfl) fun _ _ => .bind (uncounted_logGuarded _ _ _) fun _ _ => .raise _
    have silent := rejections_of_emits rest
    unfold onHttpException
    by_cases full : statusCode = 503
    · have counted : rejectionsOf request (some (.httpException statusCode detail)) =
          [.queueRejected request.requestType] := if_pos (decide_eq_true full)
      rw [if_pos full, counted, Program.emit_bind]
      exact congrArg (Emission.queueRejected request.requestType :: ·) silent
    · have nothing : rejectionsOf request (some (.httpException statusCode detail)) = [] :=
        if_neg fun same => full (of_decide_eq_true same)
      rw [if_neg full, nothing]
      exact silent
  | cancelledError => cases caught
  | generatorExit => cases caught
  | _ =>
    cases caught
    apply rejections_of_emits
    exact .bind (.emit rfl) fun _ _ => .bind (uncounted_logGuarded _ _ _) fun _ _ => .raise _

theorem rejections_attempt (platform : Platform) (env : Environment) (request : Request) :
    rejections (attempt platform env request).emissions =
      rejectionsOf request (failure (infer platform env request).result) := by
  have body : rejections (infer platform env request).emissions = [] := rejections_of_emits uncounted_infer
  cases result : (infer platform env request).result with
  | ok answer =>
    rw [attempt, Program.catching_of_ok result, body]
    rfl
  | error exc =>
    cases caught : onError platform env request exc with
    | none =>
      rw [attempt, Program.catching_of_passed result caught, body]
      cases exc with
      | httpException statusCode detail => cases caught
      | _ => rfl
    | some handler =>
      rw [attempt, Program.catching_of_caught result caught, rejections_append, body, rejections_onError caught]
      rfl

theorem relay_failure (chunks : List String) (ending : Except Exn Unit) :
    (relay platform chunks ending).result = ending ∨
      ∃ exc, (relay platform chunks ending).result = .error exc ∧ isQueueRejection exc = false := by
  induction chunks with
  | nil => exact Or.inl rfl
  | cons chunk rest ih =>
    cases rewritten : rewriteSseModel platform (rstripNewlines chunk) with
    | error exc =>
      refine Or.inr ⟨exc, ?_, ?_⟩
      · simp only [relay, rewritten, Program.emit_bind]
        rfl
      · exact (ordinary_rewrite platform _).uncounted exc rewritten
    | ok line =>
      have same : (relay platform (chunk :: rest) ending).result = (relay platform rest ending).result := by
        simp only [relay, rewritten, Program.emit_bind, Program.lift_ok_bind]
      rw [same]
      exact ih

theorem rejections_settleStream (promptTokens : Int) {result : Except Exn Unit} :
    rejections (settleStream platform env request promptTokens (streamError result)).emissions =
      rejectionsOf request (failure result) := by
  have rest : ((do
      logRequest env .streamed (streamRow platform env request promptTokens (streamError result))
      count request (if (streamError result).isSome then 500 else 200) "true"
        (if isMultimodal request then "multimodal" else "stream")
      observeLatency request (if isMultimodal request then "multimodal" else "stream") (env.latencyMs .streamed)
      inc (.promptTokens (tokenLabels request)) promptTokens : Handling Unit)).Emits Uncounted :=
    .bind (uncounted_logRequest _ _) fun _ _ => .bind (.emit rfl) fun _ _ => .bind (.emit rfl) fun _ _ =>
      uncounted_inc (fun _ => rfl) _
  have silent := rejections_of_emits rest
  have same : (streamError result).any isQueueRejection = (failure result).any isQueueRejection := by
    cases result with
    | ok done => rfl
    | error exc => cases exc <;> rfl
  unfold settleStream rejectionsOf
  rw [← same]
  cases (streamError result).any isQueueRejection with
  | true => exact congrArg (Emission.queueRejected request.requestType :: ·) silent
  | false => exact silent

theorem rejections_eventStream (platform : Platform) (env : Environment) (request : Request) (promptTokens : Int)
    (chunks : List String) (ending : Except Exn Unit) :
    rejections (eventStream platform env request promptTokens chunks ending).emissions =
      rejectionsOf request (failure (relay platform chunks ending).result) := by
  have looped : rejections (relay platform chunks ending).emissions = [] := by
    apply rejections_of_emits
    intro emission among
    have relayed := relay_emits chunks ending emission among
    cases emission with
    | queueRejected requestType => cases relayed
    | _ => rfl
  have body : eventStream platform env request promptTokens chunks ending =
      Program.ensuring
        ⟨.asked (affinityKey request) (isMultimodal request) :: (relay platform chunks ending).emissions,
          (relay platform chunks ending).result⟩
        fun result => settleStream platform env request promptTokens (streamError result) := rfl
  rw [body, Program.ensuring, rejections_append, rejections_settleStream]
  exact congrArg (· ++ _) looped

/-! ### Whole requests -/

theorem rejections_leave (result : Except Exn Answer) : rejections (leave result).emissions = [] := by
  unfold leave
  split
  · rfl
  · rfl

theorem rejections_chatCompletions (passes : env.check.passes = true) :
    rejections (chatCompletions platform env request).emissions =
      rejectionsOf request (failure (infer platform env request).result) := by
  rw [chat_of_passes platform request passes]
  change rejections ((attempt platform env request).emissions ++ (leave _).emissions) = _
  rw [rejections_append, rejections_attempt, rejections_leave, List.append_nil]

theorem rejections_respond {result : Except Exn Answer}
    (unstreamed : ∀ promptTokens, result ≠ .ok (.stream promptTokens)) :
    rejections (respond platform env request result) = [] := by
  cases result with
  | ok answer =>
    cases answer with
    | json document => rfl
    | stream promptTokens => exact absurd rfl (unstreamed promptTokens)
  | error exc =>
    refine List.filter_eq_nil_iff.mpr fun emission among counted => ?_
    have client := respond_error_client platform env request exc emission among
    cases emission with
    | queueRejected requestType => cases client
    | _ => cases counted

theorem rejections_turnedAway (turned : env.check.passes = false) : rejections (serve platform env request) = [] := by
  have handler : (chatCompletions platform env request).Emits Uncounted ∧
      (chatCompletions platform env request).Returns fun _ => False := by
    unfold chatCompletions
    cases checked : env.check with
    | cancelled =>
      exact ⟨.bind (.emit rfl) fun _ _ => .raise _, .bind fun _ _ => .raise _⟩
    | rejected exc =>
      have rejecting : (rejectRateLimited env request exc).Emits Uncounted :=
        .bind (.emit rfl) fun _ _ => .bind (.emit rfl) fun _ _ =>
          .bind (uncounted_logGuarded _ _ _) fun _ _ => .raise _
      refine ⟨.bind (.emit rfl) fun _ _ => rejecting, ?_⟩
      exact .bind fun _ _ => .bind fun _ _ => .bind fun _ _ => .bind fun _ _ => .raise _
    | passed =>
      rw [checked] at turned
      cases turned
    | unavailable =>
      rw [checked] at turned
      cases turned
  rw [serve, rejections_append, rejections_of_emits handler.1]
  exact rejections_respond fun _ result => handler.2 _ result

theorem rejections_direct (passes : env.check.passes = true) (direct : request.stream = false) :
    rejections (serve platform env request) = rejectionsOf request (failure env.submit) := by
  have handler := @rejections_chatCompletions platform env request passes
  have counted : rejectionsOf request (failure (infer platform env request).result) =
      rejectionsOf request (failure env.submit) := by
    rw [rejectionsOf, infer_failure, direct]
    rfl
  have unstreamed : ∀ promptTokens, (chatCompletions platform env request).result ≠ .ok (.stream promptTokens) := by
    intro promptTokens result
    rw [chat_of_passes platform request passes] at result
    have streaming := (attempt_returns platform env request _ result promptTokens rfl).1
    cases direct.symm.trans streaming
  rw [serve, rejections_append, handler, counted, rejections_respond unstreamed, List.append_nil]

theorem serve_of_streaming (platform : Platform) {promptTokens : Int} (passes : env.check.passes = true)
    (stream : request.stream = true) (estimated : estimatePromptTokens request.messages = .ok promptTokens) :
    rejections (serve platform env request) =
      rejections (respond platform env request (.ok (.stream promptTokens))) := by
  have returned : (chatCompletions platform env request).result = .ok (.stream promptTokens) := by
    rw [chat_of_passes platform request passes, attempt_of_streaming stream estimated]
  have handler := @rejections_chatCompletions platform env request passes
  rw [rejectionsOf, infer_failure, stream] at handler
  rw [serve, rejections_append, returned, handler]
  rfl

theorem rejections_unreadable {exc : Exn} (stream : request.stream = true)
    (estimated : estimatePromptTokens request.messages = .error exc) :
    rejections (serve platform env request) = [] := by
  cases passes : env.check.passes with
  | false => exact rejections_turnedAway passes
  | true =>
    have handler := @rejections_chatCompletions platform env request passes
    rw [rejectionsOf, infer_failure, stream] at handler
    have unstreamed : ∀ promptTokens, (chatCompletions platform env request).result ≠ .ok (.stream promptTokens) := by
      intro promptTokens result
      rw [chat_of_passes platform request passes] at result
      have readable := (attempt_returns platform env request _ result promptTokens rfl).2
      cases estimated.symm.trans readable
    rw [serve, rejections_append, handler, rejections_respond unstreamed]
    rfl

theorem rejections_unstarted (stream : request.stream = true) (body : env.stream = none) :
    rejections (serve platform env request) = [] := by
  cases estimated : estimatePromptTokens request.messages with
  | error exc => exact rejections_unreadable stream estimated
  | ok promptTokens =>
    cases passes : env.check.passes with
    | false => exact rejections_turnedAway passes
    | true =>
      rw [serve_of_streaming platform passes stream estimated, respond, body]
      rfl

theorem rejections_streamed (starts : Starts env request) {chunks : List String} {ending : Except Exn Unit}
    (body : env.stream = some (chunks, ending)) :
    rejections (serve platform env request) = rejectionsOf request (failure (relay platform chunks ending).result) := by
  obtain ⟨passes, stream, promptTokens, estimated⟩ := starts
  rw [serve_of_streaming platform passes stream estimated, respond, body]
  simp only [rejections_append, rejections_eventStream]
  exact List.append_nil _

/-! ### The counter and the pool -/

theorem counted_iff_of_verdict {exhausted : Prop} {call : Call} (verdict : Router.Verdict exhausted call)
    (count : rejections (serve platform env request) = rejectionsOf request call.point.error) :
    Counted platform env request (some call) ↔ ¬exhausted := by
  cases verdict with
  | full error refused alive =>
    have turnedDown : TurnedDown (some call) := by
      refine ⟨call, rfl, refused, ?_⟩
      rw [error]
      nofun
    rw [error] at count
    exact iff_of_true ⟨fun _ => count, fun spared => absurd turnedDown spared⟩ alive
  | unreached cause error accepted spent =>
    have spared : ¬TurnedDown (some call) := by
      rintro ⟨call', same, refused, -⟩
      cases same
      exact accepted refused
    rw [error] at count
    refine iff_of_false ?_ (not_not_intro spent)
    intro counted
    have nothing := count.symm.trans (counted.2 spared)
    cases nothing
  | other ordinary alive withdrawn =>
    have spared : ¬TurnedDown (some call) := by
      rintro ⟨call', same, refused, uncancelled⟩
      cases same
      exact uncancelled (withdrawn refused)
    have nothing : rejectionsOf request call.point.error = [] := by
      cases error : call.point.error with
      | none => rfl
      | some exn =>
        apply if_neg
        intro counted
        cases exn with
        | httpException statusCode detail =>
          have status : statusCode = 503 := of_decide_eq_true counted
          rw [status] at error
          exact ordinary _ error detail rfl
        | _ => cases counted
    exact iff_of_true ⟨fun down => absurd down spared, fun _ => count.trans nothing⟩ alive

section
variable {hash : String → Int} {p : NodePool} {s : Router} {events : List RouterEvent} {index : Nat}

theorem rejections_routed (reached : (Router.machine hash).Reaches ⟨Monitor.unlocked p, []⟩ s) {call : Call}
    (found : s.calls[index]? = some call) (routed : Routed env request (some call)) :
    rejections (serve platform env request) = rejectionsOf request call.point.error := by
  cases routed with
  | submitted checked direct log =>
    rw [rejections_direct checked direct]
    cases env.submit with
    | ok answer => rfl
    | error exc => rfl
  | streamed starts ending log body =>
    have same : rejectionsOf request (Point.error (.stream (.done ending))) =
        rejectionsOf request (failure ending) := by
      cases ending with
      | ok done => rfl
      | error exc => rfl
    rw [rejections_streamed starts body, same]
    rcases @relay_failure platform (chunks log) ending with passed | ⟨exc, stopped, uncounted⟩
    · rw [passed]
    · have nothing : rejectionsOf request (failure (relay platform (chunks log) ending).result) = [] := by
        rw [stopped]
        exact if_neg (Bool.eq_false_iff.mp uncounted)
      rw [nothing]
      cases ending with
      | ok done => rfl
      | error exn =>
        cases exn with
        | httpException statusCode detail =>
          -- nothing was yielded, so there was no chunk to stop at
          rw [Router.silent_of_httpException reached found] at nothing
          exact nothing.symm
        | _ => rfl

/-- A request is counted right if and only if its last attempt does not fail, or it is cancelled
after that: such a failure ends in the same status as a full pool. -/
theorem queue_rejections_iff (platform : Platform)
    (ran : (Router.machine hash).run ⟨Monitor.unlocked p, []⟩ events = some s)
    (routed : Routed env request s.calls[index]?) :
    Counted platform env request s.calls[index]? ↔
      ¬Router.Exhausted hash ⟨Monitor.unlocked p, []⟩ index events := by
  generalize found : s.calls[index]? = routedCall at routed
  cases routedCall with
  | some call =>
    exact counted_iff_of_verdict (Router.verdict_reachable ran found) (rejections_routed ⟨events, ran⟩ found routed)
  | none =>
    have nothing : rejections (serve platform env request) = [] := by
      cases routed with
      | turnedAway checked => exact rejections_turnedAway checked
      | unreadable exc stream estimated => exact rejections_unreadable stream estimated
      | unstarted stream body => exact rejections_unstarted stream body
    have spared : ¬TurnedDown none := by
      rintro ⟨call, absent, -⟩
      cases absent
    refine iff_of_true ⟨fun down => absurd down spared, fun _ => nothing⟩ ?_
    intro exhausted
    obtain ⟨call, running⟩ := Router.running_of_exhausted rfl ran exhausted
    cases found.symm.trans running

end

end

def Environment.refused (exn : Exn) : Environment :=
  { check := .passed, submit := .error exn, stream := none, writes := fun _ => none, latencyMs := fun _ => 12 }

/-- The second request finds the only slot taken and the queue closed. -/
theorem queue_rejections_full :
    Counted .plain (.refused poolFull) (.greeting false) (some ⟨.submit (.done (.error poolFull)),
      [.asked ∅ none, .rejected, .stopped]⟩) := by
  have ran : (Router.machine fun _ => 0).run (Router.new ["10.0.0.1"] 8080 1 0 {"10.0.0.1"})
    [.submit none, .resume 0 .wake, .submit none, .resume 1 .wake, .resume 1 .wake] = some _ := rfl
  refine (@queue_rejections_iff (.refused poolFull) (.greeting false) _ _ _ _ 1 .plain ran ?_).mpr ?_
  · exact .submitted rfl rfl _
  · have verdict := @Router.verdict_reachable _ _ 1 _ _ _ ran rfl
    cases verdict with
    | full error refused alive => exact alive
    | unreached cause error => exact absurd (Option.some.inj error) (poolFull_ne_unreachable cause)
    | other ordinary alive => exact alive

def refusals : Nat → List RouterEvent
  | 0 => []
  | n + 1 =>
      .resume 0 .wake :: .resume 0 (.posted 0 (.error (.transport "connection refused"))) :: refusals n

/-- Six nodes refuse the connection, the queue is never asked, and the request is counted. -/
theorem exhausted_counted : ¬∀ (s : Router) env request events (index : Nat),
    (Router.machine fun _ => 0).run (Router.new ["a", "b", "c", "d", "e", "f"] 8080 1 5
      {"a", "b", "c", "d", "e", "f"}) events = some s →
      Routed env request s.calls[index]? → Counted .plain env request s.calls[index]? := by
  intro always
  have counted := always _ (.refused (unreachable (.transportError "connection refused"))) (.greeting false)
    (.submit none :: refusals 6 ++ [.resume 0 .wake]) 0 rfl (.submitted rfl rfl _)
  have count : rejections (serve .plain (.refused (unreachable (.transportError "connection refused")))
      (.greeting false)) = [.queueRejected "text"] := rejections_direct rfl rfl
  have spared := counted.2 ?_
  · cases count.symm.trans spared
  · rintro ⟨call, found, refused, -⟩
    cases found
    revert refused
    decide

end LlamacppRay.Gateway.Chat
