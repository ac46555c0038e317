import LlamacppRay.Gateway.Streaming

/-! What the two dispatchers raise, in any run of the router, and which of it is one failure seen
through both. -/

namespace LlamacppRay.Gateway
open LlamacppRay.Asyncio LlamacppRay.Automata LlamacppRay.Python

/-! ### The non-streaming dispatcher -/

inductive Submit.Fails : Exn → Prop
  | full : Fails poolFull
  | exhausted (cause : Exn) (failure : cause.retryable = true) : Fails (unreachable cause)
  | rejected (reply : Reply) (refused : reply.isSuccess = false) (final : reply.status ∉ RETRYABLE_HTTP_STATUS) :
      Fails (httpException reply.status (detail reply))
  | broken (message : String) : Fails (.other message)
  | cancelled : Fails .cancelledError

def Submit.Failing : Submit → Prop
  | .leaving (.error exn) => Fails exn
  | .done (.error exn) => Fails exn
  | _ => True

section Submit
variable {p p' : NodePool} {st next : Submit} {r : Resume} {actions : List Action}

theorem Submit.failing_finish (ip : String) (queueMs : Int) (data : Json) :
    (Submit.leaving (finish ip queueMs data)).Failing := by
  unfold finish
  split
  · trivial
  · exact .broken _

theorem Submit.Step.failing (step : Submit.Step p st r p' next actions) (before : st.Failing) : next.Failing := by
  cases step with
  | granted => trivial
  | rejected => exact .full
  | queued => trivial
  | served => trivial
  | requeued => trivial
  | withdrawn => exact .cancelled
  | succeeded => exact failing_finish _ _ _
  | refused outcome final => exact .rejected _ (send_status outcome) final
  | exhausted outcome failure => exact .exhausted _ failure
  | rerouted => trivial
  | broken => exact .broken _
  | cancelled => exact .cancelled
  | quiet ends =>
    cases ends with
    | unentered => exact .cancelled
    | awakened => exact .cancelled
    | left result =>
      cases result with
      | ok data => trivial
      | error exn => exact before
    | cut => exact .cancelled

theorem Submit.start_failing (hash : String → Int) (affinityKey : Option String) :
    (Submit.start p hash affinityKey).Failing := by
  unfold start
  split
  · trivial
  · exact .broken _

end Submit

/-! ### The streaming dispatcher -/

/-- What a run of `stream_inference` can raise. A transport error that is passed on, and the closing of the
generator, come after a chunk. -/
inductive Stream.Fails (log : List Action) : Exn → Prop
  | full : Fails log poolFull
  | exhausted (message : String) : Fails log (unreachable (.transportError message))
  | rejected (reply : Reply) (refused : reply.isSuccess = false) : Fails log (.httpStatusError reply)
  | severed (message : String) (heard : chunks log ≠ []) : Fails log (.transportError message)
  | broken (message : String) : Fails log (.other message)
  | cancelled : Fails log .cancelledError
  | closed (heard : chunks log ≠ []) : Fails log .generatorExit

inductive Stream.Raised (log : List Action) : Exn → Prop
  | transport (message : String) : Raised log (.transportError message)
  | rejected (reply : Reply) (refused : reply.isSuccess = false) : Raised log (.httpStatusError reply)
  | broken (message : String) : Raised log (.other message)
  | cancelled : Raised log .cancelledError
  | closed (heard : chunks log ≠ []) : Raised log .generatorExit

def Heard (locals : StreamLocals) (log : List Action) : Prop :=
  locals.startedStreaming = true → chunks log ≠ []

def Stream.Failing : Stream → List Action → Prop
  | .entering locals, log => Heard locals log
  | .acquiring locals _, log => Heard locals log
  | .opening locals _, log => Heard locals log
  | .reading locals _ _ _, log => Heard locals log
  | .yielding _ _ _ _, log => chunks log ≠ []
  | .sleeping locals _ _, log => Heard locals log
  | .closing locals _ (.raising exn), log => Heard locals log ∧ Raised log exn
  | .closing locals _ _, log => Heard locals log
  | .leaving (.error exn), log => Fails log exn
  | .done (.error exn), log => Fails log exn
  | _, _ => True

section Stream
variable {p p' : NodePool} {st next : Stream} {r : Resume} {actions log : List Action} {locals : StreamLocals}
  {ip : String} {exn : Exn}

theorem chunks_ne_append (heard : chunks log ≠ []) : chunks (log ++ actions) ≠ [] := by
  rw [chunks_append]
  exact fun nothing => heard (List.append_eq_nil_iff.mp nothing).1

theorem Heard.append (heard : Heard locals log) : Heard locals (log ++ actions) :=
  fun up => chunks_ne_append (heard up)

theorem Stream.Fails.append (fails : Fails log exn) : Fails (log ++ actions) exn := by
  cases fails with
  | full => exact .full
  | exhausted => exact .exhausted _
  | rejected reply refused => exact .rejected reply refused
  | severed message heard => exact .severed message (chunks_ne_append heard)
  | broken => exact .broken _
  | cancelled => exact .cancelled
  | closed heard => exact .closed (chunks_ne_append heard)

theorem Stream.raised_fault (log : List Action) (fault : Fault) : Raised log fault.exn := by
  cases fault with
  | transport message => exact .transport message
  | other message => exact .broken message

theorem Stream.AtHead.heard (head : AtHead st r locals) (before : st.Failing log) : Heard locals log := by
  cases head with
  | first => exact before
  | again => exact before
  | left => exact before

theorem Stream.Raises.raised (raises : Raises st r locals ip exn) (before : st.Failing log) :
    Heard locals log ∧ Raised log exn := by
  cases raises with
  | unopened locals ip fault => exact ⟨before, raised_fault log fault⟩
  | cancelled => exact ⟨before, .cancelled⟩
  | closed => exact before

theorem Stream.Raised.fails (raised : Raised log exn)
    (late : (∀ message, exn ≠ .transportError message) ∨ chunks log ≠ []) : Fails log exn := by
  cases raised with
  | transport message =>
    rcases late with never | heard
    · exact absurd rfl (never message)
    · exact .severed message heard
  | rejected reply refused => exact .rejected reply refused
  | broken => exact .broken _
  | cancelled => exact .cancelled
  | closed heard => exact .closed heard

theorem Stream.Step.failing (step : Stream.Step p st r p' next actions) (before : st.Failing log) :
    next.Failing (log ++ actions) := by
  cases step with
  | granted head => exact (head.heard before).append
  | rejected => exact .full
  | queued head => exact (head.heard before).append
  | served => exact Heard.append before
  | requeued => exact Heard.append before
  | withdrawn => exact .cancelled
  | accepted => exact Heard.append before
  | refused failure => exact ⟨Heard.append before, .rejected _ failure⟩
  | turned => exact Heard.append before
  | line => simp [Stream.Failing, chunks]
  | blank => exact Heard.append before
  | pulled => exact fun _ => chunks_ne_append before
  | finished => exact Heard.append before
  | severed => exact ⟨Heard.append before, raised_fault _ _⟩
  | rethrown raises caught final =>
    obtain ⟨heard, raised⟩ := raises.raised before
    exact (raised.fails (final.imp_right heard)).append
  | exhausted => exact .exhausted _
  | rerouted raises => exact (raises.raised before).1.append
  | escaped raises uncaught =>
    refine ((raises.raised before).2.fails (.inl ?_)).append
    rintro message rfl
    cases uncaught
  | interrupted interrupts =>
    cases interrupts with
    | reading => exact ⟨Heard.append before, .cancelled⟩
    | closed => exact ⟨fun _ => chunks_ne_append before, .closed (chunks_ne_append before)⟩
    | thrown => exact ⟨fun _ => chunks_ne_append before, .cancelled⟩
    | asleep => exact ⟨Heard.append before, .cancelled⟩
  | superseded => exact .cancelled
  | quiet moves =>
    cases moves with
    | unentered => exact .cancelled
    | awakened => exact .cancelled
    | continued => exact Heard.append before
    | returned => trivial
    | overtaken => exact .cancelled
    | dropped => exact .cancelled
    | left result =>
      cases result with
      | ok => trivial
      | error exn => exact Fails.append before
    | cut => exact .cancelled

theorem Stream.start_failing (hash : String → Int) (affinityKey : Option String) :
    (Stream.start p hash affinityKey).Failing [] := by
  unfold start
  split
  · intro up
    cases up
  · exact .broken _

end Stream

/-! ### One failure through either dispatcher -/

/-- The failures a request can meet before a line of the backend is delivered. -/
inductive Failure where
  | full
  | exhausted (cause : Exn)
  | rejected (reply : Reply)

namespace Failure

def Possible : Failure → Prop
  | .full => True
  | .exhausted cause => cause.retryable = true
  | .rejected reply => reply.isSuccess = false ∧ reply.status ∉ RETRYABLE_HTTP_STATUS

/-- The status the request should come to. -/
def code : Failure → Int
  | .full | .exhausted _ => 503
  | .rejected reply => reply.status

def submitExn : Failure → Exn
  | .full => poolFull
  | .exhausted cause => unreachable cause
  | .rejected reply => httpException reply.status (Submit.detail reply)

/-- What the non-streaming dispatcher tells of the failure; none where it cannot even raise it. -/
def detail : Failure → Option Json
  | .full => some (.obj [("error", .str "Inference pool is full, please retry shortly")])
  | .exhausted cause => some (.obj [("error", .str ("Unable to reach inference backend: " ++ cause.text))])
  | .rejected reply => httpDetail reply.status (Submit.detail reply)

theorem submitExn_of_detail {failure : Failure} {detail : Json} (told : failure.detail = some detail) :
    failure.submitExn = .httpException failure.code detail := by
  cases failure with
  | full => cases told; rfl
  | exhausted cause => cases told; rfl
  | rejected reply => exact httpException_of_detail told

theorem submitExn_of_untold {failure : Failure} (untold : failure.detail = none) :
    ∃ message, failure.submitExn = .other message := by
  cases failure with
  | full => cases untold
  | exhausted cause => cases untold
  | rejected reply => exact httpException_of_unknown untold

theorem code_of_submitExn {failure : Failure} {statusCode : Int} {detail : Json}
    (raised : failure.submitExn = .httpException statusCode detail) : statusCode = failure.code := by
  cases failure with
  | full => cases raised; rfl
  | exhausted cause => cases raised; rfl
  | rejected reply => exact (detail_of_httpException raised).1.symm

/-- The streaming dispatcher raises the status of the response itself, also that of its last attempt. -/
def streamExn : Failure → Exn
  | .full => poolFull
  | .exhausted (.httpStatusError reply) => .httpStatusError reply
  | .exhausted cause => unreachable cause
  | .rejected reply => .httpStatusError reply

theorem code_ne_success {failure : Failure} (possible : failure.Possible) : failure.code ≠ 200 := by
  cases failure with
  | full => simp [code]
  | exhausted cause => simp [code]
  | rejected reply =>
    intro same
    have refused := possible.1
    simp only [Response.isSuccess, Bool.and_eq_false_iff, decide_eq_false_iff_not] at refused
    change reply.status = 200 at same
    omega

theorem code_ne_serverError {failure : Failure} (possible : failure.Possible) : failure.code ≠ 500 := by
  cases failure with
  | full => simp [code]
  | exhausted cause => simp [code]
  | rejected reply =>
    intro same
    change reply.status = 500 at same
    exact possible.2 (by rw [same]; decide)

end Failure

theorem Submit.Fails.failure {statusCode : Int} {detail : Json}
    (fails : Submit.Fails (.httpException statusCode detail)) :
    ∃ failure : Failure, failure.Possible ∧ failure.submitExn = .httpException statusCode detail := by
  generalize same : Exn.httpException statusCode detail = exn at fails
  cases fails with
  | full => exact ⟨.full, trivial, rfl⟩
  | exhausted cause failure => exact ⟨.exhausted cause, failure, rfl⟩
  | rejected reply refused final => exact ⟨.rejected reply, ⟨refused, final⟩, rfl⟩
  | broken message => cases same
  | cancelled => cases same

theorem Submit.Fails.ne_success {statusCode : Int} {detail : Json}
    (fails : Submit.Fails (.httpException statusCode detail)) : statusCode ≠ 200 := by
  obtain ⟨failure, possible, named⟩ := fails.failure
  rw [Failure.code_of_submitExn named]
  exact Failure.code_ne_success possible

theorem Stream.Fails.failure {log : List Action} {exn : Exn} (fails : Stream.Fails log exn)
    (silent : chunks log = []) :
    (∃ failure : Failure, failure.Possible ∧ failure.streamExn = exn) ∨
      (∃ message, exn = .other message) ∨ exn = .cancelledError := by
  cases fails with
  | full => exact .inl ⟨.full, trivial, rfl⟩
  | exhausted message => exact .inl ⟨.exhausted (.transportError message), rfl, rfl⟩
  | rejected reply refused =>
    by_cases retried : reply.status ∈ RETRYABLE_HTTP_STATUS
    · exact .inl ⟨.exhausted (.httpStatusError reply), decide_eq_true retried, rfl⟩
    · exact .inl ⟨.rejected reply, ⟨refused, retried⟩, rfl⟩
  | severed message heard => exact absurd silent heard
  | broken message => exact .inr (.inl ⟨message, rfl⟩)
  | cancelled => exact .inr (.inr rfl)
  | closed heard => exact absurd silent heard

/-! ### Every run of the router -/

def Point.Failing : Point → List Action → Prop
  | .submit st, _ => st.Failing
  | .stream st, log => st.Failing log

namespace Router
variable {hash : String → Int} {p : NodePool} {s : Router} {index : Nat} {log : List Action} {exn : Exn}

theorem failing_reachable {call : Call} (reached : (machine hash).Reaches ⟨Monitor.unlocked p, []⟩ s)
    (found : s.calls[index]? = some call) : call.point.Failing call.log := by
  refine @call_invariant hash p (fun call => call.point.Failing call.log) ?_ ?_ ?_ s reached index call found
  · exact fun p affinityKey => Submit.start_failing hash affinityKey
  · exact fun p affinityKey => Stream.start_failing hash affinityKey
  · intro p p' call r point actions before step
    obtain ⟨start, log⟩ := call
    cases step with
    | submit step => exact step.failing before
    | stream step => exact step.failing before

theorem submit_fails (reached : (machine hash).Reaches ⟨Monitor.unlocked p, []⟩ s)
    (found : s.calls[index]? = some ⟨.submit (.done (.error exn)), log⟩) : Submit.Fails exn :=
  failing_reachable reached found

theorem stream_fails (reached : (machine hash).Reaches ⟨Monitor.unlocked p, []⟩ s)
    (found : s.calls[index]? = some ⟨.stream (.done (.error exn)), log⟩) : Stream.Fails log exn :=
  failing_reachable reached found

end Router
end LlamacppRay.Gateway
