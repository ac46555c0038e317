import LlamacppRay.Gateway.Retry

/-! The non-streaming dispatcher, cut at its suspension points. -/

namespace LlamacppRay.Gateway
open LlamacppRay.Asyncio LlamacppRay.Python

/-- Where a call of `submit_inference` is suspended, with its local variables. -/
inductive Submit where
  /-- In `AsyncClient.__aenter__`. -/
  | entering (locals : Locals)
  /-- In `_cond.wait()` inside `pool.acquire`. -/
  | acquiring (locals : Locals) (future : Future)
  /-- In `_send`. -/
  | sending (locals : Locals) (ip : String)
  /-- In the backoff sleep. -/
  | sleeping (locals : Locals)
  /-- In `AsyncClient.__aexit__`, with the result on its way out. -/
  | leaving (result : Except Exn Json)
  | done (result : Except Exn Json)

/-- `_send` from the point where `client.post` is over. -/
def send : Except Fault Reply → Except Exn Json
  | .error fault => .error fault.exn
  | .ok reply => do
      raiseForStatus reply
      match reply.json with
      | some data => return data
      | none => .error (.other "JSONDecodeError")

namespace Submit

def start (pool : NodePool) (hash : String → Int) (affinityKey : Option String) : Submit :=
  match affinityIp pool hash affinityKey with
  | some affinityIp => .entering ⟨affinityIp, ∅, 0⟩
  | none => .done (.error (.other "integer modulo by zero"))

def loop (pool : Monitor NodePool) (locals : Locals) : Option (Stretch Submit) := do
  let asked := Action.asked locals.excluded locals.affinityIp
  let (pool, result) ← pool.critical fun p => p.acquire locals.excluded locals.affinityIp
  match result with
  | .granted ip => return (pool, .sending locals ip, [asked, .granted ip, .dispatched ip pool.value.port])
  | .busy => return (pool, .leaving (.error poolFull), [asked, .rejected, .stopped])
  | .blocked future => return (pool, .acquiring locals future, [asked, .queued])

def woken (pool : Monitor NodePool) (locals : Locals) (future : Future) : Option (Stretch Submit) := do
  let (pool, result) ← pool.critical fun p => p.wake future locals.excluded locals.affinityIp
  match result with
  | .granted ip => return (pool, .sending locals ip, [.dequeued, .granted ip, .dispatched ip pool.value.port])
  | .busy => return (pool, .leaving (.error poolFull), [.dequeued, .rejected, .stopped])
  | .blocked future => return (pool, .acquiring locals future, [.requeued])

/-- `data["node_ip"] = ip` and `data["queue_ms"] = queue_ms`; the slot is released before. -/
def finish (ip : String) (queueMs : Int) (data : Json) : Except Exn Json :=
  match (data.setItem "node_ip" (.str ip)).bind fun data => data.setItem "queue_ms" (.int queueMs) with
  | some data => .ok data
  | none => .error (.other "object does not support item assignment")

/-- `exc.response.json()`, or the text of the response when that fails. -/
def detail (reply : Reply) : Json :=
  match reply.json with
  | some document => document
  | none => .str (if reply.text = "" then "Inference backend error" else reply.text)

def reroute (pool : Monitor NodePool) (locals : Locals) (ip : String) (exn : Exn) : Option (Stretch Submit) :=
  if MAX_RETRIES ≤ locals.attempt then
    some (pool, .leaving (.error (unreachable exn)), [.released ip, .stopped])
  else
    let pool := pool.modify fun p => p.evict ip
    let locals := { locals with excluded := insert ip locals.excluded }
    some (pool, .sleeping locals,
      [.released ip, .evicted ip, .slept (backoff (tier pool.value locals.excluded) locals.attempt)])

/-- From the end of `_send`. Only transport and status errors have an `except` clause. -/
def sent (pool : Monitor NodePool) (locals : Locals) (ip : String) (queueMs : Int) :
    Except Exn Json → Option (Stretch Submit)
  | .ok data => do
      let pool ← pool.update fun p => p.release ip
      return (pool, .leaving (finish ip queueMs data), [.released ip, .stopped])
  | .error (.transportError message) => do
      let pool ← pool.update fun p => p.release ip
      reroute pool locals ip (.transportError message)
  | .error (.httpStatusError reply) => do
      let pool ← pool.update fun p => p.release ip
      if reply.status ∉ RETRYABLE_HTTP_STATUS then
        return (pool, .leaving (.error (httpException reply.status (detail reply))), [.released ip, .stopped])
      else reroute pool locals ip (.httpStatusError reply)
  | .error exn => some (pool, .leaving (.error exn), [.stopped])

def resume (pool : Monitor NodePool) : Submit → Resume → Option (Stretch Submit)
  | .entering locals, .wake => loop pool locals
  | .entering _, .cancel => some (pool, .done (.error .cancelledError), [.stopped])
  | .acquiring locals future, .wake => woken pool locals future
  | .acquiring _ future, .cancel => do
      let pool ← pool.update fun p => p.cancelWait future
      return (pool, .leaving (.error .cancelledError), [.dequeued, .stopped])
  | .sending locals ip, .posted queueMs result => sent pool locals ip queueMs (send result)
  | .sending _ _, .cancel => some (pool, .leaving (.error .cancelledError), [.stopped])
  | .sleeping locals, .wake => loop pool { locals with attempt := locals.attempt + 1 }
  | .sleeping _, .cancel => some (pool, .leaving (.error .cancelledError), [.stopped])
  | .leaving result, .wake => some (pool, .done result, [])
  | .leaving _, .cancel => some (pool, .done (.error .cancelledError), [])
  | _, _ => none

theorem start_cases {motive : Submit → Prop}
    (entering : ∀ affinityIp, motive (.entering ⟨affinityIp, ∅, 0⟩))
    (failed : ∀ exn, motive (.done (.error exn))) (pool : NodePool) (hash : String → Int)
    (affinityKey : Option String) : motive (start pool hash affinityKey) := by
  unfold start
  split
  · exact entering _
  · exact failed _

/-! ### What one stretch can do -/

inductive AtHead : Submit → Resume → Locals → Prop
  | first (locals : Locals) : AtHead (.entering locals) .wake locals
  | again (locals : Locals) : AtHead (.sleeping locals) .wake { locals with attempt := locals.attempt + 1 }

inductive Quiet : Submit → Resume → Submit → List Action → Prop
  | unentered (locals : Locals) :
      Quiet (.entering locals) .cancel (.done (.error .cancelledError)) [.stopped]
  | awakened (locals : Locals) :
      Quiet (.sleeping locals) .cancel (.leaving (.error .cancelledError)) [.stopped]
  | left (result : Except Exn Json) : Quiet (.leaving result) .wake (.done result) []
  | cut (result : Except Exn Json) :
      Quiet (.leaving result) .cancel (.done (.error .cancelledError)) []

inductive Step (p : NodePool) : Submit → Resume → NodePool → Submit → List Action → Prop
  | granted {st : Submit} {r : Resume} {locals : Locals} {ip : String} (head : AtHead st r locals)
      (chosen : p.choose (p.candidates locals.excluded) locals.affinityIp = some ip) :
      Step p st r (p.occupy ip) (.sending locals ip)
        [.asked locals.excluded locals.affinityIp, .granted ip, .dispatched ip p.port]
  | rejected {st : Submit} {r : Resume} {locals : Locals} (head : AtHead st r locals)
      (full : p.candidates locals.excluded = []) (queue : p.maxQueued ≤ p.waiting) :
      Step p st r p (.leaving (.error poolFull))
        [.asked locals.excluded locals.affinityIp, .rejected, .stopped]
  | queued {st : Submit} {r : Resume} {locals : Locals} (head : AtHead st r locals)
      (full : p.candidates locals.excluded = []) (queue : p.waiting < p.maxQueued) :
      Step p st r p.enqueue.park (.acquiring locals p.cond.fresh)
        [.asked locals.excluded locals.affinityIp, .queued]
  | served {locals : Locals} {future : Future} {ip : String}
      (chosen : p.choose (p.candidates locals.excluded) locals.affinityIp = some ip) :
      Step p (.acquiring locals future) .wake ((p.cancelWait future).occupy ip) (.sending locals ip)
        [.dequeued, .granted ip, .dispatched ip p.port]
  | requeued {locals : Locals} {future : Future} (full : p.candidates locals.excluded = []) :
      Step p (.acquiring locals future) .wake (p.unpark future).park
        (.acquiring locals p.cond.fresh) [.requeued]
  | withdrawn (locals : Locals) (future : Future) :
      Step p (.acquiring locals future) .cancel (p.cancelWait future) (.leaving (.error .cancelledError))
        [.dequeued, .stopped]
  | succeeded {locals : Locals} {ip : String} {queueMs : Int} {result : Except Fault Reply}
      {data : Json} (outcome : send result = .ok data) :
      Step p (.sending locals ip) (.posted queueMs result) (p.release ip) (.leaving (finish ip queueMs data))
        [.released ip, .stopped]
  | refused {locals : Locals} {ip : String} {queueMs : Int} {result : Except Fault Reply}
      {reply : Reply} (outcome : send result = .error (.httpStatusError reply))
      (final : reply.status ∉ RETRYABLE_HTTP_STATUS) :
      Step p (.sending locals ip) (.posted queueMs result) (p.release ip)
        (.leaving (.error (httpException reply.status (detail reply)))) [.released ip, .stopped]
  | exhausted {locals : Locals} {ip : String} {queueMs : Int} {result : Except Fault Reply}
      {exn : Exn} (outcome : send result = .error exn) (failure : exn.retryable = true)
      (last : MAX_RETRIES ≤ locals.attempt) :
      Step p (.sending locals ip) (.posted queueMs result) (p.release ip)
        (.leaving (.error (unreachable exn))) [.released ip, .stopped]
  | rerouted {locals : Locals} {ip : String} {queueMs : Int} {result : Except Fault Reply}
      {exn : Exn} (outcome : send result = .error exn) (failure : exn.retryable = true)
      (more : locals.attempt < MAX_RETRIES) :
      Step p (.sending locals ip) (.posted queueMs result) ((p.release ip).evict ip)
        (.sleeping { locals with excluded := insert ip locals.excluded })
        [.released ip, .evicted ip,
          .slept (backoff (tier ((p.release ip).evict ip) (insert ip locals.excluded)) locals.attempt)]
  | broken {locals : Locals} {ip : String} {queueMs : Int} {result : Except Fault Reply}
      {message : String} (outcome : send result = .error (.other message)) :
      Step p (.sending locals ip) (.posted queueMs result) p (.leaving (.error (.other message))) [.stopped]
  | cancelled (locals : Locals) (ip : String) :
      Step p (.sending locals ip) .cancel p (.leaving (.error .cancelledError)) [.stopped]
  | quiet {st next : Submit} {r : Resume} {actions : List Action} (ends : Quiet st r next actions) :
      Step p st r p next actions

theorem send_error {result : Except Fault Reply} {exn : Exn} (outcome : send result = .error exn) :
    (∃ message, exn = .transportError message) ∨ (∃ reply, exn = .httpStatusError reply) ∨
      ∃ message, exn = .other message := by
  unfold send at outcome
  split at outcome
  next fault =>
    cases outcome
    cases fault with
    | transport message => exact Or.inl ⟨message, rfl⟩
    | other message => exact Or.inr (Or.inr ⟨message, rfl⟩)
  next reply =>
    unfold raiseForStatus at outcome
    split at outcome
    · split at outcome
      · cases outcome
      · cases outcome
        exact Or.inr (Or.inr ⟨_, rfl⟩)
    · cases outcome
      exact Or.inr (Or.inl ⟨reply, rfl⟩)

theorem send_status {result : Except Fault Reply} {reply : Reply}
    (outcome : send result = .error (.httpStatusError reply)) : reply.isSuccess = false := by
  cases result with
  | error fault => cases fault <;> cases outcome
  | ok response =>
    cases success : response.isSuccess with
    | true =>
      simp only [send, raiseForStatus, success, ↓reduceIte] at outcome
      cases decoded : response.json with
      | none => rw [decoded] at outcome; cases outcome
      | some data => rw [decoded] at outcome; cases outcome
    | false =>
      simp only [send, raiseForStatus, success, Bool.false_eq_true, ↓reduceIte] at outcome
      cases outcome
      exact success

theorem loop_step {p : NodePool} {st : Submit} {r : Resume} {locals : Locals}
    (head : AtHead st r locals) {after : Stretch Submit}
    (ran : loop (Monitor.unlocked p) locals = some after) :
    ∃ p', after.1 = Monitor.unlocked p' ∧ Step p st r p' after.2.1 after.2.2 := by
  have cases_of := p.acquire_cases locals.excluded locals.affinityIp
  simp only [loop, Monitor.critical_unlocked, Option.bind_eq_bind, Option.bind_some] at ran
  generalize p.acquire locals.excluded locals.affinityIp = acquired at cases_of ran
  cases cases_of with
  | granted ip chosen =>
    cases ran
    exact ⟨_, rfl, .granted head chosen⟩
  | busy full queue =>
    cases ran
    exact ⟨_, rfl, .rejected head full queue⟩
  | blocked full queue =>
    cases ran
    exact ⟨_, rfl, .queued head full queue⟩

theorem woken_step {p : NodePool} {locals : Locals} {future : Future} {after : Stretch Submit}
    (ran : woken (Monitor.unlocked p) locals future = some after) :
    ∃ p', after.1 = Monitor.unlocked p' ∧
      Step p (.acquiring locals future) .wake p' after.2.1 after.2.2 := by
  have cases_of := p.wake_cases locals.excluded locals.affinityIp future
  simp only [woken, Monitor.critical_unlocked, Option.bind_eq_bind, Option.bind_some] at ran
  generalize p.wake future locals.excluded locals.affinityIp = acquired at cases_of ran
  cases cases_of with
  | granted ip chosen =>
    cases ran
    exact ⟨_, rfl, .served chosen⟩
  | blocked full =>
    cases ran
    exact ⟨_, rfl, .requeued full⟩

theorem reroute_step {p : NodePool} {locals : Locals} {ip : String} {queueMs : Int}
    {result : Except Fault Reply} {exn : Exn} (outcome : send result = .error exn)
    (failure : exn.retryable = true) {after : Stretch Submit}
    (ran : reroute (Monitor.unlocked (p.release ip)) locals ip exn = some after) :
    ∃ p', after.1 = Monitor.unlocked p' ∧
      Step p (.sending locals ip) (.posted queueMs result) p' after.2.1 after.2.2 := by
  unfold reroute at ran
  split at ran
  next last =>
    cases ran
    exact ⟨_, rfl, .exhausted outcome failure last⟩
  next more =>
    cases ran
    exact ⟨_, rfl, .rerouted outcome failure (Nat.lt_of_not_le more)⟩

theorem sent_step {p : NodePool} {locals : Locals} {ip : String} {queueMs : Int}
    {result : Except Fault Reply} {after : Stretch Submit}
    (ran : sent (Monitor.unlocked p) locals ip queueMs (send result) = some after) :
    ∃ p', after.1 = Monitor.unlocked p' ∧
      Step p (.sending locals ip) (.posted queueMs result) p' after.2.1 after.2.2 := by
  cases outcome : send result with
  | ok data =>
    rw [outcome] at ran
    cases ran
    exact ⟨_, rfl, .succeeded outcome⟩
  | error exn =>
    rw [outcome] at ran
    rcases send_error outcome with ⟨message, rfl⟩ | ⟨reply, rfl⟩ | ⟨message, rfl⟩
    · exact reroute_step outcome rfl ran
    · by_cases final : reply.status ∉ RETRYABLE_HTTP_STATUS
      · simp only [sent, Monitor.update_unlocked, Option.bind_eq_bind, Option.bind_some, if_pos final] at ran
        cases ran
        exact ⟨_, rfl, .refused outcome final⟩
      · simp only [sent, Monitor.update_unlocked, Option.bind_eq_bind, Option.bind_some, if_neg final] at ran
        exact reroute_step outcome (decide_eq_true (not_not.mp final)) ran
    · cases ran
      exact ⟨_, rfl, .broken outcome⟩

theorem resume_step {p : NodePool} {st : Submit} {r : Resume} {after : Stretch Submit}
    (ran : resume (Monitor.unlocked p) st r = some after) :
    ∃ p', after.1 = Monitor.unlocked p' ∧ Step p st r p' after.2.1 after.2.2 := by
  cases st with
  | entering locals =>
    cases r with
    | wake => exact loop_step (.first locals) ran
    | cancel => cases ran; exact ⟨_, rfl, .quiet (.unentered locals)⟩
    | _ => cases ran
  | acquiring locals future =>
    cases r with
    | wake => exact woken_step ran
    | cancel => cases ran; exact ⟨_, rfl, .withdrawn locals future⟩
    | _ => cases ran
  | sending locals ip =>
    cases r with
    | posted queueMs result => exact sent_step ran
    | cancel => cases ran; exact ⟨_, rfl, .cancelled locals ip⟩
    | _ => cases ran
  | sleeping locals =>
    cases r with
    | wake => exact loop_step (.again locals) ran
    | cancel => cases ran; exact ⟨_, rfl, .quiet (.awakened locals)⟩
    | _ => cases ran
  | leaving result =>
    cases r with
    | wake => cases ran; exact ⟨_, rfl, .quiet (.left result)⟩
    | cancel => cases ran; exact ⟨_, rfl, .quiet (.cut result)⟩
    | _ => cases ran
  | done result => cases r <;> cases ran

end Submit
end LlamacppRay.Gateway
