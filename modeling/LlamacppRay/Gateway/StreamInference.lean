import LlamacppRay.Gateway.Retry

/-! The streaming dispatcher, an async generator, cut at its suspension points. Closing a
response does not raise by itself, but it can suspend. -/

namespace LlamacppRay.Gateway
open LlamacppRay.Asyncio LlamacppRay.Python

structure StreamLocals extends Locals where
  startedStreaming : Bool

/-- Why the `async with client.stream(...)` block is being left. -/
inductive Exit where
  | returning
  | continuing
  | raising (exn : Exn)

/-- Where a run of `stream_inference` is suspended, with its local variables. -/
inductive Stream where
  /-- In `AsyncClient.__aenter__`. -/
  | entering (locals : StreamLocals)
  /-- In `_cond.wait()` inside `pool.acquire`. -/
  | acquiring (locals : StreamLocals) (future : Future)
  /-- On the way into `client.stream`. -/
  | opening (locals : StreamLocals) (ip : String)
  /-- In `aiter_lines`, with the rest of the body. -/
  | reading (locals : StreamLocals) (ip : String) (lines : List String) (ending : Option Fault)
  /-- At the `yield`. -/
  | yielding (locals : StreamLocals) (ip : String) (lines : List String) (ending : Option Fault)
  /-- In the backoff sleep, inside the response block or in the `except` clause. -/
  | sleeping (locals : StreamLocals) (ip : String) (inResponse : Bool)
  /-- In `response.aclose()`. -/
  | closing (locals : StreamLocals) (ip : String) (exit : Exit)
  /-- In `AsyncClient.__aexit__`, with the result on its way out. -/
  | leaving (result : Except Exn Unit)
  | done (result : Except Exn Unit)

/-- The response as the `HTTPStatusError` of a stream carries it: its body is not read. -/
def Streamed.unread (response : Streamed) : Reply :=
  { response with json := none, text := "" }

def chunkOf (line : String) : String := line ++ "\n\n"

namespace Stream

def start (pool : NodePool) (hash : String → Int) (affinityKey : Option String) : Stream :=
  match affinityIp pool hash affinityKey with
  | some affinityIp => .entering ⟨⟨affinityIp, ∅, 0⟩, false⟩
  | none => .done (.error (.other "integer modulo by zero"))

def loop (pool : Monitor NodePool) (locals : StreamLocals) : Option (Stretch Stream) := do
  let asked := Action.asked locals.excluded locals.affinityIp
  let (pool, result) ← pool.critical fun p => p.acquire locals.excluded locals.affinityIp
  match result with
  | .granted ip => return (pool, .opening locals ip, [asked, .granted ip, .dispatched ip pool.value.port])
  | .busy => return (pool, .leaving (.error poolFull), [asked, .rejected, .stopped])
  | .blocked future => return (pool, .acquiring locals future, [asked, .queued])

def woken (pool : Monitor NodePool) (locals : StreamLocals) (future : Future) : Option (Stretch Stream) := do
  let (pool, result) ← pool.critical fun p => p.wake future locals.excluded locals.affinityIp
  match result with
  | .granted ip => return (pool, .opening locals ip, [.dequeued, .granted ip, .dispatched ip pool.value.port])
  | .busy => return (pool, .leaving (.error poolFull), [.dequeued, .rejected, .stopped])
  | .blocked future => return (pool, .acquiring locals future, [.requeued])

/-- The `except` clauses around the response block. `CancelledError` and `GeneratorExit` are no
subclasses of `Exception`, so they pass both. -/
def caught (pool : Monitor NodePool) (locals : StreamLocals) (ip : String) : Exn → Option (Stretch Stream)
  | .transportError message => do
      let pool ← pool.update fun p => p.release ip
      if locals.startedStreaming then
        return (pool, .leaving (.error (.transportError message)), [.released ip, .stopped])
      else if MAX_RETRIES ≤ locals.attempt then
        return (pool, .leaving (.error (unreachable (.transportError message))), [.released ip, .stopped])
      else
        let pool := pool.modify fun p => p.evict ip
        let locals := { locals with excluded := insert ip locals.excluded }
        return (pool, .sleeping locals ip false,
          [.released ip, .evicted ip, .slept (backoff (tier pool.value locals.excluded) locals.attempt)])
  | exn =>
      if exn.isException then do
        let pool ← pool.update fun p => p.release ip
        return (pool, .leaving (.error exn), [.released ip, .stopped])
      else some (pool, .leaving (.error exn), [.stopped])

def answered (pool : Monitor NodePool) (locals : StreamLocals) (ip : String) (response : Streamed) :
    Option (Stretch Stream) :=
  if response.isError ∧ response.status ∈ RETRYABLE_HTTP_STATUS ∧ locals.attempt < MAX_RETRIES then do
    let pool ← pool.update fun p => p.release ip
    let pool := pool.modify fun p => p.evict ip
    let locals := { locals with excluded := insert ip locals.excluded }
    return (pool, .sleeping locals ip true,
      [.released ip, .evicted ip, .slept (backoff (tier pool.value locals.excluded) locals.attempt)])
  else
    match raiseForStatus response.unread with
    | .error exn => some (pool, .closing locals ip (.raising exn), [])
    | .ok _ => some (pool, .reading locals ip response.lines response.ending, [.answered response.lines])

def lineRead (pool : Monitor NodePool) (locals : StreamLocals) (ip : String) :
    List String → Option Fault → Option (Stretch Stream)
  | line :: lines, ending =>
      if line ≠ "" then
        some (pool, .yielding { locals with startedStreaming := true } ip lines ending, [.yielded (chunkOf line)])
      else some (pool, .reading locals ip lines ending, [])
  | [], some fault => some (pool, .closing locals ip (.raising fault.exn), [])
  | [], none => do
      let pool ← pool.update fun p => p.release ip
      return (pool, .closing locals ip .returning, [.released ip, .stopped])

def closed (pool : Monitor NodePool) (locals : StreamLocals) (ip : String) : Exit → Option (Stretch Stream)
  | .returning => some (pool, .leaving (.ok ()), [])
  | .continuing => loop pool locals
  | .raising exn => caught pool locals ip exn

/-- `attempt += 1` and `continue`, which leaves the response block if the sleep was inside it. -/
def rested (pool : Monitor NodePool) (locals : StreamLocals) (ip : String) (inResponse : Bool) :
    Option (Stretch Stream) :=
  let locals := { locals with attempt := locals.attempt + 1 }
  if inResponse then some (pool, .closing locals ip .continuing, []) else loop pool locals

def interrupted (pool : Monitor NodePool) (locals : StreamLocals) (ip : String) (exn : Exn) :
    Option (Stretch Stream) :=
  some (pool, .closing locals ip (.raising exn), [])

def resume (pool : Monitor NodePool) : Stream → Resume → Option (Stretch Stream)
  | .entering locals, .wake => loop pool locals
  | .entering _, .cancel => some (pool, .done (.error .cancelledError), [.stopped])
  | .acquiring locals future, .wake => woken pool locals future
  | .acquiring _ future, .cancel => do
      let pool ← pool.update fun p => p.cancelWait future
      return (pool, .leaving (.error .cancelledError), [.dequeued, .stopped])
  | .opening locals ip, .opened (.error fault) => caught pool locals ip fault.exn
  | .opening locals ip, .opened (.ok response) => answered pool locals ip response
  | .opening locals ip, .cancel => caught pool locals ip .cancelledError
  | .reading locals ip lines ending, .wake => lineRead pool locals ip lines ending
  | .reading locals ip _ _, .cancel => interrupted pool locals ip .cancelledError
  | .yielding locals ip lines ending, .wake => some (pool, .reading locals ip lines ending, [])
  | .yielding locals ip _ _, .close => interrupted pool locals ip .generatorExit
  | .yielding locals ip _ _, .cancel => interrupted pool locals ip .cancelledError
  | .sleeping locals ip inResponse, .wake => rested pool locals ip inResponse
  | .sleeping locals ip true, .cancel => interrupted pool locals ip .cancelledError
  | .sleeping _ _ false, .cancel => some (pool, .leaving (.error .cancelledError), [.stopped])
  | .closing locals ip exit, .wake => closed pool locals ip exit
  -- the `CancelledError` takes the place of whatever was on its way out
  | .closing _ _ .returning, .cancel => some (pool, .leaving (.error .cancelledError), [])
  | .closing _ _ _, .cancel => some (pool, .leaving (.error .cancelledError), [.stopped])
  | .leaving result, .wake => some (pool, .done result, [])
  | .leaving _, .cancel => some (pool, .done (.error .cancelledError), [])
  | _, _ => none

theorem start_cases {motive : Stream → Prop}
    (entering : ∀ affinityIp, motive (.entering ⟨⟨affinityIp, ∅, 0⟩, false⟩))
    (failed : ∀ exn, motive (.done (.error exn))) (pool : NodePool) (hash : String → Int)
    (affinityKey : Option String) : motive (start pool hash affinityKey) := by
  unfold start
  split
  · exact entering _
  · exact failed _

/-! ### What one stretch can do -/

inductive AtHead : Stream → Resume → StreamLocals → Prop
  | first (locals : StreamLocals) : AtHead (.entering locals) .wake locals
  | again (locals : StreamLocals) (ip : String) :
      AtHead (.sleeping locals ip false) .wake { locals with attempt := locals.attempt + 1 }
  | left (locals : StreamLocals) (ip : String) :
      AtHead (.closing locals ip .continuing) .wake locals

inductive Raises : Stream → Resume → StreamLocals → String → Exn → Prop
  | unopened (locals : StreamLocals) (ip : String) (fault : Fault) :
      Raises (.opening locals ip) (.opened (.error fault)) locals ip fault.exn
  | cancelled (locals : StreamLocals) (ip : String) :
      Raises (.opening locals ip) .cancel locals ip .cancelledError
  | closed (locals : StreamLocals) (ip : String) (exn : Exn) :
      Raises (.closing locals ip (.raising exn)) .wake locals ip exn

inductive Interrupts : Stream → Resume → StreamLocals → String → Exn → Prop
  | reading (locals : StreamLocals) (ip : String) (lines : List String) (ending : Option Fault) :
      Interrupts (.reading locals ip lines ending) .cancel locals ip .cancelledError
  | closed (locals : StreamLocals) (ip : String) (lines : List String) (ending : Option Fault) :
      Interrupts (.yielding locals ip lines ending) .close locals ip .generatorExit
  | thrown (locals : StreamLocals) (ip : String) (lines : List String) (ending : Option Fault) :
      Interrupts (.yielding locals ip lines ending) .cancel locals ip .cancelledError
  | asleep (locals : StreamLocals) (ip : String) :
      Interrupts (.sleeping locals ip true) .cancel locals ip .cancelledError

inductive Quiet : Stream → Resume → Stream → List Action → Prop
  | unentered (locals : StreamLocals) :
      Quiet (.entering locals) .cancel (.done (.error .cancelledError)) [.stopped]
  | awakened (locals : StreamLocals) (ip : String) :
      Quiet (.sleeping locals ip false) .cancel (.leaving (.error .cancelledError)) [.stopped]
  | continued (locals : StreamLocals) (ip : String) :
      Quiet (.sleeping locals ip true) .wake
        (.closing { locals with attempt := locals.attempt + 1 } ip .continuing) []
  | returned (locals : StreamLocals) (ip : String) :
      Quiet (.closing locals ip .returning) .wake (.leaving (.ok ())) []
  | overtaken (locals : StreamLocals) (ip : String) :
      Quiet (.closing locals ip .returning) .cancel (.leaving (.error .cancelledError)) []
  | dropped (locals : StreamLocals) (ip : String) :
      Quiet (.closing locals ip .continuing) .cancel (.leaving (.error .cancelledError)) [.stopped]
  | left (result : Except Exn Unit) : Quiet (.leaving result) .wake (.done result) []
  | cut (result : Except Exn Unit) :
      Quiet (.leaving result) .cancel (.done (.error .cancelledError)) []

/-- Everything a stretch of `stream_inference` can do to the pool and to the call. -/
inductive Step (p : NodePool) : Stream → Resume → NodePool → Stream → List Action → Prop
  | granted {st : Stream} {r : Resume} {locals : StreamLocals} {ip : String}
      (head : AtHead st r locals) (chosen : p.choose (p.candidates locals.excluded) locals.affinityIp = some ip) :
      Step p st r (p.occupy ip) (.opening locals ip)
        [.asked locals.excluded locals.affinityIp, .granted ip, .dispatched ip p.port]
  | rejected {st : Stream} {r : Resume} {locals : StreamLocals} (head : AtHead st r locals)
      (full : p.candidates locals.excluded = []) (queue : p.maxQueued ≤ p.waiting) :
      Step p st r p (.leaving (.error poolFull))
        [.asked locals.excluded locals.affinityIp, .rejected, .stopped]
  | queued {st : Stream} {r : Resume} {locals : StreamLocals} (head : AtHead st r locals)
      (full : p.candidates locals.excluded = []) (queue : p.waiting < p.maxQueued) :
      Step p st r p.enqueue.park (.acquiring locals p.cond.fresh)
        [.asked locals.excluded locals.affinityIp, .queued]
  | served {locals : StreamLocals} {future : Future} {ip : String}
      (chosen : p.choose (p.candidates locals.excluded) locals.affinityIp = some ip) :
      Step p (.acquiring locals future) .wake ((p.cancelWait future).occupy ip) (.opening locals ip)
        [.dequeued, .granted ip, .dispatched ip p.port]
  | requeued {locals : StreamLocals} {future : Future} (full : p.candidates locals.excluded = []) :
      Step p (.acquiring locals future) .wake (p.unpark future).park
        (.acquiring locals p.cond.fresh) [.requeued]
  | withdrawn (locals : StreamLocals) (future : Future) :
      Step p (.acquiring locals future) .cancel (p.cancelWait future) (.leaving (.error .cancelledError))
        [.dequeued, .stopped]
  | accepted {locals : StreamLocals} {ip : String} {response : Streamed}
      (success : response.isSuccess = true) :
      Step p (.opening locals ip) (.opened (.ok response)) p
        (.reading locals ip response.lines response.ending) [.answered response.lines]
  | refused {locals : StreamLocals} {ip : String} {response : Streamed}
      (failure : response.isSuccess = false)
      (final : ¬(response.isError = true ∧ response.status ∈ RETRYABLE_HTTP_STATUS ∧ locals.attempt < MAX_RETRIES)) :
      Step p (.opening locals ip) (.opened (.ok response)) p
        (.closing locals ip (.raising (.httpStatusError response.unread))) []
  | turned {locals : StreamLocals} {ip : String} {response : Streamed}
      (failure : response.isError = true) (status : response.status ∈ RETRYABLE_HTTP_STATUS)
      (more : locals.attempt < MAX_RETRIES) :
      Step p (.opening locals ip) (.opened (.ok response)) ((p.release ip).evict ip)
        (.sleeping { locals with excluded := insert ip locals.excluded } ip true)
        [.released ip, .evicted ip,
          .slept (backoff (tier ((p.release ip).evict ip) (insert ip locals.excluded)) locals.attempt)]
  | line {locals : StreamLocals} {ip text : String} {lines : List String} {ending : Option Fault}
      (something : text ≠ "") :
      Step p (.reading locals ip (text :: lines) ending) .wake p
        (.yielding { locals with startedStreaming := true } ip lines ending) [.yielded (chunkOf text)]
  | blank {locals : StreamLocals} {ip : String} {lines : List String} {ending : Option Fault} :
      Step p (.reading locals ip ("" :: lines) ending) .wake p (.reading locals ip lines ending) []
  | pulled {locals : StreamLocals} {ip : String} {lines : List String} {ending : Option Fault} :
      Step p (.yielding locals ip lines ending) .wake p (.reading locals ip lines ending) []
  | finished {locals : StreamLocals} {ip : String} :
      Step p (.reading locals ip [] none) .wake (p.release ip) (.closing locals ip .returning)
        [.released ip, .stopped]
  | severed {locals : StreamLocals} {ip : String} {fault : Fault} :
      Step p (.reading locals ip [] (some fault)) .wake p (.closing locals ip (.raising fault.exn)) []
  | rethrown {st : Stream} {r : Resume} {locals : StreamLocals} {ip : String} {exn : Exn}
      (raises : Raises st r locals ip exn) (caught : exn.isException = true)
      (final : (∀ message, exn ≠ .transportError message) ∨ locals.startedStreaming = true) :
      Step p st r (p.release ip) (.leaving (.error exn)) [.released ip, .stopped]
  | exhausted {st : Stream} {r : Resume} {locals : StreamLocals} {ip message : String}
      (raises : Raises st r locals ip (.transportError message))
      (silent : locals.startedStreaming = false) (last : MAX_RETRIES ≤ locals.attempt) :
      Step p st r (p.release ip) (.leaving (.error (unreachable (.transportError message))))
        [.released ip, .stopped]
  | rerouted {st : Stream} {r : Resume} {locals : StreamLocals} {ip message : String}
      (raises : Raises st r locals ip (.transportError message))
      (silent : locals.startedStreaming = false) (more : locals.attempt < MAX_RETRIES) :
      Step p st r ((p.release ip).evict ip)
        (.sleeping { locals with excluded := insert ip locals.excluded } ip false)
        [.released ip, .evicted ip,
          .slept (backoff (tier ((p.release ip).evict ip) (insert ip locals.excluded)) locals.attempt)]
  | escaped {st : Stream} {r : Resume} {locals : StreamLocals} {ip : String} {exn : Exn}
      (raises : Raises st r locals ip exn) (uncaught : exn.isException = false) :
      Step p st r p (.leaving (.error exn)) [.stopped]
  | interrupted {st : Stream} {r : Resume} {locals : StreamLocals} {ip : String} {exn : Exn}
      (interrupts : Interrupts st r locals ip exn) :
      Step p st r p (.closing locals ip (.raising exn)) []
  | superseded {locals : StreamLocals} {ip : String} {exn : Exn} :
      Step p (.closing locals ip (.raising exn)) .cancel p (.leaving (.error .cancelledError)) [.stopped]
  | quiet {st next : Stream} {r : Resume} {actions : List Action}
      (moves : Quiet st r next actions) :
      Step p st r p next actions

theorem Raises.of_transport {st : Stream} {r : Resume} {locals : StreamLocals} {ip message : String}
    (raises : Raises st r locals ip (.transportError message)) :
    (st = .opening locals ip ∧ r = .opened (.error (.transport message))) ∨
      (st = .closing locals ip (.raising (.transportError message)) ∧ r = .wake) := by
  generalize same : Exn.transportError message = exn at raises
  cases raises with
  | unopened locals ip fault =>
    cases fault with
    | transport text => cases same; exact Or.inl ⟨rfl, rfl⟩
    | other text => cases same
  | cancelled => cases same
  | closed => exact Or.inr ⟨rfl, rfl⟩

theorem loop_step {p : NodePool} {st : Stream} {r : Resume} {locals : StreamLocals}
    (head : AtHead st r locals) {after : Stretch Stream}
    (ran : loop (Monitor.unlocked p) locals = some after) :
    ∃ p', after.1 = Monitor.unlocked p' ∧ Step p st r p' after.2.1 after.2.2 := by
  have cases_of := p.acquire_cases locals.excluded locals.affinityIp
  simp only [loop, Monitor.critical_unlocked, Option.bind_eq_bind, Option.bind_some] at ran
  generalize p.acquire locals.excluded locals.affinityIp = acquired at cases_of ran
  cases cases_of with
  | granted ip chosen =>
    cases ran
    exact ⟨_, rfl, .granted head chosen⟩
  | busy full queue =>
    cases ran
    exact ⟨_, rfl, .rejected head full queue⟩
  | blocked full queue =>
    cases ran
    exact ⟨_, rfl, .queued head full queue⟩

theorem woken_step {p : NodePool} {locals : StreamLocals} {future : Future} {after : Stretch Stream}
    (ran : woken (Monitor.unlocked p) locals future = some after) :
    ∃ p', after.1 = Monitor.unlocked p' ∧
      Step p (.acquiring locals future) .wake p' after.2.1 after.2.2 := by
  have cases_of := p.wake_cases locals.excluded locals.affinityIp future
  simp only [woken, Monitor.critical_unlocked, Option.bind_eq_bind, Option.bind_some] at ran
  generalize p.wake future locals.excluded locals.affinityIp = acquired at cases_of ran
  cases cases_of with
  | granted ip chosen =>
    cases ran
    exact ⟨_, rfl, .served chosen⟩
  | blocked full =>
    cases ran
    exact ⟨_, rfl, .requeued full⟩

theorem passed_step {p : NodePool} {st : Stream} {r : Resume} {locals : StreamLocals} {ip : String}
    {exn : Exn} (raises : Raises st r locals ip exn)
    (other : ∀ message, exn ≠ .transportError message) {after : Stretch Stream}
    (ran : caught (Monitor.unlocked p) locals ip exn = some after) :
    ∃ p', after.1 = Monitor.unlocked p' ∧ Step p st r p' after.2.1 after.2.2 := by
  cases exn with
  | transportError message => exact absurd rfl (other message)
  | httpStatusError reply => cases ran; exact ⟨_, rfl, .rethrown raises rfl (Or.inl other)⟩
  | httpException status detail => cases ran; exact ⟨_, rfl, .rethrown raises rfl (Or.inl other)⟩
  | other message => cases ran; exact ⟨_, rfl, .rethrown raises rfl (Or.inl other)⟩
  | cancelledError => cases ran; exact ⟨_, rfl, .escaped raises rfl⟩
  | generatorExit => cases ran; exact ⟨_, rfl, .escaped raises rfl⟩

theorem caught_step {p : NodePool} {st : Stream} {r : Resume} {locals : StreamLocals} {ip : String}
    {exn : Exn} (raises : Raises st r locals ip exn) {after : Stretch Stream}
    (ran : caught (Monitor.unlocked p) locals ip exn = some after) :
    ∃ p', after.1 = Monitor.unlocked p' ∧ Step p st r p' after.2.1 after.2.2 := by
  cases exn with
  | transportError message =>
    simp only [caught, Monitor.update_unlocked, Option.bind_eq_bind, Option.bind_some] at ran
    by_cases started : locals.startedStreaming = true
    · rw [if_pos started] at ran
      cases ran
      exact ⟨_, rfl, .rethrown raises rfl (Or.inr started)⟩
    · have silent : locals.startedStreaming = false := Bool.eq_false_iff.mpr started
      rw [if_neg started] at ran
      split at ran
      next last =>
        cases ran
        exact ⟨_, rfl, .exhausted raises silent last⟩
      next more =>
        cases ran
        exact ⟨_, rfl, .rerouted raises silent (Nat.lt_of_not_le more)⟩
  | _ => exact passed_step raises (by intro _ same; cases same) ran

theorem answered_step {p : NodePool} {locals : StreamLocals} {ip : String} {response : Streamed}
    {after : Stretch Stream} (ran : answered (Monitor.unlocked p) locals ip response = some after) :
    ∃ p', after.1 = Monitor.unlocked p' ∧
      Step p (.opening locals ip) (.opened (.ok response)) p' after.2.1 after.2.2 := by
  unfold answered at ran
  split at ran
  next retry =>
    cases ran
    exact ⟨_, rfl, .turned retry.1 retry.2.1 retry.2.2⟩
  next final =>
    cases success : response.isSuccess with
    | true =>
      have raised : raiseForStatus response.unread = .ok () := if_pos success
      simp only [raised] at ran
      cases ran
      exact ⟨_, rfl, .accepted success⟩
    | false =>
      have raised : raiseForStatus response.unread = .error (.httpStatusError response.unread) :=
        if_neg (Bool.eq_false_iff.mp success)
      simp only [raised] at ran
      cases ran
      exact ⟨_, rfl, .refused success final⟩

theorem lineRead_step {p : NodePool} {locals : StreamLocals} {ip : String} {lines : List String}
    {ending : Option Fault} {after : Stretch Stream}
    (ran : lineRead (Monitor.unlocked p) locals ip lines ending = some after) :
    ∃ p', after.1 = Monitor.unlocked p' ∧
      Step p (.reading locals ip lines ending) .wake p' after.2.1 after.2.2 := by
  cases lines with
  | cons text lines =>
    by_cases nothing : text = ""
    · subst nothing
      cases ran
      exact ⟨_, rfl, .blank⟩
    · simp only [lineRead, ne_eq, nothing, not_false_eq_true, ↓reduceIte] at ran
      cases ran
      exact ⟨_, rfl, .line nothing⟩
  | nil =>
    cases ending with
    | some fault => cases ran; exact ⟨_, rfl, .severed⟩
    | none => cases ran; exact ⟨_, rfl, .finished⟩

theorem resume_step {p : NodePool} {st : Stream} {r : Resume} {after : Stretch Stream}
    (ran : resume (Monitor.unlocked p) st r = some after) :
    ∃ p', after.1 = Monitor.unlocked p' ∧ Step p st r p' after.2.1 after.2.2 := by
  cases st with
  | entering locals =>
    cases r with
    | wake => exact loop_step (.first locals) ran
    | cancel => cases ran; exact ⟨_, rfl, .quiet (.unentered locals)⟩
    | _ => cases ran
  | acquiring locals future =>
    cases r with
    | wake => exact woken_step ran
    | cancel => cases ran; exact ⟨_, rfl, .withdrawn locals future⟩
    | _ => cases ran
  | opening locals ip =>
    cases r with
    | opened result =>
      cases result with
      | error fault => exact caught_step (.unopened locals ip fault) ran
      | ok response => exact answered_step ran
    | cancel => exact caught_step (.cancelled locals ip) ran
    | _ => cases ran
  | reading locals ip lines ending =>
    cases r with
    | wake => exact lineRead_step ran
    | cancel => cases ran; exact ⟨_, rfl, .interrupted (.reading locals ip lines ending)⟩
    | _ => cases ran
  | yielding locals ip lines ending =>
    cases r with
    | wake => cases ran; exact ⟨_, rfl, .pulled⟩
    | cancel => cases ran; exact ⟨_, rfl, .interrupted (.thrown locals ip lines ending)⟩
    | close => cases ran; exact ⟨_, rfl, .interrupted (.closed locals ip lines ending)⟩
    | _ => cases ran
  | sleeping locals ip inResponse =>
    cases inResponse with
    | true =>
      cases r with
      | wake => cases ran; exact ⟨_, rfl, .quiet (.continued locals ip)⟩
      | cancel => cases ran; exact ⟨_, rfl, .interrupted (.asleep locals ip)⟩
      | _ => cases ran
    | false =>
      cases r with
      | wake => exact loop_step (.again locals ip) ran
      | cancel => cases ran; exact ⟨_, rfl, .quiet (.awakened locals ip)⟩
      | _ => cases ran
  | closing locals ip exit =>
    cases r with
    | wake =>
      cases exit with
      | returning => cases ran; exact ⟨_, rfl, .quiet (.returned locals ip)⟩
      | continuing => exact loop_step (.left locals ip) ran
      | raising exn => exact caught_step (.closed locals ip exn) ran
    | cancel =>
      cases exit with
      | returning => cases ran; exact ⟨_, rfl, .quiet (.overtaken locals ip)⟩
      | continuing => cases ran; exact ⟨_, rfl, .quiet (.dropped locals ip)⟩
      | raising exn => cases ran; exact ⟨_, rfl, .superseded⟩
    | _ => cases ran
  | leaving result =>
    cases r with
    | wake => cases ran; exact ⟨_, rfl, .quiet (.left result)⟩
    | cancel => cases ran; exact ⟨_, rfl, .quiet (.cut result)⟩
    | _ => cases ran
  | done result => cases r <;> cases ran

end Stream
end LlamacppRay.Gateway
