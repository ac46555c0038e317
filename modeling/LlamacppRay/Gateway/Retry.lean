import LlamacppRay.Gateway.NodePool
import LlamacppRay.Python.Json

/-! What both dispatchers of the router share: the retry taxonomy, the outcomes a backend can
produce, the local variables of the retry loop and the actions a call performs. -/

namespace LlamacppRay.Gateway
open LlamacppRay.Asyncio LlamacppRay.Python

/-! ### Retry limits and backoff schedules -/

def MAX_RETRIES : Nat := 5

structure Schedule where
  seconds : List ℚ
  nonempty : 0 < seconds.length

def FAST_REROUTE_BACKOFFS_SECONDS : Schedule := ⟨[1/2, 3/2], by decide⟩
def POOL_EXHAUSTED_BACKOFFS_SECONDS : Schedule := ⟨[1, 15, 30, 60, 120], by decide⟩

def RETRYABLE_HTTP_STATUS : List Int := [500, 502, 503, 504]

def backoff (schedule : Schedule) (attempt : Nat) : ℚ :=
  schedule.seconds.get ⟨min attempt (schedule.seconds.length - 1), by
    have := schedule.nonempty
    omega⟩

/-! ### Backend outcomes and exceptions -/

structure Response where
  status : Int
  /-- The text of the `HTTPStatusError` httpx builds for this response. -/
  message : String

/-- A response whose body has been read. `json` is its decoded body, if it decodes. -/
structure Reply extends Response where
  json : Option Json
  text : String

/-- What httpx and orjson raise while a request is sent or a response is read. -/
inductive Fault where
  | transport (message : String)
  | other (message : String)

/-- A response whose body is read line by line; `ending` is the fault that breaks it off, if any. -/
structure Streamed extends Response where
  lines : List String
  ending : Option Fault

def Response.isSuccess (response : Response) : Bool := 200 ≤ response.status && response.status ≤ 299
def Response.isError (response : Response) : Bool := 400 ≤ response.status && response.status ≤ 599

theorem Response.isError_of_retryable {response : Response}
    (listed : response.status ∈ RETRYABLE_HTTP_STATUS) :
    response.isError = true ∧ response.isSuccess = false := by
  simp only [RETRYABLE_HTTP_STATUS, List.mem_cons, List.not_mem_nil, or_false] at listed
  simp only [Response.isError, Response.isSuccess, Bool.and_eq_true, Bool.and_eq_false_iff, decide_eq_true_eq,
    decide_eq_false_iff_not]
  omega

inductive Exn where
  | transportError (message : String)
  | httpStatusError (response : Reply)
  | httpException (statusCode : Int) (detail : Json)
  | other (message : String)
  | cancelledError
  | generatorExit

def Fault.exn : Fault → Exn
  | .transport message => .transportError message
  | .other message => .other message

/-- Whether `except Exception` catches it. -/
def Exn.isException : Exn → Bool
  | .cancelledError | .generatorExit => false
  | _ => true

theorem Exn.ne_transport_of_uncaught {exn : Exn} (uncaught : exn.isException = false) (message : String) :
    exn ≠ .transportError message := by
  rintro rfl
  cases uncaught

def Exn.text : Exn → String
  | .transportError message | .other message => message
  | .httpStatusError response => response.message
  | _ => ""

def Exn.retryable : Exn → Bool
  | .transportError _ => true
  | .httpStatusError response => response.status ∈ RETRYABLE_HTTP_STATUS
  | _ => false

def raiseForStatus (reply : Reply) : Except Exn Unit :=
  if reply.isSuccess then .ok () else .error (.httpStatusError reply)

/-- The detail `HTTPException` keeps: without one it looks the phrase of its status up. -/
def httpDetail (statusCode : Int) : Json → Option Json
  | .null => (httpPhrase statusCode).map Json.str
  | detail => some detail

/-- `HTTPException(status_code, detail)`; looking the phrase up can raise a `ValueError` instead. -/
def httpException (statusCode : Int) (detail : Json) : Exn :=
  match httpDetail statusCode detail with
  | some detail => .httpException statusCode detail
  | none => .other (toString statusCode ++ " is not a valid HTTPStatus")

theorem httpException_of_detail {statusCode : Int} {detail kept : Json}
    (known : httpDetail statusCode detail = some kept) :
    httpException statusCode detail = .httpException statusCode kept := by
  rw [httpException, known]

theorem httpException_of_unknown {statusCode : Int} {detail : Json} (unknown : httpDetail statusCode detail = none) :
    ∃ message, httpException statusCode detail = .other message := by
  rw [httpException, unknown]
  exact ⟨_, rfl⟩

theorem retryable_httpException (statusCode : Int) (detail : Json) :
    (httpException statusCode detail).retryable = false := by
  unfold httpException
  split
  · rfl
  · rfl

theorem detail_of_httpException {statusCode other : Int} {detail kept : Json}
    (same : httpException statusCode detail = .httpException other kept) :
    statusCode = other ∧ httpDetail statusCode detail = some kept := by
  cases known : httpDetail statusCode detail with
  | some shown =>
    rw [httpException_of_detail known] at same
    cases same
    exact ⟨rfl, rfl⟩
  | none =>
    obtain ⟨message, named⟩ := httpException_of_unknown known
    rw [named] at same
    cases same

def poolFull : Exn :=
  .httpException 503 (.obj [("error", .str "Inference pool is full, please retry shortly")])

def unreachable (cause : Exn) : Exn :=
  .httpException 503 (.obj [("error", .str ("Unable to reach inference backend: " ++ cause.text))])

/-! ### The state of a call between two suspensions -/

structure Locals where
  affinityIp : Option String
  excluded : Finset String
  attempt : Nat

inductive Resume where
  /-- The awaited thing is over; for a consumer of a generator, the next item is asked for. -/
  | wake
  /-- `client.post` is over. The clock readings around `acquire` come in as `queueMs`. -/
  | posted (queueMs : Int) (result : Except Fault Reply)
  /-- `client.stream` has been entered or has failed to. -/
  | opened (result : Except Fault Streamed)
  /-- The task is cancelled. -/
  | cancel
  /-- The generator is closed. -/
  | close

inductive Action where
  | asked (exclude : Finset String) (affinityIp : Option String)
  | queued
  | requeued
  | dequeued
  | granted (ip : String)
  | rejected
  | dispatched (ip : String) (port : Int)
  | answered (lines : List String)
  | yielded (chunk : String)
  | released (ip : String)
  | evicted (ip : String)
  | slept (seconds : ℚ)
  | stopped
  deriving DecidableEq

/-- Where an uninterrupted stretch of a call has left the pool and the call, and what it did.
A function returns none where the call cannot be resumed that way or would have to wait for the
lock of the pool. -/
abbrev Stretch (Point : Type) := Monitor NodePool × Point × List Action

def affinityIp (pool : NodePool) (hash : String → Int) (affinityKey : Option String) : Option (Option String) :=
  match affinityKey with
  | none => some none
  | some key => if key = "" then some none else pool.affinityNode (hash key)

def tier (pool : NodePool) (excluded : Finset String) : Schedule :=
  if pool.hasAlternate excluded then FAST_REROUTE_BACKOFFS_SECONDS else POOL_EXHAUSTED_BACKOFFS_SECONDS

end LlamacppRay.Gateway
