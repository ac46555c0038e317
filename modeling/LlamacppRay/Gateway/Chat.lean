import LlamacppRay.Python.Program
import LlamacppRay.Gateway.Accounts
import LlamacppRay.Gateway.RateLimiter

/-! The chat handler and its event stream. What the rate limiter, the router, the database and the
clock answer are inputs of a request; what the handler does to counters, to the request log and to
the client is emitted, with a mark at every await that can suspend it. -/

namespace LlamacppRay.Gateway.Chat
open LlamacppRay.Python

def MODEL_ALIAS : String := "ongc-llm"

/-! ### Requests -/

inductive Content where
  | text (value : String)
  | parts (parts : List (List (String × Json)))

structure ChatMessage where
  role : String
  content : Content

def isStr (value : Option Json) (text : String) : Bool :=
  match value with
  | some (.str other) => other = text
  | _ => false

def isTextPart (part : List (String × Json)) : Bool := isStr (Json.member part "type") "text"

def partText (part : List (String × Json)) : Json := (Json.member part "text").getD (.str "")

def partSize (part : List (String × Json)) : Nat :=
  match partText part with
  | .str text => text.length
  | _ => 0

def Content.size : Content → Nat
  | .text value => value.length
  | .parts listed => (listed.map partSize).sum

/-- The fields of a request the handler itself reads, and the caller behind it. Its texts have been cut out of
one body, which is a single `bytes` object. -/
structure Request where
  user : User
  apiKeyPrefix : Option String
  messages : List ChatMessage
  stream : Bool
  sessionAffinity : Bool
  addressable : (messages.map fun message => message.content.size).sum ≤ MAXSIZE

/-- What `json.loads` raises; the last two stand for integers of too many digits and for documents that are
nested too deeply. -/
inductive LoadsError where
  | jsonDecodeError
  | valueError
  | recursionError

/-- What the Python library and the settings supply. -/
structure Platform where
  controllerNodeIp : String
  /-- `json.loads` -/
  loads : String → Except LoadsError Json
  /-- `json.dumps` of a document that has been decoded before. -/
  dumps : Json → String
  /-- Whether `JSONResponse(content)` can write the content down. -/
  serialisable : Json → Bool
  /-- `int` of a float and of a text; none is a `ValueError`. -/
  intOfFloat : String → Option Int
  intOfStr : String → Option Int
  /-- `str` of a label value that is no text. -/
  labelOf : Json → String
  errText : Exn → String

def attributeError : Exn := .other "AttributeError"
def typeError : Exn := .other "TypeError"
def valueError : Exn := .other "ValueError"
def overflowError : Exn := .other "OverflowError"

def LoadsError.exn : LoadsError → Exn
  | .jsonDecodeError => .other "JSONDecodeError"
  | .valueError => Chat.valueError
  | .recursionError => .other "RecursionError"

def isMultimodalRequest (messages : List ChatMessage) : Bool :=
  messages.any fun message =>
    match message.content with
    | .text _ => false
    | .parts parts => parts.any fun part =>
        isStr (Json.member part "type") "image_url" || isStr (Json.member part "type") "image"

def Request.requestType (request : Request) : String :=
  if isMultimodalRequest request.messages then "multimodal" else "text"

def Request.rateCall (request : Request) (now served : ℚ) : RateCall :=
  { userId := request.user.id
    pool := request.requestType
    limit := if isMultimodalRequest request.messages then MULTIMODAL_RATE_LIMIT else TEXT_RATE_LIMIT
    now := now
    served := served }

/-! ### Token estimates and previews -/

def partTokens (part : List (String × Json)) : Except Exn Nat :=
  if isTextPart part then
    match partText part with
    | .str text => .ok (words text).length
    | _ => .error attributeError
  else .ok 0

def messageTokens (message : ChatMessage) : Except Exn Nat :=
  match message.content with
  | .text value => .ok (words value).length
  | .parts parts => do return (← parts.mapM partTokens).sum

def estimatePromptTokens (messages : List ChatMessage) : Except Exn Int := do
  return max 1 ((← messages.mapM messageTokens).sum : Int)

def joinable : Json → Except Exn String
  | .str text => .ok text
  | _ => .error typeError

def messagePreview (message : ChatMessage) : Except Exn String :=
  match message.content with
  | .text value => .ok ("[" ++ message.role ++ "]: " ++ value)
  | .parts parts => do
    let texts ← (parts.filter isTextPart).mapM fun part => joinable (partText part)
    return "[" ++ message.role ++ "]: " ++ String.join texts

def buildRequestPreview (messages : List ChatMessage) (full : Bool) : Except Exn String := do
  let combined := String.intercalate "\n" (← messages.mapM messagePreview)
  return if full then combined else take 500 combined

def orRaise {α : Type} (exc : Exn) : Option α → Except Exn α
  | some value => .ok value
  | none => .error exc

def cut : Json → Except Exn Json
  | .str text => .ok (.str (take 500 text))
  | .arr elements => .ok (.arr (elements.take 500))
  | _ => .error typeError

def choicePreview (choice : Json) : Except Exn Json := do
  match choice with
  | .obj members =>
    match (Json.member members "message").getD (.obj []) with
    | .obj message =>
      let stored := (Json.member message "content").getD .null
      let content := if stored.truthy then stored else .str ""
      let shown := Json.setMember (message.filter fun entry => entry.1 ≠ "content") "content_preview" (← cut content)
      return .obj (Json.setMember (members.filter fun entry => entry.1 ≠ "message") "message" (.obj shown))
    | _ => .error attributeError
  | _ => .error attributeError

def buildSuccessResponsePreview (platform : Platform) (result : Json) : Except Exn String := do
  match result with
  | .obj members =>
    let choices ← orRaise typeError ((Json.member members "choices").getD (.arr [])).iterate
    let preview ← choices.mapM choicePreview
    return platform.dumps
      (.obj (Json.setMember (members.filter fun entry => entry.1 ≠ "choices") "choices" (.arr preview)))
  | _ => .error attributeError

/-! ### The backend's answers -/

/-- `message.pop("reasoning_content", None)`, which becomes the content where there is none. -/
def normalizeMessage (message : List (String × Json)) : List (String × Json) :=
  let rest := message.filter fun entry => entry.1 ≠ "reasoning_content"
  let reasoning := (Json.member message "reasoning_content").getD .null
  let content := (Json.member rest "content").getD .null
  if reasoning.truthy && !content.truthy then Json.setMember rest "content" reasoning else rest

def normalizeChoice : Json → Except Exn Json
  | .obj members =>
    match Json.member members "message" with
    | some (.obj message) => .ok (.obj (Json.setMember members "message" (.obj (normalizeMessage message))))
    | _ => .ok (.obj members)
  | _ => .error attributeError

def normalizeCompletionResponse (result : Json) : Except Exn Json := do
  let result ← orRaise typeError (result.setItem "model" (.str MODEL_ALIAS))
  let choices ← orRaise attributeError (result.get "choices" (.arr []))
  let elements ← orRaise typeError choices.iterate
  let updated ← elements.mapM normalizeChoice
  -- The choices are changed in place; the default of `get` is no part of the result.
  match result.get "choices" .null with
  | some (.arr _) => orRaise typeError (result.setItem "choices" (.arr updated))
  | _ => return result

def rewriteSseModel (platform : Platform) (line : String) : Except Exn String :=
  if !("data: ".toList.isPrefixOf line.toList) || line = "data: [DONE]" then .ok line
  else
    match platform.loads (String.ofList (line.toList.drop 6)) with
    | .error .jsonDecodeError => .ok line
    | .error uncaught => .error uncaught.exn
    | .ok chunk => do
      return "data: " ++ platform.dumps (← orRaise typeError (chunk.setItem "model" (.str MODEL_ALIAS)))

def toInt (platform : Platform) : Json → Except Exn Int
  | .int value => .ok value
  | .bool value => .ok (if value then 1 else 0)
  | .float text => orRaise valueError (platform.intOfFloat text)
  | .str text => orRaise valueError (platform.intOfStr text)
  | _ => .error typeError

/-- `int(document.get(key, default))` -/
def intMember (platform : Platform) (document : Json) (key : String) (default : Int) : Except Exn Int := do
  toInt platform (← orRaise attributeError (document.get key (.int default)))

/-! ### What a request does -/

structure CountLabels where
  model : String
  statusCode : String
  streaming : String
  username : String
  nodeIp : String
  deriving DecidableEq

structure LatencyLabels where
  model : String
  username : String
  nodeIp : String
  deriving DecidableEq

structure TokenLabels where
  model : String
  username : String
  requestType : String
  deriving DecidableEq

/-- A row of `request_logs`; `nodeIp` is whatever the backend put there. -/
structure RequestLog where
  userId : Int
  apiKeyPrefix : Option String
  model : String
  nodeIp : Json
  promptTokens : Int
  completionTokens : Int
  latencyMs : Int
  queueMs : Int
  statusCode : Int
  errorMessage : Option String
  streaming : Bool
  requestType : String
  requestPreview : String
  responsePreview : String

inductive Emission where
  /-- An await at which other tasks can run. -/
  | suspended
  /-- The rate-limit check is behind the request. -/
  | checked
  /-- The inference of the request is over. -/
  | finished
  | activeInc
  | activeDec
  | rateLimited (requestType : String)
  | queueRejected (requestType : String)
  | requestCount (labels : CountLabels)
  | latency (labels : LatencyLabels) (ms : Int)
  | promptTokens (labels : TokenLabels) (amount : Int)
  | completionTokens (labels : TokenLabels) (amount : Int)
  /-- The third counter is declared beside the other two. -/
  | totalTokens (labels : TokenLabels) (amount : Int)
  | asked (affinityKey : Option String) (multimodal : Bool)
  | row (row : RequestLog)
  | logged (message : String)
  /-- What the client sees: the status line, the body and the end of the response. -/
  | status (code : Int)
  | body (content : Json)
  | plainBody (text : String)
  | chunk (text : String)
  | ended (normally : Bool)

abbrev Handling := Program Emission Exn

/-- How the rate limiter answers; a Redis error is ignored by the handler. -/
inductive RateCheck where
  | passed
  | rejected (exc : HTTPException)
  | unavailable
  | cancelled

def RateCheck.ofCall : Except HTTPException Unit → RateCheck
  | .ok _ => .passed
  | .error exc => .rejected exc

def RateCheck.passes : RateCheck → Bool
  | .passed | .unavailable => true
  | _ => false

inductive Site where
  | rateLimited
  | streamed
  | success
  | httpError
  | failure
  deriving DecidableEq

/-- What surrounds one request. `stream` are the chunks that are taken from `stream_inference` and
how that ends, if the body of the response is ever started; `writes` is what a write raises. -/
structure Environment where
  check : RateCheck
  submit : Except Exn Json
  stream : Option (List String × Except Exn Unit)
  writes : Site → Option Exn
  latencyMs : Site → Int

/-- What the handler returns; a stream keeps the `prompt_tokens` of the handler. -/
inductive Answer where
  | json (result : Json)
  | stream (promptTokens : Int)

variable (platform : Platform) (env : Environment) (request : Request)

def lower (flag : Bool) : String := if flag then "true" else "false"

def countLabels (statusCode : Int) (streaming nodeIp : String) : CountLabels :=
  { model := MODEL_ALIAS, statusCode := toString statusCode, streaming := streaming,
    username := request.user.username, nodeIp := nodeIp }

def count (statusCode : Int) (streaming nodeIp : String) : Handling Unit :=
  Program.emit (.requestCount (countLabels request statusCode streaming nodeIp))

def latencyLabels (nodeIp : String) : LatencyLabels :=
  { model := MODEL_ALIAS, username := request.user.username, nodeIp := nodeIp }

def observeLatency (nodeIp : String) (ms : Int) : Handling Unit :=
  Program.emit (.latency (latencyLabels request nodeIp) ms)

def tokenLabels : TokenLabels :=
  { model := MODEL_ALIAS, username := request.user.username, requestType := request.requestType }

/-- What `Counter.inc` raises: counters only go up, and they add floats. -/
def incError (amount : Int) : Option Exn :=
  if amount < 0 then some valueError else if amount < FLOAT_LIMIT then none else some overflowError

def inc (emission : Int → Emission) (amount : Int) : Handling Unit :=
  match incError amount with
  | some exc => Program.raise exc
  | none => Program.emit (emission amount)

def logRequest (site : Site) (row : Except Exn RequestLog) : Handling Unit := do
  let row ← Program.lift row
  Program.emit .suspended
  match env.writes site with
  | some exc => Program.raise exc
  | none => Program.emit (.row row)

def logGuarded (site : Site) (row : Except Exn RequestLog) (message : String) : Handling Unit :=
  (logRequest env site row).catching fun exc =>
    if exc.isException then some (Program.emit (.logged message)) else none

def failureRow (site : Site) (nodeIp : Json) (statusCode : Int) (error : String) : Except Exn RequestLog := do
  let promptTokens ← estimatePromptTokens request.messages
  let requestPreview ← buildRequestPreview request.messages true
  return {
    userId := request.user.id, apiKeyPrefix := request.apiKeyPrefix, model := MODEL_ALIAS, nodeIp := nodeIp,
    promptTokens := promptTokens, completionTokens := 0, latencyMs := env.latencyMs site, queueMs := 0,
    statusCode := statusCode, errorMessage := some error, streaming := request.stream,
    requestType := request.requestType, requestPreview := requestPreview, responsePreview := error }

def isMultimodal : Bool := isMultimodalRequest request.messages

/-- `json.dumps(detail)` for dicts and lists, `str(detail)` else. -/
def errorStr (detail : Json) : String :=
  match detail with
  | .obj _ | .arr _ => platform.dumps detail
  | .str text => text
  | _ => platform.labelOf detail

def nodeLabel (nodeIp : Json) : String :=
  match nodeIp with
  | .str text => text
  | _ => platform.labelOf nodeIp

/-- Affinity only applies to the text pool. -/
def affinityKey : Option String :=
  if request.sessionAffinity && !isMultimodal request then request.apiKeyPrefix else none

/-! ### The event stream -/

def relay : List String → Except Exn Unit → Handling Unit
  | [], ending => do
      Program.emit .suspended
      Program.lift ending
  | chunk :: rest, ending => do
      Program.emit .suspended
      let line ← Program.lift (rewriteSseModel platform (rstripNewlines chunk))
      Program.emit (.chunk (line ++ "\n\n"))
      relay rest ending

/-- The exception that `except Exception as exc` remembers. -/
def streamError {α : Type} : Except Exn α → Option Exn
  | .error exc => if exc.isException then some exc else none
  | .ok _ => none

def isQueueRejection : Exn → Bool
  | .httpException statusCode _ => statusCode = 503
  | _ => false

def streamRow (promptTokens : Int) (error : Option Exn) : Except Exn RequestLog := do
  let requestPreview ← buildRequestPreview request.messages false
  return {
    userId := request.user.id, apiKeyPrefix := request.apiKeyPrefix, model := MODEL_ALIAS
    nodeIp := .str (if isMultimodal request then "multimodal" else platform.controllerNodeIp)
    promptTokens := promptTokens, completionTokens := 0, latencyMs := env.latencyMs .streamed, queueMs := 0
    statusCode := if error.isSome then 500 else 200
    errorMessage := error.map platform.errText, streaming := true, requestType := request.requestType
    requestPreview := requestPreview
    responsePreview := (error.map platform.errText).getD "[streaming]" }

/-- The `finally` clause of the event stream. -/
def settleStream (promptTokens : Int) (error : Option Exn) : Handling Unit := do
  let nodeIp := if isMultimodal request then "multimodal" else "stream"
  if error.any isQueueRejection then Program.emit (.queueRejected request.requestType)
  logRequest env .streamed (streamRow platform env request promptTokens error)
  count request (if error.isSome then 500 else 200) "true" nodeIp
  observeLatency request nodeIp (env.latencyMs .streamed)
  inc (.promptTokens (tokenLabels request)) promptTokens

def eventStream (promptTokens : Int) (chunks : List String) (ending : Except Exn Unit) : Handling Unit :=
  Program.ensuring
    (do
      Program.emit (.asked (affinityKey request) (isMultimodal request))
      relay platform chunks ending)
    fun result => settleStream platform env request promptTokens (streamError result)

/-! ### The handler -/

structure Completion where
  result : Json
  promptTokens : Int
  completionTokens : Int
  queueMs : Int
  nodeIp : Json

def complete (answer : Json) : Except Exn Completion := do
  let result ← normalizeCompletionResponse answer
  let usage ← orRaise attributeError (result.get "usage" (.obj []))
  let promptTokens ← intMember platform usage "prompt_tokens" (← estimatePromptTokens request.messages)
  let completionTokens ← intMember platform usage "completion_tokens" 0
  let queueMs ← intMember platform result "queue_ms" 0
  let nodeIp ← orRaise attributeError (result.get "node_ip" (.str platform.controllerNodeIp))
  return ⟨result, promptTokens, completionTokens, queueMs, nodeIp⟩

def successRow (completion : Completion) : Except Exn RequestLog := do
  let requestPreview ← buildRequestPreview request.messages false
  let responsePreview ← buildSuccessResponsePreview platform completion.result
  return {
    userId := request.user.id, apiKeyPrefix := request.apiKeyPrefix, model := MODEL_ALIAS
    nodeIp := completion.nodeIp, promptTokens := completion.promptTokens
    completionTokens := completion.completionTokens, latencyMs := env.latencyMs .success
    queueMs := completion.queueMs, statusCode := 200, errorMessage := none, streaming := false
    requestType := request.requestType, requestPreview := requestPreview, responsePreview := responsePreview }

/-- The bookkeeping of a finished inference, and its response. -/
def report (completion : Completion) : Handling Answer := do
  logGuarded env .success (successRow platform env request completion) "Failed to log successful inference"
  let nodeIp := nodeLabel platform completion.nodeIp
  count request 200 "false" nodeIp
  observeLatency request nodeIp (env.latencyMs .success)
  inc (.promptTokens (tokenLabels request)) completion.promptTokens
  inc (.completionTokens (tokenLabels request)) completion.completionTokens
  if platform.serialisable completion.result then return .json completion.result
  else Program.raise valueError

/-- The body of the `try` statement. -/
def infer : Handling Answer := do
  if request.stream then
    return .stream (← Program.lift (estimatePromptTokens request.messages))
  else
    Program.emit (.asked (affinityKey request) (isMultimodal request))
    Program.emit .suspended
    let answer ← Program.lift env.submit
    let completion ← Program.lift (complete platform request answer)
    report platform env request completion

def httpErrorRow (statusCode : Int) (detail : Json) : Except Exn RequestLog :=
  failureRow env request .httpError (if isMultimodal request then .str "multimodal" else .null) statusCode
    (errorStr platform detail)

def onHttpException (statusCode : Int) (detail : Json) : Handling Answer := do
  if statusCode = 503 then Program.emit (.queueRejected request.requestType)
  count request statusCode "false" "unknown"
  logGuarded env .httpError (httpErrorRow platform env request statusCode detail)
    "Failed to log HTTPException request"
  Program.raise (.httpException statusCode detail)

def inferenceRequestFailed : Exn := .httpException 500 (.str "Inference request failed")

def onException (exc : Exn) : Handling Answer := do
  count request 500 "false" "unknown"
  logGuarded env .failure (failureRow env request .failure .null 500 (platform.errText exc))
    "Failed to log inference exception"
  Program.raise inferenceRequestFailed

def onError (exc : Exn) : Option (Handling Answer) :=
  match exc with
  | .httpException statusCode detail => some (onHttpException platform env request statusCode detail)
  | exc => if exc.isException then some (onException platform env request exc) else none

def attempt : Handling Answer := (infer platform env request).catching (onError platform env request)

/-- The `finally` clause; the inference of a stream goes on after it. -/
def leave : Except Exn Answer → Handling Unit
  | .ok (.stream _) => Program.emit .activeDec
  | _ => do
      Program.emit .activeDec
      Program.emit .finished

def rejectRateLimited (exc : HTTPException) : Handling Answer := do
  Program.emit (.rateLimited request.requestType)
  count request exc.statusCode (lower request.stream) "unknown"
  logGuarded env .rateLimited (failureRow env request .rateLimited .null exc.statusCode exc.detail)
    "Failed to log rate-limited request"
  Program.raise (.httpException exc.statusCode (.str exc.detail))

/-- The handler from the end of the rate-limit check. -/
def admitted : Handling Answer := do
  Program.emit .checked
  Program.emit .activeInc
  (attempt platform env request).ensuring leave

def chatCompletions : Handling Answer := do
  Program.emit .suspended
  match env.check with
  | .cancelled => Program.raise .cancelledError
  | .rejected exc => rejectRateLimited env request exc
  | .passed | .unavailable => admitted platform env request

/-! ### The response -/

/-- FastAPI's `is_body_allowed_for_status_code`. -/
def isBodyAllowed (statusCode : Int) : Bool := !(statusCode < 200 || statusCode ∈ [204, 205, 304])

/-- What the server answers to an exception that no handler has taken. -/
def serverError : List Emission := [.status 500, .plainBody "Internal Server Error", .ended true]

/-- FastAPI's `http_exception_handler`; a detail that cannot be written down is an exception of its own. -/
def httpExceptionHandler (statusCode : Int) (detail : Json) : List Emission :=
  if isBodyAllowed statusCode then
    if platform.serialisable (.obj [("detail", detail)]) then
      [.status statusCode, .body (.obj [("detail", detail)]), .ended true]
    else serverError
  else [.status statusCode, .ended true]

/-- What the server makes of the handler's answer. The status line of a stream goes out before its
body is started; an exception in the body cuts the response off. -/
def respond : Except Exn Answer → List Emission
  | .ok (.json result) => [.status 200, .body result, .ended true]
  | .ok (.stream promptTokens) =>
    match env.stream with
    | none => [.suspended, .status 200, .finished, .ended false]
    | some (chunks, ending) =>
      let body := eventStream platform env request promptTokens chunks ending
      [.suspended, .status 200] ++ body.emissions ++ [.finished, .ended body.result.isOk]
  | .error (.httpException statusCode detail) => httpExceptionHandler platform statusCode detail
  | .error exc => if exc.isException then serverError else []

def serve : List Emission :=
  (chatCompletions platform env request).emissions ++
    respond platform env request (chatCompletions platform env request).result

end LlamacppRay.Gateway.Chat
