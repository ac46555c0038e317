import LlamacppRay.Gateway.ChatPaths
import LlamacppRay.Gateway.Failures

/-! The status of a request that fails before a line of the backend is delivered: as the client, the
request log and the counter of requests have it. -/

namespace LlamacppRay.Gateway.Chat
open LlamacppRay.Python

def statuses (emissions : List Emission) : List Int :=
  emissions.filterMap fun emission => match emission with
    | .status code => some code
    | _ => none

def rowStatuses (emissions : List Emission) : List Int :=
  emissions.filterMap fun emission => match emission with
    | .row row => some row.statusCode
    | _ => none

def countStatuses (emissions : List Emission) : List String :=
  emissions.filterMap fun emission => match emission with
    | .requestCount labels => some labels.statusCode
    | _ => none

@[simp] theorem statuses_append (first second : List Emission) :
    statuses (first ++ second) = statuses first ++ statuses second :=
  List.filterMap_append

@[simp] theorem rowStatuses_append (first second : List Emission) :
    rowStatuses (first ++ second) = rowStatuses first ++ rowStatuses second :=
  List.filterMap_append

@[simp] theorem countStatuses_append (first second : List Emission) :
    countStatuses (first ++ second) = countStatuses first ++ countStatuses second :=
  List.filterMap_append

/-- The backend fails the request that way, whether it asks for a stream or not. -/
def Environment.Meets (env : Environment) (failure : Failure) : Prop :=
  env.submit = .error failure.submitExn ∧ env.stream = some ([], .error failure.streamExn)

/-- The failure can be raised with a detail, and that detail can be written down unless its status has no body. -/
def Tellable (platform : Platform) (failure : Failure) : Prop :=
  ∃ detail, failure.detail = some detail ∧
    (isBodyAllowed failure.code = true → platform.serialisable (.obj [("detail", detail)]) = true)

structure Uniform (platform : Platform) (env : Environment) (request : Request) (code : Int) : Prop where
  client : statuses (serve platform env request) = [code]
  rows : rowStatuses (serve platform env request) = [code]
  counter : countStatuses (serve platform env request) = [toString code]

section Statuses
variable {platform : Platform} {env : Environment} {request : Request} {failure : Failure}

/-! ### Rows that are not written -/

theorem rowStatuses_logGuarded (site : Site) (row : Except Exn RequestLog) (message : String)
    (lost : ∀ entry, row = .ok entry → env.writes site ≠ none) :
    rowStatuses (logGuarded env site row message).emissions = [] := by
  cases row with
  | error exc =>
    cases ordinary : exc.isException with
    | false => simp [logGuarded, logRequest, Program.catching, ordinary, rowStatuses]
    | true => simp [logGuarded, logRequest, Program.catching, ordinary, rowStatuses]
  | ok entry =>
    cases write : env.writes site with
    | none => exact absurd write (lost entry rfl)
    | some exc =>
      cases ordinary : exc.isException with
      | false => simp [logGuarded, logRequest, Program.catching, write, ordinary, rowStatuses]
      | true => simp [logGuarded, logRequest, Program.catching, write, ordinary, rowStatuses]

theorem logGuarded_of_written {site : Site} {row : RequestLog} (written : env.writes site = none) (message : String) :
    logGuarded env site (.ok row) message = ⟨[.suspended, .row row], .ok ()⟩ := by
  simp [logGuarded, logRequest, Program.catching, written]

theorem failureRow_of_estimate (env : Environment) {promptTokens : Int}
    (estimated : estimatePromptTokens request.messages = .ok promptTokens) (site : Site) (nodeIp : Json)
    (statusCode : Int) (error : String) :
    ∃ row, failureRow env request site nodeIp statusCode error = .ok row ∧ row.statusCode = statusCode := by
  obtain ⟨preview, shown⟩ := preview_of_estimate estimated true
  rw [failureRow, estimated, shown]
  exact ⟨_, rfl, rfl⟩

theorem failureRow_of_unreadable (env : Environment) {exc : Exn}
    (unreadable : estimatePromptTokens request.messages = .error exc) (site : Site) (nodeIp : Json)
    (statusCode : Int) (error : String) :
    failureRow env request site nodeIp statusCode error = .error exc := by
  rw [failureRow, unreadable]
  rfl

/-! ### The answer to an exception -/

theorem rowStatuses_respond_error (platform : Platform) (env : Environment) (request : Request) (exc : Exn) :
    rowStatuses (respond platform env request (.error exc)) = [] := by
  refine List.filterMap_eq_nil_iff.mpr fun emission among => ?_
  have client := respond_error_client platform env request exc emission among
  cases emission with
  | row entry => cases client
  | _ => rfl

theorem countStatuses_respond_error (platform : Platform) (env : Environment) (request : Request) (exc : Exn) :
    countStatuses (respond platform env request (.error exc)) = [] := by
  refine List.filterMap_eq_nil_iff.mpr fun emission among => ?_
  have client := respond_error_client platform env request exc emission among
  cases emission with
  | requestCount labels => cases client
  | _ => rfl

theorem statuses_httpException (platform : Platform) (env : Environment) (request : Request) (statusCode : Int)
    (detail : Json) : statuses (respond platform env request (.error (.httpException statusCode detail))) =
      [if isBodyAllowed statusCode = true → platform.serialisable (.obj [("detail", detail)]) = true then statusCode
        else 500] := by
  rw [respond, httpExceptionHandler]
  cases isBodyAllowed statusCode with
  | true =>
    cases platform.serialisable (.obj [("detail", detail)]) with
    | true => simp [statuses]
    | false => simp [statuses, serverError]
  | false => simp [statuses]

theorem statuses_of_passes (platform : Platform) (request : Request) (passes : env.check.passes = true) :
    statuses (serve platform env request) =
      statuses (respond platform env request (attempt platform env request).result) := by
  have hidden : statuses (attempt platform env request).emissions = [] := by
    refine List.filterMap_eq_nil_iff.mpr fun emission among => ?_
    have own := attempt_own platform env request emission among
    cases emission with
    | status code => cases own
    | _ => rfl
  have left : statuses (leave (attempt platform env request).result).emissions = [] := by
    unfold leave
    split
    · rfl
    · rfl
  rw [serve, chat_of_passes platform request passes, statuses_append]
  change statuses ((attempt platform env request).emissions ++ _) ++ _ = _
  rw [statuses_append, hidden, left, List.nil_append, List.nil_append]

theorem onError_result {exc : Exn} {handler : Handling Answer}
    (caught : onError platform env request exc = some handler) :
    handler.Raises fun other => other = raised exc ∨ other.isException = false := by
  have logged : ∀ site row message, (logGuarded env site row message).Raises fun other =>
      other = raised exc ∨ other.isException = false :=
    fun site row message other error => .inr (logGuarded_raises env site row message other error)
  unfold onError at caught
  split at caught
  next statusCode detail =>
    cases caught
    unfold onHttpException
    split
    · exact .bind (.emit _) fun _ _ => .bind (.emit _) fun _ _ => .bind (logged _ _ _) fun _ _ => .raise (.inl rfl)
    · exact .bind (.emit _) fun _ _ => .bind (logged _ _ _) fun _ _ => .raise (.inl rfl)
  next other =>
    split at caught
    · cases caught
      refine .bind (.emit _) fun _ _ => .bind (logged _ _ _) fun _ _ => .raise (.inl ?_)
      cases exc with
      | httpException statusCode detail => exact absurd rfl (other statusCode detail)
      | _ => rfl
    · cases caught

theorem statuses_of_refused {exc : Exn} {code : Int} (passes : env.check.passes = true)
    (direct : request.stream = false) (submitted : env.submit = .error exc) (ordinary : exc.isException = true)
    (shown : statuses (serve platform env request) = [code]) :
    statuses (respond platform env request (.error (raised exc))) = [code] := by
  rw [statuses_of_passes platform request passes] at shown
  have ran : infer platform env request = ⟨started request, .error exc⟩ := by
    simp only [infer, direct, submitted]
    rfl
  obtain ⟨handler, caught⟩ : ∃ handler, onError platform env request exc = some handler := by
    unfold onError
    split
    · exact ⟨_, rfl⟩
    · exact ⟨_, if_pos ordinary⟩
  have answered : (attempt platform env request).result = handler.result := by
    rw [attempt, ran, Program.catching_of_caught rfl caught]
  cases result : handler.result with
  | ok answer => exact absurd result fun ok => onError_raises caught answer ok
  | error other =>
    rw [answered, result] at shown
    rcases onError_result caught other result with rfl | escaped
    · exact shown
    · cases other with
      | cancelledError | generatorExit => cases shown
      | _ => cases escaped

/-! ### The handler on a failure -/

theorem onHttpException_eq (platform : Platform) (env : Environment) (request : Request) (statusCode : Int)
    (detail : Json) : ∃ exc, onHttpException platform env request statusCode detail =
      ⟨(if statusCode = 503 then [.queueRejected request.requestType] else []) ++
        .requestCount (countLabels request statusCode "false" "unknown") ::
          (logGuarded env .httpError (httpErrorRow platform env request statusCode detail)
            "Failed to log HTTPException request").emissions, .error exc⟩ := by
  unfold onHttpException
  obtain ⟨exc, failed⟩ := Program.bind_raise (β := Answer) (logGuarded env .httpError
    (httpErrorRow platform env request statusCode detail) "Failed to log HTTPException request")
    (.httpException statusCode detail)
  split
  · exact ⟨exc, by simp [count, failed]⟩
  · exact ⟨exc, by simp [count, failed]⟩

theorem attempt_of_refused {statusCode : Int} {detail : Json} (direct : request.stream = false)
    (submitted : env.submit = .error (.httpException statusCode detail)) :
    attempt platform env request =
      ⟨started request ++ (onHttpException platform env request statusCode detail).emissions,
        (onHttpException platform env request statusCode detail).result⟩ := by
  have ran : infer platform env request = ⟨started request, .error (.httpException statusCode detail)⟩ := by
    simp only [infer, direct, submitted]
    rfl
  rw [attempt, ran]
  exact Program.catching_of_caught rfl rfl

theorem rowStatuses_of_refused {statusCode : Int} {detail : Json} (passes : env.check.passes = true)
    (direct : request.stream = false) (submitted : env.submit = .error (.httpException statusCode detail)) :
    rowStatuses (serve platform env request) = rowStatuses (logGuarded env .httpError
      (httpErrorRow platform env request statusCode detail) "Failed to log HTTPException request").emissions := by
  obtain ⟨exc, failed⟩ := onHttpException_eq platform env request statusCode detail
  rw [serve, chat_of_passes platform request passes, attempt_of_refused direct submitted, failed]
  rw [rowStatuses_append, rowStatuses_respond_error, List.append_nil]
  split
  · simp [rowStatuses, started, leave]
  · simp [rowStatuses, started, leave]

/-- A stream begins its response before it meets the failure. -/
theorem statuses_of_streaming (platform : Platform) {promptTokens : Int} (passes : env.check.passes = true)
    (stream : request.stream = true) (estimated : estimatePromptTokens request.messages = .ok promptTokens) :
    ∃ rest, statuses (serve platform env request) = 200 :: rest := by
  rw [serve, chat_of_passes platform request passes, attempt_of_streaming stream estimated]
  cases begun : env.stream with
  | none => exact ⟨[], by simp [statuses, respond, begun, leave]⟩
  | some run => exact ⟨_, by simp [statuses, respond, begun, leave]; rfl⟩

theorem rowStatuses_of_unreadable {exc : Exn} (passes : env.check.passes = true) (stream : request.stream = true)
    (unreadable : estimatePromptTokens request.messages = .error exc) :
    rowStatuses (serve platform env request) = [] := by
  obtain ⟨message, rfl⟩ := ordinary_estimate request.messages exc unreadable
  have ran : infer platform env request = ⟨[], .error (.other message)⟩ := by
    simp only [infer, stream, unreadable]
    rfl
  have row := failureRow_of_unreadable env unreadable .failure .null 500 (platform.errText (.other message))
  have caught : onException platform env request (.other message) =
      ⟨[.requestCount (countLabels request 500 "false" "unknown"), .logged "Failed to log inference exception"],
        .error inferenceRequestFailed⟩ := by
    simp only [onException, row, count]
    rfl
  have attempted : attempt platform env request =
      ⟨[.requestCount (countLabels request 500 "false" "unknown"), .logged "Failed to log inference exception"],
        .error inferenceRequestFailed⟩ := by
    have handles : onError platform env request (.other message) =
        some (onException platform env request (.other message)) := rfl
    rw [attempt, ran, Program.catching_of_caught rfl handles, caught]
    rfl
  rw [serve, chat_of_passes platform request passes, attempted, rowStatuses_append]
  exact rowStatuses_respond_error platform env request inferenceRequestFailed

theorem uniform_of_written (meets : env.Meets failure) (passes : env.check.passes = true)
    {promptTokens : Int} (direct : request.stream = false)
    (estimated : estimatePromptTokens request.messages = .ok promptTokens) (written : env.writes .httpError = none)
    (tellable : Tellable platform failure) : Uniform platform env request failure.code := by
  obtain ⟨detail, told, writable⟩ := tellable
  have submitted := meets.1
  rw [Failure.submitExn_of_detail told] at submitted
  obtain ⟨row, shown, same⟩ := failureRow_of_estimate env estimated .httpError
    (if isMultimodal request then .str "multimodal" else .null) failure.code (errorStr platform detail)
  have caught : onHttpException platform env request failure.code detail =
      ⟨(if failure.code = 503 then [Emission.queueRejected request.requestType] else []) ++
        [Emission.requestCount (countLabels request failure.code "false" "unknown"), .suspended, .row row],
        .error (.httpException failure.code detail)⟩ := by
    simp only [onHttpException, httpErrorRow, shown, logGuarded_of_written written, count]
    split
    · simp
    · simp
  have whole : serve platform env request = [Emission.suspended, .checked, .activeInc] ++ started request ++
      (if failure.code = 503 then [Emission.queueRejected request.requestType] else []) ++
        [Emission.requestCount (countLabels request failure.code "false" "unknown"), .suspended, .row row, .activeDec,
          .finished] ++ respond platform env request (.error (.httpException failure.code detail)) := by
    rw [serve, chat_of_passes platform request passes, attempt_of_refused direct submitted, caught]
    simp [leave]
  constructor
  · rw [whole, statuses_append, statuses_httpException, if_pos writable]
    split
    · simp [statuses, started]
    · simp [statuses, started]
  · rw [whole, rowStatuses_append, rowStatuses_respond_error]
    split
    · simp [rowStatuses, started, same]
    · simp [rowStatuses, started, same]
  · rw [whole, countStatuses_append, countStatuses_respond_error]
    split
    · simp [countStatuses, started, countLabels]
    · simp [countStatuses, started, countLabels]

theorem tellable_of_uniform (possible : failure.Possible) (meets : env.Meets failure)
    (passes : env.check.passes = true) (direct : request.stream = false)
    (uniform : Uniform platform env request failure.code) : Tellable platform failure := by
  cases told : failure.detail with
  | none =>
    obtain ⟨message, named⟩ := Failure.submitExn_of_untold told
    have submitted := meets.1
    rw [named] at submitted
    have answered := statuses_of_refused passes direct submitted rfl uniform.client
    have code : statuses (respond platform env request (.error (raised (.other message)))) = [500] := by
      change statuses (respond platform env request (.error (.httpException 500 _))) = [500]
      rw [statuses_httpException, ite_self]
    rw [code] at answered
    exact absurd (List.cons.inj answered).1.symm (Failure.code_ne_serverError possible)
  | some detail =>
    refine ⟨detail, told, fun allowed => ?_⟩
    have submitted := meets.1
    rw [Failure.submitExn_of_detail told] at submitted
    have answered := statuses_of_refused passes direct submitted rfl uniform.client
    rw [raised, statuses_httpException] at answered
    by_contra unwritable
    rw [if_neg fun writable => unwritable (writable allowed)] at answered
    exact Failure.code_ne_serverError possible (List.cons.inj answered).1.symm

/-- The three agree exactly for direct requests whose row is written and whose failure can be told: a stream has begun
its response with status 200, and its row and its count say 500. -/
theorem uniform_iff (platform : Platform) (env : Environment) (request : Request) (failure : Failure)
    (possible : failure.Possible) (meets : env.Meets failure) (passes : env.check.passes = true) :
    Uniform platform env request failure.code ↔
      request.stream = false ∧ (∃ promptTokens, estimatePromptTokens request.messages = .ok promptTokens) ∧
        env.writes .httpError = none ∧ Tellable platform failure := by
  constructor
  · intro uniform
    cases stream : request.stream with
    | true =>
      exfalso
      cases estimated : estimatePromptTokens request.messages with
      | ok promptTokens =>
        obtain ⟨rest, begun⟩ := statuses_of_streaming platform passes stream estimated
        have same := uniform.client
        rw [begun] at same
        exact Failure.code_ne_success possible (List.cons.inj same).1.symm
      | error exc =>
        have same := uniform.rows
        rw [rowStatuses_of_unreadable passes stream estimated] at same
        cases same
    | false =>
      obtain ⟨detail, told, writable⟩ := tellable_of_uniform possible meets passes stream uniform
      have submitted := meets.1
      rw [Failure.submitExn_of_detail told] at submitted
      have logged := uniform.rows
      rw [rowStatuses_of_refused passes stream submitted] at logged
      by_contra unwritten
      have lost : ∀ entry, httpErrorRow platform env request failure.code detail = .ok entry →
          env.writes .httpError ≠ none := by
        intro entry shown written
        obtain ⟨promptTokens, estimated, -⟩ := ok_of_bind shown
        exact unwritten ⟨rfl, ⟨promptTokens, estimated⟩, written, detail, told, writable⟩
      rw [rowStatuses_logGuarded .httpError _ _ lost] at logged
      cases logged
  · rintro ⟨direct, ⟨promptTokens, estimated⟩, written, tellable⟩
    exact uniform_of_written meets passes direct estimated written tellable

end Statuses

/-! ### A full pool -/

def Environment.fullPool : Environment :=
  { check := .passed, submit := .error poolFull, stream := some ([], .error poolFull), writes := fun _ => none
    latencyMs := fun _ => 3 }

theorem uniform_fullPool : Uniform .plain .fullPool (.greeting false) 503 :=
  (uniform_iff _ _ _ .full trivial ⟨rfl, rfl⟩ rfl).mpr ⟨rfl, ⟨2, rfl⟩, rfl, _, rfl, fun _ => rfl⟩

/-- The same request as a stream gets a response of status 200 that is cut off, and is logged and counted with
status 500. -/
theorem not_uniform :
    ¬∀ (platform : Platform) (env : Environment) (request : Request) (failure : Failure),
      failure.Possible → env.Meets failure → env.check.passes = true → Uniform platform env request failure.code := by
  intro always
  have uniform := always .plain .fullPool (.greeting true) .full trivial ⟨rfl, rfl⟩ rfl
  exact absurd uniform.client (by decide +kernel)

end LlamacppRay.Gateway.Chat
