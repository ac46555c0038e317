import LlamacppRay.Gateway.Chat

/-! The ways a chat request can go. -/

namespace LlamacppRay.Gateway.Chat
open LlamacppRay.Python

/-! ### What the pure parts raise -/

def Ordinary {α : Type} (r : Except Exn α) : Prop := ∀ exc, r = .error exc → ∃ message, exc = .other message

section Ordinary
variable {α β : Type}

theorem Ordinary.ok (a : α) : Ordinary (.ok a) := fun _ error => by cases error

theorem Ordinary.error (message : String) : Ordinary (.error (.other message) : Except Exn α) := by
  intro exc error
  cases error
  exact ⟨message, rfl⟩

theorem Ordinary.isException {r : Except Exn α} {exc : Exn} (ordinary : Ordinary r) (error : r = .error exc) :
    exc.isException = true := by
  obtain ⟨message, rfl⟩ := ordinary exc error
  rfl

theorem Ordinary.bind {r : Except Exn α} {next : α → Except Exn β} (first : Ordinary r)
    (rest : ∀ a, Ordinary (next a)) : Ordinary (r >>= next) := by
  cases r with
  | ok a => exact rest a
  | error exc =>
    obtain ⟨message, rfl⟩ := first exc rfl
    exact .error message

theorem Ordinary.mapM {f : α → Except Exn β} (each : ∀ a, Ordinary (f a)) (list : List α) :
    Ordinary (list.mapM f) := by
  induction list with
  | nil => exact .ok []
  | cons a rest ih =>
    rw [List.mapM_cons]
    exact (each a).bind fun b => ih.bind fun bs => .ok (b :: bs)

theorem Ordinary.orRaise (message : String) (value : Option α) : Ordinary (orRaise (.other message) value) := by
  cases value with
  | none => exact .error message
  | some a => exact .ok a

end Ordinary

theorem mapM_ok_iff {α β : Type} {f : α → Except Exn β} {list : List α} :
    (∃ bs, list.mapM f = .ok bs) ↔ ∀ a ∈ list, ∃ b, f a = .ok b := by
  induction list with
  | nil => simp [pure, Except.pure]
  | cons a rest ih =>
    rw [List.mapM_cons, List.forall_mem_cons, ← ih]
    cases f a with
    | error exc => simp [bind, Except.bind]
    | ok b =>
      cases rest.mapM f with
      | error exc => simp [bind, Except.bind]
      | ok bs => simp [bind, Except.bind, pure, Except.pure]

theorem ordinary_partTokens (part : List (String × Json)) : Ordinary (partTokens part) := by
  unfold partTokens
  split
  · split
    · exact .ok _
    · exact .error _
  · exact .ok 0

theorem ordinary_estimate (messages : List ChatMessage) : Ordinary (estimatePromptTokens messages) := by
  refine (Ordinary.mapM (fun message => ?_) messages).bind fun totals => .ok _
  unfold messageTokens
  split
  · exact .ok _
  · exact (Ordinary.mapM ordinary_partTokens _).bind fun totals => .ok _

theorem ordinary_joinable (value : Json) : Ordinary (joinable value) := by
  unfold joinable
  split
  · exact .ok _
  · exact .error _

theorem ordinary_requestPreview (messages : List ChatMessage) (full : Bool) :
    Ordinary (buildRequestPreview messages full) := by
  refine (Ordinary.mapM (fun message => ?_) messages).bind fun parts => .ok _
  unfold messagePreview
  split
  · exact .ok _
  · exact (Ordinary.mapM (fun part => ordinary_joinable _) _).bind fun texts => .ok _

theorem ordinary_choicePreview (choice : Json) : Ordinary (choicePreview choice) := by
  unfold choicePreview
  split
  · split
    · refine Ordinary.bind ?_ fun shown => .ok _
      unfold cut
      split
      · exact .ok _
      · exact .ok _
      · exact .error _
    · exact .error _
  · exact .error _

theorem ordinary_responsePreview (platform : Platform) (result : Json) :
    Ordinary (buildSuccessResponsePreview platform result) := by
  unfold buildSuccessResponsePreview
  split
  · exact (Ordinary.orRaise _ _).bind fun choices =>
      (Ordinary.mapM ordinary_choicePreview choices).bind fun preview => .ok _
  · exact .error _

theorem ordinary_normalizeChoice (choice : Json) : Ordinary (normalizeChoice choice) := by
  unfold normalizeChoice
  split
  · split
    · exact .ok _
    · exact .ok _
  · exact .error _

theorem ordinary_normalize (result : Json) : Ordinary (normalizeCompletionResponse result) := by
  refine (Ordinary.orRaise _ _).bind fun result => (Ordinary.orRaise _ _).bind fun choices =>
    (Ordinary.orRaise _ _).bind fun elements => (Ordinary.mapM ordinary_normalizeChoice elements).bind
      fun updated => ?_
  split
  · exact .orRaise _ _
  · exact .ok _

theorem ordinary_rewrite (platform : Platform) (line : String) : Ordinary (rewriteSseModel platform line) := by
  unfold rewriteSseModel
  split
  · exact .ok _
  · split
    · exact .ok _
    next uncaught _ _ => cases uncaught <;> exact .error _
    · exact (Ordinary.orRaise _ _).bind fun _ => .ok _

theorem ordinary_intMember (platform : Platform) (document : Json) (key : String) (default : Int) :
    Ordinary (intMember platform document key default) := by
  refine (Ordinary.orRaise _ _).bind fun value => ?_
  unfold toInt
  split
  · exact .ok _
  · exact .ok _
  · exact .orRaise _ _
  · exact .orRaise _ _
  · exact .error _

section Rows
variable (platform : Platform) (env : Environment) (request : Request)

theorem ordinary_complete (answer : Json) : Ordinary (complete platform request answer) :=
  (ordinary_normalize answer).bind fun _ => (Ordinary.orRaise _ _).bind fun _ =>
    (ordinary_estimate _).bind fun _ => (ordinary_intMember platform _ _ _).bind fun _ =>
      (ordinary_intMember platform _ _ _).bind fun _ =>
        (ordinary_intMember platform _ _ _).bind fun _ => (Ordinary.orRaise _ _).bind fun _ => .ok _

theorem ordinary_failureRow (site : Site) (nodeIp : Json) (statusCode : Int) (error : String) :
    Ordinary (failureRow env request site nodeIp statusCode error) :=
  (ordinary_estimate _).bind fun _ => (ordinary_requestPreview _ _).bind fun _ => .ok _

theorem ordinary_successRow (completion : Completion) :
    Ordinary (successRow platform env request completion) :=
  (ordinary_requestPreview _ _).bind fun _ => (ordinary_responsePreview platform _).bind fun _ => .ok _

end Rows

/-! ### Readable messages -/

theorem ok_of_bind {α β : Type} {r : Except Exn α} {next : α → Except Exn β} {b : β}
    (ok : (r >>= next) = .ok b) : ∃ a, r = .ok a ∧ next a = .ok b := by
  cases r with
  | ok a => exact ⟨a, rfl, ok⟩
  | error exc => cases ok

theorem joinable_of_tokens {part : List (String × Json)} {tokens : Nat} (isText : isTextPart part = true)
    (counted : partTokens part = .ok tokens) : ∃ text, joinable (partText part) = .ok text := by
  rw [partTokens, if_pos isText] at counted
  cases value : partText part with
  | str text => exact ⟨text, rfl⟩
  | _ =>
    rw [value] at counted
    cases counted

theorem preview_of_tokens {message : ChatMessage} {tokens : Nat} (counted : messageTokens message = .ok tokens) :
    ∃ shown, messagePreview message = .ok shown := by
  obtain ⟨role, content⟩ := message
  cases content with
  | text value => exact ⟨_, rfl⟩
  | parts parts =>
    obtain ⟨all, each, -⟩ := ok_of_bind counted
    have readable := mapM_ok_iff.mp ⟨all, each⟩
    obtain ⟨texts, joined⟩ : ∃ texts, (parts.filter isTextPart).mapM (fun part => joinable (partText part)) =
        .ok texts := by
      apply mapM_ok_iff.mpr
      intro part listed
      obtain ⟨present, isText⟩ := List.mem_filter.mp listed
      obtain ⟨tokens, one⟩ := readable part present
      exact joinable_of_tokens isText one
    refine ⟨"[" ++ role ++ "]: " ++ String.join texts, ?_⟩
    change (((parts.filter isTextPart).mapM fun part => joinable (partText part)) >>= _) = _
    rw [joined]
    rfl

theorem preview_of_estimate {messages : List ChatMessage} {total : Int}
    (estimated : estimatePromptTokens messages = .ok total) (full : Bool) :
    ∃ preview, buildRequestPreview messages full = .ok preview := by
  obtain ⟨totals, counted, -⟩ := ok_of_bind estimated
  have readable := mapM_ok_iff.mp ⟨totals, counted⟩
  obtain ⟨parts, shown⟩ : ∃ parts, messages.mapM messagePreview = .ok parts := by
    apply mapM_ok_iff.mpr
    intro message member
    obtain ⟨tokens, one⟩ := readable message member
    exact preview_of_tokens one
  rw [buildRequestPreview, shown]
  exact ⟨_, rfl⟩

theorem one_le_estimate {messages : List ChatMessage} {total : Int}
    (estimated : estimatePromptTokens messages = .ok total) : 1 ≤ total := by
  obtain ⟨totals, -, last⟩ := ok_of_bind estimated
  cases last
  exact le_max_left 1 _

theorem sum_le_of_mapM {α : Type} {f : α → Except Exn Nat} {size : α → Nat}
    (bounded : ∀ a n, f a = .ok n → n ≤ size a) {list : List α} {counts : List Nat}
    (counted : list.mapM f = .ok counts) : counts.sum ≤ (list.map size).sum := by
  induction list generalizing counts with
  | nil =>
    cases counted
    exact le_rfl
  | cons a rest ih =>
    rw [List.mapM_cons] at counted
    obtain ⟨n, first, others⟩ := ok_of_bind counted
    obtain ⟨ns, later, last⟩ := ok_of_bind others
    cases last
    rw [List.sum_cons, List.map_cons, List.sum_cons]
    exact Nat.add_le_add (bounded a n first) (ih later)

theorem partTokens_le {part : List (String × Json)} {tokens : Nat} (counted : partTokens part = .ok tokens) :
    tokens ≤ partSize part := by
  unfold partTokens at counted
  split at counted
  · rw [partSize]
    cases value : partText part with
    | str text =>
      rw [value] at counted
      cases counted
      exact words_length_le text
    | _ =>
      rw [value] at counted
      cases counted
  · cases counted
    exact Nat.zero_le _

theorem messageTokens_le {message : ChatMessage} {tokens : Nat} (counted : messageTokens message = .ok tokens) :
    tokens ≤ message.content.size := by
  obtain ⟨role, content⟩ := message
  cases content with
  | text value =>
    cases counted
    exact words_length_le value
  | parts parts =>
    obtain ⟨counts, each, last⟩ := ok_of_bind counted
    cases last
    exact sum_le_of_mapM (fun _ _ => partTokens_le) each

/-! ### What a counter takes -/

def Addable (amount : Int) : Prop := 0 ≤ amount ∧ amount < FLOAT_LIMIT

instance (amount : Int) : Decidable (Addable amount) := inferInstanceAs (Decidable (_ ∧ _))

theorem incError_eq_none {amount : Int} : incError amount = none ↔ Addable amount := by
  rw [incError, Addable]
  split
  next negative => exact iff_of_false nofun fun both => absurd both.1 (not_le.mpr negative)
  next nonneg =>
    split
    next small => exact iff_of_true rfl ⟨not_lt.mp nonneg, small⟩
    next large => exact iff_of_false nofun fun both => large both.2

theorem ordinary_incError {amount : Int} {exc : Exn} (refused : incError amount = some exc) :
    ∃ message, exc = .other message := by
  unfold incError at refused
  split at refused
  · cases refused
    exact ⟨_, rfl⟩
  · split at refused
    · cases refused
    · cases refused
      exact ⟨_, rfl⟩

theorem inc_of_addable {amount : Int} (addable : Addable amount) (emission : Int → Emission) :
    inc emission amount = Program.emit (emission amount) := by
  rw [inc, incError_eq_none.mpr addable]

theorem addable_of_le {amount : Int} (nonneg : 0 ≤ amount) (small : amount ≤ MAXSIZE) : Addable amount :=
  ⟨nonneg, small.trans_lt maxsize_lt_floatLimit⟩

/-- The words of a request are fewer than its characters, and those fit into memory. -/
theorem Request.addable_estimate {request : Request} {total : Int}
    (estimated : estimatePromptTokens request.messages = .ok total) : Addable total := by
  have least := one_le_estimate estimated
  obtain ⟨totals, counted, last⟩ := ok_of_bind estimated
  have bounded := sum_le_of_mapM (fun _ _ => messageTokens_le) counted
  have sized := request.addressable
  cases last
  refine addable_of_le (by omega) (max_le (by decide) ?_)
  exact_mod_cast bounded.trans sized

/-! ### Log writes -/

/-- The database raises only exceptions that `except Exception` catches. -/
def Environment.Orderly (env : Environment) : Prop :=
  ∀ site exc, env.writes site = some exc → exc.isException = true

def noted (env : Environment) (site : Site) (row : Except Exn RequestLog) (message : String) : List Emission :=
  match row with
  | .error _ => [.logged message]
  | .ok row =>
    match env.writes site with
    | some _ => [.suspended, .logged message]
    | none => [.suspended, .row row]

section Paths
variable {platform : Platform} {env : Environment} {request : Request}

theorem mem_noted {site : Site} {row : Except Exn RequestLog} {message : String} {emission : Emission}
    (among : emission ∈ noted env site row message) :
    emission = .suspended ∨ emission = .logged message ∨ ∃ entry, row = .ok entry ∧ emission = .row entry := by
  cases row with
  | error exc => exact .inr (.inl (List.mem_singleton.mp among))
  | ok entry =>
    cases write : env.writes site with
    | none =>
      rw [noted, write] at among
      rcases List.mem_pair.mp among with same | same
      · exact .inl same
      · exact .inr (.inr ⟨entry, rfl, same⟩)
    | some exc =>
      rw [noted, write] at among
      rcases List.mem_pair.mp among with same | same
      · exact .inl same
      · exact .inr (.inl same)

theorem logGuarded_eq (orderly : env.Orderly) (site : Site) {row : Except Exn RequestLog}
    (ordinary : Ordinary row) (message : String) :
    logGuarded env site row message = ⟨noted env site row message, .ok ()⟩ := by
  cases row with
  | error exc =>
    have caught := ordinary.isException rfl
    simp [logGuarded, logRequest, Program.catching, caught, noted]
  | ok row =>
    cases write : env.writes site with
    | none => simp [logGuarded, logRequest, Program.catching, noted, write]
    | some exc =>
      have caught := orderly site exc write
      simp [logGuarded, logRequest, Program.catching, caught, noted, write]

/-- Only what `except Exception` does not catch escapes from it. -/
theorem logGuarded_raises (env : Environment) (site : Site) (row : Except Exn RequestLog) (message : String) :
    (logGuarded env site row message).Raises fun exc => exc.isException = false := by
  refine .catching (fun exc _ passed => ?_) fun exc handler caught => ?_
  · cases ordinary : exc.isException with
    | false => rfl
    | true =>
      rw [ordinary] at passed
      cases passed
  · split at caught
    · cases caught
      exact .emit _
    · cases caught

variable (platform env request)

def handled (exc : Exn) : List Emission :=
  match exc with
  | .httpException statusCode detail =>
      (if statusCode = 503 then [.queueRejected request.requestType] else []) ++
        .requestCount (countLabels request statusCode "false" "unknown") ::
          noted env .httpError (httpErrorRow platform env request statusCode detail)
            "Failed to log HTTPException request"
  | exc =>
      .requestCount (countLabels request 500 "false" "unknown") ::
        noted env .failure (failureRow env request .failure .null 500 (platform.errText exc))
          "Failed to log inference exception"

def raised : Exn → Exn
  | .httpException statusCode detail => .httpException statusCode detail
  | _ => inferenceRequestFailed

def reported (completion : Completion) : List Emission :=
  noted env .success (successRow platform env request completion) "Failed to log successful inference" ++
    [.requestCount (countLabels request 200 "false" (nodeLabel platform completion.nodeIp)),
      .latency (latencyLabels request (nodeLabel platform completion.nodeIp)) (env.latencyMs .success)] ++
    if Addable completion.promptTokens then .promptTokens (tokenLabels request) completion.promptTokens ::
      if Addable completion.completionTokens then [.completionTokens (tokenLabels request) completion.completionTokens]
      else []
    else []

def Completion.Accepted (completion : Completion) : Prop :=
  Addable completion.promptTokens ∧ Addable completion.completionTokens ∧ platform.serialisable completion.result = true

def Completion.refusal (completion : Completion) : Option Exn :=
  (incError completion.promptTokens).or ((incError completion.completionTokens).or
    (if platform.serialisable completion.result then none else some valueError))

def started : List Emission := [.asked (affinityKey request) (isMultimodal request), .suspended]

/-- The ways through the `try` statement and its `except` clauses. -/
inductive Inferred : List Emission → Except Exn Answer → Prop where
  | streams (promptTokens : Int) (stream : request.stream = true)
      (estimated : estimatePromptTokens request.messages = .ok promptTokens) :
      Inferred [] (.ok (.stream promptTokens))
  | unreadable (exc : Exn) (stream : request.stream = true)
      (estimated : estimatePromptTokens request.messages = .error exc) :
      Inferred (handled platform env request exc) (.error (raised exc))
  | cancelled (exc : Exn) (direct : request.stream = false) (submitted : env.submit = .error exc)
      (passed : exc.isException = false) : Inferred (started request) (.error exc)
  | refused (exc : Exn) (direct : request.stream = false) (submitted : env.submit = .error exc)
      (ordinary : exc.isException = true) :
      Inferred (started request ++ handled platform env request exc) (.error (raised exc))
  | malformed (answer : Json) (exc : Exn) (direct : request.stream = false) (submitted : env.submit = .ok answer)
      (completed : complete platform request answer = .error exc) :
      Inferred (started request ++ handled platform env request exc) (.error (raised exc))
  | completed (answer : Json) (completion : Completion) (direct : request.stream = false)
      (submitted : env.submit = .ok answer) (completed : complete platform request answer = .ok completion)
      (accepted : completion.Accepted platform) :
      Inferred (started request ++ reported platform env request completion) (.ok (.json completion.result))
  | unaccepted (answer : Json) (completion : Completion) (direct : request.stream = false)
      (submitted : env.submit = .ok answer) (completed : complete platform request answer = .ok completion)
      (exc : Exn) (refused : completion.refusal platform = some exc) :
      Inferred (started request ++ (reported platform env request completion ++ handled platform env request exc))
        (.error (raised exc))

variable {platform env request}

theorem onError_eq (orderly : env.Orderly) {exc : Exn} (ordinary : exc.isException = true) :
    onError platform env request exc =
      some ⟨handled platform env request exc, .error (raised exc)⟩ := by
  cases exc with
  | httpException statusCode detail =>
    have logged := logGuarded_eq orderly .httpError (ordinary_failureRow env request .httpError
      (if isMultimodal request then .str "multimodal" else .null) statusCode (errorStr platform detail))
      "Failed to log HTTPException request"
    simp only [onError, onHttpException, httpErrorRow, logged, handled, raised, count]
    split
    · simp
    · simp
  | cancelledError => cases ordinary
  | generatorExit => cases ordinary
  | transportError message =>
    simp [onError, ordinary, onException, logGuarded_eq orderly, ordinary_failureRow, handled, raised, count]
  | httpStatusError response =>
    simp [onError, ordinary, onException, logGuarded_eq orderly, ordinary_failureRow, handled, raised, count]
  | other message =>
    simp [onError, ordinary, onException, logGuarded_eq orderly, ordinary_failureRow, handled, raised, count]

theorem Completion.refusal_eq_none {completion : Completion} :
    completion.refusal platform = none ↔ completion.Accepted platform := by
  rw [refusal, Option.or_eq_none_iff, Option.or_eq_none_iff, incError_eq_none, incError_eq_none, Accepted]
  refine and_congr_right fun _ => and_congr_right fun _ => ?_
  cases platform.serialisable completion.result with
  | true => simp
  | false => simp

theorem Completion.ordinary_refusal {completion : Completion} {exc : Exn}
    (refused : completion.refusal platform = some exc) : ∃ message, exc = .other message := by
  rcases Option.or_eq_some_iff.mp refused with prompt | ⟨-, later⟩
  · exact ordinary_incError prompt
  · rcases Option.or_eq_some_iff.mp later with produced | ⟨-, serial⟩
    · exact ordinary_incError produced
    · split at serial
      · cases serial
      · cases serial
        exact ⟨_, rfl⟩

theorem report_eq (orderly : env.Orderly) (completion : Completion) :
    report platform env request completion = ⟨reported platform env request completion,
      match completion.refusal platform with
      | none => .ok (.json completion.result)
      | some exc => .error exc⟩ := by
  have logged := logGuarded_eq orderly .success (ordinary_successRow platform env request completion)
    "Failed to log successful inference"
  simp only [report, logged, reported, count, observeLatency, inc, Completion.refusal]
  cases prompt : incError completion.promptTokens with
  | some exc =>
    have refused : ¬Addable completion.promptTokens := by simp [← incError_eq_none, prompt]
    simp [refused]
  | none =>
    have added := incError_eq_none.mp prompt
    cases produced : incError completion.completionTokens with
    | some exc =>
      have refused : ¬Addable completion.completionTokens := by simp [← incError_eq_none, produced]
      simp [added, refused]
    | none =>
      have both := incError_eq_none.mp produced
      cases serial : platform.serialisable completion.result with
      | true => simp [added, both]
      | false => simp [added, both]

theorem caught_eq (orderly : env.Orderly) {exc : Exn} (ordinary : exc.isException = true)
    (emissions : List Emission) :
    Program.catching ⟨emissions, .error exc⟩ (onError platform env request) =
      ⟨emissions ++ handled platform env request exc, .error (raised exc)⟩ :=
  Program.catching_of_caught rfl (onError_eq orderly ordinary)

theorem inferred (platform : Platform) (request : Request) (orderly : env.Orderly) :
    ∃ inner result, Inferred platform env request inner result ∧
      attempt platform env request = ⟨inner, result⟩ := by
  unfold attempt
  cases stream : request.stream with
  | true =>
    cases estimated : estimatePromptTokens request.messages with
    | ok promptTokens =>
      have ran : infer platform env request = ⟨[], .ok (.stream promptTokens)⟩ := by
        simp only [infer, stream, estimated]
        rfl
      rw [ran]
      exact ⟨_, _, .streams promptTokens stream estimated, rfl⟩
    | error exc =>
      have ran : infer platform env request = ⟨[], .error exc⟩ := by
        simp only [infer, stream, estimated]
        rfl
      rw [ran, caught_eq orderly ((ordinary_estimate _).isException estimated)]
      exact ⟨_, _, .unreadable exc stream estimated, rfl⟩
  | false =>
    cases submitted : env.submit with
    | error exc =>
      have ran : infer platform env request = ⟨started request, .error exc⟩ := by
        simp only [infer, stream, submitted]
        rfl
      cases ordinary : exc.isException with
      | false =>
        have passed : onError platform env request exc = none := by
          cases exc with
          | cancelledError => rfl
          | generatorExit => rfl
          | _ => cases ordinary
        rw [ran, Program.catching_of_passed rfl passed]
        exact ⟨_, _, .cancelled exc stream submitted ordinary, rfl⟩
      | true =>
        rw [ran, caught_eq orderly ordinary]
        exact ⟨_, _, .refused exc stream submitted ordinary, rfl⟩
    | ok answer =>
      cases completed : complete platform request answer with
      | error exc =>
        have ran : infer platform env request = ⟨started request, .error exc⟩ := by
          simp only [infer, stream, submitted, completed, Bool.false_eq_true, ↓reduceIte, Program.emit_bind,
            Program.lift_ok_bind]
          rfl
        rw [ran, caught_eq orderly ((ordinary_complete platform request answer).isException completed)]
        exact ⟨_, _, .malformed answer exc stream submitted completed, rfl⟩
      | ok completion =>
        have reports := @report_eq platform env request orderly completion
        cases refused : completion.refusal platform with
        | none =>
          rw [refused] at reports
          have ran : infer platform env request =
              ⟨started request ++ reported platform env request completion, .ok (.json completion.result)⟩ := by
            simp only [infer, stream, submitted, completed, Bool.false_eq_true, ↓reduceIte, Program.emit_bind,
              Program.lift_ok_bind, reports]
            rfl
          rw [ran]
          exact ⟨_, _, .completed answer completion stream submitted completed (Completion.refusal_eq_none.mp refused),
            rfl⟩
        | some exc =>
          rw [refused] at reports
          have ran : infer platform env request =
              ⟨started request ++ reported platform env request completion, .error exc⟩ := by
            simp only [infer, stream, submitted, completed, Bool.false_eq_true, ↓reduceIte, Program.emit_bind,
              Program.lift_ok_bind, reports]
            rfl
          obtain ⟨message, rfl⟩ := Completion.ordinary_refusal refused
          rw [ran, caught_eq orderly rfl, List.append_assoc]
          exact ⟨_, _, .unaccepted answer completion stream submitted completed _ refused, rfl⟩

theorem chat_of_passes (platform : Platform) (request : Request) (passes : env.check.passes = true) :
    chatCompletions platform env request =
      ⟨.suspended :: .checked :: .activeInc ::
        ((attempt platform env request).emissions ++ (leave (attempt platform env request).result).emissions),
        (attempt platform env request).result⟩ := by
  have left : (leave (attempt platform env request).result).result = .ok () := by
    unfold leave
    split
    · rfl
    · rfl
  have ran : admitted platform env request =
      ⟨.checked :: .activeInc ::
        ((attempt platform env request).emissions ++ (leave (attempt platform env request).result).emissions),
        (attempt platform env request).result⟩ := by
    simp only [admitted, Program.emit_bind, Program.ensuring, left]
  unfold chatCompletions
  cases checked : env.check with
  | cancelled =>
    rw [checked] at passes
    cases passes
  | rejected exc =>
    rw [checked] at passes
    cases passes
  | passed => simp only [Program.emit_bind, ran]
  | unavailable => simp only [Program.emit_bind, ran]

def turnedAway (env : Environment) (request : Request) (exc : HTTPException) : List Emission :=
  .rateLimited request.requestType ::
    .requestCount (countLabels request exc.statusCode (lower request.stream) "unknown") ::
      noted env .rateLimited (failureRow env request .rateLimited .null exc.statusCode exc.detail)
        "Failed to log rate-limited request"

theorem rejectRateLimited_eq (orderly : env.Orderly) (exc : HTTPException) :
    rejectRateLimited env request exc =
      ⟨turnedAway env request exc, .error (.httpException exc.statusCode (.str exc.detail))⟩ := by
  have logged := logGuarded_eq orderly .rateLimited
    (ordinary_failureRow env request .rateLimited .null exc.statusCode exc.detail)
    "Failed to log rate-limited request"
  simp [rejectRateLimited, logged, count, turnedAway]

/-- The ways through the handler. -/
inductive Visited (platform : Platform) (env : Environment) (request : Request) :
    List Emission → Except Exn Answer → Prop where
  | cancelled (checked : env.check = .cancelled) : Visited platform env request [.suspended] (.error .cancelledError)
  | rejected (exc : HTTPException) (checked : env.check = .rejected exc) :
      Visited platform env request (.suspended :: turnedAway env request exc)
        (.error (.httpException exc.statusCode (.str exc.detail)))
  | admitted (inner : List Emission) (result : Except Exn Answer) (checked : env.check.passes = true)
      (ways : Inferred platform env request inner result) :
      Visited platform env request (.suspended :: .checked :: .activeInc :: (inner ++ (leave result).emissions)) result

theorem visited (platform : Platform) (request : Request) (orderly : env.Orderly) :
    ∃ emissions result, Visited platform env request emissions result ∧
      chatCompletions platform env request = ⟨emissions, result⟩ := by
  cases passes : env.check.passes with
  | true =>
    obtain ⟨inner, result, ways, ran⟩ := inferred platform request orderly
    refine ⟨_, _, .admitted inner result passes ways, ?_⟩
    rw [chat_of_passes platform request passes, ran]
  | false =>
    unfold chatCompletions
    cases checked : env.check with
    | cancelled => exact ⟨_, _, .cancelled checked, rfl⟩
    | rejected exc =>
      refine ⟨_, _, .rejected exc checked, ?_⟩
      simp only [Program.emit_bind, rejectRateLimited_eq orderly exc]
    | passed =>
      rw [checked] at passes
      cases passes
    | unavailable =>
      rw [checked] at passes
      cases passes

theorem Inferred.streaming {inner : List Emission} {promptTokens : Int}
    (ways : Inferred platform env request inner (.ok (.stream promptTokens))) :
    request.stream = true ∧ estimatePromptTokens request.messages = .ok promptTokens := by
  cases ways with
  | streams _ stream estimated => exact ⟨stream, estimated⟩

theorem Visited.streaming {emissions : List Emission} {promptTokens : Int}
    (ways : Visited platform env request emissions (.ok (.stream promptTokens))) :
    env.check.passes = true ∧ request.stream = true ∧ estimatePromptTokens request.messages = .ok promptTokens := by
  cases ways with
  | admitted inner _ checked ways => exact ⟨checked, ways.streaming⟩

/-! ### The event stream -/

def Relayed : Emission → Prop
  | .suspended | .chunk _ => True
  | _ => False

theorem relay_emits (chunks : List String) (ending : Except Exn Unit) :
    (relay platform chunks ending).Emits Relayed := by
  induction chunks with
  | nil => exact .bind (.emit trivial) fun _ _ => .lift ending
  | cons chunk rest ih =>
    exact .bind (.emit trivial) fun _ _ => .bind (.lift _) fun _ _ => .bind (.emit trivial) fun _ _ => ih

variable (platform env request)

def settled (promptTokens : Int) (error : Option Exn) (row : RequestLog) : List Emission :=
  (if error.any isQueueRejection then [.queueRejected request.requestType] else []) ++
    [.suspended, .row row,
      .requestCount (countLabels request (if error.isSome then 500 else 200) "true"
        (if isMultimodal request then "multimodal" else "stream")),
      .latency (latencyLabels request (if isMultimodal request then "multimodal" else "stream"))
        (env.latencyMs .streamed),
      .promptTokens (tokenLabels request) promptTokens]

variable {platform env request} {promptTokens : Int} {error : Option Exn}

theorem streamRow_of_estimate (platform : Platform) (env : Environment)
    (estimated : estimatePromptTokens request.messages = .ok promptTokens) (error : Option Exn) :
    ∃ row, streamRow platform env request promptTokens error = .ok row := by
  obtain ⟨preview, shown⟩ := preview_of_estimate estimated false
  rw [streamRow, shown]
  exact ⟨_, rfl⟩

theorem settle_of_written {row : RequestLog} (written : env.writes .streamed = none)
    (shown : streamRow platform env request promptTokens error = .ok row) (counted : Addable promptTokens) :
    settleStream platform env request promptTokens error =
      ⟨settled env request promptTokens error row, .ok ()⟩ := by
  simp only [settleStream, shown, logRequest, written, count, observeLatency, inc_of_addable counted, settled]
  split
  · simp
  · simp

/-- A failing write ends the `finally` clause before anything is counted. -/
theorem settle_of_failed {row : RequestLog} {exc : Exn} (failed : env.writes .streamed = some exc)
    (shown : streamRow platform env request promptTokens error = .ok row) :
    settleStream platform env request promptTokens error =
      ⟨(if error.any isQueueRejection then [.queueRejected request.requestType] else []) ++ [.suspended],
        .error exc⟩ := by
  simp only [settleStream, shown, logRequest, failed]
  split
  · simp
  · simp

/-! ### The response -/

/-- What the client sees: the status line, the chunks of the body and how the response ends. -/
def Emission.isClient : Emission → Bool
  | .status _ | .body _ | .plainBody _ | .chunk _ | .ended _ => true
  | _ => false

theorem respond_error_client (platform : Platform) (env : Environment) (request : Request) (exc : Exn) :
    ∀ emission ∈ respond platform env request (.error exc), emission.isClient = true := by
  have server : ∀ emission ∈ serverError, emission.isClient = true := by
    simp [serverError, Emission.isClient]
  cases exc with
  | httpException statusCode detail =>
    rw [respond, httpExceptionHandler]
    split
    · split
      · simp [Emission.isClient]
      · exact server
    · simp [Emission.isClient]
  | cancelledError | generatorExit => simp [respond, Exn.isException]
  | transportError | httpStatusError | other => exact server

/-! ### On whose account -/

/-- What a request emits between its marks: its rows and its counters are its own, and no counter goes down. -/
def Emission.Own (request : Request) : Emission → Prop
  | .promptTokens labels amount | .completionTokens labels amount => labels = tokenLabels request ∧ 0 ≤ amount
  | .row entry => entry.userId = request.user.id
  | .checked | .finished | .activeInc | .activeDec | .totalTokens _ _ => False
  | .status _ | .body _ | .plainBody _ | .ended _ => False
  | _ => True

theorem logRequest_own (env : Environment) {site : Site} {row : Except Exn RequestLog}
    (mine : ∀ entry, row = .ok entry → entry.userId = request.user.id) :
    (logRequest env site row).Emits (Emission.Own request) := by
  refine .bind (.lift row) fun entry shown => .bind (.emit trivial) fun _ _ => ?_
  cases env.writes site with
  | some exc => exact .raise exc
  | none => exact .emit (mine entry shown)

theorem logGuarded_own (env : Environment) {site : Site} {row : Except Exn RequestLog} {message : String}
    (mine : ∀ entry, row = .ok entry → entry.userId = request.user.id) :
    (logGuarded env site row message).Emits (Emission.Own request) := by
  refine .catching (logRequest_own env mine) fun exc handler caught => ?_
  split at caught
  · cases caught
    exact .emit trivial
  · cases caught

theorem failureRow_own {site : Site} {nodeIp : Json} {statusCode : Int} {error : String} {entry : RequestLog}
    (shown : failureRow env request site nodeIp statusCode error = .ok entry) : entry.userId = request.user.id := by
  obtain ⟨promptTokens, -, rest⟩ := ok_of_bind shown
  obtain ⟨preview, -, last⟩ := ok_of_bind rest
  cases last
  rfl

theorem successRow_own {completion : Completion} {entry : RequestLog}
    (shown : successRow platform env request completion = .ok entry) : entry.userId = request.user.id := by
  obtain ⟨preview, -, rest⟩ := ok_of_bind shown
  obtain ⟨response, -, last⟩ := ok_of_bind rest
  cases last
  rfl

theorem streamRow_own {entry : RequestLog} (shown : streamRow platform env request promptTokens error = .ok entry) :
    entry.userId = request.user.id := by
  obtain ⟨preview, -, last⟩ := ok_of_bind shown
  cases last
  rfl

theorem inc_own {emission : Int → Emission} {amount : Int}
    (mine : 0 ≤ amount → (emission amount).Own request) : (inc emission amount).Emits (Emission.Own request) := by
  cases refused : incError amount with
  | some exc =>
    rw [inc, refused]
    exact .raise exc
  | none =>
    have addable := incError_eq_none.mp refused
    rw [inc_of_addable addable]
    exact .emit (mine addable.1)

theorem report_own (completion : Completion) :
    (report platform env request completion).Emits (Emission.Own request) := by
  refine .bind (logGuarded_own env fun entry shown => successRow_own shown) fun _ _ =>
    .bind (.emit trivial) fun _ _ => .bind (.emit trivial) fun _ _ =>
      .bind (inc_own fun nonneg => ⟨rfl, nonneg⟩) fun _ _ => .bind (inc_own fun nonneg => ⟨rfl, nonneg⟩) fun _ _ => ?_
  split
  · exact .pure _
  · exact .raise _

theorem infer_own : (infer platform env request).Emits (Emission.Own request) := by
  unfold infer
  split
  · exact .bind (.lift _) fun _ _ => .pure _
  · exact .bind (.emit trivial) fun _ _ => .bind (.emit trivial) fun _ _ => .bind (.lift _) fun _ _ =>
      .bind (.lift _) fun completion _ => report_own completion

theorem onError_own {exc : Exn} {handler : Handling Answer}
    (caught : onError platform env request exc = some handler) :
    handler.Emits (Emission.Own request) := by
  have logged : ∀ site nodeIp statusCode error message, (logGuarded env site
      (failureRow env request site nodeIp statusCode error) message).Emits (Emission.Own request) :=
    fun site nodeIp statusCode error message => logGuarded_own env fun entry shown => failureRow_own shown
  unfold onError at caught
  split at caught
  next statusCode detail =>
    cases caught
    unfold onHttpException
    split
    · exact .bind (.emit trivial) fun _ _ => .bind (.emit trivial) fun _ _ =>
        .bind (logged _ _ _ _ _) fun _ _ => .raise _
    · exact .bind (.emit trivial) fun _ _ => .bind (logged _ _ _ _ _) fun _ _ => .raise _
  next =>
    split at caught
    · cases caught
      exact .bind (.emit trivial) fun _ _ => .bind (logged _ _ _ _ _) fun _ _ => .raise _
    · cases caught

theorem attempt_own (platform : Platform) (env : Environment) (request : Request) :
    (attempt platform env request).Emits (Emission.Own request) :=
  .catching infer_own fun _ _ caught => onError_own caught

theorem rejectRateLimited_own (env : Environment) (request : Request) (exc : HTTPException) :
    (rejectRateLimited env request exc).Emits (Emission.Own request) :=
  .bind (.emit trivial) fun _ _ => .bind (.emit trivial) fun _ _ =>
    .bind (logGuarded_own env fun _ shown => failureRow_own shown) fun _ _ => .raise _

theorem settleStream_own : (settleStream platform env request promptTokens error).Emits (Emission.Own request) := by
  have rest : ((do
      logRequest env .streamed (streamRow platform env request promptTokens error)
      count request (if error.isSome then 500 else 200) "true"
        (if isMultimodal request then "multimodal" else "stream")
      observeLatency request (if isMultimodal request then "multimodal" else "stream") (env.latencyMs .streamed)
      inc (.promptTokens (tokenLabels request)) promptTokens : Handling Unit)).Emits (Emission.Own request) :=
    .bind (logRequest_own env fun _ shown => streamRow_own shown) fun _ _ => .bind (.emit trivial) fun _ _ =>
      .bind (.emit trivial) fun _ _ => inc_own fun nonneg => ⟨rfl, nonneg⟩
  unfold settleStream
  cases error.any isQueueRejection with
  | true => exact .bind (.emit trivial) fun _ _ => rest
  | false => exact rest

theorem relay_own (chunks : List String) (ending : Except Exn Unit) :
    (relay platform chunks ending).Emits (Emission.Own request) := by
  intro emission among
  have relayed := relay_emits chunks ending emission among
  cases emission with
  | suspended => trivial
  | chunk text => trivial
  | _ => cases relayed

theorem eventStream_own (platform : Platform) (env : Environment) (request : Request) (promptTokens : Int)
    (chunks : List String) (ending : Except Exn Unit) :
    (eventStream platform env request promptTokens chunks ending).Emits (Emission.Own request) :=
  .ensuring (.bind (.emit trivial) fun _ _ => relay_own chunks ending) fun _ => settleStream_own

/-! ### Who starts a stream -/

/-- A request that passes the rate-limit check and is then answered with an event stream. -/
def Starts (env : Environment) (request : Request) : Prop :=
  env.check.passes = true ∧ request.stream = true ∧
    ∃ promptTokens, estimatePromptTokens request.messages = .ok promptTokens

instance (env : Environment) (request : Request) : Decidable (Starts env request) :=
  decidable_of_iff (env.check.passes = true ∧ request.stream = true ∧
      (estimatePromptTokens request.messages).isOk = true) <| by
    refine and_congr_right fun _ => and_congr_right fun _ => ?_
    cases estimatePromptTokens request.messages with
    | ok promptTokens => simp [Except.isOk, Except.toBool]
    | error exc => simp [Except.isOk, Except.toBool]

theorem attempt_of_streaming {promptTokens : Int} (stream : request.stream = true)
    (estimated : estimatePromptTokens request.messages = .ok promptTokens) :
    attempt platform env request = ⟨[], .ok (.stream promptTokens)⟩ := by
  have ran : infer platform env request = ⟨[], .ok (.stream promptTokens)⟩ := by
    simp only [infer, stream, estimated]
    rfl
  rw [attempt, ran]
  exact Program.catching_of_ok rfl

theorem onError_raises {exc : Exn} {handler : Handling Answer}
    (caught : onError platform env request exc = some handler) :
    handler.Returns fun _ => False := by
  unfold onError at caught
  split at caught
  next statusCode detail =>
    cases caught
    unfold onHttpException
    split
    · exact .bind fun _ _ => .bind fun _ _ => .bind fun _ _ => .raise _
    · exact .bind fun _ _ => .bind fun _ _ => .raise _
  next =>
    split at caught
    · cases caught
      exact .bind fun _ _ => .bind fun _ _ => .raise _
    · cases caught

theorem report_returns (completion : Completion) :
    (report platform env request completion).Returns fun answer => answer = .json completion.result := by
  refine .bind fun _ _ => .bind fun _ _ => .bind fun _ _ => .bind fun _ _ => .bind fun _ _ => ?_
  split
  · exact .pure rfl
  · exact .raise _

theorem attempt_returns (platform : Platform) (env : Environment) (request : Request) :
    (attempt platform env request).Returns fun answer => ∀ promptTokens, answer = .stream promptTokens →
      request.stream = true ∧ estimatePromptTokens request.messages = .ok promptTokens := by
  refine .catching ?_ fun _ _ caught answer returned => absurd (onError_raises caught answer returned) id
  unfold infer
  split
  next stream =>
    refine .bind fun promptTokens estimated => .pure ?_
    rintro other same
    cases same
    exact ⟨stream, estimated⟩
  next =>
    refine .bind fun _ _ => .bind fun _ _ => .bind fun answer _ => .bind fun completion _ => ?_
    intro answer returned promptTokens same
    rw [report_returns completion answer returned] at same
    cases same

end Paths

/-! ### A plain request -/

/-- A platform for requests whose chunks and numbers need no decoding. -/
def Platform.plain : Platform :=
  { controllerNodeIp := "10.0.0.1", loads := fun _ => .error .jsonDecodeError, dumps := Json.dump
    serialisable := fun _ => true, intOfFloat := fun _ => none, intOfStr := fun _ => none, labelOf := fun _ => "None"
    errText := Exn.text }

def Request.greeting (stream : Bool) : Request :=
  { user := ⟨7, "ana", "ana@corp.example", "geology", true, false⟩, apiKeyPrefix := some "sk-abcdefgh"
    messages := [⟨"user", .text "hello there"⟩], stream := stream, sessionAffinity := false
    addressable := by decide }

def Environment.answering (promptTokens completionTokens : Int) : Environment :=
  { check := .passed
    submit := .ok (.obj [("choices", .arr []),
      ("usage", .obj [("prompt_tokens", .int promptTokens), ("completion_tokens", .int completionTokens)])])
    stream := some (["data: [DONE]\n\n"], .ok ()), writes := fun _ => none, latencyMs := fun _ => 12 }

end LlamacppRay.Gateway.Chat
