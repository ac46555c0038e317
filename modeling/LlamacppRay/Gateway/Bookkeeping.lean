import LlamacppRay.Gateway.ChatPaths

/-! Whether a failing log write shows: in what the client sees and in the counter of requests. -/

namespace LlamacppRay.Gateway.Chat
open LlamacppRay.Python

def Emission.isCount : Emission → Bool
  | .requestCount _ => true
  | _ => false

def Environment.written (env : Environment) : Environment := { env with writes := fun _ => none }

def counts (emissions : List Emission) : Nat := emissions.countP Emission.isCount

@[simp] theorem counts_nil : counts [] = 0 := rfl

@[simp] theorem counts_cons (emission : Emission) (rest : List Emission) :
    counts (emission :: rest) = counts rest + if emission.isCount then 1 else 0 :=
  List.countP_cons

@[simp] theorem counts_append (first second : List Emission) :
    counts (first ++ second) = counts first + counts second :=
  List.countP_append

section Requests
variable (platform : Platform) (env : Environment) (request : Request)

/-- The request is counted once, and the client sees what it would have seen of a written row. -/
def Unaffected : Prop :=
  counts (serve platform env request) = 1 ∧
    (serve platform env request).filter Emission.isClient =
      (serve platform env.written request).filter Emission.isClient

/-- The client stays, the database raises exceptions, and the backend's results are sound. -/
structure Calm : Prop where
  checked : env.check ≠ .cancelled
  orderly : env.Orderly
  submit : ∀ exc, env.submit = .error exc → exc.isException = true
  streamed : ∃ chunks ending, env.stream = some (chunks, ending)
  sound : ∀ answer completion, env.submit = .ok answer → complete platform request answer = .ok completion →
    0 ≤ completion.promptTokens ∧ 0 ≤ completion.completionTokens ∧ platform.serialisable completion.result = true

/-- The request has got as far as a stream whose row cannot be written. -/
def StreamLost : Prop :=
  Starts env request ∧ (env.writes .streamed).isSome = true

/-- The inference counts more tokens than a float can hold. -/
def Overflows : Prop :=
  request.stream = false ∧ ∃ answer completion, env.submit = .ok answer ∧
    complete platform request answer = .ok completion ∧
      (FLOAT_LIMIT ≤ completion.promptTokens ∨ FLOAT_LIMIT ≤ completion.completionTokens)

end Requests

section Bookkeeping
variable {platform : Platform} {env : Environment} {request : Request}

/-! ### The handler hides its guarded writes -/

theorem Environment.orderly_written (env : Environment) : env.written.Orderly :=
  fun _ _ raised => by cases raised

theorem noted_hidden (env : Environment) (site : Site) (row : Except Exn RequestLog) (message : String) :
    (noted env site row message).filter Emission.isClient = [] := by
  refine List.filter_eq_nil_iff.mpr fun emission among => ?_
  rcases mem_noted among with rfl | rfl | ⟨entry, -, rfl⟩
  · exact Bool.false_ne_true
  · exact Bool.false_ne_true
  · exact Bool.false_ne_true

theorem logGuarded_alike (orderly : env.Orderly) (site : Site) {row : Except Exn RequestLog}
    (ordinary : Ordinary row) (message : String) :
    (logGuarded env site row message).Alike Emission.isClient (logGuarded env.written site row message) := by
  rw [logGuarded_eq orderly site ordinary, logGuarded_eq env.orderly_written site ordinary]
  exact ⟨(noted_hidden env site row message).trans (noted_hidden env.written site row message).symm, rfl⟩

theorem failure_alike (orderly : env.Orderly) (site : Site) (nodeIp : Json) (statusCode : Int)
    (error message : String) :
    (logGuarded env site (failureRow env request site nodeIp statusCode error) message).Alike Emission.isClient
      (logGuarded env.written site (failureRow env.written request site nodeIp statusCode error) message) :=
  logGuarded_alike orderly site (ordinary_failureRow env request site nodeIp statusCode error) message

theorem rejectRateLimited_alike (orderly : env.Orderly) (exc : HTTPException) :
    (rejectRateLimited env request exc).Alike Emission.isClient (rejectRateLimited env.written request exc) :=
  .bind (.refl _) fun _ _ => .bind (.refl _) fun _ _ =>
    .bind (failure_alike orderly _ _ _ _ _) fun _ _ => .refl _

theorem onHttpException_alike (orderly : env.Orderly) (statusCode : Int) (detail : Json) :
    (onHttpException platform env request statusCode detail).Alike Emission.isClient
      (onHttpException platform env.written request statusCode detail) := by
  unfold onHttpException
  split
  · exact .bind (.refl _) fun _ _ => .bind (.refl _) fun _ _ =>
      .bind (failure_alike orderly _ _ _ _ _) fun _ _ => .refl _
  · exact .bind (.refl _) fun _ _ => .bind (failure_alike orderly _ _ _ _ _) fun _ _ => .refl _

theorem onException_alike (orderly : env.Orderly) (exc : Exn) :
    (onException platform env request exc).Alike Emission.isClient
      (onException platform env.written request exc) :=
  .bind (.refl _) fun _ _ => .bind (failure_alike orderly _ _ _ _ _) fun _ _ => .refl _

theorem onError_alike (orderly : env.Orderly) (exc : Exn) :
    Option.Rel (Program.Alike Emission.isClient) (onError platform env request exc)
      (onError platform env.written request exc) := by
  unfold onError
  split
  · exact .some (onHttpException_alike orderly _ _)
  · split
    · exact .some (onException_alike orderly _)
    · exact .none

theorem report_alike (orderly : env.Orderly) (completion : Completion) :
    (report platform env request completion).Alike Emission.isClient
      (report platform env.written request completion) :=
  .bind (logGuarded_alike orderly .success (ordinary_successRow platform env request completion) _)
    fun _ _ => .refl _

theorem infer_alike (orderly : env.Orderly) :
    (infer platform env request).Alike Emission.isClient (infer platform env.written request) := by
  unfold infer
  split
  · exact .refl _
  · exact .bind (.refl _) fun _ _ => .bind (.refl _) fun _ _ => .bind (.refl _) fun _ _ =>
      .bind (.refl _) fun _ _ => report_alike orderly _

theorem chatCompletions_alike (platform : Platform) (request : Request) (orderly : env.Orderly) :
    (chatCompletions platform env request).Alike Emission.isClient
      (chatCompletions platform env.written request) := by
  have inner : (admitted platform env request).Alike Emission.isClient (admitted platform env.written request) :=
    .bind (.refl _) fun _ _ => .bind (.refl _) fun _ _ =>
      .ensuring (.catching (infer_alike orderly) (onError_alike orderly)) fun _ => .refl _
  have same : env.written.check = env.check := rfl
  unfold chatCompletions
  rw [same]
  refine .bind (.refl _) fun _ _ => ?_
  cases env.check with
  | cancelled => exact .refl _
  | rejected exc => exact rejectRateLimited_alike orderly exc
  | passed => exact inner
  | unavailable => exact inner

/-! ### The event stream shows its write -/

theorem eventStream_written (platform : Platform) (request : Request) (wrote : env.writes .streamed = none)
    (promptTokens : Int) (chunks : List String) (ending : Except Exn Unit) :
    eventStream platform env request promptTokens chunks ending =
      eventStream platform env.written request promptTokens chunks ending := by
  have settles : settleStream platform env request promptTokens =
      settleStream platform env.written request promptTokens := by
    funext error
    simp only [settleStream, logRequest, wrote]
    rfl
  simp only [eventStream, settles]

theorem respond_written (answer : Except Exn Answer)
    (wrote : ∀ promptTokens, answer = .ok (.stream promptTokens) → env.writes .streamed = none) :
    respond platform env request answer = respond platform env.written request answer := by
  cases answer with
  | error exc => cases exc <;> rfl
  | ok answer =>
    cases answer with
    | json result => rfl
    | stream promptTokens =>
      have same := eventStream_written platform request (wrote promptTokens rfl) promptTokens
      have stream : env.written.stream = env.stream := rfl
      simp only [respond, stream, same]

/-! ### The counter -/

theorem counts_noted (env : Environment) (site : Site) (row : Except Exn RequestLog) (message : String) :
    counts (noted env site row message) = 0 := by
  refine List.countP_eq_zero.mpr fun emission among => ?_
  rcases mem_noted among with rfl | rfl | ⟨entry, -, rfl⟩
  · exact Bool.false_ne_true
  · exact Bool.false_ne_true
  · exact Bool.false_ne_true

theorem counts_handled (platform : Platform) (env : Environment) (request : Request) (exc : Exn) :
    counts (handled platform env request exc) = 1 := by
  unfold handled
  split
  · split
    · simp [counts_noted, Emission.isCount]
    · simp [counts_noted, Emission.isCount]
  · simp [counts_noted, Emission.isCount]

theorem counts_turnedAway (env : Environment) (request : Request) (exc : HTTPException) :
    counts (turnedAway env request exc) = 1 := by
  simp [turnedAway, counts_noted, Emission.isCount]

theorem counts_reported (platform : Platform) (env : Environment) (request : Request) (completion : Completion) :
    counts (reported platform env request completion) = 1 := by
  unfold reported
  split
  · split
    · simp [counts_noted, Emission.isCount]
    · simp [counts_noted, Emission.isCount]
  · simp [counts_noted, Emission.isCount]

theorem counts_leave (result : Except Exn Answer) : counts (leave result).emissions = 0 := by
  unfold leave
  split
  · rfl
  · rfl

theorem counts_relay (chunks : List String) (ending : Except Exn Unit) :
    counts (relay platform chunks ending).emissions = 0 := by
  refine List.countP_eq_zero.mpr fun emission listed counted => ?_
  have relayed := relay_emits chunks ending emission listed
  cases emission with
  | requestCount labels => exact relayed
  | _ => cases counted

theorem counts_eventStream {promptTokens : Int} (estimated : estimatePromptTokens request.messages = .ok promptTokens)
    (chunks : List String) (ending : Except Exn Unit) :
    counts (eventStream platform env request promptTokens chunks ending).emissions =
      if (env.writes .streamed).isSome then 0 else 1 := by
  set body : Handling Unit := do
    Program.emit (.asked (affinityKey request) (isMultimodal request))
    relay platform chunks ending with named
  obtain ⟨row, shown⟩ := streamRow_of_estimate platform env estimated (streamError body.result)
  have looped : counts body.emissions = 0 := by
    simp only [named, Program.emit_bind, counts_cons, counts_relay]
    rfl
  have split_here : counts (eventStream platform env request promptTokens chunks ending).emissions =
      counts body.emissions +
        counts (settleStream platform env request promptTokens (streamError body.result)).emissions :=
    counts_append _ _
  rw [split_here, looped]
  cases write : env.writes .streamed with
  | none =>
    rw [settle_of_written write shown (Request.addable_estimate estimated), settled]
    split
    · simp [Emission.isCount]
    · simp [Emission.isCount]
  | some exc =>
    rw [settle_of_failed write shown]
    split
    · simp [Emission.isCount]
    · simp [Emission.isCount]

theorem counts_respond (platform : Platform) (env : Environment) (request : Request) (answer : Except Exn Answer)
    (direct : ∀ promptTokens, answer ≠ .ok (.stream promptTokens)) :
    counts (respond platform env request answer) = 0 := by
  cases answer with
  | ok answer =>
    cases answer with
    | json result => rfl
    | stream promptTokens => exact absurd rfl (direct promptTokens)
  | error exc =>
    refine List.countP_eq_zero.mpr fun emission among counted => ?_
    have client := respond_error_client platform env request exc emission among
    cases emission with
    | requestCount labels => cases client
    | _ => cases counted

theorem counts_respond_stream {promptTokens : Int} {chunks : List String} {ending : Except Exn Unit}
    (stream : env.stream = some (chunks, ending))
    (estimated : estimatePromptTokens request.messages = .ok promptTokens) :
    counts (respond platform env request (.ok (.stream promptTokens))) =
      if (env.writes .streamed).isSome then 0 else 1 := by
  simp [respond, stream, counts_eventStream estimated, Emission.isCount]

/-- Inside the handler a request is counted once, unless its stream is left to count it or its counts make a
counter fail behind the first count. -/
theorem Inferred.counted {inner : List Emission} {result : Except Exn Answer} (calm : Calm platform env request)
    (ways : Inferred platform env request inner result) :
    (∃ promptTokens, result = .ok (.stream promptTokens) ∧ request.stream = true ∧
      estimatePromptTokens request.messages = .ok promptTokens ∧ counts inner = 0) ∨
    ((∀ promptTokens, result ≠ .ok (.stream promptTokens)) ∧
      ¬(request.stream = true ∧ ∃ promptTokens, estimatePromptTokens request.messages = .ok promptTokens) ∧
      (Overflows platform env request ∧ counts inner = 2 ∨ ¬Overflows platform env request ∧ counts inner = 1)) := by
  have begun : counts (started request) = 0 := rfl
  cases ways with
  | streams promptTokens stream estimated => exact .inl ⟨promptTokens, rfl, stream, estimated, rfl⟩
  | unreadable exc stream estimated =>
    refine .inr ⟨fun _ same => (by cases same), ?_, .inr ⟨fun overflows => ?_, counts_handled platform env request exc⟩⟩
    · rintro ⟨-, promptTokens, readable⟩
      rw [estimated] at readable
      cases readable
    · exact absurd overflows.1 (by simp [stream])
  | cancelled exc direct submitted passed =>
    have ordinary := calm.submit exc submitted
    rw [passed] at ordinary
    cases ordinary
  | refused exc direct submitted ordinary =>
    refine .inr ⟨fun _ same => (by cases same), fun both => ?_, .inr ⟨fun overflows => ?_, ?_⟩⟩
    · exact absurd both.1 (by simp [direct])
    · obtain ⟨-, answer, completion, returned, -⟩ := overflows
      cases submitted.symm.trans returned
    · rw [counts_append, begun, counts_handled]
  | malformed answer exc direct submitted malformed =>
    refine .inr ⟨fun _ same => (by cases same), fun both => ?_, .inr ⟨fun overflows => ?_, ?_⟩⟩
    · exact absurd both.1 (by simp [direct])
    · obtain ⟨-, other, completion, returned, completed, -⟩ := overflows
      cases submitted.symm.trans returned
      cases malformed.symm.trans completed
    · rw [counts_append, begun, counts_handled]
  | completed answer completion direct submitted completed accepted =>
    refine .inr ⟨fun _ same => (by cases same), fun both => ?_, .inr ⟨fun overflows => ?_, ?_⟩⟩
    · exact absurd both.1 (by simp [direct])
    · obtain ⟨-, other, completion', returned, completed', large⟩ := overflows
      cases submitted.symm.trans returned
      cases completed.symm.trans completed'
      rcases large with prompt | produced
      · exact absurd accepted.1.2 (not_lt.mpr prompt)
      · exact absurd accepted.2.1.2 (not_lt.mpr produced)
    · rw [counts_append, begun, counts_reported]
  | unaccepted answer completion direct submitted completed exc refused =>
    have ⟨prompt, produced, serial⟩ := calm.sound answer completion submitted completed
    refine .inr ⟨fun _ same => (by cases same), fun both => ?_, .inl ⟨?_, ?_⟩⟩
    · exact absurd both.1 (by simp [direct])
    · refine ⟨direct, answer, completion, submitted, completed, ?_⟩
      by_contra small
      rw [not_or, not_le, not_le] at small
      have accepted : completion.Accepted platform := ⟨⟨prompt, small.1⟩, ⟨produced, small.2⟩, serial⟩
      rw [Completion.refusal_eq_none.mpr accepted] at refused
      cases refused
    · rw [counts_append, counts_append, begun, counts_reported, counts_handled]

theorem counts_serve (calm : Calm platform env request) :
    (StreamLost env request ∧ counts (serve platform env request) = 0) ∨
      (env.check.passes = true ∧ Overflows platform env request ∧ counts (serve platform env request) = 2) ∨
        (¬StreamLost env request ∧ ¬(env.check.passes = true ∧ Overflows platform env request) ∧
          counts (serve platform env request) = 1) := by
  obtain ⟨emissions, result, ways, ran⟩ := visited platform request calm.orderly
  have whole : counts (serve platform env request) =
      counts emissions + counts (respond platform env request result) := by
    rw [serve, ran]
    exact counts_append _ _
  rw [whole]
  cases ways with
  | cancelled checked => exact absurd checked calm.checked
  | rejected exc checked =>
    have turned : ¬env.check.passes = true := by simp [checked, RateCheck.passes]
    have direct := counts_respond platform env request
      (.error (.httpException exc.statusCode (.str exc.detail))) fun _ same => by cases same
    refine .inr (.inr ⟨fun lost => turned lost.1.1, fun both => turned both.1, ?_⟩)
    rw [counts_cons, counts_turnedAway, direct]
    rfl
  | admitted inner result checked ways =>
    have handler : counts (.suspended :: .checked :: .activeInc :: (inner ++ (leave result).emissions)) =
        counts inner := by
      simp [counts_leave, Emission.isCount]
    rw [handler]
    rcases ways.counted calm with ⟨promptTokens, rfl, stream, estimated, nothing⟩ | ⟨direct, unreadable, inside⟩
    · obtain ⟨chunks, ending, begun⟩ := calm.streamed
      rw [nothing, counts_respond_stream begun estimated]
      cases write : env.writes .streamed with
      | none =>
        refine .inr (.inr ⟨fun lost => ?_, fun both => ?_, rfl⟩)
        · have failed := lost.2
          rw [write] at failed
          cases failed
        · exact absurd both.2.1 (by simp [stream])
      | some exc => exact .inl ⟨⟨⟨checked, stream, promptTokens, estimated⟩, by rw [write]; rfl⟩, rfl⟩
    · rw [counts_respond platform env request result direct]
      rcases inside with ⟨overflows, twice⟩ | ⟨fits, once⟩
      · exact .inr (.inl ⟨checked, overflows, by rw [twice]⟩)
      · exact .inr (.inr ⟨fun lost => unreadable lost.1.2, fun both => fits both.2, by rw [once]⟩)

theorem client_of_kept (calm : Calm platform env request) (kept : ¬StreamLost env request) :
    (serve platform env request).filter Emission.isClient =
      (serve platform env.written request).filter Emission.isClient := by
  obtain ⟨emissions, result, ways, ran⟩ := visited platform request calm.orderly
  have alike := chatCompletions_alike platform request calm.orderly
  have wrote : ∀ promptTokens, (chatCompletions platform env request).result = .ok (.stream promptTokens) →
      env.writes .streamed = none := by
    intro promptTokens answered
    rw [ran] at answered
    cases answered
    have ⟨passes, stream, estimated⟩ := ways.streaming
    by_contra failed
    exact kept ⟨⟨passes, stream, promptTokens, estimated⟩, Option.isSome_iff_ne_none.mpr failed⟩
  rw [serve, serve, List.filter_append, List.filter_append, alike.1, respond_written _ wrote, alike.2]

/-- A failing log write shows exactly where it is the one of an event stream: the others are all guarded, that one
stands before the counter in a `finally` clause. Too large counts are counted as a success and as a failure. -/
theorem unaffected_iff (platform : Platform) (env : Environment) (request : Request)
    (calm : Calm platform env request) :
    Unaffected platform env request ↔
      ¬StreamLost env request ∧ ¬(env.check.passes = true ∧ Overflows platform env request) := by
  rcases counts_serve calm with ⟨lost, nothing⟩ | ⟨passes, overflows, twice⟩ | ⟨kept, fits, once⟩
  · refine iff_of_false (fun unaffected => ?_) fun both => both.1 lost
    have counted := unaffected.1
    omega
  · refine iff_of_false (fun unaffected => ?_) fun both => both.2 ⟨passes, overflows⟩
    have counted := unaffected.1
    omega
  · exact iff_of_true ⟨once, client_of_kept calm kept⟩ ⟨kept, fits⟩

end Bookkeeping

/-! ### A database outage -/

def Environment.outage : Environment :=
  { Environment.answering 3 1 with writes := fun _ => some (.other "connection refused") }

theorem calm_outage (request : Request) (estimated : estimatePromptTokens request.messages = .ok 2) :
    Calm .plain .outage request where
  checked same := by cases same
  orderly _ exc failed := by cases failed; rfl
  submit _ refused := by cases refused
  streamed := ⟨_, _, rfl⟩
  sound answer completion submitted completed := by
    cases submitted
    rw [complete, estimated] at completed
    cases completed
    exact ⟨by decide, by decide, rfl⟩

theorem not_overflows_outage (request : Request) (estimated : estimatePromptTokens request.messages = .ok 2) :
    ¬Overflows .plain .outage request := by
  rintro ⟨-, answer, completion, submitted, completed, large⟩
  cases submitted
  rw [complete, estimated] at completed
  cases completed
  have small : (3 : Int) < FLOAT_LIMIT := lt_trans (by decide) maxsize_lt_floatLimit
  rcases large with prompt | produced
  · exact absurd prompt (not_le.mpr small)
  · exact absurd produced (not_le.mpr (lt_trans (by decide) small))

theorem unaffected_outage : Unaffected .plain .outage (.greeting false) :=
  (unaffected_iff _ _ _ (calm_outage _ rfl)).mpr
    ⟨fun lost => (by cases lost.1.2.1), fun both => not_overflows_outage _ rfl both.2⟩

/-- A stream that has delivered everything is cut off by its failing log write, and not counted. -/
theorem not_unaffected :
    ¬∀ (platform : Platform) (env : Environment) (request : Request), Calm platform env request →
      Unaffected platform env request := by
  intro always
  have counted := (always .plain .outage (.greeting true) (calm_outage _ rfl)).1
  exact absurd counted (by decide +kernel)

end LlamacppRay.Gateway.Chat
