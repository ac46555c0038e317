import LlamacppRay.Gateway.ChatPaths
import LlamacppRay.Gateway.Failures

/-! The token counters beside the request log: what a sequence of requests adds to either. -/

namespace LlamacppRay.Gateway.Chat
open LlamacppRay.Asyncio LlamacppRay.Automata LlamacppRay.Python

/-! ### Two ledgers -/

def labelsOf (user : User) (requestType : String) : TokenLabels :=
  { model := MODEL_ALIAS, username := user.username, requestType := requestType }

inductive TokenCounter where
  | prompt
  | completion
  | total
  deriving DecidableEq

def Emission.increment : Emission → Option (TokenCounter × TokenLabels × Int)
  | .promptTokens labels amount => some (.prompt, labels, amount)
  | .completionTokens labels amount => some (.completion, labels, amount)
  | .totalTokens labels amount => some (.total, labels, amount)
  | _ => none

def counterAmount (counter : TokenCounter) (labels : TokenLabels) (emission : Emission) : Int :=
  match emission.increment with
  | some (other, mine, amount) => if other = counter ∧ mine = labels then amount else 0
  | none => 0

def rowAmount (field : RequestLog → Int) (user : User) (requestType : String) : Emission → Int
  | .row row => if row.userId = user.id ∧ row.requestType = requestType ∧ row.statusCode = 200 then field row else 0
  | _ => 0

def tally (amount : Emission → Int) (emissions : List Emission) : Int := (emissions.map amount).sum

def Agrees (users : List User) (emissions : List Emission) : Prop :=
  ∀ user ∈ users, ∀ requestType,
    tally (counterAmount .prompt (labelsOf user requestType)) emissions =
      tally (rowAmount RequestLog.promptTokens user requestType) emissions ∧
    tally (counterAmount .completion (labelsOf user requestType)) emissions =
      tally (rowAmount RequestLog.completionTokens user requestType) emissions ∧
    tally (counterAmount .total (labelsOf user requestType)) emissions =
      tally (counterAmount .prompt (labelsOf user requestType)) emissions +
        tally (counterAmount .completion (labelsOf user requestType)) emissions

/-- Nothing is added to a counter or logged with status 200 but zeros. -/
def Emission.Light : Emission → Prop
  | .promptTokens _ amount | .completionTokens _ amount | .totalTokens _ amount => amount = 0
  | .row entry => entry.statusCode = 200 → entry.promptTokens = 0 ∧ entry.completionTokens = 0
  | _ => True

def Emission.Fair (users : List User) : Emission → Prop
  | .promptTokens labels amount => 0 ≤ amount ∧ ∃ user ∈ users, ∃ requestType, labels = labelsOf user requestType
  | .completionTokens labels amount => 0 ≤ amount ∧ ∃ user ∈ users, ∃ requestType, labels = labelsOf user requestType
  | .totalTokens _ _ => False
  | .row entry => ∃ user ∈ users, entry.userId = user.id
  | _ => True

def Covered (emissions : List Emission) (row : RequestLog) : Prop :=
  (0 < row.promptTokens → ∃ labels, .promptTokens labels row.promptTokens ∈ emissions) ∧
    (row.promptTokens = 0 → 0 < row.completionTokens →
      ∃ labels, .completionTokens labels row.completionTokens ∈ emissions)

structure Sound (users : List User) (emissions : List Emission) : Prop where
  fair : ∀ emission ∈ emissions, emission.Fair users
  covered : ∀ row, .row row ∈ emissions → row.statusCode = 200 → Covered emissions row

section Ledgers
variable {users : List User} {emissions : List Emission} {emission : Emission} {counter : TokenCounter}
  {labels : TokenLabels} {amount : Int}

theorem Emission.Light.increment (light : emission.Light) (adds : emission.increment = some (counter, labels, amount)) :
    amount = 0 := by
  cases emission with
  | promptTokens _ _ | completionTokens _ _ | totalTokens _ _ => cases adds; exact light
  | _ => cases adds

theorem Emission.Fair.increment (fair : emission.Fair users)
    (adds : emission.increment = some (counter, labels, amount)) :
    counter ≠ .total ∧ 0 ≤ amount ∧ ∃ user ∈ users, ∃ requestType, labels = labelsOf user requestType := by
  cases emission with
  | promptTokens _ _ | completionTokens _ _ => cases adds; exact ⟨nofun, fair⟩
  | totalTokens _ _ => exact absurd fair id
  | _ => cases adds

/-! ### Sums of amounts of one sign -/

theorem tally_nonneg {amount : Emission → Int} (each : ∀ emission ∈ emissions, 0 ≤ amount emission) :
    0 ≤ tally amount emissions := by
  refine List.sum_nonneg fun value listed => ?_
  obtain ⟨emission, among, rfl⟩ := List.mem_map.mp listed
  exact each emission among

theorem tally_zero {amount : Emission → Int} (each : ∀ emission ∈ emissions, amount emission = 0) :
    tally amount emissions = 0 := by
  refine List.sum_eq_zero fun value listed => ?_
  obtain ⟨emission, among, rfl⟩ := List.mem_map.mp listed
  exact each emission among

theorem amount_zero {amount : Emission → Int} (each : ∀ emission ∈ emissions, 0 ≤ amount emission)
    (nothing : tally amount emissions = 0) {emission : Emission} (among : emission ∈ emissions) :
    amount emission = 0 := by
  refine List.all_zero_of_le_zero_le_of_sum_eq_zero (fun value listed => ?_) nothing (List.mem_map_of_mem among)
  obtain ⟨other, present, rfl⟩ := List.mem_map.mp listed
  exact each other present

theorem amount_zero_of_nonpos {amount : Emission → Int} (each : ∀ emission ∈ emissions, amount emission ≤ 0)
    (nothing : tally amount emissions = 0) {emission : Emission} (among : emission ∈ emissions) :
    amount emission = 0 := by
  have turned : tally (fun other => -amount other) emissions = 0 := by
    calc tally (fun other => -amount other) emissions = -tally amount emissions := by
          simp only [tally, List.sum_neg, List.map_map, Function.comp_def]
      _ = 0 := by rw [nothing, neg_zero]
  have zero := amount_zero (fun other present => neg_nonneg.mpr (each other present)) turned among
  omega

theorem row_zero {field : RequestLog → Int} {user : User} {requestType : String}
    (low : ∀ row, .row row ∈ emissions → row.userId = user.id → row.requestType = requestType →
      row.statusCode = 200 → field row ≤ 0)
    (nothing : tally (rowAmount field user requestType) emissions = 0) {row : RequestLog}
    (among : .row row ∈ emissions) (mine : row.userId = user.id) (typed : row.requestType = requestType)
    (success : row.statusCode = 200) : field row = 0 := by
  have each : ∀ emission ∈ emissions, rowAmount field user requestType emission ≤ 0 := by
    intro emission present
    cases emission with
    | row other =>
      simp only [rowAmount]
      split
      next here => exact low other present here.1 here.2.1 here.2.2
      next => exact le_rfl
    | _ => exact le_rfl
  have zero := amount_zero_of_nonpos each nothing among
  simpa [rowAmount, mine, typed, success] using zero

/-! ### When the ledgers agree -/

section Sound
variable (sound : Sound users emissions)
include sound

theorem counterAmount_nonneg (counter : TokenCounter) (labels : TokenLabels) :
    ∀ emission ∈ emissions, 0 ≤ counterAmount counter labels emission := by
  intro emission among
  unfold counterAmount
  split
  next other mine amount adds =>
    split
    · exact ((sound.fair emission among).increment adds).2.1
    · exact le_rfl
  next => exact le_rfl

theorem total_zero (labels : TokenLabels) : tally (counterAmount .total labels) emissions = 0 := by
  refine Chat.tally_zero fun emission among => ?_
  unfold counterAmount
  split
  next other mine amount adds =>
    rw [if_neg]
    exact fun both => ((sound.fair emission among).increment adds).1 both.1
  next => rfl

/-- The third counter stands at zero, so in agreement the other two do as well. -/
theorem Agrees.tally_zero (agrees : Agrees users emissions) {user : User} (known : user ∈ users) (requestType : String)
    (counter : TokenCounter) : tally (counterAmount counter (labelsOf user requestType)) emissions = 0 := by
  obtain ⟨-, -, sum⟩ := agrees user known requestType
  have none := total_zero sound (labelsOf user requestType)
  have prompt := tally_nonneg (counterAmount_nonneg sound .prompt (labelsOf user requestType))
  have completion := tally_nonneg (counterAmount_nonneg sound .completion (labelsOf user requestType))
  cases counter with
  | prompt => omega
  | completion => omega
  | total => exact none

theorem Agrees.increment (agrees : Agrees users emissions) (among : emission ∈ emissions)
    (adds : emission.increment = some (counter, labels, amount)) : amount = 0 := by
  obtain ⟨-, -, user, known, requestType, rfl⟩ := (sound.fair _ among).increment adds
  have zero := amount_zero (counterAmount_nonneg sound counter _) (agrees.tally_zero sound known requestType counter) among
  simpa [counterAmount, adds] using zero

/-- No row has a positive count, since that would have been counted; so none has a negative one either. -/
theorem Agrees.rows (agrees : Agrees users emissions) {row : RequestLog} (among : .row row ∈ emissions)
    (success : row.statusCode = 200) : row.promptTokens = 0 ∧ row.completionTokens = 0 := by
  obtain ⟨user, known, same⟩ := sound.fair _ among
  have counters := agrees.tally_zero sound known row.requestType .prompt
  have completions := agrees.tally_zero sound known row.requestType .completion
  obtain ⟨prompts, produced, -⟩ := agrees user known row.requestType
  have zero : ∀ other, .row other ∈ emissions → other.userId = user.id → other.requestType = row.requestType →
      other.statusCode = 200 → other.promptTokens = 0 := by
    intro other present mine typed ok
    refine row_zero (fun one listed _ _ accepted => ?_) (prompts.symm.trans counters) present mine typed ok
    by_contra positive
    obtain ⟨labels, counted⟩ := (sound.covered one listed accepted).1 (not_le.mp positive)
    have nothing := agrees.increment sound counted rfl
    omega
  refine ⟨zero row among same rfl success, ?_⟩
  refine row_zero (fun one listed mine typed accepted => ?_) (produced.symm.trans completions) among same rfl success
  by_contra positive
  obtain ⟨labels, counted⟩ :=
    (sound.covered one listed accepted).2 (zero one listed mine typed accepted) (not_le.mp positive)
  have nothing := agrees.increment sound counted rfl
  omega

theorem agrees_iff_light : Agrees users emissions ↔ ∀ emission ∈ emissions, emission.Light := by
  constructor
  · intro agrees emission among
    cases emission with
    | promptTokens | completionTokens => exact agrees.increment sound among rfl
    | totalTokens => exact absurd (sound.fair _ among) id
    | row row => exact agrees.rows sound among
    | _ => trivial
  · intro light user known requestType
    have zero : ∀ counter, tally (counterAmount counter (labelsOf user requestType)) emissions = 0 := by
      refine fun counter => Chat.tally_zero fun emission among => ?_
      unfold counterAmount
      split
      next other mine amount adds => rw [(light emission among).increment adds, ite_self]
      next => rfl
    have rows : ∀ field : RequestLog → Int,
        (∀ row, row.promptTokens = 0 ∧ row.completionTokens = 0 → field row = 0) →
          tally (rowAmount field user requestType) emissions = 0 := by
      intro field read
      refine Chat.tally_zero fun emission among => ?_
      have here := light emission among
      cases emission with
      | row row =>
        simp only [rowAmount]
        split
        next mine => exact read row (here mine.2.2)
        next => rfl
      | _ => rfl
    rw [zero, zero, zero, rows _ fun _ none => none.1, rows _ fun _ none => none.2]
    exact ⟨rfl, rfl, rfl⟩

end Sound

end Ledgers

/-! ### What a request weighs -/

/-- The columns of the request log hold integers of 32 bits. -/
def RequestLog.Fits (row : RequestLog) : Prop :=
  -(2 ^ 31) ≤ row.promptTokens ∧ row.promptTokens < 2 ^ 31 ∧
    -(2 ^ 31) ≤ row.completionTokens ∧ row.completionTokens < 2 ^ 31

instance (row : RequestLog) : Decidable row.Fits := inferInstanceAs (Decidable (_ ∧ _))

/-- What the rate limiter and the router can come to, and every row is written: its columns have room for it. -/
structure Genuine (platform : Platform) (env : Environment) (request : Request) : Prop where
  limited : ∀ exc, env.check = .rejected exc → exc.statusCode = 429
  submitted : ∀ exc, env.submit = .error exc → Submit.Fails exc
  written : ∀ site, env.writes site = none
  fits : ∀ row, .row row ∈ serve platform env request → row.Fits

theorem statusCode_of_checkRateLimit {text : FloatText} {store : RateStore} {call : RateCall} {exc : HTTPException}
    (rejected : (checkRateLimit text store call).2 = .error exc) : exc.statusCode = 429 := by
  simp only [checkRateLimit] at rejected
  split at rejected
  · cases rejected
    rfl
  · cases rejected

theorem genuine_of_system {platform : Platform} {env : Environment} {request : Request} {text : FloatText} {store : RateStore}
    {now served : ℚ} {hash : String → Int} {p : NodePool} {s : Router} {index : Nat} {log : List Action}
    (limited : env.check = .ofCall (checkRateLimit text store (request.rateCall now served)).2)
    (reached : (Router.machine hash).Reaches ⟨Monitor.unlocked p, []⟩ s)
    (called : s.calls[index]? = some ⟨.submit (.done env.submit), log⟩) (written : ∀ site, env.writes site = none)
    (fits : ∀ row, .row row ∈ serve platform env request → row.Fits) : Genuine platform env request where
  limited exc rejected := by
    rw [limited] at rejected
    cases checked : (checkRateLimit text store (request.rateCall now served)).2 with
    | ok done =>
      rw [checked] at rejected
      cases rejected
    | error other =>
      rw [checked] at rejected
      cases rejected
      exact statusCode_of_checkRateLimit checked
  submitted exc failed := by
    rw [failed] at called
    exact Router.submit_fails reached called
  written := written
  fits := fits

/-- A finished inference that adds no tokens, as the counters and the row of the request have it. Without a row only
what the counters take adds anything. -/
def Completion.Weightless (platform : Platform) (completion : Completion) : Prop :=
  if (buildSuccessResponsePreview platform completion.result).isOk then
    completion.promptTokens = 0 ∧ completion.completionTokens = 0
  else Addable completion.promptTokens →
    completion.promptTokens = 0 ∧ (Addable completion.completionTokens → completion.completionTokens = 0)

def Weightless (platform : Platform) (env : Environment) (request : Request) : Prop :=
  env.check.passes = true →
    if request.stream then
      (∃ promptTokens, estimatePromptTokens request.messages = .ok promptTokens) → env.stream = none
    else ∀ answer completion, env.submit = .ok answer → complete platform request answer = .ok completion →
      completion.Weightless platform

def Emission.Idle : Emission → Prop
  | .promptTokens _ _ | .completionTokens _ _ | .totalTokens _ _ => False
  | .row entry => entry.statusCode ≠ 200
  | _ => True

section Requests
variable {platform : Platform} {env : Environment} {request : Request} {users : List User}

theorem Emission.Idle.light {emission : Emission} (idle : emission.Idle) : emission.Light := by
  cases emission with
  | promptTokens => exact absurd idle id
  | completionTokens => exact absurd idle id
  | totalTokens => exact absurd idle id
  | row entry => exact fun success => absurd success idle
  | _ => trivial

theorem Emission.Own.fair {emission : Emission} (own : emission.Own request) (known : request.user ∈ users) :
    emission.Fair users := by
  cases emission with
  | promptTokens labels amount => exact ⟨own.2, request.user, known, request.requestType, own.1⟩
  | completionTokens labels amount => exact ⟨own.2, request.user, known, request.requestType, own.1⟩
  | totalTokens labels amount => exact own
  | row entry => exact ⟨request.user, known, own⟩
  | _ => trivial

theorem chatCompletions_fair (platform : Platform) (env : Environment) (known : request.user ∈ users) :
    (chatCompletions platform env request).Emits (Emission.Fair users) := by
  have inner := (attempt_own platform env request).mono fun _ own => own.fair known
  have through : (admitted platform env request).Emits (Emission.Fair users) := by
    refine .bind (.emit trivial) fun _ _ => .bind (.emit trivial) fun _ _ => .ensuring inner fun result => ?_
    unfold leave
    split
    · exact .emit trivial
    · exact .bind (.emit trivial) fun _ _ => .emit trivial
  refine .bind (.emit trivial) fun _ _ => ?_
  cases env.check with
  | cancelled => exact .raise _
  | rejected exc => exact (rejectRateLimited_own env request exc).mono fun _ own => own.fair known
  | passed => exact through
  | unavailable => exact through

theorem respond_fair (platform : Platform) (env : Environment) (known : request.user ∈ users)
    (answer : Except Exn Answer) : ∀ emission ∈ respond platform env request answer, emission.Fair users := by
  cases answer with
  | error exc =>
    intro emission among
    have client := respond_error_client platform env request exc emission among
    cases emission with
    | promptTokens | completionTokens | totalTokens | row => cases client
    | _ => trivial
  | ok answer =>
    cases answer with
    | json result => simp [respond, Emission.Fair]
    | stream promptTokens =>
      cases begun : env.stream with
      | none => simp [respond, begun, Emission.Fair]
      | some run =>
        have streamed := (eventStream_own platform env request promptTokens run.1 run.2).mono
          fun _ own => own.fair known
        simp only [respond, begun, List.forall_mem_append]
        exact ⟨⟨by simp [Emission.Fair], streamed⟩, by simp [Emission.Fair]⟩

theorem serve_fair (platform : Platform) (env : Environment) (known : request.user ∈ users) :
    ∀ emission ∈ serve platform env request, emission.Fair users :=
  List.forall_mem_append.mpr ⟨chatCompletions_fair platform env known, respond_fair platform env known _⟩

/-! ### Where nothing is added -/

theorem idle_noted {site : Site} {row : Except Exn RequestLog} {message : String}
    (refused : ∀ entry, row = .ok entry → entry.statusCode ≠ 200) :
    ∀ emission ∈ noted env site row message, emission.Idle := by
  intro emission among
  rcases mem_noted among with rfl | rfl | ⟨entry, shown, rfl⟩
  · trivial
  · trivial
  · exact refused entry shown

theorem failureRow_status {site : Site} {nodeIp : Json} {statusCode : Int} {error : String} {entry : RequestLog}
    (shown : failureRow env request site nodeIp statusCode error = .ok entry) : entry.statusCode = statusCode := by
  obtain ⟨promptTokens, -, rest⟩ := ok_of_bind shown
  obtain ⟨preview, -, last⟩ := ok_of_bind rest
  cases last
  rfl

theorem idle_failure {site : Site} {nodeIp : Json} {statusCode : Int} {error message : String}
    (refused : statusCode ≠ 200) : ∀ emission ∈ noted env site (failureRow env request site nodeIp statusCode error)
      message, emission.Idle := by
  refine idle_noted fun entry shown => ?_
  rw [failureRow_status shown]
  exact refused

theorem idle_handled (platform : Platform) (env : Environment) (request : Request) {exc : Exn}
    (refused : ∀ statusCode detail, exc = .httpException statusCode detail → statusCode ≠ 200) :
    ∀ emission ∈ handled platform env request exc, emission.Idle := by
  unfold handled
  split
  next statusCode detail =>
    have counted : ∀ emission ∈ (.requestCount (countLabels request statusCode "false" "unknown") ::
        noted env .httpError (httpErrorRow platform env request statusCode detail)
          "Failed to log HTTPException request"), emission.Idle :=
      List.forall_mem_cons.mpr ⟨trivial, idle_failure (refused statusCode detail rfl)⟩
    split
    · exact List.forall_mem_cons.mpr ⟨trivial, counted⟩
    · exact counted
  next => exact List.forall_mem_cons.mpr ⟨trivial, idle_failure (by decide)⟩

theorem idle_turnedAway {exc : HTTPException} (refused : exc.statusCode ≠ 200) :
    ∀ emission ∈ turnedAway env request exc, emission.Idle :=
  List.forall_mem_cons.mpr ⟨trivial, List.forall_mem_cons.mpr ⟨trivial, idle_failure refused⟩⟩

theorem idle_leave (result : Except Exn Answer) : ∀ emission ∈ (leave result).emissions, emission.Idle := by
  unfold leave
  split
  · simp [Emission.Idle]
  · simp [Emission.Idle]

theorem idle_respond_error (exc : Exn) : ∀ emission ∈ respond platform env request (.error exc), emission.Idle := by
  intro emission among
  have client := respond_error_client platform env request exc emission among
  cases emission with
  | promptTokens | completionTokens | totalTokens | row => cases client
  | _ => trivial

/-! ### Where something may be added -/

structure Weighed (emissions : List Emission) (weightless : Prop) : Prop where
  light : (∀ emission ∈ emissions, emission.Light) ↔ weightless
  covered : ∀ row, .row row ∈ emissions → row.statusCode = 200 → Covered emissions row

theorem Covered.mono {first second : List Emission} {row : RequestLog} (covered : Covered first row)
    (more : first ⊆ second) : Covered second row :=
  ⟨fun positive => (covered.1 positive).imp fun _ among => more among,
    fun none positive => (covered.2 none positive).imp fun _ among => more among⟩

theorem Weighed.idle {emissions : List Emission} {weightless : Prop} (idle : ∀ emission ∈ emissions, emission.Idle)
    (holds : weightless) : Weighed emissions weightless where
  light := iff_of_true (fun emission among => (idle emission among).light) holds
  covered _ among success := absurd success (idle _ among)

theorem Weighed.within {before middle after : List Emission} {weightless : Prop} (weighed : Weighed middle weightless)
    (first : ∀ emission ∈ before, emission.Idle) (last : ∀ emission ∈ after, emission.Idle) :
    Weighed (before ++ middle ++ after) weightless where
  light := by
    rw [List.forall_mem_append, List.forall_mem_append, ← weighed.light]
    exact ⟨fun all => all.1.2, fun light => ⟨⟨fun emission among => (first emission among).light, light⟩,
      fun emission among => (last emission among).light⟩⟩
  covered row among success := by
    have inside : Emission.row row ∈ middle := by
      rcases List.mem_append.mp among with early | late
      · rcases List.mem_append.mp early with before | here
        · exact absurd success (first _ before)
        · exact here
      · exact absurd success (last _ late)
    refine (weighed.covered row inside success).mono fun emission listed => ?_
    exact List.mem_append_left _ (List.mem_append_right _ listed)

theorem estimate_of_complete {answer : Json} {completion : Completion}
    (completed : complete platform request answer = .ok completion) :
    ∃ promptTokens, estimatePromptTokens request.messages = .ok promptTokens := by
  obtain ⟨result, -, rest⟩ := ok_of_bind completed
  obtain ⟨usage, -, rest⟩ := ok_of_bind rest
  obtain ⟨promptTokens, estimated, -⟩ := ok_of_bind rest
  exact ⟨promptTokens, estimated⟩

theorem weighed_unlogged {completion : Completion} {exc : Exn}
    (unshown : buildSuccessResponsePreview platform completion.result = .error exc)
    (row : successRow platform env request completion = .error exc) :
    Weighed (reported platform env request completion) (completion.Weightless platform) := by
  have weightless : completion.Weightless platform ↔ (Addable completion.promptTokens →
      completion.promptTokens = 0 ∧ (Addable completion.completionTokens → completion.completionTokens = 0)) := by
    rw [Completion.Weightless, unshown]
    exact Iff.rfl
  constructor
  · rw [weightless]
    simp only [reported, row, noted]
    by_cases prompt : Addable completion.promptTokens
    · by_cases produced : Addable completion.completionTokens
      · simp [prompt, produced, Emission.Light]
      · simp [prompt, produced, Emission.Light]
    · simp [prompt, Emission.Light]
  · intro entry among
    simp only [reported, row, noted] at among
    split at among
    · split at among
      · simp at among
      · simp at among
    · simp at among

theorem weighed_logged {completion : Completion} {preview : String} {row : RequestLog}
    (shown : buildSuccessResponsePreview platform completion.result = .ok preview)
    (logged : successRow platform env request completion = .ok row) (written : env.writes .success = none)
    (success : row.statusCode = 200) (prompt : row.promptTokens = completion.promptTokens)
    (completions : row.completionTokens = completion.completionTokens) (fits : row.Fits) :
    Weighed (reported platform env request completion) (completion.Weightless platform) := by
  have weightless : completion.Weightless platform ↔
      completion.promptTokens = 0 ∧ completion.completionTokens = 0 := by
    rw [Completion.Weightless, shown]
    exact Iff.rfl
  obtain ⟨-, prompt_lt, -, completion_lt⟩ := fits
  rw [prompt] at prompt_lt
  rw [completions] at completion_lt
  have small : (2 ^ 31 : Int) ≤ MAXSIZE := by decide
  have counted : 0 ≤ completion.promptTokens →
      .promptTokens (tokenLabels request) completion.promptTokens ∈ reported platform env request completion := by
    intro nonneg
    simp [reported, addable_of_le nonneg (prompt_lt.le.trans small)]
  have produced : 0 ≤ completion.promptTokens → 0 ≤ completion.completionTokens →
      .completionTokens (tokenLabels request) completion.completionTokens ∈
        reported platform env request completion := by
    intro nonneg also
    simp [reported, addable_of_le nonneg (prompt_lt.le.trans small),
      addable_of_le also (completion_lt.le.trans small)]
  constructor
  · rw [weightless]
    simp only [reported, logged, noted, written]
    by_cases taken : Addable completion.promptTokens
    · by_cases also : Addable completion.completionTokens
      · simp [taken, also, Emission.Light, success, prompt, completions]
      · simp [taken, also, Emission.Light, success, prompt, completions]
        exact fun zero _ => zero
    · simp [taken, Emission.Light, success, prompt, completions]
  · intro entry among ok
    have same : entry = row := by
      simp only [reported, logged, noted, written] at among
      split at among
      · split at among
        · simpa using among
        · simpa using among
      · simpa using among
    subst same
    rw [Covered, prompt, completions]
    exact ⟨fun positive => ⟨_, counted positive.le⟩, fun none positive => ⟨_, produced none.ge positive.le⟩⟩

theorem weighed_reported (written : env.writes .success = none) {answer : Json} {completion : Completion}
    (completed : complete platform request answer = .ok completion)
    (fits : ∀ row, .row row ∈ reported platform env request completion → row.Fits) :
    Weighed (reported platform env request completion) (completion.Weightless platform) := by
  obtain ⟨promptTokens, estimated⟩ := estimate_of_complete completed
  obtain ⟨preview, shown⟩ := preview_of_estimate estimated false
  cases answered : buildSuccessResponsePreview platform completion.result with
  | error exc =>
    refine weighed_unlogged answered ?_
    rw [successRow, shown, answered]
    rfl
  | ok responsePreview =>
    obtain ⟨row, logged, success, prompt, completions⟩ : ∃ row,
        successRow platform env request completion = .ok row ∧ row.statusCode = 200 ∧
          row.promptTokens = completion.promptTokens ∧ row.completionTokens = completion.completionTokens := by
      rw [successRow, shown, answered]
      exact ⟨_, rfl, rfl, rfl, rfl⟩
    have listed : .row row ∈ reported platform env request completion := by
      simp [reported, noted, logged, written]
    exact weighed_logged answered logged written success prompt completions (fits row listed)

theorem weighed_settled {promptTokens : Int} {error : Option Exn} {row : RequestLog} (positive : 1 ≤ promptTokens)
    (shown : streamRow platform env request promptTokens error = .ok row) :
    Weighed (settled env request promptTokens error row) False := by
  have counted : .promptTokens (tokenLabels request) promptTokens ∈ settled env request promptTokens error row := by
    simp [settled]
  obtain ⟨preview, -, last⟩ := ok_of_bind shown
  cases last
  constructor
  · refine iff_of_false (fun light => ?_) id
    have zero : promptTokens = 0 := light _ counted
    omega
  · intro entry among success
    have tokens : entry.promptTokens = promptTokens ∧ entry.completionTokens = 0 := by
      simp only [settled] at among
      split at among
      · simp only [List.cons_append, List.nil_append, List.mem_cons, reduceCtorEq, Emission.row.injEq, false_or,
          List.not_mem_nil, or_false] at among
        rw [among]
        exact ⟨rfl, rfl⟩
      · simp only [List.nil_append, List.mem_cons, reduceCtorEq, Emission.row.injEq, false_or,
          List.not_mem_nil, or_false] at among
        rw [among]
        exact ⟨rfl, rfl⟩
    rw [Covered, tokens.1, tokens.2]
    exact ⟨fun _ => ⟨_, counted⟩, fun none => by omega⟩

theorem idle_relay (chunks : List String) (ending : Except Exn Unit) :
    ∀ emission ∈ (relay platform chunks ending).emissions, emission.Idle := by
  intro emission among
  have relayed := relay_emits chunks ending emission among
  cases emission with
  | suspended => trivial
  | chunk text => trivial
  | _ => cases relayed

theorem weighed_eventStream (platform : Platform) (written : ∀ site, env.writes site = none) {promptTokens : Int}
    (estimated : estimatePromptTokens request.messages = .ok promptTokens) (chunks : List String)
    (ending : Except Exn Unit) :
    Weighed (eventStream platform env request promptTokens chunks ending).emissions False := by
  set body : Handling Unit := do
    Program.emit (.asked (affinityKey request) (isMultimodal request))
    relay platform chunks ending with named
  obtain ⟨row, shown⟩ := streamRow_of_estimate platform env estimated (streamError body.result)
  have positive := one_le_estimate estimated
  have looped : ∀ emission ∈ body.emissions, emission.Idle :=
    List.forall_mem_cons.mpr ⟨trivial, idle_relay chunks ending⟩
  have parts : (eventStream platform env request promptTokens chunks ending).emissions =
      body.emissions ++ settled env request promptTokens (streamError body.result) row ++ [] := by
    rw [List.append_nil, eventStream, Program.ensuring, ← named,
      settle_of_written (written .streamed) shown (Request.addable_estimate estimated)]
  rw [parts]
  exact (weighed_settled positive shown).within looped (by simp)

/-! ### Whole requests -/

theorem Weighed.congr {emissions : List Emission} {first second : Prop} (weighed : Weighed emissions first)
    (same : first ↔ second) : Weighed emissions second :=
  ⟨weighed.light.trans same, weighed.covered⟩

theorem weightless_of_stream (platform : Platform) (passes : env.check.passes = true) (stream : request.stream = true)
    {promptTokens : Int} (estimated : estimatePromptTokens request.messages = .ok promptTokens) :
    Weightless platform env request ↔ env.stream = none := by
  rw [Weightless, if_pos stream]
  exact ⟨fun weightless => weightless passes ⟨promptTokens, estimated⟩, fun unstarted _ _ => unstarted⟩

theorem weightless_of_unreadable (stream : request.stream = true) {exc : Exn}
    (unreadable : estimatePromptTokens request.messages = .error exc) : Weightless platform env request := by
  rw [Weightless, if_pos stream]
  rintro - ⟨promptTokens, estimated⟩
  rw [unreadable] at estimated
  cases estimated

theorem weightless_of_unfinished (direct : request.stream = false)
    (unfinished : ∀ answer, env.submit = .ok answer → ∀ completion, complete platform request answer ≠ .ok completion) :
    Weightless platform env request := by
  rw [Weightless, if_neg (by simp [direct])]
  exact fun _ answer completion submitted completed => absurd completed (unfinished answer submitted completion)

theorem weightless_of_completed (passes : env.check.passes = true) (direct : request.stream = false) {answer : Json}
    {completion : Completion} (submitted : env.submit = .ok answer)
    (completed : complete platform request answer = .ok completion) :
    Weightless platform env request ↔ completion.Weightless platform := by
  rw [Weightless, if_neg (by simp [direct])]
  refine ⟨fun weightless => weightless passes answer completion submitted completed, ?_⟩
  intro light _ other done same read
  cases submitted.symm.trans same
  cases completed.symm.trans read
  exact light

theorem weighed_streaming (platform : Platform) (written : ∀ site, env.writes site = none)
    (passes : env.check.passes = true) (stream : request.stream = true) {promptTokens : Int}
    (estimated : estimatePromptTokens request.messages = .ok promptTokens) :
    Weighed ((leave (.ok (.stream promptTokens))).emissions ++
      respond platform env request (.ok (.stream promptTokens))) (Weightless platform env request) := by
  have weightless := weightless_of_stream platform passes stream estimated
  cases opened : env.stream with
  | none =>
    refine .idle ?_ (weightless.mpr opened)
    simp [leave, respond, opened, Emission.Idle]
  | some run =>
    have parts : (leave (.ok (.stream promptTokens))).emissions ++
        respond platform env request (.ok (.stream promptTokens)) =
        [Emission.activeDec, .suspended, .status 200] ++
          (eventStream platform env request promptTokens run.1 run.2).emissions ++
            [Emission.finished, .ended (eventStream platform env request promptTokens run.1 run.2).result.isOk] := by
      simp [leave, respond, opened]
    have weighed := weighed_eventStream platform written estimated run.1 run.2
    rw [parts]
    refine (weighed.within (by simp [Emission.Idle]) (by simp [Emission.Idle])).congr ?_
    rw [weightless, opened]
    exact iff_of_false id (Option.some_ne_none run)

theorem weighed_inferred (genuine : Genuine platform env request) (passes : env.check.passes = true)
    {inner : List Emission} {result : Except Exn Answer} (ways : Inferred platform env request inner result)
    (served : inner ⊆ serve platform env request) :
    Weighed (inner ++ ((leave result).emissions ++ respond platform env request result))
      (Weightless platform env request) := by
  have failed : ∀ exc, ∀ emission ∈ (leave (.error exc)).emissions ++ respond platform env request (.error exc),
      emission.Idle := fun exc => List.forall_mem_append.mpr ⟨idle_leave _, idle_respond_error exc⟩
  have begun : ∀ emission ∈ started request, emission.Idle := by simp [started, Emission.Idle]
  cases ways with
  | streams promptTokens stream estimated =>
    exact weighed_streaming platform genuine.written passes stream estimated
  | unreadable exc stream unreadable =>
    obtain ⟨message, rfl⟩ := ordinary_estimate _ exc unreadable
    refine .idle (List.forall_mem_append.mpr ⟨?_, failed _⟩) (weightless_of_unreadable stream unreadable)
    exact idle_handled _ _ _ fun _ _ other => by cases other
  | cancelled exc direct submitted passed =>
    refine .idle (List.forall_mem_append.mpr ⟨begun, failed exc⟩) (weightless_of_unfinished direct ?_)
    intro answer same
    rw [submitted] at same
    cases same
  | refused exc direct submitted ordinary =>
    have refused : ∀ emission ∈ handled platform env request exc, emission.Idle := by
      refine idle_handled platform env request fun statusCode detail named => ?_
      have fails := genuine.submitted exc submitted
      rw [named] at fails
      exact fails.ne_success
    refine .idle (List.forall_mem_append.mpr ⟨List.forall_mem_append.mpr ⟨begun, refused⟩, failed _⟩)
      (weightless_of_unfinished direct ?_)
    intro answer same
    rw [submitted] at same
    cases same
  | malformed answer exc direct submitted completed =>
    obtain ⟨message, rfl⟩ := ordinary_complete platform request answer exc completed
    have refused : ∀ emission ∈ handled platform env request (.other message), emission.Idle :=
      idle_handled _ _ _ fun _ _ other => by cases other
    refine .idle (List.forall_mem_append.mpr ⟨List.forall_mem_append.mpr ⟨begun, refused⟩, failed _⟩)
      (weightless_of_unfinished direct ?_)
    intro other same completion done
    cases submitted.symm.trans same
    cases completed.symm.trans done
  | completed answer completion direct submitted completed accepted =>
    have rest : ∀ emission ∈ (leave (.ok (.json completion.result))).emissions ++
        respond platform env request (.ok (.json completion.result)), emission.Idle := by
      simp [leave, respond, Emission.Idle]
    have fits : ∀ row, .row row ∈ reported platform env request completion → row.Fits :=
      fun row among => genuine.fits row (served (List.mem_append_right _ among))
    exact ((weighed_reported (genuine.written .success) completed fits).within begun rest).congr
      (weightless_of_completed passes direct submitted completed).symm
  | unaccepted answer completion direct submitted completed exc refused =>
    obtain ⟨message, rfl⟩ := Completion.ordinary_refusal refused
    have broken : ∀ emission ∈ handled platform env request (.other message), emission.Idle :=
      idle_handled _ _ _ fun _ _ other => by cases other
    have fits : ∀ row, .row row ∈ reported platform env request completion → row.Fits :=
      fun row among => genuine.fits row (served (List.mem_append_right _ (List.mem_append_left _ among)))
    have inner := (weighed_reported (genuine.written .success) completed fits).within begun broken
    rw [List.append_assoc] at inner
    exact (inner.within (List.forall_mem_nil _) (failed _)).congr
      (weightless_of_completed passes direct submitted completed).symm

theorem weighed_serve (genuine : Genuine platform env request) :
    Weighed (serve platform env request) (Weightless platform env request) := by
  have orderly : env.Orderly := fun site exc failed => by
    rw [genuine.written site] at failed
    cases failed
  obtain ⟨emissions, result, ways, ran⟩ := visited platform request orderly
  have whole : serve platform env request = emissions ++ respond platform env request result := by
    rw [serve, ran]
  rw [whole]
  cases ways with
  | cancelled checked =>
    refine .idle (List.forall_mem_append.mpr ⟨by simp [Emission.Idle], idle_respond_error _⟩) fun passes => ?_
    rw [checked] at passes
    cases passes
  | rejected exc checked =>
    have refused : exc.statusCode ≠ 200 := by
      rw [genuine.limited exc checked]
      decide
    refine .idle (List.forall_mem_append.mpr ⟨List.forall_mem_cons.mpr ⟨trivial, idle_turnedAway refused⟩,
      idle_respond_error _⟩) fun passes => ?_
    rw [checked] at passes
    cases passes
  | admitted inner result passes ways =>
    have parts : (Emission.suspended :: .checked :: .activeInc :: (inner ++ (leave result).emissions)) ++
        respond platform env request result = [Emission.suspended, .checked, .activeInc] ++
          (inner ++ ((leave result).emissions ++ respond platform env request result)) ++ [] := by
      simp
    have served : inner ⊆ serve platform env request := by
      rw [whole]
      intro emission among
      exact List.mem_append_left _ (List.mem_cons_of_mem _ (List.mem_cons_of_mem _ (List.mem_cons_of_mem _
        (List.mem_append_left _ among))))
    rw [parts]
    exact (weighed_inferred genuine passes ways served).within (by simp [Emission.Idle]) (List.forall_mem_nil _)

end Requests

/-- The counters agree with the request log exactly as long as no request adds a token to either: the counter of all
tokens is declared but never increased. -/
theorem agrees_iff (platform : Platform) (visits : List (Environment × Request))
    (genuine : ∀ visit ∈ visits, Genuine platform visit.1 visit.2) :
    Agrees (visits.map fun visit => visit.2.user) (visits.flatMap fun visit => serve platform visit.1 visit.2) ↔
      ∀ visit ∈ visits, Weightless platform visit.1 visit.2 := by
  have weighed : ∀ visit ∈ visits, Weighed (serve platform visit.1 visit.2)
      (Weightless platform visit.1 visit.2) :=
    fun visit among => weighed_serve (genuine visit among)
  have sound : Sound (visits.map fun visit => visit.2.user)
      (visits.flatMap fun visit => serve platform visit.1 visit.2) := by
    constructor
    · intro emission listed
      obtain ⟨visit, among, emitted⟩ := List.mem_flatMap.mp listed
      exact serve_fair platform visit.1 (List.mem_map.mpr ⟨visit, among, rfl⟩) emission emitted
    · intro row listed success
      obtain ⟨visit, among, emitted⟩ := List.mem_flatMap.mp listed
      exact ((weighed visit among).covered row emitted success).mono fun _ other =>
        List.mem_flatMap.mpr ⟨visit, among, other⟩
  rw [agrees_iff_light sound]
  constructor
  · intro light visit among
    exact (weighed visit among).light.mp fun emission emitted =>
      light emission (List.mem_flatMap.mpr ⟨visit, among, emitted⟩)
  · intro weightless emission listed
    obtain ⟨visit, among, emitted⟩ := List.mem_flatMap.mp listed
    exact (weighed visit among).light.mpr (weightless visit among) emission emitted

/-! ### Two sequences -/

theorem genuine_answering {promptTokens completionTokens : Int}
    (small : ((serve .plain (.answering promptTokens completionTokens) (.greeting false)).all fun emission =>
      match emission with
      | .row row => decide row.Fits
      | _ => true) = true) :
    Genuine .plain (.answering promptTokens completionTokens) (.greeting false) where
  limited _ same := by cases same
  submitted _ same := by cases same
  written _ := rfl
  fits row among := of_decide_eq_true (List.all_eq_true.mp small _ among)

theorem agrees_answering : Agrees ([(Environment.answering 0 0, Request.greeting false)].map fun visit => visit.2.user)
    ([(Environment.answering 0 0, Request.greeting false)].flatMap fun visit => serve .plain visit.1 visit.2) := by
  refine (agrees_iff .plain _ ?_).mpr ?_
  · intro visit among
    cases List.mem_singleton.mp among
    exact genuine_answering (by decide +kernel)
  · intro visit among
    cases List.mem_singleton.mp among
    rintro - answer completion submitted completed
    cases submitted
    cases completed
    exact ⟨rfl, rfl⟩

/-- One answer of four tokens: the counter of all tokens stays at zero. -/
theorem not_agrees :
    ¬∀ (platform : Platform) (visits : List (Environment × Request)),
      (∀ visit ∈ visits, Genuine platform visit.1 visit.2) →
      Agrees (visits.map fun visit => visit.2.user) (visits.flatMap fun visit => serve platform visit.1 visit.2) := by
  intro always
  have agrees := always .plain [(.answering 3 1, .greeting false)] fun visit among => by
    cases List.mem_singleton.mp among
    exact genuine_answering (by decide +kernel)
  have sum := (agrees _ (List.mem_singleton.mpr rfl) "text").2.2
  exact absurd sum (by decide +kernel)

end LlamacppRay.Gateway.Chat
