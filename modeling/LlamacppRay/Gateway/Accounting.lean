import LlamacppRay.Gateway.Bookkeeping
import LlamacppRay.Gateway.Failures

/-! A finished inference on its way to the client. What comes between the backend's answer and the
response reads the request and the answer once more, and not all of it is guarded. -/

namespace LlamacppRay.Gateway
open LlamacppRay.Asyncio LlamacppRay.Automata LlamacppRay.Python

/-! ### What `submit_inference` returns -/

def Returned (answer : Json) : Prop :=
  ∃ members queueMs, answer = .obj members ∧ Json.member members "queue_ms" = some (.int queueMs)

theorem Submit.returned_of_finish {ip : String} {queueMs : Int} {data answer : Json}
    (finished : finish ip queueMs data = .ok answer) : Returned answer := by
  cases data with
  | obj members =>
    cases finished
    exact ⟨_, queueMs, rfl, Json.member_setMember_self _ _ _⟩
  | _ => cases finished

def Submit.Returning : Submit → Prop
  | .leaving (.ok answer) => Returned answer
  | .done (.ok answer) => Returned answer
  | _ => True

theorem Submit.Step.returning {p p' : NodePool} {st next : Submit} {r : Resume} {actions : List Action}
    (step : Submit.Step p st r p' next actions) (before : st.Returning) : next.Returning := by
  cases step with
  | @succeeded locals ip queueMs result data outcome =>
    cases finished : finish ip queueMs data with
    | ok answer => exact returned_of_finish finished
    | error exn => trivial
  | quiet ends =>
    cases ends with
    | left result => cases result <;> exact before
    | _ => trivial
  | _ => trivial

theorem Router.submit_returned {hash : String → Int} {p : NodePool} {s : Router} {index : Nat} {answer : Json}
    {log : List Action} (reached : (machine hash).Reaches ⟨Monitor.unlocked p, []⟩ s)
    (found : s.calls[index]? = some ⟨.submit (.done (.ok answer)), log⟩) : Returned answer := by
  refine @submit_invariant hash p (fun st _ => st.Returning) ?_ ?_ s reached index _ log found
  · intro p affinityKey
    exact Submit.start_cases (motive := Submit.Returning) (fun _ => trivial) (fun _ => trivial) p hash affinityKey
  · intro p p' st r next log actions before step
    exact step.returning before

end LlamacppRay.Gateway

namespace LlamacppRay.Gateway.Chat
open LlamacppRay.Asyncio LlamacppRay.Automata LlamacppRay.Python

/-- A count that is absent, or can be read as a number that a counter takes. -/
def Countable (platform : Platform) (counts : List (String × Json)) (key : String) : Prop :=
  ∀ amount, Json.member counts key = some amount → ∃ n, toInt platform amount = .ok n ∧ Addable n

def Readable (messages : List ChatMessage) : Prop :=
  ∀ message ∈ messages, ∀ parts, message.content = .parts parts →
    ∀ part ∈ parts, isTextPart part = true → ∃ text, partText part = .str text

/-- What the bookkeeping needs of a request and of its answer: text parts that hold texts, a usage
that is absent or an object with countable counts, and a result that can be written down. -/
structure Accountable (platform : Platform) (request : Request) (answer result : Json) : Prop where
  readable : Readable request.messages
  usage : ∃ counts, answer.get "usage" (.obj []) = some (.obj counts) ∧
    Countable platform counts "prompt_tokens" ∧ Countable platform counts "completion_tokens"
  serialisable : platform.serialisable result = true

section
variable {platform : Platform} {env : Environment} {request : Request}

/-! ### The estimate and the counts -/

theorem bind_ok {α β : Type} (a : α) (next : α → Except Exn β) : (Except.ok a >>= next) = next a := rfl

theorem exists_bind_ok_iff {α β : Type} {r : Except Exn α} {next : α → Except Exn β} :
    (∃ b, (r >>= next) = .ok b) ↔ ∃ a, r = .ok a ∧ ∃ b, next a = .ok b := by
  constructor
  · rintro ⟨b, ok⟩
    obtain ⟨a, first, rest⟩ := ok_of_bind ok
    exact ⟨a, first, b, rest⟩
  · rintro ⟨a, first, b, rest⟩
    refine ⟨b, ?_⟩
    rw [first]
    exact rest

theorem partTokens_ok_iff {part : List (String × Json)} :
    (∃ tokens, partTokens part = .ok tokens) ↔ (isTextPart part = true → ∃ text, partText part = .str text) := by
  unfold partTokens
  by_cases isText : isTextPart part = true
  · rw [if_pos isText]
    cases partText part with
    | str text => simp
    | _ => simp [isText]
  · rw [if_neg isText]
    simp [isText]

theorem messageTokens_ok_iff {message : ChatMessage} :
    (∃ tokens, messageTokens message = .ok tokens) ↔ ∀ parts, message.content = .parts parts →
      ∀ part ∈ parts, isTextPart part = true → ∃ text, partText part = .str text := by
  unfold messageTokens
  cases message.content with
  | text value => simp
  | parts parts =>
    have each : (∃ totals, parts.mapM partTokens = .ok totals) ↔
        ∀ part ∈ parts, isTextPart part = true → ∃ text, partText part = .str text := by
      rw [mapM_ok_iff]
      exact forall₂_congr fun part _ => partTokens_ok_iff
    simp only [Content.parts.injEq, forall_eq', exists_bind_ok_iff, ← each]
    constructor
    · rintro ⟨totals, counted, -⟩
      exact ⟨totals, counted⟩
    · rintro ⟨totals, counted⟩
      exact ⟨totals, counted, _, rfl⟩

theorem estimate_ok_iff {messages : List ChatMessage} :
    (∃ total, estimatePromptTokens messages = .ok total) ↔ Readable messages := by
  have each : (∃ totals, messages.mapM messageTokens = .ok totals) ↔ Readable messages := by
    rw [mapM_ok_iff]
    exact forall₂_congr fun message _ => messageTokens_ok_iff
  rw [estimatePromptTokens, exists_bind_ok_iff, ← each]
  constructor
  · rintro ⟨totals, counted, -⟩
    exact ⟨totals, counted⟩
  · rintro ⟨totals, counted⟩
    exact ⟨totals, counted, _, rfl⟩

theorem intMember_obj (counts : List (String × Json)) (key : String) (default : Int) :
    intMember platform (.obj counts) key default = toInt platform ((Json.member counts key).getD (.int default)) :=
  rfl

theorem intMember_countable {counts : List (String × Json)} {key : String} {default : Int}
    (addable : Addable default) :
    (∃ n, intMember platform (.obj counts) key default = .ok n ∧ Addable n) ↔ Countable platform counts key := by
  rw [intMember_obj, Countable]
  cases Json.member counts key with
  | none => exact iff_of_true ⟨default, rfl, addable⟩ nofun
  | some amount => simp only [Option.getD_some, Option.some.injEq, forall_eq']

/-! ### The result -/

theorem members_of_normalize {members : List (String × Json)} {result : Json}
    (normalized : normalizeCompletionResponse (.obj members) = .ok result) :
    ∃ kept, result = .obj kept ∧
      ∀ key, key ≠ "model" → key ≠ "choices" → Json.member kept key = Json.member members key := by
  obtain ⟨named, first, rest⟩ := ok_of_bind normalized
  cases first
  obtain ⟨choices, -, rest⟩ := ok_of_bind rest
  obtain ⟨elements, -, rest⟩ := ok_of_bind rest
  obtain ⟨updated, -, last⟩ := ok_of_bind rest
  have modelled : ∀ key, key ≠ "model" →
      Json.member (Json.setMember members "model" (.str MODEL_ALIAS)) key = Json.member members key :=
    fun key other => Json.member_setMember_of_ne members other _
  split at last
  · cases last
    refine ⟨_, rfl, fun key other apart => ?_⟩
    rw [Json.member_setMember_of_ne _ apart, modelled key other]
  · cases last
    exact ⟨_, rfl, fun key other _ => modelled key other⟩

theorem result_of_complete {answer result : Json} {completion : Completion}
    (normalized : normalizeCompletionResponse answer = .ok result)
    (completed : complete platform request answer = .ok completion) : completion.result = result := by
  obtain ⟨named, first, rest⟩ := ok_of_bind completed
  cases normalized.symm.trans first
  obtain ⟨usage, -, rest⟩ := ok_of_bind rest
  obtain ⟨total, -, rest⟩ := ok_of_bind rest
  obtain ⟨promptTokens, -, rest⟩ := ok_of_bind rest
  obtain ⟨completionTokens, -, rest⟩ := ok_of_bind rest
  obtain ⟨queueMs, -, rest⟩ := ok_of_bind rest
  obtain ⟨nodeIp, -, last⟩ := ok_of_bind rest
  cases last
  rfl

theorem accepted_iff_accountable {answer result : Json} (returned : Returned answer)
    (normalized : normalizeCompletionResponse answer = .ok result) :
    (∃ completion, complete platform request answer = .ok completion ∧ completion.Accepted platform) ↔
      Accountable platform request answer result := by
  obtain ⟨members, queued, rfl, timed⟩ := returned
  obtain ⟨kept, rfl, same⟩ := members_of_normalize normalized
  have usage_eq : Json.get (.obj kept) "usage" (.obj []) = Json.get (.obj members) "usage" (.obj []) := by
    rw [Json.get, Json.get, same "usage" (by decide) (by decide)]
  have queue_eq : intMember platform (.obj kept) "queue_ms" 0 = .ok queued := by
    rw [intMember_obj, same "queue_ms" (by decide) (by decide), timed]
    rfl
  constructor
  · rintro ⟨completion, completed, prompt, produced, serial⟩
    have result_eq := result_of_complete normalized completed
    obtain ⟨named, first, rest⟩ := ok_of_bind completed
    cases normalized.symm.trans first
    obtain ⟨usage, found, rest⟩ := ok_of_bind rest
    obtain ⟨total, estimated, rest⟩ := ok_of_bind rest
    obtain ⟨promptTokens, promptRead, rest⟩ := ok_of_bind rest
    obtain ⟨completionTokens, producedRead, rest⟩ := ok_of_bind rest
    obtain ⟨queueMs, -, rest⟩ := ok_of_bind rest
    obtain ⟨nodeIp, -, last⟩ := ok_of_bind rest
    cases last
    have addable : Addable total := Request.addable_estimate estimated
    refine ⟨estimate_ok_iff.mp ⟨total, estimated⟩, ?_, serial⟩
    rw [usage_eq] at found
    cases shown : Json.get (.obj members) "usage" (.obj []) with
    | none =>
      rw [shown] at found
      cases found
    | some document =>
      rw [shown] at found
      cases found
      cases usage with
      | obj counts =>
        exact ⟨counts, rfl, (intMember_countable addable).mp ⟨promptTokens, promptRead, prompt⟩,
          (intMember_countable (addable_of_le le_rfl (by decide))).mp ⟨completionTokens, producedRead, produced⟩⟩
      | _ => cases promptRead
  · rintro ⟨readable, ⟨counts, shown, promptCount, producedCount⟩, serial⟩
    obtain ⟨total, estimated⟩ := estimate_ok_iff.mpr readable
    have addable : Addable total := Request.addable_estimate estimated
    obtain ⟨promptTokens, promptRead, prompt⟩ := (intMember_countable addable).mpr promptCount
    obtain ⟨completionTokens, producedRead, produced⟩ :=
      (intMember_countable (addable_of_le le_rfl (by decide))).mpr producedCount
    have usage_ok : orRaise attributeError (Json.get (.obj kept) "usage" (.obj [])) = .ok (.obj counts) := by
      rw [usage_eq, shown]
      rfl
    refine ⟨⟨.obj kept, promptTokens, completionTokens, queued,
      (Json.member kept "node_ip").getD (.str platform.controllerNodeIp)⟩, ?_, prompt, produced, serial⟩
    simp only [complete, normalized, bind_ok, usage_ok, estimated, promptRead, producedRead, queue_eq]
    rfl

/-! ### What the client sees -/

theorem handled_hidden (platform : Platform) (env : Environment) (request : Request) (exc : Exn) :
    (handled platform env request exc).filter Emission.isClient = [] := by
  unfold handled
  split
  · split
    · simp [noted_hidden, Emission.isClient]
    · simp [noted_hidden, Emission.isClient]
  · simp [noted_hidden, Emission.isClient]

theorem reported_hidden (platform : Platform) (env : Environment) (request : Request) (completion : Completion) :
    (reported platform env request completion).filter Emission.isClient = [] := by
  unfold reported
  split
  · split
    · simp [noted_hidden, Emission.isClient]
    · simp [noted_hidden, Emission.isClient]
  · simp [noted_hidden, Emission.isClient]

theorem leave_hidden (result : Except Exn Answer) : (leave result).emissions.filter Emission.isClient = [] := by
  unfold leave
  split
  · rfl
  · rfl

theorem Inferred.hidden {inner : List Emission} {result : Except Exn Answer}
    (ways : Inferred platform env request inner result) : inner.filter Emission.isClient = [] := by
  cases ways <;> simp [started, Emission.isClient, handled_hidden, reported_hidden]

theorem client_of_passes (orderly : env.Orderly) (passes : env.check.passes = true) :
    ∃ inner result, Inferred platform env request inner result ∧
      (serve platform env request).filter Emission.isClient =
        (respond platform env request result).filter Emission.isClient := by
  obtain ⟨inner, result, ways, ran⟩ := inferred platform request orderly
  refine ⟨inner, result, ways, ?_⟩
  have handler : (chatCompletions platform env request).emissions.filter Emission.isClient = [] := by
    rw [chat_of_passes platform request passes, ran]
    change (inner ++ (leave result).emissions).filter Emission.isClient = []
    rw [List.filter_append, ways.hidden, leave_hidden, List.append_nil]
  have returned : (chatCompletions platform env request).result = result := by
    rw [chat_of_passes platform request passes, ran]
  rw [serve, List.filter_append, handler, returned, List.nil_append]

theorem delivered_iff_accepted (orderly : env.Orderly) (passes : env.check.passes = true)
    (direct : request.stream = false) {answer result : Json} (submitted : env.submit = .ok answer)
    (normalized : normalizeCompletionResponse answer = .ok result) :
    (serve platform env request).filter Emission.isClient = [.status 200, .body result, .ended true] ↔
      ∃ completion, complete platform request answer = .ok completion ∧ completion.Accepted platform := by
  obtain ⟨inner, response, ways, client⟩ := @client_of_passes platform env request orderly passes
  rw [client]
  have failed : ∀ message : String,
      (respond platform env request (.error (raised (.other message)))).filter Emission.isClient ≠
        [.status 200, .body result, .ended true] := by
    intro message same
    have code : ∃ rest, respond platform env request (.error (raised (.other message))) = .status 500 :: rest := by
      simp only [raised, inferenceRequestFailed, respond, httpExceptionHandler]
      split
      · split
        · exact ⟨_, rfl⟩
        · exact ⟨_, rfl⟩
      · exact ⟨_, rfl⟩
    obtain ⟨rest, begun⟩ := code
    rw [begun] at same
    have codes := (List.cons.inj same).1
    cases codes
  cases ways with
  | streams promptTokens stream => cases direct.symm.trans stream
  | unreadable exc stream => cases direct.symm.trans stream
  | cancelled exc _ refused => cases submitted.symm.trans refused
  | refused exc _ refused => cases submitted.symm.trans refused
  | malformed other exc _ returned malformed =>
    cases submitted.symm.trans returned
    obtain ⟨message, rfl⟩ := ordinary_complete platform request answer exc malformed
    refine iff_of_false (failed message) ?_
    rintro ⟨completion, completed, -⟩
    cases malformed.symm.trans completed
  | completed other completion _ returned completed accepted =>
    cases submitted.symm.trans returned
    refine iff_of_true ?_ ⟨completion, completed, accepted⟩
    rw [result_of_complete normalized completed]
    rfl
  | unaccepted other completion _ returned completed exc refused =>
    cases submitted.symm.trans returned
    obtain ⟨message, rfl⟩ := Completion.ordinary_refusal refused
    refine iff_of_false (failed message) ?_
    rintro ⟨completion', completed', accepted⟩
    cases completed.symm.trans completed'
    rw [Completion.refusal_eq_none.mpr accepted] at refused
    cases refused

/-- The client gets the normalised answer with status 200 if and only if every text part of the request
holds a text, the usage can be counted and the result can be written down. -/
theorem delivered_iff_accountable (platform : Platform) (orderly : env.Orderly) (passes : env.check.passes = true)
    (direct : request.stream = false) {hash : String → Int} {p : NodePool} {s : Router} {index : Nat}
    {log : List Action} {answer result : Json} (submitted : env.submit = .ok answer)
    (reached : (Router.machine hash).Reaches ⟨Monitor.unlocked p, []⟩ s)
    (found : s.calls[index]? = some ⟨.submit (.done (.ok answer)), log⟩)
    (normalized : normalizeCompletionResponse answer = .ok result) :
    (serve platform env request).filter Emission.isClient = [.status 200, .body result, .ended true] ↔
      Accountable platform request answer result := by
  rw [delivered_iff_accepted orderly passes direct submitted normalized]
  exact accepted_iff_accountable (Router.submit_returned reached found) normalized

end

def Environment.completed : Environment :=
  { check := .passed
    submit := .ok (.obj [("choices", .arr []), ("node_ip", .str "10.0.0.1"), ("queue_ms", .int 3)])
    stream := none, writes := fun _ => none, latencyMs := fun _ => 12 }

def answered : List RouterEvent :=
  [.submit none, .resume 0 .wake,
    .resume 0 (.posted 3 (.ok ⟨⟨200, ""⟩, some (.obj [("choices", .arr [])]), ""⟩)), .resume 0 .wake]

theorem delivered_greeting : (serve .plain .completed (.greeting false)).filter Emission.isClient =
    [.status 200, .body (.obj [("choices", .arr []), ("node_ip", .str "10.0.0.1"), ("queue_ms", .int 3),
      ("model", .str MODEL_ALIAS)]), .ended true] := by
  have ran : (Router.machine fun _ => 0).run (Router.new ["10.0.0.1"] 8080 1 5 {"10.0.0.1"}) answered = some _ := rfl
  refine (@delivered_iff_accountable .completed (.greeting false) .plain nofun rfl rfl _ _ _ 0 _ _ _
    rfl ⟨answered, ran⟩ rfl rfl).mpr ⟨?_, ?_, rfl⟩
  · intro message member parts content
    rw [List.mem_singleton.mp member] at content
    cases content
  · exact ⟨[], rfl, nofun, nofun⟩

/-- A text part whose text is `null`: the backend has answered, and the client is told that it failed. -/
theorem null_text_not_delivered : ¬∀ (env : Environment) (request : Request) (s : Router) (index : Nat)
    (log : List Action) (answer result : Json), env.Orderly → env.check.passes = true → request.stream = false →
      env.submit = .ok answer →
      (Router.machine fun _ => 0).Reaches (Router.new ["10.0.0.1"] 8080 1 5 {"10.0.0.1"}) s →
      s.calls[index]? = some ⟨.submit (.done (.ok answer)), log⟩ →
      normalizeCompletionResponse answer = .ok result →
      (serve .plain env request).filter Emission.isClient = [.status 200, .body result, .ended true] := by
  intro always
  have delivered := always .completed
    { Request.greeting false with
      messages := [⟨"user", .parts [[("type", .str "text"), ("text", .null)]]⟩], addressable := by decide }
    _ 0 _ _ _ nofun rfl rfl rfl ⟨answered, rfl⟩ rfl rfl
  cases (List.cons.inj delivered).1

end LlamacppRay.Gateway.Chat
