import LlamacppRay.Gateway.Rewriting

/-! The streaming client of the benchmark: what it reads off a response, directly or through the gateway. -/

namespace LlamacppRay.Scripts.Benchmark
open LlamacppRay.Gateway LlamacppRay.Gateway.Chat LlamacppRay.Python

/-- What a request has shown. In place of the clock, `ttft` tells after how many documents the first content came. -/
structure RequestResult where
  ok : Bool
  ttft : Option Nat
  promptTokens : Int
  completionTokens : Json
  nodeIp : Json
  queueMs : Json
  error : Option String

/-- A response as the client gets it; the ending is what the iteration over its lines raises, if anything. -/
structure Response where
  statusCode : Int
  text : String
  headers : String → Option String
  lines : List String
  ending : Except Exn Unit

structure Progress where
  documents : Nat
  ttft : Option Nat
  completionTokens : Json
  nodeIp : Json

def pyOr (first second : Json) : Json := if first.truthy then first else second

def ofHeader : Option String → Json
  | none => .null
  | some value => .str value

def firstOf : Json → Except Exn Json
  | .arr (element :: _) => .ok element
  | .str value =>
    match value.toList with
    | [] => .error (.other "IndexError")
    | c :: _ => .ok (.str (String.singleton c))
  | .arr [] => .error (.other "IndexError")
  | .obj _ => .error (.other "KeyError")
  | _ => .error typeError

section Client
variable (platform : Platform) (increment : Json → Except Exn Json) (headers : String → Option String)

def extractNodeIp (body : Json) : Except Exn Json :=
  let ip := pyOr (ofHeader (headers "x-node-ip")) (ofHeader (headers "x-served-by"))
  if ip.truthy then .ok ip
  else do
    let nodeIp ← orRaise attributeError (body.get "node_ip" .null)
    if nodeIp.truthy then return nodeIp
    else orRaise attributeError (body.get "worker_node" .null)

/-- The body of the loop, from the decoded document on; `increment` is what adding one does to a value. -/
def readChunk (s : Progress) (chunk : Json) : Except Exn Progress := do
  let choices ← orRaise attributeError (chunk.get "choices" .null)
  let choice ← firstOf (pyOr choices (.arr [.obj []]))
  let delta ← orRaise attributeError (choice.get "delta" (.obj []))
  let content ← orRaise attributeError (delta.get "content" (.str ""))
  let ttft := if content.truthy && s.ttft.isNone then some s.documents else s.ttft
  let counted ← if content.truthy then increment s.completionTokens else .ok s.completionTokens
  let usage ← orRaise attributeError (chunk.get "usage" .null)
  let reported ← orRaise attributeError ((pyOr usage (.obj [])).get "completion_tokens" .null)
  let nodeIp ← if s.nodeIp.truthy then .ok s.nodeIp else extractNodeIp headers chunk
  return ⟨s.documents + 1, ttft, if reported.truthy then reported else counted, nodeIp⟩

def readLine (s : Progress) (line : String) : Except Exn (Option Progress) :=
  if !("data:".toList.isPrefixOf line.toList) then .ok (some s)
  else
    let data := strip (String.ofList (line.toList.drop 5))
    if data = "[DONE]" then .ok none
    else
      match platform.loads data with
      | .error .jsonDecodeError => .ok (some s)
      | .error uncaught => .error uncaught.exn
      | .ok chunk => (readChunk increment headers s chunk).map some

def readLines (s : Progress) : List String → Except Exn Unit → Except Exn Progress
  | [], ending => ending.map fun _ => s
  | line :: rest, ending =>
    match readLine platform increment headers s line with
    | .error exc => .error exc
    | .ok none => .ok s
    | .ok (some next) => readLines next rest ending

def failed (error : String) : RequestResult := ⟨false, none, 0, .int 0, .null, .null, some error⟩

def finished (read : Except Exn Progress) : RequestResult :=
  match read with
  | .ok s => ⟨true, s.ttft, 0, s.completionTokens, s.nodeIp, .null, none⟩
  | .error exc => failed (take 200 (platform.errText exc))

def streamingRequest (response : Response) : RequestResult :=
  if response.statusCode ≠ 200 then
    failed ("HTTP " ++ toString response.statusCode ++ ": " ++ take 200 response.text)
  else
    finished platform do
      let nodeIp ← extractNodeIp response.headers (.obj [])
      readLines platform increment response.headers ⟨0, none, .int 0, nodeIp⟩ response.lines response.ending

def RequestResult.measured (result : RequestResult) : RequestResult := { result with error := none }

end Client

/-- `json.loads` does not mind white space around a document, or around one that it gives up. -/
structure Legible (platform : Platform) : Prop extends platform.Lawful where
  stripped : ∀ text, platform.loads text ≠ .error .jsonDecodeError → platform.loads (strip text) = platform.loads text

section Reading
variable {platform : Platform} {increment : Json → Except Exn Json} {headers : String → Option String} {s : Progress}

/-! ### One line -/

theorem readChunk_aliased (members : List (String × Json)) :
    readChunk increment headers s (aliased members) = readChunk increment headers s (.obj members) := by
  have same : ∀ key default, key ≠ "model" → (aliased members).get key default = (Json.obj members).get key default := by
    intro key default other
    show some _ = some _
    rw [Json.member_setMember_of_ne members other]
  have node : extractNodeIp headers (aliased members) = extractNodeIp headers (.obj members) := by
    simp only [extractNodeIp, same "node_ip" _ (by decide), same "worker_node" _ (by decide)]
  simp only [readChunk, same "choices" _ (by decide), same "usage" _ (by decide), node]

theorem strip_space (text : String) : strip (" " ++ text) = strip text := by
  have parts : (" " ++ text).toList = ' ' :: text.toList := String.toList_append
  have space : isSpace ' ' = true := by decide
  rw [strip, strip, parts, List.dropWhile_cons_of_pos space]

theorem readLine_data (text : String) :
    readLine platform increment headers s ("data: " ++ text) =
      if strip text = "[DONE]" then .ok none
      else
        match platform.loads (strip text) with
        | .error .jsonDecodeError => .ok (some s)
        | .error uncaught => .error uncaught.exn
        | .ok chunk => (readChunk increment headers s chunk).map some := by
  have begun : "data:".toList.isPrefixOf ("data: " ++ text).toList = true := by
    rw [List.isPrefixOf_iff_prefix, String.toList_append]
    exact ⟨' ' :: text.toList, rfl⟩
  have rest : String.ofList (("data: " ++ text).toList.drop 5) = " " ++ text := by
    have parts : ("data: " ++ text).toList = "data:".toList ++ (" " ++ text).toList := by
      rw [String.toList_append, String.toList_append]
      rfl
    rw [parts]
    exact String.ofList_toList
  simp only [readLine, begun, rest, strip_space]
  rfl

theorem unmarked_of_stripped (legible : Legible platform) {text : String}
    (document : platform.loads text ≠ .error .jsonDecodeError) : strip text ≠ "[DONE]" := by
  intro marked
  have again := legible.stripped text document
  rw [marked, legible.marker] at again
  exact document again.symm

theorem readLine_document (legible : Legible platform) {text : String} {chunk : Json}
    (decoded : platform.loads text = .ok chunk) :
    readLine platform increment headers s ("data: " ++ text) = (readChunk increment headers s chunk).map some := by
  have document : platform.loads text ≠ .error .jsonDecodeError := by simp [decoded]
  rw [readLine_data, if_neg (unmarked_of_stripped legible document), legible.stripped text document, decoded]

theorem rewritten_cases {line out : String} (rewritten : rewriteSseModel platform line = .ok out) :
    out = line ∨ ∃ text members, line = "data: " ++ text ∧ platform.loads text = .ok (.obj members) ∧
      out = "data: " ++ platform.dumps (aliased members) := by
  by_cases data : ∃ text, line = "data: " ++ text ∧ text ≠ "[DONE]"
  · obtain ⟨text, rfl, unmarked⟩ := data
    cases decoded : platform.loads text with
    | ok found =>
      cases found with
      | obj members =>
        rw [rewrite_of_object unmarked decoded] at rewritten
        cases rewritten
        exact Or.inr ⟨text, members, rfl, decoded, rfl⟩
      | _ =>
        have scalar : NotAnObject platform ("data: " ++ text) := ⟨text, _, rfl, unmarked, decoded, nofun⟩
        rw [rewrite_of_notAnObject scalar] at rewritten
        cases rewritten
    | error uncaught =>
      cases uncaught with
      | jsonDecodeError =>
        rw [rewrite_of_undecoded decoded] at rewritten
        cases rewritten
        exact Or.inl rfl
      | valueError | recursionError =>
        obtain ⟨exc, failed⟩ := rewrite_of_givenUp ⟨text, _, rfl, unmarked, decoded, nofun⟩
        cases failed.symm.trans rewritten
  · have other := @rewrite_of_other platform line fun text same unmarked => absurd ⟨text, same, unmarked⟩ data
    rw [other] at rewritten
    cases rewritten
    exact Or.inl rfl

theorem readLine_rewritten (legible : Legible platform) {line out : String}
    (rewritten : rewriteSseModel platform line = .ok out) :
    readLine platform increment headers s out = readLine platform increment headers s line := by
  rcases rewritten_cases rewritten with rfl | ⟨text, members, rfl, decoded, rfl⟩
  · rfl
  · rw [readLine_document legible (legible.roundTrip text members decoded), readLine_document legible decoded,
      readChunk_aliased]

/-- The client cannot read a line that the gateway cannot rewrite. -/
theorem readLine_unrewritten (legible : Legible platform) {line : String} (breaking : Breaking platform line) :
    ∃ exc, readLine platform increment headers s line = .error exc := by
  rcases breaking with ⟨text, document, rfl, unmarked, decoded, other⟩ | ⟨text, uncaught, rfl, unmarked, failed, other⟩
  · rw [readLine_document legible decoded]
    cases document with
    | obj members => exact absurd rfl (other members)
    | _ => exact ⟨attributeError, rfl⟩
  · have document : platform.loads text ≠ .error .jsonDecodeError := by
      rw [failed]
      exact fun same => other (Except.error.inj same)
    rw [readLine_data, if_neg (unmarked_of_stripped legible document), legible.stripped text document, failed]
    cases uncaught with
    | jsonDecodeError => exact absurd rfl other
    | valueError | recursionError => exact ⟨_, rfl⟩

/-! ### All lines -/

theorem readLine_blank : readLine platform increment headers s "" = .ok (some s) := rfl

theorem readLines_nonempty (lines : List String) (ending : Except Exn Unit) :
    readLines platform increment headers s (lines.filter fun line => line ≠ "") ending =
      readLines platform increment headers s lines ending := by
  induction lines generalizing s with
  | nil => rfl
  | cons line rest ih =>
    by_cases blank : line = ""
    · have dropped : (line :: rest).filter (fun line => line ≠ "") = rest.filter fun line => line ≠ "" :=
        List.filter_cons_of_neg (by simp [blank])
      rw [dropped, ih, blank, readLines, readLine_blank]
    · have kept : (line :: rest).filter (fun line => line ≠ "") = line :: rest.filter fun line => line ≠ "" :=
        List.filter_cons_of_pos (by simp [blank])
      rw [kept, readLines, readLines]
      cases readLine platform increment headers s line with
      | error exc => rfl
      | ok next =>
        cases next with
        | none => rfl
        | some next => exact ih

theorem clean_rewritten (legible : Legible platform) {line out : String} (clean : Clean line)
    (rewritten : rewriteSseModel platform line = .ok out) : Clean out := by
  rcases rewritten_cases rewritten with rfl | ⟨text, members, rfl, decoded, rfl⟩
  · exact clean
  · refine ⟨fun empty => ?_, fun c among => ?_⟩
    · have begun := congrArg String.toList empty
      rw [String.toList_append] at begun
      cases begun
    · rw [String.toList_append] at among
      rcases List.mem_append.mp among with front | written
      · exact unbroken_field c front
      · exact legible.escaped text members decoded c written

/-- The client reads the lines of the relay like those that go into it, and misses them where it would fail. -/
theorem readLines_relay (legible : Legible platform) (lines : List String) (clean : ∀ line ∈ lines, Clean line)
    (ending : Except Exn Unit) :
    ∃ outs, chunkTexts (relay platform (lines.map chunkOf) ending).emissions = outs.map (fun out => out ++ "\n\n") ∧
      (∀ out ∈ outs, Clean out) ∧ ∀ s,
        (readLines platform increment headers s outs (relay platform (lines.map chunkOf) ending).result).toOption =
          (readLines platform increment headers s lines ending).toOption := by
  induction lines with
  | nil => exact ⟨[], rfl, List.forall_mem_nil _, fun s => rfl⟩
  | cons line rest ih =>
    have here := clean line List.mem_cons_self
    have first := rstrip_chunkOf here.newline
    rcases rewrite_line legible.roundTrip line with ⟨out, rewritten, -⟩ | ⟨⟨exc, failed⟩, breaking⟩
    · have step : relay platform ((line :: rest).map chunkOf) ending =
          ⟨.suspended :: .chunk (out ++ "\n\n") :: (relay platform (rest.map chunkOf) ending).emissions,
            (relay platform (rest.map chunkOf) ending).result⟩ := by
        simp only [List.map_cons, relay, first, rewritten, Program.emit_bind, Program.lift_ok_bind]
      obtain ⟨outs, texts, whole, alike⟩ := ih fun other listed => clean other (List.mem_cons_of_mem line listed)
      refine ⟨out :: outs, ?_, List.forall_mem_cons.mpr ⟨clean_rewritten legible here rewritten, whole⟩, fun s => ?_⟩
      · rw [step, List.map_cons, ← texts]
        rfl
      · rw [step, readLines, readLines, readLine_rewritten legible rewritten]
        cases readLine platform increment headers s line with
        | error exc => rfl
        | ok next =>
          cases next with
          | none => rfl
          | some next => exact alike next
    · have stopped : relay platform ((line :: rest).map chunkOf) ending = ⟨[.suspended], .error exc⟩ := by
        simp only [List.map_cons, relay, first, failed, Program.emit_bind]
        rfl
      refine ⟨[], by rw [stopped]; rfl, List.forall_mem_nil _, fun s => ?_⟩
      obtain ⟨unread, same⟩ := @readLine_unrewritten platform increment headers s legible line breaking
      rw [stopped, readLines, readLines, same]
      rfl

theorem lines_of_frames (outs : List String) (clean : ∀ out ∈ outs, Clean out) :
    (splitlines (String.join (outs.map fun out => out ++ "\n\n"))).filter (fun line => line ≠ "") = outs := by
  rw [nonempty_splitlines]
  induction outs with
  | nil => rfl
  | cons out rest ih =>
    obtain ⟨some, whole⟩ := clean out List.mem_cons_self
    have later := ih fun other listed => clean other (List.mem_cons_of_mem out listed)
    have text : (String.join ((out :: rest).map fun out => out ++ "\n\n")).toList =
        out.toList ++ '\n' :: '\n' :: (String.join (rest.map fun out => out ++ "\n\n")).toList := by
      rw [List.map_cons, String.join_cons, String.toList_append, String.toList_append, List.append_assoc]
      rfl
    have something : out.toList ≠ [] := fun empty => some (String.toList_inj.mp empty)
    rw [text, fields_append_cons _ _ (by decide), fields_cons_separator _ (by decide), fields_of_whole whole something,
      List.map_append, later, List.map_cons, String.ofList_toList]
    rfl

/-! ### Two responses -/

/-- The response of a node, whose lines are those that the client's library cuts out of its body. -/
def direct (headers : String → Option String) (lines : List String) (ending : Except Exn Unit) : Response :=
  ⟨200, "", headers, lines, ending⟩

/-- What a `StreamingResponse` sets itself; the headers of the node stay behind it. -/
def streamingHeaders (name : String) : Option String :=
  if name = "content-type" then some "text/event-stream; charset=utf-8" else none

def relayed (run : Handling Unit) : Response :=
  ⟨200, "", streamingHeaders, splitlines (String.join (chunkTexts run.emissions)), run.result⟩

def Unnamed (headers : String → Option String) : Prop :=
  headers "x-node-ip" = none ∧ headers "x-served-by" = none

theorem unnamed_streamingHeaders : Unnamed streamingHeaders := ⟨by decide, by decide⟩

theorem extractNodeIp_unnamed {headers headers' : String → Option String} (unnamed : Unnamed headers)
    (unnamed' : Unnamed headers') (body : Json) : extractNodeIp headers body = extractNodeIp headers' body := by
  simp only [extractNodeIp, unnamed.1, unnamed.2, unnamed'.1, unnamed'.2]

theorem readLines_unnamed {headers headers' : String → Option String} (unnamed : Unnamed headers)
    (unnamed' : Unnamed headers') (s : Progress) (lines : List String) (ending : Except Exn Unit) :
    readLines platform increment headers s lines ending = readLines platform increment headers' s lines ending := by
  have chunks : readChunk increment headers = readChunk increment headers' := by
    funext s chunk
    simp only [readChunk, extractNodeIp_unnamed unnamed unnamed']
  induction lines generalizing s with
  | nil => rfl
  | cons line rest ih => simp only [readLines, readLine, chunks, ih]

theorem eventStream_ending {env : Environment} {request : Request} {promptTokens : Int}
    (estimated : estimatePromptTokens request.messages = .ok promptTokens) (written : env.writes .streamed = none)
    (chunks : List String) (ending : Except Exn Unit) :
    (eventStream platform env request promptTokens chunks ending).result = (relay platform chunks ending).result := by
  have settles : ∀ error, (settleStream platform env request promptTokens error).result = .ok () := by
    intro error
    obtain ⟨row, shown⟩ := streamRow_of_estimate platform env estimated error
    rw [settle_of_written written shown (Request.addable_estimate estimated)]
  rw [eventStream, Program.ensuring]
  dsimp only
  rw [settles]
  rfl

theorem measured_finished {read read' : Except Exn Progress} (same : read.toOption = read'.toOption) :
    (finished platform read).measured = (finished platform read').measured := by
  cases read with
  | ok s =>
    cases read' with
    | ok s' =>
      cases same
      rfl
    | error exc' => cases same
  | error exc =>
    cases read' with
    | ok s' => cases same
    | error exc' => rfl

theorem streamingRequest_congr {first second : Response} (succeeded : first.statusCode = 200)
    (succeeded' : second.statusCode = 200) (unnamed : Unnamed first.headers) (unnamed' : Unnamed second.headers)
    (alike : ∀ s, (readLines platform increment first.headers s first.lines first.ending).toOption =
      (readLines platform increment second.headers s second.lines second.ending).toOption) :
    (streamingRequest platform increment first).measured = (streamingRequest platform increment second).measured := by
  rw [streamingRequest, streamingRequest, if_neg (not_not.mpr succeeded), if_neg (not_not.mpr succeeded'),
    extractNodeIp_unnamed unnamed' unnamed]
  apply measured_finished
  cases extractNodeIp first.headers (.obj []) with
  | error exc => rfl
  | ok nodeIp => exact alike _

/-- The result of a request is the same, but for the text of an error, whether the client reads a node's stream itself
or the gateway's relay of it: for any lines and any end of the stream. -/
theorem client_reads_alike (legible : Legible platform) (increment : Json → Except Exn Json)
    (headers : String → Option String) (unnamed : Unnamed headers) (env : Environment) (request : Request)
    (promptTokens : Int)
    (estimated : estimatePromptTokens request.messages = .ok promptTokens) (written : env.writes .streamed = none)
    (lines : List String) (whole : ∀ line ∈ lines, ∀ c ∈ line.toList, isLineBoundary c = false)
    (ending : Except Exn Unit) :
    (streamingRequest platform increment (relayed (eventStream platform env request promptTokens
        ((lines.filter fun line => line ≠ "").map chunkOf) ending))).measured =
      (streamingRequest platform increment (direct headers lines ending)).measured := by
  have clean : ∀ line ∈ lines.filter (fun line => line ≠ ""), Clean line := by
    intro line listed
    obtain ⟨among, something⟩ := List.mem_filter.mp listed
    exact ⟨of_decide_eq_true something, whole line among⟩
  obtain ⟨outs, texts, framed, alike⟩ := @readLines_relay platform increment headers legible _ clean ending
  refine streamingRequest_congr (by rfl) (by rfl) unnamed_streamingHeaders unnamed fun s => ?_
  simp only [relayed, direct]
  rw [eventStream_ending estimated written, chunkTexts_eventStream, texts, ← readLines_nonempty,
    lines_of_frames outs framed, readLines_unnamed unnamed_streamingHeaders unnamed, alike, readLines_nonempty]

end Reading

/-! ### Two lines and the end mark -/

theorem legible_reading : Legible (.reading "\x7b\"id\": 1\x7d" [("id", .int 1)]) where
  toLawful := lawful_reading (by decide +kernel) (by decide +kernel) (by decide +kernel) (by decide +kernel)
  stripped := by
    intro text document
    have kept : strip text = text := by
      simp only [Platform.reading] at document
      split at document
      next same =>
        rw [same]
        decide +kernel
      next =>
        split at document
        next same =>
          rw [same]
          decide +kernel
        next => exact absurd rfl document
    rw [kept]

theorem client_reads_alike_lines :
    (streamingRequest (.reading "\x7b\"id\": 1\x7d" [("id", .int 1)]) .ok (relayed
      (eventStream (.reading "\x7b\"id\": 1\x7d" [("id", .int 1)]) (.answering 2 3) (.greeting true) 2
        (([": keep-alive", "data: \x7b\"id\": 1\x7d", "", "data: [DONE]"].filter fun line => line ≠ "").map chunkOf)
        (.error valueError)))).measured =
      (streamingRequest (.reading "\x7b\"id\": 1\x7d" [("id", .int 1)]) .ok (direct (fun _ => none)
        [": keep-alive", "data: \x7b\"id\": 1\x7d", "", "data: [DONE]"] (.error valueError))).measured :=
  client_reads_alike legible_reading .ok _ ⟨rfl, rfl⟩ _ _ 2 rfl rfl _ (by simp [isLineBoundary]) _

end LlamacppRay.Scripts.Benchmark
