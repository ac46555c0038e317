import LlamacppRay.Gateway.Relay

/-! The model name in the lines of a stream, for any lines a backend can send. The rewriter takes
every document that decodes for an object, and every failure of the decoder for a `JSONDecodeError`. -/

namespace LlamacppRay.Gateway.Chat
open LlamacppRay.Python

/-- A document that was read, and has had its model replaced, reads back as it was written. -/
def Platform.RoundTrips (platform : Platform) : Prop :=
  ∀ text members, platform.loads text = .ok (.obj members) →
    platform.loads (platform.dumps (aliased members)) = .ok (aliased members)

/-- What the client should get for a line: the same object with the alias as its model, or the same line. -/
inductive Rewritten (platform : Platform) : String → String → Prop
  | document {text out : String} {members shown : List (String × Json)} (unmarked : text ≠ "[DONE]")
      (decoded : platform.loads text = .ok (.obj members)) (encoded : platform.loads out = .ok (.obj shown))
      (model : Json.member shown "model" = some (.str MODEL_ALIAS))
      (others : ∀ key, key ≠ "model" → Json.member shown key = Json.member members key) :
      Rewritten platform ("data: " ++ text) ("data: " ++ out)
  | unchanged {line : String} (other : ∀ text members, line = "data: " ++ text → text ≠ "[DONE]" →
      platform.loads text ≠ .ok (.obj members)) : Rewritten platform line line

def NotAnObject (platform : Platform) (line : String) : Prop :=
  ∃ text document, line = "data: " ++ text ∧ text ≠ "[DONE]" ∧ platform.loads text = .ok document ∧
    ∀ members, document ≠ .obj members

def GivenUp (platform : Platform) (line : String) : Prop :=
  ∃ text uncaught, line = "data: " ++ text ∧ text ≠ "[DONE]" ∧ platform.loads text = .error uncaught ∧
    uncaught ≠ .jsonDecodeError

/-- One chunk for each line, in order, that a second rewriting leaves alone, and the end the stream
would have had without any line. -/
structure Transparent (platform : Platform) (env : Environment) (request : Request) (promptTokens : Int)
    (lines : List String) (ending : Except Exn Unit) : Prop where
  chunks : ∃ outs, List.Forall₂ (Rewritten platform) lines outs ∧
    chunkTexts (eventStream platform env request promptTokens (lines.map chunkOf) ending).emissions =
      outs.map chunkOf ∧ ∀ out ∈ outs, rewriteSseModel platform out = .ok out
  ending : (eventStream platform env request promptTokens (lines.map chunkOf) ending).result =
    (eventStream platform env request promptTokens [] ending).result

section
variable {platform : Platform}

/-! ### One line -/

theorem isPrefix_data (text : String) : "data: ".toList.isPrefixOf ("data: " ++ text).toList = true := by
  rw [List.isPrefixOf_iff_prefix, String.toList_append]
  exact List.prefix_append _ _

theorem drop_data (text : String) : String.ofList (("data: " ++ text).toList.drop 6) = text := by
  have parts : ("data: " ++ text).toList = "data: ".toList ++ text.toList := String.toList_append
  rw [parts]
  exact String.ofList_toList

theorem data_inj {text other : String} (same : "data: " ++ text = "data: " ++ other) : text = other := by
  rw [← drop_data text, same, drop_data]

theorem exists_of_isPrefix {line : String} (begun : "data: ".toList.isPrefixOf line.toList = true) :
    ∃ text, line = "data: " ++ text := by
  obtain ⟨rest, parts⟩ := List.isPrefixOf_iff_prefix.mp begun
  refine ⟨String.ofList rest, ?_⟩
  have whole : ("data: " ++ String.ofList rest).toList = line.toList := by
    have inner : (String.ofList rest).toList = rest := String.toList_ofList
    rw [String.toList_append, inner]
    exact parts
  exact String.toList_inj.mp whole.symm

theorem unmarked_line {text : String} (unmarked : text ≠ "[DONE]") : "data: " ++ text ≠ "data: [DONE]" :=
  fun same => unmarked (@data_inj text "[DONE]" same)

theorem rewrite_of_undecoded {text : String} (undecoded : platform.loads text = .error .jsonDecodeError) :
    rewriteSseModel platform ("data: " ++ text) = .ok ("data: " ++ text) := by
  rw [rewriteSseModel, isPrefix_data, drop_data]
  split
  · rfl
  · rw [undecoded]

theorem rewrite_of_document {text : String} {document : Json} (unmarked : text ≠ "[DONE]")
    (decoded : platform.loads text = .ok document) :
    rewriteSseModel platform ("data: " ++ text) =
      (orRaise typeError (document.setItem "model" (.str MODEL_ALIAS))).map fun renamed =>
        "data: " ++ platform.dumps renamed := by
  simp only [rewriteSseModel, isPrefix_data, drop_data, decoded, Bool.not_true, Bool.false_or, decide_eq_true_eq,
    if_neg (unmarked_line unmarked)]
  rfl

theorem rewrite_of_object {text : String} {members : List (String × Json)} (unmarked : text ≠ "[DONE]")
    (decoded : platform.loads text = .ok (.obj members)) :
    rewriteSseModel platform ("data: " ++ text) = .ok ("data: " ++ platform.dumps (aliased members)) :=
  rewrite_of_document unmarked decoded

/-- The `TypeError` that the `except` clause does not name. -/
theorem rewrite_of_notAnObject {line : String} (scalar : NotAnObject platform line) :
    rewriteSseModel platform line = .error typeError := by
  obtain ⟨text, document, rfl, unmarked, decoded, other⟩ := scalar
  rw [rewrite_of_document unmarked decoded]
  cases document with
  | obj members => exact absurd rfl (other members)
  | _ => rfl

/-- The `except` clause names no parent of the `JSONDecodeError`. -/
theorem rewrite_of_givenUp {line : String} (given_up : GivenUp platform line) :
    ∃ exc, rewriteSseModel platform line = .error exc := by
  obtain ⟨text, uncaught, rfl, unmarked, failed, other⟩ := given_up
  simp only [rewriteSseModel, isPrefix_data, drop_data, failed, Bool.not_true, Bool.false_or, decide_eq_true_eq,
    if_neg (unmarked_line unmarked)]
  cases uncaught with
  | jsonDecodeError => exact absurd rfl other
  | valueError => exact ⟨_, rfl⟩
  | recursionError => exact ⟨_, rfl⟩

theorem rewrite_of_other {line : String}
    (other : ∀ text, line = "data: " ++ text → text ≠ "[DONE]" → platform.loads text = .error .jsonDecodeError) :
    rewriteSseModel platform line = .ok line := by
  by_cases begun : "data: ".toList.isPrefixOf line.toList = true
  · obtain ⟨text, rfl⟩ := exists_of_isPrefix begun
    by_cases marked : text = "[DONE]"
    · subst marked
      rfl
    · exact rewrite_of_undecoded (other text rfl marked)
  · rw [rewriteSseModel, Bool.eq_false_iff.mpr begun]
    rfl

def Breaking (platform : Platform) (line : String) : Prop := NotAnObject platform line ∨ GivenUp platform line

theorem not_breaking_of_decoded {text : String} {members : List (String × Json)}
    (decoded : platform.loads text = .ok (.obj members)) : ¬Breaking platform ("data: " ++ text) := by
  rintro (⟨text', document, same, -, decoded', other⟩ | ⟨text', uncaught, same, -, failed, -⟩)
  · rw [← data_inj same, decoded] at decoded'
    cases decoded'
    exact other members rfl
  · rw [← data_inj same, decoded] at failed
    cases failed

theorem rewrite_line (trips : platform.RoundTrips) (line : String) :
    (∃ out, rewriteSseModel platform line = .ok out ∧ Rewritten platform line out ∧
        rewriteSseModel platform out = .ok out ∧ ¬Breaking platform line) ∨
      ((∃ exc, rewriteSseModel platform line = .error exc) ∧ Breaking platform line) := by
  by_cases breaking : Breaking platform line
  · refine .inr ⟨?_, breaking⟩
    rcases breaking with scalar | given_up
    · exact ⟨typeError, rewrite_of_notAnObject scalar⟩
    · exact rewrite_of_givenUp given_up
  by_cases document : ∃ text found, line = "data: " ++ text ∧ text ≠ "[DONE]" ∧ platform.loads text = .ok found
  · obtain ⟨text, found, rfl, unmarked, decoded⟩ := document
    cases found with
    | obj members =>
      have encoded := trips text members decoded
      have again : rewriteSseModel platform ("data: " ++ platform.dumps (aliased members)) =
          .ok ("data: " ++ platform.dumps (aliased members)) := by
        by_cases marked : platform.dumps (aliased members) = "[DONE]"
        · rw [marked]
          rfl
        · rw [rewrite_of_object marked encoded]
          exact congrArg (fun shown => Except.ok ("data: " ++ platform.dumps (.obj shown)))
            (setMember_setMember members "model" (.str MODEL_ALIAS))
      refine Or.inl ⟨_, rewrite_of_object unmarked decoded, ?_, again, not_breaking_of_decoded decoded⟩
      exact .document unmarked decoded encoded (Json.member_setMember_self members "model" _)
        fun key other => Json.member_setMember_of_ne members other _
    | _ => exact absurd (.inl ⟨text, _, rfl, unmarked, decoded, nofun⟩) breaking
  · have kept : rewriteSseModel platform line = .ok line := by
      refine rewrite_of_other fun text same unmarked => ?_
      cases decoded : platform.loads text with
      | ok found => exact absurd ⟨text, found, same, unmarked, decoded⟩ document
      | error uncaught =>
        by_contra other
        exact breaking (.inr ⟨text, uncaught, same, unmarked, decoded, fun named => other (by rw [named])⟩)
    refine Or.inl ⟨line, kept, ?_, kept, breaking⟩
    exact .unchanged fun text members same unmarked decoded => document ⟨text, .obj members, same, unmarked, decoded⟩

theorem rewritten_of_ok (trips : platform.RoundTrips) {line out : String}
    (rewritten : rewriteSseModel platform line = .ok out) :
    Rewritten platform line out ∧ rewriteSseModel platform out = .ok out ∧ ¬Breaking platform line := by
  rcases rewrite_line trips line with ⟨other, same, faithful, again, fine⟩ | ⟨⟨exc, failed⟩, -⟩
  · cases rewritten.symm.trans same
    exact ⟨faithful, again, fine⟩
  · cases rewritten.symm.trans failed

/-! ### Whole streams -/

theorem eventStream_result (env : Environment) (request : Request) (promptTokens : Int) {chunks : List String}
    {ending : Except Exn Unit} (ended : (relay platform chunks ending).result = ending) :
    (eventStream platform env request promptTokens chunks ending).result =
      (eventStream platform env request promptTokens [] ending).result := by
  apply Program.ensuring_result_congr
  exact ended

/-- A stream of any lines is relayed as it should be if and only if no line holds a document that is
not an object, or one that the decoder gives up. -/
theorem transparent_iff (platform : Platform) (trips : platform.RoundTrips) (env : Environment) (request : Request)
    (promptTokens : Int) (lines : List String) (ending : Except Exn Unit)
    (whole : ∀ line ∈ lines, line ≠ "" ∧ ∀ c ∈ line.toList, c ≠ '\n') :
    Transparent platform env request promptTokens lines ending ↔
      ∀ line ∈ lines, ¬NotAnObject platform line ∧ ¬GivenUp platform line := by
  rcases @relay_lines platform lines (fun line among => (whole line among).2) ending with
    ⟨outs, all, texts, ended⟩ | ⟨exc, failed, -, fewer⟩
  · have each := forall₂_of_mapM all
    refine iff_of_true ⟨⟨outs, ?_, ?_, ?_⟩, eventStream_result env request promptTokens ended⟩ ?_
    · exact each.imp fun line out rewritten => (rewritten_of_ok trips rewritten).1
    · rw [chunkTexts_eventStream, texts]
      rfl
    · intro out among
      obtain ⟨line, -, rewritten⟩ := source_of_forall₂ each among
      exact (rewritten_of_ok trips rewritten).2.1
    · intro line among
      obtain ⟨out, rewritten⟩ := mapM_ok_iff.mp ⟨outs, all⟩ line among
      exact not_or.mp (rewritten_of_ok trips rewritten).2.2
  · refine iff_of_false ?_ ?_
    · rintro ⟨⟨outs, each, texts, -⟩, -⟩
      rw [chunkTexts_eventStream] at texts
      have counted := congrArg List.length texts
      rw [List.length_map, ← each.length_eq] at counted
      omega
    · intro objects
      have all : ∃ outs, lines.mapM (rewriteSseModel platform) = .ok outs := by
        apply mapM_ok_iff.mpr
        intro line among
        rcases rewrite_line trips line with ⟨out, rewritten, -⟩ | ⟨-, breaking⟩
        · exact ⟨out, rewritten⟩
        · exact absurd breaking (not_or.mpr (objects line among))
      obtain ⟨outs, ok⟩ := all
      cases ok.symm.trans failed

end

theorem transparent_lines : Transparent (.reading "\x7b\"id\": 1\x7d" [("id", .int 1)]) (.answering 2 3) (.greeting true)
    2 [": keep-alive", "data: \x7b\"id\": 1\x7d", "data: [DONE]"] (.ok ()) := by
  have lawful : (Platform.reading "\x7b\"id\": 1\x7d" [("id", .int 1)]).Lawful :=
    lawful_reading (by decide +kernel) (by decide +kernel) (by decide +kernel) (by decide +kernel)
  have reads : ∀ text, (∃ members, (Platform.reading "\x7b\"id\": 1\x7d" [("id", .int 1)]).loads text =
      .ok (.obj members)) ∨ (Platform.reading "\x7b\"id\": 1\x7d" [("id", .int 1)]).loads text =
        .error .jsonDecodeError := by
    intro text
    simp only [Platform.reading]
    split
    · exact .inl ⟨_, rfl⟩
    · split
      · exact .inl ⟨_, rfl⟩
      · exact .inr rfl
  refine (transparent_iff _ lawful.roundTrip _ _ _ _ _ (by simp)).mpr fun line _ => ⟨?_, ?_⟩
  · rintro ⟨text, document, -, -, decoded, other⟩
    rcases reads text with ⟨members, found⟩ | failed
    · exact other members (Except.ok.inj (decoded.symm.trans found))
    · cases decoded.symm.trans failed
  · rintro ⟨text, uncaught, -, -, failed, other⟩
    rcases reads text with ⟨members, found⟩ | named
    · cases found.symm.trans failed
    · exact other (Except.error.inj (failed.symm.trans named))

def Platform.numeric : Platform :=
  { Platform.plain with loads := fun text => if text = "1" then .ok (.int 1) else .error .jsonDecodeError }

/-- The stream breaks off at the line, although it is one that should go through as it is. -/
theorem number_not_transparent : ¬∀ (platform : Platform), platform.RoundTrips →
    ∀ (env : Environment) (request : Request) (promptTokens : Int) (lines : List String) (ending : Except Exn Unit),
      (∀ line ∈ lines, line ≠ "" ∧ ∀ c ∈ line.toList, c ≠ '\n') →
        Transparent platform env request promptTokens lines ending := by
  intro always
  have trips : Platform.numeric.RoundTrips := by
    intro text members decoded
    simp only [Platform.numeric] at decoded
    split at decoded
    · cases decoded
    · cases decoded
  obtain ⟨⟨outs, each, texts, -⟩, -⟩ :=
    always .numeric trips (.answering 2 3) (.greeting true) 2 ["data: 1"] (.ok ()) (by simp)
  have silent : chunkTexts (eventStream .numeric (.answering 2 3) (.greeting true) 2
      (["data: 1"].map chunkOf) (.ok ())).emissions = [] := by decide +kernel
  rw [silent] at texts
  have none_out := List.map_eq_nil_iff.mp texts.symm
  rw [none_out] at each
  cases each

end LlamacppRay.Gateway.Chat
