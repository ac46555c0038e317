import LlamacppRay.Python.Lines
import LlamacppRay.Gateway.ChatPaths
import LlamacppRay.Gateway.Streaming

/-! The backend's event stream on its way through the gateway: cut into lines by the one generator, and framed and
rewritten by the other. -/

namespace LlamacppRay.Gateway.Chat
open LlamacppRay.Asyncio LlamacppRay.Automata LlamacppRay.Python

/-! ### Events -/

inductive SseEvent where
  | json (text : String)
  | done

def SseEvent.payload : SseEvent → String
  | .json text => text
  | .done => "[DONE]"

def SseEvent.line (event : SseEvent) : String := "data: " ++ event.payload
def SseEvent.wire (event : SseEvent) : String := event.line ++ "\n\n"

/-- The text of an object, on one line as far as the two ASCII line ends go. -/
def SseEvent.WellFormed (platform : Platform) : SseEvent → Prop
  | .json text => (∃ members, platform.loads text = .ok (.obj members)) ∧ ∀ c ∈ text.toList, c ≠ '\n' ∧ c ≠ '\r'
  | .done => True

def streamText (events : List SseEvent) : String := String.join (events.map SseEvent.wire)

def Encodes (pieces : List (List UInt8)) (text : String) : Prop := pieces.flatten = text.toUTF8.data.toList

/-- What a client reads: the lines of each event, without the blank lines between events. -/
def clientEvents (text : String) : List (List String) := fields (fun line => line = "") (split '\n' text)

def chunkTexts (emissions : List Emission) : List String :=
  emissions.filterMap fun emission => match emission with
    | .chunk text => some text
    | _ => none

def aliased (members : List (String × Json)) : Json := .obj (Json.setMember members "model" (.str MODEL_ALIAS))

/-- What a client sees of an event: one line with the end mark, or with the same document but for its model. -/
def Shows (platform : Platform) : SseEvent → List String → Prop
  | .done, block => block = ["data: [DONE]"]
  | .json text, block => ∃ text' members, block = ["data: " ++ text'] ∧ platform.loads text = .ok (.obj members) ∧
      platform.loads text' = .ok (aliased members)

structure Preserved (platform : Platform) (events : List SseEvent) (run : Handling Unit) : Prop where
  events : List.Forall₂ (Shows platform) events (clientEvents (String.join (chunkTexts run.emissions)))
  ending : run.result = .ok ()

/-- `json.loads` and `json.dumps`, as far as the relay relies on them: documents read back as they were written,
`json.dumps` escapes every line boundary, and no document ends in one that is no JSON white space. -/
structure Platform.Lawful (platform : Platform) : Prop where
  roundTrip : ∀ text members, platform.loads text = .ok (.obj members) →
    platform.loads (platform.dumps (aliased members)) = .ok (aliased members)
  escaped : ∀ text members, platform.loads text = .ok (.obj members) →
    ∀ c ∈ (platform.dumps (aliased members)).toList, isLineBoundary c = false
  closed : ∀ text members, platform.loads text = .ok (.obj members) →
    ∀ c ∈ text.toList.getLast?, isLineBoundary c = false ∨ c = '\n' ∨ c = '\r'
  marker : platform.loads "[DONE]" = .error .jsonDecodeError

section Relay
variable {platform : Platform}

/-! ### One line -/

/-- A line as the first generator yields it: something, with no line boundary in it. -/
def Clean (line : String) : Prop := line ≠ "" ∧ ∀ c ∈ line.toList, isLineBoundary c = false

theorem Clean.newline {line : String} (clean : Clean line) : ∀ c ∈ line.toList, c ≠ '\n' := by
  rintro c among rfl
  have kept := clean.2 _ among
  cases kept

theorem rstrip_chunkOf {line : String} (whole : ∀ c ∈ line.toList, c ≠ '\n') :
    rstripNewlines (chunkOf line) = line := by
  have framed : (chunkOf line).toList = line.toList ++ ['\n'] ++ ['\n'] := by
    rw [chunkOf, String.toList_append, List.append_assoc]
    rfl
  have kept : line.toList.rdropWhile (fun c => c = '\n') = line.toList := by
    refine List.rdropWhile_eq_self_iff.mpr fun some last => ?_
    exact whole _ (List.getLast_mem some) (of_decide_eq_true last)
  rw [rstripNewlines, framed, List.rdropWhile_concat_pos _ _ _ (by decide),
    List.rdropWhile_concat_pos _ _ _ (by decide), kept, String.ofList_toList]

theorem clean_rewrite (lawful : platform.Lawful) {line out : String} (clean : Clean line)
    (rewritten : rewriteSseModel platform line = .ok out) : out ≠ "" ∧ ∀ c ∈ out.toList, c ≠ '\n' := by
  unfold rewriteSseModel at rewritten
  split at rewritten
  · cases rewritten
    exact ⟨clean.1, clean.newline⟩
  · split at rewritten
    · cases rewritten
      exact ⟨clean.1, clean.newline⟩
    · cases rewritten
    next value decoded =>
      cases value with
      | obj members =>
        cases rewritten
        refine ⟨fun empty => ?_, fun c among => ?_⟩
        · have begun := congrArg String.toList empty
          rw [String.toList_append] at begun
          cases begun
        · rw [String.toList_append] at among
          rcases List.mem_append.mp among with front | written
          · rintro rfl
            revert front
            decide
          · rintro rfl
            cases lawful.escaped _ members decoded _ written
      | _ => cases rewritten

/-! ### The loop -/

theorem forall₂_of_mapM {α β : Type} {f : α → Except Exn β} {list : List α} {bs : List β}
    (all : list.mapM f = .ok bs) : List.Forall₂ (fun a b => f a = .ok b) list bs := by
  induction list generalizing bs with
  | nil =>
    cases all
    exact .nil
  | cons a rest ih =>
    rw [List.mapM_cons] at all
    obtain ⟨first, done, later⟩ := ok_of_bind all
    obtain ⟨others, ran, last⟩ := ok_of_bind later
    cases last
    exact .cons done (ih ran)

theorem source_of_forall₂ {α β : Type} {r : α → β → Prop} {list : List α} {bs : List β} {b : β}
    (each : List.Forall₂ r list bs) (among : b ∈ bs) : ∃ a ∈ list, r a b := by
  induction each with
  | nil => cases among
  | @cons a first rest others related _ ih =>
    rcases List.mem_cons.mp among with same | later
    · exact ⟨a, List.mem_cons_self, same ▸ related⟩
    · obtain ⟨source, present, made⟩ := ih later
      exact ⟨source, List.mem_cons_of_mem _ present, made⟩

theorem relay_lines (lines : List String) (whole : ∀ line ∈ lines, ∀ c ∈ line.toList, c ≠ '\n')
    (ending : Except Exn Unit) :
    (∃ outs, lines.mapM (rewriteSseModel platform) = .ok outs ∧
      chunkTexts (relay platform (lines.map chunkOf) ending).emissions = outs.map (fun out => out ++ "\n\n") ∧
        (relay platform (lines.map chunkOf) ending).result = ending) ∨
      ∃ exc, lines.mapM (rewriteSseModel platform) = .error exc ∧
        (relay platform (lines.map chunkOf) ending).result = .error exc ∧
          (chunkTexts (relay platform (lines.map chunkOf) ending).emissions).length < lines.length := by
  induction lines with
  | nil => exact .inl ⟨[], rfl, rfl, rfl⟩
  | cons line rest ih =>
    have first := rstrip_chunkOf (whole line List.mem_cons_self)
    cases rewritten : rewriteSseModel platform line with
    | error exc =>
      have stopped : relay platform ((line :: rest).map chunkOf) ending = ⟨[.suspended], .error exc⟩ := by
        simp only [List.map_cons, relay, first, rewritten, Program.emit_bind]
        rfl
      rw [stopped]
      refine .inr ⟨exc, ?_, rfl, Nat.succ_pos _⟩
      rw [List.mapM_cons, rewritten]
      rfl
    | ok out =>
      have step : relay platform ((line :: rest).map chunkOf) ending =
          ⟨.suspended :: .chunk (out ++ "\n\n") :: (relay platform (rest.map chunkOf) ending).emissions,
            (relay platform (rest.map chunkOf) ending).result⟩ := by
        simp only [List.map_cons, relay, first, rewritten, Program.emit_bind, Program.lift_ok_bind]
      rw [step]
      rcases ih (fun other among => whole other (List.mem_cons_of_mem _ among)) with
        ⟨outs, all, texts, ended⟩ | ⟨exc, failed, ended, fewer⟩
      · refine .inl ⟨out :: outs, ?_, ?_, ended⟩
        · rw [List.mapM_cons, rewritten, all]
          rfl
        · rw [List.map_cons, ← texts]
          rfl
      · refine .inr ⟨exc, ?_, ended, Nat.succ_lt_succ fewer⟩
        rw [List.mapM_cons, rewritten, failed]
        rfl

theorem settleStream_silent (env : Environment) (request : Request) (promptTokens : Int) (error : Option Exn) :
    (settleStream platform env request promptTokens error).Emits fun emission => ∀ text, emission ≠ .chunk text := by
  have logged : (logRequest env .streamed (streamRow platform env request promptTokens error)).Emits
      fun emission => ∀ text, emission ≠ .chunk text := by
    refine .bind (.lift _) fun row _ => .bind (.emit (by simp)) fun _ _ => ?_
    cases env.writes .streamed with
    | none => exact .emit (by simp)
    | some exc => exact .raise exc
  have counted : (inc (.promptTokens (tokenLabels request)) promptTokens).Emits
      fun emission => ∀ text, emission ≠ .chunk text := by
    unfold inc
    split
    · exact .raise _
    · exact .emit (by simp)
  unfold settleStream
  cases error.any isQueueRejection with
  | true =>
    exact .bind (.emit (by simp)) fun _ _ => .bind logged fun _ _ => .bind (.emit (by simp)) fun _ _ =>
      .bind (.emit (by simp)) fun _ _ => counted
  | false =>
    exact .bind logged fun _ _ => .bind (.emit (by simp)) fun _ _ => .bind (.emit (by simp)) fun _ _ => counted

theorem chunkTexts_eventStream (env : Environment) (request : Request) (promptTokens : Int) (chunks : List String)
    (ending : Except Exn Unit) :
    chunkTexts (eventStream platform env request promptTokens chunks ending).emissions =
      chunkTexts (relay platform chunks ending).emissions := by
  have silent : ∀ error, chunkTexts (settleStream platform env request promptTokens error).emissions = [] := by
    intro error
    refine List.filterMap_eq_nil_iff.mpr fun emission among => ?_
    have never := settleStream_silent env request promptTokens error emission among
    cases emission with
    | chunk text => exact absurd rfl (never text)
    | _ => rfl
  rw [eventStream, Program.ensuring, chunkTexts, List.filterMap_append]
  exact (congrArg _ (silent _)).trans (List.append_nil _)

/-! ### The client -/

theorem split_framed {line : String} (kept : ∀ c ∈ line.toList, c ≠ '\n') (rest : String) :
    split '\n' (line ++ "\n\n" ++ rest) = line :: "" :: split '\n' rest := by
  have parts : (line ++ "\n\n" ++ rest).toList = line.toList ++ '\n' :: ([] ++ '\n' :: rest.toList) := by
    simp only [String.toList_append, List.append_assoc]
    rfl
  have plain : ∀ c ∈ line.toList, (c == '\n') = false := fun c among => beq_eq_false_iff_ne.mpr (kept c among)
  rw [split, parts, List.splitOn_eq_splitOnP, List.splitOnP_append_cons_of_forall_mem plain _ (by decide),
    List.splitOnP_append_cons_of_forall_mem (List.forall_mem_nil _) _ (by decide), List.map_cons, List.map_cons,
    String.ofList_toList]
  rfl

theorem clientEvents_framed (outs : List String) (whole : ∀ out ∈ outs, out ≠ "" ∧ ∀ c ∈ out.toList, c ≠ '\n') :
    clientEvents (String.join (outs.map fun out => out ++ "\n\n")) = outs.map fun out => [out] := by
  induction outs with
  | nil => rfl
  | cons out rest ih =>
    obtain ⟨some, kept⟩ := whole out List.mem_cons_self
    have later := ih fun other among => whole other (List.mem_cons_of_mem _ among)
    have blank : fields (fun line => decide (line = "")) [out] = [[out]] :=
      fields_of_whole (by simpa using some) (by simp)
    rw [clientEvents, List.map_cons, String.join_cons, split_framed kept]
    change fields _ ([out] ++ "" :: _) = _
    rw [fields_append_cons _ _ (by decide), blank]
    rw [clientEvents] at later
    rw [later]
    rfl

/-! ### The lines of a stream of events -/

theorem lines_of_events (events : List SseEvent) :
    (splitlines (streamText events)).filter (fun line => line ≠ "") =
      events.flatMap fun event => (fields isLineBoundary event.line.toList).map String.ofList := by
  rw [nonempty_splitlines]
  induction events with
  | nil => rfl
  | cons event rest ih =>
    have text : (streamText (event :: rest)).toList =
        event.line.toList ++ '\n' :: ('\n' :: (streamText rest).toList) := by
      rw [streamText, List.map_cons, String.join_cons, SseEvent.wire, String.toList_append, String.toList_append,
        List.append_assoc]
      rfl
    rw [text, fields_append_cons _ _ (by decide), fields_cons_separator _ (by decide), List.map_append, ih]
    rfl

theorem clean_lines (events : List SseEvent) : ∀ line ∈ events.flatMap fun event =>
    (fields isLineBoundary event.line.toList).map String.ofList, Clean line := by
  intro line among
  obtain ⟨event, -, piece⟩ := List.mem_flatMap.mp among
  obtain ⟨cs, field, rfl⟩ := List.mem_map.mp piece
  refine ⟨fun empty => ne_nil_of_mem_fields field ?_, ?_⟩
  · simpa using congrArg String.toList empty
  · rw [String.toList_ofList]
    exact of_mem_fields field

theorem unbroken_field : ∀ c ∈ "data: ".toList, isLineBoundary c = false := by
  have characters : "data: ".toList = ['d', 'a', 't', 'a', ':', ' '] := rfl
  rw [characters]
  simp [isLineBoundary]

theorem fields_unbroken {event : SseEvent} (unbroken : ∀ c ∈ event.payload.toList, isLineBoundary c = false) :
    (fields isLineBoundary event.line.toList).map String.ofList = [event.line] := by
  have whole : ∀ c ∈ event.line.toList, isLineBoundary c = false := by
    intro c among
    rw [SseEvent.line, String.toList_append] at among
    rcases List.mem_append.mp among with front | inside
    · exact unbroken_field c front
    · exact unbroken c inside
  have something : event.line.toList ≠ [] := by
    rw [SseEvent.line, String.toList_append]
    exact fun empty => by cases empty
  rw [fields_of_whole whole something, List.map_cons, String.ofList_toList]
  rfl

theorem fields_ne_nil_of_event (event : SseEvent) :
    1 ≤ ((fields isLineBoundary event.line.toList).map String.ofList).length := by
  have some : fields isLineBoundary event.line.toList ≠ [] := by
    refine fields_ne_nil (x := 'd') ?_ (by decide)
    rw [SseEvent.line, String.toList_append]
    exact List.mem_append_left _ (by decide)
  rw [List.length_map]
  exact List.length_pos_iff.mpr some

theorem last_unbroken (lawful : platform.Lawful) {text : String} {c : Char}
    (formed : (SseEvent.json text).WellFormed platform) (last : c ∈ text.toList.getLast?) :
    isLineBoundary c = false := by
  obtain ⟨⟨members, decoded⟩, plain⟩ := formed
  obtain ⟨noNewline, noReturn⟩ := plain c (List.mem_of_getLast? last)
  rcases lawful.closed text members decoded c last with kept | newline | carriage
  · exact kept
  · exact absurd newline noNewline
  · exact absurd carriage noReturn

theorem fields_broken (lawful : platform.Lawful) {text : String} {c : Char}
    (formed : (SseEvent.json text).WellFormed platform) (among : c ∈ text.toList) (breaks : isLineBoundary c = true) :
    2 ≤ ((fields isLineBoundary (SseEvent.json text).line.toList).map String.ofList).length := by
  obtain ⟨front, back, whole⟩ := List.append_of_mem among
  have line : (SseEvent.json text).line.toList = ("data: ".toList ++ front) ++ c :: back := by
    rw [SseEvent.line, String.toList_append, List.append_assoc, ← whole]
    rfl
  have first : fields isLineBoundary ("data: ".toList ++ front) ≠ [] :=
    fields_ne_nil (x := 'd') (List.mem_append_left _ (by decide)) (by decide)
  have second : fields isLineBoundary back ≠ [] := by
    cases ends : back.getLast? with
    | none =>
      rw [List.getLast?_eq_none_iff.mp ends] at whole
      have last : c ∈ text.toList.getLast? := by simp [whole]
      rw [last_unbroken lawful formed last] at breaks
      cases breaks
    | some d =>
      have last : d ∈ text.toList.getLast? := by
        rw [whole, List.getLast?_append_cons, List.getLast?_cons, ends]
        simp
      exact fields_ne_nil (List.mem_of_getLast? ends) (last_unbroken lawful formed last)
  rw [line, fields_append_cons _ _ breaks, List.map_append, List.length_append, List.length_map, List.length_map]
  have one := List.length_pos_iff.mpr first
  have two := List.length_pos_iff.mpr second
  omega

/-! ### Whole streams -/

theorem chunksOf_events (events : List SseEvent) :
    chunksOf (splitlines (streamText events)) =
      (events.flatMap fun event => (fields isLineBoundary event.line.toList).map String.ofList).map chunkOf := by
  rw [chunksOf, lines_of_events]

theorem clientEvents_relay (lawful : platform.Lawful) {lines : List String} (clean : ∀ line ∈ lines, Clean line)
    (ended : (relay platform (lines.map chunkOf) (.ok ())).result = .ok ()) :
    ∃ outs, List.Forall₂ (fun line out => rewriteSseModel platform line = .ok out) lines outs ∧
      clientEvents (String.join (chunkTexts (relay platform (lines.map chunkOf) (.ok ())).emissions)) =
        outs.map fun out => [out] := by
  rcases relay_lines lines (fun line among => (clean line among).newline) (.ok ()) with
    ⟨outs, all, texts, -⟩ | ⟨exc, -, failed, -⟩
  · have each := forall₂_of_mapM all
    refine ⟨outs, each, ?_⟩
    rw [texts]
    refine clientEvents_framed outs fun out among => ?_
    obtain ⟨line, present, rewritten⟩ := source_of_forall₂ each among
    exact clean_rewrite lawful (clean line present) rewritten
  · rw [failed] at ended
    cases ended

theorem rewrite_event (lawful : platform.Lawful) {event : SseEvent} (formed : event.WellFormed platform) :
    ∃ out, rewriteSseModel platform event.line = .ok out ∧ Shows platform event [out] := by
  cases event with
  | done => exact ⟨"data: [DONE]", rfl, rfl⟩
  | json text =>
    obtain ⟨⟨members, decoded⟩, -⟩ := formed
    have characters : (SseEvent.json text).line.toList = "data: ".toList ++ text.toList := String.toList_append
    have begins : "data: ".toList.isPrefixOf (SseEvent.json text).line.toList = true := by
      rw [characters]
      exact List.isPrefixOf_iff_prefix.mpr (List.prefix_append _ _)
    have other : (SseEvent.json text).line ≠ "data: [DONE]" := by
      intro same
      have marker : text = "[DONE]" := by
        have cut := congrArg (fun line => String.ofList (line.toList.drop 6)) same
        simpa [characters] using cut
      rw [marker, lawful.marker] at decoded
      cases decoded
    have payload : String.ofList ((SseEvent.json text).line.toList.drop 6) = text := by
      rw [characters]
      exact String.ofList_toList
    refine ⟨"data: " ++ platform.dumps (aliased members), ?_, _, members, rfl, decoded,
      lawful.roundTrip text members decoded⟩
    simp only [rewriteSseModel, begins, other, payload, decoded]
    rfl

theorem shows_events (lawful : platform.Lawful) {events : List SseEvent} {outs : List String}
    (formed : ∀ event ∈ events, event.WellFormed platform)
    (all : (events.map SseEvent.line).mapM (rewriteSseModel platform) = .ok outs) :
    List.Forall₂ (Shows platform) events (outs.map fun out => [out]) := by
  induction events generalizing outs with
  | nil =>
    cases all
    exact .nil
  | cons event rest ih =>
    rw [List.map_cons, List.mapM_cons] at all
    obtain ⟨out, done, later⟩ := ok_of_bind all
    obtain ⟨others, ran, last⟩ := ok_of_bind later
    cases last
    obtain ⟨right, rewritten, shows_out⟩ := rewrite_event lawful (formed event List.mem_cons_self)
    cases rewritten.symm.trans done
    exact .cons shows_out (ih (fun other among => formed other (List.mem_cons_of_mem _ among)) ran)

theorem preserved_of_unbroken (lawful : platform.Lawful) {events : List SseEvent}
    (formed : ∀ event ∈ events, event.WellFormed platform) (clean : ∀ line ∈ events.map SseEvent.line, Clean line) :
    Preserved platform events (relay platform ((events.map SseEvent.line).map chunkOf) (.ok ())) := by
  obtain ⟨made, possible⟩ : ∃ outs, (events.map SseEvent.line).mapM (rewriteSseModel platform) = .ok outs := by
    refine mapM_ok_iff.mpr fun line among => ?_
    obtain ⟨event, present, rfl⟩ := List.mem_map.mp among
    obtain ⟨out, rewritten, -⟩ := rewrite_event lawful (formed event present)
    exact ⟨out, rewritten⟩
  rcases relay_lines (events.map SseEvent.line) (fun line among => (clean line among).newline) (.ok ()) with
    ⟨outs, all, texts, ended⟩ | ⟨exc, failed, -, -⟩
  · have whole : ∀ out ∈ outs, out ≠ "" ∧ ∀ c ∈ out.toList, c ≠ '\n' := by
      intro out among
      obtain ⟨line, present, rewritten⟩ := source_of_forall₂ (forall₂_of_mapM all) among
      exact clean_rewrite lawful (clean line present) rewritten
    refine ⟨?_, ended⟩
    rw [texts, clientEvents_framed outs whole]
    exact shows_events lawful formed all
  · rw [possible] at failed
    cases failed

theorem length_le_flatMap {α β : Type} {f : α → List β} {list : List α} (each : ∀ a ∈ list, 1 ≤ (f a).length) :
    list.length ≤ (list.flatMap f).length := by
  induction list with
  | nil => exact le_rfl
  | cons a rest ih =>
    have first := each a List.mem_cons_self
    have later := ih fun b among => each b (List.mem_cons_of_mem a among)
    rw [List.flatMap_cons, List.length_append, List.length_cons]
    omega

/-- A document that falls apart makes more lines than there are events. -/
theorem length_lt_flatMap {α β : Type} {f : α → List β} {list : List α} (each : ∀ a ∈ list, 1 ≤ (f a).length)
    {a : α} (among : a ∈ list) (more : 2 ≤ (f a).length) : list.length < (list.flatMap f).length := by
  obtain ⟨front, back, rfl⟩ := List.append_of_mem among
  have before := length_le_flatMap fun b listed => each b (List.mem_append_left _ listed)
  have after := length_le_flatMap fun b listed => each b (List.mem_append_right front (List.mem_cons_of_mem a listed))
  rw [List.flatMap_append, List.flatMap_cons, List.length_append, List.length_append, List.length_append,
    List.length_cons]
  omega

theorem preserved_splitlines (lawful : platform.Lawful) (events : List SseEvent)
    (formed : ∀ event ∈ events, event.WellFormed platform) :
    Preserved platform events (relay platform (chunksOf (splitlines (streamText events))) (.ok ())) ↔
      ∀ text, .json text ∈ events → ∀ c ∈ text.toList, isLineBoundary c = false := by
  rw [chunksOf_events]
  have clean := clean_lines events
  constructor
  · intro preserved text among c present
    by_contra breaks
    obtain ⟨outs, each, client⟩ := clientEvents_relay lawful clean preserved.ending
    have shown := preserved.events.length_eq
    rw [client, List.length_map, ← each.length_eq] at shown
    have longer := length_lt_flatMap (fun event _ => fields_ne_nil_of_event event) among
      (fields_broken lawful (formed _ among) present (Bool.not_eq_false _ ▸ breaks))
    omega
  · intro unbroken
    have single : ∀ event ∈ events, (fields isLineBoundary event.line.toList).map String.ofList = [event.line] := by
      intro event among
      cases event with
      | json text => exact fields_unbroken (unbroken text among)
      | done => exact fields_unbroken (by simp [SseEvent.payload, isLineBoundary])
    have lines : (events.flatMap fun event => (fields isLineBoundary event.line.toList).map String.ofList) =
        events.map SseEvent.line := by
      rw [List.map_eq_flatMap]
      exact List.flatMap_congr single
    rw [lines] at clean ⊢
    exact preserved_of_unbroken lawful formed clean

/-- In any run of the router, a stream that returns comes through exactly if no document contains one of the characters
that end a line for Python but not in JSON. -/
theorem preserved_iff (platform : Platform) (lawful : platform.Lawful)
    (aiterLines : List (List UInt8) → List String)
    (splits : ∀ pieces text, Encodes pieces text → aiterLines pieces = splitlines text) (events : List SseEvent)
    (formed : ∀ event ∈ events, event.WellFormed platform) (pieces : List (List UInt8))
    (encoded : Encodes pieces (streamText events)) (hash : String → Int) (p : NodePool) (s : Router) (index : Nat)
    (log : List Action) (reached : (Router.machine hash).Reaches ⟨Monitor.unlocked p, []⟩ s)
    (returned : s.calls[index]? = some ⟨.stream (.done (.ok ())), log⟩) (body : lastBody log = aiterLines pieces) :
    Preserved platform events (relay platform (chunks log) (.ok ())) ↔
      ∀ text, .json text ∈ events → ∀ c ∈ text.toList, isLineBoundary c = false := by
  rw [Router.stream_complete reached returned, body, splits pieces _ encoded]
  exact preserved_splitlines lawful events formed

end Relay

/-! ### Two streams -/

def Platform.reading (text : String) (members : List (String × Json)) : Platform :=
  { Platform.plain with
    loads := fun other =>
      if other = text then .ok (.obj members)
      else if other = Json.dump (aliased members) then .ok (aliased members) else .error .jsonDecodeError }

theorem loads_reading (text : String) (members : List (String × Json)) :
    (Platform.reading text members).loads text = .ok (.obj members) := by
  simp [Platform.reading]

theorem setMember_setMember (members : List (String × Json)) (key : String) (value : Json) :
    Json.setMember (Json.setMember members key value) key value = Json.setMember members key value := by
  induction members with
  | nil => simp [Json.setMember]
  | cons entry rest ih =>
    obtain ⟨name, old⟩ := entry
    by_cases same : name = key
    · simp [Json.setMember, same]
    · simp [Json.setMember, same, ih]

theorem aliased_of_reading {text other : String} {members found : List (String × Json)}
    (decoded : (Platform.reading text members).loads other = .ok (.obj found)) :
    aliased found = aliased members := by
  simp only [Platform.reading] at decoded
  split at decoded
  · cases decoded
    rfl
  · split at decoded
    · cases decoded
      exact congrArg Json.obj (setMember_setMember _ _ _)
    · cases decoded

theorem lawful_reading {text : String} {members : List (String × Json)}
    (distinct : Json.dump (aliased members) ≠ text)
    (plain : (Json.dump (aliased members)).toList.any isLineBoundary = false)
    (closed : (text.toList.getLast?).any isLineBoundary = false)
    (marker : text ≠ "[DONE]" ∧ Json.dump (aliased members) ≠ "[DONE]") :
    (Platform.reading text members).Lawful := by
  have unbroken : ∀ c ∈ (Json.dump (aliased members)).toList, isLineBoundary c = false :=
    fun c among => Bool.eq_false_iff.mpr (List.any_eq_false.mp plain c among)
  constructor
  · intro other found decoded
    rw [aliased_of_reading decoded]
    change (if Json.dump (aliased members) = text then .ok (.obj members)
      else if Json.dump (aliased members) = Json.dump (aliased members) then .ok (aliased members)
      else .error .jsonDecodeError : Except LoadsError Json) = _
    rw [if_neg distinct, if_pos rfl]
  · intro other found decoded
    rw [aliased_of_reading decoded]
    exact unbroken
  · intro other found decoded c last
    refine .inl ?_
    simp only [Platform.reading] at decoded
    split at decoded
    next same =>
      rw [← same, last] at closed
      exact closed
    next =>
      split at decoded
      next same =>
        rw [same] at last
        exact unbroken c (List.mem_of_getLast? last)
      next => cases decoded
  · simp only [Platform.reading, marker.1.symm, marker.2.symm, ↓reduceIte]

/-- A splitter that decodes the whole body first. -/
def decodeLines (pieces : List (List UInt8)) : List String :=
  match String.fromUTF8? ⟨pieces.flatten.toArray⟩ with
  | some text => splitlines text
  | none => []

theorem decodeLines_splits (pieces : List (List UInt8)) (text : String) (encoded : Encodes pieces text) :
    decodeLines pieces = splitlines text := by
  have whole : (⟨pieces.flatten.toArray⟩ : ByteArray) = text.toUTF8 := by
    rw [encoded]
  have decoded : String.fromUTF8? text.toUTF8 = some text := by
    have valid : text.toUTF8.IsValidUTF8 := text.isValidUTF8
    rw [String.fromUTF8?, dif_pos valid]
    rfl
  rw [decodeLines, whole, decoded]

def halves (text : String) : List (List UInt8) :=
  [text.toUTF8.data.toList.take 9, text.toUTF8.data.toList.drop 9]

theorem halves_encode (text : String) : Encodes (halves text) text := by
  simp [Encodes, halves]

def ReturnedWith (lines : List String) (call : Call) : Bool :=
  match call.point with
  | .stream (.done (.ok ())) => lastBody call.log = lines
  | _ => false

/-- The run in which one node answers with these lines and the consumer asks for one item after the other. -/
def reading (lines : List String) (items : Nat) : List RouterEvent :=
  [.stream none, .resume 0 .wake, .resume 0 (.opened (.ok ⟨⟨200, ""⟩, lines, none⟩))] ++
    List.replicate items (.resume 0 .wake)

theorem returned_of_reading (lines : List String) (items : Nat)
    (ran : ((Router.machine fun _ => 0).run (Router.new ["10.0.0.1"] 8080 1 1 ∅) (reading lines items)).any
      (fun s => s.calls[0]?.any (ReturnedWith lines)) = true) :
    ∃ s log, (Router.machine fun _ => 0).Reaches (Router.new ["10.0.0.1"] 8080 1 1 ∅) s ∧
      s.calls[0]? = some ⟨.stream (.done (.ok ())), log⟩ ∧ lastBody log = lines := by
  obtain ⟨s, run, test⟩ := Machine.run_of_any _ ran
  obtain ⟨⟨point, log⟩, found, test⟩ := (Option.any_eq_true _ _).mp test
  unfold ReturnedWith at test
  split at test
  next done =>
    cases done
    exact ⟨s, log, ⟨_, run⟩, found, of_decide_eq_true test⟩
  next => cases test

theorem preserved_plain : ∃ log, lastBody log = ["data: \x7b\"id\": 1\x7d", "", "data: [DONE]", ""] ∧
    Preserved (.reading "\x7b\"id\": 1\x7d" [("id", .int 1)]) [.json "\x7b\"id\": 1\x7d", .done]
      (relay (.reading "\x7b\"id\": 1\x7d" [("id", .int 1)]) (chunks log) (.ok ())) := by
  have lawful : (Platform.reading "\x7b\"id\": 1\x7d" [("id", .int 1)]).Lawful :=
    lawful_reading (by decide +kernel) (by decide +kernel) (by decide +kernel) (by decide +kernel)
  obtain ⟨s, log, reached, returned, body⟩ := returned_of_reading
    ["data: \x7b\"id\": 1\x7d", "", "data: [DONE]", ""] 9 (by decide +kernel)
  have read : decodeLines (halves (streamText [.json "\x7b\"id\": 1\x7d", .done])) =
      ["data: \x7b\"id\": 1\x7d", "", "data: [DONE]", ""] := by
    rw [decodeLines_splits _ _ (halves_encode _)]
    decide +kernel
  refine ⟨log, body, (preserved_iff _ lawful decodeLines decodeLines_splits _ ?_ _ (halves_encode _) _ _ s 0 log reached
    returned (body.trans read.symm)).mpr ?_⟩
  · intro event among
    rcases List.mem_pair.mp among with rfl | rfl
    · refine ⟨⟨[("id", .int 1)], loads_reading _ _⟩, ?_⟩
      simp
    · trivial
  · intro text among
    rcases List.mem_pair.mp among with same | same
    · cases same
      simp [isLineBoundary]
    · cases same

/-- A line separator, which JSON allows within a string, tears its event apart. -/
theorem not_preserved :
    ¬∀ (platform : Platform) (aiterLines : List (List UInt8) → List String) (events : List SseEvent)
      (pieces : List (List UInt8)) (hash : String → Int) (p : NodePool) (s : Router) (index : Nat) (log : List Action),
      platform.Lawful → (∀ pieces text, Encodes pieces text → aiterLines pieces = splitlines text) →
        (∀ event ∈ events, event.WellFormed platform) → Encodes pieces (streamText events) →
          (Router.machine hash).Reaches ⟨Monitor.unlocked p, []⟩ s →
            s.calls[index]? = some ⟨.stream (.done (.ok ())), log⟩ → lastBody log = aiterLines pieces →
              Preserved platform events (relay platform (chunks log) (.ok ())) := by
  intro always
  have lawful : (Platform.reading "\x7b\"text\": \"a\u2028b\"\x7d" [("text", .str "a\u2028b")]).Lawful :=
    lawful_reading (by decide +kernel) (by decide +kernel) (by decide +kernel) (by decide +kernel)
  have formed : ∀ event ∈ [SseEvent.json "\x7b\"text\": \"a\u2028b\"\x7d", .done],
      event.WellFormed (.reading "\x7b\"text\": \"a\u2028b\"\x7d" [("text", .str "a\u2028b")]) := by
    intro event among
    rcases List.mem_pair.mp among with rfl | rfl
    · refine ⟨⟨[("text", .str "a\u2028b")], loads_reading _ _⟩, ?_⟩
      simp
    · trivial
  obtain ⟨s, log, reached, returned, body⟩ := returned_of_reading
    ["data: \x7b\"text\": \"a", "b\"\x7d", "", "data: [DONE]", ""] 11 (by decide +kernel)
  have read : decodeLines (halves (streamText [.json "\x7b\"text\": \"a\u2028b\"\x7d", .done])) =
      ["data: \x7b\"text\": \"a", "b\"\x7d", "", "data: [DONE]", ""] := by
    rw [decodeLines_splits _ _ (halves_encode _)]
    decide +kernel
  have preserved := always _ decodeLines _ _ _ _ s 0 log lawful decodeLines_splits formed (halves_encode _) reached
    returned (body.trans read.symm)
  have counted := preserved.events.length_eq
  rw [Router.stream_complete reached returned, body] at counted
  exact absurd counted (by decide +kernel)

end LlamacppRay.Gateway.Chat
