import LlamacppRay.Gateway.Router

/-! What the consumer of a stream sees: the lines of one response body, the one of the last attempt.
The flag `started_streaming` keeps a stream that has produced a chunk from being retried. -/

namespace LlamacppRay.Gateway
open LlamacppRay.Asyncio LlamacppRay.Automata

def Point.isStream : Point → Bool
  | .submit _ => false
  | .stream _ => true

def chunks (log : List Action) : List String :=
  log.filterMap fun action => match action with
    | .yielded chunk => some chunk
    | _ => none

def bodyAfter (body : List String) : Action → List String
  | .dispatched _ _ => []
  | .answered lines => lines
  | _ => body

def lastBody (log : List Action) : List String := log.foldl bodyAfter []

def chunksOf (lines : List String) : List String := (lines.filter fun line => line ≠ "").map chunkOf

/-- The chunks are the non-empty lines of a prefix of the last attempt's body. -/
def Delivered (log : List Action) : Prop := ∃ k, chunks log = chunksOf ((lastBody log).take k)

def Sealed (log : List Action) : Prop :=
  ∀ (i j : Nat) chunk ip port, log[i]? = some (.yielded chunk) → log[j]? = some (.dispatched ip port) → j < i

theorem chunks_append (first second : List Action) :
    chunks (first ++ second) = chunks first ++ chunks second :=
  List.filterMap_append

theorem lastBody_append (first second : List Action) :
    lastBody (first ++ second) = second.foldl bodyAfter (lastBody first) :=
  List.foldl_append

theorem chunksOf_append (first second : List String) :
    chunksOf (first ++ second) = chunksOf first ++ chunksOf second := by
  simp only [chunksOf, List.filter_append, List.map_append]

theorem mem_chunks {log : List Action} {chunk : String} (member : .yielded chunk ∈ log) :
    chunk ∈ chunks log :=
  List.mem_filterMap.mpr ⟨_, member, rfl⟩

theorem sealed_of_silent {log : List Action} (silent : chunks log = []) : Sealed log := by
  intro i j chunk ip port yielded dispatched
  have heard := mem_chunks (List.mem_of_getElem? yielded)
  rw [silent] at heard
  cases heard

theorem sealed_append {log actions : List Action} (sealed : Sealed log)
    (undispatched : ∀ ip port, .dispatched ip port ∉ actions) : Sealed (log ++ actions) := by
  intro i j chunk ip port yielded dispatched
  have earlier : j < log.length := by
    by_contra late
    rw [List.getElem?_append_right (by omega)] at dispatched
    exact undispatched ip port (List.mem_of_getElem? dispatched)
  by_cases before : i < log.length
  · rw [List.getElem?_append_left before] at yielded
    rw [List.getElem?_append_left earlier] at dispatched
    exact sealed i j chunk ip port yielded dispatched
  · omega

/-! ### The invariant of one stream -/

def Silent (locals : StreamLocals) (log : List Action) : Prop :=
  locals.startedStreaming = false ∧ chunks log = []

def Unheard (locals : StreamLocals) (log : List Action) : Prop :=
  locals.startedStreaming = false → chunks log = []

def Partway (lines : List String) (log : List Action) : Prop :=
  ∃ done, lastBody log = done ++ lines ∧ chunks log = chunksOf done

theorem delivered_of_silent {log : List Action} (silent : chunks log = []) : Delivered log :=
  ⟨0, silent⟩

theorem Silent.unheard {locals : StreamLocals} {log : List Action} (silent : Silent locals log) :
    Unheard locals log :=
  fun _ => silent.2

theorem Partway.delivered {lines : List String} {log : List Action} (partway : Partway lines log) :
    Delivered log := by
  obtain ⟨done, body, heard⟩ := partway
  refine ⟨done.length, ?_⟩
  rw [body, List.take_left]
  exact heard

theorem Delivered.quietly {log actions : List Action} (delivered : Delivered log)
    (silent : chunks actions = []) (same : ∀ body, actions.foldl bodyAfter body = body) :
    Delivered (log ++ actions) := by
  obtain ⟨k, heard⟩ := delivered
  refine ⟨k, ?_⟩
  calc chunks (log ++ actions) = chunks log := by rw [chunks_append, silent, List.append_nil]
    _ = chunksOf ((lastBody log).take k) := heard
    _ = chunksOf ((lastBody (log ++ actions)).take k) := by rw [lastBody_append, same]

theorem Silent.quietly {locals : StreamLocals} {log actions : List Action}
    (silent : Silent locals log) (quiet : chunks actions = []) : chunks (log ++ actions) = [] := by
  rw [chunks_append, silent.2, quiet, List.append_nil]

def Stream.Told : Stream → List Action → Prop
  | .entering locals, log => Silent locals log
  | .acquiring locals _, log => Silent locals log
  | .opening locals _, log => Silent locals log
  | .reading locals _ lines _, log => Partway lines log ∧ Unheard locals log
  | .yielding locals _ lines _, log => Partway lines log ∧ Unheard locals log
  | .sleeping locals _ _, log => Silent locals log
  | .closing locals _ .continuing, log => Silent locals log
  | .closing locals _ (.raising _), log => Delivered log ∧ Unheard locals log
  | .closing _ _ .returning, log => Delivered log
  | .leaving _, log => Delivered log
  | .done _, log => Delivered log

section
variable {st : Stream} {r : Resume} {locals : StreamLocals} {ip : String} {exn : Exn}
    {log : List Action}

theorem Stream.AtHead.silent (head : AtHead st r locals) (told : st.Told log) :
    Silent locals log := by
  cases head <;> exact told

theorem Stream.Raises.delivered (raises : Raises st r locals ip exn) (told : st.Told log) :
    Delivered log ∧ Unheard locals log := by
  cases raises with
  | unopened => exact ⟨delivered_of_silent told.2, told.unheard⟩
  | cancelled => exact ⟨delivered_of_silent told.2, told.unheard⟩
  | closed => exact told

theorem Stream.Interrupts.delivered (interrupts : Interrupts st r locals ip exn)
    (told : st.Told log) :
    Delivered log ∧ Unheard locals log := by
  cases interrupts with
  | reading => exact ⟨told.1.delivered, told.2⟩
  | closed => exact ⟨told.1.delivered, told.2⟩
  | thrown => exact ⟨told.1.delivered, told.2⟩
  | asleep => exact ⟨delivered_of_silent told.2, told.unheard⟩

end

section
variable {p p' : NodePool} {st next : Stream} {r : Resume} {actions log : List Action}

theorem Stream.Quiet.told (moves : Quiet st r next actions) (told : st.Told log) :
    next.Told (log ++ actions) := by
  cases moves with
  | unentered => exact delivered_of_silent (told.quietly rfl)
  | awakened => exact delivered_of_silent (told.quietly rfl)
  | continued => exact ⟨told.1, told.quietly rfl⟩
  | returned => exact told.quietly rfl fun _ => rfl
  | overtaken => exact told.quietly rfl fun _ => rfl
  | dropped => exact delivered_of_silent (told.quietly rfl)
  | left => exact told.quietly rfl fun _ => rfl
  | cut => exact told.quietly rfl fun _ => rfl

theorem Stream.Step.told (step : Stream.Step p st r p' next actions) (told : st.Told log) :
    next.Told (log ++ actions) := by
  cases step with
  | granted head =>
    have silent := head.silent told
    exact ⟨silent.1, silent.quietly rfl⟩
  | rejected head => exact delivered_of_silent ((head.silent told).quietly rfl)
  | queued head =>
    have silent := head.silent told
    exact ⟨silent.1, silent.quietly rfl⟩
  | served => exact ⟨told.1, told.quietly rfl⟩
  | requeued => exact ⟨told.1, told.quietly rfl⟩
  | withdrawn => exact delivered_of_silent (told.quietly rfl)
  | accepted =>
    refine ⟨⟨[], ?_, told.quietly rfl⟩, fun _ => told.quietly rfl⟩
    rw [lastBody_append]
    rfl
  | refused => exact ⟨delivered_of_silent (told.quietly rfl), fun _ => told.quietly rfl⟩
  | turned => exact ⟨told.1, told.quietly rfl⟩
  | @line locals ip text lines ending something =>
    obtain ⟨⟨done, body, heard⟩, -⟩ := told
    refine ⟨⟨done ++ [text], ?_, ?_⟩, fun down => Bool.noConfusion down⟩
    · rw [lastBody_append, body, List.append_assoc]
      rfl
    · rw [chunks_append, heard, chunksOf_append]
      simp [chunks, chunksOf, something]
  | blank =>
    obtain ⟨⟨done, body, heard⟩, unheard⟩ := told
    rw [List.append_nil]
    refine ⟨⟨done ++ [""], ?_, ?_⟩, unheard⟩
    · rw [body, List.append_assoc]
      rfl
    · rw [heard, chunksOf_append]
      simp [chunksOf]
  | pulled =>
    rw [List.append_nil]
    exact told
  | finished => exact told.1.delivered.quietly rfl fun _ => rfl
  | severed =>
    rw [List.append_nil]
    exact ⟨told.1.delivered, told.2⟩
  | rethrown raises => exact (raises.delivered told).1.quietly rfl fun _ => rfl
  | exhausted raises => exact (raises.delivered told).1.quietly rfl fun _ => rfl
  | rerouted raises silent =>
    have nothing := (raises.delivered told).2 silent
    exact ⟨silent, by rw [chunks_append, nothing]; rfl⟩
  | escaped raises => exact (raises.delivered told).1.quietly rfl fun _ => rfl
  | interrupted interrupts =>
    rw [List.append_nil]
    exact interrupts.delivered told
  | superseded => exact told.1.quietly rfl fun _ => rfl
  | quiet moves => exact moves.told told

theorem Stream.Step.sealed (step : Stream.Step p st r p' next actions) (told : st.Told log)
    (sealed : Sealed log) :
    Sealed (log ++ actions) := by
  cases step with
  | granted head => exact sealed_of_silent ((head.silent told).quietly rfl)
  | served => exact sealed_of_silent (told.quietly rfl)
  | quiet moves => cases moves <;> exact sealed_append sealed (by simp)
  | _ => exact sealed_append sealed (by simp)

end

theorem Stream.Told.delivered {st : Stream} {log : List Action} (told : st.Told log) :
    Delivered log := by
  cases st with
  | reading => exact told.1.delivered
  | yielding => exact told.1.delivered
  | closing locals ip exit =>
    cases exit with
    | returning => exact told
    | continuing => exact delivered_of_silent told.2
    | raising exn => exact told.1
  | leaving => exact told
  | done => exact told
  | _ => exact delivered_of_silent told.2

/-! ### Streams that return -/

def Stream.Complete : Stream → List Action → Prop
  | .closing _ _ .returning, log => chunks log = chunksOf (lastBody log)
  | .leaving (.ok _), log => chunks log = chunksOf (lastBody log)
  | .done (.ok _), log => chunks log = chunksOf (lastBody log)
  | _, _ => True

theorem Stream.Step.complete {p p' : NodePool} {st next : Stream} {r : Resume} {actions log : List Action}
    (step : Stream.Step p st r p' next actions) (told : st.Told log) (before : st.Complete log) :
    next.Complete (log ++ actions) := by
  cases step with
  | finished =>
    obtain ⟨⟨done, body, heard⟩, -⟩ := told
    change chunks (log ++ _) = chunksOf (lastBody (log ++ _))
    rw [chunks_append, lastBody_append, body, heard, List.append_nil]
    exact List.append_nil _
  | quiet moves =>
    cases moves with
    | returned =>
      rw [List.append_nil]
      exact before
    | left result =>
      rw [List.append_nil]
      cases result with
      | ok => exact before
      | error exn => trivial
    | _ => trivial
  | _ => trivial

namespace Router

theorem told_reachable {hash : String → Int} {p : NodePool} {s : Router} {index : Nat} {st : Stream}
    {log : List Action} (reached : (machine hash).Reaches ⟨Monitor.unlocked p, []⟩ s)
    (found : s.calls[index]? = some ⟨.stream st, log⟩) : st.Told log ∧ Sealed log := by
  refine @stream_invariant hash p (fun st log => st.Told log ∧ Sealed log) ?_ ?_ s reached index st log found
  · intro p affinityKey
    refine ⟨?_, sealed_of_silent rfl⟩
    exact Stream.start_cases (motive := fun st => st.Told []) (fun _ => ⟨rfl, rfl⟩)
      (fun _ => delivered_of_silent rfl) p hash affinityKey
  · intro p p' st r next log actions ⟨told, sealed⟩ step
    exact ⟨step.told told, step.sealed told sealed⟩

/-- A stream is never a mixture of attempts: what it has yielded are the non-empty lines of a prefix
of the last attempt's body, and it dispatches no more once it has yielded. -/
theorem stream_of_one_attempt {hash : String → Int} {p : NodePool} {s : Router} {index : Nat}
    {st : Stream} {log : List Action} (reached : (machine hash).Reaches ⟨Monitor.unlocked p, []⟩ s)
    (found : s.calls[index]? = some ⟨.stream st, log⟩) : Delivered log ∧ Sealed log := by
  obtain ⟨told, sealed⟩ := told_reachable reached found
  exact ⟨told.delivered, sealed⟩

theorem stream_complete {hash : String → Int} {p : NodePool} {s : Router} {index : Nat} {log : List Action}
    (reached : (machine hash).Reaches ⟨Monitor.unlocked p, []⟩ s)
    (found : s.calls[index]? = some ⟨.stream (.done (.ok ())), log⟩) : chunks log = chunksOf (lastBody log) := by
  have both := @stream_invariant hash p (fun st log => st.Told log ∧ st.Complete log) ?_ ?_ s reached index _ log found
  · exact both.2
  · intro p affinityKey
    exact Stream.start_cases (motive := fun st => st.Told [] ∧ st.Complete []) (fun _ => ⟨⟨rfl, rfl⟩, trivial⟩)
      (fun _ => ⟨delivered_of_silent rfl, trivial⟩) p hash affinityKey
  · intro p p' st r next log actions ⟨told, complete⟩ step
    exact ⟨step.told told, step.complete told complete⟩

/-- The first node cannot be reached, the second one answers: only its lines are delivered. -/
theorem stream_of_one_attempt_rerouted : ∃ s st log,
    (machine fun _ => 0).run (new ["10.0.0.1", "10.0.0.2"] 8080 1 1 ∅)
    [.stream none, .resume 0 .wake,
      .resume 0 (.opened (.error (.transport "connection refused"))), .resume 0 .wake,
      .resume 0 (.opened (.ok ⟨⟨200, ""⟩, ["", "data: a", "data: b"], none⟩)), .resume 0 .wake,
      .resume 0 .wake] = some s ∧
    s.calls[0]? = some ⟨.stream st, log⟩ ∧ Delivered log ∧ chunks log = ["data: a\n\n"] := by
  have yielded : (((machine fun _ => 0).run (new ["10.0.0.1", "10.0.0.2"] 8080 1 1 ∅) [.stream none,
    .resume 0 .wake, .resume 0 (.opened (.error (.transport "connection refused"))), .resume 0 .wake,
    .resume 0 (.opened (.ok ⟨⟨200, ""⟩, ["", "data: a", "data: b"], none⟩)), .resume 0 .wake,
    .resume 0 .wake]).any fun s => s.calls[0]?.any fun call =>
      call.point.isStream && chunks call.log = ["data: a\n\n"]) = true := by decide
  obtain ⟨s, ran, test⟩ := Machine.run_of_any _ yielded
  obtain ⟨⟨point, log⟩, found, test⟩ := (Option.any_eq_true _ _).mp test
  obtain ⟨streams, heard⟩ := Bool.and_eq_true_iff.mp test
  cases point with
  | submit st => cases streams
  | stream st => exact ⟨s, st, log, ran, found, (stream_of_one_attempt ⟨_, ran⟩ found).1, of_decide_eq_true heard⟩

end Router
end LlamacppRay.Gateway
