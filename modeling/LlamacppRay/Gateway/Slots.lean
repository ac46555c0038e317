import LlamacppRay.Gateway.Router

/-! Who holds which slot. A call holds the slot it was granted and has not released; the counters
of the pool are the sums of what the calls hold, and a call that ends without a release keeps its
slot for good. -/

namespace LlamacppRay.Gateway
open LlamacppRay.Asyncio LlamacppRay.Automata

/-- The net effect of a log on `in_flight[ip]`. -/
def slots (log : List Action) (ip : String) : Int := log.count (.granted ip) - log.count (.released ip)

def turns (log : List Action) : Int := log.count .queued - log.count .dequeued

theorem slots_append (first second : List Action) (ip : String) :
    slots (first ++ second) ip = slots first ip + slots second ip := by
  simp only [slots, List.count_append]
  push_cast
  ring

theorem turns_append (first second : List Action) :
    turns (first ++ second) = turns first + turns second := by
  simp only [turns, List.count_append]
  push_cast
  ring

/-! ### The slot a suspended call holds -/

def Submit.held : Submit → Option String
  | .sending _ ip => some ip
  | _ => none

def Stream.held : Stream → Option String
  | .opening _ ip => some ip
  | .reading _ ip _ _ => some ip
  | .yielding _ ip _ _ => some ip
  | .closing _ ip (.raising exn) => if exn.isException then some ip else none
  | _ => none

def Point.held : Point → Option String
  | .submit st => st.held
  | .stream st => st.held

/-- From here on the call performs no further operation on its slot. -/
def Submit.Over : Submit → Prop
  | .leaving _ => True
  | .done _ => True
  | _ => False

def Stream.Over : Stream → Prop
  | .closing _ _ (.raising exn) => exn.isException = false
  | .leaving _ => True
  | .done _ => True
  | _ => False

def Point.Over : Point → Prop
  | .submit st => st.Over
  | .stream st => st.Over

/-- The resumptions that make a call forget its slot: in `_send` a cancellation, or an outcome that is no decoded
value, no transport and no status error; in a stream a cancellation or a close at any suspension between grant and
release. -/
def Point.Loses : Point → Resume → Prop
  | .submit (.sending _ _), .posted _ result => ∃ message, send result = .error (.other message)
  | .submit (.sending _ _), .cancel => True
  | .stream st, .cancel => st.held ≠ none
  | .stream st, .close => st.held ≠ none
  | _, _ => False

/-! ### What one stretch does to the slot -/

def Neutral (actions : List Action) : Prop :=
  ∀ ip, Action.granted ip ∉ actions ∧ Action.released ip ∉ actions

theorem neutral_slots {actions : List Action} (neutral : Neutral actions) (ip : String) :
    slots actions ip = 0 := by
  simp only [slots, List.count_eq_zero.mpr (neutral ip).1, List.count_eq_zero.mpr (neutral ip).2]
  rfl

inductive Turnover (ips : List String) : Option String → List Action → Option String → Prop
  | kept {held : Option String} {actions : List Action} (neutral : Neutral actions) :
      Turnover ips held actions held
  | taken {ip : String} {first : Action} {rest : List Action} (known : ip ∈ ips)
      (neutral : Neutral (first :: rest)) :
      Turnover ips none (first :: .granted ip :: rest) (some ip)
  | dropped {ip : String} {rest : List Action} (neutral : Neutral rest) :
      Turnover ips (some ip) (.released ip :: rest) none

def share (held : Option String) (ip : String) : Int := if held = some ip then 1 else 0

@[simp] theorem share_none (ip : String) : share none ip = 0 := rfl

@[simp] theorem share_self (ip : String) : share (some ip) ip = 1 := if_pos rfl

theorem share_nonneg (held : Option String) (ip : String) : 0 ≤ share held ip := by
  unfold share
  split <;> omega

theorem slots_granted (ip other : String) : slots [.granted ip] other = share (some ip) other := by
  by_cases same : ip = other <;> simp [slots, share, same]

theorem slots_released (ip other : String) :
    slots [.released ip] other = -share (some ip) other := by
  by_cases same : ip = other <;> simp [slots, share, same]

theorem Turnover.slots_eq {ips : List String} {before after : Option String} {actions : List Action}
    (turnover : Turnover ips before actions after) (ip : String) :
    share before ip + slots actions ip = share after ip := by
  cases turnover with
  | kept neutral => rw [neutral_slots neutral, add_zero]
  | @taken other first rest known neutral =>
    have quiet : slots [first] ip + slots rest ip = 0 :=
      (slots_append [first] rest ip).symm.trans (neutral_slots neutral ip)
    calc share none ip + slots (first :: .granted other :: rest) ip
        = slots ([first] ++ ([.granted other] ++ rest)) ip := zero_add _
      _ = slots [first] ip + (slots [.granted other] ip + slots rest ip) := by
          rw [slots_append, slots_append]
      _ = slots [.granted other] ip := by omega
      _ = share (some other) ip := slots_granted other ip
  | @dropped other rest neutral =>
    calc share (some other) ip + slots (.released other :: rest) ip
        = share (some other) ip + (slots [.released other] ip + slots rest ip) := by
          rw [← slots_append]
          rfl
      _ = share none ip := by
          rw [slots_released, neutral_slots neutral, share_none]
          omega

theorem Submit.Step.turnover {p p' : NodePool} {st next : Submit} {r : Resume}
    {actions : List Action} (step : Submit.Step p st r p' next actions)
    (kept : ¬Point.Loses (.submit st) r) :
    Turnover p.ips st.held actions next.held := by
  cases step with
  | granted head chosen =>
    have known := NodePool.chosen_known chosen
    cases head <;> exact .taken known (by simp [Neutral])
  | rejected head full queue => cases head <;> exact .kept (by simp [Neutral])
  | queued head full queue => cases head <;> exact .kept (by simp [Neutral])
  | served chosen => exact .taken (NodePool.chosen_known chosen) (by simp [Neutral])
  | requeued full => exact .kept (by simp [Neutral])
  | withdrawn locals future => exact .kept (by simp [Neutral])
  | succeeded outcome => exact .dropped (by simp [Neutral])
  | refused outcome final => exact .dropped (by simp [Neutral])
  | exhausted outcome failure last => exact .dropped (by simp [Neutral])
  | rerouted outcome failure more => exact .dropped (by simp [Neutral])
  | broken outcome => exact absurd ⟨_, outcome⟩ kept
  | cancelled locals ip => exact absurd trivial kept
  | quiet ends => cases ends <;> exact .kept (by simp [Neutral])

theorem Stream.Raises.held_of_exception {st : Stream} {r : Resume} {locals : StreamLocals}
    {ip : String} {exn : Exn} (raises : Raises st r locals ip exn)
    (caught : exn.isException = true) : st.held = some ip := by
  cases raises with
  | unopened fault => rfl
  | cancelled => rfl
  | closed exn => simp only [Stream.held, caught, ↓reduceIte]

theorem Fault.exn_isException (fault : Fault) : fault.exn.isException = true := by
  cases fault <;> rfl

theorem Stream.Step.turnover {p p' : NodePool} {st next : Stream} {r : Resume}
    {actions : List Action} (step : Stream.Step p st r p' next actions)
    (kept : ¬Point.Loses (.stream st) r) :
    Turnover p.ips st.held actions next.held := by
  cases step with
  | granted head chosen =>
    have known := NodePool.chosen_known chosen
    cases head <;> exact .taken known (by simp [Neutral])
  | rejected head full queue => cases head <;> exact .kept (by simp [Neutral])
  | queued head full queue => cases head <;> exact .kept (by simp [Neutral])
  | served chosen => exact .taken (NodePool.chosen_known chosen) (by simp [Neutral])
  | requeued full => exact .kept (by simp [Neutral])
  | withdrawn locals future => exact .kept (by simp [Neutral])
  | accepted success => exact .kept (by simp [Neutral])
  | refused failure final => exact .kept (by simp [Neutral])
  | turned failure status more => exact .dropped (by simp [Neutral])
  | line something => exact .kept (by simp [Neutral])
  | blank => exact .kept (by simp [Neutral])
  | pulled => exact .kept (by simp [Neutral])
  | finished => exact .dropped (by simp [Neutral])
  | @severed locals ip fault =>
    have same : (Stream.closing locals ip (.raising fault.exn)).held = some ip := by
      simp only [Stream.held, fault.exn_isException, ↓reduceIte]
    rw [same]
    exact .kept (by simp [Neutral])
  | rethrown raises caught final =>
    rw [raises.held_of_exception caught]
    exact .dropped (by simp [Neutral])
  | exhausted raises silent last =>
    rw [raises.held_of_exception rfl]
    exact .dropped (by simp [Neutral])
  | rerouted raises silent more =>
    rw [raises.held_of_exception rfl]
    exact .dropped (by simp [Neutral])
  | escaped raises uncaught =>
    cases raises with
    | unopened fault => rw [Fault.exn_isException] at uncaught; cases uncaught
    | cancelled => exact absurd (by simp [Point.Loses, Stream.held]) kept
    | closed =>
      simp only [Stream.held, uncaught, Bool.false_eq_true, ↓reduceIte]
      exact .kept (by simp [Neutral])
  | interrupted interrupts =>
    cases interrupts with
    | reading => exact absurd (by simp [Point.Loses, Stream.held]) kept
    | closed => exact absurd (by simp [Point.Loses, Stream.held]) kept
    | thrown => exact absurd (by simp [Point.Loses, Stream.held]) kept
    | asleep => exact .kept (by simp [Neutral])
  | @superseded locals ip exn =>
    have nothing : (Stream.closing locals ip (.raising exn)).held = none := not_not.mp kept
    rw [nothing]
    exact .kept (by simp [Neutral])
  | quiet moves => cases moves <;> exact .kept (by simp [Neutral])

theorem Submit.Step.lost {p p' : NodePool} {st next : Submit} {r : Resume} {actions : List Action}
    (step : Submit.Step p st r p' next actions) (loses : Point.Loses (.submit st) r) :
    Neutral actions ∧ next.Over ∧ ∃ ip, st.held = some ip := by
  cases step with
  | broken outcome => exact ⟨by simp [Neutral], trivial, _, rfl⟩
  | cancelled locals ip => exact ⟨by simp [Neutral], trivial, _, rfl⟩
  | granted head => cases head <;> exact loses.elim
  | rejected head => cases head <;> exact loses.elim
  | queued head => cases head <;> exact loses.elim
  | succeeded outcome =>
    obtain ⟨message, broken⟩ := loses
    rw [outcome] at broken
    cases broken
  | refused outcome =>
    obtain ⟨message, broken⟩ := loses
    rw [outcome] at broken
    cases broken
  | exhausted outcome failure =>
    obtain ⟨message, broken⟩ := loses
    rw [outcome] at broken
    cases broken
    cases failure
  | rerouted outcome failure =>
    obtain ⟨message, broken⟩ := loses
    rw [outcome] at broken
    cases broken
    cases failure
  | quiet ends => cases ends <;> exact loses.elim
  | _ => exact loses.elim

theorem Stream.Step.lost {p p' : NodePool} {st next : Stream} {r : Resume} {actions : List Action}
    (step : Stream.Step p st r p' next actions) (loses : Point.Loses (.stream st) r) :
    Neutral actions ∧ next.Over ∧ ∃ ip, st.held = some ip := by
  cases step with
  | escaped raises uncaught =>
    cases raises with
    | cancelled => exact ⟨by simp [Neutral], trivial, _, rfl⟩
    | unopened => exact loses.elim
    | closed => exact loses.elim
  | interrupted interrupts =>
    cases interrupts with
    | reading => exact ⟨by simp [Neutral], rfl, _, rfl⟩
    | closed => exact ⟨by simp [Neutral], rfl, _, rfl⟩
    | thrown => exact ⟨by simp [Neutral], rfl, _, rfl⟩
    | asleep => exact absurd rfl loses
  | superseded => exact ⟨by simp [Neutral], trivial, Option.ne_none_iff_exists'.mp loses⟩
  | granted head => cases head <;> exact loses.elim
  | rejected head => cases head <;> exact loses.elim
  | queued head => cases head <;> exact loses.elim
  | withdrawn => exact absurd rfl loses
  | rethrown raises caught =>
    cases raises with
    | cancelled => cases caught
    | unopened => exact loses.elim
    | closed => exact loses.elim
  | exhausted raises =>
    rcases raises.of_transport with ⟨rfl, rfl⟩ | ⟨rfl, rfl⟩
    · exact loses.elim
    · exact loses.elim
  | rerouted raises =>
    rcases raises.of_transport with ⟨rfl, rfl⟩ | ⟨rfl, rfl⟩
    · exact loses.elim
    · exact loses.elim
  | quiet moves => cases moves <;> first | exact loses.elim | exact absurd rfl loses
  | _ => exact loses.elim

theorem Submit.Step.stays_over {p p' : NodePool} {st next : Submit} {r : Resume}
    {actions : List Action} (step : Submit.Step p st r p' next actions) (ended : st.Over) :
    Neutral actions ∧ next.Over := by
  cases step with
  | granted head => cases head <;> exact ended.elim
  | rejected head => cases head <;> exact ended.elim
  | queued head => cases head <;> exact ended.elim
  | quiet ends =>
    cases ends with
    | unentered => exact ended.elim
    | awakened => exact ended.elim
    | left result => exact ⟨by simp [Neutral], trivial⟩
    | cut result => exact ⟨by simp [Neutral], trivial⟩
  | _ => exact ended.elim

theorem Stream.Raises.uncaught_of_over {st : Stream} {r : Resume} {locals : StreamLocals}
    {ip : String} {exn : Exn} (raises : Raises st r locals ip exn) (ended : st.Over) :
    exn.isException = false := by
  cases raises with
  | unopened => exact ended.elim
  | cancelled => exact ended.elim
  | closed => exact ended

theorem Stream.Step.stays_over {p p' : NodePool} {st next : Stream} {r : Resume}
    {actions : List Action} (step : Stream.Step p st r p' next actions) (ended : st.Over) :
    Neutral actions ∧ next.Over := by
  cases step with
  | escaped raises uncaught => exact ⟨by simp [Neutral], trivial⟩
  | superseded => exact ⟨by simp [Neutral], trivial⟩
  | granted head => cases head <;> exact ended.elim
  | rejected head => cases head <;> exact ended.elim
  | queued head => cases head <;> exact ended.elim
  | rethrown raises caught =>
    rw [raises.uncaught_of_over ended] at caught
    cases caught
  | exhausted raises => cases raises.uncaught_of_over ended
  | rerouted raises => cases raises.uncaught_of_over ended
  | interrupted interrupts => cases interrupts <;> exact ended.elim
  | quiet moves =>
    cases moves with
    | left result => exact ⟨by simp [Neutral], trivial⟩
    | cut result => exact ⟨by simp [Neutral], trivial⟩
    | _ => exact ended.elim
  | _ => exact ended.elim

section
variable {p p' : NodePool} {point next : Point} {r : Resume} {actions : List Action}

theorem Point.Step.turnover (step : Point.Step p point r p' next actions) (kept : ¬point.Loses r) :
    Turnover p.ips point.held actions next.held := by
  cases step with
  | submit step => exact step.turnover kept
  | stream step => exact step.turnover kept

theorem Point.Step.lost (step : Point.Step p point r p' next actions) (loses : point.Loses r) :
    Neutral actions ∧ next.Over ∧ ∃ ip, point.held = some ip := by
  cases step with
  | submit step => exact step.lost loses
  | stream step => exact step.lost loses

theorem Point.Step.stays_over (step : Point.Step p point r p' next actions) (ended : point.Over) :
    Neutral actions ∧ next.Over := by
  cases step with
  | submit step => exact step.stays_over ended
  | stream step => exact step.stays_over ended

end

/-! ### Logs and slots of whole calls -/

/-- Every release gives back a slot that the log shows to be held. -/
def Matched (log : List Action) : Prop :=
  ∀ before ip after, log = before ++ .released ip :: after → slots before ip = 1

/-- The slot a call has been granted and not released: the one its point of suspension shows, or
one it has lost. -/
structure Call.Owns (ips : List String) (call : Call) (held : Option String) : Prop where
  shown : held = call.point.held ∨ call.point.Over
  slots_eq : ∀ ip, slots call.log ip = share held ip
  known : ∀ ip, held = some ip → ip ∈ ips
  matched : Matched call.log

theorem matched_append {log actions : List Action} (matched : Matched log)
    (unreleased : ∀ ip, Action.released ip ∉ actions) : Matched (log ++ actions) := by
  intro before ip after split
  rcases List.append_eq_append_iff.mp split with ⟨middle, rfl, late⟩ | ⟨middle, rfl, early⟩
  · exact absurd (late ▸ List.mem_append_right _ List.mem_cons_self) (unreleased ip)
  · cases middle with
    | nil =>
      refine absurd ?_ (unreleased ip)
      rw [List.nil_append] at early
      rw [← early]
      exact List.mem_cons_self
    | cons head tail =>
      rw [List.cons_append] at early
      obtain ⟨rfl, -⟩ := List.cons.inj early
      exact matched before ip tail rfl

theorem matched_append_released {log rest : List Action} {ip : String} (matched : Matched log)
    (holds : slots log ip = 1) (neutral : Neutral rest) :
    Matched (log ++ .released ip :: rest) := by
  have first : Matched (log ++ [.released ip]) := by
    intro before other after split
    rcases List.append_eq_append_iff.mp split with ⟨middle, rfl, late⟩ | ⟨middle, rfl, early⟩
    · cases middle with
      | nil =>
        obtain ⟨same, -⟩ := List.cons.inj late
        cases same
        rw [List.append_nil]
        exact holds
      | cons head tail => simp at late
    · cases middle with
      | nil =>
        obtain ⟨same, -⟩ := List.cons.inj early
        cases same
        rw [List.append_nil] at holds
        exact holds
      | cons head tail =>
        obtain ⟨rfl, -⟩ := List.cons.inj early
        exact matched before other tail rfl
  have whole := matched_append first fun other => (neutral other).2
  rwa [List.append_assoc] at whole

theorem Turnover.matched {ips : List String} {before after : Option String}
    {actions log : List Action} (turnover : Turnover ips before actions after)
    (matched : Matched log) (slots_eq : ∀ ip, slots log ip = share before ip) :
    Matched (log ++ actions) := by
  cases turnover with
  | kept neutral => exact matched_append matched fun ip => (neutral ip).2
  | taken known neutral =>
    refine matched_append matched fun ip => ?_
    have unreleased := (neutral ip).2
    simp only [List.mem_cons, not_or, reduceCtorEq, not_false_eq_true, true_and] at unreleased ⊢
    exact unreleased
  | @dropped ip rest neutral =>
    refine matched_append_released matched ?_ neutral
    rw [slots_eq, share_self]

end LlamacppRay.Gateway
