import LlamacppRay.Automata.Machine
import LlamacppRay.Automata.Tasks
import LlamacppRay.Gateway.ChatPaths

/-! The gauge of active requests under any number of requests at once. A request runs from one await
to the next one without interruption, so the gauge is read between such stretches only. -/

namespace LlamacppRay.Gateway.Chat
open LlamacppRay.Automata LlamacppRay.Python

/-! ### Stretches -/

def Emission.suspends : Emission → Bool
  | .suspended => true
  | _ => false

def Emission.isChecked : Emission → Bool
  | .checked => true
  | _ => false

def Emission.isFinished : Emission → Bool
  | .finished => true
  | _ => false

def Emission.change : Emission → Int
  | .activeInc => 1
  | .activeDec => -1
  | _ => 0

def change (emissions : List Emission) : Int := (emissions.map Emission.change).sum

/-- What is emitted up to the next await. -/
def stretch (emissions : List Emission) : List Emission := emissions.takeWhile fun emission => !emission.suspends

def remainder (emissions : List Emission) : List Emission :=
  (emissions.dropWhile fun emission => !emission.suspends).tail

/-! ### Requests at once -/

/-- A request on its way: what it has emitted, and what it is going to. -/
structure Visit where
  env : Environment
  request : Request
  past : List Emission
  rest : List Emission

namespace Visit

def advance (visit : Visit) : Visit :=
  { visit with past := visit.past ++ stretch visit.rest, rest := remainder visit.rest }

/-- A request runs up to its first await at once. -/
def arrive (platform : Platform) (env : Environment) (request : Request) : Visit :=
  advance ⟨env, request, [], serve platform env request⟩

def passed (visit : Visit) : Bool := visit.past.any Emission.isChecked
def ended (visit : Visit) : Bool := visit.past.any Emission.isFinished

/-- The rate-limit check is behind the request and its inference is not. -/
def active (visit : Visit) : Bool := visit.passed && !visit.ended

def share (visit : Visit) : Int := change visit.past

end Visit

structure Floor where
  gauge : Int
  visits : List Visit

inductive FloorEvent where
  | arrive (env : Environment) (request : Request)
  | resume (index : Nat)

namespace Floor

def step (platform : Platform) (s : Floor) : FloorEvent → Option Floor
  | .arrive env request =>
      let visit := Visit.arrive platform env request
      some ⟨s.gauge + change visit.past, s.visits ++ [visit]⟩
  | .resume index => do
      let visit ← s.visits[index]?
      if visit.rest.isEmpty then none
      else some ⟨s.gauge + change (stretch visit.rest), s.visits.set index visit.advance⟩

def machine (platform : Platform) : Machine Floor FloorEvent := ⟨step platform⟩

def start : Floor := ⟨0, []⟩

def Exact (s : Floor) : Prop := s.gauge = s.visits.countP Visit.active

/-- A request that is going to be answered with an event stream comes out of the rate-limit check. -/
def Lingers (s : Floor) : FloorEvent → Prop
  | .resume index => ∃ visit, s.visits[index]? = some visit ∧ visit.passed = false ∧ Starts visit.env visit.request
  | .arrive _ _ => False

instance (s : Floor) : Decidable s.Exact := inferInstanceAs (Decidable (s.gauge = s.visits.countP Visit.active))

instance decidableLingers (s : Floor) : (event : FloorEvent) → Decidable (s.Lingers event)
  | .resume index =>
      decidable_of_iff (∃ visit ∈ s.visits[index]?, visit.passed = false ∧ Starts visit.env visit.request) Iff.rfl
  | .arrive _ _ => isFalse id

end Floor

section Stretches
variable {first second emissions : List Emission}

@[simp] theorem change_append : change (first ++ second) = change first + change second := by
  simp [change]

@[simp] theorem change_cons (emission : Emission) :
    change (emission :: emissions) = emission.change + change emissions := by
  simp [change]

def Emission.Unmarked : Emission → Prop
  | .checked | .finished | .activeInc | .activeDec => False
  | _ => True

def Unmarked (emissions : List Emission) : Prop := ∀ emission ∈ emissions, emission.Unmarked

theorem Unmarked.change (unmarked : Unmarked emissions) : change emissions = 0 := by
  refine List.sum_eq_zero fun value listed => ?_
  obtain ⟨emission, among, rfl⟩ := List.mem_map.mp listed
  have here := unmarked emission among
  cases emission with
  | activeInc => exact absurd here id
  | activeDec => exact absurd here id
  | _ => rfl

theorem Unmarked.isChecked (unmarked : Unmarked emissions) : emissions.any Emission.isChecked = false := by
  refine List.any_eq_false.mpr fun emission among marked => ?_
  have here := unmarked emission among
  cases emission with
  | checked => exact here
  | _ => cases marked

theorem Unmarked.isFinished (unmarked : Unmarked emissions) : emissions.any Emission.isFinished = false := by
  refine List.any_eq_false.mpr fun emission among marked => ?_
  have here := unmarked emission among
  cases emission with
  | finished => exact here
  | _ => cases marked

theorem Unmarked.stretch (unmarked : Unmarked emissions) : Unmarked (stretch emissions) :=
  fun emission among => unmarked emission ((List.takeWhile_sublist _).subset among)

theorem Unmarked.remainder (unmarked : Unmarked emissions) : Unmarked (remainder emissions) :=
  fun emission among => unmarked emission ((List.dropWhile_sublist _).subset (List.mem_of_mem_tail among))

theorem stretch_append (first second : List Emission) :
    (stretch (first ++ second) = stretch first ∧ remainder (first ++ second) = remainder first ++ second) ∨
      (stretch (first ++ second) = first ++ stretch second ∧ remainder (first ++ second) = remainder second) := by
  induction first with
  | nil => exact .inr ⟨rfl, rfl⟩
  | cons emission rest ih =>
    cases awaits : emission.suspends with
    | true => exact .inl (by simp [stretch, remainder, awaits])
    | false =>
      refine ih.imp ?_ ?_
      · rintro ⟨run, left⟩
        simpa [stretch, remainder, awaits] using And.intro run left
      · rintro ⟨run, left⟩
        simpa [stretch, remainder, awaits] using And.intro run left

end Stretches

/-! ### One request -/

/-- What lies ahead of a request at an await, with what is behind it: whether it has passed the check, whether its
inference is over, and its share of the gauge. -/
inductive Ahead (starts : Prop) : List Emission → Bool → Bool → Int → Prop
  | waiting {inner rest : List Emission} (direct : ¬starts) (unmarked : Unmarked inner) (after : Unmarked rest) :
      Ahead starts (.checked :: .activeInc :: (inner ++ .activeDec :: .finished :: rest)) false false 0
  | running {inner rest : List Emission} (direct : ¬starts) (unmarked : Unmarked inner) (after : Unmarked rest) :
      Ahead starts (inner ++ .activeDec :: .finished :: rest) true false 1
  | starting {inner rest : List Emission} (streams : starts) (unmarked : Unmarked inner) (after : Unmarked rest) :
      Ahead starts (.checked :: .activeInc :: .activeDec :: .suspended :: (inner ++ .finished :: rest)) false false 0
  | streaming {inner rest : List Emission} (streams : starts) (unmarked : Unmarked inner) (after : Unmarked rest) :
      Ahead starts (inner ++ .finished :: rest) true false 0
  | through {rest : List Emission} {passed : Bool} (settled : passed = true ∨ ¬starts) (after : Unmarked rest) :
      Ahead starts rest passed passed 0

def Visit.Ahead (visit : Visit) : Prop :=
  Chat.Ahead (Starts visit.env visit.request) visit.rest visit.passed visit.ended visit.share

namespace Visit
variable {visit : Visit}

theorem passed_advance : visit.advance.passed = (visit.passed || (stretch visit.rest).any Emission.isChecked) :=
  List.any_append

theorem ended_advance : visit.advance.ended = (visit.ended || (stretch visit.rest).any Emission.isFinished) :=
  List.any_append

theorem share_advance : visit.advance.share = visit.share + change (stretch visit.rest) :=
  change_append

end Visit

section Ahead
variable {starts : Prop} {emissions : List Emission} {passed ended : Bool} {share : Int}

theorem Ahead.run {inner rest : List Emission} (direct : ¬starts) (unmarked : Unmarked inner) (after : Unmarked rest) :
    Ahead starts (remainder (inner ++ .activeDec :: .finished :: rest)) true
      ((stretch (inner ++ .activeDec :: .finished :: rest)).any Emission.isFinished)
      (1 + change (stretch (inner ++ .activeDec :: .finished :: rest))) := by
  rcases stretch_append inner (.activeDec :: .finished :: rest) with ⟨run, left⟩ | ⟨run, left⟩
  · rw [run, left, unmarked.stretch.isFinished, unmarked.stretch.change]
    exact .running direct unmarked.remainder after
  · have last : stretch (.activeDec :: .finished :: rest) = .activeDec :: .finished :: stretch rest := rfl
    have finished : (inner ++ stretch (.activeDec :: .finished :: rest)).any Emission.isFinished = true := by
      simp [last, Emission.isFinished]
    have share : 1 + change (inner ++ stretch (.activeDec :: .finished :: rest)) = 0 := by
      simp [last, unmarked.change, after.stretch.change, Emission.change]
    rw [run, left, finished, share]
    exact .through (.inl rfl) after.remainder

theorem Ahead.advance (ahead : Ahead starts emissions passed ended share) :
    Ahead starts (remainder emissions) (passed || (stretch emissions).any Emission.isChecked)
      (ended || (stretch emissions).any Emission.isFinished) (share + change (stretch emissions)) := by
  cases ahead with
  | @waiting inner rest direct unmarked after =>
    have entry : stretch (.checked :: .activeInc :: (inner ++ .activeDec :: .finished :: rest)) =
        .checked :: .activeInc :: stretch (inner ++ .activeDec :: .finished :: rest) := rfl
    have share : 0 + change (.checked :: .activeInc :: stretch (inner ++ .activeDec :: .finished :: rest)) =
        1 + change (stretch (inner ++ .activeDec :: .finished :: rest)) := by
      simp [Emission.change]
    rw [entry, share]
    exact .run direct unmarked after
  | @running inner rest direct unmarked after =>
    rw [Bool.true_or, Bool.false_or]
    exact .run direct unmarked after
  | @starting inner rest streams unmarked after =>
    exact .streaming streams unmarked after
  | @streaming inner rest streams unmarked after =>
    rcases stretch_append inner (.finished :: rest) with ⟨run, left⟩ | ⟨run, left⟩
    · rw [run, left, unmarked.stretch.isChecked, unmarked.stretch.isFinished, unmarked.stretch.change]
      exact .streaming streams unmarked.remainder after
    · have finished : (inner ++ stretch (.finished :: rest)).any Emission.isFinished = true := by
        simp [stretch, Emission.suspends, Emission.isFinished]
      have same : 0 + change (inner ++ stretch (.finished :: rest)) = 0 := by
        rw [change_append, unmarked.change, zero_add, zero_add]
        exact (change_cons _).trans ((zero_add _).trans after.stretch.change)
      rw [run, left, finished, same]
      exact .through (.inl rfl) after.remainder
  | through settled after =>
    rw [after.stretch.isChecked, after.stretch.isFinished, after.stretch.change, Bool.or_false]
    exact .through settled after.remainder

def shortfall (passed ended : Bool) (share : Int) : Int := (if passed && !ended then 1 else 0) - share

theorem Ahead.shortfall_nonneg (ahead : Ahead starts emissions passed ended share) :
    0 ≤ shortfall passed ended share := by
  cases ahead with
  | through => simp [shortfall]
  | _ => simp [shortfall]

theorem Ahead.shortfall_direct (ahead : Ahead starts emissions passed ended share) (direct : ¬starts) :
    shortfall passed ended share = 0 := by
  cases ahead with
  | waiting => rfl
  | running => rfl
  | starting streams => exact absurd streams direct
  | streaming streams => exact absurd streams direct
  | through => simp [shortfall]

/-- The stretch in which a stream is started is the one that leaves the gauge short. -/
theorem Ahead.shortfall_advance (ahead : Ahead starts emissions passed ended share)
    (none : shortfall passed ended share = 0) :
    shortfall (passed || (stretch emissions).any Emission.isChecked)
      (ended || (stretch emissions).any Emission.isFinished) (share + change (stretch emissions)) = 0 ↔
        ¬(passed = false ∧ starts) := by
  by_cases streams : starts
  · cases ahead with
    | waiting direct => exact absurd streams direct
    | running direct => exact absurd streams direct
    | starting =>
      refine iff_of_false (fun zero => ?_) (not_not.mpr ⟨rfl, streams⟩)
      change (1 : Int) = 0 at zero
      cases zero
    | streaming => cases none
    | through settled after =>
      rw [after.stretch.isChecked, after.stretch.isFinished, after.stretch.change, Bool.or_false]
      refine iff_of_true none fun both => ?_
      rcases settled with gone | direct
      · rw [gone] at both
        cases both.1
      · exact direct streams
  · exact iff_of_true (ahead.advance.shortfall_direct streams) fun both => streams both.2

end Ahead

/-! ### Every request has such a way ahead -/

section Requests
variable {platform : Platform} {env : Environment} {request : Request}

theorem Emission.Own.unmarked {emission : Emission} (own : emission.Own request) : emission.Unmarked := by
  cases emission with
  | checked => exact own
  | finished => exact own
  | activeInc => exact own
  | activeDec => exact own
  | _ => trivial

theorem unmarked_respond_error (exc : Exn) : Unmarked (respond platform env request (.error exc)) := by
  intro emission among
  have client := respond_error_client platform env request exc emission among
  cases emission with
  | checked | finished | activeInc | activeDec => cases client
  | _ => trivial

/-- A stream goes on after the handler has taken itself off the gauge. -/
theorem serve_of_starts (platform : Platform) (streams : Starts env request) :
    ∃ inner rest, Unmarked inner ∧ Unmarked rest ∧ serve platform env request =
      .suspended :: .checked :: .activeInc :: .activeDec :: .suspended :: (inner ++ .finished :: rest) := by
  obtain ⟨passes, stream, promptTokens, estimated⟩ := streams
  have handled : chatCompletions platform env request =
      ⟨[.suspended, .checked, .activeInc, .activeDec], .ok (.stream promptTokens)⟩ := by
    rw [chat_of_passes platform request passes, attempt_of_streaming stream estimated]
    rfl
  cases begun : env.stream with
  | none =>
    refine ⟨[.status 200], [.ended false], by simp [Unmarked, Emission.Unmarked],
      by simp [Unmarked, Emission.Unmarked], ?_⟩
    simp [serve, handled, respond, begun]
  | some run =>
    have body := (eventStream_own platform env request promptTokens run.1 run.2).mono fun _ own => own.unmarked
    refine ⟨.status 200 :: (eventStream platform env request promptTokens run.1 run.2).emissions,
      [.ended (eventStream platform env request promptTokens run.1 run.2).result.isOk],
      List.forall_mem_cons.mpr ⟨trivial, body⟩, by simp [Unmarked, Emission.Unmarked], ?_⟩
    simp [serve, handled, respond, begun]

theorem serve_of_passes (platform : Platform) (passes : env.check.passes = true) (direct : ¬Starts env request) :
    ∃ inner rest, Unmarked inner ∧ Unmarked rest ∧ serve platform env request =
      .suspended :: .checked :: .activeInc :: (inner ++ .activeDec :: .finished :: rest) := by
  have inner := (attempt_own platform env request).mono fun _ own => own.unmarked
  refine ⟨(attempt platform env request).emissions, respond platform env request (attempt platform env request).result,
    inner, ?_, ?_⟩
  · cases answered : (attempt platform env request).result with
    | error exc => exact unmarked_respond_error exc
    | ok answer =>
      cases answer with
      | json result => simp [respond, Unmarked, Emission.Unmarked]
      | stream promptTokens =>
        obtain ⟨stream, estimated⟩ := attempt_returns platform env request _ answered promptTokens rfl
        exact absurd ⟨passes, stream, promptTokens, estimated⟩ direct
  · rw [serve, chat_of_passes platform request passes]
    cases answered : (attempt platform env request).result with
    | error exc => simp [leave]
    | ok answer =>
      cases answer with
      | json result => simp [leave]
      | stream promptTokens =>
        obtain ⟨stream, estimated⟩ := attempt_returns platform env request _ answered promptTokens rfl
        exact absurd ⟨passes, stream, promptTokens, estimated⟩ direct

theorem serve_of_stopped (platform : Platform) (request : Request) (stopped : env.check.passes = false) :
    ∃ rest, Unmarked rest ∧ serve platform env request = .suspended :: rest := by
  cases checked : env.check with
  | cancelled =>
    refine ⟨respond platform env request (.error .cancelledError), unmarked_respond_error _, ?_⟩
    simp only [serve, chatCompletions, checked, Program.emit_bind]
    rfl
  | rejected exc =>
    obtain ⟨raised, failed⟩ : ∃ raised, (rejectRateLimited env request exc).result = .error raised := by
      cases answered : (rejectRateLimited env request exc).result with
      | error raised => exact ⟨raised, rfl⟩
      | ok answer =>
        have never : (rejectRateLimited env request exc).Returns fun _ => False :=
          .bind fun _ _ => .bind fun _ _ => .bind fun _ _ => .raise _
        exact absurd (never answer answered) id
    have inner := (rejectRateLimited_own env request exc).mono fun _ own => own.unmarked
    refine ⟨(rejectRateLimited env request exc).emissions ++ respond platform env request (.error raised),
      List.forall_mem_append.mpr ⟨inner, unmarked_respond_error raised⟩, ?_⟩
    simp only [serve, chatCompletions, checked, Program.emit_bind, failed, List.cons_append]
  | passed =>
    rw [checked] at stopped
    cases stopped
  | unavailable =>
    rw [checked] at stopped
    cases stopped

theorem serve_begins (platform : Platform) (env : Environment) (request : Request) :
    ∃ rest, serve platform env request = .suspended :: rest := by
  rw [serve, chatCompletions, Program.emit_bind]
  exact ⟨_, rfl⟩

theorem ahead_of_arrival (platform : Platform) (env : Environment) (request : Request) :
    (Visit.arrive platform env request).Ahead := by
  have arrives : ∀ rest, serve platform env request = .suspended :: rest →
      Ahead (Starts env request) rest false false 0 → (Visit.arrive platform env request).Ahead := by
    intro rest whole ahead
    rw [Visit.arrive, whole]
    exact ahead
  cases passes : env.check.passes with
  | false =>
    obtain ⟨rest, unmarked, whole⟩ := serve_of_stopped platform request passes
    refine arrives rest whole (.through (.inr fun streams => ?_) unmarked)
    exact absurd streams.1 (by simp [passes])
  | true =>
    by_cases streams : Starts env request
    · obtain ⟨inner, rest, unmarked, after, whole⟩ := serve_of_starts platform streams
      exact arrives _ whole (.starting streams unmarked after)
    · obtain ⟨inner, rest, unmarked, after, whole⟩ := serve_of_passes platform passes streams
      exact arrives _ whole (.waiting streams unmarked after)

end Requests

/-! ### The gauge -/

namespace Floor
variable {platform : Platform} {s next : Floor} {event : FloorEvent}

/-- The gauge is the sum of what the requests have done to it, and each of them has its way ahead. -/
structure Tracked (s : Floor) : Prop where
  gauge : s.gauge = (s.visits.map Visit.share).sum
  ahead : ∀ visit ∈ s.visits, visit.Ahead

def short (visit : Visit) : Int := shortfall visit.passed visit.ended visit.share

theorem short_nonneg (tracked : s.Tracked) : ∀ visit ∈ s.visits, 0 ≤ short visit :=
  fun visit among => (tracked.ahead visit among).shortfall_nonneg

theorem sum_short (visits : List Visit) :
    (visits.map short).sum = visits.countP Visit.active - (visits.map Visit.share).sum := by
  induction visits with
  | nil => rfl
  | cons visit rest ih =>
    have one : short visit = (if visit.active then 1 else 0) - visit.share := rfl
    simp only [List.map_cons, List.sum_cons, List.countP_cons, ih, one]
    split
    · push_cast
      omega
    · push_cast
      omega

theorem exact_iff (tracked : s.Tracked) : s.Exact ↔ (s.visits.map short).sum = 0 := by
  rw [Exact, sum_short, tracked.gauge]
  omega

theorem tracked_start : start.Tracked where
  gauge := rfl
  ahead _ among := by cases among

theorem tracked_step (tracked : s.Tracked) (stepped : (machine platform).step s event = some next) :
    next.Tracked := by
  cases event with
  | arrive env request =>
    cases stepped
    constructor
    · simp [tracked.gauge, Visit.share]
    · intro visit among
      rcases List.mem_append.mp among with old | new
      · exact tracked.ahead visit old
      · cases List.mem_singleton.mp new
        exact ahead_of_arrival platform env request
  | resume index =>
    simp only [machine, step, Option.bind_eq_bind, Option.bind_eq_some_iff] at stepped
    obtain ⟨visit, running, stepped⟩ := stepped
    split at stepped
    · cases stepped
    · cases stepped
      constructor
      · have before := Tasks.sum_running Visit.share running
        have after := Tasks.sum_set Visit.share (Tasks.bound_of_running running) visit.advance
        rw [Visit.share_advance] at after
        have gauge := tracked.gauge
        change s.gauge + change (stretch visit.rest) = ((s.visits.set index visit.advance).map Visit.share).sum
        omega
      · have ahead := (tracked.ahead visit (Tasks.mem_of_running running)).advance
        refine Tasks.forall_mem_set tracked.ahead ?_
        rw [Visit.Ahead, Visit.passed_advance, Visit.ended_advance, Visit.share_advance]
        exact ahead

theorem exact_step (tracked : s.Tracked) (exact_now : s.Exact)
    (stepped : (machine platform).step s event = some next) : next.Exact ↔ ¬s.Lingers event := by
  have after := tracked_step tracked stepped
  rw [exact_iff after]
  rw [exact_iff tracked] at exact_now
  cases event with
  | arrive env request =>
    cases stepped
    have fresh : short (Visit.arrive platform env request) = 0 := by
      obtain ⟨rest, whole⟩ := serve_begins platform env request
      rw [Visit.arrive, whole]
      rfl
    simp [exact_now, fresh, Lingers]
  | resume index =>
    simp only [machine, step, Option.bind_eq_bind, Option.bind_eq_some_iff] at stepped
    obtain ⟨visit, running, stepped⟩ := stepped
    split at stepped
    · cases stepped
    · cases stepped
      have before := Tasks.sum_running short running
      have now := Tasks.sum_set short (Tasks.bound_of_running running) visit.advance
      have least := Tasks.le_sum (short_nonneg tracked) running
      have nonneg := short_nonneg tracked visit (Tasks.mem_of_running running)
      have none : short visit = 0 := by omega
      have ahead := (tracked.ahead visit (Tasks.mem_of_running running)).shortfall_advance none
      rw [← Visit.passed_advance, ← Visit.ended_advance, ← Visit.share_advance] at ahead
      have same : (((s.visits.set index visit.advance).map short).sum = 0) ↔ short visit.advance = 0 := by omega
      refine same.trans (ahead.trans (not_congr ⟨fun lingers => ⟨visit, running, lingers⟩, ?_⟩))
      rintro ⟨other, found, lingers⟩
      cases running.symm.trans found
      exact lingers

/-- The gauge is exact throughout a run exactly if no request that is answered with an event stream passes the check:
the handler of such a request is through before its stream has begun. -/
theorem exact_throughout (platform : Platform) (events : List FloorEvent) (last : Floor)
    (ran : (machine platform).run start events = some last) :
    (machine platform).Throughout Exact start events ↔
      (machine platform).Along (fun s event => ¬s.Lingers event) start events :=
  Machine.throughout_iff_along (fun _ _ _ tracked stepped => tracked_step tracked stepped)
    (fun _ _ _ tracked exact_now stepped => exact_step tracked exact_now stepped) tracked_start rfl ran

theorem exact_throughout_two : (machine .plain).Throughout Exact start
    [.arrive (.answering 3 1) (.greeting false), .resume 0, .arrive (.answering 2 5) (.greeting false), .resume 1,
      .resume 0, .resume 0, .resume 1, .resume 1] :=
  (exact_throughout .plain _ _ rfl).mpr (by decide +kernel)

/-- While the one stream is on its way the gauge shows nothing. -/
theorem not_exact_throughout :
    ¬∀ (platform : Platform) (events : List FloorEvent) (last : Floor),
      (machine platform).run start events = some last → (machine platform).Throughout Exact start events := by
  intro always
  have ends := always .plain [.arrive (.answering 3 1) (.greeting true), .resume 0] _ rfl
  have last : Exact _ := ends.2 _ rfl |>.2 _ rfl
  exact absurd last (by decide)

end Floor

end LlamacppRay.Gateway.Chat
