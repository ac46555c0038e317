import LlamacppRay.Automata.Machine
import LlamacppRay.Gateway.SlidingWindow

/-! Concurrent calls of the rate limiter. A call reads the clock when it begins and its pipeline
is executed at any later time, so pipelines may come in another order than readings. -/

namespace LlamacppRay.Gateway
open LlamacppRay.Automata LlamacppRay.Redis

structure Arrival where
  userId : Int
  pool : String
  now : ℚ
  deriving DecidableEq

def Arrival.key (arrival : Arrival) : String := rateKey arrival.userId arrival.pool

def Arrival.call (quota : Quota) (served : ℚ) (arrival : Arrival) : RateCall :=
  { userId := arrival.userId, pool := arrival.pool, limit := quota.limit, windowSec := quota.windowSec,
    now := arrival.now, served := served }

/-- `executed` lists the calls whose pipelines are through, the last one first, and whether they
were admitted. -/
structure Limiter where
  clock : ℚ
  store : RateStore
  pending : List Arrival
  executed : List (Arrival × Bool)

inductive LimiterEvent where
  | tick (time : ℚ)
  | check (userId : Int) (pool : String)
  | execute (index : Nat)

namespace Limiter
variable (quota : Int → String → Quota) (text : FloatText)

def checks (s : Limiter) (arrival : Arrival) : RateStore × Except HTTPException Unit :=
  checkRateLimit text s.store (arrival.call (quota arrival.userId arrival.pool) s.clock)

def execute (s : Limiter) (index : Nat) (arrival : Arrival) : Limiter :=
  { s with
    store := (s.checks quota text arrival).1
    pending := s.pending.eraseIdx index
    executed := (arrival, (s.checks quota text arrival).2.isOk) :: s.executed }

def step (s : Limiter) : LimiterEvent → Option Limiter
  | .tick time => if s.clock ≤ time then some { s with clock := time } else none
  | .check userId pool => some { s with pending := s.pending ++ [⟨userId, pool, s.clock⟩] }
  | .execute index => (s.pending[index]?).map (s.execute quota text index)

def machine : Machine Limiter LimiterEvent := ⟨step quota text⟩

def start (clock : ℚ) (store : RateStore) : Limiter := ⟨clock, store, [], []⟩

def admitted (s : Limiter) (userId : Int) (pool : String) : List ℚ :=
  (s.executed.filter fun call => call.1.userId = userId ∧ call.1.pool = pool ∧ call.2 = true).map (·.1.now)

def Bounded (s : Limiter) : Prop :=
  ∀ userId pool time,
    ((quota userId pool).window time (s.admitted userId pool)).length ≤ (quota userId pool).limit

/-- The pipeline that runs still finds the entry of every admitted call that can share a window
with its own call, and none of them under its own reading. -/
def Counted (s : Limiter) : LimiterEvent → Prop
  | .execute index => ∀ arrival ∈ s.pending[index]?, ∀ reading ∈ s.admitted arrival.userId arrival.pool,
      |reading - arrival.now| < (quota arrival.userId arrival.pool).windowSec →
        reading ≠ arrival.now ∧ text.entry reading ∈ Slot.members (s.store arrival.key) s.clock
  | _ => True

instance decidableCounted (s : Limiter) : (event : LimiterEvent) → Decidable (s.Counted quota text event)
  | .execute index => inferInstanceAs (Decidable
      (∀ arrival ∈ s.pending[index]?, ∀ reading ∈ s.admitted arrival.userId arrival.pool,
        |reading - arrival.now| < (quota arrival.userId arrival.pool).windowSec →
          reading ≠ arrival.now ∧ text.entry reading ∈ Slot.members (s.store arrival.key) s.clock))
  | .tick _ => isTrue trivial
  | .check _ _ => isTrue trivial

variable {quota text} {s : Limiter} {index : Nat} {arrival : Arrival}

theorem admitted_execute (userId : Int) (pool : String) :
    (s.execute quota text index arrival).admitted userId pool =
      if (arrival.userId = userId ∧ arrival.pool = pool) ∧ (s.checks quota text arrival).2 = .ok () then
        arrival.now :: s.admitted userId pool
      else s.admitted userId pool := by
  have ok_iff : (s.checks quota text arrival).2.isOk = true ↔ (s.checks quota text arrival).2 = .ok () := by
    cases (s.checks quota text arrival).2 with
    | ok => simp [Except.isOk, Except.toBool]
    | error => simp [Except.isOk, Except.toBool]
  simp only [admitted, execute, List.filter_cons, ok_iff, ← and_assoc, decide_eq_true_eq]
  split
  · rfl
  · rfl

end Limiter

namespace Quota
variable {quota : Quota} {time first second : ℚ}

theorem window_cons (readings : List ℚ) : quota.window time (first :: readings) =
    if time - quota.windowSec < first ∧ first ≤ time then first :: quota.window time readings
    else quota.window time readings := by
  simp only [window, List.filter_cons, decide_eq_true_eq]

theorem near_of_window (left : time - quota.windowSec < first ∧ first ≤ time)
    (right : time - quota.windowSec < second ∧ second ≤ time) : |first - second| < quota.windowSec := by
  rw [abs_lt]
  constructor
  · linarith [left.1, right.2]
  · linarith [left.2, right.1]

end Quota

theorem mem_remaining {text : FloatText} {entries : List (String × ℚ)} {now windowSec reading : ℚ}
    (present : text.entry reading ∈ entries) (inside : now - windowSec < reading) (apart : reading ≠ now) :
    text.entry reading ∈ remaining text entries now windowSec := by
  apply List.mem_append_left
  refine List.mem_filter.mpr ⟨List.mem_filter.mpr ⟨present, decide_eq_true inside⟩, ?_⟩
  exact decide_eq_true fun same => apart (text.exact same)

theorem own_mem_remaining (text : FloatText) (entries : List (String × ℚ)) (now windowSec : ℚ) :
    text.entry now ∈ remaining text entries now windowSec :=
  List.mem_append_right _ List.mem_cons_self

theorem FloatText.entry_injective (text : FloatText) : Function.Injective text.entry :=
  fun _ _ same => congrArg Prod.snd same

namespace Limiter
variable {quota : Int → String → Quota} {text : FloatText} {s next : Limiter}

def Distinct (s : Limiter) : Prop := ∀ userId pool, (s.admitted userId pool).Nodup

/-- An admitted call with its window still below the limit: every other admitted call of the
window has an entry of its own among those that were counted. -/
theorem window_execute {arrival : Arrival} {index : Nat} {time : ℚ} (distinct : s.Distinct)
    (pending : s.pending[index]? = some arrival) (counted : s.Counted quota text (.execute index))
    (granted : (s.checks quota text arrival).2 = .ok ())
    (inside : time - (quota arrival.userId arrival.pool).windowSec < arrival.now ∧ arrival.now ≤ time) :
    (((arrival.now :: (quota arrival.userId arrival.pool).window time
      (s.admitted arrival.userId arrival.pool)).length : Nat) : Int) ≤
        (quota arrival.userId arrival.pool).limit := by
  have other : ∀ reading ∈ (quota arrival.userId arrival.pool).window time
      (s.admitted arrival.userId arrival.pool), reading ≠ arrival.now ∧
        text.entry reading ∈ remaining text (Slot.members (s.store arrival.key) s.clock) arrival.now
          (quota arrival.userId arrival.pool).windowSec := by
    intro reading member
    obtain ⟨present, bounds⟩ := List.mem_filter.mp member
    have near := Quota.near_of_window (of_decide_eq_true bounds) inside
    obtain ⟨apart, found⟩ := counted arrival pending reading present near
    refine ⟨apart, mem_remaining found ?_ apart⟩
    linarith [(abs_lt.mp near).1]
  have fresh : arrival.now ∉ (quota arrival.userId arrival.pool).window time
      (s.admitted arrival.userId arrival.pool) := fun member => (other _ member).1 rfl
  have different := (List.nodup_cons.mpr ⟨fresh, (distinct arrival.userId arrival.pool).sublist
    List.filter_sublist⟩).map text.entry_injective
  have included : ((arrival.now :: (quota arrival.userId arrival.pool).window time
      (s.admitted arrival.userId arrival.pool)).map text.entry) ⊆
        remaining text (Slot.members (s.store arrival.key) s.clock) arrival.now
          (quota arrival.userId arrival.pool).windowSec := by
    intro entry member
    obtain ⟨reading, listed, rfl⟩ := List.mem_map.mp member
    rcases List.mem_cons.mp listed with rfl | old
    · exact own_mem_remaining _ _ _ _
    · exact (other reading old).2
  have fits := (different.subperm included).length_le
  have within := admitted_iff.mp granted
  rw [List.length_map] at fits
  exact (Int.ofNat_le.mpr fits).trans within

theorem distinct_step {event : LimiterEvent} (distinct : s.Distinct) (counted : s.Counted quota text event)
    (stepped : s.step quota text event = some next) : next.Distinct := by
  cases event with
  | tick time =>
    obtain ⟨-, moved⟩ := Option.ite_none_right_eq_some.mp stepped
    cases moved
    exact distinct
  | check userId pool =>
    cases stepped
    exact distinct
  | execute index =>
    obtain ⟨arrival, pending, rfl⟩ := Option.map_eq_some_iff.mp stepped
    intro userId pool
    rw [admitted_execute]
    split
    next own =>
      obtain ⟨⟨rfl, rfl⟩, -⟩ := own
      refine List.nodup_cons.mpr ⟨fun member => ?_, distinct _ _⟩
      have wide := (quota arrival.userId arrival.pool).one_le_window
      have zero : |arrival.now - arrival.now| < (quota arrival.userId arrival.pool).windowSec := by
        rw [sub_self, abs_zero]
        linarith
      exact (counted arrival pending _ member zero).1 rfl
    next => exact distinct userId pool

theorem bounded_step {event : LimiterEvent} (distinct : s.Distinct) (bounded : s.Bounded quota)
    (counted : s.Counted quota text event) (stepped : s.step quota text event = some next) :
    next.Bounded quota := by
  cases event with
  | tick time =>
    obtain ⟨-, moved⟩ := Option.ite_none_right_eq_some.mp stepped
    cases moved
    exact bounded
  | check userId pool =>
    cases stepped
    exact bounded
  | execute index =>
    obtain ⟨arrival, pending, rfl⟩ := Option.map_eq_some_iff.mp stepped
    intro userId pool time
    rw [admitted_execute]
    split
    next own =>
      obtain ⟨⟨rfl, rfl⟩, granted⟩ := own
      rw [Quota.window_cons]
      split
      next inside => exact window_execute distinct pending counted granted inside
      next => exact bounded _ _ _
    next => exact bounded userId pool time

/-- As long as every pipeline still finds the entries it has to count, no window ever holds more
admitted calls than the limit, in whatever order the pipelines are executed. -/
theorem bounded_throughout (quota : Int → String → Quota) (text : FloatText) (clock : ℚ)
    (store : RateStore) (events : List LimiterEvent)
    (counted : (machine quota text).Along (Counted quota text) (start clock store) events) :
    (machine quota text).Throughout (Bounded quota) (start clock store) events := by
  have keeps : ∀ state event next, state.Distinct ∧ state.Bounded quota → state.Counted quota text event →
      (machine quota text).step state event = some next → next.Distinct ∧ next.Bounded quota :=
    fun _ _ _ inv met stepped => ⟨distinct_step inv.1 met stepped, bounded_step inv.1 inv.2 met stepped⟩
  refine Machine.throughout_of_along keeps (fun _ inv => inv.2) ⟨fun _ _ => List.nodup_nil, ?_⟩ counted
  intro userId pool time
  have one := (quota userId pool).limit_pos
  change ((0 : Nat) : Int) ≤ _
  omega

theorem bounded_throughout_run :
    (machine (fun _ _ => Quota.oneAMinute) .fractions).Throughout (Bounded fun _ _ => Quota.oneAMinute)
      (start 0 fun _ => none) [.check 7 "text", .execute 0, .tick 30, .check 7 "text", .execute 0] :=
  bounded_throughout _ _ 0 _ _ (by decide +kernel)

/-- Two calls of one instant share a member of the sorted set, and both are admitted under a
limit of one. -/
theorem not_bounded_throughout :
    ¬∀ (quota : Int → String → Quota) (text : FloatText) (clock : ℚ) (store : RateStore)
      (events : List LimiterEvent),
        (machine quota text).Throughout (Bounded quota) (start clock store) events := by
  intro always
  have ends := always (fun _ _ => Quota.oneAMinute) .fractions 0 (fun _ => none)
    [.check 7 "text", .check 7 "text", .execute 0, .execute 0]
  have last := ends.2 _ rfl |>.2 _ rfl |>.2 _ rfl |>.2 _ rfl
  exact absurd (last 7 "text" 0) (by decide +kernel)

end Limiter
end LlamacppRay.Gateway
