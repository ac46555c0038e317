import LlamacppRay.Gateway.RateLimiter

/-! The calls of one user on one pool, executed one after another at times of one clock. The
stored set is then the sliding window of the history. -/

namespace LlamacppRay.Gateway
open LlamacppRay.Redis

structure Quota where
  limit : Int
  windowSec : Int
  limit_pos : 1 ≤ limit
  window_pos : 1 ≤ windowSec

namespace Quota

theorem one_le_window (quota : Quota) : (1 : ℚ) ≤ quota.windowSec := by
  exact_mod_cast quota.window_pos

/-- The readings of the half-open window that ends at a time. -/
def window (quota : Quota) (time : ℚ) (readings : List ℚ) : List ℚ :=
  readings.filter fun reading => time - quota.windowSec < reading ∧ reading ≤ time

def callAt (quota : Quota) (userId : Int) (pool : String) (time : ℚ) : RateCall :=
  { userId := userId, pool := pool, limit := quota.limit, windowSec := quota.windowSec,
    now := time, served := time }

def after (quota : Quota) (text : FloatText) (userId : Int) (pool : String) (store : RateStore)
    (times : List ℚ) : RateStore :=
  times.foldl (fun store time => (checkRateLimit text store (quota.callAt userId pool time)).1) store

def admits (quota : Quota) (text : FloatText) (userId : Int) (pool : String) (store : RateStore)
    (time : ℚ) : Prop :=
  (checkRateLimit text store (quota.callAt userId pool time)).2 = .ok ()

end Quota

def FloatText.entry (text : FloatText) (reading : ℚ) : String × ℚ := (text.str reading, reading)

/-- The key holds the readings that were in the window at the last of them, and lives for a
second more than the window. -/
def Tracks (text : FloatText) (windowSec : ℚ) (times : List ℚ) (slot : Option (Slot String ℚ ℚ)) : Prop :=
  (times = [] ∧ slot = none) ∨ ∃ earlier last set, times = earlier ++ [last] ∧
    slot = some ⟨set, some (last + (windowSec + 1))⟩ ∧
    set.entries = (times.filter fun reading => last - windowSec < reading).map text.entry

section
variable {text : FloatText} {windowSec time : ℚ} {times : List ℚ} {slot : Option (Slot String ℚ ℚ)}

theorem le_last {earlier : List ℚ} {last reading : ℚ} (increasing : (earlier ++ [last]).Pairwise (· < ·))
    (member : reading ∈ earlier ++ [last]) : reading ≤ last := by
  rcases List.mem_append.mp member with old | new
  · exact ((List.pairwise_append.mp increasing).2.2 reading old last List.mem_cons_self).le
  · exact (List.mem_singleton.mp new).le

theorem Tracks.pruned (tracks : Tracks text windowSec times slot) (increasing : times.Pairwise (· < ·))
    (later : ∀ reading ∈ times, reading ≤ time) :
    ((Slot.members slot time).filter fun entry => time - windowSec < entry.2) =
      (times.filter fun reading => time - windowSec < reading).map text.entry := by
  rcases tracks with ⟨rfl, rfl⟩ | ⟨earlier, last, set, rfl, rfl, entries⟩
  · rfl
  · have reached : last ≤ time := later last (List.mem_append_right _ List.mem_cons_self)
    by_cases early : time ≤ last + (windowSec + 1)
    · rw [Slot.members_of_le early, entries, List.filter_map, List.filter_filter]
      congr 1
      apply List.filter_congr
      intro reading member
      have inside : time - windowSec < reading → last - windowSec < reading := fun _ => by linarith
      rw [← decide_eq_decide.mpr (and_iff_left_of_imp inside), Bool.decide_and]
      rfl
    · have late := not_le.mp early
      have none_left : ((earlier ++ [last]).filter fun reading => time - windowSec < reading) = [] := by
        apply List.filter_eq_nil_iff.mpr
        intro reading member
        have before := le_last increasing member
        simp only [decide_eq_true_eq, not_lt]
        linarith
      rw [Slot.members_of_lt late, none_left]
      rfl

theorem Tracks.remaining (tracks : Tracks text windowSec times slot) (positive : 0 < windowSec)
    (increasing : (times ++ [time]).Pairwise (· < ·)) :
    remaining text (Slot.members slot time) time windowSec =
      ((times ++ [time]).filter fun reading => time - windowSec < reading).map text.entry := by
  obtain ⟨before, -, earlier⟩ := List.pairwise_append.mp increasing
  have older : ∀ reading ∈ times, reading < time := fun reading member =>
    earlier reading member time List.mem_cons_self
  have own : time - windowSec < time := by linarith
  rw [Gateway.remaining, tracks.pruned before fun reading member => (older reading member).le,
    List.filter_append, List.map_append, List.filter_cons_of_pos (by simpa using own)]
  congr 1
  apply List.filter_eq_self.mpr
  intro entry member
  obtain ⟨reading, kept, rfl⟩ := List.mem_map.mp member
  have apart := (older reading (List.mem_filter.mp kept).1).ne
  exact decide_eq_true fun same => apart (text.exact same)

end

namespace Quota
variable {quota : Quota} {text : FloatText} {userId : Int} {pool : String} {store : RateStore} {time : ℚ}
  {times : List ℚ}

theorem tracks_step (tracks : Tracks text quota.windowSec times (store (rateKey userId pool)))
    (increasing : (times ++ [time]).Pairwise (· < ·)) :
    Tracks text quota.windowSec (times ++ [time])
      ((checkRateLimit text store (quota.callAt userId pool time)).1 (rateKey userId pool)) := by
  have wide := quota.one_le_window
  obtain ⟨set, found, entries⟩ := pipeline_slot text store time (rateKey userId pool) time (by linarith :
    0 < (quota.windowSec : ℚ) + 1)
  exact Or.inr ⟨times, time, set, rfl, found, entries.trans (tracks.remaining (by linarith) increasing)⟩

theorem tracks_after (quota : Quota) (text : FloatText) (unused : store (rateKey userId pool) = none)
    (increasing : times.Pairwise (· < ·)) :
    Tracks text quota.windowSec times (quota.after text userId pool store times (rateKey userId pool)) := by
  induction times using List.reverseRecOn with
  | nil => exact Or.inl ⟨rfl, unused⟩
  | append_singleton earlier last ih =>
    have before := ih (List.pairwise_append.mp increasing).1
    rw [after, List.foldl_append]
    exact tracks_step before increasing

theorem window_eq (increasing : (times ++ [time]).Pairwise (· < ·)) :
    quota.window time (times ++ [time]) =
      (times ++ [time]).filter fun reading => time - quota.windowSec < reading := by
  apply List.filter_congr
  intro reading member
  have past := le_last increasing member
  simpa using fun _ => past

theorem admits_iff (unused : store (rateKey userId pool) = none)
    (increasing : (times ++ [time]).Pairwise (· < ·)) :
    quota.admits text userId pool (quota.after text userId pool store times) time ↔
      (quota.window time (times ++ [time])).length ≤ quota.limit := by
  have wide := quota.one_le_window
  have tracks := tracks_after quota text unused (List.pairwise_append.mp increasing).1
  have counted := tracks.remaining (by linarith) increasing
  rw [window_eq increasing, ← List.length_map text.entry, ← counted]
  exact admitted_iff

theorem kept_in_window (unused : store (rateKey userId pool) = none) (increasing : times.Pairwise (· < ·))
    (later : ∀ reading ∈ times, reading ≤ time) {reading : ℚ} (member : reading ∈ times)
    (inside : time - quota.windowSec < reading) :
    text.entry reading ∈
      Slot.members (quota.after text userId pool store times (rateKey userId pool)) time := by
  have pruned := (tracks_after quota text unused increasing).pruned increasing later
  have kept : text.entry reading ∈
      ((times.filter fun reading => time - quota.windowSec < reading).map text.entry) :=
    List.mem_map_of_mem (List.mem_filter.mpr ⟨member, decide_eq_true inside⟩)
  rw [← pruned] at kept
  exact (List.mem_filter.mp kept).1

theorem admits_after_pause (unused : store (rateKey userId pool) = none)
    (increasing : (times ++ [time]).Pairwise (· < ·))
    (pause : ∀ previous, times.getLast? = some previous → previous + quota.windowSec ≤ time) :
    quota.admits text userId pool (quota.after text userId pool store times) time := by
  have gone : (times.filter fun reading => time - quota.windowSec < reading) = [] := by
    apply List.filter_eq_nil_iff.mpr
    intro reading member
    obtain ⟨earlier, last, rfl⟩ := (List.eq_nil_or_concat' times).resolve_left (List.ne_nil_of_mem member)
    have before := le_last (List.pairwise_append.mp increasing).1 member
    have paused := pause last List.getLast?_concat
    simp only [decide_eq_true_eq, not_lt]
    linarith
  have one := quota.limit_pos
  rw [admits_iff unused increasing, window_eq increasing, List.filter_append, gone, List.nil_append]
  have short := List.length_filter_le (fun reading => time - quota.windowSec < reading) [time]
  rw [List.length_singleton] at short
  omega

/-- Calls of one key at increasing times get the sliding window they are promised: neither the pruning nor the expiry
of the key drops a reading that is still in the window, and a call that has waited a whole window is admitted. -/
theorem sliding_window_exact (quota : Quota) (text : FloatText) (userId : Int) (pool : String)
    (store : RateStore) (unused : store (rateKey userId pool) = none) (times : List ℚ) (time : ℚ)
    (increasing : (times ++ [time]).Pairwise (· < ·)) :
    (quota.admits text userId pool (quota.after text userId pool store times) time ↔
      (quota.window time (times ++ [time])).length ≤ quota.limit) ∧
    (∀ later, time ≤ later → ∀ reading ∈ times ++ [time], later - quota.windowSec < reading →
      text.entry reading ∈
        Slot.members (quota.after text userId pool store (times ++ [time]) (rateKey userId pool)) later) ∧
    ((∀ previous, times.getLast? = some previous → previous + quota.windowSec ≤ time) →
      quota.admits text userId pool (quota.after text userId pool store times) time) := by
  refine ⟨admits_iff unused increasing, ?_, admits_after_pause unused increasing⟩
  intro later reached reading member inside
  refine kept_in_window unused increasing ?_ member inside
  exact fun other present => (le_last increasing present).trans reached

def oneAMinute : Quota := ⟨1, 60, by decide, by decide⟩

/-- Half a minute after the first call the second one is rejected; its own entry then counts
until the window has passed. -/
theorem sliding_window_exact_run :
    ¬oneAMinute.admits .fractions 7 "text" (oneAMinute.after .fractions 7 "text" (fun _ => none) [0]) 30 ∧
      oneAMinute.admits .fractions 7 "text"
        (oneAMinute.after .fractions 7 "text" (fun _ => none) [0, 30]) 90 := by
  have second := sliding_window_exact oneAMinute .fractions 7 "text" (fun _ => none) rfl [0] 30 (by decide)
  have third := sliding_window_exact oneAMinute .fractions 7 "text" (fun _ => none) rfl [0, 30] 90 (by decide)
  exact ⟨second.1.not.mpr (by decide +kernel), third.1.mpr (by decide +kernel)⟩

end Quota
end LlamacppRay.Gateway
