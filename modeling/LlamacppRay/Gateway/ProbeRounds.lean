import LlamacppRay.Gateway.HealthMonitor

/-! Evictions during a round of probes. A round is applied as a whole, so an answer that came in
before an eviction is written after it. The watch kept here is no part of the code: it notes which
evictions have not been made up for by a later answer. -/

namespace LlamacppRay.Gateway
open LlamacppRay.Automata

def lastAnswer {Answer : Type*} : List (String × Answer) → String → Option Answer
  | [], _ => none
  | (node, answer) :: rest, ip => (lastAnswer rest ip).or (if node = ip then some answer else none)

section
variable {Answer Other : Type*}

theorem lastAnswer_map (f : Answer → Other) (entries : List (String × Answer)) (ip : String) :
    lastAnswer (entries.map fun entry => (entry.1, f entry.2)) ip =
      (lastAnswer entries ip).map f := by
  induction entries with
  | nil => rfl
  | cons entry rest ih =>
    simp only [List.map_cons, lastAnswer, ih, Option.map_or]
    congr 1
    split <;> rfl

theorem lastAnswer_set {entries : List (String × Answer)} {index : Nat} {node : String}
    {before : Answer} (asked : entries[index]? = some (node, before)) (after : Answer)
    (ip : String) :
    lastAnswer (entries.set index (node, after)) ip = lastAnswer entries ip ∨
      (node = ip ∧ lastAnswer entries ip = some before ∧
        lastAnswer (entries.set index (node, after)) ip = some after) := by
  induction entries generalizing index with
  | nil => simp at asked
  | cons entry rest ih =>
    cases index with
    | zero =>
      simp only [List.getElem?_cons_zero, Option.some.injEq] at asked
      subst asked
      simp only [List.set_cons_zero, lastAnswer]
      by_cases same : node = ip
      · cases lastAnswer rest ip <;> simp [same]
      · simp [same]
    | succ index =>
      simp only [List.getElem?_cons_succ] at asked
      simp only [List.set_cons_succ, lastAnswer]
      rcases ih asked with unchanged | ⟨same, was, now⟩
      · exact Or.inl (by rw [unchanged])
      · exact Or.inr ⟨same, by simp [was], by simp [now]⟩

end

/-- The last probe of a node decides; a node without one keeps its state. -/
theorem mem_applyResults (healthy : Finset String) (results : List (String × Bool)) (ip : String) :
    ip ∈ applyResults healthy results ↔ (lastAnswer results ip).getD (ip ∈ healthy) = true := by
  induction results generalizing healthy with
  | nil => simp [applyResults, lastAnswer]
  | cons result rest ih =>
    obtain ⟨node, ok⟩ := result
    have first : applyResults healthy ((node, ok) :: rest) =
      applyResults (applyResult healthy (node, ok)) rest := rfl
    rw [first, ih, lastAnswer]
    cases lastAnswer rest ip with
    | some answer => simp
    | none =>
      by_cases same : node = ip
      · cases ok <;> simp [applyResult, same]
      · cases ok <;> simp [applyResult, same, Ne.symm same]

theorem Round.answers_of_results {round : Round} {results : List (String × Bool)}
    (complete : round.results = some results) :
    round.answers = results.map fun entry => (entry.1, some entry.2) := by
  obtain ⟨pool, answers⟩ := round
  simp only [Round.results] at complete
  induction answers generalizing results with
  | nil =>
    cases complete
    rfl
  | cons entry rest ih =>
    obtain ⟨ip, answer⟩ := entry
    simp only [List.mapM_cons, Option.bind_eq_bind, Option.bind_eq_some_iff, Option.map_eq_some_iff] at complete
    obtain ⟨-, ⟨ok, rfl, rfl⟩, others, complete, done⟩ := complete
    cases done
    rw [List.map_cons, ← ih complete]

/-! ### What one step can do -/

namespace ProbeLoop

def following (state : ProbeLoop) : PoolName → Option Round
  | .text => some (Round.send .multimodal (state.ips .multimodal))
  | .multimodal => none

inductive Moves (state : ProbeLoop) : ProbeEvent → ProbeLoop → Prop
  | answered {round : Round} {index : Nat} {ip : String} (reply : Except Fault Int)
      (running : state.round = some round) (asked : round.answers[index]? = some (ip, none)) :
      Moves state (.answered index reply)
        { state with round := some ⟨round.pool, round.answers.set index (ip, some (probe reply))⟩ }
  | gathered {round : Round} {results : List (String × Bool)} (running : state.round = some round)
      (complete : round.results = some results) :
      Moves state .gathered { state with
        healthy := Function.update state.healthy round.pool (applyResults (state.healthy round.pool) results)
        round := state.following round.pool }
  | slept (idle : state.round = none) :
      Moves state .slept { state with round := some (Round.send .text (state.ips .text)) }
  | evicted (pool : PoolName) (ip : String) :
      Moves state (.evicted pool ip)
        { state with healthy := Function.update state.healthy pool ((state.healthy pool).erase ip) }

theorem step_iff {state next : ProbeLoop} {event : ProbeEvent} :
    state.step event = some next ↔ Moves state event next := by
  constructor
  · intro stepped
    cases event with
    | answered index reply =>
      simp only [step, Option.bind_eq_bind, Option.bind_eq_some_iff] at stepped
      obtain ⟨round, running, stepped⟩ := stepped
      split at stepped
      next ip asked => cases stepped; exact .answered reply running asked
      next => cases stepped
    | gathered =>
      simp only [step, Option.bind_eq_bind, Option.bind_eq_some_iff] at stepped
      obtain ⟨round, running, results, complete, stepped⟩ := stepped
      have moves := @Moves.gathered state round results running complete
      cases pool : round.pool with
      | text => rw [pool] at stepped moves; cases stepped; exact moves
      | multimodal => rw [pool] at stepped moves; cases stepped; exact moves
    | slept =>
      simp only [step] at stepped
      split at stepped
      next idle => cases stepped; exact .slept idle
      next => cases stepped
    | evicted pool ip => cases stepped; exact .evicted pool ip
  · intro moves
    cases moves with
    | answered reply running asked => simp [step, running, asked]
    | @gathered round results running complete =>
      simp only [step, running, complete, Option.bind_eq_bind, Option.bind_some, following]
      cases round.pool <;> rfl
    | slept idle => simp [step, idle]
    | evicted pool ip => rfl

end ProbeLoop

/-! ### The watch -/

structure Watched where
  loop : ProbeLoop
  /-- The nodes evicted since a probe of theirs, answered 200 after the eviction, was last applied. -/
  owed : PoolName → Finset String
  /-- The nodes of the round whose probe has been answered 200 since they were last evicted. -/
  fresh : Finset String

namespace Watched

def start (textIps multimodalIps : List String) : Watched := ⟨ProbeLoop.start textIps multimodalIps, fun _ => ∅, ∅⟩

def owedAfter (w : Watched) : ProbeEvent → PoolName → Finset String
  | .gathered =>
      match w.loop.round with
      | some round => Function.update w.owed round.pool (w.owed round.pool \ w.fresh)
      | none => w.owed
  | .evicted pool ip => Function.update w.owed pool (insert ip (w.owed pool))
  | _ => w.owed

def freshAfter (w : Watched) : ProbeEvent → Finset String
  | .answered index reply =>
      match w.loop.round.bind fun round => round.answers[index]? with
      | some (ip, _) => if probe reply then insert ip w.fresh else w.fresh
      | none => w.fresh
  | .evicted pool ip => if w.loop.round.map Round.pool = some pool then w.fresh.erase ip else w.fresh
  | .gathered => ∅
  | .slept => ∅

def step (w : Watched) (event : ProbeEvent) : Option Watched :=
  (w.loop.step event).map fun loop => ⟨loop, w.owedAfter event, w.freshAfter event⟩

def machine : Machine Watched ProbeEvent := ⟨step⟩

/-- No evicted node is healthy again before a probe answered 200 after the eviction is applied. -/
def Kept (w : Watched) : Prop := ∀ pool, ∀ ip ∈ w.owed pool, ip ∉ w.loop.healthy pool

/-- The eviction does not come after a 200 of the node that the round in flight has yet to apply. -/
def Timely (w : Watched) : ProbeEvent → Prop
  | .evicted pool ip => ∀ round ∈ w.loop.round, round.pool = pool → lastAnswer round.answers ip ≠ some (some true)
  | _ => True

instance (w : Watched) : Decidable w.Kept :=
  decidable_of_iff ((∀ ip ∈ w.owed .text, ip ∉ w.loop.healthy .text) ∧
    ∀ ip ∈ w.owed .multimodal, ip ∉ w.loop.healthy .multimodal)
    ⟨fun both pool => by cases pool; exacts [both.1, both.2], fun all => ⟨all .text, all .multimodal⟩⟩

/-- A 200 that decides about an evicted node came after the eviction. -/
structure Sound (w : Watched) : Prop where
  kept : w.Kept
  renewed : ∀ round, w.loop.round = some round → ∀ ip ∈ w.owed round.pool,
    lastAnswer round.answers ip = some (some true) → ip ∈ w.fresh

theorem lastAnswer_send (pool : PoolName) (ips : List String) (ip : String) :
    lastAnswer (Round.send pool ips).answers ip ≠ some (some true) := by
  have same : (Round.send pool ips).answers = (ips.map fun ip => (ip, ())).map fun entry => (entry.1, none) := by
    simp [Round.send]
  have blank := lastAnswer_map (fun _ : Unit => (none : Option Bool)) (ips.map fun ip => (ip, ())) ip
  rw [same, blank]
  cases lastAnswer (ips.map fun ip => (ip, ())) ip <;> simp

theorem sound_start (textIps multimodalIps : List String) :
    Sound (start textIps multimodalIps) where
  kept := by
    intro pool ip member
    cases member
  renewed := by
    intro round running ip member
    cases member

theorem Sound.answered {w : Watched} (sound : w.Sound) {round : Round} {index : Nat} {node : String}
    (running : w.loop.round = some round) (asked : round.answers[index]? = some (node, none)) (ok : Bool) :
    Sound ⟨{ w.loop with round := some ⟨round.pool, round.answers.set index (node, some ok)⟩ }, w.owed,
      if ok then insert node w.fresh else w.fresh⟩ := by
  refine ⟨sound.kept, ?_⟩
  intro after same ip owed last
  cases same
  have old : lastAnswer round.answers ip = some (some true) →
      ip ∈ (if ok then insert node w.fresh else w.fresh) := by
    intro before
    have already := sound.renewed round running ip owed before
    split
    · exact Finset.mem_insert_of_mem already
    · exact already
  rcases lastAnswer_set asked (some ok) ip with unchanged | ⟨rfl, -, now⟩
  · exact old (unchanged ▸ last)
  · have renewed : ok = true := by
      rw [now] at last
      exact Option.some.inj (Option.some.inj last)
    rw [if_pos renewed]
    exact Finset.mem_insert_self _ _

theorem Sound.gathered {w : Watched} (sound : w.Sound) {round : Round} {results : List (String × Bool)}
    (running : w.loop.round = some round) (complete : round.results = some results) :
    Sound ⟨{ w.loop with
      healthy := Function.update w.loop.healthy round.pool (applyResults (w.loop.healthy round.pool) results)
      round := w.loop.following round.pool },
      Function.update w.owed round.pool (w.owed round.pool \ w.fresh), ∅⟩ := by
  constructor
  · intro pool ip member
    change ip ∈ Function.update w.owed round.pool (w.owed round.pool \ w.fresh) pool at member
    change ip ∉ Function.update w.loop.healthy round.pool (applyResults (w.loop.healthy round.pool) results) pool
    by_cases same : pool = round.pool
    · subst same
      rw [Function.update_self, Finset.mem_sdiff] at member
      rw [Function.update_self, mem_applyResults]
      have answers := Round.answers_of_results complete
      have decided := lastAnswer_map some results ip
      rw [← answers] at decided
      cases last : lastAnswer results ip with
      | none => simpa [last] using sound.kept round.pool ip member.1
      | some ok =>
        cases ok with
        | false => simp
        | true =>
          rw [last] at decided
          exact absurd (sound.renewed round running ip member.1 decided) member.2
    · rw [Function.update_of_ne same] at member
      rw [Function.update_of_ne same]
      exact sound.kept pool ip member
  · intro after same ip member last
    cases pool : round.pool with
    | text =>
      simp only [ProbeLoop.following, pool, Option.some.injEq] at same
      subst same
      exact absurd last (lastAnswer_send _ _ ip)
    | multimodal => simp [ProbeLoop.following, pool] at same

theorem Sound.evicted {w : Watched} (sound : w.Sound) {pool : PoolName} {node : String}
    (timely : w.Timely (.evicted pool node)) :
    Sound ⟨{ w.loop with healthy := Function.update w.loop.healthy pool ((w.loop.healthy pool).erase node) },
      w.owedAfter (.evicted pool node), w.freshAfter (.evicted pool node)⟩ := by
  constructor
  · intro other ip member
    simp only [owedAfter] at member
    change ip ∉ Function.update w.loop.healthy pool ((w.loop.healthy pool).erase node) other
    by_cases same : other = pool
    · subst same
      rw [Function.update_self] at member ⊢
      intro healthy
      obtain ⟨different, healthy⟩ := Finset.mem_erase.mp healthy
      exact sound.kept other ip (Finset.mem_of_mem_insert_of_ne member different) healthy
    · rw [Function.update_of_ne same] at member ⊢
      exact sound.kept other ip member
  · intro round now ip member last
    have running : w.loop.round = some round := now
    simp only [owedAfter] at member
    simp only [freshAfter, running, Option.map_some, Option.some.injEq]
    by_cases same : round.pool = pool
    · rw [if_pos same]
      have different : ip ≠ node := by
        intro equal
        subst equal
        exact timely round running same last
      subst same
      rw [Function.update_self] at member
      exact Finset.mem_erase.mpr ⟨different,
        sound.renewed round running ip (Finset.mem_of_mem_insert_of_ne member different) last⟩
    · rw [if_neg same]
      rw [Function.update_of_ne same] at member
      exact sound.renewed round running ip member last

theorem Sound.step {w next : Watched} {event : ProbeEvent} (sound : w.Sound)
    (timely : w.Timely event) (stepped : machine.step w event = some next) : next.Sound := by
  obtain ⟨loop, moved, rfl⟩ := Option.map_eq_some_iff.mp stepped
  have moves := ProbeLoop.step_iff.mp moved
  cases moves with
  | @answered round index node reply running asked =>
    have fresh : w.freshAfter (.answered index reply) = if probe reply then insert node w.fresh else w.fresh := by
      simp [freshAfter, running, asked]
    rw [fresh]
    exact sound.answered running asked (probe reply)
  | @gathered round results running complete =>
    have owed : w.owedAfter .gathered = Function.update w.owed round.pool (w.owed round.pool \ w.fresh) := by
      simp [owedAfter, running]
    rw [owed]
    exact sound.gathered running complete
  | slept idle =>
    refine ⟨sound.kept, ?_⟩
    intro after same ip member last
    cases same
    exact absurd last (lastAnswer_send _ _ ip)
  | evicted pool node => exact sound.evicted timely

/-! ### Late evictions are undone -/

theorem answer_step {w : Watched} {round : Round} {index : Nat} {ip : String}
    (running : w.loop.round = some round) (asked : round.answers[index]? = some (ip, none)) :
    machine.step w (.answered index (.ok 503)) = some
      ⟨{ w.loop with round := some ⟨round.pool, round.answers.set index (ip, some false)⟩ }, w.owed, w.fresh⟩ := by
  have moved := ProbeLoop.step_iff.mpr (.answered (.ok 503) running asked)
  have unchanged : w.freshAfter (.answered index (.ok 503)) = w.fresh := by
    simp [freshAfter, running, asked, probe]
  simp only [machine, step, moved, Option.map_some, unchanged]
  rfl

/-- However many answers are still out, they can all be refusals. -/
theorem all_answered (left : Nat) : ∀ (w : Watched) (round : Round), w.loop.round = some round →
    (round.answers.countP fun entry => entry.2 = none) = left →
      ∃ last after, machine.Reaches w last ∧ last.loop.round = some after ∧
        after.pool = round.pool ∧
        last.owed = w.owed ∧ last.fresh = w.fresh ∧
        (∀ entry ∈ after.answers, entry.2 ≠ none) ∧
        ∀ ip, lastAnswer round.answers ip = some (some true) →
          lastAnswer after.answers ip = some (some true) := by
  induction left with
  | zero =>
    intro w round running none_out
    refine ⟨w, round, .refl machine w, running, rfl, rfl, rfl, ?_, fun _ last => last⟩
    intro entry member out
    exact List.countP_eq_zero.mp none_out entry member (decide_eq_true out)
  | succ left ih =>
    intro w round running some_out
    have one_out : 0 < round.answers.countP fun entry => entry.2 = none := by omega
    obtain ⟨entry, member, out⟩ := List.countP_pos_iff.mp one_out
    obtain ⟨index, found⟩ := List.mem_iff_getElem?.mp member
    obtain ⟨ip, answer⟩ := entry
    have unanswered : answer = none := of_decide_eq_true out
    subst unanswered
    have stepped := answer_step running found
    have fewer : ((round.answers.set index (ip, some false)).countP fun entry => entry.2 = none) = left := by
      obtain ⟨bound, same⟩ := List.getElem?_eq_some_iff.mp found
      rw [List.countP_set bound, same, some_out]
      simp
    obtain ⟨last, after, reached, now, pool, owed, fresh, all, decided⟩ :=
      ih ⟨{ w.loop with round := some ⟨round.pool, round.answers.set index (ip, some false)⟩ }, w.owed, w.fresh⟩
        ⟨round.pool, round.answers.set index (ip, some false)⟩ rfl fewer
    refine ⟨last, after, .trans (.single stepped) reached, now, pool, owed, fresh, all, ?_⟩
    intro other true_before
    apply decided other
    rcases lastAnswer_set found (some false) other with unchanged | ⟨-, was, -⟩
    · exact unchanged.trans true_before
    · rw [true_before] at was
      cases was

theorem results_of_all {round : Round} (all : ∀ entry ∈ round.answers, entry.2 ≠ none) :
    ∃ results, round.results = some results := by
  obtain ⟨pool, answers⟩ := round
  simp only [Round.results]
  induction answers with
  | nil => exact ⟨[], rfl⟩
  | cons entry rest ih =>
    obtain ⟨others, complete⟩ := ih fun other member => all other (List.mem_cons_of_mem _ member)
    obtain ⟨ok, known⟩ := Option.ne_none_iff_exists'.mp (all entry List.mem_cons_self)
    refine ⟨(entry.1, ok) :: others, ?_⟩
    simp [List.mapM_cons, known, complete]

theorem gathered_step {w : Watched} {round : Round} {results : List (String × Bool)}
    (running : w.loop.round = some round) (complete : round.results = some results) :
    ∃ last, machine.step w .gathered = some last ∧
      last.owed round.pool = w.owed round.pool \ w.fresh ∧
      last.loop.healthy round.pool = applyResults (w.loop.healthy round.pool) results := by
  have moved := ProbeLoop.step_iff.mpr (.gathered running complete)
  refine ⟨_, Option.map_eq_some_iff.mpr ⟨_, moved, rfl⟩, ?_, Function.update_self ..⟩
  simp only [owedAfter, running, Function.update_self]

theorem stale_answer_applied {w : Watched} {round : Round} {ip : String}
    (running : w.loop.round = some round) (owed : ip ∈ w.owed round.pool) (stale : ip ∉ w.fresh)
    (answered : lastAnswer round.answers ip = some (some true)) :
    ∃ last, machine.Reaches w last ∧ ¬last.Kept := by
  obtain ⟨full, after, reached, now, pool, same_owed, same_fresh, all, decided⟩ :=
    all_answered _ w round running rfl
  obtain ⟨results, complete⟩ := results_of_all all
  obtain ⟨last, gathered, owed_last, healthy_last⟩ := gathered_step now complete
  refine ⟨last, reached.trans (.single gathered), fun kept => ?_⟩
  rw [pool] at owed_last healthy_last
  apply kept round.pool ip
  · rw [owed_last, same_owed, same_fresh]
    exact Finset.mem_sdiff.mpr ⟨owed, stale⟩
  · have last_answer := decided ip answered
    rw [Round.answers_of_results complete, lastAnswer_map] at last_answer
    rw [healthy_last, mem_applyResults]
    cases known : lastAnswer results ip with
    | none => simp [known] at last_answer
    | some ok => simpa [known] using last_answer

theorem late_eviction_undone {w next : Watched} {event : ProbeEvent} (late : ¬w.Timely event)
    (stepped : machine.step w event = some next) :
    ∃ last, machine.Reaches next last ∧ ¬last.Kept := by
  obtain ⟨loop, moved, rfl⟩ := Option.map_eq_some_iff.mp stepped
  cases event with
  | evicted pool ip =>
    cases ProbeLoop.step_iff.mp moved
    simp only [Timely, not_forall, not_not, Option.mem_def] at late
    obtain ⟨round, running, rfl, answered⟩ := late
    refine stale_answer_applied ?_ ?_ ?_ answered
    · exact running
    · simp [owedAfter]
    · simp [freshAfter, running]
  | _ => exact absurd trivial late

/-- Evictions are kept in every run in which each of them is timely, and an eviction that is not can
be undone by the probes already under way. -/
theorem evictions_kept_when_timely (textIps multimodalIps : List String) :
    (∀ events, machine.Along Timely (start textIps multimodalIps) events →
      machine.Throughout Kept (start textIps multimodalIps) events) ∧
    ∀ w event next, machine.Reaches (start textIps multimodalIps) w → ¬w.Timely event →
      machine.step w event = some next → ∃ last, machine.Reaches next last ∧ ¬last.Kept := by
  constructor
  · intro events timely
    refine Machine.throughout_of_along (fun _ _ _ sound timely stepped => Sound.step sound timely stepped) ?_
      (sound_start textIps multimodalIps) timely
    intro w sound
    exact sound.kept
  · intro w event next reached late stepped
    exact late_eviction_undone late stepped

/-- The first node answers its probe, fails a request and is evicted before the second node has
answered: the round puts it back. -/
theorem stale_probe_undoes_eviction : ¬∀ w,
    machine.Reaches (start ["10.0.0.1", "10.0.0.2"] []) w → w.Kept := by
  intro always
  have undone : ((machine.run (start ["10.0.0.1", "10.0.0.2"] []) [.answered 0 (.ok 200), .evicted .text "10.0.0.1",
    .answered 1 (.ok 200), .gathered]).any fun w => ¬w.Kept) = true := by decide
  obtain ⟨w, ran, broken⟩ := machine.run_of_any undone
  exact of_decide_eq_true broken (always w ⟨_, ran⟩)

end Watched
end LlamacppRay.Gateway
