import LlamacppRay.Gateway.Occupancy

/-! Leaks. A call that has ended gave back all it took exactly when no resumption made it forget
its slot; such a resumption is a cancellation, a close or an outcome without an `except` clause. -/

namespace LlamacppRay.Gateway
open LlamacppRay.Asyncio LlamacppRay.Automata

/-- Everything the log took has been given back once, and only what was held. -/
def Settled (log : List Action) : Prop :=
  Matched log ∧ (∀ ip, log.count (.released ip) = log.count (.granted ip)) ∧
    log.count .dequeued = log.count .queued

def Point.Ended : Point → Prop
  | .submit (.done _) => True
  | .stream (.done _) => True
  | _ => False

theorem Point.Ended.held_none {point : Point} (ended : point.Ended) : point.held = none := by
  unfold Point.Ended at ended
  split at ended
  · rfl
  · rfl
  · exact ended.elim

theorem Point.Ended.waiter_none {point : Point} (ended : point.Ended) : point.waiter = none := by
  unfold Point.Ended at ended
  split at ended
  · rfl
  · rfl
  · exact ended.elim

/-! ### Units of `waiting` -/

def queuedFor : Option Waiter → Int
  | some _ => 1
  | none => 0

theorem turns_of_aside {actions : List Action} (aside : Aside actions) : turns actions = 0 := by
  have unqueued : .queued ∉ actions := fun member => aside _ member
  have undequeued : .dequeued ∉ actions := fun member => aside _ member
  simp only [turns, List.count_eq_zero.mpr unqueued, List.count_eq_zero.mpr undequeued, Nat.cast_zero, sub_zero]

theorem Effect.turns_eq {p p' : NodePool} {before after : Option Waiter} {actions : List Action}
    (effect : Effect p before p' after actions) :
    queuedFor before + turns actions = queuedFor after := by
  cases effect with
  | none aside => rw [turns_of_aside aside, add_zero]
  | _ => simp [turns, queuedFor]

namespace Router

section
variable {hash : String → Int} {p : NodePool} {s : Router}

theorem turns_reachable (reached : (machine hash).Reaches ⟨Monitor.unlocked p, []⟩ s) {index : Nat}
    {call : Call} (found : s.calls[index]? = some call) :
    turns call.log = queuedFor call.point.waiter := by
  refine @call_invariant hash p (fun call => turns call.log = queuedFor call.point.waiter)
    ?_ ?_ ?_ s reached index call found
  · intro p affinityKey
    rw [Point.waiter, Submit.start_waiter]
    rfl
  · intro p affinityKey
    rw [Point.waiter, Stream.start_waiter]
    rfl
  · intro p p' call r point actions counted step
    rw [turns_append, counted]
    exact step.effect.turns_eq

end

/-! ### The slot of one call over a run -/

/-- The step makes the call at this index forget its slot. -/
def Loses (index : Nat) (s : Router) (event : RouterEvent) : Prop :=
  ∃ r call, event = .resume index r ∧ s.calls[index]? = some call ∧ call.point.Loses r

/-- The call at this index, once begun, owns what its point of suspension shows. -/
structure Keeping (ips : List String) (index : Nat) (s : Router) : Prop where
  free : s.pool.locked = false
  ips_eq : s.pool.value.ips = ips
  owns : ∀ call, s.calls[index]? = some call → call.Owns ips call.point.held

/-- The call at this index owns a slot it will never give back. -/
structure Leaking (ips : List String) (index : Nat) (s : Router) : Prop where
  free : s.pool.locked = false
  ips_eq : s.pool.value.ips = ips
  owns : ∃ call ip, s.calls[index]? = some call ∧ call.Owns ips (some ip) ∧ call.point.Over

section
variable {hash : String → Int} {ips : List String} {index : Nat} {s next : Router}
    {event : RouterEvent}

theorem Keeping.step (keeping : s.Keeping ips index) (kept : ¬s.Loses index event)
    (stepped : (machine hash).step s event = some next) : next.Keeping ips index := by
  obtain ⟨free, same⟩ := pool_step keeping.free stepped
  refine ⟨free, same.trans keeping.ips_eq, fun call found => ?_⟩
  have cases_of := follows keeping.free stepped found
  generalize running : s.calls[index]? = earlier at cases_of
  cases cases_of with
  | submitted affinityKey =>
    have nothing : Point.held (.submit (Submit.start s.pool.value hash affinityKey)) = none :=
      Submit.start_held _ hash affinityKey
    rw [nothing]
    exact .idle nothing
  | streamed affinityKey =>
    have nothing : Point.held (.stream (Stream.start s.pool.value hash affinityKey)) = none :=
      Stream.start_held _ hash affinityKey
    rw [nothing]
    exact .idle nothing
  | passed call other => exact keeping.owns call running
  | @resumed before r point actions step =>
    have turnover := step.turnover fun loses => kept ⟨r, before, rfl, running, loses⟩
    rw [keeping.ips_eq] at turnover
    exact (keeping.owns before running).turnover turnover (Or.inl rfl)

theorem Keeping.lost (keeping : s.Keeping ips index) (loses : s.Loses index event)
    (stepped : (machine hash).step s event = some next) : next.Leaking ips index := by
  obtain ⟨r, before, rfl, running, forgets⟩ := loses
  obtain ⟨call, found⟩ := running_step keeping.free stepped running
  obtain ⟨free, same⟩ := pool_step keeping.free stepped
  have cases_of := follows keeping.free stepped found
  rw [running] at cases_of
  cases cases_of with
  | passed call other => exact absurd rfl (other r)
  | resumed step =>
    obtain ⟨neutral, ended, ip, holder⟩ := step.lost forgets
    have owns := keeping.owns before running
    rw [holder] at owns
    exact ⟨free, same.trans keeping.ips_eq, _, ip, found, owns.turnover (.kept neutral) (Or.inr ended), ended⟩

theorem Leaking.step (leaking : s.Leaking ips index)
    (stepped : (machine hash).step s event = some next) :
    next.Leaking ips index := by
  obtain ⟨free, ips_eq, before, ip, running, owns, ended⟩ := leaking
  obtain ⟨call, found⟩ := running_step free stepped running
  obtain ⟨free', same⟩ := pool_step free stepped
  have cases_of := follows free stepped found
  rw [running] at cases_of
  cases cases_of with
  | passed call other => exact ⟨free', same.trans ips_eq, before, ip, found, owns, ended⟩
  | resumed step =>
    obtain ⟨neutral, ended⟩ := step.stays_over ended
    exact ⟨free', same.trans ips_eq, _, ip, found, owns.turnover (.kept neutral) (Or.inr ended), ended⟩

theorem keeping_iff_along {p : NodePool} {events : List RouterEvent} {last : Router} (index : Nat)
    (ran : (machine hash).run ⟨Monitor.unlocked p, []⟩ events = some last) :
    ((machine hash).Along (fun s event => ¬s.Loses index event) ⟨Monitor.unlocked p, []⟩ events ∧
        last.Keeping p.ips index) ∨
      (¬(machine hash).Along (fun s event => ¬s.Loses index event) ⟨Monitor.unlocked p, []⟩ events ∧
        last.Leaking p.ips index) := by
  have start : Keeping p.ips index ⟨Monitor.unlocked p, []⟩ := ⟨rfl, rfl, by simp⟩
  refine Machine.clean_iff_along ?_ ?_ ?_ start ran
  · intro s event next keeping kept stepped
    exact keeping.step kept stepped
  · intro s event next keeping loses stepped
    exact keeping.lost (not_not.mp loses) stepped
  · intro s event next leaking stepped
    exact leaking.step stepped

end

section
variable {hash : String → Int} {p : NodePool} {events : List RouterEvent} {last : Router}
    {index : Nat} {call : Call}

theorem settled_of_keeping (ran : (machine hash).run ⟨Monitor.unlocked p, []⟩ events = some last)
    (keeping : last.Keeping p.ips index) (found : last.calls[index]? = some call)
    (ended : call.point.Ended) :
    Settled call.log := by
  have owns := keeping.owns call found
  rw [ended.held_none] at owns
  have turned := turns_reachable ⟨_, ran⟩ found
  rw [ended.waiter_none] at turned
  refine ⟨owns.matched, fun ip => ?_, ?_⟩
  · have nothing : slots call.log ip = 0 := owns.slots_eq ip
    unfold slots at nothing
    omega
  · have nothing : turns call.log = 0 := turned
    unfold turns at nothing
    omega

theorem unsettled_of_leaking (leaking : last.Leaking p.ips index)
    (found : last.calls[index]? = some call) :
    ∃ ip, slots call.log ip = 1 := by
  obtain ⟨other, ip, running, owns, -⟩ := leaking.owns
  rw [found] at running
  cases running
  refine ⟨ip, ?_⟩
  rw [owns.slots_eq, share_self]

theorem settled_iff_along (ran : (machine hash).run ⟨Monitor.unlocked p, []⟩ events = some last)
    (found : last.calls[index]? = some call) (ended : call.point.Ended) :
    Settled call.log ↔
      (machine hash).Along (fun s event => ¬s.Loses index event) ⟨Monitor.unlocked p, []⟩ events := by
  rcases keeping_iff_along index ran with ⟨along, keeping⟩ | ⟨broken, leaking⟩
  · exact iff_of_true (settled_of_keeping ran keeping found ended) along
  · refine iff_of_false ?_ broken
    intro settled
    obtain ⟨ip, one⟩ := unsettled_of_leaking leaking found
    have equal := settled.2.1 ip
    unfold slots at one
    omega

theorem idle_iff_along (fresh : ∀ ip, p.inFlight ip = 0)
    (ran : (machine hash).run ⟨Monitor.unlocked p, []⟩ events = some last)
    (ended : ∀ call ∈ last.calls, call.point.Ended) :
    (∀ ip, last.pool.value.inFlight ip = 0) ↔ ∀ index,
      (machine hash).Along (fun s event => ¬s.Loses index event) ⟨Monitor.unlocked p, []⟩ events := by
  have balanced : last.Balanced p.inFlight p.ips :=
    balanced_reachable (fun ip => le_of_eq (fresh ip).symm) ⟨_, ran⟩
  constructor
  · intro idle index
    rcases keeping_iff_along index ran with ⟨along, -⟩ | ⟨-, leaking⟩
    · exact along
    · obtain ⟨call, -, running, -⟩ := leaking.owns
      obtain ⟨ip, one⟩ := unsettled_of_leaking leaking running
      have none_counted := balanced.counted (fun ip => le_of_eq (fresh ip).symm) running ip
      rw [one, idle ip] at none_counted
      omega
  · intro along ip
    rw [balanced.inFlight ip, fresh ip, zero_add]
    apply List.sum_eq_zero
    intro weight member
    obtain ⟨call, present, rfl⟩ := List.mem_map.mp member
    obtain ⟨index, running⟩ := List.mem_iff_getElem?.mp present
    rcases keeping_iff_along index ran with ⟨-, keeping⟩ | ⟨broken, -⟩
    · have equal := (settled_of_keeping ran keeping running (ended call present)).2.1 ip
      simp only [slots, equal, sub_self]
    · exact absurd (along index) broken

end

/-! ### The two dispatchers -/

end Router

def Resume.Calm : Resume → Prop
  | .cancel => False
  | .close => False
  | .posted _ result => ∀ message, send result ≠ .error (.other message)
  | _ => True

def RouterEvent.Calm : RouterEvent → Prop
  | .resume _ r => r.Calm
  | _ => True

theorem Point.not_loses {r : Resume} (calm : r.Calm) (point : Point) : ¬point.Loses r := by
  intro loses
  unfold Point.Loses at loses
  split at loses
  · obtain ⟨message, outcome⟩ := loses
    exact calm message outcome
  · exact calm
  · exact calm
  · exact calm
  · exact loses

namespace Router

theorem along_of_calm {hash : String → Int} {events : List RouterEvent}
    (calm : ∀ event ∈ events, event.Calm) (s : Router) (index : Nat) :
    (machine hash).Along (fun s event => ¬s.Loses index event) s events := by
  refine Machine.along_of_forall _ (fun event member s loses => ?_) s
  obtain ⟨r, call, rfl, running, forgets⟩ := loses
  exact call.point.not_loses (calm _ member) forgets

/-- A finished run of `stream_inference` has given back exactly what it took if and only if it was
neither cancelled nor closed while it held a slot. -/
theorem stream_settled_iff {hash : String → Int} {p : NodePool} {events : List RouterEvent}
    {last : Router} {index : Nat} {result : Except Exn Unit} {log : List Action}
    (ran : (machine hash).run ⟨Monitor.unlocked p, []⟩ events = some last)
    (found : last.calls[index]? = some ⟨.stream (.done result), log⟩) :
    Settled log ↔ (machine hash).Along (fun s event => ¬s.Loses index event) ⟨Monitor.unlocked p, []⟩ events :=
  settled_iff_along ran found trivial

theorem stream_settled_one_line : ∃ s result log,
    (machine fun _ => 0).run (new ["10.0.0.1"] 8080 1 1 ∅) [.stream none, .resume 0 .wake,
      .resume 0 (.opened (.ok ⟨⟨200, ""⟩, ["data: a"], none⟩)), .resume 0 .wake, .resume 0 .wake,
      .resume 0 .wake, .resume 0 .wake, .resume 0 .wake] = some s ∧
    s.calls[0]? = some ⟨.stream (.done result), log⟩ ∧ Settled log := by
  have ran : (machine fun _ => 0).run (new ["10.0.0.1"] 8080 1 1 ∅) [.stream none, .resume 0 .wake,
    .resume 0 (.opened (.ok ⟨⟨200, ""⟩, ["data: a"], none⟩)), .resume 0 .wake, .resume 0 .wake,
    .resume 0 .wake, .resume 0 .wake, .resume 0 .wake] = some _ := rfl
  refine ⟨_, .ok (), _, ran, rfl, (@stream_settled_iff _ _ _ _ 0 (.ok ()) _ ran rfl).mpr ?_⟩
  exact along_of_calm (by simp [RouterEvent.Calm, Resume.Calm]) _ 0

/-- The consumer closes the generator after the first line: the slot is never given back. -/
theorem closed_stream_keeps_slot :
    ¬∀ s, (machine fun _ => 0).Reaches (new ["10.0.0.1"] 8080 1 1 ∅) s →
    ∀ (index : Nat) result log, s.calls[index]? = some ⟨.stream (.done result), log⟩ →
      Settled log := by
  intro always
  have settled := always _ ⟨[.stream none, .resume 0 .wake,
    .resume 0 (.opened (.ok ⟨⟨200, ""⟩, ["data: a", "data: b"], none⟩)), .resume 0 .wake, .resume 0 .close,
    .resume 0 .wake, .resume 0 .wake], rfl⟩ 0 _ _ rfl
  exact absurd (settled.2.1 "10.0.0.1") (by decide)

/-- A finished call of `submit_inference` has given back exactly what it took if and only if it was not cancelled in
`_send` and met no exception without an `except` clause there; so the counters of an idle pool are zero if and only if
no call lost its slot. -/
theorem submit_settled_iff {hash : String → Int} {p : NodePool} {events : List RouterEvent}
    {last : Router} (ran : (machine hash).run ⟨Monitor.unlocked p, []⟩ events = some last) :
    (∀ (index : Nat) result log, last.calls[index]? = some ⟨.submit (.done result), log⟩ → (Settled log ↔
      (machine hash).Along (fun s event => ¬s.Loses index event) ⟨Monitor.unlocked p, []⟩ events)) ∧
    ((∀ ip, p.inFlight ip = 0) → (∀ call ∈ last.calls, call.point.Ended) →
      ((∀ ip, last.pool.value.inFlight ip = 0) ↔ ∀ index,
        (machine hash).Along (fun s event => ¬s.Loses index event) ⟨Monitor.unlocked p, []⟩ events)) := by
  constructor
  · intro index result log found
    exact settled_iff_along ran found trivial
  · intro fresh ended
    exact idle_iff_along fresh ran ended

theorem submit_settled_one_reply : ∃ s result log,
    (machine fun _ => 0).run (new ["10.0.0.1"] 8080 1 1 ∅) [.submit none, .resume 0 .wake,
      .resume 0 (.posted 0 (.ok ⟨⟨200, ""⟩, some (.obj []), ""⟩)), .resume 0 .wake] = some s ∧
    s.calls[0]? = some ⟨.submit (.done result), log⟩ ∧ Settled log := by
  have ran : (machine fun _ => 0).run (new ["10.0.0.1"] 8080 1 1 ∅) [.submit none, .resume 0 .wake,
    .resume 0 (.posted 0 (.ok ⟨⟨200, ""⟩, some (.obj []), ""⟩)), .resume 0 .wake] = some _ := rfl
  refine ⟨_, .ok _, _, ran, rfl, ((submit_settled_iff ran).1 0 (.ok _) _ rfl).mpr ?_⟩
  have decoded : send (.ok ⟨⟨200, ""⟩, some (.obj []), ""⟩) = .ok (.obj []) := rfl
  exact along_of_calm (by simp [RouterEvent.Calm, Resume.Calm, decoded]) _ 0

/-- The node answers 200 with a body that does not decode: the slot is never given back. -/
theorem undecoded_reply_keeps_slot :
    ¬∀ s, (machine fun _ => 0).Reaches (new ["10.0.0.1"] 8080 1 1 ∅) s →
    ∀ (index : Nat) result log, s.calls[index]? = some ⟨.submit (.done result), log⟩ →
      Settled log := by
  intro always
  have settled := always _ ⟨[.submit none, .resume 0 .wake,
    .resume 0 (.posted 0 (.ok ⟨⟨200, ""⟩, none, "busy"⟩)), .resume 0 .wake], rfl⟩ 0 _ _ rfl
  exact absurd (settled.2.1 "10.0.0.1") (by decide)

end Router
end LlamacppRay.Gateway
