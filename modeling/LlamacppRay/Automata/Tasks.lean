import Mathlib

/-! A pool of tasks kept in a list, of which one at a time is replaced. -/

namespace LlamacppRay.Automata.Tasks
variable {Task : Type*} {tasks : List Task} {index : Nat} {task : Task}

theorem bound_of_running (running : tasks[index]? = some task) : index < tasks.length :=
  (List.getElem?_eq_some_iff.mp running).1

theorem mem_of_running (running : tasks[index]? = some task) : task ∈ tasks :=
  List.mem_of_getElem? running

theorem perm_running (running : tasks[index]? = some task) :
    tasks.Perm (task :: tasks.eraseIdx index) := by
  obtain ⟨bound, rfl⟩ := List.getElem?_eq_some_iff.mp running
  exact (List.getElem_cons_eraseIdx_perm bound).symm

theorem sum_running {Weight : Type*} [AddCommMonoid Weight] (weight : Task → Weight)
    (running : tasks[index]? = some task) :
    (tasks.map weight).sum = weight task + ((tasks.eraseIdx index).map weight).sum := by
  rw [((perm_running running).map weight).sum_eq, List.map_cons, List.sum_cons]

theorem sum_set {Weight : Type*} [AddCommMonoid Weight] (weight : Task → Weight) (bound : index < tasks.length)
    (task : Task) :
    ((tasks.set index task).map weight).sum =
      weight task + ((tasks.eraseIdx index).map weight).sum := by
  rw [((List.set_perm_cons_eraseIdx bound task).map weight).sum_eq, List.map_cons, List.sum_cons]

theorem sum_nonneg {weight : Task → Int} (nonneg : ∀ task ∈ tasks, 0 ≤ weight task) :
    0 ≤ (tasks.map weight).sum := by
  apply List.sum_nonneg
  intro value member
  obtain ⟨task, present, rfl⟩ := List.mem_map.mp member
  exact nonneg task present

theorem le_sum {weight : Task → Int} (nonneg : ∀ task ∈ tasks, 0 ≤ weight task)
    (running : tasks[index]? = some task) : weight task ≤ (tasks.map weight).sum := by
  rw [sum_running weight running]
  have rest : 0 ≤ ((tasks.eraseIdx index).map weight).sum :=
    sum_nonneg fun other member => nonneg other (List.mem_of_mem_eraseIdx member)
  omega

theorem forall_mem_set {holds : Task → Prop} (all : ∀ other ∈ tasks, holds other)
    (new : holds task) :
    ∀ other ∈ tasks.set index task, holds other := by
  intro other member
  rcases List.mem_or_eq_of_mem_set member with old | rfl
  · exact all other old
  · exact new

theorem countP_eq_sum {weight : Task → Int}
    (unit : ∀ task ∈ tasks, weight task = 0 ∨ weight task = 1) :
    (tasks.countP fun task => 0 < weight task) = (tasks.map weight).sum := by
  induction tasks with
  | nil => rfl
  | cons task rest ih =>
    have tail := ih fun other member => unit other (List.mem_cons_of_mem _ member)
    rw [List.countP_cons, List.map_cons, List.sum_cons, ← tail]
    rcases unit task List.mem_cons_self with zero | one
    · simp [zero]
    · simp [one, add_comm]

theorem card_le_countP {places : Finset Nat} {test : Task → Bool}
    (pass : ∀ place ∈ places, ∃ task, tasks[place]? = some task ∧ test task = true) :
    places.card ≤ tasks.countP test := by
  induction tasks using List.reverseRecOn generalizing places with
  | nil =>
    have nowhere : places = ∅ := by
      apply Finset.eq_empty_of_forall_notMem
      intro place member
      obtain ⟨task, running, -⟩ := pass place member
      cases running
    rw [nowhere]
    exact Nat.zero_le _
  | append_singleton rest last ih =>
    have earlier : ∀ place ∈ places.erase rest.length, ∃ task, rest[place]? = some task ∧ test task = true := by
      intro place member
      obtain ⟨apart, among⟩ := Finset.mem_erase.mp member
      obtain ⟨task, running, passed⟩ := pass place among
      have bound := bound_of_running running
      rw [List.length_append, List.length_singleton] at bound
      rw [List.getElem?_append_left (by omega)] at running
      exact ⟨task, running, passed⟩
    have fewer := ih earlier
    rw [List.countP_append]
    by_cases ends : rest.length ∈ places
    · obtain ⟨task, running, passed⟩ := pass _ ends
      rw [List.getElem?_concat_length] at running
      cases running
      rw [Finset.card_erase_of_mem ends] at fewer
      simp only [List.countP_singleton, passed, if_true]
      omega
    · rw [Finset.erase_eq_of_notMem ends] at fewer
      omega

end LlamacppRay.Automata.Tasks
