import Mathlib

/-! Dicts that count: every key once, in the order of its first occurrence, with the number of its occurrences. -/

namespace LlamacppRay.Python
variable {α : Type*} [DecidableEq α]

/-- `counts[key] = counts.get(key, 0) + 1` -/
def bump (key : α) : List (α × Nat) → List (α × Nat)
  | [] => [(key, 1)]
  | (other, count) :: rest => if other = key then (other, count + 1) :: rest else (other, count) :: bump key rest

def countKeys (keys : List α) : List (α × Nat) := keys.foldl (fun counts key => bump key counts) []

def countAt (counts : List (α × Nat)) (key : α) : Nat :=
  (counts.map fun entry => if entry.1 = key then entry.2 else 0).sum

theorem countAt_cons (entry : α × Nat) (rest : List (α × Nat)) (key : α) :
    countAt (entry :: rest) key = (if entry.1 = key then entry.2 else 0) + countAt rest key := by
  rw [countAt, List.map_cons, List.sum_cons, countAt]

theorem countAt_bump (key : α) (counts : List (α × Nat)) (other : α) :
    countAt (bump key counts) other = countAt counts other + if other = key then 1 else 0 := by
  induction counts with
  | nil =>
    by_cases same : key = other
    · simp [bump, countAt, same]
    · simp [bump, countAt, same, Ne.symm same]
  | cons entry rest ih =>
    obtain ⟨name, count⟩ := entry
    by_cases first : name = key
    · rw [bump, if_pos first, countAt_cons, countAt_cons, first]
      by_cases same : key = other
      · simp only [if_pos same, if_pos same.symm]
        omega
      · simp only [if_neg same, if_neg (Ne.symm same)]
        omega
    · rw [bump, if_neg first, countAt_cons, countAt_cons, ih, Nat.add_assoc]

theorem map_fst_bump (key : α) (counts : List (α × Nat)) :
    (bump key counts).map Prod.fst =
      if key ∈ counts.map Prod.fst then counts.map Prod.fst else counts.map Prod.fst ++ [key] := by
  induction counts with
  | nil => rfl
  | cons entry rest ih =>
    obtain ⟨other, count⟩ := entry
    by_cases same : other = key
    · simp [bump, same]
    · have apart : key ≠ other := Ne.symm same
      by_cases later : key ∈ rest.map Prod.fst
      · simp only [bump, if_neg same, List.map_cons, ih, if_pos later, if_pos (List.mem_cons_of_mem other later)]
      · have absent : key ∉ other :: rest.map Prod.fst := by simpa [apart] using later
        simp only [bump, if_neg same, List.map_cons, ih, if_neg later, if_neg absent, List.cons_append]

theorem nodup_bump (key : α) {counts : List (α × Nat)} (distinct : (counts.map Prod.fst).Nodup) :
    ((bump key counts).map Prod.fst).Nodup := by
  rw [map_fst_bump]
  split
  next => exact distinct
  next absent => exact distinct.append (List.nodup_singleton key) (List.disjoint_singleton.mpr absent)

theorem positive_bump (key : α) {counts : List (α × Nat)} (positive : ∀ entry ∈ counts, 0 < entry.2) :
    ∀ entry ∈ bump key counts, 0 < entry.2 := by
  induction counts with
  | nil => simp [bump]
  | cons first rest ih =>
    obtain ⟨here, later⟩ := List.forall_mem_cons.mp positive
    rw [bump]
    split
    · exact List.forall_mem_cons.mpr ⟨Nat.succ_pos _, later⟩
    · exact List.forall_mem_cons.mpr ⟨here, ih later⟩

theorem countAt_of_absent {counts : List (α × Nat)} {key : α} (absent : key ∉ counts.map Prod.fst) :
    countAt counts key = 0 := by
  induction counts with
  | nil => rfl
  | cons entry rest ih =>
    rw [List.map_cons, List.mem_cons, not_or] at absent
    rw [countAt_cons, if_neg (Ne.symm absent.1), ih absent.2]

theorem countAt_of_mem {counts : List (α × Nat)} (distinct : (counts.map Prod.fst).Nodup) {key : α} {count : Nat}
    (member : (key, count) ∈ counts) : countAt counts key = count := by
  induction counts with
  | nil => cases member
  | cons entry rest ih =>
    obtain ⟨fresh, distinct⟩ := List.nodup_cons.mp distinct
    rw [countAt_cons]
    rcases List.mem_cons.mp member with rfl | later
    · rw [if_pos rfl, countAt_of_absent fresh, Nat.add_zero]
    · have apart : entry.1 ≠ key := fun same => fresh (same ▸ List.mem_map_of_mem (f := Prod.fst) later)
      rw [if_neg apart, ih distinct later, Nat.zero_add]

structure Counts (keys : List α) (counts : List (α × Nat)) : Prop where
  distinct : (counts.map Prod.fst).Nodup
  positive : ∀ entry ∈ counts, 0 < entry.2
  exact : ∀ key, countAt counts key = keys.count key

theorem counts_countKeys (keys : List α) : Counts keys (countKeys keys) := by
  induction keys using List.reverseRecOn with
  | nil => exact ⟨List.nodup_nil, by simp [countKeys], fun _ => rfl⟩
  | append_singleton keys key ih =>
    rw [countKeys, List.foldl_append, List.foldl_cons, List.foldl_nil, ← countKeys]
    refine ⟨nodup_bump key ih.distinct, positive_bump key ih.positive, fun other => ?_⟩
    rw [countAt_bump, ih.exact, List.count_append, List.count_singleton]
    by_cases same : other = key
    · simp [same]
    · simp [same, Ne.symm same]

theorem Counts.mem_iff {keys : List α} {counts : List (α × Nat)} (counted : Counts keys counts) (key : α)
    (count : Nat) : (key, count) ∈ counts ↔ 0 < count ∧ count = keys.count key := by
  constructor
  · intro member
    exact ⟨counted.positive _ member, (countAt_of_mem counted.distinct member).symm.trans (counted.exact key)⟩
  · rintro ⟨positive, rfl⟩
    have present : key ∈ counts.map Prod.fst := by
      by_contra absent
      have zero := countAt_of_absent absent
      rw [counted.exact] at zero
      omega
    obtain ⟨⟨name, count⟩, member, rfl⟩ := List.mem_map.mp present
    rwa [← counted.exact, countAt_of_mem counted.distinct member]

theorem Counts.perm {keys keys' : List α} {counts counts' : List (α × Nat)} (counted : Counts keys counts)
    (counted' : Counts keys' counts') (same : keys.Perm keys') : counts.Perm counts' := by
  refine (List.perm_ext_iff_of_nodup counted.distinct.of_map counted'.distinct.of_map).mpr fun entry => ?_
  rw [counted.mem_iff, counted'.mem_iff, same.count_eq]

theorem sum_bump (key : α) (counts : List (α × Nat)) :
    ((bump key counts).map Prod.snd).sum = (counts.map Prod.snd).sum + 1 := by
  induction counts with
  | nil => rfl
  | cons entry rest ih =>
    rw [bump]
    split
    · simp only [List.map_cons, List.sum_cons]
      omega
    · simp only [List.map_cons, List.sum_cons, ih]
      omega

theorem sum_countKeys (keys : List α) : ((countKeys keys).map Prod.snd).sum = keys.length := by
  induction keys using List.reverseRecOn with
  | nil => rfl
  | append_singleton keys key ih =>
    rw [countKeys, List.foldl_append, List.foldl_cons, List.foldl_nil, ← countKeys, sum_bump, ih, List.length_append,
      List.length_singleton]

end LlamacppRay.Python
