import Mathlib

/-! Histories: lists that only grow at their end. How long the last streak of a kind is, what a split of a grown
history is, and how far apart the entries of a history are when each one leaves some room to the next. -/

namespace LlamacppRay.Automata.Histories
variable {Entry : Type*} {entries before rest : List Entry} {entry last : Entry}

theorem split_concat (split : entries ++ [last] = before ++ entry :: rest) :
    (∃ shorter, rest = shorter ++ [last] ∧ entries = before ++ entry :: shorter) ∨
      rest = [] ∧ entry = last ∧ entries = before := by
  rcases List.eq_nil_or_concat' rest with rfl | ⟨shorter, other, rfl⟩
  · obtain ⟨same, final⟩ := List.append_inj' split rfl
    cases final
    exact Or.inr ⟨rfl, rfl, same⟩
  · rw [← List.cons_append, ← List.append_assoc] at split
    obtain ⟨same, final⟩ := List.append_inj' split rfl
    cases final
    exact Or.inl ⟨shorter, rfl, same⟩

/-! ### Streaks -/

/-- How many entries in a row pass the test at the end of the history. -/
def streak (test : Entry → Bool) (entries : List Entry) : Nat := (entries.reverse.takeWhile test).length

variable {test : Entry → Bool}

theorem streak_concat (entries : List Entry) (entry : Entry) :
    streak test (entries ++ [entry]) = if test entry then streak test entries + 1 else 0 := by
  rw [streak, List.reverse_append, List.reverse_singleton, List.singleton_append, List.takeWhile_cons]
  cases test entry <;> rfl

theorem streak_append (entries more : List Entry) (all : ∀ entry ∈ more, test entry = true) :
    streak test (entries ++ more) = streak test entries + more.length := by
  induction more using List.reverseRecOn with
  | nil => rw [List.append_nil]; rfl
  | append_singleton more entry ih =>
    have last : test entry = true := all entry (by simp)
    have earlier := ih fun other member => all other (List.mem_append_left _ member)
    rw [← List.append_assoc, streak_concat, if_pos last, earlier, List.length_append]
    rfl

/-! ### Room between entries -/

theorem isChain_concat {apart : Entry → Entry → Prop} (chain : entries.IsChain apart)
    (last_apart : ∀ last ∈ entries.getLast?, apart last entry) : (entries ++ [entry]).IsChain apart := by
  rw [List.isChain_append]
  refine ⟨chain, List.isChain_singleton entry, ?_⟩
  intro last ends other first
  cases first
  exact last_apart last ends

theorem stamp_add_sum_le {stamp room : Entry → Nat}
    (chain : entries.IsChain fun left right => stamp left + room left ≤ stamp right) {index : Nat}
    (bound : index < entries.length) :
    stamp entries[0] + ((entries.take index).map room).sum ≤ stamp entries[index] := by
  induction index with
  | zero => simp
  | succ index ih =>
    have earlier := ih (by omega)
    have next := List.isChain_iff_getElem.mp chain index bound
    rw [List.take_add_one, List.getElem?_eq_getElem (by omega), Option.toList_some, List.map_append, List.sum_append]
    simp only [List.map_cons, List.map_nil, List.sum_singleton]
    omega

theorem countP_le {count : Nat}
    (early : ∀ index (bound : index < entries.length), test entries[index] = true → index < count) :
    entries.countP test ≤ count := by
  have late : (entries.drop count).countP test = 0 := by
    rw [List.countP_eq_zero]
    intro entry member
    obtain ⟨index, bound, rfl⟩ := List.getElem_of_mem member
    rw [List.getElem_drop]
    intro passed
    have := early _ _ passed
    omega
  calc entries.countP test
    _ = (entries.take count).countP test + (entries.drop count).countP test := by
        rw [← List.countP_append, List.take_append_drop]
    _ ≤ (entries.take count).length := by rw [late]; exact List.countP_le_length
    _ ≤ count := List.length_take_le count entries

end LlamacppRay.Automata.Histories
