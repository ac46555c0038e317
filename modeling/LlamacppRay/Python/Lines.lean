import Mathlib

/-! Texts cut into lines. What matters of a cut are its fields, the pieces between separators that are
not empty. -/

namespace LlamacppRay.Python

section Fields
variable {α : Type*} {p : α → Bool}

def fields (p : α → Bool) (xs : List α) : List (List α) := (xs.splitOnP p).filter fun piece => !piece.isEmpty

@[simp] theorem fields_nil : fields p [] = [] := rfl

theorem fields_append_cons (xs ys : List α) {separator : α} (separates : p separator = true) :
    fields p (xs ++ separator :: ys) = fields p xs ++ fields p ys := by
  rw [fields, List.splitOnP_append_cons xs ys separates, List.filter_append]
  rfl

theorem fields_cons_separator (ys : List α) {separator : α} (separates : p separator = true) :
    fields p (separator :: ys) = fields p ys :=
  fields_append_cons [] ys separates

theorem fields_of_whole {xs : List α} (whole : ∀ x ∈ xs, p x = false) (some : xs ≠ []) : fields p xs = [xs] := by
  rw [fields, List.splitOnP_eq_singleton whole]
  simp [some]

theorem ne_nil_of_mem_fields {xs piece : List α} (among : piece ∈ fields p xs) : piece ≠ [] := by
  intro empty
  have test := (List.mem_filter.mp among).2
  rw [empty] at test
  cases test

theorem of_mem_splitOnP {xs piece : List α} (among : piece ∈ xs.splitOnP p) : ∀ x ∈ piece, p x = false := by
  induction xs generalizing piece with
  | nil =>
    rw [List.splitOnP_nil, List.mem_singleton] at among
    rw [among]
    exact List.forall_mem_nil _
  | cons first rest ih =>
    rw [List.splitOnP_cons_eq_if_modifyHead] at among
    cases separates : p first with
    | true =>
      rw [separates, if_pos rfl] at among
      rcases List.mem_cons.mp among with empty | later
      · rw [empty]
        exact List.forall_mem_nil _
      · exact ih later
    | false =>
      rw [separates, if_neg Bool.false_ne_true] at among
      obtain ⟨head, tail, pieces⟩ := List.exists_cons_of_ne_nil (List.splitOnP_ne_nil p rest)
      rw [pieces, List.modifyHead_cons] at among
      rw [pieces] at ih
      rcases List.mem_cons.mp among with begun | later
      · rw [begun]
        exact List.forall_mem_cons.mpr ⟨separates, ih List.mem_cons_self⟩
      · exact ih (List.mem_cons_of_mem _ later)

theorem of_mem_fields {xs piece : List α} (among : piece ∈ fields p xs) : ∀ x ∈ piece, p x = false :=
  of_mem_splitOnP (List.mem_filter.mp among).1

theorem fields_ne_nil {xs : List α} {x : α} (among : x ∈ xs) (kept : p x = false) : fields p xs ≠ [] := by
  induction xs with
  | nil => cases among
  | cons first rest ih =>
    cases separates : p first with
    | true =>
      rw [fields_cons_separator rest separates]
      rcases List.mem_cons.mp among with same | later
      · rw [← same, kept] at separates
        cases separates
      · exact ih later
    | false =>
      obtain ⟨head, tail, pieces⟩ := List.exists_cons_of_ne_nil (List.splitOnP_ne_nil p rest)
      simp [fields, List.splitOnP_cons_eq_if_modifyHead, separates, pieces]

end Fields

/-! ### `str.splitlines` -/

/-- The characters at which `str.splitlines` splits. -/
def isLineBoundary (c : Char) : Bool :=
  let n := c.toNat
  (0x0A ≤ n && n ≤ 0x0D) || (0x1C ≤ n && n ≤ 0x1E) || n == 0x85 || n == 0x2028 || n == 0x2029

/-- A carriage return and the newline after it end one line; what follows the last boundary is a line
only if there is something. -/
def linesFrom (line : List Char) : List Char → List String
  | [] => if line.isEmpty then [] else [String.ofList line]
  | [c] => if isLineBoundary c then [String.ofList line] else [String.ofList (line ++ [c])]
  | c :: d :: rest =>
      if c = '\r' ∧ d = '\n' then String.ofList line :: linesFrom [] rest
      else if isLineBoundary c then String.ofList line :: linesFrom [] (d :: rest)
      else linesFrom (line ++ [c]) (d :: rest)

def splitlines (s : String) : List String := linesFrom [] s.toList

theorem filter_line {line : List Char} (whole : ∀ c ∈ line, isLineBoundary c = false) :
    [String.ofList line].filter (fun line => line ≠ "") = (fields isLineBoundary line).map String.ofList := by
  by_cases empty : line = []
  · rw [empty]
    rfl
  · rw [fields_of_whole whole empty]
    simp [empty]

theorem nonempty_linesFrom (line text : List Char) (whole : ∀ c ∈ line, isLineBoundary c = false) :
    (linesFrom line text).filter (fun line => line ≠ "") =
      (fields isLineBoundary (line ++ text)).map String.ofList := by
  have extended : ∀ {line : List Char} {c : Char}, (∀ d ∈ line, isLineBoundary d = false) →
      ¬isLineBoundary c = true → ∀ d ∈ line ++ [c], isLineBoundary d = false := by
    intro line c whole kept d among
    rcases List.mem_append.mp among with old | new
    · exact whole d old
    · rw [List.mem_singleton.mp new]
      exact Bool.not_eq_true _ ▸ kept
  fun_induction linesFrom line text with
  | case1 line empty =>
    rw [List.isEmpty_iff.mp empty]
    rfl
  | case2 line something =>
    rw [List.append_nil]
    exact filter_line whole
  | case3 line c separates =>
    rw [fields_append_cons line [] separates, fields_nil, List.append_nil]
    exact filter_line whole
  | case4 line c kept =>
    exact filter_line (extended whole kept)
  | case5 line c d rest both ih =>
    obtain ⟨rfl, rfl⟩ := both
    have later := ih (List.forall_mem_nil _)
    rw [fields_append_cons line _ (by decide), fields_cons_separator rest (by decide), List.map_append,
      ← filter_line whole, ← List.nil_append rest, ← later, ← List.filter_append]
    rfl
  | case6 line c d rest other separates ih =>
    have later := ih (List.forall_mem_nil _)
    rw [fields_append_cons line _ separates, List.map_append, ← filter_line whole, ← List.nil_append (d :: rest),
      ← later, ← List.filter_append]
    rfl
  | case7 line c d rest other kept ih =>
    rw [ih (extended whole kept), List.append_assoc]
    rfl

/-- The lines that are not empty are the fields of the text. -/
theorem nonempty_splitlines (s : String) :
    (splitlines s).filter (fun line => line ≠ "") = (fields isLineBoundary s.toList).map String.ofList :=
  nonempty_linesFrom [] s.toList (List.forall_mem_nil _)

end LlamacppRay.Python
