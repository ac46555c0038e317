import LlamacppRay.Python.Lines
import LlamacppRay.Python.Builtins

/-! Lists written as one text with a separator: reading such a text back gives the list, if its parts are
trimmed, not empty and free of the separator. -/

namespace LlamacppRay.Python

section Trimming
variable {α : Type*} (p : α → Bool)

def trim (xs : List α) : List α := (xs.dropWhile p).rdropWhile p

theorem trim_stretch (xs : List α) : trim p xs <:+: xs :=
  have front := List.rdropWhile_prefix p (xs.dropWhile p)
  front.isInfix.trans (List.dropWhile_suffix p).isInfix

theorem of_mem_trim {xs : List α} {x : α} (among : x ∈ trim p xs) : x ∈ xs :=
  (trim_stretch p xs).subset among

theorem dropWhile_trim (xs : List α) : (trim p xs).dropWhile p = trim p xs := by
  rw [List.dropWhile_eq_self_iff]
  intro inhabited
  have front := List.rdropWhile_prefix p (xs.dropWhile p)
  have longer : 0 < (xs.dropWhile p).length := lt_of_lt_of_le inhabited front.length_le
  have same : (trim p xs)[0] = (xs.dropWhile p)[0] := front.getElem inhabited
  rw [same]
  exact List.dropWhile_get_zero_not p xs longer

theorem trim_trim (xs : List α) : trim p (trim p xs) = trim p xs := by
  have front := dropWhile_trim p xs
  have back : (trim p xs).rdropWhile p = trim p xs := List.rdropWhile_idempotent p (xs.dropWhile p)
  show ((trim p xs).dropWhile p).rdropWhile p = trim p xs
  rw [front, back]

end Trimming

section Tokens

theorem toList_strip (s : String) : (strip s).toList = trim isSpace s.toList := String.toList_ofList

theorem strip_strip (s : String) : strip (strip s) = strip s := by
  rw [← String.toList_inj, toList_strip, toList_strip, trim_trim]

theorem of_mem_strip {s : String} {c : Char} (among : c ∈ (strip s).toList) : c ∈ s.toList := by
  rw [toList_strip] at among
  exact of_mem_trim isSpace among

structure IsToken (separator : Char) (part : String) : Prop where
  stripped : strip part = part
  nonempty : part ≠ ""
  whole : separator ∉ part.toList

theorem not_mem_of_mem_split {separator : Char} {s part : String} (among : part ∈ split separator s) :
    separator ∉ part.toList := by
  obtain ⟨piece, cut, rfl⟩ := List.mem_map.mp among
  rw [List.splitOn_eq_splitOnP] at cut
  rw [String.toList_ofList]
  intro inside
  have other := of_mem_splitOnP cut separator inside
  simp at other

theorem isToken_of_mem_splitStrip {separator : Char} {s part : String} (among : part ∈ splitStrip separator s) :
    IsToken separator part := by
  obtain ⟨piece, kept, rfl⟩ := List.mem_map.mp among
  obtain ⟨cut, something⟩ := List.mem_filter.mp kept
  exact {
    stripped := strip_strip piece
    nonempty := of_decide_eq_true something
    whole := fun inside => not_mem_of_mem_split cut (of_mem_strip inside) }

theorem splitStrip_eq (separator : Char) (s : String) :
    splitStrip separator s = ((split separator s).map strip).filter fun part => part ≠ "" := by
  rw [List.filter_map]
  rfl

theorem split_intercalate {separator : Char} {parts : List String} (inhabited : parts ≠ [])
    (whole : ∀ part ∈ parts, separator ∉ part.toList) :
    split separator ((String.singleton separator).intercalate parts) = parts := by
  have pieces : ∀ piece ∈ parts.map String.toList, separator ∉ piece := List.forall_mem_map.mpr whole
  rw [split, String.toList_intercalate, String.toList_singleton,
    List.splitOn_intercalate separator pieces (by simpa using inhabited), List.map_map]
  simp [Function.comp_def]

theorem splitStrip_of_split {separator : Char} {s : String} {parts : List String}
    (cut : split separator s = parts) (clean : ∀ part ∈ parts, IsToken separator part) :
    splitStrip separator s = parts := by
  have same : parts.map strip = parts := by
    rw [List.map_congr_left fun part among => (clean part among).stripped, List.map_id']
  rw [splitStrip_eq, cut, same, List.filter_eq_self]
  intro part among
  exact decide_eq_true (clean part among).nonempty

/-- The round trip, for the list without parts too: its text is empty and has one empty part. -/
theorem splitStrip_intercalate {separator : Char} {parts : List String}
    (clean : ∀ part ∈ parts, IsToken separator part) :
    splitStrip separator ((String.singleton separator).intercalate parts) = parts := by
  by_cases empty : parts = []
  · subst parts
    rfl
  · exact splitStrip_of_split (split_intercalate empty fun part among => (clean part among).whole) clean

end Tokens
end LlamacppRay.Python
