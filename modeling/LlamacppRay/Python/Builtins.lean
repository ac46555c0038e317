import Mathlib

/-! Built-in functions and string methods of Python, on lists and strings. -/

namespace LlamacppRay.Python

section Sequences
variable {α : Type*}

/-- `min(xs, key=key)`: the first of the elements with the least key. -/
def minBy (key : α → Int) : List α → Option α
  | [] => none
  | first :: rest => some (rest.foldl (fun best x => if key x < key best then x else best) first)

theorem foldl_min_mem (key : α → Int) (first : α) (rest : List α) :
    rest.foldl (fun best x => if key x < key best then x else best) first ∈ first :: rest := by
  induction rest generalizing first with
  | nil => exact List.mem_singleton.mpr rfl
  | cons x rest ih =>
    simp only [List.foldl_cons]
    rcases List.mem_cons.mp (ih (if key x < key first then x else first)) with same | later
    · rw [same]
      split
      · exact List.mem_cons_of_mem _ List.mem_cons_self
      · exact List.mem_cons_self
    · exact List.mem_cons_of_mem _ (List.mem_cons_of_mem _ later)

theorem minBy_mem {key : α → Int} {xs : List α} {x : α} (least : minBy key xs = some x) :
    x ∈ xs := by
  cases xs with
  | nil => cases least
  | cons first rest =>
    cases least
    exact foldl_min_mem key first rest

theorem minBy_eq_none {key : α → Int} {xs : List α} : minBy key xs = none ↔ xs = [] := by
  cases xs <;> simp [minBy]

theorem foldl_min_split (key : α → Int) {first x : α} {rest : List α}
    (least : rest.foldl (fun best x => if key x < key best then x else best) first = x) :
    ∃ front back, first :: rest = front ++ x :: back ∧ (∀ other ∈ front, key x < key other) ∧
      ∀ other ∈ back, key x ≤ key other := by
  induction rest generalizing first with
  | nil =>
    subst x
    exact ⟨[], [], rfl, by simp, by simp⟩
  | cons y rest ih =>
    rw [List.foldl_cons] at least
    by_cases smaller : key y < key first
    · rw [if_pos smaller] at least
      obtain ⟨front, back, parts, before, after⟩ := ih least
      have bound : key x ≤ key y := by
        have member : y ∈ front ++ x :: back := parts ▸ List.mem_cons_self
        rcases List.mem_append.mp member with early | late
        · exact (before y early).le
        · rcases List.mem_cons.mp late with rfl | later
          · exact le_rfl
          · exact after y later
      refine ⟨first :: front, back, by rw [parts]; rfl, ?_, after⟩
      intro other member
      rcases List.mem_cons.mp member with rfl | early
      · omega
      · exact before other early
    · rw [if_neg smaller] at least
      obtain ⟨front, back, parts, before, after⟩ := ih least
      cases front with
      | nil =>
        obtain ⟨rfl, rfl⟩ := List.cons.inj parts
        refine ⟨[], y :: rest, rfl, by simp, ?_⟩
        intro other member
        rcases List.mem_cons.mp member with rfl | late
        · omega
        · exact after other late
      | cons z front =>
        obtain ⟨rfl, rfl⟩ := List.cons.inj parts
        have below := before first List.mem_cons_self
        refine ⟨first :: y :: front, back, rfl, ?_, after⟩
        intro other member
        rcases List.mem_cons.mp member with rfl | member
        · exact below
        · rcases List.mem_cons.mp member with rfl | early
          · omega
          · exact before other (List.mem_cons_of_mem first early)

theorem minBy_split {key : α → Int} {xs : List α} {x : α} (least : minBy key xs = some x) :
    ∃ front back, xs = front ++ x :: back ∧ (∀ other ∈ front, key x < key other) ∧
      ∀ other ∈ back, key x ≤ key other := by
  cases xs with
  | nil => cases least
  | cons first rest => exact foldl_min_split key (Option.some.inj least)

/-- `xs[h % len(xs)]` with Python's floor modulus; it fails on the empty list only. -/
def indexMod (h : Int) (xs : List α) : Option α := xs[(h % xs.length).toNat]?

theorem indexMod_eq_some (h : Int) {xs : List α} (inhabited : xs ≠ []) :
    ∃ x ∈ xs, indexMod h xs = some x := by
  have positive : (0 : Int) < xs.length := by
    have := List.length_pos_iff.mpr inhabited
    omega
  have low := Int.emod_nonneg h positive.ne'
  have high := Int.emod_lt_of_pos h positive
  have bound : (h % xs.length).toNat < xs.length := by omega
  exact ⟨xs[(h % xs.length).toNat], List.getElem_mem bound, List.getElem?_eq_getElem bound⟩

end Sequences

section Strings

def isSpace (c : Char) : Bool :=
  let n := c.toNat
  (0x09 ≤ n && n ≤ 0x0D) || (0x1C ≤ n && n ≤ 0x20) || n == 0x85 || n == 0xA0 || n == 0x1680 ||
    (0x2000 ≤ n && n ≤ 0x200A) || n == 0x2028 || n == 0x2029 || n == 0x202F || n == 0x205F || n == 0x3000

def strip (s : String) : String :=
  String.ofList ((s.toList.dropWhile isSpace).rdropWhile isSpace)

/-- `s.split(sep)` for a separator of one character: one part more than there are separators. -/
def split (separator : Char) (s : String) : List String :=
  (s.toList.splitOn separator).map String.ofList

/-- `[part.strip() for part in s.split(sep) if part.strip()]` -/
def splitStrip (separator : Char) (s : String) : List String :=
  ((split separator s).filter fun part => strip part ≠ "").map strip

/-- `s.split()`: the longest stretches without white space. -/
def words (s : String) : List String :=
  ((s.toList.splitOnP isSpace).filter fun word => word ≠ []).map String.ofList

theorem words_length_le (s : String) : (words s).length ≤ s.length := by
  rw [words, List.length_map, ← String.length_toList]
  induction s.toList with
  | nil => simp [List.splitOnP_nil]
  | cons c rest ih =>
    rw [List.splitOnP_cons_eq_if_modifyHead]
    split
    · rw [List.filter_cons_of_neg (by simp), List.length_cons]
      omega
    · cases parts : rest.splitOnP isSpace with
      | nil => exact absurd parts (by simp)
      | cons word others =>
        rw [parts] at ih
        rw [List.modifyHead_cons, List.filter_cons_of_pos (by simp), List.length_cons, List.length_cons]
        have others_le : (others.filter fun word => word ≠ []).length ≤
            ((word :: others).filter fun word => word ≠ []).length :=
          ((List.sublist_cons_self word others).filter _).length_le
        omega

def rstripNewlines (s : String) : String := String.ofList (s.toList.rdropWhile fun c => c = '\n')

def take (n : Nat) (s : String) : String := String.ofList (s.toList.take n)

def removePrefix (front s : String) : String :=
  if front.toList.isPrefixOf s.toList then String.ofList (s.toList.drop front.length) else s

end Strings

section Numbers

/-- `sys.maxsize`, which the length of no sequence exceeds. -/
def MAXSIZE : Nat := 2 ^ 63 - 1

/-- The least integer for which `float` raises an `OverflowError`: half way from the largest float to `2 ^ 1024`. -/
def FLOAT_LIMIT : Int := ((2 ^ 32) ^ 32 - (2 ^ 97) ^ 10 : Nat)

example : FLOAT_LIMIT = 2 ^ 1024 - 2 ^ 970 := by decide +kernel

theorem maxsize_lt_floatLimit : (MAXSIZE : Int) < FLOAT_LIMIT := by decide +kernel

end Numbers

section Statuses

def HTTP_PHRASES : List (Int × String) :=
  [(100, "Continue"), (101, "Switching Protocols"), (102, "Processing"), (103, "Early Hints"), (200, "OK"),
    (201, "Created"), (202, "Accepted"), (203, "Non-Authoritative Information"), (204, "No Content"),
    (205, "Reset Content"), (206, "Partial Content"), (207, "Multi-Status"), (208, "Already Reported"),
    (226, "IM Used"), (300, "Multiple Choices"), (301, "Moved Permanently"), (302, "Found"), (303, "See Other"),
    (304, "Not Modified"), (305, "Use Proxy"), (307, "Temporary Redirect"), (308, "Permanent Redirect"),
    (400, "Bad Request"), (401, "Unauthorized"), (402, "Payment Required"), (403, "Forbidden"), (404, "Not Found"),
    (405, "Method Not Allowed"), (406, "Not Acceptable"), (407, "Proxy Authentication Required"),
    (408, "Request Timeout"), (409, "Conflict"), (410, "Gone"), (411, "Length Required"),
    (412, "Precondition Failed"), (413, "Request Entity Too Large"), (414, "Request-URI Too Long"),
    (415, "Unsupported Media Type"), (416, "Requested Range Not Satisfiable"), (417, "Expectation Failed"),
    (418, "I'm a Teapot"), (421, "Misdirected Request"), (422, "Unprocessable Entity"), (423, "Locked"),
    (424, "Failed Dependency"), (425, "Too Early"), (426, "Upgrade Required"), (428, "Precondition Required"),
    (429, "Too Many Requests"), (431, "Request Header Fields Too Large"), (451, "Unavailable For Legal Reasons"),
    (500, "Internal Server Error"), (501, "Not Implemented"), (502, "Bad Gateway"), (503, "Service Unavailable"),
    (504, "Gateway Timeout"), (505, "HTTP Version Not Supported"), (506, "Variant Also Negotiates"),
    (507, "Insufficient Storage"), (508, "Loop Detected"), (510, "Not Extended"),
    (511, "Network Authentication Required")]

/-- `HTTPStatus(code).phrase`; none is the `ValueError` of an unknown code. -/
def httpPhrase (code : Int) : Option String := (HTTP_PHRASES.find? fun entry => entry.1 = code).map Prod.snd

end Statuses
end LlamacppRay.Python
