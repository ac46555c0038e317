import Mathlib

/-! Decoded JSON documents. A float is kept as the text `json.dumps` prints for it. -/

namespace LlamacppRay.Python

inductive Json where
  | null
  | bool (value : Bool)
  | int (value : Int)
  | float (text : String)
  | str (value : String)
  | arr (elements : List Json)
  | obj (members : List (String × Json))
  deriving Inhabited

namespace Json

/-- `d[key] = value` on a dict: a key that is there keeps its place. -/
def setMember (members : List (String × Json)) (key : String) (value : Json) : List (String × Json) :=
  match members with
  | [] => [(key, value)]
  | (name, old) :: rest =>
      if name = key then (key, value) :: rest else (name, old) :: setMember rest key value

/-- `x[key] = value`; anything but a dict raises a `TypeError` here. -/
def setItem (document : Json) (key : String) (value : Json) : Option Json :=
  match document with
  | .obj members => some (.obj (setMember members key value))
  | _ => none

def member (members : List (String × Json)) (key : String) : Option Json :=
  (members.find? fun entry => entry.1 = key).map Prod.snd

theorem member_setMember_self (members : List (String × Json)) (key : String) (value : Json) :
    member (setMember members key value) key = some value := by
  induction members with
  | nil => simp [setMember, member]
  | cons entry rest ih =>
    obtain ⟨name, old⟩ := entry
    by_cases same : name = key
    · simp [setMember, member, same]
    · rw [setMember, if_neg same]
      simpa [member, same] using ih

theorem member_setMember_of_ne (members : List (String × Json)) {key other : String} (different : other ≠ key)
    (value : Json) : member (setMember members key value) other = member members other := by
  induction members with
  | nil => simp [setMember, member, different.symm]
  | cons entry rest ih =>
    obtain ⟨name, old⟩ := entry
    by_cases same : name = key
    · subst same
      simp [setMember, member, different.symm]
    · rw [setMember, if_neg same]
      by_cases wanted : name = other
      · simp [member, wanted]
      · simpa [member, wanted] using ih

/-- `x.get(key, default)`; only dicts have the method. -/
def get (document : Json) (key : String) (default : Json) : Option Json :=
  match document with
  | .obj members => some ((member members key).getD default)
  | _ => none

/-- `for x in document`: the elements, the keys or the characters; numbers cannot be iterated. -/
def iterate : Json → Option (List Json)
  | .arr elements => some elements
  | .obj members => some (members.map fun entry => .str entry.1)
  | .str value => some (value.toList.map fun c => .str (String.singleton c))
  | _ => none

def truthy : Json → Bool
  | .null => false
  | .bool value => value
  | .int value => value ≠ 0
  | .float text => text ≠ "0.0" && text ≠ "-0.0"
  | .str value => value ≠ ""
  | .arr elements => !elements.isEmpty
  | .obj members => !members.isEmpty

/-! ### `json.dumps` -/

def hexDigit (n : Nat) : Char := Nat.digitChar (n % 16)

def unicodeEscape (unit : Nat) : List Char :=
  ['\\', 'u', hexDigit (unit / 4096), hexDigit (unit / 256), hexDigit (unit / 16), hexDigit unit]

/-- Only printable ASCII characters stay as they are; those beyond 16 bits become two surrogates. -/
def escapeChar (c : Char) : List Char :=
  if c = '"' || c = '\\' then ['\\', c]
  else if c = '\n' then ['\\', 'n']
  else if c = '\r' then ['\\', 'r']
  else if c = '\t' then ['\\', 't']
  else if c.toNat = 8 then ['\\', 'b']
  else if c.toNat = 12 then ['\\', 'f']
  else if 32 ≤ c.toNat ∧ c.toNat ≤ 126 then [c]
  else if c.toNat < 65536 then unicodeEscape c.toNat
  else unicodeEscape (55296 + (c.toNat - 65536) / 1024) ++ unicodeEscape (56320 + (c.toNat - 65536) % 1024)

def dumpStr (value : String) : String := String.ofList ('"' :: value.toList.flatMap escapeChar ++ ['"'])

mutual

def dump : Json → String
  | .null => "null"
  | .bool value => if value then "true" else "false"
  | .int value => toString value
  | .float text => text
  | .str value => dumpStr value
  | .arr elements => "[" ++ String.intercalate ", " (dumpElements elements) ++ "]"
  | .obj members => "\x7b" ++ String.intercalate ", " (dumpMembers members) ++ "\x7d"

def dumpElements : List Json → List String
  | [] => []
  | element :: rest => dump element :: dumpElements rest

def dumpMembers : List (String × Json) → List String
  | [] => []
  | (key, value) :: rest => (dumpStr key ++ ": " ++ dump value) :: dumpMembers rest

end

end Json
end LlamacppRay.Python
