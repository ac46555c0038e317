import LlamacppRay.Gateway.Retry

/-! Users and their API keys: the two tables with the constraints the database enforces, and the
handlers that read and write them. A handler returns the tables as its last commit leaves them. -/

namespace LlamacppRay.Gateway
open LlamacppRay.Python

/-! ### The tables -/

structure User where
  id : Int
  username : String
  email : String
  department : String
  isActive : Bool
  isAdmin : Bool
  deriving DecidableEq

structure APIKey where
  id : Int
  userId : Int
  keyHash : String
  keyPrefix : String
  label : String
  metadataText : Option String
  isActive : Bool
  lastUsedAt : Option Int
  deriving DecidableEq

def User.fits (user : User) : Bool :=
  user.username.length ≤ 64 && user.email.length ≤ 128 && user.department.length ≤ 64

def APIKey.fits (key : APIKey) : Bool :=
  key.keyHash.length ≤ 128 && key.keyPrefix.length ≤ 16 && key.label.length ≤ 128

structure Tables where
  users : List User
  keys : List APIKey
  user_ids : (users.map User.id).Nodup
  usernames : (users.map User.username).Nodup
  emails : (users.map User.email).Nodup
  key_ids : (keys.map APIKey.id).Nodup
  key_hashes : (keys.map APIKey.keyHash).Nodup
  owned : ∀ key ∈ keys, ∃ user ∈ users, user.id = key.userId

theorem nodup_map_snoc {Row Field : Type*} {rows : List Row} {row : Row} {field : Row → Field}
    (distinct : (rows.map field).Nodup) (fresh : field row ∉ rows.map field) :
    ((rows ++ [row]).map field).Nodup := by
  rw [List.map_append, List.nodup_append]
  refine ⟨distinct, List.nodup_singleton _, ?_⟩
  intro value member other last same
  rw [List.mem_singleton.mp last] at same
  exact fresh (same ▸ member)

namespace Tables

def empty : Tables where
  users := []
  keys := []
  user_ids := List.nodup_nil
  usernames := List.nodup_nil
  emails := List.nodup_nil
  key_ids := List.nodup_nil
  key_hashes := List.nodup_nil
  owned := by simp

/-- No result is an `IntegrityError`. -/
def insertUser (tables : Tables) (row : User) : Option Tables :=
  if fresh : row.id ∉ tables.users.map User.id ∧ row.username ∉ tables.users.map User.username ∧
      row.email ∉ tables.users.map User.email then
    some
      { tables with
        users := tables.users ++ [row]
        user_ids := nodup_map_snoc tables.user_ids fresh.1
        usernames := nodup_map_snoc tables.usernames fresh.2.1
        emails := nodup_map_snoc tables.emails fresh.2.2
        owned := fun key member =>
          have ⟨user, present, owns⟩ := tables.owned key member
          ⟨user, List.mem_append_left _ present, owns⟩ }
  else none

/-- No result is an `IntegrityError`. -/
def insertKey (tables : Tables) (row : APIKey) : Option Tables :=
  if fresh : row.id ∉ tables.keys.map APIKey.id ∧ row.keyHash ∉ tables.keys.map APIKey.keyHash ∧
      row.userId ∈ tables.users.map User.id then
    some
      { tables with
        keys := tables.keys ++ [row]
        key_ids := nodup_map_snoc tables.key_ids fresh.1
        key_hashes := nodup_map_snoc tables.key_hashes fresh.2.1
        owned := by
          intro key member
          rcases List.mem_append.mp member with old | new
          · exact tables.owned key old
          · rw [List.mem_singleton.mp new]
            exact List.mem_map.mp fresh.2.2 }
  else none

theorem insertUser_rows {tables after : Tables} {row : User} (inserted : tables.insertUser row = some after) :
    after.users = tables.users ++ [row] ∧ after.keys = tables.keys := by
  rw [insertUser] at inserted
  split at inserted
  · cases inserted
    exact ⟨rfl, rfl⟩
  · cases inserted

theorem insertKey_rows {tables after : Tables} {row : APIKey} (inserted : tables.insertKey row = some after) :
    after.keys = tables.keys ++ [row] ∧ after.users = tables.users := by
  rw [insertKey] at inserted
  split at inserted
  · cases inserted
    exact ⟨rfl, rfl⟩
  · cases inserted

/-- An update of the users that leaves their keys and unique columns alone. -/
def updateUsers (tables : Tables) (change : User → User) (id : ∀ user, (change user).id = user.id)
    (username : ∀ user, (change user).username = user.username)
    (email : ∀ user, (change user).email = user.email) : Tables :=
  { tables with
    users := tables.users.map change
    user_ids := by simpa [Function.comp_def, id] using tables.user_ids
    usernames := by simpa [Function.comp_def, username] using tables.usernames
    emails := by simpa [Function.comp_def, email] using tables.emails
    owned := fun key member =>
      have ⟨user, present, owns⟩ := tables.owned key member
      ⟨change user, List.mem_map_of_mem present, (id user).trans owns⟩ }

def updateKeys (tables : Tables) (change : APIKey → APIKey) (id : ∀ key, (change key).id = key.id)
    (keyHash : ∀ key, (change key).keyHash = key.keyHash)
    (userId : ∀ key, (change key).userId = key.userId) : Tables :=
  { tables with
    keys := tables.keys.map change
    key_ids := by simpa [Function.comp_def, id] using tables.key_ids
    key_hashes := by simpa [Function.comp_def, keyHash] using tables.key_hashes
    owned := by
      intro key member
      obtain ⟨old, present, rfl⟩ := List.mem_map.mp member
      rw [userId]
      exact tables.owned old present }

end Tables

/-! ### Hashes and keys -/

/-- `hash_api_key`, taken to give different raw keys different hashes. -/
structure KeyHash where
  hash : String → String
  injective : Function.Injective hash

def generateApiKey (token : String) : String := "sk-ongc-" ++ token

def MultipleResultsFound : Exn := .other "Multiple rows were found when one or none was required"

def scalarOneOrNone {Row : Type*} : List Row → Except Exn (Option Row)
  | [] => .ok none
  | [row] => .ok (some row)
  | _ => .error MultipleResultsFound

/-! ### The administration handlers -/

structure UserCreate where
  username : String
  email : String
  department : String

structure KeyCreate where
  label : String := "default"
  metadata : Option String := none

structure UserCreated where
  id : Int
  username : String
  email : String
  department : String
  deriving DecidableEq

structure KeyCreated where
  username : String
  apiKey : String
  keyPrefix : String
  label : String
  metadata : Option String
  deriving DecidableEq

/-- What the database driver raises for a text that is too long for its column. -/
def DataError : Exn := .other "value too long for type character varying"

def IntegrityError : Exn := .other "duplicate key value violates unique constraint"

/-- `id` is the next value of the table's sequence. -/
def createUser (tables : Tables) (id : Int) (payload : UserCreate) : Tables × Except Exn UserCreated :=
  let user : User :=
    { id := id, username := payload.username, email := payload.email, department := payload.department,
      isActive := true, isAdmin := false }
  if user.fits then
    match tables.insertUser user with
    | some tables =>
        (tables, .ok { id := id, username := payload.username, email := payload.email,
                       department := payload.department })
    | none =>
        (tables, .error (.httpException 409 (.str "User with that username or email already exists")))
  else (tables, .error DataError)

def getUserByUsername (tables : Tables) (username : String) : Except Exn User := do
  match ← scalarOneOrNone (tables.users.filter fun user => user.username = username) with
  | some user => .ok user
  | none => .error (.httpException 404 (.str ("User '" ++ username ++ "' not found")))

/-- `token` is what `secrets.token_urlsafe` draws for the key. -/
def createApiKey (hash : KeyHash) (tables : Tables) (id : Int) (username : String) (payload : KeyCreate)
    (token : String) : Tables × Except Exn KeyCreated :=
  match getUserByUsername tables username with
  | .error exc => (tables, .error exc)
  | .ok user =>
    let rawKey := generateApiKey token
    let key : APIKey :=
      { id := id, userId := user.id, keyHash := hash.hash rawKey, keyPrefix := take 12 rawKey,
        label := payload.label, metadataText := payload.metadata, isActive := true, lastUsedAt := none }
    if key.fits then
      match tables.insertKey key with
      | some tables =>
          (tables, .ok { username := user.username, apiKey := rawKey, keyPrefix := take 12 rawKey,
                         label := payload.label, metadata := payload.metadata })
      | none => (tables, .error IntegrityError)
    else (tables, .error DataError)

/-! ### Authentication -/

def Tables.touch (tables : Tables) (id now : Int) : Tables :=
  tables.updateKeys (fun key => if key.id = id then { key with lastUsedAt := some now } else key)
    (by intro key; split <;> rfl) (by intro key; split <;> rfl) (by intro key; split <;> rfl)

def Tables.setUserActive (tables : Tables) (id : Int) (active : Bool) : Tables :=
  tables.updateUsers (fun user => if user.id = id then { user with isActive := active } else user)
    (by intro user; split <;> rfl) (by intro user; split <;> rfl) (by intro user; split <;> rfl)

def Tables.setKeyActive (tables : Tables) (id : Int) (active : Bool) : Tables :=
  tables.updateKeys (fun key => if key.id = id then { key with isActive := active } else key)
    (by intro key; split <;> rfl) (by intro key; split <;> rfl) (by intro key; split <;> rfl)

def validateKeyAgainstDb (hash : KeyHash) (tables : Tables) (rawKey : String) (now : Int) :
    Tables × Except Exn (Option (APIKey × User)) :=
  match scalarOneOrNone (tables.keys.filter fun key => key.keyHash = hash.hash rawKey ∧ key.isActive) with
  | .error exc => (tables, .error exc)
  | .ok none => (tables, .ok none)
  | .ok (some key) =>
    match tables.users.find? fun user => user.id = key.userId with
    | none => (tables, .ok none)
    | some user =>
      if user.isActive then
        (tables.touch key.id now, .ok (some ({ key with lastUsedAt := some now }, user)))
      else (tables, .ok none)

/-- `authorization.removeprefix("Bearer ").strip()` -/
def rawKeyOf (authorization : String) : String := strip (removePrefix "Bearer " authorization)

/-- The user, and the key prefix that is left in the request's state. -/
def requireApiKey (hash : KeyHash) (tables : Tables) (authorization : Option String) (now : Int) :
    Tables × Except Exn (User × String) :=
  match authorization with
  | none => (tables, .error (.httpException 401 (.str "Missing Authorization header")))
  | some text =>
    if text = "" then (tables, .error (.httpException 401 (.str "Missing Authorization header")))
    else
      match validateKeyAgainstDb hash tables (rawKeyOf text) now with
      | (tables, .error exc) => (tables, .error exc)
      | (tables, .ok none) => (tables, .error (.httpException 401 (.str "Invalid API key")))
      | (tables, .ok (some (key, user))) => (tables, .ok (user, key.keyPrefix))

/-! ### What the lookups find -/

theorem filter_unique {Row Field : Type*} {rows : List Row} {field : Row → Field}
    (distinct : (rows.map field).Nodup) {value : Field} {test : Row → Bool}
    (only : ∀ row, test row = true → field row = value) :
    rows.filter test = [] ∨ ∃ row ∈ rows, test row = true ∧ rows.filter test = [row] := by
  have found : ∀ row ∈ rows.filter test, row ∈ rows ∧ test row = true := fun row => List.mem_filter.mp
  have short := distinct.sublist ((List.filter_sublist (p := test)).map field)
  cases answers : rows.filter test with
  | nil => exact Or.inl rfl
  | cons row rest =>
    rw [answers] at found short
    obtain ⟨member, passed⟩ := found row List.mem_cons_self
    cases rest with
    | nil => exact Or.inr ⟨row, member, passed, rfl⟩
    | cons other rest =>
      have twice : field row = field other :=
        (only row passed).trans (only other (found other (by simp)).2).symm
      rw [List.map_cons, List.map_cons, twice] at short
      exact absurd short (by simp)

theorem eq_of_unique {Row Field : Type*} {rows : List Row} {field : Row → Field}
    (distinct : (rows.map field).Nodup) {first second : Row} (left : first ∈ rows) (right : second ∈ rows)
    (same : field first = field second) : first = second :=
  List.inj_on_of_nodup_map distinct left right same

structure Matches (hash : KeyHash) (tables : Tables) (rawKey : String) (key : APIKey) (user : User) : Prop where
  key_mem : key ∈ tables.keys
  key_hash : key.keyHash = hash.hash rawKey
  key_active : key.isActive = true
  user_mem : user ∈ tables.users
  owner : user.id = key.userId
  user_active : user.isActive = true

section Lookups
variable {tables : Tables}

theorem validate_cases (hash : KeyHash) (tables : Tables) (rawKey : String) (now : Int) :
    (∃ key user, Matches hash tables rawKey key user ∧ validateKeyAgainstDb hash tables rawKey now =
      (tables.touch key.id now, .ok (some ({ key with lastUsedAt := some now }, user)))) ∨
    ((∀ key user, ¬Matches hash tables rawKey key user) ∧
      validateKeyAgainstDb hash tables rawKey now = (tables, .ok none)) := by
  have only : ∀ key : APIKey, decide (key.keyHash = hash.hash rawKey ∧ key.isActive) = true →
      key.keyHash = hash.hash rawKey := fun key passed => (of_decide_eq_true passed).1
  rcases filter_unique tables.key_hashes only with missing | ⟨key, member, passed, found⟩
  · refine Or.inr ⟨fun key user matched => ?_, ?_⟩
    · refine List.filter_eq_nil_iff.mp missing key matched.key_mem ?_
      exact decide_eq_true ⟨matched.key_hash, matched.key_active⟩
    · rw [validateKeyAgainstDb, missing, scalarOneOrNone]
  · obtain ⟨hashed, active⟩ := of_decide_eq_true passed
    obtain ⟨owner, present, owns⟩ := tables.owned key member
    obtain ⟨user, loaded⟩ : ∃ user, (tables.users.find? fun user => user.id = key.userId) = some user :=
      Option.isSome_iff_exists.mp (List.find?_isSome.mpr ⟨owner, present, decide_eq_true owns⟩)
    have listed := List.mem_of_find?_eq_some loaded
    have owner_id : user.id = key.userId := by simpa using List.find?_some loaded
    rw [validateKeyAgainstDb, found, scalarOneOrNone]
    simp only [loaded]
    by_cases user_active : user.isActive = true
    · refine Or.inl ⟨key, user, ⟨member, hashed, active, listed, owner_id, user_active⟩, ?_⟩
      rw [if_pos user_active]
    · refine Or.inr ⟨fun other account matched => user_active ?_, if_neg user_active⟩
      have same_key := eq_of_unique tables.key_hashes matched.key_mem member
        (matched.key_hash.trans hashed.symm)
      have same_user := eq_of_unique tables.user_ids matched.user_mem listed
        (matched.owner.trans (same_key ▸ owner_id.symm))
      exact same_user ▸ matched.user_active

theorem requireApiKey_cases (hash : KeyHash) (tables : Tables) (authorization : Option String) (now : Int) :
    (∃ text key user, authorization = some text ∧ text ≠ "" ∧ Matches hash tables (rawKeyOf text) key user ∧
      requireApiKey hash tables authorization now = (tables.touch key.id now, .ok (user, key.keyPrefix))) ∨
    ((∀ text key user, authorization = some text → text ≠ "" → ¬Matches hash tables (rawKeyOf text) key user) ∧
      ∃ detail, requireApiKey hash tables authorization now =
        (tables, .error (.httpException 401 (.str detail)))) := by
  cases authorization with
  | none =>
    refine Or.inr ⟨?_, "Missing Authorization header", rfl⟩
    intro text key user absent
    cases absent
  | some text =>
    by_cases blank : text = ""
    · refine Or.inr ⟨?_, "Missing Authorization header", by rw [requireApiKey, if_pos blank]⟩
      intro other key user same filled
      exact absurd (Option.some.inj same ▸ blank) filled
    · rcases validate_cases hash tables (rawKeyOf text) now with
        ⟨key, user, matched, validated⟩ | ⟨none, validated⟩
      · exact Or.inl ⟨text, key, user, rfl, blank, matched, by simp only [requireApiKey, if_neg blank, validated]⟩
      · refine Or.inr ⟨?_, "Invalid API key", by simp only [requireApiKey, if_neg blank, validated]⟩
        intro other key user same _
        rw [← Option.some.inj same]
        exact none key user

theorem getUserByUsername_found {username : String} {user : User}
    (found : getUserByUsername tables username = .ok user) : user ∈ tables.users ∧ user.username = username := by
  have only : ∀ user : User, decide (user.username = username) = true → user.username = username :=
    fun _ => of_decide_eq_true
  rcases filter_unique tables.usernames only with missing | ⟨row, member, named, rows⟩
  · rw [getUserByUsername, missing] at found
    cases found
  · rw [getUserByUsername, rows] at found
    cases found
    exact ⟨member, only _ named⟩

theorem getUserByUsername_mem {username : String} {user : User}
    (found : getUserByUsername tables username = .ok user) : user ∈ tables.users :=
  (getUserByUsername_found found).1

theorem createUser_cases (tables : Tables) (id : Int) (payload : UserCreate) :
    (∃ row out after, tables.insertUser row = some after ∧ createUser tables id payload = (after, .ok out)) ∨
    ∃ exc, createUser tables id payload = (tables, .error exc) := by
  rw [createUser]
  split
  · split
    next after inserted => exact Or.inl ⟨_, _, after, inserted, rfl⟩
    next => exact Or.inr ⟨_, rfl⟩
  · exact Or.inr ⟨_, rfl⟩

theorem createApiKey_cases (hash : KeyHash) (tables : Tables) (id : Int) (username : String)
    (payload : KeyCreate) (token : String) :
    (∃ row out after, tables.insertKey row = some after ∧
      createApiKey hash tables id username payload token = (after, .ok out) ∧
      row.id = id ∧ out.apiKey = generateApiKey token ∧ row.keyHash = hash.hash out.apiKey ∧
      row.keyPrefix = take 12 out.apiKey ∧ out.keyPrefix = row.keyPrefix ∧
      ∃ user ∈ tables.users, user.id = row.userId ∧ user.username = out.username) ∨
    ∃ exc, createApiKey hash tables id username payload token = (tables, .error exc) := by
  rw [createApiKey]
  cases found : getUserByUsername tables username with
  | error exc => exact Or.inr ⟨exc, rfl⟩
  | ok user =>
    have member := getUserByUsername_mem found
    dsimp only
    split
    · split
      next after inserted =>
        exact Or.inl ⟨_, _, after, inserted, rfl, rfl, rfl, rfl, rfl, rfl, user, member, rfl, rfl⟩
      next => exact Or.inr ⟨_, rfl⟩
    · exact Or.inr ⟨_, rfl⟩

end Lookups
end LlamacppRay.Gateway
