import LlamacppRay.Gateway.Accounts

/-! The scripts that work on the database themselves: `init_db`, which brings the tables up to date and makes the first
administrator, and `generate_api_key`. -/

namespace LlamacppRay.Scripts
open LlamacppRay.Python LlamacppRay.Gateway

/-! ### The columns of the tables -/

abbrev Schema := String → Option (Finset String)

def declared : List (String × Finset String) :=
  [("users", {"id", "username", "email", "department", "is_active", "is_admin", "created_at", "updated_at"}),
    ("api_keys", {"id", "user_id", "key_hash", "key_prefix", "label", "metadata", "is_active", "last_used_at",
      "created_at"}),
    ("request_logs", {"id", "user_id", "api_key_prefix", "model", "node_ip", "prompt_tokens", "completion_tokens",
      "latency_ms", "queue_ms", "status_code", "error_message", "streaming", "request_type", "request_preview",
      "response_preview", "created_at"})]

def added : List (String × Finset String) :=
  [("api_keys", {"metadata"}), ("request_logs", {"request_type", "request_preview", "response_preview"})]

def createTable (schema : Schema) (table : String × Finset String) : Schema :=
  match schema table.1 with
  | none => Function.update schema table.1 (some table.2)
  | some _ => schema

/-- `Base.metadata.create_all` -/
def createAll (schema : Schema) : Schema := declared.foldl createTable schema

/-- `ALTER TABLE ADD COLUMN`, for each of the columns that an existing table lacks. -/
def addColumns (schema : Schema) (table : String × Finset String) : Schema :=
  match schema table.1 with
  | none => schema
  | some present => Function.update schema table.1 (some (present ∪ table.2))

def ensureSchema (schema : Schema) : Schema := added.foldl addColumns schema

/-- What `main` does before it looks for the administrator. -/
def initSchema (schema : Schema) : Schema := ensureSchema (createAll schema)

def Complete (schema : Schema) : Prop :=
  ∀ table ∈ declared, ∃ present, schema table.1 = some present ∧ table.2 ⊆ present

/-! ### The first administrator -/

def bootstrapUser (id : Int) : User :=
  { id := id, username := "admin", email := "admin@ongc.co.in", department := "IT", isActive := true, isAdmin := true }

def bootstrapKey (hash : KeyHash) (id userId : Int) (rawKey : String) : APIKey :=
  { id := id, userId := userId, keyHash := hash.hash rawKey, keyPrefix := take 12 rawKey, label := "admin-bootstrap",
    metadataText := none, isActive := true, lastUsedAt := none }

/-- The key that is printed, or none if there is an administrator. The user and the key are written in one
transaction, so a failure leaves neither. -/
def initDb (hash : KeyHash) (tables : Tables) (userId keyId : Int) (token : String) :
    Tables × Except Exn (Option KeyCreated) :=
  match tables.users.find? fun user => user.username = "admin" with
  | some _ => (tables, .ok none)
  | none =>
    match tables.insertUser (bootstrapUser userId) with
    | none => (tables, .error IntegrityError)
    | some flushed =>
      let rawKey := generateApiKey token
      let key := bootstrapKey hash keyId userId rawKey
      if key.fits then
        match flushed.insertKey key with
        | none => (tables, .error IntegrityError)
        | some committed =>
          (committed, .ok (some { username := "admin", apiKey := rawKey, keyPrefix := take 12 rawKey,
                                  label := "admin-bootstrap", metadata := none }))
      else (tables, .error DataError)

def systemExit (text : String) : Exn := .other text

/-- A missing user ends the script; any other exception goes through it. -/
def exited (username : String) : Except Exn KeyCreated → Except Exn KeyCreated
  | .error (.httpException 404 _) => .error (systemExit ("User '" ++ username ++ "' not found"))
  | answer => answer

/-- `generate_api_key` writes the row that `create_api_key` writes, but without the secret, and prints the key. -/
def generateKey (hash : KeyHash) (tables : Tables) (id : Int) (username label : String) (metadata : Option String)
    (token : String) : Tables × Except Exn KeyCreated :=
  let (tables, answer) := createApiKey hash tables id username ⟨label, metadata⟩ token
  (tables, exited username answer)

section Writes
variable {hash : KeyHash} {tables : Tables}

theorem initDb_cases (hash : KeyHash) (tables : Tables) (userId keyId : Int) (token : String) :
    (∃ flushed committed out, tables.insertUser (bootstrapUser userId) = some flushed ∧
      flushed.insertKey (bootstrapKey hash keyId userId out.apiKey) = some committed ∧
      initDb hash tables userId keyId token = (committed, .ok (some out)) ∧
      out = ⟨"admin", generateApiKey token, take 12 (generateApiKey token), "admin-bootstrap", none⟩) ∨
    ∃ answer, initDb hash tables userId keyId token = (tables, answer) ∧ ∀ out, answer ≠ .ok (some out) := by
  rw [initDb]
  split
  · exact Or.inr ⟨_, rfl, by simp⟩
  · split
    next => exact Or.inr ⟨_, rfl, by simp⟩
    next flushed inserted =>
      dsimp only
      split
      · split
        next => exact Or.inr ⟨_, rfl, by simp⟩
        next committed written => exact Or.inl ⟨flushed, committed, _, inserted, written, rfl, rfl⟩
      · exact Or.inr ⟨_, rfl, by simp⟩

theorem generateKey_cases (hash : KeyHash) (tables : Tables) (id : Int) (username label : String)
    (metadata : Option String) (token : String) :
    generateKey hash tables id username label metadata token =
      createApiKey hash tables id username ⟨label, metadata⟩ token ∨
    ∃ exc other, createApiKey hash tables id username ⟨label, metadata⟩ token = (tables, .error exc) ∧
      generateKey hash tables id username label metadata token = (tables, .error other) := by
  rw [generateKey]
  rcases createApiKey_cases hash tables id username ⟨label, metadata⟩ token with
    ⟨row, out, after, -, created, -⟩ | ⟨exc, refused⟩
  · rw [created]
    exact Or.inl rfl
  · have ended : ∃ other, exited username (.error exc) = .error other := by
      unfold exited
      split
      · exact ⟨_, rfl⟩
      · exact ⟨exc, rfl⟩
    obtain ⟨other, ended⟩ := ended
    simp only [refused, ended]
    exact Or.inr ⟨exc, other, rfl, rfl⟩

end Writes

/-! ### What the migration reaches -/

section Schemas
variable {schema : Schema}

theorem createTable_self (schema : Schema) (table : String × Finset String) :
    createTable schema table table.1 = some ((schema table.1).getD table.2) := by
  cases there : schema table.1 <;> simp [createTable, there]

theorem createTable_of_ne (schema : Schema) (table : String × Finset String) (name : String) (other : name ≠ table.1) :
    createTable schema table name = schema name := by
  cases there : schema table.1 <;> simp [createTable, there, other]

theorem addColumns_self (schema : Schema) (table : String × Finset String) :
    addColumns schema table table.1 = (schema table.1).map fun present => present ∪ table.2 := by
  cases there : schema table.1 <;> simp [addColumns, there]

theorem addColumns_of_ne (schema : Schema) (table : String × Finset String) (name : String) (other : name ≠ table.1) :
    addColumns schema table name = schema name := by
  cases there : schema table.1 <;> simp [addColumns, there, other]

theorem foldl_tables {change : Schema → String × Finset String → Schema}
    (effect : Finset String → Option (Finset String) → Option (Finset String))
    (self : ∀ schema table, change schema table table.1 = effect table.2 (schema table.1))
    (other : ∀ schema table name, name ≠ table.1 → change schema table name = schema name)
    {tables : List (String × Finset String)} (distinct : (tables.map Prod.fst).Nodup) (schema : Schema) :
    (∀ table ∈ tables, tables.foldl change schema table.1 = effect table.2 (schema table.1)) ∧
      ∀ name ∉ tables.map Prod.fst, tables.foldl change schema name = schema name := by
  induction tables generalizing schema with
  | nil => simp
  | cons first rest ih =>
    obtain ⟨fresh, distinct⟩ := List.nodup_cons.mp distinct
    obtain ⟨inner, outer⟩ := ih distinct (change schema first)
    constructor
    · intro table member
      rw [List.foldl_cons]
      rcases List.mem_cons.mp member with rfl | later
      · rw [outer _ fresh, self]
      · have apart : table.1 ≠ first.1 := fun same => fresh (same ▸ List.mem_map_of_mem later)
        rw [inner table later, other _ _ _ apart]
    · intro name absent
      rw [List.map_cons, List.mem_cons, not_or] at absent
      rw [List.foldl_cons, outer name absent.2, other _ _ _ absent.1]

theorem createAll_declared {table : String × Finset String} (member : table ∈ declared) :
    createAll schema table.1 = some ((schema table.1).getD table.2) :=
  (foldl_tables (fun columns present => some (present.getD columns)) createTable_self createTable_of_ne (by decide)
    schema).1 table member

theorem createAll_undeclared {name : String} (absent : name ∉ declared.map Prod.fst) :
    createAll schema name = schema name :=
  (foldl_tables (fun columns present => some (present.getD columns)) createTable_self createTable_of_ne (by decide)
    schema).2 name absent

def addedTo (name : String) : Finset String :=
  ((added.find? fun table => table.1 = name).map Prod.snd).getD ∅

theorem ensureSchema_apply (schema : Schema) (name : String) :
    ensureSchema schema name = (schema name).map fun present => present ∪ addedTo name := by
  obtain ⟨inner, outer⟩ := foldl_tables (fun columns present => present.map fun present => present ∪ columns)
    addColumns_self addColumns_of_ne (by decide : (added.map Prod.fst).Nodup) schema
  cases found : added.find? fun table => table.1 = name with
  | none =>
    have absent : name ∉ added.map Prod.fst := by
      intro member
      obtain ⟨table, listed, rfl⟩ := List.mem_map.mp member
      have test := List.find?_eq_none.mp found table listed
      simp at test
    rw [ensureSchema, outer name absent, addedTo, found]
    simp
  | some table =>
    have named : table.1 = name := by simpa using List.find?_some found
    rw [addedTo, found, ← named]
    exact inner table (List.mem_of_find?_eq_some found)

theorem initSchema_declared {table : String × Finset String} (member : table ∈ declared) :
    initSchema schema table.1 = some ((schema table.1).getD table.2 ∪ addedTo table.1) := by
  rw [initSchema, ensureSchema_apply, createAll_declared member, Option.map_some]

theorem initSchema_undeclared {name : String} (absent : name ∉ declared.map Prod.fst) :
    initSchema schema name = schema name := by
  have kept : addedTo name = ∅ := by
    cases found : added.find? fun table => table.1 = name with
    | none => rw [addedTo, found, Option.map_none, Option.getD_none]
    | some table =>
      have named : table.1 = name := by simpa using List.find?_some found
      have among : ∀ table ∈ added, table.1 ∈ declared.map Prod.fst := by decide
      exact absurd (named ▸ among table (List.mem_of_find?_eq_some found)) absent
  rw [initSchema, ensureSchema_apply, createAll_undeclared absent, kept]
  simp

/-- A database of any state is brought up to date if and only if its tables lack none but the columns that
`ensure_schema` knows of. Nothing is dropped, other tables stay as they are, and a second run changes nothing. -/
theorem initSchema_exact (schema : Schema) :
    (Complete (initSchema schema) ↔ ∀ table ∈ declared, ∀ present, schema table.1 = some present →
      table.2 \ addedTo table.1 ⊆ present) ∧
    (∀ name present, schema name = some present → ∃ after, initSchema schema name = some after ∧ present ⊆ after) ∧
    (∀ name ∉ declared.map Prod.fst, initSchema schema name = schema name) ∧
    initSchema (initSchema schema) = initSchema schema := by
  refine ⟨⟨?_, ?_⟩, ?_, fun _ absent => initSchema_undeclared absent, ?_⟩
  · intro complete table member present there column lacked
    obtain ⟨after, result, whole⟩ := complete table member
    rw [initSchema_declared member, there, Option.getD_some, Option.some.injEq] at result
    obtain ⟨wanted, unknown⟩ := Finset.mem_sdiff.mp lacked
    have kept := whole wanted
    rw [← result] at kept
    exact (Finset.mem_union.mp kept).resolve_right unknown
  · intro known table member
    refine ⟨_, initSchema_declared member, ?_⟩
    cases there : schema table.1 with
    | none => exact Finset.subset_union_left
    | some present =>
      intro column wanted
      by_cases late : column ∈ addedTo table.1
      · exact Finset.mem_union_right _ late
      · exact Finset.mem_union_left _ (known table member present there (Finset.mem_sdiff.mpr ⟨wanted, late⟩))
  · intro name present there
    by_cases member : name ∈ declared.map Prod.fst
    · obtain ⟨table, listed, rfl⟩ := List.mem_map.mp member
      refine ⟨_, initSchema_declared listed, ?_⟩
      rw [there]
      exact Finset.subset_union_left
    · exact ⟨present, (initSchema_undeclared member).trans there, Finset.Subset.refl _⟩
  · funext name
    by_cases member : name ∈ declared.map Prod.fst
    · obtain ⟨table, listed, rfl⟩ := List.mem_map.mp member
      rw [initSchema_declared listed, initSchema_declared listed, Option.getD_some, Finset.union_assoc,
        Finset.union_self]
    · rw [initSchema_undeclared member]

end Schemas
end LlamacppRay.Scripts
