import LlamacppRay.Python.Counting
import LlamacppRay.Gateway.Accounts

/-! The administration routes: what they report of the tables, and the secret that all of them ask for. -/

namespace LlamacppRay.Gateway
open LlamacppRay.Python

/-- A row of `request_logs`, as far as it is reported. -/
structure LogEntry where
  userId : Option Int
  nodeIp : Option String
  promptTokens : Int
  completionTokens : Int
  latencyMs : Int
  statusCode : Int
  streaming : Bool
  createdAt : Int
  deriving DecidableEq

/-! ### Lists and counts -/

structure UserListed where
  id : Int
  username : String
  email : String
  department : String
  isActive : Bool
  isAdmin : Bool
  deriving DecidableEq

structure KeyListed where
  id : Int
  username : String
  keyPrefix : String
  label : String
  metadata : Option String
  isActive : Bool
  deriving DecidableEq

structure AdminMetrics where
  users : Nat
  apiKeys : Nat
  requestLogs : Nat
  deriving DecidableEq

def listUsers (tables : Tables) : List UserListed :=
  (tables.users.insertionSort fun left right => left.id ≤ right.id).map fun user =>
    ⟨user.id, user.username, user.email, user.department, user.isActive, user.isAdmin⟩

/-- `join(User, APIKey.user_id == User.id)` -/
def keysWithUsers (tables : Tables) : List (APIKey × User) :=
  tables.keys.flatMap fun key =>
    (tables.users.filter fun user => key.userId = user.id).map fun user => (key, user)

def listKeys (tables : Tables) : List KeyListed :=
  ((keysWithUsers tables).insertionSort fun left right => left.1.id ≤ right.1.id).map fun (key, user) =>
    ⟨key.id, user.username, key.keyPrefix, key.label, key.metadataText, key.isActive⟩

def adminMetrics (tables : Tables) (logs : List LogEntry) : AdminMetrics :=
  ⟨tables.users.length, tables.keys.length, logs.length⟩

/-! ### The usage report -/

/-- The quotient of two integers as a float: it is rounded, but not beyond an integer that is a float. -/
structure TrueDivision where
  divide : Int → Nat → ℚ
  between : ∀ (low high total : Int) (count : Nat), 0 < count → |low| ≤ 2 ^ 53 → |high| ≤ 2 ^ 53 →
    low * count ≤ total → total ≤ high * count → low ≤ divide total count ∧ divide total count ≤ high

def TrueDivision.exact : TrueDivision where
  divide total count := total / count
  between := by
    intro low high total count some _ _ least most
    have positive : (0 : ℚ) < count := by exact_mod_cast some
    constructor
    · rw [le_div_iff₀ positive]
      exact_mod_cast least
    · rw [div_le_iff₀ positive]
      exact_mod_cast most

def truncate (value : ℚ) : Int := if 0 ≤ value then ⌊value⌋ else ⌈value⌉

structure UsageReport where
  username : String
  totalRequests : Nat
  successfulRequests : Nat
  errorRequests : Nat
  streamingRequests : Nat
  totalPromptTokens : Int
  totalCompletionTokens : Int
  avgLatencyMs : Int
  byNode : List (String × Nat)
  lastRequestAt : Option Int
  deriving DecidableEq

/-- The node that a row counts for: none where it has no node or a blank one. -/
def LogEntry.node (log : LogEntry) : Option String := log.nodeIp.filter fun node => node ≠ ""

def byNode (logs : List LogEntry) : List (String × Nat) :=
  logs.foldl (fun counts log =>
    match log.node with
    | none => counts
    | some node => bump node counts) []

def usageOf (division : TrueDivision) (username : String) (logs : List LogEntry) : UsageReport :=
  if logs = [] then
    { username := username, totalRequests := 0, successfulRequests := 0, errorRequests := 0, streamingRequests := 0,
      totalPromptTokens := 0, totalCompletionTokens := 0, avgLatencyMs := 0, byNode := [], lastRequestAt := none }
  else
    let successful := logs.filter fun log => log.statusCode = 200
    { username := username
      totalRequests := logs.length
      successfulRequests := successful.length
      errorRequests := logs.length - successful.length
      streamingRequests := logs.countP LogEntry.streaming
      totalPromptTokens := (logs.map LogEntry.promptTokens).sum
      totalCompletionTokens := (logs.map LogEntry.completionTokens).sum
      avgLatencyMs := truncate (division.divide (logs.map LogEntry.latencyMs).sum logs.length)
      byNode := byNode logs
      lastRequestAt := (logs.map LogEntry.createdAt).max? }

def userUsage (division : TrueDivision) (tables : Tables) (logs : List LogEntry) (username : String) :
    Except Exn UsageReport := do
  let user ← getUserByUsername tables username
  return usageOf division user.username (logs.filter fun log => log.userId = some user.id)

/-! ### The routes -/

inductive AdminRequest where
  | listUsers
  | createUser (id : Int) (payload : UserCreate)
  | createApiKey (id : Int) (username : String) (payload : KeyCreate) (token : String)
  | userUsage (username : String)
  | listKeys
  | adminMetrics

inductive AdminAnswer where
  | users (users : List UserListed)
  | userCreated (user : UserCreated)
  | keyCreated (key : KeyCreated)
  | usage (report : UsageReport)
  | keys (keys : List KeyListed)
  | metrics (metrics : AdminMetrics)

def requireAdminSecret (adminSecret : String) (xAdminSecret : Option String) : Except Exn Unit :=
  if xAdminSecret ≠ some adminSecret then .error (.httpException 403 (.str "Invalid admin secret")) else .ok ()

def administer (hash : KeyHash) (division : TrueDivision) (tables : Tables) (logs : List LogEntry) :
    AdminRequest → Tables × Except Exn AdminAnswer
  | .listUsers => (tables, .ok (.users (listUsers tables)))
  | .createUser id payload =>
      let (tables, answer) := createUser tables id payload
      (tables, answer.map .userCreated)
  | .createApiKey id username payload token =>
      let (tables, answer) := createApiKey hash tables id username payload token
      (tables, answer.map .keyCreated)
  | .userUsage username => (tables, (userUsage division tables logs username).map .usage)
  | .listKeys => (tables, .ok (.keys (listKeys tables)))
  | .adminMetrics => (tables, .ok (.metrics (adminMetrics tables logs)))

/-- The secret is asked for first. -/
def adminRoute (adminSecret : String) (hash : KeyHash) (division : TrueDivision) (tables : Tables)
    (logs : List LogEntry) (xAdminSecret : Option String) (request : AdminRequest) : Tables × Except Exn AdminAnswer :=
  match requireAdminSecret adminSecret xAdminSecret with
  | .error exc => (tables, .error exc)
  | .ok _ => administer hash division tables logs request

end LlamacppRay.Gateway
