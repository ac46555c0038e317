import LlamacppRay.Automata.Servers
import LlamacppRay.Gateway.Administration
import LlamacppRay.Gateway.Authentication
import LlamacppRay.Scripts.Database

/-! The accounts as everything that works on them: the administration routes with their secret, the two scripts of the
administrator, and the requests that authenticate themselves. -/

namespace LlamacppRay.Gateway
open LlamacppRay.Automata LlamacppRay.Python LlamacppRay.Scripts

structure BackOffice where
  accounts : Accounts
  logs : List LogEntry

inductive Task where
  | admin (xAdminSecret : Option String) (request : AdminRequest)
  | requireApiKey (authorization : Option String) (now : Int)
  | initDb (userId keyId : Int) (token : String)
  | generateKey (id : Int) (username label : String) (metadata : Option String) (token : String)
  | setUserActive (id : Int) (active : Bool)
  | setKeyActive (id : Int) (active : Bool)
  | logRequest (entry : LogEntry)

inductive TaskAnswer where
  | admin (answer : Except Exn AdminAnswer)
  | authenticated (answer : Except Exn (User × String))
  | bootstrapped (answer : Except Exn (Option KeyCreated))
  | printed (apiKey : Except Exn String)
  | written

namespace BackOffice

def issues : AdminRequest → Except Exn AdminAnswer → List Issue
  | .createApiKey id _ _ _, .ok (.keyCreated key) => [⟨id, key⟩]
  | _, _ => []

def empty : BackOffice := ⟨.empty, []⟩

/-- The tables after a task, and the keys that it has issued. -/
def write (s : BackOffice) (tables : Tables) (issued : List Issue) : BackOffice :=
  { s with accounts := ⟨tables, s.accounts.issued ++ issued⟩ }

def serve (adminSecret : String) (hash : KeyHash) (division : TrueDivision) (s : BackOffice) :
    Task → BackOffice × TaskAnswer
  | .admin xAdminSecret request =>
      let (tables, answer) := adminRoute adminSecret hash division s.accounts.tables s.logs xAdminSecret request
      (s.write tables (issues request answer), .admin answer)
  | .requireApiKey authorization now =>
      let (tables, answer) := Gateway.requireApiKey hash s.accounts.tables authorization now
      (s.write tables [], .authenticated answer)
  | .initDb userId keyId token =>
      match Scripts.initDb hash s.accounts.tables userId keyId token with
      | (tables, .ok (some key)) => (s.write tables [⟨keyId, key⟩], .bootstrapped (.ok (some key)))
      | (tables, answer) => (s.write tables [], .bootstrapped answer)
  | .generateKey id username label metadata token =>
      match Scripts.generateKey hash s.accounts.tables id username label metadata token with
      | (tables, .ok key) => (s.write tables [⟨id, key⟩], .printed (.ok key.apiKey))
      | (tables, .error exc) => (s.write tables [], .printed (.error exc))
  | .setUserActive id active => (s.write (s.accounts.tables.setUserActive id active) [], .written)
  | .setKeyActive id active => (s.write (s.accounts.tables.setKeyActive id active) [], .written)
  | .logRequest entry => ({ s with logs := s.logs ++ [entry] }, .written)

def server (adminSecret : String) (hash : KeyHash) (division : TrueDivision) : Server BackOffice Task TaskAnswer :=
  ⟨serve adminSecret hash division⟩

/-! ### What a task can write -/

end BackOffice

def TaskAnswer.handed : TaskAnswer → Option String
  | .admin (.ok (.keyCreated key)) => some key.apiKey
  | .bootstrapped (.ok (some key)) => some key.apiKey
  | .printed (.ok apiKey) => some apiKey
  | _ => none

def TaskAnswer.founds : TaskAnswer → Bool
  | .bootstrapped (.ok (some _)) => true
  | _ => false

namespace BackOffice
variable {adminSecret : String} {hash : KeyHash} {division : TrueDivision} {s : BackOffice} {task : Task}

/-- The administrator and the first key, in one transaction. -/
def Founds (hash : KeyHash) (before : Accounts) (key : KeyCreated) (after : Accounts) : Prop :=
  ∃ userId keyId token flushed, before.tables.insertUser (bootstrapUser userId) = some flushed ∧
    flushed.insertKey (bootstrapKey hash keyId userId key.apiKey) = some after.tables ∧
    key = ⟨"admin", generateApiKey token, take 12 (generateApiKey token), "admin-bootstrap", none⟩ ∧
    after.issued = before.issued ++ [⟨keyId, key⟩]

inductive Writes (hash : KeyHash) (s : Accounts) : Accounts → TaskAnswer → Prop
  | stays {answer : TaskAnswer} (silent : answer.handed = none) (unfounded : answer.founds = false) :
      Writes hash s s answer
  | steps {next : Accounts} {event : AccountEvent} {answer : TaskAnswer} (step : s.step hash event = some next)
      (hands : next.issued.map (fun issue => issue.answer.apiKey) =
        s.issued.map (fun issue => issue.answer.apiKey) ++ answer.handed.toList)
      (unfounded : answer.founds = false) : Writes hash s next answer
  | founds {next : Accounts} {key : KeyCreated} (founds : Founds hash s key next) :
      Writes hash s next (.bootstrapped (.ok (some key)))

theorem write_nil (s : BackOffice) : (s.write s.accounts.tables []).accounts = s.accounts := by
  rw [write, List.append_nil]

theorem createApiKey_writes (hash : KeyHash) (s : Accounts) (id : Int) (username : String) (payload : KeyCreate)
    (token : String) :
    (∃ after out, createApiKey hash s.tables id username payload token = (after, .ok out) ∧
      s.step hash (.createApiKey id username payload token) = some ⟨after, s.issued ++ [⟨id, out⟩]⟩) ∨
    ∃ exc, createApiKey hash s.tables id username payload token = (s.tables, .error exc) := by
  rcases createApiKey_cases hash s.tables id username payload token with
    ⟨row, out, after, -, created, -⟩ | ⟨exc, refused⟩
  · refine Or.inl ⟨after, out, created, ?_⟩
    simp only [Accounts.step, created]
  · exact Or.inr ⟨exc, refused⟩

theorem administer_writes (hash : KeyHash) (division : TrueDivision) (s : BackOffice) (request : AdminRequest)
    {tables : Tables} {answer : Except Exn AdminAnswer}
    (served : administer hash division s.accounts.tables s.logs request = (tables, answer)) :
    Writes hash s.accounts (s.write tables (issues request answer)).accounts (.admin answer) := by
  cases request with
  | createUser id payload =>
    cases created : createUser s.accounts.tables id payload with
    | mk after result =>
      have step : s.accounts.step hash (.createUser id payload) = some (s.write after []).accounts := by
        simp only [Accounts.step, created, write, List.append_nil]
      simp only [administer, created] at served
      cases result with
      | ok user => cases served; exact .steps step (by simp [write, issues, TaskAnswer.handed, Except.map]) rfl
      | error exc => cases served; exact .steps step (by simp [write, issues, TaskAnswer.handed, Except.map]) rfl
  | createApiKey id username payload token =>
    rcases createApiKey_writes hash s.accounts id username payload token with
      ⟨after, out, created, step⟩ | ⟨exc, refused⟩
    · simp only [administer, created] at served
      cases served
      exact .steps step (by simp [write, issues, TaskAnswer.handed, Except.map]) rfl
    · simp only [administer, refused] at served
      cases served
      exact (write_nil s).symm ▸ .stays rfl rfl
  | userUsage username =>
    simp only [administer] at served
    cases result : userUsage division s.accounts.tables s.logs username with
    | ok report =>
      rw [result] at served
      cases served
      exact (write_nil s).symm ▸ .stays rfl rfl
    | error exc =>
      rw [result] at served
      cases served
      exact (write_nil s).symm ▸ .stays rfl rfl
  | listUsers | listKeys | adminMetrics =>
    cases served
    exact (write_nil s).symm ▸ .stays rfl rfl

theorem serve_writes (adminSecret : String) (hash : KeyHash) (division : TrueDivision) (s : BackOffice) (task : Task) :
    Writes hash s.accounts (serve adminSecret hash division s task).1.accounts
      (serve adminSecret hash division s task).2 := by
  cases task with
  | admin xAdminSecret request =>
    rw [serve, adminRoute]
    cases requireAdminSecret adminSecret xAdminSecret with
    | error exc =>
      have nothing : issues request (.error exc) = [] := by cases request <;> rfl
      simp only [nothing, write_nil]
      exact .stays rfl rfl
    | ok => exact administer_writes hash division s request rfl
  | requireApiKey authorization now =>
    have step : s.accounts.step hash (.requireApiKey authorization now) =
        some (s.write (Gateway.requireApiKey hash s.accounts.tables authorization now).1 []).accounts := by
      rw [write, List.append_nil]
      rfl
    exact .steps step (by simp [serve, write, TaskAnswer.handed]) rfl
  | initDb userId keyId token =>
    rcases initDb_cases hash s.accounts.tables userId keyId token with
      ⟨flushed, committed, out, inserted, written, result, named⟩ | ⟨answer, result, other⟩
    · simp only [serve, result]
      exact .founds ⟨userId, keyId, token, flushed, inserted, written, named, rfl⟩
    · simp only [serve, result]
      cases answer with
      | error exc => exact (write_nil s).symm ▸ .stays rfl rfl
      | ok found =>
        cases found with
        | none => exact (write_nil s).symm ▸ .stays rfl rfl
        | some key => exact absurd rfl (other key)
  | generateKey id username label metadata token =>
    have printed := generateKey_cases hash s.accounts.tables id username label metadata token
    rcases createApiKey_writes hash s.accounts id username ⟨label, metadata⟩ token with
      ⟨after, out, created, step⟩ | ⟨exc, refused⟩
    · rcases printed with same | ⟨exc, -, refused, -⟩
      · simp only [serve, same, created]
        exact .steps step (by simp [write, TaskAnswer.handed]) rfl
      · rw [created] at refused
        cases refused
    · rcases printed with same | ⟨-, other, -, result⟩
      · simp only [serve, same, refused, write_nil]
        exact .stays rfl rfl
      · simp only [serve, result, write_nil]
        exact .stays rfl rfl
  | setUserActive id active =>
    have step : s.accounts.step hash (.setUserActive id active) =
        some (s.write (s.accounts.tables.setUserActive id active) []).accounts := by
      rw [write, List.append_nil]
      rfl
    exact .steps step (by simp [serve, write, TaskAnswer.handed]) rfl
  | setKeyActive id active =>
    have step : s.accounts.step hash (.setKeyActive id active) =
        some (s.write (s.accounts.tables.setKeyActive id active) []).accounts := by
      rw [write, List.append_nil]
      rfl
    exact .steps step (by simp [serve, write, TaskAnswer.handed]) rfl
  | logRequest entry => exact .stays rfl rfl

/-! ### The one administrator -/

def Governed (s : Accounts) : Prop :=
  ∀ user ∈ s.tables.users, user.isAdmin = true → user.username = "admin" ∧ user.email = "admin@ongc.co.in"

theorem createUser_users (tables : Tables) (id : Int) (payload : UserCreate) :
    (createUser tables id payload).1.users = tables.users ∨
      ∃ row : User, row.isAdmin = false ∧ (createUser tables id payload).1.users = tables.users ++ [row] := by
  rw [createUser]
  split
  · split
    next after inserted => exact Or.inr ⟨_, rfl, (Tables.insertUser_rows inserted).1⟩
    next => exact Or.inl rfl
  · exact Or.inl rfl

theorem admins_step {s next : Accounts} {event : AccountEvent} (stepped : s.step hash event = some next) :
    next.tables.users.countP User.isAdmin = s.tables.users.countP User.isAdmin ∧ (Governed s → Governed next) := by
  have kept : next.tables.users = s.tables.users →
      next.tables.users.countP User.isAdmin = s.tables.users.countP User.isAdmin ∧ (Governed s → Governed next) := by
    intro same
    rw [Governed, Governed, same]
    exact ⟨rfl, id⟩
  cases event with
  | createUser id payload =>
    cases stepped
    rcases createUser_users s.tables id payload with same | ⟨row, plain, users⟩
    · exact kept same
    · refine ⟨by simp [users, plain], fun governed user member admin => ?_⟩
      rcases List.mem_append.mp (users ▸ member : user ∈ s.tables.users ++ [row]) with old | new
      · exact governed user old admin
      · rw [List.mem_singleton.mp new, plain] at admin
        cases admin
  | createApiKey id username payload token =>
    apply kept
    rcases createApiKey_writes hash s id username payload token with ⟨after, out, created, step⟩ | ⟨exc, refused⟩
    · rw [step] at stepped
      cases stepped
      rcases createApiKey_cases hash s.tables id username payload token with
        ⟨row, other, wrote, inserted, result, -⟩ | ⟨exc, refused⟩
      · rw [created] at result
        cases result
        exact (Tables.insertKey_rows inserted).2
      · rw [created] at refused
        cases refused
    · simp only [Accounts.step, refused] at stepped
      cases stepped
      rfl
  | requireApiKey authorization now =>
    apply kept
    cases stepped
    rcases requireApiKey_cases hash s.tables authorization now with
      ⟨text, key, user, -, -, -, granted⟩ | ⟨-, detail, refused⟩
    · simp only [granted]
      rfl
    · simp only [refused]
  | setUserActive id active =>
    cases stepped
    refine ⟨?_, fun governed user member admin => ?_⟩
    · show List.countP User.isAdmin (s.tables.users.map _) = _
      rw [List.countP_map]
      refine List.countP_congr fun user _ => ?_
      simp only [Function.comp_apply]
      split <;> rfl
    · obtain ⟨old, present, rfl⟩ := List.mem_map.mp member
      have before := governed old present
      by_cases named : old.id = id
      · simp only [if_pos named] at admin ⊢
        exact before admin
      · simp only [if_neg named] at admin ⊢
        exact before admin
  | setKeyActive id active =>
    cases stepped
    exact kept rfl

theorem Founds.rows {before after : Accounts} {key : KeyCreated} (founds : Founds hash before key after) :
    ∃ userId keyId, after.tables.users = before.tables.users ++ [bootstrapUser userId] ∧
      after.tables.keys = before.tables.keys ++ [bootstrapKey hash keyId userId key.apiKey] ∧
      after.issued = before.issued ++ [⟨keyId, key⟩] := by
  obtain ⟨userId, keyId, token, flushed, inserted, written, -, issued⟩ := founds
  obtain ⟨users, keys⟩ := Tables.insertUser_rows inserted
  obtain ⟨keys', users'⟩ := Tables.insertKey_rows written
  exact ⟨userId, keyId, users'.trans users, keys'.trans (by rw [keys]), issued⟩

theorem Writes.governed {s next : Accounts} {answer : TaskAnswer} (writes : Writes hash s next answer) :
    next.tables.users.countP User.isAdmin =
        s.tables.users.countP User.isAdmin + (if answer.founds then 1 else 0) ∧
      (Governed s → Governed next) := by
  cases writes with
  | stays silent unfounded => simp [unfounded]
  | steps step hands unfounded => simpa [unfounded] using admins_step step
  | founds founds =>
    obtain ⟨userId, keyId, users, -⟩ := founds.rows
    refine ⟨by simp [users, bootstrapUser, TaskAnswer.founds], fun governed user member admin => ?_⟩
    rcases List.mem_append.mp (users ▸ member : user ∈ s.tables.users ++ [bootstrapUser userId]) with old | new
    · exact governed user old admin
    · rw [List.mem_singleton.mp new]
      exact ⟨rfl, rfl⟩

theorem countP_le_one {rows : List User} (distinct : (rows.map User.username).Nodup) {test : User → Bool}
    {username : String} (named : ∀ user ∈ rows, test user = true → user.username = username) :
    rows.countP test ≤ 1 := by
  have some := distinct.sublist ((List.filter_sublist (p := test)).map User.username)
  have same : (rows.filter test).map User.username = List.replicate (rows.countP test) username := by
    rw [List.countP_eq_length_filter]
    refine List.eq_replicate_iff.mpr ⟨List.length_map _, fun name member => ?_⟩
    obtain ⟨user, listed, rfl⟩ := List.mem_map.mp member
    obtain ⟨present, passed⟩ := List.mem_filter.mp listed
    exact named user present passed
  rw [same] at some
  exact List.nodup_replicate.mp some

/-- Whatever the routes and the scripts are called with, the administrators are as many as the bootstraps that have
printed a key, and once there is one a further run of `init_db` writes nothing. -/
theorem administrator_once (adminSecret : String) (hash : KeyHash) (division : TrueDivision) (tasks : List Task) :
    let s := (server adminSecret hash division).after empty tasks
    s.accounts.tables.users.countP User.isAdmin =
        ((server adminSecret hash division).answers empty tasks).countP TaskAnswer.founds ∧
      s.accounts.tables.users.countP User.isAdmin ≤ 1 ∧
      ∀ user ∈ s.accounts.tables.users, user.isAdmin = true →
        user.username = "admin" ∧ user.email = "admin@ongc.co.in" ∧
          ∀ userId keyId token, Scripts.initDb hash s.accounts.tables userId keyId token =
            (s.accounts.tables, .ok none) := by
  intro s
  have keeps : ∀ (s : BackOffice) task, Governed s.accounts →
      Governed ((server adminSecret hash division).serve s task).1.accounts :=
    fun s task before => (serve_writes adminSecret hash division s task).governed.2 before
  have each : ∀ (s : BackOffice) task, Governed s.accounts →
      ((server adminSecret hash division).serve s task).1.accounts.tables.users.countP User.isAdmin =
        s.accounts.tables.users.countP User.isAdmin +
          if ((server adminSecret hash division).serve s task).2.founds then 1 else 0 :=
    fun s task _ => (serve_writes adminSecret hash division s task).governed.1
  have begun : Governed empty.accounts := by
    intro user member
    cases member
  have governed : Governed s.accounts := Server.after_invariant keeps begun tasks
  refine ⟨?_, ?_, ?_⟩
  · have counted := Server.after_count (fun s : BackOffice => s.accounts.tables.users.countP User.isAdmin)
      TaskAnswer.founds keeps each begun tasks
    exact counted.trans (Nat.zero_add _)
  · exact countP_le_one s.accounts.tables.usernames fun user member admin => (governed user member admin).1
  · intro user member admin
    obtain ⟨username, email⟩ := governed user member admin
    refine ⟨username, email, fun userId keyId token => ?_⟩
    have found : (s.accounts.tables.users.find? fun user => user.username = "admin").isSome = true :=
      List.find?_isSome.mpr ⟨user, member, decide_eq_true username⟩
    obtain ⟨other, existing⟩ := Option.isSome_iff_exists.mp found
    rw [Scripts.initDb, existing]

/-! ### The keys that are handed out -/

theorem Writes.registered {s next : Accounts} {answer : TaskAnswer} (writes : Writes hash s next answer)
    (registered : Accounts.Registered hash s) : Accounts.Registered hash next := by
  cases writes with
  | stays => exact registered
  | steps step => exact Accounts.registered_step registered step
  | founds founds =>
    obtain ⟨userId, keyId, token, flushed, inserted, written, named, issued⟩ := founds
    obtain ⟨users, keys⟩ := Tables.insertUser_rows inserted
    obtain ⟨keys', users'⟩ := Tables.insertKey_rows written
    have enrolled : Accounts.Registered hash { s with tables := flushed } := by
      refine registered.of_users keys fun user member => ⟨user, ?_, rfl, rfl⟩
      rw [users]
      exact List.mem_append_left _ member
    obtain ⟨tables, list⟩ := next
    cases issued
    refine enrolled.add keys' users' ?_ (named ▸ Accounts.generateApiKey_ne_empty token)
    refine ⟨rfl, rfl, named ▸ rfl, bootstrapUser userId, ?_, ?_, named ▸ rfl⟩
    · rw [users', users]
      exact List.mem_append_right _ List.mem_cons_self
    · rfl

theorem Writes.hands {s next : Accounts} {answer : TaskAnswer} (writes : Writes hash s next answer) :
    next.issued.map (fun issue => issue.answer.apiKey) =
      s.issued.map (fun issue => issue.answer.apiKey) ++ answer.handed.toList := by
  cases writes with
  | stays silent => rw [silent, Option.toList_none, List.append_nil]
  | steps step hands => exact hands
  | founds founds =>
    obtain ⟨userId, keyId, -, -, issued⟩ := founds.rows
    rw [issued, List.map_append]
    rfl

/-- After anything that the routes and the scripts have done, a header is accepted exactly when it holds a key that one
of their answers has handed out, while the key and its owner are active. -/
theorem credentials_exact (adminSecret : String) (hash : KeyHash) (division : TrueDivision) (tasks : List Task) :
    let s := (server adminSecret hash division).after empty tasks
    s.accounts.issued.map (fun issue => issue.answer.apiKey) =
        ((server adminSecret hash division).answers empty tasks).filterMap TaskAnswer.handed ∧
      ∀ authorization now owner shown,
        (Gateway.requireApiKey hash s.accounts.tables authorization now).2 = .ok (owner, shown) ↔
          ∃ issue, s.accounts.Accepted authorization issue owner ∧ shown = issue.answer.keyPrefix := by
  intro s
  have keeps : ∀ (s : BackOffice) task, Accounts.Registered hash s.accounts →
      Accounts.Registered hash ((server adminSecret hash division).serve s task).1.accounts :=
    fun s task before => (serve_writes adminSecret hash division s task).registered before
  have each : ∀ (s : BackOffice) task, Accounts.Registered hash s.accounts →
      ((server adminSecret hash division).serve s task).1.accounts.issued.map (fun issue => issue.answer.apiKey) =
        s.accounts.issued.map (fun issue => issue.answer.apiKey) ++
          (((server adminSecret hash division).serve s task).2.handed).toList :=
    fun s task _ => (serve_writes adminSecret hash division s task).hands
  have begun : Accounts.Registered hash empty.accounts := Accounts.registered_empty
  have registered : Accounts.Registered hash s.accounts := Server.after_invariant keeps begun tasks
  exact ⟨Server.after_collect (fun s : BackOffice => s.accounts.issued.map fun issue => issue.answer.apiKey)
    TaskAnswer.handed keeps each begun tasks, Accounts.requireApiKey_iff registered⟩

end BackOffice
end LlamacppRay.Gateway
