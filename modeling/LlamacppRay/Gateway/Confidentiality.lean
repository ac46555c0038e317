import LlamacppRay.Gateway.Listings

/-! The digests of the keys do not show: two back offices that hash the keys differently answer alike. -/

namespace LlamacppRay.Gateway
open LlamacppRay.Automata LlamacppRay.Python LlamacppRay.Scripts

/-! ### Tables that differ in their digests -/

section
variable (first second : KeyHash)

/-- The same row but for the digest, which is that of the same raw key. -/
def SameKey (key key' : APIKey) : Prop :=
  ∃ raw, key = { key' with keyHash := first.hash raw } ∧ key'.keyHash = second.hash raw

structure Tables.Alike (left right : Tables) : Prop where
  users : left.users = right.users
  keys : List.Forall₂ (SameKey first second) left.keys right.keys

end

section
variable {first second : KeyHash} {left right : Tables} {key key' : APIKey}

theorem SameKey.symm (same : SameKey first second key key') : SameKey second first key' key := by
  obtain ⟨raw, rfl, hashed⟩ := same
  refine ⟨raw, ?_, rfl⟩
  rw [← hashed]

theorem Tables.Alike.symm (alike : Tables.Alike first second left right) : Tables.Alike second first right left :=
  ⟨alike.users.symm, alike.keys.flip.imp fun _ _ same => SameKey.symm same⟩

theorem Tables.Alike.map {α : Type*} (alike : Tables.Alike first second left right) {f : APIKey → α}
    (blind : ∀ (key : APIKey) hashed, f { key with keyHash := hashed } = f key) :
    left.keys.map f = right.keys.map f := by
  have same : List.Forall₂ (fun key key' => f key = f key') left.keys right.keys := by
    refine alike.keys.imp fun key key' same => ?_
    obtain ⟨raw, rfl, -⟩ := same
    exact blind key' _
  have mapped := List.forall₂_map_left_iff.mpr (List.forall₂_map_right_iff.mpr same)
  exact List.forall₂_eq_eq_eq ▸ mapped

theorem Tables.Alike.mem (alike : Tables.Alike first second left right) (member : key ∈ left.keys) :
    ∃ key' ∈ right.keys, SameKey first second key key' := by
  obtain ⟨index, bound, rfl⟩ := List.getElem_of_mem member
  have bound' : index < right.keys.length := alike.keys.length_eq ▸ bound
  exact ⟨_, List.getElem_mem bound', (List.forall₂_iff_get.mp alike.keys).2 index bound bound'⟩

theorem Tables.Alike.hash_mem (alike : Tables.Alike first second left right) {raw : String}
    (taken : first.hash raw ∈ left.keys.map APIKey.keyHash) : second.hash raw ∈ right.keys.map APIKey.keyHash := by
  obtain ⟨key, member, hashed⟩ := List.mem_map.mp taken
  obtain ⟨key', member', other, rfl, hashed'⟩ := alike.mem member
  rw [← first.injective hashed]
  exact List.mem_map.mpr ⟨key', member', hashed'⟩

def Insertions (first second : KeyHash) (left right : Option Tables) : Prop :=
  (left = none ∧ right = none) ∨
    ∃ after after', left = some after ∧ right = some after' ∧ Tables.Alike first second after after'

theorem Tables.Alike.insertUser (alike : Tables.Alike first second left right) (row : User) :
    Insertions first second (left.insertUser row) (right.insertUser row) := by
  rw [Tables.insertUser, Tables.insertUser]
  simp only [alike.users]
  split
  next fresh => exact Or.inr ⟨_, _, rfl, rfl, rfl, alike.keys⟩
  next => exact Or.inl ⟨rfl, rfl⟩

theorem Tables.Alike.fresh (alike : Tables.Alike first second left right) (same : SameKey first second key key')
    (fresh : key.id ∉ left.keys.map APIKey.id ∧ key.keyHash ∉ left.keys.map APIKey.keyHash ∧
      key.userId ∈ left.users.map User.id) :
    key'.id ∉ right.keys.map APIKey.id ∧ key'.keyHash ∉ right.keys.map APIKey.keyHash ∧
      key'.userId ∈ right.users.map User.id := by
  obtain ⟨raw, rfl, hashed⟩ := same
  obtain ⟨id, unseen, owned⟩ := fresh
  refine ⟨alike.map (f := APIKey.id) (fun _ _ => rfl) ▸ id, fun taken => unseen ?_, alike.users ▸ owned⟩
  exact alike.symm.hash_mem (hashed ▸ taken)

theorem Tables.Alike.insertKey (alike : Tables.Alike first second left right) (same : SameKey first second key key') :
    Insertions first second (left.insertKey key) (right.insertKey key') := by
  by_cases fresh : key.id ∉ left.keys.map APIKey.id ∧ key.keyHash ∉ left.keys.map APIKey.keyHash ∧
      key.userId ∈ left.users.map User.id
  · rw [Tables.insertKey, Tables.insertKey, dif_pos fresh, dif_pos (alike.fresh same fresh)]
    exact Or.inr ⟨_, _, rfl, rfl, alike.users, List.rel_append alike.keys (.cons same .nil)⟩
  · have stale := fun fresh' => fresh (alike.symm.fresh same.symm fresh')
    rw [Tables.insertKey, Tables.insertKey, dif_neg fresh, dif_neg stale]
    exact Or.inl ⟨rfl, rfl⟩

theorem Tables.Alike.changeKeys {change : APIKey → APIKey} {after after' : Tables}
    (alike : Tables.Alike first second left right) (keys : after.keys = left.keys.map change)
    (keys' : after'.keys = right.keys.map change) (users : after.users = left.users) (users' : after'.users = right.users)
    (blind : ∀ (key : APIKey) hashed, change { key with keyHash := hashed } = { change key with keyHash := hashed })
    (kept : ∀ key, (change key).keyHash = key.keyHash) : Tables.Alike first second after after' := by
  refine ⟨by rw [users, users', alike.users], ?_⟩
  rw [keys, keys', List.forall₂_map_left_iff, List.forall₂_map_right_iff]
  refine alike.keys.imp fun key key' same => ?_
  obtain ⟨raw, rfl, hashed⟩ := same
  exact ⟨raw, blind key' _, (kept key').trans hashed⟩

/-! ### The handlers -/

def Answers (first second : KeyHash) {α : Type*} (served served' : Tables × α) : Prop :=
  served.2 = served'.2 ∧ Tables.Alike first second served.1 served'.1

theorem Tables.Alike.createUser (alike : Tables.Alike first second left right) (id : Int) (payload : UserCreate) :
    Answers first second (createUser left id payload) (createUser right id payload) := by
  rw [Gateway.createUser, Gateway.createUser]
  split
  · rcases alike.insertUser ⟨id, payload.username, payload.email, payload.department, true, false⟩ with
      ⟨refused, refused'⟩ | ⟨after, after', inserted, inserted', later⟩
    · simp only [refused, refused']
      exact ⟨rfl, alike⟩
    · simp only [inserted, inserted']
      exact ⟨rfl, later⟩
  · exact ⟨rfl, alike⟩

theorem Tables.Alike.getUserByUsername (alike : Tables.Alike first second left right) (username : String) :
    getUserByUsername left username = getUserByUsername right username := by
  rw [Gateway.getUserByUsername, Gateway.getUserByUsername, alike.users]

/-- The digests fit into their column or do not, whichever of the two hashes has made them. -/
def FitAlike (first second : KeyHash) : Prop :=
  ∀ raw, (first.hash raw).length ≤ 128 ↔ (second.hash raw).length ≤ 128

theorem FitAlike.fits (fit : FitAlike first second) (key : APIKey) (raw : String) :
    { key with keyHash := first.hash raw }.fits = { key with keyHash := second.hash raw }.fits := by
  simp only [APIKey.fits, fit raw]

theorem Tables.Alike.createApiKey (alike : Tables.Alike first second left right) (fit : FitAlike first second) (id : Int)
    (username : String) (payload : KeyCreate) (token : String) :
    Answers first second (createApiKey first left id username payload token)
      (createApiKey second right id username payload token) := by
  rw [Gateway.createApiKey, Gateway.createApiKey, alike.getUserByUsername username]
  cases Gateway.getUserByUsername right username with
  | error exc => exact ⟨rfl, alike⟩
  | ok user =>
    have same : SameKey first second
        ⟨id, user.id, first.hash (generateApiKey token), take 12 (generateApiKey token), payload.label,
          payload.metadata, true, none⟩
        ⟨id, user.id, second.hash (generateApiKey token), take 12 (generateApiKey token), payload.label,
          payload.metadata, true, none⟩ := ⟨_, rfl, rfl⟩
    have fits := fit.fits ⟨id, user.id, "", take 12 (generateApiKey token), payload.label, payload.metadata, true, none⟩
      (generateApiKey token)
    rcases alike.insertKey same with ⟨refused, refused'⟩ | ⟨after, after', inserted, inserted', later⟩
    · simp only [fits, refused, refused']
      split <;> exact ⟨rfl, alike⟩
    · simp only [fits, inserted, inserted']
      split
      · exact ⟨rfl, later⟩
      · exact ⟨rfl, alike⟩

theorem Tables.Alike.initDb (alike : Tables.Alike first second left right) (fit : FitAlike first second)
    (userId keyId : Int) (token : String) :
    Answers first second (initDb first left userId keyId token) (initDb second right userId keyId token) := by
  rw [Scripts.initDb, Scripts.initDb, alike.users]
  split
  · exact ⟨rfl, alike⟩
  · rcases alike.insertUser (bootstrapUser userId) with ⟨refused, refused'⟩ | ⟨flushed, flushed', wrote, wrote', later⟩
    · simp only [refused, refused']
      exact ⟨rfl, alike⟩
    · have same : SameKey first second (bootstrapKey first keyId userId (generateApiKey token))
          (bootstrapKey second keyId userId (generateApiKey token)) := ⟨_, rfl, rfl⟩
      have fits : (bootstrapKey first keyId userId (generateApiKey token)).fits =
          (bootstrapKey second keyId userId (generateApiKey token)).fits :=
        fit.fits (bootstrapKey first keyId userId (generateApiKey token)) (generateApiKey token)
      simp only [wrote, wrote', fits]
      split
      · rcases later.insertKey same with ⟨refused, refused'⟩ | ⟨after, after', inserted, inserted', last⟩
        · simp only [refused, refused']
          exact ⟨rfl, alike⟩
        · simp only [inserted, inserted']
          exact ⟨rfl, last⟩
      · exact ⟨rfl, alike⟩

theorem Tables.Alike.generateKey (alike : Tables.Alike first second left right) (fit : FitAlike first second) (id : Int)
    (username label : String) (metadata : Option String) (token : String) :
    Answers first second (generateKey first left id username label metadata token)
      (generateKey second right id username label metadata token) := by
  obtain ⟨same, later⟩ := alike.createApiKey fit id username ⟨label, metadata⟩ token
  exact ⟨congrArg (exited username) same, later⟩

theorem Tables.Alike.matches (alike : Tables.Alike first second left right) {rawKey : String} {user : User}
    (matched : Matches first left rawKey key user) :
    ∃ key', Matches second right rawKey key' user ∧ SameKey first second key key' := by
  obtain ⟨key', member, raw, rfl, hashed⟩ := alike.mem matched.key_mem
  have one : raw = rawKey := first.injective matched.key_hash
  subst one
  exact ⟨key', ⟨member, hashed, matched.key_active, alike.users ▸ matched.user_mem, matched.owner, matched.user_active⟩,
    raw, rfl, hashed⟩

theorem Tables.Alike.touch (alike : Tables.Alike first second left right) (id now : Int) :
    Tables.Alike first second (left.touch id now) (right.touch id now) := by
  refine alike.changeKeys rfl rfl rfl rfl (fun key hashed => ?_) fun key => ?_
  · dsimp only
    split <;> rfl
  · split <;> rfl

theorem Tables.Alike.validateKeyAgainstDb (alike : Tables.Alike first second left right) (rawKey : String) (now : Int) :
    (∃ key key' user, SameKey first second key key' ∧
      validateKeyAgainstDb first left rawKey now =
        (left.touch key.id now, .ok (some ({ key with lastUsedAt := some now }, user))) ∧
      validateKeyAgainstDb second right rawKey now =
        (right.touch key'.id now, .ok (some ({ key' with lastUsedAt := some now }, user)))) ∨
    (validateKeyAgainstDb first left rawKey now = (left, .ok none) ∧
      validateKeyAgainstDb second right rawKey now = (right, .ok none)) := by
  rcases validate_cases first left rawKey now with ⟨key, user, matched, found⟩ | ⟨unmatched, found⟩
  · obtain ⟨key', matched', same⟩ := alike.matches matched
    rcases validate_cases second right rawKey now with ⟨row, account, other, found'⟩ | ⟨unmatched, -⟩
    · have one := eq_of_unique right.key_hashes other.key_mem matched'.key_mem
        (other.key_hash.trans matched'.key_hash.symm)
      subst one
      have owner := eq_of_unique right.user_ids other.user_mem matched'.user_mem
        (other.owner.trans matched'.owner.symm)
      subst owner
      exact Or.inl ⟨key, row, account, same, found, found'⟩
    · exact absurd matched' (unmatched key' user)
  · rcases validate_cases second right rawKey now with ⟨row, account, other, -⟩ | ⟨-, found'⟩
    · obtain ⟨key, matched, -⟩ := alike.symm.matches other
      exact absurd matched (unmatched key account)
    · exact Or.inr ⟨found, found'⟩

theorem Tables.Alike.requireApiKey (alike : Tables.Alike first second left right) (authorization : Option String)
    (now : Int) :
    Answers first second (requireApiKey first left authorization now) (requireApiKey second right authorization now) := by
  cases authorization with
  | none => exact ⟨rfl, alike⟩
  | some text =>
    by_cases blank : text = ""
    · simp only [Gateway.requireApiKey, if_pos blank]
      exact ⟨rfl, alike⟩
    · simp only [Gateway.requireApiKey, if_neg blank]
      rcases alike.validateKeyAgainstDb (rawKeyOf text) now with ⟨key, key', user, same, found, found'⟩ | ⟨found, found'⟩
      · obtain ⟨raw, rfl, hashed⟩ := same
        rw [found, found']
        exact ⟨rfl, alike.touch key'.id now⟩
      · rw [found, found']
        exact ⟨rfl, alike⟩

/-! ### The reports -/

theorem keysWithUsers_map (tables : Tables) :
    (keysWithUsers tables).map BackOffice.keyListed = tables.keys.flatMap fun key =>
      (tables.users.filter fun user => key.userId = user.id).map fun user => BackOffice.keyListed (key, user) := by
  rw [keysWithUsers, List.map_flatMap]
  refine List.flatMap_congr fun key _ => ?_
  rw [List.map_map]
  rfl

theorem Tables.Alike.listKeys (alike : Tables.Alike first second left right) : listKeys left = listKeys right := by
  have sorted : ∀ tables : Tables, Gateway.listKeys tables =
      ((keysWithUsers tables).map BackOffice.keyListed).insertionSort fun line other => line.id ≤ other.id :=
    fun tables => List.map_insertionSort _ _ _ _ fun _ _ _ _ => Iff.rfl
  have joined : (keysWithUsers left).map BackOffice.keyListed = (keysWithUsers right).map BackOffice.keyListed := by
    rw [keysWithUsers_map, keysWithUsers_map, alike.users, List.flatMap_def, List.flatMap_def]
    exact congrArg List.flatten (alike.map fun _ _ => rfl)
  rw [sorted, sorted, joined]

theorem Tables.Alike.administer (alike : Tables.Alike first second left right) (fit : FitAlike first second)
    (division : TrueDivision) (logs : List LogEntry) (request : AdminRequest) :
    Answers first second (administer first division left logs request) (administer second division right logs request) := by
  cases request with
  | listUsers => exact ⟨by simp only [Gateway.administer, listUsers, alike.users], alike⟩
  | createUser id payload =>
    obtain ⟨same, later⟩ := alike.createUser id payload
    exact ⟨congrArg (Except.map AdminAnswer.userCreated) same, later⟩
  | createApiKey id username payload token =>
    obtain ⟨same, later⟩ := alike.createApiKey fit id username payload token
    exact ⟨congrArg (Except.map AdminAnswer.keyCreated) same, later⟩
  | userUsage username => exact ⟨by simp only [Gateway.administer, userUsage, alike.getUserByUsername], alike⟩
  | listKeys => exact ⟨by simp only [Gateway.administer, alike.listKeys], alike⟩
  | adminMetrics =>
    refine ⟨?_, alike⟩
    simp only [Gateway.administer, adminMetrics, alike.users, alike.keys.length_eq]

end

/-! ### Whole runs -/

namespace BackOffice

/-- Two back offices with the same rows but for the digests. -/
structure Alike (first second : KeyHash) (left right : BackOffice) : Prop where
  tables : Tables.Alike first second left.accounts.tables right.accounts.tables
  logs : left.logs = right.logs

variable {first second : KeyHash} {left right : BackOffice}

theorem Alike.serve (alike : Alike first second left right) (fit : FitAlike first second) (adminSecret : String)
    (division : TrueDivision) (task : Task) :
    (serve adminSecret first division left task).2 = (serve adminSecret second division right task).2 ∧
      Alike first second (serve adminSecret first division left task).1
        (serve adminSecret second division right task).1 := by
  obtain ⟨tables, logs⟩ := alike
  cases task with
  | admin xAdminSecret request =>
    simp only [BackOffice.serve, adminRoute, ← logs]
    cases requireAdminSecret adminSecret xAdminSecret with
    | error exc => exact ⟨rfl, tables, logs⟩
    | ok =>
      obtain ⟨same, later⟩ := tables.administer fit division left.logs request
      exact ⟨congrArg TaskAnswer.admin same, later, logs⟩
  | requireApiKey authorization now =>
    obtain ⟨same, later⟩ := tables.requireApiKey authorization now
    exact ⟨congrArg TaskAnswer.authenticated same, later, logs⟩
  | initDb userId keyId token =>
    have answers := tables.initDb fit userId keyId token
    simp only [BackOffice.serve]
    generalize Scripts.initDb first left.accounts.tables userId keyId token = served at answers
    generalize Scripts.initDb second right.accounts.tables userId keyId token = served' at answers
    obtain ⟨after, answer⟩ := served
    obtain ⟨after', answer'⟩ := served'
    obtain ⟨rfl, later⟩ := answers
    cases answer with
    | error exc => exact ⟨rfl, later, logs⟩
    | ok found => cases found <;> exact ⟨rfl, later, logs⟩
  | generateKey id username label metadata token =>
    have answers := tables.generateKey fit id username label metadata token
    simp only [BackOffice.serve]
    generalize Scripts.generateKey first left.accounts.tables id username label metadata token = served at answers
    generalize Scripts.generateKey second right.accounts.tables id username label metadata token = served' at answers
    obtain ⟨after, answer⟩ := served
    obtain ⟨after', answer'⟩ := served'
    obtain ⟨rfl, later⟩ := answers
    cases answer <;> exact ⟨rfl, later, logs⟩
  | setUserActive id active =>
    refine ⟨rfl, ⟨?_, tables.keys⟩, logs⟩
    exact congrArg (List.map _) tables.users
  | setKeyActive id active =>
    refine ⟨rfl, tables.changeKeys rfl rfl rfl rfl (fun key hashed => ?_) fun key => ?_, logs⟩
    · dsimp only
      split <;> rfl
    · split <;> rfl
  | logRequest entry => exact ⟨rfl, tables, congrArg (· ++ [entry]) logs⟩

/-- With any two hashes all answers are the same, whatever is asked of the routes, the scripts and the
authentication: nothing of a digest gets out. -/
theorem answers_without_digests {first second : KeyHash} (fit : FitAlike first second) (adminSecret : String)
    (division : TrueDivision) (tasks : List Task) :
    (server adminSecret first division).answers empty tasks =
      (server adminSecret second division).answers empty tasks := by
  have begun : Alike first second empty empty := ⟨⟨rfl, .nil⟩, rfl⟩
  exact (Server.answers_eq_of_related (fun _ _ task alike => alike.serve fit adminSecret division task) begun tasks).1

def markHash : KeyHash where
  hash raw := "~" ++ raw
  injective := fun _ _ same => by simpa using same

theorem answers_without_digests_run :
    (server "changeme" Accounts.sampleHash .exact).answers empty
        [.initDb 1 1 "Zq3vT0aXk9LmPw2sRb7Ud1Ye5Hf8Jc4Ng6Vi0Ot2Qxs", .requireApiKey (some Accounts.sampleKey) 5] =
      (server "changeme" markHash .exact).answers empty
        [.initDb 1 1 "Zq3vT0aXk9LmPw2sRb7Ud1Ye5Hf8Jc4Ng6Vi0Ot2Qxs", .requireApiKey (some Accounts.sampleKey) 5] := by
  refine answers_without_digests (fun raw => ?_) "changeme" .exact _
  by_cases known : raw = Accounts.sampleKey
  · subst known
    decide
  · simp only [Accounts.sampleHash, markHash, if_neg known]

end BackOffice
end LlamacppRay.Gateway
