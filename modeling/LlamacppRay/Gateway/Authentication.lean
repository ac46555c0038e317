import LlamacppRay.Automata.Machine
import LlamacppRay.Gateway.Accounts

/-! Runs of account operations. What `create_api_key` has answered is remembered beside the
tables, which hold the hashes of the keys only. -/

namespace LlamacppRay.Gateway
open LlamacppRay.Automata LlamacppRay.Python

structure Issue where
  keyId : Int
  answer : KeyCreated
  deriving DecidableEq

structure Accounts where
  tables : Tables
  issued : List Issue

inductive AccountEvent where
  | createUser (id : Int) (payload : UserCreate)
  | createApiKey (id : Int) (username : String) (payload : KeyCreate) (token : String)
  | requireApiKey (authorization : Option String) (now : Int)
  | setUserActive (id : Int) (active : Bool)
  | setKeyActive (id : Int) (active : Bool)

namespace Accounts
variable (hash : KeyHash)

def empty : Accounts := ⟨Tables.empty, []⟩

def step (s : Accounts) : AccountEvent → Option Accounts
  | .createUser id payload => some { s with tables := (Gateway.createUser s.tables id payload).1 }
  | .createApiKey id username payload token =>
      match Gateway.createApiKey hash s.tables id username payload token with
      | (tables, .ok answer) => some ⟨tables, s.issued ++ [⟨id, answer⟩]⟩
      | (tables, .error _) => some { s with tables := tables }
  | .requireApiKey authorization now =>
      some { s with tables := (Gateway.requireApiKey hash s.tables authorization now).1 }
  | .setUserActive id active => some { s with tables := s.tables.setUserActive id active }
  | .setKeyActive id active => some { s with tables := s.tables.setKeyActive id active }

def machine : Machine Accounts AccountEvent := ⟨step hash⟩

/-- The header holds a key that was issued for this owner, and both are active now. -/
structure Accepted (s : Accounts) (authorization : Option String) (issue : Issue) (owner : User) : Prop where
  issued : issue ∈ s.issued
  header : ∃ text, authorization = some text ∧ rawKeyOf text = issue.answer.apiKey
  row : ∃ key ∈ s.tables.keys, key.id = issue.keyId ∧ key.isActive = true
  owner_mem : owner ∈ s.tables.users
  owner_name : owner.username = issue.answer.username
  owner_active : owner.isActive = true

/-! ### Issued keys and rows -/

structure Describes (hash : KeyHash) (tables : Tables) (issue : Issue) (key : APIKey) : Prop where
  id : key.id = issue.keyId
  hashed : key.keyHash = hash.hash issue.answer.apiKey
  shown : key.keyPrefix = issue.answer.keyPrefix
  owner : ∃ user ∈ tables.users, user.id = key.userId ∧ user.username = issue.answer.username

/-- Every row was issued and every issued key has its row. -/
structure Registered (s : Accounts) : Prop where
  row : ∀ issue ∈ s.issued, ∃ key ∈ s.tables.keys, Describes hash s.tables issue key
  issue : ∀ key ∈ s.tables.keys, ∃ issue ∈ s.issued, Describes hash s.tables issue key
  filled : ∀ issue ∈ s.issued, issue.answer.apiKey ≠ ""

variable {hash}

theorem registered_empty : Registered hash empty :=
  ⟨by simp [empty], by simp [empty, Tables.empty], by simp [empty]⟩

theorem Describes.of_users {tables after : Tables} {issue : Issue} {key : APIKey}
    (users : ∀ user ∈ tables.users, ∃ user' ∈ after.users, user'.id = user.id ∧ user'.username = user.username)
    (describes : Describes hash tables issue key) : Describes hash after issue key := by
  obtain ⟨user, member, owns, named⟩ := describes.owner
  obtain ⟨user', member', id, username⟩ := users user member
  exact ⟨describes.id, describes.hashed, describes.shown, user', member', id.trans owns, username.trans named⟩

theorem Registered.of_users {s : Accounts} {after : Tables} (registered : Registered hash s)
    (keys : after.keys = s.tables.keys)
    (users : ∀ user ∈ s.tables.users, ∃ user' ∈ after.users, user'.id = user.id ∧ user'.username = user.username) :
    Registered hash { s with tables := after } := by
  refine ⟨?_, ?_, registered.filled⟩
  · intro issue member
    obtain ⟨key, present, describes⟩ := registered.row issue member
    exact ⟨key, keys ▸ present, describes.of_users users⟩
  · intro key member
    obtain ⟨issue, present, describes⟩ := registered.issue key (keys ▸ member)
    exact ⟨issue, present, describes.of_users users⟩

theorem Registered.of_keys {s : Accounts} {after : Tables} {change : APIKey → APIKey}
    (registered : Registered hash s) (users : after.users = s.tables.users)
    (keys : after.keys = s.tables.keys.map change)
    (same : ∀ key, (change key).id = key.id ∧ (change key).keyHash = key.keyHash ∧
      (change key).keyPrefix = key.keyPrefix ∧ (change key).userId = key.userId) :
    Registered hash { s with tables := after } := by
  have moves : ∀ issue key, Describes hash s.tables issue key → Describes hash after issue (change key) := by
    intro issue key describes
    obtain ⟨id, hashed, shown, owner⟩ := same key
    refine ⟨id.trans describes.id, hashed.trans describes.hashed, shown.trans describes.shown, ?_⟩
    rw [users, owner]
    exact describes.owner
  refine ⟨?_, ?_, registered.filled⟩
  · intro issue member
    obtain ⟨key, present, describes⟩ := registered.row issue member
    refine ⟨change key, ?_, moves issue key describes⟩
    change change key ∈ after.keys
    rw [keys]
    exact List.mem_map_of_mem present
  · intro key member
    obtain ⟨old, present, rfl⟩ := List.mem_map.mp (keys ▸ member : key ∈ s.tables.keys.map change)
    obtain ⟨issue, listed, describes⟩ := registered.issue old present
    exact ⟨issue, listed, moves issue old describes⟩

theorem Registered.add {s : Accounts} {after : Tables} {row : APIKey} {issue : Issue} (registered : Registered hash s)
    (keys : after.keys = s.tables.keys ++ [row]) (users : after.users = s.tables.users)
    (described : Describes hash after issue row) (filled : issue.answer.apiKey ≠ "") :
    Registered hash ⟨after, s.issued ++ [issue]⟩ := by
  have moves : ∀ issue key, Describes hash s.tables issue key → Describes hash after issue key :=
    fun issue key describes => describes.of_users fun user member => ⟨user, users ▸ member, rfl, rfl⟩
  refine ⟨?_, ?_, ?_⟩
  · intro other listed
    rcases List.mem_append.mp listed with old | new
    · obtain ⟨key, present, describes⟩ := registered.row other old
      exact ⟨key, keys ▸ List.mem_append_left _ present, moves other key describes⟩
    · rw [List.mem_singleton.mp new]
      exact ⟨row, keys ▸ List.mem_append_right _ List.mem_cons_self, described⟩
  · intro key present
    rcases List.mem_append.mp (keys ▸ present : key ∈ s.tables.keys ++ [row]) with old | new
    · obtain ⟨other, listed, describes⟩ := registered.issue key old
      exact ⟨other, List.mem_append_left _ listed, moves other key describes⟩
    · rw [List.mem_singleton.mp new]
      exact ⟨issue, List.mem_append_right _ List.mem_cons_self, described⟩
  · intro other listed
    rcases List.mem_append.mp listed with old | new
    · exact registered.filled other old
    · rw [List.mem_singleton.mp new]
      exact filled

theorem registered_touch {s : Accounts} (registered : Registered hash s) (id now : Int) :
    Registered hash { s with tables := s.tables.touch id now } := by
  refine registered.of_keys rfl rfl fun key => ?_
  split
  · exact ⟨rfl, rfl, rfl, rfl⟩
  · exact ⟨rfl, rfl, rfl, rfl⟩

theorem generateApiKey_ne_empty (token : String) : generateApiKey token ≠ "" := by
  intro blank
  have lists := congrArg String.toList blank
  simp [generateApiKey] at lists

theorem registered_step {s next : Accounts} {event : AccountEvent} (registered : Registered hash s)
    (stepped : s.step hash event = some next) : Registered hash next := by
  cases event with
  | createUser id payload =>
    cases stepped
    rcases createUser_cases s.tables id payload with ⟨row, out, after, inserted, created⟩ | ⟨exc, refused⟩
    · obtain ⟨users, keys⟩ := Tables.insertUser_rows inserted
      rw [created]
      refine registered.of_users keys fun user member => ⟨user, ?_, rfl, rfl⟩
      rw [users]
      exact List.mem_append_left _ member
    · rw [refused]
      exact registered
  | createApiKey id username payload token =>
    rw [step] at stepped
    rcases createApiKey_cases hash s.tables id username payload token with
      ⟨row, out, after, inserted, created, id_eq, raw, hashed, shown, answered, user, member, owns, named⟩ |
      ⟨exc, refused⟩
    · obtain ⟨keys, users⟩ := Tables.insertKey_rows inserted
      rw [created] at stepped
      cases stepped
      have described : Describes hash after ⟨id, out⟩ row :=
        ⟨id_eq, hashed, answered.symm, user, users ▸ member, owns, named⟩
      exact registered.add keys users described (raw ▸ generateApiKey_ne_empty token)
    · rw [refused] at stepped
      cases stepped
      exact registered
  | requireApiKey authorization now =>
    cases stepped
    rcases requireApiKey_cases hash s.tables authorization now with
      ⟨text, key, user, -, -, -, granted⟩ | ⟨-, detail, refused⟩
    · rw [granted]
      exact registered_touch registered key.id now
    · rw [refused]
      exact registered
  | setUserActive id active =>
    cases stepped
    refine registered.of_users rfl fun user member => ⟨_, List.mem_map_of_mem member, ?_, ?_⟩
    · split <;> rfl
    · split <;> rfl
  | setKeyActive id active =>
    cases stepped
    refine registered.of_keys rfl rfl fun key => ?_
    split
    · exact ⟨rfl, rfl, rfl, rfl⟩
    · exact ⟨rfl, rfl, rfl, rfl⟩

theorem registered_reachable {s : Accounts} {events : List AccountEvent}
    (ran : (machine hash).run empty events = some s) : Registered hash s := by
  have keeps : ∀ state event next, Registered hash state → (machine hash).step state event = some next →
      Registered hash next := fun _ _ _ registered stepped => registered_step registered stepped
  exact Machine.run_invariant keeps registered_empty ran

/-! ### Headers and issued keys -/

theorem accepted_of_matches {s : Accounts} {text : String} {key : APIKey} {owner : User}
    (registered : Registered hash s) (matched : Matches hash s.tables (rawKeyOf text) key owner) :
    ∃ issue, s.Accepted (some text) issue owner ∧ key.id = issue.keyId ∧
      key.keyPrefix = issue.answer.keyPrefix := by
  obtain ⟨issue, listed, describes⟩ := registered.issue key matched.key_mem
  have raw : rawKeyOf text = issue.answer.apiKey :=
    hash.injective (matched.key_hash.symm.trans describes.hashed)
  obtain ⟨user, member, owns, named⟩ := describes.owner
  have same := eq_of_unique s.tables.user_ids matched.user_mem member (matched.owner.trans owns.symm)
  refine ⟨issue, ?_, describes.id, describes.shown⟩
  exact
    { issued := listed
      header := ⟨text, rfl, raw⟩
      row := ⟨key, matched.key_mem, describes.id, matched.key_active⟩
      owner_mem := matched.user_mem
      owner_name := same ▸ named
      owner_active := matched.user_active }

theorem matches_of_accepted {s : Accounts} {authorization : Option String} {issue : Issue} {owner : User}
    (registered : Registered hash s) (accepted : s.Accepted authorization issue owner) :
    ∃ text key, authorization = some text ∧ text ≠ "" ∧ Matches hash s.tables (rawKeyOf text) key owner ∧
      key.keyPrefix = issue.answer.keyPrefix := by
  obtain ⟨text, header, raw⟩ := accepted.header
  obtain ⟨key, present, describes⟩ := registered.row issue accepted.issued
  obtain ⟨active, stored, id, flag⟩ := accepted.row
  have same_key := eq_of_unique s.tables.key_ids stored present (id.trans describes.id.symm)
  obtain ⟨user, member, owns, named⟩ := describes.owner
  have same_user := eq_of_unique s.tables.usernames accepted.owner_mem member
    (accepted.owner_name.trans named.symm)
  refine ⟨text, key, header, ?_, ?_, describes.shown⟩
  · rintro rfl
    have blank : rawKeyOf "" = "" := by decide
    exact registered.filled issue accepted.issued (raw.symm.trans blank)
  · exact
      { key_mem := present
        key_hash := describes.hashed.trans (congrArg hash.hash raw.symm)
        key_active := same_key ▸ flag
        user_mem := accepted.owner_mem
        owner := same_user ▸ owns
        user_active := accepted.owner_active }

theorem requireApiKey_iff {s : Accounts} (registered : Registered hash s) (authorization : Option String)
    (now : Int) (owner : User) (shown : String) :
    (Gateway.requireApiKey hash s.tables authorization now).2 = .ok (owner, shown) ↔
      ∃ issue, s.Accepted authorization issue owner ∧ shown = issue.answer.keyPrefix := by
  constructor
  · intro granted
    rcases requireApiKey_cases hash s.tables authorization now with
      ⟨text, key, user, rfl, -, matched, result⟩ | ⟨-, detail, result⟩
    · rw [result] at granted
      cases granted
      obtain ⟨issue, accepted, -, prefixed⟩ := accepted_of_matches registered matched
      exact ⟨issue, accepted, prefixed⟩
    · rw [result] at granted
      cases granted
  · rintro ⟨issue, accepted, rfl⟩
    obtain ⟨text, key, rfl, filled, matched, prefixed⟩ := matches_of_accepted registered accepted
    rcases requireApiKey_cases hash s.tables (some text) now with
      ⟨other, key', user, same, -, matched', result⟩ | ⟨none, -⟩
    · rw [← Option.some.inj same] at matched'
      have same_key := eq_of_unique s.tables.key_hashes matched'.key_mem matched.key_mem
        (matched'.key_hash.trans matched.key_hash.symm)
      have same_user := eq_of_unique s.tables.user_ids matched'.user_mem matched.user_mem
        (matched'.owner.trans ((congrArg APIKey.userId same_key).trans matched.owner.symm))
      rw [result, same_key, same_user, prefixed]
    · exact absurd matched (none text key owner rfl filled)

/-- A successful authentication stamps the row of the issued key and nothing else. -/
theorem requireApiKey_writes {s : Accounts} (registered : Registered hash s) {authorization : Option String}
    {now : Int} {granted : User × String}
    (success : (Gateway.requireApiKey hash s.tables authorization now).2 = .ok granted) :
    ∃ issue, s.Accepted authorization issue granted.1 ∧
      (Gateway.requireApiKey hash s.tables authorization now).1.users = s.tables.users ∧
      (Gateway.requireApiKey hash s.tables authorization now).1.keys = s.tables.keys.map fun key =>
        if key.id = issue.keyId then { key with lastUsedAt := some now } else key := by
  rcases requireApiKey_cases hash s.tables authorization now with
    ⟨text, key, user, rfl, -, matched, result⟩ | ⟨-, detail, result⟩
  · rw [result] at success ⊢
    cases success
    obtain ⟨issue, accepted, id, -⟩ := accepted_of_matches registered matched
    exact ⟨issue, accepted, rfl, by rw [← id]; rfl⟩
  · rw [result] at success
    cases success

/-- After any run of account operations a header is accepted exactly when it holds a key that was issued and whose row
and owner are both active. A refusal writes nothing, a successful authentication one time stamp. -/
theorem authentication_exact (hash : KeyHash) (events : List AccountEvent) (s : Accounts)
    (ran : (machine hash).run empty events = some s) :
    (∀ authorization now owner shown,
      (Gateway.requireApiKey hash s.tables authorization now).2 = .ok (owner, shown) ↔
        ∃ issue, s.Accepted authorization issue owner ∧ shown = issue.answer.keyPrefix) ∧
    ((s.tables.users.map User.username).Nodup ∧ (s.tables.users.map User.email).Nodup ∧
      (s.tables.keys.map APIKey.keyHash).Nodup ∧
      ∀ key ∈ s.tables.keys, ∃ user ∈ s.tables.users, user.id = key.userId) ∧
    (∀ id payload exc, (Gateway.createUser s.tables id payload).2 = .error exc →
      (Gateway.createUser s.tables id payload).1 = s.tables) ∧
    (∀ authorization now exc, (Gateway.requireApiKey hash s.tables authorization now).2 = .error exc →
      (Gateway.requireApiKey hash s.tables authorization now).1 = s.tables) ∧
    (∀ authorization now granted, (Gateway.requireApiKey hash s.tables authorization now).2 = .ok granted →
      ∃ issue, s.Accepted authorization issue granted.1 ∧
        (Gateway.requireApiKey hash s.tables authorization now).1.users = s.tables.users ∧
        (Gateway.requireApiKey hash s.tables authorization now).1.keys = s.tables.keys.map fun key =>
          if key.id = issue.keyId then { key with lastUsedAt := some now } else key) := by
  have registered := registered_reachable ran
  refine ⟨requireApiKey_iff registered, ?_, ?_, ?_, ?_⟩
  · exact ⟨s.tables.usernames, s.tables.emails, s.tables.key_hashes, s.tables.owned⟩
  · intro id payload exc failed
    rcases createUser_cases s.tables id payload with ⟨row, out, after, -, created⟩ | ⟨exc, refused⟩
    · rw [created] at failed
      cases failed
    · rw [refused]
  · intro authorization now exc failed
    rcases requireApiKey_cases hash s.tables authorization now with
      ⟨text, key, user, -, -, -, granted⟩ | ⟨-, detail, refused⟩
    · rw [granted] at failed
      cases failed
    · rw [refused]
  · exact fun authorization now granted success => requireApiKey_writes registered success

def sampleKey : String := "sk-ongc-Zq3vT0aXk9LmPw2sRb7Ud1Ye5Hf8Jc4Ng6Vi0Ot2Qxs"

/-- The real digest of one key; other keys are only marked. -/
def sampleHash : KeyHash where
  hash raw :=
    if raw = sampleKey then "66c49438e8db918d79e6367bc194fc140c2663bba1840d985bfdc8162974620e"
    else "~" ++ raw
  injective := by
    have marked (raw digest : String) (other : digest.toList.head? ≠ some '~') : digest ≠ "~" ++ raw := by
      rintro rfl
      simp at other
    intro first second same
    dsimp only at same
    split_ifs at same with left right right
    · exact left.trans right.symm
    · exact absurd same (marked second _ (by decide))
    · exact absurd same.symm (marked first _ (by decide))
    · simpa using same

def ravi : User := ⟨1, "ravi", "ravi@ongc.co.in", "IT", true, false⟩

def sampleIssue : Issue := ⟨1, ⟨"ravi", sampleKey, "sk-ongc-Zq3v", "default", none⟩⟩

def sampleRun : List AccountEvent :=
  [.createUser 1 ⟨"ravi", "ravi@ongc.co.in", "IT"⟩,
    .createApiKey 1 "ravi" {} "Zq3vT0aXk9LmPw2sRb7Ud1Ye5Hf8Jc4Ng6Vi0Ot2Qxs"]

theorem authentication_exact_run :
    ∃ s, (machine sampleHash).run empty sampleRun = some s ∧
      (Gateway.requireApiKey sampleHash s.tables (some ("Bearer  " ++ sampleKey ++ " ")) 5).2 =
        .ok (ravi, "sk-ongc-Zq3v") := by
  have passed : ((machine sampleHash).run empty sampleRun).any (fun s => decide (sampleIssue ∈ s.issued ∧
      (∃ key ∈ s.tables.keys, key.id = 1 ∧ key.isActive = true) ∧ ravi ∈ s.tables.users)) = true := by
    decide +kernel
  obtain ⟨s, ran, found⟩ := Machine.run_of_any _ passed
  obtain ⟨listed, row, member⟩ := of_decide_eq_true found
  refine ⟨s, ran, ((authentication_exact sampleHash _ s ran).1 _ 5 ravi _).mpr ⟨sampleIssue, ?_, rfl⟩⟩
  exact
    { issued := listed
      header := ⟨_, rfl, by decide +kernel⟩
      row := row
      owner_mem := member
      owner_name := rfl
      owner_active := rfl }

end Accounts
end LlamacppRay.Gateway
