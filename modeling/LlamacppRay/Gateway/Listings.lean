import LlamacppRay.Gateway.BackOffice

/-! What the list of the keys shows, against what has been issued. -/

namespace LlamacppRay.Gateway
open LlamacppRay.Automata LlamacppRay.Python LlamacppRay.Scripts

/-! ### The join -/

theorem forall₂_flatMap {α β : Type*} {rows : List α} {f : α → List β} {related : α → β → Prop}
    (each : ∀ row ∈ rows, ∃ entry, f row = [entry] ∧ related row entry) :
    List.Forall₂ related rows (rows.flatMap f) := by
  induction rows with
  | nil => exact .nil
  | cons row rest ih =>
    obtain ⟨entry, single, here⟩ := each row List.mem_cons_self
    rw [List.flatMap_cons, single]
    exact .cons here (ih fun other member => each other (List.mem_cons_of_mem row member))

theorem forall₂_trans {α β γ : Type*} {r : α → β → Prop} {p : β → γ → Prop} {q : α → γ → Prop}
    (link : ∀ a b c, r a b → p b c → q a c) {as : List α} {bs : List β} {cs : List γ} (left : List.Forall₂ r as bs)
    (right : List.Forall₂ p bs cs) : List.Forall₂ q as cs := by
  induction left generalizing cs with
  | nil => cases right; exact .nil
  | cons first _ ih =>
    cases right with
    | cons second rest => exact .cons (link _ _ _ first second) (ih rest)

theorem keysWithUsers_forall₂ (tables : Tables) :
    List.Forall₂ (fun key entry => entry.1 = key ∧ entry.2 ∈ tables.users ∧ entry.2.id = key.userId)
      tables.keys (keysWithUsers tables) := by
  refine forall₂_flatMap fun key member => ?_
  obtain ⟨owner, present, owns⟩ := tables.owned key member
  have only : ∀ user : User, decide (key.userId = user.id) = true → user.id = key.userId :=
    fun _ test => (of_decide_eq_true test).symm
  rcases filter_unique tables.user_ids only with missing | ⟨user, listed, test, found⟩
  · have test := List.filter_eq_nil_iff.mp missing owner present
    exact absurd (decide_eq_true owns.symm) test
  · refine ⟨(key, user), ?_, rfl, listed, only user test⟩
    rw [found, List.map_singleton]

namespace BackOffice
variable {adminSecret : String} {hash : KeyHash} {division : TrueDivision}

/-! ### Lines and keys -/

/-- What a line of the list says of a key and not of its state. -/
structure KeyLine where
  id : Int
  username : String
  keyPrefix : String
  label : String
  metadata : Option String

def lineOf (line : KeyListed) : KeyLine := ⟨line.id, line.username, line.keyPrefix, line.label, line.metadata⟩

def issueLine (issue : Issue) : KeyLine :=
  ⟨issue.keyId, issue.answer.username, issue.answer.keyPrefix, issue.answer.label, issue.answer.metadata⟩

structure Recorded (users : List User) (issue : Issue) (key : APIKey) : Prop where
  id : key.id = issue.keyId
  shown : key.keyPrefix = issue.answer.keyPrefix
  label : key.label = issue.answer.label
  metadata : key.metadataText = issue.answer.metadata
  owner : ∃ user ∈ users, user.id = key.userId ∧ user.username = issue.answer.username

/-- The rows are those of the issued keys, in the order in which they were issued. -/
def Kept (s : Accounts) : Prop := List.Forall₂ (Recorded s.tables.users) s.issued s.tables.keys

theorem Recorded.of_users {users after : List User} {issue : Issue} {key : APIKey}
    (kept : ∀ user ∈ users, ∃ user' ∈ after, user'.id = user.id ∧ user'.username = user.username)
    (recorded : Recorded users issue key) : Recorded after issue key := by
  obtain ⟨user, member, owns, named⟩ := recorded.owner
  obtain ⟨user', member', id, username⟩ := kept user member
  exact { recorded with owner := ⟨user', member', id.trans owns, username.trans named⟩ }

theorem Kept.of_users {s : Accounts} {after : Tables} (kept : Kept s) (keys : after.keys = s.tables.keys)
    (users : ∀ user ∈ s.tables.users, ∃ user' ∈ after.users, user'.id = user.id ∧ user'.username = user.username) :
    Kept { s with tables := after } := by
  show List.Forall₂ (Recorded after.users) s.issued after.keys
  rw [keys]
  exact List.Forall₂.imp (fun _ _ recorded => recorded.of_users users) kept

theorem Kept.of_keys {s : Accounts} {after : Tables} {change : APIKey → APIKey} (kept : Kept s)
    (users : after.users = s.tables.users) (keys : after.keys = s.tables.keys.map change)
    (same : ∀ key, (change key).id = key.id ∧ (change key).keyPrefix = key.keyPrefix ∧
      (change key).label = key.label ∧ (change key).metadataText = key.metadataText ∧
      (change key).userId = key.userId) : Kept { s with tables := after } := by
  show List.Forall₂ (Recorded after.users) s.issued after.keys
  rw [keys, users, List.forall₂_map_right_iff]
  refine List.Forall₂.imp (fun issue key recorded => ?_) kept
  obtain ⟨id, shown, label, metadata, userId⟩ := same key
  exact ⟨id.trans recorded.id, shown.trans recorded.shown, label.trans recorded.label,
    metadata.trans recorded.metadata, userId ▸ recorded.owner⟩

theorem Kept.add {s : Accounts} {after : Tables} {row : APIKey} {issue : Issue} (kept : Kept s)
    (keys : after.keys = s.tables.keys ++ [row]) (users : after.users = s.tables.users)
    (recorded : Recorded after.users issue row) : Kept ⟨after, s.issued ++ [issue]⟩ := by
  show List.Forall₂ (Recorded after.users) (s.issued ++ [issue]) after.keys
  rw [keys]
  refine List.rel_append (R := Recorded after.users) ?_ (.cons recorded .nil)
  rw [users]
  exact kept

theorem createApiKey_recorded {tables after : Tables} {id : Int} {username : String} {payload : KeyCreate}
    {token : String} {out : KeyCreated} (created : createApiKey hash tables id username payload token = (after, .ok out)) :
    ∃ row, after.keys = tables.keys ++ [row] ∧ after.users = tables.users ∧ Recorded tables.users ⟨id, out⟩ row := by
  rw [createApiKey] at created
  cases found : getUserByUsername tables username with
  | error exc => simp [found] at created
  | ok user =>
    have member := getUserByUsername_mem found
    simp only [found] at created
    split at created
    · split at created
      next inserted =>
        obtain ⟨keys, users⟩ := Tables.insertKey_rows inserted
        cases created
        exact ⟨_, keys, users, rfl, rfl, rfl, rfl, user, member, rfl, rfl⟩
      next => cases created
    · cases created

theorem kept_step {s next : Accounts} {event : AccountEvent} (kept : Kept s)
    (stepped : s.step hash event = some next) : Kept next := by
  cases event with
  | createUser id payload =>
    cases stepped
    rcases createUser_cases s.tables id payload with ⟨row, out, after, inserted, created⟩ | ⟨exc, refused⟩
    · obtain ⟨users, keys⟩ := Tables.insertUser_rows inserted
      rw [created]
      refine kept.of_users keys fun user member => ⟨user, ?_, rfl, rfl⟩
      rw [users]
      exact List.mem_append_left _ member
    · rw [refused]
      exact kept
  | createApiKey id username payload token =>
    rcases createApiKey_writes hash s id username payload token with ⟨after, out, created, step⟩ | ⟨exc, refused⟩
    · rw [step] at stepped
      cases stepped
      obtain ⟨row, keys, users, recorded⟩ := createApiKey_recorded created
      exact kept.add keys users (users ▸ recorded)
    · simp only [Accounts.step, refused] at stepped
      cases stepped
      exact kept
  | requireApiKey authorization now =>
    cases stepped
    rcases requireApiKey_cases hash s.tables authorization now with
      ⟨text, key, user, -, -, -, granted⟩ | ⟨-, detail, refused⟩
    · rw [granted]
      refine kept.of_keys rfl rfl fun row => ?_
      split <;> exact ⟨rfl, rfl, rfl, rfl, rfl⟩
    · rw [refused]
      exact kept
  | setUserActive id active =>
    cases stepped
    refine kept.of_users rfl fun user member => ⟨_, List.mem_map_of_mem member, ?_, ?_⟩
    · split <;> rfl
    · split <;> rfl
  | setKeyActive id active =>
    cases stepped
    refine kept.of_keys rfl rfl fun row => ?_
    split <;> exact ⟨rfl, rfl, rfl, rfl, rfl⟩

theorem Writes.kept {s next : Accounts} {answer : TaskAnswer} (writes : Writes hash s next answer) (kept : Kept s) :
    Kept next := by
  cases writes with
  | stays => exact kept
  | steps step => exact kept_step kept step
  | founds founds =>
    obtain ⟨userId, keyId, token, flushed, inserted, written, named, issued⟩ := founds
    obtain ⟨users, keys⟩ := Tables.insertUser_rows inserted
    obtain ⟨keys', users'⟩ := Tables.insertKey_rows written
    have enrolled : Kept { s with tables := flushed } := by
      refine kept.of_users keys fun user member => ⟨user, ?_, rfl, rfl⟩
      rw [users]
      exact List.mem_append_left _ member
    obtain ⟨tables, list⟩ := next
    cases issued
    refine enrolled.add keys' users' ⟨rfl, named ▸ rfl, named ▸ rfl, named ▸ rfl, bootstrapUser userId, ?_, rfl, named ▸ rfl⟩
    rw [users', users]
    exact List.mem_append_right _ List.mem_cons_self

/-! ### The list -/

def keyListed (entry : APIKey × User) : KeyListed :=
  ⟨entry.1.id, entry.2.username, entry.1.keyPrefix, entry.1.label, entry.1.metadataText, entry.1.isActive⟩

theorem listKeys_eq (tables : Tables) : listKeys tables =
    ((keysWithUsers tables).insertionSort fun left right => left.1.id ≤ right.1.id).map keyListed := rfl

theorem lines_of_kept {s : Accounts} (kept : Kept s) :
    (keysWithUsers s.tables).map (fun entry => lineOf (keyListed entry)) = s.issued.map issueLine := by
  have same : List.Forall₂ (fun issue entry => lineOf (keyListed entry) = issueLine issue) s.issued
      (keysWithUsers s.tables) := by
    refine forall₂_trans (fun issue key entry recorded joined => ?_) kept (keysWithUsers_forall₂ s.tables)
    obtain ⟨rfl, listed, owns⟩ := joined
    obtain ⟨user, member, owner, named⟩ := recorded.owner
    have one := eq_of_unique s.tables.user_ids listed member (owns.trans owner.symm)
    rw [issueLine, ← recorded.id, ← recorded.shown, ← recorded.label, ← recorded.metadata, ← named, ← one]
    rfl
  have flipped := List.forall₂_map_left_iff.mpr (List.forall₂_map_right_iff.mpr same.flip)
  exact List.forall₂_eq_eq_eq ▸ flipped

/-- The list shows every key that has been issued, once, under the name of the user it was issued to, and no others, in
the order of the ids and with the state of each key. -/
theorem keys_listed (adminSecret : String) (hash : KeyHash) (division : TrueDivision) (tasks : List Task) :
    let s := (server adminSecret hash division).after empty tasks
    ((listKeys s.accounts.tables).map lineOf).Perm (s.accounts.issued.map issueLine) ∧
      (listKeys s.accounts.tables).Pairwise (fun left right => left.id < right.id) ∧
      ∀ line ∈ listKeys s.accounts.tables, ∃ key ∈ s.accounts.tables.keys,
        key.id = line.id ∧ key.isActive = line.isActive := by
  intro s
  have keeps : ∀ (s : BackOffice) task, Kept s.accounts →
      Kept ((server adminSecret hash division).serve s task).1.accounts :=
    fun s task before => (serve_writes adminSecret hash division s task).kept before
  have begun : Kept empty.accounts := List.Forall₂.nil
  have kept : Kept s.accounts := Server.after_invariant keeps begun tasks
  have sorted := List.perm_insertionSort (fun left right : APIKey × User => left.1.id ≤ right.1.id)
    (keysWithUsers s.accounts.tables)
  have keys : (keysWithUsers s.accounts.tables).map Prod.fst = s.accounts.tables.keys := by
    have same := (keysWithUsers_forall₂ s.accounts.tables).imp fun _ _ joined => joined.1.symm
    exact (List.forall₂_eq_eq_eq ▸ List.forall₂_map_right_iff.mpr same : _ = _).symm
  refine ⟨?_, ?_, ?_⟩
  · rw [listKeys_eq, List.map_map, ← lines_of_kept kept]
    exact sorted.map _
  · have ordered : ((keysWithUsers s.accounts.tables).insertionSort
        fun left right => left.1.id ≤ right.1.id).Pairwise fun left right => left.1.id ≤ right.1.id :=
      List.pairwise_insertionSort _ _
    have distinct : ((keysWithUsers s.accounts.tables).insertionSort
        fun left right => left.1.id ≤ right.1.id).Pairwise fun left right => left.1.id ≠ right.1.id := by
      have ids := s.accounts.tables.key_ids
      rw [← keys, List.map_map] at ids
      exact List.pairwise_map.mp ((sorted.map _).nodup_iff.mpr ids)
    rw [listKeys_eq, List.pairwise_map]
    exact (ordered.and distinct).imp fun both => lt_of_le_of_ne both.1 both.2
  · intro line member
    rw [listKeys_eq] at member
    obtain ⟨entry, listed, rfl⟩ := List.mem_map.mp member
    have present := sorted.mem_iff.mp listed
    exact ⟨entry.1, keys ▸ List.mem_map_of_mem present, rfl, rfl⟩

end BackOffice
end LlamacppRay.Gateway
