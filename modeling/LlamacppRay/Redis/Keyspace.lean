import Mathlib

/-! A keyspace of sorted sets with expiring keys, and the commands on it. Each command is run at
a time of the server; a key whose time has passed is gone for every command. -/

namespace LlamacppRay.Redis

/-! ### Sorted sets -/

/-- Members with their scores; a member has one score. -/
structure SortedSet (Member Score : Type*) where
  entries : List (Member × Score)
  nodup : (entries.map Prod.fst).Nodup

namespace SortedSet
variable {Member Score : Type*}

def empty : SortedSet Member Score := ⟨[], List.nodup_nil⟩

def keep (set : SortedSet Member Score) (test : Member × Score → Bool) : SortedSet Member Score :=
  ⟨set.entries.filter test, set.nodup.sublist (List.filter_sublist.map Prod.fst)⟩

@[simp] theorem keep_entries (set : SortedSet Member Score) (test : Member × Score → Bool) :
    (set.keep test).entries = set.entries.filter test := rfl

/-- `ZADD`: a member that is there gets the new score. -/
def add [DecidableEq Member] (set : SortedSet Member Score) (member : Member) (score : Score) :
    SortedSet Member Score where
  entries := set.entries.filter (fun entry => entry.1 ≠ member) ++ [(member, score)]
  nodup := by
    rw [List.map_append, List.map_singleton, List.nodup_append]
    refine ⟨(set.keep fun entry => entry.1 ≠ member).nodup, List.nodup_singleton member, ?_⟩
    intro other present last same
    obtain ⟨entry, kept, rfl⟩ := List.mem_map.mp present
    have apart := (List.mem_filter.mp kept).2
    rw [List.mem_singleton.mp same]
    simpa using apart

@[simp] theorem add_entries [DecidableEq Member] (set : SortedSet Member Score) (member : Member)
    (score : Score) : (set.add member score).entries =
      set.entries.filter (fun entry => entry.1 ≠ member) ++ [(member, score)] := rfl

/-- `ZREMRANGEBYSCORE -inf max` -/
def removeUpTo [LinearOrder Score] (set : SortedSet Member Score) (max : Score) : SortedSet Member Score :=
  set.keep fun entry => max < entry.2

@[simp] theorem removeUpTo_entries [LinearOrder Score] (set : SortedSet Member Score) (max : Score) :
    (set.removeUpTo max).entries = set.entries.filter fun entry => max < entry.2 := rfl

end SortedSet

/-! ### Keys -/

structure Slot (Member Score Time : Type*) where
  set : SortedSet Member Score
  expiresAt : Option Time

variable {Key Member Score Time : Type*}

namespace Slot
variable [LinearOrder Time]

def expired (slot : Slot Member Score Time) (time : Time) : Bool :=
  slot.expiresAt.any fun deadline => deadline < time

def live (slot : Option (Slot Member Score Time)) (time : Time) : Option (Slot Member Score Time) :=
  slot.filter fun slot => !slot.expired time

def members (slot : Option (Slot Member Score Time)) (time : Time) : List (Member × Score) :=
  (live slot time).elim [] fun slot => slot.set.entries

theorem members_of_live {slot : Option (Slot Member Score Time)} {found : Slot Member Score Time}
    {time : Time} (alive : live slot time = some found) : members slot time = found.set.entries := by
  rw [members, alive]
  rfl

theorem members_of_dead {slot : Option (Slot Member Score Time)} {time : Time}
    (dead : live slot time = none) : members slot time = [] := by
  rw [members, dead]
  rfl

theorem fresh_of_live {slot : Option (Slot Member Score Time)} {found : Slot Member Score Time}
    {time : Time} (alive : live slot time = some found) : found.expired time = false := by
  simpa using (Option.filter_eq_some_iff.mp alive).2

theorem members_of_set {slot : Slot Member Score Time} {time : Time} (fresh : slot.expired time = false)
    (set : SortedSet Member Score) : members (some { slot with set := set }) time = set.entries := by
  have still : expired { slot with set := set } time = false := fresh
  simp only [members, live, Option.filter, still, Bool.not_false, ↓reduceIte, Option.elim_some]

@[simp] theorem members_none (time : Time) :
    members (none : Option (Slot Member Score Time)) time = [] := rfl

theorem members_of_le {set : SortedSet Member Score} {deadline time : Time} (early : time ≤ deadline) :
    members (some ⟨set, some deadline⟩) time = set.entries :=
  have fresh : expired (⟨set, some deadline⟩ : Slot Member Score Time) time = false := by
    simpa [expired] using early
  members_of_set fresh set

theorem members_of_lt {set : SortedSet Member Score} {deadline time : Time} (late : deadline < time) :
    members (some ⟨set, some deadline⟩) time = [] := by
  simp [members, live, expired, late, Option.filter]

end Slot

abbrev Keyspace (Key Member Score Time : Type*) := Key → Option (Slot Member Score Time)

namespace Keyspace

section Commands
variable [DecidableEq Key] [DecidableEq Member] [LinearOrder Score] [LinearOrder Time]
  (store : Keyspace Key Member Score Time) (time : Time) (key : Key)

def onKey (command : Option (Slot Member Score Time) → Option (Slot Member Score Time)) :
    Keyspace Key Member Score Time :=
  Function.update store key (command (Slot.live (store key) time))

/-- The last entry takes its key with it. -/
def zremrangebyscore (max : Score) : Keyspace Key Member Score Time :=
  store.onKey time key fun found => found.bind fun slot =>
    if (slot.set.removeUpTo max).entries = [] then none
    else some { slot with set := slot.set.removeUpTo max }

def zadd (member : Member) (score : Score) : Keyspace Key Member Score Time :=
  store.onKey time key fun found =>
    match found with
    | none => some ⟨SortedSet.empty.add member score, none⟩
    | some slot => some { slot with set := slot.set.add member score }

def zcard : Nat := (Slot.members (store key) time).length

/-- A time to live that is not positive deletes the key. -/
def expire [Zero Time] [Add Time] (seconds : Time) : Keyspace Key Member Score Time :=
  store.onKey time key fun found => found.bind fun slot =>
    if seconds ≤ 0 then none else some { slot with expiresAt := some (time + seconds) }

end Commands

section Locality
variable [DecidableEq Key] [LinearOrder Time] {store store' : Keyspace Key Member Score Time}
  {time : Time} {key : Key}
  {command : Option (Slot Member Score Time) → Option (Slot Member Score Time)}

/-! ### A command works on its own key only -/

theorem onKey_other {other : Key} (apart : other ≠ key) :
    store.onKey time key command other = store other :=
  Function.update_of_ne apart _ _

theorem onKey_congr (same : store key = store' key) :
    store.onKey time key command key = store'.onKey time key command key := by
  simp only [onKey, Function.update_self, same]

end Locality

section Replies
variable [DecidableEq Key] [LinearOrder Time] {store : Keyspace Key Member Score Time} {time : Time}
  {key : Key}

/-! ### What a later command of the same time finds -/

theorem members_zremrangebyscore [LinearOrder Score] (max : Score) :
    Slot.members (store.zremrangebyscore time key max key) time =
      (Slot.members (store key) time).filter fun entry => max < entry.2 := by
  rw [zremrangebyscore, onKey, Function.update_self]
  cases found : Slot.live (store key) time with
  | none =>
    rw [Slot.members_of_dead found]
    rfl
  | some slot =>
    rw [Slot.members_of_live found, Option.bind_some]
    by_cases emptied : (slot.set.removeUpTo max).entries = []
    · rw [if_pos emptied]
      exact emptied.symm
    · rw [if_neg emptied]
      exact Slot.members_of_set (Slot.fresh_of_live found) (slot.set.removeUpTo max)

theorem members_zadd [DecidableEq Member] (member : Member) (score : Score) :
    Slot.members (store.zadd time key member score key) time =
      (Slot.members (store key) time).filter (fun entry => entry.1 ≠ member) ++ [(member, score)] := by
  rw [zadd, onKey, Function.update_self]
  cases found : Slot.live (store key) time with
  | none =>
    rw [Slot.members_of_dead found]
    rfl
  | some slot =>
    rw [Slot.members_of_live found]
    exact Slot.members_of_set (Slot.fresh_of_live found) (slot.set.add member score)


theorem expire_of_members [Zero Time] [Add Time] {seconds : Time} (positive : 0 < seconds)
    (present : Slot.members (store key) time ≠ []) :
    ∃ set, store.expire time key seconds key = some ⟨set, some (time + seconds)⟩ ∧
      set.entries = Slot.members (store key) time := by
  rw [expire, onKey, Function.update_self]
  cases found : Slot.live (store key) time with
  | none => exact absurd (Slot.members_of_dead found) present
  | some slot =>
    refine ⟨slot.set, ?_, (Slot.members_of_live found).symm⟩
    rw [Option.bind_some, if_neg (not_le.mpr positive)]

end Replies
end Keyspace
end LlamacppRay.Redis
