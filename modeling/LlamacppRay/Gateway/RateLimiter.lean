import LlamacppRay.Redis.Keyspace

/-! The rate limiter: one sorted set of call times for every user and pool. Clock readings and
the times of the Redis server are exact numbers. -/

namespace LlamacppRay.Gateway
open LlamacppRay.Redis

def TEXT_RATE_LIMIT : Int := 20
def MULTIMODAL_RATE_LIMIT : Int := 100
def DEFAULT_WINDOW_SEC : Int := 60

abbrev RateStore := Keyspace String String ℚ ℚ

/-- `str` on floats: different numbers print differently, since the text reads back exactly. -/
structure FloatText where
  str : ℚ → String
  exact : Function.Injective str

structure HTTPException where
  statusCode : Int
  detail : String
  headers : List (String × String)
  deriving DecidableEq

/-- A call of `check_rate_limit`: its arguments, its clock reading and the time of the server
when its pipeline is executed. -/
structure RateCall where
  userId : Int
  pool : String := "text"
  limit : Int := TEXT_RATE_LIMIT
  windowSec : Int := DEFAULT_WINDOW_SEC
  now : ℚ
  served : ℚ

def rateKey (userId : Int) (pool : String) : String := "rl:user:" ++ toString userId ++ ":" ++ pool

def RateCall.key (call : RateCall) : String := rateKey call.userId call.pool

variable (text : FloatText)

/-- The four commands of the transaction, and the reply to the third. -/
def pipeline (store : RateStore) (served : ℚ) (key : String) (now windowSec : ℚ) : RateStore × Nat :=
  let pruned := store.zremrangebyscore served key (now - windowSec)
  let added := pruned.zadd served key (text.str now) now
  (added.expire served key (windowSec + 1), added.zcard served key)

def RateCall.rejection (call : RateCall) : HTTPException where
  statusCode := 429
  detail := "Rate limit exceeded: " ++ toString call.limit ++ " requests per " ++
    toString call.windowSec ++ "s"
  headers := [("Retry-After", toString call.windowSec)]

def checkRateLimit (store : RateStore) (call : RateCall) : RateStore × Except HTTPException Unit :=
  let results := pipeline text store call.served call.key call.now call.windowSec
  (results.1, if call.limit < results.2 then .error call.rejection else .ok ())

variable {text}

/-! ### Keys -/

section Separators
variable {separator : Char}

theorem separator_not_mem_repr (other : separator.isDigit = false) (n : Nat) :
    separator ∉ (Nat.repr n).toList := by
  intro member
  rw [Nat.toList_repr] at member
  have digit := Nat.isDigit_of_mem_toDigits (by decide) (by decide) member
  rw [other] at digit
  cases digit

theorem separator_not_mem_toString (other : separator.isDigit = false) (sign : separator ≠ '-') (n : Int) :
    separator ∉ (toString n).toList := by
  cases n with
  | ofNat n => exact separator_not_mem_repr other n
  | negSucc n =>
    change separator ∉ ("-" ++ Nat.repr (n + 1)).toList
    rw [String.toList_append, List.mem_append]
    rintro (first | digits)
    · exact sign (List.mem_singleton.mp first)
    · exact separator_not_mem_repr other (n + 1) digits

theorem takeWhile_separator {front back : List Char} (none : separator ∉ front) :
    (front ++ separator :: back).takeWhile (· ≠ separator) = front := by
  rw [List.takeWhile_append_of_pos]
  · simp
  · intro c member
    simpa using ne_of_mem_of_not_mem member none

theorem separated_inj (other : separator.isDigit = false) (sign : separator ≠ '-') {m n : Int}
    {back back' : List Char}
    (same : (toString m).toList ++ separator :: back = (toString n).toList ++ separator :: back') :
    m = n ∧ back = back' := by
  have numbers : (toString m).toList = (toString n).toList := by
    have := congrArg (List.takeWhile (· ≠ separator)) same
    rwa [takeWhile_separator (separator_not_mem_toString other sign m),
      takeWhile_separator (separator_not_mem_toString other sign n)] at this
  refine ⟨Int.repr_injective (String.toList_inj.mp numbers), ?_⟩
  rw [numbers, List.append_cancel_left_eq, List.cons.injEq] at same
  exact same.2

end Separators

/-- The number ends at the first colon, so the key names one user and one pool. -/
theorem rateKey_inj {userId userId' : Int} {pool pool' : String}
    (same : rateKey userId pool = rateKey userId' pool') : userId = userId' ∧ pool = pool' := by
  have lists : (toString userId).toList ++ ':' :: pool.toList =
      (toString userId').toList ++ ':' :: pool'.toList := by
    have := congrArg String.toList same
    simp only [rateKey, String.toList_append, List.append_assoc, List.append_cancel_left_eq] at this
    exact this
  obtain ⟨users, pools⟩ := separated_inj (by decide) (by decide) lists
  exact ⟨users, String.toList_inj.mp pools⟩

def FloatText.fractions : FloatText where
  str q := if q.den = 1 then toString q.num ++ ".0" else toString q.num ++ "/" ++ toString q.den
  exact := by
    have slash (n : Int) (back : String) (tail : '/' ∉ back.toList) :
        '/' ∉ (toString n ++ back).toList := by
      rw [String.toList_append, List.mem_append]
      rintro (front | last)
      · exact separator_not_mem_toString (by decide) (by decide) n front
      · exact tail last
    intro first second same
    have printed := congrArg String.toList same
    dsimp only at printed
    split_ifs at printed with whole whole' whole'
    · have numbers : (toString first.num).toList = (toString second.num).toList := by
        simpa only [String.toList_append, List.append_cancel_right_eq] using printed
      exact Rat.ext (Int.repr_injective (String.toList_inj.mp numbers)) (whole.trans whole'.symm)
    · exact absurd (by rw [printed]; simp) (slash first.num ".0" (by decide))
    · exact absurd (by rw [← printed]; simp) (slash second.num ".0" (by decide))
    · simp only [String.toList_append, List.append_assoc] at printed
      have parts := separated_inj (by decide) (by decide) printed
      exact Rat.ext parts.1 (Nat.repr_injective (String.toList_inj.mp parts.2))

/-! ### What one pipeline does -/

section Pipeline
variable {store : RateStore} {served now windowSec : ℚ} {key : String}

def remaining (text : FloatText) (entries : List (String × ℚ)) (now windowSec : ℚ) : List (String × ℚ) :=
  ((entries.filter fun entry => now - windowSec < entry.2).filter fun entry => entry.1 ≠ text.str now) ++
    [(text.str now, now)]

theorem pipeline_count : (pipeline text store served key now windowSec).2 =
    (remaining text (Slot.members (store key) served) now windowSec).length := by
  simp only [pipeline, Keyspace.zcard, Keyspace.members_zadd, Keyspace.members_zremrangebyscore, remaining]

theorem pipeline_slot (text : FloatText) (store : RateStore) (served : ℚ) (key : String) (now : ℚ)
    (positive : 0 < windowSec + 1) :
    ∃ set, (pipeline text store served key now windowSec).1 key =
        some ⟨set, some (served + (windowSec + 1))⟩ ∧
      set.entries = remaining text (Slot.members (store key) served) now windowSec := by
  have left : Slot.members (((store.zremrangebyscore served key (now - windowSec)).zadd served key
      (text.str now) now) key) served =
        remaining text (Slot.members (store key) served) now windowSec := by
    rw [Keyspace.members_zadd, Keyspace.members_zremrangebyscore, remaining]
  obtain ⟨set, found, entries⟩ := Keyspace.expire_of_members positive
    (by rw [left]; exact List.append_ne_nil_of_right_ne_nil _ (List.cons_ne_nil _ _))
  exact ⟨set, found, entries.trans left⟩

theorem pipeline_other {other : String} (apart : other ≠ key) :
    (pipeline text store served key now windowSec).1 other = store other := by
  simp only [pipeline, Keyspace.expire, Keyspace.zadd, Keyspace.zremrangebyscore,
    Keyspace.onKey_other apart]

theorem pipeline_congr (text : FloatText) {store' : RateStore} (same : store key = store' key) :
    (pipeline text store served key now windowSec).1 key =
        (pipeline text store' served key now windowSec).1 key ∧
      (pipeline text store served key now windowSec).2 =
        (pipeline text store' served key now windowSec).2 := by
  constructor
  · simp only [pipeline, Keyspace.expire, Keyspace.zadd, Keyspace.zremrangebyscore]
    exact Keyspace.onKey_congr (Keyspace.onKey_congr (Keyspace.onKey_congr same))
  · rw [pipeline_count, pipeline_count, same]

end Pipeline

section Calls
variable {store : RateStore} {call : RateCall}

theorem admitted_iff : (checkRateLimit text store call).2 = .ok () ↔
    (remaining text (Slot.members (store call.key) call.served) call.now call.windowSec).length ≤
      call.limit := by
  rw [← pipeline_count, checkRateLimit]
  by_cases exceeded : call.limit < (pipeline text store call.served call.key call.now call.windowSec).2
  · simp only [if_pos exceeded, reduceCtorEq, false_iff, not_le]
    exact exceeded
  · simp only [if_neg exceeded, true_iff]
    exact not_lt.mp exceeded

theorem check_congr (text : FloatText) {store' : RateStore} (same : store call.key = store' call.key) :
    (checkRateLimit text store call).1 call.key = (checkRateLimit text store' call).1 call.key ∧
      (checkRateLimit text store call).2 = (checkRateLimit text store' call).2 := by
  obtain ⟨slot, count⟩ := pipeline_congr text same
  refine ⟨slot, ?_⟩
  simp only [checkRateLimit, count]

theorem check_other {key : String} (apart : key ≠ call.key) :
    (checkRateLimit text store call).1 key = store key :=
  pipeline_other apart

end Calls

/-! ### Histories -/

def decisions (text : FloatText) :
    RateStore → List RateCall → List (RateCall × Except HTTPException Unit)
  | _, [] => []
  | store, call :: rest =>
      (call, (checkRateLimit text store call).2) :: decisions text (checkRateLimit text store call).1 rest

def RateCall.isOf (userId : Int) (pool : String) (call : RateCall) : Bool :=
  call.userId = userId ∧ call.pool = pool

theorem RateCall.key_of_isOf {userId : Int} {pool : String} {call : RateCall}
    (own : call.isOf userId pool = true) : call.key = rateKey userId pool := by
  obtain ⟨rfl, rfl⟩ := of_decide_eq_true own
  rfl

theorem RateCall.isOf_of_key {userId : Int} {pool : String} {call : RateCall}
    (same : call.key = rateKey userId pool) : call.isOf userId pool = true :=
  decide_eq_true (rateKey_inj same)

/-- Two stores that agree on the key of a user and a pool decide its calls alike, whatever other
calls the first of them sees in between. -/
theorem decisions_congr {userId : Int} {pool : String} {store store' : RateStore}
    (same : store (rateKey userId pool) = store' (rateKey userId pool)) (history : List RateCall) :
    (decisions text store history).filter (fun decision => decision.1.isOf userId pool) =
      decisions text store' (history.filter (RateCall.isOf userId pool)) := by
  induction history generalizing store store' with
  | nil => rfl
  | cons call rest ih =>
    rw [decisions]
    by_cases own : call.isOf userId pool = true
    · have key := RateCall.key_of_isOf own
      rw [← key] at same
      obtain ⟨slot, outcome⟩ := check_congr text same
      rw [key] at slot
      simp only [List.filter_cons, own, ↓reduceIte]
      rw [decisions, outcome, ih slot]
    · have apart : rateKey userId pool ≠ call.key := fun key => own (RateCall.isOf_of_key key.symm)
      simp only [List.filter_cons, own, Bool.false_eq_true, ↓reduceIte]
      exact ih ((check_other apart).trans same)

/-- Windows are isolated: deleting the calls of every other user and pool from a history changes
no decision. -/
theorem decisions_isolated (text : FloatText) (store : RateStore) (history : List RateCall)
    (userId : Int) (pool : String) :
    (decisions text store history).filter (fun decision => decision.1.isOf userId pool) =
      decisions text store (history.filter (RateCall.isOf userId pool)) :=
  decisions_congr rfl history

end LlamacppRay.Gateway
