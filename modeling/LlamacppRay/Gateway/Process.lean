import LlamacppRay.Gateway.Failover
import LlamacppRay.Gateway.FrontDoor
import LlamacppRay.Gateway.Service

/-! The whole gateway process: the requests that come through the front door are the ones that call the dispatchers.
The environment of a request foretells how its inference will end; where that matters, `Routed` says that the call of
the request has borne it out. -/

namespace LlamacppRay.Gateway
open LlamacppRay.Automata LlamacppRay.Python LlamacppRay.Gateway.Chat

structure Caller where
  served : Served
  env : Environment

namespace Caller

def request (caller : Caller) : Request := caller.served.visitor.request

def pool (caller : Caller) : PoolName := poolFor (isMultimodal caller.request)

def asks (caller : Caller) : ServiceEvent :=
  if caller.request.stream then .stream (isMultimodal caller.request) (affinityKey caller.request)
  else .submit (isMultimodal caller.request) (affinityKey caller.request)

end Caller

/-- The callers of a pool stand in the order of its calls. -/
structure Process where
  door : FrontDoor
  service : Service
  waiting : List Caller
  callers : PoolName → List Caller

inductive ProcessEvent where
  | door (event : DoorEvent)
  | asks (index : Nat)
  /-- A call goes on, or the monitor does. -/
  | service (event : ServiceEvent)

def DoorEvent.environment : DoorEvent → Option Environment
  | .execute _ env | .lost _ _ _ env => some env
  | _ => none

def FrontDoor.newcomers (door : FrontDoor) (event : DoorEvent) : List Caller :=
  match event.environment, door.served with
  | some env, served :: _ =>
      if served.emissions.any Emission.isAsked then [⟨served, { env with check := served.check }⟩] else []
  | _, _ => []

def ServiceEvent.opens : ServiceEvent → Option PoolName
  | .submit multimodal _ | .stream multimodal _ => some (poolFor multimodal)
  | _ => none

namespace Process
section Machine
variable (platform : Platform) (text : FloatText) (adminSecret : String) (keyHash : KeyHash)
  (division : TrueDivision) (settings : Settings) (hash : String → Int)

def step (s : Process) : ProcessEvent → Option Process
  | .door event => (s.door.step platform text adminSecret keyHash division event).map fun door =>
      { s with door := door, waiting := s.waiting ++ door.newcomers event }
  | .asks index => do
      let caller ← s.waiting[index]?
      let service ← s.service.step settings hash caller.asks
      return {
        door := s.door
        service := service
        waiting := s.waiting.eraseIdx index
        callers := Function.update s.callers caller.pool (s.callers caller.pool ++ [caller]) }
  | .service event =>
      if event.opens.isSome then none
      else (s.service.step settings hash event).map fun service => { s with service := service }

def machine : Machine Process ProcessEvent :=
  ⟨step platform text adminSecret keyHash division settings hash⟩

def start (clock : ℚ) (store : RateStore) : Process :=
  ⟨FrontDoor.start clock store, Service.start settings, [], fun _ => []⟩

end Machine

/-! ### What one step can do -/

section
variable (platform : Platform) (text : FloatText) (adminSecret : String) (keyHash : KeyHash)
  (division : TrueDivision) (settings : Settings) (hash : String → Int)

inductive Moves (s : Process) : ProcessEvent → Process → Prop
  | entered {event : DoorEvent} {door : FrontDoor}
      (step : s.door.step platform text adminSecret keyHash division event = some door) :
      Moves s (.door event) { s with door := door, waiting := s.waiting ++ door.newcomers event }
  | asked {index : Nat} {caller : Caller} {service : Service} (waits : s.waiting[index]? = some caller)
      (step : (Service.machine settings hash).step s.service caller.asks = some service) :
      Moves s (.asks index)
        ⟨s.door, service, s.waiting.eraseIdx index,
          Function.update s.callers caller.pool (s.callers caller.pool ++ [caller])⟩
  | went {event : ServiceEvent} {service : Service} (goesOn : event.opens = none)
      (step : (Service.machine settings hash).step s.service event = some service) :
      Moves s (.service event) { s with service := service }

end

variable {platform : Platform} {text : FloatText} {adminSecret : String} {keyHash : KeyHash}
  {division : TrueDivision} {settings : Settings} {hash : String → Int} {s next : Process} {event : ProcessEvent}

theorem moves_of_step
    (stepped : (machine platform text adminSecret keyHash division settings hash).step s event = some next) :
    Moves platform text adminSecret keyHash division settings hash s event next := by
  cases event with
  | door event =>
    obtain ⟨door, step, rfl⟩ := Option.map_eq_some_iff.mp stepped
    exact .entered step
  | asks index =>
    simp only [machine, step, Option.bind_eq_bind, Option.bind_eq_some_iff] at stepped
    obtain ⟨caller, waits, service, step, done⟩ := stepped
    cases done
    exact .asked waits step
  | service event =>
    simp only [machine, step] at stepped
    split at stepped
    next => cases stepped
    next goesOn =>
      obtain ⟨service, step, rfl⟩ := Option.map_eq_some_iff.mp stepped
      exact .went (Option.not_isSome_iff_eq_none.mp goesOn) step

end Process

/-! ### The calls of a pool and their callers -/

theorem Router.calls_of_step {hash : String → Int} {s next : Router} {event : RouterEvent}
    (stepped : (Router.machine hash).step s event = some next) :
    next.calls.length = s.calls.length + match event with
      | .submit _ | .stream _ => 1
      | _ => 0 := by
  cases event with
  | submit | stream =>
    cases stepped
    simp
  | resume index r =>
    simp only [machine, step, Option.bind_eq_bind, Option.bind_eq_some_iff] at stepped
    obtain ⟨call, found, stretch, resumed, done⟩ := stepped
    cases done
    simp
  | evict | probed =>
    cases stepped
    rfl

namespace Service
variable {settings : Settings} {hash : String → Int} {s next : Service} {event : ServiceEvent}

theorem calls_withRouter {pool : PoolName} {router : Router} (count : Nat)
    (changed : router.calls.length = (s.routers pool).calls.length + count) (other : PoolName) :
    ((s.withRouter pool router).routers other).calls.length =
      (s.routers other).calls.length + if other = pool then count else 0 := by
  rw [withRouter_routers]
  split
  next same => rw [same, changed]
  next => rfl

theorem calls_of_step (stepped : (machine settings hash).step s event = some next) (pool : PoolName) :
    (next.routers pool).calls.length = (s.routers pool).calls.length + if event.opens = some pool then 1 else 0 := by
  cases moves_of_step stepped with
  | @called event changed asked router asks step =>
    rw [calls_withRouter _ (Router.calls_of_step step)]
    cases event with
    | submit | stream =>
      cases asks
      simp [ServiceEvent.opens, eq_comm]
    | resume =>
      cases asks
      simp [ServiceEvent.opens]
    | _ => cases asks
  | textGathered probing name complete step | multimodalGathered probing name complete step =>
    have same := calls_withRouter (s := s) _ (Router.calls_of_step step) pool
    simpa [ServiceEvent.opens] using same
  | _ => simp [ServiceEvent.opens, welcome, Asyncio.Monitor.modify]

end Service

theorem Caller.asks_opens (caller : Caller) : caller.asks.opens = some caller.pool := by
  unfold asks
  split
  · rfl
  · rfl

/-! ### Who is behind the calls -/

/-- What the caller emits is what its request does in its environment. -/
structure Caller.Genuine (platform : Platform) (caller : Caller) : Prop where
  checked : caller.env.check = caller.served.check
  emissions : caller.served.emissions = serve platform caller.env caller.request
  asks : caller.served.emissions.any Emission.isAsked = true

theorem FrontDoor.newcomers_of_step {platform : Platform} {text : FloatText} {adminSecret : String} {keyHash : KeyHash}
    {division : TrueDivision} {s next : FrontDoor} {event : DoorEvent}
    (stepped : s.step platform text adminSecret keyHash division event = some next) :
    (next.served = s.served ∧ next.newcomers event = []) ∨
    ∃ served, next.served = served :: s.served ∧ (next.newcomers event = [] ∨
      ∃ caller, next.newcomers event = [caller] ∧ caller.served = served ∧ caller.Genuine platform) := by
  have leaving : ∀ {index : Nat} {visitor : Visitor} {store : RateStore} {check : RateCheck} {env : Environment},
      event.environment = some env → ∃ served,
        (s.leaves platform index visitor store check env).served = served :: s.served ∧
          ((s.leaves platform index visitor store check env).newcomers event = [] ∨
            ∃ caller, (s.leaves platform index visitor store check env).newcomers event = [caller] ∧
              caller.served = served ∧ caller.Genuine platform) := by
    intro index visitor store check env known
    refine ⟨_, rfl, ?_⟩
    simp only [newcomers, known, leaves]
    split
    next asks => exact Or.inr ⟨_, rfl, rfl, rfl, rfl, asks⟩
    next => exact Or.inl rfl
  cases event with
  | task task =>
    cases stepped
    exact Or.inl ⟨rfl, rfl⟩
  | tick time =>
    obtain ⟨-, moved⟩ := Option.ite_none_right_eq_some.mp stepped
    cases moved
    exact Or.inl ⟨rfl, rfl⟩
  | chat authorization now payload =>
    rw [step] at stepped
    split at stepped
    · cases stepped
      exact Or.inl ⟨rfl, rfl⟩
    · cases stepped
      exact Or.inl ⟨rfl, rfl⟩
  | enter index =>
    obtain ⟨request, waits, rfl⟩ := Option.map_eq_some_iff.mp stepped
    exact Or.inl ⟨rfl, rfl⟩
  | execute index env =>
    obtain ⟨visitor, waits, rfl⟩ := Option.map_eq_some_iff.mp stepped
    exact Or.inr (leaving rfl)
  | lost index executed cancelled env =>
    obtain ⟨visitor, waits, rfl⟩ := Option.map_eq_some_iff.mp stepped
    exact Or.inr (leaving rfl)

namespace Process
variable {platform : Platform} {text : FloatText} {adminSecret : String} {keyHash : KeyHash}
  {division : TrueDivision} {settings : Settings} {hash : String → Int} {s next : Process} {event : ProcessEvent}

def everyone (s : Process) : List Caller := s.callers .text ++ s.callers .multimodal ++ s.waiting

def Counted (text : FloatText) (s : Process) : ProcessEvent → Prop
  | .door event => s.door.Counted text event
  | _ => True

instance decidableCounted (text : FloatText) (s : Process) : (event : ProcessEvent) → Decidable (s.Counted text event)
  | .door event => inferInstanceAs (Decidable (s.door.Counted text event))
  | .asks _ => isTrue trivial
  | .service _ => isTrue trivial

/-- Each call of a pool has a caller of its own, who has come through the door. -/
structure Owned (platform : Platform) (s : Process) : Prop where
  matched : ∀ pool, (s.callers pool).length = (s.service.routers pool).calls.length
  own : ∀ pool, ∀ caller ∈ s.callers pool, caller.pool = pool
  served : (s.everyone.map Caller.served).Subperm s.door.served
  genuine : ∀ caller ∈ s.everyone, caller.Genuine platform

theorem everyone_asked {index : Nat} {caller : Caller} (waits : s.waiting[index]? = some caller) (service : Service) :
    (everyone ⟨s.door, service, s.waiting.eraseIdx index,
      Function.update s.callers caller.pool (s.callers caller.pool ++ [caller])⟩).Perm s.everyone := by
  have moved := (Tasks.perm_running waits).symm
  unfold everyone
  cases caller.pool with
  | text =>
    have shifted : (s.callers .text ++ [caller] ++ s.callers .multimodal ++ s.waiting.eraseIdx index).Perm
        (s.callers .text ++ s.callers .multimodal ++ caller :: s.waiting.eraseIdx index) := by
      simp only [List.append_assoc, List.singleton_append]
      exact (List.perm_middle.symm).append_left _
    exact shifted.trans (moved.append_left _)
  | multimodal =>
    simp only [Function.update_self, ne_eq, reduceCtorEq, not_false_eq_true, Function.update_of_ne,
      List.append_assoc, List.singleton_append]
    exact (moved.append_left _).append_left _

theorem owned_step (owned : s.Owned platform)
    (stepped : (machine platform text adminSecret keyHash division settings hash).step s event = some next) :
    next.Owned platform := by
  cases moves_of_step stepped with
  | @entered event door step =>
    have arrived : everyone { s with door := door, waiting := s.waiting ++ door.newcomers event } =
        s.everyone ++ door.newcomers event := (List.append_assoc _ _ _).symm
    refine ⟨owned.matched, owned.own, ?_, ?_⟩
    · rw [arrived, List.map_append]
      rcases FrontDoor.newcomers_of_step step with ⟨same, nobody⟩ | ⟨served, more, nobody | ⟨caller, one, rfl, -⟩⟩
      · simpa [same, nobody] using owned.served
      · simpa [more, nobody] using owned.served.cons_right served
      · rw [one, more]
        have moved : (s.everyone.map Caller.served ++ [caller.served]).Perm
            (caller.served :: s.everyone.map Caller.served) := List.perm_append_comm
        exact moved.subperm_right.mpr ((List.subperm_cons _).mpr owned.served)
    · rw [arrived]
      refine List.forall_mem_append.mpr ⟨owned.genuine, ?_⟩
      rcases FrontDoor.newcomers_of_step step with ⟨-, nobody⟩ | ⟨served, -, nobody | ⟨caller, one, -, genuine⟩⟩
      · simp [nobody]
      · simp [nobody]
      · simpa [one] using genuine
  | @asked index caller service waits step =>
    have same := everyone_asked waits service
    refine ⟨fun pool => ?_, fun pool other member => ?_, ?_, ?_⟩
    · rw [Service.calls_of_step step, caller.asks_opens, ← owned.matched]
      by_cases mine : pool = caller.pool
      · subst mine
        simp
      · simp [Function.update_of_ne mine, Ne.symm mine]
    · dsimp only at member
      by_cases mine : pool = caller.pool
      · subst mine
        rw [Function.update_self, List.mem_append, List.mem_singleton] at member
        rcases member with old | rfl
        · exact owned.own _ other old
        · rfl
      · rw [Function.update_of_ne mine] at member
        exact owned.own pool other member
    · exact (same.map _).subperm_right.mpr owned.served
    · exact fun other member => owned.genuine other (same.mem_iff.mp member)
  | went goesOn step =>
    refine ⟨fun pool => ?_, owned.own, owned.served, owned.genuine⟩
    simp [Service.calls_of_step step, goesOn, owned.matched]

theorem owned_start (clock : ℚ) (store : RateStore) : (start settings clock store).Owned platform := by
  refine ⟨fun pool => rfl, fun pool caller member => ?_, List.nil_subperm, fun caller member => ?_⟩
  · cases member
  · cases member

/-! ### Whole runs -/

section
variable {clock : ℚ} {store : RateStore} {events : List ProcessEvent}

theorem owned_reachable (reached : (machine platform text adminSecret keyHash division settings hash).Reaches
    (start settings clock store) s) : s.Owned platform := by
  have keeps : ∀ (s : Process) event next, s.Owned platform →
      (machine platform text adminSecret keyHash division settings hash).step s event = some next →
        next.Owned platform := fun _ _ _ owned stepped => owned_step owned stepped
  exact reached.invariant keeps (owned_start clock store)

theorem service_reachable (reached : (machine platform text adminSecret keyHash division settings hash).Reaches
    (start settings clock store) s) : (Service.machine settings hash).Reaches (Service.start settings) s.service := by
  have keeps : ∀ (s : Process) event next, (Service.machine settings hash).Reaches (Service.start settings) s.service →
      (machine platform text adminSecret keyHash division settings hash).step s event = some next →
        (Service.machine settings hash).Reaches (Service.start settings) next.service := by
    intro s event next reached stepped
    cases moves_of_step stepped with
    | entered step => exact reached
    | asked waits step => exact reached.trans (.single step)
    | went goesOn step => exact reached.trans (.single step)
  exact reached.invariant keeps (.refl _ _)

end

/-! ### What the nodes are sent -/

def rerouted : List ProcessEvent :=
  [.service .started, .door (.task (.initDb 1 1 "Zq3vT0aXk9LmPw2sRb7Ud1Ye5Hf8Jc4Ng6Vi0Ot2Qxs")),
    .door (.chat (some ("Bearer " ++ Accounts.sampleKey)) 5 .greeting),
    .door (.enter 0), .door (.tick 1), .door (.execute 0 (.answering 2 3)), .asks 0,
    .service (.resume .text 0 .wake),
    .service (.resume .text 0 (.posted 0 (.error (.transport "connection refused")))),
    .service (.resume .text 0 .wake)]

end Process
end LlamacppRay.Gateway
