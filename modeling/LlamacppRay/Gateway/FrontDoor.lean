import LlamacppRay.Gateway.BackOffice
import LlamacppRay.Gateway.ChatPaths
import LlamacppRay.Gateway.RateBound

/-! The way of a chat request to a pool: the key in its header is looked up, later the clock is read, later still the
pipeline of the rate limiter runs, and only then does the handler ask a pool. Meanwhile the back office works on. -/

namespace LlamacppRay.Gateway
open LlamacppRay.Automata LlamacppRay.Python LlamacppRay.Gateway.Chat

structure Payload where
  messages : List ChatMessage
  stream : Bool
  sessionAffinity : Bool
  addressable : (messages.map fun message => message.content.size).sum ≤ MAXSIZE

def Payload.request (payload : Payload) (user : User) (apiKeyPrefix : String) : Request :=
  { user := user, apiKeyPrefix := some apiKeyPrefix, messages := payload.messages, stream := payload.stream
    sessionAffinity := payload.sessionAffinity, addressable := payload.addressable }

structure Visitor where
  request : Request
  now : ℚ

def Visitor.arrival (visitor : Visitor) : Arrival := ⟨visitor.request.user.id, visitor.request.requestType, visitor.now⟩

structure Served where
  visitor : Visitor
  check : RateCheck
  emissions : List Emission

/-- Guests have been let in and have not read the clock yet; among the served ones the last one comes first. -/
structure FrontDoor where
  office : BackOffice
  clock : ℚ
  store : RateStore
  guests : List Request
  visitors : List Visitor
  served : List Served

inductive DoorEvent where
  | task (task : Task)
  | tick (time : ℚ)
  | chat (authorization : Option String) (now : Int) (payload : Payload)
  | enter (index : Nat)
  | execute (index : Nat) (env : Environment)
  /-- Redis fails, or the request is cancelled; the pipeline may have got there all the same. -/
  | lost (index : Nat) (executed cancelled : Bool) (env : Environment)

def Payload.greeting : Payload :=
  { messages := [⟨"user", .text "hello there"⟩], stream := false, sessionAffinity := false
    addressable := (Request.greeting false).addressable }

namespace FrontDoor
variable (platform : Platform) (text : FloatText) (adminSecret : String) (hash : KeyHash) (division : TrueDivision)

def checks (s : FrontDoor) (visitor : Visitor) : RateStore × Except HTTPException Unit :=
  checkRateLimit text s.store (visitor.request.rateCall visitor.now s.clock)

def leaves (s : FrontDoor) (index : Nat) (visitor : Visitor) (store : RateStore) (check : RateCheck)
    (env : Environment) : FrontDoor :=
  { s with
    store := store
    visitors := s.visitors.eraseIdx index
    served := ⟨visitor, check, serve platform { env with check := check } visitor.request⟩ :: s.served }

def step (s : FrontDoor) : DoorEvent → Option FrontDoor
  | .task task => some { s with office := (BackOffice.serve adminSecret hash division s.office task).1 }
  | .tick time => if s.clock ≤ time then some { s with clock := time } else none
  | .chat authorization now payload =>
      match requireApiKey hash s.office.accounts.tables authorization now with
      | (tables, .ok (user, apiKeyPrefix)) =>
          some { s with
            office := s.office.write tables []
            guests := s.guests ++ [payload.request user apiKeyPrefix] }
      | (tables, .error _) => some { s with office := s.office.write tables [] }
  | .enter index => (s.guests[index]?).map fun request =>
      { s with guests := s.guests.eraseIdx index, visitors := s.visitors ++ [⟨request, s.clock⟩] }
  | .execute index env => (s.visitors[index]?).map fun visitor =>
      s.leaves platform index visitor (s.checks text visitor).1 (.ofCall (s.checks text visitor).2) env
  | .lost index executed cancelled env => (s.visitors[index]?).map fun visitor =>
      s.leaves platform index visitor (if executed then (s.checks text visitor).1 else s.store)
        (if cancelled then .cancelled else .unavailable) env

def machine : Machine FrontDoor DoorEvent := ⟨step platform text adminSecret hash division⟩

def start (clock : ℚ) (store : RateStore) : FrontDoor := ⟨BackOffice.empty, clock, store, [], [], []⟩

end FrontDoor

/-! ### Who asks a pool -/

namespace Chat
variable {platform : Platform} {env : Environment} {request : Request}

section
variable {allowed : Option String → Bool → Prop}

end

end Chat

/-! ### The limiter behind the door -/

def TEXT_QUOTA : Quota := ⟨TEXT_RATE_LIMIT, DEFAULT_WINDOW_SEC, by decide, by decide⟩
def MULTIMODAL_QUOTA : Quota := ⟨MULTIMODAL_RATE_LIMIT, DEFAULT_WINDOW_SEC, by decide, by decide⟩

def chatQuota (_userId : Int) (requestType : String) : Quota :=
  if requestType = "multimodal" then MULTIMODAL_QUOTA else TEXT_QUOTA

def Served.executed (served : Served) : Option (Arrival × Bool) :=
  match served.check with
  | .passed => some (served.visitor.arrival, true)
  | .rejected _ => some (served.visitor.arrival, false)
  | _ => none

namespace FrontDoor
variable {platform : Platform} {text : FloatText} {adminSecret : String} {hash : KeyHash} {division : TrueDivision}
  {s next : FrontDoor} {event : DoorEvent}

def limiter (s : FrontDoor) : Limiter :=
  ⟨s.clock, s.store, s.visitors.map Visitor.arrival, s.served.filterMap Served.executed⟩

/-- The pipeline that runs still finds the entries it has to count. -/
def Counted (text : FloatText) (s : FrontDoor) : DoorEvent → Prop
  | .execute index _ => s.limiter.Counted chatQuota text (.execute index)
  | _ => True

instance decidableCounted (text : FloatText) (s : FrontDoor) : (event : DoorEvent) → Decidable (s.Counted text event)
  | .execute index _ => inferInstanceAs (Decidable (s.limiter.Counted chatQuota text (.execute index)))
  | .task _ => isTrue trivial
  | .tick _ => isTrue trivial
  | .chat _ _ _ => isTrue trivial
  | .enter _ => isTrue trivial
  | .lost _ _ _ _ => isTrue trivial

theorem registered_step (registered : Accounts.Registered hash s.office.accounts)
    (stepped : s.step platform text adminSecret hash division event = some next) :
    Accounts.Registered hash next.office.accounts := by
  cases event with
  | task task =>
    cases stepped
    exact (BackOffice.serve_writes adminSecret hash division s.office task).registered registered
  | tick time =>
    obtain ⟨-, moved⟩ := Option.ite_none_right_eq_some.mp stepped
    cases moved
    exact registered
  | chat authorization now payload =>
    have writes := BackOffice.serve_writes adminSecret hash division s.office (.requireApiKey authorization now)
    have after := writes.registered registered
    simp only [BackOffice.serve] at after
    rw [step] at stepped
    split at stepped
    next tables user shown granted =>
      cases stepped
      rw [granted] at after
      exact after
    next tables exc refused =>
      cases stepped
      rw [refused] at after
      exact after
  | enter index =>
    obtain ⟨request, waits, rfl⟩ := Option.map_eq_some_iff.mp stepped
    exact registered
  | execute index env =>
    obtain ⟨visitor, waits, rfl⟩ := Option.map_eq_some_iff.mp stepped
    exact registered
  | lost index executed cancelled env =>
    obtain ⟨visitor, waits, rfl⟩ := Option.map_eq_some_iff.mp stepped
    exact registered

/-! ### Who is let in -/

def seen (s : FrontDoor) : List Request :=
  s.guests ++ s.visitors.map Visitor.request ++ s.served.map fun served => served.visitor.request

section
variable {clock : ℚ} {store : RateStore} {events : List DoorEvent}

theorem registered_reachable (reached : (machine platform text adminSecret hash division).Reaches (start clock store) s) :
    Accounts.Registered hash s.office.accounts := by
  have keeps : ∀ (s : FrontDoor) event next, Accounts.Registered hash s.office.accounts →
      (machine platform text adminSecret hash division).step s event = some next →
        Accounts.Registered hash next.office.accounts :=
    fun _ _ _ registered stepped => registered_step registered stepped
  exact reached.invariant keeps Accounts.registered_empty

end
end FrontDoor

/-! ### What the limit is spent on -/

def Chat.Emission.isAsked : Emission → Bool
  | .asked _ _ => true
  | _ => false

/-- The limiter has admitted the request on this account, and the request has asked a pool. -/
def Served.spends (userId : Int) (requestType : String) (served : Served) : Bool :=
  served.executed = some (⟨userId, requestType, served.visitor.now⟩, true) && served.emissions.any Emission.isAsked

namespace FrontDoor
variable {platform : Platform} {text : FloatText} {adminSecret : String} {hash : KeyHash} {division : TrueDivision}
  {s : FrontDoor} {clock : ℚ} {store : RateStore} {events : List DoorEvent}

def spent (s : FrontDoor) (userId : Int) (requestType : String) : List ℚ :=
  (s.served.filter (Served.spends userId requestType)).map fun served => served.visitor.now

end FrontDoor
end LlamacppRay.Gateway
