import Mathlib

/-! The two synchronisation objects of asyncio that share one lock. Tasks are scheduled
cooperatively: a task runs until it suspends, so a section under a free lock is one piece. -/

namespace LlamacppRay.Asyncio

/-- A value that is changed under an `asyncio.Lock`. -/
structure Monitor (Value : Type*) where
  locked : Bool
  value : Value

namespace Monitor
variable {Value Result : Type*}

def unlocked (value : Value) : Monitor Value := ⟨false, value⟩

/-- Entering `async with lock`. A task that finds the lock taken would suspend: no result. -/
def take (monitor : Monitor Value) : Option (Monitor Value) :=
  if monitor.locked then none else some { monitor with locked := true }

def give (monitor : Monitor Value) : Monitor Value := { monitor with locked := false }

/-- A section under the lock. It gives the lock back on its way out, and also when it ends in
`Condition.wait`, which releases the lock before it suspends. -/
def critical (monitor : Monitor Value) (body : Value → Value × Result) : Option (Monitor Value × Result) :=
  monitor.take.map fun held => ({ held with value := (body held.value).1 }.give, (body held.value).2)

/-- A section that only changes the value. -/
def update (monitor : Monitor Value) (body : Value → Value) : Option (Monitor Value) :=
  (monitor.critical fun value => (body value, ())).map Prod.fst

/-- A change made without the lock. -/
def modify (monitor : Monitor Value) (body : Value → Value) : Monitor Value :=
  { monitor with value := body monitor.value }

@[simp] theorem unlocked_value (value : Value) : (unlocked value).value = value := rfl

theorem eq_unlocked {monitor : Monitor Value} (free : monitor.locked = false) :
    monitor = unlocked monitor.value := by
  cases monitor
  cases free
  rfl

theorem exists_unlocked {monitor : Monitor Value} (free : monitor.locked = false) :
    ∃ value, monitor = unlocked value :=
  ⟨monitor.value, eq_unlocked free⟩

@[simp] theorem critical_unlocked (value : Value) (body : Value → Value × Result) :
    (unlocked value).critical body = some (unlocked (body value).1, (body value).2) := rfl

@[simp] theorem update_unlocked (value : Value) (body : Value → Value) :
    (unlocked value).update body = some (unlocked (body value)) := rfl

end Monitor

abbrev Future := Nat

/-- `asyncio.Condition`: the futures of suspended waiters that no notification has resolved.
Each call of `wait` makes a new future. -/
structure Condition where
  fresh : Future
  pending : Finset Future
  issued : ∀ future ∈ pending, future < fresh

namespace Condition

def new : Condition := ⟨0, ∅, by simp⟩

def wait (cond : Condition) : Condition where
  fresh := cond.fresh + 1
  pending := insert cond.fresh cond.pending
  issued := by
    intro future member
    rcases Finset.mem_insert.mp member with rfl | older
    · exact Nat.lt_succ_self _
    · exact (cond.issued future older).trans (Nat.lt_succ_self _)

def notifyAll (cond : Condition) : Condition := { cond with pending := ∅, issued := by simp }

/-- The waiter of a future has been resumed, by a notification, spuriously or by a cancellation. -/
def forget (cond : Condition) (future : Future) : Condition where
  fresh := cond.fresh
  pending := cond.pending.erase future
  issued := fun other member => cond.issued other (Finset.mem_of_mem_erase member)

@[simp] theorem notifyAll_pending (cond : Condition) : cond.notifyAll.pending = ∅ := rfl

end Condition
end LlamacppRay.Asyncio
