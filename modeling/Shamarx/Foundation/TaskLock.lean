import Mathlib.Data.List.Basic

/-!
# Locks of an event loop

A lock is taken at once when it is free and nobody waits for it.  Otherwise the call
waits in line; a release wakes the first in line, which takes the lock when it is
resumed, and whoever comes in between waits behind it.
-/

namespace Shamarx
namespace Foundation

structure TaskLock where
  locked : Bool
  waiters : List Nat
  deriving DecidableEq

namespace TaskLock

def new : TaskLock :=
  { locked := false, waiters := [] }

def Free (l : TaskLock) : Prop :=
  l.locked = false ∧ l.waiters = []

instance (l : TaskLock) : Decidable l.Free :=
  inferInstanceAs (Decidable (_ ∧ _))

/-- The call is the first in line and the lock has been released. -/
def Wakes (l : TaskLock) (call : Nat) : Prop :=
  l.locked = false ∧ l.waiters.head? = some call

instance (l : TaskLock) (call : Nat) : Decidable (l.Wakes call) :=
  inferInstanceAs (Decidable (_ ∧ _))

def take (l : TaskLock) : TaskLock :=
  { l with locked := true }

def enqueue (l : TaskLock) (call : Nat) : TaskLock :=
  { l with waiters := l.waiters ++ [call] }

def resume (l : TaskLock) : TaskLock :=
  { locked := true, waiters := l.waiters.tail }

def release (l : TaskLock) : TaskLock :=
  { l with locked := false }

end TaskLock
end Foundation
end Shamarx
