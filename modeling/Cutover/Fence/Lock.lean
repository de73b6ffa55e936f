set_option autoImplicit false

namespace Cutover

inductive LockMode where
  | shared
  | exclusive
  deriving DecidableEq

structure LockRequest where
  number : Nat
  mode : LockMode
  deriving DecidableEq

/-- A fair shared lock: the granted requests, and the waiting ones with the oldest first. A request is
granted at once only if it is compatible and nobody waits. -/
structure Lock where
  holders : List LockRequest
  queue : List LockRequest
  deriving DecidableEq

namespace Lock

def idle : Lock := ⟨[], []⟩

/-- Whether nobody holds the lock or waits for it. -/
def isIdle (l : Lock) : Bool := l.holders.isEmpty && l.queue.isEmpty

/-- Whether a request of a mode is compatible with granted ones. -/
def admits (holders : List LockRequest) : LockMode → Bool
  | .shared => holders.all (·.mode = .shared)
  | .exclusive => holders.isEmpty

def request (l : Lock) (r : LockRequest) : Lock :=
  if l.queue.isEmpty && admits l.holders r.mode then ⟨l.holders ++ [r], []⟩
  else ⟨l.holders, l.queue ++ [r]⟩

/-- Grants waiting requests from the head, up to the first incompatible one. -/
def grant (holders : List LockRequest) : List LockRequest → Lock
  | [] => ⟨holders, []⟩
  | r :: rest => if admits holders r.mode then grant (holders ++ [r]) rest else ⟨holders, r :: rest⟩

def isGranted (l : Lock) (number : Nat) : Bool := l.holders.any (·.number = number)

/-- Takes a request away, granted or not, and grants what it held back. -/
def remove (l : Lock) (number : Nat) : Lock :=
  grant (l.holders.filter (·.number ≠ number)) (l.queue.filter (·.number ≠ number))

end Lock

end Cutover
