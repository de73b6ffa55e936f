import Cutover.Ensemble.Connection

set_option autoImplicit false

namespace Cutover

/-- The kind of a storage; it never changes while the storage exists. -/
inductive StorageType where
  | kafka
  | inMemory
  deriving DecidableEq, Inhabited

namespace StorageType

def name : StorageType → String
  | .kafka => "kafka"
  | .inMemory => "in_memory"

def ofName? (text : String) : Option StorageType :=
  if text = "kafka" then some .kafka
  else if text = "in_memory" then some .inMemory
  else none

end StorageType

/-- How a storage is reached. -/
inductive StorageBackend where
  | kafka (zookeeper : Connection)
  | inMemory
  deriving DecidableEq, Inhabited

def StorageBackend.type : StorageBackend → StorageType
  | .kafka _ => .kafka
  | .inMemory => .inMemory

/-- A storage; the default one is where new event types start. -/
structure Storage where
  id : String
  backend : StorageBackend
  isDefault : Bool
  deriving DecidableEq, Inhabited

namespace Storage

def type (s : Storage) : StorageType := s.backend.type

def ofBackend (id : String) (backend : StorageBackend) : Storage := ⟨id, backend, false⟩

def asDefault (s : Storage) : Storage := { s with isDefault := true }

end Storage

end Cutover
