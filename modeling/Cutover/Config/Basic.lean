import Cutover.Ensemble.Connection.Reader
import Cutover.Ensemble.Manager
import Cutover.Model.Storage

set_option autoImplicit false

namespace Cutover

inductive ConfigError where
  | load
  | invalid (reason : String)
  | ensemble (error : EnsembleError)
  deriving DecidableEq

namespace ConfigError

/-- The text of an error. What a source could not be read for is not told apart. -/
def message : ConfigError → String
  | .load => "Failed to load config"
  | .invalid reason => "Invalid config: " ++ reason
  | .ensemble error => error.message

end ConfigError

/-- How the ensemble is reached; times are in milliseconds. -/
structure CoordinationConfig where
  ensemble : String
  sessionTimeout : Nat
  connectionTimeout : Nat
  deriving DecidableEq

namespace CoordinationConfig

def standard : CoordinationConfig := ⟨"zookeeper://localhost:2181", 10000, 3000⟩

def connection (c : CoordinationConfig) : Except EnsembleError Connection :=
  Connection.parse c.ensemble

end CoordinationConfig

/-- Settings of timelines; the time is in seconds. -/
structure TimelinesConfig where
  maxCommitTimeout : Nat
  deriving DecidableEq

def TimelinesConfig.standard : TimelinesConfig := ⟨60⟩

/-- The definition of a default storage. -/
structure DefaultStorage where
  id : String
  type : StorageType
  zookeeper : Option String
  deriving DecidableEq

namespace DefaultStorage

/-- The storage that a definition describes, marked as the default one. -/
def toStorage (d : DefaultStorage) : Except ConfigError Storage :=
  match d.type with
  | .inMemory => .ok (Storage.ofBackend d.id .inMemory).asDefault
  | .kafka =>
      match d.zookeeper with
      | none => .error (.invalid ("kafka storage " ++ d.id ++ " requires a zookeeper connection"))
      | some text =>
          match Connection.parse text with
          | .error e => .error (.ensemble e)
          | .ok connection => .ok (Storage.ofBackend d.id (.kafka connection)).asDefault

end DefaultStorage

structure Config where
  coordination : CoordinationConfig
  timelines : TimelinesConfig
  defaultStorage : Option DefaultStorage
  deriving DecidableEq

namespace Config

def standard : Config := ⟨.standard, .standard, none⟩

def sessionSettings (c : Config) : SessionSettings where
  sessionTimeout := .ofMillis c.coordination.sessionTimeout
  maxCommitTimeout := .ofSeconds c.timelines.maxCommitTimeout

def connectionTimeout (c : Config) : Duration := .ofMillis c.coordination.connectionTimeout

end Config

end Cutover
