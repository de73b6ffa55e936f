import Cutover.Config.Basic
import Cutover.Config.Setting
import Cutover.Model.Encoding

set_option autoImplicit false

namespace Cutover

/-- The fields of `coordination` in their order. -/
def CoordinationConfig.fields : List String :=
  ["ensemble", "session_timeout_ms", "connection_timeout_ms"]

def TimelinesConfig.fields : List String := ["max_commit_timeout_secs"]

def DefaultStorage.fields : List String := ["id", "type", "zookeeper"]

namespace Setting

/-- The values of a group of fields: a table, or a list that holds them in order. -/
def group? (fields : List String) : Setting → Option (List (String × Setting))
  | .table entries => some entries
  | .list items => some (fields.zip items)
  | _ => none

/-- The converted value of a field, or its standard value if it is missing. -/
def fieldOr {α : Type} (convert : Setting → Option α) (standard : α) (key : String)
    (entries : List (String × Setting)) : Option α :=
  match lookup key entries with
  | none => some standard
  | some value => convert value

end Setting

namespace CoordinationConfig

def ofEntries? (entries : List (String × Setting)) : Option CoordinationConfig := do
  let ensemble ← Setting.fieldOr Setting.text? standard.ensemble "ensemble" entries
  let session ←
    Setting.fieldOr Setting.unsigned? standard.sessionTimeout "session_timeout_ms" entries
  let connection ←
    Setting.fieldOr Setting.unsigned? standard.connectionTimeout "connection_timeout_ms" entries
  return ⟨ensemble, session, connection⟩

def ofSetting? (s : Setting) : Option CoordinationConfig :=
  (s.group? fields).bind ofEntries?

end CoordinationConfig

namespace TimelinesConfig

def ofEntries? (entries : List (String × Setting)) : Option TimelinesConfig :=
  (Setting.fieldOr Setting.unsigned? standard.maxCommitTimeout "max_commit_timeout_secs"
    entries).map mk

def ofSetting? (s : Setting) : Option TimelinesConfig := (s.group? fields).bind ofEntries?

end TimelinesConfig

/-- A storage type by its name in any case, alone or as the only key of a table. -/
def StorageType.ofSetting? : Setting → Option StorageType
  | .text name => ofName? (Text.lower name)
  | .table [(name, _)] => ofName? (Text.lower name)
  | _ => none

namespace DefaultStorage

def ofEntries? (entries : List (String × Setting)) : Option DefaultStorage := do
  let id ← (← Setting.lookup "id" entries).text?
  let type ← StorageType.ofSetting? (← Setting.lookup "type" entries)
  let zookeeper ←
    match Setting.lookup "zookeeper" entries with
    | none => some none
    | some .null => some none
    | some value => value.text?.map some
  return ⟨id, type, zookeeper⟩

def ofSetting? : Setting → Option (Option DefaultStorage)
  | .null => some none
  | s => ((s.group? fields).bind ofEntries?).map some

end DefaultStorage

namespace Config

def ofEntries? (entries : List (String × Setting)) : Option Config := do
  let coordination ← Setting.fieldOr CoordinationConfig.ofSetting? .standard "coordination" entries
  let timelines ← Setting.fieldOr TimelinesConfig.ofSetting? .standard "timelines" entries
  let defaultStorage ← Setting.fieldOr DefaultStorage.ofSetting? none "default_storage" entries
  return ⟨coordination, timelines, defaultStorage⟩

end Config

namespace CoordinationConfig

def jsonFields : List Json.Field :=
  [.defaulted "ensemble" (.string standard.ensemble),
    .defaulted "session_timeout_ms" (.ofNat standard.sessionTimeout),
    .defaulted "connection_timeout_ms" (.ofNat standard.connectionTimeout)]

def ofJson? (json : Json) : Option CoordinationConfig := do
  let [ensemble, session, connection] ← json.fields? jsonFields | none
  let ensemble ← ensemble.string?
  let session ← session.natUpTo? (UInt64.size - 1)
  let connection ← connection.natUpTo? (UInt64.size - 1)
  return ⟨ensemble, session, connection⟩

end CoordinationConfig

namespace TimelinesConfig

def jsonFields : List Json.Field :=
  [.defaulted "max_commit_timeout_secs" (.ofNat standard.maxCommitTimeout)]

def ofJson? (json : Json) : Option TimelinesConfig := do
  let [maxCommit] ← json.fields? jsonFields | none
  return ⟨← maxCommit.natUpTo? (UInt64.size - 1)⟩

end TimelinesConfig

def StorageType.ofJson? (json : Json) : Option StorageType := (json.variant? false).bind ofName?

namespace DefaultStorage

def jsonFields : List Json.Field :=
  [.required "id", .required "type", .defaulted "zookeeper" .null]

def ofJson? (json : Json) : Option DefaultStorage := do
  let [id, type, zookeeper] ← json.fields? jsonFields | none
  let id ← id.string?
  let type ← StorageType.ofJson? type
  let zookeeper ← zookeeper.nullable? Json.string?
  return ⟨id, type, zookeeper⟩

end DefaultStorage

namespace Config

def jsonFields : List Json.Field :=
  [.defaulted "coordination" (.object []), .defaulted "timelines" (.object []),
    .defaulted "default_storage" .null]

def ofJson? (json : Json) : Option Config := do
  let [coordination, timelines, defaultStorage] ← json.fields? jsonFields | none
  let coordination ← CoordinationConfig.ofJson? coordination
  let timelines ← TimelinesConfig.ofJson? timelines
  let defaultStorage ← defaultStorage.nullable? DefaultStorage.ofJson?
  return ⟨coordination, timelines, defaultStorage⟩

end Config

end Cutover
