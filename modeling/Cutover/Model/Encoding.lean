import Cutover.Json.Record
import Cutover.Model.Cursor
import Cutover.Model.Timeline

set_option autoImplicit false

namespace Cutover

namespace EnsembleKind

def toJson (kind : EnsembleKind) : Json := .string kind.name

def decode? (buffered : Bool) (json : Json) : Option EnsembleKind :=
  (json.variant? buffered).bind ofName?

def ofJson? (json : Json) : Option EnsembleKind := decode? false json

end EnsembleKind

namespace Server

def toJson (s : Server) : Json :=
  .object [("address", .string s.address), ("port", .ofNat s.port.toNat)]

def fields : List Json.Field := [.required "address", .required "port"]

def ofJson? (json : Json) : Option Server := do
  let [address, port] ← json.fields? fields | none
  let address ← address.string?
  let port ← port.natUpTo? (UInt16.size - 1)
  return ⟨address, UInt16.ofNat port⟩

end Server

namespace Connection

def toJson (c : Connection) : Json :=
  .object
    [("kind", c.kind.toJson), ("addresses", .array (c.servers.map Server.toJson)),
      ("path", .ofOption .string c.path)]

def fields : List Json.Field := [.required "kind", .required "addresses", .nullable "path"]

def decode? (buffered : Bool) (json : Json) : Option Connection := do
  let [kind, addresses, path] ← json.fields? fields | none
  let kind ← EnsembleKind.decode? buffered kind
  let servers ← (← addresses.items?).mapM Server.ofJson?
  let path ← path.nullable? Json.string?
  return ⟨kind, servers, path⟩

def ofJson? (json : Json) : Option Connection := decode? false json

end Connection

namespace StorageBackend

def toJson : StorageBackend → Json
  | .kafka zookeeper =>
      .object [("type", .string StorageType.kafka.name), ("zookeeper", zookeeper.toJson)]
  | .inMemory => .object [("type", .string StorageType.inMemory.name)]

/-- The fields of a storage on Kafka, without its type. -/
def kafkaFields : List Json.Field := [.required "zookeeper"]

/-- Decodes a backend. In memory there are no fields: other members are passed over, but a list
holds nothing more. -/
def ofJson? (json : Json) : Option StorageBackend := do
  let (name, record) ← json.tagged? "type"
  match ← StorageType.ofName? name with
  | .kafka =>
      let [zookeeper] ← record.fields? kafkaFields | none
      return .kafka (← Connection.decode? true zookeeper)
  | .inMemory =>
      let [] ← record.fields? [] | none
      return .inMemory

end StorageBackend

namespace Storage

def toJson (s : Storage) : Json :=
  .object
    [("id", .string s.id), ("configuration", s.backend.toJson), ("default", .bool s.isDefault)]

def fields : List Json.Field :=
  [.required "id", .required "configuration", .defaulted "default" (.bool false)]

def ofJson? (json : Json) : Option Storage := do
  let [id, backend, isDefault] ← json.fields? fields | none
  let id ← id.string?
  let backend ← StorageBackend.ofJson? backend
  let isDefault ← isDefault.bool?
  return ⟨id, backend, isDefault⟩

end Storage

namespace Position

def toJson (p : Position) : Json :=
  .object
    [("offsets", .object (p.offsets.entries.map fun (name, offset) =>
      (name, .ofNat offset.toNat)))]

def offset? (member : String × Json) : Option (String × UInt64) :=
  (member.2.natUpTo? (UInt64.size - 1)).map fun n => (member.1, UInt64.ofNat n)

def fields : List Json.Field := [.required "offsets"]

/-- Decodes a position. Its offsets are a map, which keeps the last of several with one name. -/
def ofJson? (json : Json) : Option Position := do
  let [.object offsets] ← json.fields? fields | none
  let offsets ← offsets.mapM offset?
  return ofList offsets

end Position

namespace Uuid

def toJson (u : Uuid) : Json := .string u.text

def ofJson? (json : Json) : Option Uuid := json.string?.bind parse?

end Uuid

namespace Timestamp

def toJson (t : Timestamp) : Json := .string t.text

def ofJson? (json : Json) : Option Timestamp := json.string?.bind fun text => read? text.toList

end Timestamp

namespace Timeline

def topicJson (topic : String) : Json := .object [("topic", .string topic)]

def toJson (t : Timeline) : Json :=
  .object
    [("id", t.id.toJson), ("event_type", .string t.eventType), ("order", .ofNat t.order),
      ("storage", t.storage.toJson), ("configuration", topicJson t.topic),
      ("created_at", t.createdAt.toJson), ("switched_at", .ofOption Timestamp.toJson t.switchedAt),
      ("last_position", .ofOption Position.toJson t.lastPosition)]

def topicOfJson? (json : Json) : Option String := do
  let [topic] ← json.fields? [.required "topic"] | none
  topic.string?

def fields : List Json.Field :=
  [.required "id", .required "event_type", .required "order", .required "storage",
    .required "configuration", .required "created_at", .nullable "switched_at",
    .nullable "last_position"]

def ofJson? (json : Json) : Option Timeline := do
  let [id, eventType, order, storage, configuration, createdAt, switchedAt, lastPosition] ←
    json.fields? fields | none
  let id ← Uuid.ofJson? id
  let eventType ← eventType.string?
  let order ← order.natUpTo? (UInt32.size - 1)
  let storage ← Storage.ofJson? storage
  let topic ← topicOfJson? configuration
  let createdAt ← Timestamp.ofJson? createdAt
  let switchedAt ← switchedAt.nullable? Timestamp.ofJson?
  let lastPosition ← lastPosition.nullable? Position.ofJson?
  return ⟨id, eventType, order, storage, topic, createdAt, switchedAt, lastPosition, false⟩

end Timeline

namespace Cursor

def toJson : Cursor → Json
  | .legacy partition offset =>
      .object [("version", .string "v0"), ("partition", .string partition),
        ("offset", .string offset)]
  | .onTimeline partition timeline offset =>
      .object [("version", .string "v1"), ("partition", .string partition),
        ("timeline_id", timeline.toJson), ("offset", .string offset)]

def legacyFields : List Json.Field := [.required "partition", .required "offset"]

def timelineFields : List Json.Field :=
  [.required "partition", .required "timeline_id", .required "offset"]

def ofJson? (json : Json) : Option Cursor := do
  let (version, record) ← json.tagged? "version"
  match version with
  | "v0" =>
      let [partition, offset] ← record.fields? legacyFields | none
      return .legacy (← partition.string?) (← offset.string?)
  | "v1" =>
      let [partition, timeline, offset] ← record.fields? timelineFields | none
      return .onTimeline (← partition.string?) (← Uuid.ofJson? timeline) (← offset.string?)
  | _ => none

end Cursor

/-- The JSON form of an event type, which is its name. -/
def eventTypeJson (name : String) : Json := .object [("name", .string name)]

def eventTypeFields : List Json.Field := [.required "name"]

def eventTypeOfJson? (json : Json) : Option String := do
  let [name] ← json.fields? eventTypeFields | none
  name.string?

end Cutover
