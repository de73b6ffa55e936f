import Cutover.Data.Table.Lemmas
import Cutover.Model.Encoding
import Cutover.Proofs.Formats.Texts
import Cutover.Proofs.Formats.Timestamps

set_option autoImplicit false

namespace Cutover

namespace Table

variable {κ ν : Type} [Key κ]

theorem place_append {k : κ} {v : ν} {entries : List (κ × ν)}
    (before : ∀ e ∈ entries, Key.less e.1 k = true) :
    place k v entries = entries ++ [(k, v)] := by
  induction entries with
  | nil => rfl
  | cons head rest ih =>
    have first := before head List.mem_cons_self
    have later := ih fun e member => before e (List.mem_cons_of_mem _ member)
    rw [place, if_pos first, later, List.cons_append]

theorem entries_foldl_insert (t : Table κ ν) (more : List (κ × ν))
    (sorted : Sorted (t.entries ++ more)) :
    (more.foldl (fun t e => t.insert e.1 e.2) t).entries = t.entries ++ more := by
  induction more generalizing t with
  | nil => simp
  | cons e more ih =>
    have before : ∀ earlier ∈ t.entries, Key.less earlier.1 e.1 = true := by
      intro earlier member
      exact (List.pairwise_append.1 sorted).2.2 earlier member e List.mem_cons_self
    have placed : (t.insert e.1 e.2).entries = t.entries ++ [e] := place_append before
    have moved : t.entries ++ e :: more = (t.insert e.1 e.2).entries ++ more := by
      rw [placed, List.append_assoc, List.singleton_append]
    rw [moved] at sorted
    rw [List.foldl_cons, ih _ sorted, placed, List.append_assoc, List.singleton_append]

@[simp] theorem ofList_entries (t : Table κ ν) : ofList t.entries = t := by
  apply Table.ext
  have built := entries_foldl_insert empty t.entries t.sorted
  rw [ofList, built, empty, List.nil_append]

end Table

namespace Json

theorem natUpTo?_ofNat {limit n : Nat} (small : n ≤ limit) :
    (ofNat n).natUpTo? limit = some n := by
  have range : (0 : Int) ≤ n ∧ (n : Int) ≤ limit := by omega
  rw [ofNat, natUpTo?, if_pos range, Int.toNat_natCast]

theorem le_of_natUpTo? {limit n : Nat} {json : Json} (found : json.natUpTo? limit = some n) :
    n ≤ limit := by
  unfold natUpTo? at found
  split at found
  · split at found
    · next range =>
      have same := Option.some.inj found
      omega
    · cases found
  · cases found

theorem exact_ofOption {α : Type} {encode : α → Json} (each : ∀ a, Exact (encode a)) :
    ∀ value : Option α, Exact (ofOption encode value)
  | none => .null
  | some a => each a

theorem exact_ofNat {n : Nat} (small : n < UInt64.size) : Exact (ofNat n) :=
  .integer n (by omega) (by omega)

theorem nullable?_ofOption {α : Type} {encode : α → Json} {decode : Json → Option α}
    {value : Option α} (given : ∀ a, encode a ≠ .null)
    (back : ∀ a ∈ value, decode (encode a) = some a) :
    (ofOption encode value).nullable? decode = some value := by
  cases value with
  | none => rfl
  | some a =>
    rw [ofOption, nullable?]
    · rw [back a rfl, Option.map_some]
    · exact given a

/-- The values that members have for a key; where there is none they may have an absent one. -/
def meant (key : String) (absent : Option Json) (members : List (String × Json)) : List Json :=
  match (members.filter (·.1 = key)).map (·.2) with
  | [] => absent.toList
  | values => values

theorem among?_eq (field : Field) (members : List (String × Json)) :
    field.among? members =
      match meant field.name field.unnamed? members with
      | [value] => some value
      | _ => none := by
  rw [Field.among?, meant]
  generalize members.filter (·.1 = field.name) = named
  match named with
  | [] => cases field.unnamed? <;> rfl
  | [_] => rfl
  | _ :: _ :: _ => rfl

theorem fields?_congr {fields : List Field} {members members' : List (String × Json)}
    (alike : ∀ field ∈ fields,
      meant field.name field.unnamed? members = meant field.name field.unnamed? members') :
    (object members).fields? fields = (object members').fields? fields := by
  rw [Json.fields?, Json.fields?]
  induction fields with
  | nil => rfl
  | cons field fields ih =>
    obtain ⟨first, others⟩ := List.forall_mem_cons.1 alike
    rw [List.mapM_cons, List.mapM_cons, ih others, among?_eq, among?_eq, first]

theorem meant_filter {key tag : String} (other : key ≠ tag) (absent : Option Json)
    (members : List (String × Json)) :
    meant key absent (members.filter (·.1 ≠ tag)) = meant key absent members := by
  have same : (members.filter (·.1 ≠ tag)).filter (·.1 = key) = members.filter (·.1 = key) := by
    rw [List.filter_filter]
    refine List.filter_congr fun member _ => ?_
    by_cases named : member.1 = key
    · simp [named, other]
    · simp [named]
  rw [meant, meant, same]

/-- The text that is the only one of some values. -/
def soleText? : List Json → Option String
  | [.string name] => some name
  | _ => none

theorem tagged?_object (tag : String) (members : List (String × Json)) :
    (object members).tagged? tag = (soleText? (meant tag none members)).map fun name =>
      (name, .object (members.filter (·.1 ≠ tag))) := by
  rw [tagged?, meant]
  generalize members.filter (·.1 = tag) = tags
  rcases tags with _ | ⟨⟨key, value⟩, _ | ⟨second, more⟩⟩
  · rfl
  · cases value <;> rfl
  · cases value <;> rfl

theorem tagged?_congr {α : Type} {tag : String} {members members' : List (String × Json)}
    {decode : String × Json → Option α} (same : meant tag none members = meant tag none members')
    (onward : ∀ name, decode (name, .object (members.filter (·.1 ≠ tag))) =
      decode (name, .object (members'.filter (·.1 ≠ tag)))) :
    ((object members).tagged? tag).bind decode = ((object members').tagged? tag).bind decode := by
  rw [tagged?_object, tagged?_object, same, Option.bind_map, Option.bind_map]
  exact congrArg _ (funext onward)

end Json

theorem mapM_map_some {α β : Type} {encode : α → β} {decode : β → Option α} {values : List α}
    (back : ∀ a ∈ values, decode (encode a) = some a) :
    (values.map encode).mapM decode = some values := by
  induction values with
  | nil => rfl
  | cons a rest ih =>
    have first := back a List.mem_cons_self
    have later := ih fun b member => back b (List.mem_cons_of_mem _ member)
    simp [first, later]

namespace EnsembleKind

theorem decode?_toJson (buffered : Bool) (kind : EnsembleKind) :
    decode? buffered kind.toJson = some kind := by
  cases kind <;> rfl

end EnsembleKind

namespace Server

theorem ofJson?_toJson (s : Server) : ofJson? s.toJson = some s := by
  have bound : s.port.toNat ≤ UInt16.size - 1 := Nat.le_of_lt_succ s.port.toNat_lt
  have values : s.toJson.fields? fields = some [.string s.address, .ofNat s.port.toNat] := rfl
  simp only [ofJson?, values, Json.string?, Json.natUpTo?_ofNat bound, Option.bind_eq_bind,
    Option.bind_some, UInt16.ofNat_toNat]
  rfl

theorem exact_toJson (s : Server) : s.toJson.Exact := by
  have port : (Json.ofNat s.port.toNat).Exact :=
    Json.exact_ofNat (Nat.lt_trans s.port.toNat_lt (by decide))
  apply Json.Exact.object
  simp [port, Json.Exact.string]

end Server

namespace Connection

theorem decode?_toJson (buffered : Bool) (c : Connection) :
    decode? buffered c.toJson = some c := by
  have servers := mapM_map_some fun s (_ : s ∈ c.servers) => s.ofJson?_toJson
  have values : c.toJson.fields? fields = some [c.kind.toJson,
      .array (c.servers.map Server.toJson), .ofOption .string c.path] := rfl
  have path : (Json.ofOption .string c.path).nullable? Json.string? = some c.path :=
    Json.nullable?_ofOption nofun fun _ _ => rfl
  simp only [decode?, values, path, Json.items?, servers, EnsembleKind.decode?_toJson,
    Option.bind_eq_bind, Option.bind_some]
  rfl

theorem exact_toJson (c : Connection) : c.toJson.Exact := by
  have servers : (Json.array (c.servers.map Server.toJson)).Exact := by
    apply Json.Exact.array
    simp [Server.exact_toJson]
  have path := Json.exact_ofOption Json.Exact.string c.path
  apply Json.Exact.object
  simp [EnsembleKind.toJson, servers, path, Json.Exact.string]

theorem ofJson?_congr {members members' : List (String × Json)}
    (alike : ∀ field ∈ fields, Json.meant field.name field.unnamed? members =
      Json.meant field.name field.unnamed? members') :
    ofJson? (.object members) = ofJson? (.object members') := by
  rw [ofJson?, ofJson?, decode?, decode?, Json.fields?_congr alike]

end Connection

namespace StorageBackend

theorem ofJson?_toJson (backend : StorageBackend) : ofJson? backend.toJson = some backend := by
  cases backend with
  | inMemory => rfl
  | kafka zookeeper =>
    have tagged : (toJson (.kafka zookeeper)).tagged? "type" =
        some ("kafka", .object [("zookeeper", zookeeper.toJson)]) := rfl
    have values : (Json.object [("zookeeper", zookeeper.toJson)]).fields? kafkaFields =
        some [zookeeper.toJson] := rfl
    have name : StorageType.ofName? "kafka" = some .kafka := rfl
    simp only [ofJson?, tagged, name, values, Connection.decode?_toJson, Option.bind_eq_bind,
      Option.bind_some]
    rfl

theorem exact_toJson (backend : StorageBackend) : backend.toJson.Exact := by
  cases backend with
  | inMemory =>
    apply Json.Exact.object
    simp [Json.Exact.string]
  | kafka zookeeper =>
    apply Json.Exact.object
    simp [zookeeper.exact_toJson, Json.Exact.string]

end StorageBackend

namespace Storage

theorem ofJson?_toJson (s : Storage) : ofJson? s.toJson = some s := by
  have values : s.toJson.fields? fields =
      some [.string s.id, s.backend.toJson, .bool s.isDefault] := rfl
  simp only [ofJson?, values, Json.string?, Json.bool?, StorageBackend.ofJson?_toJson,
    Option.bind_eq_bind, Option.bind_some]
  rfl

theorem exact_toJson (s : Storage) : s.toJson.Exact := by
  apply Json.Exact.object
  simp [s.backend.exact_toJson, Json.Exact.string, Json.Exact.bool]

theorem ofJson?_congr {members members' : List (String × Json)}
    (alike : ∀ field ∈ fields, Json.meant field.name field.unnamed? members =
      Json.meant field.name field.unnamed? members') :
    ofJson? (.object members) = ofJson? (.object members') := by
  rw [ofJson?, ofJson?, Json.fields?_congr alike]

end Storage

theorem exact_eventTypeJson (name : String) : (eventTypeJson name).Exact := by
  apply Json.Exact.object
  simp [Json.Exact.string]

theorem eventTypeOfJson?_eventTypeJson (name : String) :
    eventTypeOfJson? (eventTypeJson name) = some name := rfl

theorem eventTypeOfJson?_congr {members members' : List (String × Json)}
    (alike : ∀ field ∈ eventTypeFields, Json.meant field.name field.unnamed? members =
      Json.meant field.name field.unnamed? members') :
    eventTypeOfJson? (.object members) = eventTypeOfJson? (.object members') := by
  rw [eventTypeOfJson?, eventTypeOfJson?, Json.fields?_congr alike]

namespace Position

theorem offset?_ofNat (name : String) (offset : UInt64) :
    offset? (name, .ofNat offset.toNat) = some (name, offset) := by
  have bound : offset.toNat ≤ UInt64.size - 1 := Nat.le_of_lt_succ offset.toNat_lt
  simp only [offset?, Json.natUpTo?_ofNat bound, Option.map_some, UInt64.ofNat_toNat]

theorem ofJson?_toJson (p : Position) : ofJson? p.toJson = some p := by
  have offsets := mapM_map_some fun e (_ : e ∈ p.offsets.entries) => offset?_ofNat e.1 e.2
  have values : p.toJson.fields? fields = some [.object (p.offsets.entries.map fun e =>
      (e.1, .ofNat e.2.toNat))] := rfl
  simp only [ofJson?, values, offsets, Option.bind_eq_bind, Option.bind_some, ofList,
    Table.ofList_entries]
  rfl

theorem exact_toJson (p : Position) : p.toJson.Exact := by
  have offsets : (Json.object (p.offsets.entries.map fun e => (e.1, .ofNat e.2.toNat))).Exact := by
    apply Json.Exact.object
    intro m member
    obtain ⟨e, -, rfl⟩ := List.mem_map.1 member
    exact Json.exact_ofNat e.2.toNat_lt
  apply Json.Exact.object
  simpa using offsets

theorem ofJson?_congr {members members' : List (String × Json)}
    (alike : ∀ field ∈ fields, Json.meant field.name field.unnamed? members =
      Json.meant field.name field.unnamed? members') :
    ofJson? (.object members) = ofJson? (.object members') := by
  rw [ofJson?, ofJson?, Json.fields?_congr alike]

end Position

namespace Uuid

theorem ofJson?_toJson (u : Uuid) : ofJson? u.toJson = some u := by
  simp only [ofJson?, toJson, Json.string?, Option.bind_some, parse?_text]

end Uuid

namespace Timestamp

theorem ofJson?_toJson {t : Timestamp} (ordinary : t.Ordinary) : ofJson? t.toJson = some t := by
  simp only [ofJson?, toJson, Json.string?, Option.bind_some, text, String.toList_ofList,
    read?_write ordinary]

end Timestamp

namespace Cursor

theorem ofJson?_toJson (c : Cursor) : ofJson? c.toJson = some c := by
  cases c with
  | legacy partition offset => rfl
  | onTimeline partition timeline offset =>
    have tagged : (toJson (.onTimeline partition timeline offset)).tagged? "version" =
        some ("v1", .object [("partition", .string partition), ("timeline_id", timeline.toJson),
          ("offset", .string offset)]) := rfl
    have values : (Json.object [("partition", .string partition), ("timeline_id", timeline.toJson),
        ("offset", .string offset)]).fields? timelineFields =
        some [.string partition, timeline.toJson, .string offset] := rfl
    simp only [ofJson?, tagged, values, Json.string?, Uuid.ofJson?_toJson, Option.bind_eq_bind,
      Option.bind_some]
    rfl

theorem exact_toJson (c : Cursor) : c.toJson.Exact := by
  cases c with
  | legacy partition offset =>
    apply Json.Exact.object
    simp [Json.Exact.string]
  | onTimeline partition timeline offset =>
    apply Json.Exact.object
    simp [Uuid.toJson, Json.Exact.string]

theorem ofJson?_congr {members members' : List (String × Json)}
    (version : Json.meant "version" none members = Json.meant "version" none members')
    (alike : ∀ field ∈ timelineFields, Json.meant field.name field.unnamed? members =
      Json.meant field.name field.unnamed? members') :
    ofJson? (.object members) = ofJson? (.object members') := by
  have record : ∀ fields ⊆ timelineFields,
      (Json.object (members.filter (·.1 ≠ "version"))).fields? fields =
        (Json.object (members'.filter (·.1 ≠ "version"))).fields? fields := by
    intro fields some
    refine Json.fields?_congr fun field inside => ?_
    have other : field.name ≠ "version" := by
      have each : ∀ field ∈ timelineFields, field.name ≠ "version" := by decide
      exact each field (some inside)
    rw [Json.meant_filter other, Json.meant_filter other, alike field (some inside)]
  refine Json.tagged?_congr version fun name => ?_
  have legacy := record legacyFields (by simp [legacyFields, timelineFields])
  have onTimeline := record timelineFields (List.Subset.refl _)
  dsimp only
  rw [legacy, onTimeline]

end Cursor

namespace Timeline

/-- Its points in time are of the years 0 to 9999 in UTC and in no leap second. -/
structure Timely (t : Timeline) : Prop where
  created : t.createdAt.Ordinary
  switched : ∀ switched ∈ t.switchedAt, switched.Ordinary

instance (t : Timeline) : Decidable t.Timely :=
  decidable_of_iff (t.createdAt.Ordinary ∧ ∀ switched ∈ t.switchedAt, switched.Ordinary)
    ⟨fun ⟨created, switched⟩ => ⟨created, switched⟩,
      fun timely => ⟨timely.created, timely.switched⟩⟩

def Fits (t : Timeline) : Prop := t.order < UInt32.size

/-- What is left of a timeline that was written. -/
def stored (t : Timeline) : Timeline := { t with fake := false }

theorem ofJson?_toJson {t : Timeline} (fits : t.Fits) (timely : t.Timely) :
    ofJson? t.toJson = some t.stored := by
  have bound : t.order ≤ UInt32.size - 1 := Nat.le_of_lt_succ fits
  have values : t.toJson.fields? fields =
      some [t.id.toJson, .string t.eventType, .ofNat t.order, t.storage.toJson, topicJson t.topic,
        t.createdAt.toJson, .ofOption Timestamp.toJson t.switchedAt,
        .ofOption Position.toJson t.lastPosition] := rfl
  have switched : (Json.ofOption Timestamp.toJson t.switchedAt).nullable? Timestamp.ofJson? =
      some t.switchedAt :=
    Json.nullable?_ofOption nofun fun s member => Timestamp.ofJson?_toJson (timely.switched s member)
  have last : (Json.ofOption Position.toJson t.lastPosition).nullable? Position.ofJson? =
      some t.lastPosition := Json.nullable?_ofOption nofun fun p _ => p.ofJson?_toJson
  simp only [ofJson?, values, switched, last, Json.string?, Json.natUpTo?_ofNat bound,
    Uuid.ofJson?_toJson, Storage.ofJson?_toJson, Timestamp.ofJson?_toJson timely.created,
    Option.bind_eq_bind, Option.bind_some]
  rfl

theorem fits_of_ofJson? {json : Json} {t : Timeline} (found : ofJson? json = some t) :
    t.Fits ∧ t.stored = t := by
  obtain ⟨values, -, found⟩ := Option.bind_eq_some_iff.1 found
  split at found
  · obtain ⟨id, -, found⟩ := Option.bind_eq_some_iff.1 found
    obtain ⟨eventType, -, found⟩ := Option.bind_eq_some_iff.1 found
    obtain ⟨order, inRange, found⟩ := Option.bind_eq_some_iff.1 found
    obtain ⟨storage, -, found⟩ := Option.bind_eq_some_iff.1 found
    obtain ⟨topic, -, found⟩ := Option.bind_eq_some_iff.1 found
    obtain ⟨created, -, found⟩ := Option.bind_eq_some_iff.1 found
    obtain ⟨switched, -, found⟩ := Option.bind_eq_some_iff.1 found
    obtain ⟨last, -, found⟩ := Option.bind_eq_some_iff.1 found
    obtain rfl := Option.some.inj found
    exact ⟨Nat.lt_succ_of_le (Json.le_of_natUpTo? inRange), rfl⟩
  · cases found

theorem exact_toJson {t : Timeline} (fits : t.Fits) : t.toJson.Exact := by
  have order : (Json.ofNat t.order).Exact := Json.exact_ofNat (Nat.lt_trans fits (by decide))
  have topic : (topicJson t.topic).Exact := by
    apply Json.Exact.object
    simp [Json.Exact.string]
  have moment : ∀ t : Timestamp, t.toJson.Exact := fun t => .string t.text
  have switched := Json.exact_ofOption moment t.switchedAt
  have last := Json.exact_ofOption Position.exact_toJson t.lastPosition
  apply Json.Exact.object
  simp [order, topic, switched, last, t.storage.exact_toJson, Uuid.toJson, Timestamp.toJson,
    Json.Exact.string]

theorem ofJson?_congr {members members' : List (String × Json)}
    (alike : ∀ field ∈ fields, Json.meant field.name field.unnamed? members =
      Json.meant field.name field.unnamed? members') :
    ofJson? (.object members) = ofJson? (.object members') := by
  rw [ofJson?, ofJson?, Json.fields?_congr alike]

end Timeline

end Cutover
