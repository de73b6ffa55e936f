import Cutover.Proofs.Formats.Encoders

set_option autoImplicit false

namespace Cutover

/-- How values of a type are written as JSON and read from it. Of an object only the members with
the given keys count; a key may come with the value that a missing member stands for. -/
structure Format (α : Type) where
  encode : α → Json
  decode : Json → Option α
  keys : List (String × Option Json)

namespace Format

variable {α : Type}

def write (f : Format α) (a : α) : String := (f.encode a).write

def read? (f : Format α) (text : String) : Option α := (Json.read? text).bind f.decode

/-- The text that an accepted text is brought to. -/
def canonical? (f : Format α) (text : String) : Option String := (f.read? text).map f.write

/-- What a format promises for the values that `holds` and `timely` single out; `kept` is what is
left of a value that was written and read. Two accepted texts are brought to the same text just when
they mean the same value. -/
structure Faithful (f : Format α) (holds timely : α → Prop) (kept : α → α) : Prop where
  back : ∀ a, holds a → timely a → f.read? (f.write a) = some (kept a)
  idempotent : ∀ text a, f.read? text = some a → timely a →
    f.canonical? text = some (f.write a) ∧ f.canonical? (f.write a) = some (f.write a)
  oneForm : ∀ text text' a a', f.read? text = some a → f.read? text' = some a' → timely a →
    timely a' → (f.canonical? text = f.canonical? text' ↔ a = a')
  known : ∀ members members', (∀ key ∈ f.keys,
    Json.meant key.1 key.2 members = Json.meant key.1 key.2 members') →
      f.decode (.object members) = f.decode (.object members')

variable {f : Format α} {holds timely : α → Prop} {kept : α → α}

theorem faithful (exact : ∀ a, holds a → (f.encode a).Exact)
    (back : ∀ a, holds a → timely a → f.decode (f.encode a) = some (kept a))
    (decoded : ∀ json a, f.decode json = some a → holds a ∧ kept a = a)
    (known : ∀ members members', (∀ key ∈ f.keys,
      Json.meant key.1 key.2 members = Json.meant key.1 key.2 members') →
        f.decode (.object members) = f.decode (.object members')) :
    f.Faithful holds timely kept := by
  have readWritten : ∀ a, holds a → timely a → f.read? (f.write a) = some (kept a) := by
    intro a held inTime
    rw [read?, write, Json.read?_write (exact a held), Option.bind_some, back a held inTime]
  have held : ∀ text a, f.read? text = some a → holds a ∧ kept a = a := by
    intro text a found
    obtain ⟨json, -, found⟩ := Option.bind_eq_some_iff.1 found
    exact decoded json a found
  have again : ∀ text a, f.read? text = some a → timely a → f.read? (f.write a) = some a := by
    intro text a found inTime
    have same := held text a found
    rw [readWritten a same.1 inTime, same.2]
  refine ⟨readWritten, ?idempotent, ?oneForm, known⟩
  case idempotent =>
    intro text a found inTime
    rw [canonical?, found, canonical?, again text a found inTime]
    exact ⟨rfl, rfl⟩
  case oneForm =>
    intro text text' a a' found found' inTime inTime'
    have readBack := again text a found inTime
    have readBack' := again text' a' found' inTime'
    rw [canonical?, canonical?, found, found', Option.map_some, Option.map_some,
      Option.some.injEq]
    constructor
    · intro same
      rw [same, readBack'] at readBack
      exact (Option.some.inj readBack).symm
    · exact congrArg f.write

/-- The keys of a format are the names of its fields, each with what it stands for if missing. -/
theorem known_fields {keys : List (String × Option Json)} {fields : List Json.Field}
    {members members' : List (String × Json)}
    (named : keys = fields.map fun field => (field.name, field.unnamed?))
    (alike : ∀ key ∈ keys, Json.meant key.1 key.2 members = Json.meant key.1 key.2 members') :
    ∀ field ∈ fields, Json.meant field.name field.unnamed? members =
      Json.meant field.name field.unnamed? members' := by
  subst named
  exact fun field inside => alike _ (List.mem_map_of_mem inside)

end Format

def Connection.format : Format Connection :=
  ⟨toJson, ofJson?, [("kind", none), ("addresses", none), ("path", some .null)]⟩

def Storage.format : Format Storage :=
  ⟨toJson, ofJson?, [("id", none), ("configuration", none), ("default", some (.bool false))]⟩

def eventTypeFormat : Format String := ⟨eventTypeJson, eventTypeOfJson?, [("name", none)]⟩

def Position.format : Format Position := ⟨toJson, ofJson?, [("offsets", none)]⟩

def Cursor.format : Format Cursor :=
  ⟨toJson, ofJson?,
    [("version", none), ("partition", none), ("timeline_id", none), ("offset", none)]⟩

def Timeline.format : Format Timeline :=
  ⟨toJson, ofJson?,
    [("id", none), ("event_type", none), ("order", none), ("storage", none),
      ("configuration", none), ("created_at", none), ("switched_at", some .null),
      ("last_position", some .null)]⟩

/-- Every connection, storage, event type, position and cursor is read back from what it is written
as; so is every timeline within the limits of its texts, except that it is no longer fake. For every
accepted text within these limits, writing again what was read gives a text that stays as it is, and
only the known members count. -/
theorem formats_round_trip :
    Connection.format.Faithful (fun _ => True) (fun _ => True) id ∧
    Storage.format.Faithful (fun _ => True) (fun _ => True) id ∧
    eventTypeFormat.Faithful (fun _ => True) (fun _ => True) id ∧
    Position.format.Faithful (fun _ => True) (fun _ => True) id ∧
    Cursor.format.Faithful (fun _ => True) (fun _ => True) id ∧
    Timeline.format.Faithful (fun t => t.order < UInt32.size) Timeline.Timely
      (fun t => { t with fake := false }) := by
  refine ⟨?connections, ?storages, ?eventTypes, ?positions, ?cursors, ?timelines⟩
  case connections =>
    apply Format.faithful
    · exact fun c _ => c.exact_toJson
    · exact fun c _ _ => c.decode?_toJson false
    · exact fun _ _ _ => ⟨trivial, rfl⟩
    · exact fun members members' alike => Connection.ofJson?_congr (Format.known_fields rfl alike)
  case storages =>
    apply Format.faithful
    · exact fun s _ => s.exact_toJson
    · exact fun s _ _ => s.ofJson?_toJson
    · exact fun _ _ _ => ⟨trivial, rfl⟩
    · exact fun members members' alike => Storage.ofJson?_congr (Format.known_fields rfl alike)
  case eventTypes =>
    apply Format.faithful
    · exact fun name _ => exact_eventTypeJson name
    · exact fun name _ _ => eventTypeOfJson?_eventTypeJson name
    · exact fun _ _ _ => ⟨trivial, rfl⟩
    · exact fun members members' alike => eventTypeOfJson?_congr (Format.known_fields rfl alike)
  case positions =>
    apply Format.faithful
    · exact fun p _ => p.exact_toJson
    · exact fun p _ _ => p.ofJson?_toJson
    · exact fun _ _ _ => ⟨trivial, rfl⟩
    · exact fun members members' alike => Position.ofJson?_congr (Format.known_fields rfl alike)
  case cursors =>
    apply Format.faithful
    · exact fun c _ => c.exact_toJson
    · exact fun c _ _ => c.ofJson?_toJson
    · exact fun _ _ _ => ⟨trivial, rfl⟩
    · intro members members' alike
      obtain ⟨version, others⟩ := List.forall_mem_cons.1 alike
      exact Cursor.ofJson?_congr version (Format.known_fields rfl others)
  case timelines =>
    apply Format.faithful
    · exact fun t fits => Timeline.exact_toJson fits
    · exact fun t fits timely => Timeline.ofJson?_toJson fits timely
    · exact fun json t found => Timeline.fits_of_ofJson? found
    · exact fun members members' alike => Timeline.ofJson?_congr (Format.known_fields rfl alike)

/-- A timeline's text with the identifier in capitals, the time in another zone, the storage and its
configuration as lists and members that nobody knows, and without those that may be missing. -/
def Timeline.respelledText : List Char :=
  "\x7b\"note\":[1,-2.50],\"id\":\"".toList ++
  "URN:UUID:6BA7B810-9DAD-11D1-80B4-00C04FD430C8".toList ++
  "\",\"event_type\":\"a\\u00e9\\u000A\",\"order\":4294967295,".toList ++
  "\"storage\":[\"s\",[\"kafka\",".toList ++
  "\x7b\"kind\":\x7b\"exhibitor\":\x7b\x7d\x7d,\"addresses\":[]\x7d]],".toList ++
  "\"configuration\":\x7b\"topic\":\"t\",\"retention\":null\x7d,".toList ++
  "\"created_at\":\"2024-02-29T00:30:00.5+01:00\" \x7d".toList

/-- The timeline that the text means. -/
def Timeline.respelled : Timeline :=
  ⟨⟨0x6ba7b8109dad11d180b400c04fd430c8⟩, "aé\n", 4294967295,
    ⟨"s", .kafka ⟨.exhibitor, [], none⟩, false⟩, "t", ⟨1709163000, 500000000⟩, none, none, false⟩

/-- The text is brought to the one of its timeline, which stays as it is; the same timeline, written
as a fake one, comes back as one that is not. -/
theorem formats_round_trip_respelled :
    Timeline.format.read? (String.ofList Timeline.respelledText) = some Timeline.respelled ∧
    Timeline.respelled.Timely ∧
    Timeline.format.canonical? (String.ofList Timeline.respelledText) =
      some (Timeline.format.write Timeline.respelled) ∧
    Timeline.format.canonical? (Timeline.format.write Timeline.respelled) =
      some (Timeline.format.write Timeline.respelled) ∧
    Timeline.format.read? (Timeline.format.write { Timeline.respelled with fake := true }) =
      some Timeline.respelled := by
  obtain ⟨-, -, -, -, -, timelines⟩ := formats_round_trip
  have read : Timeline.format.read? (String.ofList Timeline.respelledText) =
      some Timeline.respelled := by
    rw [Format.read?, Json.read?, String.length_ofList, String.toList_ofList]
    decide +kernel
  have timely : Timeline.respelled.Timely := by decide +kernel
  have stays := timelines.idempotent _ _ read timely
  have fits : Timeline.respelled.order < UInt32.size := by decide
  have back := timelines.back { Timeline.respelled with fake := true } fits
    ⟨timely.created, timely.switched⟩
  exact ⟨read, timely, stays.1, stays.2, back⟩

end Cutover
