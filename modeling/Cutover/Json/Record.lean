import Cutover.Json.Basic

set_option autoImplicit false

namespace Cutover.Json

/-- What a missing field stands for: nothing, so that the record is refused; null, but only where
fields have names; or a value. -/
inductive Missing where
  | refused
  | null
  | standard (value : Json)

structure Field where
  name : String
  missing : Missing

namespace Field

def required (name : String) : Field := ⟨name, .refused⟩

def nullable (name : String) : Field := ⟨name, .null⟩

def defaulted (name : String) (value : Json) : Field := ⟨name, .standard value⟩

def unnamed? (field : Field) : Option Json :=
  match field.missing with
  | .refused => none
  | .null => some .null
  | .standard value => some value

def unlisted? (field : Field) : Option Json :=
  match field.missing with
  | .refused => none
  | .null => none
  | .standard value => some value

/-- The value of a field among named members; no two may have its name. -/
def among? (field : Field) (members : List (String × Json)) : Option Json :=
  match members.filter (·.1 = field.name) with
  | [] => field.unnamed?
  | [(_, value)] => some value
  | _ => none

end Field

/-- The values of fields of which a list holds as many as it is long, and no more. -/
def listed? : List Field → List Json → Option (List Json)
  | [], [] => some []
  | [], _ :: _ => none
  | field :: fields, [] => do
      let value ← field.unlisted?
      let values ← listed? fields []
      return value :: values
  | _ :: fields, item :: items => (listed? fields items).map (item :: ·)

/-- The values of the fields of a record: an object, in which other members are passed over, or a
list with the fields in their order. -/
def fields? (fields : List Field) : Json → Option (List Json)
  | .object members => fields.mapM (·.among? members)
  | .array items => listed? fields items
  | _ => none

/-- The tag of a tagged record, and the record without it. In a list the tag comes first. -/
def tagged? (tag : String) : Json → Option (String × Json)
  | .object members =>
      match members.filter (·.1 = tag) with
      | [(_, .string name)] => some (name, .object (members.filter (·.1 ≠ tag)))
      | _ => none
  | .array (.string name :: items) => some (name, .array items)
  | _ => none

/-- The name of a variant that carries nothing: alone, or as the only key of an object, with null.
What comes with a tagged record is `buffered`, and an empty object then counts as null. -/
def variant? (buffered : Bool) : Json → Option String
  | .string name => some name
  | .object [(name, .null)] => some name
  | .object [(name, .object [])] => if buffered then some name else none
  | _ => none

def nullable? {α : Type} (decode : Json → Option α) : Json → Option (Option α)
  | .null => some none
  | json => (decode json).map some

end Cutover.Json
