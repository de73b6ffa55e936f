set_option autoImplicit false

namespace Cutover

/-- JSON values. A number is an integer only if it is written as one and fits 64 bits, signed or
unsigned; every other number keeps its text. -/
inductive Json where
  | null
  | bool (value : Bool)
  | integer (value : Int)
  | real (literal : String)
  | string (value : String)
  | array (items : List Json)
  | object (members : List (String × Json))
  deriving Inhabited

namespace Json

/-- The value of a key in an object that has been read into a map, which keeps the last of several
members with one key. -/
def lookup (key : String) : List (String × Json) → Option Json
  | [] => none
  | (name, value) :: rest =>
      match lookup key rest with
      | some later => some later
      | none => if name = key then some value else none

def member? (key : String) : Json → Option Json
  | .object members => lookup key members
  | _ => none

/-- Like `member?`, but a member that is null counts as missing. -/
def given? (key : String) (json : Json) : Option Json :=
  match json.member? key with
  | some .null => none
  | found => found

/-- An optional member: missing and null mean none; anything else must decode. -/
def optional? {α : Type} (decode : Json → Option α) (key : String) (json : Json) :
    Option (Option α) :=
  match json.given? key with
  | none => some none
  | some value => (decode value).map some

def string? : Json → Option String
  | .string value => some value
  | _ => none

def bool? : Json → Option Bool
  | .bool value => some value
  | _ => none

def natUpTo? (limit : Nat) : Json → Option Nat
  | .integer value => if 0 ≤ value ∧ value ≤ limit then some value.toNat else none
  | _ => none

def items? : Json → Option (List Json)
  | .array items => some items
  | _ => none

def ofNat (n : Nat) : Json := .integer n

def ofOption {α : Type} (encode : α → Json) : Option α → Json
  | none => .null
  | some value => encode value

end Json

end Cutover
