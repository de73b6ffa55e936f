import Cutover.Config.Path
import Cutover.Number.Double
import Cutover.Text.Lower

set_option autoImplicit false

namespace Cutover

/-- Trees of values as sources give them. Keys do not tell cases apart. -/
inductive Setting where
  | null
  | flag (value : Bool)
  | whole (value : Int)
  | real (value : Double)
  | text (value : String)
  | list (items : List Setting)
  | table (entries : List (String × Setting))
  deriving Inhabited

namespace Setting

/-- The entries of a table; anything else has none. -/
def entries : Setting → List (String × Setting)
  | .table entries => entries
  | _ => []

/-- The items of a list; anything else has none. -/
def items : Setting → List Setting
  | .list items => items
  | _ => []

def lookup (key : String) : List (String × Setting) → Option Setting
  | [] => none
  | (name, value) :: rest => if name = key then some value else lookup key rest

def get? (key : String) (s : Setting) : Option Setting := lookup key s.entries

/-- Sets the value of a key, in its place if the key is there already. -/
def assign (key : String) (value : Setting) : List (String × Setting) → List (String × Setting)
  | [] => [(key, value)]
  | (name, old) :: rest =>
      if name = key then (name, value) :: rest else (name, old) :: assign key value rest

mutual

/-- Merges a value into the entry of a key. A table is merged into the table that is there, and
takes the place of a value that is none; an empty table only makes sure that the key is there. -/
def put (target : List (String × Setting)) (key : String) :
    Setting → List (String × Setting)
  | .table incoming =>
      let name := Text.lower key
      let old := (lookup name target).getD (.table [])
      match incoming with
      | [] => assign name old target
      | entry :: rest => assign name (.table (putAll (old.entries) (entry :: rest))) target
  | value => assign (Text.lower key) value target

def putAll (target : List (String × Setting)) :
    List (String × Setting) → List (String × Setting)
  | [] => target
  | (key, value) :: rest => putAll (put target key value) rest

end

/-- Where a place is in a list of the given length; one before the start is nowhere. -/
def position? (index : Int) (length : Nat) : Option Nat :=
  if 0 ≤ index then some index.toNat
  else if -index ≤ length then some (length - index.natAbs)
  else none

/-- Sets an item of a list, with nulls up to it if the list is too short. -/
def setItem (position : Nat) (value : Setting) (items : List Setting) : List Setting :=
  (items ++ List.replicate (position + 1 - items.length) null).set position value

/-- Changes the value that a step leads to. What is no table, or no list, becomes one. -/
def update (change : Setting → Setting) (s : Setting) : PathStep → Setting
  | .key name =>
      let name := Text.lower name
      .table (assign name (change ((lookup name s.entries).getD .null)) s.entries)
  | .place index =>
      match position? index s.items.length with
      | none => s
      | some position =>
          .list (setItem position (change (s.items[position]?.getD .null)) s.items)

/-- Puts a value into the place that a path leads to; at a key it is merged. -/
def putAt (s : Setting) : List PathStep → Setting → Setting
  | [], value => value
  | [.key name], value => .table (put s.entries name value)
  | step :: path, value => s.update (fun inner => putAt inner path value) step

/-- Merges the entries of a source, whose keys are paths. -/
def layer (target : List (String × Setting)) (source : List (String × Setting)) :
    List (String × Setting) :=
  let merge (merged : List (String × Setting)) (entry : String × Setting) :=
    (putAt (.table merged) (PathStep.ofText entry.1) entry.2).entries
  source.foldl merge target

/-- The number of a setting: a flag counts as one or zero, a real number is rounded, a text is a
word for a flag or a number. -/
def unsigned? : Setting → Option Nat
  | .flag value => some (if value then 1 else 0)
  | .whole value => if 0 ≤ value then some value.toNat else none
  | .real value => some value.toUnsigned
  | .text value =>
      let word := Text.lower value
      if word = "true" ∨ word = "on" ∨ word = "yes" then some 1
      else if word = "false" ∨ word = "off" ∨ word = "no" then some 0
      else Text.unsigned? (UInt64.size - 1) value.toList
  | _ => none

/-- The text of a setting that is a single value. -/
def text? : Setting → Option String
  | .flag value => some (if value then "true" else "false")
  | .whole value => some (String.ofList (Text.integer value))
  | .real value => some (String.ofList value.text)
  | .text value => some value
  | _ => none

end Setting

end Cutover
