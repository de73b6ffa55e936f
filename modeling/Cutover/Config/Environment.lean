import Cutover.Config.Setting
import Cutover.Text.Cut

set_option autoImplicit false

namespace Cutover.Environment

open Cutover.Text

/-- What the names of the variables begin with, in lower case. -/
def mark : List Char := ['t', 'i', 'd', 'e', 'l', 'i', 'n', 'e', '_', '_']

/-- Writes a point for every two underscores, from the left. -/
def pointed : List Char → List Char
  | '_' :: '_' :: rest => '.' :: pointed rest
  | c :: rest => c :: pointed rest
  | [] => []

/-- The key that a variable sets, if it sets one. -/
def key? (name : String) : Option String :=
  (strip? mark (lower name).toList).map fun rest => String.ofList (pointed rest)

/-- A value is a flag, an integer of 64 bits, a floating-point number or else a text. -/
def valueOf (value : String) : Setting :=
  let word := lower value
  if word = "true" then .flag true
  else if word = "false" then .flag false
  else
    match signed? value.toList with
    | some n => .whole n
    | none =>
        match Double.parse? value.toList with
        | some d => .real d
        | none => .text value

def settings (assigned : List (String × String)) : List (String × Setting) :=
  assigned.filterMap fun (name, value) => (key? name).map fun key => (key, valueOf value)

end Cutover.Environment
