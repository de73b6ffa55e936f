import Cutover.Config.Setting
import Cutover.Yaml.Node.Reader
import Cutover.Yaml.Token.Lexer

set_option autoImplicit false

namespace Cutover.Document

open Cutover.Yaml

/-- The text of a key. -/
def key? : Node → Option String
  | .text name => some name
  | .whole n => some (String.ofList (Text.integer n))
  | _ => none

mutual

/-- The setting that a value stands for; the special numbers of YAML stand for none. -/
def setting? : Node → Option Setting
  | .absent => some .null
  | .null => some .null
  | .flag value => some (.flag value)
  | .whole value => some (.whole value)
  | .real literal => (Double.parse? literal.toList).map .real
  | .text value => some (.text value)
  | .list items => (items? items).map .list
  | .table entries => (entries? [] entries).map .table

def items? : List Node → Option (List Setting)
  | [] => some []
  | item :: rest => do return (← setting? item) :: (← items? rest)

/-- The entries of a table; of two keys with one text the last counts. -/
def entries? (done : List (String × Setting)) :
    List (Node × Node) → Option (List (String × Setting))
  | [] => some done
  | (key, value) :: rest => do
      entries? (Setting.assign (← key? key) (← setting? value) done) rest

end

/-- The entries of the table that a text holds. A text without a document is an empty table, and a
mark of the byte order at its start is passed. -/
def read? (text : String) : Option (List (String × Setting)) := do
  let text :=
    match text.toList with
    | '\ufeff' :: rest => rest
    | text => text
  match ← Reader.only? (← tokens? text) with
  | none => return []
  | some node =>
      match ← setting? node with
      | .table entries => return entries
      | _ => none

end Cutover.Document
