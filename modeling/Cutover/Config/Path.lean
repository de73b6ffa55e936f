import Cutover.Text.Decimal

set_option autoImplicit false

namespace Cutover

/-- A step of a path: to a key of a table, or to a place in a list. A negative place is counted from
the end. -/
inductive PathStep where
  | key (name : String)
  | place (index : Int)
  deriving DecidableEq

namespace PathStep

open Cutover.Text

def isKeyChar (c : Char) : Bool := c.isAlphanum || c = ' ' || c = '_' || c = '-'

def isSpace (c : Char) : Bool := c = ' ' || c = '\t'

/-- The key at the start of a text, and what follows it. -/
def key? (text : List Char) : Option (PathStep × List Char) :=
  let name := text.takeWhile isKeyChar
  if name.isEmpty then none else some (.key (String.ofList name), text.drop name.length)

/-- The place after an opening bracket, and what follows the closing one. -/
def place? (text : List Char) : Option (PathStep × List Char) :=
  let text := text.dropWhile isSpace
  let (sign, text) :=
    match text with
    | '-' :: rest => (['-'], rest)
    | _ => ([], text)
  let digits := text.takeWhile isDigit
  match (text.drop digits.length).dropWhile isSpace with
  | ']' :: rest => (signed? (sign ++ digits)).map fun index => (.place index, rest)
  | _ => none

/-- The steps after the first one. The fuel bounds their number; the length of the text suffices. -/
def more? : Nat → List Char → Option (List PathStep)
  | _, [] => some []
  | 0, _ => none
  | fuel + 1, '.' :: rest => do
      let (step, rest) ← key? rest
      return step :: (← more? fuel rest)
  | fuel + 1, '[' :: rest => do
      let (step, rest) ← place? rest
      return step :: (← more? fuel rest)
  | _, _ => none

/-- The path that a text spells. A text that spells none is a key itself. -/
def ofText (text : String) : List PathStep :=
  let path := do
    let (first, rest) ← key? text.toList
    return first :: (← more? rest.length rest)
  path.getD [.key text]

end PathStep

end Cutover
