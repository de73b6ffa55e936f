import Cutover.Json.Basic
import Cutover.Text.Decimal
import Cutover.Text.Hexadecimal

set_option autoImplicit false

namespace Cutover.Json

open Cutover.Text

def skipBlanks (text : List Char) : List Char :=
  text.dropWhile fun c => c = ' ' || c = '\n' || c = '\r' || c = '\t'

/-- The number that four hexadecimal digits denote. -/
def codeUnit? (text : List Char) : Option (Nat × List Char) :=
  if text.length < 4 then none
  else (based? 16 (text.take 4)).map fun unit => (unit, text.drop 4)

/-- The character of an escape, read after its `\u`; a high surrogate needs its low one. -/
def escapedUnit? (text : List Char) : Option (Char × List Char) := do
  let (unit, rest) ← codeUnit? text
  if 0xD800 ≤ unit ∧ unit < 0xDC00 then
    match rest with
    | '\\' :: 'u' :: rest =>
        let (low, rest) ← codeUnit? rest
        if 0xDC00 ≤ low ∧ low < 0xE000 then
          some (Char.ofNat (0x10000 + (unit - 0xD800) * 0x400 + (low - 0xDC00)), rest)
        else none
    | _ => none
  else if 0xDC00 ≤ unit ∧ unit < 0xE000 then none
  else some (Char.ofNat unit, rest)

/-- The rest of a quoted text; `done` holds the characters read so far, the last one first. -/
def quotedRest? : Nat → List Char → List Char → Option (String × List Char)
  | 0, _, _ => none
  | _ + 1, _, [] => none
  | _ + 1, done, '"' :: rest => some (String.ofList done.reverse, rest)
  | fuel + 1, done, '\\' :: 'u' :: rest => do
      let (c, rest) ← escapedUnit? rest
      quotedRest? fuel (c :: done) rest
  | fuel + 1, done, '\\' :: c :: rest => do
      let meant ←
        match c with
        | '"' => some '"'
        | '\\' => some '\\'
        | '/' => some '/'
        | 'b' => some '\x08'
        | 'f' => some '\x0c'
        | 'n' => some '\n'
        | 'r' => some '\r'
        | 't' => some '\t'
        | _ => none
      quotedRest? fuel (meant :: done) rest
  | fuel + 1, done, c :: rest =>
      if c = '\\' ∨ c.toNat < 0x20 then none else quotedRest? fuel (c :: done) rest

/-- The characters that a number can consist of. -/
def isNumberChar (c : Char) : Bool :=
  isDigit c || c = '-' || c = '+' || c = '.' || c = 'e' || c = 'E'

/-- Whether digits may stand before the point: no zero leads another digit. -/
def isWholePart (text : List Char) : Bool :=
  !text.isEmpty && text.all isDigit && (text.length = 1 || text.head? ≠ some '0')

def isExponent : List Char → Bool
  | [] => true
  | mark :: rest =>
      let unsigned :=
        match rest with
        | '+' :: digits => digits
        | '-' :: digits => digits
        | digits => digits
      (mark = 'e' || mark = 'E') && !unsigned.isEmpty && unsigned.all isDigit

def isFractionAndExponent : List Char → Bool
  | '.' :: rest =>
      !(rest.takeWhile isDigit).isEmpty && isExponent (rest.dropWhile isDigit)
  | rest => isExponent rest

/-- The value of a number's text: an integer if it has neither fraction nor exponent, is not a
negative zero and fits 64 bits. -/
def numberOf? (literal : List Char) : Option Json :=
  let (negative, magnitude) :=
    match literal with
    | '-' :: rest => (true, rest)
    | _ => (false, literal)
  let whole := magnitude.takeWhile isDigit
  let rest := magnitude.dropWhile isDigit
  if isWholePart whole && isFractionAndExponent rest then
    let n := value whole
    if rest ≠ [] then some (.real (String.ofList literal))
    else if negative then
      if 0 < n ∧ n ≤ signedLimit then some (.integer (-n)) else some (.real (String.ofList literal))
    else if n < UInt64.size then some (.integer n)
    else some (.real (String.ofList literal))
  else none

mutual

/-- One value, with blanks around it allowed before it. The fuel bounds the nesting and the number
of items together; the length of the text suffices. -/
def readValue? : Nat → List Char → Option (Json × List Char)
  | 0, _ => none
  | fuel + 1, text =>
      match skipBlanks text with
      | 'n' :: 'u' :: 'l' :: 'l' :: rest => some (.null, rest)
      | 't' :: 'r' :: 'u' :: 'e' :: rest => some (.bool true, rest)
      | 'f' :: 'a' :: 'l' :: 's' :: 'e' :: rest => some (.bool false, rest)
      | '"' :: rest =>
          (quotedRest? (rest.length + 1) [] rest).map fun (text, rest) => (.string text, rest)
      | '[' :: rest =>
          match skipBlanks rest with
          | ']' :: rest => some (.array [], rest)
          | _ => (readItems? fuel rest).map fun (items, rest) => (.array items, rest)
      | '\x7b' :: rest =>
          match skipBlanks rest with
          | '\x7d' :: rest => some (.object [], rest)
          | _ => (readMembers? fuel rest).map fun (members, rest) => (.object members, rest)
      | rest =>
          (numberOf? (rest.takeWhile isNumberChar)).map fun number =>
            (number, rest.dropWhile isNumberChar)

/-- One or more values with commas between them, and the closing bracket. -/
def readItems? : Nat → List Char → Option ((List Json) × List Char)
  | 0, _ => none
  | fuel + 1, text => do
      let (item, rest) ← readValue? fuel text
      match skipBlanks rest with
      | ']' :: rest => some ([item], rest)
      | ',' :: rest => (readItems? fuel rest).map fun (items, rest) => (item :: items, rest)
      | _ => none

/-- One or more members with commas between them, and the closing brace. -/
def readMembers? : Nat → List Char → Option ((List (String × Json)) × List Char)
  | 0, _ => none
  | fuel + 1, text =>
      match skipBlanks text with
      | '"' :: rest => do
          let (key, rest) ← quotedRest? (rest.length + 1) [] rest
          match skipBlanks rest with
          | ':' :: rest =>
              let (value, rest) ← readValue? fuel rest
              match skipBlanks rest with
              | '\x7d' :: rest => some ([(key, value)], rest)
              | ',' :: rest =>
                  (readMembers? fuel rest).map fun (others, rest) => ((key, value) :: others, rest)
              | _ => none
          | _ => none
      | _ => none

end

/-- Reads a text that holds one JSON value and nothing else. -/
def read? (text : String) : Option Json :=
  match readValue? (text.length + 1) text.toList with
  | some (json, rest) => if skipBlanks rest = [] then some json else none
  | none => none

end Cutover.Json
