import Cutover.Text.Blank
import Cutover.Text.Decimal
import Cutover.Time.Civil

set_option autoImplicit false

namespace Cutover

/-- A point in time: seconds since the start of 1970 in UTC, and nanoseconds of that second.
Inside a leap second the nanoseconds go on from 10^9. -/
structure Timestamp where
  seconds : Int
  nanos : Nat
  deriving DecidableEq, Inhabited

namespace Timestamp

open Cutover.Text

def ofMillis (n : Nat) : Timestamp := ⟨n / 1000, n % 1000 * 1000000⟩

/-- A year of more than four digits, or before year 0, has its sign. -/
def yearText (year : Int) : List Char :=
  if 0 ≤ year ∧ year ≤ 9999 then padded 4 year.toNat
  else (if year < 0 then '-' else '+') :: padded 4 year.natAbs

def fractionText (nanos : Nat) : List Char :=
  if nanos = 0 then []
  else if nanos % 1000000 = 0 then '.' :: padded 3 (nanos / 1000000)
  else if nanos % 1000 = 0 then '.' :: padded 6 (nanos / 1000)
  else '.' :: padded 9 nanos

def write (t : Timestamp) : List Char :=
  let date := Date.ofDays (t.seconds / 86400)
  let ofDay := (t.seconds % 86400).toNat
  let leap := t.nanos / 1000000000
  yearText date.year ++ '-' :: padded 2 date.month ++ '-' :: padded 2 date.day ++
    'T' :: padded 2 (ofDay / 3600) ++ ':' :: padded 2 (ofDay / 60 % 60) ++
    ':' :: padded 2 (ofDay % 60 + leap) ++ fractionText (t.nanos % 1000000000) ++ ['Z']

/-- A number of at most `width` digits, after blanks. -/
def field? (width : Nat) (text : List Char) : Option (Nat × List Char) :=
  let text := trimStart text
  let run := (text.takeWhile isDigit).take width
  if run = [] then none else some (value run, text.drop run.length)

/-- A year: up to four digits, or any number of digits after a sign. -/
def yearField? (text : List Char) : Option (Int × List Char) :=
  match trimStart text with
  | '-' :: rest => (field? rest.length rest).bind fun (n, more) =>
      if rest.head?.any isDigit then some (-(n : Int), more) else none
  | '+' :: rest => (field? rest.length rest).bind fun (n, more) =>
      if rest.head?.any isDigit then some ((n : Int), more) else none
  | rest => (field? 4 rest).map fun (n, more) => ((n : Int), more)

def mark? (c : Char) (text : List Char) : Option (List Char) :=
  match trimStart text with
  | first :: rest => if first = c then some rest else none
  | [] => none

/-- The nanoseconds of a fraction, read after its point; digits after the ninth do not count. -/
def fraction? (text : List Char) : Option (Nat × List Char) :=
  match text with
  | '.' :: rest =>
      let run := rest.takeWhile isDigit
      if run = [] then none
      else
        let kept := run.take 9
        some (value kept * tenTo (9 - kept.length), rest.dropWhile isDigit)
  | _ => some (0, text)

def twoDigits? : List Char → Option (Nat × List Char)
  | a :: b :: rest => if isDigit a && isDigit b then some (value [a, b], rest) else none
  | _ => none

/-- The offset from UTC in seconds, after blanks. -/
def offset? (text : List Char) : Option (Int × List Char) :=
  let text := trimStart text
  let signed (sign : Int) (rest : List Char) : Option (Int × List Char) := do
    let (hours, rest) ← twoDigits? rest
    let (minutes, rest) ← twoDigits? (rest.dropWhile fun c => c = ':' || isBlank c)
    let seconds : Nat := hours * 3600 + minutes * 60
    if minutes < 60 ∧ hours < 24 then some (sign * seconds, rest) else none
  if String.ofList ((text.take 3).map Char.toUpper) = "UTC" then some (0, text.drop 3)
  else
    match text with
    | 'Z' :: rest => some (0, rest)
    | 'z' :: rest => some (0, rest)
    | '+' :: rest => signed 1 rest
    | '-' :: rest => signed (-1) rest
    | '\u2212' :: rest => signed (-1) rest
    | _ => none

/-- The years that a date can have. -/
def isYear (year : Int) : Bool := -262143 ≤ year && year ≤ 262142

def read? (text : List Char) : Option Timestamp := do
  let (year, rest) ← yearField? text
  let rest ← mark? '-' rest
  let (month, rest) ← field? 2 rest
  let rest ← mark? '-' rest
  let (day, rest) ← field? 2 rest
  let rest ←
    match rest with
    | 'T' :: rest => some rest
    | 't' :: rest => some rest
    | ' ' :: rest => some rest
    | _ => none
  let (hour, rest) ← field? 2 rest
  let rest ← mark? ':' rest
  let (minute, rest) ← field? 2 rest
  let rest ← mark? ':' rest
  let (second, rest) ← field? 2 rest
  let (nanos, rest) ← fraction? rest
  let (offset, rest) ← offset? rest
  let date : Date := ⟨year, month, day⟩
  if trimStart rest = [] ∧ isYear year ∧ date.isValid ∧ hour < 24 ∧ minute < 60 ∧ second ≤ 60 then
    let seconds := date.toDays * 86400 + (hour * 3600 + minute * 60 + min second 59 : Nat) - offset
    let leap := if second = 60 then 1000000000 else 0
    if isYear (Date.ofDays (seconds / 86400)).year then some ⟨seconds, nanos + leap⟩ else none
  else none

def text (t : Timestamp) : String := String.ofList t.write

end Timestamp

end Cutover
