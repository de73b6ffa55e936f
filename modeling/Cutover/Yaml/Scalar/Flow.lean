import Cutover.Text.Hexadecimal
import Cutover.Yaml.Input

set_option autoImplicit false

namespace Cutover.Yaml

/-- What stands between two parts of a scalar; `joined` tells whether the line end of the first part
is escaped. -/
structure Seam where
  joined : Bool
  blanks : List Char
  breaks : Nat

namespace Seam

def empty : Seam := ⟨false, [], 0⟩

def spansLines (s : Seam) : Bool := s.joined || 0 < s.breaks

def text (s : Seam) : List Char :=
  if s.joined then List.replicate s.breaks '\n'
  else
    match s.breaks with
    | 0 => s.blanks
    | 1 => [' ']
    | n + 2 => List.replicate (n + 1) '\n'

end Seam

/-- The character with the code point that hexadecimal digits give; a surrogate is none. -/
def codePoint? (digits : List Char) : Option Char :=
  (Text.based? 16 digits).bind fun n =>
    if n < 0xD800 ∨ (0xDFFF < n ∧ n < 0x110000) then some (Char.ofNat n) else none

/-- The character that an escape of one character means. -/
def escaped? (c : Char) : Option Char :=
  match c with
  | '0' => some '\x00'
  | 'a' => some '\x07'
  | 'b' => some '\x08'
  | 't' => some '\t'
  | '\t' => some '\t'
  | 'n' => some '\n'
  | 'v' => some '\x0b'
  | 'f' => some '\x0c'
  | 'r' => some '\r'
  | 'e' => some '\x1b'
  | ' ' => some ' '
  | '"' => some '"'
  | '/' => some '/'
  | '\\' => some '\\'
  | 'N' => some '\u0085'
  | '_' => some '\u00a0'
  | 'L' => some '\u2028'
  | 'P' => some '\u2029'
  | _ => none

/-- How many hexadecimal digits follow an escape. -/
def escapeDigits? (c : Char) : Option Nat :=
  if c = 'x' then some 2 else if c = 'u' then some 4 else if c = 'U' then some 8 else none

/-- The character that an escape means, and what follows it. -/
def escape? (i : Input) : Option (Char × Input) :=
  match escapeDigits? i.second with
  | none => (escaped? i.second).map fun c => (c, i.pass 2)
  | some count =>
      let digits := (i.rest.drop 2).take count
      if digits.length < count then none
      else (codePoint? digits).map fun c => (c, i.pass (2 + count))

/-- Adds the part of a quoted scalar up to a gap or the quote, and tells whether its line end is
escaped. -/
def quotedPart? (quote : Char) : Nat → List Char → Input → Option (Bool × List Char × Input)
  | 0, _, _ => none
  | fuel + 1, done, i =>
      if isGap i.head then some (false, done, i)
      else if i.head = quote then
        if quote = '\'' && i.second = quote then quotedPart? quote fuel (quote :: done) (i.pass 2)
        else some (false, done, i)
      else if quote = '"' && i.head = '\\' then
        if isBreak i.second then some (true, done, (i.pass 1).passBreak)
        else (escape? i).bind fun (c, i) => quotedPart? quote fuel (c :: done) i
      else quotedPart? quote fuel (i.head :: done) (i.pass 1)

/-- Extends a seam of a quoted scalar up to the next part. A tab does not indent. -/
def quotedSeam? (indent : Int) : Nat → Seam → Input → Option (Seam × Input)
  | 0, _, _ => none
  | fuel + 1, seam, i =>
      if isBlank i.head then
        if !seam.spansLines then
          quotedSeam? indent fuel { seam with blanks := seam.blanks ++ [i.head] } (i.pass 1)
        else if i.head = '\t' && (i.column : Int) < indent then none
        else quotedSeam? indent fuel seam (i.pass 1)
      else if isBreak i.head then
        quotedSeam? indent fuel { seam with breaks := seam.breaks + 1 } i.passBreak
      else some (seam, i)

/-- Adds the rest of a quoted scalar, with its last character first. -/
def quotedRest? (quote : Char) (indent : Int) : Nat → List Char → Input →
    Option (List Char × Input)
  | 0, _, _ => none
  | fuel + 1, done, i =>
      if i.atMark || i.rest.isEmpty || (i.column : Int) < indent then none
      else do
        let (joined, done, i) ← quotedPart? quote (i.rest.length + 1) done i
        if i.head = quote then return (done, i.pass 1)
        else
          let (seam, i) ← quotedSeam? indent (i.rest.length + 1) ⟨joined, [], 0⟩ i
          quotedRest? quote indent fuel (seam.text.reverse ++ done) i

/-- A quoted scalar. Only the end of the line, a colon or, in flow style, a mark may follow it. A
key in block style stands on one line. -/
def quoted? (indent : Int) (flow : Bool) (i : Input) : Option (List Char × Input) := do
  let (done, after) ← quotedRest? i.head indent (i.rest.length + 1) [] (i.pass 1)
  let (_, after) ← after.passBlanks? true
  let c := after.head
  let fits :=
    after.endsLine || (flow && (c = ',' || c = ']' || c = '\x7d')) ||
      (c = ':' && (flow || after.line = i.line))
  if fits then return (done.reverse, after) else none

/-- Whether a character belongs to a plain scalar when another one follows. -/
def continuesPlain (flow : Bool) (c next : Char) : Bool :=
  !(c = ':' && (isGap next || (flow && isFlowMark next))) && !(flow && isFlowMark c)

/-- The part of a plain scalar up to a gap or a mark that ends it. -/
def plainPart (flow : Bool) : List Char → List Char
  | [] => []
  | c :: rest =>
      if isGap c || !continuesPlain flow c (rest.headD '\x00') then []
      else c :: plainPart flow rest

/-- Extends a seam of a plain scalar up to the next part. A tab does not indent anything but a
comment. -/
def plainSeam? (indent : Int) : Nat → Seam → Input → Option (Seam × Input)
  | 0, _, _ => none
  | fuel + 1, seam, i =>
      if isBlank i.head then
        if !seam.spansLines then
          plainSeam? indent fuel { seam with blanks := seam.blanks ++ [i.head] } (i.pass 1)
        else if i.head = '\t' && (i.column : Int) < indent then do
          let (_, i) ← i.passBlanks? true
          if i.endsLine then plainSeam? indent fuel seam i else none
        else plainSeam? indent fuel seam (i.pass 1)
      else if isBreak i.head then
        plainSeam? indent fuel { seam with breaks := seam.breaks + 1 } i.passBreak
      else some (seam, i)

/-- Adds the rest of a plain scalar, with its last character first. -/
def plainRest? (indent : Int) (flow : Bool) : Nat → List Char → Seam → Input →
    Option (List Char × Input)
  | 0, _, _, _ => none
  | fuel + 1, done, seam, i =>
      if i.atMark || i.head = '#' then some (done, i)
      else if flow && i.head = '-' && isFlowMark i.second then none
      else do
        let part := plainPart flow i.rest
        let done := if part.isEmpty then done else part.reverse ++ seam.text.reverse ++ done
        let i := i.pass part.length
        if !(isBlank i.head || isBreak i.head) then return (done, i)
        else
          let (seam, i) ← plainSeam? indent (i.rest.length + 1) .empty i
          if !flow && (i.column : Int) < indent then return (done, i)
          else plainRest? indent flow fuel done seam i

def plain? (indent : Int) (flow : Bool) (i : Input) : Option (List Char × Input) := do
  if flow && (i.column : Int) < indent then none
  else
    let (done, after) ← plainRest? indent flow (i.rest.length + 1) [] .empty i
    if done.isEmpty then none else return (done.reverse, after)

end Cutover.Yaml
