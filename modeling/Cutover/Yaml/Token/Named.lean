import Cutover.Text.Hexadecimal
import Cutover.Yaml.Input
import Cutover.Yaml.Token

set_option autoImplicit false

namespace Cutover.Yaml

def isAnchorChar (c : Char) : Bool := !isGap c && !isFlowMark c && c ≠ '\ufeff'

/-- The name after the mark of an anchor or a reference. -/
def anchorName? (i : Input) : Option (String × Input) :=
  let (name, i) := (i.pass 1).run isAnchorChar
  if name.isEmpty then none else some (String.ofList name, i)

def uriMarks : List Char :=
  ['#', ';', '/', '?', ':', '@', '&', '=', '+', '$', ',', '_', '.', '!', '~', '*', '\'', '(', ')',
    '[', ']', '%']

def isUriChar (c : Char) : Bool := c.isAlphanum || c = '-' || uriMarks.contains c

def isTagChar (c : Char) : Bool := isUriChar c && !isFlowMark c && c ≠ '!'

def uriByte? (i : Input) : Option (Nat × Input) :=
  match i.rest with
  | '%' :: high :: low :: _ => (Text.based? 16 [high, low]).map fun n => (n, i.pass 3)
  | _ => none

/-- The bytes that follow the first byte of a character, put together with it. -/
def uriTail? : Nat → Nat → Input → Option (Nat × Input)
  | 0, code, i => some (code, i)
  | count + 1, code, i => do
      let (byte, i) ← uriByte? i
      if byte / 64 = 2 then uriTail? count (code * 256 + byte) i else none

/-- The character that bytes after percent signs stand for: the first byte tells how many they
are. -/
def uriEscape? (i : Input) : Option (Char × Input) := do
  let (byte, i) ← uriByte? i
  let more ←
    if byte < 128 then some 0
    else if byte / 32 = 6 then some 1
    else if byte / 16 = 14 then some 2
    else if byte / 8 = 30 then some 3
    else none
  let (code, i) ← uriTail? more byte i
  if code < 0xD800 ∨ (0xDFFF < code ∧ code < 0x110000) then return (Char.ofNat code, i) else none

/-- Adds the characters of a class that come next, with escapes, the last one first. -/
def uriRun? (p : Char → Bool) : Nat → List Char → Input → Option (List Char × Input)
  | 0, _, _ => none
  | fuel + 1, done, i =>
      if !p i.head then some (done, i)
      else if i.head = '%' then
        (uriEscape? i).bind fun (c, i) => uriRun? p fuel (c :: done) i
      else uriRun? p fuel (i.head :: done) (i.pass 1)

def uriText? (p : Char → Bool) (i : Input) : Option (List Char × Input) :=
  (uriRun? p (i.rest.length + 1) [] i).map fun (done, i) => (done.reverse, i)

/-- A handle: an exclamation mark, a name and perhaps another exclamation mark. -/
def handle? (i : Input) : Option (List Char × Input) :=
  if i.head ≠ '!' then none
  else
    let (name, i) := (i.pass 1).run isNameChar
    if i.head = '!' then some ('!' :: name ++ ['!'], i.pass 1) else some ('!' :: name, i)

def verbatimTag? (i : Input) : Option (Token × Input) := do
  let (suffix, i) ← uriText? isUriChar (i.pass 2)
  if i.head = '>' then return (.tag "" (String.ofList suffix), i.pass 1) else none

/-- A tag with a handle of its own, or with the handle of one exclamation mark. -/
def shortTag? (i : Input) : Option (Token × Input) := do
  let (handle, i) ← handle? i
  let (suffix, i) ← uriText? isTagChar i
  if 2 ≤ handle.length ∧ handle.getLast? = some '!' then
    if suffix.isEmpty then none else return (.tag (String.ofList handle) (String.ofList suffix), i)
  else
    let suffix := handle.drop 1 ++ suffix
    if suffix.isEmpty then return (.tag "" "!", i) else return (.tag "!" (String.ofList suffix), i)

def tag? (flow : Bool) (i : Input) : Option (Token × Input) := do
  let (token, i) ← if i.second = '<' then verbatimTag? i else shortTag? i
  if isGap i.head || (flow && isFlowMark i.head) then return (token, i) else none

def passSpace (i : Input) : Input := (i.run isBlank).2

def passNumber? (i : Input) : Option Input :=
  let (digits, i) := i.run Char.isDigit
  if digits.isEmpty || 9 < digits.length then none else some i

def version? (i : Input) : Option (Token × Input) := do
  let i ← passNumber? (passSpace i)
  if i.head ≠ '.' then none else (passNumber? (i.pass 1)).map fun i => (.version, i)

def tagRule? (i : Input) : Option (Token × Input) := do
  let (handle, i) ← handle? (passSpace i)
  if handle.length ≠ 1 ∧ handle.getLast? ≠ some '!' then none
  else
    let i := passSpace i
    let (first, i) ←
      if i.head = '!' then some (['!'], i.pass 1)
      else if !isTagChar i.head then none
      else some ([], i)
    let (more, i) ← uriText? isUriChar i
    if isGap i.head then
      return (.tagRule (String.ofList handle) (String.ofList (first ++ more)), i)
    else none

/-- A directive; an unknown one has no effect. -/
def directive? (i : Input) : Option (Token × Input) := do
  let (name, i) := (i.pass 1).run isNameChar
  if name.isEmpty || !isGap i.head then none
  else
    let (token, i) ←
      if name = ['Y', 'A', 'M', 'L'] then version? i
      else if name = ['T', 'A', 'G'] then tagRule? i
      else some (.tagRule "" "", i.passLine)
    let (_, i) ← i.passBlanks? true
    if i.endsLine then return (token, i.passBreak) else none

end Cutover.Yaml
