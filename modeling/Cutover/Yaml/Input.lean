set_option autoImplicit false

namespace Cutover.Yaml

def isBlank (c : Char) : Bool := c = ' ' || c = '\t'

def isBreak (c : Char) : Bool := c = '\n' || c = '\r'

/-- Whether a character is a blank or ends a line or the text. -/
def isGap (c : Char) : Bool := isBlank c || isBreak c || c = '\x00'

/-- The characters that divide collections in flow style. -/
def isFlowMark (c : Char) : Bool :=
  c = ',' || c = '[' || c = ']' || c = '\x7b' || c = '\x7d'

def isNameChar (c : Char) : Bool := c.isAlphanum || c = '_' || c = '-'

/-- The rest of a text. `fresh` tells whether the line so far holds only blanks. -/
structure Input where
  rest : List Char
  index : Nat
  line : Nat
  column : Nat
  fresh : Bool

namespace Input

def start (text : List Char) : Input := ⟨text.takeWhile (· ≠ '\x00'), 0, 0, 0, true⟩

def head (i : Input) : Char := i.rest.headD '\x00'

def second (i : Input) : Char := i.rest.tail.headD '\x00'

def pass (i : Input) (count : Nat) : Input :=
  { i with
    rest := i.rest.drop count
    index := i.index + count
    column := i.column + count
    fresh := i.fresh && (i.rest.take count).all isBlank }

def passBreak (i : Input) : Input :=
  match i.rest with
  | '\r' :: '\n' :: rest => ⟨rest, i.index + 2, i.line + 1, 0, true⟩
  | c :: rest => if isBreak c then ⟨rest, i.index + 1, i.line + 1, 0, true⟩ else i
  | [] => i

/-- The characters of a class that come next, and what follows them. -/
def run (p : Char → Bool) (i : Input) : List Char × Input :=
  let run := i.rest.takeWhile p
  (run, i.pass run.length)

def passLine (i : Input) : Input := (i.run fun c => !isBreak c).2

def endsLine (i : Input) : Bool := isBreak i.head || i.head = '\x00'

/-- Passes blanks and a comment after them: the blanks, and what follows. A comment needs a blank
before it. -/
def passBlanks? (tabs : Bool) (i : Input) : Option (List Char × Input) :=
  let (blanks, i) := i.run fun c => c = ' ' || (tabs && c = '\t')
  if i.head ≠ '#' then some (blanks, i)
  else if blanks.isEmpty then none
  else some (blanks, i.passLine)

/-- Whether a line begins here with three of a character and a gap. -/
def isMark (c : Char) (i : Input) : Bool :=
  i.column = 0 && i.rest.take 3 = [c, c, c] && isGap ((i.rest.drop 3).headD '\x00')

def atMark (i : Input) : Bool := i.isMark '-' || i.isMark '.'

end Input

end Cutover.Yaml
