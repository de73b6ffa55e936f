import Cutover.Yaml.Scalar.Block
import Cutover.Yaml.Scalar.Flow
import Cutover.Yaml.Token.Named

set_option autoImplicit false

namespace Cutover.Yaml

/-- An indentation that was left for a deeper one. `block` tells whether the deeper one belongs to a
block, and not just to the value of a key. -/
structure Indent where
  outer : Int
  block : Bool

/-- Where a key may have begun. A required one has to get its colon. -/
structure KeyStart where
  token : Nat
  required : Bool
  index : Nat
  line : Nat
  column : Nat

/-- A text that is being cut. `starts` has an entry for every open collection in flow style, the
innermost first, and one more. `nearColon` is where a colon may touch the value after it.
`sequences` tells of every open bracket, the innermost first, whether a pair without braces is under
way in it. `nameColumn` is where the last anchor or tag stands. -/
structure Lexer where
  input : Input
  tokens : Array Token
  keyAllowed : Bool
  starts : List (Option KeyStart)
  indent : Int
  indents : List Indent
  depth : Nat
  nearColon : Nat
  braceSeen : Bool
  sequences : List Bool
  nameColumn : Nat

namespace Lexer

def start (text : List Char) : Lexer :=
  ⟨.start text, #[], true, [none], -1, [], 0, 0, false, [], 0⟩

def inFlow (l : Lexer) : Bool := 0 < l.depth

def push (l : Lexer) (token : Token) : Lexer := { l with tokens := l.tokens.push token }

def insert (l : Lexer) (place : Nat) (token : Token) : Lexer :=
  { l with tokens := l.tokens.insertIdxIfInBounds place token }

def withInput (l : Lexer) (input : Input) : Lexer := { l with input := input }

/-- Passes blanks and a comment up to the end of the line. -/
def passBlanks? (l : Lexer) : Option Lexer :=
  (l.input.passBlanks? true).map fun (_, input) => l.withInput input

/-- Notes that a key may begin with the next token. -/
def saveStart (l : Lexer) : Lexer :=
  if l.keyAllowed then
    let i := l.input
    let required := !l.inFlow && l.indent = i.column && l.indents.head?.any (·.block)
    { l with starts := some ⟨l.tokens.size, required, i.index, i.line, i.column⟩ :: l.starts.tail }
  else l

def dropStart? (l : Lexer) : Option Lexer :=
  if (l.starts.head?.join).any (·.required) then none
  else some { l with starts := none :: l.starts.tail }

/-- Whether a key that began at a start can no longer get its colon: outside of the flow style it
stands on one line and has at most 1024 characters. -/
def isStale (i : Input) (start : KeyStart) : Bool :=
  start.line < i.line || start.index + 1024 < i.index

/-- Gives up the starts of keys that can no longer get their colon. -/
def dropStale? (l : Lexer) : Option Lexer :=
  if l.inFlow then some l
  else
    match l.starts with
    | some start :: rest =>
        if !isStale l.input start then some l
        else if start.required then none
        else some { l with starts := none :: rest }
    | _ => some l

def allowKey (l : Lexer) (allowed : Bool) : Lexer := { l with keyAllowed := allowed }

/-- The indentation after those deeper than a column are left, with how many blocks that ends. -/
def leave (column : Int) (indent : Int) : List Indent → Int × List Indent × Nat
  | [] => (indent, [], 0)
  | inner :: rest =>
      if indent ≤ column then (indent, inner :: rest, 0)
      else
        let (indent, rest, ends) := leave column inner.outer rest
        (indent, rest, if inner.block then ends + 1 else ends)

/-- Leaves the indentations that are deeper than a column. -/
def unroll (l : Lexer) (column : Int) : Lexer :=
  if l.inFlow then l
  else
    let (indent, indents, ends) := leave column l.indent l.indents
    { l with
      indent := indent
      indents := indents
      tokens := l.tokens ++ Array.replicate ends Token.blockEnd }

/-- Leaves the innermost indentations that belong to no block. -/
def unrollValues (l : Lexer) : Lexer :=
  let rec leaveValues (indent : Int) : List Indent → Int × List Indent
    | [] => (indent, [])
    | inner :: rest =>
        if inner.block then (indent, inner :: rest) else leaveValues inner.outer rest
  let (indent, indents) := leaveValues l.indent l.indents
  { l with indent := indent, indents := indents }

def indentValue (l : Lexer) : Lexer :=
  if !l.inFlow && l.indents.head?.any (·.block) then
    { l with indents := ⟨l.indent, false⟩ :: l.indents, indent := l.indent + 1 }
  else l

/-- Begins a block if a column is deeper than the indentation. -/
def roll (l : Lexer) (column : Nat) (place : Nat) (token : Token) : Lexer :=
  if l.inFlow then l
  else
    let l :=
      match l.indents with
      | ⟨outer, false⟩ :: rest =>
          if l.indent ≤ (column : Int) then { l with indent := outer, indents := rest } else l
      | _ => l
    if l.indent < (column : Int) then
      { l with indents := ⟨l.indent, true⟩ :: l.indents, indent := column }.insert place token
    else l

/-- Passes blanks, line ends and comments. A tab does not indent anything in a block. -/
def passSpace? : Nat → Lexer → Option Lexer
  | 0, _ => none
  | fuel + 1, l =>
      let i := l.input
      if i.head = '\t' && !l.indents.isEmpty && i.fresh && (i.column : Int) < l.indent then do
        let l ← l.passBlanks?
        if l.input.endsLine then passSpace? fuel l else none
      else if isBlank i.head then passSpace? fuel (l.withInput (i.pass 1))
      else if isBreak i.head then
        let l := l.withInput i.passBreak
        passSpace? fuel (if l.inFlow then l else l.allowKey true)
      else if i.head = '#' then passSpace? fuel (l.withInput i.passLine)
      else some l

def skipSpace? (l : Lexer) : Option Lexer := passSpace? (l.input.rest.length + 1) l

/-- Ends all blocks, where a document or the text ends. -/
def closeBlocks? (l : Lexer) : Option Lexer := do
  let l ← (l.unroll (-1)).dropStart?
  return l.allowKey false

def directive? (l : Lexer) : Option Lexer := do
  let l ← l.closeBlocks?
  let (token, input) ← Yaml.directive? l.input
  return (l.withInput input).push token

def documentStart? (l : Lexer) : Option Lexer := do
  let l ← l.closeBlocks?
  return (l.withInput (l.input.pass 3)).push .documentStart

/-- Nothing but a comment may follow the end of a document on its line. -/
def documentEnd? (l : Lexer) : Option Lexer := do
  let l ← l.closeBlocks?
  let l ← ((l.withInput (l.input.pass 3)).push .documentEnd).passBlanks?
  if l.input.endsLine then return l else none

/-- An opening bracket or brace. No more than 255 may be open. -/
def openFlow? (l : Lexer) (bracket : Bool) : Option Lexer :=
  let l := l.saveStart.indentValue
  if 255 ≤ l.depth then none
  else do
    let l :=
      if bracket then { l with sequences := false :: l.sequences } else { l with braceSeen := true }
    let l ← { l with
      starts := none :: l.starts
      depth := l.depth + 1
      keyAllowed := true
      input := l.input.pass 1 }.passBlanks?
    return l.push (if bracket then .bracket else .brace)

def closePair (l : Lexer) : Lexer :=
  match l.sequences with
  | true :: rest => { l with sequences := false :: rest, braceSeen := false }.push .braceEnd
  | _ => l

def closeFlow? (l : Lexer) (bracket : Bool) : Option Lexer := do
  let l ← l.dropStart?
  let l :=
    if l.inFlow then { l with depth := l.depth - 1, starts := l.starts.tail } else l
  let l := l.allowKey false
  let l :=
    if bracket then
      let l := l.closePair
      { l with sequences := l.sequences.tail }
    else l
  let l ← (l.withInput (l.input.pass 1)).passBlanks?
  let l := if l.inFlow then { l with nearColon := l.input.index } else l
  return l.push (if bracket then .bracketEnd else .braceEnd)

def comma? (l : Lexer) : Option Lexer := do
  let l ← l.dropStart?
  let l := (l.allowKey true).closePair
  let l ← (l.withInput (l.input.pass 1)).passBlanks?
  return l.push .comma

/-- Whether the last token is an anchor or a tag at the start of a line. -/
def followsName (l : Lexer) : Bool :=
  match l.tokens.back? with
  | some (.anchor _) => l.nameColumn = 0
  | some (.tag _ _) => l.nameColumn = 0
  | _ => false

/-- A dash before an item of a block. In a block, no item at the start of a line follows an anchor
or a tag at the start of a line. -/
def dash? (l : Lexer) : Option Lexer :=
  if l.inFlow || !l.keyAllowed then none
  else if l.followsName && l.input.column = 0 && 0 ≤ l.indent then none
  else do
    let column := l.input.column
    let l := l.withInput (l.input.pass 1)
    let l := l.roll column l.tokens.size .blockList
    let (blanks, input) ← l.input.passBlanks? true
    if blanks.contains '\t' && input.head = '-' && isGap input.second then none
    else
      let (_, input) ← input.passBlanks? false
      let l := l.withInput input
      let l := if isBreak input.head || isFlowMark input.head then l.indentValue else l
      let l ← l.dropStart?
      return (l.allowKey true).push .dash

def passLines : Nat → Lexer → Lexer
  | 0, l => l
  | fuel + 1, l =>
      let i := l.input
      if i.head = ' ' then passLines fuel (l.withInput (i.pass 1))
      else if isBreak i.head then
        let l := l.withInput i.passBreak
        passLines fuel (if l.inFlow then l else l.allowKey true)
      else if i.head = '#' then passLines fuel (l.withInput i.passLine)
      else l

/-- A question mark before a key. A space or a line end has to follow it. -/
def key? (l : Lexer) : Option Lexer :=
  if !l.inFlow && !l.keyAllowed then none
  else do
    let l :=
      if l.inFlow then { l with braceSeen := true }
      else l.roll l.input.column l.tokens.size .blockTable
    let l ← l.dropStart?
    let input := l.input.pass 1
    if input.head ≠ ' ' && !isBreak input.head then none
    else
      let l := passLines input.rest.length ((l.allowKey (!l.inFlow)).withInput input)
      if l.input.head = '\t' then none else return l.push .key

/-- A colon before a value. A tab alone does not part it from a plain scalar. -/
def colon? (l : Lexer) : Option Lexer := do
  let column := l.input.column
  let line := l.input.line
  let implicit := !l.sequences.isEmpty && !l.braceSeen
  let l := if implicit then { l with sequences := true :: l.sequences.tail } else l
  let input := l.input.pass 1
  let input ←
    if input.head ≠ '\t' then some input
    else do
      let (blanks, input) ← input.passBlanks? true
      if !blanks.contains ' ' && (input.head = '-' || isNameChar input.head) then none
      else some input
  let l := l.withInput input
  match l.starts.head?.join with
  | some start =>
      let l := l.insert start.token .key
      if implicit && start.line < line then none
      else
        let l := if implicit then l.insert start.token .brace else l
        let l := (l.roll start.column start.token .blockTable).indentValue
        return { l with starts := none :: l.starts.tail, keyAllowed := false }.push .colon
  | none =>
      let l := if implicit then l.push .brace else l
      if !l.inFlow && !l.keyAllowed then none
      else
        let l := (l.roll column l.tokens.size .blockTable).indentValue
        return (l.allowKey (!l.inFlow)).push .colon

def anchor? (l : Lexer) : Option Lexer := do
  let l := l.saveStart.allowKey false
  let (name, input) ← anchorName? l.input
  let token := if l.input.head = '*' then Token.reference name else .anchor name
  return { l with input := input, nameColumn := l.input.column }.push token

def tag? (l : Lexer) : Option Lexer := do
  let l := l.saveStart.allowKey false
  let (token, input) ← Yaml.tag? l.inFlow l.input
  return { l with input := input, nameColumn := l.input.column }.push token

def blockScalar? (l : Lexer) : Option Lexer := do
  let l := (l.saveStart.allowKey true).unrollValues
  let (text, input) ← Yaml.blockScalar? l.indent l.input
  return (l.withInput input).push (.scalar false (String.ofList text))

/-- A quoted scalar; a colon may touch the value after it. -/
def quoted? (l : Lexer) : Option Lexer := do
  let l := l.saveStart.allowKey false
  let (text, input) ← Yaml.quoted? l.indent l.inFlow l.input
  let l ← (l.withInput input).skipSpace?
  return { l with nearColon := l.input.index }.push (.scalar false (String.ofList text))

/-- A plain scalar; where it ends with a line, a key may follow. -/
def plain? (l : Lexer) : Option Lexer := do
  let l := (l.saveStart.allowKey false).unrollValues
  let (text, input) ← Yaml.plain? (l.indent + 1) l.inFlow l.input
  let l := l.withInput input
  let l := if input.fresh then l.allowKey true else l
  return l.push (.scalar true (String.ofList text))

/-- The token that begins with a character of its own. -/
def token? (l : Lexer) : Option Lexer :=
  let c := l.input.head
  let next := l.input.second
  let parted := isGap next
  let nearColon := l.inFlow && (isFlowMark next || l.input.index = l.nearColon)
  if c = '[' then l.openFlow? true
  else if c = '\x7b' then l.openFlow? false
  else if c = ']' then l.closeFlow? true
  else if c = '\x7d' then l.closeFlow? false
  else if c = ',' then l.comma?
  else if c = '-' && parted then l.dash?
  else if c = '?' && parted then l.key?
  else if c = ':' && (parted || nearColon) then l.colon?
  else if c = '*' || c = '&' then l.anchor?
  else if c = '!' then l.tag?
  else if (c = '|' || c = '>') && !l.inFlow then l.blockScalar?
  else if c = '\'' || c = '"' then l.quoted?
  else if c = '%' || c = '@' || c = '\x60' then none
  else l.plain?

/-- The next token; a document can begin or end only at the start of a line. -/
def next? (l : Lexer) : Option Lexer :=
  if l.input.column = 0 && l.input.head = '%' then l.directive?
  else if l.input.isMark '-' then l.documentStart?
  else if l.input.isMark '.' then l.documentEnd?
  else if (l.input.column : Int) < l.indent then none
  else l.token?

def cut? : Nat → Lexer → Option (Array Token)
  | 0, _ => none
  | fuel + 1, l => do
      let l ← (← l.skipSpace?).dropStale?
      let l := l.unroll l.input.column
      if l.input.rest.isEmpty then
        if l.starts.any fun start => start.any (·.required) then none
        else return (l.unroll (-1)).tokens
      else cut? fuel (← l.next?)

end Lexer

def tokens? (text : List Char) : Option (List Token) :=
  (Lexer.cut? (text.length + 1) (Lexer.start text)).map Array.toList

end Cutover.Yaml
