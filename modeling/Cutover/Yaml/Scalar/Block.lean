import Cutover.Yaml.Input

set_option autoImplicit false

namespace Cutover.Yaml

/-- What becomes of the line ends after the last line. -/
inductive Chomping where
  | clip
  | strip
  | keep
  deriving DecidableEq

def Chomping.ofMark? (c : Char) : Option Chomping :=
  if c = '+' then some .keep else if c = '-' then some .strip else none

def lineEnds (count : Nat) : List Char := List.replicate count '\n'

/-- The digit that tells how much deeper the lines are; zero is none. -/
def depthMark? (c : Char) : Option Nat :=
  if c = '0' then none else some (c.toNat - '0'.toNat)

/-- The marks after the first character, in either order; depth zero stands for none. -/
def blockMarks? (i : Input) : Option (Chomping × Nat × Input) :=
  match Chomping.ofMark? i.head with
  | some chomping =>
      let i := i.pass 1
      if i.head.isDigit then (depthMark? i.head).map fun depth => (chomping, depth, i.pass 1)
      else some (chomping, 0, i)
  | none =>
      if i.head.isDigit then
        (depthMark? i.head).map fun depth =>
          let i := i.pass 1
          match Chomping.ofMark? i.head with
          | some chomping => (chomping, depth, i.pass 1)
          | none => (.clip, depth, i)
      else some (.clip, 0, i)

/-- Passes empty lines and the indentation of the next line: how many lines were empty. -/
def passIndent (depth : Nat) : Nat → Nat → Input → Nat × Input
  | 0, breaks, i => (breaks, i)
  | fuel + 1, breaks, i =>
      let spaces := ((i.rest.take (depth - i.column)).takeWhile (· = ' ')).length
      let i := i.pass spaces
      if isBreak i.head then passIndent depth fuel (breaks + 1) i.passBreak else (breaks, i)

/-- Passes lines of spaces: how many there were, and the largest indentation so far. -/
def passFirstIndent : Nat → Nat → Nat → Input → Nat × Nat × Input
  | 0, breaks, depth, i => (breaks, depth, i)
  | fuel + 1, breaks, depth, i =>
      let i := (i.run (· = ' ')).2
      let depth := max depth i.column
      if isBreak i.head then passFirstIndent fuel (breaks + 1) depth i.passBreak
      else (breaks, depth, i)

/-- The lines of a block scalar as far as they are read: the text with its last character first, the
line end that is still to be written, the empty lines after it, and whether the last line begins
with a blank. -/
structure BlockLines where
  done : List Char
  pending : Bool
  breaks : Nat
  indented : Bool

def blockLines (folded : Bool) (depth : Nat) : Nat → BlockLines → Input → BlockLines × Input
  | 0, lines, i => (lines, i)
  | fuel + 1, lines, i =>
      if i.column ≠ depth || i.rest.isEmpty || (depth = 0 && i.isMark '.') then (lines, i)
      else
        let indented := isBlank i.head
        let ends := lineEnds lines.breaks
        let seam :=
          if folded && lines.pending && !lines.indented && !indented then
            if lines.breaks = 0 then [' '] else ends
          else (if lines.pending then ['\n'] else []) ++ ends
        let (line, i) := i.run fun c => !isBreak c
        let done := line.reverse ++ seam.reverse ++ lines.done
        if i.rest.isEmpty then (⟨done, false, 0, indented⟩, i)
        else
          let (breaks, i) := passIndent depth (i.rest.length + 1) 0 i.passBreak
          blockLines folded depth fuel ⟨done, true, breaks, indented⟩ i

def blockScalar? (indent : Int) (i : Input) : Option (List Char × Input) := do
  let (chomping, deeper, j) ← blockMarks? (i.pass 1)
  let (_, j) ← j.passBlanks? true
  if !j.endsLine then none
  else
    let broken := isBreak j.head
    let j := j.passBreak
    if j.head = '\t' then none
    else
      let (breaks, depth, j) :=
        if deeper = 0 then
          let (breaks, depth, j) := passFirstIndent (j.rest.length + 1) 0 0 j
          (breaks, max depth (indent + 1).toNat, j)
        else
          let depth := (max indent 0).toNat + deeper
          let (breaks, j) := passIndent depth (j.rest.length + 1) 0 j
          (breaks, depth, j)
      if j.rest.isEmpty then
        let text :=
          match chomping with
          | .strip => []
          | .clip => lineEnds (if broken then 1 else 0)
          | .keep => lineEnds (if breaks = 0 then (if broken then 1 else 0) else breaks)
        return (text, j)
      else if j.column < depth ∧ indent < j.column then none
      else
        let (lines, j) :=
          blockLines (i.head = '>') depth (j.rest.length + 1) ⟨[], false, breaks, false⟩ j
        let last :=
          if chomping = .strip then 0
          else (if lines.pending then 1 else 0) +
            (if j.rest.isEmpty && max depth 1 ≤ j.column then 1 else 0)
        let more := if chomping = .keep then lines.breaks else 0
        return (lines.done.reverse ++ lineEnds (last + more), j)

end Cutover.Yaml
