import Cutover.Yaml.Node
import Cutover.Yaml.Token

set_option autoImplicit false

namespace Cutover.Yaml

/-- Tokens that are being read. Anchors are numbered; `names` tells which number a name was given
last, and `values` which value a number stands for when that is read. `rule` is what the last
directive says about a handle. -/
structure Reader where
  tokens : List Token
  names : List (String × Nat)
  values : List (Nat × Node)
  anchors : Nat
  rule : Option (String × String)

/-- What stands before a value: the number of its anchor, and whether its tag is a standard one,
with the suffix. -/
structure Properties where
  anchor : Option Nat
  tag : Option (Bool × String)

namespace Reader

def start (tokens : List Token) : Reader := ⟨tokens, [], [], 0, none⟩

def withTokens (r : Reader) (tokens : List Token) : Reader := { r with tokens := tokens }

/-- What the handle of a standard tag stands for. -/
def standardPrefix : String := "tag:yaml.org,2002:"

/-- Whether a handle stands for the standard tags. A handle of two exclamation marks does so unless
a directive says otherwise; a named one needs a directive. -/
def isStandard? (r : Reader) (handle : String) : Option Bool :=
  match r.rule.filter fun (ruled, _) => ruled = handle with
  | some (_, meaning) => some (meaning = standardPrefix)
  | none =>
      if handle = "!!" then some true
      else if 2 ≤ handle.length then none
      else some false

/-- Gives a name to the value that is read next. -/
def name (r : Reader) (name : String) : Nat × Reader :=
  (r.anchors, { r with names := (name, r.anchors) :: r.names, anchors := r.anchors + 1 })

def tag? (r : Reader) : Option (Option (Bool × String) × Reader) :=
  match r.tokens with
  | .tag handle suffix :: rest =>
      (r.isStandard? handle).map fun standard => (some (standard, suffix), r.withTokens rest)
  | _ => some (none, r)

def anchor (r : Reader) : Option Nat × Reader :=
  match r.tokens with
  | .anchor name :: rest =>
      let (number, r) := (r.withTokens rest).name name
      (some number, r)
  | _ => (none, r)

def properties? (r : Reader) : Option (Properties × Reader) := do
  match r.anchor with
  | (some number, r) =>
      let (tag, r) ← r.tag?
      return (⟨some number, tag⟩, r)
  | (none, r) =>
      let (tag, r) ← r.tag?
      if tag.isNone then return (⟨none, none⟩, r)
      else
        let (number, r) := r.anchor
        return (⟨number, tag⟩, r)

def define (r : Reader) (p : Properties) (node : Node) : Reader :=
  match p.anchor with
  | none => r
  | some number => { r with values := (number, node) :: r.values }

def scalar (p : Properties) (plain : Bool) (text : String) : Node :=
  if !plain then .text text
  else
    match p.tag with
    | none => .ofPlain text.toList
    | some (true, suffix) => .ofTagged suffix text.toList
    | some (false, _) => .text text

/-- The table of keys and values, the last of them first, with the tokens after it. -/
def table? (r : Reader) (done : List Node) (rest : List Token) : Option (Node × Reader) :=
  (Node.tableOf? done.reverse).map fun table => (table, r.withTokens rest)

mutual

/-- A value. `block` allows a block, and `loose` a list whose dashes are no deeper than the key. The
fuel bounds the nesting and the number of items together. -/
def node? : Nat → Bool → Bool → Reader → Option (Node × Reader)
  | 0, _, _, _ => none
  | fuel + 1, block, loose, r =>
      match r.tokens with
      | .reference name :: rest => do
          let number ← r.names.lookup name
          return ((r.values.lookup number).getD .absent, r.withTokens rest)
      | _ => do
          let (p, r) ← r.properties?
          let (node, r) ← content? fuel block loose p r
          return (node, r.define p node)

/-- A value after its properties; with a property alone it is an empty scalar. -/
def content? : Nat → Bool → Bool → Properties → Reader → Option (Node × Reader)
  | 0, _, _, _, _ => none
  | fuel + 1, block, loose, p, r =>
      let empty :=
        if p.anchor.isSome || p.tag.isSome then some (scalar p true "", r) else none
      match r.tokens with
      | .scalar plain text :: rest => some (scalar p plain text, r.withTokens rest)
      | .bracket :: rest => flowItems? fuel true [] (r.withTokens rest)
      | .brace :: rest => flowEntries? fuel true [] (r.withTokens rest)
      | .blockList :: rest => if block then blockItems? fuel [] (r.withTokens rest) else empty
      | .blockTable :: rest => if block then blockEntries? fuel [] (r.withTokens rest) else empty
      | .dash :: _ => if loose then looseItems? fuel [] r else empty
      | _ => empty

def flowItems? : Nat → Bool → List Node → Reader → Option (Node × Reader)
  | 0, _, _, _ => none
  | fuel + 1, first, done, r =>
      match r.tokens with
      | .bracketEnd :: rest => some (.list done.reverse, r.withTokens rest)
      | tokens =>
          let item? : Option (List Token) :=
            if first then some tokens
            else
              match tokens with
              | .comma :: rest => some rest
              | _ => none
          match item? with
          | none => none
          | some (.bracketEnd :: rest) => some (.list done.reverse, r.withTokens rest)
          | some (.key :: rest) => do
              let (item, r) ← flowPair? fuel (r.withTokens rest)
              flowItems? fuel false (item :: done) r
          | some tokens => do
              let (item, r) ← node? fuel false false (r.withTokens tokens)
              flowItems? fuel false (item :: done) r

/-- A pair in brackets, as a table. Where the key is missing, the token in its place is passed. -/
def flowPair? : Nat → Reader → Option (Node × Reader)
  | 0, _ => none
  | fuel + 1, r => do
      let (key, r) ←
        match r.tokens with
        | .colon :: rest => some (.null, r.withTokens rest)
        | .comma :: rest => some (.null, r.withTokens rest)
        | .bracketEnd :: rest => some (.null, r.withTokens rest)
        | _ => node? fuel false false r
      let (value, r) ←
        match r.tokens with
        | .colon :: .comma :: rest => some (.null, r.withTokens (.comma :: rest))
        | .colon :: .bracketEnd :: rest => some (.null, r.withTokens (.bracketEnd :: rest))
        | .colon :: rest => node? fuel false false (r.withTokens rest)
        | _ => some (.null, r)
      return (← Node.tableOf? [key, value], r)

def flowEntries? : Nat → Bool → List Node → Reader → Option (Node × Reader)
  | 0, _, _, _ => none
  | fuel + 1, first, done, r =>
      match r.tokens with
      | .braceEnd :: rest => r.table? done rest
      | tokens =>
          let entry? : Option (List Token) :=
            if first then some tokens
            else
              match tokens with
              | .comma :: rest => some rest
              | _ => none
          match entry? with
          | none => none
          | some (.braceEnd :: rest) => r.table? done rest
          | some (.key :: rest) => do
              let (key, r) ←
                match rest with
                | .colon :: _ => some (.null, r.withTokens rest)
                | .comma :: _ => some (.null, r.withTokens rest)
                | .braceEnd :: _ => some (.null, r.withTokens rest)
                | _ => node? fuel false false (r.withTokens rest)
              let (value, r) ← flowValue? fuel r
              flowEntries? fuel false (value :: key :: done) r
          | some (.colon :: rest) => do
              let (value, r) ← flowValue? fuel (r.withTokens (.colon :: rest))
              flowEntries? fuel false (value :: .null :: done) r
          | some tokens => do
              let (key, r) ← node? fuel false false (r.withTokens tokens)
              flowEntries? fuel false (.null :: key :: done) r

def flowValue? : Nat → Reader → Option (Node × Reader)
  | 0, _ => none
  | fuel + 1, r =>
      match r.tokens with
      | .colon :: .comma :: rest => some (.null, r.withTokens (.comma :: rest))
      | .colon :: .braceEnd :: rest => some (.null, r.withTokens (.braceEnd :: rest))
      | .colon :: rest => node? fuel false false (r.withTokens rest)
      | _ => some (.null, r)

def blockItems? : Nat → List Node → Reader → Option (Node × Reader)
  | 0, _, _ => none
  | fuel + 1, done, r =>
      match r.tokens with
      | .blockEnd :: rest => some (.list done.reverse, r.withTokens rest)
      | .dash :: rest => do
          let (item, r) ←
            match rest with
            | .dash :: _ => some (.null, r.withTokens rest)
            | .blockEnd :: _ => some (.null, r.withTokens rest)
            | _ => node? fuel true false (r.withTokens rest)
          blockItems? fuel (item :: done) r
      | _ => none

/-- The items of a list whose dashes are no deeper than the key. -/
def looseItems? : Nat → List Node → Reader → Option (Node × Reader)
  | 0, _, _ => none
  | fuel + 1, done, r =>
      match r.tokens with
      | .dash :: rest => do
          let (item, r) ←
            match rest with
            | .dash :: _ => some (.null, r.withTokens rest)
            | .key :: _ => some (.null, r.withTokens rest)
            | .colon :: _ => some (.null, r.withTokens rest)
            | .blockEnd :: _ => some (.null, r.withTokens rest)
            | _ => node? fuel true false (r.withTokens rest)
          looseItems? fuel (item :: done) r
      | _ => some (.list done.reverse, r)

/-- The keys and values of a table in block style. -/
def blockEntries? : Nat → List Node → Reader → Option (Node × Reader)
  | 0, _, _ => none
  | fuel + 1, done, r =>
      match r.tokens with
      | .blockEnd :: rest => r.table? done rest
      | .key :: rest => do
          let (key, r) ← blockPart? fuel (r.withTokens rest)
          let (value, r) ← blockValue? fuel r
          blockEntries? fuel (value :: key :: done) r
      | .colon :: _ => do
          let (value, r) ← blockValue? fuel r
          blockEntries? fuel (value :: .null :: done) r
      | _ => none

def blockValue? : Nat → Reader → Option (Node × Reader)
  | 0, _ => none
  | fuel + 1, r =>
      match r.tokens with
      | .colon :: rest => blockPart? fuel (r.withTokens rest)
      | _ => some (.null, r)

/-- A key or a value in block style, which may be missing. -/
def blockPart? : Nat → Reader → Option (Node × Reader)
  | 0, _ => none
  | fuel + 1, r =>
      match r.tokens with
      | .key :: _ => some (.null, r)
      | .colon :: _ => some (.null, r)
      | .blockEnd :: _ => some (.null, r)
      | _ => node? fuel true true r

end

/-- Passes directives; the version may be told only once. -/
def directives? (versionTold : Bool) (rule : Option (String × String)) :
    List Token → Option (Option (String × String) × List Token)
  | .version :: rest => if versionTold then none else directives? true none rest
  | .tagRule handle meaning :: rest => directives? versionTold (some (handle, meaning)) rest
  | tokens => some (rule, tokens)

def isDocumentEnd : Token → Bool
  | .documentEnd => true
  | _ => false

/-- A document with its mark and directives, or without both: its value, and what follows it. -/
def document? (tokens : List Token) : Option (Node × List Token) := do
  let (rule, rest) ← directives? false none tokens
  let fuel := 4 * tokens.length + 4
  match rest with
  | .documentStart :: rest =>
      let isEmpty :=
        match rest with
        | [] => true
        | .version :: _ => true
        | .tagRule _ _ :: _ => true
        | .documentStart :: _ => true
        | .documentEnd :: _ => true
        | _ => false
      if isEmpty then return (.null, rest)
      else
        let (node, r) ← node? fuel true false { start rest with rule := rule }
        return (node, r.tokens)
  | _ =>
      if rest.length < tokens.length then none
      else
        let (node, r) ← node? fuel true false (start rest)
        return (node, r.tokens)

/-- The value of the only document, or none if there is no document. -/
def only? (tokens : List Token) : Option (Option Node) :=
  match tokens.dropWhile isDocumentEnd with
  | [] => some none
  | tokens =>
      (document? tokens).bind fun (node, rest) =>
        if rest.all isDocumentEnd then some (some node) else none

end Reader

end Cutover.Yaml
