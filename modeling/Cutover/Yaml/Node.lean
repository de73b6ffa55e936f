import Cutover.Number.Double
import Cutover.Text.Decimal
import Cutover.Text.Hexadecimal

set_option autoImplicit false

namespace Cutover.Yaml

/-- A value. `absent` is what a scalar with a tag that does not suit it gives; a real number keeps
its spelling. -/
inductive Node where
  | absent
  | null
  | flag (value : Bool)
  | whole (value : Int)
  | real (literal : String)
  | text (value : String)
  | list (items : List Node)
  | table (entries : List (Node × Node))
  deriving Inhabited

namespace Node

mutual

def same : Node → Node → Bool
  | .absent, .absent => true
  | .null, .null => true
  | .flag a, .flag b => a = b
  | .whole a, .whole b => a = b
  | .real a, .real b => a = b
  | .text a, .text b => a = b
  | .list a, .list b => sameItems a b
  | .table a, .table b => sameEntries a b
  | _, _ => false

def sameItems : List Node → List Node → Bool
  | [], [] => true
  | a :: as, b :: bs => same a b && sameItems as bs
  | _, _ => false

def sameEntries : List (Node × Node) → List (Node × Node) → Bool
  | [], [] => true
  | (k, v) :: as, (l, w) :: bs => same k l && same v w && sameEntries as bs
  | _, _ => false

end

def isAbsent : Node → Bool
  | .absent => true
  | _ => false

/-- Digits of a base after an optional sign, as an integer of 64 bits. -/
def basedInteger? (base : Nat) (text : List Char) : Option Int :=
  let (negative, magnitude) :=
    match text with
    | '-' :: rest => (true, rest)
    | '+' :: rest => (false, rest)
    | _ => (false, text)
  if magnitude = [] then none
  else
    (Text.based? base magnitude).bind fun n =>
      if negative then (if n ≤ Text.signedLimit then some (-n) else none)
      else if n < Text.signedLimit then some (n : Int)
      else none

/-- The integer that a plain scalar spells: a sign may follow a plus or the mark of a base. -/
def integer? (text : List Char) : Option Int :=
  match text with
  | '0' :: 'x' :: rest => basedInteger? 16 rest
  | '0' :: 'o' :: rest => basedInteger? 8 rest
  | '+' :: rest => Text.signed? rest
  | _ => Text.signed? text

def specialNumbers : List String :=
  [".inf", ".Inf", ".INF", "+.inf", "+.Inf", "+.INF", "-.inf", "-.Inf", "-.INF", ".nan", ".NAN"]

def isReal (text : List Char) : Bool :=
  specialNumbers.contains (String.ofList text) || (Double.parse? text).isSome

/-- The value of a plain scalar without a tag. -/
def ofPlain (text : List Char) : Node :=
  let word := String.ofList text
  if word = "" ∨ word = "~" ∨ word = "null" then .null
  else if word = "true" then .flag true
  else if word = "false" then .flag false
  else
    match integer? text with
    | some n => .whole n
    | none => if isReal text then .real word else .text word

/-- The value of a plain scalar with a standard tag. -/
def ofTagged (tag : String) (text : List Char) : Node :=
  let word := String.ofList text
  match tag with
  | "bool" => if word = "true" then .flag true else if word = "false" then .flag false else .absent
  | "int" =>
      match Text.signed? text with
      | some n => .whole n
      | none => .absent
  | "float" => if isReal text then .real word else .absent
  | "null" => if word = "~" ∨ word = "null" then .null else .absent
  | _ => .text word

/-- Adds keys and values, which take turns. An absent value does not count as a key. -/
def entries? (key : Option Node) (done : List (Node × Node)) :
    List Node → Option (List (Node × Node))
  | [] => some done.reverse
  | node :: rest =>
      match key with
      | none => entries? (if node.isAbsent then none else some node) done rest
      | some key =>
          if done.any fun (other, _) => same key other then none
          else entries? none ((key, node) :: done) rest

/-- The table of keys and values that take turns. -/
def tableOf? (nodes : List Node) : Option Node := (entries? none [] nodes).map .table

end Node

end Cutover.Yaml
