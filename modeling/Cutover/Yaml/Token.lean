set_option autoImplicit false

namespace Cutover.Yaml

/-- A token. `bracket`, `brace` and `comma` belong to the flow style; `blockList` and `blockTable`
are where the indentation of a block begins, and `blockEnd` is where it is left. `key` and `colon`
stand before a key and its value. -/
inductive Token where
  | version
  | tagRule (handle meaning : String)
  | documentStart
  | documentEnd
  | bracket
  | bracketEnd
  | brace
  | braceEnd
  | comma
  | blockList
  | blockTable
  | blockEnd
  | dash
  | key
  | colon
  | anchor (name : String)
  | reference (name : String)
  | tag (handle suffix : String)
  | scalar (plain : Bool) (text : String)
  deriving DecidableEq, Inhabited

end Cutover.Yaml
