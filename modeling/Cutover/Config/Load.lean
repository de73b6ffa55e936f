import Cutover.Config.Document
import Cutover.Config.Environment
import Cutover.Config.Reading

set_option autoImplicit false

namespace Cutover

/-- A file that was asked for. -/
inductive SourceFile where
  | missing
  | text (content : String)
  deriving DecidableEq

/-- Where a configuration comes from, in the order in which later sources win: the file in the
working directory, the file given explicitly, the file named by the environment, and the environment
variables. -/
structure Sources where
  working : Option String
  explicit : Option SourceFile
  named : Option SourceFile
  environment : List (String × String)

namespace Sources

/-- The settings of a file; a file that was asked for must exist. -/
def ofFile (file : Option SourceFile) : Except ConfigError (List (String × Setting)) :=
  match file with
  | none => .ok []
  | some .missing => .error .load
  | some (.text content) =>
      match Document.read? content with
      | none => .error .load
      | some entries => .ok entries

/-- The settings of every source, the weakest first. -/
def layers (s : Sources) : Except ConfigError (List (List (String × Setting))) := do
  let working ← ofFile (s.working.map .text)
  let explicit ← ofFile s.explicit
  let named ← ofFile s.named
  return [working, explicit, named, Environment.settings s.environment]

def merged (layers : List (List (String × Setting))) : List (String × Setting) :=
  layers.foldl Setting.layer []

end Sources

def Config.load (s : Sources) : Except ConfigError Config := do
  let layers ← s.layers
  match Config.ofEntries? (Sources.merged layers) with
  | none => .error .load
  | some config => .ok config

end Cutover
