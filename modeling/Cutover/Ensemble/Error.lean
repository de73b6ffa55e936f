import Cutover.Ensemble.Connection

set_option autoImplicit false

namespace Cutover

/-- Why a text is not a connection. -/
inductive ConnectionFault where
  | missingKind
  | unknownKind (name : String)
  | missingPort (server : String)
  | invalidPort (server : String)
  | missingAddress (server : String)
  deriving DecidableEq

namespace ConnectionFault

def message : ConnectionFault → String
  | .missingKind => "missing '<kind>://' prefix"
  | .unknownKind name => "unknown ensemble kind '" ++ name ++ "'"
  | .missingPort server => "'" ++ server ++ "' has no port"
  | .invalidPort server => "'" ++ server ++ "' has an invalid port"
  | .missingAddress server => "'" ++ server ++ "' has no address"

end ConnectionFault

/-- Ensemble errors. The reason an invalid connection is refused is kept as text, because it can
also come from outside. -/
inductive EnsembleError where
  | unavailable (reason : String)
  | unsupportedKind (kind : EnsembleKind)
  | invalidConnection (connection reason : String)
  deriving DecidableEq

namespace EnsembleError

def message : EnsembleError → String
  | .unavailable reason => "Coordination ensemble unavailable: " ++ reason
  | .unsupportedKind kind => "Ensemble connection type '" ++ kind.name ++ "' is not supported"
  | .invalidConnection connection reason =>
      "Invalid ensemble connection '" ++ connection ++ "': " ++ reason

/-- Errors that only a change of the configuration can mend. -/
def isConfiguration : EnsembleError → Bool
  | .unavailable _ => false
  | .unsupportedKind _ => true
  | .invalidConnection _ _ => true

end EnsembleError

/-- Errors of a single session. -/
inductive SessionError where
  | connect (servers reason : String)
  | unusable (id : Nat) (reason : String)
  | closed (id : Nat)
  deriving DecidableEq

namespace SessionError

def message : SessionError → String
  | .connect servers reason => "Connection to " ++ servers ++ " failed: " ++ reason
  | .unusable id reason => "Session " ++ Text.ofNat id ++ " is not usable: " ++ reason
  | .closed id => "Session " ++ Text.ofNat id ++ " is closed"

end SessionError

end Cutover
