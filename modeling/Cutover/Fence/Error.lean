import Cutover.Time.Duration

set_option autoImplicit false

namespace Cutover

inductive FenceError where
  | timeout (eventType : String) (after : Duration)
  | unavailable (reason : String)
  | notHeld (eventType : String)
  deriving DecidableEq

namespace FenceError

def message : FenceError → String
  | .timeout eventType after =>
      "Timed out after " ++ after.text ++ " waiting for producers of " ++ eventType ++ " to pause"
  | .unavailable reason => "Timeline sync unavailable: " ++ reason
  | .notHeld eventType => "No timeline update in progress for " ++ eventType

end FenceError

end Cutover
