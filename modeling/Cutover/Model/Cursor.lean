import Cutover.Uuid

set_option autoImplicit false

namespace Cutover

/-- Where a consumer is. A legacy cursor is older than timelines and means the layout on the default
storage; every other cursor names its timeline. -/
inductive Cursor where
  | legacy (partition offset : String)
  | onTimeline (partition : String) (timeline : Uuid) (offset : String)
  deriving DecidableEq, Inhabited

namespace Cursor

def partition : Cursor → String
  | .legacy partition _ => partition
  | .onTimeline partition _ _ => partition

def offset : Cursor → String
  | .legacy _ offset => offset
  | .onTimeline _ _ offset => offset

end Cursor

end Cutover
