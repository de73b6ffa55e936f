import Cutover.Data.Table

set_option autoImplicit false

namespace Cutover

/-- The latest committed offset of each partition. -/
structure Position where
  offsets : Table String UInt64
  deriving DecidableEq, Inhabited

namespace Position

/-- The position with the given offsets; of two offsets of one partition the later counts. -/
def ofList (offsets : List (String × UInt64)) : Position := ⟨Table.ofList offsets⟩

def partitions (p : Position) : List String := p.offsets.keys

end Position

end Cutover
