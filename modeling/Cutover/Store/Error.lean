import Cutover.Uuid

set_option autoImplicit false

namespace Cutover

/-- Store errors. A conflict is a switch that another update of the event type got ahead of. -/
inductive StoreError where
  | eventTypeNotFound (name : String)
  | storageNotFound (id : String)
  | timelineNotFound (id : Uuid)
  | duplicate (record : String)
  | conflict (eventType : String)
  | database (reason : String)
  deriving DecidableEq

namespace StoreError

def message : StoreError → String
  | .eventTypeNotFound name => "Event type not found: " ++ name
  | .storageNotFound id => "Storage not found: " ++ id
  | .timelineNotFound id => "Timeline not found: " ++ id.text
  | .duplicate record => "Duplicate record: " ++ record
  | .conflict eventType => "Conflicting timeline update for event type " ++ eventType
  | .database reason => "Database error: " ++ reason

end StoreError

end Cutover
