import Cutover.Model.Position
import Cutover.Model.Storage
import Cutover.Time.Timestamp
import Cutover.Uuid

set_option autoImplicit false

namespace Cutover

/-- A segment of an event type. `switchedAt` tells when it became active, `lastPosition` where it
ended. A fake timeline describes the layout of an event type that has none stored. -/
structure Timeline where
  id : Uuid
  eventType : String
  order : Nat
  storage : Storage
  topic : String
  createdAt : Timestamp
  switchedAt : Option Timestamp
  lastPosition : Option Position
  fake : Bool
  deriving DecidableEq, Inhabited

namespace Timeline

def fresh (id : Uuid) (eventType : String) (order : Nat) (storage : Storage) (topic : String)
    (now : Timestamp) : Timeline :=
  ⟨id, eventType, order, storage, topic, now, none, none, false⟩

/-- The timeline that stands for the layout an event type has without any stored timeline. -/
def synthetic (eventType : String) (storage : Storage) (topic : String) (now : Timestamp) :
    Timeline :=
  ⟨.nil, eventType, 0, storage, topic, now, some now, none, true⟩

def isFirst (t : Timeline) : Bool := t.order = 0

def isSwitched (t : Timeline) : Bool := t.switchedAt.isSome

end Timeline

/-- Which timelines to list; an absent field admits all. -/
structure TimelineFilter where
  eventType : Option String
  storage : Option String
  deriving DecidableEq, Inhabited

namespace TimelineFilter

def ofEventType (name : String) : TimelineFilter := ⟨some name, none⟩

def ofStorage (id : String) : TimelineFilter := ⟨none, some id⟩

def admits (f : TimelineFilter) (t : Timeline) : Bool :=
  f.eventType.all (· = t.eventType) && f.storage.all (· = t.storage.id)

end TimelineFilter

end Cutover
