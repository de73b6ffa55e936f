import Cutover.Model.Timeline
import Cutover.Store.Error
import Cutover.Text.Decimal

set_option autoImplicit false

namespace Cutover

namespace Timeline

/-- The order of listings: by event type, then by `order`. -/
def precedes (a b : Timeline) : Bool :=
  a.eventType < b.eventType || (a.eventType = b.eventType && a.order ≤ b.order)

/-- The timelines that a filter admits, in the order of listings. -/
def listing (filter : TimelineFilter) (timelines : List Timeline) : List Timeline :=
  (timelines.filter filter.admits).mergeSort precedes

/-- The later of two timelines by `order`; of two with one order the second. -/
def later (best : Option Timeline) (t : Timeline) : Option Timeline :=
  match best with
  | none => some t
  | some b => if b.order ≤ t.order then some t else some b

/-- The switched timeline of an event type with the highest order. -/
def activeAmong (eventType : String) (timelines : List Timeline) : Option Timeline :=
  (timelines.filter fun t => t.eventType = eventType && t.isSwitched).foldl later none

/-- Whether another timeline of the same event type has the same order. -/
def orderTaken (t : Timeline) (timelines : List Timeline) : Bool :=
  timelines.any fun other =>
    other.id ≠ t.id && other.eventType = t.eventType && other.order = t.order

end Timeline

/-- The records, and switches that make writes fail. -/
structure Store where
  storages : Table String Storage
  timelines : Table Uuid Timeline
  failSwitch : Bool
  failDelete : Bool
  deriving DecidableEq, Inhabited

namespace Store

def empty : Store := ⟨.empty, .empty, false, false⟩

/-- A store that holds nothing but its default storage. -/
def withDefault (storage : Storage) : Store :=
  { empty with storages := Table.empty.insert storage.id storage.asDefault }

def listStorages (s : Store) : List Storage := s.storages.values

def storage? (s : Store) (id : String) : Option Storage := s.storages.get? id

/-- The first storage, by id, that is marked as the default one. -/
def defaultStorage? (s : Store) : Option Storage := s.listStorages.find? (·.isDefault)

def createStorage (s : Store) (storage : Storage) : Except StoreError Store :=
  if s.storages.contains storage.id then .error (.duplicate ("storage " ++ storage.id))
  else .ok { s with storages := s.storages.insert storage.id storage }

def updateStorage (s : Store) (storage : Storage) : Except StoreError Store :=
  if s.storages.contains storage.id then
    .ok { s with storages := s.storages.insert storage.id storage }
  else .error (.storageNotFound storage.id)

def deleteStorage (s : Store) (id : String) : Except StoreError Store :=
  if s.storages.contains id then .ok { s with storages := s.storages.erase id }
  else .error (.storageNotFound id)

def listTimelines (s : Store) (filter : TimelineFilter) : List Timeline :=
  Timeline.listing filter s.timelines.values

def timeline? (s : Store) (id : Uuid) : Option Timeline := s.timelines.get? id

def active? (s : Store) (eventType : String) : Option Timeline :=
  Timeline.activeAmong eventType s.timelines.values

def put (s : Store) (t : Timeline) : Store := { s with timelines := s.timelines.insert t.id t }

def createTimeline (s : Store) (t : Timeline) : Except StoreError Store :=
  if s.timelines.contains t.id then .error (.duplicate ("timeline " ++ t.id.text))
  else if t.orderTaken s.timelines.values then
    .error (.duplicate ("timeline " ++ t.eventType ++ " order " ++ Text.ofNat t.order))
  else .ok (s.put t)

def updateTimeline (s : Store) (t : Timeline) : Except StoreError Store :=
  if s.timelines.contains t.id then .ok (s.put t) else .error (.timelineNotFound t.id)

def deleteTimeline (s : Store) (id : Uuid) : Except StoreError Store :=
  if s.failDelete then .error (.database "mock delete failure")
  else if s.timelines.contains id then .ok { s with timelines := s.timelines.erase id }
  else .error (.timelineNotFound id)

/-- Writes the superseded timeline and its successor as one. The superseded one must still be the
active timeline of the successor's event type, or there must be none, and the successor's order must
be free. -/
def commitSwitch (s : Store) (superseded : Option Timeline) (next : Timeline) :
    Except StoreError Store :=
  if s.failSwitch then .error (.database "mock switch failure")
  else
    match superseded.filter fun previous => !s.timelines.contains previous.id with
    | some previous => .error (.timelineNotFound previous.id)
    | none =>
        if s.timelines.contains next.id then .error (.duplicate ("timeline " ++ next.id.text))
        else if (s.active? next.eventType).map (·.id) ≠ superseded.map (·.id) ∨
            next.orderTaken s.timelines.values then
          .error (.conflict next.eventType)
        else
          match superseded with
          | none => .ok (s.put next)
          | some previous => .ok ((s.put previous).put next)

end Store

end Cutover
