import Cutover.Fence.Local
import Cutover.Fence.Recorder
import Cutover.Store.Basic
import Cutover.Worker.Basic

set_option autoImplicit false

namespace Cutover

/-- New ids: `fresh` gives them by number, `drawn` counts those already used. -/
structure IdSource where
  fresh : Nat → Uuid
  drawn : Nat

namespace IdSource

def draw (s : IdSource) : Uuid × IdSource := (s.fresh s.drawn, { s with drawn := s.drawn + 1 })

end IdSource

structure World where
  store : Store
  eventTypes : List String
  workers : Workers
  fences : LocalFences
  recorder : FenceRecorder
  clock : Timestamp
  ids : IdSource

namespace World

def start (store : Store) (ids : IdSource) : World :=
  ⟨store, [], .empty, .empty, .empty, .ofMillis 0, ids⟩

def withStore (w : World) (store : Store) : World := { w with store := store }

def withWorkers (w : World) (workers : Workers) : World := { w with workers := workers }

def withFences (w : World) (fences : LocalFences) : World := { w with fences := fences }

def withRecorder (w : World) (recorder : FenceRecorder) : World := { w with recorder := recorder }

def localSync : TimelineSync World := LocalFences.sync.within fences withFences

/-- Fencing that is only recorded, with a delay of every finish. -/
def recordingSync (delay : Nat) : TimelineSync World :=
  (FenceRecorder.sync delay).within recorder withRecorder

def findEventType (w : World) (name : String) : Except StoreError Unit :=
  if name ∈ w.eventTypes then .ok () else .error (.eventTypeNotFound name)

end World

end Cutover
