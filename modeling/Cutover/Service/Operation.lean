import Cutover.Service.Error
import Cutover.World

set_option autoImplicit false

namespace Cutover

abbrev Operation (α : Type) : Type 1 := ExceptT TimelineError (Process World) α

namespace Operation

variable {α : Type}

def look (view : World → α) : Operation α :=
  ExceptT.mk (Process.perform fun w => (.ok (view w), w))

/-- A call that changes the world, unless it fails. -/
def call (action : World → Except TimelineError (α × World)) : Operation α :=
  ExceptT.mk (Process.perform fun w =>
    match action w with
    | .ok (a, w) => (.ok a, w)
    | .error e => (.error e, w))

def writeStore (write : Store → Except StoreError Store) : Operation Unit :=
  call fun w =>
    match write w.store with
    | .ok store => .ok ((), w.withStore store)
    | .error e => .error (.ofStore e)

def listStorages : Operation (List Storage) := look (·.store.listStorages)

def getStorage (id : String) : Operation (Option Storage) := look (·.store.storage? id)

def getDefaultStorage : Operation (Option Storage) := look (·.store.defaultStorage?)

def listTimelines (filter : TimelineFilter) : Operation (List Timeline) :=
  look (·.store.listTimelines filter)

def getTimeline (id : Uuid) : Operation (Option Timeline) := look (·.store.timeline? id)

def activeTimeline (eventType : String) : Operation (Option Timeline) :=
  look (·.store.active? eventType)

def findEventType (name : String) : Operation Unit :=
  call fun w =>
    match w.findEventType name with
    | .ok () => .ok ((), w)
    | .error e => .error (.ofStore e)

def workerFor (storage : Storage) : Operation Nat :=
  call fun w =>
    match w.workers.number storage with
    | .ok number => .ok (number, w)
    | .error e => .error (.worker e)

def onWorker (number : Nat) (action : Worker → Except WorkerError (α × Worker)) : Operation α :=
  call fun w =>
    match w.workers.get? number with
    | none => .error (.worker (.backend "worker is gone"))
    | some worker =>
        match action worker with
        | .ok (a, worker) => .ok (a, w.withWorkers (w.workers.modify number fun _ => worker))
        | .error e => .error (.worker e)

def storageOf (number : Nat) : Operation Storage := onWorker number fun w => .ok (w.storage, w)

def partitionNames (number : Nat) (topic : String) : Operation (List String) :=
  onWorker number fun w => (w.partitionNames topic).map fun names => (names, w)

def layOut (number : Nat) (eventType : String) (partitions : Option Nat) (firstTimeline : Bool) :
    Operation String :=
  onWorker number fun w => .ok (w.layOut eventType partitions firstTimeline)

/-- The timeline that stands for an event type without any, on a worker's storage. -/
def syntheticTimeline (number : Nat) (eventType : String) : Operation Timeline :=
  call fun w =>
    match w.workers.get? number with
    | none => .error (.worker (.backend "worker is gone"))
    | some worker =>
        .ok (.synthetic eventType worker.storage eventType w.clock,
          w.withWorkers (w.workers.modify number (·.adopt eventType)))

def latestPosition (number : Nat) (timeline : Timeline) : Operation Position :=
  onWorker number fun w => (w.latestPosition timeline.topic).map fun position => (position, w)

def now : Operation Timestamp := look (·.clock)

def newTimeline (eventType : String) (order : Nat) (storage : Storage) (topic : String) :
    Operation Timeline :=
  call fun w =>
    let (id, ids) := w.ids.draw
    .ok (.fresh id eventType order storage topic w.clock, { w with ids := ids })

/-- Runs an operation with the producers of an event type paused. -/
def fenced (sync : TimelineSync World) (eventType : String) (limit : Duration)
    (body : Operation α) : Operation α :=
  ExceptT.mk (sync.fenced eventType limit .fence body.run)

end Operation

end Cutover
