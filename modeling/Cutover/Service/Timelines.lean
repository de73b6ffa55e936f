import Cutover.Model.Cursor
import Cutover.Service.Registry

set_option autoImplicit false

namespace Cutover.Timelines

open Operation

/-- How long an update waits for the producers to pause. -/
def updateLimit : Duration := .ofSeconds 60

def defaultWorker : Operation Nat := do
  workerFor (← Registry.defaultStorage)

/-- The stored timelines of an event type by order. -/
def list (eventType : String) : Operation (List Timeline) :=
  listTimelines (.ofEventType eventType)

/-- The first timeline of a new event type, on the default storage. There are no producers yet, so
nothing is fenced. -/
def createFirst (eventType : String) : Operation Timeline := do
  let worker ← defaultWorker
  let topic ← layOut worker eventType none false
  let storage ← storageOf worker
  let timeline ← newTimeline eventType 0 storage topic
  let first := { timeline with switchedAt := some timeline.createdAt }
  writeStore (·.createTimeline first)
  return first

/-- Fails unless the active timeline of an event type is still the expected one. -/
def ensureActive (eventType : String) (expected : Option Uuid) : Operation Unit := do
  let current ← activeTimeline eventType
  if current.map (·.id) ≠ expected then throw (.concurrentUpdate eventType)

/-- The new timeline of a switch, laid out but not stored. Without an active timeline it takes over
the layout on the default storage; otherwise it follows the active one with as many partitions. -/
def prepare (eventType : String) (storage : Storage) (active : Option Timeline)
    (oldStorage : Storage) (oldWorker newWorker : Nat) : Operation Timeline := do
  match active with
  | none =>
      if storage.id ≠ oldStorage.id then throw (.firstTimelineNotOnDefault storage.id)
      let layout ← syntheticTimeline oldWorker eventType
      let partitions ← partitionNames oldWorker layout.topic
      let topic ← layOut newWorker eventType (some partitions.length) true
      newTimeline eventType 0 storage topic
  | some current =>
      let partitions ← partitionNames oldWorker current.topic
      let topic ← layOut newWorker eventType (some partitions.length) false
      newTimeline eventType (current.order + 1) storage topic

/-- The superseded timeline with its final position. -/
def sealActive (oldWorker : Nat) : Option Timeline → Operation (Option Timeline)
  | none => return none
  | some previous => do
      let position ← latestPosition oldWorker previous
      return some { previous with lastPosition := some position }

/-- The fenced part of a switch: what was read before the fence may be out of date. -/
def commit (eventType : String) (active : Option Timeline) (oldWorker : Nat)
    (timeline : Timeline) : Operation Timeline := do
  ensureActive eventType (active.map (·.id))
  let switchedAt ← now
  let next := { timeline with switchedAt := some switchedAt }
  let superseded ← sealActive oldWorker active
  writeStore (·.commitSwitch superseded next)
  return next

/-- Switches an event type to a new timeline on a storage. The first switch of an event type has to
stay on the default storage. -/
def switchTo (sync : TimelineSync World) (eventType storageId : String) : Operation Timeline := do
  let storage ←
    match ← getStorage storageId with
    | some storage => pure storage
    | none => throw (.storageNotFound storageId)
  findEventType eventType
  let active ← activeTimeline eventType
  let oldStorage ←
    match active with
    | some timeline => pure timeline.storage
    | none => Registry.defaultStorage
  let oldWorker ← workerFor oldStorage
  let newWorker ← workerFor storage
  let timeline ← prepare eventType storage active oldStorage oldWorker newWorker
  fenced sync eventType updateLimit (commit eventType active oldWorker timeline)

def remove (eventType : String) (id : Uuid) : Operation Unit := do
  let current ← activeTimeline eventType
  if current.map (·.id) ≠ some id then throw (.notLatestTimeline id)
  writeStore (·.deleteTimeline id)

/-- Deletes the first timeline of an event type, if it is the active one. -/
def delete (sync : TimelineSync World) (eventType : String) (id : Uuid) : Operation Unit := do
  let timeline ←
    match ← getTimeline id with
    | some timeline => pure timeline
    | none => throw (.timelineNotFound id)
  if timeline.eventType ≠ eventType then
    throw (.eventTypeMismatch timeline.eventType eventType)
  if !timeline.isFirst then throw (.notFirstTimeline id)
  let active ← activeTimeline eventType
  if active.map (·.id) ≠ some timeline.id then throw (.notLatestTimeline id)
  fenced sync eventType updateLimit (remove eventType timeline.id)

/-- The layout of an event type on the default storage. -/
def synthetic (eventType : String) : Operation Timeline := do
  syntheticTimeline (← defaultWorker) eventType

/-- The active timeline of an event type, or else its layout on the default storage. -/
def get (eventType : String) : Operation Timeline := do
  match ← activeTimeline eventType with
  | some timeline => return timeline
  | none => synthetic eventType

def resolve (eventType : String) : Cursor → Operation Timeline
  | .legacy _ _ => synthetic eventType
  | .onTimeline _ id _ => do
      match ← getTimeline id with
      | some timeline => return timeline
      | none => throw (.timelineNotFound id)

end Cutover.Timelines
