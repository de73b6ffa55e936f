import Cutover.Model.Timeline
import Cutover.Text.Decimal
import Cutover.Worker.Error

set_option autoImplicit false

namespace Cutover

/-- What a worker was asked to lay out. -/
structure LayoutRequest where
  eventType : String
  partitions : Option Nat
  firstTimeline : Bool
  deriving DecidableEq

/-- A worker looks after the topics of one storage. A topic is known by its number of partitions,
which are named 0, 1, 2, …. -/
structure Worker where
  storage : Storage
  defaultPartitions : Nat
  topics : Table String Nat
  positions : Table String Position
  requests : List LayoutRequest
  failPosition : Bool

namespace Worker

def create (storage : Storage) (defaultPartitions : Nat) : Worker :=
  ⟨storage, defaultPartitions, .empty, .empty, [], false⟩

def partitionsOf (w : Worker) (topic : String) : Option Nat := w.topics.get? topic

def partitionName (n : Nat) : String := Text.ofNat n

def partitionNames (w : Worker) (topic : String) : Except WorkerError (List String) :=
  match w.partitionsOf topic with
  | none => .error (.topicNotFound topic)
  | some count => .ok ((List.range count).map partitionName)

/-- Lays out an event type and gives its topic. The first timeline takes over the topic of the event
type's own name; any other gets a topic numbered by the topics there are. -/
def layOut (w : Worker) (eventType : String) (partitions : Option Nat) (firstTimeline : Bool) :
    String × Worker :=
  let topic :=
    if firstTimeline then eventType else eventType ++ "-" ++ Text.ofNat w.topics.size
  (topic,
    { w with
      requests := w.requests ++ [⟨eventType, partitions, firstTimeline⟩]
      topics := w.topics.insertIfNew topic (partitions.getD w.defaultPartitions) })

/-- Makes sure that the topic of the event type's own name is there. -/
def adopt (w : Worker) (eventType : String) : Worker :=
  { w with topics := w.topics.insertIfNew eventType w.defaultPartitions }

/-- The latest committed position of a topic: the one set for it, or else zero in each partition. -/
def latestPosition (w : Worker) (topic : String) : Except WorkerError Position :=
  if w.failPosition then .error (.backend "mock position failure")
  else
    match w.positions.get? topic with
    | some position => .ok position
    | none => (w.partitionNames topic).map fun names => Position.ofList (names.map fun n => (n, 0))

end Worker

/-- All workers ever registered, by number, and which one serves each storage now. An operation
keeps the worker it looked up, also when another one has taken its place. -/
structure Workers where
  all : Table Nat Worker
  serving : Table String Nat

namespace Workers

def empty : Workers := ⟨.empty, .empty⟩

def register (w : Workers) (storage : Storage) (defaultPartitions : Nat) : Workers :=
  let number := w.all.size
  ⟨w.all.insert number (.create storage defaultPartitions), w.serving.insert storage.id number⟩

def number (w : Workers) (storage : Storage) : Except WorkerError Nat :=
  match w.serving.get? storage.id with
  | none => .error (.noWorker storage.id)
  | some number => .ok number

def get? (w : Workers) (number : Nat) : Option Worker := w.all.get? number

def modify (w : Workers) (number : Nat) (change : Worker → Worker) : Workers :=
  { w with all := w.all.modify number change }

end Workers

end Cutover
