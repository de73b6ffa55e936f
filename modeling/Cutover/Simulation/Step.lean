import Cutover.Config.Basic
import Cutover.Model.Cursor
import Cutover.Service.Timelines

set_option autoImplicit false

namespace Cutover

/-- Which sync the operations use: one that only records, with a delay of every finish, or locks. -/
inductive SyncKind where
  | recorded (delay : Nat)
  | locks
  deriving DecidableEq

/-- How the body of a fenced step ends. -/
inductive BodyOutcome where
  | value
  | error
  | panic
  deriving DecidableEq

inductive Step where
  | addEventType (name : String)
  | findEventType (name : String)
  | registerWorker (storage : Storage) (partitions : Nat)
  | lookupWorker (storage : Storage)
  | addTopic (worker topic : String) (partitions : Nat)
  | setPosition (worker topic : String) (position : Position)
  | failPosition (worker : String) (value : Bool)
  | workerRequests (worker : String)
  | partitionsOf (worker topic : String)
  | partitionNames (worker topic : String)
  | layOut (worker eventType : String) (partitions : Option Nat) (firstTimeline : Bool)
  | fakeTimeline (worker eventType : String)
  | latestPosition (worker : String) (timeline : Timeline)
  | failSwitch (value : Bool)
  | failDelete (value : Bool)
  | refuseStart (error : Option FenceError)
  | failFinish (value : Bool)
  | fenceCalls
  | storeListStorages
  | storeGetStorage (id : String)
  | storeDefaultStorage
  | storeCreateStorage (storage : Storage)
  | storeUpdateStorage (storage : Storage)
  | storeDeleteStorage (id : String)
  | storeListTimelines (filter : TimelineFilter)
  | storeGetTimeline (id : Uuid)
  | storeActiveTimeline (eventType : String)
  | storeCreateTimeline (timeline : Timeline)
  | storeUpdateTimeline (timeline : Timeline)
  | storeDeleteTimeline (id : Uuid)
  | storeCommitSwitch (superseded : Option Timeline) (next : Timeline)
  | timelineCount
  | listStorages
  | getStorage (id : String)
  | defaultStorage
  | putStorage (storage : Storage)
  | deleteStorage (id : String)
  | ensureDefaultStorage (config : Config)
  | newEventType (name : String)
  | migrate (eventType storage : String)
  | deleteTimeline (eventType : String) (id : Uuid)
  | getTimeline (eventType : String)
  | resolve (eventType : String) (cursor : Cursor)
  | listTimelines (eventType : String)
  | startUpdate (eventType : String) (limit : Duration)
  | finishUpdate (eventType : String)
  | withFence (eventType : String) (limit : Duration) (sleep : Nat) (outcome : BodyOutcome)
      (value : String)
  | isFenced (eventType : String)
  | permit (eventType : String) (limit : Duration) (name : String)
  | dropPermit (name : String)
  | subscribe (name : String)
  | changes (name : String)
  | sleep (ms : Nat)

/-- Why a step is refused: it is not understood or names something that is not there, or a value in
it is none of the model. -/
inductive Refusal where
  | malformed
  | unreadable
  deriving DecidableEq

/-- What a step answers. -/
inductive Answer where
  | refused (reason : Refusal)
  | nothing
  | flag (value : Bool)
  | count (n : Nat)
  | countOrNone (n : Option Nat)
  | names (list : List String)
  | topic (name : String)
  | eventType (name : String)
  | storage (s : Storage)
  | storageOrNone (s : Option Storage)
  | storages (list : List Storage)
  | timeline (t : Timeline)
  | firstTimeline (t : Timeline)
  | timelineOrNone (t : Option Timeline)
  | timelines (list : List Timeline)
  | position (p : Position)
  | requests (list : List LayoutRequest)
  | calls (list : List FenceCall) (outstanding : Nat)
  | changes (lost : Nat) (names : List String)
  | body (value : String)
  | bodyFailed (value : String)
  | panicked (value : String)
  | storeFailed (error : StoreError)
  | workerFailed (error : WorkerError)
  | fenceFailed (error : FenceError)
  | failed (error : TimelineError)

/-- The world and what is kept under a name: permits, and how far receivers have read. -/
structure Stage where
  sync : SyncKind
  world : World
  permits : Table String Ticket
  receivers : Table String Nat

namespace Stage

def withWorld (s : Stage) (world : World) : Stage := { s with world := world }

def changeStore (s : Stage) (change : Store → Store) : Stage :=
  s.withWorld (s.world.withStore (change s.world.store))

def changeWorkers (s : Stage) (change : Workers → Workers) : Stage :=
  s.withWorld (s.world.withWorkers (change s.world.workers))

def changeFences (s : Stage) (change : LocalFences → LocalFences) : Stage :=
  s.withWorld (s.world.withFences (change s.world.fences))

def changeRecorder (s : Stage) (change : FenceRecorder → FenceRecorder) : Stage :=
  s.withWorld (s.world.withRecorder (change s.world.recorder))

def timelineSync (s : Stage) : TimelineSync World :=
  match s.sync with
  | .recorded delay => World.recordingSync delay
  | .locks => World.localSync

/-- The number of the worker that serves a storage. -/
def worker? (s : Stage) (storage : String) : Option Nat := s.world.workers.serving.get? storage

/-- Keeps a permit under a name; a permit kept there before is given up. -/
def keepPermit (name : String) (t : Ticket) (s : Stage) : Stage :=
  let kept :=
    match s.permits.get? name with
    | none => s
    | some old => s.changeFences (·.giveUp old)
  { kept with permits := kept.permits.insert name t }

end Stage

namespace Step

abbrev Play : Type 1 := Process Stage Answer

def tell (view : Stage → Answer) : Play := Process.inspect view

def alter (change : Stage → Stage) : Play := (Process.change change).bind fun _ => .done .nothing

def onWorld {α : Type} (p : Process World α) : Process Stage α :=
  p.within Stage.world Stage.withWorld

/-- An operation, with the answer for its result. -/
def operate {α : Type} (operation : Operation α) (answer : α → Answer) : Play :=
  (onWorld operation.run).bind fun
    | .ok a => .done (answer a)
    | .error e => .done (.failed e)

/-- A process that can fail with a fence error. -/
def fence {α : Type} (p : Process World (Except FenceError α)) (answer : α → Answer) : Play :=
  (onWorld p).bind fun
    | .ok a => .done (answer a)
    | .error e => .done (.fenceFailed e)

def write (change : Store → Except StoreError Store) : Play :=
  Process.perform fun s =>
    match change s.world.store with
    | .ok store => (.nothing, s.withWorld (s.world.withStore store))
    | .error e => (.storeFailed e, s)

/-- An answer of a worker, which may change it. -/
def onWorker (number : Nat) (action : Worker → Except WorkerError (Answer × Worker)) : Play :=
  Process.perform fun s =>
    match s.world.workers.get? number with
    | none => (.nothing, s)
    | some worker =>
        match action worker with
        | .ok (answer, worker) => (answer, s.changeWorkers (·.modify number fun _ => worker))
        | .error e => (.workerFailed e, s)

/-- The body of a fenced step: it lets time pass and ends as it is told to. -/
def fencedBody (length : Nat) (outcome : BodyOutcome) (value : String) :
    Unwinding World String (Except Answer Answer) :=
  ExceptT.mk (.pause length (.done
    (match outcome with
    | .value => .ok (.ok (.body value))
    | .error => .ok (.error (.bodyFailed value))
    | .panic => .error value)))

def recordedOnly (s : Stage) (play : Play) : Option Play :=
  match s.sync with
  | .recorded _ => some play
  | .locks => none

def locksOnly (s : Stage) (play : Play) : Option Play :=
  match s.sync with
  | .recorded _ => none
  | .locks => some play

def withWorker (s : Stage) (storage : String) (play : Nat → Play) : Option Play :=
  (s.worker? storage).map play

def alterWorker (s : Stage) (storage : String) (change : Worker → Worker) : Option Play :=
  withWorker s storage fun number => alter (·.changeWorkers (·.modify number change))

/-- The process of a step; `none` if the step names something that is not there or does not fit the
sync. -/
def play (s : Stage) : Step → Option Play
  | .addEventType name =>
      some (alter fun s => s.withWorld { s.world with eventTypes := s.world.eventTypes ++ [name] })
  | .findEventType name =>
      some (tell fun s =>
        match s.world.findEventType name with
        | .ok () => .eventType name
        | .error e => .storeFailed e)
  | .registerWorker storage partitions =>
      some (alter (·.changeWorkers (·.register storage partitions)))
  | .lookupWorker storage =>
      some (tell fun s =>
        match s.world.workers.number storage with
        | .error e => .workerFailed e
        | .ok number => .storageOrNone ((s.world.workers.get? number).map (·.storage)))
  | .addTopic worker topic partitions =>
      alterWorker s worker fun w => { w with topics := w.topics.insert topic partitions }
  | .setPosition worker topic position =>
      alterWorker s worker fun w => { w with positions := w.positions.insert topic position }
  | .failPosition worker value => alterWorker s worker fun w => { w with failPosition := value }
  | .workerRequests worker =>
      withWorker s worker fun number => onWorker number fun w => .ok (.requests w.requests, w)
  | .partitionsOf worker topic =>
      withWorker s worker fun number =>
        onWorker number fun w => .ok (.countOrNone (w.partitionsOf topic), w)
  | .partitionNames worker topic =>
      withWorker s worker fun number =>
        onWorker number fun w => (w.partitionNames topic).map fun names => (.names names, w)
  | .layOut worker eventType partitions firstTimeline =>
      withWorker s worker fun number =>
        onWorker number fun w =>
          let (topic, w) := w.layOut eventType partitions firstTimeline
          .ok (.topic topic, w)
  | .fakeTimeline worker eventType =>
      withWorker s worker fun number =>
        operate (Operation.syntheticTimeline number eventType) .timeline
  | .latestPosition worker timeline =>
      withWorker s worker fun number =>
        onWorker number fun w => (w.latestPosition timeline.topic).map fun p => (.position p, w)
  | .failSwitch value =>
      some (alter (·.changeStore fun store => { store with failSwitch := value }))
  | .failDelete value =>
      some (alter (·.changeStore fun store => { store with failDelete := value }))
  | .refuseStart error =>
      recordedOnly s (alter (·.changeRecorder fun r => { r with refuseStart := error }))
  | .failFinish value =>
      recordedOnly s (alter (·.changeRecorder fun r => { r with failFinish := value }))
  | .fenceCalls =>
      recordedOnly s (tell fun s => .calls s.world.recorder.calls s.world.recorder.outstanding)
  | .storeListStorages => some (tell fun s => .storages s.world.store.listStorages)
  | .storeGetStorage id => some (tell fun s => .storageOrNone (s.world.store.storage? id))
  | .storeDefaultStorage => some (tell fun s => .storageOrNone s.world.store.defaultStorage?)
  | .storeCreateStorage storage => some (write (·.createStorage storage))
  | .storeUpdateStorage storage => some (write (·.updateStorage storage))
  | .storeDeleteStorage id => some (write (·.deleteStorage id))
  | .storeListTimelines filter =>
      some (tell fun s => .timelines (s.world.store.listTimelines filter))
  | .storeGetTimeline id => some (tell fun s => .timelineOrNone (s.world.store.timeline? id))
  | .storeActiveTimeline eventType =>
      some (tell fun s => .timelineOrNone (s.world.store.active? eventType))
  | .storeCreateTimeline timeline => some (write (·.createTimeline timeline))
  | .storeUpdateTimeline timeline => some (write (·.updateTimeline timeline))
  | .storeDeleteTimeline id => some (write (·.deleteTimeline id))
  | .storeCommitSwitch superseded next => some (write (·.commitSwitch superseded next))
  | .timelineCount => some (tell fun s => .count s.world.store.timelines.size)
  | .listStorages => some (operate Registry.list .storages)
  | .getStorage id => some (operate (Registry.get id) .storageOrNone)
  | .defaultStorage => some (operate Registry.defaultStorage .storage)
  | .putStorage storage => some (operate (Registry.createOrUpdate storage) .storage)
  | .deleteStorage id => some (operate (Registry.delete id) fun _ => .nothing)
  | .ensureDefaultStorage config => some (operate (Registry.ensureDefault config) .storage)
  | .newEventType name => some (operate (Timelines.createFirst name) .firstTimeline)
  | .migrate eventType storage =>
      some (operate (Timelines.switchTo s.timelineSync eventType storage) .timeline)
  | .deleteTimeline eventType id =>
      some (operate (Timelines.delete s.timelineSync eventType id) fun _ => .nothing)
  | .getTimeline eventType => some (operate (Timelines.get eventType) .timeline)
  | .resolve eventType cursor => some (operate (Timelines.resolve eventType cursor) .timeline)
  | .listTimelines eventType => some (operate (Timelines.list eventType) .timelines)
  | .startUpdate eventType limit =>
      some (fence (s.timelineSync.start eventType limit) fun _ => .nothing)
  | .finishUpdate eventType => some (fence (s.timelineSync.finish eventType) fun _ => .nothing)
  | .withFence eventType limit length outcome value =>
      some ((onWorld (s.timelineSync.withFence eventType limit .fenceFailed
        (fencedBody length outcome value)).run).bind fun
          | .ok (.ok answer) => .done answer
          | .ok (.error answer) => .done answer
          | .error payload => .done (.panicked payload))
  | .isFenced eventType => locksOnly s (tell fun s => .flag (s.world.fences.isFenced eventType))
  | .permit eventType limit name =>
      locksOnly s ((onWorld ((LocalFences.permit eventType limit).within World.fences
        World.withFences)).bind fun
          | .ok ticket => alter (Stage.keepPermit name ticket)
          | .error e => .done (.fenceFailed e))
  | .dropPermit name =>
      match s.sync, s.permits.get? name with
      | .locks, some ticket =>
          some (alter fun s =>
            { s.changeFences (·.giveUp ticket) with permits := s.permits.erase name })
      | _, _ => none
  | .subscribe name =>
      locksOnly s (alter fun s =>
        { s with receivers := s.receivers.insert name s.world.fences.announced.length })
  | .changes name =>
      match s.sync, s.receivers.get? name with
      | .locks, some read =>
          some (Process.perform fun s =>
            let (lost, names) := s.world.fences.unread read
            (.changes lost names,
              { s with receivers := s.receivers.insert name s.world.fences.announced.length }))
      | _, _ => none
  | .sleep ms => some (.pause ms (.done .nothing))

end Step

end Cutover
