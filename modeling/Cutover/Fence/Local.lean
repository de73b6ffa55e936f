import Cutover.Data.Table
import Cutover.Fence.Lock
import Cutover.Fence.Sync

set_option autoImplicit false

namespace Cutover

/-- A request, and the lock it was made to. -/
structure Ticket where
  lock : Nat
  request : Nat
  deriving DecidableEq

/-- Fences within one process, by one lock for each event type: publishers hold it shared, an update
of timelines exclusively. Kept are all locks by number, the lock registered for each event type, the
updates in progress, and the event types whose updates have ended, the latest last. -/
structure LocalFences where
  locks : Table Nat Lock
  registry : Table String Nat
  held : Table String Ticket
  lastLock : Nat
  lastRequest : Nat
  announced : List String
  deriving DecidableEq

namespace LocalFences

def empty : LocalFences := ⟨.empty, .empty, .empty, 0, 0, []⟩

instance : Inhabited LocalFences := ⟨empty⟩

/-- The lock registered for an event type, made if there is none. -/
def lockFor (f : LocalFences) (eventType : String) : Nat × LocalFences :=
  match f.registry.get? eventType with
  | some number => (number, f)
  | none =>
      let number := f.lastLock + 1
      (number,
        { f with
          locks := f.locks.insert number .idle
          registry := f.registry.insert eventType number
          lastLock := number })

/-- Asks for the lock of an event type. The lock is found or made and the request joins its queue in
one step, as nothing is awaited in between. -/
def ask (f : LocalFences) (eventType : String) (mode : LockMode) : Ticket × LocalFences :=
  let (lock, f) := f.lockFor eventType
  let number := f.lastRequest + 1
  (⟨lock, number⟩,
    { f with locks := f.locks.modify lock (·.request ⟨number, mode⟩), lastRequest := number })

def isGranted (f : LocalFences) (t : Ticket) : Bool :=
  (f.locks.get? t.lock).any (·.isGranted t.request)

/-- Gives a ticket up, whether it was granted or waits. -/
def giveUp (f : LocalFences) (t : Ticket) : LocalFences :=
  { f with locks := f.locks.modify t.lock (·.remove t.request) }

/-- Forgets the lock of an event type if nobody holds it or waits for it. -/
def prune (f : LocalFences) (eventType : String) : LocalFences :=
  match f.registry.get? eventType with
  | none => f
  | some number =>
      if (f.locks.get? number).any (·.isIdle) then
        { f with locks := f.locks.erase number, registry := f.registry.erase eventType }
      else f

def isFenced (f : LocalFences) (eventType : String) : Bool := f.held.contains eventType

/-- Records an update in progress; a ticket it takes the place of is given up. -/
def hold (f : LocalFences) (eventType : String) (t : Ticket) : LocalFences :=
  let f :=
    match f.held.get? eventType with
    | none => f
    | some old => f.giveUp old
  { f with held := f.held.insert eventType t }

/-- Ends the wait of an update: it is in progress if its ticket was granted, and gives up if not. -/
def startEnded (eventType : String) (limit : Duration) (t : Ticket) (f : LocalFences) :
    Except FenceError Unit × LocalFences :=
  if f.isGranted t then (.ok (), f.hold eventType t)
  else (.error (.timeout eventType limit), (f.giveUp t).prune eventType)

/-- Ends the update in progress and announces it. It is taken from those in progress, its lock is
given up and forgotten if nobody else needs it, and the event type is announced, all in one step, as
nothing is awaited in between. -/
def finish (eventType : String) (f : LocalFences) : Except FenceError Unit × LocalFences :=
  match f.held.get? eventType with
  | none => (.error (.notHeld eventType), f)
  | some t =>
      let f := { f with held := f.held.erase eventType }
      let f := (f.giveUp t).prune eventType
      (.ok (), { f with announced := f.announced ++ [eventType] })

/-- Ends the wait of a publisher: it has its permit if its ticket was granted, and gives up if
not. -/
def permitEnded (eventType : String) (limit : Duration) (t : Ticket) (f : LocalFences) :
    Except FenceError Ticket × LocalFences :=
  if f.isGranted t then (.ok t, f) else (.error (.timeout eventType limit), f.giveUp t)

def await {α : Type} (eventType : String) (mode : LockMode) (limit : Duration)
    (ended : Ticket → LocalFences → α × LocalFences) : Process LocalFences α :=
  (Process.perform fun f => f.ask eventType mode).bind fun t =>
    .waiting (·.isGranted t) limit.millis (·.giveUp t) (ended t) .done

/-- A permit to publish: no update is in progress while it is held. -/
def permit (eventType : String) (limit : Duration) :
    Process LocalFences (Except FenceError Ticket) :=
  await eventType .shared limit (permitEnded eventType limit)

def sync : TimelineSync LocalFences where
  start eventType limit := await eventType .exclusive limit (startEnded eventType limit)
  finish eventType := Process.perform (finish eventType)

/-- How many announcements are kept for a receiver that does not read them. -/
def capacity : Nat := 64

/-- What a receiver that has read up to a point finds: how many announcements it lost, and those
that are kept, the oldest first. -/
def unread (f : LocalFences) (read : Nat) : Nat × List String :=
  let pending := f.announced.drop read
  let lost := pending.length - capacity
  (lost, pending.drop lost)

end LocalFences

end Cutover
