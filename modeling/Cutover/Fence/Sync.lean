import Cutover.Fence.Error
import Cutover.Process.Panic

set_option autoImplicit false

namespace Cutover

/-- A way to pause and resume the producers of one event type. `start` ends when all of them have
paused, or fails with nothing paused. -/
structure TimelineSync (σ : Type) where
  start : String → Duration → Process σ (Except FenceError Unit)
  finish : String → Process σ (Except FenceError Unit)

namespace TimelineSync

variable {σ τ : Type}

/-- The same way on a part of a larger state. -/
def within (sync : TimelineSync σ) (get : τ → σ) (set : τ → σ → τ) : TimelineSync τ where
  start eventType limit := (sync.start eventType limit).within get set
  finish eventType := (sync.finish eventType).within get set

/-- Lets the producers of an event type go again; a failure is of no consequence. -/
def release (sync : TimelineSync σ) (eventType : String) : Process σ Unit :=
  (sync.finish eventType).bind fun _ => .done ()

end TimelineSync

/-- Releases a fence once: by itself, or when it is destroyed. The release always is a task of its
own, which nobody drops. -/
structure FenceGuard where
  eventType : String
  armed : Bool

namespace FenceGuard

variable {σ : Type}

def new (eventType : String) : FenceGuard := ⟨eventType, true⟩

/-- The task that releases the fence, and the guard after it has been started. The event type is
taken out of the guard. -/
def spawnRelease (sync : TimelineSync σ) (guard : FenceGuard) : Process σ Unit × FenceGuard :=
  (sync.release guard.eventType, { guard with armed := false, eventType := "" })

/-- What is started when the guard is destroyed. -/
def drop (sync : TimelineSync σ) (guard : FenceGuard) : Option (Process σ Unit) :=
  if guard.armed then some (guard.spawnRelease sync).1 else none

/-- Releases the fence and waits for it. The guard is there until the wait is over, and is destroyed
also if the wait is dropped. -/
def release (sync : TimelineSync σ) (guard : FenceGuard) : Process σ Unit :=
  let (task, guard) := guard.spawnRelease sync
  .spawn task fun handle =>
    .holding (guard.drop sync) (.join handle (.done ())) fun () => .endScope (guard.drop sync)

end FenceGuard

namespace TimelineSync

variable {σ π ε α : Type}

open Unwinding in
/-- Runs a body with the producers of an event type paused. However the body ends, what it ended
with comes after the release. -/
def withFence (sync : TimelineSync σ) (eventType : String) (limit : Duration)
    (convert : FenceError → ε) (body : Unwinding σ π (Except ε α)) :
    Unwinding σ π (Except ε α) := do
  match ← calm (sync.start eventType limit) with
  | .error e => pure (.error (convert e))
  | .ok () =>
    let guard := FenceGuard.new eventType
    holding (guard.drop sync) (catchUnwind body) fun outcome => do
      calm (guard.release sync)
      match outcome with
      | .ok result => pure result
      | .error payload => resumeUnwind payload

/-- As `withFence`, for a body that never panics. -/
def fenced (sync : TimelineSync σ) (eventType : String) (limit : Duration)
    (convert : FenceError → ε) (body : Process σ (Except ε α)) : Process σ (Except ε α) :=
  (sync.withFence eventType limit convert (.calm body)).run.bind fun outcome =>
    .done (Unwinding.calmly outcome)

end TimelineSync

end Cutover
