import Cutover.Fence.Sync

set_option autoImplicit false

namespace Cutover

inductive FenceCall where
  | start (eventType : String) (limit : Duration)
  | finish (eventType : String)
  deriving DecidableEq

namespace FenceCall

def isStart : FenceCall → Bool
  | .start _ _ => true
  | .finish _ => false

end FenceCall

/-- What a sync keeps that pauses nobody and records what it is asked for. It can be made to refuse
starts, to fail after a finish, and to take its time for a finish. -/
structure FenceRecorder where
  calls : List FenceCall
  refuseStart : Option FenceError
  failFinish : Bool
  deriving DecidableEq, Inhabited

namespace FenceRecorder

def empty : FenceRecorder := ⟨[], none, false⟩

def outstanding (r : FenceRecorder) : Nat :=
  (r.calls.filter FenceCall.isStart).length - (r.calls.filter fun c => !c.isStart).length

/-- A refused start is not recorded. -/
def start (eventType : String) (limit : Duration) (r : FenceRecorder) :
    Except FenceError Unit × FenceRecorder :=
  match r.refuseStart with
  | some e => (.error e, r)
  | none => (.ok (), { r with calls := r.calls ++ [.start eventType limit] })

/-- A finish is recorded also if it fails. -/
def finish (eventType : String) (r : FenceRecorder) : Except FenceError Unit × FenceRecorder :=
  (if r.failFinish then .error (.unavailable "mock finish failure") else .ok (),
    { r with calls := r.calls ++ [.finish eventType] })

/-- The sync that records; a finish waits `delay` milliseconds first. -/
def sync (delay : Nat) : TimelineSync FenceRecorder where
  start eventType limit := Process.perform (start eventType limit)
  finish eventType := .pause delay (Process.perform (finish eventType))

end FenceRecorder

end Cutover
