import Cutover.Process

set_option autoImplicit false

namespace Cutover.Process

variable {σ α : Type}

/-- How far a process gets in one go. -/
inductive Progress (σ α : Type) : Type 1 where
  /-- It ended. -/
  | ended (result : α) (state : σ)
  /-- It waits for something, at most for `limit` milliseconds if there is a limit. -/
  | blocked (rest : Process σ α) (limit : Option Nat) (state : σ)
  /-- It starts a task; `rest` takes the number of the task. -/
  | forked (task : Process σ Unit) (rest : Nat → Process σ α) (state : σ)

/-- Runs a process until it has to wait. A limit of zero is up at once. -/
def advance (hasEnded : Nat → Bool) : {α : Type} → Process σ α → σ → Progress σ α
  | _, .done result, s => .ended result s
  | _, .act action next, s => (next (action s).1).advance hasEnded (action s).2
  | _, .waiting ready limit withdraw wake next, s =>
      if ready s || limit == 0 then (next (wake s).1).advance hasEnded (wake s).2
      else .blocked (.waiting ready limit withdraw wake next) (some limit) s
  | _, .pause ms next, s =>
      if ms = 0 then next.advance hasEnded s else .blocked (.pause ms next) (some ms) s
  | _, .join task next, s =>
      if hasEnded task then next.advance hasEnded s else .blocked (.join task next) none s
  | _, .spawn task next, s => .forked task next s
  | _, .owning destroyed body next, s =>
      match body.advance hasEnded s with
      | .ended b s => (next b).advance hasEnded s
      | .blocked rest limit s => .blocked (.owning destroyed rest next) limit s
      | .forked task rest s => .forked task (fun number => .owning destroyed (rest number) next) s

/-- Whether what a process waits for is there. -/
def canGo (hasEnded : Nat → Bool) : {α : Type} → Process σ α → σ → Bool
  | _, .waiting ready _ _ _ _, s => ready s
  | _, .pause _ _, _ => false
  | _, .join task _, _ => hasEnded task
  | _, .owning _ body _, s => body.canGo hasEnded s
  | _, _, _ => true

/-- What becomes of a waiting process when its limit is up. -/
def expire : {α : Type} → Process σ α → σ → Process σ α × σ
  | _, .waiting _ _ _ wake next, s => (next (wake s).1, (wake s).2)
  | _, .pause _ next, s => (next, s)
  | _, .owning destroyed body next, s => (.owning destroyed (body.expire s).1 next, (body.expire s).2)
  | _, p, s => (p, s)

/-- Drops a process: the tasks that it leaves behind, and the state. To start a task is no wait, so
that a task which is to be started next is left behind too; what the process owns is destroyed, the
innermost first. -/
def drop : {α : Type} → Process σ α → σ → List (Process σ Unit) × σ
  | _, .waiting _ _ withdraw _ _, s => ([], withdraw s)
  | _, .spawn task _, s => ([task], s)
  | _, .owning destroyed body _, s =>
      let (left, s) := body.drop s
      (left ++ [destroyed], s)
  | _, _, s => ([], s)

end Cutover.Process
