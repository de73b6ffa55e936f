import Cutover.Simulation.Scheduler
import Cutover.Simulation.Step

set_option autoImplicit false

namespace Cutover

/-- A command. A step that was refused when it was read is still run, and answers why. -/
inductive Command where
  | run (step : Except Refusal Step)
  | spawn (task : String) (step : Except Refusal Step)
  | abort (task : String)

/-- A scenario under way; `names` gives the number of the task last started under a name. -/
structure Scenario where
  scheduler : Scheduler Stage Answer
  names : Table String Nat
  /-- The named tasks that have not been reported, by number. -/
  pending : List (Nat × String)

/-- What a command tells; tasks come in the order in which they ended. -/
structure Report where
  answer : Answer
  time : Nat
  ended : List (String × Nat × Answer)

namespace Scenario

/-- A fresh world with the given default storage. -/
def start (sync : SyncKind) (defaultStorage : Option Storage) (ids : IdSource) : Scenario :=
  let store :=
    match defaultStorage with
    | none => Store.empty
    | some storage => Store.withDefault storage
  ⟨.start ⟨sync, .start store ids, .empty, .empty⟩, .empty, []⟩

def stage (s : Scenario) : Stage := s.scheduler.state

/-- Sets the clock of the world to the time of the scheduler. -/
def setClock (s : Scenario) : Scenario :=
  let stage := s.stage
  let world := { stage.world with clock := .ofMillis s.scheduler.now }
  { s with scheduler := { s.scheduler with state := stage.withWorld world } }

def answerOf (scheduler : Scheduler Stage Answer) (task : Nat) : Option Answer :=
  (scheduler.endings.find? (·.task = task)).bind (·.result)

/-- Reports an answer and the tasks that have ended. -/
def report (s : Scenario) (answer : Answer) : Report × Scenario :=
  let ended := s.scheduler.endings.filterMap fun ending => do
    let (_, name) ← s.pending.find? (·.1 = ending.task)
    return (name, ending.time, ← ending.result)
  let pending := s.pending.filter fun (task, _) => s.scheduler.isLiving task
  (⟨answer, s.scheduler.now, ended⟩, { s with pending := pending })

/-- The process of a step; a refused one ends at once. -/
def playOf (s : Scenario) : Except Refusal Step → Step.Play
  | .error reason => .done (.refused reason)
  | .ok step => (step.play s.stage).getD (.done (.refused .malformed))

def enter (s : Scenario) (step : Except Refusal Step) : Nat × Scheduler Stage Answer :=
  s.scheduler.spawn ((s.playOf step).bind fun answer => .done (some answer))

/-- Runs a step to its end, and then every task as far as it gets. -/
def runStep (s : Scenario) (step : Except Refusal Step) : Report × Scenario :=
  let (task, scheduler) := s.enter step
  let scheduler := scheduler.complete task
  let answer := (answerOf scheduler task).getD .nothing
  { s with scheduler := scheduler }.report answer

def spawnStep (s : Scenario) (name : String) (step : Except Refusal Step) : Report × Scenario :=
  let (task, scheduler) := s.enter step
  { s with
    scheduler := scheduler.settle
    names := s.names.insert name task
    pending := s.pending ++ [(task, name)] }.report .nothing

/-- Drops a task that was started under a name, if it has not ended. -/
def abortTask (s : Scenario) (name : String) : Report × Scenario :=
  match s.names.get? name with
  | none => s.report (.refused .malformed)
  | some task => { s with scheduler := (s.scheduler.abort task).settle }.report .nothing

def execute (s : Scenario) (command : Command) : Report × Scenario :=
  match command with
  | .run step => s.setClock.runStep step
  | .spawn name step => s.setClock.spawnStep name step
  | .abort name => s.setClock.abortTask name

end Scenario

end Cutover
