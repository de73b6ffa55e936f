import Cutover.Process.Turn

set_option autoImplicit false

namespace Cutover

/-- A living task. `since` numbers the waits of all tasks in the order in which they began;
`alarm` is the time at which the limit of the wait is up. -/
structure Task (σ α : Type) where
  number : Nat
  process : Process σ (Option α)
  since : Nat
  alarm : Option Nat

/-- What a task ended with; tasks that clean up end with nothing. -/
structure Ending (α : Type) where
  task : Nat
  time : Nat
  result : Option α

/-- The tasks that live, those that are to run next with the longest waiting first, and what the
others ended with. -/
structure Scheduler (σ α : Type) where
  state : σ
  now : Nat
  tasks : List (Task σ α)
  woken : List Nat
  endings : List (Ending α)
  lastTask : Nat
  lastWait : Nat

namespace Scheduler

variable {σ α : Type}

def start (state : σ) : Scheduler σ α := ⟨state, 0, [], [], [], 0, 0⟩

def hasEnded (s : Scheduler σ α) (number : Nat) : Bool := s.endings.any (·.task = number)

def task? (s : Scheduler σ α) (number : Nat) : Option (Task σ α) :=
  s.tasks.find? (·.number = number)

def isLiving (s : Scheduler σ α) (number : Nat) : Bool := (s.task? number).isSome

def spawn (s : Scheduler σ α) (process : Process σ (Option α)) : Nat × Scheduler σ α :=
  let number := s.lastTask + 1
  (number,
    { s with
      tasks := s.tasks ++ [⟨number, process, 0, none⟩]
      woken := s.woken ++ [number]
      lastTask := number })

def spawnCleanup (s : Scheduler σ α) (cleanup : Process σ Unit) : Nat × Scheduler σ α :=
  s.spawn (cleanup.bind fun _ => .done none)

/-- Puts a task back after it got as far as a wait. -/
def suspend (s : Scheduler σ α) (number : Nat) (rest : Process σ (Option α)) (limit : Option Nat)
    (state : σ) : Scheduler σ α :=
  let since := s.lastWait + 1
  let waiting : Task σ α := ⟨number, rest, since, limit.map (s.now + ·)⟩
  { s with
    state := state
    tasks := s.tasks.map fun t => if t.number = number then waiting else t
    lastWait := since }

/-- Wakes the tasks whose wait is over: first those that got what they waited for, in the order in
which they began to wait, then those that waited for a task to end. -/
def wake (s : Scheduler σ α) : Scheduler σ α :=
  let ready := s.tasks.filter fun t =>
    !s.woken.contains t.number && t.process.canGo s.hasEnded s.state
  let ordered := ready.mergeSort fun a b => a.since ≤ b.since
  let granted := ordered.filter (·.alarm.isSome)
  let joined := ordered.filter (·.alarm.isNone)
  { s with woken := s.woken ++ (granted ++ joined).map (·.number) }

def run (s : Scheduler σ α) (number : Nat) : Scheduler σ α :=
  match s.task? number with
  | none => s
  | some t =>
      let (process, state) :=
        if t.alarm.any (· ≤ s.now) then t.process.expire s.state else (t.process, s.state)
      match process.advance s.hasEnded state with
      | .ended result state =>
          { s with
            state := state
            tasks := s.tasks.filter (·.number ≠ number)
            endings := s.endings ++ [Ending.mk number s.now result] }.wake
      | .blocked rest limit state => (s.suspend number rest limit state).wake
      | .forked cleanup rest state =>
          let (child, s) := s.spawnCleanup cleanup
          (s.suspend number (rest child) none state).wake

def drain : Nat → Scheduler σ α → Scheduler σ α
  | 0, s => s
  | fuel + 1, s =>
      match s.woken with
      | [] => s
      | next :: rest => drain fuel ({ s with woken := rest }.run next)

/-- Lets time pass up to the next alarm and wakes the tasks whose alarm it is, in the order in which
they began to wait; `none` if no alarm is set. -/
def passTime (s : Scheduler σ α) : Option (Scheduler σ α) :=
  match (s.tasks.filterMap (·.alarm)).min? with
  | none => none
  | some time =>
      let due := s.tasks.filter fun t => t.alarm.any (· ≤ time)
      let ordered := due.mergeSort fun a b => a.since ≤ b.since
      some { s with now := max s.now time, woken := s.woken ++ ordered.map (·.number) }

/-- How many turns of tasks are made at most; no operation has as many actions. -/
def turns (s : Scheduler σ α) : Nat := 1000 * (s.tasks.length + 1)

/-- Runs all woken tasks, without time passing. -/
def settle (s : Scheduler σ α) : Scheduler σ α := drain s.turns s

/-- Lets time pass until a task has ended, in a number of rounds. -/
def completeWithin (number : Nat) : Nat → Scheduler σ α → Scheduler σ α
  | 0, s => s
  | fuel + 1, s =>
      let s := s.settle
      if s.hasEnded number then s
      else
        match s.passTime with
        | none => s
        | some s => completeWithin number fuel s

/-- Runs a task to its end, and the others along with it. -/
def complete (s : Scheduler σ α) (number : Nat) : Scheduler σ α :=
  completeWithin number s.turns s

/-- Drops a task: what it has to clean up runs as tasks of their own. -/
def abort (s : Scheduler σ α) (number : Nat) : Scheduler σ α :=
  match s.task? number with
  | none => s
  | some t =>
      let (cleanups, state) := t.process.drop s.state
      let s :=
        { s with
          state := state
          tasks := s.tasks.filter (·.number ≠ number)
          woken := s.woken.erase number }.wake
      cleanups.foldl (fun s cleanup => (s.spawnCleanup cleanup).2) s

end Scheduler

end Cutover
