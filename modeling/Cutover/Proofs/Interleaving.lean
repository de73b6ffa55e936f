import Cutover.Process.Turn
import Mathlib.Logic.Relation

set_option autoImplicit false

namespace Cutover

/-- What a step shows: the answer of an action, or nothing. -/
inductive Sight : Type 1 where
  | answer {β : Type} (value : β)
  | nothing

/-- An answer that was given, with the state before the action and after it. -/
structure Answered (σ : Type) : Type 1 where
  type : Type
  value : type
  before : σ
  after : σ

def Sight.record {σ : Type} (before after : σ) : Sight → List (Answered σ)
  | .answer value => [⟨_, value, before, after⟩]
  | .nothing => []

namespace Process

variable {σ τ α β : Type}

/-- One step of a process: what it shows, what is left of the process, the state after it, and the
tasks it starts, the first of which has the given number. -/
inductive Step (hasEnded : Nat → Prop) (number : Nat) : {α : Type} →
    Process σ α → σ → Sight → Process σ α → σ → List (Process σ Unit) → Prop where
  | act {α β : Type} (action : σ → β × σ) (next : β → Process σ α) (s : σ) :
      Step hasEnded number (.act action next) s (.answer (action s).1) (next (action s).1)
        (action s).2 []
  /-- A wait is over when it is granted, and also when its limit is up. -/
  | wake {α β : Type} (ready : σ → Bool) (limit : Nat) (withdraw : σ → σ) (wake : σ → β × σ)
      (next : β → Process σ α) (s : σ) :
      Step hasEnded number (.waiting ready limit withdraw wake next) s (.answer (wake s).1)
        (next (wake s).1) (wake s).2 []
  | pause {α : Type} (ms : Nat) (next : Process σ α) (s : σ) :
      Step hasEnded number (.pause ms next) s .nothing next s []
  | join {α : Type} {task : Nat} (next : Process σ α) (s : σ) (ended : hasEnded task) :
      Step hasEnded number (.join task next) s .nothing next s []
  | spawn {α : Type} (task : Process σ Unit) (next : Nat → Process σ α) (s : σ) :
      Step hasEnded number (.spawn task next) s .nothing (next number) s [task]
  | inside {α β : Type} {destroyed : Process σ Unit} {body rest : Process σ β}
      {next : β → Process σ α} {s s' : σ} {sight : Sight} {started : List (Process σ Unit)}
      (taken : Step hasEnded number body s sight rest s' started) :
      Step hasEnded number (.owning destroyed body next) s sight (.owning destroyed rest next) s'
        started
  /-- The body has ended: what was owned is handed over. -/
  | handOver {α β : Type} (destroyed : Process σ Unit) (result : β) (next : β → Process σ α) (s : σ) :
      Step hasEnded number (.owning destroyed (.done result) next) s .nothing (next result) s []

/-- What a step shows and what it leaves. -/
structure Stepped (σ α : Type) : Type 1 where
  sight : Sight
  rest : Process σ α
  state : σ
  started : List (Process σ Unit)

def result? : {α : Type} → Process σ α → Option α
  | _, .done a => some a
  | _, _ => none

/-- The step that a process takes next, if it can take one. -/
def step? (hasEnded : Nat → Bool) (number : Nat) : {α : Type} →
    Process σ α → σ → Option (Stepped σ α)
  | _, .done _, _ => none
  | _, .act action next, s => some ⟨.answer (action s).1, next (action s).1, (action s).2, []⟩
  | _, .waiting _ _ _ wake next, s => some ⟨.answer (wake s).1, next (wake s).1, (wake s).2, []⟩
  | _, .pause _ next, s => some ⟨.nothing, next, s, []⟩
  | _, .join task next, s => if hasEnded task then some ⟨.nothing, next, s, []⟩ else none
  | _, .spawn task next, s => some ⟨.nothing, next number, s, [task]⟩
  | _, .owning destroyed body next, s =>
      match body.step? hasEnded number s with
      | some taken =>
          some ⟨taken.sight, .owning destroyed taken.rest next, taken.state, taken.started⟩
      | none => body.result?.map fun b => ⟨.nothing, next b, s, []⟩

theorem eq_done_of_result? {p : Process σ α} {a : α} (ended : p.result? = some a) :
    p = .done a := by
  cases p with
  | done b => rw [Option.some_inj.1 (ended : some b = some a)]
  | _ => exact nomatch ended

theorem step?_sound {hasEnded : Nat → Bool} {ended : Nat → Prop} {number : Nat}
    (sound : ∀ task, hasEnded task = true → ended task) {p : Process σ α} {s : σ}
    {taken : Stepped σ α} (found : p.step? hasEnded number s = some taken) :
    p.Step ended number s taken.sight taken.rest taken.state taken.started := by
  induction p with
  | done a => exact nomatch found
  | act action next =>
    obtain rfl := Option.some_inj.1 found
    exact .act action next s
  | waiting ready limit withdraw wake next =>
    obtain rfl := Option.some_inj.1 found
    exact .wake ready limit withdraw wake next s
  | pause ms next =>
    obtain rfl := Option.some_inj.1 found
    exact .pause ms next s
  | join task next =>
    rw [step?] at found
    split at found
    · next ended =>
      obtain rfl := Option.some_inj.1 found
      exact .join next s (sound task ended)
    · exact nomatch found
  | spawn task next =>
    obtain rfl := Option.some_inj.1 found
    exact .spawn task next s
  | owning destroyed body next _ ihBody =>
    rw [step?] at found
    cases inside : body.step? hasEnded number s with
    | some step =>
      rw [inside] at found
      obtain rfl := Option.some_inj.1 found
      exact .inside (ihBody inside)
    | none =>
      rw [inside] at found
      obtain ⟨a, ended, rfl⟩ := Option.map_eq_some_iff.1 found
      obtain rfl := eq_done_of_result? ended
      exact .handOver destroyed a next s

end Process

/-- Calls with what is left of each (nothing of a dropped one), the cleanups that were started, and
the answers given so far, the oldest first. -/
structure Pool (σ α : Type) : Type 1 where
  state : σ
  calls : List (Option (Process σ α))
  cleanups : List (Process σ Unit)
  past : List (Answered σ)

namespace Pool

variable {σ α : Type}

def empty (s : σ) : Pool σ α := ⟨s, [], [], []⟩

def single (s : σ) (call : Process σ α) : Pool σ α := ⟨s, [some call], [], []⟩

/-- Some calls, of which none has taken a step. -/
def started (s : σ) (calls : List (Process σ α)) : Pool σ α := ⟨s, calls.map some, [], []⟩

def hasEnded (pool : Pool σ α) (cleanup : Nat) : Prop := pool.cleanups[cleanup]? = some (.done ())

/-- The moves of a pool: which calls can be made, and what can change the state from outside, are
given. A cleanup is never dropped, and neither is a call that has ended. -/
inductive Move (admitted : Process σ α → Prop) (disturbance : σ → σ → Prop) :
    Pool σ α → Pool σ α → Prop where
  | call {pool : Pool σ α} {p : Process σ α} (allowed : admitted p) :
      Move admitted disturbance pool { pool with calls := pool.calls ++ [some p] }
  | step {pool : Pool σ α} {i : Nat} {p rest : Process σ α} {sight : Sight} {s : σ}
      {started : List (Process σ Unit)} (living : pool.calls[i]? = some (some p))
      (taken : p.Step pool.hasEnded pool.cleanups.length pool.state sight rest s started) :
      Move admitted disturbance pool
        ⟨s, pool.calls.set i (some rest), pool.cleanups ++ started,
          pool.past ++ sight.record pool.state s⟩
  | drop {pool : Pool σ α} {i : Nat} {p : Process σ α} (living : pool.calls[i]? = some (some p))
      (unfinished : ∀ a, p ≠ .done a) :
      Move admitted disturbance pool
        { pool with
          state := (p.drop pool.state).2
          calls := pool.calls.set i none
          cleanups := pool.cleanups ++ (p.drop pool.state).1 }
  | clean {pool : Pool σ α} {i : Nat} {p rest : Process σ Unit} {sight : Sight} {s : σ}
      {started : List (Process σ Unit)} (living : pool.cleanups[i]? = some p)
      (taken : p.Step pool.hasEnded pool.cleanups.length pool.state sight rest s started) :
      Move admitted disturbance pool
        ⟨s, pool.calls, pool.cleanups.set i rest ++ started,
          pool.past ++ sight.record pool.state s⟩
  | disturb {pool : Pool σ α} {s : σ} (allowed : disturbance pool.state s) :
      Move admitted disturbance pool { pool with state := s }

/-- Who takes the next step. -/
inductive Turn where
  | call (i : Nat)
  | clean (i : Nat)

/-- A pool after a step of a call or a cleanup; it stays as it is if there is no such step. -/
def turn (pool : Pool σ α) : Turn → Pool σ α
  | .call i =>
      match pool.calls[i]?.join.bind fun p =>
        p.step? (fun task => (pool.cleanups[task]?.bind (·.result?)).isSome) pool.cleanups.length
          pool.state with
      | some taken =>
          ⟨taken.state, pool.calls.set i (some taken.rest), pool.cleanups ++ taken.started,
            pool.past ++ taken.sight.record pool.state taken.state⟩
      | none => pool
  | .clean i =>
      match pool.cleanups[i]?.bind fun p =>
        p.step? (fun task => (pool.cleanups[task]?.bind (·.result?)).isSome) pool.cleanups.length
          pool.state with
      | some taken =>
          ⟨taken.state, pool.calls, pool.cleanups.set i taken.rest ++ taken.started,
            pool.past ++ taken.sight.record pool.state taken.state⟩
      | none => pool

abbrev Reaches (admitted : Process σ α → Prop) (disturbance : σ → σ → Prop) :
    Pool σ α → Pool σ α → Prop :=
  Relation.ReflTransGen (Move admitted disturbance)

theorem reaches_calls {admitted : Process σ α → Prop} {disturbance : σ → σ → Prop}
    (calls : List (Process σ α)) (allowed : ∀ p ∈ calls, admitted p) (pool : Pool σ α) :
    Reaches admitted disturbance pool { pool with calls := pool.calls ++ calls.map some } := by
  induction calls generalizing pool with
  | nil =>
    rw [List.map_nil, List.append_nil]
  | cons p rest ih =>
    obtain ⟨first, others⟩ := List.forall_mem_cons.1 allowed
    have called : Move admitted disturbance pool { pool with calls := pool.calls ++ [some p] } :=
      .call first
    have reached := ih others { pool with calls := pool.calls ++ [some p] }
    rw [List.append_assoc] at reached
    exact .head called reached

theorem reaches_started {admitted : Process σ α → Prop} {disturbance : σ → σ → Prop} (s : σ)
    (calls : List (Process σ α)) (allowed : ∀ p ∈ calls, admitted p) :
    Reaches admitted disturbance (empty s) (started s calls) :=
  reaches_calls calls allowed (empty s)

theorem hasEnded_of_result? {pool : Pool σ α} (task : Nat)
    (ended : (pool.cleanups[task]?.bind (·.result?)).isSome = true) : pool.hasEnded task := by
  obtain ⟨_, found⟩ := Option.isSome_iff_exists.1 ended
  obtain ⟨p, living, ended⟩ := Option.bind_eq_some_iff.1 found
  rw [hasEnded, living, Process.eq_done_of_result? ended]

theorem reaches_turn {admitted : Process σ α → Prop} {disturbance : σ → σ → Prop}
    (pool : Pool σ α) (t : Turn) : Reaches admitted disturbance pool (pool.turn t) := by
  cases t with
  | call i =>
    rw [turn]
    split
    · next taken found =>
      obtain ⟨p, living, step⟩ := Option.bind_eq_some_iff.1 found
      exact .single (.step (Option.join_eq_some_iff.1 living)
        (Process.step?_sound hasEnded_of_result? step))
    · exact .refl
  | clean i =>
    rw [turn]
    split
    · next taken found =>
      obtain ⟨p, living, step⟩ := Option.bind_eq_some_iff.1 found
      exact .single (.clean living (Process.step?_sound hasEnded_of_result? step))
    · exact .refl

theorem reaches_turns {admitted : Process σ α → Prop} {disturbance : σ → σ → Prop}
    (turns : List Turn) (pool : Pool σ α) :
    Reaches admitted disturbance pool (turns.foldl turn pool) := by
  induction turns generalizing pool with
  | nil => exact .refl
  | cons t rest ih => exact (reaches_turn pool t).trans (ih (pool.turn t))

def begun (s : σ) (calls : List (Process σ α)) (turns : List Turn) : Pool σ α :=
  turns.foldl turn (started s calls)

theorem reaches_begun {admitted : Process σ α → Prop} {disturbance : σ → σ → Prop} {s : σ}
    {calls : List (Process σ α)} (allowed : ∀ p ∈ calls, admitted p) (turns : List Turn) :
    Reaches admitted disturbance (empty s) (begun s calls turns) :=
  (reaches_started s calls allowed).trans (reaches_turns turns _)

end Pool

end Cutover
