import Cutover.Fence.Local
import Cutover.Proofs.Fence.Guard
import Mathlib.Data.List.Count

set_option autoImplicit false

namespace Cutover

namespace Process

variable {σ α β : Type} {hasEnded : Nat → Prop} {number : Nat} {s s' : σ} {sight : Sight}
  {started : List (Process σ Unit)}

/-- A step of a sequence is one of its first part, or of the second if the first has ended. -/
theorem Step.of_bind {p : Process σ α} {f : α → Process σ β} {rest : Process σ β}
    (taken : (p.bind f).Step hasEnded number s sight rest s' started) :
    (∃ a, p = .done a ∧ (f a).Step hasEnded number s sight rest s' started) ∨
      ∃ left, p.Step hasEnded number s sight left s' started ∧ rest = left.bind f := by
  cases p with
  | done a => exact .inl ⟨a, rfl, taken⟩
  | act action next =>
    rw [Process.bind] at taken
    cases taken
    exact .inr ⟨_, .act .., rfl⟩
  | waiting ready limit withdraw wake next =>
    rw [Process.bind] at taken
    cases taken
    exact .inr ⟨_, .wake .., rfl⟩
  | pause ms next =>
    rw [Process.bind] at taken
    cases taken
    exact .inr ⟨_, .pause .., rfl⟩
  | join task next =>
    rw [Process.bind] at taken
    cases taken with
    | join _ _ ended => exact .inr ⟨_, .join _ _ ended, rfl⟩
  | spawn task next =>
    rw [Process.bind] at taken
    cases taken
    exact .inr ⟨_, .spawn .., rfl⟩
  | owning destroyed body next =>
    rw [Process.bind] at taken
    cases taken with
    | inside taken => exact .inr ⟨_, .inside taken, rfl⟩
    | handOver => exact .inr ⟨_, .handOver .., rfl⟩

theorem Step.of_owning {destroyed : Process σ Unit} {body : Process σ α} {next : α → Process σ β}
    {rest : Process σ β}
    (taken : (owning destroyed body next).Step hasEnded number s sight rest s' started) :
    (∃ a, body = .done a ∧ rest = next a ∧ sight = .nothing ∧ s' = s ∧ started = []) ∨
      ∃ left, body.Step hasEnded number s sight left s' started ∧
        rest = .owning destroyed left next := by
  cases taken with
  | inside taken => exact .inr ⟨_, taken, rfl⟩
  | handOver => exact .inl ⟨_, rfl, rfl, rfl, rfl, rfl⟩

theorem drop_bind {p : Process σ α} (unfinished : ∀ a, p ≠ .done a) (f : α → Process σ β) (s : σ) :
    (p.bind f).drop s = p.drop s := by
  cases p with
  | done a => exact absurd rfl (unfinished a)
  | _ => rfl

theorem drop_bind_done (p : Process σ α) (f : α → β) (s : σ) :
    (p.bind fun a => .done (f a)).drop s = p.drop s := by
  cases p <;> rfl

theorem bind_eq_done {p : Process σ α} {f : α → Process σ β} {b : β} (ended : p.bind f = .done b) :
    ∃ a, p = .done a ∧ f a = .done b := by
  cases p with
  | done a => exact ⟨a, rfl, ended⟩
  | _ => exact nomatch ended

end Process

/-- How a body ends: it returns a value or an error, or it panics. -/
abbrev Outcome (π ε α : Type) : Type := Except π (Except ε α)

/-- What happens in a fenced call. -/
inductive FenceMark (π ε α : Type) where
  | startEnded (result : Except FenceError Unit)
  | bodyStep
  | bodyEnded (outcome : Outcome π ε α)
  | bodyDropped
  | finishCalled (eventType : String)

/-- How far a fenced call has come, with what is left of its start or of its body. -/
inductive FencedCall (σ π ε α : Type) : Type 1 where
  | starting (left : Process σ (Except FenceError Unit))
  | running (left : Process σ (Outcome π ε α))
  | stopped (outcome : Outcome π ε α)
  | releasing (task : Nat) (outcome : Outcome π ε α)
  | ended (outcome : Outcome π ε α)
  | dropped

/-- A cleanup: one that a start, a body or a finish has left, or the finish of the call itself. -/
inductive FencedCleanup (σ : Type) : Type 1 where
  | own (left : Process σ Unit)
  | finishing (left : Process σ (Except FenceError Unit))

namespace FencedCleanup

variable {σ : Type}

def process : FencedCleanup σ → Process σ Unit
  | .own left => left
  | .finishing left => left.bind fun _ => .done ()

def isFinish : FencedCleanup σ → Bool
  | .own _ => false
  | .finishing _ => true

end FencedCleanup

/-- A fenced call with its cleanups, the state and the past of its pool, and the log of what has
happened in the call. -/
structure FencedLife (σ π ε α : Type) : Type 1 where
  call : FencedCall σ π ε α
  cleanups : List (FencedCleanup σ)
  state : σ
  past : List (Answered σ)
  log : List (FenceMark π ε α)

section

variable {σ π ε α : Type} (sync : TimelineSync σ) (eventType : String) (limit : Duration)
  (convert : FenceError → ε) (body : Unwinding σ π (Except ε α))

def FencedCall.process : FencedCall σ π ε α → Option (Process σ (Outcome π ε α))
  | .starting left => some (left.bind (sync.afterStart eventType convert body))
  | .running left =>
      some (.owning (sync.release eventType) (left.bind fun outcome => .done (.ok outcome))
        (sync.afterBody eventType))
  | .stopped outcome => some (sync.released eventType outcome)
  | .releasing task outcome => some (.join task (.done outcome))
  | .ended outcome => some (.done outcome)
  | .dropped => none

namespace FencedLife

def begin (s : σ) : FencedLife σ π ε α :=
  ⟨.starting (sync.start eventType limit), [], s, [], []⟩

def pool (life : FencedLife σ π ε α) : Pool σ (Outcome π ε α) :=
  ⟨life.state, [life.call.process sync eventType convert body],
    life.cleanups.map FencedCleanup.process, life.past⟩

def hasEnded (life : FencedLife σ π ε α) (cleanup : Nat) : Prop :=
  (life.cleanups.map FencedCleanup.process)[cleanup]? = some (.done ())

/-- After a step that leads to a state, with a sight, and leaves cleanups. -/
def went (life : FencedLife σ π ε α) (sight : Sight) (s : σ) (left : List (Process σ Unit)) :
    FencedLife σ π ε α :=
  { life with
    cleanups := life.cleanups ++ left.map .own
    state := s
    past := life.past ++ sight.record life.state s }

/-- The moves of a fenced call and of its cleanups, with what they add to the log. -/
inductive Move : FencedLife σ π ε α → FencedLife σ π ε α → Prop where
  | start {life : FencedLife σ π ε α} {p rest : Process σ (Except FenceError Unit)} {s : σ}
      {sight : Sight} {started : List (Process σ Unit)} (stage : life.call = .starting p)
      (taken : p.Step life.hasEnded life.cleanups.length life.state sight rest s started) :
      Move life { life.went sight s started with call := .starting rest }
  | refuse {life : FencedLife σ π ε α} {e : FenceError}
      (stage : life.call = .starting (.done (.error e))) :
      Move life
        { life with
          call := .ended (.ok (.error (convert e)))
          log := life.log ++ [.startEnded (.error e)] }
  | fence {life : FencedLife σ π ε α} (stage : life.call = .starting (.done (.ok ()))) :
      Move life { life with call := .running body.run, log := life.log ++ [.startEnded (.ok ())] }
  | work {life : FencedLife σ π ε α} {p rest : Process σ (Outcome π ε α)} {s : σ} {sight : Sight}
      {started : List (Process σ Unit)} (stage : life.call = .running p)
      (taken : p.Step life.hasEnded life.cleanups.length life.state sight rest s started) :
      Move life
        { life.went sight s started with call := .running rest, log := life.log ++ [.bodyStep] }
  | stop {life : FencedLife σ π ε α} {outcome : Outcome π ε α}
      (stage : life.call = .running (.done outcome)) :
      Move life { life with call := .stopped outcome, log := life.log ++ [.bodyEnded outcome] }
  | release {life : FencedLife σ π ε α} {outcome : Outcome π ε α}
      (stage : life.call = .stopped outcome) :
      Move life
        { life with
          call := .releasing life.cleanups.length outcome
          cleanups := life.cleanups ++ [.finishing (sync.finish eventType)]
          log := life.log ++ [.finishCalled eventType] }
  | report {life : FencedLife σ π ε α} {task : Nat} {outcome : Outcome π ε α}
      (stage : life.call = .releasing task outcome) (ended : life.hasEnded task) :
      Move life { life with call := .ended outcome }
  | dropStart {life : FencedLife σ π ε α} {p : Process σ (Except FenceError Unit)}
      (stage : life.call = .starting p) (unfinished : ∀ result, p ≠ .done result) :
      Move life
        { life with
          call := .dropped
          cleanups := life.cleanups ++ (p.drop life.state).1.map .own
          state := (p.drop life.state).2 }
  | dropBody {life : FencedLife σ π ε α} {p : Process σ (Outcome π ε α)}
      (stage : life.call = .running p) :
      Move life
        { life with
          call := .dropped
          cleanups := life.cleanups ++ (p.drop life.state).1.map .own ++
            [.finishing (sync.finish eventType)]
          state := (p.drop life.state).2
          log := life.log ++ [.bodyDropped, .finishCalled eventType] }
  | dropStopped {life : FencedLife σ π ε α} {outcome : Outcome π ε α}
      (stage : life.call = .stopped outcome) :
      Move life
        { life with
          call := .dropped
          cleanups := life.cleanups ++ [.finishing (sync.finish eventType)]
          log := life.log ++ [.finishCalled eventType] }
  | dropRelease {life : FencedLife σ π ε α} {task : Nat} {outcome : Outcome π ε α}
      (stage : life.call = .releasing task outcome) : Move life { life with call := .dropped }
  | cleanOwn {life : FencedLife σ π ε α} {i : Nat} {p rest : Process σ Unit} {s : σ} {sight : Sight}
      {started : List (Process σ Unit)} (found : life.cleanups[i]? = some (.own p))
      (taken : p.Step life.hasEnded life.cleanups.length life.state sight rest s started) :
      Move life
        { life.went sight s started with
          cleanups := life.cleanups.set i (.own rest) ++ started.map .own }
  | cleanFinish {life : FencedLife σ π ε α} {i : Nat} {p rest : Process σ (Except FenceError Unit)}
      {s : σ} {sight : Sight} {started : List (Process σ Unit)}
      (found : life.cleanups[i]? = some (.finishing p))
      (taken : p.Step life.hasEnded life.cleanups.length life.state sight rest s started) :
      Move life
        { life.went sight s started with
          cleanups := life.cleanups.set i (.finishing rest) ++ started.map .own }
  /-- Others may change the state at any time. -/
  | disturb {life : FencedLife σ π ε α} (s : σ) : Move life { life with state := s }

abbrev Reaches : FencedLife σ π ε α → FencedLife σ π ε α → Prop :=
  Relation.ReflTransGen (Move sync eventType convert body)

end FencedLife

end

namespace FencedLife

variable {σ π ε α : Type} {sync : TimelineSync σ} {eventType : String} {limit : Duration}
  {convert : FenceError → ε} {body : Unwinding σ π (Except ε α)} {life : FencedLife σ π ε α}
  {pool' : Pool σ (Outcome π ε α)}

theorem map_own (started : List (Process σ Unit)) :
    (started.map FencedCleanup.own).map FencedCleanup.process = started := by
  rw [List.map_map]
  exact List.map_id started

theorem settles (life : FencedLife σ π ε α) : ∃ settled : FencedLife σ π ε α,
    Reaches sync eventType convert body life settled ∧
      settled.pool sync eventType convert body = life.pool sync eventType convert body ∧
      ∀ result, settled.call ≠ .starting (.done result) := by
  by_cases ended : ∃ result, life.call = .starting (.done result)
  · obtain ⟨result, stage⟩ := ended
    cases result with
    | error e =>
      refine ⟨_, .single (.refuse stage), ?_, nofun⟩
      rw [pool, pool, stage]
      rfl
    | ok _ =>
      refine ⟨_, .single (.fence stage), ?_, nofun⟩
      rw [pool, pool, stage]
      rfl
  · exact ⟨life, .refl, rfl, fun result stage => ended ⟨result, stage⟩⟩

theorem steps (settled : ∀ result, life.call ≠ .starting (.done result))
    {p rest : Process σ (Outcome π ε α)} {s : σ} {sight : Sight} {started : List (Process σ Unit)}
    (living : life.call.process sync eventType convert body = some p)
    (taken : p.Step life.hasEnded life.cleanups.length life.state sight rest s started) :
    ∃ life', Move sync eventType convert body life life' ∧
      life'.pool sync eventType convert body = ⟨s, [some rest],
        life.cleanups.map FencedCleanup.process ++ started,
        life.past ++ sight.record life.state s⟩ := by
  cases stage : life.call with
  | starting left =>
    rw [stage] at living
    obtain rfl := Option.some_inj.1 living
    rcases taken.of_bind with ⟨result, rfl, _⟩ | ⟨left', taken', rfl⟩
    · exact absurd stage (settled result)
    · refine ⟨_, .start stage taken', ?_⟩
      simp only [pool, went, List.map_append, map_own, FencedCall.process]
  | running left =>
    rw [stage] at living
    obtain rfl := Option.some_inj.1 living
    rcases taken.of_owning with ⟨caught, ended, rfl, rfl, rfl, rfl⟩ | ⟨inner, taken', rfl⟩
    · obtain ⟨outcome, rfl, same⟩ := Process.bind_eq_done ended
      cases same
      refine ⟨_, .stop stage, ?_⟩
      simp only [pool, FencedCall.process, TimelineSync.afterBody, Sight.record, List.append_nil]
    · rcases taken'.of_bind with ⟨outcome, _, none⟩ | ⟨left', stepped, rfl⟩
      · cases none
      · refine ⟨_, .work stage stepped, ?_⟩
        simp only [pool, went, List.map_append, map_own, FencedCall.process]
  | stopped outcome =>
    rw [stage] at living
    obtain rfl := Option.some_inj.1 living
    cases taken with
    | spawn =>
      refine ⟨_, .release stage, ?_⟩
      simp only [pool, FencedCall.process, List.map_append, List.map_singleton, Sight.record,
        List.append_nil]
      rfl
  | releasing task outcome =>
    rw [stage] at living
    obtain rfl := Option.some_inj.1 living
    cases taken with
    | join _ _ ended =>
      refine ⟨_, .report stage ended, ?_⟩
      simp only [pool, FencedCall.process, Sight.record, List.append_nil]
  | ended outcome =>
    rw [stage] at living
    obtain rfl := Option.some_inj.1 living
    cases taken
  | dropped =>
    rw [stage] at living
    cases living

theorem drops (settled : ∀ result, life.call ≠ .starting (.done result))
    {p : Process σ (Outcome π ε α)} (living : life.call.process sync eventType convert body = some p)
    (unfinished : ∀ b, p ≠ .done b) :
    ∃ life', Move sync eventType convert body life life' ∧
      life'.pool sync eventType convert body = ⟨(p.drop life.state).2, [none],
        life.cleanups.map FencedCleanup.process ++ (p.drop life.state).1, life.past⟩ := by
  cases stage : life.call with
  | starting left =>
    rw [stage] at living
    obtain rfl := Option.some_inj.1 living
    have going : ∀ result, left ≠ .done result := fun result same => settled result (same ▸ stage)
    refine ⟨_, .dropStart stage going, ?_⟩
    simp only [pool, Process.drop_bind going, List.map_append, map_own, FencedCall.process]
  | running left =>
    rw [stage] at living
    obtain rfl := Option.some_inj.1 living
    refine ⟨_, .dropBody stage, ?_⟩
    simp only [pool, Process.drop, Process.drop_bind_done, List.map_append, map_own,
      FencedCall.process, List.map_singleton, List.append_assoc]
    rfl
  | stopped outcome =>
    rw [stage] at living
    obtain rfl := Option.some_inj.1 living
    refine ⟨_, .dropStopped stage, ?_⟩
    simp only [pool, TimelineSync.released, Process.drop, List.map_append, FencedCall.process,
      List.map_singleton]
    rfl
  | releasing task outcome =>
    rw [stage] at living
    obtain rfl := Option.some_inj.1 living
    refine ⟨_, .dropRelease stage, ?_⟩
    simp only [pool, Process.drop, FencedCall.process, List.append_nil]
  | ended outcome =>
    rw [stage] at living
    obtain rfl := Option.some_inj.1 living
    exact absurd rfl (unfinished outcome)
  | dropped =>
    rw [stage] at living
    cases living

theorem cleans {i : Nat} {p rest : Process σ Unit} {s : σ} {sight : Sight}
    {started : List (Process σ Unit)}
    (living : (life.cleanups.map FencedCleanup.process)[i]? = some p)
    (taken : p.Step life.hasEnded life.cleanups.length life.state sight rest s started) :
    ∃ life', Move sync eventType convert body life life' ∧
      life'.pool sync eventType convert body = ⟨s, [life.call.process sync eventType convert body],
        (life.cleanups.map FencedCleanup.process).set i rest ++ started,
        life.past ++ sight.record life.state s⟩ := by
  rw [List.getElem?_map, Option.map_eq_some_iff] at living
  obtain ⟨cleanup, found, rfl⟩ := living
  cases cleanup with
  | own left =>
    refine ⟨_, .cleanOwn found taken, ?_⟩
    simp only [pool, went, List.map_append, map_own, List.map_set]
    rfl
  | finishing left =>
    rcases taken.of_bind with ⟨result, rfl, none⟩ | ⟨left', taken', rfl⟩
    · cases none
    · refine ⟨_, .cleanFinish found taken', ?_⟩
      simp only [pool, went, List.map_append, map_own, List.map_set]
      rfl

/-- Nobody else makes calls; their effect is that of a change of the state. -/
def NoCall (_ : Process σ (Outcome π ε α)) : Prop := False

def Anyhow (_ _ : σ) : Prop := True

theorem moves (moved : Pool.Move NoCall Anyhow (life.pool sync eventType convert body) pool') :
    ∃ life', Reaches sync eventType convert body life life' ∧
      life'.pool sync eventType convert body = pool' := by
  obtain ⟨ready, reached, same, settled⟩ : ∃ ready : FencedLife σ π ε α,
      Reaches sync eventType convert body life ready ∧
        ready.pool sync eventType convert body = life.pool sync eventType convert body ∧
        ∀ result, ready.call ≠ .starting (.done result) := settles life
  rw [← same] at moved
  have first : ∀ {i : Nat} {p : Process σ (Outcome π ε α)},
      (ready.pool sync eventType convert body).calls[i]? = some (some p) →
        i = 0 ∧ ready.call.process sync eventType convert body = some p := by
    intro i p living
    cases i with
    | zero => exact ⟨rfl, Option.some_inj.1 living⟩
    | succ i => cases living
  have count : (ready.pool sync eventType convert body).cleanups.length = ready.cleanups.length :=
    List.length_map _
  cases moved with
  | call allowed => exact allowed.elim
  | step living taken =>
    obtain ⟨rfl, process⟩ := first living
    rw [count] at taken
    obtain ⟨life', move, pool⟩ := steps settled process taken
    exact ⟨life', reached.tail move, pool⟩
  | drop living unfinished =>
    obtain ⟨rfl, process⟩ := first living
    obtain ⟨life', move, pool⟩ := drops settled process unfinished
    exact ⟨life', reached.tail move, pool⟩
  | clean living taken =>
    rw [count] at taken
    obtain ⟨life', move, pool⟩ := cleans living taken
    exact ⟨life', reached.tail move, pool⟩
  | disturb _ => exact ⟨_, reached.tail (.disturb _), rfl⟩

theorem reaches {s : σ}
    (reached : Pool.Reaches NoCall Anyhow
      (.single s (sync.withFence eventType limit convert body).run) pool') :
    ∃ life, Reaches sync eventType convert body (begin sync eventType limit s) life ∧
      life.pool sync eventType convert body = pool' := by
  induction reached with
  | refl =>
    refine ⟨_, .refl, ?_⟩
    rw [TimelineSync.run_withFence]
    rfl
  | tail _ moved ih =>
    obtain ⟨life, lived, rfl⟩ := ih
    obtain ⟨life', further, same⟩ := moves moved
    exact ⟨life', lived.trans further, same⟩

/-- How many finishes of the call have been called. -/
def finishes (life : FencedLife σ π ε α) : Nat :=
  (life.cleanups.map FencedCleanup.isFinish).count true

/-- The log of a call that is fenced, after some steps of its body. -/
def working (steps : Nat) : List (FenceMark π ε α) :=
  .startEnded (.ok ()) :: List.replicate steps .bodyStep

/-- The log of a call whose finish has been called, after the end of its body. -/
def finished (eventType : String) (steps : Nat) (bodyOver : FenceMark π ε α) :
    List (FenceMark π ε α) :=
  working steps ++ [bodyOver, .finishCalled eventType]

theorem finished_eq (steps : Nat) (bodyOver : FenceMark π ε α) :
    finished eventType steps bodyOver =
      (working steps ++ [bodyOver]) ++ [.finishCalled eventType] := by
  rw [finished, List.append_assoc]
  rfl

/-- What the log and the finishes of a call are where it stands. -/
def Stands (eventType : String) (convert : FenceError → ε) (life : FencedLife σ π ε α) : Prop :=
  match life.call with
  | .starting _ => life.log = [] ∧ life.finishes = 0
  | .running _ => ∃ steps, life.log = working steps ∧ life.finishes = 0
  | .stopped outcome =>
      ∃ steps, life.log = working steps ++ [.bodyEnded outcome] ∧ life.finishes = 0
  | .releasing task outcome => ∃ (steps : Nat) (p : Process σ (Except FenceError Unit)),
      life.log = finished eventType steps (.bodyEnded outcome) ∧ life.finishes = 1 ∧
        life.cleanups[task]? = some (.finishing p)
  | .ended outcome =>
      (∃ e, outcome = .ok (.error (convert e)) ∧ life.log = [.startEnded (.error e)] ∧
          life.finishes = 0) ∨
        ∃ (steps task : Nat) (result : Except FenceError Unit),
          life.log = finished eventType steps (.bodyEnded outcome) ∧ life.finishes = 1 ∧
            life.cleanups[task]? = some (.finishing (.done result))
  | .dropped =>
      (life.log = [] ∧ life.finishes = 0) ∨
        ∃ steps closing, (closing = .bodyDropped ∨ ∃ outcome, closing = .bodyEnded outcome) ∧
          life.log = finished eventType steps closing ∧ life.finishes = 1

theorem count_append (cleanups left : List (FencedCleanup σ)) :
    ((cleanups ++ left).map FencedCleanup.isFinish).count true =
      (cleanups.map FencedCleanup.isFinish).count true +
        (left.map FencedCleanup.isFinish).count true := by
  rw [List.map_append, List.count_append]

theorem count_own (left : List (Process σ Unit)) :
    ((left.map FencedCleanup.own).map FencedCleanup.isFinish).count true = 0 := by
  rw [List.map_map, List.count_eq_zero]
  intro member
  obtain ⟨p, _, same⟩ := List.mem_map.1 member
  exact nomatch same

theorem count_set {cleanups : List (FencedCleanup σ)} {i : Nat} {old : FencedCleanup σ}
    (found : cleanups[i]? = some old) (new : FencedCleanup σ)
    (same : new.isFinish = old.isFinish) :
    (cleanups.set i new).map FencedCleanup.isFinish = cleanups.map FencedCleanup.isFinish := by
  apply List.ext_getElem?
  intro j
  rw [List.getElem?_map, List.getElem?_map, List.getElem?_set]
  split
  · next here =>
    subst here
    obtain ⟨inside, _⟩ := List.getElem?_eq_some_iff.1 found
    rw [if_pos inside, found, Option.map_some, Option.map_some, same]
  · rfl

theorem count_left (life : FencedLife σ π ε α) (left : List (Process σ Unit)) :
    ((life.cleanups ++ left.map FencedCleanup.own).map FencedCleanup.isFinish).count true =
      life.finishes := by
  rw [count_append, count_own]
  rfl

theorem getElem?_append_of_some {cleanups : List (FencedCleanup σ)} {i : Nat}
    {cleanup : FencedCleanup σ} (found : cleanups[i]? = some cleanup)
    (left : List (FencedCleanup σ)) : (cleanups ++ left)[i]? = some cleanup := by
  obtain ⟨inside, _⟩ := List.getElem?_eq_some_iff.1 found
  rw [List.getElem?_append_left inside, found]

theorem going_set {cleanups : List (FencedCleanup σ)} {i : Nat} {old new : FencedCleanup σ}
    (found : cleanups[i]? = some old) (left : List (FencedCleanup σ))
    (going : ∀ p, old = .finishing p → (∃ p', new = .finishing p') ∧ ∀ result, p ≠ .done result)
    {j : Nat} {p : Process σ (Except FenceError Unit)}
    (finish : cleanups[j]? = some (.finishing p)) :
    ∃ p', (cleanups.set i new ++ left)[j]? = some (.finishing p') ∧
      ∀ result, p = .done result → p' = p := by
  by_cases here : i = j
  · subst here
    obtain rfl := Option.some_inj.1 (found.symm.trans finish)
    obtain ⟨⟨p', rfl⟩, unended⟩ := going p rfl
    obtain ⟨inside, _⟩ := List.getElem?_eq_some_iff.1 found
    refine ⟨p', getElem?_append_of_some (List.getElem?_set_self inside) left, ?_⟩
    intro result ended
    exact absurd ended (unended result)
  · refine ⟨p, getElem?_append_of_some ?_ left, fun _ _ => rfl⟩
    rw [List.getElem?_set_ne here, finish]

theorem stands_begin (s : σ) :
    (begin sync eventType limit s : FencedLife σ π ε α).Stands eventType convert := ⟨rfl, rfl⟩

/-- What the cleanups do leaves the call where it stands, if a finish that has ended stays so. -/
theorem Stands.clean (stands : life.Stands eventType convert)
    (cleanups : List (FencedCleanup σ)) (s : σ) (past : List (Answered σ))
    (count : (cleanups.map FencedCleanup.isFinish).count true = life.finishes)
    (going : ∀ {i : Nat} {p : Process σ (Except FenceError Unit)},
      life.cleanups[i]? = some (.finishing p) →
      ∃ p', cleanups[i]? = some (.finishing p') ∧ ∀ result, p = .done result → p' = p) :
    (⟨life.call, cleanups, s, past, life.log⟩ : FencedLife σ π ε α).Stands eventType convert := by
  cases stage : life.call with
  | starting p =>
    rw [Stands, stage] at stands
    exact ⟨stands.1, count.trans stands.2⟩
  | running p =>
    rw [Stands, stage] at stands
    obtain ⟨steps, log, none⟩ := stands
    exact ⟨steps, log, count.trans none⟩
  | stopped outcome =>
    rw [Stands, stage] at stands
    obtain ⟨steps, log, none⟩ := stands
    exact ⟨steps, log, count.trans none⟩
  | releasing task outcome =>
    rw [Stands, stage] at stands
    obtain ⟨steps, p, log, once, found⟩ := stands
    obtain ⟨p', found', _⟩ := going found
    exact ⟨steps, p', log, count.trans once, found'⟩
  | ended outcome =>
    rw [Stands, stage] at stands
    rcases stands with ⟨e, converted, log, none⟩ | ⟨steps, task, result, log, once, found⟩
    · exact .inl ⟨e, converted, log, count.trans none⟩
    · obtain ⟨p', found', same⟩ := going found
      rw [same result rfl] at found'
      exact .inr ⟨steps, task, result, log, count.trans once, found'⟩
  | dropped =>
    rw [Stands, stage] at stands
    rcases stands with ⟨log, none⟩ | ⟨steps, closing, which, log, once⟩
    · exact .inl ⟨log, count.trans none⟩
    · exact .inr ⟨steps, closing, which, log, count.trans once⟩

theorem Stands.move {life' : FencedLife σ π ε α} (stands : life.Stands eventType convert)
    (moved : Move sync eventType convert body life life') : life'.Stands eventType convert := by
  cases moved with
  | start stage taken =>
    rw [Stands, stage] at stands
    exact ⟨stands.1, (count_left life _).trans stands.2⟩
  | refuse stage =>
    rw [Stands, stage] at stands
    exact .inl ⟨_, rfl, congrArg (· ++ _) stands.1, stands.2⟩
  | fence stage =>
    rw [Stands, stage] at stands
    exact ⟨0, congrArg (· ++ _) stands.1, stands.2⟩
  | work stage taken =>
    rw [Stands, stage] at stands
    obtain ⟨steps, log, none⟩ := stands
    refine ⟨steps + 1, ?_, (count_left life _).trans none⟩
    rw [working, List.replicate_succ', ← List.cons_append, ← working, ← log]
  | stop stage =>
    rw [Stands, stage] at stands
    obtain ⟨steps, log, none⟩ := stands
    exact ⟨steps, congrArg (· ++ _) log, none⟩
  | release stage =>
    rw [Stands, stage] at stands
    obtain ⟨steps, log, none⟩ := stands
    refine ⟨steps, sync.finish eventType, ?_, ?_, List.getElem?_concat_length⟩
    · rw [finished_eq, ← log]
    · rw [finishes, count_append, ← finishes, none]
      rfl
  | report stage ended =>
    rw [Stands, stage] at stands
    obtain ⟨steps, p, log, once, found⟩ := stands
    rw [hasEnded, List.getElem?_map, found, Option.map_some, Option.some_inj] at ended
    obtain ⟨result, rfl, _⟩ := Process.bind_eq_done ended
    exact .inr ⟨steps, _, result, log, once, found⟩
  | dropStart stage unfinished =>
    rw [Stands, stage] at stands
    exact .inl ⟨stands.1, (count_left life _).trans stands.2⟩
  | dropBody stage =>
    rw [Stands, stage] at stands
    obtain ⟨steps, log, none⟩ := stands
    refine .inr ⟨steps, .bodyDropped, .inl rfl, ?_, ?_⟩
    · rw [finished, ← log]
    · rw [finishes, count_append, count_left, none]
      rfl
  | dropStopped stage =>
    rename_i outcome
    rw [Stands, stage] at stands
    obtain ⟨steps, log, none⟩ := stands
    refine .inr ⟨steps, .bodyEnded outcome, .inr ⟨outcome, rfl⟩, ?_, ?_⟩
    · rw [finished_eq, ← log]
    · rw [finishes, count_append, ← finishes, none]
      rfl
  | dropRelease stage =>
    rw [Stands, stage] at stands
    obtain ⟨steps, p, log, once, _⟩ := stands
    exact .inr ⟨steps, _, .inr ⟨_, rfl⟩, log, once⟩
  | cleanOwn found taken =>
    refine stands.clean _ _ _ ?_ (going_set found _ fun p finish => nomatch finish)
    rw [count_append, count_own, Nat.add_zero, finishes]
    exact congrArg (List.count true) (count_set found _ rfl)
  | cleanFinish found taken =>
    refine stands.clean _ _ _ ?_ (going_set found _ fun p finish => ⟨⟨_, rfl⟩, ?_⟩)
    · rw [count_append, count_own, Nat.add_zero, finishes]
      exact congrArg (List.count true) (count_set found _ rfl)
    · rintro result rfl
      cases finish
      cases taken
  | disturb s => exact stands.clean _ s _ rfl fun found => ⟨_, found, fun _ _ => rfl⟩

theorem Stands.reaches {s : σ}
    (reached : Reaches sync eventType convert body (begin sync eventType limit s) life) :
    life.Stands eventType convert := by
  induction reached with
  | refl => exact stands_begin s
  | tail _ moved ih => exact ih.move moved

/-- What is promised of a fenced call in every state that it comes to. -/
structure ReleasedOnce (eventType : String) (convert : FenceError → ε) (life : FencedLife σ π ε α) :
    Prop where
  /-- A call whose start fails ends with its error, and nothing else happens. -/
  refused : ∀ {e}, .startEnded (.error e) ∈ life.log →
    life.log = [.startEnded (.error e)] ∧ life.finishes = 0 ∧
      life.call = .ended (.ok (.error (convert e)))
  /-- Before the start has ended nothing happens. -/
  unstarted : (∀ result, .startEnded result ∉ life.log) → life.log = [] ∧ life.finishes = 0
  /-- A call that is fenced and has ended or has been dropped has called finish once. -/
  once : .startEnded (.ok ()) ∈ life.log → life.call = .dropped ∨ (∃ b, life.call = .ended b) →
    life.finishes = 1 ∧ .finishCalled eventType ∈ life.log
  /-- Finish is called last, for the event type of the call, once the body can take no step. -/
  last : ∀ {before after e}, life.log = before ++ .finishCalled e :: after →
    e = eventType ∧ after = [] ∧ .startEnded (.ok ()) ∈ before ∧ life.finishes = 1 ∧
      (∀ e', .finishCalled e' ∉ before) ∧ ∀ p, life.call ≠ .running p
  /-- The outcome of a fenced call is that of its body, whatever the result of the finish, and it is
  there only after the finish has ended. -/
  outcome : ∀ {b}, .startEnded (.ok ()) ∈ life.log → life.call = .ended b →
    .bodyEnded b ∈ life.log ∧
      ∃ (task : Nat) (result : Except FenceError Unit),
        life.cleanups[task]? = some (.finishing (.done result))

theorem mem_working {steps : Nat} {mark : FenceMark π ε α} (member : mark ∈ working steps) :
    mark = .startEnded (.ok ()) ∨ mark = .bodyStep := by
  rcases List.mem_cons.1 member with first | later
  · exact .inl first
  · exact .inr (List.eq_of_mem_replicate later)

theorem mem_finished {steps : Nat} {closing mark : FenceMark π ε α}
    (member : mark ∈ finished eventType steps closing) :
    mark = .startEnded (.ok ()) ∨ mark = .bodyStep ∨ mark = closing ∨
      mark = .finishCalled eventType := by
  rcases List.mem_append.1 member with before | after
  · rcases mem_working before with start | step
    · exact .inl start
    · exact .inr (.inl step)
  · simpa using Or.inr (Or.inr after)

theorem split_last {γ : Type} {P : γ → Prop} {first before after : List γ} {x y : γ}
    (unfound : ∀ z ∈ first, ¬ P z) (sought : P y) (split : first ++ [x] = before ++ y :: after) :
    first = before ∧ x = y ∧ after = [] := by
  induction first generalizing before with
  | nil =>
    cases before with
    | nil =>
      obtain ⟨same, none⟩ := List.cons.inj split
      exact ⟨rfl, same, none.symm⟩
    | cons b rest => simp at split
  | cons a others ih =>
    cases before with
    | nil =>
      obtain ⟨rfl, _⟩ := List.cons.inj split
      exact absurd sought (unfound a List.mem_cons_self)
    | cons b rest =>
      obtain ⟨rfl, tails⟩ := List.cons.inj split
      have later : ∀ z ∈ others, ¬ P z := fun z inside => unfound z (List.mem_cons_of_mem a inside)
      obtain ⟨rfl, same, none⟩ := ih later tails
      exact ⟨rfl, same, none⟩

/-- What has happened in a call so far. -/
inductive Course (eventType : String) (convert : FenceError → ε) (life : FencedLife σ π ε α) :
    Prop where
  | unstarted (log : life.log = []) (none : life.finishes = 0)
  | refused {e : FenceError} (log : life.log = [.startEnded (.error e)])
      (none : life.finishes = 0) (stage : life.call = .ended (.ok (.error (convert e))))
  | underway {steps : Nat} {later : List (FenceMark π ε α)}
      (log : life.log = working steps ++ later)
      (last : ∀ mark ∈ later, ∃ outcome, mark = .bodyEnded outcome)
      (living : life.call ≠ .dropped) (unended : ∀ outcome, life.call ≠ .ended outcome)
  | released {steps : Nat} {closing : FenceMark π ε α}
      (log : life.log = finished eventType steps closing)
      (which : closing = .bodyDropped ∨ ∃ b, closing = .bodyEnded b) (once : life.finishes = 1)
      (stopped : ∀ p, life.call ≠ .running p)
      (reported : ∀ b, life.call = .ended b → closing = .bodyEnded b ∧
        ∃ (task : Nat) (result : Except FenceError Unit),
          life.cleanups[task]? = some (.finishing (.done result)))

theorem Stands.course (stands : life.Stands eventType convert) : life.Course eventType convert := by
  cases stage : life.call with
  | starting p =>
    rw [Stands, stage] at stands
    exact .unstarted stands.1 stands.2
  | running p =>
    rw [Stands, stage] at stands
    obtain ⟨steps, log, _⟩ := stands
    refine .underway (log.trans (List.append_nil _).symm) (List.forall_mem_nil _) ?_ ?_ <;>
      rw [stage] <;> exact nofun
  | stopped outcome =>
    rw [Stands, stage] at stands
    obtain ⟨steps, log, _⟩ := stands
    refine .underway log (List.forall_mem_singleton.2 ⟨outcome, rfl⟩) ?_ ?_ <;>
      rw [stage] <;> exact nofun
  | releasing task outcome =>
    rw [Stands, stage] at stands
    obtain ⟨steps, p, log, once, _⟩ := stands
    refine .released log (.inr ⟨outcome, rfl⟩) once ?_ ?_
    · rw [stage]
      exact nofun
    · rw [stage]
      exact nofun
  | ended outcome =>
    rw [Stands, stage] at stands
    rcases stands with ⟨e, rfl, log, none⟩ | ⟨steps, task, result, log, once, found⟩
    · exact .refused log none stage
    · refine .released log (.inr ⟨outcome, rfl⟩) once ?_ ?_
      · rw [stage]
        exact nofun
      · intro b same
        obtain rfl := FencedCall.ended.inj (stage.symm.trans same)
        exact ⟨rfl, task, result, found⟩
  | dropped =>
    rw [Stands, stage] at stands
    rcases stands with ⟨log, none⟩ | ⟨steps, closing, which, log, once⟩
    · exact .unstarted log none
    · refine .released log which once ?_ ?_
      · rw [stage]
        exact nofun
      · rw [stage]
        exact nofun

theorem working_unfinished {steps : Nat} {mark : FenceMark π ε α} (member : mark ∈ working steps)
    (e : String) : mark ≠ .finishCalled e := by
  rcases mem_working member with rfl | rfl <;> exact nofun

theorem finished_split {steps : Nat} {closing : FenceMark π ε α}
    {before after : List (FenceMark π ε α)} {e : String}
    (which : closing = .bodyDropped ∨ ∃ b, closing = .bodyEnded b)
    (split : finished eventType steps closing = before ++ .finishCalled e :: after) :
    working steps ++ [closing] = before ∧ eventType = e ∧ after = [] ∧
      ∀ e', .finishCalled e' ∉ before := by
  have unfinished : ∀ mark ∈ working steps ++ [closing], ¬ ∃ e', mark = .finishCalled e' := by
    rintro mark member ⟨e', rfl⟩
    rcases List.mem_append.1 member with early | late
    · exact working_unfinished early e' rfl
    · rcases which with rfl | ⟨b, rfl⟩
      · exact nomatch List.mem_singleton.1 late
      · exact nomatch List.mem_singleton.1 late
  rw [finished_eq] at split
  obtain ⟨rfl, same, none⟩ := split_last unfinished ⟨e, rfl⟩ split
  exact ⟨rfl, FenceMark.finishCalled.inj same, none, fun e' inside => unfinished _ inside ⟨e', rfl⟩⟩

theorem unfinished_split {log before after : List (FenceMark π ε α)} {e : String}
    (unfinished : .finishCalled e ∉ log) : log ≠ before ++ .finishCalled e :: after := by
  rintro rfl
  exact unfinished (List.mem_append_right before List.mem_cons_self)

theorem releasedOnce_unstarted (log : life.log = []) (none : life.finishes = 0) :
    life.ReleasedOnce eventType convert where
  refused := by
    intro e member
    rw [log] at member
    cases member
  unstarted _ := ⟨log, none⟩
  once := by
    intro member
    rw [log] at member
    cases member
  last := by
    intro before after e split
    rw [log] at split
    exact absurd split (unfinished_split List.not_mem_nil)
  outcome := by
    intro b member
    rw [log] at member
    cases member

theorem releasedOnce_refused {e : FenceError} (log : life.log = [.startEnded (.error e)])
    (none : life.finishes = 0) (stage : life.call = .ended (.ok (.error (convert e)))) :
    life.ReleasedOnce eventType convert where
  refused := by
    intro e member
    rw [log] at member
    obtain rfl := Except.error.inj (FenceMark.startEnded.inj (List.mem_singleton.1 member))
    exact ⟨log, none, stage⟩
  unstarted := by
    intro unstarted
    rw [log] at unstarted
    exact absurd (List.mem_singleton.2 rfl) (unstarted _)
  once := by
    intro member
    rw [log] at member
    cases List.mem_singleton.1 member
  last := by
    intro before after e split
    rw [log] at split
    exact absurd split (unfinished_split fun member => nomatch List.mem_singleton.1 member)
  outcome := by
    intro b member
    rw [log] at member
    cases List.mem_singleton.1 member

theorem releasedOnce_underway {steps : Nat} {later : List (FenceMark π ε α)}
    (log : life.log = working steps ++ later)
    (last : ∀ mark ∈ later, ∃ outcome, mark = .bodyEnded outcome)
    (living : life.call ≠ .dropped) (unended : ∀ outcome, life.call ≠ .ended outcome) :
    life.ReleasedOnce eventType convert := by
  have member_of : ∀ {mark}, mark ∈ life.log → mark = .startEnded (.ok ()) ∨ mark = .bodyStep ∨
      ∃ outcome, mark = .bodyEnded outcome := by
    intro mark member
    rw [log] at member
    rcases List.mem_append.1 member with early | late
    · exact (mem_working early).imp_right .inl
    · exact .inr (.inr (last mark late))
  constructor
  case refused =>
    intro e member
    rcases member_of member with other | other | ⟨_, other⟩ <;> cases other
  case unstarted =>
    intro unstarted
    rw [log] at unstarted
    exact absurd List.mem_cons_self (unstarted _)
  case once =>
    rintro _ (dropped | ⟨b, ended⟩)
    · exact absurd dropped living
    · exact absurd ended (unended b)
  case last =>
    intro before after e split
    refine absurd split (unfinished_split fun member => ?_)
    rcases member_of member with other | other | ⟨_, other⟩ <;> cases other
  case outcome =>
    exact fun _ ended => absurd ended (unended _)

theorem releasedOnce_released {steps : Nat} {closing : FenceMark π ε α}
    (log : life.log = finished eventType steps closing)
    (which : closing = .bodyDropped ∨ ∃ b, closing = .bodyEnded b) (once : life.finishes = 1)
    (stopped : ∀ p, life.call ≠ .running p)
    (reported : ∀ b, life.call = .ended b → closing = .bodyEnded b ∧
      ∃ (task : Nat) (result : Except FenceError Unit),
        life.cleanups[task]? = some (.finishing (.done result))) :
    life.ReleasedOnce eventType convert where
  refused := by
    intro e member
    rw [log] at member
    rcases mem_finished member with other | other | other | other
    · cases other
    · cases other
    · rcases which with rfl | ⟨b, rfl⟩ <;> cases other
    · cases other
  unstarted := by
    intro unstarted
    rw [log] at unstarted
    exact absurd List.mem_cons_self (unstarted _)
  once := by
    intro _ _
    refine ⟨once, ?_⟩
    rw [log, finished]
    simp
  last := by
    intro before after e split
    rw [log] at split
    obtain ⟨rfl, same, none, unfinished⟩ := finished_split which split
    exact ⟨same.symm, none, List.mem_cons_self, once, unfinished, stopped⟩
  outcome := by
    intro b _ returned
    obtain ⟨rfl, ended⟩ := reported b returned
    refine ⟨?_, ended⟩
    rw [log, finished]
    simp

theorem Course.releasedOnce (course : life.Course eventType convert) :
    life.ReleasedOnce eventType convert := by
  cases course with
  | unstarted log none => exact releasedOnce_unstarted log none
  | refused log none stage => exact releasedOnce_refused log none stage
  | underway log last living unended => exact releasedOnce_underway log last living unended
  | released log which once stopped reported =>
    exact releasedOnce_released log which once stopped reported

end FencedLife

/-- A fence is released once. Take any sync, any body, and any changes that others make to the state
meanwhile. A call whose start fails is refused with the converted error, and its body takes no step.
After a start that succeeds finish is called once, also when the body panics and when the call is
dropped anywhere, and never before the body has stopped. The call ends as its body does, after the
finish has ended and whatever its result. -/
theorem fence_released_once {σ π ε α : Type} (sync : TimelineSync σ) (eventType : String)
    (limit : Duration) (convert : FenceError → ε) (body : Unwinding σ π (Except ε α)) {s : σ}
    {pool : Pool σ (Except π (Except ε α))}
    (reached : Pool.Reaches FencedLife.NoCall FencedLife.Anyhow
      (.single s (sync.withFence eventType limit convert body).run) pool) :
    ∃ life, FencedLife.Reaches sync eventType convert body (.begin sync eventType limit s) life ∧
      life.pool sync eventType convert body = pool ∧ life.ReleasedOnce eventType convert := by
  obtain ⟨life, lived, same⟩ := FencedLife.reaches reached
  exact ⟨life, lived, same, (FencedLife.Stands.reaches lived).course.releasedOnce⟩

theorem fence_released_once_dropped :
    let body : Unwinding LocalFences String (Except String Nat) :=
      ExceptT.mk (.pause 5 (.done (.error "broken")))
    ∃ pool, Pool.Reaches FencedLife.NoCall FencedLife.Anyhow (.single .empty
        (LocalFences.sync.withFence "orders" ⟨1000⟩ FenceError.message body).run) pool ∧
      pool.calls.length = 1 ∧ pool.cleanups.length = 1 ∧
      ∃ life, FencedLife.Reaches LocalFences.sync "orders" FenceError.message body
          (.begin LocalFences.sync "orders" ⟨1000⟩ .empty) life ∧
        life.pool LocalFences.sync "orders" FenceError.message body = pool ∧
        life.ReleasedOnce "orders" FenceError.message := by
  intro body
  have begun : Pool.Reaches FencedLife.NoCall FencedLife.Anyhow (.single .empty
      (LocalFences.sync.withFence "orders" ⟨1000⟩ FenceError.message body).run) _ := .refl
  have asked := begun.tail (.step (i := 0) rfl (.act _ _ _))
  have started := asked.tail (.step (i := 0) rfl (.wake _ _ _ _ _ _))
  have dropped := started.tail (.drop (i := 0) rfl nofun)
  exact ⟨_, dropped, rfl, rfl, fence_released_once _ _ _ FenceError.message _ dropped⟩

end Cutover
