import Cutover.Proofs.Fence.Abstract
import Cutover.Proofs.Protocol
import Mathlib.Algebra.BigOperators.Group.List.Basic
import Mathlib.Algebra.Order.Group.Multiset

set_option autoImplicit false

namespace Cutover

namespace LocalFences

/-- Keeps a permit until it is dropped, which can be at any time. -/
def keepPermit (t : Ticket) : Process LocalFences (Except FenceError Unit) :=
  .waiting (fun _ => true) 0 (·.giveUp t) (fun f => (.ok (), f.giveUp t)) .done

/-- Takes a permit and keeps it until it is dropped. -/
def publish (eventType : String) (limit : Duration) :
    Process LocalFences (Except FenceError Unit) :=
  (permit eventType limit).bind fun
    | .error e => .done (.error e)
    | .ok t => keepPermit t

/-- The calls that are made of local fences. -/
inductive IsCall : Process LocalFences (Except FenceError Unit) → Prop where
  | publish (eventType : String) (limit : Duration) : IsCall (publish eventType limit)
  | start (eventType : String) (limit : Duration) : IsCall (sync.start eventType limit)
  | finish (eventType : String) : IsCall (sync.finish eventType)

end LocalFences

/-- How far a call has come. -/
inductive FenceTask where
  | publish (eventType : String) (limit : Duration)
  | awaitPermit (eventType : String) (limit : Duration) (ticket : Ticket)
  | keepPermit (eventType : String) (ticket : Ticket)
  | start (eventType : String) (limit : Duration)
  | awaitStart (eventType : String) (limit : Duration) (ticket : Ticket)
  | finish (eventType : String)
  | ended (answer : Except FenceError Unit)
  | dropped

namespace FenceTask

def process : FenceTask → Option (Process LocalFences (Except FenceError Unit))
  | .publish eventType limit => some (LocalFences.publish eventType limit)
  | .awaitPermit eventType limit t =>
      some (.waiting (·.isGranted t) limit.millis (·.giveUp t)
        (LocalFences.permitEnded eventType limit t) fun
          | .error e => .done (.error e)
          | .ok t => LocalFences.keepPermit t)
  | .keepPermit _ t => some (LocalFences.keepPermit t)
  | .start eventType limit => some (LocalFences.sync.start eventType limit)
  | .awaitStart eventType limit t =>
      some (.waiting (·.isGranted t) limit.millis (·.giveUp t)
        (LocalFences.startEnded eventType limit t) .done)
  | .finish eventType => some (LocalFences.sync.finish eventType)
  | .ended answer => some (.done answer)
  | .dropped => none

def isNew : FenceTask → Bool
  | .publish _ _ => true
  | .start _ _ => true
  | .finish _ => true
  | _ => false

def users : FenceTask → Multiset FenceUser
  | .publish _ _ => 0
  | .awaitPermit eventType _ t => {⟨eventType, t, .waiting .shared⟩}
  | .keepPermit eventType t => {⟨eventType, t, .publishing⟩}
  | .start _ _ => 0
  | .awaitStart eventType _ t => {⟨eventType, t, .waiting .exclusive⟩}
  | .finish _ => 0
  | .ended _ => 0
  | .dropped => 0

theorem users_role {task : FenceTask} {u : FenceUser} (member : u ∈ task.users) :
    u.role ≠ .updating := by
  cases task with
  | awaitPermit e limit t =>
    rw [Multiset.mem_singleton.1 member]
    exact FenceRole.waiting_ne_updating _
  | keepPermit e t =>
    rw [Multiset.mem_singleton.1 member]
    exact FenceRole.publishing_ne_updating
  | awaitStart e limit t =>
    rw [Multiset.mem_singleton.1 member]
    exact FenceRole.waiting_ne_updating _
  | _ => exact absurd member (Multiset.notMem_zero u)

def usersOf (tasks : List FenceTask) : Multiset FenceUser := (tasks.map users).sum

theorem usersOf_cons (task : FenceTask) (tasks : List FenceTask) :
    usersOf (task :: tasks) = task.users + usersOf tasks := List.sum_cons

theorem usersOf_perm {tasks tasks' : List FenceTask} (same : tasks.Perm tasks') :
    usersOf tasks = usersOf tasks' := (same.map users).sum_eq

theorem mem_usersOf {tasks : List FenceTask} {u : FenceUser} :
    u ∈ usersOf tasks ↔ ∃ task ∈ tasks, u ∈ task.users := by
  induction tasks with
  | nil => simp [usersOf]
  | cons task rest ih => rw [usersOf_cons, Multiset.mem_add, ih, List.exists_mem_cons_iff]

/-- What a call does and what it is answered, as an event of the fence of an event type. -/
inductive Step : FenceTask → String → FenceEvent → FenceTask → Prop where
  | askPermit {e : String} {limit : Duration} {t : Ticket} :
      Step (.publish e limit) e (.asked ⟨t.request, .shared⟩) (.awaitPermit e limit t)
  | permit {e : String} {limit : Duration} {t : Ticket} :
      Step (.awaitPermit e limit t) e (.permitted t.request) (.keepPermit e t)
  | permitTimeout {e : String} {limit : Duration} {t : Ticket} :
      Step (.awaitPermit e limit t) e (.refused t.request) (.ended (.error (.timeout e limit)))
  | dropPermit {e : String} {t : Ticket} :
      Step (.keepPermit e t) e (.left t.request) (.ended (.ok ()))
  | askStart {e : String} {limit : Duration} {t : Ticket} :
      Step (.start e limit) e (.asked ⟨t.request, .exclusive⟩) (.awaitStart e limit t)
  | start {e : String} {limit : Duration} {t : Ticket} :
      Step (.awaitStart e limit t) e (.started t.request) (.ended (.ok ()))
  | startTimeout {e : String} {limit : Duration} {t : Ticket} :
      Step (.awaitStart e limit t) e (.refused t.request) (.ended (.error (.timeout e limit)))
  | finish {e : String} : Step (.finish e) e .finished (.ended (.ok ()))
  | notHeld {e : String} : Step (.finish e) e .notHeld (.ended (.error (.notHeld e)))
  | withdrawPermit {e : String} {limit : Duration} {t : Ticket} :
      Step (.awaitPermit e limit t) e (.left t.request) .dropped
  | cancelPublisher {e : String} {t : Ticket} :
      Step (.keepPermit e t) e (.left t.request) .dropped
  | withdrawStart {e : String} {limit : Duration} {t : Ticket} :
      Step (.awaitStart e limit t) e (.left t.request) .dropped

end FenceTask

/-- The fences of all event types without locks, and the calls that are made of them. -/
structure AbstractFences where
  fence : String → AbstractFence
  tasks : List FenceTask

namespace AbstractFences

def idle : AbstractFences := ⟨fun _ => .idle, []⟩

/-- The moves of fences without locks. A call that has not begun and one that is dropped before it
has begun are no events of a fence. -/
inductive Move : AbstractFences → AbstractFences → Prop where
  | call {a : AbstractFences} {task : FenceTask} (new : task.isNew = true) :
      Move a ⟨a.fence, a.tasks ++ [task]⟩
  | forget {a : AbstractFences} {i : Nat} {task : FenceTask} (found : a.tasks[i]? = some task)
      (new : task.isNew = true) : Move a ⟨a.fence, a.tasks.set i .dropped⟩
  | step {a : AbstractFences} {i : Nat} {task task' : FenceTask} {e : String} {event : FenceEvent}
      {fence : String → AbstractFence} (found : a.tasks[i]? = some task)
      (taken : task.Step e event task') (here : (a.fence e).Step event (fence e))
      (elsewhere : ∀ e', e' ≠ e → fence e' = a.fence e') :
      Move a ⟨fence, a.tasks.set i task'⟩

end AbstractFences

namespace LocalFences

theorem publish_eq (e : String) (limit : Duration) :
    publish e limit = .act (fun f => f.ask e .shared) fun t =>
      .waiting (·.isGranted t) limit.millis (·.giveUp t) (permitEnded e limit t) fun
        | .error error => .done (.error error)
        | .ok t => keepPermit t := rfl

theorem start_eq (e : String) (limit : Duration) :
    sync.start e limit = .act (fun f => f.ask e .exclusive) fun t =>
      .waiting (·.isGranted t) limit.millis (·.giveUp t) (startEnded e limit t) .done := rfl

theorem finish_eq (e : String) : sync.finish e = .act (finish e) .done := rfl

/-- The users of the locks are the calls and the updates in progress. -/
def Serves (f : LocalFences) (tasks : List FenceTask) : Prop :=
  ∃ updates : Multiset FenceUser, (∀ u ∈ updates, u.role = .updating) ∧
    f.Sound (FenceTask.usersOf tasks + updates)

theorem serves_empty : empty.Serves [] := ⟨0, nofun, sound_empty⟩

variable {f f' : LocalFences} {others tasks : List FenceTask}

theorem Serves.perm {tasks' : List FenceTask} (serves : f.Serves tasks)
    (same : tasks.Perm tasks') : f.Serves tasks' := by
  rw [Serves, ← FenceTask.usersOf_perm same]
  exact serves

/-- What a call has done: an event of the fence of an event type. -/
def Done (f : LocalFences) (others : List FenceTask) (task task' : FenceTask)
    (f' : LocalFences) : Prop :=
  ∃ e event, task.Step e event task' ∧ f.Event e event f' ∧ f'.Serves (task' :: others)

variable {task task' : FenceTask} {u : FenceUser} {e : String} {limit : Duration} {t : Ticket}

theorem serves_cons : f.Serves (task :: others) ↔ ∃ updates : Multiset FenceUser,
    (∀ u ∈ updates, u.role = .updating) ∧
      f.Sound (task.users + (FenceTask.usersOf others + updates)) := by
  simp only [Serves, FenceTask.usersOf_cons, Multiset.add_assoc]

theorem serves_unused (none : task.users = 0) : f.Serves (task :: others) ↔ f.Serves others := by
  simp only [Serves, FenceTask.usersOf_cons, none, zero_add]

theorem serves_using (one : task.users = {u}) :
    f.Serves (task :: others) ↔ ∃ updates : Multiset FenceUser,
      (∀ u ∈ updates, u.role = .updating) ∧
        f.Sound (u ::ₘ (FenceTask.usersOf others + updates)) := by
  simp only [serves_cons, one, Multiset.singleton_add]

theorem Serves.asks {mode : LockMode} (serves : f.Serves (task :: others))
    (none : task.users = 0) (one : task'.users = {⟨e, (f.ask e mode).1, .waiting mode⟩})
    (taken : task.Step e (.asked ⟨(f.ask e mode).1.request, mode⟩) task') :
    Done f others task task' (f.ask e mode).2 := by
  obtain ⟨updates, updating, sound⟩ := (serves_unused none).1 serves
  have event := sound.ask_event e mode
  rw [nextRequest, ← ask_request f e mode] at event
  exact ⟨e, _, taken, event, (serves_using one).2 ⟨updates, updating, sound.ask e mode⟩⟩

theorem Serves.leaves (serves : f.Serves (task :: others)) (one : task.users = {u})
    (role : u.role ≠ .updating) (none : task'.users = 0)
    (taken : task.Step u.eventType (.left u.number) task') :
    Done f others task task' (f.giveUp u.ticket) := by
  obtain ⟨updates, updating, sound⟩ := (serves_using one).1 serves
  exact ⟨u.eventType, _, taken, sound.giveUp_event role,
    (serves_unused none).2 ⟨updates, updating, sound.giveUp role⟩⟩

theorem Serves.permits (serves : f.Serves (.awaitPermit e limit t :: others)) :
    ∃ task', task'.process = some (match (permitEnded e limit t f).1 with
        | .error error => .done (.error error)
        | .ok t => keepPermit t) ∧
      Done f others (.awaitPermit e limit t) task' (permitEnded e limit t f).2 := by
  obtain ⟨updates, updating, sound⟩ := (serves_using rfl).1 serves
  cases granted : f.isGranted t with
  | true =>
    rw [permitEnded_of_granted granted]
    exact ⟨.keepPermit e t, rfl, e, _, .permit, sound.permit_event granted,
      (serves_using rfl).2 ⟨updates, updating, sound.permit granted⟩⟩
  | false =>
    rw [permitEnded_of_waiting granted]
    have left := sound.giveUp (FenceRole.waiting_ne_updating .shared)
    exact ⟨.ended (.error (.timeout e limit)), rfl, e, _, .permitTimeout,
      sound.refuse_event granted, (serves_unused rfl).2 ⟨updates, updating, left⟩⟩

/-- A start that is granted the lock leaves it to the update; one that is not gives up. -/
theorem Serves.starts (serves : f.Serves (.awaitStart e limit t :: others)) :
    ∃ task', task'.process = some (.done (startEnded e limit t f).1) ∧
      Done f others (.awaitStart e limit t) task' (startEnded e limit t f).2 := by
  obtain ⟨updates, updating, sound⟩ := (serves_using rfl).1 serves
  cases granted : f.isGranted t with
  | true =>
    rw [startEnded_of_granted granted]
    have held := sound.hold granted
    rw [← Multiset.add_cons] at held
    refine ⟨.ended (.ok ()), rfl, e, _, .start, sound.start_event granted,
      (serves_unused rfl).2 ⟨⟨e, t, .updating⟩ ::ₘ updates, ?_, held⟩⟩
    intro u member
    rcases Multiset.mem_cons.1 member with rfl | old
    · rfl
    · exact updating u old
  | false =>
    rw [startEnded_of_waiting granted]
    have left := sound.giveUp (FenceRole.waiting_ne_updating .exclusive)
    exact ⟨.ended (.error (.timeout e limit)), rfl, e, _, .startTimeout,
      (sound.refuse_event granted).prune left.orderly e,
      (serves_unused rfl).2 ⟨updates, updating, left.prune e⟩⟩

theorem Serves.finishes (serves : f.Serves (.finish e :: others)) :
    ∃ task', task'.process = some (.done (finish e f).1) ∧
      Done f others (.finish e) task' (finish e f).2 := by
  obtain ⟨updates, updating, sound⟩ := (serves_unused rfl).1 serves
  cases held : f.held.get? e with
  | none =>
    rw [finish_of_unheld held]
    exact ⟨.ended (.error (.notHeld e)), rfl, e, _, .notHeld, notHeld_event held,
      (serves_unused rfl).2 ⟨updates, updating, sound⟩⟩
  | some t =>
    have ongoing : (⟨e, t, .updating⟩ : FenceUser) ∈ updates := by
      rcases Multiset.mem_add.1 (sound.updates.1 held) with other | ongoing
      · obtain ⟨task, _, inside⟩ := FenceTask.mem_usersOf.1 other
        exact absurd rfl (FenceTask.users_role inside)
      · exact ongoing
    obtain ⟨rest, split⟩ := Multiset.exists_cons_of_mem ongoing
    rw [split, Multiset.add_cons] at sound
    refine ⟨.ended (.ok ()), by rw [finish_answer held]; rfl, e, _, .finish, sound.finish_event,
      (serves_unused rfl).2 ⟨rest, ?_, sound.finish⟩⟩
    intro u member
    exact updating u (split ▸ Multiset.mem_cons_of_mem member)

theorem Serves.step {p rest : Process LocalFences (Except FenceError Unit)}
    {hasEnded : Nat → Prop} {number : Nat} {sight : Sight}
    {started : List (Process LocalFences Unit)} (serves : f.Serves (task :: others))
    (process : task.process = some p) (taken : p.Step hasEnded number f sight rest f' started) :
    started = [] ∧ ∃ task', task'.process = some rest ∧ Done f others task task' f' := by
  cases task with
  | publish e limit =>
    obtain rfl := Option.some_inj.1 process
    rw [publish_eq] at taken
    cases taken
    exact ⟨rfl, .awaitPermit e limit (f.ask e .shared).1, rfl, serves.asks rfl rfl .askPermit⟩
  | awaitPermit e limit t =>
    obtain rfl := Option.some_inj.1 process
    cases taken
    exact ⟨rfl, serves.permits⟩
  | keepPermit e t =>
    obtain rfl := Option.some_inj.1 process
    cases taken
    exact ⟨rfl, .ended (.ok ()), rfl,
      serves.leaves rfl FenceRole.publishing_ne_updating rfl .dropPermit⟩
  | start e limit =>
    obtain rfl := Option.some_inj.1 process
    rw [start_eq] at taken
    cases taken
    exact ⟨rfl, .awaitStart e limit (f.ask e .exclusive).1, rfl, serves.asks rfl rfl .askStart⟩
  | awaitStart e limit t =>
    obtain rfl := Option.some_inj.1 process
    cases taken
    exact ⟨rfl, serves.starts⟩
  | finish e =>
    obtain rfl := Option.some_inj.1 process
    rw [finish_eq] at taken
    cases taken
    exact ⟨rfl, serves.finishes⟩
  | ended answer =>
    obtain rfl := Option.some_inj.1 process
    cases taken
  | dropped => exact nomatch process

theorem Serves.drop {p : Process LocalFences (Except FenceError Unit)}
    (serves : f.Serves (task :: others)) (process : task.process = some p)
    (unfinished : ∀ a, p ≠ .done a) :
    (p.drop f).1 = [] ∧ ((task.isNew = true ∧ (p.drop f).2 = f ∧ f.Serves (.dropped :: others)) ∨
      Done f others task .dropped (p.drop f).2) := by
  have unbegun : task.users = 0 → f.Serves (.dropped :: others) := fun none =>
    (serves_unused rfl).2 ((serves_unused none).1 serves)
  cases task with
  | publish | start | finish =>
    obtain rfl := Option.some_inj.1 process
    exact ⟨rfl, .inl ⟨rfl, rfl, unbegun rfl⟩⟩
  | awaitPermit e limit t =>
    obtain rfl := Option.some_inj.1 process
    have role := FenceRole.waiting_ne_updating .shared
    exact ⟨rfl, .inr (serves.leaves rfl role rfl .withdrawPermit)⟩
  | keepPermit e t =>
    obtain rfl := Option.some_inj.1 process
    have role := FenceRole.publishing_ne_updating
    exact ⟨rfl, .inr (serves.leaves rfl role rfl .cancelPublisher)⟩
  | awaitStart e limit t =>
    obtain rfl := Option.some_inj.1 process
    have role := FenceRole.waiting_ne_updating .exclusive
    exact ⟨rfl, .inr (serves.leaves rfl role rfl .withdrawStart)⟩
  | ended answer =>
    obtain rfl := Option.some_inj.1 process
    exact absurd rfl (unfinished answer)
  | dropped => exact nomatch process

/-- The calls have come as far as the tasks, and the fences without locks that are run beside them
stand where the local fences stand. -/
structure Tracks (pool : Pool LocalFences (Except FenceError Unit)) (tasks : List FenceTask) :
    Prop where
  calls : pool.calls = tasks.map FenceTask.process
  cleanups : pool.cleanups = []
  serves : pool.state.Serves tasks
  run : Relation.ReflTransGen AbstractFences.Move .idle ⟨pool.state.view, tasks⟩

/-- Somebody tries to forget the lock of an event type. -/
def Pruned (f f' : LocalFences) : Prop := ∃ e, f' = f.prune e

variable {pool pool' : Pool LocalFences (Except FenceError Unit)}

theorem tracks_empty : Tracks (.empty .empty) [] := ⟨rfl, rfl, serves_empty, .refl⟩

theorem Tracks.found (tracks : Tracks pool tasks) {i : Nat}
    {p : Process LocalFences (Except FenceError Unit)} (living : pool.calls[i]? = some (some p)) :
    ∃ task, tasks[i]? = some task ∧ task.process = some p ∧
      pool.state.Serves (task :: tasks.eraseIdx i) := by
  rw [tracks.calls, List.getElem?_map, Option.map_eq_some_iff] at living
  obtain ⟨task, found, process⟩ := living
  obtain ⟨inside, rfl⟩ := List.getElem?_eq_some_iff.1 found
  exact ⟨_, found, process, tracks.serves.perm (List.getElem_cons_eraseIdx_perm inside).symm⟩

theorem Tracks.advance (tracks : Tracks pool tasks) {i : Nat} {task task' : FenceTask}
    (found : tasks[i]? = some task) (done : Done pool.state (tasks.eraseIdx i) task task' f')
    (past : List (Answered LocalFences)) :
    Tracks ⟨f', pool.calls.set i task'.process, [], past⟩ (tasks.set i task') := by
  obtain ⟨e, event, taken, happens, serves⟩ := done
  obtain ⟨inside, _⟩ := List.getElem?_eq_some_iff.1 found
  refine ⟨?_, rfl, serves.perm (List.set_perm_cons_eraseIdx inside task').symm, ?_⟩
  · rw [tracks.calls, List.map_set]
  · exact tracks.run.tail (.step found taken happens.here happens.elsewhere)

theorem Tracks.enter (tracks : Tracks pool tasks) (task : FenceTask)
    {p : Process LocalFences (Except FenceError Unit)} (new : task.isNew = true)
    (users : task.users = 0) (process : task.process = some p) :
    Tracks { pool with calls := pool.calls ++ [some p] } (tasks ++ [task]) := by
  refine ⟨?_, tracks.cleanups, ?_, tracks.run.tail (.call new)⟩
  · rw [List.map_append, ← tracks.calls, List.map_singleton, process]
  · have serves := (serves_unused users).2 tracks.serves
    exact serves.perm (List.perm_append_singleton task tasks).symm

theorem Tracks.move (tracks : Tracks pool tasks) (moved : Pool.Move IsCall Pruned pool pool') :
    ∃ tasks', Tracks pool' tasks' := by
  cases moved with
  | call allowed =>
    cases allowed with
    | publish e limit => exact ⟨_, tracks.enter (.publish e limit) rfl rfl rfl⟩
    | start e limit => exact ⟨_, tracks.enter (.start e limit) rfl rfl rfl⟩
    | finish e => exact ⟨_, tracks.enter (.finish e) rfl rfl rfl⟩
  | step living taken =>
    obtain ⟨task, found, process, serves⟩ := tracks.found living
    obtain ⟨rfl, task', process', done⟩ := serves.step process taken
    rw [← process', tracks.cleanups]
    exact ⟨_, tracks.advance found done _⟩
  | drop living unfinished =>
    obtain ⟨task, found, process, serves⟩ := tracks.found living
    obtain ⟨none, ⟨new, unchanged, serves'⟩ | done⟩ := serves.drop process unfinished
    · rw [none, unchanged]
      obtain ⟨inside, _⟩ := List.getElem?_eq_some_iff.1 found
      refine ⟨tasks.set _ .dropped, ?_, ?_, ?_, tracks.run.tail (.forget found new)⟩
      · rw [List.map_set, ← tracks.calls]
        rfl
      · exact (List.append_nil _).trans tracks.cleanups
      · exact serves'.perm (List.set_perm_cons_eraseIdx inside _).symm
    · rw [none, tracks.cleanups]
      exact ⟨_, tracks.advance found done _⟩
  | clean living _ =>
    rw [tracks.cleanups] at living
    exact nomatch living
  | disturb allowed =>
    obtain ⟨e, rfl⟩ := allowed
    obtain ⟨updates, updating, sound⟩ := tracks.serves
    refine ⟨tasks, tracks.calls, tracks.cleanups, ⟨updates, updating, sound.prune e⟩, ?_⟩
    have same : (pool.state.prune e).view = pool.state.view :=
      funext (sound.orderly.view_prune e)
    rw [same]
    exact tracks.run

theorem Tracks.reaches (reached : Pool.Reaches IsCall Pruned (.empty .empty) pool) :
    ∃ tasks, Tracks pool tasks := by
  induction reached with
  | refl => exact ⟨[], tracks_empty⟩
  | tail _ moved ih =>
    obtain ⟨tasks, tracks⟩ := ih
    exact tracks.move moved

/-- A ticket for the lock of an event type that a waiting call, a permit or the update in progress
has, with the mode that it asks for. -/
inductive Refers (f : LocalFences) (tasks : List FenceTask) (e : String) :
    Ticket → LockMode → Prop where
  | awaitPermit {limit : Duration} {t : Ticket} (inside : .awaitPermit e limit t ∈ tasks) :
      Refers f tasks e t .shared
  | keepPermit {t : Ticket} (inside : .keepPermit e t ∈ tasks) : Refers f tasks e t .shared
  | awaitStart {limit : Duration} {t : Ticket} (inside : .awaitStart e limit t ∈ tasks) :
      Refers f tasks e t .exclusive
  | held {t : Ticket} (held : f.held.get? e = some t) : Refers f tasks e t .exclusive

/-- A ticket is given up: it is queued nowhere and holds nothing, the updates in progress are the
same, and they and all permits hold the locks that are registered. -/
structure Forgets (f : LocalFences) (tasks : List FenceTask) (t : Ticket) (f' : LocalFences) :
    Prop where
  unqueued : ∀ {n l}, f'.locks.get? n = some l → ∀ r ∈ l.requests, r.number ≠ t.request
  held : f'.held = f.held
  permits : ∀ {e t'}, .keepPermit e t' ∈ tasks →
    f'.isGranted t' = true ∧ f'.registry.get? e = some t'.lock
  updates : ∀ {e t'}, f.held.get? e = some t' →
    f'.isGranted t' = true ∧ f'.registry.get? e = some t'.lock

/-- An update that is in progress has the fence to itself. -/
structure Excludes (f : LocalFences) (tasks : List FenceTask) : Prop where
  permits : ∀ {e t}, f.held.get? e = some t → ∀ t', .keepPermit e t' ∉ tasks
  /-- Nothing else is granted, whether or not it is known yet. -/
  granted : ∀ {e t t' mode}, f.held.get? e = some t → f.Refers tasks e t' mode →
    f.isGranted t' = true → t' = t

/-- Every ticket is one for the lock that is registered for the event type. -/
structure Registers (f : LocalFences) (tasks : List FenceTask) : Prop where
  known : ∀ {e t mode}, f.Refers tasks e t mode → f.registry.get? e = some t.lock ∧
    ∃ l, f.locks.get? t.lock = some l ∧ ⟨t.request, mode⟩ ∈ l.requests
  /-- Each request that a lock has is that of a ticket. -/
  asked : ∀ {n l}, f.locks.get? n = some l → ∀ r ∈ l.requests,
    ∃ e, f.registry.get? e = some n ∧ f.Refers tasks e ⟨n, r.number⟩ r.mode
  /-- Each lock is that of one event type. -/
  single : ∀ {n l}, f.locks.get? n = some l → ∃! e, f.registry.get? e = some n
  /-- A lock that a ticket refers to is not forgotten. -/
  kept : ∀ {e t mode}, f.Refers tasks e t mode → f.prune e = f

/-- What the calls are answered, and what they change. -/
structure Answers (f : LocalFences) (tasks : List FenceTask) : Prop where
  /-- An update that begins is recorded in the place of none. -/
  started : ∀ {e limit t}, .awaitStart e limit t ∈ tasks → (startEnded e limit t f).1 = .ok () →
    f.held.get? e = none ∧ (startEnded e limit t f).2 = { f with held := f.held.insert e t }
  finished : ∀ e, (finish e f).1 = if f.isFenced e then .ok () else .error (.notHeld e)
  notHeld : ∀ e, f.isFenced e = false → (finish e f).2 = f
  permitTimeout : ∀ {e limit t error}, .awaitPermit e limit t ∈ tasks →
    (permitEnded e limit t f).1 = .error error →
      error = .timeout e limit ∧ f.Forgets tasks t (permitEnded e limit t f).2
  startTimeout : ∀ {e limit t error}, .awaitStart e limit t ∈ tasks →
    (startEnded e limit t f).1 = .error error →
      error = .timeout e limit ∧ f.Forgets tasks t (startEnded e limit t f).2

section

variable {users updates : Multiset FenceUser} {e : String} {t : Ticket} {mode : LockMode}

theorem mem_users {task : FenceTask} {u : FenceUser} (inside : task ∈ tasks)
    (user : task.users = {u}) (updates : Multiset FenceUser) :
    u ∈ FenceTask.usersOf tasks + updates := by
  refine Multiset.mem_add.2 (.inl (FenceTask.mem_usersOf.2 ⟨task, inside, ?_⟩))
  rw [user]
  exact Multiset.mem_singleton_self u

theorem refers_iff (updating : ∀ u ∈ updates, u.role = .updating)
    (sound : f.Sound (FenceTask.usersOf tasks + updates)) :
    f.Refers tasks e t mode ↔
      ∃ role, role.mode = mode ∧ ⟨e, t, role⟩ ∈ FenceTask.usersOf tasks + updates := by
  constructor
  · intro refers
    cases refers with
    | awaitPermit inside => exact ⟨.waiting .shared, rfl, mem_users inside rfl updates⟩
    | keepPermit inside => exact ⟨.publishing, rfl, mem_users inside rfl updates⟩
    | awaitStart inside => exact ⟨.waiting .exclusive, rfl, mem_users inside rfl updates⟩
    | held held => exact ⟨.updating, rfl, sound.updates.1 held⟩
  · rintro ⟨role, rfl, member⟩
    rcases Multiset.mem_add.1 member with call | update
    · obtain ⟨task, inside, user⟩ := FenceTask.mem_usersOf.1 call
      cases task with
      | awaitPermit e' limit t' =>
        obtain ⟨rfl, rfl, rfl⟩ := FenceUser.mk.inj (Multiset.mem_singleton.1 user)
        exact .awaitPermit inside
      | keepPermit e' t' =>
        obtain ⟨rfl, rfl, rfl⟩ := FenceUser.mk.inj (Multiset.mem_singleton.1 user)
        exact .keepPermit inside
      | awaitStart e' limit t' =>
        obtain ⟨rfl, rfl, rfl⟩ := FenceUser.mk.inj (Multiset.mem_singleton.1 user)
        exact .awaitStart inside
      | _ => exact absurd user (Multiset.notMem_zero _)
    · obtain rfl : role = .updating := updating _ update
      exact .held (sound.updates.2 member)

theorem Sound.holds (sound : f.Sound users) {u : FenceUser} (member : u ∈ users)
    (knows : u.role.knowsGrant = true) :
    f.isGranted u.ticket = true ∧ f.registry.get? u.eventType = some u.ticket.lock :=
  ⟨(sound.isGranted_eq member).trans (sound.accounts.granted u member knows),
    sound.accounts.ticketed u member⟩

theorem Sound.forgets {u : FenceUser} {f' : LocalFences}
    (sound : f.Sound (u ::ₘ users)) (left : f'.Sound users) (held : f'.held = f.held)
    (role : u.role.knowsGrant = false)
    (calls : ∀ {e t}, .keepPermit e t ∈ tasks → ⟨e, t, .publishing⟩ ∈ u ::ₘ users) :
    f.Forgets tasks u.ticket f' where
  unqueued := by
    intro n l found r member same
    obtain ⟨e, registered⟩ := left.orderly.kept found
    rw [← lockOf_of_registered registered found] at member
    obtain ⟨v, inside, _, rfl⟩ := left.accounts.user_of_mem member
    have distinct := sound.accounts.distinct
    rw [Multiset.map_cons, Multiset.nodup_cons] at distinct
    have number : v.number = u.number := same
    exact distinct.1 (number ▸ Multiset.mem_map_of_mem FenceUser.number inside)
  held := held
  permits := by
    intro e t inside
    rcases Multiset.mem_cons.1 (calls inside) with rfl | other
    · exact nomatch role
    · exact left.holds other rfl
  updates := by
    intro e t recorded
    rw [← held] at recorded
    exact left.holds (left.updates.1 recorded) rfl

end

theorem Serves.excludes (serves : f.Serves tasks) : f.Excludes tasks := by
  obtain ⟨updates, updating, sound⟩ := serves
  constructor
  · intro e t held t' inside
    have publishing := mem_users inside rfl updates
    have granted := sound.accounts.granted _ publishing rfl
    exact nomatch congrArg FenceUser.role (sound.update_alone held publishing rfl granted)
  · intro e t t' mode held refers granted
    obtain ⟨role, rfl, member⟩ := (refers_iff updating sound).1 refers
    have locked := (sound.isGranted_eq member).symm.trans granted
    exact congrArg FenceUser.ticket (sound.update_alone held member rfl locked)

theorem Serves.registers (serves : f.Serves tasks) : f.Registers tasks := by
  obtain ⟨updates, updating, sound⟩ := serves
  refine ⟨?_, ?_, ?_, ?_⟩
  · intro e t mode refers
    obtain ⟨role, rfl, member⟩ := (refers_iff updating sound).1 refers
    have ticketed := sound.accounts.ticketed _ member
    obtain ⟨l, found, _⟩ := sound.orderly.registered ticketed
    have request := sound.accounts.request_mem member
    rw [lockOf_of_registered ticketed found] at request
    exact ⟨ticketed, l, found, request⟩
  · intro n l found r member
    obtain ⟨e, registered⟩ := sound.orderly.kept found
    rw [← lockOf_of_registered registered found] at member
    obtain ⟨⟨e', t, role⟩, inside, rfl, rfl⟩ := sound.accounts.user_of_mem member
    obtain rfl : n = t.lock := by
      have ticketed := sound.accounts.ticketed _ inside
      rw [registered] at ticketed
      exact Option.some_inj.1 ticketed
    exact ⟨e', registered, (refers_iff updating sound).2 ⟨role, rfl, inside⟩⟩
  · intro n l found
    obtain ⟨e, registered⟩ := sound.orderly.kept found
    exact ⟨e, registered, fun e' other => sound.orderly.single other registered⟩
  · intro e t mode refers
    obtain ⟨role, rfl, member⟩ := (refers_iff updating sound).1 refers
    exact sound.accounts.prune_eq sound.orderly member

theorem finish_fst (f : LocalFences) (e : String) :
    (finish e f).1 = if f.isFenced e then .ok () else .error (.notHeld e) := by
  cases held : f.held.get? e with
  | none => simp [isFenced, Table.contains, finish_of_unheld held, held]
  | some t => simp [isFenced, Table.contains, finish_answer held, held]

theorem finish_of_unfenced {e : String} (unfenced : f.isFenced e = false) :
    finish e f = (.error (.notHeld e), f) := by
  have unheld : f.held.get? e = none := by simpa [isFenced, Table.contains] using unfenced
  exact finish_of_unheld unheld

theorem Serves.answers (serves : f.Serves tasks) : f.Answers tasks := by
  obtain ⟨updates, updating, sound⟩ := serves
  refine ⟨?_, finish_fst f, fun e unfenced => by rw [finish_of_unfenced unfenced], ?_, ?_⟩
  · intro e limit t inside answer
    obtain ⟨rest, split⟩ := Multiset.exists_cons_of_mem (mem_users inside rfl updates)
    rw [split] at sound
    cases granted : f.isGranted t with
    | true =>
      rw [startEnded_of_granted granted]
      exact ⟨sound.unheld granted, sound.hold_eq granted⟩
    | false =>
      rw [startEnded_of_waiting granted] at answer
      exact nomatch answer
  · intro e limit t error inside answer
    obtain ⟨rest, split⟩ := Multiset.exists_cons_of_mem (mem_users inside rfl updates)
    have permits : ∀ {e' t'}, .keepPermit e' t' ∈ tasks → _ :=
      fun inside => split ▸ mem_users inside rfl updates
    rw [split] at sound
    cases granted : f.isGranted t with
    | true =>
      rw [permitEnded_of_granted granted] at answer
      exact nomatch answer
    | false =>
      rw [permitEnded_of_waiting granted] at answer ⊢
      have left := sound.giveUp (FenceRole.waiting_ne_updating .shared)
      exact ⟨(Except.error.inj answer).symm, sound.forgets left rfl rfl permits⟩
  · intro e limit t error inside answer
    obtain ⟨rest, split⟩ := Multiset.exists_cons_of_mem (mem_users inside rfl updates)
    have permits : ∀ {e' t'}, .keepPermit e' t' ∈ tasks → _ :=
      fun inside => split ▸ mem_users inside rfl updates
    rw [split] at sound
    cases granted : f.isGranted t with
    | true =>
      rw [startEnded_of_granted granted] at answer
      exact nomatch answer
    | false =>
      rw [startEnded_of_waiting granted] at answer ⊢
      have left := sound.giveUp (FenceRole.waiting_ne_updating .exclusive)
      exact ⟨(Except.error.inj answer).symm,
        sound.forgets (left.prune e) (prune_held _ e) rfl permits⟩

/-- Whatever local fences have come to, a run of the fences without locks comes to it as well. An
update in progress excludes all others, every ticket is one for the lock that is registered, and a
call whose limit is up leaves nothing behind. Locks may be forgotten at any moment, so that others
may act between the end of an update and the attempt to forget its lock. -/
theorem refine_fences {pool : Pool LocalFences (Except FenceError Unit)}
    (reached : Pool.Reaches IsCall Pruned (.empty .empty) pool) :
    ∃ tasks, pool.calls = tasks.map FenceTask.process ∧
      Relation.ReflTransGen AbstractFences.Move .idle ⟨pool.state.view, tasks⟩ ∧
      pool.state.Excludes tasks ∧ pool.state.Registers tasks ∧ pool.state.Answers tasks := by
  obtain ⟨tasks, tracks⟩ := Tracks.reaches reached
  exact ⟨tasks, tracks.calls, tracks.run, tracks.serves.excludes, tracks.serves.registers,
    tracks.serves.answers⟩

theorem refine_fences_started : ∃ pool : Pool LocalFences (Except FenceError Unit),
    Pool.Reaches IsCall Pruned (.empty .empty) pool ∧ pool.state.isFenced "orders" = true ∧
      ∃ tasks, pool.calls = tasks.map FenceTask.process ∧
        Relation.ReflTransGen AbstractFences.Move .idle ⟨pool.state.view, tasks⟩ ∧
        pool.state.Excludes tasks ∧ pool.state.Registers tasks ∧ pool.state.Answers tasks := by
  have called : Pool.Reaches IsCall Pruned (.empty .empty)
      (.single .empty (sync.start "orders" ⟨1000⟩)) := .single (.call (.start "orders" ⟨1000⟩))
  have asked := called.tail (.step (i := 0) rfl (.act _ _ _))
  have started := asked.tail (.step (i := 0) rfl (.wake _ _ _ _ _ _))
  exact ⟨_, started, rfl, refine_fences started⟩

end LocalFences

end Cutover
