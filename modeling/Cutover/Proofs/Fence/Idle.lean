import Cutover.Proofs.Fence.Refinement

set_option autoImplicit false

namespace Cutover

/-- A step of a call: what was left of the call, and the fences before and after the step. -/
structure FenceStep : Type 1 where
  call : Process LocalFences (Except FenceError Unit)
  before : LocalFences
  after : LocalFences

namespace FenceStep

/-- A request for a lock is there before a step and not after it. -/
def Releases (d : FenceStep) (n : Nat) : Prop :=
  ∃ l r, d.before.locks.get? n = some l ∧ r ∈ l.requests ∧
    ∀ l', d.after.locks.get? n = some l' → r ∉ l'.requests

/-- A publisher drops its permit, or gives up since it was not granted one in time. -/
inductive ByPublisher (d : FenceStep) : Prop where
  | dropped {t : Ticket} (call : d.call = LocalFences.keepPermit t)
  | timedOut {e : String} {limit : Duration} {t : Ticket}
      (call : (FenceTask.awaitPermit e limit t).process = some d.call)
      (refused : (LocalFences.permitEnded e limit t d.before).1 = .error (.timeout e limit))

end FenceStep

namespace LocalFences

/-- Runs of any calls side by side, with all steps taken, the oldest first. A wait can be over at
any time, also without success, but no call is dropped. -/
inductive Runs : Pool LocalFences (Except FenceError Unit) → List FenceStep → Prop where
  | start : Runs (.empty .empty) []
  | call {pool : Pool LocalFences (Except FenceError Unit)} {steps : List FenceStep}
      {p : Process LocalFences (Except FenceError Unit)} (run : Runs pool steps) (made : IsCall p) :
      Runs { pool with calls := pool.calls ++ [some p] } steps
  | step {pool : Pool LocalFences (Except FenceError Unit)} {steps : List FenceStep} {i : Nat}
      {p rest : Process LocalFences (Except FenceError Unit)} {sight : Sight} {f : LocalFences}
      {started : List (Process LocalFences Unit)} (run : Runs pool steps)
      (living : pool.calls[i]? = some (some p))
      (taken : p.Step pool.hasEnded pool.cleanups.length pool.state sight rest f started) :
      Runs ⟨f, pool.calls.set i (some rest), pool.cleanups ++ started,
        pool.past ++ sight.record pool.state f⟩ (steps ++ [⟨p, pool.state, f⟩])

/-- The last of the steps that gave up a lock was a publisher's. -/
def LeftByPublisher (steps : List FenceStep) (n : Nat) : Prop :=
  ∃ earlier d later, steps = earlier ++ d :: later ∧ d.ByPublisher ∧ d.Releases n ∧
    ∀ d' ∈ later, ¬ d'.Releases n

/-- Which locks are forgotten, after certain steps. -/
structure Discards (f : LocalFences) (tasks : List FenceTask) (steps : List FenceStep) : Prop where
  /-- A lock that is registered and has no permit, no update and no call that waits for it. -/
  idle : ∀ {e n}, f.registry.get? e = some n → (∀ t mode, ¬ f.Refers tasks e t mode) →
    LeftByPublisher steps n
  /-- An update ends, and nobody else holds the lock or waits for it. -/
  finished : ∀ {e t}, f.held.get? e = some t → (∀ t' mode, f.Refers tasks e t' mode → t' = t) →
    (finish e f).1 = .ok () ∧ (finish e f).2.registry.get? e = none
  /-- Without an update there is nothing to end, and no lock is forgotten. -/
  notHeld : ∀ {e}, f.held.get? e = none → finish e f = (.error (.notHeld e), f)
  /-- An update is not granted the lock in time, and nobody else holds it or waits for it. -/
  timedOut : ∀ {e limit t error}, .awaitStart e limit t ∈ tasks →
    (startEnded e limit t f).1 = .error error → (∀ t' mode, f.Refers tasks e t' mode → t' = t) →
      (startEnded e limit t f).2.registry.get? e = none

variable {f f' : LocalFences} {e e' : String} {n : Nat} {t : Ticket}

/-- A lock is registered for an event type, and it has no requests. -/
structure Unused (f : LocalFences) (e : String) (n : Nat) : Prop where
  registered : f.registry.get? e = some n
  free : (f.lockOf e).requests = []

theorem lockFor_registry_of_ne (f : LocalFences) (apart : e' ≠ e) :
    (f.lockFor e).2.registry.get? e' = f.registry.get? e' := by
  cases known : f.registry.get? e with
  | some n => rw [lockFor_of_registered known]
  | none =>
    rw [lockFor_of_unregistered known]
    exact Table.get?_insert_of_ne _ _ apart

theorem Orderly.unused_of_ask (orderly : f.Orderly) {mode : LockMode}
    (unused : (f.ask e mode).2.Unused e' n) : f.Unused e' n := by
  obtain ⟨registered, free⟩ := unused
  rw [orderly.lockOf_ask] at free
  by_cases same : e' = e
  · simp [same, Lock.request_requests] at free
  · rw [if_neg same] at free
    exact ⟨(f.lockFor_registry_of_ne same).symm.trans registered, free⟩

theorem Orderly.unused_of_giveUp (orderly : f.Orderly) (ticketed : f.registry.get? e = some t.lock)
    (apart : e' ≠ e) (unused : (f.giveUp t).Unused e' n) : f.Unused e' n := by
  obtain ⟨registered, free⟩ := unused
  rw [orderly.lockOf_giveUp ticketed, if_neg apart] at free
  exact ⟨registered, free⟩

theorem Orderly.registry_prune_of_free (orderly : f.Orderly) (free : (f.lockOf e).requests = []) :
    (f.prune e).registry.get? e = none := by
  rw [LocalFences.prune]
  cases registered : f.registry.get? e with
  | none => exact registered
  | some n =>
    obtain ⟨l, found, -⟩ := orderly.registered registered
    rw [lockOf_of_registered registered found] at free
    have idle : l.isIdle = true := (Lock.isIdle_iff l).2 free
    simp [found, idle]

/-- After an attempt to forget the lock of an event type only others can be unused. -/
theorem Orderly.unused_of_prune (orderly : f.Orderly) (unused : (f.prune e).Unused e' n) :
    e' ≠ e ∧ f.Unused e' n := by
  obtain ⟨registered, free⟩ := unused
  rw [orderly.lockOf_prune] at free
  have apart : e' ≠ e := by
    rintro rfl
    rw [orderly.registry_prune_of_free free] at registered
    exact nomatch registered
  refine ⟨apart, ?_, free⟩
  rcases orderly.prune_cases e with same | ⟨m, -, -, pruned⟩
  · rwa [same] at registered
  · rw [pruned] at registered
    exact (Table.get?_erase_of_ne f.registry apart).symm.trans registered

variable {task : FenceTask} {others : List FenceTask} {steps : List FenceStep}
  {p rest : Process LocalFences (Except FenceError Unit)} {hasEnded : Nat → Prop} {number : Nat}
  {sight : Sight} {started : List (Process LocalFences Unit)}

/-- A lock that is unused after a step was so before, or the step is a publisher's. -/
theorem Serves.unused_step (serves : f.Serves (task :: others)) (process : task.process = some p)
    (taken : p.Step hasEnded number f sight rest f' started) (unused : f'.Unused e' n) :
    f.Unused e' n ∨
      (f.registry.get? e' = some n ∧ (⟨p, f, f'⟩ : FenceStep).ByPublisher) := by
  obtain ⟨updates, updating, sound⟩ := serves_cons.1 serves
  have orderly := sound.orderly
  cases task with
  | publish e limit =>
    obtain rfl := Option.some_inj.1 process
    rw [publish_eq] at taken
    cases taken
    exact .inl (orderly.unused_of_ask unused)
  | awaitPermit e limit t =>
    have call := process
    obtain rfl := Option.some_inj.1 process
    cases taken
    cases granted : f.isGranted t with
    | true =>
      rw [permitEnded_of_granted granted] at unused
      exact .inl unused
    | false =>
      have timeout := permitEnded_of_waiting granted e limit
      have registered := unused.registered
      rw [timeout] at registered
      exact .inr ⟨registered, .timedOut call (congrArg Prod.fst timeout)⟩
  | keepPermit e t =>
    obtain rfl := Option.some_inj.1 process
    cases taken
    exact .inr ⟨unused.registered, .dropped rfl⟩
  | start e limit =>
    obtain rfl := Option.some_inj.1 process
    rw [start_eq] at taken
    cases taken
    exact .inl (orderly.unused_of_ask unused)
  | awaitStart e limit t =>
    have ticketed := sound.accounts.ticketed ⟨e, t, .waiting .exclusive⟩ (Multiset.mem_cons_self _ _)
    obtain rfl := Option.some_inj.1 process
    cases taken
    cases granted : f.isGranted t with
    | true =>
      rw [startEnded_of_granted granted, Sound.hold_eq sound granted] at unused
      exact .inl ⟨unused.registered, unused.free⟩
    | false =>
      rw [startEnded_of_waiting granted] at unused
      obtain ⟨apart, unused⟩ := (orderly.giveUp t).unused_of_prune unused
      exact .inl (orderly.unused_of_giveUp ticketed apart unused)
  | finish e =>
    obtain rfl := Option.some_inj.1 process
    rw [finish_eq] at taken
    cases taken
    cases held : f.held.get? e with
    | none =>
      rw [finish_of_unheld held] at unused
      exact .inl unused
    | some t =>
      have ticketed := sound.accounts.ticketed _ (sound.updates.1 held)
      have erased := orderly.erase_held e
      rw [LocalFences.finish, held] at unused
      obtain ⟨apart, unused⟩ :=
        (erased.giveUp t).unused_of_prune ⟨unused.registered, unused.free⟩
      obtain ⟨registered, free⟩ := erased.unused_of_giveUp ticketed apart unused
      exact .inl ⟨registered, free⟩
  | ended answer =>
    obtain rfl := Option.some_inj.1 process
    cases taken
  | dropped => cases process

theorem Unused.not_releases (unused : f.Unused e n) :
    ¬ (⟨p, f, f'⟩ : FenceStep).Releases n := by
  rintro ⟨l, r, found, member, -⟩
  have free := unused.free
  rw [lockOf_of_registered unused.registered found] at free
  simp [free] at member

theorem Orderly.releases (orderly : f.Orderly) (registered : f.registry.get? e = some n)
    (used : ¬ f.Unused e n) (unused : f'.Unused e n) :
    (⟨p, f, f'⟩ : FenceStep).Releases n := by
  obtain ⟨l, found, -⟩ := orderly.registered registered
  have requests : l.requests ≠ [] := by
    intro free
    rw [← lockOf_of_registered registered found] at free
    exact used ⟨registered, free⟩
  obtain ⟨r, member⟩ := List.exists_mem_of_ne_nil _ requests
  refine ⟨l, r, found, member, ?_⟩
  intro l' found'
  have free := unused.free
  rw [lockOf_of_registered unused.registered found'] at free
  simp [free]

variable {pool : Pool LocalFences (Except FenceError Unit)}

theorem Runs.reaches (run : Runs pool steps) : Pool.Reaches IsCall Pruned (.empty .empty) pool := by
  induction run with
  | start => exact .refl
  | call run made ih => exact ih.tail (.call made)
  | step run living taken ih => exact ih.tail (.step living taken)

theorem Runs.leftByPublisher (run : Runs pool steps) (unused : pool.state.Unused e n) :
    LeftByPublisher steps n := by
  induction run with
  | start => exact nomatch unused.registered
  | call run made ih => exact ih unused
  | @step pool steps i p rest sight f started run living taken ih =>
    obtain ⟨tasks, tracks⟩ := Tracks.reaches run.reaches
    obtain ⟨task, found, process, serves⟩ := tracks.found living
    obtain ⟨updates, updating, sound⟩ := serves
    by_cases before : pool.state.Unused e n
    · obtain ⟨earlier, d, later, split, publisher, releases, none⟩ := ih before
      refine ⟨earlier, d, later ++ [⟨p, pool.state, f⟩], by simp [split], publisher, releases, ?_⟩
      intro d' member
      rcases List.mem_append.1 member with old | new
      · exact none d' old
      · rw [List.mem_singleton.1 new]
        exact before.not_releases
    · rcases Serves.unused_step ⟨updates, updating, sound⟩ process taken unused with
        same | ⟨registered, publisher⟩
      · exact absurd same before
      · exact ⟨steps, _, [], rfl, publisher, sound.orderly.releases registered before unused,
          List.forall_mem_nil _⟩

variable {tasks : List FenceTask}

theorem Serves.refers_of_request (serves : f.Serves tasks) {r : LockRequest}
    (member : r ∈ (f.lockOf e).requests) :
    ∃ t mode, f.Refers tasks e t mode ∧ t.request = r.number := by
  obtain ⟨updates, updating, sound⟩ := serves
  obtain ⟨u, inside, rfl, rfl⟩ := sound.accounts.user_of_mem member
  exact ⟨u.ticket, u.role.mode, (refers_iff updating sound).2 ⟨u.role, rfl, inside⟩, rfl⟩

theorem Serves.free_of_unreferred (serves : f.Serves tasks)
    (unreferred : ∀ t mode, ¬ f.Refers tasks e t mode) : (f.lockOf e).requests = [] := by
  apply List.eq_nil_iff_forall_not_mem.2
  intro r member
  obtain ⟨t, mode, refers, -⟩ := serves.refers_of_request member
  exact unreferred t mode refers

/-- A lock to which one ticket refers has no requests when that ticket is given up. -/
theorem Serves.free_of_alone (serves : f.Serves tasks)
    (alone : ∀ t' mode, f.Refers tasks e t' mode → t' = t) :
    ((f.lockOf e).remove t.request).requests = [] := by
  rw [Lock.remove_requests, List.filter_eq_nil_iff]
  intro r member
  obtain ⟨t', mode, refers, number⟩ := serves.refers_of_request member
  rw [alone t' mode refers] at number
  simp [number]

theorem Serves.forgets_ended (serves : f.Serves tasks) (held : f.held.get? e = some t)
    (alone : ∀ t' mode, f.Refers tasks e t' mode → t' = t) :
    (finish e f).2.registry.get? e = none := by
  have free := serves.free_of_alone alone
  have ticketed := (serves.registers.known (.held held)).1
  obtain ⟨updates, updating, sound⟩ := serves
  have erased := sound.orderly.erase_held e
  have left := erased.lockOf_giveUp ticketed e
  rw [if_pos rfl] at left
  rw [LocalFences.finish, held]
  apply (erased.giveUp t).registry_prune_of_free
  rw [left]
  exact free

theorem Serves.forgets_refused (serves : f.Serves tasks) {limit : Duration} {error : FenceError}
    (inside : .awaitStart e limit t ∈ tasks)
    (refused : (startEnded e limit t f).1 = .error error)
    (alone : ∀ t' mode, f.Refers tasks e t' mode → t' = t) :
    (startEnded e limit t f).2.registry.get? e = none := by
  have free := serves.free_of_alone alone
  have ticketed := (serves.registers.known (.awaitStart inside)).1
  obtain ⟨updates, updating, sound⟩ := serves
  have left := sound.orderly.lockOf_giveUp ticketed e
  rw [if_pos rfl] at left
  cases granted : f.isGranted t with
  | true =>
    rw [startEnded_of_granted granted] at refused
    exact nomatch refused
  | false =>
    rw [startEnded_of_waiting granted]
    apply (sound.orderly.giveUp t).registry_prune_of_free
    rw [left]
    exact free

/-- However publishers and updates use local fences side by side, as long as no waiting call is
cancelled, a lock stays registered without a permit, an update or a waiting call only if its last
user was a publisher. An update that ends or is not granted the lock in time forgets the lock unless
others hold it or wait for it. -/
theorem idle_locks_left_by_publishers (run : Runs pool steps) :
    ∃ tasks, pool.calls = tasks.map FenceTask.process ∧ pool.state.Registers tasks ∧
      pool.state.Discards tasks steps := by
  obtain ⟨tasks, tracks⟩ := Tracks.reaches run.reaches
  have serves := tracks.serves
  refine ⟨tasks, tracks.calls, serves.registers, ?_, ?_, ?_, ?_⟩
  · intro e n registered unreferred
    exact run.leftByPublisher ⟨registered, serves.free_of_unreferred unreferred⟩
  · intro e t held alone
    exact ⟨finish_answer held, serves.forgets_ended held alone⟩
  · intro e unheld
    exact finish_of_unheld unheld
  · intro e limit t error inside refused alone
    exact serves.forgets_refused inside refused alone

/-- A publisher takes a permit and drops it; the lock stays, and nobody uses it. -/
theorem idle_locks_left_by_publishers_dropped :
    ∃ (pool : Pool LocalFences (Except FenceError Unit)) (steps : List FenceStep),
      Runs pool steps ∧ pool.state.registry.get? "orders" = some 1 ∧
        (pool.state.lockOf "orders").requests = [] ∧
        ∃ tasks, pool.calls = tasks.map FenceTask.process ∧ pool.state.Registers tasks ∧
          pool.state.Discards tasks steps := by
  have called : Runs (.single .empty (publish "orders" ⟨1000⟩)) [] :=
    .call .start (.publish "orders" ⟨1000⟩)
  have asked := Runs.step (i := 0) called rfl (.act _ _ _)
  have permitted := Runs.step (i := 0) asked rfl (.wake _ _ _ _ _ _)
  have dropped := Runs.step (i := 0) permitted rfl (.wake _ _ _ _ _ _)
  exact ⟨_, _, dropped, rfl, rfl, idle_locks_left_by_publishers dropped⟩

end LocalFences

end Cutover
