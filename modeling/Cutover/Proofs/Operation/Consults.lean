import Cutover.Proofs.Timelines.Plan

set_option autoImplicit false

namespace Cutover

def World.HasTopic (w : World) (number : Nat) (topic : String) : Prop :=
  ∃ worker count, w.workers.get? number = some worker ∧ worker.topics.get? topic = some count

/-- A worker that has a topic with so many partitions. -/
def World.HasPartitions (w : World) (number : Nat) (topic : String) (count : Nat) : Prop :=
  ∃ worker, w.workers.get? number = some worker ∧ worker.topics.get? topic = some count

/-- A worker with further topics, which fails as before. -/
structure Worker.Consulted (w w' : Worker) : Prop where
  extension : w.Extends w'
  failing : w'.failPosition = w.failPosition

/-- The same workers, some with further topics. They fail as before, and there are no others. -/
structure Workers.Consulted (w w' : Workers) : Prop where
  extension : w.Extends w'
  failing : ∀ number worker', w'.get? number = some worker' →
    ∃ worker, w.get? number = some worker ∧ worker'.failPosition = worker.failPosition

/-- The same world, but for further topics of workers. -/
def World.Consulted (w w' : World) : Prop :=
  ∃ workers, w.workers.Consulted workers ∧ w' = w.withWorkers workers

theorem Worker.Consulted.refl (w : Worker) : w.Consulted w := ⟨.refl w, rfl⟩

theorem Worker.consulted_topics (w : Worker) (topic : String) (count : Nat)
    (requests : List LayoutRequest) : w.Consulted
      { w with topics := w.topics.insertIfNew topic count, requests := requests } :=
  ⟨w.extends_topics topic count requests, rfl⟩

theorem Workers.Consulted.refl (w : Workers) : w.Consulted w :=
  ⟨.refl w, fun _ worker found => ⟨worker, found, rfl⟩⟩

theorem Workers.Consulted.modify {w : Workers} {number : Nat} {worker : Worker}
    (found : w.get? number = some worker) {change : Worker → Worker}
    (consulted : worker.Consulted (change worker)) : w.Consulted (w.modify number change) where
  extension := .modify found consulted.extension
  failing other worker' found' := by
    by_cases same : other = number
    · subst same
      have changed := Table.get?_modify_of_get? change found
      obtain rfl := Option.some_inj.1 (changed.symm.trans found')
      exact ⟨worker, found, consulted.failing⟩
    · exact ⟨worker', (Table.get?_modify_of_ne _ _ same).symm.trans found', rfl⟩

theorem World.Consulted.refl (w : World) : w.Consulted w := ⟨w.workers, .refl _, rfl⟩

theorem World.HasTopic.extends {w w' : World} {number : Nat} {topic : String}
    (has : w.HasTopic number topic) (extends' : w.workers.Extends w'.workers) :
    w'.HasTopic number topic := by
  obtain ⟨worker, count, registered, found⟩ := has
  obtain ⟨worker', registered', more⟩ := extends'.each number worker registered
  exact ⟨worker', count, registered', more.topics topic count found⟩

theorem World.HasPartitions.hasTopic {w : World} {number count : Nat} {topic : String}
    (has : w.HasPartitions number topic count) : w.HasTopic number topic :=
  have ⟨worker, registered, found⟩ := has
  ⟨worker, count, registered, found⟩

theorem World.HasPartitions.extends {w w' : World} {number count : Nat} {topic : String}
    (has : w.HasPartitions number topic count) (extends' : w.workers.Extends w'.workers) :
    w'.HasPartitions number topic count := by
  obtain ⟨worker, registered, found⟩ := has
  obtain ⟨worker', registered', more⟩ := extends'.each number worker registered
  exact ⟨worker', registered', more.topics topic count found⟩

theorem Worker.answer_ok {α : Type} {answer : Except WorkerError α} {a : α}
    {worker worker' : Worker}
    (acted : (answer.map fun a => (a, worker)) = .ok (a, worker')) :
    worker' = worker ∧ answer = .ok a := by
  cases answer with
  | error e => cases acted
  | ok b =>
    obtain ⟨rfl, rfl⟩ := Prod.mk.inj (Except.ok.inj acted)
    exact ⟨rfl, rfl⟩

theorem Worker.answer_error {α : Type} {answer : Except WorkerError α} {worker : Worker}
    {e : WorkerError} (acted : (answer.map fun a => (a, worker)) = .error e) :
    answer = .error e := by
  cases answer with
  | error fault =>
    cases acted
    rfl
  | ok b => cases acted

theorem Worker.partitionNames_ok {worker : Worker} {topic : String} {names : List String}
    (told : worker.partitionNames topic = .ok names) :
    worker.topics.get? topic = some names.length := by
  rw [partitionNames, partitionsOf] at told
  split at told
  · exact nomatch told
  · next count found =>
    rw [found, ← Except.ok.inj told, List.length_map, List.length_range]

theorem Worker.partitionNames_error {worker : Worker} {topic : String} {e : WorkerError}
    (failed : worker.partitionNames topic = .error e) : e = .topicNotFound topic := by
  rw [partitionNames] at failed
  split at failed
  · exact (Except.error.inj failed).symm
  · exact nomatch failed

/-- A worker that has a topic tells its last position unless it is made to fail. -/
theorem Worker.latestPosition_error {worker : Worker} {topic : String} {count : Nat}
    {e : WorkerError} (known : worker.topics.get? topic = some count)
    (failed : worker.latestPosition topic = .error e) :
    worker.failPosition = true ∧ e = .backend "mock position failure" := by
  rw [latestPosition] at failed
  split at failed
  · next failing => exact ⟨failing, (Except.error.inj failed).symm⟩
  split at failed
  · exact nomatch failed
  · rw [partitionNames, partitionsOf, known] at failed
    exact nomatch failed

namespace Operation

variable {α : Type} {op : Operation α} {number : Nat} {topic e : String}
  {learns : World → α → World → Prop} {fails : World → TimelineError → Prop}

/-- An operation of one call that consults the world: what it learns when it succeeds, and how it
fails. -/
def Consults (op : Operation α) (learns : World → α → World → Prop)
    (fails : World → TimelineError → Prop) : Prop :=
  ∃ action : World → Except TimelineError (α × World), op = call action ∧
    (∀ w a w', action w = .ok (a, w') → w.Consulted w' ∧ learns w a w') ∧
      ∀ w error, action w = .error error → fails w error

theorem consults_findEventType (name : String) : (findEventType name).Consults
    (fun w _ w' => name ∈ w.eventTypes ∧ w' = w)
    (fun _ error => error = .eventTypeNotFound name) := by
  refine ⟨_, rfl, fun w a w' result => ?_, fun w error result => ?_⟩
  · by_cases known : name ∈ w.eventTypes
    · rw [World.findEventType, if_pos known] at result
      obtain ⟨_, rfl⟩ := Prod.mk.inj (Except.ok.inj result)
      exact ⟨.refl w, known, rfl⟩
    · rw [World.findEventType, if_neg known] at result
      exact nomatch result
  · by_cases known : name ∈ w.eventTypes
    · rw [World.findEventType, if_pos known] at result
      exact nomatch result
    · rw [World.findEventType, if_neg known] at result
      exact (Except.error.inj result).symm

theorem consults_workerFor (storage : Storage) : (workerFor storage).Consults
    (fun w number w' => w.workers.serving.get? storage.id = some number ∧ w' = w)
    (fun _ error => error = .worker (.noWorker storage.id)) := by
  refine ⟨_, rfl, fun w a w' result => ?_, fun w error result => ?_⟩
  · rw [Workers.number] at result
    cases served : w.workers.serving.get? storage.id with
    | none =>
      rw [served] at result
      exact nomatch result
    | some number =>
      rw [served] at result
      obtain ⟨rfl, rfl⟩ := Prod.mk.inj (Except.ok.inj result)
      exact ⟨.refl w, served, rfl⟩
  · rw [Workers.number] at result
    cases served : w.workers.serving.get? storage.id with
    | none =>
      rw [served] at result
      exact (Except.error.inj result).symm
    | some number =>
      rw [served] at result
      exact nomatch result

/-- A call of a worker that at most lays out topics. It fails as the worker does, or for want of the
worker. -/
theorem consults_onWorker (number : Nat) (action : Worker → Except WorkerError (α × Worker))
    (consulted : ∀ worker a worker', action worker = .ok (a, worker') → worker.Consulted worker') :
    (onWorker number action).Consults
      (fun w a w' => ∃ worker worker', w.workers.get? number = some worker ∧
        action worker = .ok (a, worker') ∧
          w' = w.withWorkers (w.workers.modify number fun _ => worker'))
      (fun w error => (w.workers.get? number = none ∧ error = .worker (.backend "worker is gone")) ∨
        ∃ worker fault, w.workers.get? number = some worker ∧ action worker = .error fault ∧
          error = .worker fault) := by
  refine ⟨_, rfl, fun w a w' result => ?_, fun w error result => ?_⟩
  · split at result
    · exact nomatch result
    · next worker registered =>
      split at result
      · next a' worker' acted =>
        obtain ⟨rfl, rfl⟩ := Prod.mk.inj (Except.ok.inj result)
        refine ⟨⟨_, .modify registered (consulted worker _ worker' acted), rfl⟩, ?_⟩
        exact ⟨worker, worker', registered, acted, rfl⟩
      · exact nomatch result
  · split at result
    · next none => exact .inl ⟨none, (Except.error.inj result).symm⟩
    · next worker registered =>
      split at result
      · exact nomatch result
      · next fault acted =>
        exact .inr ⟨worker, fault, registered, acted, (Except.error.inj result).symm⟩

theorem Consults.mono {learns' : World → α → World → Prop} {fails' : World → TimelineError → Prop}
    (consults : op.Consults learns fails)
    (better : ∀ w a w', learns w a w' → learns' w a w')
    (worse : ∀ w error, fails w error → fails' w error) : op.Consults learns' fails' := by
  obtain ⟨action, same, done, failed⟩ := consults
  refine ⟨action, same, fun w a w' result => ?_, fun w error result => ?_⟩
  · exact (done w a w' result).imp_right (better w a w')
  · exact worse w error (failed w error result)

/-- The errors of a worker that is asked for its topics. -/
def WorkerFails (error : TimelineError) : Prop :=
  error = .worker (.backend "worker is gone") ∨ ∃ topic, error = .worker (.topicNotFound topic)

theorem consults_asking (number : Nat) (answer : Worker → Except WorkerError α) :
    (onWorker number fun worker => (answer worker).map fun a => (a, worker)).Consults
      (fun w a w' => w' = w ∧ ∃ worker, w.workers.get? number = some worker ∧
        answer worker = .ok a)
      (fun w error => (w.workers.get? number = none ∧ error = .worker (.backend "worker is gone")) ∨
        ∃ worker fault, w.workers.get? number = some worker ∧ answer worker = .error fault ∧
          error = .worker fault) := by
  apply (consults_onWorker number _ _).mono
  · rintro w a w' ⟨worker, worker', registered, acted, rfl⟩
    obtain ⟨rfl, given⟩ := Worker.answer_ok acted
    refine ⟨?_, _, registered, given⟩
    rw [Workers.modify_same registered]
    rfl
  · rintro w error (gone | ⟨worker, fault, registered, acted, rfl⟩)
    · exact .inl gone
    · exact .inr ⟨worker, fault, registered, Worker.answer_error acted, rfl⟩
  · intro worker a worker' acted
    rw [(Worker.answer_ok acted).1]
    exact .refl worker

theorem consults_storageOf (number : Nat) : (storageOf number).Consults
    (fun w storage _ => ∃ worker, w.workers.get? number = some worker ∧ worker.storage = storage)
    (fun _ error => WorkerFails error) := by
  apply (consults_asking number fun worker => .ok worker.storage).mono
  · rintro w storage w' ⟨_, worker, registered, given⟩
    exact ⟨worker, registered, Except.ok.inj given⟩
  · rintro w error (⟨_, rfl⟩ | ⟨worker, fault, _, given, _⟩)
    · exact .inl rfl
    · exact nomatch given

theorem consults_laidOut (number : Nat) (e : String) (partitions : Option Nat) (first : Bool) :
    (layOut number e partitions first).Consults
      (fun w topic w' => ∃ worker, w.workers.get? number = some worker ∧
        topic = (worker.layOut e partitions first).1 ∧
          w' = w.withWorkers (w.workers.modify number fun _ =>
            (worker.layOut e partitions first).2))
      (fun _ error => WorkerFails error) := by
  refine (consults_onWorker number _ fun worker a worker' acted => ?_).mono ?_ ?_
  · obtain ⟨_, rfl⟩ := Prod.mk.inj (Except.ok.inj acted)
    exact worker.consulted_topics ..
  · rintro w topic w' ⟨worker, worker', registered, acted, rfl⟩
    obtain ⟨rfl, rfl⟩ := Prod.mk.inj (Except.ok.inj acted)
    exact ⟨worker, registered, rfl, rfl⟩
  · rintro w error (⟨_, rfl⟩ | ⟨worker, fault, _, acted, _⟩)
    · exact .inl rfl
    · exact nomatch acted

theorem consults_layOut (number : Nat) (e : String) (partitions : Option Nat) (first : Bool) :
    (layOut number e partitions first).Consults (fun _ topic _ => first = true → topic = e)
      (fun _ error => WorkerFails error) := by
  apply (consults_laidOut number e partitions first).mono
  · rintro w topic w' ⟨worker, -, rfl, -⟩ adopting
    exact if_pos adopting
  · exact fun _ _ failed => failed

/-- A worker that tells the partitions of a topic has the topic with as many of them. -/
theorem consults_partitionCount (number : Nat) (topic : String) :
    (partitionNames number topic).Consults
      (fun w names w' => w' = w ∧ w.HasPartitions number topic names.length)
      (fun _ error => WorkerFails error) := by
  apply (consults_asking number fun worker => worker.partitionNames topic).mono
  · rintro w names _ ⟨rfl, worker, registered, told⟩
    exact ⟨rfl, worker, registered, Worker.partitionNames_ok told⟩
  · rintro w error (⟨_, rfl⟩ | ⟨worker, fault, _, failed, rfl⟩)
    · exact .inl rfl
    · rw [Worker.partitionNames_error failed]
      exact .inr ⟨topic, rfl⟩

theorem consults_partitionNames (number : Nat) (topic : String) :
    (partitionNames number topic).Consults (fun _ _ w' => w'.HasTopic number topic)
      (fun _ error => WorkerFails error) := by
  apply (consults_partitionCount number topic).mono
  · rintro w names _ ⟨rfl, has⟩
    exact has.hasTopic
  · exact fun _ _ failed => failed

/-- A worker that is asked for the layout of an event type adopts the topic of that name. -/
theorem consults_adopted (number : Nat) (e : String) : (syntheticTimeline number e).Consults
    (fun w t w' => ∃ worker, w.workers.get? number = some worker ∧
      t = .synthetic e worker.storage e w.clock ∧
        w' = w.withWorkers (w.workers.modify number (·.adopt e)))
    (fun _ error => WorkerFails error) := by
  refine ⟨_, rfl, fun w a w' result => ?_, fun w error result => ?_⟩
  · split at result
    · exact nomatch result
    · next worker registered =>
      obtain ⟨rfl, rfl⟩ := Prod.mk.inj (Except.ok.inj result)
      exact ⟨⟨_, .modify registered (worker.consulted_topics _ _ worker.requests), rfl⟩, worker,
        registered, rfl, rfl⟩
  · split at result
    · exact .inl (Except.error.inj result).symm
    · exact nomatch result

theorem consults_syntheticTimeline (number : Nat) (e : String) :
    (syntheticTimeline number e).Consults (fun _ _ _ => True)
      (fun _ error => WorkerFails error) :=
  (consults_adopted number e).mono (fun _ _ _ _ => trivial) fun _ _ failed => failed

theorem consults_latestPosition (number : Nat) (t : Timeline) : (latestPosition number t).Consults
    (fun w position w' => w' = w ∧ ∃ worker, w.workers.get? number = some worker ∧
      worker.latestPosition t.topic = .ok position)
    (fun w error => (w.workers.get? number = none ∧ error = .worker (.backend "worker is gone")) ∨
      ∃ worker fault, w.workers.get? number = some worker ∧
        worker.latestPosition t.topic = .error fault ∧ error = .worker fault) :=
  consults_asking number fun worker => worker.latestPosition t.topic

end Operation

end Cutover
