import Cutover.Proofs.Operation.Fenced
import Cutover.Proofs.Timelines.Cursors

set_option autoImplicit false

namespace Cutover

namespace Table

variable {κ ν : Type} [Key κ]

theorem insertIfNew_of_get? {t : Table κ ν} {k : κ} {old : ν} (found : t.get? k = some old)
    (v : ν) : t.insertIfNew k v = t := by
  rw [insertIfNew, contains, found]
  rfl

theorem modify_of_get? {t : Table κ ν} {k : κ} {v : ν} (found : t.get? k = some v)
    {f g : ν → ν} (same : f v = g v) : t.modify k f = t.modify k g := by
  rw [modify, modify, found]
  dsimp only
  rw [same]

theorem modify_modify (t : Table κ ν) (k : κ) (f g : ν → ν) :
    (t.modify k f).modify k g = t.modify k (g ∘ f) := by
  apply eq_of_get?_eq
  intro other
  by_cases same : other = k
  · rw [same, get?_modify_self, get?_modify_self, get?_modify_self, Option.map_map]
  · rw [get?_modify_of_ne _ _ same, get?_modify_of_ne _ _ same, get?_modify_of_ne _ _ same]

end Table

namespace Worker

variable {worker : Worker} {e : String} {count : Nat}

/-- The partitions that an event type's own topic has, or would be laid out with. -/
def ownPartitions (worker : Worker) (e : String) : Nat :=
  (worker.topics.get? e).getD worker.defaultPartitions

theorem topics_adopt (worker : Worker) (e : String) :
    (worker.adopt e).topics.get? e = some (worker.ownPartitions e) :=
  Table.get?_insertIfNew_self ..

theorem adopt_of_topic (found : worker.topics.get? e = some count) : worker.adopt e = worker := by
  rw [adopt, Table.insertIfNew_of_get? found]

/-- The worker after the topic of an event type's own name was taken over by a first timeline. -/
def takenOver (worker : Worker) (e : String) : Worker :=
  { worker.adopt e with
    requests := worker.requests ++ [⟨e, some (worker.ownPartitions e), true⟩] }

theorem layOut_adopt (worker : Worker) (e : String) :
    (worker.adopt e).layOut e (some (worker.ownPartitions e)) true = (e, worker.takenOver e) := by
  have there := Table.insertIfNew_of_get? (worker.topics_adopt e) (worker.ownPartitions e)
  simp only [layOut, if_true, Option.getD_some, there]
  rfl

theorem partitionNames_adopt (worker : Worker) (e : String) : (worker.adopt e).partitionNames e =
    .ok ((List.range (worker.ownPartitions e)).map partitionName) := by
  rw [partitionNames, partitionsOf, topics_adopt]

end Worker

/-- The same workers, with further requests. -/
structure Workers.Logged (w w' : Workers) : Prop where
  serving : w'.serving = w.serving
  each : ∀ number, ∃ requests, w'.get? number =
    (w.get? number).map fun worker => { worker with requests := worker.requests ++ requests }

/-- The same world at any time, but for requests that workers and syncs have been made, and ids
drawn. -/
structure World.Logged (w w' : World) : Prop where
  store : w'.store = w.store
  eventTypes : w'.eventTypes = w.eventTypes
  workers : w.workers.Logged w'.workers
  fences : w.fences.Logged w'.fences
  recorder : w.recorder.Logged w'.recorder
  fresh : w'.ids.fresh = w.ids.fresh
  drawn : w.ids.drawn ≤ w'.ids.drawn

theorem Workers.Logged.refl (w : Workers) : w.Logged w :=
  ⟨rfl, fun number => ⟨[], by simp⟩⟩

theorem Workers.Logged.trans {w w' w'' : Workers} (first : w.Logged w') (second : w'.Logged w'') :
    w.Logged w'' := by
  refine ⟨second.serving.trans first.serving, fun number => ?_⟩
  obtain ⟨requests, same⟩ := first.each number
  obtain ⟨more, same'⟩ := second.each number
  refine ⟨requests ++ more, ?_⟩
  rw [same', same, Option.map_map]
  simp [Function.comp_def]

namespace World

variable {w w' w'' : World} {sync : TimelineSync World} {e d : String}

theorem Logged.refl (w : World) : w.Logged w :=
  ⟨rfl, rfl, .refl _, .refl _, .refl _, rfl, Nat.le_refl _⟩

theorem Logged.trans (first : w.Logged w') (second : w'.Logged w'') : w.Logged w'' where
  store := second.store.trans first.store
  eventTypes := second.eventTypes.trans first.eventTypes
  workers := first.workers.trans second.workers
  fences := first.fences.trans second.fences
  recorder := first.recorder.trans second.recorder
  fresh := second.fresh.trans first.fresh
  drawn := first.drawn.trans second.drawn

/-- What a first timeline needs to be started: its storage is the default one and has a worker. -/
structure Offers (w : World) (e d : String) (storage : Storage) (number : Nat) (worker : Worker) :
    Prop where
  stored : w.store.storage? d = some storage
  known : e ∈ w.eventTypes
  default : ∃ home, w.store.defaultStorage? = some home ∧ storage.id = home.id
  served : w.workers.serving.get? storage.id = some number
  registered : w.workers.get? number = some worker

/-- The world once a first timeline was laid out. -/
def takenOver (w : World) (e : String) (number : Nat) : World :=
  (w.withWorkers (w.workers.modify number (·.takenOver e))).drawn

/-- The world once the layout of an event type was asked for. -/
def adopted (w : World) (e : String) (number : Nat) : World :=
  w.withWorkers (w.workers.modify number (·.adopt e))

theorem registered_adopted {number : Nat} {worker : Worker}
    (registered : w.workers.get? number = some worker) :
    (w.adopted e number).workers.get? number = some (worker.adopt e) :=
  Table.get?_modify_of_get? _ registered

theorem FencedBy.clear_takenOver {number : Nat} {limit : Duration} (fencedBy : w.FencedBy sync) :
    (w.takenOver e number).Clear sync e limit ↔ w.Clear sync e limit := fencedBy.clear_congr rfl rfl

/-- A worker that is replaced after it was asked might have been replaced at once. -/
theorem modify_adopted {number : Nat} {worker : Worker}
    (registered : w.workers.get? number = some worker) (change : Worker → Worker) :
    (w.adopted e number).workers.modify number (fun _ => change worker) =
      w.workers.modify number change := by
  have twice : (w.workers.all.modify number (·.adopt e)).modify number (fun _ => change worker) =
      w.workers.all.modify number change := by
    rw [Table.modify_modify]
    exact Table.modify_of_get? registered rfl
  exact congrArg (fun all => { w.workers with all := all }) twice

end World

namespace Timelines

open Operation

variable {w w' : World} {sync : TimelineSync World} {e d : String} {storage : Storage}
  {number : Nat} {worker : Worker}

theorem ensures_syntheticTimeline {done : Timeline → World → Prop}
    {failed : TimelineError → World → Prop} (registered : w.workers.get? number = some worker)
    (held : done (.synthetic e worker.storage e w.clock) (w.adopted e number)) :
    (syntheticTimeline number e).Ensures done failed w := by
  refine ensures_call_ok ?_ held
  rw [registered]
  rfl

theorem ensures_takeOver {home : Storage} (same : storage.id = home.id)
    (registered : w.workers.get? number = some worker) :
    (prepare e storage none home number number).Ensures
      (fun t w' => t = .fresh w.ids.draw.1 e 0 storage e w.clock ∧ w' = w.takenOver e number)
      (fun _ _ => False) w := by
  have adopted : (w.adopted e number).workers.get? number = some (worker.adopt e) :=
    World.registered_adopted registered
  have told : ((worker.adopt e).partitionNames e).map (fun names => (names, worker.adopt e)) =
      .ok ((List.range (worker.ownPartitions e)).map Worker.partitionName, worker.adopt e) := by
    rw [Worker.partitionNames_adopt]
    rfl
  have laidOut : (worker.adopt e).layOut e (some ((List.range (worker.ownPartitions e)).map
      Worker.partitionName).length) true = (e, worker.takenOver e) := by
    rw [List.length_map, List.length_range, Worker.layOut_adopt]
  rw [prepare]
  apply ensures_check fun other => other same
  intro _
  apply ensures_bind
  apply ensures_syntheticTimeline registered
  apply ensures_bind
  apply ensures_onWorker adopted told
  have unchanged : (w.adopted e number).withWorkers
      ((w.adopted e number).workers.modify number fun _ => worker.adopt e) =
        w.adopted e number := by
    rw [Workers.modify_same adopted]
    rfl
  rw [unchanged]
  apply ensures_bind
  apply ensures_onWorker adopted (congrArg Except.ok laidOut)
  apply ensures_newTimeline
  have replaced : (w.adopted e number).workers.modify number (fun _ => worker.takenOver e) =
      w.workers.modify number (·.takenOver e) :=
    World.modify_adopted registered (·.takenOver e)
  refine ⟨rfl, ?_⟩
  rw [replaced]
  rfl

theorem plan_of_offers (first : w.store.active? e = none)
    (offers : w.Offers e d storage number worker) : (plan e d).alone w =
      (.ok ⟨none, number, .fresh w.ids.draw.1 e 0 storage e w.clock⟩, w.takenOver e number) := by
  obtain ⟨home, default, same⟩ := offers.default
  have served : w.workers.serving.get? home.id = some number := same ▸ offers.served
  apply Ensures.alone_eq
  apply ensures_bind
  apply ensures_look
  rw [offers.stored]
  apply ensures_bind
  apply ensures_pure
  apply ensures_bind
  refine ensures_call_ok (by rw [World.findEventType, if_pos offers.known]) ?_
  apply ensures_bind
  apply ensures_look
  rw [first]
  apply ensures_bind
  apply ensures_bind
  apply ensures_look
  rw [default]
  apply ensures_pure
  apply ensures_bind
  apply ensures_workerFor served
  apply ensures_bind
  apply ensures_workerFor offers.served
  apply ensures_bind
  apply (ensures_takeOver same offers.registered).mono
  · rintro t _ ⟨rfl, rfl⟩
    exact ensures_pure ⟨rfl, rfl⟩
  · exact fun _ _ failed => failed

theorem ensures_offers (first : w.store.active? e = none) : (plan e d).Ensures
    (fun _ _ => ∃ storage number worker, w.Offers e d storage number worker)
    (fun _ _ => True) w := by
  apply asks_look.bind _ fun _ _ _ => trivial
  rintro found w - ⟨stored, rfl⟩
  cases found with
  | none => exact ensures_bind (ensures_throw trivial)
  | some storage =>
    apply ensures_bind
    apply ensures_pure
    apply (consults_findEventType e).asks.bind _ fun _ _ _ => trivial
    rintro _ w - ⟨known, rfl⟩
    apply asks_look.bind _ fun _ _ _ => trivial
    rintro active w - ⟨rfl, rfl⟩
    rw [first]
    apply (asks_defaultStorage w).bind _ fun _ _ _ => trivial
    rintro home w - ⟨rfl, default⟩
    apply (consults_workerFor home).asks.bind _ fun _ _ _ => trivial
    rintro oldWorker w - ⟨served, rfl⟩
    apply (consults_workerFor storage).asks.bind _ fun _ _ _ => trivial
    rintro newWorker w - ⟨served', rfl⟩
    apply ensures_bind
    rw [prepare]
    apply ensures_check fun _ => trivial
    intro same
    rw [not_not.1 same, served] at served'
    obtain rfl := Option.some.inj served'
    apply (consults_adopted oldWorker e).asks.bind _ fun _ _ _ => trivial
    rintro layout w' - ⟨worker, registered, -, -⟩
    have offers : w.Offers e d storage oldWorker worker :=
      ⟨stored.symm, known, ⟨home, default, not_not.1 same⟩, not_not.1 same ▸ served, registered⟩
    exact ensures_any (fun _ _ => ensures_pure ⟨_, _, _, offers⟩) fun _ _ => trivial

end Timelines

namespace Store

variable {s s' : Store} {e : String} {next : Timeline}

theorem active?_of_unused (unused : ∀ t ∈ s.timelines.values, t.eventType ≠ e) :
    s.active? e = none := by
  cases found : s.active? e with
  | none => rfl
  | some a =>
    obtain ⟨stored, named, -, -⟩ := active_spec found
    exact absurd named (unused a stored)

theorem commitSwitch_first_iff (unused : ∀ t ∈ s.timelines.values, t.eventType ≠ next.eventType) :
    s.commitSwitch none next = .ok s' ↔
      s.failSwitch = false ∧ s.timelines.get? next.id = none ∧ s' = s.put next := by
  constructor
  · intro committed
    obtain ⟨new, -, -, rfl⟩ := commitSwitch_ok committed
    refine ⟨?_, new, rfl⟩
    cases failing : s.failSwitch with
    | false => rfl
    | true =>
      rw [commitSwitch, if_pos failing] at committed
      exact nomatch committed
  · rintro ⟨works, new, rfl⟩
    have free : ¬next.orderTaken s.timelines.values = true := by
      intro taken
      obtain ⟨t, stored, named, -⟩ := orderTaken_spec taken
      exact unused t stored named
    simp [commitSwitch, works, Table.contains, new, active?_of_unused unused, free]

/-- A timeline that was new can be deleted if the store works, which leaves nothing of it. -/
theorem deleteTimeline_put_iff (new : s.timelines.get? next.id = none) :
    (s.put next).deleteTimeline next.id = .ok s' ↔ s.failDelete = false ∧ s' = s := by
  have there : (s.put next).timelines.contains next.id = true := by
    rw [put, Table.contains, Table.get?_insert_self]
    rfl
  have gone : { s.put next with timelines := (s.put next).timelines.erase next.id } = s := by
    rw [put, Table.erase_insert, Table.erase_of_get?_none new]
  rw [deleteTimeline, there, gone]
  change (if s.failDelete = true then _ else _) = _ ↔ _
  cases s.failDelete with
  | true => simp
  | false => simp [eq_comm]

theorem deletable_put (unused : ∀ t ∈ s.timelines.values, t.eventType ≠ next.eventType)
    (first : next.order = 0) (switched : next.isSwitched = true) :
    (s.put next).Deletable next.eventType next.id next := by
  have stored : (s.put next).timelines.get? next.id = some next := Table.get?_insert_self ..
  have active : (s.put next).active? next.eventType = some next := by
    apply active_of_highest (Table.mem_values_iff.2 ⟨_, stored⟩) switched
    intro u inside named _
    exact (mem_of_put inside).imp_right fun old => absurd named (unused u old)
  exact ⟨stored, rfl, first, by rw [active]; rfl⟩

end Store

namespace Timelines

open Operation

variable {w w' : World} {sync : TimelineSync World} {e d : String} {storage : Storage}
  {number : Nat} {worker : Worker} {t : Timeline} {id : Uuid}

theorem alone_commit_iff {next : Timeline} (first : w.store.active? e = none) :
    (commit e none number next).alone w = (.ok t, w') ↔
      t = { next with switchedAt := some w.clock } ∧
        ∃ s, w.store.commitSwitch none t = .ok s ∧ w' = w.withStore s := by
  have ensures : (commit e none number next).Ensures
      (fun t w' => t = { next with switchedAt := some w.clock } ∧
        ∃ s, w.store.commitSwitch none t = .ok s ∧ w' = w.withStore s)
      (fun _ _ => ∀ s, w.store.commitSwitch none { next with switchedAt := some w.clock } ≠ .ok s)
      w := by
    apply ensures_bind
    apply ensures_bind
    apply ensures_look
    rw [first, if_neg (not_not.2 rfl)]
    apply ensures_pure
    apply ensures_bind
    apply ensures_look
    apply ensures_bind
    apply ensures_pure
    apply ensures_bind
    apply ensures_writeStore
    · exact fun s committed => ensures_pure ⟨rfl, s, committed, rfl⟩
    · exact fun error refused s committed => nomatch refused.symm.trans committed
  refine ⟨ensures.of_ok, ?_⟩
  rintro ⟨rfl, s, committed, rfl⟩
  rcases result : (commit e none number next).alone w with ⟨error | t, w'⟩
  · exact absurd committed (ensures.of_error result s)
  · obtain ⟨rfl, s', committed', rfl⟩ := ensures.of_ok result
    rw [Except.ok.inj (committed.symm.trans committed')]

/-- Before its fence a deletion passes all checks if its timeline can be deleted. -/
theorem alone_delete (deletable : w.store.Deletable e id t) :
    (delete sync e id).alone w = (fenced sync e updateLimit (remove e t.id)).alone w := by
  have isFirst : ¬(!t.isFirst) = true := by simp [Timeline.isFirst, deletable.first]
  rw [delete, getTimeline, alone_look_bind, deletable.stored]
  dsimp only
  rw [pure_bind, if_neg (not_not.2 deletable.named), if_neg isFirst, activeTimeline,
    alone_look_bind, if_neg (not_not.2 deletable.active)]

/-- Starts a first timeline on a storage and deletes it again. -/
def startThenDelete (sync : TimelineSync World) (e d : String) : Operation Timeline := do
  let t ← switchTo sync e d
  delete sync e t.id
  return t

theorem switchTo_first (offers : w.Offers e d storage number worker)
    (unused : ∀ t ∈ w.store.timelines.values, t.eventType ≠ e) (fencedBy : w.FencedBy sync)
    (clear : w.Clear sync e updateLimit) (works : w.store.failSwitch = false)
    (new : w.store.timelines.get? w.ids.draw.1 = none) :
    ∃ w', (switchTo sync e d).alone w = (.ok (w.opened e 0 storage e), w') ∧
      ((w.takenOver e number).withStore (w.store.put (w.opened e 0 storage e))).Resumed w' ∧
      w'.FencedBy sync ∧ w'.Clear sync e updateLimit := by
  have first := Store.active?_of_unused unused
  have committed : w.store.commitSwitch none (w.opened e 0 storage e) =
      .ok (w.store.put (w.opened e 0 storage e)) :=
    (Store.commitSwitch_first_iff unused).2 ⟨works, new, rfl⟩
  have runs : ∀ w₁, (w.takenOver e number).Fencing w₁ →
      (commit e none number (.fresh w.ids.draw.1 e 0 storage e w.clock)).alone w₁ =
        (.ok (w.opened e 0 storage e), w₁.withStore (w.store.put (w.opened e 0 storage e))) := by
    intro w₁ fencing
    have store : w₁.store = w.store := fencing.aged.store
    have clock : w₁.clock = w.clock := fencing.aged.clock
    rw [alone_commit_iff (by rw [store, first]), store, clock]
    exact ⟨rfl, _, committed, rfl⟩
  have laidOut : (w.takenOver e number).FencedBy sync := fencedBy.congr rfl
  obtain ⟨w', ran, resumed⟩ :=
    alone_fenced_of_clear laidOut (fencedBy.clear_takenOver.2 clear) runs
  rw [switchTo_eq]
  exact ⟨w', alone_bind_ok_iff.2 ⟨_, _, plan_of_offers first offers, ran⟩, resumed⟩

theorem delete_first {s : Store} (stored : w.store = s.put t) (named : t.eventType = e)
    (first : t.order = 0) (switched : t.isSwitched = true)
    (unused : ∀ u ∈ s.timelines.values, u.eventType ≠ e)
    (new : s.timelines.get? t.id = none) (fencedBy : w.FencedBy sync)
    (clear : w.Clear sync e updateLimit) (works : s.failDelete = false) :
    ∃ w', (delete sync e t.id).alone w = (.ok (), w') ∧ (w.withStore s).Resumed w' ∧
      w'.FencedBy sync ∧ w'.Clear sync e updateLimit := by
  subst named
  have deletable := Store.deletable_put unused first switched
  rw [alone_delete (stored ▸ deletable)]
  refine alone_fenced_of_clear fencedBy clear fun w₁ fencing => ?_
  have store : w₁.store = s.put t := fencing.aged.store.trans stored
  apply Ensures.alone_eq
  apply (ensures_remove (store ▸ deletable) rfl).mono
  · rintro _ _ ⟨s', deleted, rfl⟩
    rw [store, Store.deleteTimeline_put_iff new] at deleted
    exact ⟨rfl, by rw [deleted.2]⟩
  · rintro _ _ ⟨-, failing⟩
    rw [store] at failing
    exact nomatch works.symm.trans failing

end Timelines

namespace World

/-- A first timeline of an event type can be started and deleted. -/
structure Ready (w : World) (sync : TimelineSync World) (e d : String) (storage : Storage)
    (number : Nat) (worker : Worker) : Prop extends w.Offers e d storage number worker where
  unused : ∀ t ∈ w.store.timelines.values, t.eventType ≠ e
  commits : w.store.failSwitch = false
  deletes : w.store.failDelete = false
  fencedBy : w.FencedBy sync
  clear : w.Clear sync e Timelines.updateLimit

end World

namespace Timelines

open Operation

variable {w w' : World} {sync : TimelineSync World} {e d : String} {storage : Storage}
  {number : Nat} {worker : Worker} {t : Timeline} {id : Uuid}

/-- A first timeline that is started and deleted leaves its layout behind, and what the sync keeps
of both fences. -/
theorem alone_startThenDelete (ready : w.Ready sync e d storage number worker)
    (new : w.store.timelines.get? w.ids.draw.1 = none) :
    ∃ w', (startThenDelete sync e d).alone w = (.ok (w.opened e 0 storage e), w') ∧
      (w.takenOver e number).Resumed w' ∧
      w'.Ready sync e d storage number (worker.takenOver e) := by
  obtain ⟨w₁, started, resumed, fencedBy, clear⟩ := switchTo_first ready.toOffers ready.unused
    ready.fencedBy ready.clear ready.commits new
  have stored : w₁.store = w.store.put (w.opened e 0 storage e) := by
    obtain ⟨_, _, -, -, rfl⟩ := resumed
    rfl
  obtain ⟨w', deleted, resumed', fencedBy', clear'⟩ := delete_first stored rfl rfl rfl
    ready.unused new fencedBy clear ready.deletes
  have back : (w.takenOver e number).Resumed w' := (resumed.withStore w.store).trans resumed'
  refine ⟨w', ?_, back, ?_⟩
  · exact alone_bind_ok_iff.2 ⟨_, w₁, started, alone_bind_ok_iff.2 ⟨_, w', deleted, rfl⟩⟩
  · obtain ⟨fences, recorder, -, -, rfl⟩ := back
    exact ⟨{ ready.toOffers with registered := Table.get?_modify_of_get? _ ready.registered },
      ready.unused, ready.commits, ready.deletes, fencedBy', clear'⟩

theorem ready_of_startThenDelete (fencedBy : w.FencedBy sync)
    (unused : ∀ t ∈ w.store.timelines.values, t.eventType ≠ e)
    (result : (startThenDelete sync e d).alone w = (.ok t, w')) :
    w.store.timelines.get? w.ids.draw.1 = none ∧
      ∃ storage number worker, w.Ready sync e d storage number worker := by
  have first := Store.active?_of_unused unused
  obtain ⟨t₁, w₁, started, rest⟩ := alone_bind_ok_iff.1 result
  obtain ⟨_, w₂, deleted, -⟩ := alone_bind_ok_iff.1 rest
  have switched := started
  rw [switchTo_eq] at started
  obtain ⟨plan, w₀, planned, fenced⟩ := alone_bind_ok_iff.1 started
  obtain ⟨storage, number, worker, offers⟩ := (ensures_offers first).of_ok planned
  rw [plan_of_offers first offers] at planned
  obtain ⟨same, rfl⟩ := Prod.mk.inj planned
  obtain rfl := Except.ok.inj same
  have laidOut : (w.takenOver e number).FencedBy sync := fencedBy.congr rfl
  obtain ⟨clear, v, v', fencing, committed⟩ := alone_fenced_ok laidOut fenced
  have clear := fencedBy.clear_takenOver.1 clear
  have store : v.store = w.store := fencing.aged.store
  rw [alone_commit_iff (by rw [store, first]), store] at committed
  obtain ⟨rfl, s, committed, -⟩ := committed
  obtain ⟨commits, new, rfl⟩ := (Store.commitSwitch_first_iff unused).1 committed
  have new : w.store.timelines.get? w.ids.draw.1 = none := new
  refine ⟨new, storage, number, worker, offers, unused, commits, ?_, fencedBy, clear⟩
  -- The deletion, too, has come to write.
  obtain ⟨w₁', started', resumed, fencedBy', -⟩ :=
    switchTo_first offers unused fencedBy clear commits new
  obtain ⟨same, rfl⟩ := Prod.mk.inj (switched.symm.trans started')
  rw [Except.ok.inj same] at deleted
  have stored : w₁.store = w.store.put (w.opened e 0 storage e) := by
    obtain ⟨_, _, -, -, rfl⟩ := resumed
    rfl
  have deletable : (w.store.put (w.opened e 0 storage e)).Deletable e (w.opened e 0 storage e).id
      (w.opened e 0 storage e) := Store.deletable_put unused rfl rfl
  rw [alone_delete (stored ▸ deletable)] at deleted
  obtain ⟨-, v, v', fencing, removed⟩ := alone_fenced_ok fencedBy' deleted
  have store := fencing.aged.store.trans stored
  obtain ⟨s, removed, -⟩ := (ensures_remove (store ▸ deletable) rfl).of_ok removed
  rw [store, Store.deleteTimeline_put_iff new] at removed
  exact removed.1

end Timelines

end Cutover
