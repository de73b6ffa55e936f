import Cutover.Proofs.Timelines.Foreign

set_option autoImplicit false

namespace Cutover

/-- What has become of the records in a switch of an event type to a storage. -/
structure World.Migrated (w : World) (e storageId : String) (t : Timeline) (w' : World) :
    Prop where
  /-- The new timeline is stored as it is returned, and its id was not taken. -/
  stored : w'.store.timeline? t.id = some t
  new : w.store.timeline? t.id = none
  eventType : t.eventType = e
  storage : w.store.storage? storageId = some t.storage
  order : t.order = Timeline.orderAfter (w.store.active? e)
  switchedAt : t.switchedAt = some w.clock
  lastPosition : t.lastPosition = none
  genuine : t.fake = false
  /-- The timeline that was active ends where its worker says. -/
  superseded : ∀ a, w.store.active? e = some a → ∃ number worker position,
    w.workers.serving.get? a.storage.id = some number ∧ w.workers.get? number = some worker ∧
      worker.latestPosition a.topic = .ok position ∧
        w'.store.timeline? a.id = some { a with lastPosition := some position }
  /-- No other timeline changes, and no storage. -/
  others : ∀ id, id ≠ t.id → (∀ a, w.store.active? e = some a → id ≠ a.id) →
    w'.store.timeline? id = w.store.timeline? id
  storages : w'.store.storages = w.store.storages
  /-- The new timeline is that of the event type now. -/
  current : (Timelines.get e).alone w' = (.ok t, w')

theorem Worker.Consulted.latestPosition {w w' : Worker} (consulted : w.Consulted w')
    {topic : String} {count : Nat} (known : w.topics.get? topic = some count) :
    w'.latestPosition topic = w.latestPosition topic := by
  have extends' := consulted.extension
  rw [Worker.latestPosition, Worker.latestPosition, consulted.failing, extends'.positions,
    partitionNames, partitionNames, partitionsOf, partitionsOf, known,
    extends'.topics topic count known]

theorem World.Consulted.latestPosition {w w' : World} (consulted : w.Consulted w') {number : Nat}
    {worker worker' : Worker} {topic : String} {count : Nat}
    (registered : w.workers.get? number = some worker)
    (registered' : w'.workers.get? number = some worker')
    (known : worker.topics.get? topic = some count) :
    worker'.latestPosition topic = worker.latestPosition topic := by
  obtain ⟨workers, consulted, rfl⟩ := consulted
  obtain ⟨worker'', found, extends'⟩ := consulted.extension.each number worker registered
  obtain rfl := Option.some.inj (registered'.symm.trans found)
  obtain ⟨old, found', failing⟩ := consulted.failing number worker' registered'
  obtain rfl := Option.some.inj (registered.symm.trans found')
  exact Worker.Consulted.latestPosition ⟨extends', failing⟩ known

namespace Timelines

open Operation

variable {w : World} {e storageId : String} {sync : TimelineSync World}

/-- The worker that a switch has looked up for the active timeline, which has its topic. -/
def Located (w : World) (e : String) (worker : Nat) : Prop :=
  ∀ a, w.store.active? e = some a → w.workers.serving.get? a.storage.id = some worker ∧
    ∃ count, w.HasPartitions worker a.topic count

/-- What a switch has come to before its fence, but for the topics that were laid out and the id
that was drawn. -/
def Prepared (w : World) (e : String) (s : Switch) (w' : World) : Prop :=
  s.active = w.store.active? e ∧ Located w e s.worker ∧ ∃ w₁, w.Consulted w₁ ∧ w' = w₁.drawn

theorem ensures_prepared {storage oldStorage : Storage} {oldWorker : Nat}
    (serves : ∀ a, w.store.active? e = some a →
      w.workers.serving.get? a.storage.id = some oldWorker) :
    (do
      let newWorker ← workerFor storage
      let next ← prepare e storage (w.store.active? e) oldStorage oldWorker newWorker
      return (⟨w.store.active? e, oldWorker, next⟩ : Switch)).Ensures
      (Prepared w e) (fun _ _ => True) w := by
  apply (consults_workerFor storage).asks.bind _ fun _ _ _ => trivial
  rintro newWorker w - ⟨-, rfl⟩
  cases active : w.store.active? e with
  | none =>
    apply ensures_bind
    have located : Located w e oldWorker := fun a seen => nomatch active.symm.trans seen
    apply ensures_prepare
    · intro topic w₁ consulted _
      exact ensures_pure ⟨active.symm, located, w₁, consulted, rfl⟩
    · exact fun _ _ _ => trivial
  | some a =>
    apply ensures_bind
    apply (consults_partitionCount oldWorker a.topic).asks.bind _ fun _ _ _ => trivial
    rintro partitions w - ⟨rfl, has⟩
    have located : Located w e oldWorker := by
      intro b seen
      obtain rfl := Option.some.inj (active.symm.trans seen)
      exact ⟨serves _ active, _, has⟩
    apply (consults_layOut newWorker e _ false).asks.bind _ fun _ _ _ => trivial
    intro topic w₁ consulted _
    apply ensures_newTimeline
    exact ensures_pure ⟨active.symm, located, w₁, consulted, rfl⟩

theorem ensures_preparing (e storageId : String) (w : World) :
    (plan e storageId).Ensures (Prepared w e) (fun _ _ => True) w := by
  apply asks_look.bind _ fun _ _ _ => trivial
  rintro found w - ⟨-, rfl⟩
  cases found with
  | none => exact ensures_bind (ensures_throw trivial)
  | some storage =>
    apply ensures_bind
    apply ensures_pure
    apply (consults_findEventType e).asks.bind _ fun _ _ _ => trivial
    rintro _ w - ⟨-, rfl⟩
    apply asks_look.bind _ fun _ _ _ => trivial
    rintro active w - ⟨seen, rfl⟩
    cases active with
    | none =>
      apply (asks_defaultStorage w).bind _ fun _ _ _ => trivial
      rintro oldStorage w - ⟨rfl, -⟩
      apply (consults_workerFor oldStorage).asks.bind _ fun _ _ _ => trivial
      rintro oldWorker w - ⟨-, rfl⟩
      rw [seen]
      exact ensures_prepared fun a active => nomatch seen.trans active
    | some previous =>
      apply ensures_bind
      apply ensures_pure
      apply (consults_workerFor previous.storage).asks.bind _ fun _ _ _ => trivial
      rintro oldWorker w - ⟨served, rfl⟩
      rw [seen]
      apply ensures_prepared
      intro a active
      obtain rfl := Option.some.inj (seen.trans active)
      exact served

/-- Under its fence a switch stores the position that the worker of the active timeline tells. -/
theorem ensures_sealed (keyed : w.store.Keyed) (previous next : Timeline) (number : Nat) :
    (commit e (some previous) number next).Ensures
      (fun _ w' => ∃ worker position, w.workers.get? number = some worker ∧
        worker.latestPosition previous.topic = .ok position ∧
          w'.store.timeline? previous.id = some { previous with lastPosition := some position })
      (fun _ _ => True) w := by
  apply ensures_bind
  apply ensures_bind
  apply ensures_look
  split
  · exact ensures_throw trivial
  apply ensures_pure
  apply asks_look.bind _ fun _ _ _ => trivial
  rintro switchedAt w - ⟨rfl, rfl⟩
  apply ensures_bind
  apply (consults_latestPosition number previous).asks.bind _ fun _ _ _ => trivial
  rintro position w - ⟨rfl, worker, registered, latest⟩
  apply ensures_pure
  apply ensures_bind
  apply ensures_writeStore
  · intro s committed
    obtain ⟨free, -, active, rfl⟩ := Store.commitSwitch_ok committed
    obtain ⟨a, stored, -⟩ := keyed.get?_active active
    refine ensures_pure ⟨worker, position, registered, latest, ?_⟩
    have apart : previous.id ≠ next.id := by
      intro same
      rw [← same] at free
      exact nomatch stored.symm.trans free
    exact (Table.get?_insert_of_ne _ _ apart).trans (Table.get?_insert_self ..)
  · exact fun _ _ => trivial

theorem ensures_superseded (own : sync.Only World.Fencing) (keyed : w.store.Keyed) {a : Timeline}
    (active : w.store.active? e = some a) (storageId : String) :
    (switchTo sync e storageId).Ensures
      (fun _ w' => ∃ number worker position, w.workers.serving.get? a.storage.id = some number ∧
        w.workers.get? number = some worker ∧ worker.latestPosition a.topic = .ok position ∧
          w'.store.timeline? a.id = some { a with lastPosition := some position })
      (fun _ _ => True) w := by
  rw [switchTo_eq]
  apply ensures_bind
  apply (ensures_preparing e storageId w).mono _ fun _ _ _ => trivial
  rintro ⟨_, number, next⟩ _ ⟨rfl, located, w₁, consulted, rfl⟩
  obtain ⟨served, _, ⟨worker, registered, known⟩⟩ := located a active
  apply ensures_own own fun _ _ _ _ => trivial
  intro w₂ fencing
  have aged := (consulted.aged.trans w₁.aged_drawn).trans fencing.aged
  rw [← aged.store] at keyed
  rw [active]
  apply (ensures_sealed keyed a next number).mono _ fun _ _ _ _ _ => trivial
  rintro _ w' ⟨worker', position, registered', latest, stored⟩ w'' fencing'
  obtain ⟨_, _, _, rfl⟩ := fencing
  refine ⟨number, worker, position, served, registered, ?_, ?_⟩
  · rw [← consulted.latestPosition registered registered' known, latest]
  · rw [fencing'.aged.store]
    exact stored

end Timelines

theorem Store.timeline?_switch {s : Store} {superseded : Option Timeline} {next : Timeline}
    {id : Uuid} (other : id ≠ next.id) (kept : ∀ previous, superseded = some previous →
      id ≠ previous.id) : ((superseded.elim s s.put).put next).timeline? id = s.timeline? id := by
  rw [timeline?, put, Table.get?_insert_of_ne _ _ other]
  cases superseded with
  | none => rfl
  | some previous => exact Table.get?_insert_of_ne _ _ (kept previous rfl)

theorem Store.active_switch {s s' : Store} {e : String} {next : Timeline} {position : Position}
    (order : next.order = Timeline.orderAfter (s.active? e)) (type : next.eventType = e)
    (switched : next.isSwitched = true)
    (committed : s.commitSwitch ((s.active? e).map fun a =>
      { a with lastPosition := some position }) next = .ok s') : s'.active? e = some next := by
  subst type
  obtain ⟨-, -, -, rfl⟩ := commitSwitch_ok committed
  apply active_of_highest (Table.mem_values_iff.2 ⟨next.id, Table.get?_insert_self ..⟩) switched
  intro u inside named switched'
  refine (mem_of_put inside).imp_right fun old => ?_
  cases active : s.active? next.eventType with
  | none =>
    rw [active] at old
    exact absurd switched' (Bool.eq_false_iff.1 (active_none active u old named))
  | some a =>
    rw [order, active]
    rw [active] at old
    rcases mem_of_put old with rfl | before
    · exact Nat.lt_succ_self a.order
    · exact Nat.lt_succ_of_le ((active_spec active).2.2.2 u before named switched')

namespace Timelines

open Operation

variable {w w' : World} {e storageId : String} {t : Timeline} {sync : TimelineSync World}

theorem get_active (active : w.store.active? e = some t) : (get e).alone w = (.ok t, w) := by
  apply Ensures.alone_eq
  apply ensures_bind
  apply ensures_look
  rw [active]
  exact ensures_pure ⟨rfl, rfl⟩

/-- Wherever calls of the service have come to, a switch that nothing interferes with stores the
timeline that it returns, on the storage that was asked for and next in order, and ends the one that
was active at the last position that its worker has for its topic. It leaves all other timelines and
the storages as they are, and the new timeline is the one of its event type from then on. -/
theorem switch_migrates (own : sync.Only World.Fencing) (reachable : w.Reachable sync)
    (switched : (switchTo sync e storageId).alone w = (.ok t, w')) :
    w.Migrated e storageId t w' := by
  have keyed := reachable.keyed own
  obtain ⟨s, ⟨⟨storage, topic, asked, -, rfl⟩, position, committed⟩, aged⟩ :=
    (ensures_switchTo own e storageId w).of_ok switched
  have active : s.active? e = some _ := Store.active_switch rfl rfl rfl committed
  have store : w'.store = s := aged.store
  obtain ⟨free, -, -, rfl⟩ := Store.commitSwitch_ok committed
  refine
    { stored := ?_
      new := free
      eventType := rfl
      storage := asked
      order := rfl
      switchedAt := rfl
      lastPosition := rfl
      genuine := rfl
      superseded := fun a active => (ensures_superseded own keyed active storageId).of_ok switched
      others := ?_
      storages := ?_
      current := ?_ }
  · rw [store]
    exact Table.get?_insert_self ..
  · intro id other kept
    rw [store]
    apply Store.timeline?_switch other
    intro previous same
    obtain ⟨a, active, rfl⟩ := Option.map_eq_some_iff.1 same
    exact kept a active
  · rw [store]
    cases w.store.active? e with
    | none => rfl
    | some a => rfl
  · apply get_active
    rw [store]
    exact active

/-- The one event type of two is switched to another storage. -/
theorem switch_migrates_paired : ∃ (t a : Timeline) (w' : World),
    (switchTo World.localSync "orders" "other").alone World.paired = (.ok t, w') ∧
      World.paired.store.active? "orders" = some a ∧ t.order = 1 ∧ t.storage.id = "other" ∧
        World.paired.Migrated "orders" "other" t w' := by
  have answer : (((switchTo World.localSync "orders" "other").alone World.paired).1.toOption.map
      fun t => (t.order, t.storage.id)) = some (1, "other") := by decide +kernel
  obtain ⟨t, known, switched⟩ := Operation.exists_of_alone_toOption answer rfl
  obtain ⟨order, storage⟩ := Prod.mk.inj known
  have active : (World.paired.store.active? "orders").isSome = true := by decide +kernel
  obtain ⟨a, active⟩ := Option.isSome_iff_exists.1 active
  exact ⟨t, a, _, switched, active, order, storage,
    switch_migrates World.fencing_localSync World.reachable_paired switched⟩

end Timelines

end Cutover
