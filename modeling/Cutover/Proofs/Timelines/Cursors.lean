import Cutover.Proofs.Storages.Frozen

set_option autoImplicit false

namespace Cutover

namespace Operation

variable {α β : Type} {op : Operation α} {w w' : World}

theorem Ensures.alone_eq {a : α}
    (ensures : op.Ensures (fun b w'' => b = a ∧ w'' = w') (fun _ _ => False) w) :
    op.alone w = (.ok a, w') := by
  obtain ⟨b, w'', result⟩ := ensures.succeeds fun _ _ failed => failed
  obtain ⟨rfl, rfl⟩ := ensures.of_ok result
  exact result

theorem exists_of_alone_toOption {f : α → β} {b : β}
    (told : (op.alone w).1.toOption.map f = some b) (left : (op.alone w).2 = w') :
    ∃ a, f a = b ∧ op.alone w = (.ok a, w') := by
  cases result : op.alone w with
  | mk answer w₁ =>
    rw [result] at told left
    cases answer with
    | error e => exact nomatch told
    | ok a => exact ⟨a, Option.some.inj told, congrArg (Prod.mk _) left⟩

theorem alone_map (op : Operation α) (f : α → β) (w : World) : (do
    let a ← op
    return f a : Operation β).alone w = ((op.alone w).1.map f, (op.alone w).2) := by
  rw [alone, ExceptT.run_bind, Process.bind_eq, Process.runAlone_bind, alone]
  cases result : op.run.runAlone w with
  | mk answer w' =>
    cases answer with
    | ok a => rfl
    | error e => rfl

end Operation

namespace Timelines

open Operation

variable {w : World} {sync : TimelineSync World} {e storageId partition offset : String}

theorem resolve_onTimeline {id : Uuid} {t : Timeline} (stored : w.store.timeline? id = some t) :
    (resolve e (.onTimeline partition id offset)).alone w = (.ok t, w) := by
  apply Ensures.alone_eq
  apply ensures_bind
  apply ensures_look
  rw [stored]
  exact ensures_pure ⟨rfl, rfl⟩

/-- A legacy cursor means the topic of the event type's own name on the default storage. -/
theorem resolve_legacy {d : Storage} {number : Nat} {worker : Worker}
    (default : w.store.defaultStorage? = some d)
    (served : w.workers.serving.get? d.id = some number)
    (registered : w.workers.get? number = some worker) :
    (resolve e (.legacy partition offset)).alone w =
      (.ok (.synthetic e worker.storage e w.clock),
        w.withWorkers (w.workers.modify number (·.adopt e))) := by
  apply Ensures.alone_eq
  apply ensures_bind
  apply ensures_bind
  apply ensures_bind
  apply ensures_look
  rw [default]
  apply ensures_pure
  apply ensures_workerFor served
  refine ensures_call_ok ?_ ⟨rfl, rfl⟩
  rw [registered]

/-- Without an active timeline the new one takes over the topic of the event type's own name. -/
theorem ensures_firstPrepare {storage oldStorage : Storage} {oldWorker newWorker : Nat} :
    (prepare e storage none oldStorage oldWorker newWorker).Ensures
      (fun t _ => t.topic = e ∧ t.storage = storage) (fun _ _ => True) w := by
  rw [prepare]
  apply ensures_check fun _ => trivial
  intro _
  apply (consults_syntheticTimeline oldWorker e).asks.bind _ fun _ _ _ => trivial
  intro layout w _ _
  apply (consults_partitionNames oldWorker layout.topic).asks.bind _ fun _ _ _ => trivial
  intro partitions w _ _
  apply (consults_layOut newWorker e _ true).asks.bind _ fun _ _ _ => trivial
  intro topic w _ named
  exact ensures_newTimeline ⟨named rfl, rfl⟩

theorem ensures_firstPlan (first : w.store.active? e = none) : (plan e storageId).Ensures
    (fun s _ => s.active = none ∧ s.next.topic = e ∧
      w.workers.serving.contains s.next.storage.id = true) (fun _ _ => True) w := by
  apply asks_look.bind _ fun _ _ _ => trivial
  rintro found w - ⟨-, rfl⟩
  cases found with
  | none => exact ensures_bind (ensures_throw trivial)
  | some storage =>
    apply ensures_bind
    apply ensures_pure
    apply (consults_findEventType e).asks.bind _ fun _ _ _ => trivial
    rintro _ w - ⟨-, rfl⟩
    apply asks_look.bind _ fun _ _ _ => trivial
    rintro active w - ⟨rfl, rfl⟩
    rw [first]
    apply (asks_defaultStorage w).bind _ fun _ _ _ => trivial
    rintro oldStorage w - ⟨rfl, -⟩
    apply (consults_workerFor oldStorage).asks.bind _ fun _ _ _ => trivial
    rintro oldWorker w - ⟨-, rfl⟩
    apply (consults_workerFor storage).asks.bind _ fun _ _ _ => trivial
    rintro newWorker w - ⟨served, rfl⟩
    apply ensures_bind
    apply ensures_firstPrepare.mono
    · rintro t w' ⟨named, rfl⟩
      refine ensures_pure ⟨rfl, named, ?_⟩
      rw [Table.contains, served]
      rfl
    · exact fun _ _ _ => trivial

theorem ensures_firstSwitch (own : sync.Only World.Fencing) (first : w.store.active? e = none) :
    (switchTo sync e storageId).Ensures
      (fun t _ => t.topic = e ∧ w.workers.serving.contains t.storage.id = true)
      (fun _ _ => True) w := by
  rw [switchTo_eq]
  apply ensures_bind
  apply (ensures_firstPlan first).mono
  · rintro ⟨active, oldWorker, next⟩ w₁ ⟨absent, named, served⟩
    dsimp only at absent
    subst absent
    apply ensures_own own
    · exact fun _ _ _ _ => trivial
    · intro w₂ _
      apply ensures_bind
      apply ensures_bind
      apply ensures_look
      split
      · exact ensures_throw fun _ _ => trivial
      apply ensures_pure
      apply asks_look.bind _ fun _ _ _ _ _ => trivial
      rintro switchedAt w₃ - -
      apply ensures_bind
      apply ensures_pure
      apply ensures_bind
      apply ensures_writeStore
      · exact fun _ _ => ensures_pure fun _ _ => ⟨named, served⟩
      · exact fun _ _ _ _ => trivial
  · exact fun _ _ _ => trivial

end Timelines

theorem Store.isSome_put {s : Store} {id : Uuid} (stored : (s.timeline? id).isSome = true)
    (t : Timeline) : ((s.put t).timeline? id).isSome = true := by
  rw [timeline?, put, Table.get?_insert]
  split
  · rfl
  · exact stored

theorem ServiceCall.alone_switchTo (sync : TimelineSync World) (e storageId : String) (w : World) :
    (((ServiceCall.timelines (.switchTo e storageId)).under sync).alone w).2 =
      ((Timelines.switchTo sync e storageId).alone w).2 := by
  have call := Operation.alone_map (Timelines.switchTo sync e storageId) some w
  have asked := Operation.alone_map ((TimelineCall.switchTo e storageId).under sync) (fun _ => ()) w
  exact (congrArg Prod.snd asked).trans (congrArg Prod.snd call)

/-- A deletion as a call of the service, which succeeds just if the timeline is deleted. -/
theorem ServiceCall.alone_delete_ok {sync : TimelineSync World} {e : String} {id : Uuid}
    {w w' : World}
    (result : ((ServiceCall.timelines (.delete e id)).under sync).alone w = (.ok (), w')) :
    (Timelines.delete sync e id).alone w = (.ok (), w') := by
  have call :=
    Operation.alone_map (Timelines.delete sync e id) (fun _ => (none : Option Timeline)) w
  have asked := Operation.alone_map ((TimelineCall.delete e id).under sync) (fun _ => ()) w
  change ((TimelineCall.delete e id).under sync).alone w = _ at call
  rw [call] at asked
  have both := Prod.mk.inj (asked.symm.trans result)
  cases deleted : (Timelines.delete sync e id).alone w with
  | mk answer w₁ =>
    rw [deleted] at both
    cases answer with
    | error error => exact nomatch both.1
    | ok done => rw [← both.2]

/-- A stored timeline stays unless a call deletes it. -/
theorem ServiceCall.Writes.stays {w w₁ : World} {call : ServiceCall} {id : Uuid}
    (writes : call.Writes w w₁) (stored : (w.store.timeline? id).isSome = true)
    (spared : ∀ e, call ≠ .timelines (.delete e id)) :
    (w₁.store.timeline? id).isSome = true := by
  cases writes with
  | nothing => exact stored
  | create creates =>
    obtain ⟨_, _, rfl⟩ := Store.createTimeline_ok creates.created
    exact Store.isSome_put stored _
  | switch switches =>
    obtain ⟨position, committed⟩ := switches.committed
    obtain ⟨_, _, _, rfl⟩ := Store.commitSwitch_ok committed
    cases w.store.active? _ with
    | none => exact Store.isSome_put stored _
    | some a => exact Store.isSome_put (Store.isSome_put stored _) _
  | @delete e other t s deletable deleted =>
    obtain rfl := Store.deleteTimeline_ok deleted
    have apart : id ≠ other := by
      rintro rfl
      exact spared e rfl
    rw [Store.timeline?, ← Table.get?_erase_of_ne _ apart] at stored
    exact stored
  | register writes =>
    rw [Store.timeline?, ← writes.timelines] at stored
    exact stored

theorem World.Proceeds.stays {w w' : World} {sync : TimelineSync World} {id : Uuid}
    (proceeds : w.Proceeds sync w') (own : sync.Only World.Fencing) (keyed : w.store.Keyed)
    (stored : (w.store.timeline? id).isSome = true)
    (spared : ∀ e, (Timelines.delete sync e id).alone w ≠ (.ok (), w')) :
    (w'.store.timeline? id).isSome = true := by
  cases proceeds with
  | between between =>
    rw [Store.timeline?, ← between.timelines] at stored
    exact stored
  | call call =>
    have ensures := call.ensures own keyed
    cases result : (call.under sync).alone w with
    | mk answer w' =>
      cases answer with
      | error e =>
        rw [(ensures.of_error result).store]
        exact stored
      | ok done =>
        obtain ⟨w₁, writes, aged⟩ := ensures.of_ok result
        rw [aged.store]
        apply writes.stays stored
        rintro e rfl
        rw [result] at spared
        exact spared e (ServiceCall.alone_delete_ok result)

theorem ServiceCall.serving_eq {sync : TimelineSync World} {w : World}
    (own : sync.Only World.Fencing) (keyed : w.store.Keyed) (call : ServiceCall) :
    ((call.under sync).alone w).2.workers.serving = w.workers.serving := by
  have ensures := call.ensures own keyed
  cases result : (call.under sync).alone w with
  | mk answer w' =>
    cases answer with
    | error e => exact (ensures.of_error result).workers.serving
    | ok done =>
      obtain ⟨w₁, writes, aged⟩ := ensures.of_ok result
      rw [aged.workers.serving, writes.workers]

namespace History

variable {sync : TimelineSync World} {h : History sync} {m n : Nat} {e : String} {t : Timeline}
  {id : Uuid}

/-- In a turn a timeline is made, as the first one of a new event type or by a switch. -/
inductive Makes (h : History sync) (n : Nat) (e : String) (t : Timeline) : Prop where
  | first (made : (Timelines.createFirst e).alone (h.world n) = (.ok t, h.world (n + 1)))
  | switch {storageId : String} (made :
      (Timelines.switchTo sync e storageId).alone (h.world n) = (.ok t, h.world (n + 1)))

def Deletes (h : History sync) (n : Nat) (id : Uuid) : Prop :=
  ∃ e, (Timelines.delete sync e id).alone (h.world n) = (.ok (), h.world (n + 1))

/-- Between two times a timeline is not deleted. -/
def Spares (h : History sync) (id : Uuid) (m n : Nat) : Prop :=
  ∀ k, m ≤ k → k < n → ¬h.Deletes k id

/-- At most the storage with an id is ever marked as the default one. -/
def SoleDefault (h : History sync) (original : String) : Prop :=
  ∀ n, ∀ storage ∈ (h.world n).store.listStorages, storage.isDefault = true →
    storage.id = original

/-- A storage that has a worker keeps one; another worker can take the place of the first. -/
def Staffed (h : History sync) : Prop :=
  ∀ n id, (h.world n).workers.serving.contains id = true →
    (h.world (n + 1)).workers.serving.contains id = true

theorem Makes.stored (own : sync.Only World.Fencing) (makes : h.Makes n e t) :
    (h.world (n + 1)).store.timeline? t.id = some t := by
  cases makes with
  | first made =>
    obtain ⟨s, creates, aged⟩ := (Timelines.ensures_createFirst e (h.world n)).of_ok made
    obtain ⟨_, _, rfl⟩ := Store.createTimeline_ok creates.created
    rw [aged.store]
    exact Table.get?_insert_self ..
  | switch made => exact (switch_copies own (h.orderly_at own n) made).1

theorem Deletes.gone (own : sync.Only World.Fencing) (deletes : h.Deletes n id) :
    (h.world (n + 1)).store.timeline? id = none := by
  obtain ⟨e, made⟩ := deletes
  obtain ⟨t, s, -, deleted, aged⟩ :=
    (Timelines.ensures_delete own (h.keyed own n) e id).of_ok made
  obtain rfl := Store.deleteTimeline_ok deleted
  rw [aged.store]
  exact Table.get?_erase_self ..

theorem Spares.stored (own : sync.Only World.Fencing) (spares : h.Spares t.id m n)
    (later : m ≤ n) (before : (h.world m).store.timeline? t.id = some t) :
    ∃ position, (h.world n).store.timeline? t.id = some { t with lastPosition := position } := by
  induction later with
  | refl => exact ⟨t.lastPosition, before⟩
  | @step n later ih =>
    obtain ⟨position, stored⟩ := ih fun k after until' => spares k after (Nat.lt_succ_of_lt until')
    have stays : ((h.world (n + 1)).store.timeline? t.id).isSome = true := by
      apply (h.turns n).stays own (h.keyed own n) (Option.isSome_of_eq_some stored)
      exact fun e deleted => spares n later (Nat.lt_succ_self n) ⟨e, deleted⟩
    obtain ⟨u, stored'⟩ := Option.isSome_iff_exists.1 stays
    obtain ⟨call, w₁, writes, between⟩ := h.writes own n
    have written : w₁.store.timeline? t.id = some u := by
      rw [Store.timeline?, ← between.timelines]
      exact stored'
    have known := writes.keeps (h.keyed own n) (h.orderly_at own n) stored written
    refine ⟨u.lastPosition, ?_⟩
    rw [stored', known]

theorem Spares.stores (own : sync.Only World.Fencing) (spares : h.Spares t.id m n)
    (before : (h.world m).store.timeline? t.id = some t) : h.StoresTimeline t.id m n := by
  intro k after until'
  have shorter : h.Spares t.id m k := fun i since before' =>
    spares i since (Nat.lt_of_lt_of_le before' until')
  obtain ⟨position, stored⟩ := shorter.stored own after before
  exact Option.isSome_of_eq_some stored

theorem Staffed.served (staffed : h.Staffed) {id : String} (later : m ≤ n)
    (before : (h.world m).workers.serving.contains id = true) :
    (h.world n).workers.serving.contains id = true := by
  induction later with
  | refl => exact before
  | step later ih => exact staffed _ id ih

/-- If only one storage is ever the default one, a storage that is marked as such is it. -/
theorem SoleDefault.defaultStorage?_eq (own : sync.Only World.Fencing) {original : String}
    (sole : h.SoleDefault original) {storage : Storage}
    (there : (h.world n).store.storage? storage.id = some storage)
    (marked : storage.isDefault = true) : (h.world n).store.defaultStorage? = some storage := by
  have member : storage ∈ (h.world n).store.listStorages := Table.mem_values_iff.2 ⟨_, there⟩
  have found : ((h.world n).store.listStorages.find? (·.isDefault)).isSome = true :=
    List.find?_isSome.2 ⟨storage, member, marked⟩
  obtain ⟨d, default⟩ := Option.isSome_iff_exists.1 found
  have inside : d ∈ (h.world n).store.listStorages := List.mem_of_find?_eq_some default
  have same : d.id = storage.id := by
    rw [sole n d inside (List.find?_some default), sole n storage member marked]
  obtain ⟨id, stored⟩ := Table.mem_values_iff.1 inside
  have named : d.id = id := (h.orderly_at own n).storages id d stored
  rw [← named, same] at stored
  rw [Store.storage?, stored] at there
  rw [Store.defaultStorage?, default, Option.some.inj there]

/-- What a first switch has come to: its timeline takes over the topic of the event type's own name,
on the default storage, which has a worker. -/
theorem first_switch (own : sync.Only World.Fencing) {storageId : String} (first : t.order = 0)
    (made : (Timelines.switchTo sync e storageId).alone (h.world n) = (.ok t, h.world (n + 1))) :
    t.eventType = e ∧ t.topic = e ∧ t.storage.isDefault = true ∧
      (h.world n).workers.serving.contains t.storage.id = true := by
  have orderly := h.orderly_at own n
  obtain ⟨s, switches, -⟩ := (Timelines.ensures_switchTo own e storageId (h.world n)).of_ok made
  obtain ⟨storage, topic, found, home, known⟩ := switches.made
  have absent : (h.world n).store.active? e = none := by
    cases active : (h.world n).store.active? e with
    | none => rfl
    | some a =>
      rw [known, active] at first
      exact absurd first (Nat.succ_ne_zero a.order)
  obtain ⟨named, served⟩ := (Timelines.ensures_firstSwitch own absent).of_ok made
  obtain ⟨d, default, same⟩ := home absent
  have isDefault : storage = d := by
    obtain ⟨id, stored⟩ := Table.mem_values_iff.1 (List.mem_of_find?_eq_some default)
    rw [Store.storage?, ← orderly.storages storageId storage found, same,
      orderly.storages id d stored, stored] at found
    exact (Option.some.inj found).symm
  refine ⟨by rw [known]; rfl, named, ?_, served⟩
  rw [known]
  change storage.isDefault = true
  rw [isDefault]
  exact List.find?_some default

/-- What cursors mean in a history. -/
structure CursorsKept (h : History sync) : Prop where
  /-- A cursor that names a timeline that was made and not deleted means it, as it is stored. -/
  named : ∀ m n e t, m < n → h.Makes m e t → h.Spares t.id (m + 1) n →
    ∃ position, (h.world n).store.timeline? t.id = some { t with lastPosition := position } ∧
      ∀ partition offset,
        (Timelines.resolve e (.onTimeline partition t.id offset)).alone (h.world n) =
          (.ok { t with lastPosition := position }, h.world n)
  /-- While a first timeline is stored that a switch has made, a legacy cursor means its topic on
  its storage. -/
  legacy : ∀ m n e storageId t, m < n → t.order = 0 →
    (Timelines.switchTo sync e storageId).alone (h.world m) = (.ok t, h.world (m + 1)) →
      h.Spares t.id (m + 1) n → ∃ first, (h.world n).store.timeline? t.id = some first ∧
        first.order = 0 ∧ first.eventType = e ∧ ∀ partition offset, ∃ layout w',
          (Timelines.resolve e (.legacy partition offset)).alone (h.world n) = (.ok layout, w') ∧
            layout.fake = true ∧ layout.eventType = e ∧ layout.topic = first.topic ∧
              layout.storage.id = first.storage.id
  /-- To find out what a cursor means changes nothing that is stored. -/
  unchanged : ∀ n e cursor,
    ((Timelines.resolve e cursor).alone (h.world n)).2.store = (h.world n).store

theorem resolve_unchanged (e : String) (cursor : Cursor) (w : World) :
    ((Timelines.resolve e cursor).alone w).2.store = w.store := by
  have ensures := Timelines.ensures_resolve e cursor w
  cases result : (Timelines.resolve e cursor).alone w with
  | mk answer w' =>
    cases answer with
    | ok t => exact (ensures.of_ok result).store
    | error error => exact (ensures.of_error result).store

theorem named_kept (own : sync.Only World.Fencing) (later : m < n) (makes : h.Makes m e t)
    (spares : h.Spares t.id (m + 1) n) :
    ∃ position, (h.world n).store.timeline? t.id = some { t with lastPosition := position } ∧
      ∀ partition offset,
        (Timelines.resolve e (.onTimeline partition t.id offset)).alone (h.world n) =
          (.ok { t with lastPosition := position }, h.world n) := by
  obtain ⟨position, stored⟩ := spares.stored own later (makes.stored own)
  exact ⟨position, stored, fun partition offset => Timelines.resolve_onTimeline stored⟩

theorem legacy_kept (own : sync.Only World.Fencing) (staffed : h.Staffed) {original : String}
    (sole : h.SoleDefault original) {storageId : String} (later : m < n) (first : t.order = 0)
    (made : (Timelines.switchTo sync e storageId).alone (h.world m) = (.ok t, h.world (m + 1)))
    (spares : h.Spares t.id (m + 1) n) (partition offset : String) : ∃ layout w',
      (Timelines.resolve e (.legacy partition offset)).alone (h.world n) = (.ok layout, w') ∧
        layout.fake = true ∧ layout.eventType = e ∧ layout.topic = t.topic ∧
          layout.storage.id = t.storage.id := by
  obtain ⟨-, topic, marked, served⟩ := first_switch own first made
  obtain ⟨stored, there⟩ := switch_copies own (h.orderly_at own m) made
  have stores := spares.stores own stored
  -- The storage is frozen under the timeline, so that it is still the default one.
  obtain ⟨u, -, -, kept⟩ := h.records_kept own later stored there stores
  have default := sole.defaultStorage?_eq own kept marked
  have serving := staffed.served (Nat.le_of_lt later) served
  obtain ⟨number, serves⟩ := Option.isSome_iff_exists.1 serving
  obtain ⟨worker, registered, same⟩ := (h.orderly_at own n).serving _ number serves
  have resolved : (Timelines.resolve e (.legacy partition offset)).alone (h.world n) = _ :=
    Timelines.resolve_legacy default serves registered
  exact ⟨_, _, resolved, rfl, rfl, topic.symm, same⟩

/-- Cursors survive migrations: in every history in which one storage at most is ever the default
one, each cursor goes on meaning what it has meant, however often event types are switched. -/
theorem cursors_kept (own : sync.Only World.Fencing) (h : History sync) (staffed : h.Staffed)
    {original : String} (sole : h.SoleDefault original) : h.CursorsKept where
  named _ _ _ _ later makes spares := named_kept own later makes spares
  legacy _ _ _ _ t later first made spares := by
    obtain ⟨position, stored, -⟩ := named_kept own later (.switch made) spares
    refine ⟨_, stored, first, (first_switch own first made).1, fun partition offset => ?_⟩
    exact legacy_kept own staffed sole later first made spares partition offset
  unchanged n e cursor := resolve_unchanged e cursor (h.world n)

theorem ofCalls_world_succ {w : World} {calls : List ServiceCall}
    {empty : w.store.timelines = .empty} {orderly : w.Orderly} (more : n < calls.length) :
    (ofCalls sync w calls empty orderly).world (n + 1) =
      ((calls[n].under sync).alone ((ofCalls sync w calls empty orderly).world n)).2 := by
  simp only [ofCalls, List.take_succ_eq_append_getElem more, List.foldl_append, List.foldl_cons,
    List.foldl_nil]

theorem staffed_ofCalls (own : sync.Only World.Fencing) {w : World} {calls : List ServiceCall}
    {empty : w.store.timelines = .empty} {orderly : w.Orderly} :
    (ofCalls sync w calls empty orderly).Staffed := by
  intro n id served
  by_cases more : n < calls.length
  · rw [ofCalls_world_succ more, ServiceCall.serving_eq own (keyed own _ n)]
    exact served
  · rw [ofCalls_world_of_le (by omega)] at served ⊢
    exact served

/-- An event type is switched three times, away from the default storage and back to it, which can
be neither changed nor deleted meanwhile. -/
theorem cursors_kept_switched : ∃ h : History World.localSync,
    h.Staffed ∧ h.SoleDefault "default" ∧
      (h.world 5).store.timelines.values.map (·.storage.id) = ["default", "other", "default"] ∧
      (∃ t, t.order = 0 ∧ h.Spares t.id 1 5 ∧
        (Timelines.switchTo World.localSync "orders" "default").alone (h.world 0) =
          (.ok t, h.world 1)) ∧ h.CursorsKept := by
  let calls : List ServiceCall := [.timelines (.switchTo "orders" "default"),
    .timelines (.switchTo "orders" "other"), .registry (.delete "default"),
    .registry (.createOrUpdate ⟨"default", .inMemory, false⟩),
    .timelines (.switchTo "orders" "default")]
  let h := ofCalls World.localSync .unwritten calls rfl (World.orderly_ofStorages _ _ _)
  have staffed : h.Staffed := staffed_ofCalls World.fencing_localSync
  have sole : h.SoleDefault "default" := by
    have early : ∀ n ≤ 5, ∀ storage ∈ (h.world n).store.listStorages, storage.isDefault = true →
        storage.id = "default" := by decide +kernel
    intro n
    rcases Nat.le_total n 5 with before | after
    · exact early n before
    · have same : h.world n = h.world 5 := ofCalls_world_of_le after
      rw [same]
      exact early 5 (Nat.le_refl 5)
  have storages : (h.world 5).store.timelines.values.map (·.storage.id) =
      ["default", "other", "default"] := by decide +kernel
  have stored : ∀ k ≤ 5, 1 ≤ k →
      (h.world k).store.timelines.contains (h.world 0).ids.draw.1 = true := by decide +kernel
  have answer : (((Timelines.switchTo World.localSync "orders" "default").alone
      (h.world 0)).1.toOption.map fun t => (t.order, t.id)) =
        some (0, (h.world 0).ids.draw.1) := by decide +kernel
  have next : h.world 1 =
      ((Timelines.switchTo World.localSync "orders" "default").alone (h.world 0)).2 :=
    (ofCalls_world_succ (n := 0) (by decide)).trans (ServiceCall.alone_switchTo ..)
  obtain ⟨t, known, made⟩ := Operation.exists_of_alone_toOption answer next.symm
  obtain ⟨first, drawn⟩ := Prod.mk.inj known
  clear_value h
  refine ⟨h, staffed, sole, storages, ⟨t, first, fun k after before deletes => ?_, made⟩,
    cursors_kept World.fencing_localSync h staffed sole⟩
  have gone := deletes.gone World.fencing_localSync
  have there := stored (k + 1) before (by omega)
  rw [← drawn, Table.contains] at there
  exact absurd there (by rw [← Store.timeline?, gone]; decide)

end History

end Cutover
