import Cutover.Proofs.Storages.Housing
import Cutover.Proofs.Timelines.Stages

set_option autoImplicit false

namespace Cutover

open Operation

variable {p : Policy} {k : p.rules.Footing}

namespace Registry

theorem upholds_defaultStorage {done : Storage → p.rules.Footing → Prop}
    (held : ∀ storage (k' : p.rules.Footing), k'.Firmer k → k'.Grants (p.Houses storage.id) →
      done storage k') :
    defaultStorage.Upholds p.rules done (fun _ _ => True) k := by
  apply upholds_bind
  apply upholds_look fun found w => ∀ storage, found = some storage → p.Houses storage.id w
  · exact fun found => .all fun storage => .imp (Policy.stable_houses _)
  · intro w others _ held _ storage found
    exact .inr (held.orderly.hasDefault found)
  · intro found k' learns
    cases found with
    | none => exact upholds_throw trivial
    | some storage =>
      apply upholds_pure
      exact held storage k' learns.firmer fun w known => learns.grants w known storage rfl

theorem upholds_ensureUnused {id : String} {done : Unit → p.rules.Footing → Prop}
    (held : ∀ k' : p.rules.Footing, k'.Grants (p.Unused id) → done () k') :
    (ensureUnused id).Upholds p.rules done (fun _ _ => True) k := by
  apply upholds_bind
  apply upholds_look fun listed w => listed = [] → p.Unused id w
  · exact fun listed => .imp (Policy.stable_unused id)
  · intro w others _ _ _ empty _ t inside same
    have admitted : (TimelineFilter.ofStorage id).admits t = true := by
      simp [TimelineFilter.admits, TimelineFilter.ofStorage, same]
    have member : t ∈ w.store.listTimelines (.ofStorage id) :=
      Timeline.mem_listing.2 ⟨inside, admitted⟩
    rw [empty] at member
    exact absurd member List.not_mem_nil
  · intro listed k' learns
    split
    · exact upholds_throw trivial
    · next empty => exact held k' fun w known => learns.grants w known (not_not.1 empty)

theorem obeys_createOrUpdate (storage : Storage) :
    (createOrUpdate storage).Obeys p.rules k := by
  apply upholds_bind
  apply upholds_glance
  intro found
  cases found with
  | some existing =>
    apply upholds_check fun _ => trivial
    intro _
    apply upholds_bind
    apply upholds_ensureUnused
    intro k' _
    apply upholds_bind
    apply upholds_write (fun w s updated => ?_) (upholds_pure trivial) fun _ => trivial
    obtain rfl := Store.updateStorage_ok updated
    exact (Policy.harmless_insert storage).moves k'
  | none =>
    apply upholds_bind
    apply upholds_write (fun w s created => ?_) (upholds_pure trivial) fun _ => trivial
    obtain rfl := Store.createStorage_ok created
    exact (Policy.harmless_insert storage).moves k

theorem obeys_ensureDefault (config : Config) : (ensureDefault config).Obeys p.rules k := by
  apply upholds_bind
  apply upholds_glance
  intro found
  cases found with
  | some storage => exact upholds_pure trivial
  | none =>
    dsimp only
    split
    · exact upholds_throw trivial
    · split
      · exact upholds_throw trivial
      · exact obeys_createOrUpdate _

theorem obeys_delete {id : String} (deleted : p.deletes id) : (delete id).Obeys p.rules k := by
  apply upholds_bind
  apply upholds_glance
  intro found
  cases found with
  | none => exact upholds_pure trivial
  | some existing =>
    apply upholds_bind
    apply upholds_ensureUnused
    intro k' unused
    apply upholds_write (fun w s erased => ?_) trivial fun _ => trivial
    obtain rfl := Store.deleteStorage_ok erased
    exact Policy.moves_erase deleted (unused w)

end Registry

namespace Timelines

theorem upholds_workerFor {storage : Storage} {done : Nat → p.rules.Footing → Prop}
    (housed : k.Grants (p.Houses storage.id))
    (held : ∀ number (k' : p.rules.Footing), k'.Grants (p.Houses storage.id) →
      k'.Grants (Policy.Serves number storage.id) → done number k') :
    (workerFor storage).Upholds p.rules done (fun _ _ => True) k := by
  refine (consults_workerFor storage).upholds Policy.harmless_consulted
    (fun number w => Policy.Serves number storage.id w) (fun _ _ => True)
    (fun number => Policy.stable_serves number _) (fun _ => Rules.stable_const _) ?_
    (fun _ _ _ _ _ _ => trivial) (fun number k' learns => ?_) fun _ _ _ => trivial
  · rintro w number w' others held - - ⟨served, rfl⟩
    exact held.orderly.serving _ number served
  · exact held number k' (housed.firmer learns.firmer) learns.grants

theorem upholds_storageOf {number : Nat} {id : String} {done : Storage → p.rules.Footing → Prop}
    (serves : k.Grants (Policy.Serves number id))
    (held : ∀ storage (k' : p.rules.Footing), k'.Firmer k →
      k'.Grants (fun _ => storage.id = id) → done storage k') :
    (storageOf number).Upholds p.rules done (fun _ _ => True) k := by
  refine (consults_storageOf number).upholds Policy.harmless_consulted
    (fun storage _ => storage.id = id) (fun _ _ => True) (fun _ => Rules.stable_const _)
    (fun _ => Rules.stable_const _) ?_ (fun _ _ _ _ _ _ => trivial) (fun storage k' learns => ?_)
    fun _ _ _ => trivial
  · rintro w storage w' others - known - ⟨worker, found, rfl⟩
    obtain ⟨same, found', served⟩ := serves w known
    obtain rfl := Option.some_inj.1 (found.symm.trans found')
    exact served
  · exact held storage k' learns.firmer learns.grants

theorem upholds_draw {e topic : String} {order : Nat} {storage : Storage}
    {done : Timeline → p.rules.Footing → Prop} (held : ∀ t, t.storage = storage → done t k) :
    (newTimeline e order storage topic).Upholds p.rules done (fun _ _ => True) k := by
  apply upholds_newTimeline
  intro w
  have harmless : p.rules.Harmless w { w with ids := w.ids.draw.2 } :=
    Policy.harmless_of_store rfl (.refl w.workers)
  exact ⟨k, harmless.moves k, held _ rfl⟩

theorem obeys_createFirst (makes : p.makes) (e : String) : (createFirst e).Obeys p.rules k := by
  apply upholds_bind
  apply upholds_bind
  apply Registry.upholds_defaultStorage
  intro storage k₁ _ housed
  apply upholds_workerFor housed
  intro number k₂ housed serves
  apply upholds_bind
  apply (consults_layOut number e none false).upholds_quietly Policy.harmless_consulted _
    fun _ => trivial
  intro topic
  apply upholds_bind
  apply upholds_storageOf serves
  intro storage' k₃ firmer same
  apply upholds_bind
  apply upholds_draw
  intro t placed
  apply upholds_bind
  apply upholds_write (fun w s created => ?_) (upholds_pure trivial) fun _ => trivial
  obtain ⟨_, _, rfl⟩ := Store.createTimeline_ok created
  refine Policy.moves_timelines rfl fun known u inside => ?_
  rcases Store.mem_of_put inside with rfl | old
  · refine .inr ⟨makes, ?_⟩
    show p.Houses t.storage.id w
    rw [placed, same w known]
    exact housed.firmer firmer w known
  · exact .inl old

theorem upholds_prepare {e : String} {storage oldStorage : Storage} {active : Option Timeline}
    {oldWorker newWorker : Nat} {done : Timeline → p.rules.Footing → Prop}
    (held : ∀ t, t.storage = storage → done t k) :
    (prepare e storage active oldStorage oldWorker newWorker).Upholds p.rules done
      (fun _ _ => True) k := by
  cases active with
  | none =>
    rw [prepare]
    apply upholds_check fun _ => trivial
    intro _
    apply upholds_bind
    apply (consults_syntheticTimeline oldWorker e).upholds_quietly Policy.harmless_consulted _
      fun _ => trivial
    intro layout
    apply upholds_bind
    apply (consults_partitionNames oldWorker _).upholds_quietly Policy.harmless_consulted _
      fun _ => trivial
    intro partitions
    apply upholds_bind
    apply (consults_layOut newWorker e _ true).upholds_quietly Policy.harmless_consulted _
      fun _ => trivial
    intro topic
    exact upholds_draw held
  | some current =>
    apply upholds_bind
    apply (consults_partitionNames oldWorker _).upholds_quietly Policy.harmless_consulted _
      fun _ => trivial
    intro partitions
    apply upholds_bind
    apply (consults_layOut newWorker e _ false).upholds_quietly Policy.harmless_consulted _
      fun _ => trivial
    intro topic
    exact upholds_draw held

/-- What a switch can take for granted of the storages it has read. -/
def Housed (p : Policy) (s : Switch) (w : World) : Prop :=
  p.Houses s.next.storage.id w ∧ ∀ a, s.active = some a → p.Houses a.storage.id w

theorem upholds_relocate {e : String} {storage oldStorage : Storage} {active : Option Timeline}
    {oldWorker : Nat} (housed : k.Grants (p.Houses storage.id))
    (seen : k.Grants fun w => ∀ a, active = some a → p.Houses a.storage.id w) :
    (do
      let newWorker ← workerFor storage
      let next ← prepare e storage active oldStorage oldWorker newWorker
      return (⟨active, oldWorker, next⟩ : Switch)).Upholds p.rules
      (fun s k' => k'.Grants (Housed p s)) (fun _ _ => True) k := by
  apply upholds_bind
  apply (consults_workerFor storage).upholds_quietly Policy.harmless_consulted _ fun _ => trivial
  intro newWorker
  apply upholds_bind
  apply upholds_prepare
  intro t placed
  apply upholds_pure
  intro w known
  refine ⟨?_, seen w known⟩
  show p.Houses t.storage.id w
  rw [placed]
  exact housed w known

theorem upholds_plan (e storageId : String) : (plan e storageId).Upholds p.rules
    (fun s k' => k'.Grants (Housed p s)) (fun _ _ => True) k := by
  apply upholds_bind
  apply upholds_look fun found w => ∀ storage, found = some storage → p.Houses storage.id w
  · exact fun found => .all fun storage => .imp (Policy.stable_houses _)
  · intro w others _ held _ storage found
    rw [held.orderly.storages storageId storage found]
    exact .inr (World.hasStorage_of_get? found)
  intro found k₁ read
  cases found with
  | none => exact upholds_bind (upholds_throw trivial)
  | some storage =>
    apply upholds_bind
    apply upholds_pure
    apply upholds_bind
    apply (consults_findEventType e).upholds_quietly Policy.harmless_consulted _ fun _ => trivial
    intro _
    apply upholds_bind
    apply upholds_look fun active w => ∀ a, active = some a → p.Houses a.storage.id w
    · exact fun active => .all fun a => .imp (Policy.stable_houses _)
    · intro w others _ held _ a active
      exact (held.housed a (Store.active_spec active).1).imp_left And.right
    intro active k₂ seen
    have housed : k₂.Grants (p.Houses storage.id) := fun w known =>
      read.grants w (seen.firmer w known) storage rfl
    cases active with
    | none =>
      apply upholds_bind
      apply Registry.upholds_defaultStorage
      intro oldStorage k₃ firmer _
      apply upholds_bind
      apply (consults_workerFor _).upholds_quietly Policy.harmless_consulted _ fun _ => trivial
      exact fun oldWorker => upholds_relocate (housed.firmer firmer) fun _ _ => nofun
    | some previous =>
      apply upholds_bind
      apply upholds_pure
      apply upholds_bind
      apply (consults_workerFor _).upholds_quietly Policy.harmless_consulted _ fun _ => trivial
      exact fun oldWorker => upholds_relocate housed seen.grants

theorem obeys_commitSwitch {s : Switch} (superseded : Option Timeline) {switchedAt : Timestamp}
    (makes : p.makes) (housed : k.Grants (Housed p s))
    (same : superseded.map (·.storage) = s.active.map (·.storage)) :
    (writeStore (·.commitSwitch superseded { s.next with switchedAt := some switchedAt })).Obeys
      p.rules k := by
  apply upholds_write (fun w store committed => ?_) trivial fun _ => trivial
  obtain ⟨_, _, _, rfl⟩ := Store.commitSwitch_ok committed
  cases superseded with
  | none =>
    refine Policy.moves_timelines rfl fun known t inside => ?_
    rcases Store.mem_of_put inside with rfl | old
    · exact .inr ⟨makes, (housed w known).1⟩
    · exact .inl old
  | some previous =>
    refine Policy.moves_timelines rfl fun known t inside => ?_
    rcases Store.mem_of_put inside with rfl | inside
    · exact .inr ⟨makes, (housed w known).1⟩
    rcases Store.mem_of_put inside with rfl | old
    · obtain ⟨a, active, storage⟩ := Option.map_eq_some_iff.1 same.symm
      have seen := (housed w known).2 a active
      rw [show a.storage = t.storage from storage] at seen
      exact .inr ⟨makes, seen⟩
    · exact .inl old

theorem obeys_commit {s : Switch} {e : String} (makes : p.makes)
    (housed : k.Grants (Housed p s)) : (commit e s.active s.worker s.next).Obeys p.rules k := by
  obtain ⟨active, worker, next⟩ := s
  apply upholds_bind
  apply upholds_bind
  apply upholds_glance
  intro current
  split
  · exact upholds_throw trivial
  apply upholds_bind
  apply upholds_glance
  intro switchedAt
  apply upholds_bind
  cases active with
  | none =>
    apply upholds_pure
    exact (obeys_commitSwitch (s := ⟨none, worker, next⟩) none makes housed rfl).map
  | some previous =>
    apply upholds_bind
    apply (consults_latestPosition worker previous).upholds_quietly Policy.harmless_consulted _
      fun _ => trivial
    intro position
    apply upholds_pure
    exact (obeys_commitSwitch (s := ⟨some previous, worker, next⟩)
      (some { previous with lastPosition := some position }) makes housed rfl).map

theorem only_localSync :
    World.localSync.Only fun w w' => ∃ fences, w' = w.withFences fences := fun _ _ =>
  ⟨Process.only_within _, Process.only_within _⟩

theorem obeys_local {α : Type} {op : Operation α} {e : String} {limit : Duration}
    (obeys : op.Obeys p.rules k) : (fenced World.localSync e limit op).Obeys p.rules k := by
  apply upholds_fenced only_localSync _ (fun _ => trivial) obeys
  rintro w _ ⟨fences, rfl⟩
  exact Policy.harmless_of_store rfl (.refl w.workers)

theorem obeys_switchTo (makes : p.makes) (e storageId : String) :
    (switchTo World.localSync e storageId).Obeys p.rules k := by
  rw [switchTo_eq]
  apply upholds_bind
  apply (upholds_plan e storageId).mono _ fun _ _ _ => trivial
  exact fun s k' housed => obeys_local (obeys_commit makes housed)

theorem obeys_delete (e : String) (id : Uuid) :
    (delete World.localSync e id).Obeys p.rules k := by
  apply upholds_bind
  apply upholds_glance
  intro found
  cases found with
  | none => exact upholds_bind (upholds_throw trivial)
  | some t =>
    apply upholds_bind
    apply upholds_pure
    apply upholds_check fun _ => trivial
    intro _
    apply upholds_check fun _ => trivial
    intro _
    apply upholds_bind
    apply upholds_glance
    intro active
    apply upholds_check fun _ => trivial
    intro _
    apply obeys_local
    apply upholds_bind
    apply upholds_glance
    intro current
    apply upholds_check fun _ => trivial
    intro _
    apply upholds_write (fun w s deleted => ?_) trivial fun _ => trivial
    obtain rfl := Store.deleteTimeline_ok deleted
    exact Policy.moves_timelines rfl fun _ u inside => .inl (Store.mem_of_erase inside)

end Timelines

theorem StorageCall.obeys (call : StorageCall) (allowed : p.Allows call) :
    call.operation.Obeys p.rules k := by
  cases call with
  | timelines call =>
    cases call with
    | createFirst e => exact (Timelines.obeys_createFirst allowed e).map.map
    | switchTo e id => exact (Timelines.obeys_switchTo allowed e id).map.map
    | delete e id => exact (Timelines.obeys_delete e id).map.map
  | createOrUpdate storage => exact (Registry.obeys_createOrUpdate storage).map
  | ensureDefault config => exact (Registry.obeys_ensureDefault config).map
  | delete id => exact Registry.obeys_delete allowed

namespace Policy

variable {w w' : World}

/-- While a policy is in force, its rules hold of whatever calls come to. -/
theorem holds_reaches {pool : Pool World (Except TimelineError Unit)} (start : p.Holds w)
    (reached : Pool.Reaches p.Admits World.Besides (.empty w) pool) : p.Holds pool.state := by
  have calls : ∀ process, p.Admits process →
      p.rules.Upholds process (fun _ _ => True) .nothing := by
    rintro process ⟨call, allowed, rfl⟩
    refine Rules.Upholds.mono (call.obeys allowed) ?_
    rintro (e | a) k held
    · trivial
    · trivial
  obtain ⟨_, _, _, _, upheld⟩ := p.rules.upheld_reaches (fun _ => start) calls
    (fun w w' besides => ⟨fun _ => trivial, fun _ _ held => keeps_besides besides held⟩) reached
  exact (upheld trivial).holds

end Policy

namespace World

/-- Every timeline is on a storage that is there. -/
structure Housed (w : World) : Prop where
  orderly : w.Orderly
  housed : ∀ t ∈ w.store.timelines.values, w.HasStorage t.storage.id

/-- A time in which no storage is deleted or no timeline is made. Calls interleave in any way, and
what is still under way at its end is cut off there. -/
def Phase (w w' : World) : Prop :=
  ∃ (p : Policy) (pool : Pool World (Except TimelineError Unit)),
    (p.makes → ∀ id, ¬ p.deletes id) ∧ Pool.Reaches p.Admits Besides (.empty w) pool ∧
      pool.state = w'

variable {w w' : World}

theorem Housed.phase (housed : w.Housed) (phase : w.Phase w') : w'.Housed := by
  obtain ⟨p, pool, apart, reached, rfl⟩ := phase
  have kept := Policy.holds_reaches
    ⟨housed.orderly, fun t inside => .inr (housed.housed t inside)⟩ reached
  refine ⟨kept.orderly, fun t inside => ?_⟩
  exact (kept.housed t inside).resolve_left fun both => apart both.1 _ both.2

end World

/-- Whatever calls come to that start without timelines: if storages are never deleted at a time in
which timelines are made, every timeline is on a storage that is there. -/
theorem storages_kept {w w' : World} (none : w.store.timelines = .empty) (orderly : w.Orderly)
    (phases : Relation.ReflTransGen World.Phase w w') :
    ∀ t ∈ w'.store.timelines.values, w'.HasStorage t.storage.id := by
  have start : w.Housed := by
    refine ⟨orderly, fun t inside => ?_⟩
    rw [none] at inside
    exact nomatch (inside : t ∈ [])
  have kept : w'.Housed := by
    induction phases with
    | refl => exact start
    | tail _ phase ih => exact ih.phase phase
  exact kept.housed

theorem World.orderly_ofStorages (first second : Storage) (e : String) :
    (World.ofStorages first second e).Orderly where
  storages id storage found := by
    by_cases other : id = second.id
    · rw [World.ofStorages, other, Table.get?_insert_self] at found
      rw [← Option.some_inj.1 found, other]
    rw [World.ofStorages, Table.get?_insert_of_ne _ _ other, Store.withDefault] at found
    by_cases default : id = first.id
    · rw [default, Table.get?_insert_self] at found
      rw [← Option.some_inj.1 found, default]
      rfl
    · rw [Table.get?_insert_of_ne _ _ default] at found
      exact nomatch found
  serving id number served := by
    rw [World.ofStorages, Workers.register] at served
    by_cases other : id = second.id
    · rw [other, Table.get?_insert_self] at served
      obtain rfl := Option.some_inj.1 served
      exact ⟨_, rfl, other.symm⟩
    rw [Table.get?_insert_of_ne _ _ other, World.ofStorage, Workers.register] at served
    by_cases default : id = first.id
    · rw [default, Table.get?_insert_self] at served
      obtain rfl := Option.some_inj.1 served
      exact ⟨_, rfl, default.symm⟩
    · rw [Table.get?_insert_of_ne _ _ default] at served
      exact nomatch served

namespace StorageCall

def IsCall (process : Process World (Except TimelineError Unit)) : Prop :=
  ∃ call : StorageCall, process = call.operation.run

end StorageCall

def World.unwritten : World :=
  .ofStorages ⟨"default", .inMemory, true⟩ ⟨"other", .inMemory, false⟩ "orders"

/-- A first timeline is made; then the storage that it is not on is deleted. -/
theorem storages_kept_deleted : ∃ w w' : World, w.store.timelines = .empty ∧ w.Orderly ∧
    Relation.ReflTransGen World.Phase w w' ∧ ¬ w'.HasStorage "other" ∧
      (w'.store.active? "orders").isSome ∧
      ∀ t ∈ w'.store.timelines.values, w'.HasStorage t.storage.id := by
  let create : StorageCall := .timelines (.createFirst "orders")
  let delete : StorageCall := .delete "other"
  let making := Pool.begun World.unwritten [create.operation.run] (List.replicate 6 (.call 0))
  let deleting := Pool.begun making.state [delete.operation.run] (List.replicate 3 (.call 0))
  have orderly : World.unwritten.Orderly := World.orderly_ofStorages _ _ _
  have first : World.unwritten.Phase making.state := by
    refine ⟨⟨True, fun _ => False⟩, making, fun _ _ => id, Pool.reaches_begun ?_ _, rfl⟩
    exact List.forall_mem_singleton.2 ⟨create, trivial, rfl⟩
  have second : making.state.Phase deleting.state := by
    refine ⟨⟨False, fun _ => True⟩, deleting, False.elim, Pool.reaches_begun ?_ _, rfl⟩
    exact List.forall_mem_singleton.2 ⟨delete, trivial, rfl⟩
  have phases := (Relation.ReflTransGen.single first).tail second
  exact ⟨.unwritten, deleting.state, rfl, orderly, phases, by decide +kernel, by decide +kernel,
    storages_kept rfl orderly phases⟩

/-- A switch reads its storage and asks for its fence; the storage is deleted, as no timeline is on
it; the switch goes on and is committed. -/
def StorageCall.deletedWhileWaiting : Pool World (Except TimelineError Unit) :=
  let calls : List StorageCall :=
    [.timelines (.createFirst "orders"), .timelines (.switchTo "orders" "other"), .delete "other"]
  .begun .unwritten (calls.map fun call => call.operation.run)
    (List.replicate 6 (.call 0) ++ List.replicate 9 (.call 1) ++ List.replicate 3 (.call 2) ++
      List.replicate 5 (.call 1))

/-- A storage that is deleted while a switch to it waits for its fence receives the new timeline. -/
theorem storage_deleted_under_switch :
    World.unwritten.store.timelines = .empty ∧ World.unwritten.Orderly ∧
      Pool.Reaches StorageCall.IsCall World.Besides (.empty .unwritten)
        StorageCall.deletedWhileWaiting ∧
      ∃ t ∈ StorageCall.deletedWhileWaiting.state.store.timelines.values,
        ¬ StorageCall.deletedWhileWaiting.state.HasStorage t.storage.id := by
  refine ⟨rfl, World.orderly_ofStorages _ _ _, Pool.reaches_begun (fun p called => ?_) _, ?_⟩
  · obtain ⟨call, _, rfl⟩ := List.mem_map.1 called
    exact ⟨call, rfl⟩
  · decide +kernel

end Cutover
