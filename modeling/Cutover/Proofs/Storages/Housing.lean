import Cutover.Proofs.Operation.Upholds
import Cutover.Proofs.Timelines.Streams

set_option autoImplicit false

namespace Cutover

/-- A call of the registry or one that works on timelines. -/
inductive StorageCall where
  | timelines (call : TimelineCall)
  | createOrUpdate (storage : Storage)
  | ensureDefault (config : Config)
  | delete (id : String)

namespace StorageCall

def operation : StorageCall → Operation Unit
  | .timelines call => do
      let _ ← call.operation
  | .createOrUpdate storage => do
      let _ ← Registry.createOrUpdate storage
  | .ensureDefault config => do
      let _ ← Registry.ensureDefault config
  | .delete id => Registry.delete id

end StorageCall

/-- What calls may do for a time: whether they may make timelines, and which storages they may
delete. -/
structure Policy where
  makes : Prop
  deletes : String → Prop

namespace Policy

def Allows (p : Policy) : StorageCall → Prop
  | .timelines (.createFirst _) => p.makes
  | .timelines (.switchTo _ _) => p.makes
  | .timelines (.delete _ _) => True
  | .createOrUpdate _ => True
  | .ensureDefault _ => True
  | .delete id => p.deletes id

def Admits (p : Policy) (process : Process World (Except TimelineError Unit)) : Prop :=
  ∃ call, p.Allows call ∧ process = call.operation.run

end Policy

namespace World

/-- Storages are stored under their ids, and a worker that serves a storage is for it. -/
structure Orderly (w : World) : Prop where
  storages : ∀ id storage, w.store.storages.get? id = some storage → storage.id = id
  serving : ∀ id number, w.workers.serving.get? id = some number →
    ∃ worker, w.workers.get? number = some worker ∧ worker.storage.id = id

/-- A change of the world by others than the registry and the tasks on timelines: of fences, event
types and workers, of what makes calls fail, of the time, and of the source of ids. -/
structure Besides (w w' : World) : Prop where
  storages : w'.store.storages = w.store.storages
  timelines : w'.store.timelines = w.store.timelines
  workers : ∀ number worker, w.workers.get? number = some worker →
    ∃ worker', w'.workers.get? number = some worker' ∧ worker'.storage = worker.storage
  orderly : w.Orderly → w'.Orderly

def HasStorage (w : World) (id : String) : Prop := w.store.storages.contains id = true

instance (w : World) (id : String) : Decidable (w.HasStorage id) :=
  inferInstanceAs (Decidable (_ = true))

variable {w w' : World} {id : String} {storage : Storage}

theorem hasStorage_of_get? (found : w.store.storages.get? id = some storage) : w.HasStorage id := by
  rw [HasStorage, Table.contains, found]
  rfl

theorem Orderly.hasDefault (orderly : w.Orderly) (found : w.store.defaultStorage? = some storage) :
    w.HasStorage storage.id := by
  obtain ⟨id, stored⟩ := Table.mem_values_iff.1 (List.mem_of_find?_eq_some found)
  rw [orderly.storages id storage stored]
  exact hasStorage_of_get? stored

end World

namespace Store

variable {s s' : Store} {storage : Storage} {id : String}

theorem createStorage_ok (created : s.createStorage storage = .ok s') :
    s' = { s with storages := s.storages.insert storage.id storage } := by
  rw [createStorage] at created
  split at created
  · exact nomatch created
  · exact (Except.ok.inj created).symm

theorem updateStorage_ok (updated : s.updateStorage storage = .ok s') :
    s' = { s with storages := s.storages.insert storage.id storage } := by
  rw [updateStorage] at updated
  split at updated
  · exact (Except.ok.inj updated).symm
  · exact nomatch updated

theorem deleteStorage_ok (deleted : s.deleteStorage id = .ok s') :
    s' = { s with storages := s.storages.erase id } := by
  rw [deleteStorage] at deleted
  split at deleted
  · exact (Except.ok.inj deleted).symm
  · exact nomatch deleted

theorem mem_of_erase {t : Timeline} {id : Uuid}
    (inside : t ∈ { s with timelines := s.timelines.erase id }.timelines.values) :
    t ∈ s.timelines.values := by
  obtain ⟨key, kept⟩ := Table.mem_values_iff.1 inside
  apply Table.mem_values_iff.2
  use key
  by_cases same : key = id
  · rw [same, Table.get?_erase_self] at kept
    exact nomatch kept
  · exact (Table.get?_erase_of_ne _ same).symm.trans kept

end Store

namespace Policy

variable {p : Policy} {w w' : World} {id : String}

/-- A timeline's storage is there, except for one that may be deleted while timelines are made. -/
structure Holds (p : Policy) (w : World) : Prop where
  orderly : w.Orderly
  housed : ∀ t ∈ w.store.timelines.values,
    (p.makes ∧ p.deletes t.storage.id) ∨ w.HasStorage t.storage.id

/-- What can have happened to storages, timelines and workers. -/
structure Later (p : Policy) (w w' : World) : Prop where
  storages : ∀ id, ¬ p.deletes id → w.HasStorage id → w'.HasStorage id
  timelines : ¬ p.makes → ∀ t ∈ w'.store.timelines.values, t ∈ w.store.timelines.values
  workers : ∀ number worker, w.workers.get? number = some worker →
    ∃ worker', w'.workers.get? number = some worker' ∧ worker'.storage = worker.storage

theorem Later.refl (p : Policy) (w : World) : p.Later w w :=
  ⟨fun _ _ has => has, fun _ _ inside => inside, fun _ worker found => ⟨worker, found, rfl⟩⟩

theorem Later.trans {w'' : World} (first : p.Later w w') (second : p.Later w' w'') :
    p.Later w w'' where
  storages id kept has := second.storages id kept (first.storages id kept has)
  timelines unmade t inside := first.timelines unmade t (second.timelines unmade t inside)
  workers number worker found := by
    obtain ⟨worker', found', same'⟩ := first.workers number worker found
    obtain ⟨worker'', found'', same''⟩ := second.workers number worker' found'
    exact ⟨worker'', found'', same''.trans same'⟩

/-- Nothing has to be provided, and tasks own nothing. -/
def rules (p : Policy) : Rules World Empty where
  provided _ := True
  step := p.Later
  later := p.Later
  holds w _ := p.Holds w
  step_refl := .refl p
  later_trans := .trans
  later_of_step later := later

/-- A storage that is there, or that may be deleted at any time. -/
def Houses (p : Policy) (id : String) (w : World) : Prop := p.deletes id ∨ w.HasStorage id

theorem stable_houses (id : String) : p.rules.Stable (p.Houses id) := by
  rintro w w' later (deleted | has)
  · exact .inl deleted
  · by_cases deleted : p.deletes id
    · exact .inl deleted
    · exact .inr (later.storages id deleted has)

def Serves (number : Nat) (id : String) (w : World) : Prop :=
  ∃ worker, w.workers.get? number = some worker ∧ worker.storage.id = id

theorem stable_serves (number : Nat) (id : String) : p.rules.Stable (Serves number id) := by
  rintro w w' later ⟨worker, found, same⟩
  obtain ⟨worker', found', kept⟩ := later.workers number worker found
  exact ⟨worker', found', by rw [kept, same]⟩

/-- A storage that no timeline is on, nor will be while none are made. -/
def Unused (p : Policy) (id : String) (w : World) : Prop :=
  ¬ p.makes → ∀ t ∈ w.store.timelines.values, t.storage.id ≠ id

theorem stable_unused (id : String) : p.rules.Stable (p.Unused id) :=
  fun _ _ later unused unmade t inside => unused unmade t (later.timelines unmade t inside)

theorem harmless_of_store (store : w'.store = w.store) (extends' : w.workers.Extends w'.workers) :
    p.rules.Harmless w w' where
  provided _ := trivial
  keeps _ _ held := by
    refine ⟨⟨fun id _ has => ?_, fun _ t inside => ?_, fun number worker found => ?_⟩,
      ⟨⟨?_, fun id number served => ?_⟩, fun t inside => ?_⟩⟩
    · rw [World.HasStorage, store]
      exact has
    · rw [store] at inside
      exact inside
    · obtain ⟨worker', found', more⟩ := extends'.each number worker found
      exact ⟨worker', found', more.storage⟩
    · rw [store]
      exact held.orderly.storages
    · rw [extends'.serving] at served
      obtain ⟨worker, found, same⟩ := held.orderly.serving id number served
      obtain ⟨worker', found', more⟩ := extends'.each number worker found
      exact ⟨worker', found', by rw [more.storage, same]⟩
    · rw [World.HasStorage, store]
      rw [store] at inside
      exact held.housed t inside

theorem harmless_consulted (w w' : World) (consulted : w.Consulted w') : p.rules.Harmless w w' := by
  obtain ⟨workers, consulted, rfl⟩ := consulted
  exact harmless_of_store rfl consulted.extension

/-- A write of timelines, each of which was stored before or is on a storage that is there. -/
theorem moves_timelines {k : p.rules.Footing} {s : Store} (storages : s.storages = w.store.storages)
    (timelines : k.holds w → ∀ t ∈ s.timelines.values,
      t ∈ w.store.timelines.values ∨ (p.makes ∧ p.Houses t.storage.id w)) :
    p.rules.Moves k w k (w.withStore s) where
  provided _ := trivial
  moves _ others held known := by
    have same : ∀ id, (w.withStore s).HasStorage id ↔ w.HasStorage id := by
      intro id
      rw [World.HasStorage, World.HasStorage, World.withStore, storages]
    have later : p.Later w (w.withStore s) := by
      refine ⟨fun id _ has => (same id).2 has, fun unmade t inside => ?_,
        fun _ worker found => ⟨worker, found, rfl⟩⟩
      exact (timelines known t inside).resolve_right fun made => unmade made.1
    refine ⟨later, k.stable _ _ later known, ⟨⟨?_, held.orderly.serving⟩, fun t inside => ?_⟩⟩
    · change ∀ id storage, s.storages.get? id = some storage → storage.id = id
      rw [storages]
      exact held.orderly.storages
    · rw [same]
      rcases timelines known t inside with old | ⟨makes, deleted | has⟩
      · exact held.housed t old
      · exact .inl ⟨makes, deleted⟩
      · exact .inr has

theorem hasStorage_insert {s : Storage} {other : String}
    (has : w.HasStorage other) : (w.withStore { w.store with
      storages := w.store.storages.insert s.id s }).HasStorage other := by
  by_cases same : other = s.id
  · subst same
    exact World.hasStorage_of_get? (Table.get?_insert_self ..)
  · obtain ⟨storage, found⟩ := Option.isSome_iff_exists.1 has
    exact World.hasStorage_of_get? ((Table.get?_insert_of_ne _ _ same).trans found)

theorem harmless_insert (s : Storage) : p.rules.Harmless w (w.withStore { w.store with
    storages := w.store.storages.insert s.id s }) where
  provided _ := trivial
  keeps _ _ held := by
    refine ⟨⟨fun _ _ has => hasStorage_insert has, fun _ _ inside => inside,
      fun _ worker found => ⟨worker, found, rfl⟩⟩, ⟨⟨fun id storage found => ?_,
        held.orderly.serving⟩, fun t inside => (held.housed t inside).imp_right hasStorage_insert⟩⟩
    by_cases same : id = s.id
    · subst same
      rw [World.withStore, Table.get?_insert_self] at found
      rw [← Option.some_inj.1 found]
    · rw [World.withStore, Table.get?_insert_of_ne _ _ same] at found
      exact held.orderly.storages id storage found

theorem hasStorage_erase {other : String} (apart : other ≠ id) (has : w.HasStorage other) :
    (w.withStore { w.store with storages := w.store.storages.erase id }).HasStorage other := by
  obtain ⟨storage, found⟩ := Option.isSome_iff_exists.1 has
  exact World.hasStorage_of_get? ((Table.get?_erase_of_ne _ apart).trans found)

/-- A storage that may be deleted goes; if no timelines are made, none is on it. -/
theorem moves_erase {k : p.rules.Footing} (deleted : p.deletes id)
    (unused : k.holds w → p.Unused id w) :
    p.rules.Moves k w k (w.withStore { w.store with storages := w.store.storages.erase id }) where
  provided _ := trivial
  moves _ others held known := by
    have later : p.Later w
        (w.withStore { w.store with storages := w.store.storages.erase id }) := by
      refine ⟨fun other kept has => hasStorage_erase ?_ has, fun _ _ inside => inside,
        fun _ worker found => ⟨worker, found, rfl⟩⟩
      rintro rfl
      exact kept deleted
    refine ⟨later, k.stable _ _ later known, ⟨⟨fun other storage found => ?_, held.orderly.serving⟩,
      fun t inside => ?_⟩⟩
    · by_cases same : other = id
      · rw [same, World.withStore, Table.get?_erase_self] at found
        exact nomatch found
      · rw [World.withStore, Table.get?_erase_of_ne _ same] at found
        exact held.orderly.storages other storage found
    · by_cases same : t.storage.id = id
      · by_cases makes : p.makes
        · exact .inl ⟨makes, same ▸ deleted⟩
        · exact absurd same (unused known makes t inside)
      · exact (held.housed t inside).imp_right (hasStorage_erase same)

theorem keeps_besides (besides : w.Besides w') (held : p.Holds w) : p.Later w w' ∧ p.Holds w' := by
  have same : ∀ id, w'.HasStorage id ↔ w.HasStorage id := by
    intro id
    rw [World.HasStorage, World.HasStorage, besides.storages]
  refine ⟨⟨fun id _ has => (same id).2 has, fun _ t inside => ?_, besides.workers⟩,
    ⟨besides.orderly held.orderly, fun t inside => ?_⟩⟩
  · exact besides.timelines ▸ inside
  · rw [same]
    exact held.housed t (besides.timelines ▸ inside)

end Policy

end Cutover
