import Cutover.Proofs.Storages.Records

set_option autoImplicit false

namespace Cutover

namespace DefaultStorage

/-- The storage that a definition describes: of its id and type, reached as it says, and marked as
the default one. -/
inductive Describes (d : DefaultStorage) : Storage → Prop where
  | inMemory (type : d.type = .inMemory) : Describes d ⟨d.id, .inMemory, true⟩
  | kafka {text : String} {connection : Connection} (type : d.type = .kafka)
      (given : d.zookeeper = some text) (read : Connection.parse text = .ok connection) :
      Describes d ⟨d.id, .kafka connection, true⟩

variable {d : DefaultStorage} {storage : Storage}

theorem toStorage_ok_iff : d.toStorage = .ok storage ↔ d.Describes storage := by
  constructor
  · intro made
    rw [toStorage] at made
    split at made
    · next type =>
      rw [← Except.ok.inj made]
      exact .inMemory type
    · next type =>
      split at made
      · cases made
      · next text given =>
        split at made
        · cases made
        · next connection read =>
          rw [← Except.ok.inj made]
          exact .kafka type given read
  · intro describes
    cases describes with
    | inMemory type =>
      rw [toStorage, type]
      rfl
    | kafka type given read =>
      rw [toStorage, type, given]
      dsimp only
      rw [read]
      rfl

theorem Describes.id_eq (describes : d.Describes storage) : storage.id = d.id := by
  cases describes with
  | inMemory => rfl
  | kafka => rfl

theorem Describes.isDefault (describes : d.Describes storage) : storage.isDefault = true := by
  cases describes with
  | inMemory => rfl
  | kafka => rfl

end DefaultStorage

namespace Store

variable {s : Store} {storage : Storage}

/-- A default storage that is put where there is none is the one that is found. -/
theorem defaultStorage?_withStorage (none : s.defaultStorage? = none)
    (marked : storage.isDefault = true) :
    (s.withStorage storage).defaultStorage? = some storage := by
  have member : storage ∈ (s.withStorage storage).listStorages :=
    Table.mem_values_iff.2 ⟨_, storage?_withStorage s storage⟩
  have found : ((s.withStorage storage).listStorages.find? (·.isDefault)).isSome = true :=
    List.find?_isSome.2 ⟨storage, member, marked⟩
  obtain ⟨d, default⟩ := Option.isSome_iff_exists.1 found
  rw [defaultStorage?, default]
  obtain ⟨id, there⟩ := Table.mem_values_iff.1 (List.mem_of_find?_eq_some default)
  by_cases same : id = storage.id
  · subst same
    exact there.symm.trans (storage?_withStorage s storage)
  · have before : d ∈ s.listStorages :=
      Table.mem_values_iff.2 ⟨id, (storage?_withStorage_of_ne same).symm.trans there⟩
    exact absurd (List.find?_some default) (List.find?_eq_none.1 none d before)

end Store

namespace Registry

open Operation

/-- Why no default storage can be made from a configuration. -/
inductive Hinders (config : Config) (s : Store) : TimelineError → Prop where
  | missing (missing : config.defaultStorage = none) : Hinders config s .noDefaultStorage
  | unconvertible {d : DefaultStorage} {e : ConfigError} (defined : config.defaultStorage = some d)
      (refused : d.toStorage = .error e) : Hinders config s (.invalidConfiguration e.message)
  | otherType {d : DefaultStorage} {storage existing : Storage}
      (defined : config.defaultStorage = some d) (describes : d.Describes storage)
      (there : s.storage? d.id = some existing) (other : existing.type ≠ storage.type) :
      Hinders config s (.storageTypeChange d.id)
  | referenced {d : DefaultStorage} {storage existing : Storage} {t : Timeline}
      (defined : config.defaultStorage = some d) (describes : d.Describes storage)
      (there : s.storage? d.id = some existing) (inside : t ∈ s.timelines.values)
      (placed : t.storage.id = d.id) : Hinders config s (.storageInUse d.id)

/-- What it comes to that a default storage has been made sure of. -/
structure Settled (config : Config) (w : World) (storage : Storage) (w' : World) : Prop where
  reported : defaultStorage.alone w' = (.ok storage, w')
  stored : ∀ d, w.store.defaultStorage? = some d → storage = d ∧ w' = w
  made : w.store.defaultStorage? = none →
    ∃ d, config.defaultStorage = some d ∧ d.Describes storage ∧
      w'.store.storage? storage.id = some storage
  elsewhere : ∀ id, id ≠ storage.id → w'.store.storage? id = w.store.storage? id
  frame : w' = w.withStore { w.store with storages := w'.store.storages }
  again : ∀ other, (ensureDefault other).alone w' = (.ok storage, w')

variable {config : Config} {w : World} {storage : Storage}

theorem alone_defaultStorage (stored : w.store.defaultStorage? = some storage) :
    defaultStorage.alone w = (.ok storage, w) := by
  rw [defaultStorage, getDefaultStorage, alone_look_bind, stored]
  rfl

/-- A stored default storage is returned, whatever the configuration says. -/
theorem alone_ensureDefault (stored : w.store.defaultStorage? = some storage) (config : Config) :
    (ensureDefault config).alone w = (.ok storage, w) := by
  rw [ensureDefault, getDefaultStorage, alone_look_bind, stored]
  rfl

theorem Settled.of_stored (stored : w.store.defaultStorage? = some storage) :
    Settled config w storage w where
  reported := alone_defaultStorage stored
  stored _ found := ⟨Option.some.inj (stored.symm.trans found), rfl⟩
  made none := nomatch stored.symm.trans none
  elsewhere _ _ := rfl
  frame := rfl
  again := alone_ensureDefault stored

theorem Settled.of_made {d : DefaultStorage} (none : w.store.defaultStorage? = none)
    (defined : config.defaultStorage = some d) (describes : d.Describes storage) :
    Settled config w storage (w.withStore (w.store.withStorage storage)) :=
  have found := Store.defaultStorage?_withStorage none describes.isDefault
  { reported := alone_defaultStorage found
    stored _ found := nomatch none.symm.trans found
    made _ := ⟨d, defined, describes, Store.storage?_withStorage _ storage⟩
    elsewhere _ apart := Store.storage?_withStorage_of_ne apart
    frame := rfl
    again := alone_ensureDefault found }

theorem hinders_of_declines {d : DefaultStorage} {e : TimelineError}
    (defined : config.defaultStorage = some d) (describes : d.Describes storage)
    (declines : w.store.Declines storage e) : Hinders config w.store e := by
  have named := describes.id_eq
  cases declines with
  | otherType there other =>
    rw [named] at there ⊢
    exact .otherType defined describes there other
  | referenced there inside placed =>
    rw [named] at there placed ⊢
    exact .referenced defined describes there inside placed

/-- Where a default storage is stored it is returned and nothing is changed, whatever is configured.
Otherwise the one that the configuration describes is stored and returned, and everything else stays
as it is; it is then the default one, and asking again with any configuration gives it. A call that
fails changes nothing, and there is no stored default storage and none that could be made. -/
theorem ensureDefault_bootstraps (config : Config) (w : World) :
    (ensureDefault config).Ensures (Settled config w)
      (fun e w' => w' = w ∧ w.store.defaultStorage? = none ∧ Hinders config w.store e) w := by
  apply ensures_bind
  apply ensures_look
  cases stored : w.store.defaultStorage? with
  | some storage => exact ensures_pure (.of_stored stored)
  | none =>
    cases defined : config.defaultStorage with
    | none => exact ensures_throw ⟨rfl, rfl, .missing defined⟩
    | some d =>
      dsimp only
      cases made : d.toStorage with
      | error e => exact ensures_throw ⟨rfl, rfl, .unconvertible defined made⟩
      | ok storage =>
        have describes := DefaultStorage.toStorage_ok_iff.1 made
        apply (ensures_createOrUpdate storage w).mono
        · rintro _ _ ⟨rfl, -, rfl⟩
          exact .of_made stored defined describes
        · rintro e _ ⟨rfl, declines⟩
          exact ⟨rfl, rfl, hinders_of_declines defined describes declines⟩

end Registry

end Cutover
