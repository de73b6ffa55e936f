import Cutover.Proofs.Operation.Alone
import Cutover.Proofs.Storages.Housing

set_option autoImplicit false

namespace Cutover

/-- The calls of the registry. -/
inductive RegistryCall where
  | list
  | get (id : String)
  | default
  | createOrUpdate (storage : Storage)
  | ensureDefault (config : Config)
  | delete (id : String)

namespace RegistryCall

def operation : RegistryCall → Operation Unit
  | .list => do
      let _ ← Registry.list
  | .get id => do
      let _ ← Registry.get id
  | .default => do
      let _ ← Registry.defaultStorage
  | .createOrUpdate storage => do
      let _ ← Registry.createOrUpdate storage
  | .ensureDefault config => do
      let _ ← Registry.ensureDefault config
  | .delete id => Registry.delete id

/-- The storage that a call can write: the one it is given, by id, or that of the configuration. -/
def named : RegistryCall → Option String
  | .createOrUpdate storage => some storage.id
  | .ensureDefault config => config.defaultStorage.map (·.id)
  | .delete id => some id
  | _ => none

end RegistryCall

namespace Store

def Unused (s : Store) (id : String) : Prop := s.listTimelines (.ofStorage id) = []

/-- A storage is new, or it is of the same type as the one with its id, and that is unused. -/
def Takes (s : Store) (storage : Storage) : Prop :=
  ∀ existing, s.storage? storage.id = some existing →
    existing.type = storage.type ∧ s.Unused storage.id

/-- Why a storage cannot take the place of the one with its id. -/
inductive Declines (s : Store) (storage : Storage) : TimelineError → Prop where
  | otherType {existing : Storage} (there : s.storage? storage.id = some existing)
      (other : existing.type ≠ storage.type) : Declines s storage (.storageTypeChange storage.id)
  | referenced {existing : Storage} {t : Timeline}
      (there : s.storage? storage.id = some existing) (inside : t ∈ s.timelines.values)
      (placed : t.storage.id = storage.id) : Declines s storage (.storageInUse storage.id)

def withStorage (s : Store) (storage : Storage) : Store :=
  { s with storages := s.storages.insert storage.id storage }

def withoutStorage (s : Store) (id : String) : Store :=
  { s with storages := s.storages.erase id }

variable {s s' : Store} {storage : Storage} {id other : String}

theorem Unused.apart (unused : s.Unused id) {t : Timeline} (inside : t ∈ s.timelines.values) :
    t.storage.id ≠ id := by
  intro same
  have admitted : (TimelineFilter.ofStorage id).admits t = true := by
    simp [TimelineFilter.admits, TimelineFilter.ofStorage, same]
  have member : t ∈ s.listTimelines (.ofStorage id) := Timeline.mem_listing.2 ⟨inside, admitted⟩
  rw [unused] at member
  exact List.not_mem_nil member

theorem exists_placed (used : ¬ s.Unused id) :
    ∃ t ∈ s.timelines.values, t.storage.id = id := by
  obtain ⟨t, listed⟩ := List.exists_mem_of_ne_nil _ used
  obtain ⟨inside, admitted⟩ := Timeline.mem_listing.1 listed
  rw [TimelineFilter.admits, TimelineFilter.ofStorage] at admitted
  exact ⟨t, inside, by simpa [eq_comm] using admitted⟩

theorem createStorage_new (absent : s.storage? storage.id = none) :
    s.createStorage storage = .ok (s.withStorage storage) := by
  have free : s.storages.contains storage.id = false := Option.isSome_eq_false_iff.2 (by
    rw [← Store.storage?, absent]
    rfl)
  rw [createStorage, if_neg (by simp [free]), withStorage]

theorem updateStorage_there {existing : Storage} (there : s.storage? storage.id = some existing) :
    s.updateStorage storage = .ok (s.withStorage storage) := by
  have taken : s.storages.contains storage.id = true := Option.isSome_iff_exists.2 ⟨_, there⟩
  rw [updateStorage, if_pos taken, withStorage]

@[simp] theorem storage?_withStorage (s : Store) (storage : Storage) :
    (s.withStorage storage).storage? storage.id = some storage := Table.get?_insert_self ..

theorem storage?_withStorage_of_ne (apart : other ≠ storage.id) :
    (s.withStorage storage).storage? other = s.storage? other := Table.get?_insert_of_ne _ _ apart

@[simp] theorem storage?_withoutStorage (s : Store) (id : String) :
    (s.withoutStorage id).storage? id = none := Table.get?_erase_self ..

theorem storage?_withoutStorage_of_ne (apart : other ≠ id) :
    (s.withoutStorage id).storage? other = s.storage? other := Table.get?_erase_of_ne _ apart

end Store

namespace RegistryCall

/-- What a call writes. -/
inductive Writes (s : Store) : RegistryCall → Store → Prop where
  | nothing {call : RegistryCall} : Writes s call s
  | put {call : RegistryCall} {storage : Storage} (named : call.named = some storage.id)
      (takes : s.Takes storage) : Writes s call (s.withStorage storage)
  | erase {id : String} (unused : s.Unused id) : Writes s (.delete id) (s.withoutStorage id)

namespace Writes

variable {s s' : Store} {call : RegistryCall} {id : String}

theorem timelines (writes : call.Writes s s') : s'.timelines = s.timelines := by
  cases writes with
  | nothing => rfl
  | put => rfl
  | erase => rfl

theorem elsewhere (writes : call.Writes s s') (apart : call.named ≠ some id) :
    s'.storage? id = s.storage? id := by
  cases writes with
  | nothing => rfl
  | put named => exact Store.storage?_withStorage_of_ne fun same => apart (same ▸ named)
  | erase => exact Store.storage?_withoutStorage_of_ne fun same => apart (congrArg some same.symm)

theorem occupied (writes : call.Writes s s') {storage : Storage} {t : Timeline}
    (there : s.storage? t.storage.id = some storage) (inside : t ∈ s.timelines.values) :
    s'.storage? t.storage.id = some storage := by
  rw [← there]
  cases writes with
  | nothing => rfl
  | put named takes =>
    apply Store.storage?_withStorage_of_ne
    intro same
    rw [same] at there
    exact (takes storage there).2.apart inside same
  | erase unused => exact Store.storage?_withoutStorage_of_ne (unused.apart inside)

theorem type_eq (writes : call.Writes s s') {before after : Storage}
    (there : s.storage? id = some before) (there' : s'.storage? id = some after) :
    after.type = before.type := by
  cases writes with
  | nothing => rw [Option.some.inj (there.symm.trans there')]
  | @put _ storage named takes =>
    by_cases same : id = storage.id
    · subst same
      rw [Store.storage?_withStorage] at there'
      rw [← Option.some.inj there', (takes before there).1]
    · rw [Store.storage?_withStorage_of_ne same] at there'
      rw [Option.some.inj (there.symm.trans there')]
  | @erase erased unused =>
    by_cases same : id = erased
    · rw [same, Store.storage?_withoutStorage] at there'
      exact nomatch there'
    · rw [Store.storage?_withoutStorage_of_ne same] at there'
      rw [Option.some.inj (there.symm.trans there')]

theorem storages (writes : call.Writes s s')
    (kept : ∀ id storage, s.storages.get? id = some storage → storage.id = id) :
    ∀ id storage, s'.storages.get? id = some storage → storage.id = id := by
  intro id storage found
  cases writes with
  | nothing => exact kept id storage found
  | @put _ new named takes =>
    by_cases same : id = new.id
    · subst same
      rw [Option.some.inj ((Store.storage?_withStorage s new).symm.trans found)]
    · exact kept id storage ((Store.storage?_withStorage_of_ne same).symm.trans found)
  | @erase erased unused =>
    by_cases same : id = erased
    · subst same
      exact nomatch (Store.storage?_withoutStorage s id).symm.trans found
    · exact kept id storage ((Store.storage?_withoutStorage_of_ne same).symm.trans found)

end Writes

end RegistryCall

theorem DefaultStorage.toStorage_id {d : DefaultStorage} {storage : Storage}
    (made : d.toStorage = .ok storage) : storage.id = d.id := by
  rw [toStorage] at made
  split at made
  · rw [← Except.ok.inj made]
    rfl
  · split at made
    · exact nomatch made
    · split at made
      · exact nomatch made
      · rw [← Except.ok.inj made]
        rfl

namespace Registry

open Operation

variable {α : Type} {op : Operation α} {w : World}

/-- Run alone, a call of the registry writes what `written` tells, or it fails and writes nothing.
-/
def Records (op : Operation α) (written : Store → Prop) (w : World) : Prop :=
  op.Ensures (fun _ w' => ∃ s, written s ∧ w' = w.withStore s) (fun _ w' => w' = w) w

theorem Records.map {written : Store → Prop} (records : Records op written w) :
    Records (do let _ ← op) written w := by
  apply ensures_bind
  exact Ensures.mono records (fun _ _ held => ensures_pure held) fun _ _ same => same

theorem records_look {view : World → α} {written : Store → Prop} (same : written w.store) :
    Records (look view) written w := ensures_look ⟨w.store, same, rfl⟩

theorem records_defaultStorage {written : Store → Prop} (same : written w.store) :
    Records defaultStorage written w := by
  apply ensures_bind
  apply ensures_look
  cases w.store.defaultStorage? with
  | none => exact ensures_throw rfl
  | some storage => exact ensures_pure ⟨w.store, same, rfl⟩

theorem ensures_ensureUnused {id : String} {done : Unit → World → Prop}
    {failed : TimelineError → World → Prop} (held : w.store.Unused id → done () w)
    (used : ¬ w.store.Unused id → failed (.storageInUse id) w) :
    (ensureUnused id).Ensures done failed w := by
  apply ensures_bind
  apply ensures_look
  split
  · next listed => exact ensures_throw (used listed)
  · next unused => exact ensures_pure (held (not_not.1 unused))

theorem ensures_createOrUpdate (storage : Storage) (w : World) : (createOrUpdate storage).Ensures
    (fun made w' => made = storage ∧ w.store.Takes storage ∧
      w' = w.withStore (w.store.withStorage storage))
    (fun e w' => w' = w ∧ w.store.Declines storage e) w := by
  apply ensures_bind
  apply ensures_look
  cases found : w.store.storage? storage.id with
  | none =>
    have takes : w.store.Takes storage := fun _ there => nomatch found.symm.trans there
    apply ensures_bind
    apply ensures_writeStore
    · intro s created
      obtain rfl := Except.ok.inj ((Store.createStorage_new found).symm.trans created)
      exact ensures_pure ⟨rfl, takes, rfl⟩
    · exact fun e failed => nomatch (Store.createStorage_new found).symm.trans failed
  | some existing =>
    apply ensures_check fun other => ⟨rfl, .otherType found other⟩
    intro kept
    apply ensures_bind
    apply ensures_ensureUnused
    · intro unused
      have takes : w.store.Takes storage := by
        intro other there
        obtain rfl := Option.some.inj (found.symm.trans there)
        exact ⟨not_not.1 kept, unused⟩
      apply ensures_bind
      apply ensures_writeStore
      · intro s updated
        obtain rfl := Except.ok.inj ((Store.updateStorage_there found).symm.trans updated)
        exact ensures_pure ⟨rfl, takes, rfl⟩
      · exact fun e failed => nomatch (Store.updateStorage_there found).symm.trans failed
    · intro used
      obtain ⟨t, inside, placed⟩ := Store.exists_placed used
      exact ⟨rfl, .referenced found inside placed⟩

theorem records_createOrUpdate (storage : Storage) (w : World) : Records (createOrUpdate storage)
    (fun s => w.store.Takes storage ∧ s = w.store.withStorage storage) w := by
  apply (ensures_createOrUpdate storage w).mono
  · exact fun _ _ ⟨_, takes, written⟩ => ⟨_, ⟨takes, rfl⟩, written⟩
  · exact fun _ _ ⟨unchanged, _⟩ => unchanged

theorem records_ensureDefault (config : Config) (w : World) :
    Records (ensureDefault config) ((RegistryCall.ensureDefault config).Writes w.store) w := by
  apply ensures_bind
  apply ensures_look
  cases w.store.defaultStorage? with
  | some storage => exact ensures_pure ⟨w.store, .nothing, rfl⟩
  | none =>
    cases configured : config.defaultStorage with
    | none => exact ensures_throw rfl
    | some definition =>
      dsimp only
      cases made : definition.toStorage with
      | error e => exact ensures_throw rfl
      | ok storage =>
        have named : (RegistryCall.ensureDefault config).named = some storage.id := by
          rw [RegistryCall.named, configured, DefaultStorage.toStorage_id made]
          rfl
        apply (records_createOrUpdate storage w).mono _ fun _ _ same => same
        rintro _ _ ⟨_, ⟨takes, rfl⟩, rfl⟩
        exact ⟨_, .put named takes, rfl⟩

theorem records_delete (id : String) (w : World) :
    Records (delete id) ((RegistryCall.delete id).Writes w.store) w := by
  apply ensures_bind
  apply ensures_look
  cases w.store.storage? id with
  | none => exact ensures_pure ⟨w.store, .nothing, rfl⟩
  | some existing =>
    apply ensures_bind
    apply ensures_ensureUnused _ fun _ => rfl
    intro unused
    apply ensures_writeStore
    · intro s deleted
      obtain rfl := Store.deleteStorage_ok deleted
      exact ⟨_, .erase unused, rfl⟩
    · exact fun _ _ => rfl

end Registry

/-- Run alone, a call of the registry writes what it can write, or it fails and writes nothing. -/
theorem RegistryCall.records (call : RegistryCall) (w : World) :
    Registry.Records call.operation (call.Writes w.store) w := by
  cases call with
  | list => exact (Registry.records_look .nothing).map
  | get id => exact (Registry.records_look .nothing).map
  | default => exact (Registry.records_defaultStorage .nothing).map
  | ensureDefault config => exact (Registry.records_ensureDefault config w).map
  | delete id => exact Registry.records_delete id w
  | createOrUpdate storage =>
    apply Registry.Records.map
    apply (Registry.records_createOrUpdate storage w).mono _ fun _ _ same => same
    rintro _ _ ⟨_, ⟨takes, rfl⟩, rfl⟩
    exact ⟨_, .put rfl takes, rfl⟩

end Cutover
