import Cutover.Proofs.Histories
import Cutover.Proofs.Storages.Deletions

set_option autoImplicit false

namespace Cutover

namespace ServiceCall.Writes

variable {w w₁ : World} {call : ServiceCall}

theorem occupied (writes : call.Writes w w₁) {storage : Storage} {t : Timeline}
    (there : w.store.storage? t.storage.id = some storage)
    (inside : t ∈ w.store.timelines.values) :
    w₁.store.storage? t.storage.id = some storage := by
  obtain ⟨call', s, writes', same⟩ := writes.storages
  rw [Store.storage?, same]
  exact writes'.occupied there inside

theorem type_eq (writes : call.Writes w w₁) {id : String} {before after : Storage}
    (there : w.store.storage? id = some before) (there' : w₁.store.storage? id = some after) :
    after.type = before.type := by
  obtain ⟨call', s, writes', same⟩ := writes.storages
  rw [Store.storage?, same] at there'
  exact writes'.type_eq there there'

theorem housed (writes : call.Writes w w₁) (housed : w.Housed) : w₁.Housed where
  orderly := writes.orderly housed.orderly
  housed := by
    intro t inside
    rcases writes.stored housed.orderly inside with ⟨u, old, known⟩ | ⟨opens, s, same, rfl⟩
    · have home : t.storage = u.storage := by rw [known]
      obtain ⟨storage, there⟩ := Option.isSome_iff_exists.1 (housed.housed u old)
      rw [home]
      exact World.hasStorage_of_get? (writes.occupied there old)
    · rw [World.HasStorage, World.withStore, same]
      exact opens.housed

end ServiceCall.Writes

/-- What happens to storages in a history. -/
structure History.Frozen {sync : TimelineSync World} (h : History sync) : Prop where
  /-- While a storage is there, it keeps its type. -/
  types : ∀ id i j, i ≤ j → h.StoresStorage id i j →
    ((h.world j).store.storage? id).map (·.type) = ((h.world i).store.storage? id).map (·.type)
  /-- While a timeline is stored, the storage it is on is there and stays the same. -/
  records : ∀ t i j, i ≤ j → (h.world i).store.timeline? t.id = some t →
    h.StoresTimeline t.id i j → ∃ u storage, (h.world j).store.timeline? t.id = some u ∧
      u.storage = t.storage ∧ (h.world i).store.storage? t.storage.id = some storage ∧
        (h.world j).store.storage? t.storage.id = some storage
  /-- While a timeline is stored that a switch has made, the storage it is on is as it says. -/
  snapshots : ∀ e storageId t m j, m < j →
    (Timelines.switchTo sync e storageId).alone (h.world m) = (.ok t, h.world (m + 1)) →
      h.StoresTimeline t.id (m + 1) j → ∃ u, (h.world j).store.timeline? t.id = some u ∧
        u.storage = t.storage ∧ (h.world j).store.storage? t.storage.id = some t.storage
  /-- A call of the registry that fails writes nothing. -/
  failed : ∀ (call : RegistryCall) n error w',
    call.operation.alone (h.world n) = (.error error, w') →
      w'.store.storages = (h.world n).store.storages ∧
        w'.store.timelines = (h.world n).store.timelines
  /-- One that succeeds writes at most the storage it names. -/
  elsewhere : ∀ (call : RegistryCall) n w', call.operation.alone (h.world n) = (.ok (), w') →
    w'.store.timelines = (h.world n).store.timelines ∧
      ∀ id, call.named ≠ some id → w'.store.storage? id = (h.world n).store.storage? id

namespace History

variable {sync : TimelineSync World} {i j : Nat}

theorem housed (own : sync.Only World.Fencing) (h : History sync) (n : Nat) :
    (h.world n).Housed := by
  induction n with
  | zero => exact ⟨h.orderly, fun t inside => absurd inside (h.no_timelines t)⟩
  | succ n ih =>
    obtain ⟨call, w₁, writes, between⟩ := h.writes own n
    have kept := writes.housed ih
    refine ⟨between.orderly kept.orderly, fun t inside => ?_⟩
    rw [between.timelines] at inside
    rw [World.HasStorage, between.storages]
    exact kept.housed t inside

theorem StoresTimeline.shorten {h : History sync} {id : Uuid}
    (stores : h.StoresTimeline id i (j + 1)) : h.StoresTimeline id i j :=
  fun k after before => stores k after (Nat.le_succ_of_le before)

theorem StoresStorage.shorten {h : History sync} {id : String}
    (stores : h.StoresStorage id i (j + 1)) : h.StoresStorage id i j :=
  fun k after before => stores k after (Nat.le_succ_of_le before)

theorem types_kept (own : sync.Only World.Fencing) (h : History sync) {id : String}
    (later : i ≤ j) (stores : h.StoresStorage id i j) :
    ((h.world j).store.storage? id).map (·.type) =
      ((h.world i).store.storage? id).map (·.type) := by
  induction later with
  | refl => rfl
  | @step j later ih =>
    rw [← ih stores.shorten]
    obtain ⟨call, w₁, writes, between⟩ := h.writes own j
    obtain ⟨before, there⟩ :=
      Option.isSome_iff_exists.1 (stores j later (Nat.le_succ j))
    obtain ⟨after, there'⟩ :=
      Option.isSome_iff_exists.1 (stores (j + 1) (Nat.le_succ_of_le later) (Nat.le_refl _))
    have written : w₁.store.storage? id = some after := by
      rw [Store.storage?, ← between.storages]
      exact there'
    rw [Store.storage?, Store.storage?, there, there', Option.map_some, Option.map_some,
      writes.type_eq there written]

/-- In one turn after another a timeline keeps its storage, and that stays the same. -/
theorem records_kept (own : sync.Only World.Fencing) (h : History sync) {t : Timeline}
    {storage : Storage} (later : i ≤ j) (before : (h.world i).store.timeline? t.id = some t)
    (there : (h.world i).store.storage? t.storage.id = some storage)
    (stores : h.StoresTimeline t.id i j) :
    ∃ u, (h.world j).store.timeline? t.id = some u ∧ u.storage = t.storage ∧
      (h.world j).store.storage? t.storage.id = some storage := by
  induction later with
  | refl => exact ⟨t, before, rfl, there⟩
  | @step j later ih =>
    obtain ⟨u, stored, home, there⟩ := ih stores.shorten
    obtain ⟨call, w₁, writes, between⟩ := h.writes own j
    obtain ⟨v, stored'⟩ :=
      Option.isSome_iff_exists.1 (stores (j + 1) (Nat.le_succ_of_le later) (Nat.le_refl _))
    have written : w₁.store.timeline? t.id = some v := by
      rw [Store.timeline?, ← between.timelines]
      exact stored'
    have known := writes.keeps (h.keyed own j) (h.orderly_at own j) stored written
    refine ⟨v, stored', ?_, ?_⟩
    · rw [known, home]
    · rw [Store.storage?, between.storages, ← home]
      rw [← home] at there
      exact writes.occupied there (Table.mem_values_iff.2 ⟨t.id, stored⟩)

theorem switch_copies (own : sync.Only World.Fencing) {w w' : World} {e storageId : String}
    {t : Timeline} (orderly : w.Orderly)
    (made : (Timelines.switchTo sync e storageId).alone w = (.ok t, w')) :
    w'.store.timeline? t.id = some t ∧ w'.store.storage? t.storage.id = some t.storage := by
  obtain ⟨s, switches, aged⟩ := (Timelines.ensures_switchTo own e storageId w).of_ok made
  have storages := switches.storages
  obtain ⟨⟨storage, topic, found, -, rfl⟩, position, committed⟩ := switches
  obtain ⟨_, _, _, rfl⟩ := Store.commitSwitch_ok committed
  rw [aged.store]
  refine ⟨Table.get?_insert_self .., ?_⟩
  have same : storage.id = storageId := orderly.storages storageId storage found
  rw [← same] at found
  rw [Store.storage?, World.withStore, storages]
  exact found

/-- In every history of calls made one after the other, storages are frozen while timelines are on
them. -/
theorem storages_frozen (own : sync.Only World.Fencing) (h : History sync) : h.Frozen where
  types id i j later stores := h.types_kept own later stores
  records t i j later before stores := by
    have inside := Table.mem_values_iff.2 ⟨t.id, before⟩
    obtain ⟨storage, there⟩ :=
      Option.isSome_iff_exists.1 ((h.housed own i).housed t inside)
    obtain ⟨u, stored, home, kept⟩ := h.records_kept own later before there stores
    exact ⟨u, storage, stored, home, there, kept⟩
  snapshots e storageId t m j later made stores := by
    obtain ⟨stored, there⟩ := switch_copies own (h.orderly_at own m) made
    exact h.records_kept own later stored there stores
  failed call n error w' result := by
    rw [(call.records (h.world n)).of_error result]
    exact ⟨rfl, rfl⟩
  elsewhere call n w' result := by
    obtain ⟨s, writes, rfl⟩ := (call.records (h.world n)).of_ok result
    exact ⟨writes.timelines, fun id apart => writes.elsewhere apart⟩

end History

theorem World.fencing_localSync : World.localSync.Only World.Fencing := by
  have fencing : ∀ w w' : World, (∃ fences, w' = w.withFences fences) → w.Fencing w' := by
    rintro w _ ⟨fences, rfl⟩
    exact ⟨fences, w.recorder, rfl, rfl⟩
  intro e limit
  obtain ⟨starts, finishes⟩ := Timelines.only_localSync e limit
  exact ⟨starts.mono fencing, finishes.mono fencing⟩

/-- A storage that an event type was switched to can be neither changed nor deleted. -/
theorem History.storages_frozen_switched : ∃ h : History World.localSync,
    h.StoresStorage "other" 2 5 ∧
      (h.world 5).store.storage? "other" = (h.world 2).store.storage? "other" ∧
        (∃ t ∈ (h.world 5).store.timelines.values, t.storage.id = "other") ∧ h.Frozen := by
  let calls : List ServiceCall := [.timelines (.createFirst "orders"),
    .timelines (.switchTo "orders" "other"), .registry (.delete "other"),
    .registry (.createOrUpdate ⟨"other", .inMemory, true⟩),
    .registry (.createOrUpdate ⟨"other", .kafka default, false⟩)]
  let h := History.ofCalls World.localSync .unwritten calls rfl (World.orderly_ofStorages _ _ _)
  have kept : ∀ k ≤ 5, 2 ≤ k → (h.world k).HasStorage "other" := by decide +kernel
  exact ⟨h, fun k after before => kept k before after, by decide +kernel, by decide +kernel,
    History.storages_frozen World.fencing_localSync h⟩

end Cutover
