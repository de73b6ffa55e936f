import Cutover.Proofs.Storages.Records
import Cutover.Proofs.Timelines.Outcomes

set_option autoImplicit false

namespace Cutover

/-- The calls of the service, on timelines and of the registry. -/
inductive ServiceCall where
  | timelines (call : TimelineCall)
  | list (eventType : String)
  | get (eventType : String)
  | resolve (eventType : String) (cursor : Cursor)
  | registry (call : RegistryCall)

namespace ServiceCall

def under (sync : TimelineSync World) : ServiceCall → Operation Unit
  | .timelines call => do
      let _ ← call.under sync
  | .list e => do
      let _ ← Timelines.list e
  | .get e => do
      let _ ← Timelines.get e
  | .resolve e cursor => do
      let _ ← Timelines.resolve e cursor
  | .registry call => call.operation

def eventType : ServiceCall → Option String
  | .timelines call => some call.eventType
  | .list e => some e
  | .get e => some e
  | .resolve e _ => some e
  | .registry _ => none

/-- What a call writes. A new timeline has the next id. -/
inductive Writes (w : World) : ServiceCall → World → Prop where
  | nothing {call : ServiceCall} : Writes w call w
  | create {e : String} {t : Timeline} {s : Store} (creates : w.Creates e t s) :
      Writes w (.timelines (.createFirst e)) (w.drawn.withStore s)
  | switch {e storageId : String} {t : Timeline} {s : Store}
      (switches : w.Switches e storageId t s) :
      Writes w (.timelines (.switchTo e storageId)) (w.drawn.withStore s)
  | delete {e : String} {id : Uuid} {t : Timeline} {s : Store}
      (deletable : w.store.Deletable e id t) (deleted : w.store.deleteTimeline id = .ok s) :
      Writes w (.timelines (.delete e id)) (w.withStore s)
  | register {call : RegistryCall} {s : Store} (writes : call.Writes w.store s) :
      Writes w (.registry call) (w.withStore s)

end ServiceCall

namespace World

/-- What can happen between calls. Ids that were drawn stay drawn. -/
structure Between (w w' : World) : Prop extends w.Besides w' where
  drawn : ∀ id, w.ids.Drawn id → w'.ids.Drawn id

/-- A call is made and ends, or the world changes between calls. -/
inductive Proceeds (sync : TimelineSync World) (w : World) : World → Prop where
  | call (call : ServiceCall) : Proceeds sync w ((call.under sync).alone w).2
  | between {w' : World} (between : w.Between w') : Proceeds sync w w'

variable {w w' : World} {sync : TimelineSync World}

theorem Between.refl (w : World) : w.Between w where
  storages := rfl
  timelines := rfl
  workers _ worker found := ⟨worker, found, rfl⟩
  orderly orderly := orderly
  drawn _ drawn := drawn

theorem Aged.between (aged : w.Aged w') : w.Between w' where
  storages := congrArg Store.storages aged.store
  timelines := congrArg Store.timelines aged.store
  workers number worker found := by
    obtain ⟨worker', found', extends'⟩ := aged.workers.each number worker found
    exact ⟨worker', found', extends'.storage⟩
  orderly orderly := by
    refine ⟨?_, fun id number served => ?_⟩
    · rw [aged.store]
      exact orderly.storages
    · rw [aged.workers.serving] at served
      obtain ⟨worker, found, same⟩ := orderly.serving id number served
      obtain ⟨worker', found', extends'⟩ := aged.workers.each number worker found
      exact ⟨worker', found', by rw [extends'.storage, same]⟩
  drawn id drawn := by
    obtain ⟨n, before, same⟩ := drawn
    refine ⟨n, before.trans_le aged.drawn, ?_⟩
    rw [aged.fresh, same]

end World

namespace ServiceCall

open Operation

variable {w w' w₁ : World} {sync : TimelineSync World} {call : ServiceCall} {t u : Timeline}

/-- Run alone, a call writes what it can write, or it fails and writes nothing. -/
theorem ensures (own : sync.Only World.Fencing) (keyed : w.store.Keyed) (call : ServiceCall) :
    (call.under sync).Ensures (fun _ w' => ∃ w₁, call.Writes w w₁ ∧ w₁.Aged w')
      (fun _ w' => w.Aged w') w := by
  cases call with
  | timelines call =>
    apply ensures_bind
    cases call with
    | createFirst e =>
      apply ensures_bind
      apply (Timelines.ensures_createFirst e w).mono
      · rintro t w' ⟨s, creates, aged⟩
        exact ensures_pure (ensures_pure ⟨_, .create creates, aged⟩)
      · exact fun _ _ aged => aged
    | switchTo e storageId =>
      apply ensures_bind
      apply (Timelines.ensures_switchTo own e storageId w).mono
      · rintro t w' ⟨s, switches, aged⟩
        exact ensures_pure (ensures_pure ⟨_, .switch switches, aged⟩)
      · exact fun _ _ aged => aged
    | delete e id =>
      apply ensures_bind
      apply (Timelines.ensures_delete own keyed e id).mono
      · rintro _ w' ⟨t, s, deletable, deleted, aged⟩
        exact ensures_pure (ensures_pure ⟨_, .delete deletable deleted, aged⟩)
      · exact fun _ _ failed => failed.1
  | list e =>
    apply ensures_bind
    exact ensures_look (ensures_pure ⟨w, .nothing, .refl w⟩)
  | get e =>
    apply ensures_bind
    apply (Timelines.ensures_get e w).mono
    · exact fun _ w' aged => ensures_pure ⟨w, .nothing, aged⟩
    · exact fun _ _ aged => aged
  | resolve e cursor =>
    apply ensures_bind
    apply (Timelines.ensures_resolve e cursor w).mono
    · exact fun _ w' aged => ensures_pure ⟨w, .nothing, aged⟩
    · exact fun _ _ aged => aged
  | registry call =>
    apply (call.records w).mono
    · rintro _ _ ⟨s, writes, rfl⟩
      exact ⟨_, .register writes, .refl _⟩
    · rintro _ _ rfl
      exact .refl _

end ServiceCall

theorem World.Proceeds.writes {w w' : World} {sync : TimelineSync World}
    (proceeds : w.Proceeds sync w') (own : sync.Only World.Fencing) (keyed : w.store.Keyed) :
    ∃ (call : ServiceCall) (w₁ : World), call.Writes w w₁ ∧ w₁.Between w' := by
  cases proceeds with
  | between between => exact ⟨.list "", w, .nothing, between⟩
  | call call =>
    have ensures := call.ensures own keyed
    cases result : (call.under sync).alone w with
    | mk answer w' =>
      cases answer with
      | error e => exact ⟨call, w, .nothing, (ensures.of_error result).between⟩
      | ok a =>
        obtain ⟨w₁, writes, aged⟩ := ensures.of_ok result
        exact ⟨call, w₁, writes, aged.between⟩

/-- A timeline that is made: its id is the next and not stored, its storage is there, and if it is a
first timeline that is the default storage. -/
structure World.Opens (w : World) (t : Timeline) : Prop where
  next : t.id = w.ids.draw.1
  free : w.store.timeline? t.id = none
  housed : w.HasStorage t.storage.id
  first : t.order = 0 → ∃ d, w.store.defaultStorage? = some d ∧ t.storage.id = d.id

theorem World.Creates.opens {w : World} {e : String} {t : Timeline} {s : Store}
    (creates : w.Creates e t s) (orderly : w.Orderly) : w.Opens t := by
  obtain ⟨⟨d, number, worker, topic, default, served, registered, rfl⟩, created⟩ := creates
  obtain ⟨worker', found, same⟩ := orderly.serving d.id number served
  obtain rfl := Option.some.inj (registered.symm.trans found)
  have home : (w.opened e 0 worker.storage topic).storage.id = d.id := same
  refine ⟨rfl, (Store.createTimeline_ok created).1, ?_, fun _ => ⟨d, default, home⟩⟩
  rw [home]
  exact orderly.hasDefault default

theorem World.Switches.opens {w : World} {e storageId : String} {t : Timeline} {s : Store}
    (switches : w.Switches e storageId t s) (orderly : w.Orderly) : w.Opens t := by
  obtain ⟨⟨storage, topic, found, home, rfl⟩, position, committed⟩ := switches
  refine ⟨rfl, (Store.commitSwitch_ok committed).1, ?_, fun first => home ?_⟩
  · have same : storage.id = storageId := orderly.storages storageId storage found
    have stored : w.HasStorage storageId := World.hasStorage_of_get? found
    rw [← same] at stored
    exact stored
  · cases active : w.store.active? e with
    | none => rfl
    | some a =>
      rw [active] at first
      exact absurd first (Nat.succ_ne_zero a.order)

theorem World.Switches.storages {w : World} {e storageId : String} {t : Timeline} {s : Store}
    (switches : w.Switches e storageId t s) : s.storages = w.store.storages := by
  obtain ⟨position, committed⟩ := switches.committed
  obtain ⟨_, _, _, rfl⟩ := Store.commitSwitch_ok committed
  cases w.store.active? e with
  | none => rfl
  | some a => rfl

namespace ServiceCall.Writes

variable {w w₁ : World} {call : ServiceCall} {t : Timeline}

theorem keyed (writes : call.Writes w w₁) (keyed : w.store.Keyed) : w₁.store.Keyed := by
  cases writes with
  | nothing => exact keyed
  | create creates =>
    obtain ⟨_, _, rfl⟩ := Store.createTimeline_ok creates.created
    exact keyed.put _
  | switch switches =>
    obtain ⟨position, committed⟩ := switches.committed
    obtain ⟨_, _, _, rfl⟩ := Store.commitSwitch_ok committed
    cases w.store.active? _ with
    | none => exact keyed.put _
    | some a => exact (keyed.put _).put _
  | delete _ deleted =>
    obtain rfl := Store.deleteTimeline_ok deleted
    exact keyed.erase _
  | register writes =>
    rw [Store.Keyed]
    exact writes.timelines ▸ keyed

theorem storages (writes : call.Writes w w₁) : ∃ (call' : RegistryCall) (s : Store),
    call'.Writes w.store s ∧ w₁.store.storages = s.storages := by
  cases writes with
  | nothing => exact ⟨.list, w.store, .nothing, rfl⟩
  | create creates =>
    obtain ⟨_, _, rfl⟩ := Store.createTimeline_ok creates.created
    exact ⟨.list, w.store, .nothing, rfl⟩
  | switch switches => exact ⟨.list, w.store, .nothing, switches.storages⟩
  | delete _ deleted =>
    obtain rfl := Store.deleteTimeline_ok deleted
    exact ⟨.list, w.store, .nothing, rfl⟩
  | @register call' s writes => exact ⟨call', s, writes, rfl⟩

theorem workers (writes : call.Writes w w₁) : w₁.workers = w.workers := by
  cases writes <;> rfl

theorem orderly (writes : call.Writes w w₁) (orderly : w.Orderly) : w₁.Orderly where
  storages := by
    obtain ⟨call', s, writes', same⟩ := writes.storages
    rw [same]
    exact writes'.storages orderly.storages
  serving := by
    rw [writes.workers]
    exact orderly.serving

/-- A stored timeline was stored before, if for its end, or it is new, and then nothing is written
of storages. -/
theorem stored (writes : call.Writes w w₁) (orderly : w.Orderly)
    (inside : t ∈ w₁.store.timelines.values) :
    (∃ u ∈ w.store.timelines.values, t = { u with lastPosition := t.lastPosition }) ∨
      w.Opens t ∧ ∃ s, s.storages = w.store.storages ∧ w₁ = w.drawn.withStore s := by
  cases writes with
  | nothing => exact .inl ⟨t, inside, rfl⟩
  | create creates =>
    obtain ⟨_, _, rfl⟩ := Store.createTimeline_ok creates.created
    rcases Store.mem_of_put inside with rfl | old
    · exact .inr ⟨creates.opens orderly, w.store.put t, rfl, rfl⟩
    · exact .inl ⟨t, old, rfl⟩
  | switch switches =>
    have same := switches.storages
    have opens := switches.opens orderly
    obtain ⟨position, committed⟩ := switches.committed
    obtain ⟨_, _, _, rfl⟩ := Store.commitSwitch_ok committed
    rcases Store.mem_of_put inside with rfl | inside
    · exact .inr ⟨opens, _, same, rfl⟩
    cases active : w.store.active? _ with
    | none =>
      rw [active] at inside
      exact .inl ⟨t, inside, rfl⟩
    | some a =>
      rw [active] at inside
      rcases Store.mem_of_put inside with rfl | old
      · exact .inl ⟨a, (Store.active_spec active).1, rfl⟩
      · exact .inl ⟨t, old, rfl⟩
  | delete _ deleted =>
    obtain rfl := Store.deleteTimeline_ok deleted
    exact .inl ⟨t, Store.mem_of_erase inside, rfl⟩
  | register writes =>
    refine .inl ⟨t, ?_, rfl⟩
    rw [← writes.timelines]
    exact inside

theorem keeps (writes : call.Writes w w₁) (keyed : w.store.Keyed) (orderly : w.Orderly)
    {t u : Timeline} {id : Uuid} (before : w.store.timeline? id = some t)
    (after : w₁.store.timeline? id = some u) : u = { t with lastPosition := u.lastPosition } := by
  obtain rfl := keyed id t before
  have same := writes.keyed keyed t.id u after
  rcases writes.stored orderly (Table.mem_values_iff.2 ⟨t.id, after⟩) with ⟨v, old, known⟩ | ⟨opens, -⟩
  · have named : v.id = t.id := by rw [← same, known]
    obtain rfl := keyed.eq_of_id old (keyed.mem_iff.2 before) named
    exact known
  · -- A new timeline does not take the place of a stored one, whose id the store would refuse.
    rw [← same] at before
    exact nomatch opens.free.symm.trans before

end ServiceCall.Writes

/-- Worlds, each after a turn more than the one before; at first there are no timelines. -/
structure History (sync : TimelineSync World) where
  world : Nat → World
  empty : (world 0).store.timelines = .empty
  orderly : (world 0).Orderly
  turns : ∀ n, (world n).Proceeds sync (world (n + 1))

namespace History

variable {sync : TimelineSync World} {h : History sync} {n : Nat}

/-- The history of some calls, after which nothing happens any more. -/
def ofCalls (sync : TimelineSync World) (w : World) (calls : List ServiceCall)
    (empty : w.store.timelines = .empty) (orderly : w.Orderly) : History sync where
  world n := (calls.take n).foldl (fun w call => ((call.under sync).alone w).2) w
  empty := empty
  orderly := orderly
  turns n := by
    by_cases more : n < calls.length
    · rw [List.take_succ_eq_append_getElem more, List.foldl_append]
      exact .call calls[n]
    · rw [List.take_of_length_le (by omega : calls.length ≤ n),
        List.take_of_length_le (by omega : calls.length ≤ n + 1)]
      exact .between (.refl _)

theorem ofCalls_world_of_le {w : World} {calls : List ServiceCall}
    {empty : w.store.timelines = .empty} {orderly : w.Orderly} (after : calls.length ≤ n) :
    (ofCalls sync w calls empty orderly).world n =
      (ofCalls sync w calls empty orderly).world calls.length := by
  simp only [ofCalls, List.take_of_length_le after, List.take_length]

theorem no_timelines (h : History sync) (t : Timeline) :
    t ∉ (h.world 0).store.timelines.values := by
  rw [h.empty]
  exact List.not_mem_nil

theorem keyed (own : sync.Only World.Fencing) (h : History sync) (n : Nat) :
    (h.world n).store.Keyed := by
  induction n with
  | zero => exact (Store.sequenced_of_no_timelines h.empty).keyed
  | succ n ih =>
    obtain ⟨call, w₁, writes, between⟩ := (h.turns n).writes own ih
    rw [Store.Keyed, between.timelines]
    exact writes.keyed ih

theorem writes (own : sync.Only World.Fencing) (h : History sync) (n : Nat) :
    ∃ (call : ServiceCall) (w₁ : World),
      call.Writes (h.world n) w₁ ∧ w₁.Between (h.world (n + 1)) :=
  (h.turns n).writes own (h.keyed own n)

theorem orderly_at (own : sync.Only World.Fencing) (h : History sync) (n : Nat) :
    (h.world n).Orderly := by
  induction n with
  | zero => exact h.orderly
  | succ n ih =>
    obtain ⟨call, w₁, writes, between⟩ := h.writes own n
    exact between.orderly (writes.orderly ih)

/-- A timeline with an id is stored at each time from one to another. -/
def StoresTimeline (h : History sync) (id : Uuid) (i j : Nat) : Prop :=
  ∀ k, i ≤ k → k ≤ j → (h.world k).store.timelines.contains id = true

/-- The storage with an id is there at each time from one to another. -/
def StoresStorage (h : History sync) (id : String) (i j : Nat) : Prop :=
  ∀ k, i ≤ k → k ≤ j → (h.world k).HasStorage id

end History

end Cutover
