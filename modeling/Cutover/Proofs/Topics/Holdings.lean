import Cutover.Proofs.Operation.Upholds
import Cutover.Proofs.Timelines.Drafts
import Cutover.Proofs.Timelines.Orders
import Cutover.Proofs.Topics.Numbers

set_option autoImplicit false

namespace Cutover

/-- The number of partitions of a timeline's topic on the worker of its storage. -/
def World.partitionsOf (w : World) (t : Timeline) : Option Nat := do
  let number ← w.workers.serving.get? t.storage.id
  let worker ← w.workers.get? number
  worker.partitionsOf t.topic

theorem World.partitionsOf_eq_some_iff {w : World} {t : Timeline} {count : Nat} :
    w.partitionsOf t = some count ↔ ∃ number,
      w.workers.serving.get? t.storage.id = some number ∧
        w.HasPartitions number t.topic count := by
  simp only [partitionsOf, Option.bind_eq_bind, Option.bind_eq_some_iff]
  rfl

def World.Tidy (names : Set String) (w : World) : Prop :=
  ∀ number worker, w.workers.get? number = some worker → worker.Tidy names

theorem World.tidy_of_dashless {names : Set String} {w : World}
    (names' : ∀ e ∈ names, '-' ∉ e.toList)
    (topics : ∀ worker ∈ w.workers.all.values, ∀ topic ∈ worker.topics.keys, '-' ∉ topic.toList) :
    w.Tidy names := by
  intro number worker registered
  apply Worker.tidy_of_dashless names'
  exact topics worker (Table.mem_values_iff.2 ⟨number, registered⟩)

/-- What a task owns: the sight of a timeline that was stored, the id of one that is not stored yet,
and a topic of a worker that was laid out for one. -/
inductive Holding where
  | sight (t : Timeline)
  | draft (id : Uuid)
  | topic (number : Nat) (name : String)
  deriving DecidableEq

def Holding.isSight : Holding → Bool
  | .sight _ => true
  | _ => false

namespace Topics

variable {names : Set String} {w w' w'' : World} {owned mine others : Multiset Holding}
  {t u next : Timeline} {count : Nat}

/-- What can have happened to topics: each worker has further ones. -/
structure Grows (w w' : World) : Prop where
  serving : w'.workers.serving = w.workers.serving
  topics : ∀ number topic count, w.HasPartitions number topic count →
    w'.HasPartitions number topic count

theorem Grows.refl (w : World) : Grows w w := ⟨rfl, fun _ _ _ has => has⟩

theorem Grows.trans (first : Grows w w') (second : Grows w' w'') : Grows w w'' where
  serving := second.serving.trans first.serving
  topics number topic count has := second.topics number topic count
    (first.topics number topic count has)

theorem Grows.partitionsOf (grows : Grows w w') (known : w.partitionsOf t = some count) :
    w'.partitionsOf t = some count := by
  rw [World.partitionsOf_eq_some_iff] at known ⊢
  obtain ⟨number, served, has⟩ := known
  exact ⟨number, grows.serving ▸ served, grows.topics number t.topic count has⟩

theorem Grows.partitionsOf_eq (grows : Grows w w') (known : (w.partitionsOf t).isSome = true) :
    w'.partitionsOf t = w.partitionsOf t := by
  obtain ⟨count, found⟩ := Option.isSome_iff_exists.1 known
  rw [found, grows.partitionsOf found]

/-- How the stored timelines and the topics of workers fit together. -/
structure Settled (names : Set String) (w : World) : Prop where
  tidy : w.Tidy names
  serving : ∀ id number, w.workers.serving.get? id = some number →
    ∃ worker, w.workers.get? number = some worker ∧ worker.storage.id = id
  keyed : w.store.Keyed
  orders : Timeline.OrdersDistinct w.store.timelines.values
  laidOut : ∀ t ∈ w.store.timelines.values, (w.partitionsOf t).isSome = true
  /-- A successor's topic is not that of an event type's own name. -/
  apart : ∀ t ∈ w.store.timelines.values, 0 < t.order → t.topic ∉ names
  alone : ∀ t ∈ w.store.timelines.values, ∀ u ∈ w.store.timelines.values, 0 < t.order →
    u.storage.id = t.storage.id → u.topic = t.topic → u.id = t.id
  /-- The end of a timeline tells that it has a successor, and not only a lower order. -/
  inherits : ∀ t ∈ w.store.timelines.values, ∀ u ∈ w.store.timelines.values,
    u.eventType = t.eventType → t.order = u.order + 1 → u.lastPosition.isSome = true →
      w.partitionsOf t = w.partitionsOf u

/-- How all this fits what tasks own. -/
structure Holds (names : Set String) (w : World) (owned : Multiset Holding) : Prop
    extends Settled names w where
  stored : ∀ t ∈ w.store.timelines.values, w.ids.Drawn t.id ∧ .draft t.id ∉ owned
  /-- Any number of tasks can have seen a timeline. -/
  once : ∀ b : Holding, b.isSight = false → owned.count b ≤ 1
  drawn : ∀ id, .draft id ∈ owned → w.ids.Drawn id
  held : ∀ number name, .topic number name ∈ owned → w.HasTopic number name ∧ name ∉ names
  unused : ∀ number name, .topic number name ∈ owned → ∀ t ∈ w.store.timelines.values,
    w.workers.serving.get? t.storage.id = some number → t.topic ≠ name
  seen : ∀ t, .sight t ∈ owned → w.ids.Drawn t.id ∧ .draft t.id ∉ owned ∧ w.store.Knows t

/-- The ids that were drawn have to be distinct. -/
def rules (names : Set String) : Rules World Holding where
  provided w := w.ids.Fresh
  step := Grows
  later := Grows
  holds := Holds names
  step_refl := .refl
  later_trans := .trans
  later_of_step := id

theorem Grows.hasTopic (grows : Grows w w') {number : Nat} {topic : String}
    (has : w.HasTopic number topic) : w'.HasTopic number topic := by
  obtain ⟨worker, count, registered, found⟩ := has
  exact (grows.topics number topic count ⟨worker, registered, found⟩).hasTopic

theorem Holds.grown (holds : Holds names w owned)
    (timelines : w'.store.timelines = w.store.timelines) (ids : w'.ids = w.ids)
    (grows : Grows w w')
    (tidy : w'.Tidy names)
    (serving : ∀ id number, w'.workers.serving.get? id = some number →
      ∃ worker, w'.workers.get? number = some worker ∧ worker.storage.id = id) :
    Holds names w' owned where
  tidy := tidy
  serving := serving
  keyed := by
    rw [Store.Keyed, timelines]
    exact holds.keyed
  orders := timelines ▸ holds.orders
  laidOut t inside := by
    rw [timelines] at inside
    rw [grows.partitionsOf_eq (holds.laidOut t inside)]
    exact holds.laidOut t inside
  apart := timelines ▸ holds.apart
  alone := timelines ▸ holds.alone
  inherits t inside u inside' named order ended := by
    rw [timelines] at inside inside'
    rw [grows.partitionsOf_eq (holds.laidOut t inside),
      grows.partitionsOf_eq (holds.laidOut u inside')]
    exact holds.inherits t inside u inside' named order ended
  stored := by
    rw [timelines, ids]
    exact holds.stored
  once := holds.once
  drawn := ids ▸ holds.drawn
  held number name here := (holds.held number name here).imp_left grows.hasTopic
  unused := by
    rw [timelines, grows.serving]
    exact holds.unused
  seen t here := by
    rw [ids, Store.Knows, timelines]
    exact holds.seen t here

/-- A change that leaves timelines, ids and topics as they are. -/
structure Alike (w w' : World) : Prop where
  timelines : w'.store.timelines = w.store.timelines
  ids : w'.ids = w.ids
  serving : w'.workers.serving = w.workers.serving
  workers : ∀ number, (w'.workers.get? number).map (fun worker => (worker.storage, worker.topics)) =
    (w.workers.get? number).map fun worker => (worker.storage, worker.topics)

theorem Alike.symm (alike : Alike w w') : Alike w' w :=
  ⟨alike.timelines.symm, alike.ids.symm, alike.serving.symm, fun number =>
    (alike.workers number).symm⟩

theorem Alike.worker (alike : Alike w w') {number : Nat} {worker : Worker}
    (registered : w.workers.get? number = some worker) :
    ∃ worker', w'.workers.get? number = some worker' ∧ worker'.storage = worker.storage ∧
      worker'.topics = worker.topics := by
  have same := alike.workers number
  rw [registered] at same
  obtain ⟨worker', found, both⟩ := Option.map_eq_some_iff.1 same
  obtain ⟨storage, topics⟩ := Prod.mk.inj both
  exact ⟨worker', found, storage, topics⟩

theorem Alike.grows (alike : Alike w w') : Grows w w' where
  serving := alike.serving
  topics number topic count has := by
    obtain ⟨worker, registered, found⟩ := has
    obtain ⟨worker', registered', -, topics⟩ := alike.worker registered
    exact ⟨worker', registered', topics ▸ found⟩

theorem Holds.alike (holds : Holds names w owned) (alike : Alike w w') : Holds names w' owned := by
  apply holds.grown alike.timelines alike.ids alike.grows
  · intro number worker registered
    obtain ⟨worker', registered', -, topics⟩ := alike.symm.worker registered
    have tidy := holds.tidy number worker' registered'
    rw [Worker.Tidy, topics] at tidy
    exact tidy
  · intro id number served
    rw [alike.serving] at served
    obtain ⟨worker, registered, same⟩ := holds.serving id number served
    obtain ⟨worker', registered', storage, -⟩ := alike.worker registered
    exact ⟨worker', registered', by rw [storage, same]⟩

theorem harmless_alike (alike : Alike w w') : (rules names).Harmless w w' where
  provided fresh := by
    change w.ids.Fresh
    rw [← alike.ids]
    exact fresh
  keeps _ _ holds := ⟨alike.grows, holds.alike alike⟩

theorem grows_of_extends (extends' : w.workers.Extends w'.workers) : Grows w w' :=
  ⟨extends'.serving, fun _ _ _ has => has.extends extends'⟩

section Modifying

variable {number : Nat} {worker : Worker} {change : Worker → Worker}

theorem Holds.modify (holds : Holds names w owned)
    (registered : w.workers.get? number = some worker) (extends' : worker.Extends (change worker))
    (tidy : (change worker).Tidy names) :
    Holds names (w.withWorkers (w.workers.modify number change)) owned := by
  have modified : (w.workers.modify number change).get? number = some (change worker) :=
    Table.get?_modify_of_get? change registered
  have others : ∀ other, other ≠ number →
      (w.workers.modify number change).get? other = w.workers.get? other :=
    fun other apart => Table.get?_modify_of_ne _ change apart
  refine holds.grown rfl rfl (grows_of_extends (.modify registered extends')) ?_ ?_
  · intro other found registered'
    by_cases same : other = number
    · subst same
      obtain rfl := Option.some.inj (modified.symm.trans registered')
      exact tidy
    · exact holds.tidy other found ((others other same).symm.trans registered')
  · intro id other served
    obtain ⟨found, registered', same⟩ := holds.serving id other served
    by_cases here : other = number
    · subst here
      obtain rfl := Option.some.inj (registered.symm.trans registered')
      exact ⟨change worker, modified, by rw [extends'.storage, same]⟩
    · exact ⟨found, (others other here).trans registered', same⟩

theorem harmless_modify (registered : w.workers.get? number = some worker)
    (extends' : worker.Extends (change worker))
    (tidy : worker.Tidy names → (change worker).Tidy names) :
    (rules names).Harmless w (w.withWorkers (w.workers.modify number change)) where
  provided fresh := fresh
  keeps _ _ holds := ⟨grows_of_extends (.modify registered extends'),
    holds.modify registered extends' (tidy (holds.tidy number worker registered))⟩

end Modifying

theorem not_owned_twice {b : Holding} (once : (mine + others).count b ≤ 1) (here : b ∈ mine) :
    b ∉ others := by
  intro there
  rw [Multiset.count_add] at once
  have := Multiset.count_pos.2 here
  have := Multiset.count_pos.2 there
  omega

theorem count_cons_le {b c : Holding} (free : b ∉ owned) (once : owned.count c ≤ 1) :
    (b ::ₘ owned).count c ≤ 1 := by
  rw [Multiset.count_cons]
  split
  · next same =>
    subst same
    rw [Multiset.count_eq_zero.2 free]
  · exact once

theorem Holds.own_sight (holds : Holds names w owned) (inside : t ∈ w.store.timelines.values) :
    Holds names w (.sight t ::ₘ owned) where
  toSettled := holds.toSettled
  stored u inside' := by simpa using holds.stored u inside'
  once b unseen := by
    have apart : b ≠ .sight t := by
      rintro rfl
      exact nomatch unseen
    rw [Multiset.count_cons_of_ne apart]
    exact holds.once b unseen
  drawn id here := holds.drawn id (by simpa using here)
  held number name here := holds.held number name (by simpa using here)
  unused number name here := holds.unused number name (by simpa using here)
  seen u here := by
    rcases Multiset.mem_cons.1 here with same | old
    · obtain rfl := Holding.sight.inj same
      obtain ⟨drawn, undrafted⟩ := holds.stored u inside
      refine ⟨drawn, by simpa using undrafted, fun v inside' ids => ?_⟩
      rw [holds.keyed.eq_of_id inside' inside ids]
    · simpa using holds.seen u old

theorem Holds.own_draft (fresh : w.ids.draw.2.Fresh) (holds : Holds names w owned) :
    Holds names { w with ids := w.ids.draw.2 } (.draft w.ids.draw.1 ::ₘ owned) := by
  have undrafted : .draft w.ids.draw.1 ∉ owned :=
    fun here => fresh.not_drawn (holds.drawn _ here)
  have apart : ∀ id, w.ids.Drawn id → .draft id ∉ owned →
      .draft id ∉ (.draft w.ids.draw.1 ::ₘ owned : Multiset Holding) := by
    intro id drawn free here
    rcases Multiset.mem_cons.1 here with same | old
    · exact fresh.not_drawn (Holding.draft.inj same ▸ drawn)
    · exact free old
  exact
    { toSettled := { holds.toSettled with }
      stored := fun t inside => by
        obtain ⟨drawn, free⟩ := holds.stored t inside
        exact ⟨IdSource.drawn_draw_iff.2 (.inr drawn), apart t.id drawn free⟩
      once := fun b unseen => count_cons_le undrafted (holds.once b unseen)
      drawn := fun id here => by
        rw [IdSource.drawn_draw_iff]
        rcases Multiset.mem_cons.1 here with same | old
        · exact .inl (Holding.draft.inj same)
        · exact .inr (holds.drawn id old)
      held := fun number name here => holds.held number name (by simpa using here)
      unused := fun number name here => holds.unused number name (by simpa using here)
      seen := fun t here => by
        obtain ⟨drawn, free, knows⟩ := holds.seen t (by simpa using here)
        exact ⟨IdSource.drawn_draw_iff.2 (.inr drawn), apart t.id drawn free, knows⟩ }

/-- A new topic of a worker that is not called like an event type can be taken. -/
theorem Holds.own_topic {number : Nat} {name : String} (holds : Holds names w owned)
    (has : w.HasTopic number name) (uncalled : name ∉ names)
    (new : .topic number name ∉ owned) (unused : ∀ t ∈ w.store.timelines.values,
      w.workers.serving.get? t.storage.id = some number → t.topic ≠ name) :
    Holds names w (.topic number name ::ₘ owned) where
  toSettled := holds.toSettled
  stored t inside := by simpa using holds.stored t inside
  once b unseen := count_cons_le new (holds.once b unseen)
  drawn id here := holds.drawn id (by simpa using here)
  held other topic here := by
    rcases Multiset.mem_cons.1 here with same | old
    · obtain ⟨rfl, rfl⟩ := Holding.topic.inj same
      exact ⟨has, uncalled⟩
    · exact holds.held other topic old
  unused other topic here := by
    rcases Multiset.mem_cons.1 here with same | old
    · obtain ⟨rfl, rfl⟩ := Holding.topic.inj same
      exact unused
    · exact holds.unused other topic old
  seen t here := by simpa using holds.seen t (by simpa using here)

theorem stable_partitions (number : Nat) (topic : String) (count : Nat) :
    (rules names).Stable fun w => w.HasPartitions number topic count :=
  fun _ _ grows has => grows.topics number topic count has

/-- A task has a numbered topic laid out for itself, with the partitions that it asks for. -/
theorem moves_number (k : (rules names).Footing) {number : Nat} {e : String}
    {partitions : Option Nat} {worker : Worker} (named : e ∈ names)
    (registered : w.workers.get? number = some worker) :
    (rules names).Moves k w
      ((k.also (stable_partitions number (worker.layOut e partitions false).1
        (partitions.getD worker.defaultPartitions))).owning
          (.topic number (worker.layOut e partitions false).1 ::ₘ k.owns))
      (w.withWorkers (w.workers.modify number fun _ => (worker.layOut e partitions false).2)) where
  provided fresh := fresh
  moves _ others holds known := by
    have tidy := holds.tidy number worker registered
    obtain ⟨uncalled, free⟩ := tidy.unused named
    have extends' : worker.Extends (worker.layOut e partitions false).2 := worker.extends_topics ..
    have grows : Grows w (w.withWorkers (w.workers.modify number fun _ =>
        (worker.layOut e partitions false).2)) := grows_of_extends (.modify registered extends')
    have registered' : (w.workers.modify number fun _ => (worker.layOut e partitions false).2).get?
        number = some (worker.layOut e partitions false).2 := Table.get?_modify_of_get? _ registered
    have laidOut := worker.layOut_partitions e partitions false
    have untaken : ∀ count, ¬w.HasPartitions number (worker.layOut e partitions false).1 count := by
      rintro count ⟨worker', registered', found⟩
      obtain rfl := Option.some.inj (registered.symm.trans registered')
      exact nomatch free.symm.trans found
    have new : .topic number (worker.layOut e partitions false).1 ∉ k.owns + others := by
      intro here
      obtain ⟨worker', count, registered', found⟩ := (holds.held _ _ here).1
      exact untaken count ⟨worker', registered', found⟩
    have holds' : Holds names (w.withWorkers (w.workers.modify number fun _ =>
        (worker.layOut e partitions false).2)) (k.owns + others) :=
      holds.modify registered extends' (tidy.layOut named partitions false)
    refine ⟨grows, ⟨k.stable _ _ grows known, _, registered', ?_⟩, ?_⟩
    · rw [Worker.partitionsOf, Worker.partitionsOf] at laidOut
      rw [laidOut, Worker.layOut_numbered, free]
      rfl
    · change Holds names _ (_ ::ₘ k.owns + others)
      rw [Multiset.cons_add]
      apply holds'.own_topic ⟨_, _, registered', laidOut⟩ uncalled new
      intro t inside served same
      obtain ⟨count, known⟩ := Option.isSome_iff_exists.1 (holds.laidOut t inside)
      obtain ⟨other, served', has⟩ := World.partitionsOf_eq_some_iff.1 known
      obtain rfl := Option.some.inj (served.symm.trans served')
      rw [same] at has
      exact untaken count has

/-- A timeline is stored with a topic that its task has laid out for it, or as the first one on the
topic of an event type's own name. -/
theorem Holds.put (holds : Holds names w (mine + others)) (drafted : .draft next.id ∈ mine)
    (untaken : next.orderTaken w.store.timelines.values = false) (unended : next.lastPosition = none)
    (laidOut : (w.partitionsOf next).isSome = true)
    (laid : next.order = 0 ∧ next.topic ∈ names ∨ ∃ number,
      w.workers.serving.get? next.storage.id = some number ∧ .topic number next.topic ∈ mine)
    (inherits : ∀ u ∈ w.store.timelines.values, u.eventType = next.eventType →
      next.order = u.order + 1 → w.partitionsOf next = w.partitionsOf u) :
    Holds names (w.withStore (w.store.put next)) others := by
  have keyed := holds.keyed
  have mine' : ∀ {b}, b ∈ mine → b ∈ mine + others := fun here => Multiset.mem_add.2 (.inl here)
  have others' : ∀ {b}, b ∈ others → b ∈ mine + others := fun here => Multiset.mem_add.2 (.inr here)
  have cases : ∀ t ∈ (w.store.put next).timelines.values, t = next ∨ t ∈ w.store.timelines.values :=
    fun t inside => (keyed.mem_put.1 inside).imp_right And.left
  -- The next timeline's topic is taken by no other, unless by a first one of the same name.
  have apart : ∀ u ∈ w.store.timelines.values, u.storage.id = next.storage.id →
      u.topic = next.topic → next.order = 0 ∧ u.topic ∈ names := by
    intro u inside same topic
    rcases laid with ⟨first, called⟩ | ⟨number, served, here⟩
    · exact ⟨first, topic ▸ called⟩
    · exact absurd topic (holds.unused number next.topic (mine' here) u inside (same ▸ served))
  exact
    { tidy := holds.tidy
      serving := holds.serving
      keyed := keyed.put next
      orders := (keyed.ordersDistinct_put_iff holds.orders next).2 untaken
      laidOut := fun t inside => by
        rcases cases t inside with rfl | old
        · exact laidOut
        · exact holds.laidOut t old
      apart := fun t inside above => by
        rcases cases t inside with rfl | old
        · rcases laid with ⟨first, -⟩ | ⟨number, -, here⟩
          · exact absurd first (Nat.ne_of_gt above)
          · exact (holds.held number t.topic (mine' here)).2
        · exact holds.apart t old above
      alone := fun t inside u inside' above storage topic => by
        rcases cases t inside with rfl | old
        · rcases cases u inside' with rfl | old'
          · rfl
          · exact absurd (apart u old' storage topic).1 (Nat.ne_of_gt above)
        · rcases cases u inside' with rfl | old'
          · exact absurd (apart t old storage.symm topic.symm).2 (holds.apart t old above)
          · exact holds.alone t old u old' above storage topic
      inherits := fun t inside u inside' named order ended => by
        rcases cases u inside' with rfl | old'
        · rw [unended] at ended
          exact nomatch ended
        · rcases cases t inside with rfl | old
          · exact inherits u old' named order
          · exact holds.inherits t old u old' named order ended
      stored := fun t inside => by
        rcases cases t inside with rfl | old
        · exact ⟨holds.drawn _ (mine' drafted), not_owned_twice (holds.once _ rfl) drafted⟩
        · exact (holds.stored t old).imp_right fun free here => free (others' here)
      once := fun b unseen =>
        (Multiset.count_le_of_le b (Multiset.le_add_left others mine)).trans (holds.once b unseen)
      drawn := fun id here => holds.drawn id (others' here)
      held := fun number name here => holds.held number name (others' here)
      unused := fun number name here t inside served same => by
        rcases cases t inside with rfl | old
        · subst same
          rcases laid with ⟨-, called⟩ | ⟨other, served', mine''⟩
          · exact (holds.held number t.topic (others' here)).2 called
          · obtain rfl := Option.some.inj (served.symm.trans served')
            exact not_owned_twice (holds.once _ rfl) mine'' here
        · exact holds.unused number name (others' here) t old served same
      seen := fun t here => by
        obtain ⟨drawn, free, knows⟩ := holds.seen t (others' here)
        refine ⟨drawn, fun here' => free (others' here'), fun u inside same => ?_⟩
        rcases cases u inside with rfl | old
        · exact absurd (mine' drafted) (same ▸ free)
        · exact knows u old same }

theorem Holds.seal (holds : Holds names w owned) (stored : t ∈ w.store.timelines.values)
    (last : ∀ u ∈ w.store.timelines.values, u.eventType = t.eventType → u.order ≠ t.order + 1)
    (position : Option Position) :
    Holds names (w.withStore (w.store.put { t with lastPosition := position })) owned := by
  have keyed := holds.keyed
  -- Each timeline was stored before, at most without the end.
  have before : ∀ u ∈ (w.store.put { t with lastPosition := position }).timelines.values,
      ∃ v ∈ w.store.timelines.values, ∃ p, u = { v with lastPosition := p } ∧ (u = v ∨ v = t) := by
    intro u inside
    rcases keyed.mem_put.1 inside with rfl | ⟨old, -⟩
    · exact ⟨t, stored, position, rfl, .inr rfl⟩
    · exact ⟨u, old, u.lastPosition, rfl, .inl rfl⟩
  exact
    { tidy := holds.tidy
      serving := holds.serving
      keyed := keyed.put _
      orders := by
        refine (keyed.ordersDistinct_put_iff holds.orders _).2 (Bool.eq_false_iff.2 fun taken => ?_)
        obtain ⟨u, inside, apart, named, order⟩ := Timeline.orderTaken_iff.1 taken
        obtain rfl := holds.orders u inside t stored named order
        exact apart rfl
      laidOut := fun u inside => by
        obtain ⟨v, old, _, rfl, -⟩ := before u inside
        exact holds.laidOut v old
      apart := fun u inside above => by
        obtain ⟨v, old, _, rfl, -⟩ := before u inside
        exact holds.apart v old above
      alone := fun u inside u' inside' above storage topic => by
        obtain ⟨v, old, _, rfl, -⟩ := before u inside
        obtain ⟨v', old', _, rfl, -⟩ := before u' inside'
        exact holds.alone v old v' old' above storage topic
      inherits := fun u inside u' inside' named order ended => by
        obtain ⟨v, old, _, rfl, -⟩ := before u inside
        obtain ⟨v', old', _, rfl, same | rfl⟩ := before u' inside'
        · rw [same] at ended
          exact holds.inherits v old v' old' named order ended
        · exact absurd order (last v old named.symm)
      stored := fun u inside => by
        obtain ⟨v, old, _, rfl, -⟩ := before u inside
        exact holds.stored v old
      once := holds.once
      drawn := holds.drawn
      held := holds.held
      unused := fun number name here u inside served => by
        obtain ⟨v, old, _, rfl, -⟩ := before u inside
        exact holds.unused number name here v old served
      seen := fun u here => by
        obtain ⟨drawn, free, knows⟩ := holds.seen u here
        refine ⟨drawn, free, fun u' inside same => ?_⟩
        obtain ⟨v, old, _, rfl, -⟩ := before u' inside
        exact knows v old same }

theorem Holds.erase (holds : Holds names w owned) (id : Uuid) :
    Holds names (w.withStore { w.store with timelines := w.store.timelines.erase id }) owned := by
  have before : ∀ t ∈ (w.store.timelines.erase id).values, t ∈ w.store.timelines.values :=
    fun t inside => ((holds.keyed.mem_erase id).1 inside).1
  exact
    { tidy := holds.tidy
      serving := holds.serving
      keyed := holds.keyed.erase id
      orders := fun t inside u inside' => holds.orders t (before t inside) u (before u inside')
      laidOut := fun t inside => holds.laidOut t (before t inside)
      apart := fun t inside => holds.apart t (before t inside)
      alone := fun t inside u inside' => holds.alone t (before t inside) u (before u inside')
      inherits := fun t inside u inside' => holds.inherits t (before t inside) u (before u inside')
      stored := fun t inside => holds.stored t (before t inside)
      once := holds.once
      drawn := holds.drawn
      held := holds.held
      unused := fun number name here t inside => holds.unused number name here t (before t inside)
      seen := fun t here => (holds.seen t here).imp_right fun rest => rest.imp_right fun knows u inside =>
        knows u (before u inside) }

theorem harmless_erase (w : World) (id : Uuid) : (rules names).Harmless w
    (w.withStore { w.store with timelines := w.store.timelines.erase id }) where
  provided fresh := fresh
  keeps _ _ holds := ⟨⟨rfl, fun _ _ _ has => has⟩, holds.erase id⟩

end Topics

end Cutover
