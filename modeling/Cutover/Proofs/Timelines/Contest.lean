import Cutover.Proofs.Operation.Upholds
import Cutover.Proofs.Timelines.Commits

set_option autoImplicit false

namespace Cutover

/-- What a rival owns: the id of a timeline that it has made, or the order of one that it has
committed. -/
inductive Bid where
  | draft (id : Uuid)
  | won (order : Nat)
  deriving DecidableEq

namespace World

/-- No call of a collaborator is made to fail. -/
structure Calm (w : World) : Prop where
  switches : w.store.failSwitch = false
  positions : ∀ number worker, w.workers.get? number = some worker → worker.failPosition = false
  starts : w.recorder.refuseStart = none

/-- What may have happened to stored timelines and to topics: a timeline has got its end, new ones
have come, and there are further topics. -/
structure Later (w w' : World) : Prop where
  stored : ∀ t ∈ w.store.timelines.values, ∃ u ∈ w'.store.timelines.values, t.Continues u
  topics : ∀ number topic, w.HasTopic number topic → w'.HasTopic number topic

/-- A change of the world outside a contest: of storages, event types, workers, fences and the time.
If calls are not to be made to fail, they are not. -/
structure Outside (calm : Prop) (w w' : World) : Prop where
  timelines : w'.store.timelines = w.store.timelines
  ids : w'.ids = w.ids
  topics : ∀ number topic, w.HasTopic number topic → w'.HasTopic number topic
  calm : calm → w.Calm → w'.Calm

def Fencing (w w' : World) : Prop :=
  ∃ fences recorder, recorder.refuseStart = w.recorder.refuseStart ∧
    w' = { w with fences := fences, recorder := recorder }

variable {w w' w'' : World} {calm : Prop}

theorem Later.refl (w : World) : w.Later w :=
  ⟨fun t inside => ⟨t, inside, .refl t⟩, fun _ _ has => has⟩

theorem Later.trans (first : w.Later w') (second : w'.Later w'') : w.Later w'' where
  stored t inside := by
    obtain ⟨u, inside', continues⟩ := first.stored t inside
    obtain ⟨v, inside'', continues'⟩ := second.stored u inside'
    exact ⟨v, inside'', continues.trans continues'⟩
  topics number topic has := second.topics number topic (first.topics number topic has)

theorem Outside.later (outside : w.Outside calm w') : w.Later w' where
  stored t inside := ⟨t, outside.timelines ▸ inside, .refl t⟩
  topics := outside.topics

theorem Fencing.outside (fencing : w.Fencing w') : w.Outside calm w' := by
  obtain ⟨fences, recorder, same, rfl⟩ := fencing
  exact ⟨rfl, rfl, fun _ _ has => has,
    fun _ calm => ⟨calm.switches, calm.positions, same ▸ calm.starts⟩⟩

theorem Consulted.outside (consulted : w.Consulted w') : w.Outside calm w' := by
  obtain ⟨workers, consulted, rfl⟩ := consulted
  refine ⟨rfl, rfl, fun _ _ has => has.extends consulted.extension, fun _ calm => ?_⟩
  refine ⟨calm.switches, fun number worker found => ?_, calm.starts⟩
  obtain ⟨old, found', same⟩ := consulted.failing number worker found
  exact same.trans (calm.positions number old found')

end World

/-- An event type that rivals make timelines for, and whether no call is made to fail. -/
structure Contest where
  eventType : String
  calm : Prop

namespace Contest

variable {c : Contest} {w w' : World} {s : Store} {owned : Multiset Bid} {t a next : Timeline}
  {active : Option Timeline}

/-- The timelines of the event type are in sequence. Drafts have ids that were drawn and are not
stored, and of the orders that were won there is a timeline each. -/
structure Holds (c : Contest) (w : World) (owned : Multiset Bid) : Prop where
  keyed : w.store.Keyed
  sequenced : (w.store.part c.eventType).Sequenced
  stored : ∀ t ∈ w.store.timelines.values, w.ids.Drawn t.id ∧ .draft t.id ∉ owned
  distinct : owned.Nodup
  drawn : ∀ id, .draft id ∈ owned → w.ids.Drawn id
  won : ∀ order, .won order ∈ owned →
    ∃ t ∈ w.store.timelines.values, t.eventType = c.eventType ∧ t.order = order
  calm : c.calm → w.Calm

/-- A step leaves the timelines as they are or commits one of the event type. -/
def Step (c : Contest) (w w' : World) : Prop :=
  w.Later w' ∧ (w'.store.timelines = w.store.timelines ∨ ∃ active next,
    next.eventType = c.eventType ∧ w.store.Commits active next w'.store)

/-- The ids that were drawn have to be distinct. -/
def rules (c : Contest) : Rules World Bid where
  provided w := w.ids.Fresh
  step := c.Step
  later := World.Later
  holds := c.Holds
  step_refl w := ⟨.refl w, .inl rfl⟩
  later_trans := .trans
  later_of_step step := step.1

/-- A timeline that was stored when it was seen, or that was committed. -/
def Stored (t : Timeline) (w : World) : Prop :=
  ∃ u ∈ w.store.timelines.values, t.Continues u

theorem stable_stored (t : Timeline) : c.rules.Stable (Stored t) := by
  rintro w w' later ⟨u, inside, continues⟩
  obtain ⟨v, inside', continues'⟩ := later.stored u inside
  exact ⟨v, inside', continues.trans continues'⟩

theorem stable_topic (number : Nat) (topic : String) :
    c.rules.Stable fun w => w.HasTopic number topic :=
  fun _ _ later has => later.topics number topic has

/-- What was the active timeline has ended, or where there was none there is one now. -/
def Outdated (c : Contest) : Option Timeline → World → Prop
  | none, w => ∃ t ∈ w.store.timelines.values, t.eventType = c.eventType
  | some a, w => ∃ u ∈ w.store.timelines.values, a.Continues u ∧ u.lastPosition.isSome = true

theorem stable_outdated (active : Option Timeline) : c.rules.Stable (c.Outdated active) := by
  intro w w' later outdated
  cases active with
  | none =>
    obtain ⟨t, inside, named⟩ := outdated
    obtain ⟨u, inside', continues⟩ := later.stored t inside
    refine ⟨u, inside', ?_⟩
    rw [← named, continues.knows]
  | some a =>
    obtain ⟨u, inside, continues, ended⟩ := outdated
    obtain ⟨v, inside', continues'⟩ := later.stored u inside
    obtain rfl := continues'.eq_of_ended ended
    exact ⟨v, inside', continues, ended⟩

theorem Holds.outside (held : c.Holds w owned) (outside : w.Outside c.calm w') :
    c.Holds w' owned where
  keyed := by
    rw [Store.Keyed, outside.timelines]
    exact held.keyed
  sequenced := held.sequenced.of_timelines_eq (Store.part_of_timelines_eq outside.timelines)
  stored := by
    rw [outside.timelines, outside.ids]
    exact held.stored
  distinct := held.distinct
  drawn := by
    rw [outside.ids]
    exact held.drawn
  won := by
    rw [outside.timelines]
    exact held.won
  calm calm := outside.calm calm (held.calm calm)

theorem harmless_outside (outside : w.Outside c.calm w') : c.rules.Harmless w w' where
  provided fresh := by
    change w.ids.Fresh
    rw [← outside.ids]
    exact fresh
  keeps _ _ held := ⟨⟨outside.later, .inl outside.timelines⟩, held.outside outside⟩

theorem moves_draw (k : c.rules.Footing) (w : World) :
    c.rules.Moves k w (k.owning (.draft w.ids.draw.1 ::ₘ k.owns))
      { w with ids := w.ids.draw.2 } where
  provided fresh := fresh.of_draw
  moves fresh others held known := by
    have undrawn : Bid.draft w.ids.draw.1 ∉ k.owns + others :=
      fun member => fresh.not_drawn (held.drawn _ member)
    have later : w.Later { w with ids := w.ids.draw.2 } :=
      ⟨(World.Later.refl w).stored, fun _ _ has => has⟩
    refine ⟨⟨later, .inl rfl⟩, k.stable _ _ later known, ?_⟩
    show c.Holds _ ((Bid.draft w.ids.draw.1 ::ₘ k.owns) + others)
    rw [Multiset.cons_add]
    refine ⟨held.keyed, held.sequenced, ?_, ?_, ?_, ?_, fun calm => ?_⟩
    · intro t inside
      obtain ⟨drawn, apart⟩ := held.stored t inside
      refine ⟨IdSource.drawn_draw_iff.2 (.inr drawn), ?_⟩
      rw [Multiset.mem_cons, not_or]
      refine ⟨fun same => fresh.not_drawn ?_, apart⟩
      injection same with same
      exact same ▸ drawn
    · exact Multiset.nodup_cons.2 ⟨undrawn, held.distinct⟩
    · intro id member
      rcases Multiset.mem_cons.1 member with same | old
      · injection same with same
        exact IdSource.drawn_draw_iff.2 (.inl same)
      · exact IdSource.drawn_draw_iff.2 (.inr (held.drawn id old))
    · intro order member
      rcases Multiset.mem_cons.1 member with same | old
      · exact nomatch same
      · exact held.won order old
    · obtain ⟨switches, positions, starts⟩ := held.calm calm
      exact ⟨switches, positions, starts⟩

theorem Holds.commit {others : Multiset Bid} (held : c.Holds w (.draft next.id ::ₘ others))
    (named : next.eventType = c.eventType) (commits : w.store.Commits active next s) :
    c.Holds (w.withStore s) (.won next.order ::ₘ others) := by
  have sequenced : (w.store.part next.eventType).Sequenced := named ▸ held.sequenced
  obtain ⟨undrafted, distinct⟩ := Multiset.nodup_cons.1 held.distinct
  refine ⟨commits.keyed held.keyed, ?_, ?_, ?_, ?_, ?_, fun calm => ?_⟩
  · exact named ▸ commits.part.sequenced sequenced
  · intro t inside
    rw [Multiset.mem_cons, not_or]
    rcases commits.written held.keyed inside with rfl | ⟨u, old, same⟩
    · exact ⟨held.drawn _ (Multiset.mem_cons_self _ _), nofun, undrafted⟩
    · obtain ⟨drawn, apart⟩ := held.stored u old
      rw [same]
      exact ⟨drawn, nofun, fun member => apart (Multiset.mem_cons_of_mem member)⟩
  · refine Multiset.nodup_cons.2 ⟨fun member => ?_, distinct⟩
    obtain ⟨t, inside, ours, order⟩ := held.won _ (Multiset.mem_cons_of_mem member)
    have inside : t ∈ (w.store.part next.eventType).timelines.values :=
      Store.mem_part.2 ⟨inside, ours.trans named.symm⟩
    exact commits.part.order_free sequenced t inside (ours.trans named.symm) order
  · intro id member
    rcases Multiset.mem_cons.1 member with same | old
    · exact nomatch same
    · exact held.drawn id (Multiset.mem_cons_of_mem old)
  · intro order member
    rcases Multiset.mem_cons.1 member with same | old
    · injection same with same
      exact ⟨next, commits.stored held.keyed, named, same.symm⟩
    · obtain ⟨t, inside, ours, order⟩ := held.won order (Multiset.mem_cons_of_mem old)
      obtain ⟨u, inside', continues⟩ := commits.keeps held.keyed sequenced inside
      rw [continues.knows] at ours order
      exact ⟨u, inside', ours, order⟩
  · obtain ⟨switches, positions, starts⟩ := held.calm calm
    exact ⟨commits.failSwitch.trans switches, positions, starts⟩

theorem moves_commit {k : c.rules.Footing} (active : Option Timeline) (next : Timeline)
    (owns : k.owns = {.draft next.id}) (named : next.eventType = c.eventType)
    (commits : ∀ others, w.ids.Fresh → c.Holds w (k.owns + others) → k.holds w →
      w.store.Commits active next s) :
    c.rules.Moves k w ((k.also (stable_stored next)).owning {.won next.order}) (w.withStore s) where
  provided fresh := fresh
  moves fresh others held known := by
    have commits := commits others fresh held known
    rw [owns, Multiset.singleton_add] at held
    have sequenced : (w.store.part next.eventType).Sequenced := named ▸ held.sequenced
    have later : w.Later (w.withStore s) :=
      ⟨fun t inside => commits.keeps held.keyed sequenced inside, fun _ _ has => has⟩
    refine ⟨⟨later, .inr ⟨active, next, named, commits⟩⟩, ⟨k.stable _ _ later known, ?_⟩, ?_⟩
    · exact ⟨next, commits.stored held.keyed, .refl next⟩
    · show c.Holds _ ({Bid.won next.order} + others)
      rw [Multiset.singleton_add]
      exact held.commit named commits

theorem Holds.eq_active {b : Timeline} (held : c.Holds w owned) (stored : Stored a w)
    (active : w.store.active? c.eventType = some b) (same : b.id = a.id) : b = a := by
  obtain ⟨u, inside, continues⟩ := stored
  have ids : u.id = a.id := by rw [continues.knows]
  obtain rfl := held.keyed.eq_of_id inside (Store.active_spec active).1 (ids.trans same.symm)
  have unended := held.sequenced.active_open ((Store.active?_part _ _).trans active)
  rcases continues with rfl | ⟨_, position, rfl⟩
  · rfl
  · exact nomatch unended

theorem Holds.outdated (held : c.Holds w owned)
    (stored : ∀ a, active = some a → a.eventType = c.eventType ∧ Stored a w)
    (moved : (w.store.active? c.eventType).map (·.id) ≠ active.map (·.id)) :
    c.Outdated active w := by
  cases active with
  | none =>
    cases found : w.store.active? c.eventType with
    | none =>
      rw [found] at moved
      exact absurd rfl moved
    | some b =>
      obtain ⟨inside, named, _⟩ := Store.active_spec found
      exact ⟨b, inside, named⟩
  | some a =>
    obtain ⟨named, u, inside, continues⟩ := stored a rfl
    have ours : u.eventType = c.eventType := by rw [← named, continues.knows]
    have ids : u.id = a.id := by rw [continues.knows]
    refine ⟨u, inside, continues, ?_⟩
    apply held.sequenced.ended_of_inactive (Store.mem_part.2 ⟨inside, ours⟩)
    rw [ours, Store.active?_part]
    intro found
    rw [found, Option.map_some, Option.map_some, ids] at moved
    exact moved rfl

/-- The order after the active timeline is not taken, and without one no order is. -/
theorem Holds.outdated_of_taken (held : c.Holds w owned)
    (unmoved : (w.store.active? c.eventType).map (·.id) = active.map (·.id))
    (seen : ∀ a, active = some a → Stored a w)
    (taken : next.orderTaken w.store.timelines.values = true) (named : next.eventType = c.eventType)
    (order : next.order = Timeline.orderAfter active) : c.Outdated active w := by
  obtain ⟨t, inside, same, order'⟩ := Store.orderTaken_spec taken
  have ours : t.eventType = c.eventType := same.trans named
  cases active with
  | none => exact ⟨t, inside, ours⟩
  | some a =>
    obtain ⟨b, found, ids⟩ := Option.map_eq_some_iff.1 unmoved
    obtain rfl := held.eq_active (seen a rfl) found ids
    have highest := held.sequenced.active_highest ((Store.active?_part _ _).trans found)
      (Store.mem_part.2 ⟨inside, ours⟩) ours
    have above : t.order = b.order + 1 := order'.trans order
    omega

end Contest

end Cutover
