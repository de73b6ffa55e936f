import Cutover.Proofs.Histories
import Cutover.Proofs.Topics.Holdings

set_option autoImplicit false

namespace Cutover

open Operation

namespace Topics

variable {names : Set String} {k k' : (rules names).Footing} {w : World} {e : String}
  {failed : TimelineError → (rules names).Footing → Prop}

theorem stable_serves (id : String) (number : Nat) :
    (rules names).Stable fun w => w.workers.serving.get? id = some number := by
  intro w w' grows served
  rw [grows.serving]
  exact served

def Serves (k : (rules names).Footing) (id : String) (number : Nat) : Prop :=
  k.Grants fun w => w.workers.serving.get? id = some number

/-- A timeline's topic has so many partitions. -/
def Counts (k : (rules names).Footing) (t : Timeline) (count : Nat) : Prop :=
  k.Grants fun w => w.partitionsOf t = some count

theorem counts_of_serves {t : Timeline} {number count : Nat} (serves : Serves k t.storage.id number)
    (has : k.Grants fun w => w.HasPartitions number t.topic count) : Counts k t count :=
  fun w known => World.partitionsOf_eq_some_iff.2 ⟨number, serves w known, has w known⟩

/-- A timeline that was active when it was seen. -/
structure Saw (e : String) (a : Timeline) (k : (rules names).Footing) : Prop where
  sight : .sight a ∈ k.owns
  eventType : a.eventType = e

/-- A task with a timeline to store, which has a topic of its own or that of an event type's own
name, and as many partitions as the timeline that it follows. -/
structure Ready (e : String) (active : Option Timeline) (t : Timeline) (k : (rules names).Footing) :
    Prop where
  draft : .draft t.id ∈ k.owns
  eventType : t.eventType = e
  order : t.order = Timeline.orderAfter active
  unended : t.lastPosition = none
  laid : t.order = 0 ∧ t.topic ∈ names ∨
    ∃ number, Serves k t.storage.id number ∧ .topic number t.topic ∈ k.owns
  laidOut : ∃ count, Counts k t count ∧ ∀ a, active = some a → Counts k a count
  saw : ∀ a, active = some a → Saw e a k

theorem harmless_fencing (w w' : World) (fencing : w.Fencing w') : (rules names).Harmless w w' := by
  obtain ⟨fences, recorder, -, rfl⟩ := fencing
  exact harmless_alike ⟨rfl, rfl, rfl, fun _ => rfl⟩

theorem upholds_workerFor {storage : Storage} {done : Nat → (rules names).Footing → Prop}
    (held : ∀ number k', k'.owns = k.owns → k'.Firmer k → Serves k' storage.id number →
      done number k') (held' : ∀ error, failed error k) :
    (workerFor storage).Upholds (rules names) done failed k := by
  apply (consults_workerFor storage).upholds_asking (fun _ _ _ learns => learns.2)
    (fun number w => w.workers.serving.get? storage.id = some number)
    (stable_serves storage.id) (fun _ _ _ _ _ learns => learns.1) _ held'
  exact fun number k' learns => held number k' learns.owns learns.firmer learns.grants

theorem upholds_defaultStorage {done : Storage → (rules names).Footing → Prop}
    (held : ∀ storage, done storage k) (held' : ∀ error, failed error k) :
    Registry.defaultStorage.Upholds (rules names) done failed k := by
  apply upholds_bind
  apply upholds_glance
  intro found
  cases found with
  | none => exact upholds_throw (held' _)
  | some storage => exact upholds_pure (held storage)

theorem upholds_defaultWorker {done : Nat → (rules names).Footing → Prop}
    (held : ∀ (storage : Storage) number k', k'.owns = k.owns → k'.Firmer k →
      Serves k' storage.id number → done number k') (held' : ∀ error, failed error k) :
    Timelines.defaultWorker.Upholds (rules names) done failed k := by
  apply upholds_bind
  apply upholds_defaultStorage _ held'
  exact fun storage => upholds_workerFor (held storage) held'

theorem upholds_storageOf {id : String} {number : Nat} (serves : Serves k id number)
    {done : Storage → (rules names).Footing → Prop}
    (held : ∀ (storage : Storage) k', k'.owns = k.owns → k'.Firmer k →
      Serves k' storage.id number → done storage k') (held' : ∀ error, failed error k) :
    (storageOf number).Upholds (rules names) done failed k := by
  apply (consults_asking number fun worker => .ok worker.storage).upholds_asking
    (fun _ _ _ learns => learns.1)
    (fun (storage : Storage) w => w.workers.serving.get? storage.id = some number)
    (fun storage => stable_serves storage.id number) _ _ held'
  · rintro w storage others holds known ⟨-, worker, registered, told⟩
    obtain ⟨worker', registered', same⟩ := holds.serving id number (serves w known)
    obtain rfl := Option.some.inj (registered.symm.trans registered')
    rw [← Except.ok.inj told, same]
    exact serves w known
  · exact fun storage k' learns => held storage k' learns.owns learns.firmer learns.grants

theorem upholds_partitionNames {number : Nat} {topic : String}
    {done : List String → (rules names).Footing → Prop}
    (held : ∀ partitions k', k'.owns = k.owns → k'.Firmer k →
      (k'.Grants fun w => w.HasPartitions number topic partitions.length) → done partitions k')
    (held' : ∀ error, failed error k) :
    (partitionNames number topic).Upholds (rules names) done failed k := by
  apply (consults_partitionCount number topic).upholds_asking (fun _ _ _ learns => learns.1)
    (fun partitions w => w.HasPartitions number topic partitions.length)
    (fun partitions => stable_partitions number topic partitions.length)
    (fun _ _ _ _ _ learns => learns.2) _ held'
  exact fun partitions k' learns => held partitions k' learns.owns learns.firmer learns.grants

theorem upholds_syntheticTimeline {number : Nat} (named : e ∈ names)
    {done : Timeline → (rules names).Footing → Prop} (held : ∀ t, done t k)
    (held' : ∀ error, failed error k) :
    (syntheticTimeline number e).Upholds (rules names) done failed k := by
  apply (consults_adopted number e).upholds_moves _ held'
  rintro w t _ ⟨worker, registered, -, rfl⟩
  refine ⟨k, (harmless_modify registered ?_ fun tidy => tidy.adopt named).moves k, held t⟩
  exact worker.extends_topics e worker.defaultPartitions worker.requests

theorem upholds_takeOver {number : Nat} {partitions : Option Nat} (named : e ∈ names)
    {done : String → (rules names).Footing → Prop}
    (held : ∀ count k', k'.owns = k.owns → k'.Firmer k →
      (k'.Grants fun w => w.HasPartitions number e count) → done e k')
    (held' : ∀ error, failed error k) :
    (layOut number e partitions true).Upholds (rules names) done failed k := by
  apply (consults_laidOut number e partitions true).upholds_moves _ held'
  rintro w topic w' ⟨worker, registered, same, rfl⟩
  obtain rfl : topic = e := same
  have extends' : worker.Extends (worker.layOut topic partitions true).2 :=
    worker.extends_topics ..
  have harmless : (rules names).Harmless w (w.withWorkers (w.workers.modify number fun _ =>
      (worker.layOut topic partitions true).2)) :=
    harmless_modify registered extends' fun tidy => tidy.layOut named partitions true
  have registered' : (w.workers.modify number fun _ => (worker.layOut topic partitions true).2).get?
      number = some (worker.layOut topic partitions true).2 := Table.get?_modify_of_get? _ registered
  have laidOut := worker.layOut_partitions topic partitions true
  refine ⟨_, harmless.moves_also (stable_partitions number topic _) ⟨_, registered', laidOut⟩, ?_⟩
  exact held _ _ rfl (fun _ known => known.1) fun _ known => known.2

/-- A task has a topic laid out for a timeline, with the partitions that it asks for. -/
theorem upholds_number {number : Nat} {partitions : Option Nat} (named : e ∈ names)
    {done : String → (rules names).Footing → Prop}
    (held : ∀ topic count k', k'.owns = .topic number topic ::ₘ k.owns → k'.Firmer k →
      (∀ asked, partitions = some asked → count = asked) →
        (k'.Grants fun w => w.HasPartitions number topic count) → done topic k')
    (held' : ∀ error, failed error k) :
    (layOut number e partitions false).Upholds (rules names) done failed k := by
  apply (consults_laidOut number e partitions false).upholds_moves _ held'
  rintro w _ _ ⟨worker, registered, rfl, rfl⟩
  refine ⟨_, moves_number k named registered, held _ _ _ rfl (fun _ known => known.1) ?_
    fun _ known => known.2⟩
  rintro asked rfl
  rfl

theorem upholds_draw {topic : String} {order : Nat} {storage : Storage}
    {done : Timeline → (rules names).Footing → Prop}
    (held : ∀ id now k', k'.owns = .draft id ::ₘ k.owns → k'.Firmer k →
      done (.fresh id e order storage topic now) k') :
    (newTimeline e order storage topic).Upholds (rules names) done failed k := by
  apply upholds_newTimeline
  intro w
  refine ⟨k.owning (.draft w.ids.draw.1 ::ₘ k.owns), ⟨fun fresh => fresh.of_draw, ?_⟩,
    held _ _ _ rfl fun _ known => known⟩
  intro fresh others holds known
  have grows : Grows w { w with ids := w.ids.draw.2 } := ⟨rfl, fun _ _ _ has => has⟩
  refine ⟨grows, k.stable _ _ grows known, ?_⟩
  change Holds names _ (_ ::ₘ k.owns + others)
  rw [Multiset.cons_add]
  exact holds.own_draft fresh

theorem upholds_activeTimeline {done : Option Timeline → (rules names).Footing → Prop}
    (without : done none k) (saw : ∀ a k', k'.owns = .sight a ::ₘ k.owns → k'.Firmer k →
      Saw e a k' → done (some a) k') :
    (activeTimeline e).Upholds (rules names) done failed k := by
  refine Rules.upholds_act fun w => ?_
  suffices seen : ∃ k', (rules names).Moves k w k' w ∧ done (w.store.active? e) k' from seen
  cases active : w.store.active? e with
  | none => exact ⟨k, (rules names).moves_refl k w, without⟩
  | some a =>
    obtain ⟨inside, named, -⟩ := Store.active_spec active
    refine ⟨k.owning (.sight a ::ₘ k.owns), ⟨id, fun _ others holds known => ?_⟩,
      saw a _ rfl (fun _ known => known) ⟨Multiset.mem_cons_self _ k.owns, named⟩⟩
    refine ⟨.refl w, known, ?_⟩
    change Holds names w (_ ::ₘ k.owns + others)
    rw [Multiset.cons_add]
    exact holds.own_sight inside

theorem upholds_firstDraft (named : e ∈ names) :
    (Timelines.firstDraft e).Upholds (rules names) (Ready e none) (fun _ _ => True) k := by
  apply upholds_bind
  apply upholds_defaultWorker _ fun _ => trivial
  intro _ number k₁ owns₁ _ serves
  apply upholds_bind
  apply upholds_number named _ fun _ => trivial
  intro topic count k₂ owns₂ firmer₂ _ has
  apply upholds_bind
  apply upholds_storageOf (serves.firmer firmer₂) _ fun _ => trivial
  intro storage k₃ owns₃ firmer₃ serves₃
  apply upholds_bind
  apply upholds_draw
  intro id now k₄ owns₄ firmer₄
  apply upholds_pure
  have serves₄ : Serves k₄ storage.id number := serves₃.firmer firmer₄
  exact
    { draft := by simp [owns₄, Timeline.fresh]
      eventType := rfl
      order := rfl
      unended := rfl
      laid := .inr ⟨number, serves₄, by simp [owns₄, owns₃, owns₂, Timeline.fresh]⟩
      laidOut :=
        ⟨count, counts_of_serves serves₄ ((has.firmer firmer₃).firmer firmer₄), fun _ => nofun⟩
      saw := fun _ => nofun }

/-- A timeline that follows none takes over the topic of the event type's own name, and another one
gets a topic of its own. -/
theorem upholds_prepare {storage oldStorage : Storage} {active : Option Timeline}
    {oldWorker newWorker : Nat} (named : e ∈ names) (serves : Serves k storage.id newWorker)
    (saw : ∀ a, active = some a → Saw e a k ∧ Serves k a.storage.id oldWorker) :
    (Timelines.prepare e storage active oldStorage oldWorker newWorker).Upholds (rules names)
      (Ready e active) (fun _ _ => True) k := by
  cases active with
  | none =>
    rw [Timelines.prepare]
    apply upholds_check fun _ => trivial
    intro _
    apply upholds_bind
    apply upholds_syntheticTimeline named _ fun _ => trivial
    intro layout
    apply upholds_bind
    apply upholds_partitionNames _ fun _ => trivial
    intro partitions k₁ _ firmer₁ _
    apply upholds_bind
    apply upholds_takeOver named _ fun _ => trivial
    intro count k₂ _ firmer₂ has
    apply upholds_draw
    intro id now k₃ owns₃ firmer₃
    have serves₃ : Serves k₃ storage.id newWorker :=
      ((serves.firmer firmer₁).firmer firmer₂).firmer firmer₃
    exact
      { draft := by simp [owns₃, Timeline.fresh]
        eventType := rfl
        order := rfl
        unended := rfl
        laid := .inl ⟨rfl, named⟩
        laidOut := ⟨count, counts_of_serves serves₃ (has.firmer firmer₃), fun a seen =>
          absurd seen.symm (Option.some_ne_none a)⟩
        saw := fun a seen => absurd seen.symm (Option.some_ne_none a) }
  | some current =>
    obtain ⟨seen, oldServes⟩ := saw current rfl
    apply upholds_bind
    apply upholds_partitionNames _ fun _ => trivial
    intro partitions k₁ owns₁ firmer₁ oldHas
    apply upholds_bind
    apply upholds_number named _ fun _ => trivial
    intro topic count k₂ owns₂ firmer₂ asked has
    obtain rfl := asked _ rfl
    apply upholds_draw
    intro id now k₃ owns₃ firmer₃
    have firmer : k₃.Firmer k₁ := fun w known => firmer₂ w (firmer₃ w known)
    have serves₃ : Serves k₃ storage.id newWorker := (serves.firmer firmer₁).firmer firmer
    have counts : Counts k₃ current partitions.length :=
      counts_of_serves ((oldServes.firmer firmer₁).firmer firmer) (oldHas.firmer firmer)
    exact
      { draft := by simp [owns₃, Timeline.fresh]
        eventType := rfl
        order := rfl
        unended := rfl
        laid := .inr ⟨newWorker, serves₃, by simp [owns₃, owns₂, Timeline.fresh]⟩
        laidOut := by
          refine ⟨_, counts_of_serves serves₃ (has.firmer firmer₃), ?_⟩
          rintro a ⟨⟩
          exact counts
        saw := by
          rintro a ⟨⟩
          exact ⟨by simp [owns₃, owns₂, owns₁, seen.sight], seen.eventType⟩ }

theorem upholds_relocate {storage oldStorage : Storage} {active : Option Timeline} {oldWorker : Nat}
    (named : e ∈ names) (saw : ∀ a, active = some a → Saw e a k ∧ Serves k a.storage.id oldWorker) :
    (do
      let newWorker ← workerFor storage
      let next ← Timelines.prepare e storage active oldStorage oldWorker newWorker
      return (⟨active, oldWorker, next⟩ : Switch)).Upholds (rules names)
      (fun s => Ready e s.active s.next) (fun _ _ => True) k := by
  apply upholds_bind
  apply upholds_workerFor _ fun _ => trivial
  intro newWorker k₁ owns₁ firmer₁ serves
  have saw₁ : ∀ a, active = some a → Saw e a k₁ ∧ Serves k₁ a.storage.id oldWorker := by
    intro a same
    obtain ⟨seen, oldServes⟩ := saw a same
    exact ⟨⟨owns₁ ▸ seen.sight, seen.eventType⟩, oldServes.firmer firmer₁⟩
  apply upholds_bind
  apply (upholds_prepare named serves saw₁).mono _ fun _ _ _ => trivial
  exact fun next _ ready => upholds_pure ready

theorem upholds_plan (named : e ∈ names) (storageId : String) :
    (Timelines.plan e storageId).Upholds (rules names) (fun s => Ready e s.active s.next)
      (fun _ _ => True) k := by
  apply upholds_bind
  apply upholds_glance
  intro found
  cases found with
  | none => exact upholds_bind (upholds_throw trivial)
  | some storage =>
    apply upholds_bind
    apply upholds_pure
    apply upholds_bind
    apply (consults_findEventType e).upholds_moves _ fun _ => trivial
    rintro w _ _ ⟨-, rfl⟩
    refine ⟨k, (rules names).moves_refl k _, ?_⟩
    apply upholds_bind
    apply upholds_activeTimeline
    · apply upholds_bind
      apply upholds_defaultStorage _ fun _ => trivial
      intro oldStorage
      apply upholds_bind
      apply upholds_workerFor _ fun _ => trivial
      exact fun _ _ _ _ _ => upholds_relocate named fun _ => nofun
    · intro a k₁ owns₁ firmer₁ saw
      apply upholds_bind
      apply upholds_pure
      apply upholds_bind
      apply upholds_workerFor _ fun _ => trivial
      intro oldWorker k₂ owns₂ firmer₂ serves
      apply upholds_relocate named
      rintro b ⟨⟩
      exact ⟨⟨owns₂ ▸ saw.sight, saw.eventType⟩, serves⟩

namespace Ready

variable {active : Option Timeline} {a t : Timeline} {s : Store} {others : Multiset Holding}
  {position : Position}

theorem switched (ready : Ready e active t k) (switchedAt : Option Timestamp) :
    Ready e active { t with switchedAt := switchedAt } k :=
  ⟨ready.draft, ready.eventType, ready.order, ready.unended, ready.laid, ready.laidOut, ready.saw⟩

theorem put (ready : Ready e active t k) (known : k.holds w)
    (holds : Holds names (w.withStore s) (k.owns + others))
    (untaken : t.orderTaken s.timelines.values = false)
    (inherits : ∀ u ∈ s.timelines.values, u.eventType = t.eventType → t.order = u.order + 1 →
      w.partitionsOf t = w.partitionsOf u) :
    Holds names (w.withStore (s.put t)) others := by
  obtain ⟨count, counts, -⟩ := ready.laidOut
  refine Holds.put holds ready.draft untaken ready.unended ?_ ?_ inherits
  · exact Option.isSome_of_eq_some (counts w known)
  · exact ready.laid.imp_right fun ⟨number, serves, here⟩ => ⟨number, serves w known, here⟩

theorem create (ready : Ready e none t k) (known : k.holds w)
    (holds : Holds names w (k.owns + others))
    (untaken : t.orderTaken w.store.timelines.values = false) :
    Holds names (w.withStore (w.store.put t)) others := by
  apply ready.put known holds untaken
  intro u _ _ order
  exact absurd (ready.order.symm.trans order) (Nat.zero_ne_add_one _)

theorem switch (ready : Ready e (some a) t k) (known : k.holds w)
    (holds : Holds names w (k.owns + others)) (committed :
      w.store.commitSwitch (some { a with lastPosition := some position }) t = .ok s) :
    Holds names (w.withStore s) others := by
  obtain ⟨free, untaken, same, rfl⟩ := Store.commitSwitch_ok committed
  obtain ⟨b, active, ids⟩ := Option.map_eq_some_iff.1 same
  obtain ⟨inside, named, -⟩ := Store.active_spec active
  -- What is active now is what the task has seen, at most without the end that it had then.
  have knows : a = { b with lastPosition := a.lastPosition } :=
    (holds.seen a (Multiset.mem_add.2 (.inl (ready.saw a rfl).sight))).2.2 b inside ids
  have ends : ({ a with lastPosition := some position } : Timeline) =
      { b with lastPosition := some position } := by rw [knows]
  have order : t.order = b.order + 1 := by
    rw [ready.order, knows]
    rfl
  have above : ∀ u ∈ w.store.timelines.values, u.eventType = b.eventType → u.order ≠ b.order + 1 := by
    intro u inside' same' order'
    have new := Store.unstored_of_get? holds.keyed free
    exact Store.order_free new untaken u inside' (same'.trans named) (order'.trans order.symm)
  have holds' := holds.seal inside above (some position)
  change Holds names (w.withStore ((w.store.put { a with lastPosition := some position }).put t)) _
  rw [ends]
  apply ready.put known holds'
  · rw [Bool.eq_false_iff, ne_eq, Timeline.orderTaken_iff]
    rintro ⟨u, inside', -, named', order'⟩
    rcases holds.keyed.mem_put.1 inside' with rfl | ⟨old, -⟩
    · exact absurd (order'.trans order) (Nat.ne_of_lt (Nat.lt_succ_self b.order))
    · exact above u old (named'.trans named.symm) (order'.trans order)
  · intro u inside' named' order'
    have there : { b with lastPosition := some position } ∈
        (w.store.put { b with lastPosition := some position }).timelines.values :=
      holds.keyed.mem_put.2 (.inl rfl)
    have last : u.order = b.order := Nat.succ.inj (order'.symm.trans order)
    obtain rfl := holds'.orders u inside' _ there (named'.trans named.symm) last
    obtain ⟨count, counts, before⟩ := ready.laidOut
    rw [← ends]
    exact (counts w known).trans (before a rfl w known).symm

end Ready

theorem upholds_spend {write : Store → Except StoreError Store}
    (spend : ∀ w s others, k.holds w → Holds names w (k.owns + others) → write w.store = .ok s →
      Holds names (w.withStore s) others) : (writeStore write).Obeys (rules names) k := by
  apply upholds_writeStore
  · refine fun w s written => ⟨k.owning 0, ⟨id, fun _ others holds known => ?_⟩, trivial⟩
    have grows : Grows w (w.withStore s) := ⟨rfl, fun _ _ _ has => has⟩
    refine ⟨grows, k.stable _ _ grows known, ?_⟩
    change Holds names _ (0 + others)
    rw [Multiset.zero_add]
    exact spend w s others known holds written
  · exact fun w _ _ => ⟨k, (rules names).moves_refl k w, trivial⟩

theorem obeys_createFirst (named : e ∈ names) : (Timelines.createFirst e).Obeys (rules names) k := by
  rw [Timelines.createFirst_eq]
  apply upholds_bind
  apply (upholds_firstDraft named).mono _ fun _ _ _ => trivial
  intro first k' ready
  apply Obeys.map
  apply upholds_spend
  intro w s others known holds created
  obtain ⟨-, untaken, rfl⟩ := Store.createTimeline_ok created
  exact ready.create known holds untaken

theorem obeys_commit {active : Option Timeline} {next : Timeline} (worker : Nat)
    (ready : Ready e active next k) :
    (Timelines.commit e active worker next).Obeys (rules names) k := by
  apply upholds_bind
  apply upholds_bind
  apply upholds_glance
  intro current
  split
  · exact upholds_throw trivial
  apply upholds_bind
  apply upholds_glance
  intro switchedAt
  have ready' := ready.switched (some switchedAt)
  apply upholds_bind
  cases active with
  | none =>
    apply upholds_pure
    apply Obeys.map
    apply upholds_spend
    intro w s others known holds committed
    obtain ⟨-, untaken, -, rfl⟩ := Store.commitSwitch_ok committed
    exact ready'.create known holds untaken
  | some previous =>
    apply upholds_bind
    apply (consults_latestPosition worker previous).upholds_moves _ fun _ => trivial
    rintro w position _ ⟨rfl, -⟩
    refine ⟨k, (rules names).moves_refl k _, upholds_pure ?_⟩
    apply Obeys.map
    apply upholds_spend
    exact fun w s others known holds committed => ready'.switch known holds committed

section Fenced

variable {sync : TimelineSync World} (own : sync.Only World.Fencing)
include own

theorem obeys_switchTo (named : e ∈ names) (storageId : String) :
    (Timelines.switchTo sync e storageId).Obeys (rules names) k := by
  rw [Timelines.switchTo_eq]
  apply upholds_bind
  apply (upholds_plan named storageId).mono _ fun _ _ _ => trivial
  intro s k' ready
  exact upholds_fenced own harmless_fencing (fun _ => trivial) (obeys_commit s.worker ready)

theorem obeys_delete (e : String) (id : Uuid) :
    (Timelines.delete sync e id).Obeys (rules names) k := by
  apply upholds_bind
  apply upholds_glance
  intro found
  cases found with
  | none => exact upholds_bind (upholds_throw trivial)
  | some t =>
    apply upholds_bind
    apply upholds_pure
    refine upholds_check (fun _ => trivial) fun _ => ?_
    refine upholds_check (fun _ => trivial) fun _ => ?_
    apply upholds_bind
    apply upholds_glance
    intro active
    refine upholds_check (fun _ => trivial) fun _ => ?_
    apply upholds_fenced own harmless_fencing fun _ => trivial
    apply upholds_bind
    apply upholds_glance
    intro current
    refine upholds_check (fun _ => trivial) fun _ => ?_
    refine upholds_write (fun w s deleted => ?_) trivial fun _ => trivial
    obtain rfl := Store.deleteTimeline_ok deleted
    exact (harmless_erase w t.id).moves k

end Fenced

theorem obeys_synthetic (named : e ∈ names) : (Timelines.synthetic e).Obeys (rules names) k := by
  apply upholds_bind
  apply upholds_defaultWorker _ fun _ => trivial
  intro _ number k' _ _ _
  exact upholds_syntheticTimeline named (fun _ => trivial) fun _ => trivial

theorem obeys_get (named : e ∈ names) : (Timelines.get e).Obeys (rules names) k := by
  apply upholds_bind
  apply upholds_glance
  intro active
  cases active with
  | none => exact obeys_synthetic named
  | some t => exact upholds_pure trivial

theorem obeys_resolve (named : e ∈ names) (cursor : Cursor) :
    (Timelines.resolve e cursor).Obeys (rules names) k := by
  cases cursor with
  | legacy partition offset => exact obeys_synthetic named
  | onTimeline partition id offset =>
    apply upholds_bind
    apply upholds_glance
    intro found
    cases found with
    | none => exact upholds_throw trivial
    | some t => exact upholds_pure trivial

theorem obeys_call {sync : TimelineSync World} (own : sync.Only World.Fencing) {call : ServiceCall}
    (concerns : call.eventType = some e) (named : e ∈ names) :
    (call.under sync).Obeys (rules names) k := by
  cases call with
  | timelines call =>
    obtain rfl := Option.some.inj concerns
    apply Obeys.map
    cases call with
    | createFirst e => exact (obeys_createFirst named).map
    | switchTo e storageId => exact (obeys_switchTo own named storageId).map
    | delete e id => exact (obeys_delete own e id).map
  | list other => exact Obeys.map (upholds_glance fun _ => trivial)
  | get other =>
    obtain rfl := Option.some.inj concerns
    exact (obeys_get named).map
  | resolve other cursor =>
    obtain rfl := Option.some.inj concerns
    exact (obeys_resolve named cursor).map
  | registry call => exact nomatch concerns

end Topics

end Cutover
