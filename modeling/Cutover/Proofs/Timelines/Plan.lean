import Cutover.Data.Table.Lemmas
import Cutover.Proofs.Fence.Users
import Cutover.Proofs.Protocol
import Cutover.Service.Timelines

set_option autoImplicit false

namespace Cutover

/-- What a task has seen of timelines and is about to do. -/
inductive Plan where
  | idle
  /-- It has seen which timeline was active. -/
  | saw (eventType : String) (active : Option Timeline)
  /-- It has also looked up the worker of that timeline. -/
  | located (eventType : String) (active : Option Timeline) (worker : Nat)
  /-- It has a new timeline, to follow the one that was active. -/
  | next (active : Option Timeline) (worker : Nat) (timeline : Timeline)
  /-- It has read the last position of the timeline that the new one is to follow. -/
  | measured (previous : Timeline) (position : Position) (timeline : Timeline)
  /-- It has seen a stored timeline. -/
  | found (timeline : Timeline)
  /-- It has seen under the lock that this timeline is the active one. -/
  | doomed (timeline : Timeline)

/-- What a task holds. -/
structure Stake where
  user : Option FenceUser
  plan : Plan

/-- A worker with further topics. -/
structure Worker.Extends (w w' : Worker) : Prop where
  storage : w'.storage = w.storage
  positions : w'.positions = w.positions
  topics : ∀ topic count, w.topics.get? topic = some count → w'.topics.get? topic = some count

/-- The same workers, some with further topics. -/
structure Workers.Extends (w w' : Workers) : Prop where
  serving : w'.serving = w.serving
  each : ∀ number worker, w.get? number = some worker →
    ∃ worker', w'.get? number = some worker' ∧ worker.Extends worker'

/-- A change that concerns neither timelines nor fences nor ids nor positions. -/
structure World.Aside (w w' : World) : Prop where
  store : w'.store = w.store
  fences : w'.fences = w.fences
  ids : w'.ids = w.ids
  workers : w.workers.Extends w'.workers

theorem Worker.Extends.refl (w : Worker) : w.Extends w := ⟨rfl, rfl, fun _ _ found => found⟩

theorem Workers.Extends.refl (w : Workers) : w.Extends w :=
  ⟨rfl, fun _ worker found => ⟨worker, found, .refl worker⟩⟩

theorem Worker.Extends.trans {w w' w'' : Worker} (first : w.Extends w') (second : w'.Extends w'') :
    w.Extends w'' :=
  ⟨second.storage.trans first.storage, second.positions.trans first.positions,
    fun topic count found => second.topics topic count (first.topics topic count found)⟩

theorem Workers.Extends.trans {w w' w'' : Workers} (first : w.Extends w')
    (second : w'.Extends w'') : w.Extends w'' := by
  refine ⟨second.serving.trans first.serving, fun number worker found => ?_⟩
  obtain ⟨worker', found', extends'⟩ := first.each number worker found
  obtain ⟨worker'', found'', extends''⟩ := second.each number worker' found'
  exact ⟨worker'', found'', extends'.trans extends''⟩

/-- A worker extends its topics; the others stay as they are. -/
theorem Workers.Extends.modify {w : Workers} {number : Nat} {worker : Worker}
    (found : w.get? number = some worker) {change : Worker → Worker}
    (extends' : worker.Extends (change worker)) : w.Extends (w.modify number change) := by
  refine ⟨rfl, fun other old found' => ?_⟩
  by_cases same : other = number
  · subst same
    obtain rfl := Option.some_inj.1 (found.symm.trans found')
    refine ⟨change worker, ?_, extends'⟩
    exact Table.get?_modify_of_get? change found
  · exact ⟨old, (Table.get?_modify_of_ne _ _ same).trans found', .refl old⟩

theorem Workers.modify_same {w : Workers} {number : Nat} {worker : Worker}
    (found : w.get? number = some worker) : w.modify number (fun _ => worker) = w := by
  have same : w.all.modify number (fun _ => worker) = w.all := by
    refine Table.eq_of_get?_eq fun other => ?_
    by_cases here : other = number
    · subst here
      exact (Table.get?_modify_of_get? _ found).trans found.symm
    · exact Table.get?_modify_of_ne _ _ here
  rw [Workers.modify, same]

theorem Worker.extends_topics (w : Worker) (topic : String) (count : Nat)
    (requests : List LayoutRequest) :
    w.Extends { w with topics := w.topics.insertIfNew topic count, requests := requests } := by
  refine ⟨rfl, rfl, fun other n found => ?_⟩
  by_cases same : other = topic
  · subst same
    exact (Table.get?_insertIfNew_self ..).trans (by rw [found]; rfl)
  · exact (Table.get?_insertIfNew_of_ne _ _ same).trans found

theorem World.Aside.refl (w : World) : w.Aside w := ⟨rfl, rfl, rfl, .refl _⟩

theorem World.Aside.workers_only {w : World} {workers : Workers}
    (extends' : w.workers.Extends workers) : w.Aside (w.withWorkers workers) :=
  ⟨rfl, rfl, rfl, extends'⟩

/-- The order of a timeline that follows another, or none. -/
def Timeline.orderAfter : Option Timeline → Nat
  | none => 0
  | some previous => previous.order + 1

namespace Stake

/-- The steps of a task on the world, by what they do to its stake. -/
inductive Move : Stake → World → Sight → Stake → World → Prop where
  | aside {k : Stake} {w w' : World} {sight : Sight} (aside : w.Aside w') : Move k w sight k w'
  | see {u : Option FenceUser} {e : String} {w : World} {sight : Sight} :
      Move ⟨u, .idle⟩ w sight ⟨u, .saw e (w.store.active? e)⟩ w
  | locate {u : Option FenceUser} {e : String} {active : Option Timeline} {number : Nat}
      {w : World} {sight : Sight}
      (serves : ∀ t, active = some t → w.workers.serving.get? t.storage.id = some number) :
      Move ⟨u, .saw e active⟩ w sight ⟨u, .located e active number⟩ w
  | draw {u : Option FenceUser} {e : String} {active : Option Timeline} {number : Nat}
      {storage : Storage} {topic : String} {w : World} {sight : Sight} :
      Move ⟨u, .located e active number⟩ w sight
        ⟨u, .next active number (.fresh w.ids.draw.1 e (Timeline.orderAfter active) storage topic
          w.clock)⟩ { w with ids := w.ids.draw.2 }
  | create {u : Option FenceUser} {number : Nat} {t : Timeline} {switchedAt : Timestamp}
      {w : World} {s : Store} {sight : Sight}
      (created : w.store.createTimeline { t with switchedAt := some switchedAt } = .ok s) :
      Move ⟨u, .next none number t⟩ w sight ⟨u, .idle⟩ (w.withStore s)
  | measure {e : String} {ticket : Ticket} {number : Nat} {previous t : Timeline} {worker : Worker}
      {position : Position} {w : World} (registered : w.workers.get? number = some worker)
      (latest : worker.latestPosition previous.topic = .ok position) :
      Move ⟨some ⟨e, ticket, .updating⟩, .next (some previous) number t⟩ w
        (.answer (.ok position : Except TimelineError Position))
        ⟨some ⟨e, ticket, .updating⟩, .measured previous position t⟩ w
  | first {ticket : Ticket} {number : Nat} {t : Timeline} {switchedAt : Timestamp}
      {w : World} {s : Store} {sight : Sight}
      (committed : w.store.commitSwitch none { t with switchedAt := some switchedAt } = .ok s) :
      Move ⟨some ⟨t.eventType, ticket, .updating⟩, .next none number t⟩ w sight
        ⟨some ⟨t.eventType, ticket, .updating⟩, .idle⟩ (w.withStore s)
  | switch {ticket : Ticket} {previous t : Timeline} {position : Position}
      {switchedAt : Timestamp} {w : World} {s : Store} {sight : Sight}
      (committed : w.store.commitSwitch (some { previous with lastPosition := some position })
        { t with switchedAt := some switchedAt } = .ok s) :
      Move ⟨some ⟨t.eventType, ticket, .updating⟩, .measured previous position t⟩ w sight
        ⟨some ⟨t.eventType, ticket, .updating⟩, .idle⟩ (w.withStore s)
  | find {u : Option FenceUser} {id : Uuid} {t : Timeline} {w : World} {sight : Sight}
      (stored : w.store.timelines.get? id = some t) : Move ⟨u, .idle⟩ w sight ⟨u, .found t⟩ w
  | doom {ticket : Ticket} {t : Timeline} {w : World} {sight : Sight}
      (active : (w.store.active? t.eventType).map (·.id) = some t.id) (first : t.order = 0) :
      Move ⟨some ⟨t.eventType, ticket, .updating⟩, .found t⟩ w sight
        ⟨some ⟨t.eventType, ticket, .updating⟩, .doomed t⟩ w
  | delete {ticket : Ticket} {t : Timeline} {w : World} {s : Store} {sight : Sight}
      (deleted : w.store.deleteTimeline t.id = .ok s) :
      Move ⟨some ⟨t.eventType, ticket, .updating⟩, .doomed t⟩ w sight
        ⟨some ⟨t.eventType, ticket, .updating⟩, .idle⟩ (w.withStore s)
  | ask {e : String} {plan : Plan} {w : World} {sight : Sight} :
      Move ⟨none, plan⟩ w sight
        ⟨some ⟨e, (w.fences.ask e .exclusive).1, .waiting .exclusive⟩, plan⟩
        (w.withFences (w.fences.ask e .exclusive).2)
  | fence {e : String} {ticket : Ticket} {plan : Plan} {w : World} {sight : Sight}
      (granted : w.fences.isGranted ticket = true) :
      Move ⟨some ⟨e, ticket, .waiting .exclusive⟩, plan⟩ w sight
        ⟨some ⟨e, ticket, .updating⟩, plan⟩ (w.withFences (w.fences.hold e ticket))
  | refuse {e : String} {ticket : Ticket} {plan : Plan} {w : World} {sight : Sight} :
      Move ⟨some ⟨e, ticket, .waiting .exclusive⟩, plan⟩ w sight ⟨none, plan⟩
        (w.withFences ((w.fences.giveUp ticket).prune e))
  | withdraw {e : String} {ticket : Ticket} {plan : Plan} {w : World} {sight : Sight} :
      Move ⟨some ⟨e, ticket, .waiting .exclusive⟩, plan⟩ w sight ⟨none, plan⟩
        (w.withFences (w.fences.giveUp ticket))
  | finish {e : String} {ticket : Ticket} {w : World} {sight : Sight} :
      Move ⟨some ⟨e, ticket, .updating⟩, .idle⟩ w sight ⟨none, .idle⟩
        (w.withFences (LocalFences.finish e w.fences).2)

/-- The protocol of the tasks that work on timelines. A task leaves with no use of a lock, and a
cleanup takes over the use that its task has. -/
def protocol : Protocol World Stake where
  moves := Move
  splits k owed kept := owed = ⟨k.user, .idle⟩ ∧ kept = ⟨none, .idle⟩
  settled k := k.user = none

end Stake

end Cutover
