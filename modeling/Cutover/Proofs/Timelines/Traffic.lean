import Cutover.Proofs.Fence.Steps
import Cutover.Proofs.Timelines.Streams

set_option autoImplicit false

namespace Cutover

def Position.Covers (p q : Position) : Prop :=
  ∀ partition n, q.offsets.get? partition = some n →
    ∃ m, p.offsets.get? partition = some m ∧ n ≤ m

theorem Position.Covers.refl (p : Position) : p.Covers p :=
  fun _ n found => ⟨n, found, UInt64.le_refl n⟩

theorem Position.Covers.trans {p q r : Position} (first : p.Covers q) (second : q.Covers r) :
    p.Covers r := by
  intro partition n found
  obtain ⟨m, found', further⟩ := second partition n found
  obtain ⟨k, found'', further'⟩ := first partition m found'
  exact ⟨k, found'', UInt64.le_trans further further'⟩

/-- The position of a topic, which a worker tells unless it is made to fail. -/
def Worker.position? (w : Worker) (topic : String) : Option Position :=
  ({ w with failPosition := false }.latestPosition topic).toOption

namespace World

def position? (w : World) (t : Timeline) : Option Position :=
  ((w.workers.serving.get? t.storage.id).bind w.workers.get?).bind (·.position? t.topic)

def setPosition (w : World) (t : Timeline) (position : Position) : World :=
  match w.workers.serving.get? t.storage.id with
  | none => w
  | some number =>
      w.withWorkers (w.workers.modify number fun worker =>
        { worker with positions := worker.positions.insert t.topic position })

end World

namespace Worker

variable {w w' : Worker} {topic : String} {p : Position}

theorem position?_of_set (set : w.positions.get? topic = some p) : w.position? topic = some p := by
  simp only [position?, latestPosition, set]
  rfl

theorem position?_of_unset (unset : w.positions.get? topic = none) : w.position? topic =
    (w.topics.get? topic).map fun count =>
      .ofList (((List.range count).map partitionName).map fun name => (name, 0)) := by
  simp only [position?, latestPosition, unset, partitionNames, partitionsOf]
  cases w.topics.get? topic <;> rfl

theorem position?_of_latest (latest : w.latestPosition topic = .ok p) :
    w.position? topic = some p := by
  have willing : w.failPosition = false := by
    rw [latestPosition] at latest
    cases fails : w.failPosition with
    | false => rfl
    | true =>
      rw [fails] at latest
      exact nomatch latest
  have same : { w with failPosition := false } = w := by rw [← willing]
  rw [position?, same, latest]
  rfl

theorem Extends.position? (extends' : w.Extends w') (known : w.position? topic = some p) :
    w'.position? topic = some p := by
  cases set : w.positions.get? topic with
  | some q =>
    rw [position?_of_set set] at known
    exact position?_of_set (extends'.positions ▸ known ▸ set)
  | none =>
    rw [position?_of_unset set] at known
    rw [position?_of_unset (extends'.positions ▸ set)]
    obtain ⟨count, found, made⟩ := Option.map_eq_some_iff.1 known
    rw [extends'.topics topic count found, Option.map_some, made]

end Worker

namespace World

variable {w w' : World} {a b : Timeline} {p q r : Position}

theorem position?_eq_some : w.position? a = some p ↔
    ∃ number worker, w.workers.serving.get? a.storage.id = some number ∧
      w.workers.get? number = some worker ∧ worker.position? a.topic = some p := by
  simp only [position?, Option.bind_eq_some_iff]
  constructor
  · rintro ⟨worker, ⟨number, serving, registered⟩, known⟩
    exact ⟨number, worker, serving, registered, known⟩
  · rintro ⟨number, worker, serving, registered, known⟩
    exact ⟨worker, ⟨number, serving, registered⟩, known⟩

theorem setPosition_eq (w : World) (a : Timeline) (p : Position) :
    ∃ workers : Workers, w.setPosition a p = w.withWorkers workers ∧
      workers.serving = w.workers.serving := by
  rw [setPosition]
  cases w.workers.serving.get? a.storage.id with
  | none => exact ⟨w.workers, rfl, rfl⟩
  | some number => exact ⟨_, rfl, rfl⟩

theorem position?_of_extends (extends' : w.workers.Extends w'.workers)
    (known : w.position? a = some p) : w'.position? a = some p := by
  obtain ⟨number, worker, serving, registered, known⟩ := position?_eq_some.1 known
  obtain ⟨worker', registered', further⟩ := extends'.each number worker registered
  exact position?_eq_some.2
    ⟨number, worker', extends'.serving ▸ serving, registered', further.position? known⟩

theorem position?_setPosition (known : w.position? a = some p) (further : q.Covers p)
    (other : w.position? b = some r) :
    ∃ r', (w.setPosition a q).position? b = some r' ∧ r'.Covers r := by
  obtain ⟨number, worker, serving, registered, known⟩ := position?_eq_some.1 known
  obtain ⟨number', worker', serving', registered', other⟩ := position?_eq_some.1 other
  simp only [setPosition, serving]
  by_cases same : number' = number
  · subst same
    obtain rfl := Option.some_inj.1 (registered.symm.trans registered')
    have changed : (w.workers.all.modify number' fun worker : Worker =>
        { worker with positions := worker.positions.insert a.topic q }).get? number' =
        some { worker with positions := worker.positions.insert a.topic q } :=
      Table.get?_modify_of_get? _ registered
    by_cases topic : b.topic = a.topic
    · rw [topic, known] at other
      obtain rfl := Option.some_inj.1 other
      refine ⟨q, position?_eq_some.2 ⟨number', _, serving', changed, ?_⟩, further⟩
      rw [topic]
      exact Worker.position?_of_set (Table.get?_insert_self ..)
    · refine ⟨r, position?_eq_some.2 ⟨number', _, serving', changed, ?_⟩, .refl r⟩
      have apart := Table.get?_insert_of_ne worker.positions q topic
      cases set : worker.positions.get? b.topic with
      | some s =>
        rw [Worker.position?_of_set set] at other
        exact Worker.position?_of_set (apart.trans (set.trans other))
      | none =>
        rw [Worker.position?_of_unset set] at other
        exact (Worker.position?_of_unset (apart.trans set)).trans other
  · refine ⟨r, position?_eq_some.2 ⟨number', worker', serving', ?_, other⟩, .refl r⟩
    exact (Table.get?_modify_of_ne _ _ same).trans registered'

theorem position?_setPosition_self (known : w.position? a = some p) :
    (w.setPosition a q).position? a = some q := by
  obtain ⟨number, worker, serving, registered, known⟩ := position?_eq_some.1 known
  simp only [setPosition, serving]
  have changed : (w.workers.all.modify number fun worker : Worker =>
      { worker with positions := worker.positions.insert a.topic q }).get? number =
      some { worker with positions := worker.positions.insert a.topic q } :=
    Table.get?_modify_of_get? _ registered
  exact position?_eq_some.2 ⟨number, _, serving, changed,
    Worker.position?_of_set (Table.get?_insert_self ..)⟩

end World

/-- What a publisher does to a timeline. -/
inductive PublisherStep where
  | targets (timeline : Timeline)
  | advances (timeline : Timeline) (position : Position)

def PublisherStep.timeline : PublisherStep → Timeline
  | .targets t => t
  | .advances t _ => t

/-- The world, and what publishers have done so far, the oldest first. -/
structure Traffic where
  world : World
  steps : List PublisherStep

namespace Traffic

def withWorld (t : Traffic) (world : World) : Traffic := { t with world := world }

def withFences (t : Traffic) (fences : LocalFences) : Traffic :=
  t.withWorld (t.world.withFences fences)

def giveUp (t : Traffic) (ticket : Ticket) : Traffic := t.withFences (t.world.fences.giveUp ticket)

/-- Reads the active timeline of an event type to publish to it. -/
def target (e : String) (t : Traffic) : Option Timeline × Traffic :=
  match t.world.store.active? e with
  | none => (none, t)
  | some a => (some a, { t with steps := t.steps ++ [.targets a] })

/-- Publishes to a timeline, if its worker knows it. -/
def advance (t : Traffic) (a : Timeline) (change : Position → Position) : Traffic :=
  match t.world.position? a with
  | none => t
  | some p => ⟨t.world.setPosition a (change p), t.steps ++ [.advances a (change p)]⟩

/-- A step with a permit, which is given back by a publisher that is dropped before the step. -/
def withPermit {α β : Type} (ticket : Ticket) (step : Traffic → β × Traffic)
    (next : β → Process Traffic α) : Process Traffic α :=
  .waiting (fun _ => true) 0 (·.giveUp ticket) step next

/-- A publisher. It gives the timeline that it published to. -/
def publisher (e : String) (limit : Duration) (change : Position → Position) :
    Process Traffic (Except TimelineError (Option Timeline)) :=
  (((LocalFences.permit e limit).within World.fences World.withFences).within world withWorld).bind
    fun
    | .error error => .done (.error (.fence error))
    | .ok ticket =>
        withPermit ticket (target e) fun a =>
          withPermit ticket (fun t => ((), a.elim t (t.advance · change))) fun _ =>
            withPermit ticket (fun t => ((), t.giveUp ticket)) fun _ => .done (.ok a)

end Traffic

/-- Who takes part in the traffic: a task that works on timelines, or a publisher with its use of a
lock and the timeline that it is about to publish to. -/
inductive Party where
  | updater (stake : Stake)
  | publisher (user : Option FenceUser) (target : Option Timeline)

namespace Party

/-- A publisher has seen the timeline that it publishes to. -/
def stake : Party → Stake
  | .updater k => k
  | .publisher user target => ⟨user, target.elim .idle .found⟩

/-- The steps in the traffic of one event type. -/
inductive Move (e : String) : Party → Traffic → Sight → Party → Traffic → Prop where
  | update {k k' : Stake} {t : Traffic} {w : World} {sight : Sight}
      (moved : k.Move t.world sight k' w) :
      Move e (.updater k) t sight (.updater k') (t.withWorld w)
  | stay {u : Option FenceUser} {target : Option Timeline} {t : Traffic} {sight : Sight} :
      Move e (.publisher u target) t sight (.publisher u target) t
  | ask {t : Traffic} {sight : Sight} :
      Move e (.publisher none none) t sight
        (.publisher (some ⟨e, (t.world.fences.ask e .shared).1, .waiting .shared⟩) none)
        (t.withFences (t.world.fences.ask e .shared).2)
  | permit {ticket : Ticket} {t : Traffic} {sight : Sight}
      (granted : t.world.fences.isGranted ticket = true) :
      Move e (.publisher (some ⟨e, ticket, .waiting .shared⟩) none) t sight
        (.publisher (some ⟨e, ticket, .publishing⟩) none) t
  | leave {u : FenceUser} {target : Option Timeline} {t : Traffic} {sight : Sight}
      (shared : u.role ≠ .updating) :
      Move e (.publisher (some u) target) t sight (.publisher none target) (t.giveUp u.ticket)
  | target {ticket : Ticket} {a : Timeline} {t : Traffic} {sight : Sight}
      (active : t.world.store.active? e = some a) :
      Move e (.publisher (some ⟨e, ticket, .publishing⟩) none) t sight
        (.publisher (some ⟨e, ticket, .publishing⟩) (some a))
        { t with steps := t.steps ++ [.targets a] }
  | advance {ticket : Ticket} {a : Timeline} {p q : Position} {t : Traffic} {sight : Sight}
      (latest : t.world.position? a = some p) (further : q.Covers p) :
      Move e (.publisher (some ⟨e, ticket, .publishing⟩) (some a)) t sight
        (.publisher (some ⟨e, ticket, .publishing⟩) (some a))
        ⟨t.world.setPosition a q, t.steps ++ [.advances a q]⟩

/-- The protocol of the traffic of an event type. -/
def protocol (e : String) : Protocol Traffic Party where
  moves := Move e
  splits p owed kept := ∃ k ko kk, p = .updater k ∧ owed = .updater ko ∧ kept = .updater kk ∧
    Stake.protocol.splits k ko kk
  settled p := p.stake.user = none

end Party

/-- The parties to the traffic: operations on timelines of any event types, and publishers of one,
which never go back. -/
inductive Traffic.IsCall (e : String) :
    Process Traffic (Except TimelineError (Option Timeline)) → Prop where
  | update (call : TimelineCall) :
      IsCall e (call.operation.run.within Traffic.world Traffic.withWorld)
  | publish (limit : Duration) (change : Position → Position)
      (onward : ∀ p, (change p).Covers p) : IsCall e (Traffic.publisher e limit change)

namespace Traffic

variable {e : String}

theorem follows_update (call : TimelineCall) :
    (call.operation.run.within world withWorld).Follows (Party.protocol e)
      (Party.protocol e).settled (fun _ => (Party.protocol e).settled) (.updater call.stake) := by
  have moves : ∀ {k k' : Stake} {t : Traffic} {sight : Sight} {w : World},
      Stake.protocol.moves k t.world sight k' w →
        (Party.protocol e).moves (.updater k) t sight (.updater k') (t.withWorld w) := .update
  have splits : ∀ {k owed kept : Stake}, Stake.protocol.splits k owed kept →
      (Party.protocol e).splits (.updater k) (.updater owed) (.updater kept) :=
    fun split => ⟨_, _, _, rfl, rfl, rfl, split⟩
  refine Process.Follows.within moves splits (fun settled => settled) (fun _ left => left) ?_
    call.follows
  rintro (_ | _) k ended <;> exact ended

/-- A publisher that is dropped before a step with its permit gives the permit back. -/
theorem follows_withPermit {α β : Type} {ticket : Ticket} {step : Traffic → β × Traffic}
    {next : β → Process Traffic α} {target : Option Timeline} {post : α → Party → Prop}
    (taken : ∀ t, ∃ p, Party.Move e (.publisher (some ⟨e, ticket, .publishing⟩) target) t
      (.answer (step t).1) p (step t).2 ∧
        (next (step t).1).Follows (Party.protocol e) (Party.protocol e).settled post p) :
    (withPermit ticket step next).Follows (Party.protocol e) (Party.protocol e).settled post
      (.publisher (some ⟨e, ticket, .publishing⟩) target) :=
  ⟨fun _ => ⟨_, .leave FenceRole.publishing_ne_updating, rfl⟩, taken⟩

theorem follows_publishing {ticket : Ticket} {change : Position → Position}
    (onward : ∀ p, (change p).Covers p) :
    (withPermit ticket (target e) fun a =>
      withPermit ticket (fun t => ((), a.elim t (t.advance · change))) fun _ =>
        withPermit ticket (fun t => ((), t.giveUp ticket)) fun _ =>
          (.done (.ok a) : Process Traffic (Except TimelineError (Option Timeline)))).Follows
      (Party.protocol e) (Party.protocol e).settled (fun _ => (Party.protocol e).settled)
      (.publisher (some ⟨e, ticket, .publishing⟩) none) := by
  have ending : ∀ (a target : Option Timeline), (withPermit ticket
      (fun t => ((), t.giveUp ticket)) fun _ =>
        (.done (.ok a) : Process Traffic (Except TimelineError (Option Timeline)))).Follows
      (Party.protocol e) (Party.protocol e).settled (fun _ => (Party.protocol e).settled)
      (.publisher (some ⟨e, ticket, .publishing⟩) target) := fun a target =>
    follows_withPermit fun t => ⟨_, .leave FenceRole.publishing_ne_updating, rfl⟩
  refine follows_withPermit fun t => ?_
  cases active : t.world.store.active? e with
  | none =>
    rw [target, active]
    refine ⟨_, .stay, follows_withPermit fun t => ?_⟩
    exact ⟨_, .stay, ending none none⟩
  | some a =>
    rw [target, active]
    refine ⟨_, .target active, follows_withPermit fun t => ?_⟩
    change ∃ p, Party.Move e _ t _ p (t.advance a change) ∧ _
    cases latest : t.world.position? a with
    | none =>
      rw [advance, latest]
      exact ⟨_, .stay, ending (some a) (some a)⟩
    | some p =>
      rw [advance, latest]
      exact ⟨_, .advance latest (onward p), ending (some a) (some a)⟩

theorem follows_publisher {limit : Duration} {change : Position → Position}
    (onward : ∀ p, (change p).Covers p) :
    (publisher e limit change).Follows (Party.protocol e) (Party.protocol e).settled
      (fun _ => (Party.protocol e).settled) (.publisher none none) := by
  have waiting := FenceRole.waiting_ne_updating .shared
  refine ⟨rfl, fun t => ⟨_, .ask, ⟨fun _ => ⟨_, .leave waiting, rfl⟩, fun t' => ?_⟩⟩⟩
  change ∃ p, Party.Move e _ t'
    (.answer (LocalFences.permitEnded e limit _ t'.world.fences).1) p
    (t'.withFences (LocalFences.permitEnded e limit _ t'.world.fences).2) ∧
      Process.Follows _
        (Process.bind (.done (LocalFences.permitEnded e limit _ t'.world.fences).1) _) _ _ _
  cases granted : t'.world.fences.isGranted (t.world.fences.ask e .shared).1 with
  | true =>
    rw [LocalFences.permitEnded_of_granted granted]
    exact ⟨_, .permit granted, follows_publishing onward⟩
  | false =>
    rw [LocalFences.permitEnded_of_waiting granted]
    exact ⟨_, .leave waiting, rfl⟩

end Traffic

end Cutover
