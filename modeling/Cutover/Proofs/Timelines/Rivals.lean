import Cutover.Proofs.Reports
import Cutover.Proofs.Timelines.Contest
import Cutover.Proofs.Timelines.Stages

set_option autoImplicit false

namespace Cutover

open Operation

/-- A call that makes a timeline: the first one of a new event type, or one to switch to. -/
inductive Rival where
  | createFirst
  | switchTo (storageId : String)

namespace Rival

def operation (sync : TimelineSync World) (e : String) : Rival → Operation Timeline
  | .createFirst => Timelines.createFirst e
  | .switchTo storageId => Timelines.switchTo sync e storageId

/-- The error of a rival before which another one has come. -/
def loss (e : String) : Rival → TimelineError
  | .createFirst => .store (.duplicate ("timeline " ++ e ++ " order " ++ Text.ofNat 0))
  | .switchTo _ => .concurrentUpdate e

/-- What a rival has to report: that it had no timeline to store, or what came of one that it made
to come after the timeline it took for the active one, or as the first. -/
inductive Report where
  | unready (error : TimelineError)
  | tried (rival : Rival) (active : Option Timeline) (result : Except TimelineError Timeline)

namespace Report

def result : Report → Except TimelineError Timeline
  | .unready error => .error error
  | .tried _ _ result => result

/-- An operation in two stages, with a report. -/
def staged {α : Type} (rival : Rival) (ready : Operation α) (active : α → Option Timeline)
    (attempt : α → Operation Timeline) : Process World Report :=
  ready.run.bind fun
    | .error error => .done (.unready error)
    | .ok a => (attempt a).run.bind fun result => .done (.tried rival (active a) result)

theorem cut_staged {α : Type} (rival : Rival) (ready : Operation α) (active : α → Option Timeline)
    (attempt : α → Operation Timeline) :
    Pool.cut result (staged rival ready active attempt) = (ready >>= attempt).run := by
  rw [Pool.cut, staged, ExceptT.run_bind, Process.bind_assoc]
  congr 1
  funext made
  cases made with
  | error error => rfl
  | ok a =>
    show ((attempt a).run.bind _).bind _ = (attempt a).run
    rw [Process.bind_assoc]
    exact Process.bind_done _

end Report

def reporting (sync : TimelineSync World) (e : String) : Rival → Process World Report
  | .createFirst => Report.staged .createFirst (Timelines.firstDraft e) (fun _ => none)
      fun first => do
        writeStore (·.createTimeline first)
        return first
  | .switchTo storageId => Report.staged (.switchTo storageId) (Timelines.plan e storageId)
      (fun s => s.active) fun s =>
        fenced sync e Timelines.updateLimit (Timelines.commit e s.active s.worker s.next)

theorem cut_reporting (sync : TimelineSync World) (e : String) (rival : Rival) :
    Pool.cut Report.result (rival.reporting sync e) = (rival.operation sync e).run := by
  cases rival with
  | createFirst => rw [reporting, Report.cut_staged, operation, Timelines.createFirst_eq]
  | switchTo storageId => rw [reporting, Report.cut_staged, operation, Timelines.switchTo_eq]

end Rival

/-- A timeline that is not stored yet, to come after another or as the first. -/
structure Timeline.IsDraft (t : Timeline) (e : String) (active : Option Timeline) : Prop where
  named : t.eventType = e
  order : t.order = Timeline.orderAfter active
  unended : t.lastPosition = none
  genuine : t.fake = false

namespace Contest

variable {c : Contest} {k k' : c.rules.Footing} {w : World} {owned : Multiset Bid}

/-- What a rival has seen of the active timeline. -/
def Seen (c : Contest) (active : Option Timeline) (w : World) : Prop :=
  ∀ a, active = some a → a.eventType = c.eventType ∧ Stored a w

theorem stable_seen (active : Option Timeline) : c.rules.Stable (c.Seen active) :=
  .all fun a => .imp fun w w' later seen => ⟨seen.1, stable_stored a w w' later seen.2⟩

/-- The worker of the active timeline has its topic. -/
def Reachable (active : Option Timeline) (number : Nat) (w : World) : Prop :=
  ∀ a, active = some a → w.HasTopic number a.topic

theorem harmless_consulted (w w' : World) (consulted : w.Consulted w') : c.rules.Harmless w w' :=
  harmless_outside consulted.outside

/-- A rival that has a draft to store. -/
structure Ready (c : Contest) (active : Option Timeline) (worker : Nat) (next : Timeline)
    (k : c.rules.Footing) : Prop where
  owns : k.owns = {.draft next.id}
  draft : next.IsDraft c.eventType active
  seen : k.Grants (c.Seen active)
  reachable : k.Grants (Reachable active worker)

theorem Ready.firmer {active : Option Timeline} {worker : Nat} {next : Timeline}
    (ready : c.Ready active worker next k) (owns : k'.owns = k.owns) (firmer : k'.Firmer k) :
    c.Ready active worker next k' :=
  ⟨owns.trans ready.owns, ready.draft, ready.seen.firmer firmer, ready.reachable.firmer firmer⟩

/-- A rival whose timeline is committed after the one that it took for the active one. -/
structure Won (c : Contest) (active : Option Timeline) (t : Timeline) (k : c.rules.Footing) :
    Prop where
  owns : k.owns = {.won (Timeline.orderAfter active)}
  named : t.eventType = c.eventType
  order : t.order = Timeline.orderAfter active
  seen : k.Grants (c.Seen active)
  stored : k.Grants (Stored t)

/-- A rival whose timeline is not taken. Unless a call was made to fail, another one has come
first. -/
def Lost (c : Contest) (rival : Rival) (active : Option Timeline) (error : TimelineError)
    (k : c.rules.Footing) : Prop :=
  k.Grants fun w => c.calm → error = rival.loss c.eventType ∧ c.Outdated active w

theorem stable_lost (rival : Rival) (active : Option Timeline) (error : TimelineError) :
    c.rules.Stable fun w => c.calm → error = rival.loss c.eventType ∧ c.Outdated active w :=
  .imp fun w w' later lost => ⟨lost.1, stable_outdated active w w' later lost.2⟩

theorem upholds_draw {e topic : String} {order : Nat} {storage : Storage}
    {done : Timeline → c.rules.Footing → Prop} (owns : k.owns = 0)
    (held : ∀ id now k', k'.owns = {.draft id} → k'.Firmer k →
      done (.fresh id e order storage topic now) k') :
    (newTimeline e order storage topic).Upholds c.rules done (fun _ _ => True) k := by
  apply upholds_newTimeline
  intro w
  refine ⟨_, moves_draw k w, held _ _ _ ?_ fun _ held => held⟩
  show Bid.draft w.ids.draw.1 ::ₘ k.owns = {.draft w.ids.draw.1}
  rw [owns]
  rfl

theorem upholds_defaultStorage {done : Storage → c.rules.Footing → Prop}
    (held : ∀ storage, done storage k) :
    Registry.defaultStorage.Upholds c.rules done (fun _ _ => True) k := by
  apply upholds_bind
  apply upholds_glance
  intro found
  cases found with
  | none => exact upholds_throw trivial
  | some storage => exact upholds_pure (held storage)

theorem upholds_firstDraft (owns : k.owns = 0) :
    (Timelines.firstDraft c.eventType).Upholds c.rules
      (fun first k' => first.isSwitched = true ∧ c.Ready none 0 first k') (fun _ _ => True) k := by
  apply upholds_bind
  apply upholds_bind
  apply upholds_defaultStorage
  intro storage
  apply (consults_workerFor storage).upholds_quietly harmless_consulted _ fun _ => trivial
  intro worker
  apply upholds_bind
  apply (consults_layOut worker _ none false).upholds_quietly harmless_consulted _ fun _ => trivial
  intro topic
  apply upholds_bind
  apply (consults_storageOf worker).upholds_quietly harmless_consulted _ fun _ => trivial
  intro storage
  apply upholds_bind
  apply upholds_draw owns
  intro id now k' owns _
  exact upholds_pure ⟨rfl, owns, ⟨rfl, rfl, rfl, rfl⟩, fun _ _ _ => nofun, fun _ _ _ => nofun⟩

theorem upholds_prepare {storage oldStorage : Storage} {active : Option Timeline}
    {oldWorker newWorker : Nat} (owns : k.owns = 0) (seen : k.Grants (c.Seen active)) :
    (Timelines.prepare c.eventType storage active oldStorage oldWorker newWorker).Upholds c.rules
      (c.Ready active oldWorker) (fun _ _ => True) k := by
  cases active with
  | none =>
    rw [Timelines.prepare]
    refine upholds_check (fun _ => trivial) fun _ => ?_
    apply upholds_bind
    apply (consults_syntheticTimeline oldWorker _).upholds_quietly harmless_consulted _
      fun _ => trivial
    intro layout
    apply upholds_bind
    apply (consults_partitionNames oldWorker _).upholds_quietly harmless_consulted _
      fun _ => trivial
    intro partitions
    apply upholds_bind
    apply (consults_layOut newWorker _ _ true).upholds_quietly harmless_consulted _ fun _ => trivial
    intro topic
    apply upholds_draw owns
    exact fun id now k' owns _ =>
      ⟨owns, ⟨rfl, rfl, rfl, rfl⟩, fun _ _ _ => nofun, fun _ _ _ => nofun⟩
  | some current =>
    apply upholds_bind
    refine (consults_partitionNames oldWorker current.topic).upholds harmless_consulted
      (fun _ w => w.HasTopic oldWorker current.topic) (fun _ _ => True)
      (fun _ => stable_topic oldWorker current.topic) (fun _ => Rules.stable_const _)
      (fun _ _ _ _ _ _ _ has => has) (fun _ _ _ _ _ _ => trivial) (fun partitions k₁ learns => ?_)
      fun _ _ _ => trivial
    apply upholds_bind
    apply (consults_layOut newWorker _ _ false).upholds_quietly harmless_consulted _
      fun _ => trivial
    intro topic
    apply upholds_draw (learns.owns.trans owns)
    intro id now k₂ owns firmer
    refine ⟨owns, ⟨rfl, rfl, rfl, rfl⟩, ?_, fun w known a same => ?_⟩
    · exact (seen.firmer learns.firmer).firmer firmer
    · obtain rfl := Option.some_inj.1 same
      exact learns.grants.firmer firmer w known

theorem upholds_relocate {storage oldStorage : Storage} {active : Option Timeline} {oldWorker : Nat}
    (owns : k.owns = 0) (seen : k.Grants (c.Seen active)) :
    (do
      let newWorker ← workerFor storage
      let next ← Timelines.prepare c.eventType storage active oldStorage oldWorker newWorker
      return (⟨active, oldWorker, next⟩ : Switch)).Upholds c.rules
      (fun s k' => c.Ready s.active s.worker s.next k') (fun _ _ => True) k := by
  apply upholds_bind
  apply (consults_workerFor storage).upholds_quietly harmless_consulted _ fun _ => trivial
  intro newWorker
  apply upholds_bind
  apply (upholds_prepare owns seen).mono _ fun _ _ _ => trivial
  exact fun next k' ready => upholds_pure ready

theorem upholds_plan (storageId : String) (owns : k.owns = 0) :
    (Timelines.plan c.eventType storageId).Upholds c.rules
      (fun s k' => c.Ready s.active s.worker s.next k') (fun _ _ => True) k := by
  apply upholds_bind
  apply upholds_glance
  intro found
  cases found with
  | none => exact upholds_bind (upholds_throw trivial)
  | some storage =>
    refine upholds_bind (upholds_pure (upholds_bind ?_))
    apply (consults_findEventType _).upholds_quietly harmless_consulted _ fun _ => trivial
    intro _
    apply upholds_bind
    refine upholds_look c.Seen stable_seen (fun w others _ _ _ a active => ?_)
      fun active k₁ learns => ?_
    · obtain ⟨inside, named, _⟩ := Store.active_spec active
      exact ⟨named, a, inside, .refl a⟩
    have owns : k₁.owns = 0 := learns.owns.trans owns
    cases active with
    | none =>
      apply upholds_bind
      apply upholds_defaultStorage
      intro oldStorage
      apply upholds_bind
      apply (consults_workerFor _).upholds_quietly harmless_consulted _ fun _ => trivial
      exact fun oldWorker => upholds_relocate owns learns.grants
    | some previous =>
      refine upholds_bind (upholds_pure (upholds_bind ?_))
      apply (consults_workerFor _).upholds_quietly harmless_consulted _ fun _ => trivial
      exact fun oldWorker => upholds_relocate owns learns.grants

/-- A draft that is stored comes after what its rival took for the active timeline. -/
theorem Ready.succeeds {active : Option Timeline} {worker : Nat} {next : Timeline}
    {others : Multiset Bid} (ready : c.Ready active worker next k)
    (held : c.Holds w (k.owns + others)) (fresh : w.ids.Fresh) (switchedAt : Option Timestamp)
    (switched : switchedAt.isSome = true) (free : w.store.timelines.get? next.id = none) :
    { next with switchedAt := switchedAt }.Succeeds w.store active := by
  rw [ready.owns, Multiset.singleton_add] at held
  obtain ⟨n, before, same⟩ := held.drawn _ (Multiset.mem_cons_self _ _)
  have genuine : next.id ≠ .nil := same ▸ fresh.genuine n before
  exact ⟨free, ready.draft.order, ready.draft.unended, switched, ready.draft.genuine, genuine⟩

theorem Ready.free {active : Option Timeline} {worker : Nat} {next t : Timeline}
    {others : Multiset Bid} (ready : c.Ready active worker next k)
    (held : c.Holds w (k.owns + others)) : w.store.timelines.get? next.id ≠ some t := by
  intro found
  have inside : t ∈ w.store.timelines.values := Table.mem_values_iff.2 ⟨_, found⟩
  obtain ⟨_, apart⟩ := held.stored t inside
  rw [ready.owns, Multiset.singleton_add, held.keyed _ t found, Multiset.mem_cons, not_or] at apart
  exact apart.1 rfl

theorem Ready.won {active : Option Timeline} {worker : Nat} {next : Timeline}
    (ready : c.Ready active worker next k) (switchedAt : Option Timestamp) :
    c.Won active { next with switchedAt := switchedAt }
      ((k.also (stable_stored { next with switchedAt := switchedAt })).owning
        {.won next.order}) where
  owns := by
    show {Bid.won next.order} = {Bid.won (Timeline.orderAfter active)}
    rw [ready.draft.order]
  named := ready.draft.named
  order := ready.draft.order
  seen w known := ready.seen w known.1
  stored w known := known.2

section Storing

variable {active : Option Timeline} {worker : Nat} {next : Timeline} {others : Multiset Bid}
  {s : Store} {error : StoreError} {position : Position} {switchedAt : Timestamp}

theorem Ready.created (ready : c.Ready none worker next k) (held : c.Holds w (k.owns + others))
    (fresh : w.ids.Fresh) (switched : next.isSwitched = true)
    (created : w.store.createTimeline next = .ok s) : w.store.Commits none next s := by
  obtain ⟨free, untaken, rfl⟩ := Store.createTimeline_ok created
  apply Store.Commits.first _ (ready.succeeds held fresh next.switchedAt switched free)
  rw [ready.draft.named, ← Store.active?_part, held.sequenced.active_none_iff]
  intro t inside ours
  -- Any timeline of the event type would have one of order zero below it.
  obtain ⟨u, below, same, order⟩ := held.sequenced.below inside (Nat.zero_le _)
  have new := Store.unstored_of_get? held.keyed free
  have taken := (Store.mem_part.1 below).1
  exact Store.order_free new untaken u taken (same.trans (ours.trans ready.draft.named.symm))
    (order.trans ready.draft.order.symm)

/-- A first timeline that the store does not take is not the first one of the event type. -/
theorem Ready.uncreated (ready : c.Ready none worker next k) (held : c.Holds w (k.owns + others))
    (refused : w.store.createTimeline next = .error error) :
    TimelineError.ofStore error = Rival.createFirst.loss c.eventType ∧ c.Outdated none w := by
  rcases Store.createTimeline_error refused with ⟨t, found⟩ | ⟨taken, rfl⟩
  · exact absurd found (ready.free held)
  · obtain ⟨t, inside, same, _⟩ := Store.orderTaken_spec taken
    rw [ready.draft.named, ready.draft.order]
    exact ⟨rfl, t, inside, same.trans ready.draft.named⟩

theorem map_id_sealed (active : Option Timeline) (position : Position) :
    (active.map fun a => { a with lastPosition := some position }).map (·.id) =
      active.map (·.id) := by
  rw [Option.map_map]
  rfl

theorem Ready.switched (ready : c.Ready active worker next k) (held : c.Holds w (k.owns + others))
    (fresh : w.ids.Fresh) (known : k.holds w)
    (committed : w.store.commitSwitch
      (active.map fun a => { a with lastPosition := some position })
      { next with switchedAt := some switchedAt } = .ok s) :
    w.store.Commits active { next with switchedAt := some switchedAt } s := by
  obtain ⟨free, _, current, rfl⟩ := Store.commitSwitch_ok committed
  have succeeds := ready.succeeds held fresh (some switchedAt) rfl free
  have named : ({ next with switchedAt := some switchedAt } : Timeline).eventType = c.eventType :=
    ready.draft.named
  rw [map_id_sealed, named] at current
  cases active with
  | none =>
    rw [Option.map_none, Option.map_eq_none_iff, ← named] at current
    exact .first current succeeds
  | some a =>
    obtain ⟨b, found, ids⟩ := Option.map_eq_some_iff.1 current
    obtain rfl := held.eq_active (ready.seen w known a rfl).2 found ids
    rw [← named] at found
    exact .switch position found succeeds

theorem Ready.unswitched (ready : c.Ready active worker next k)
    (held : c.Holds w (k.owns + others)) (known : k.holds w) (calm : c.calm) (storageId : String)
    (refused : w.store.commitSwitch (active.map fun a => { a with lastPosition := some position })
      { next with switchedAt := some switchedAt } = .error error) :
    TimelineError.ofStore error = (Rival.switchTo storageId).loss c.eventType ∧
      c.Outdated active w := by
  have named := ready.draft.named
  have seen := ready.seen w known
  rcases Store.commitSwitch_error refused with ⟨failing, _⟩ | ⟨previous, found, missing, _⟩ |
    ⟨t, taken, _⟩ | ⟨mismatch, rfl⟩
  · rw [(held.calm calm).switches] at failing
    exact nomatch failing
  · -- What the rival has seen is still stored.
    obtain ⟨a, here, rfl⟩ := Option.map_eq_some_iff.1 found
    obtain ⟨_, u, inside, continues⟩ := seen a here
    have ids : u.id = a.id := by rw [continues.knows]
    rw [held.keyed.mem_iff, ids] at inside
    exact nomatch missing.symm.trans inside
  · exact absurd taken (ready.free held)
  · refine ⟨congrArg TimelineError.concurrentUpdate named, ?_⟩
    rw [map_id_sealed] at mismatch
    by_cases moved : (w.store.active? c.eventType).map (·.id) = active.map (·.id)
    · have taken := mismatch.resolve_left (not_not.2 (named ▸ moved))
      exact held.outdated_of_taken moved (fun a here => (seen a here).2) taken named
        ready.draft.order
    · exact held.outdated seen moved

end Storing

theorem upholds_createTimeline {worker : Nat} {first : Timeline}
    (switched : first.isSwitched = true) (ready : c.Ready none worker first k) :
    (do
      writeStore (·.createTimeline first)
      return first).Upholds c.rules (c.Won none) (c.Lost .createFirst none) k := by
  apply upholds_bind
  apply upholds_writeStore
  · intro w s created
    have moves := moves_commit none first ready.owns ready.draft.named
      fun others fresh held _ => ready.created held fresh switched created
    exact ⟨_, moves, upholds_pure (ready.won first.switchedAt)⟩
  · intro w error refused
    have moves := Rules.moves_also (stable_lost .createFirst none (.ofStore error))
      fun others _ held _ _ => ready.uncreated held refused
    exact ⟨_, moves, fun w known => known.2⟩

theorem upholds_commitSwitch {storageId : String} {active : Option Timeline} {worker : Nat}
    {next : Timeline} (position : Position) (switchedAt : Timestamp)
    (ready : c.Ready active worker next k) :
    (writeStore (·.commitSwitch (active.map fun a => { a with lastPosition := some position })
      { next with switchedAt := some switchedAt }) >>= fun _ =>
        pure { next with switchedAt := some switchedAt }).Upholds c.rules (c.Won active)
      (c.Lost (.switchTo storageId) active) k := by
  apply upholds_bind
  apply upholds_writeStore
  · intro w s committed
    have moves := moves_commit active { next with switchedAt := some switchedAt } ready.owns
      ready.draft.named fun others fresh held known => ready.switched held fresh known committed
    exact ⟨_, moves, upholds_pure (ready.won (some switchedAt))⟩
  · intro w error refused
    have moves := Rules.moves_also (stable_lost (.switchTo storageId) active (.ofStore error))
      fun others _ held known calm => ready.unswitched held known calm storageId refused
    exact ⟨_, moves, fun w known => known.2⟩

theorem upholds_ensureActive {storageId : String} {active : Option Timeline}
    {done : Unit → c.rules.Footing → Prop} (seen : k.Grants (c.Seen active))
    (held : ∀ k', k'.owns = k.owns → k'.Firmer k → done () k') :
    (Timelines.ensureActive c.eventType (active.map (·.id))).Upholds c.rules done
      (c.Lost (.switchTo storageId) active) k := by
  apply upholds_bind
  apply upholds_look fun current w =>
    current.map (·.id) ≠ active.map (·.id) → c.Outdated active w
  · exact fun current => .imp (stable_outdated active)
  · exact fun w others _ held known moved => held.outdated (seen w known) moved
  · intro current k' checked
    split
    · next moved => exact upholds_throw fun w known _ => ⟨rfl, checked.grants w known moved⟩
    · exact held k' checked.owns checked.firmer

/-- The last position of the active timeline can be told unless a call is made to fail. -/
theorem upholds_sealActive {rival : Rival} {active : Option Timeline} {worker : Nat}
    {done : Option Timeline → c.rules.Footing → Prop}
    (reachable : k.Grants (Reachable active worker))
    (held : ∀ position k', k'.owns = k.owns → k'.Firmer k →
      done (active.map fun a => { a with lastPosition := some position }) k') :
    (Timelines.sealActive worker active).Upholds c.rules done (c.Lost rival active) k := by
  cases active with
  | none => exact upholds_pure (held default k rfl fun _ known => known)
  | some previous =>
    apply upholds_bind
    refine (consults_latestPosition worker previous).upholds harmless_consulted (fun _ _ => True)
      (fun _ _ => ¬ c.calm) (fun _ => Rules.stable_const _) (fun _ => Rules.stable_const _)
      (fun _ _ _ _ _ _ _ _ => trivial) (fun w error others holds known failed calm => ?_)
      (fun position k' learns => ?_) fun error k' learns w known calm => ?_
    · obtain ⟨registered, count, here, found⟩ := reachable w known previous rfl
      rcases failed with ⟨gone, _⟩ | ⟨other, fault, here', failed, _⟩
      · exact nomatch gone.symm.trans here
      · obtain rfl := Option.some_inj.1 (here.symm.trans here')
        have failing := (Worker.latestPosition_error found failed).1
        rw [(holds.calm calm).positions worker registered here] at failing
        exact nomatch failing
    · exact upholds_pure (held position k' learns.owns learns.firmer)
    · exact absurd calm (learns.grants w known)

theorem upholds_commit {storageId : String} {active : Option Timeline} {worker : Nat}
    {next : Timeline} (ready : c.Ready active worker next k) :
    (Timelines.commit c.eventType active worker next).Upholds c.rules (c.Won active)
      (c.Lost (.switchTo storageId) active) k := by
  apply upholds_bind
  apply upholds_ensureActive ready.seen
  intro k₁ owns firmer
  have ready := ready.firmer owns firmer
  apply upholds_bind
  apply upholds_glance
  intro switchedAt
  apply upholds_bind
  apply upholds_sealActive ready.reachable
  intro position k₂ owns firmer
  exact upholds_commitSwitch position switchedAt (ready.firmer owns firmer)

def Tells (c : Contest) : Rival.Report → c.rules.Footing → Prop
  | .unready _, _ => True
  | .tried _ active (.ok t), k => c.Won active t k
  | .tried rival active (.error error), k => c.Lost rival active error k

theorem upholds_staged {α : Type} {rival : Rival} {ready : Operation α}
    {active : α → Option Timeline} {attempt : α → Operation Timeline}
    (upholds : ready.Upholds c.rules (fun a k' => (attempt a).Upholds c.rules
      (c.Won (active a)) (c.Lost rival (active a)) k') (fun _ _ => True) k) :
    c.rules.Upholds (Rival.Report.staged rival ready active attempt) c.Tells k := by
  apply Rules.upholds_bind (Rules.Upholds.mono upholds _)
  rintro (error | a) k' tried
  · trivial
  · apply Rules.upholds_bind (Rules.Upholds.mono tried _)
    rintro (error | t) k'' told
    · exact told
    · exact told

theorem upholds_reporting {sync : TimelineSync World} (only : sync.Only World.Fencing)
    (starts : c.calm → sync.Starts World.Calm) (rival : Rival) :
    c.rules.Upholds (rival.reporting sync c.eventType) c.Tells .nothing := by
  have harmless : ∀ w w' : World, w.Fencing w' → c.rules.Harmless w w' :=
    fun _ _ fencing => harmless_outside fencing.outside
  cases rival with
  | createFirst =>
    apply upholds_staged
    apply (upholds_firstDraft rfl).mono _ fun _ _ _ => trivial
    exact fun first k ready => upholds_createTimeline ready.1 ready.2
  | switchTo storageId =>
    apply upholds_staged
    apply (upholds_plan storageId rfl).mono _ fun _ _ _ => trivial
    intro s k ready
    by_cases calm : c.calm
    · apply upholds_unrefused only (starts calm) harmless
        (fun w owned _ held => Holds.calm held calm)
      · exact fun fault k' refused w known => absurd (refused w known) id
      · exact fun k' owns firmer => upholds_commit (ready.firmer owns firmer)
    · apply upholds_fenced only harmless
      · exact fun fault w known calm' => absurd calm' calm
      · exact upholds_commit ready

end Contest

end Cutover
