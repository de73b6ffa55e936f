import Cutover.Proofs.Histories
import Cutover.Proofs.Storages.Deletions
import Cutover.Proofs.Timelines.Race

set_option autoImplicit false

namespace Cutover

namespace Store

/-- How many timelines of an event type are stored. -/
def count (s : Store) (e : String) : Nat :=
  (s.timelines.values.filter fun t => t.eventType = e).length

variable {s s' : Store} {e : String} {t a next : Timeline} {id : Uuid}

theorem length_listTimelines (s : Store) (e : String) :
    (s.listTimelines (.ofEventType e)).length = s.count e :=
  (listTimelines_perm s e).length_eq

theorem count_eq_zero_iff : s.count e = 0 ↔ ∀ t ∈ s.timelines.values, t.eventType ≠ e := by
  rw [count, List.length_eq_zero_iff, List.filter_eq_nil_iff]
  refine forall₂_congr fun t _ => ?_
  rw [decide_eq_true_eq]

theorem Sequenced.count_of_open (sequenced : s.Sequenced) (inside : t ∈ s.timelines.values)
    (unended : t.lastPosition = none) : s.count t.eventType = t.order + 1 := by
  have member := mem_listTimelines.2 ⟨inside, rfl⟩
  rw [((sequenced.stream t.eventType).ended t member).1 unended, length_listTimelines]

theorem Sequenced.count_eq (sequenced : s.Sequenced) (e : String) :
    s.count e = Timeline.orderAfter (s.active? e) := by
  cases active : s.active? e with
  | none => exact count_eq_zero_iff.2 (sequenced.active_none_iff.1 active)
  | some a =>
    obtain ⟨inside, rfl, _⟩ := active_spec active
    exact sequenced.count_of_open inside (sequenced.active_open active)

/-- Without a gap in the sequence, a first timeline is new only if there is none. -/
theorem Sequenced.active_none_of_untaken (sequenced : s.Sequenced)
    (free : s.timelines.get? next.id = none)
    (untaken : next.orderTaken s.timelines.values = false) (first : next.order = 0) :
    s.active? next.eventType = none := by
  apply sequenced.active_none_iff.2
  intro t inside named
  obtain ⟨u, inside', named', order⟩ := sequenced.below inside (Nat.zero_le _)
  exact order_free (unstored_of_get? sequenced.keyed free) untaken u inside' (named'.trans named)
    (order.trans first.symm)

theorem Deletable.active_eq (deletable : s.Deletable e id t) (keyed : s.Keyed) :
    s.active? e = some t := by
  obtain ⟨a, active, same⟩ := Option.map_eq_some_iff.1 deletable.active
  have inside := Table.mem_values_iff.2 ⟨id, deletable.stored⟩
  rw [active, keyed.eq_of_id (active_spec active).1 inside same]

theorem Sequenced.deletable_iff (sequenced : s.Sequenced) : s.Deletable e id t ↔
    s.listTimelines (.ofEventType e) = [t] ∧ t.id = id := by
  have stream := sequenced.stream e
  constructor
  · -- Orders count from zero: the first timeline is the active one only if it is alone.
    intro deletable
    have member : t ∈ s.listTimelines (.ofEventType e) :=
      mem_listTimelines.2 ⟨Table.mem_values_iff.2 ⟨id, deletable.stored⟩, deletable.named⟩
    have one : (s.listTimelines (.ofEventType e)).length = 1 := by
      rw [length_listTimelines, sequenced.count_eq, deletable.active_eq sequenced.keyed,
        Timeline.orderAfter, deletable.first]
    obtain ⟨u, only⟩ := List.length_eq_one_iff.1 one
    rw [only, List.mem_singleton] at member
    rw [only, member]
    exact ⟨rfl, member ▸ sequenced.keyed id t deletable.stored⟩
  · rintro ⟨only, rfl⟩
    have orders := stream.orders
    have active := stream.active
    rw [only] at orders active
    obtain ⟨inside, named⟩ := mem_listTimelines.1 (only ▸ List.mem_singleton_self t)
    refine ⟨sequenced.keyed.mem_iff.1 inside, named, List.singleton_inj.1 orders, ?_⟩
    rw [active]
    rfl

end Store

namespace World

/-- The timelines are in sequence, and their ids were drawn. -/
structure Settled (w : World) : Prop where
  sequenced : w.store.Sequenced
  orderly : w.Orderly
  drawn : ∀ t ∈ w.store.timelines.values, w.ids.Drawn t.id

variable {w w' : World} {e storageId : String} {id : Uuid} {t : Timeline} {s : Store}

theorem Settled.free (settled : w.Settled) (fresh : w.ids.draw.2.Fresh) :
    w.store.timelines.get? w.ids.draw.1 = none := by
  rw [Option.eq_none_iff_forall_ne_some]
  intro t found
  have drawn := settled.drawn t (Table.mem_values_iff.2 ⟨_, found⟩)
  rw [settled.sequenced.keyed _ t found] at drawn
  exact fresh.not_drawn drawn

theorem next_genuine (fresh : w.ids.draw.2.Fresh) : w.ids.draw.1 ≠ .nil :=
  fresh.genuine w.ids.drawn (Nat.lt_succ_self _)

theorem Creates.planned (creates : w.Creates e t s) (settled : w.Settled)
    (fresh : w.ids.draw.2.Fresh) : ∃ plan : Plan, plan.Writes w.store e s := by
  obtain ⟨⟨d, number, worker, topic, -, -, -, rfl⟩, created⟩ := creates
  obtain ⟨free, untaken, rfl⟩ := Store.createTimeline_ok created
  have none := settled.sequenced.active_none_of_untaken free untaken rfl
  let draft : Timeline := .fresh w.ids.draw.1 e 0 worker.storage topic w.clock
  have writes : (Plan.next .none number draft).Writes w.store e
      (w.store.put { draft with switchedAt := some w.clock }) :=
    .first none free rfl ⟨rfl, next_genuine fresh⟩ rfl
  exact ⟨_, writes⟩

theorem Switches.planned (switches : w.Switches e storageId t s)
    (fresh : w.ids.draw.2.Fresh) : ∃ plan : Plan, plan.Writes w.store e s := by
  obtain ⟨⟨storage, topic, -, -, rfl⟩, position, committed⟩ := switches
  obtain ⟨free, _, _, rfl⟩ := Store.commitSwitch_ok committed
  cases active : w.store.active? e with
  | none =>
    let draft : Timeline := .fresh w.ids.draw.1 e 0 storage topic w.clock
    have writes : (Plan.next none 0 draft).Writes w.store e
        (w.store.put { draft with switchedAt := some w.clock }) :=
      .first active free rfl ⟨rfl, next_genuine fresh⟩ rfl
    exact ⟨_, writes⟩
  | some a =>
    let draft : Timeline := .fresh w.ids.draw.1 e (a.order + 1) storage topic w.clock
    have writes : (Plan.measured a position draft).Writes w.store e
        (w.store.switched a { draft with switchedAt := some w.clock } position) :=
      .switch active rfl free rfl ⟨rfl, next_genuine fresh⟩ rfl
    exact ⟨_, writes⟩

end World

theorem Store.Deletable.planned {s s' : Store} {e : String} {id : Uuid} {t : Timeline}
    (deletable : s.Deletable e id t) (keyed : s.Keyed) (deleted : s.deleteTimeline id = .ok s') :
    ∃ plan : Plan, plan.Writes s e s' := by
  obtain rfl := deleteTimeline_ok deleted
  have active := deletable.active_eq keyed
  have writes : (Plan.doomed t).Writes s e { s with timelines := s.timelines.erase t.id } := by
    obtain rfl := deletable.named
    exact .delete active deletable.first
  rw [keyed id t deletable.stored] at writes
  exact ⟨_, writes⟩

namespace ServiceCall.Writes

variable {w w₁ : World} {call : ServiceCall} {t : Timeline}

/-- As to timelines, a call writes what a plan for its event type does, if anything. -/
theorem planned (writes : call.Writes w w₁) (settled : w.Settled) (fresh : w.ids.draw.2.Fresh) :
    w₁.store.timelines = w.store.timelines ∨ ∃ (plan : Plan) (e : String),
      call.eventType = some e ∧ plan.Writes w.store e w₁.store := by
  cases writes with
  | nothing => exact .inl rfl
  | create creates =>
    obtain ⟨plan, writes⟩ := creates.planned settled fresh
    exact .inr ⟨plan, _, rfl, writes⟩
  | switch switches =>
    obtain ⟨plan, writes⟩ := switches.planned fresh
    exact .inr ⟨plan, _, rfl, writes⟩
  | delete deletable deleted =>
    obtain ⟨plan, writes⟩ := deletable.planned settled.sequenced.keyed deleted
    exact .inr ⟨plan, _, rfl, writes⟩
  | register writes => exact .inl writes.timelines

theorem keeps_drawn (writes : call.Writes w w₁) {id : Uuid} (drawn : w.ids.Drawn id) :
    w₁.ids.Drawn id := by
  cases writes with
  | nothing => exact drawn
  | create => exact IdSource.drawn_draw_iff.2 (.inr drawn)
  | switch => exact IdSource.drawn_draw_iff.2 (.inr drawn)
  | delete => exact drawn
  | register => exact drawn

theorem drawn (writes : call.Writes w w₁) (settled : w.Settled) :
    ∀ t ∈ w₁.store.timelines.values, w₁.ids.Drawn t.id := by
  intro t inside
  rcases writes.stored settled.orderly inside with ⟨u, old, known⟩ | ⟨opens, s, -, rfl⟩
  · rw [known]
    exact writes.keeps_drawn (settled.drawn u old)
  · exact IdSource.drawn_draw_iff.2 (.inl opens.next)

theorem settled (writes : call.Writes w w₁) (settled : w.Settled) (fresh : w.ids.draw.2.Fresh) :
    w₁.Settled where
  sequenced := by
    rcases writes.planned settled fresh with same | ⟨plan, e, -, writes⟩
    · exact settled.sequenced.of_timelines_eq same
    · exact writes.sequenced settled.sequenced
  orderly := writes.orderly settled.orderly
  drawn := writes.drawn settled

theorem others (writes : call.Writes w w₁) (settled : w.Settled) (fresh : w.ids.draw.2.Fresh)
    (apart : call.eventType ≠ some t.eventType) :
    t ∈ w₁.store.timelines.values ↔ t ∈ w.store.timelines.values := by
  rcases writes.planned settled fresh with same | ⟨plan, e, named, writes⟩
  · rw [same]
  · apply writes.elsewhere settled.sequenced
    rintro rfl
    exact apart named

end ServiceCall.Writes

theorem World.Settled.between {w w' : World} (settled : w.Settled) (between : w.Between w') :
    w'.Settled where
  sequenced := settled.sequenced.of_timelines_eq between.timelines
  orderly := between.orderly settled.orderly
  drawn := by
    rw [between.timelines]
    exact fun t inside => between.drawn t.id (settled.drawn t inside)

/-- What the calls on timelines come to that are made alone, by how many timelines there are. -/
structure World.LifeCycle (sync : TimelineSync World) (w : World) : Prop where
  /-- With a worker for the default storage a first timeline is made just if there is none. -/
  creates : ∀ e d number, w.store.defaultStorage? = some d →
    w.workers.serving.get? d.id = some number →
      ((∃ t w', (Timelines.createFirst e).alone w = (.ok t, w')) ↔ w.store.count e = 0)
  created : ∀ e t w', (Timelines.createFirst e).alone w = (.ok t, w') → w'.store.count e = 1
  /-- A switch makes one more, the first one on the default storage only. -/
  switched : ∀ e storageId t w', (Timelines.switchTo sync e storageId).alone w = (.ok t, w') →
    w'.store.count e = w.store.count e + 1 ∧ (w.store.count e = 0 →
      ∃ d, w.store.defaultStorage? = some d ∧ storageId = d.id)
  /-- If neither the fence nor the store fails, a timeline is deleted just if it is the only one. -/
  deletes : ∀ e id, ((sync.start e Timelines.updateLimit).runAlone w).1 = .ok () →
    w.store.failDelete = false → ((∃ w', (Timelines.delete sync e id).alone w = (.ok (), w')) ↔
      ∃ t, w.store.listTimelines (.ofEventType e) = [t] ∧ t.id = id)
  deleted : ∀ e id w', (Timelines.delete sync e id).alone w = (.ok (), w') → w'.store.count e = 0
  /-- The timelines of event types that a call is not about stay as they are. -/
  elsewhere : ∀ (call : ServiceCall) (t : Timeline), call.eventType ≠ some t.eventType →
    (t ∈ ((call.under sync).alone w).2.store.timelines.values ↔ t ∈ w.store.timelines.values)

namespace World.Settled

variable {w w' : World} {sync : TimelineSync World} {e storageId : String} {id : Uuid}
  {t : Timeline}

theorem creates (settled : w.Settled) (fresh : w.ids.draw.2.Fresh) {d : Storage} {number : Nat}
    (default : w.store.defaultStorage? = some d)
    (served : w.workers.serving.get? d.id = some number) (none : w.store.count e = 0) :
    ∃ t w', (Timelines.createFirst e).alone w = (.ok t, w') := by
  obtain ⟨worker, registered, -⟩ := settled.orderly.serving d.id number served
  have succeeds := Timelines.createFirst_succeeds default served registered (settled.free fresh)
    (Store.count_eq_zero_iff.1 none)
  exact succeeds.succeeds fun _ _ failed => failed

theorem created (settled : w.Settled) (fresh : w.ids.draw.2.Fresh)
    (made : (Timelines.createFirst e).alone w = (.ok t, w')) :
    w.store.count e = 0 ∧ w'.store.count e = 1 := by
  obtain ⟨s, creates, aged⟩ := (Timelines.ensures_createFirst e w).of_ok made
  have settled' := (ServiceCall.Writes.create creates).settled settled fresh
  obtain ⟨⟨d, number, worker, topic, -, -, -, rfl⟩, created⟩ := creates
  obtain ⟨free, untaken, rfl⟩ := Store.createTimeline_ok created
  have none := settled.sequenced.active_none_of_untaken free untaken rfl
  refine ⟨?_, ?_⟩
  · rw [settled.sequenced.count_eq]
    exact congrArg Timeline.orderAfter none
  · rw [aged.store]
    exact settled'.sequenced.count_of_open (settled.sequenced.keyed.mem_put.2 (.inl rfl)) rfl

theorem switched (settled : w.Settled) (fresh : w.ids.draw.2.Fresh)
    (own : sync.Only World.Fencing)
    (made : (Timelines.switchTo sync e storageId).alone w = (.ok t, w')) :
    w'.store.count e = w.store.count e + 1 ∧ (w.store.count e = 0 →
      ∃ d, w.store.defaultStorage? = some d ∧ storageId = d.id) := by
  obtain ⟨s, switches, aged⟩ := (Timelines.ensures_switchTo own e storageId w).of_ok made
  have settled' := (ServiceCall.Writes.switch switches).settled settled fresh
  obtain ⟨⟨storage, topic, found, home, rfl⟩, position, committed⟩ := switches
  obtain ⟨free, untaken, _, rfl⟩ := Store.commitSwitch_ok committed
  refine ⟨?_, fun none => ?_⟩
  · rw [aged.store, settled.sequenced.count_eq]
    exact settled'.sequenced.count_of_open
      (settled'.sequenced.keyed.mem_iff.2 (Table.get?_insert_self ..)) rfl
  · have first := Store.count_eq_zero_iff.1 none
    obtain ⟨d, default, same⟩ := home (settled.sequenced.active_none_iff.2 first)
    exact ⟨d, default, (settled.orderly.storages storageId storage found).symm.trans same⟩

theorem deletes (settled : w.Settled) (own : sync.Only World.Fencing)
    (started : ((sync.start e Timelines.updateLimit).runAlone w).1 = .ok ())
    (works : w.store.failDelete = false)
    (only : w.store.listTimelines (.ofEventType e) = [t]) (named : t.id = id) :
    ∃ w', (Timelines.delete sync e id).alone w = (.ok (), w') := by
  have ensures := Timelines.ensures_delete own settled.sequenced.keyed e id
  have deletable := settled.sequenced.deletable_iff.2 ⟨only, named⟩
  obtain ⟨_, w', result⟩ :=
    ensures.succeeds fun _ _ failed => failed.2 started works t deletable
  exact ⟨w', result⟩

theorem deleted (settled : w.Settled) (own : sync.Only World.Fencing)
    (made : (Timelines.delete sync e id).alone w = (.ok (), w')) :
    (∃ t, w.store.listTimelines (.ofEventType e) = [t] ∧ t.id = id) ∧ w'.store.count e = 0 := by
  obtain ⟨t, s, deletable, deleted, aged⟩ :=
    (Timelines.ensures_delete own settled.sequenced.keyed e id).of_ok made
  obtain rfl := Store.deleteTimeline_ok deleted
  have only := settled.sequenced.deletable_iff.1 deletable
  refine ⟨⟨t, only⟩, ?_⟩
  rw [aged.store]
  apply Store.count_eq_zero_iff.2
  intro u inside named
  obtain ⟨old, apart⟩ := (settled.sequenced.keyed.mem_erase id).1 inside
  have member := Store.mem_listTimelines.2 ⟨old, named⟩
  rw [only.1, List.mem_singleton] at member
  rw [member, only.2] at apart
  exact apart rfl

theorem elsewhere (settled : w.Settled) (fresh : w.ids.draw.2.Fresh)
    (own : sync.Only World.Fencing) (call : ServiceCall)
    (apart : call.eventType ≠ some t.eventType) :
    t ∈ ((call.under sync).alone w).2.store.timelines.values ↔ t ∈ w.store.timelines.values := by
  have ensures := call.ensures own settled.sequenced.keyed
  cases result : (call.under sync).alone w with
  | mk answer w' =>
    cases answer with
    | error error => rw [(ensures.of_error result).store]
    | ok done =>
      obtain ⟨w₁, writes, aged⟩ := ensures.of_ok result
      rw [aged.store]
      exact writes.others settled fresh apart

theorem lifeCycle (settled : w.Settled) (fresh : w.ids.draw.2.Fresh)
    (own : sync.Only World.Fencing) : w.LifeCycle sync where
  creates _ _ _ default served :=
    ⟨fun ⟨_, _, made⟩ => (settled.created fresh made).1, settled.creates fresh default served⟩
  created _ _ _ made := (settled.created fresh made).2
  switched _ _ _ _ made := settled.switched fresh own made
  deletes _ _ started works :=
    ⟨fun ⟨_, made⟩ => (settled.deleted own made).1,
      fun ⟨_, only, named⟩ => settled.deletes own started works only named⟩
  deleted _ _ _ made := (settled.deleted own made).2
  elsewhere call _ apart := settled.elsewhere fresh own call apart

end World.Settled

namespace History

variable {sync : TimelineSync World}

theorem settled (own : sync.Only World.Fencing) (h : History sync)
    (fresh : ∀ n, (h.world n).ids.draw.2.Fresh) (n : Nat) : (h.world n).Settled := by
  induction n with
  | zero =>
    exact ⟨Store.sequenced_of_no_timelines h.empty, h.orderly,
      fun t inside => absurd inside (h.no_timelines t)⟩
  | succ n ih =>
    obtain ⟨call, w₁, writes, between⟩ := h.writes own n
    exact (writes.settled ih (fresh n)).between between

/-- A timeline was made in some turn and stored from then on, a first timeline on the storage that
was the default one. -/
theorem made_on_default (own : sync.Only World.Fencing) (h : History sync) {n : Nat}
    {t : Timeline} (inside : t ∈ (h.world n).store.timelines.values) (first : t.order = 0) :
    ∃ m < n, ∃ d, (h.world m).store.defaultStorage? = some d ∧ t.storage.id = d.id ∧
      (h.world m).store.timeline? t.id = none ∧ h.StoresTimeline t.id (m + 1) n := by
  induction n generalizing t with
  | zero => exact absurd inside (h.no_timelines t)
  | succ n ih =>
    have here : (h.world (n + 1)).store.timelines.contains t.id = true := by
      rw [Table.contains, (h.keyed own (n + 1)).mem_iff.1 inside]
      rfl
    obtain ⟨call, w₁, writes, between⟩ := h.writes own n
    rw [between.timelines] at inside
    -- What is stored after a turn was stored before it, or the turn has made it.
    rcases writes.stored (h.orderly_at own n) inside with ⟨u, old, known⟩ | ⟨opens, -⟩
    · obtain ⟨m, before, d, default, home, free, stores⟩ := ih old (by rw [← first, known])
      have same : u.id = t.id ∧ u.storage = t.storage := by rw [known]; exact ⟨rfl, rfl⟩
      rw [same.1] at free stores
      rw [same.2] at home
      refine ⟨m, Nat.lt_succ_of_lt before, d, default, home, free, fun k after until' => ?_⟩
      rcases Nat.le_succ_iff.1 until' with earlier | rfl
      · exact stores k after earlier
      · exact here
    · obtain ⟨d, default, home⟩ := opens.first first
      refine ⟨n, Nat.lt_succ_self n, d, default, home, opens.free, fun k after until' => ?_⟩
      rw [Nat.le_antisymm until' after]
      exact here

/-- At each time of a history, what calls on timelines come to goes by how many timelines there are,
and each first timeline is on the storage that was the default one when it was made. -/
theorem timelines_live (own : sync.Only World.Fencing) (h : History sync)
    (fresh : ∀ n, (h.world n).ids.draw.2.Fresh) (n : Nat) : (h.world n).LifeCycle sync ∧
      ∀ t ∈ (h.world n).store.timelines.values, t.order = 0 →
        ∃ m < n, ∃ d, (h.world m).store.defaultStorage? = some d ∧ t.storage.id = d.id ∧
          (h.world m).store.timeline? t.id = none ∧ h.StoresTimeline t.id (m + 1) n :=
  ⟨(h.settled own fresh n).lifeCycle (fresh n) own, fun _ inside => h.made_on_default own inside⟩

/-- Two timelines are made, so that the first one cannot be deleted. -/
theorem timelines_live_switched : ∃ h : History (World.recordingSync 0),
    (∀ n, (h.world n).ids.draw.2.Fresh) ∧ (h.world 2).store.count "orders" = 2 ∧
      (h.world 2).LifeCycle (World.recordingSync 0) ∧
      ∃ t ∈ (h.world 2).store.timelines.values, t.order = 0 ∧
        ∃ m < 2, ∃ d, (h.world m).store.defaultStorage? = some d ∧ t.storage.id = d.id ∧
          (h.world m).store.timeline? t.id = none ∧ h.StoresTimeline t.id (m + 1) 2 := by
  let calls : List ServiceCall :=
    [.timelines (.createFirst "orders"), .timelines (.switchTo "orders" "other")]
  let h := ofCalls (World.recordingSync 0) .unwritten calls rfl (World.orderly_ofStorages _ _ _)
  have fresh : ∀ n, (h.world n).ids.draw.2.Fresh := by
    have early : ∀ n ≤ 2, (h.world n).ids.draw.2.Fresh := by decide +kernel
    intro n
    rcases Nat.le_total n 2 with before | after
    · exact early n before
    · have same : h.world n = h.world 2 := ofCalls_world_of_le after
      rw [same]
      exact early 2 (Nat.le_refl 2)
  obtain ⟨lives, first⟩ := timelines_live (World.only_recordingSync 0) h fresh 2
  have stored : ∃ t ∈ (h.world 2).store.timelines.values, t.order = 0 := by decide +kernel
  obtain ⟨t, inside, order⟩ := stored
  exact ⟨h, fresh, by decide +kernel, lives, t, inside, order, first t inside order⟩

end History

end Cutover
