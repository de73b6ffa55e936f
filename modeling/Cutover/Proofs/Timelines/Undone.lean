import Cutover.Proofs.Timelines.Streams
import Cutover.Proofs.Timelines.Undoing

set_option autoImplicit false

namespace Cutover

namespace World

variable {w w' : World} {sync : TimelineSync World} {e d : String} {storage : Storage}
  {number count : Nat} {worker : Worker} {clock : Timestamp}

def withClock (w : World) (clock : Timestamp) : World := { w with clock := clock }

theorem adopted_of_topic (registered : w.workers.get? number = some worker)
    (found : worker.topics.get? e = some count) : w.adopted e number = w := by
  have same : w.workers.modify number (·.adopt e) = w.workers := by
    have whole : w.workers.all.modify number (·.adopt e) =
        w.workers.all.modify number fun _ => worker :=
      Table.modify_of_get? registered (Worker.adopt_of_topic found)
    rw [Workers.modify, whole]
    exact Workers.modify_same registered
  rw [adopted, same]
  rfl

theorem logged_takenOver (registered : w.workers.get? number = some worker) :
    (w.adopted e number).workers.Logged (w.takenOver e number).workers := by
  refine ⟨rfl, fun other => ?_⟩
  by_cases same : other = number
  · subst same
    refine ⟨[⟨e, some (worker.ownPartitions e), true⟩], ?_⟩
    have replaced : (w.takenOver e other).workers.get? other = some (worker.takenOver e) :=
      Table.get?_modify_of_get? _ registered
    rw [registered_adopted registered, replaced]
    rfl
  · refine ⟨[], ?_⟩
    have kept : (w.takenOver e number).workers.get? other = w.workers.get? other :=
      Table.get?_modify_of_ne _ _ same
    have kept' : (w.adopted e number).workers.get? other = w.workers.get? other :=
      Table.get?_modify_of_ne _ _ same
    rw [kept, kept']
    simp

theorem Resumed.logged (registered : w.workers.get? number = some worker)
    (resumed : (w.takenOver e number).Resumed w') : (w.adopted e number).Logged w' := by
  obtain ⟨fences, recorder, logged, recorded, rfl⟩ := resumed
  exact ⟨rfl, rfl, logged_takenOver registered, logged, recorded, rfl, Nat.le_succ _⟩

theorem logged_withClock (w : World) (clock : Timestamp) : w.Logged (w.withClock clock) :=
  ⟨rfl, rfl, .refl _, .refl _, .refl _, rfl, Nat.le_refl _⟩

theorem Ready.withClock (ready : w.Ready sync e d storage number worker) (clock : Timestamp) :
    (w.withClock clock).Ready sync e d storage number worker := by
  have same : (w.withClock clock).Clear sync e Timelines.updateLimit ↔
      w.Clear sync e Timelines.updateLimit := ready.fencedBy.clear_congr rfl rfl
  exact { ready with fencedBy := ready.fencedBy.congr rfl, clear := same.2 ready.clear }

end World

namespace Timelines

open Operation

variable {w w' w'' : World} {sync : TimelineSync World} {e d : String} {storage : Storage}
  {number count : Nat} {worker : Worker} {clocks : List Timestamp} {made : List Timeline}

/-- Without timelines, the layout is asked of the default storage's worker, which adopts it. -/
theorem alone_get (ready : w.Ready sync e d storage number worker) :
    (get e).alone w = (.ok (.synthetic e worker.storage e w.clock), w.adopted e number) := by
  obtain ⟨home, default, same⟩ := ready.default
  have first := Store.active?_of_unused ready.unused
  have asked : (get e).alone w = (resolve e (.legacy "" "")).alone w := by
    rw [get, activeTimeline, alone_look_bind, first]
    rfl
  rw [asked]
  exact resolve_legacy default (same ▸ ready.served) ready.registered

/-- First timelines are started and deleted again one after the other, each at its own time. -/
inductive Repeated (sync : TimelineSync World) (e d : String) (w : World) :
    List Timestamp → List Timeline → World → Prop
  | never : Repeated sync e d w [] [] w
  | again {clocks made w' clock t w''} (earlier : Repeated sync e d w clocks made w')
      (undone : (startThenDelete sync e d).alone (w'.withClock clock) = (.ok t, w'')) :
      Repeated sync e d w (clocks ++ [clock]) (made ++ [t]) w''

/-- What has come of first timelines that were started and deleted again on a topic that was there
already. -/
structure Settled (sync : TimelineSync World) (e d : String) (storage : Storage) (number : Nat)
    (w : World) (made : List Timeline) (w' : World) : Prop where
  logged : w.Logged w'
  topics : ∀ t ∈ made, t.topic = e
  drawn : w'.ids.drawn = w.ids.drawn + made.length
  ready : ∃ worker count, worker.topics.get? e = some count ∧
    w'.Ready sync e d storage number worker

/-- If the next id is new it can be done once more, which leaves all as settled as before. -/
theorem Settled.again {w₁ : World} (settled : Settled sync e d storage number w made w₁)
    (clock : Timestamp)
    (new : w.store.timelines.get? (w.ids.fresh (w.ids.drawn + made.length)) = none) :
    ∃ t w₂, (startThenDelete sync e d).alone (w₁.withClock clock) = (.ok t, w₂) ∧
      Settled sync e d storage number w (made ++ [t]) w₂ := by
  obtain ⟨worker, count, found, ready⟩ := settled.ready
  have ready := ready.withClock clock
  have new' : (w₁.withClock clock).store.timelines.get? (w₁.withClock clock).ids.draw.1 = none := by
    have store : (w₁.withClock clock).store = w.store := settled.logged.store
    have drawn : (w₁.withClock clock).ids.draw.1 = w.ids.fresh (w.ids.drawn + made.length) := by
      rw [← settled.logged.fresh, ← settled.drawn]
      rfl
    rw [store, drawn, new]
  obtain ⟨w₂, undone, resumed, ready'⟩ := alone_startThenDelete ready new'
  refine ⟨_, w₂, undone, ?_, ?_, ?_, worker.takenOver e, _, worker.topics_adopt e, ready'⟩
  · have logged := resumed.logged ready.registered
    rw [World.adopted_of_topic ready.registered found] at logged
    exact (settled.logged.trans (w₁.logged_withClock clock)).trans logged
  · intro t inside
    rcases List.mem_append.1 inside with before | new
    · exact settled.topics t before
    · rw [List.mem_singleton.1 new]
      rfl
  · obtain ⟨_, _, -, -, rfl⟩ := resumed
    rw [List.length_append, ← Nat.add_assoc, ← settled.drawn]
    rfl

theorem Repeated.settled (repeated : Repeated sync e d w clocks made w')
    (settled : Settled sync e d storage number w [] w) :
    Settled sync e d storage number w made w' := by
  induction repeated with
  | never => exact settled
  | @again clocks made w₁ clock t w₂ earlier undone ih =>
    obtain ⟨worker, count, -, ready⟩ := ih.ready
    have ready := ready.withClock clock
    -- That it was done again tells that the next id was new.
    obtain ⟨new, -⟩ := ready_of_startThenDelete ready.fencedBy ready.unused undone
    have new' : w.store.timelines.get? (w.ids.fresh (w.ids.drawn + made.length)) = none := by
      rw [← ih.logged.store, ← ih.logged.fresh, ← ih.drawn]
      exact new
    obtain ⟨t', w₂', undone', settled'⟩ := ih.again clock new'
    obtain ⟨same, rfl⟩ := Prod.mk.inj (undone.symm.trans undone')
    obtain rfl := Except.ok.inj same
    exact settled'

theorem Settled.repeats (settled : Settled sync e d storage number w [] w)
    (clocks : List Timestamp) (new : ∀ k < clocks.length,
      w.store.timelines.get? (w.ids.fresh (w.ids.drawn + k)) = none) :
    ∃ made w', Repeated sync e d w clocks made w' := by
  suffices whole : ∃ made w', Repeated sync e d w clocks made w' ∧ made.length = clocks.length by
    obtain ⟨made, w', repeated, -⟩ := whole
    exact ⟨made, w', repeated⟩
  induction clocks using List.reverseRecOn with
  | nil => exact ⟨[], w, .never, rfl⟩
  | append_singleton clocks clock ih =>
    rw [List.length_append] at new
    obtain ⟨made, w₁, repeated, same⟩ := ih fun k before => new k (by omega)
    have settled₁ := repeated.settled settled
    obtain ⟨t, w₂, undone, -⟩ := settled₁.again clock (same ▸ new clocks.length (by simp))
    exact ⟨_, w₂, .again repeated undone, by simp [same]⟩

/-- What a first timeline that was started and then deleted again has left behind. -/
structure Undone (sync : TimelineSync World) (e d : String) (w : World) (t : Timeline)
    (w' : World) : Prop where
  /-- All that is stored is as it was. -/
  store : w'.store = w.store
  /-- The timeline was on the topic of the event type's own name. -/
  topic : t.topic = e
  /-- At whatever time, the event type has the layout that it would have had without the timeline,
  and it is there already. -/
  layout : ∃ storage w₀, (get e).alone w = (.ok (.synthetic e storage e w.clock), w₀) ∧
    (∀ clock, (get e).alone (w'.withClock clock) =
      (.ok (.synthetic e storage e clock), w'.withClock clock)) ∧ w₀.Logged w' ∧
        ∃ home number count, w.store.defaultStorage? = some home ∧ t.storage.id = home.id ∧
          w.workers.serving.get? home.id = some number ∧ w₀.HasPartitions number e count ∧
            w'.HasPartitions number e count
  /-- However often this is done, it is always the same topic, and nothing but logs grows. -/
  again : ∀ {clocks made w''}, Repeated sync e d w' clocks made w'' →
    w'.Logged w'' ∧ ∀ u ∈ made, u.topic = t.topic
  /-- It can be done as often as there are new ids. -/
  always : ∀ clocks : List Timestamp, (∀ k < clocks.length,
    w'.store.timelines.get? (w'.ids.fresh (w'.ids.drawn + k)) = none) →
      ∃ made w'', Repeated sync e d w' clocks made w''

theorem undone_of_ready (ready : w.Ready sync e d storage number worker)
    (new : w.store.timelines.get? w.ids.draw.1 = none) : ∃ w',
      (startThenDelete sync e d).alone w = (.ok (w.opened e 0 storage e), w') ∧
        Undone sync e d w (w.opened e 0 storage e) w' := by
  obtain ⟨w', result, resumed, ready'⟩ := alone_startThenDelete ready new
  have logged := resumed.logged ready.registered
  have settled : Settled sync e d storage number w' [] w' :=
    ⟨.refl w', nofun, rfl, worker.takenOver e, _, worker.topics_adopt e, ready'⟩
  refine ⟨w', result, logged.store, rfl, ?_, fun repeated => ?_, settled.repeats⟩
  · obtain ⟨home, default, same⟩ := ready.default
    refine ⟨worker.storage, _, alone_get ready, fun clock => ?_, logged, home, number,
      worker.ownPartitions e, default, same, same ▸ ready.served, ?_, ?_⟩
    · have later := ready'.withClock clock
      rw [alone_get later, World.adopted_of_topic later.registered (worker.topics_adopt e)]
      rfl
    · exact ⟨_, World.registered_adopted ready.registered, worker.topics_adopt e⟩
    · exact ⟨_, ready'.registered, worker.topics_adopt e⟩
  · have settled' := repeated.settled settled
    exact ⟨settled'.logged, settled'.topics⟩

end Timelines

open Operation

/-- Worlds that calls on timelines can come to. Where they lock, there are no locks at first; they
are made at any time, interleave in any way and are dropped anywhere, and others may do anything to
the world but to its locks. -/
inductive World.Served : TimelineSync World → World → Prop
  | locking {start : World} {pool : Pool World (Except TimelineError (Option Timeline))}
      (unfenced : start.fences = .empty) (reached : Pool.Reaches TimelineCall.IsCall
        (fun w w' => w'.fences = w.fences) (.empty start) pool) : Served localSync pool.state
  | recording (delay : Nat) (w : World) : Served (recordingSync delay) w

/-- Whatever calls have come to, the locks have just the requests of those who use them. -/
theorem World.Served.fencedBy {w : World} {sync : TimelineSync World} (served : w.Served sync) :
    w.FencedBy sync := by
  cases served with
  | recording delay w => exact .recording delay
  | @locking start pool unfenced reached =>
    have sound : start.fences.Sound (Stake.users 0) := unfenced ▸ LocalFences.sound_empty
    have kept : pool.Keeps Stake.protocol (fun w _ stakes => w.fences.Sound (Stake.users stakes))
        fun _ k => k.user = none := by
      refine Pool.Keeps.reaches Stake.keeps_sound ?_ ?_ (Pool.keeps_empty sound) reached
      · rintro p ⟨call, rfl⟩
        refine ⟨call.stake, FollowsBy.leaves call.follows, fun w past stakes sound => ?_⟩
        have user : call.stake.user = none := by cases call <;> rfl
        rw [Stake.users_cons_none user]
        exact sound
      · intro w w' past stakes same sound
        rw [same]
        exact sound
    obtain ⟨_, _, _, _, sound⟩ := kept
    exact .locking sound

namespace Timelines

/-- A first timeline that is started and then deleted might not have been: the records are what they
were, the event type has the layout that it would have had, and so it is however often this is
done. -/
theorem startThenDelete_undone {w w' : World} {sync : TimelineSync World} {e d : String}
    {t : Timeline} (served : w.Served sync)
    (unused : ∀ t ∈ w.store.timelines.values, t.eventType ≠ e)
    (result : (startThenDelete sync e d).alone w = (.ok t, w')) : Undone sync e d w t w' := by
  obtain ⟨new, storage, number, worker, ready⟩ :=
    ready_of_startThenDelete served.fencedBy unused result
  obtain ⟨w₁, result', undone⟩ := undone_of_ready ready new
  obtain ⟨same, rfl⟩ := Prod.mk.inj (result.symm.trans result')
  obtain rfl := Except.ok.inj same
  exact undone

/-- Another event type has a timeline, which stays. -/
theorem startThenDelete_undone_besides : ∃ (w w' : World) (t : Timeline),
    w.Served World.localSync ∧ (∀ t ∈ w.store.timelines.values, t.eventType ≠ "orders") ∧
      (w.store.active? "payments").isSome ∧
      (startThenDelete World.localSync "orders" "default").alone w = (.ok t, w') ∧
      Undone World.localSync "orders" "default" w t w' := by
  let create : TimelineCall := .createFirst "payments"
  let pool := Pool.begun World.unwritten [create.operation.run] (List.replicate 6 (.call 0))
  have served : pool.state.Served World.localSync := by
    refine .locking rfl (Pool.reaches_begun (fun p called => ?_) _)
    exact ⟨create, List.mem_singleton.1 called⟩
  have unused : ∀ t ∈ pool.state.store.timelines.values, t.eventType ≠ "orders" := by
    decide +kernel
  have answer : (((startThenDelete World.localSync "orders" "default").alone
      pool.state).1.toOption.map fun t => t.topic) = some "orders" := by decide +kernel
  obtain ⟨t, -, result⟩ := exists_of_alone_toOption answer rfl
  exact ⟨_, _, t, served, unused, by decide +kernel, result,
    startThenDelete_undone served unused result⟩

end Timelines

end Cutover
