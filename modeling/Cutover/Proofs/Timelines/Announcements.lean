import Cutover.Proofs.Operation.Consults
import Cutover.Proofs.Operation.Keeping
import Cutover.Proofs.Timelines.Courses

set_option autoImplicit false

namespace Cutover

namespace Operation

variable {α : Type} {op : Operation α} {leave : Errand → Prop} {post : α → Errand → Prop}
  {k : Errand}

theorem followsBy_quiet_look {view : World → α} (left : leave k) (held : ∀ w, post (view w) k) :
    (look view).FollowsBy Errand.protocol leave post k :=
  followsBy_look left fun w => ⟨k, .quiet rfl rfl, held w⟩

theorem Consults.followsBy {learns : World → α → World → Prop}
    {fails : World → TimelineError → Prop} (consults : op.Consults learns fails) (left : leave k)
    (held : ∀ a, post a k) : op.FollowsBy Errand.protocol leave post k := by
  obtain ⟨action, rfl, told, -⟩ := consults
  refine followsBy_call left (fun _ _ => .quiet rfl rfl) fun w a w' result => ?_
  obtain ⟨⟨workers, -, rfl⟩, -⟩ := told w a w' result
  exact ⟨k, .quiet rfl rfl, held a⟩

theorem followsBy_newTimeline {e topic : String} {order : Nat} {storage : Storage}
    {post : Timeline → Errand → Prop} (left : leave k)
    (held : ∀ t, t.eventType = e → post t k) :
    (newTimeline e order storage topic).FollowsBy Errand.protocol leave post k := by
  refine followsBy_call left (fun _ _ => .quiet rfl rfl) fun w t w' result => ?_
  obtain ⟨rfl, rfl⟩ := Prod.mk.inj (Except.ok.inj result)
  exact ⟨k, .quiet rfl rfl, held _ rfl⟩

theorem followsBy_defaultStorage {post : Storage → Errand → Prop} (left : leave k)
    (held : ∀ a, post a k) :
    Registry.defaultStorage.FollowsBy Errand.protocol leave post k := by
  refine followsBy_bind (followsBy_quiet_look left fun w => ?_)
  cases w.store.defaultStorage? with
  | none => exact followsBy_throw left
  | some storage => exact followsBy_pure (held storage)

/-- Holding the fence of an event type, with nothing seen under it or something. -/
def Fencing (e : String) (t : Ticket) (k : Errand) : Prop := ∃ doomed, k = .fenced e t doomed

theorem followsBy_errand {e : String} {limit : Duration} {body : Operation α}
    (follows : ∀ t, body.FollowsBy Errand.protocol (Fencing e t) (fun _ => Fencing e t)
      (.fenced e t none)) :
    (fenced World.localSync e limit body).FollowsBy Errand.protocol (fun k => k.user? = none)
      (fun _ k => k.user? = none) .idle := by
  refine followsBy_fenced (.waiting e) (fun t => .fenced e t none) .closed (Fencing e) rfl rfl
    (fun _ _ => .ask) (fun _ _ _ => .withdraw) (fun _ _ _ => .refuse)
    (fun _ _ _ granted => .fence granted) follows ?_
  rintro t k ⟨doomed, rfl⟩
  refine ⟨_, .closed, ⟨⟨e, t, doomed, rfl⟩, rfl, rfl⟩, ?_, rfl⟩
  exact ⟨trivial, fun w => ⟨_, .finish, rfl⟩⟩

end Operation

namespace Timelines

open Operation

theorem followsBy_ensureActive {e : String} {expected : Option Uuid} {k : Errand}
    {leave : Errand → Prop} {post : Unit → Errand → Prop} (left : leave k) (held : post () k) :
    (ensureActive e expected).FollowsBy Errand.protocol leave post k := by
  refine followsBy_bind (followsBy_quiet_look left fun w => ?_)
  split
  · exact followsBy_throw left
  · exact held

theorem followsBy_prepare {e : String} {storage oldStorage : Storage} {active : Option Timeline}
    {oldWorker newWorker : Nat} {leave : Errand → Prop} {post : Timeline → Errand → Prop}
    {k : Errand} (left : leave k) (held : ∀ t, t.eventType = e → post t k) :
    (prepare e storage active oldStorage oldWorker newWorker).FollowsBy Errand.protocol leave post
      k := by
  cases active with
  | none =>
    rw [prepare]
    split
    · exact followsBy_bind (followsBy_throw left)
    refine followsBy_bind ((consults_syntheticTimeline ..).followsBy left fun layout => ?_)
    refine followsBy_bind ((consults_partitionNames ..).followsBy left fun partitions => ?_)
    refine followsBy_bind ((consults_layOut ..).followsBy left fun topic => ?_)
    exact followsBy_newTimeline left held
  | some current =>
    refine followsBy_bind ((consults_partitionNames ..).followsBy left fun partitions => ?_)
    refine followsBy_bind ((consults_layOut ..).followsBy left fun topic => ?_)
    exact followsBy_newTimeline left held

theorem followsBy_commit {e : String} {active : Option Timeline} {number : Nat} {t : Timeline}
    {ticket : Ticket} (named : t.eventType = e)
    (same : ∀ previous, active = some previous → previous.eventType = e) :
    (commit e active number t).FollowsBy Errand.protocol (Fencing e ticket)
      (fun _ => Fencing e ticket) (.fenced e ticket none) := by
  have fencing : Fencing e ticket (.fenced e ticket none) := ⟨none, rfl⟩
  refine followsBy_bind (followsBy_ensureActive fencing ?_)
  refine followsBy_bind (followsBy_quiet_look fencing fun w => ?_)
  cases active with
  | none =>
    refine followsBy_bind (followsBy_pure ?_)
    refine followsBy_bind (followsBy_writeStore fencing (fun _ _ => .quiet rfl rfl) ?_)
    intro w s sight committed
    exact ⟨_, .switch committed named (fun _ none => nomatch none), followsBy_pure fencing⟩
  | some previous =>
    refine followsBy_bind (followsBy_bind ((consults_latestPosition ..).followsBy fencing ?_))
    intro position
    refine followsBy_pure (followsBy_bind ?_)
    refine followsBy_writeStore fencing (fun _ _ => .quiet rfl rfl) ?_
    intro w s sight committed
    refine ⟨_, .switch committed named ?_, followsBy_pure fencing⟩
    rintro _ ⟨⟩
    exact same previous rfl

theorem followsBy_relocate {e : String} {active : Option Timeline} {storage oldStorage : Storage}
    (same : ∀ previous, active = some previous → previous.eventType = e) :
    (do
      let oldWorker ← workerFor oldStorage
      let newWorker ← workerFor storage
      let timeline ← prepare e storage active oldStorage oldWorker newWorker
      fenced World.localSync e updateLimit (commit e active oldWorker timeline)).FollowsBy
      Errand.protocol (fun k => k.user? = none) (fun _ k => k.user? = none) .idle := by
  have idle : Errand.idle.user? = none := rfl
  refine followsBy_bind ((consults_workerFor _).followsBy idle fun oldWorker => ?_)
  refine followsBy_bind ((consults_workerFor _).followsBy idle fun newWorker => ?_)
  refine followsBy_bind (followsBy_prepare idle fun t named => ?_)
  exact followsBy_errand fun ticket => followsBy_commit named same

theorem followsBy_switchTo (e storageId : String) :
    (switchTo World.localSync e storageId).FollowsBy Errand.protocol (fun k => k.user? = none)
      (fun _ k => k.user? = none) .idle := by
  have idle : Errand.idle.user? = none := rfl
  refine followsBy_bind (followsBy_quiet_look idle fun w => ?_)
  cases w.store.storage? storageId with
  | none => exact followsBy_bind (followsBy_throw idle)
  | some storage =>
    refine followsBy_bind (followsBy_pure ?_)
    refine followsBy_bind ((consults_findEventType _).followsBy idle fun _ => ?_)
    refine followsBy_bind (followsBy_quiet_look idle fun w => ?_)
    cases active : w.store.active? e with
    | none =>
      refine followsBy_bind (followsBy_defaultStorage idle fun oldStorage => ?_)
      exact followsBy_relocate nofun
    | some previous =>
      refine followsBy_bind (followsBy_pure ?_)
      apply followsBy_relocate
      rintro _ ⟨⟩
      exact (Store.active_spec active).2.1

/-- Under its fence a deletion deletes the timeline that it has seen to be the active one. -/
theorem followsBy_remove {e : String} {id : Uuid} {ticket : Ticket} :
    (remove e id).FollowsBy Errand.protocol (Fencing e ticket) (fun _ => Fencing e ticket)
      (.fenced e ticket none) := by
  have fencing : ∀ doomed, Fencing e ticket (.fenced e ticket doomed) := fun doomed => ⟨doomed, rfl⟩
  refine followsBy_bind (followsBy_look (fencing none) fun w => ?_)
  by_cases active : (w.store.active? e).map (·.id) = some id
  · refine ⟨_, .doom active, ?_⟩
    rw [if_neg (not_not.2 active)]
    refine followsBy_writeStore (fencing (some id)) (fun _ _ => .quiet rfl rfl) ?_
    exact fun w s sight deleted => ⟨_, .delete deleted, fencing none⟩
  · refine ⟨_, .quiet rfl rfl, ?_⟩
    rw [if_pos active]
    exact followsBy_bind (followsBy_throw (fencing none))

theorem followsBy_delete (e : String) (id : Uuid) :
    (delete World.localSync e id).FollowsBy Errand.protocol (fun k => k.user? = none)
      (fun _ k => k.user? = none) .idle := by
  have idle : Errand.idle.user? = none := rfl
  refine followsBy_bind (followsBy_quiet_look idle fun w => ?_)
  cases w.store.timeline? id with
  | none => exact followsBy_bind (followsBy_throw idle)
  | some t =>
    refine followsBy_bind (followsBy_pure ?_)
    refine followsBy_check idle fun _ => ?_
    refine followsBy_check idle fun _ => ?_
    refine followsBy_bind (followsBy_quiet_look idle fun w => ?_)
    refine followsBy_check idle fun _ => ?_
    exact followsBy_errand fun ticket => followsBy_remove

end Timelines

namespace Operation

variable {α β : Type} {good : Process World Unit → Prop}

theorem leaves_bind {op : Operation α} {f : α → Operation β} (leaves : op.run.Leaves good)
    (after : ∀ a, (f a).run.Leaves good) : (op >>= f).run.Leaves good := by
  rw [ExceptT.run_bind]
  apply Process.Leaves.bind leaves
  rintro (e | a)
  · exact trivial
  · exact after a

theorem leaves_look (view : World → α) : (look view).run.Leaves good := fun _ => trivial

theorem leaves_call (action : World → Except TimelineError (α × World)) :
    (call action).run.Leaves good := fun _ => trivial

theorem leaves_pure (a : α) : (pure a : Operation α).run.Leaves good := trivial

theorem leaves_throw_bind (e : TimelineError) (rest : α → Operation β) :
    ((throw e : Operation α) >>= rest).run.Leaves good := trivial

theorem leaves_check {refused : Prop} [Decidable refused] {e : TimelineError}
    {rest : Unit → Operation β} (after : (rest ()).run.Leaves good) :
    (if refused then throw e >>= rest else rest ()).run.Leaves good := by
  split
  · exact leaves_throw_bind e rest
  · exact after

/-- A fenced operation leaves the release of its fence, which waits for nobody. -/
theorem leaves_fenced {e : String} {limit : Duration} {body : Operation α}
    (leaves : body.run.Leaves Process.EndsNext) :
    (fenced World.localSync e limit body).run.Leaves Process.EndsNext := by
  rw [fenced, ExceptT.run_mk, TimelineSync.fenced_eq]
  have started : (World.localSync.start e limit).Leaves Process.EndsNext :=
    fun _ _ => trivial
  apply started.bind
  rintro (fault | _)
  · exact trivial
  · exact ⟨⟨_, _, rfl⟩, leaves.bind fun _ => trivial, fun _ => ⟨⟨_, _, rfl⟩, fun _ => trivial⟩⟩

end Operation

namespace Timelines

open Operation

theorem leaves_commit (e : String) (active : Option Timeline) (number : Nat) (t : Timeline) :
    (commit e active number t).run.Leaves Process.EndsNext := by
  refine leaves_bind (leaves_bind (leaves_look _) fun current => ?_) fun _ => ?_
  · split <;> exact trivial
  refine leaves_bind (leaves_look _) fun switchedAt => leaves_bind ?_ fun superseded => ?_
  · cases active with
    | none => exact trivial
    | some previous => exact leaves_bind (leaves_call _) fun _ => trivial
  · exact leaves_bind (leaves_call _) fun _ => trivial

theorem leaves_prepare (e : String) (storage : Storage) (active : Option Timeline)
    (oldStorage : Storage) (oldWorker newWorker : Nat) :
    (prepare e storage active oldStorage oldWorker newWorker).run.Leaves Process.EndsNext := by
  cases active with
  | none =>
    rw [prepare]
    apply leaves_check
    refine leaves_bind (leaves_call _) fun layout => ?_
    refine leaves_bind (leaves_call _) fun partitions => ?_
    exact leaves_bind (leaves_call _) fun topic => leaves_call _
  | some current =>
    refine leaves_bind (leaves_call _) fun partitions => ?_
    exact leaves_bind (leaves_call _) fun topic => leaves_call _

theorem leaves_switchTo (e storageId : String) :
    (switchTo World.localSync e storageId).run.Leaves Process.EndsNext := by
  have relocates : ∀ (active : Option Timeline) (storage oldStorage : Storage),
      (do
        let oldWorker ← workerFor oldStorage
        let newWorker ← workerFor storage
        let timeline ← prepare e storage active oldStorage oldWorker newWorker
        fenced World.localSync e updateLimit (commit e active oldWorker timeline) :
          Operation Timeline).run.Leaves Process.EndsNext := by
    intro active storage oldStorage
    refine leaves_bind (leaves_call _) fun oldWorker => ?_
    refine leaves_bind (leaves_call _) fun newWorker => ?_
    refine leaves_bind (leaves_prepare ..) fun timeline => ?_
    exact leaves_fenced (leaves_commit ..)
  refine leaves_bind (leaves_look _) fun found => ?_
  cases found with
  | none => exact leaves_throw_bind _ _
  | some storage =>
    refine leaves_bind (leaves_pure _) fun storage => leaves_bind (leaves_call _) fun _ => ?_
    refine leaves_bind (leaves_look _) fun active => ?_
    cases active with
    | some previous => exact leaves_bind (leaves_pure _) (relocates (some previous) storage)
    | none =>
      refine leaves_bind (leaves_bind (leaves_look _) fun found => ?_) (relocates none storage)
      cases found <;> exact trivial

theorem leaves_delete (e : String) (id : Uuid) :
    (delete World.localSync e id).run.Leaves Process.EndsNext := by
  refine leaves_bind (leaves_look _) fun found => ?_
  cases found with
  | none => exact leaves_throw_bind _ _
  | some t =>
    refine leaves_bind (leaves_pure _) fun timeline => leaves_check (leaves_check ?_)
    refine leaves_bind (leaves_look _) fun active => leaves_check (leaves_fenced ?_)
    refine leaves_bind (leaves_look _) fun current => ?_
    exact leaves_check (leaves_call _)

end Timelines

namespace TimelineCall

def IsUpdate (p : Process World (Except TimelineError (Option Timeline))) : Prop :=
  ∃ call : TimelineCall, (∀ e, call ≠ .createFirst e) ∧ p = call.operation.run

theorem followsBy_update {call : TimelineCall} (update : ∀ e, call ≠ .createFirst e) :
    call.operation.FollowsBy Errand.protocol (fun k => k.user? = none) (fun _ k => k.user? = none)
      .idle := by
  cases call with
  | createFirst e => exact absurd rfl (update e)
  | switchTo e storageId =>
    exact Operation.followsBy_bind (Timelines.followsBy_switchTo e storageId)
  | delete e id => exact Operation.followsBy_bind (Timelines.followsBy_delete e id)

theorem leaves_update {call : TimelineCall} (update : ∀ e, call ≠ .createFirst e) :
    call.operation.run.Leaves Process.EndsNext := by
  cases call with
  | createFirst e => exact absurd rfl (update e)
  | switchTo e storageId =>
    exact Operation.leaves_bind (Timelines.leaves_switchTo e storageId) fun _ => trivial
  | delete e id => exact Operation.leaves_bind (Timelines.leaves_delete e id) fun _ => trivial

end TimelineCall

/-- No switch goes unannounced. Take any switches and deletions with local fences, which start from
any stored timelines, interleave in any way, and each end in success or in an error or are dropped
anywhere. For each fence that one of them obtained it sends one message, after its change of the
store and when the fence is free; nobody else sends any; and each change of an active timeline is
followed by a message, so that who looks again on each message ends with the current one. -/
theorem switches_announced {start : World}
    {l : Ledger World (Except TimelineError (Option Timeline))} (unfenced : start.fences = .empty)
    (keyed : start.store.Keyed)
    (reached : Ledger.Reaches TimelineCall.IsUpdate World.Apart (.empty start) l) :
    l.Announced start := by
  have kept : l.Keeps Errand.protocol start.Recorded fun _ => Errand.protocol.settled := by
    refine Ledger.Keeps.reaches (World.records start) ?_ ?_
      (World.recorded_start unfenced keyed) reached
    · rintro p ⟨call, update, rfl⟩
      refine ⟨.idle, ?_, fun w deeds stakes i unstaked idle recorded =>
        recorded.enter i unstaked idle⟩
      exact (TimelineCall.followsBy_update update).leaves
    · exact fun w w' deeds stakes apart recorded => recorded.apart apart
  obtain ⟨calls, cleanups, calling, cleaning, recorded⟩ := kept
  apply recorded.announced
  · intro i k settled member
    exact settled.stakes calling cleaning (fun _ _ ended => ended) member
  · exact (Ledger.inOrder_reaches reached).called calling.length_eq cleaning
  · apply Ledger.Prompt.reaches ?_ reached
    rintro p ⟨call, update, rfl⟩
    exact TimelineCall.leaves_update update

/-- Two first switches prepare their timelines; the first one commits its own, and the second one,
which has obtained the fence after it, finds it and fails. -/
def TimelineCall.contested : Pool World (Except TimelineError (Option Timeline)) :=
  let switch := (TimelineCall.switchTo "orders" "default").operation.run
  .begun (.ofStorages ⟨"default", .inMemory, true⟩ ⟨"second", .inMemory, false⟩ "orders")
    [switch, switch]
    (List.replicate 8 (.call 0) ++ List.replicate 10 (.call 1) ++ List.replicate 9 (.call 0) ++
      [.clean 0, .call 0] ++ List.replicate 5 (.call 1) ++ [.clean 1, .call 1])

/-- Both of them have sent their message. -/
theorem switches_announced_contested :
    ∃ (start : World) (l : Ledger World (Except TimelineError (Option Timeline))),
      start.fences = .empty ∧ start.store.Keyed ∧
        Ledger.Reaches TimelineCall.IsUpdate World.Apart (.empty start) l ∧
        (∀ i, l.Settled i) ∧
        (l.calls.map fun call => call.bind fun p =>
          p.result?.map fun result => result.map (·.map (·.order))) =
            [some (.ok (some 0)), some (.error (.concurrentUpdate "orders"))] ∧
        l.state.fences.announced = ["orders", "orders"] ∧ l.Announced start := by
  let start : World :=
    .ofStorages ⟨"default", .inMemory, true⟩ ⟨"second", .inMemory, false⟩ "orders"
  have keyed : start.store.Keyed := (Store.sequenced_of_no_timelines rfl).keyed
  have contested : Pool.Reaches TimelineCall.IsUpdate World.Apart (.empty start)
      TimelineCall.contested := by
    refine Pool.reaches_begun (fun p called => ?_) _
    have same : p = (TimelineCall.switchTo "orders" "default").operation.run := by
      simpa using called
    refine ⟨.switchTo "orders" "default", fun e first => ?_, same⟩
    exact TimelineCall.noConfusion first
  obtain ⟨l, reached, same⟩ := Ledger.exists_reaches contested
  have settled : ∀ i, l.Settled i := by
    apply Ledger.settled_of_ended
    · rw [same]
      decide +kernel
    · rw [same]
      decide +kernel
  have state : l.state = TimelineCall.contested.state := congrArg Pool.state same
  have calls : l.calls = TimelineCall.contested.calls := congrArg Pool.calls same
  refine ⟨start, l, rfl, keyed, reached, settled, ?_, ?_, switches_announced rfl keyed reached⟩
  · rw [calls]
    decide +kernel
  · rw [state]
    decide +kernel

end Cutover
