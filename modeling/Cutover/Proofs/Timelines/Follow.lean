import Cutover.Proofs.Fence.Steps
import Cutover.Proofs.Operation.Keeping
import Cutover.Proofs.Timelines.Plan

set_option autoImplicit false

namespace Cutover

namespace Operation

variable {α β : Type} {leave : Stake → Prop} {post : α → Stake → Prop} {k : Stake}

/-- An operation follows the protocol; if it fails, its stake is one with which it may leave. -/
def Follows (op : Operation α) (leave : Stake → Prop) (post : α → Stake → Prop) (k : Stake) :
    Prop :=
  op.run.Follows Stake.protocol leave
    (fun result k => match result with
      | .ok a => post a k
      | .error _ => leave k) k

theorem follows_pure {a : α} (held : post a k) : (pure a : Operation α).Follows leave post k :=
  followsBy_pure held

theorem follows_throw {e : TimelineError} (held : leave k) :
    (throw e : Operation α).Follows leave post k := followsBy_throw held

theorem follows_bind {op : Operation α} {f : α → Operation β} {post : β → Stake → Prop}
    (follows : op.Follows leave (fun a k => (f a).Follows leave post k) k) :
    (op >>= f).Follows leave post k := followsBy_bind follows

theorem follows_check {refused : Prop} [Decidable refused] {e : TimelineError}
    {rest : Unit → Operation β} {post : β → Stake → Prop} (left : leave k)
    (passed : ¬ refused → (rest ()).Follows leave post k) :
    (if refused then throw e >>= rest else rest ()).Follows leave post k :=
  followsBy_check left passed

theorem follows_look {view : World → α} (left : leave k)
    (seen : ∀ w, ∃ k', Stake.Move k w (.answer (.ok (view w) : Except TimelineError α)) k' w ∧
      post (view w) k') : (look view).Follows leave post k :=
  followsBy_look left seen

theorem follows_call {action : World → Except TimelineError (α × World)} (left : leave k)
    (done : ∀ w a w', action w = .ok (a, w') →
      ∃ k', Stake.Move k w (.answer (.ok a : Except TimelineError α)) k' w' ∧ post a k') :
    (call action).Follows leave post k :=
  followsBy_call left (fun w _ => .aside (.refl w)) done

theorem follows_look_aside {view : World → α} (left : leave k) (held : ∀ a, post a k) :
    (look view).Follows leave post k :=
  follows_look left fun w => ⟨k, .aside (.refl w), held _⟩

theorem follows_aside {action : World → Except TimelineError (α × World)} (left : leave k)
    (aside : ∀ w a w', action w = .ok (a, w') → w.Aside w') (held : ∀ a, post a k) :
    (call action).Follows leave post k :=
  follows_call left fun w a w' result => ⟨k, .aside (aside w a w' result), held a⟩

theorem follows_findEventType {name : String} {post : Unit → Stake → Prop} (left : leave k)
    (held : post () k) : (findEventType name).Follows leave post k := by
  refine follows_aside left (fun w a w' result => ?_) fun _ => held
  split at result
  · obtain ⟨_, rfl⟩ := Prod.mk.inj (Except.ok.inj result)
    exact .refl w
  · exact nomatch result

theorem follows_onWorker {number : Nat} {action : Worker → Except WorkerError (α × Worker)}
    (left : leave k)
    (extends' : ∀ worker a worker', action worker = .ok (a, worker') → worker.Extends worker')
    (held : ∀ a, post a k) : (onWorker number action).Follows leave post k := by
  refine follows_aside left (fun w a w' result => ?_) held
  split at result
  · exact nomatch result
  · next worker found =>
    split at result
    · next a' worker' done =>
      obtain ⟨_, rfl⟩ := Prod.mk.inj (Except.ok.inj result)
      exact .workers_only (.modify found (extends' worker a' worker' done))
    · exact nomatch result

theorem follows_storageOf {number : Nat} {post : Storage → Stake → Prop} (left : leave k)
    (held : ∀ a, post a k) : (storageOf number).Follows leave post k := by
  refine follows_onWorker left (fun worker a worker' done => ?_) held
  obtain ⟨_, rfl⟩ := Prod.mk.inj (Except.ok.inj done)
  exact .refl worker

theorem follows_partitionNames {number : Nat} {topic : String} {post : List String → Stake → Prop}
    (left : leave k) (held : ∀ a, post a k) :
    (partitionNames number topic).Follows leave post k := by
  refine follows_onWorker left (fun worker a worker' done => ?_) held
  cases names : worker.partitionNames topic with
  | error e =>
    rw [names] at done
    exact nomatch done
  | ok listed =>
    rw [names] at done
    obtain ⟨_, rfl⟩ := Prod.mk.inj (Except.ok.inj done)
    exact .refl worker

theorem follows_layOut {number : Nat} {e : String} {partitions : Option Nat} {firstTimeline : Bool}
    {post : String → Stake → Prop} (left : leave k) (held : ∀ a, post a k) :
    (layOut number e partitions firstTimeline).Follows leave post k := by
  refine follows_onWorker left (fun worker a worker' done => ?_) held
  obtain ⟨_, rfl⟩ := Prod.mk.inj (Except.ok.inj done)
  exact worker.extends_topics ..

theorem follows_syntheticTimeline {number : Nat} {e : String} {post : Timeline → Stake → Prop}
    (left : leave k) (held : ∀ a, post a k) :
    (syntheticTimeline number e).Follows leave post k := by
  refine follows_aside left (fun w a w' result => ?_) held
  split at result
  · exact nomatch result
  · next worker found =>
    obtain ⟨_, rfl⟩ := Prod.mk.inj (Except.ok.inj result)
    exact .workers_only (.modify found (worker.extends_topics ..))

theorem follows_workerFor_aside {storage : Storage} {post : Nat → Stake → Prop} (left : leave k)
    (held : ∀ a, post a k) : (workerFor storage).Follows leave post k := by
  refine follows_aside left (fun w a w' result => ?_) held
  split at result
  · obtain ⟨_, rfl⟩ := Prod.mk.inj (Except.ok.inj result)
    exact .refl w
  · exact nomatch result

theorem follows_defaultStorage {post : Storage → Stake → Prop} (left : leave k)
    (held : ∀ a, post a k) : Registry.defaultStorage.Follows leave post k := by
  refine follows_bind (follows_look_aside left fun found => ?_)
  cases found with
  | none => exact follows_throw left
  | some storage => exact follows_pure (held storage)

theorem follows_activeTimeline {u : Option FenceUser} {e : String}
    {post : Option Timeline → Stake → Prop} (left : leave ⟨u, .idle⟩)
    (held : ∀ active, post active ⟨u, .saw e active⟩) :
    (activeTimeline e).Follows leave post ⟨u, .idle⟩ :=
  follows_look left fun _ => ⟨_, .see, held _⟩

theorem follows_workerFor {u : Option FenceUser} {e : String} {active : Option Timeline}
    {storage : Storage} {post : Nat → Stake → Prop} (left : leave ⟨u, .saw e active⟩)
    (same : ∀ t, active = some t → t.storage = storage)
    (held : ∀ number, post number ⟨u, .located e active number⟩) :
    (workerFor storage).Follows leave post ⟨u, .saw e active⟩ := by
  refine follows_call left fun w number w' result => ?_
  split at result
  · next found =>
    obtain ⟨rfl, rfl⟩ := Prod.mk.inj (Except.ok.inj result)
    refine ⟨_, .locate fun t here => ?_, held _⟩
    rw [same t here]
    rw [Workers.number] at found
    split at found
    · exact nomatch found
    · next served => rw [served, Except.ok.inj found]
  · exact nomatch result

theorem follows_newTimeline {u : Option FenceUser} {e : String} {active : Option Timeline}
    {number order : Nat} {storage : Storage} {topic : String} {post : Timeline → Stake → Prop}
    (next : order = Timeline.orderAfter active) (left : leave ⟨u, .located e active number⟩)
    (held : ∀ t, t.eventType = e → post t ⟨u, .next active number t⟩) :
    (newTimeline e order storage topic).Follows leave post ⟨u, .located e active number⟩ := by
  subst next
  refine follows_call left fun w t w' result => ?_
  obtain ⟨rfl, rfl⟩ := Prod.mk.inj (Except.ok.inj result)
  exact ⟨_, .draw, held _ rfl⟩

theorem follows_writeStore {write : Store → Except StoreError Store} {post : Unit → Stake → Prop}
    (left : leave k)
    (written : ∀ (w : World) (s : Store) (sight : Sight), write w.store = .ok s →
      ∃ k', Stake.Move k w sight k' (w.withStore s) ∧ post () k') :
    (writeStore write).Follows leave post k :=
  followsBy_writeStore left (fun w _ => .aside (.refl w)) written

theorem follows_latestPosition {e : String} {ticket : Ticket} {number : Nat}
    {previous t : Timeline} {post : Position → Stake → Prop}
    (left : leave ⟨some ⟨e, ticket, .updating⟩, .next (some previous) number t⟩)
    (held : ∀ position,
      post position ⟨some ⟨e, ticket, .updating⟩, .measured previous position t⟩) :
    (latestPosition number previous).Follows leave post
      ⟨some ⟨e, ticket, .updating⟩, .next (some previous) number t⟩ := by
  refine follows_call left fun w position w' result => ?_
  split at result
  · exact nomatch result
  · next worker found =>
    split at result
    · next a worker' done =>
      cases latest : worker.latestPosition previous.topic with
      | error e =>
        simp only [latest] at done
        exact nomatch done
      | ok p =>
        simp only [latest] at done
        obtain ⟨rfl, rfl⟩ := Prod.mk.inj (Except.ok.inj done)
        obtain ⟨rfl, rfl⟩ := Prod.mk.inj (Except.ok.inj result)
        rw [Workers.modify_same found]
        exact ⟨_, .measure found latest, held p⟩
    · exact nomatch result

/-- A fenced operation: its body has the lock for itself, and whatever the body ends with and
wherever it is dropped, its use of the lock goes to the release. -/
theorem follows_fenced {e : String} {limit : Duration} {body : Operation α} {plan : Plan}
    (follows : ∀ ticket, body.Follows (fun k => k.user = some ⟨e, ticket, .updating⟩)
      (fun _ k => k.user = some ⟨e, ticket, .updating⟩) ⟨some ⟨e, ticket, .updating⟩, plan⟩) :
    (fenced World.localSync e limit body).Follows (fun k => k.user = none)
      (fun _ k => k.user = none) ⟨none, plan⟩ := by
  refine followsBy_fenced (fun ticket => ⟨some ⟨e, ticket, .waiting .exclusive⟩, plan⟩)
    (fun ticket => ⟨some ⟨e, ticket, .updating⟩, plan⟩) ⟨none, plan⟩
    (fun ticket k => k.user = some ⟨e, ticket, .updating⟩) rfl rfl (fun _ _ => .ask)
    (fun _ _ _ => .withdraw) (fun _ _ _ => .refuse) (fun _ _ _ granted => .fence granted) follows ?_
  intro ticket k user
  refine ⟨⟨some ⟨e, ticket, .updating⟩, .idle⟩, ⟨none, .idle⟩, ⟨by rw [user], rfl⟩, ?_, rfl⟩
  exact ⟨trivial, fun w => ⟨_, .finish, rfl⟩⟩

end Operation

namespace Timelines

open Operation

theorem follows_createFirst (e : String) :
    (createFirst e).Follows (fun k => k.user = none) (fun _ k => k.user = none)
      ⟨none, .located e none 0⟩ := by
  have located : (⟨none, .located e none 0⟩ : Stake).user = none := rfl
  refine follows_bind (follows_bind (follows_defaultStorage located fun storage => ?_))
  refine follows_workerFor_aside located fun number => ?_
  refine follows_bind (follows_layOut located fun topic => ?_)
  refine follows_bind (follows_storageOf located fun storage => ?_)
  refine follows_bind (follows_newTimeline rfl located fun t _ => ?_)
  refine follows_bind (follows_writeStore rfl fun w s sight created => ?_)
  exact ⟨_, .create created, follows_pure rfl⟩

theorem follows_prepare {e : String} {storage oldStorage : Storage} {active : Option Timeline}
    {oldWorker newWorker : Nat} {post : Timeline → Stake → Prop}
    (held : ∀ t, t.eventType = e → post t ⟨none, .next active oldWorker t⟩) :
    (prepare e storage active oldStorage oldWorker newWorker).Follows (fun k => k.user = none) post
      ⟨none, .located e active oldWorker⟩ := by
  have located : (⟨none, .located e active oldWorker⟩ : Stake).user = none := rfl
  cases active with
  | none =>
    rw [prepare]
    split
    · exact follows_bind (follows_throw located)
    refine follows_bind (follows_syntheticTimeline located fun layout => ?_)
    refine follows_bind (follows_partitionNames located fun partitions => ?_)
    refine follows_bind (follows_layOut located fun topic => ?_)
    exact follows_newTimeline rfl located held
  | some current =>
    refine follows_bind (follows_partitionNames located fun partitions => ?_)
    refine follows_bind (follows_layOut located fun topic => ?_)
    exact follows_newTimeline rfl located held

theorem follows_ensureActive {e : String} {expected : Option Uuid} {k : Stake}
    {leave : Stake → Prop} {post : Unit → Stake → Prop} (left : leave k) (held : post () k) :
    (ensureActive e expected).Follows leave post k := by
  refine follows_bind (follows_look_aside left fun current => ?_)
  split
  · exact follows_throw left
  · exact held

theorem follows_commit {e : String} {active : Option Timeline} {number : Nat} {t : Timeline}
    {ticket : Ticket} (named : t.eventType = e) :
    (commit e active number t).Follows (fun k => k.user = some ⟨e, ticket, .updating⟩)
      (fun _ k => k.user = some ⟨e, ticket, .updating⟩)
      ⟨some ⟨e, ticket, .updating⟩, .next active number t⟩ := by
  subst named
  refine follows_bind (follows_ensureActive rfl ?_)
  refine follows_bind (follows_look_aside rfl fun switchedAt => ?_)
  cases active with
  | none =>
    refine follows_bind (follows_pure ?_)
    refine follows_bind (follows_writeStore rfl fun w s sight committed => ?_)
    exact ⟨_, .first committed, follows_pure rfl⟩
  | some previous =>
    refine follows_bind (follows_bind (follows_latestPosition rfl fun position => ?_))
    refine follows_pure ?_
    refine follows_bind (follows_writeStore rfl fun w s sight committed => ?_)
    exact ⟨_, .switch committed, follows_pure rfl⟩

/-- What a switch does once it has looked up the worker of the active timeline. -/
theorem follows_relocate {e : String} {active : Option Timeline} {storage oldStorage : Storage}
    {oldWorker : Nat} :
    (do
      let newWorker ← workerFor storage
      let timeline ← prepare e storage active oldStorage oldWorker newWorker
      fenced World.localSync e updateLimit (commit e active oldWorker timeline)).Follows
      (fun k => k.user = none) (fun _ k => k.user = none) ⟨none, .located e active oldWorker⟩ := by
  refine follows_bind (follows_workerFor_aside rfl fun newWorker => ?_)
  refine follows_bind (follows_prepare fun t named => ?_)
  exact follows_fenced fun ticket => follows_commit named

theorem follows_switchTo (e storageId : String) :
    (switchTo World.localSync e storageId).Follows (fun k => k.user = none)
      (fun _ k => k.user = none) ⟨none, .idle⟩ := by
  have idle : (⟨none, .idle⟩ : Stake).user = none := rfl
  refine follows_bind (follows_look_aside idle fun found => ?_)
  cases found with
  | none => exact follows_bind (follows_throw idle)
  | some storage =>
    refine follows_bind (follows_pure ?_)
    refine follows_bind (follows_findEventType idle ?_)
    refine follows_bind (follows_activeTimeline idle fun active => ?_)
    have saw : (⟨none, .saw e active⟩ : Stake).user = none := rfl
    cases active with
    | none =>
      refine follows_bind (follows_defaultStorage saw fun oldStorage => ?_)
      refine follows_bind (follows_workerFor saw nofun fun oldWorker => ?_)
      exact follows_relocate
    | some previous =>
      refine follows_bind (follows_pure ?_)
      refine follows_bind (follows_workerFor saw ?_ fun oldWorker => ?_)
      · intro t same
        rw [Option.some_inj.1 same]
      · exact follows_relocate

theorem follows_remove {t : Timeline} {ticket : Ticket} (first : t.order = 0) :
    (remove t.eventType t.id).Follows (fun k => k.user = some ⟨t.eventType, ticket, .updating⟩)
      (fun _ k => k.user = some ⟨t.eventType, ticket, .updating⟩)
      ⟨some ⟨t.eventType, ticket, .updating⟩, .found t⟩ := by
  refine follows_bind (follows_look rfl fun w => ?_)
  by_cases active : (w.store.active? t.eventType).map (·.id) = some t.id
  · refine ⟨_, .doom active first, ?_⟩
    rw [if_neg (not_not.2 active)]
    exact follows_writeStore rfl fun w s sight deleted => ⟨_, .delete deleted, rfl⟩
  · refine ⟨_, .aside (.refl w), ?_⟩
    rw [if_pos active]
    exact follows_bind (follows_throw rfl)

theorem follows_delete (e : String) (id : Uuid) :
    (delete World.localSync e id).Follows (fun k => k.user = none) (fun _ k => k.user = none)
      ⟨none, .idle⟩ := by
  refine follows_bind (follows_look rfl fun w => ?_)
  cases stored : w.store.timeline? id with
  | none => exact ⟨_, .aside (.refl w), follows_bind (follows_throw rfl)⟩
  | some t =>
    refine ⟨_, .find stored, follows_bind (follows_pure ?_)⟩
    have found : (⟨none, .found t⟩ : Stake).user = none := rfl
    refine follows_check found fun named => ?_
    obtain rfl := not_not.1 named
    refine follows_check found fun first => ?_
    refine follows_bind (follows_look_aside found fun active => ?_)
    refine follows_check found fun _ => ?_
    refine follows_fenced fun ticket => follows_remove ?_
    simpa [Timeline.isFirst] using first

theorem follows_synthetic (e : String) :
    (synthetic e).Follows (fun k => k.user = none) (fun _ k => k.user = none) ⟨none, .idle⟩ := by
  have idle : (⟨none, .idle⟩ : Stake).user = none := rfl
  refine follows_bind (follows_bind (follows_defaultStorage idle fun storage => ?_))
  refine follows_workerFor_aside idle fun number => ?_
  exact follows_syntheticTimeline idle fun _ => idle

theorem follows_get (e : String) :
    (get e).Follows (fun k => k.user = none) (fun _ k => k.user = none) ⟨none, .idle⟩ := by
  have idle : (⟨none, .idle⟩ : Stake).user = none := rfl
  refine follows_bind (follows_look_aside idle fun active => ?_)
  cases active with
  | none => exact follows_synthetic e
  | some t => exact follows_pure idle

theorem follows_resolve (e : String) (cursor : Cursor) :
    (resolve e cursor).Follows (fun k => k.user = none) (fun _ k => k.user = none)
      ⟨none, .idle⟩ := by
  have idle : (⟨none, .idle⟩ : Stake).user = none := rfl
  cases cursor with
  | legacy partition offset => exact follows_synthetic e
  | onTimeline partition id offset =>
    refine follows_bind (follows_look_aside idle fun found => ?_)
    cases found with
    | none => exact follows_throw idle
    | some t => exact follows_pure idle

end Timelines

end Cutover
