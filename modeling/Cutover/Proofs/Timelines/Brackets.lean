import Cutover.Proofs.Operation.Alone
import Cutover.Proofs.Operation.Consults
import Cutover.Proofs.Timelines.Stages
import Cutover.Proofs.Timelines.Streams

set_option autoImplicit false

namespace Cutover

/-- The errors with which a call is turned away before its fence, or by a fence that does not start:
those of a rule, and those of a worker except the one that the last position is asked of. -/
def TimelineError.isRefusal : TimelineError → Bool
  | .storageNotFound _ => true
  | .timelineNotFound _ => true
  | .eventTypeNotFound _ => true
  | .noDefaultStorage => true
  | .firstTimelineNotOnDefault _ => true
  | .eventTypeMismatch _ _ => true
  | .notFirstTimeline _ => true
  | .notLatestTimeline _ => true
  | .fence _ => true
  | .worker error => error ≠ .backend "mock position failure"
  | _ => false

namespace World

/-- What an operation changes before its fence: topics are laid out and ids are drawn. -/
structure Prepared (w w' : World) : Prop where
  store : w'.store = w.store
  recorder : w'.recorder = w.recorder
  workers : w.workers.Extends w'.workers

variable {w w' w'' : World}

theorem Prepared.refl (w : World) : w.Prepared w := ⟨rfl, rfl, .refl _⟩

theorem Prepared.trans (first : w.Prepared w') (second : w'.Prepared w'') : w.Prepared w'' :=
  ⟨second.store.trans first.store, second.recorder.trans first.recorder,
    first.workers.trans second.workers⟩

theorem Consulted.prepared (consulted : w.Consulted w') : w.Prepared w' := by
  obtain ⟨workers, consulted, rfl⟩ := consulted
  exact ⟨rfl, rfl, consulted.extension⟩

end World

namespace Operation

variable {α β : Type} {op : Operation α} {w : World}

/-- Run alone, an operation prepares: it writes no record and makes no fence call, and if it fails
it turns the call away. -/
def Prepares (op : Operation α) (done : α → World → Prop) (w : World) : Prop :=
  op.Ensures (fun a w' => w.Prepared w' ∧ done a w')
    (fun e w' => w.Prepared w' ∧ e.isRefusal = true) w

theorem Prepares.mono {done done' : α → World → Prop} (prepares : op.Prepares done w)
    (better : ∀ a w', w.Prepared w' → done a w' → done' a w') : op.Prepares done' w :=
  Ensures.mono prepares (fun a w' made => ⟨made.1, better a w' made.1 made.2⟩)
    fun _ _ failed => failed

theorem prepares_pure {a : α} {done : α → World → Prop} (held : done a w) :
    (pure a : Operation α).Prepares done w := ensures_pure ⟨.refl w, held⟩

theorem prepares_pure_bind {a : α} {f : α → Operation β} {done : β → World → Prop}
    (rest : (f a).Prepares done w) : (pure a >>= f).Prepares done w := ensures_bind rest

theorem prepares_throw {e : TimelineError} {done : α → World → Prop}
    (refusal : e.isRefusal = true) : (throw e : Operation α).Prepares done w :=
  ensures_throw ⟨.refl w, refusal⟩

theorem prepares_bind {f : α → Operation β} {between : α → World → Prop}
    {done : β → World → Prop} (first : op.Prepares between w)
    (second : ∀ a w', w.Prepared w' → between a w' → (f a).Prepares done w') :
    (op >>= f).Prepares done w := by
  refine ensures_bind (Ensures.mono first ?_ fun _ _ failed => failed)
  rintro a w' ⟨prepared, held⟩
  refine Ensures.mono (second a w' prepared held) ?_ ?_
  · exact fun b w'' ended => ⟨prepared.trans ended.1, ended.2⟩
  · exact fun e w'' failed => ⟨prepared.trans failed.1, failed.2⟩

theorem prepares_check {refused : Prop} [Decidable refused] {e : TimelineError}
    {rest : Unit → Operation β} {done : β → World → Prop} (refusal : e.isRefusal = true)
    (passed : ¬ refused → (rest ()).Prepares done w) :
    (if refused then throw e >>= rest else rest ()).Prepares done w :=
  ensures_check (fun _ => ⟨.refl w, refusal⟩) passed

theorem Consults.prepares {learns : World → α → World → Prop}
    {fails : World → TimelineError → Prop} (consults : op.Consults learns fails)
    (refusals : ∀ w error, fails w error → error.isRefusal = true) : op.Prepares (learns w) w := by
  refine consults.ensures (fun a w' consulted learnt => ?_) fun error failed => ?_
  · exact ⟨consulted.prepared, learnt⟩
  · exact ⟨.refl w, refusals w error failed⟩

theorem WorkerFails.isRefusal {error : TimelineError} (fails : WorkerFails error) :
    error.isRefusal = true := by
  rcases fails with rfl | ⟨topic, rfl⟩ <;> rfl

theorem prepares_look {view : World → α} : (look view).Prepares (fun a w' => a = view w') w :=
  ensures_look ⟨.refl w, rfl⟩

theorem prepares_findEventType {name : String} :
    (findEventType name).Prepares (fun _ w' => name ∈ w.eventTypes ∧ w' = w) w :=
  (consults_findEventType name).prepares fun w error same => by rw [same]; rfl

theorem prepares_workerFor {storage : Storage} : (workerFor storage).Prepares
    (fun number w' => w.workers.serving.get? storage.id = some number ∧ w' = w) w :=
  (consults_workerFor storage).prepares fun w error same => by rw [same]; rfl

theorem prepares_storageOf {number : Nat} : (storageOf number).Prepares (fun storage _ =>
    ∃ worker, w.workers.get? number = some worker ∧ worker.storage = storage) w :=
  (consults_storageOf number).prepares fun _ _ => WorkerFails.isRefusal

theorem prepares_layOut {number : Nat} {e : String} {partitions : Option Nat} {first : Bool} :
    (layOut number e partitions first).Prepares (fun topic _ => first = true → topic = e) w :=
  (consults_layOut number e partitions first).prepares fun _ _ => WorkerFails.isRefusal

theorem prepares_partitionNames {number : Nat} {topic : String} :
    (partitionNames number topic).Prepares (fun _ w' => w'.HasTopic number topic) w :=
  (consults_partitionNames number topic).prepares fun _ _ => WorkerFails.isRefusal

theorem prepares_syntheticTimeline {number : Nat} {e : String} :
    (syntheticTimeline number e).Prepares (fun _ _ => True) w :=
  (consults_syntheticTimeline number e).prepares fun _ _ => WorkerFails.isRefusal

theorem prepares_defaultStorage : Registry.defaultStorage.Prepares (fun _ _ => True) w := by
  refine prepares_bind prepares_look fun found w' _ _ => ?_
  cases found with
  | none => exact prepares_throw rfl
  | some storage => exact prepares_pure trivial

theorem prepares_newTimeline {e : String} {order : Nat} {storage : Storage} {topic : String} :
    (newTimeline e order storage topic).Prepares (fun _ _ => True) w := by
  refine ensures_call (fun a w' result => ?_) nofun
  obtain ⟨_, rfl⟩ := Prod.mk.inj (Except.ok.inj result)
  exact ⟨⟨rfl, rfl, .refl _⟩, trivial⟩

end Operation

namespace Timelines

open Operation

theorem prepares_defaultWorker {w : World} : defaultWorker.Prepares (fun _ _ => True) w := by
  refine prepares_bind prepares_defaultStorage fun storage w' _ _ => ?_
  exact prepares_workerFor.mono fun _ _ _ _ => trivial

theorem prepares_firstDraft (e : String) (w : World) :
    (firstDraft e).Prepares (fun _ _ => True) w := by
  refine prepares_bind prepares_defaultWorker fun number w' _ _ => ?_
  refine prepares_bind prepares_layOut fun topic w' _ _ => ?_
  refine prepares_bind prepares_storageOf fun storage w' _ _ => ?_
  exact prepares_bind prepares_newTimeline fun t w' _ _ => prepares_pure trivial

theorem prepares_prepare {e : String} {storage oldStorage : Storage} {active : Option Timeline}
    {oldWorker newWorker : Nat} {w : World} :
    (prepare e storage active oldStorage oldWorker newWorker).Prepares
      (fun _ w' => ∀ a, active = some a → w'.HasTopic oldWorker a.topic) w := by
  cases active with
  | none =>
    rw [prepare]
    refine prepares_check rfl fun _ => ?_
    refine prepares_bind prepares_syntheticTimeline fun layout w' _ _ => ?_
    refine prepares_bind prepares_partitionNames fun partitions w' _ _ => ?_
    refine prepares_bind prepares_layOut fun topic w' _ _ => ?_
    apply prepares_newTimeline.mono
    intro t w'' _ _ a same
    cases same
  | some current =>
    refine prepares_bind prepares_partitionNames fun partitions w' _ has => ?_
    refine prepares_bind prepares_layOut fun topic w'' prepared _ => ?_
    apply prepares_newTimeline.mono
    rintro t w''' made _ a ⟨⟩
    exact (has.extends prepared.workers).extends made.workers

/-- What a switch does before its fence once it has looked up the worker of the active timeline. -/
theorem prepares_relocate {e : String} {storage oldStorage : Storage} {active : Option Timeline}
    {oldWorker : Nat} {w : World} :
    (do
      let newWorker ← workerFor storage
      let next ← prepare e storage active oldStorage oldWorker newWorker
      return (⟨active, oldWorker, next⟩ : Switch)).Prepares
      (fun s w' =>
        s.active = active ∧ ∀ a, s.active = some a → w'.HasTopic s.worker a.topic) w := by
  refine prepares_bind prepares_workerFor fun newWorker w' _ _ => ?_
  exact prepares_bind prepares_prepare fun next w' _ has => prepares_pure ⟨rfl, has⟩

/-- Before its fence a switch reads the active timeline and finds its topic on its worker. -/
theorem prepares_plan (e storageId : String) (w : World) :
    (plan e storageId).Prepares (fun s w' => s.active = w.store.active? e ∧
      ∀ a, s.active = some a → w'.HasTopic s.worker a.topic) w := by
  refine prepares_bind prepares_look fun found w₁ kept₁ _ => ?_
  cases found with
  | none => exact ensures_bind (ensures_throw ⟨.refl w₁, rfl⟩)
  | some storage =>
    refine prepares_pure_bind (prepares_bind prepares_findEventType fun _ w₂ kept₂ _ => ?_)
    refine prepares_bind prepares_look fun active w₃ kept₃ seen => ?_
    have read : active = w.store.active? e := by
      rw [seen, kept₃.store, kept₂.store, kept₁.store]
    subst read
    cases active : w.store.active? e with
    | none =>
      refine prepares_bind prepares_defaultStorage fun oldStorage w₄ _ _ => ?_
      exact prepares_bind prepares_workerFor fun oldWorker w₅ _ _ => prepares_relocate
    | some previous =>
      refine prepares_pure_bind ?_
      exact prepares_bind prepares_workerFor fun oldWorker w₄ _ _ => prepares_relocate

end Timelines

theorem Store.commitSwitch_unrefused {s : Store} {superseded : Option Timeline} {next : Timeline}
    {e : StoreError} (failed : s.commitSwitch superseded next = .error e) :
    (TimelineError.ofStore e).isRefusal = false := by
  rcases commitSwitch_error failed with ⟨_, rfl⟩ | ⟨_, _, _, rfl⟩ | ⟨_, _, rfl⟩ | ⟨_, rfl⟩
  · rfl
  · rfl
  · rfl
  · rfl

theorem Store.deleteTimeline_unrefused {s : Store} {id : Uuid} {e : StoreError}
    (failed : s.deleteTimeline id = .error e) : (TimelineError.ofStore e).isRefusal = false := by
  unfold deleteTimeline at failed
  split at failed
  · exact Except.error.inj failed ▸ rfl
  split at failed
  · exact nomatch failed
  · exact Except.error.inj failed ▸ rfl

/-- A fenced body that runs alone: nothing but the start if that fails, and otherwise the body and
the finish, whatever the finish comes to. -/
theorem TimelineSync.runAlone_fenced {σ ε α : Type} (sync : TimelineSync σ) (eventType : String)
    (limit : Duration) (convert : FenceError → ε) (body : Process σ (Except ε α)) (s : σ) :
    (sync.fenced eventType limit convert body).runAlone s =
      match (sync.start eventType limit).runAlone s with
      | (.error e, s') => (.error (convert e), s')
      | (.ok (), s') => ((body.runAlone s').1,
          ((sync.finish eventType).runAlone (body.runAlone s').2).2) := by
  rw [fenced_eq, Process.runAlone_bind]
  cases (sync.start eventType limit).runAlone s with
  | mk answer s' =>
    cases answer with
    | error e => rfl
    | ok started =>
      simp only [Process.runAlone, released, release, Process.runAlone_bind, Unwinding.calmly]

namespace World

def record (w : World) (call : FenceCall) : World :=
  w.withRecorder { w.recorder with calls := w.recorder.calls ++ [call] }

theorem start_recordingSync (delay : Nat) (w : World) (e : String) (limit : Duration) :
    ((recordingSync delay).start e limit).runAlone w =
      ((w.recorder.start e limit).1, w.withRecorder (w.recorder.start e limit).2) := rfl

end World

namespace Operation

variable {α : Type} {w : World}

/-- Under the fence an operation makes no fence call, and if it fails it writes no record and does
not turn the call away. -/
def Concludes (op : Operation α) (w : World) : Prop :=
  op.Ensures (fun _ w' => w'.recorder = w.recorder)
    (fun e w' => w'.recorder = w.recorder ∧ w'.store = w.store ∧ e.isRefusal = false) w

theorem concludes_writeStore {write : Store → Except StoreError Store}
    (fails : ∀ e, write w.store = .error e → (TimelineError.ofStore e).isRefusal = false) :
    (writeStore write).Concludes w :=
  ensures_writeStore (fun _ _ => rfl) fun e failed => ⟨rfl, rfl, fails e failed⟩

theorem alone_fenced (sync : TimelineSync World) (e : String) (limit : Duration)
    (body : Operation α) (w : World) : (fenced sync e limit body).alone w =
      match (sync.start e limit).runAlone w with
      | (.error fault, w') => (.error (.fence fault), w')
      | (.ok (), w') =>
          ((body.alone w').1, ((sync.finish e).runAlone (body.alone w').2).2) := by
  refine (TimelineSync.runAlone_fenced ..).trans ?_
  rcases (sync.start e limit).runAlone w with ⟨fault | ⟨⟩, w'⟩ <;> rfl

/-- A fenced operation that is recorded: a start that is refused leaves no trace, and otherwise the
finish comes after the body, whatever that ends with. -/
theorem alone_recorded (delay : Nat) (e : String) (limit : Duration) (body : Operation α)
    (w : World) : (fenced (World.recordingSync delay) e limit body).alone w =
      match w.recorder.refuseStart with
      | some fault => (.error (.fence fault), w)
      | none => ((body.alone (w.record (.start e limit))).1,
          (body.alone (w.record (.start e limit))).2.record (.finish e)) := by
  rw [alone_fenced, World.start_recordingSync]
  cases starts : w.recorder.refuseStart with
  | some fault =>
    rw [FenceRecorder.start, starts]
    rfl
  | none =>
    have started : FenceRecorder.start e limit w.recorder =
        (.ok (), { w.recorder with calls := w.recorder.calls ++ [.start e limit] }) := by
      rw [FenceRecorder.start]
      split
      · next fault refused => exact nomatch starts.symm.trans refused
      · rfl
    rw [started]
    rfl

theorem ensures_recorded {delay : Nat} {e : String} {limit : Duration} {body : Operation α}
    {done : α → World → Prop} {failed : TimelineError → World → Prop}
    (refused : ∀ fault, failed (.fence fault) w)
    (entered : body.Ensures (fun a w' => done a (w'.record (.finish e)))
      (fun error w' => failed error (w'.record (.finish e))) (w.record (.start e limit))) :
    (fenced (World.recordingSync delay) e limit body).Ensures done failed w := by
  rw [Ensures, alone_recorded]
  cases w.recorder.refuseStart with
  | some fault => exact refused fault
  | none =>
    rw [Ensures] at entered
    cases result : body.alone (w.record (.start e limit)) with
    | mk answer w' =>
      rw [result] at entered
      cases answer with
      | ok a => exact entered
      | error error => exact entered

end Operation

namespace Timelines

open Operation

theorem concludes_commit {e : String} {active : Option Timeline} {number : Nat} {next : Timeline}
    {w : World} (current : active = w.store.active? e)
    (topic : ∀ a, active = some a → w.HasTopic number a.topic) :
    (commit e active number next).Concludes w := by
  refine ensures_bind (ensures_bind (ensures_look ?_))
  rw [if_neg (by rw [current]; exact not_not.2 rfl)]
  refine ensures_pure (ensures_bind (ensures_look ?_))
  cases active with
  | none =>
    refine ensures_bind (ensures_pure (ensures_bind ?_))
    exact concludes_writeStore fun e failed => Store.commitSwitch_unrefused failed
  | some previous =>
    obtain ⟨worker, count, registered, known⟩ := topic previous rfl
    refine ensures_bind (ensures_bind ((consults_latestPosition number previous).ensures ?_ ?_))
    · rintro position w' - ⟨rfl, -⟩
      refine ensures_pure (ensures_bind ?_)
      exact concludes_writeStore fun e failed => Store.commitSwitch_unrefused failed
    · rintro error (⟨none, -⟩ | ⟨other, fault, registered', failed, rfl⟩)
      · exact nomatch registered.symm.trans none
      · obtain rfl := Option.some_inj.1 (registered.symm.trans registered')
        rw [(Worker.latestPosition_error known failed).2]
        exact ⟨rfl, rfl, rfl⟩

theorem concludes_remove {e : String} {id : Uuid} {w : World}
    (active : (w.store.active? e).map (·.id) = some id) : (remove e id).Concludes w := by
  refine ensures_bind (ensures_look ?_)
  rw [if_neg (not_not.2 active)]
  exact concludes_writeStore fun e failed => Store.deleteTimeline_unrefused failed

end Timelines

namespace TimelineCall

def under (sync : TimelineSync World) : TimelineCall → Operation (Option Timeline)
  | .createFirst e => return some (← Timelines.createFirst e)
  | .switchTo e storageId => return some (← Timelines.switchTo sync e storageId)
  | .delete e id => do
      Timelines.delete sync e id
      return none

theorem operation_eq (call : TimelineCall) : call.operation = call.under World.localSync := by
  cases call <;> rfl

def eventType : TimelineCall → String
  | .createFirst e => e
  | .switchTo e _ => e
  | .delete e _ => e

/-- Whether a call pauses the producers. A first timeline has none yet. -/
def isFenced : TimelineCall → Bool
  | .createFirst _ => false
  | _ => true

end TimelineCall

/-- A start with the limit of an update, and the finish that belongs to it. -/
def FenceCall.pair (eventType : String) : List FenceCall :=
  [.start eventType (.ofSeconds 60), .finish eventType]

/-- What a call comes to: if it fails, the records are as they were; its fence calls are none or a
start and its finish; they are none if it is turned away, and otherwise the pair if it is fenced. -/
structure World.Bracketed (w : World) (call : TimelineCall)
    (answer : Except TimelineError (Option Timeline)) (w' : World) : Prop where
  unchanged : ∀ error, answer = .error error →
    w'.store.storages = w.store.storages ∧ w'.store.timelines = w.store.timelines
  calls : w'.recorder.calls = w.recorder.calls ∨
    w'.recorder.calls = w.recorder.calls ++ FenceCall.pair call.eventType
  turnedAway : ∀ error, answer = .error error → error.isRefusal = true →
    w'.recorder.calls = w.recorder.calls
  paused : call.isFenced = true → (∀ error, answer = .error error → error.isRefusal = false) →
    w'.recorder.calls = w.recorder.calls ++ FenceCall.pair call.eventType

namespace TimelineCall

/-- What a call comes to that is made alone with a recorded sync, and the world it leaves. -/
def recorded (call : TimelineCall) (delay : Nat) (w : World) :
    Except TimelineError (Option Timeline) × World :=
  (call.under (World.recordingSync delay)).alone w

def Brackets (call : TimelineCall) (delay : Nat) (w : World) : Prop :=
  w.Bracketed call (call.recorded delay w).1 (call.recorded delay w).2

end TimelineCall

namespace Operation

variable {α : Type} {w : World} {call : TimelineCall} {delay : Nat}

theorem Ensures.brackets
    (ensures : (call.under (World.recordingSync delay)).Ensures
      (fun a w' => w.Bracketed call (.ok a) w')
      (fun error w' => w.Bracketed call (.error error) w') w) : call.Brackets delay w := by
  rw [Ensures] at ensures
  rw [TimelineCall.Brackets, TimelineCall.recorded]
  cases result : (call.under (World.recordingSync delay)).alone w with
  | mk answer w' =>
    rw [result] at ensures
    cases answer with
    | ok a => exact ensures
    | error error => exact ensures

theorem bracketed_prepared {w' : World} {error : TimelineError} (prepared : w.Prepared w')
    (refusal : call.isFenced = true → error.isRefusal = true) :
    w.Bracketed call (.error error) w' where
  unchanged _ _ := ⟨by rw [prepared.store], by rw [prepared.store]⟩
  calls := .inl (by rw [prepared.recorder])
  turnedAway _ _ _ := by rw [prepared.recorder]
  paused fenced unrefused := nomatch (unrefused error rfl).symm.trans (refusal fenced)

theorem brackets_recorded (call : TimelineCall) {w₀ : World} {body : Operation α}
    {f : α → Option Timeline} (prepared : w₀.Prepared w)
    (concludes : body.Concludes (w.record (.start call.eventType Timelines.updateLimit))) :
    (fenced (World.recordingSync delay) call.eventType Timelines.updateLimit body).Ensures
      (fun a w' => w₀.Bracketed call (.ok (f a)) w')
      (fun error w' => w₀.Bracketed call (.error error) w') w := by
  have paired : ∀ w' : World,
      w'.recorder = (w.record (.start call.eventType Timelines.updateLimit)).recorder →
        (w'.record (.finish call.eventType)).recorder.calls =
          w₀.recorder.calls ++ FenceCall.pair call.eventType := by
    intro w' kept
    rw [World.record, kept, ← prepared.recorder]
    exact List.append_assoc ..
  refine ensures_recorded (fun fault => bracketed_prepared prepared fun _ => rfl) ?_
  refine Ensures.mono concludes (fun a w' kept => ?_) ?_
  · exact ⟨nofun, .inr (paired w' kept), nofun, fun _ _ => paired w' kept⟩
  · rintro error w' ⟨kept, store, unrefused⟩
    refine ⟨fun _ _ => ⟨?_, ?_⟩, .inr (paired w' kept), ?_, fun _ _ => paired w' kept⟩
    · exact congrArg Store.storages (store.trans prepared.store)
    · exact congrArg Store.timelines (store.trans prepared.store)
    · rintro _ ⟨⟩ refused
      exact nomatch unrefused.symm.trans refused

end Operation

namespace TimelineCall

open Operation Timelines

variable {e storageId : String} {id : Uuid} {delay : Nat} {w : World}

theorem brackets_createFirst : (TimelineCall.createFirst e).Brackets delay w := by
  refine Ensures.brackets (ensures_bind ?_)
  rw [createFirst_eq]
  refine ensures_bind (Ensures.mono (prepares_firstDraft e w) ?_ ?_)
  · rintro first w' ⟨prepared, -⟩
    refine ensures_bind (ensures_writeStore (fun s _ => ?_) fun _ _ => ?_)
    · exact ⟨nofun, .inl (congrArg FenceRecorder.calls prepared.recorder), nofun, nofun⟩
    · exact bracketed_prepared prepared nofun
  · exact fun error w' failed => bracketed_prepared failed.1 nofun

theorem brackets_switchTo : (TimelineCall.switchTo e storageId).Brackets delay w := by
  refine Ensures.brackets (ensures_bind ?_)
  rw [switchTo_eq]
  refine ensures_bind (Ensures.mono (prepares_plan e storageId w) ?_ ?_)
  · rintro s w' ⟨prepared, current, topic⟩
    refine brackets_recorded (.switchTo e storageId) prepared (concludes_commit ?_ topic)
    exact current.trans (congrArg (Store.active? · e) prepared.store.symm)
  · exact fun error w' failed => bracketed_prepared failed.1 fun _ => failed.2

theorem brackets_delete : (TimelineCall.delete e id).Brackets delay w := by
  have turned : ∀ {error : TimelineError}, error.isRefusal = true →
      w.Bracketed (.delete e id) (.error error) w := fun refusal =>
    bracketed_prepared (.refl w) fun _ => refusal
  refine Ensures.brackets (ensures_bind (ensures_bind (ensures_look ?_)))
  cases w.store.timeline? id with
  | none => exact ensures_bind (ensures_throw (turned rfl))
  | some t =>
    refine ensures_bind (ensures_pure ?_)
    apply ensures_check fun _ => turned rfl
    intro _
    apply ensures_check fun _ => turned rfl
    intro _
    refine ensures_bind (ensures_look (ensures_check (fun _ => turned rfl) fun active => ?_))
    exact brackets_recorded (.delete e id) (.refl w) (concludes_remove (not_not.1 active))

theorem brackets (call : TimelineCall) (delay : Nat) (w : World) : call.Brackets delay w := by
  cases call with
  | createFirst e => exact brackets_createFirst
  | switchTo e storageId => exact brackets_switchTo
  | delete e id => exact brackets_delete

end TimelineCall

/-- A call is made and ends, or the world changes in between and no fence call is made. -/
inductive World.Turn (w : World) : World → Prop
  | call (call : TimelineCall) (delay : Nat) :
      w.Turn (call.recorded delay w).2
  | change {w' : World} (same : w'.recorder.calls = w.recorder.calls) : w.Turn w'

theorem FenceRecorder.outstanding_pairs {r : FenceRecorder} {eventTypes : List String}
    (paired : r.calls = eventTypes.flatMap FenceCall.pair) : r.outstanding = 0 := by
  have balanced : (r.calls.filter FenceCall.isStart).length =
      (r.calls.filter fun c => !c.isStart).length := by
    rw [paired]
    clear paired
    induction eventTypes with
    | nil => rfl
    | cons e rest ih =>
      rw [List.flatMap_cons, List.filter_append, List.filter_append, List.length_append,
        List.length_append, ih]
      rfl
  rw [outstanding, balanced, Nat.sub_self]

theorem World.paired_turns {w w' : World} (fresh : w.recorder.calls = [])
    (turns : Relation.ReflTransGen World.Turn w w') :
    ∃ eventTypes : List String, w'.recorder.calls = eventTypes.flatMap FenceCall.pair := by
  induction turns with
  | refl => exact ⟨[], fresh⟩
  | tail _ turn ih =>
    obtain ⟨eventTypes, paired⟩ := ih
    cases turn with
    | change same => exact ⟨eventTypes, same.trans paired⟩
    | call call delay =>
      rcases (call.brackets delay _).calls with same | appended
      · exact ⟨eventTypes, same.trans paired⟩
      · refine ⟨eventTypes ++ [call.eventType], ?_⟩
        rw [appended, paired, List.flatMap_append, List.flatMap_singleton]

/-- Every call that is made alone with a recorded sync is bracketed, and after any calls one after
the other the fence calls are starts each followed by its finish. -/
theorem calls_bracketed :
    (∀ (call : TimelineCall) (delay : Nat) (w : World), call.Brackets delay w) ∧
    ∀ w w' : World, w.recorder.calls = [] → Relation.ReflTransGen World.Turn w w' →
      (∃ eventTypes : List String, w'.recorder.calls = eventTypes.flatMap FenceCall.pair) ∧
        w'.recorder.outstanding = 0 := by
  refine ⟨TimelineCall.brackets, fun w w' fresh turns => ?_⟩
  obtain ⟨eventTypes, paired⟩ := World.paired_turns fresh turns
  exact ⟨⟨eventTypes, paired⟩, FenceRecorder.outstanding_pairs paired⟩

/-- A world after a first timeline, a switch, and a switch whose write fails. -/
def World.switchedTwice : World :=
  let created := ((TimelineCall.createFirst "orders").recorded 0
    { World.ofStorage ⟨"default", .inMemory, true⟩ with eventTypes := ["orders"] }).2
  let switched := ((TimelineCall.switchTo "orders" "default").recorded 0 created).2
  ((TimelineCall.switchTo "orders" "default").recorded 0
    (switched.withStore { switched.store with failSwitch := true })).2

theorem calls_bracketed_orders : ∃ w w' : World, w.recorder.calls = [] ∧
    Relation.ReflTransGen World.Turn w w' ∧
      w'.recorder.calls = FenceCall.pair "orders" ++ FenceCall.pair "orders" ∧
        w'.recorder.outstanding = 0 := by
  have turns : Relation.ReflTransGen World.Turn
      { World.ofStorage ⟨"default", .inMemory, true⟩ with eventTypes := ["orders"] }
      World.switchedTwice :=
    (((Relation.ReflTransGen.single (.call _ _)).tail (.call _ _)).tail (.change rfl)).tail
      (.call _ _)
  exact ⟨_, _, rfl, turns, by decide +kernel, (calls_bracketed.2 _ _ rfl turns).2⟩

end Cutover
