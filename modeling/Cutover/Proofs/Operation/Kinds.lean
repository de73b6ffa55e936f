import Cutover.Proofs.Operation.Consults
import Cutover.Proofs.Reliance
import Cutover.Proofs.Timelines.Stages

set_option autoImplicit false

namespace Cutover

/-- A kind of step to which belongs what changes no record: to leave the world as it is, to lay out
topics, and to draw an id. -/
structure World.Quiet (kind : World → World → Prop) : Prop where
  refl : ∀ w, kind w w
  consulted : ∀ {w w'}, World.Consulted w w' → kind w w'
  drawn : ∀ w : World, kind w { w with ids := w.ids.draw.2 }

namespace Operation

variable {α β : Type} {op : Operation α} {kind : World → World → Prop}

/-- All steps of an operation are of one kind. -/
def Only (op : Operation α) (kind : World → World → Prop) : Prop := op.run.Only kind

theorem only_pure (a : α) : (pure a : Operation α).Only kind := trivial

theorem only_throw (e : TimelineError) : (throw e : Operation α).Only kind := trivial

theorem only_throw_bind (e : TimelineError) (f : α → Operation β) :
    ((throw e : Operation α) >>= f).Only kind := trivial

theorem only_bind {f : α → Operation β} (first : op.Only kind) (second : ∀ a, (f a).Only kind) :
    (op >>= f).Only kind := by
  rw [Only, ExceptT.run_bind]
  apply Process.Only.bind first
  rintro (e | a)
  · trivial
  · exact second a

theorem Only.map {f : α → β} (only : op.Only kind) : (op >>= fun a => pure (f a)).Only kind :=
  only_bind only fun _ => only_pure _

theorem only_check {refused : Prop} [Decidable refused] {e : TimelineError}
    {rest : Unit → Operation β} (passed : (rest ()).Only kind) :
    (if refused then throw e >>= rest else rest ()).Only kind := by
  split
  · exact only_throw_bind e rest
  · exact passed

theorem only_call {action : World → Except TimelineError (α × World)} (refl : ∀ w, kind w w)
    (acts : ∀ w a w', action w = .ok (a, w') → kind w w') : (call action).Only kind := by
  refine ⟨fun w => ?_, fun _ => trivial⟩
  dsimp only
  cases result : action w with
  | error e => exact refl w
  | ok both => exact acts w both.1 both.2 result

theorem only_look (quiet : World.Quiet kind) (view : World → α) : (look view).Only kind :=
  ⟨quiet.refl, fun _ => trivial⟩

theorem Consults.only {learns : World → α → World → Prop} {fails : World → TimelineError → Prop}
    (consults : op.Consults learns fails) (quiet : World.Quiet kind) : op.Only kind := by
  obtain ⟨action, rfl, told, _⟩ := consults
  exact only_call quiet.refl fun w a w' result => quiet.consulted (told w a w' result).1

theorem only_newTimeline (quiet : World.Quiet kind) (e topic : String) (order : Nat)
    (storage : Storage) : (newTimeline e order storage topic).Only kind :=
  ⟨quiet.drawn, fun _ => trivial⟩

theorem only_writeStore {write : Store → Except StoreError Store} (refl : ∀ w, kind w w)
    (written : ∀ w s, write w.store = .ok s → kind w (w.withStore s)) :
    (writeStore write).Only kind := by
  refine only_call refl fun w a w' result => ?_
  split at result
  · next s made =>
    obtain ⟨_, rfl⟩ := Prod.mk.inj (Except.ok.inj result)
    exact written w s made
  · exact nomatch result

theorem only_fenced {sync : TimelineSync World} {e : String} {limit : Duration}
    (own : sync.Only kind) (only : op.Only kind) : (fenced sync e limit op).Only kind := by
  show (sync.fenced e limit _ op.run).Only kind
  rw [TimelineSync.fenced_eq]
  apply (own e limit).1.bind
  have released : (sync.release e).Only kind := (own e limit).2.bind fun _ => trivial
  rintro (fault | _)
  · trivial
  · exact ⟨released, only.bind fun _ => trivial, fun _ => ⟨released, fun _ => trivial⟩⟩

end Operation

namespace Registry

open Operation

theorem only_defaultStorage {kind : World → World → Prop} (quiet : World.Quiet kind) :
    defaultStorage.Only kind := by
  apply only_bind (only_look quiet _)
  intro found
  cases found with
  | none => exact only_throw _
  | some storage => exact only_pure storage

end Registry

namespace Timelines

open Operation

variable {kind : World → World → Prop}

theorem only_defaultWorker (quiet : World.Quiet kind) : defaultWorker.Only kind :=
  only_bind (Registry.only_defaultStorage quiet) fun storage =>
    (consults_workerFor storage).only quiet

theorem only_firstDraft (quiet : World.Quiet kind) (e : String) : (firstDraft e).Only kind := by
  refine only_bind (only_defaultWorker quiet) fun worker => ?_
  refine only_bind ((consults_layOut worker e none false).only quiet) fun topic => ?_
  refine only_bind ((consults_storageOf worker).only quiet) fun storage => ?_
  exact (only_newTimeline quiet e topic 0 storage).map

theorem only_prepare (quiet : World.Quiet kind) (e : String) (storage : Storage)
    (active : Option Timeline) (oldStorage : Storage) (oldWorker newWorker : Nat) :
    (prepare e storage active oldStorage oldWorker newWorker).Only kind := by
  have laidOut : ∀ (topic : String) (first : Bool) (order : Nat), (do
      let partitions ← partitionNames oldWorker topic
      let topic ← layOut newWorker e (some partitions.length) first
      newTimeline e order storage topic).Only kind := fun topic first order =>
    only_bind ((consults_partitionNames oldWorker topic).only quiet) fun partitions =>
      only_bind ((consults_layOut newWorker e _ first).only quiet) fun topic =>
        only_newTimeline quiet e topic order storage
  cases active with
  | none =>
    rw [prepare]
    apply only_check
    apply only_bind ((consults_syntheticTimeline oldWorker e).only quiet)
    exact fun layout => laidOut layout.topic true 0
  | some current => exact laidOut current.topic false (current.order + 1)

theorem only_plan (quiet : World.Quiet kind) (e storageId : String) :
    (plan e storageId).Only kind := by
  have placed : ∀ (storage oldStorage : Storage) (active : Option Timeline), (do
      let oldWorker ← workerFor oldStorage
      let newWorker ← workerFor storage
      let next ← prepare e storage active oldStorage oldWorker newWorker
      return (⟨active, oldWorker, next⟩ : Switch)).Only kind := fun storage oldStorage active =>
    only_bind ((consults_workerFor oldStorage).only quiet) fun oldWorker =>
      only_bind ((consults_workerFor storage).only quiet) fun newWorker =>
        (only_prepare quiet e storage active oldStorage oldWorker newWorker).map
  apply only_bind (only_look quiet _)
  intro found
  cases found with
  | none => exact only_throw_bind _ _
  | some storage =>
    apply only_bind (only_pure storage)
    intro storage
    apply only_bind ((consults_findEventType e).only quiet)
    intro _
    apply only_bind (only_look quiet _)
    intro active
    cases active with
    | none =>
      apply only_bind (Registry.only_defaultStorage quiet)
      exact fun oldStorage => placed storage oldStorage none
    | some previous =>
      apply only_bind (only_pure previous.storage)
      exact fun oldStorage => placed storage oldStorage (some previous)

theorem only_ensureActive (quiet : World.Quiet kind) (e : String) (expected : Option Uuid) :
    (ensureActive e expected).Only kind := by
  apply only_bind (only_look quiet _)
  intro current
  split
  · exact only_throw _
  · exact only_pure _

theorem only_sealActive (quiet : World.Quiet kind) (worker : Nat) (active : Option Timeline) :
    (sealActive worker active).Only kind := by
  cases active with
  | none => exact only_pure _
  | some previous => exact ((consults_latestPosition worker previous).only quiet).map

end Timelines

end Cutover
