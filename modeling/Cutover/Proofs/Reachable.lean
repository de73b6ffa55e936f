import Cutover.Proofs.Histories
import Cutover.Proofs.Timelines.Unwritten

set_option autoImplicit false

namespace Cutover

namespace Pool

variable {σ α : Type} {holds : σ → Prop} {admitted : Process σ α → Prop}
  {disturbance : σ → σ → Prop} {s : σ} {pool : Pool σ α}

/-- Tasks that hold nothing, each step of which keeps a property of the state. -/
def keeping (holds : σ → Prop) : Protocol σ Unit where
  moves _ s _ _ s' := holds s → holds s'
  splits _ _ _ := True
  settled _ := True

/-- What holds at first and is kept by every step of a call and by every change from outside, holds
of whatever the calls come to. -/
theorem invariant (start : holds s)
    (calls : ∀ p, admitted p → p.Only fun s s' => holds s → holds s')
    (undisturbed : ∀ s s', disturbance s s' → holds s → holds s')
    (reached : Reaches admitted disturbance (.empty s) pool) : holds pool.state := by
  have keeps : (keeping holds).Keeps fun s _ _ => holds s := ⟨fun moves => moves, fun _ held => held⟩
  have kept : pool.Keeps (keeping holds) (fun s _ _ => holds s) fun _ _ => True := by
    refine Keeps.reaches keeps (fun p allowed => ⟨(), ?_, fun _ _ _ held => held⟩)
      (fun s s' _ _ => undisturbed s s') (keeps_empty start) reached
    have settled : (keeping holds).settled () := trivial
    exact ((calls p allowed).follows id (fun _ => trivial) settled).mono (fun _ _ => trivial)
      fun _ _ _ => trivial
  obtain ⟨_, _, _, _, held⟩ := kept
  exact held

end Pool

/-- A kind of step to which belongs all that a call of the service does in one step. -/
structure World.ServiceKind (kind : World → World → Prop) : Prop extends World.Quiet kind where
  fencing : ∀ {w w'}, World.Fencing w w' → kind w w'
  storages : ∀ {w : World} {s}, s.timelines = w.store.timelines → kind w (w.withStore s)
  create : ∀ {w : World} {t s}, w.store.createTimeline t = .ok s → kind w (w.withStore s)
  switch : ∀ {w : World} {superseded next s}, w.store.commitSwitch superseded next = .ok s →
    kind w (w.withStore s)
  delete : ∀ {w : World} {id s}, w.store.deleteTimeline id = .ok s → kind w (w.withStore s)

open Operation

variable {kind : World → World → Prop} {sync : TimelineSync World}

namespace Registry

theorem only_ensureUnused (quiet : World.Quiet kind) (id : String) :
    (ensureUnused id).Only kind := by
  apply only_bind (only_look quiet _)
  intro used
  split
  · exact only_throw _
  · exact only_pure _

theorem only_createOrUpdate (service : World.ServiceKind kind) (storage : Storage) :
    (createOrUpdate storage).Only kind := by
  have quiet := service.toQuiet
  apply only_bind (only_look quiet _)
  intro found
  cases found with
  | none =>
    refine Only.map (only_writeStore quiet.refl fun w s created => service.storages ?_)
    rw [Store.createStorage_ok created]
  | some existing =>
    apply only_check
    apply only_bind (only_ensureUnused quiet _)
    intro _
    refine Only.map (only_writeStore quiet.refl fun w s updated => service.storages ?_)
    rw [Store.updateStorage_ok updated]

theorem only_delete (service : World.ServiceKind kind) (id : String) : (delete id).Only kind := by
  have quiet := service.toQuiet
  apply only_bind (only_look quiet _)
  intro found
  cases found with
  | none => exact only_pure _
  | some existing =>
    apply only_bind (only_ensureUnused quiet _)
    intro _
    refine only_writeStore quiet.refl fun w s deleted => service.storages ?_
    rw [Store.deleteStorage_ok deleted]

theorem only_ensureDefault (service : World.ServiceKind kind) (config : Config) :
    (ensureDefault config).Only kind := by
  apply only_bind (only_look service.toQuiet _)
  intro found
  cases found with
  | some storage => exact only_pure _
  | none =>
    dsimp only
    split
    · exact only_throw _
    · split
      · exact only_throw _
      · exact only_createOrUpdate service _

end Registry

theorem RegistryCall.only (service : World.ServiceKind kind) (call : RegistryCall) :
    call.operation.Only kind := by
  cases call with
  | list => exact (only_look service.toQuiet _).map
  | get id => exact (only_look service.toQuiet _).map
  | default => exact (Registry.only_defaultStorage service.toQuiet).map
  | createOrUpdate storage => exact (Registry.only_createOrUpdate service storage).map
  | ensureDefault config => exact (Registry.only_ensureDefault service config).map
  | delete id => exact Registry.only_delete service id

namespace Timelines

theorem only_createFirst (service : World.ServiceKind kind) (e : String) :
    (createFirst e).Only kind := by
  rw [createFirst_eq]
  apply only_bind (only_firstDraft service.toQuiet e)
  intro first
  exact (only_writeStore service.refl fun w s created => service.create created).map

theorem only_commit (service : World.ServiceKind kind) (e : String) (active : Option Timeline)
    (worker : Nat) (next : Timeline) : (commit e active worker next).Only kind := by
  have quiet := service.toQuiet
  refine only_bind (only_ensureActive quiet e _) fun _ => ?_
  refine only_bind (only_look quiet _) fun switchedAt => ?_
  refine only_bind (only_sealActive quiet worker active) fun superseded => ?_
  exact (only_writeStore quiet.refl fun w s committed => service.switch committed).map

theorem only_switchTo (service : World.ServiceKind kind) (own : sync.Only kind)
    (e storageId : String) : (switchTo sync e storageId).Only kind := by
  rw [switchTo_eq]
  apply only_bind (only_plan service.toQuiet e storageId)
  exact fun s => only_fenced own (only_commit service e s.active s.worker s.next)

theorem only_delete (service : World.ServiceKind kind) (own : sync.Only kind) (e : String)
    (id : Uuid) : (delete sync e id).Only kind := by
  have quiet := service.toQuiet
  apply only_bind (only_look quiet _)
  intro found
  cases found with
  | none => exact only_throw_bind _ _
  | some t =>
    apply only_bind (only_pure t)
    intro t
    apply only_check
    apply only_check
    apply only_bind (only_look quiet _)
    intro active
    apply only_check
    apply only_fenced own
    apply only_bind (only_look quiet _)
    intro current
    apply only_check
    exact only_writeStore quiet.refl fun w s deleted => service.delete deleted

theorem only_synthetic (quiet : World.Quiet kind) (e : String) : (synthetic e).Only kind :=
  only_bind (only_defaultWorker quiet) fun worker => (consults_syntheticTimeline worker e).only quiet

theorem only_get (quiet : World.Quiet kind) (e : String) : (get e).Only kind := by
  apply only_bind (only_look quiet _)
  intro active
  cases active with
  | none => exact only_synthetic quiet e
  | some t => exact only_pure t

theorem only_resolve (quiet : World.Quiet kind) (e : String) (cursor : Cursor) :
    (resolve e cursor).Only kind := by
  cases cursor with
  | legacy partition offset => exact only_synthetic quiet e
  | onTimeline partition id offset =>
    apply only_bind (only_look quiet _)
    intro found
    cases found with
    | none => exact only_throw _
    | some t => exact only_pure t

end Timelines

namespace ServiceCall

theorem only (service : World.ServiceKind kind) (own : sync.Only World.Fencing)
    (call : ServiceCall) : (call.under sync).Only kind := by
  have quiet := service.toQuiet
  have fences : sync.Only kind := fun e limit =>
    ⟨(own e limit).1.mono fun _ _ => service.fencing,
      (own e limit).2.mono fun _ _ => service.fencing⟩
  cases call with
  | timelines call =>
    apply Only.map
    cases call with
    | createFirst e => exact (Timelines.only_createFirst service e).map
    | switchTo e storageId => exact (Timelines.only_switchTo service fences e storageId).map
    | delete e id => exact (Timelines.only_delete service fences e id).map
  | list e => exact (only_look quiet _).map
  | get e => exact (Timelines.only_get quiet e).map
  | resolve e cursor => exact (Timelines.only_resolve quiet e cursor).map
  | registry call => exact call.only service

def IsCall (sync : TimelineSync World) (p : Process World (Except TimelineError Unit)) : Prop :=
  ∃ call : ServiceCall, p = (call.under sync).run

end ServiceCall

namespace World

/-- A world that calls of the service can come to that start without timelines. They are made at any
time, interleave in any way and are dropped anywhere, and others may do anything to the world but
write timelines. -/
def Reachable (sync : TimelineSync World) (w : World) : Prop :=
  ∃ (start : World) (pool : Pool World (Except TimelineError Unit)),
    start.store.timelines = .empty ∧
      Pool.Reaches (ServiceCall.IsCall sync) Spares (.empty start) pool ∧ pool.state = w

variable {w : World}

theorem serviceKind_keyed : ServiceKind fun w w' => w.store.Keyed → w'.store.Keyed where
  refl _ keyed := keyed
  consulted consulted keyed := by
    rw [consulted.aged.store]
    exact keyed
  drawn _ keyed := keyed
  fencing fencing keyed := by
    rw [fencing.aged.store]
    exact keyed
  storages same keyed := by
    rw [Store.Keyed]
    exact same ▸ keyed
  create created keyed := by
    obtain ⟨_, _, rfl⟩ := Store.createTimeline_ok created
    exact keyed.put _
  switch committed keyed := keyed.commitSwitch committed
  delete deleted keyed := by
    obtain rfl := Store.deleteTimeline_ok deleted
    exact keyed.erase _

theorem Reachable.keyed (own : sync.Only Fencing) (reachable : w.Reachable sync) :
    w.store.Keyed := by
  obtain ⟨start, pool, empty, reached, rfl⟩ := reachable
  let keyed (w : World) : Prop := w.store.Keyed
  have at_first : keyed start := (Store.sequenced_of_no_timelines empty).keyed
  have undisturbed : ∀ w w', Spares w w' → keyed w → keyed w' := by
    intro w w' spares held
    show w'.store.Keyed
    rw [Store.Keyed, spares]
    exact held
  have calls : ∀ p, ServiceCall.IsCall sync p → p.Only fun w w' => keyed w → keyed w' := by
    rintro _ ⟨call, rfl⟩
    exact call.only serviceKind_keyed own
  exact Pool.invariant at_first calls undisturbed reached

theorem reachable_begun {start : World} {calls : List ServiceCall} {turns : List Pool.Turn}
    (empty : start.store.timelines = .empty) :
    (Pool.begun start (calls.map fun call => (call.under sync).run) turns).state.Reachable sync := by
  refine ⟨start, _, empty, Pool.reaches_begun (fun p called => ?_) turns, rfl⟩
  obtain ⟨call, _, rfl⟩ := List.mem_map.1 called
  exact ⟨call, rfl⟩

end World

end Cutover
