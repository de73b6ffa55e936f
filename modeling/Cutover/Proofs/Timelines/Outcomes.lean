import Cutover.Proofs.Timelines.Brackets
import Cutover.Proofs.Timelines.Contest

set_option autoImplicit false

namespace Cutover

namespace World

/-- The same records: topics may have been laid out, ids drawn and producers paused. -/
structure Aged (w w' : World) : Prop where
  store : w'.store = w.store
  eventTypes : w'.eventTypes = w.eventTypes
  clock : w'.clock = w.clock
  fresh : w'.ids.fresh = w.ids.fresh
  drawn : w.ids.drawn ≤ w'.ids.drawn
  workers : w.workers.Extends w'.workers

variable {w w' w'' : World}

theorem Aged.refl (w : World) : w.Aged w := ⟨rfl, rfl, rfl, rfl, Nat.le_refl _, .refl _⟩

theorem Aged.trans (first : w.Aged w') (second : w'.Aged w'') : w.Aged w'' where
  store := second.store.trans first.store
  eventTypes := second.eventTypes.trans first.eventTypes
  clock := second.clock.trans first.clock
  fresh := second.fresh.trans first.fresh
  drawn := first.drawn.trans second.drawn
  workers := first.workers.trans second.workers

theorem Consulted.aged (consulted : w.Consulted w') : w.Aged w' := by
  obtain ⟨workers, consulted, rfl⟩ := consulted
  exact ⟨rfl, rfl, rfl, rfl, Nat.le_refl _, consulted.extension⟩

theorem Fencing.aged (fencing : w.Fencing w') : w.Aged w' := by
  obtain ⟨fences, recorder, -, rfl⟩ := fencing
  exact ⟨rfl, rfl, rfl, rfl, Nat.le_refl _, .refl _⟩

def drawn (w : World) : World := { w with ids := w.ids.draw.2 }

theorem aged_drawn (w : World) : w.Aged w.drawn :=
  ⟨rfl, rfl, rfl, rfl, Nat.le_succ _, .refl _⟩

theorem Consulted.drawn (consulted : w.Consulted w') : w.drawn.Consulted w'.drawn := by
  obtain ⟨workers, consulted, rfl⟩ := consulted
  exact ⟨workers, consulted, rfl⟩

theorem Aged.withStore (aged : w.Aged w') (s : Store) : (w.withStore s).Aged (w'.withStore s) :=
  ⟨rfl, aged.eventTypes, aged.clock, aged.fresh, aged.drawn, aged.workers⟩

theorem Fencing.refl (w : World) : w.Fencing w := ⟨w.fences, w.recorder, rfl, rfl⟩

theorem Fencing.trans (first : w.Fencing w') (second : w'.Fencing w'') : w.Fencing w'' := by
  obtain ⟨fences, recorder, same, rfl⟩ := first
  obtain ⟨fences', recorder', same', rfl⟩ := second
  exact ⟨fences', recorder', same'.trans same, rfl⟩

theorem Consulted.trans (first : w.Consulted w') (second : w'.Consulted w'') : w.Consulted w'' := by
  obtain ⟨workers, consulted, rfl⟩ := first
  obtain ⟨workers', consulted', rfl⟩ := second
  refine ⟨workers', ⟨consulted.extension.trans consulted'.extension, ?_⟩, rfl⟩
  intro number worker found
  obtain ⟨worker', found', same⟩ := consulted'.failing number worker found
  obtain ⟨worker'', found'', same'⟩ := consulted.failing number worker' found'
  exact ⟨worker'', found'', same.trans same'⟩

theorem Consulted.worker (consulted : w.Consulted w') {number : Nat} {worker' : Worker}
    (found : w'.workers.get? number = some worker') :
    ∃ worker, w.workers.get? number = some worker ∧ worker'.storage = worker.storage := by
  obtain ⟨workers, consulted, rfl⟩ := consulted
  obtain ⟨worker, before, -⟩ := consulted.failing number worker' found
  obtain ⟨worker'', after, extends'⟩ := consulted.extension.each number worker before
  obtain rfl := Option.some.inj (after.symm.trans found)
  exact ⟨worker, before, extends'.storage⟩

theorem Consulted.ids (consulted : w.Consulted w') : w'.ids = w.ids := by
  obtain ⟨workers, -, rfl⟩ := consulted
  rfl

/-- The timeline that a call makes for an event type. -/
def opened (w : World) (e : String) (order : Nat) (storage : Storage) (topic : String) : Timeline :=
  { Timeline.fresh w.ids.draw.1 e order storage topic w.clock with switchedAt := some w.clock }

end World

theorem Process.Only.runAlone {σ α : Type} {kind : σ → σ → Prop} {p : Process σ α}
    (only : p.Only kind) (refl : ∀ s, kind s s)
    (trans : ∀ {s s' s''}, kind s s' → kind s' s'' → kind s s'') (s : σ) :
    kind s (p.runAlone s).2 := by
  induction p generalizing s with
  | done a => exact refl s
  | act action next ih => exact trans (only.1 s) (ih _ (only.2 _) _)
  | waiting ready limit withdraw wake next ih => exact trans (only.2.1 s) (ih _ (only.2.2 _) _)
  | pause ms next ih => exact ih only s
  | join task next ih => exact ih only s
  | spawn task next ihTask ih => exact trans (ihTask only.1 s) (ih _ (only.2 _) _)
  | owning destroyed body next _ ihBody ih => exact trans (ihBody only.2.1 s) (ih _ (only.2.2 _) _)

namespace Operation

variable {α β : Type} {op : Operation α} {w : World} {done : β → World → Prop}
  {failed : TimelineError → World → Prop}

theorem Ensures.of_ok {done : α → World → Prop} {a : α} {w' : World}
    (ensures : op.Ensures done failed w) (result : op.alone w = (.ok a, w')) : done a w' := by
  rw [Ensures, result] at ensures
  exact ensures

theorem Ensures.of_error {done : α → World → Prop} {e : TimelineError} {w' : World}
    (ensures : op.Ensures done failed w) (result : op.alone w = (.error e, w')) :
    failed e w' := by
  rw [Ensures, result] at ensures
  exact ensures

theorem Ensures.succeeds {done : α → World → Prop} (ensures : op.Ensures done failed w)
    (never : ∀ e w', ¬failed e w') : ∃ a w', op.alone w = (.ok a, w') := by
  cases result : op.alone w with
  | mk answer w' =>
    cases answer with
    | ok a => exact ⟨a, w', rfl⟩
    | error e => exact absurd (ensures.of_error result) (never e w')

/-- Run alone, an operation at most lays out topics. -/
def Asks (op : Operation α) (learns : α → World → Prop) (w : World) : Prop :=
  op.Ensures (fun a w' => w.Consulted w' ∧ learns a w') (fun _ w' => w.Consulted w') w

theorem Consults.asks {learns : World → α → World → Prop} {fails : World → TimelineError → Prop}
    (consults : op.Consults learns fails) : op.Asks (learns w) w :=
  consults.ensures (fun _ _ consulted learnt => ⟨consulted, learnt⟩) fun _ _ => .refl w

theorem asks_look {view : World → α} : (look view).Asks (fun a w' => a = view w ∧ w' = w) w :=
  ensures_look ⟨.refl w, rfl, rfl⟩

theorem Asks.bind {learns : α → World → Prop} {f : α → Operation β} (asks : op.Asks learns w)
    (next : ∀ a w', w.Consulted w' → learns a w' → (f a).Ensures done failed w')
    (fails : ∀ e w', w.Aged w' → failed e w') : (op >>= f).Ensures done failed w := by
  apply ensures_bind
  apply Ensures.mono asks
  · rintro a w' ⟨consulted, learnt⟩
    exact next a w' consulted learnt
  · intro e w' consulted
    exact fails e w' consulted.aged

theorem ensures_newTimeline {e topic : String} {order : Nat} {storage : Storage}
    {done : Timeline → World → Prop}
    (held : done (.fresh w.ids.draw.1 e order storage topic w.clock) w.drawn) :
    (newTimeline e order storage topic).Ensures done failed w := by
  apply ensures_call
  · intro t w' result
    obtain ⟨rfl, rfl⟩ := Prod.mk.inj (Except.ok.inj result)
    exact held
  · exact fun _ result => nomatch result

theorem ensures_call_ok {action : World → Except TimelineError (α × World)} {a : α} {w' : World}
    {done : α → World → Prop} (result : action w = .ok (a, w')) (held : done a w') :
    (call action).Ensures done failed w := by
  apply ensures_call
  · intro b w'' result'
    obtain ⟨rfl, rfl⟩ := Prod.mk.inj (Except.ok.inj (result.symm.trans result'))
    exact held
  · exact fun _ result' => nomatch result.symm.trans result'

theorem ensures_workerFor {storage : Storage} {number : Nat} {done : Nat → World → Prop}
    (served : w.workers.serving.get? storage.id = some number) (held : done number w) :
    (workerFor storage).Ensures done failed w := by
  refine ensures_call_ok ?_ held
  rw [Workers.number, served]

theorem ensures_onWorker {number : Nat} {worker worker' : Worker} {a : α}
    {action : Worker → Except WorkerError (α × Worker)} {done : α → World → Prop}
    (registered : w.workers.get? number = some worker) (acted : action worker = .ok (a, worker'))
    (held : done a (w.withWorkers (w.workers.modify number fun _ => worker'))) :
    (onWorker number action).Ensures done failed w := by
  refine ensures_call_ok ?_ held
  rw [registered]
  simp only [acted]

/-- A fenced operation that runs alone: its start is refused, or it is run between the start and the
finish. -/
theorem ensures_fenced {sync : TimelineSync World} {e : String} {limit : Duration}
    {body : Operation β}
    (refused : ∀ fault w', (sync.start e limit).runAlone w = (.error fault, w') →
      failed (.fence fault) w')
    (entered : ∀ w', (sync.start e limit).runAlone w = (.ok (), w') →
      body.Ensures (fun b w'' => done b ((sync.finish e).runAlone w'').2)
        (fun error w'' => failed error ((sync.finish e).runAlone w'').2) w') :
    (fenced sync e limit body).Ensures done failed w := by
  rw [Ensures, alone_fenced]
  rcases started : (sync.start e limit).runAlone w with ⟨fault | ⟨⟩, w'⟩
  · exact refused fault w' started
  · have ran := entered w' started
    rw [Ensures] at ran
    dsimp only
    rcases ended : body.alone w' with ⟨error | b, w''⟩
    · rw [ended] at ran
      exact ran
    · rw [ended] at ran
      exact ran

/-- A sync whose own steps are of the fences only leaves the world otherwise to the body. -/
theorem ensures_own {sync : TimelineSync World} {e : String} {limit : Duration}
    {body : Operation β} (own : sync.Only World.Fencing)
    (refused : ∀ fault w', (sync.start e limit).runAlone w = (.error fault, w') → w.Fencing w' →
      failed (.fence fault) w')
    (entered : ∀ w', w.Fencing w' →
      body.Ensures (fun b w'' => ∀ w₃, w''.Fencing w₃ → done b w₃)
        (fun error w'' => ∀ w₃, w''.Fencing w₃ → failed error w₃) w') :
    (fenced sync e limit body).Ensures done failed w := by
  have started := (own e limit).1.runAlone World.Fencing.refl .trans w
  have finished := fun w' => (own e limit).2.runAlone World.Fencing.refl .trans w'
  apply ensures_fenced
  · intro fault w' result
    rw [result] at started
    exact refused fault w' result started
  · intro w' result
    rw [result] at started
    apply (entered w' started).mono
    · exact fun b w'' held => held _ (finished w'')
    · exact fun error w'' held => held _ (finished w'')

end Operation

namespace World

/-- A first timeline of an event type, on the storage that the default storage's worker serves, and
the store with it. -/
structure Creates (w : World) (e : String) (t : Timeline) (s : Store) : Prop where
  made : ∃ d number worker topic, w.store.defaultStorage? = some d ∧
    w.workers.serving.get? d.id = some number ∧ w.workers.get? number = some worker ∧
      t = w.opened e 0 worker.storage topic
  created : w.store.createTimeline t = .ok s

/-- The next timeline of an event type, on the storage that was asked for, which has to be the
default one if there is no timeline yet, and the store with it and with the end of the timeline that
was active. -/
structure Switches (w : World) (e storageId : String) (t : Timeline) (s : Store) : Prop where
  made : ∃ storage topic, w.store.storage? storageId = some storage ∧
    (w.store.active? e = none → ∃ d, w.store.defaultStorage? = some d ∧ storage.id = d.id) ∧
      t = w.opened e (Timeline.orderAfter (w.store.active? e)) storage topic
  committed : ∃ position, w.store.commitSwitch
    ((w.store.active? e).map fun a => { a with lastPosition := some position }) t = .ok s

end World

namespace Store

/-- A timeline that can be deleted: the first one of the event type, if it is the active one. -/
structure Deletable (s : Store) (e : String) (id : Uuid) (t : Timeline) : Prop where
  stored : s.timeline? id = some t
  named : t.eventType = e
  first : t.order = 0
  active : (s.active? e).map (·.id) = some t.id

theorem deleteTimeline_error {s : Store} {id : Uuid} {error : StoreError}
    (refused : s.deleteTimeline id = .error error) :
    s.failDelete = true ∨ s.timeline? id = none := by
  rw [deleteTimeline] at refused
  split at refused
  · next failing => exact .inl failing
  split at refused
  · cases refused
  · next missing =>
    rw [Table.contains, Option.not_isSome_iff_eq_none] at missing
    exact .inr missing

end Store

namespace Timelines

open Operation

variable {w : World} {e storageId : String} {id : Uuid} {sync : TimelineSync World}

theorem asks_defaultStorage (w : World) : Registry.defaultStorage.Asks
    (fun d w' => w' = w ∧ w.store.defaultStorage? = some d) w := by
  apply ensures_bind
  apply ensures_look
  cases w.store.defaultStorage? with
  | none => exact ensures_throw (.refl w)
  | some d => exact ensures_pure ⟨.refl w, rfl, rfl⟩

theorem asks_defaultWorker (w : World) : defaultWorker.Asks (fun number w' => w' = w ∧
    ∃ d, w.store.defaultStorage? = some d ∧ w.workers.serving.get? d.id = some number) w := by
  apply ensures_bind
  apply (asks_defaultStorage w).mono
  · rintro d _ ⟨-, rfl, default⟩
    apply (consults_workerFor d).ensures
    · rintro number w' consulted ⟨served, rfl⟩
      exact ⟨consulted, rfl, d, default, served⟩
    · exact fun _ _ => .refl _
  · exact fun _ _ consulted => consulted

theorem ensures_firstDraft (e : String) (w : World) : (firstDraft e).Ensures
    (fun t w' => w.drawn.Aged w' ∧ ∃ d number worker topic, w.store.defaultStorage? = some d ∧
        w.workers.serving.get? d.id = some number ∧ w.workers.get? number = some worker ∧
          t = w.opened e 0 worker.storage topic)
    (fun _ w' => w.Aged w') w := by
  apply (asks_defaultWorker w).bind _ fun _ _ aged => aged
  rintro number _ - ⟨rfl, d, default, served⟩
  apply (consults_layOut number e none false).asks.bind _ fun _ _ aged => aged
  intro topic w₁ consulted _
  apply (consults_storageOf number).asks.bind _ fun _ _ aged => consulted.aged.trans aged
  rintro storage w₂ consulted' ⟨worker₁, found, rfl⟩
  obtain ⟨worker, registered, same⟩ := consulted.worker found
  have whole := consulted.trans consulted'
  have clock := whole.aged.clock
  have ids := whole.ids
  apply ensures_bind
  apply ensures_newTimeline
  apply ensures_pure
  refine ⟨whole.drawn.aged, d, number, worker, topic, default, served, registered, ?_⟩
  rw [same, ids, clock]
  rfl

/-- A first timeline is made if there is a worker for the default storage and the store takes it. -/
theorem ensures_createFirst (e : String) (w : World) : (createFirst e).Ensures
    (fun t w' => ∃ s, w.Creates e t s ∧ (w.drawn.withStore s).Aged w') (fun _ w' => w.Aged w')
    w := by
  rw [createFirst_eq]
  apply ensures_bind
  apply (ensures_firstDraft e w).mono
  · rintro t w' ⟨aged, made⟩
    apply ensures_bind
    apply ensures_writeStore
    · intro s created
      rw [aged.store] at created
      exact ensures_pure ⟨s, ⟨made, created⟩, aged.withStore s⟩
    · exact fun _ _ => w.aged_drawn.trans aged
  · exact fun _ _ aged => aged

theorem firstDraft_succeeds {d : Storage} {number : Nat} {worker : Worker}
    (default : w.store.defaultStorage? = some d)
    (served : w.workers.serving.get? d.id = some number)
    (registered : w.workers.get? number = some worker) : (firstDraft e).Ensures
      (fun t w' => (∃ topic, t = w.opened e 0 worker.storage topic) ∧ w'.store = w.store)
      (fun _ _ => False) w := by
  apply ensures_bind
  apply ensures_bind
  apply ensures_bind
  apply ensures_look
  rw [default]
  apply ensures_pure
  apply ensures_workerFor served
  apply ensures_bind
  apply ensures_onWorker registered rfl
  have changed : (w.workers.modify number fun _ => (worker.layOut e none false).2).get? number =
      some (worker.layOut e none false).2 := Table.get?_modify_of_get? _ registered
  apply ensures_bind
  apply ensures_onWorker changed rfl
  apply ensures_bind
  apply ensures_newTimeline
  apply ensures_pure
  exact ⟨⟨_, rfl⟩, rfl⟩

/-- A first timeline is made if besides its id is new and the event type has none. -/
theorem createFirst_succeeds {d : Storage} {number : Nat} {worker : Worker}
    (default : w.store.defaultStorage? = some d)
    (served : w.workers.serving.get? d.id = some number)
    (registered : w.workers.get? number = some worker)
    (free : w.store.timelines.get? w.ids.draw.1 = none)
    (none : ∀ t ∈ w.store.timelines.values, t.eventType ≠ e) :
    (createFirst e).Ensures (fun _ _ => True) (fun _ _ => False) w := by
  rw [createFirst_eq]
  apply ensures_bind
  apply (firstDraft_succeeds default served registered).mono
  · rintro _ w' ⟨⟨topic, rfl⟩, store⟩
    apply ensures_bind
    apply ensures_writeStore
    · exact fun _ _ => ensures_pure trivial
    · intro error refused
      rw [store] at refused
      rcases Store.createTimeline_error refused with ⟨t, taken⟩ | ⟨taken, -⟩
      · exact nomatch free.symm.trans taken
      · obtain ⟨t, inside, named, -⟩ := Store.orderTaken_spec taken
        exact none t inside named
  · exact fun _ _ failed => failed

theorem ensures_prepare {storage oldStorage : Storage} {active : Option Timeline}
    {oldWorker newWorker : Nat} {done : Timeline → World → Prop}
    {failed : TimelineError → World → Prop}
    (made : ∀ topic w', w.Consulted w' → (active = none → storage.id = oldStorage.id) →
      done (.fresh w'.ids.draw.1 e (Timeline.orderAfter active) storage topic w'.clock) w'.drawn)
    (fails : ∀ error w', w.Aged w' → failed error w') :
    (prepare e storage active oldStorage oldWorker newWorker).Ensures done failed w := by
  cases active with
  | none =>
    rw [prepare]
    apply ensures_check fun _ => fails _ _ (.refl w)
    intro same
    apply (consults_syntheticTimeline oldWorker e).asks.bind _ fails
    intro layout w₁ consulted₁ _
    apply (consults_partitionNames oldWorker layout.topic).asks.bind _
      fun _ _ aged => fails _ _ (consulted₁.aged.trans aged)
    intro partitions w₂ consulted₂ _
    have consulted := consulted₁.trans consulted₂
    apply (consults_layOut newWorker e _ true).asks.bind _
      fun _ _ aged => fails _ _ (consulted.aged.trans aged)
    intro topic w₃ consulted₃ _
    exact ensures_newTimeline (made topic w₃ (consulted.trans consulted₃)
      fun _ => not_not.1 same)
  | some current =>
    apply (consults_partitionNames oldWorker current.topic).asks.bind _ fails
    intro partitions w₁ consulted₁ _
    apply (consults_layOut newWorker e _ false).asks.bind _
      fun _ _ aged => fails _ _ (consulted₁.aged.trans aged)
    intro topic w₂ consulted₂ _
    exact ensures_newTimeline (made topic w₂ (consulted₁.trans consulted₂)
      fun none => (Option.some_ne_none current none).elim)

/-- What a switch has found and made before its fence. -/
structure Planned (w : World) (e storageId : String) (plan : Switch) (w' : World) : Prop where
  aged : w.drawn.Aged w'
  active : plan.active = w.store.active? e
  made : ∃ storage topic, w.store.storage? storageId = some storage ∧
    (w.store.active? e = none → ∃ d, w.store.defaultStorage? = some d ∧ storage.id = d.id) ∧
      plan.next =
        .fresh w.ids.draw.1 e (Timeline.orderAfter (w.store.active? e)) storage topic w.clock

theorem ensures_relocate {storage oldStorage : Storage} {oldWorker : Nat}
    (found : w.store.storage? storageId = some storage)
    (home : w.store.active? e = none → w.store.defaultStorage? = some oldStorage) :
    (do
      let newWorker ← workerFor storage
      let next ← prepare e storage (w.store.active? e) oldStorage oldWorker newWorker
      return (⟨w.store.active? e, oldWorker, next⟩ : Switch)).Ensures
      (Planned w e storageId) (fun _ w' => w.Aged w') w := by
  apply (consults_workerFor storage).asks.bind _ fun _ _ aged => aged
  rintro newWorker _ - ⟨-, rfl⟩
  apply ensures_bind
  apply ensures_prepare
  · intro topic w' consulted same
    have aged := consulted.aged
    apply ensures_pure
    refine ⟨consulted.drawn.aged, rfl, storage, topic, found, ?_, ?_⟩
    · exact fun none => ⟨oldStorage, home none, same none⟩
    · rw [consulted.ids, aged.clock]
  · exact fun _ _ aged => aged

theorem ensures_plan (e storageId : String) (w : World) :
    (plan e storageId).Ensures (Planned w e storageId) (fun _ w' => w.Aged w') w := by
  apply asks_look.bind _ fun _ _ aged => aged
  rintro found w - ⟨stored, rfl⟩
  cases found with
  | none => exact ensures_bind (ensures_throw (.refl w))
  | some storage =>
    apply ensures_bind
    apply ensures_pure
    apply (consults_findEventType e).asks.bind _ fun _ _ aged => aged
    rintro _ w - ⟨-, rfl⟩
    apply asks_look.bind _ fun _ _ aged => aged
    rintro active w - ⟨seen, rfl⟩
    cases active with
    | none =>
      apply (asks_defaultStorage w).bind _ fun _ _ aged => aged
      rintro oldStorage w - ⟨rfl, default⟩
      apply (consults_workerFor oldStorage).asks.bind _ fun _ _ aged => aged
      rintro oldWorker w - ⟨-, rfl⟩
      rw [seen]
      exact ensures_relocate stored.symm fun _ => default
    | some previous =>
      apply ensures_bind
      apply ensures_pure
      apply (consults_workerFor previous.storage).asks.bind _ fun _ _ aged => aged
      rintro oldWorker w - ⟨-, rfl⟩
      rw [seen]
      apply ensures_relocate stored.symm
      intro none
      rw [none] at seen
      exact nomatch seen

theorem ensures_writeSwitch {w₀ : World} {storage : Storage} {topic : String} {position : Position}
    {superseded : Option Timeline} (aged : w₀.drawn.Aged w)
    (found : w₀.store.storage? storageId = some storage)
    (home : w₀.store.active? e = none →
      ∃ d, w₀.store.defaultStorage? = some d ∧ storage.id = d.id)
    (ended : superseded =
      (w₀.store.active? e).map fun a => { a with lastPosition := some position }) :
    (do
      let next := w₀.opened e (Timeline.orderAfter (w₀.store.active? e)) storage topic
      writeStore (·.commitSwitch superseded next)
      return next).Ensures
      (fun t w' => ∃ s, w₀.Switches e storageId t s ∧ (w₀.drawn.withStore s).Aged w')
      (fun _ w' => w.Aged w') w := by
  apply ensures_bind
  apply ensures_writeStore
  · intro s committed
    rw [aged.store, ended] at committed
    apply ensures_pure
    exact ⟨s, ⟨⟨storage, topic, found, home, rfl⟩, position, committed⟩, aged.withStore s⟩
  · exact fun _ _ => .refl w

/-- Under its fence a switch writes its plan, if the store is still what it was. -/
theorem ensures_commit {plan : Switch} {w₀ : World} (planned : Planned w₀ e storageId plan w) :
    (commit e plan.active plan.worker plan.next).Ensures
      (fun t w' => ∃ s, w₀.Switches e storageId t s ∧ (w₀.drawn.withStore s).Aged w')
      (fun _ w' => w.Aged w') w := by
  obtain ⟨active, worker, next⟩ := plan
  obtain ⟨aged, seen, storage, topic, found, home, rfl⟩ := planned
  apply ensures_bind
  apply ensures_bind
  apply ensures_look
  split
  · exact ensures_throw (.refl w)
  apply ensures_pure
  apply asks_look.bind _ fun _ _ aged => aged
  rintro switchedAt w - ⟨rfl, rfl⟩
  dsimp only
  rw [aged.clock]
  cases active with
  | none =>
    apply ensures_bind
    apply ensures_pure
    have ended := congrArg (Option.map fun a => { a with lastPosition := some (.ofList []) }) seen
    exact ensures_writeSwitch aged found home ended
  | some previous =>
    apply ensures_bind
    apply (consults_latestPosition worker previous).asks.bind _ fun _ _ aged => aged
    rintro position w - ⟨rfl, -⟩
    apply ensures_pure
    have ended := congrArg (Option.map fun a => { a with lastPosition := some position }) seen
    exact ensures_writeSwitch aged found home ended

/-- A switch is made if the store is still as it was when its plan is committed. -/
theorem ensures_switchTo (own : sync.Only World.Fencing) (e storageId : String) (w : World) :
    (switchTo sync e storageId).Ensures
      (fun t w' => ∃ s, w.Switches e storageId t s ∧ (w.drawn.withStore s).Aged w')
      (fun _ w' => w.Aged w') w := by
  rw [switchTo_eq]
  apply ensures_bind
  apply (ensures_plan e storageId w).mono
  · intro plan w₁ planned
    have failed : ∀ w', w.drawn.Aged w' → w.Aged w' := fun _ aged => w.aged_drawn.trans aged
    apply ensures_own own
    · exact fun fault w₂ _ fencing => failed w₂ (planned.aged.trans fencing.aged)
    · intro w₂ fencing
      have fenced : Planned w e storageId plan w₂ :=
        { planned with aged := planned.aged.trans fencing.aged }
      apply (ensures_commit fenced).mono
      · rintro t w₃ ⟨s, switches, aged⟩ w₄ fencing'
        exact ⟨s, switches, aged.trans fencing'.aged⟩
      · exact fun _ w₃ aged w₄ fencing' =>
          failed w₄ ((fenced.aged.trans aged).trans fencing'.aged)
  · exact fun _ _ aged => aged

/-- Under its fence the timeline is deleted that was found before, unless the store fails. -/
theorem ensures_remove {t : Timeline} (deletable : w.store.Deletable e id t) (same : t.id = id) :
    (remove e t.id).Ensures
      (fun _ w' => ∃ s, w.store.deleteTimeline id = .ok s ∧ w' = w.withStore s)
      (fun _ w' => w' = w ∧ w.store.failDelete = true) w := by
  apply ensures_bind
  apply ensures_look
  rw [if_neg (not_not.2 deletable.active)]
  apply ensures_writeStore
  · intro s deleted
    rw [same] at deleted
    exact ⟨s, deleted, rfl⟩
  · intro error refused
    rw [same] at refused
    rcases Store.deleteTimeline_error refused with failing | missing
    · exact ⟨rfl, failing⟩
    · exact nomatch missing.symm.trans deletable.stored

theorem ensures_remove_fenced {t : Timeline} (own : sync.Only World.Fencing)
    (deletable : w.store.Deletable e id t) (same : t.id = id) :
    (fenced sync e updateLimit (remove e t.id)).Ensures
      (fun _ w' => ∃ s, w.store.deleteTimeline id = .ok s ∧ (w.withStore s).Aged w')
      (fun _ w' => w.Aged w' ∧ (((sync.start e updateLimit).runAlone w).1 = .ok () →
        w.store.failDelete = true)) w := by
  apply ensures_own own
  · intro fault w₁ refused fencing
    refine ⟨fencing.aged, fun started => ?_⟩
    rw [refused] at started
    cases started
  · intro w₁ fencing
    have store := fencing.aged.store
    rw [← store] at deletable
    apply (ensures_remove deletable same).mono
    · rintro _ _ ⟨s, deleted, rfl⟩ w₂ fencing'
      rw [store] at deleted
      exact ⟨s, deleted, (fencing.aged.withStore s).trans fencing'.aged⟩
    · rintro error _ ⟨rfl, failing⟩ w₂ fencing'
      rw [store] at failing
      exact ⟨fencing.aged.trans fencing'.aged, fun _ => failing⟩

/-- A timeline is deleted if it can be, unless its fence or the store fails. -/
theorem ensures_delete (own : sync.Only World.Fencing) (keyed : w.store.Keyed) (e : String)
    (id : Uuid) : (delete sync e id).Ensures
      (fun _ w' => ∃ t s, w.store.Deletable e id t ∧ w.store.deleteTimeline id = .ok s ∧
        (w.withStore s).Aged w')
      (fun _ w' => w.Aged w' ∧ (((sync.start e updateLimit).runAlone w).1 = .ok () →
        w.store.failDelete = false → ∀ t, ¬w.store.Deletable e id t)) w := by
  apply ensures_bind
  apply ensures_look
  cases stored : w.store.timeline? id with
  | none =>
    apply ensures_bind
    apply ensures_throw
    refine ⟨.refl w, fun _ _ t deletable => ?_⟩
    exact Option.some_ne_none t (deletable.stored.symm.trans stored)
  | some t =>
    -- Each check turns away just what cannot be deleted.
    have only : ∀ u, w.store.Deletable e id u → u = t := fun u deletable =>
      Option.some.inj (deletable.stored.symm.trans stored)
    apply ensures_bind
    apply ensures_pure
    apply ensures_check
    · intro other
      refine ⟨.refl w, fun _ _ u deletable => other ?_⟩
      rw [← only u deletable, deletable.named]
    intro named
    apply ensures_check
    · intro later
      refine ⟨.refl w, fun _ _ u deletable => ?_⟩
      rw [← only u deletable] at later
      simp [Timeline.isFirst, deletable.first] at later
    intro first
    apply ensures_bind
    apply ensures_look
    apply ensures_check
    · intro other
      refine ⟨.refl w, fun _ _ u deletable => other ?_⟩
      rw [← only u deletable, deletable.active]
    intro active
    have isFirst : t.order = 0 := by simpa [Timeline.isFirst] using first
    have deletable : w.store.Deletable e id t :=
      ⟨stored, not_not.1 named, isFirst, not_not.1 active⟩
    apply (ensures_remove_fenced own deletable (keyed id t stored)).mono
    · rintro _ w' ⟨s, deleted, aged⟩
      exact ⟨t, s, deletable, deleted, aged⟩
    · rintro error w' ⟨aged, failing⟩
      refine ⟨aged, fun started works => ?_⟩
      exact absurd (failing started) (Bool.eq_false_iff.1 works)

theorem ensures_synthetic (e : String) (w : World) :
    (synthetic e).Ensures (fun _ w' => w.Aged w') (fun _ w' => w.Aged w') w := by
  apply (asks_defaultWorker w).bind _ fun _ _ aged => aged
  rintro number w - ⟨rfl, -⟩
  apply (consults_syntheticTimeline number e).ensures
  · exact fun _ _ consulted _ => consulted.aged
  · exact fun _ _ => .refl w

theorem ensures_get (e : String) (w : World) :
    (get e).Ensures (fun _ w' => w.Aged w') (fun _ w' => w.Aged w') w := by
  apply ensures_bind
  apply ensures_look
  cases w.store.active? e with
  | none => exact ensures_synthetic e w
  | some t => exact ensures_pure (.refl w)

theorem ensures_resolve (e : String) (cursor : Cursor) (w : World) :
    (resolve e cursor).Ensures (fun _ w' => w.Aged w') (fun _ w' => w.Aged w') w := by
  cases cursor with
  | legacy partition offset => exact ensures_synthetic e w
  | onTimeline partition id offset =>
    apply ensures_bind
    apply ensures_look
    cases w.store.timeline? id with
    | none => exact ensures_throw (.refl w)
    | some t => exact ensures_pure (.refl w)

end Timelines

end Cutover
