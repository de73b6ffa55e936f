import Cutover.Proofs.Timelines.Drafts
import Cutover.Proofs.Timelines.Follow

set_option autoImplicit false

namespace Cutover

namespace Stake

variable {w w' : World} {k k' owed kept : Stake} {others : Multiset Stake} {sight : Sight}

theorem users_split (split : Stake.protocol.splits k owed kept) :
    users (owed ::ₘ kept ::ₘ others) = users (k ::ₘ others) := by
  obtain ⟨rfl, rfl⟩ := split
  rw [users_cons_plan k.user .idle k.plan, Multiset.cons_swap, users_cons_none rfl]

/-- Whatever a task does, the fences have just its use of a lock and those of the others. -/
theorem sound_moved (sound : w.fences.Sound (users (k ::ₘ others)))
    (moved : k.Move w sight k' w') : w'.fences.Sound (users (k' ::ₘ others)) := by
  cases moved with
  | aside aside =>
    rw [aside.fences]
    exact sound
  | ask =>
    rw [users_cons_none rfl] at sound
    rw [users_cons_some rfl]
    exact sound.ask _ _
  | fence granted =>
    rw [users_cons_some rfl] at sound ⊢
    exact sound.hold granted
  | refuse =>
    rw [users_cons_some rfl] at sound
    rw [users_cons_none rfl]
    exact (sound.giveUp (FenceRole.waiting_ne_updating _)).prune _
  | withdraw =>
    rw [users_cons_some rfl] at sound
    rw [users_cons_none rfl]
    exact sound.giveUp (FenceRole.waiting_ne_updating _)
  | finish =>
    rw [users_cons_some rfl] at sound
    rw [users_cons_none rfl]
    exact sound.finish
  | _ =>
    rw [users_cons_plan _ _ .idle] at sound ⊢
    exact sound

theorem keeps_sound :
    Stake.protocol.Keeps fun w _ stakes => w.fences.Sound (users stakes) where
  split divided sound := users_split divided ▸ sound
  moved moved sound := sound_moved sound moved

end Stake

/-- The fences, the store and the ids fit what tasks hold. -/
structure World.Fits (w : World) (stakes : Multiset Stake) : Prop where
  fences : w.fences.Sound (Stake.users stakes)
  drafted : Drafted w.store w.ids stakes

namespace World.Fits

variable {w w' : World} {k k' : Stake} {others : Multiset Stake} {plan plan' : Plan}
  {u u' : Option FenceUser} {s : Store} {t : Timeline} {e : String} {ticket : Ticket}
  {sight : Sight} {number : Nat} {previous next : Timeline} {position : Position}
  {switchedAt : Timestamp}

theorem learn (fits : w.Fits (⟨u, plan⟩ ::ₘ others)) (draft : plan'.draft = plan.draft)
    (new : ∀ t, plan'.draft = some t →
      t.lastPosition = none ∧ t.fake = false ∧ t.order = Timeline.orderAfter plan'.seen)
    (seen : ∀ t, plan'.seen = some t → plan.seen = some t ∨ t ∈ w.store.timelines.values)
    (doomed : ∀ t, plan' = .doomed t → (∃ ticket, u = some ⟨t.eventType, ticket, .updating⟩) ∧
      (w.store.active? t.eventType).map (·.id) = some t.id ∧ t.order = 0) :
    w.Fits (⟨u, plan'⟩ ::ₘ others) where
  fences := by
    rw [Stake.users_cons_plan u plan' plan]
    exact fits.fences
  drafted := by
    have old := fits.drafted.each _ (Multiset.mem_cons_self _ _)
    refine fits.drafted.replace draft ⟨new, ?_, doomed⟩
    intro t saw
    rcases seen t saw with before | inside
    · exact old.seen t before
    · obtain ⟨drawn, apart⟩ := fits.drafted.stored t inside
      exact ⟨drawn, apart, fits.drafted.sequenced.knows inside⟩

theorem refence (fits : w.Fits (⟨u, plan⟩ ::ₘ others)) {f : LocalFences}
    (sound : f.Sound (Stake.users (⟨u', plan⟩ ::ₘ others)))
    (held : (⟨u', plan⟩ : Stake).Fits w.store w.ids (Stake.drafts (⟨u, plan⟩ ::ₘ others))) :
    (w.withFences f).Fits (⟨u', plan⟩ ::ₘ others) :=
  ⟨sound, fits.drafted.replace rfl held⟩

theorem refence_unfenced (fits : w.Fits (⟨u, plan⟩ ::ₘ others)) {f : LocalFences}
    (sound : f.Sound (Stake.users (⟨u', plan⟩ ::ₘ others)))
    (unfenced : ∀ e ticket, u ≠ some ⟨e, ticket, .updating⟩) :
    (w.withFences f).Fits (⟨u', plan⟩ ::ₘ others) :=
  fits.refence sound ((fits.drafted.each _ (Multiset.mem_cons_self _ _)).with_user unfenced)

/-- Without a gap in the sequence, a first timeline is new only if there is none. -/
theorem writes_first (fits : w.Fits (⟨u, .next none number next⟩ ::ₘ others))
    (free : w.store.timelines.get? next.id = none)
    (untaken : { next with switchedAt := some switchedAt }.orderTaken w.store.timelines.values =
      false) :
    w.store.active? next.eventType = none ∧ (Plan.next none number next).Writes w.store
      next.eventType (w.store.put { next with switchedAt := some switchedAt }) := by
  have sequenced := fits.drafted.sequenced
  obtain ⟨unended, _, first⟩ := (fits.drafted.each _ (Multiset.mem_cons_self _ _)).new next rfl
  have none : w.store.active? next.eventType = none := by
    rw [Option.eq_none_iff_forall_ne_some]
    intro a active
    obtain ⟨inside, named, _⟩ := Store.active_spec active
    obtain ⟨b, inside', named', order⟩ := sequenced.below inside (Nat.zero_le _)
    exact Store.order_free (Store.unstored_of_get? sequenced.keyed free) untaken b inside'
      (named'.trans named) (order.trans first.symm)
  exact ⟨none, .first none free first (fits.drafted.draft_genuine rfl) unended⟩

theorem writes_switch (fits : w.Fits (⟨u, .measured previous position next⟩ ::ₘ others))
    (committed : w.store.commitSwitch (some { previous with lastPosition := some position })
      { next with switchedAt := some switchedAt } = .ok s) :
    (Plan.measured previous position next).Writes w.store next.eventType s := by
  have old := fits.drafted.each _ (Multiset.mem_cons_self _ _)
  obtain ⟨free, _, active, rfl⟩ := Store.commitSwitch_ok committed
  obtain ⟨unended, _, follows⟩ := old.new next rfl
  obtain ⟨_, _, knows⟩ := old.seen previous rfl
  obtain ⟨a, active, same⟩ := Option.map_eq_some_iff.1 active
  have known := knows a (Store.active_spec active).1 same
  have ended : { previous with lastPosition := some position } =
      { a with lastPosition := some position } := by rw [known]
  have order : next.order = a.order + 1 := by
    rw [known] at follows
    exact follows
  rw [ended]
  exact .switch active known free order (fits.drafted.draft_genuine rfl) unended

theorem writes_delete (fits : w.Fits (⟨u, .doomed t⟩ ::ₘ others)) :
    (Plan.doomed t).Writes w.store t.eventType
      { w.store with timelines := w.store.timelines.erase t.id } := by
  have old := fits.drafted.each _ (Multiset.mem_cons_self _ _)
  obtain ⟨_, active, first⟩ := old.doomed t rfl
  obtain ⟨_, _, knows⟩ := old.seen t rfl
  obtain ⟨a, active, same⟩ := Option.map_eq_some_iff.1 active
  have known := knows a (Store.active_spec active).1 same
  have order : a.order = 0 := by
    rw [known] at first
    exact first
  rw [← same]
  exact .delete active order

/-- What a task does to the store: nothing, or what its plan writes. It writes the first timeline of
an event type, or it updates the event type. -/
theorem stores (fits : w.Fits (k ::ₘ others)) (moved : k.Move w sight k' w') :
    w'.store = w.store ∨ ∃ e, k.plan.Writes w.store e w'.store ∧
      (w.store.active? e = none ∨ ∃ ticket, k.user = some ⟨e, ticket, .updating⟩) := by
  cases moved with
  | aside aside => exact .inl aside.store
  | create created =>
    obtain ⟨free, untaken, rfl⟩ := Store.createTimeline_ok created
    obtain ⟨none, writes⟩ := fits.writes_first free untaken
    exact .inr ⟨_, writes, .inl none⟩
  | first committed =>
    obtain ⟨free, untaken, _, rfl⟩ := Store.commitSwitch_ok committed
    obtain ⟨none, writes⟩ := fits.writes_first free untaken
    exact .inr ⟨_, writes, .inl none⟩
  | switch committed => exact .inr ⟨_, fits.writes_switch committed, .inr ⟨_, rfl⟩⟩
  | delete deleted =>
    obtain rfl := Store.deleteTimeline_ok deleted
    exact .inr ⟨_, fits.writes_delete, .inr ⟨_, rfl⟩⟩
  | _ => exact .inl rfl

theorem write (fits : w.Fits (k ::ₘ others)) (writes : k.plan.Writes w.store e s)
    (admitted : w.store.active? e = none ∨ ∃ ticket, k.user = some ⟨e, ticket, .updating⟩) :
    (w.withStore s).Fits (⟨k.user, .idle⟩ ::ₘ others) where
  fences := by
    rw [Stake.users_cons_plan k.user .idle k.plan]
    exact fits.fences
  drafted := by
    refine fits.drafted.write writes ?_
    rintro j other t doomed rfl
    obtain ⟨⟨ticket', user'⟩, active, _⟩ :=
      (fits.drafted.each j (Multiset.mem_cons_of_mem other)).doomed t doomed
    rcases admitted with none | ⟨ticket, user⟩
    · rw [none] at active
      exact nomatch active
    · exact Stake.update_alone fits.fences user other user'

end World.Fits

theorem Stake.Move.fresh {w w' : World} {k k' : Stake} {sight : Sight}
    (moved : k.Move w sight k' w') (fresh : w'.ids.Fresh) : w.ids.Fresh := by
  cases moved with
  | aside aside => exact aside.ids ▸ fresh
  | draw => exact fresh.of_draw
  | _ => exact fresh

namespace World.Fits

variable {w w' : World} {k k' owed kept : Stake} {others : Multiset Stake} {sight : Sight}

open Stake

theorem split (fits : w.Fits (k ::ₘ others)) (split : Stake.protocol.splits k owed kept) :
    w.Fits (owed ::ₘ kept ::ₘ others) := by
  have same : users (owed ::ₘ kept ::ₘ others) = users (k ::ₘ others) := users_split split
  obtain ⟨rfl, rfl⟩ := split
  refine ⟨same ▸ fits.fences, fits.drafted.revise ?_ ?_⟩
  · rw [drafts_cons_none rfl, drafts_cons_none rfl]
    exact Multiset.filterMap_le_filterMap _ (Multiset.le_cons_self others k)
  · intro k' member
    rcases Multiset.mem_cons.1 member with rfl | rest
    · exact .inr .idle
    rcases Multiset.mem_cons.1 rest with rfl | old
    · exact .inr .idle
    · exact .inl (Multiset.mem_cons_of_mem old)

/-- As long as new ids are distinct, what a task does keeps everything fitting. -/
theorem moved (fits : w.Fits (k ::ₘ others)) (moved : k.Move w sight k' w')
    (fresh : w'.ids.Fresh) : w'.Fits (k' ::ₘ others) := by
  have old := fits.drafted.each _ (Multiset.mem_cons_self _ _)
  have sound := sound_moved fits.fences moved
  cases moved with
  | aside aside =>
    refine ⟨sound, ?_⟩
    rw [aside.store, aside.ids]
    exact fits.drafted
  | see =>
    refine fits.learn rfl (fun _ made => nomatch made) (fun t saw => .inr ?_)
      fun _ doomed => nomatch doomed
    exact (Store.active_spec saw).1
  | locate serves =>
    exact fits.learn rfl (fun _ made => nomatch made) (fun t saw => .inl saw)
      fun _ doomed => nomatch doomed
  | draw => exact ⟨sound, fits.drafted.draw fresh rfl rfl rfl rfl ⟨rfl, rfl, rfl⟩⟩
  | create created =>
    obtain ⟨free, untaken, rfl⟩ := Store.createTimeline_ok created
    obtain ⟨none, writes⟩ := fits.writes_first free untaken
    exact fits.write writes (.inl none)
  | measure registered latest =>
    exact fits.learn rfl old.new (fun t saw => .inl saw) fun _ doomed => nomatch doomed
  | first committed =>
    obtain ⟨free, untaken, _, rfl⟩ := Store.commitSwitch_ok committed
    obtain ⟨none, writes⟩ := fits.writes_first free untaken
    exact fits.write writes (.inl none)
  | switch committed => exact fits.write (fits.writes_switch committed) (.inr ⟨_, rfl⟩)
  | find stored =>
    refine fits.learn rfl (fun _ made => nomatch made) (fun t saw => .inr ?_)
      fun _ doomed => nomatch doomed
    obtain rfl := Option.some_inj.1 saw
    exact Table.mem_values_iff.2 ⟨_, stored⟩
  | doom active first =>
    refine fits.learn rfl (fun _ made => nomatch made) (fun t saw => .inl saw) ?_
    intro t doomed
    cases doomed
    exact ⟨⟨_, rfl⟩, active, first⟩
  | delete deleted =>
    obtain rfl := Store.deleteTimeline_ok deleted
    exact fits.write fits.writes_delete (.inr ⟨_, rfl⟩)
  | ask => exact fits.refence_unfenced sound nofun
  | fence granted => exact fits.refence_unfenced sound nofun
  | refuse => exact fits.refence_unfenced sound nofun
  | withdraw => exact fits.refence_unfenced sound nofun
  | finish => exact fits.refence sound .idle

end World.Fits

theorem Stake.keeps_fits : Stake.protocol.Keeps fun w _ stakes => w.ids.Fresh → w.Fits stakes where
  split divided held fresh := (held fresh).split divided
  moved moved held fresh := (held (moved.fresh fresh)).moved moved fresh

/-- A call that works on timelines, with local fences. -/
inductive TimelineCall where
  | createFirst (eventType : String)
  | switchTo (eventType storageId : String)
  | delete (eventType : String) (id : Uuid)

namespace TimelineCall

/-- A call gives the new timeline, if there is one. -/
def operation : TimelineCall → Operation (Option Timeline)
  | .createFirst e => return some (← Timelines.createFirst e)
  | .switchTo e storageId => return some (← Timelines.switchTo World.localSync e storageId)
  | .delete e id => do
      Timelines.delete World.localSync e id
      return none

def IsCall (p : Process World (Except TimelineError (Option Timeline))) : Prop :=
  ∃ call : TimelineCall, p = call.operation.run

def stake : TimelineCall → Stake
  | .createFirst e => ⟨none, .located e none 0⟩
  | _ => ⟨none, .idle⟩

theorem follows (call : TimelineCall) : call.operation.Follows (fun k => k.user = none)
    (fun _ k => k.user = none) call.stake := by
  cases call with
  | createFirst e => exact Operation.follows_bind (Timelines.follows_createFirst e)
  | switchTo e storageId => exact Operation.follows_bind (Timelines.follows_switchTo e storageId)
  | delete e id => exact Operation.follows_bind (Timelines.follows_delete e id)

end TimelineCall

/-- A change of the world by others than the tasks on timelines: of storages, event types and
workers, of what makes calls fail, and of the time. -/
structure World.Apart (w w' : World) : Prop where
  timelines : w'.store.timelines = w.store.timelines
  fences : w'.fences = w.fences
  ids : w'.ids = w.ids

/-- A task comes that has no use of a lock and has neither seen nor made a timeline. -/
theorem World.Fits.enter_new {w : World} {stakes : Multiset Stake} {k : Stake} (fits : w.Fits stakes)
    (user : k.user = none) (draftless : k.plan.draft = none) (unseen : k.plan.seen = none) :
    w.Fits (k ::ₘ stakes) := by
  refine ⟨?_, fits.drafted.enter draftless (.of_nothing draftless unseen)⟩
  rw [Stake.users_cons_none user]
  exact fits.fences

theorem World.Fits.enter {w : World} {stakes : Multiset Stake} (fits : w.Fits stakes)
    (call : TimelineCall) : w.Fits (call.stake ::ₘ stakes) := by
  cases call with
  | createFirst e => exact fits.enter_new rfl rfl rfl
  | switchTo e storageId => exact fits.enter_new rfl rfl rfl
  | delete e id => exact fits.enter_new rfl rfl rfl

theorem World.Fits.apart {w w' : World} {stakes : Multiset Stake} (fits : w.Fits stakes)
    (apart : w.Apart w') : w'.Fits stakes where
  fences := apart.fences ▸ fits.fences
  drafted := by
    rw [apart.ids]
    exact fits.drafted.of_timelines_eq apart.timelines

/-- Whatever processes come to that start without timelines and follow the protocol, the timelines
are in sequence. -/
theorem World.sequenced_kept {α : Type} {admitted : Process World α → Prop}
    {disturbance : World → World → Prop} {w : World} {pool : Pool World α}
    (none : w.store.timelines = .empty) (unfenced : w.fences = .empty)
    (calls : ∀ p, admitted p → ∃ k : Stake,
      (∀ (w : World) stakes, w.Fits stakes → w.Fits (k ::ₘ stakes)) ∧
        p.Follows Stake.protocol (fun k => k.user = .none) (fun _ k => k.user = .none) k)
    (apart : ∀ w w', disturbance w w' → w.Apart w')
    (reached : Pool.Reaches admitted disturbance (.empty w) pool)
    (fresh : pool.state.ids.Fresh) : pool.state.store.Sequenced := by
  have start : w.ids.Fresh → w.Fits 0 := by
    refine fun fresh => ⟨unfenced ▸ LocalFences.sound_empty,
      .start (Store.sequenced_of_no_timelines none) fresh fun t inside => ?_⟩
    rw [none] at inside
    exact nomatch (inside : t ∈ [])
  have kept : pool.Keeps Stake.protocol (fun w _ stakes => w.ids.Fresh → w.Fits stakes)
      fun _ k => k.user = .none := by
    refine Pool.Keeps.reaches Stake.keeps_fits ?_ ?_ (Pool.keeps_empty start) reached
    · intro p allowed
      obtain ⟨k, enter, follows⟩ := calls p allowed
      exact ⟨k, follows, fun w past stakes held fresh => enter w stakes (held fresh)⟩
    · intro w w' past stakes disturbed held fresh
      have apart := apart w w' disturbed
      exact (held (apart.ids ▸ fresh)).apart apart
  obtain ⟨_, _, _, _, held⟩ := kept
  exact (held fresh).drafted.sequenced

/-- Whatever first timelines, switches and deletions have come to that started without timelines,
the timelines of each event type form a stream. -/
theorem streams_kept {w : World} {pool : Pool World (Except TimelineError (Option Timeline))}
    (none : w.store.timelines = .empty) (unfenced : w.fences = .empty)
    (reached : Pool.Reaches TimelineCall.IsCall World.Apart (.empty w) pool)
    (fresh : pool.state.ids.Fresh) (e : String) : pool.state.store.Stream e := by
  have sequenced : pool.state.store.Sequenced := by
    apply World.sequenced_kept none unfenced _ (fun _ _ apart => apart) reached fresh
    rintro p ⟨call, rfl⟩
    exact ⟨call.stake, fun _ _ fits => fits.enter call, Operation.FollowsBy.leaves call.follows⟩
  exact sequenced.stream e

/-- A world with a default storage, a worker for it, and ids that count from one. -/
def World.ofStorage (storage : Storage) : World :=
  { World.start (.withDefault storage) ⟨fun n => ⟨BitVec.ofNat 128 (n + 1)⟩, 0⟩ with
    workers := Workers.empty.register storage 1 }

/-- A world with a storage besides the default one, workers for both, and an event type. -/
def World.ofStorages (first second : Storage) (e : String) : World :=
  { World.ofStorage first with
    store :=
      { Store.withDefault first with
        storages := (Store.withDefault first).storages.insert second.id second }
    eventTypes := [e]
    workers := (World.ofStorage first).workers.register second 1 }

/-- A call that is made alone in a small world, after some of its steps. -/
def TimelineCall.begun (call : TimelineCall) (steps : Nat) :
    Pool World (Except TimelineError (Option Timeline)) :=
  (List.replicate steps (.call 0)).foldl Pool.turn
    (.single (.ofStorage ⟨"default", .inMemory, true⟩) call.operation.run)

theorem streams_kept_created : ∃ (w : World)
    (pool : Pool World (Except TimelineError (Option Timeline))),
    w.store.timelines = .empty ∧ w.fences = .empty ∧
      Pool.Reaches TimelineCall.IsCall World.Apart (.empty w) pool ∧ pool.state.ids.Fresh ∧
      (pool.state.store.active? "orders").map (·.order) = some 0 ∧
      pool.state.store.Stream "orders" := by
  have called : Pool.Reaches TimelineCall.IsCall World.Apart
      (.empty (.ofStorage ⟨"default", .inMemory, true⟩))
      ((TimelineCall.createFirst "orders").begun 0) :=
    .single (.call ⟨_, rfl⟩)
  have created : Pool.Reaches TimelineCall.IsCall World.Apart
      (.empty (.ofStorage ⟨"default", .inMemory, true⟩))
      ((TimelineCall.createFirst "orders").begun 6) :=
    called.trans (Pool.reaches_turns _ _)
  have drawn : ((TimelineCall.createFirst "orders").begun 6).state.ids.drawn = 1 := by
    decide +kernel
  have fresh : ((TimelineCall.createFirst "orders").begun 6).state.ids.Fresh := by
    constructor
    · rw [drawn]
      omega
    · rw [drawn]
      decide +kernel
  exact ⟨_, _, rfl, rfl, created, fresh, by decide +kernel, streams_kept rfl rfl created fresh _⟩

end Cutover
