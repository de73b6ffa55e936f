import Cutover.Proofs.Timelines.Foreign
import Cutover.Proofs.Topics.Service

set_option autoImplicit false

namespace Cutover

/-- A process of a call of the service for one of some event types, with local fences. -/
def ServiceCall.IsFor (names : Set String) (p : Process World (Except TimelineError Unit)) : Prop :=
  ∃ call : ServiceCall, ∃ e ∈ names, call.eventType = some e ∧
    p = (call.under World.localSync).run

/-- Every call of the service for an event type follows the protocol of timelines. -/
theorem ServiceCall.follows {call : ServiceCall} {e : String} (concerns : call.eventType = some e) :
    ∃ k : Stake, (∀ (w : World) stakes, w.Fits stakes → w.Fits (k ::ₘ stakes)) ∧
      (call.under World.localSync).Follows (fun k => k.user = none) (fun _ k => k.user = none) k := by
  have idle : (⟨none, .idle⟩ : Stake).user = none := rfl
  have enter : ∀ (w : World) stakes, w.Fits stakes → w.Fits (⟨none, .idle⟩ ::ₘ stakes) :=
    fun w stakes fits => fits.enter_new rfl rfl rfl
  cases call with
  | timelines call =>
    refine ⟨call.stake, fun w stakes fits => fits.enter call, Operation.follows_bind ?_⟩
    rw [← call.operation_eq]
    exact call.follows
  | list e =>
    exact ⟨_, enter, Operation.follows_bind (Operation.follows_look_aside idle fun _ => idle)⟩
  | get e => exact ⟨_, enter, Operation.follows_bind (Timelines.follows_get e)⟩
  | resolve e cursor => exact ⟨_, enter, Operation.follows_bind (Timelines.follows_resolve e cursor)⟩
  | registry call => exact nomatch concerns

/-- A change by others: of storages, event types and positions, of what makes calls fail, and of the
time. Timelines and topics are left to the calls. -/
structure World.Around (w w' : World) : Prop extends Topics.Alike w w' where
  fences : w'.fences = w.fences

namespace World

variable {names : Set String} {w : World} {pool : Pool World (Except TimelineError Unit)}

theorem Around.apart {w w' : World} (around : w.Around w') : w.Apart w' :=
  ⟨around.timelines, around.fences, around.ids⟩

/-- Topics as a maintainer would have them. -/
structure Successions (names : Set String) (w : World) : Prop where
  laidOut : ∀ t ∈ w.store.timelines.values, (w.partitionsOf t).isSome = true
  /-- No other timeline on the storage of a successor has its topic, -/
  alone : ∀ t ∈ w.store.timelines.values, 0 < t.order → ∀ u ∈ w.store.timelines.values,
    u.storage.id = t.storage.id → u.topic = t.topic → u = t
  /-- nor has the synthetic timeline of an event type. -/
  apart : ∀ t ∈ w.store.timelines.values, 0 < t.order → ∀ e ∈ names, ∀ layout w',
    (Timelines.synthetic e).alone w = (.ok layout, w') → layout.topic ≠ t.topic
  inherits : ∀ t ∈ w.store.timelines.values, 0 < t.order → ∃ u ∈ w.store.timelines.values,
    u.eventType = t.eventType ∧ t.order = u.order + 1 ∧ w.partitionsOf t = w.partitionsOf u
  constant : ∀ t ∈ w.store.timelines.values, ∀ u ∈ w.store.timelines.values,
    u.eventType = t.eventType → w.partitionsOf t = w.partitionsOf u

end World

namespace Topics

variable {names : Set String} {w w' : World} {pool : Pool World (Except TimelineError Unit)}

theorem holds_start (empty : w.store.timelines = .empty) (orderly : w.Orderly)
    (tidy : w.Tidy names) : Holds names w 0 := by
  have none : ∀ t, t ∉ w.store.timelines.values := by
    intro t inside
    rw [empty] at inside
    exact nomatch (inside : t ∈ [])
  exact
    { tidy := tidy
      serving := orderly.serving
      keyed := (Store.sequenced_of_no_timelines empty).keyed
      orders := fun t inside => absurd inside (none t)
      laidOut := fun t inside => absurd inside (none t)
      apart := fun t inside => absurd inside (none t)
      alone := fun t inside => absurd inside (none t)
      inherits := fun t inside => absurd inside (none t)
      stored := fun t inside => absurd inside (none t)
      once := fun b _ => Nat.zero_le 1
      drawn := fun _ here => absurd here (Multiset.notMem_zero _)
      held := fun _ _ here => absurd here (Multiset.notMem_zero _)
      unused := fun _ _ here => absurd here (Multiset.notMem_zero _)
      seen := fun _ here => absurd here (Multiset.notMem_zero _) }

/-- Whatever calls come to, the rules hold of it, and topics have only been added. -/
theorem settled_reaches (empty : w.store.timelines = .empty) (orderly : w.Orderly)
    (tidy : w.Tidy names)
    (reached : Pool.Reaches (ServiceCall.IsFor names) World.Around (.empty w) pool)
    (fresh : pool.state.ids.Fresh) :
    Settled names pool.state ∧ ∀ a ∈ pool.past, Grows a.after pool.state := by
  have calls : ∀ p, ServiceCall.IsFor names p →
      (rules names).Upholds p (fun _ _ => True) .nothing := by
    rintro p ⟨call, e, named, concerns, rfl⟩
    refine Rules.Upholds.mono (obeys_call World.fencing_localSync concerns named) ?_
    rintro (error | done) k held
    · trivial
    · trivial
  have undisturbed : ∀ w w', World.Around w w' →
      ((rules names).provided w' → (rules names).provided w) ∧
        ((rules names).provided w' → ∀ owned, (rules names).holds w owned →
          (rules names).later w w' ∧ (rules names).holds w' owned) := by
    intro w w' around
    have harmless : (rules names).Harmless w w' := harmless_alike around.toAlike
    exact ⟨harmless.provided, harmless.keeps⟩
  obtain ⟨_, _, _, _, upheld⟩ :=
    (rules names).upheld_reaches (fun _ => holds_start empty orderly tidy) calls undisturbed reached
  have held := upheld fresh
  exact ⟨held.holds.toSettled, fun a past => (held.past a past).2⟩

/-- In a stream without gaps the topic of each timeline has as many partitions as that of the first
one. -/
theorem Settled.partitionsOf_first (settled : Settled names w) (sequenced : w.store.Sequenced)
    {t u : Timeline} (inside : t ∈ w.store.timelines.values) (first : u ∈ w.store.timelines.values)
    (named : u.eventType = t.eventType) (order : u.order = 0) :
    w.partitionsOf t = w.partitionsOf u := by
  induction above : t.order generalizing t with
  | zero => rw [sequenced.unique u first t inside named (order.trans above.symm)]
  | succ n ih =>
    obtain ⟨v, below, named', order'⟩ := sequenced.connected t inside n above
    have ended : v.lastPosition.isSome = true :=
      (sequenced.ended v below).2 ⟨t, inside, named'.symm, above.trans (by rw [order'])⟩
    rw [settled.inherits t inside v below named' (above.trans (by rw [order'])) ended]
    exact ih below (named.trans named'.symm) order'

theorem Settled.successions (settled : Settled names w) (sequenced : w.store.Sequenced) :
    w.Successions names where
  laidOut := settled.laidOut
  alone t inside above u inside' storage topic :=
    settled.keyed.eq_of_id inside' inside (settled.alone t inside u inside' above storage topic)
  apart t inside above e named layout w' made same := by
    obtain ⟨-, topic, -⟩ := (Timelines.ensures_layout e w).of_ok made
    rw [topic] at same
    exact settled.apart t inside above (same ▸ named)
  inherits t inside above := by
    obtain ⟨u, below, named, order⟩ := sequenced.connected t inside (t.order - 1) (by omega)
    have next : t.order = u.order + 1 := by omega
    have ended := (sequenced.ended u below).2 ⟨t, inside, named.symm, next⟩
    exact ⟨u, below, named, next, settled.inherits t inside u below named next ended⟩
  constant t inside u inside' named := by
    obtain ⟨first, there, named', order⟩ := sequenced.below inside (Nat.zero_le _)
    rw [settled.partitionsOf_first sequenced inside there named' order,
      settled.partitionsOf_first sequenced inside' there (named'.trans named.symm) order]

end Topics

/-- Whatever calls for some event types come to that start without timelines: if at the start the
event types and the topics that are called like a numbered topic of one of them have numbers below
the number of topics of any worker, then every successor has a topic of its own with as many
partitions as the one before it. And the partitions of a timeline never change. -/
theorem successors_own_topics {names : Set String} {w : World}
    {pool : Pool World (Except TimelineError Unit)} (empty : w.store.timelines = .empty)
    (unfenced : w.fences = .empty) (orderly : w.Orderly) (tidy : w.Tidy names)
    (reached : Pool.Reaches (ServiceCall.IsFor names) World.Around (.empty w) pool)
    (fresh : pool.state.ids.Fresh) : pool.state.Successions names ∧
      ∀ a ∈ pool.past, ∀ t count, a.after.partitionsOf t = some count →
        pool.state.partitionsOf t = some count := by
  obtain ⟨settled, grown⟩ := Topics.settled_reaches empty orderly tidy reached fresh
  have sequenced : pool.state.store.Sequenced := by
    apply World.sequenced_kept empty unfenced _ (fun _ _ around => around.apart) reached fresh
    rintro p ⟨call, e, -, concerns, rfl⟩
    obtain ⟨k, enter, follows⟩ := ServiceCall.follows concerns
    refine ⟨k, enter, Process.Follows.mono (fun _ left => left) ?_ follows⟩
    rintro (_ | _) k left
    · exact left
    · exact left
  exact ⟨settled.successions sequenced, fun a past _ _ known => (grown a past).partitionsOf known⟩

/-- A small world in which the worker of the default storage has a topic from the start. -/
def World.declaring (topic : String) (count : Nat) : World :=
  World.unwritten.withWorkers (World.unwritten.workers.modify 0 fun worker =>
    { worker with topics := worker.topics.insert topic count })

theorem World.orderly_declaring (topic : String) (count : Nat) :
    (World.declaring topic count).Orderly := by
  have orderly : World.unwritten.Orderly := World.orderly_ofStorages _ _ _
  refine ⟨orderly.storages, fun id number served => ?_⟩
  obtain ⟨worker, registered, same⟩ := orderly.serving id number served
  by_cases first : number = 0
  · subst first
    exact ⟨_, Table.get?_modify_of_get? _ registered, same⟩
  · exact ⟨worker, (Table.get?_modify_of_ne _ _ first).trans registered, same⟩

namespace ServiceCall

theorem reaches_begun {names : Set String} {w : World} {calls : List ServiceCall}
    (concerned : ∀ call ∈ calls, ∃ e ∈ names, call.eventType = some e) (turns : List Pool.Turn) :
    Pool.Reaches (IsFor names) World.Around (.empty w)
      (.begun w (calls.map fun call => (call.under World.localSync).run) turns) := by
  apply Pool.reaches_begun
  intro p called
  obtain ⟨call, inside, rfl⟩ := List.mem_map.1 called
  obtain ⟨e, named, concerns⟩ := concerned call inside
  exact ⟨call, e, named, concerns, rfl⟩

/-- An event type's topic is taken over by its first timeline and followed on another storage. -/
def adopting : Pool World (Except TimelineError Unit) :=
  .begun (.declaring "orders" 8)
    ([.timelines (.switchTo "orders" "default"), .timelines (.switchTo "orders" "other"),
      .get "payments"].map fun call : ServiceCall => (call.under World.localSync).run)
    (List.replicate 18 (.call 0) ++ [.clean 0] ++ List.replicate 14 (.call 1) ++
      List.replicate 4 (.call 2))

/-- The second timeline of an event type gets the number of a topic that was there before. -/
def reusing : Pool World (Except TimelineError Unit) :=
  .begun (.declaring "orders-2" 5)
    ([.timelines (.createFirst "orders"), .timelines (.switchTo "orders" "default")].map
      fun call : ServiceCall => (call.under World.localSync).run)
    (List.replicate 6 (.call 0) ++ List.replicate 14 (.call 1))

end ServiceCall

theorem successors_own_topics_adopted : ∃ (names : Set String) (w : World)
    (pool : Pool World (Except TimelineError Unit)), w.store.timelines = .empty ∧
      w.fences = .empty ∧ w.Orderly ∧ w.Tidy names ∧
      Pool.Reaches (ServiceCall.IsFor names) World.Around (.empty w) pool ∧
      pool.state.ids.Fresh ∧
      (∃ t ∈ pool.state.store.timelines.values, t.order = 1 ∧ t.topic = "orders-0" ∧
        pool.state.partitionsOf t = some 8) ∧
      pool.state.Successions names := by
  let names : Set String := {"orders", "payments"}
  have orderly := World.orderly_declaring "orders" 8
  have tidy : (World.declaring "orders" 8).Tidy names := by
    apply World.tidy_of_dashless
    · rintro e (rfl | rfl)
      · decide
      · decide
    · decide +kernel
  have reached : Pool.Reaches (ServiceCall.IsFor names) World.Around
      (.empty (.declaring "orders" 8)) ServiceCall.adopting := by
    apply ServiceCall.reaches_begun
    simp only [List.forall_mem_cons]
    exact ⟨⟨"orders", .inl rfl, rfl⟩, ⟨"orders", .inl rfl, rfl⟩, ⟨"payments", .inr rfl, rfl⟩, nofun⟩
  have fresh : ServiceCall.adopting.state.ids.Fresh := by decide +kernel
  exact ⟨names, _, _, rfl, rfl, orderly, tidy, reached, fresh, by decide +kernel,
    (successors_own_topics rfl rfl orderly tidy reached fresh).1⟩

/-- A topic that was there before is taken over by a successor, with the partitions that it has. -/
theorem declared_topic_taken_over : ∃ (names : Set String) (w : World)
    (pool : Pool World (Except TimelineError Unit)), w.store.timelines = .empty ∧
      w.fences = .empty ∧ w.Orderly ∧
      Pool.Reaches (ServiceCall.IsFor names) World.Around (.empty w) pool ∧
      pool.state.ids.Fresh ∧
      ∃ t ∈ pool.state.store.timelines.values, ∃ u ∈ pool.state.store.timelines.values,
        u.eventType = t.eventType ∧ t.order = u.order + 1 ∧
          pool.state.partitionsOf u = some 1 ∧ pool.state.partitionsOf t = some 5 := by
  let names : Set String := {"orders"}
  have reached : Pool.Reaches (ServiceCall.IsFor names) World.Around
      (.empty (.declaring "orders-2" 5)) ServiceCall.reusing := by
    apply ServiceCall.reaches_begun
    simp only [List.forall_mem_cons]
    exact ⟨⟨"orders", rfl, rfl⟩, ⟨"orders", rfl, rfl⟩, nofun⟩
  have fresh : ServiceCall.reusing.state.ids.Fresh := by decide +kernel
  exact ⟨names, _, _, rfl, rfl, World.orderly_declaring "orders-2" 5, reached, fresh,
    by decide +kernel⟩

end Cutover
