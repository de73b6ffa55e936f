import Cutover.Proofs.Timelines.Streams
import Cutover.Proofs.Timelines.Unwritten

set_option autoImplicit false

namespace Cutover

namespace Rival

variable (sync : TimelineSync World) (e : String)

def IsCall (p : Process World (Except TimelineError Timeline)) : Prop :=
  ∃ rival : Rival, p = (rival.operation sync e).run

/-- A process of one of the calls with its report. -/
def IsReporting (p : Process World Report) : Prop := ∃ rival : Rival, p = rival.reporting sync e

theorem isCall_eq :
    IsCall sync e = fun p => ∃ q, IsReporting sync e q ∧ p = Pool.cut Report.result q := by
  funext p
  apply propext
  constructor
  · rintro ⟨rival, rfl⟩
    exact ⟨_, ⟨rival, rfl⟩, (cut_reporting sync e rival).symm⟩
  · rintro ⟨_, ⟨rival, rfl⟩, rfl⟩
    exact ⟨rival, cut_reporting sync e rival⟩

end Rival

def Pool.Ended {σ α : Type} (pool : Pool σ α) (i : Nat) (a : α) : Prop :=
  pool.calls[i]? = some (some (.done a))

/-- What rivals for an event type come to, by their reports. -/
structure Race (e : String) (calm : Prop) (reports : Pool World Rival.Report) : Prop where
  /-- The timelines of the event type are one stream, in which all but the active one have ended. -/
  stream : reports.state.store.Stream e
  /-- Every step leaves the timelines as they are or commits one after the active one, which
  ends. -/
  chained : ∀ a ∈ reports.past, a.after.store.timelines = a.before.store.timelines ∨
    ∃ active next, next.eventType = e ∧ a.before.store.Commits active next a.after.store
  /-- A timeline that has ended stays as it is. -/
  final : ∀ a ∈ reports.past, ∀ t ∈ a.after.store.timelines.values, t.lastPosition.isSome = true →
    t ∈ reports.state.store.timelines.values
  /-- Of the rivals that took the same timeline for the active one at most one succeeds. -/
  once : ∀ i j rival rival' active active' t u, reports.Ended i (.tried rival active (.ok t)) →
    reports.Ended j (.tried rival' active' (.ok u)) → active.map (·.id) = active'.map (·.id) → i = j
  /-- A rival that succeeds has its timeline stored after the one that it took for the active
  one. -/
  taken : ∀ i rival active t, reports.Ended i (.tried rival active (.ok t)) →
    t.eventType = e ∧ t.order = Timeline.orderAfter active ∧
      ∃ u ∈ reports.state.store.timelines.values, t.Continues u
  /-- A rival that does not succeed has lost to another one, unless a call was made to fail. -/
  lost : calm → ∀ i rival active error, reports.Ended i (.tried rival active (.error error)) →
    error = rival.loss e ∧ Contest.Outdated ⟨e, calm⟩ active reports.state

variable {sync : TimelineSync World} {e : String} {calm : Prop} {w : World}

theorem Contest.start (keyed : w.store.Keyed)
    (absent : ∀ t ∈ w.store.timelines.values, t.eventType ≠ e)
    (drawn : ∀ t ∈ w.store.timelines.values, w.ids.Drawn t.id) (unfailing : calm → w.Calm) :
    Contest.Holds ⟨e, calm⟩ w 0 where
  keyed := keyed
  sequenced := by
    apply Store.sequenced_of_no_timelines
    apply Table.eq_of_get?_eq
    intro id
    show (w.store.timelines.filterValues _).get? id = none
    rw [Table.get?_filterValues, Option.filter_eq_none_iff]
    intro t found
    rw [decide_eq_true_eq]
    exact absent t (Table.mem_values_iff.2 ⟨id, found⟩)
  stored t inside := ⟨drawn t inside, Multiset.notMem_zero _⟩
  distinct := Multiset.nodup_zero
  drawn id member := absurd member (Multiset.notMem_zero _)
  won order member := absurd member (Multiset.notMem_zero _)
  calm := unfailing

theorem Contest.Holds.order_eq {c : Contest} {owned : Multiset Bid}
    {active active' : Option Timeline} (held : c.Holds w owned) (seen : c.Seen active w)
    (seen' : c.Seen active' w) (same : active.map (·.id) = active'.map (·.id)) :
    Timeline.orderAfter active = Timeline.orderAfter active' := by
  cases active with
  | none =>
    obtain rfl := Option.map_eq_none_iff.1 same.symm
    rfl
  | some a =>
    obtain ⟨b, rfl, ids⟩ := Option.map_eq_some_iff.1 same.symm
    obtain ⟨_, u, inside, continues⟩ := seen a rfl
    obtain ⟨_, v, inside', continues'⟩ := seen' b rfl
    have stored : u.id = a.id := by rw [continues.knows]
    have stored' : v.id = b.id := by rw [continues'.knows]
    obtain rfl := held.keyed.eq_of_id inside inside' (stored.trans (ids.symm.trans stored'.symm))
    show a.order + 1 = b.order + 1
    rw [continues.knows, continues'.knows]

theorem Contest.calls_uphold {c : Contest} (own : sync.Only World.Fencing)
    (starts : c.calm → sync.Starts World.Calm) (p : Process World Rival.Report)
    (call : Rival.IsReporting sync c.eventType p) : c.rules.Upholds p c.Tells .nothing := by
  obtain ⟨rival, rfl⟩ := call
  exact upholds_reporting own starts rival

theorem Contest.undisturbed {c : Contest} (w w' : World) (outside : w.Outside c.calm w') :
    (c.rules.provided w' → c.rules.provided w) ∧ (c.rules.provided w' → ∀ owned,
      c.rules.holds w owned → c.rules.later w w' ∧ c.rules.holds w' owned) :=
  ⟨(harmless_outside outside).provided, fun _ _ held => ⟨outside.later, held.outside outside⟩⟩

theorem Contest.race {c : Contest} (own : sync.Only World.Fencing)
    (starts : c.calm → sync.Starts World.Calm) (start : c.Holds w 0)
    {reports : Pool World Rival.Report}
    (reached : Pool.Reaches (Rival.IsReporting sync c.eventType) (World.Outside c.calm) (.empty w)
      reports)
    (fresh : reports.state.ids.Fresh) : Race c.eventType c.calm reports := by
  obtain ⟨stakes, cleanups, calling, _, upheld⟩ :=
    c.rules.upheld_reaches (fun _ => start) (calls_uphold own starts) undisturbed reached
  have upheld := upheld fresh
  have held : c.Holds reports.state _ := upheld.holds
  have told : ∀ i report, reports.Ended i report →
      ∃ k, stakes[i]? = some k ∧ c.Tells report k ∧ k.holds reports.state := by
    intro i report ended
    obtain ⟨k, found, tells⟩ := forall₂_getElem? calling ended
    refine ⟨k, found, tells, upheld.known k ?_⟩
    exact Multiset.mem_add.2 (.inl (List.mem_of_getElem? found))
  refine ⟨(held.sequenced.stream _).of_part, fun a inside => (upheld.past a inside).1.2,
    ?final, ?once, ?taken, ?lost⟩
  case final =>
    intro a inside t stored ended
    obtain ⟨u, stored', continues⟩ := (upheld.past a inside).2.stored t stored
    rw [← continues.eq_of_ended ended]
    exact stored'
  case once =>
    intro i j rival rival' active active' t u ended ended' same
    obtain ⟨k, found, won, known⟩ := told i _ ended
    obtain ⟨k', found', won', known'⟩ := told j _ ended'
    have order := held.order_eq (won.seen _ known) (won'.seen _ known') same
    have owns : Bid.won (Timeline.orderAfter active) ∈ k.owns := by
      rw [won.owns]
      exact Multiset.mem_singleton_self _
    have owns' : Bid.won (Timeline.orderAfter active) ∈ k'.owns := by
      rw [won'.owns, order]
      exact Multiset.mem_singleton_self _
    exact Rules.owned_alone held.distinct found found' owns owns'
  case taken =>
    intro i rival active t ended
    obtain ⟨k, _, won, known⟩ := told i _ ended
    exact ⟨won.named, won.order, won.stored _ known⟩
  case lost =>
    intro calm i rival active error ended
    obtain ⟨k, _, lost, known⟩ := told i _ ended
    exact lost _ known calm

/-- Whatever rivals for an event type come to, from a store without timelines of it on: with their
reports they are in a race, and whoever fails has written no timeline. -/
theorem rivals_race (own : sync.Only World.Fencing) (starts : calm → sync.Starts World.Calm)
    {pool : Pool World (Except TimelineError Timeline)} (keyed : w.store.Keyed)
    (absent : ∀ t ∈ w.store.timelines.values, t.eventType ≠ e)
    (drawn : ∀ t ∈ w.store.timelines.values, w.ids.Drawn t.id) (unfailing : calm → w.Calm)
    (reached : Pool.Reaches (Rival.IsCall sync e) (World.Outside calm) (.empty w) pool)
    (fresh : pool.state.ids.Fresh) :
    (∃ reports, Pool.Reaches (Rival.IsReporting sync e) (World.Outside calm) (.empty w) reports ∧
      pool = reports.given Rival.Report.result ∧ Race e calm reports) ∧
    ∀ (rival : Rival) (w' : World) (alone : Pool World (Except TimelineError Timeline))
      (error : TimelineError), Pool.Reaches (fun _ => False) (fun _ _ => True)
        (.single w' (rival.operation sync e).run) alone → alone.Ended 0 (.error error) →
          ∀ a ∈ alone.past, a.after.store.timelines = a.before.store.timelines := by
  refine ⟨?_, fun rival w' alone error reached failed => Rival.unwritten own reached failed⟩
  rw [Rival.isCall_eq] at reached
  obtain ⟨reports, reached', rfl⟩ := Pool.reaches_given reached
  have start := Contest.start keyed absent drawn unfailing
  exact ⟨reports, reached', rfl, Contest.race own starts start reached' fresh⟩

namespace World

theorem only_recordingSync (delay : Nat) : (recordingSync delay).Only Fencing := by
  intro e limit
  refine ⟨⟨fun w => ⟨w.fences, (w.recorder.start e limit).2, ?_, rfl⟩, fun _ => trivial⟩,
    ⟨fun w => ⟨w.fences, (w.recorder.finish e).2, rfl, rfl⟩, fun _ => trivial⟩⟩
  rw [FenceRecorder.start]
  split
  · rfl
  · rfl

theorem starts_recordingSync (delay : Nat) : (recordingSync delay).Starts Calm := by
  intro e limit w calm
  show (w.recorder.start e limit).1 = .ok ()
  rw [FenceRecorder.start, calm.starts]

theorem calm_ofStorages (first second : Storage) (e : String) :
    (ofStorages first second e).Calm := by
  refine ⟨rfl, fun number worker found => ?_, rfl⟩
  rw [ofStorages, Workers.register, Workers.get?, Table.get?_insert] at found
  split at found
  · rw [← Option.some_inj.1 found]
    rfl
  · rw [ofStorage, Workers.register, Table.get?_insert] at found
    split at found
    · rw [← Option.some_inj.1 found]
      rfl
    · exact nomatch found

end World

/-- A first timeline is made; two switches read it, and both go on. -/
def Rival.switchedTwice : Pool World (Except TimelineError Timeline) :=
  let rivals : List Rival := [.createFirst, .switchTo "other", .switchTo "default"]
  .begun (.ofStorages ⟨"default", .inMemory, true⟩ ⟨"other", .inMemory, false⟩ "orders")
    (rivals.map fun rival => (rival.operation (World.recordingSync 0) "orders").run)
    (List.replicate 6 (.call 0) ++ List.replicate 8 (.call 1) ++ List.replicate 8 (.call 2) ++
      List.replicate 7 (.call 1) ++ List.replicate 2 (.clean 0) ++ [.call 1] ++
      List.replicate 4 (.call 2) ++ List.replicate 2 (.clean 1) ++ [.call 2])

theorem rivals_race_lost : ∃ w : World,
    Pool.Reaches (Rival.IsCall (World.recordingSync 0) "orders") (World.Outside True) (.empty w)
      Rival.switchedTwice ∧
    (Rival.switchedTwice.calls.map fun call => call.bind fun p =>
      p.result?.map fun result => result.map (·.order)) =
        [some (.ok 0), some (.ok 1), some (.error (.concurrentUpdate "orders"))] ∧
    ∃ reports, Rival.switchedTwice = reports.given Rival.Report.result ∧
      Race "orders" True reports := by
  let w : World := .ofStorages ⟨"default", .inMemory, true⟩ ⟨"other", .inMemory, false⟩ "orders"
  have empty : ∀ t, t ∉ w.store.timelines.values := fun t inside => nomatch (inside : t ∈ [])
  have reached : Pool.Reaches (Rival.IsCall (World.recordingSync 0) "orders") (World.Outside True)
      (.empty w) Rival.switchedTwice := by
    refine Pool.reaches_begun (fun p called => ?_) _
    obtain ⟨rival, _, rfl⟩ := List.mem_map.1 called
    exact ⟨rival, rfl⟩
  have fresh : Rival.switchedTwice.state.ids.Fresh := by
    have drawn : Rival.switchedTwice.state.ids.drawn = 3 := by decide +kernel
    constructor
    · rw [drawn]
      decide +kernel
    · rw [drawn]
      decide +kernel
  obtain ⟨⟨reports, _, same, race⟩, _⟩ := rivals_race (World.only_recordingSync 0)
    (fun _ => World.starts_recordingSync 0) (Store.sequenced_of_no_timelines rfl).keyed
    (fun t inside => absurd inside (empty t)) (fun t inside => absurd inside (empty t))
    (fun _ => World.calm_ofStorages _ _ _) reached fresh
  exact ⟨w, reached, by decide +kernel, reports, same, race⟩

end Cutover
