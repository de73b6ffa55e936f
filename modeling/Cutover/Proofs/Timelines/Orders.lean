import Cutover.Proofs.Timelines.Commits

set_option autoImplicit false

namespace Cutover

/-- A write of timelines with what it is given, or a setting of the switches that make writes
fail. -/
inductive TimelineWrite where
  | create (t : Timeline)
  | update (t : Timeline)
  | delete (id : Uuid)
  | switch (superseded : Option Timeline) (next : Timeline)
  | failing (onSwitch onDelete : Bool)

namespace Timeline

variable {t u : Timeline} {timelines others : List Timeline}

theorem orderTaken_iff : t.orderTaken timelines = true ↔
    ∃ u ∈ timelines, u.id ≠ t.id ∧ u.eventType = t.eventType ∧ u.order = t.order := by
  rw [orderTaken, List.any_eq_true]
  simp only [Bool.and_eq_true, decide_eq_true_eq, and_assoc]

/-- No two timelines of one event type have one order. -/
def OrdersDistinct (timelines : List Timeline) : Prop :=
  ∀ t ∈ timelines, ∀ u ∈ timelines, t.eventType = u.eventType → t.order = u.order → t = u

theorem activeAmong_of_perm (distinct : OrdersDistinct timelines) (perm : others.Perm timelines)
    (e : String) : activeAmong e others = activeAmong e timelines := by
  have perm' := perm.filter fun t => t.eventType = e && t.isSwitched
  cases found : activeAmong e others with
  | none =>
    have empty := (foldl_later_eq_none found).2
    rw [empty] at perm'
    rw [activeAmong, perm'.nil_eq.symm]
    rfl
  | some a =>
    cases found' : activeAmong e timelines with
    | none =>
      have empty := (foldl_later_eq_none found').2
      rw [empty] at perm'
      rw [activeAmong, perm'.eq_nil] at found
      cases found
    | some b =>
      obtain ⟨from', _, highest⟩ := foldl_later found
      obtain ⟨from'', _, highest'⟩ := foldl_later found'
      have inside := perm'.subset (from'.resolve_left (Option.some_ne_none a ·.symm))
      have inside' := from''.resolve_left (Option.some_ne_none b ·.symm)
      have order := Nat.le_antisymm (highest' a inside) (highest b (perm'.symm.subset inside'))
      rw [List.mem_filter, Bool.and_eq_true, decide_eq_true_eq] at inside inside'
      rw [distinct a inside.1 b inside'.1 (inside.2.1.trans inside'.2.1.symm) order]

theorem listing_of_perm (distinct : OrdersDistinct timelines) (perm : others.Perm timelines)
    (filter : TimelineFilter) : listing filter others = listing filter timelines := by
  have sorted : ∀ timelines, (listing filter timelines).Pairwise (precedes · · = true) := fun _ =>
    List.pairwise_mergeSort precedes_trans precedes_total _
  have perm' : (listing filter others).Perm (listing filter timelines) :=
    (List.mergeSort_perm _ _).trans ((perm.filter _).trans (List.mergeSort_perm _ _).symm)
  refine perm'.eq_of_pairwise ?_ (sorted others) (sorted timelines)
  intro t u listed listed' before after
  have inside := perm.subset (mem_listing.1 listed).1
  have inside' := (mem_listing.1 listed').1
  simp only [precedes, Bool.or_eq_true, Bool.and_eq_true, decide_eq_true_eq] at before after
  rcases before with less | ⟨same, order⟩
  · rcases after with less' | ⟨same', _⟩
    · exact absurd (less.trans less') (lt_irrefl _)
    · exact absurd (same' ▸ less) (lt_irrefl _)
  · rcases after with less' | ⟨_, order'⟩
    · exact absurd (same ▸ less') (lt_irrefl _)
    · exact distinct t inside u inside' same (Nat.le_antisymm order order')

end Timeline

namespace Store

open Timeline (OrdersDistinct orderTaken_iff)

variable {s s' : Store} {t u next previous : Timeline} {write : TimelineWrite}

def attempt (s : Store) : TimelineWrite → Except StoreError Store
  | .create t => s.createTimeline t
  | .update t => s.updateTimeline t
  | .delete id => s.deleteTimeline id
  | .switch superseded next => s.commitSwitch superseded next
  | .failing onSwitch onDelete => .ok { s with failSwitch := onSwitch, failDelete := onDelete }

/-- The store after a write; a write that is refused leaves it as it was. -/
def after (s : Store) (write : TimelineWrite) : Store :=
  match s.attempt write with
  | .ok s' => s'
  | .error _ => s

def afterAll (s : Store) (writes : List TimelineWrite) : Store := writes.foldl after s

theorem after_cases (s : Store) (write : TimelineWrite) :
    s.after write = s ∨ s.attempt write = .ok (s.after write) := by
  cases made : s.attempt write with
  | error => exact .inl (by rw [after, made])
  | ok => exact .inr (by rw [after, made])

theorem updateTimeline_ok (updated : s.updateTimeline t = .ok s') :
    s.timelines.contains t.id = true ∧ s' = s.put t := by
  rw [updateTimeline] at updated
  split at updated
  · next stored => exact ⟨stored, (Except.ok.inj updated).symm⟩
  · exact nomatch updated

theorem Keyed.attempt (keyed : s.Keyed) (made : s.attempt write = .ok s') : s'.Keyed := by
  cases write with
  | create t =>
    obtain ⟨-, -, rfl⟩ := createTimeline_ok made
    exact keyed.put t
  | update t =>
    obtain ⟨-, rfl⟩ := updateTimeline_ok made
    exact keyed.put t
  | delete id =>
    obtain rfl := deleteTimeline_ok made
    exact keyed.erase id
  | switch superseded next => exact keyed.commitSwitch made
  | failing onSwitch onDelete =>
    obtain rfl := Except.ok.inj made
    exact keyed

theorem Keyed.after (keyed : s.Keyed) (write : TimelineWrite) : (s.after write).Keyed := by
  rcases s.after_cases write with same | made
  · rw [same]
    exact keyed
  · exact keyed.attempt made

theorem Keyed.afterAll (keyed : s.Keyed) (writes : List TimelineWrite) :
    (s.afterAll writes).Keyed := by
  induction writes generalizing s with
  | nil => exact keyed
  | cons write rest ih => exact ih (keyed.after write)

/-- Whether the timeline that takes the place of a stored one has the order of yet another. -/
def overlaps (s : Store) : TimelineWrite → Bool
  | .create _ => false
  | .update t => t.orderTaken s.timelines.values
  | .delete _ => false
  | .switch none _ => false
  | .switch (some previous) next => previous.orderTaken (next :: s.timelines.values)
  | .failing _ _ => false

/-- Whether a write is made and leaves two timelines of an event type with one order. -/
def clashes (s : Store) (write : TimelineWrite) : Bool :=
  (s.attempt write).isOk && s.overlaps write

/-- Whether no write clashes when its turn comes. -/
def clashFree (s : Store) : List TimelineWrite → Bool
  | [] => true
  | write :: rest => !s.clashes write && (s.after write).clashFree rest

/-- Orders stay distinct when a timeline is put among others that do not have its order, and only
then. -/
theorem Keyed.ordersDistinct_put_iff (keyed : s.Keyed)
    (distinct : OrdersDistinct s.timelines.values) (t : Timeline) :
    OrdersDistinct (s.put t).timelines.values ↔ t.orderTaken s.timelines.values = false := by
  rw [Bool.eq_false_iff, ne_eq, orderTaken_iff]
  constructor
  · rintro distinct' ⟨u, inside, apart, named, order⟩
    have kept : u ∈ (s.put t).timelines.values := keyed.mem_put.2 (.inr ⟨inside, apart⟩)
    exact apart (congrArg Timeline.id (distinct' u kept t (keyed.mem_put.2 (.inl rfl)) named order))
  · intro free u inside v inside' named order
    rcases keyed.mem_put.1 inside with rfl | ⟨old, apart⟩
    · rcases keyed.mem_put.1 inside' with rfl | ⟨old', apart'⟩
      · rfl
      · exact absurd ⟨v, old', apart', named.symm, order.symm⟩ free
    · rcases keyed.mem_put.1 inside' with rfl | ⟨old', _⟩
      · exact absurd ⟨u, old, apart, named, order⟩ free
      · exact distinct u old v old' named order

/-- In a switch the order of the next timeline was free in the store, but the superseded one may
have been given another order or event type than it had. -/
theorem Keyed.ordersDistinct_switch_iff (keyed : s.Keyed)
    (distinct : OrdersDistinct s.timelines.values)
    (free : s.timelines.get? next.id = none) (stored : s.timelines.contains previous.id = true)
    (untaken : next.orderTaken s.timelines.values = false) :
    OrdersDistinct ((s.put previous).put next).timelines.values ↔
      previous.orderTaken (next :: s.timelines.values) = false := by
  have new := unstored_of_get? keyed free
  have apart : next.id ≠ previous.id := by
    intro same
    rw [Table.contains, ← same, free] at stored
    exact Bool.false_ne_true stored
  have keyed' := keyed.put previous
  rw [Bool.eq_false_iff, ne_eq, orderTaken_iff]
  constructor
  · rintro distinct' ⟨u, inside, other, named, order⟩
    have there : previous ∈ ((s.put previous).put next).timelines.values :=
      keyed'.mem_put.2 (.inr ⟨keyed.mem_put.2 (.inl rfl), apart.symm⟩)
    have there' : u ∈ ((s.put previous).put next).timelines.values := by
      rcases List.mem_cons.1 inside with rfl | old
      · exact keyed'.mem_put.2 (.inl rfl)
      · exact keyed'.mem_put.2 (.inr ⟨keyed.mem_put.2 (.inr ⟨old, other⟩), new u old⟩)
    exact other (congrArg Timeline.id (distinct' u there' previous there named order))
  · intro clear
    have clear' : previous.orderTaken s.timelines.values = false := by
      rw [Bool.eq_false_iff, ne_eq, orderTaken_iff]
      rintro ⟨u, inside, other⟩
      exact clear ⟨u, List.mem_cons_of_mem next inside, other⟩
    refine (keyed'.ordersDistinct_put_iff ?_ next).2 ?_
    · exact (keyed.ordersDistinct_put_iff distinct previous).2 clear'
    · rw [Bool.eq_false_iff, ne_eq, orderTaken_iff]
      rintro ⟨u, inside, other, named, order⟩
      rcases keyed.mem_put.1 inside with rfl | ⟨old, _⟩
      · exact clear ⟨next, List.mem_cons_self, apart, named.symm, order.symm⟩
      · exact order_free new untaken u old named order

theorem Keyed.ordersDistinct_after_iff (keyed : s.Keyed)
    (distinct : OrdersDistinct s.timelines.values) (write : TimelineWrite) :
    OrdersDistinct (s.after write).timelines.values ↔ s.clashes write = false := by
  rw [clashes, Store.after]
  cases made : s.attempt write with
  | error => exact iff_of_true distinct rfl
  | ok s' =>
    cases write with
    | create t =>
      obtain ⟨-, untaken, rfl⟩ := createTimeline_ok made
      exact iff_of_true ((keyed.ordersDistinct_put_iff distinct t).2 untaken) rfl
    | update t =>
      obtain ⟨-, rfl⟩ := updateTimeline_ok made
      exact keyed.ordersDistinct_put_iff distinct t
    | delete id =>
      obtain rfl := deleteTimeline_ok made
      refine iff_of_true (fun t inside u inside' => ?_) rfl
      exact distinct t ((keyed.mem_erase id).1 inside).1 u ((keyed.mem_erase id).1 inside').1
    | switch superseded next =>
      obtain ⟨free, untaken, active, rfl⟩ := commitSwitch_ok made
      cases superseded with
      | none => exact iff_of_true ((keyed.ordersDistinct_put_iff distinct next).2 untaken) rfl
      | some previous =>
        obtain ⟨a, found, _⟩ := keyed.get?_active active
        have stored : s.timelines.contains previous.id = true := by
          rw [Table.contains, found]
          rfl
        exact keyed.ordersDistinct_switch_iff distinct free stored untaken
    | failing onSwitch onDelete =>
      obtain rfl := Except.ok.inj made
      exact iff_of_true distinct rfl

theorem Keyed.ordersDistinct_afterAll_iff (keyed : s.Keyed)
    (distinct : OrdersDistinct s.timelines.values) (writes : List TimelineWrite) :
    (∀ n, OrdersDistinct (s.afterAll (writes.take n)).timelines.values) ↔
      s.clashFree writes = true := by
  induction writes generalizing s with
  | nil => exact iff_of_true (fun n => by rw [List.take_nil]; exact distinct) rfl
  | cons write rest ih =>
    have step := keyed.ordersDistinct_after_iff distinct write
    rw [clashFree, Bool.and_eq_true, Bool.not_eq_true']
    constructor
    · intro all
      have distinct' := all 1
      exact ⟨step.1 distinct', (ih (keyed.after write) distinct').1 fun n => all (n + 1)⟩
    · rintro ⟨clear, rest'⟩ n
      cases n with
      | zero => exact distinct
      | succ n =>
        exact (ih (keyed.after write) (step.2 clear)).2 rest' n

/-- The writes that are made to an empty store keep each timeline under its id. The orders within
an event type are distinct after each of them exactly if none puts a timeline over a stored one that
then has the order of yet another; and then the timelines alone, in whichever order the store has
them, determine which one is active and how they are listed. -/
theorem timelines_determined (writes : List TimelineWrite) :
    (Store.empty.afterAll writes).Keyed ∧
      ((∀ n, OrdersDistinct (Store.empty.afterAll (writes.take n)).timelines.values) ↔
        Store.empty.clashFree writes = true) ∧
      (Store.empty.clashFree writes = true → ∀ timelines : List Timeline,
        timelines.Perm (Store.empty.afterAll writes).timelines.values →
          (∀ e, Timeline.activeAmong e timelines = (Store.empty.afterAll writes).active? e) ∧
          ∀ filter, Timeline.listing filter timelines =
            (Store.empty.afterAll writes).listTimelines filter) := by
  have keyed : Store.empty.Keyed := fun id t found => nomatch found
  have distinct : OrdersDistinct Store.empty.timelines.values := fun t inside =>
    absurd inside List.not_mem_nil
  have all := keyed.ordersDistinct_afterAll_iff distinct writes
  refine ⟨keyed.afterAll writes, all, fun free timelines perm => ?_⟩
  have distinct' := all.2 free writes.length
  rw [List.take_length] at distinct'
  exact ⟨Timeline.activeAmong_of_perm distinct' perm, Timeline.listing_of_perm distinct' perm⟩

/-- A timeline for the writes of small stores; it is switched from the start. -/
def sample (id : BitVec 128) (order : Nat) : Timeline :=
  { Timeline.fresh ⟨id⟩ "orders" order ⟨"default", .inMemory, true⟩ "orders" (.ofMillis 0) with
    switchedAt := some (.ofMillis 0) }

/-- A first timeline, a switch, the record of an end, and a creation whose order is taken. -/
theorem timelines_determined_switched : ∃ writes : List TimelineWrite,
    Store.empty.clashFree writes = true ∧ (Store.empty.afterAll writes).timelines.values =
        [sample 1 1, { sample 2 0 with lastPosition := some (.ofList []) }] ∧
      ∀ timelines : List Timeline, timelines.Perm (Store.empty.afterAll writes).timelines.values →
        Timeline.activeAmong "orders" timelines = some (sample 1 1) := by
  let writes : List TimelineWrite := [.create (sample 2 0), .switch (some (sample 2 0)) (sample 1 1),
    .update { sample 2 0 with lastPosition := some (.ofList []) }, .create (sample 3 1)]
  have free : Store.empty.clashFree writes = true := by decide +kernel
  have active : (Store.empty.afterAll writes).active? "orders" = some (sample 1 1) := by
    decide +kernel
  refine ⟨writes, free, by decide +kernel, fun timelines perm => ?_⟩
  rw [← active]
  exact ((timelines_determined writes).2.2 free timelines perm).1 "orders"

/-- An update gives a timeline the order of another one, and then it matters in which order the
store has the two. -/
theorem order_taken_by_update : ∃ writes : List TimelineWrite,
    ¬ OrdersDistinct (Store.empty.afterAll writes).timelines.values ∧
      ∃ timelines : List Timeline, timelines.Perm (Store.empty.afterAll writes).timelines.values ∧
        Timeline.activeAmong "orders" timelines ≠
          (Store.empty.afterAll writes).active? "orders" := by
  let writes : List TimelineWrite :=
    [.create (sample 1 0), .create (sample 2 1), .update (sample 2 0)]
  have values : (Store.empty.afterAll writes).timelines.values = [sample 1 0, sample 2 0] := by
    decide +kernel
  refine ⟨writes, ?_, [sample 2 0, sample 1 0], ?_, ?_⟩
  · rw [values]
    intro distinct
    exact absurd (distinct (sample 1 0) (by decide) (sample 2 0) (by decide) rfl rfl) (by decide)
  · rw [values]
    exact .swap ..
  · rw [active?, values]
    decide

end Store

end Cutover
