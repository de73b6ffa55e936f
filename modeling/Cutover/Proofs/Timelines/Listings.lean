import Cutover.Proofs.Timelines.Orders
import Cutover.Text.Bytes
import Mathlib.Data.List.Pairwise

set_option autoImplicit false

namespace Cutover

namespace Timeline

variable {e : String} {t u : Timeline} {timelines : List Timeline}

/-- Where listings have a timeline: by the bytes of its event type, then by its order. -/
def Before (t u : Timeline) : Prop :=
  Text.bytes t.eventType < Text.bytes u.eventType ∨ t.eventType = u.eventType ∧ t.order < u.order

/-- No two of the timelines have both the event type and the order in common. -/
def OrdersApart (timelines : List Timeline) : Prop :=
  timelines.Pairwise fun t u => t.eventType = u.eventType → t.order ≠ u.order

instance : Decidable (OrdersApart timelines) :=
  inferInstanceAs (Decidable (timelines.Pairwise _))

theorem OrdersApart.filter (apart : OrdersApart timelines) (p : Timeline → Bool) :
    OrdersApart (timelines.filter p) :=
  List.Pairwise.filter p apart

theorem OrdersApart.perm {others : List Timeline} (apart : OrdersApart timelines)
    (perm : timelines.Perm others) : OrdersApart others :=
  List.Pairwise.perm apart perm fun differ same order => differ same.symm order.symm

theorem OrdersApart.distinct (apart : OrdersApart timelines) : OrdersDistinct timelines := by
  have symmetric : Std.Symm fun t u : Timeline => t.eventType = u.eventType → t.order ≠ u.order :=
    ⟨fun t u differ same order => differ same.symm order.symm⟩
  intro t inside u inside' named order
  by_contra differ
  exact List.Pairwise.forall apart inside inside' differ named order

theorem OrdersApart.nodup (apart : OrdersApart timelines) : timelines.Nodup :=
  List.Pairwise.imp (fun differ same => differ (congrArg eventType same) (congrArg order same)) apart

theorem admits_iff {filter : TimelineFilter} : filter.admits t = true ↔
    (∀ e, filter.eventType = some e → t.eventType = e) ∧
      ∀ id, filter.storage = some id → t.storage.id = id := by
  obtain ⟨named, placed⟩ := filter
  rw [TimelineFilter.admits]
  cases named <;> cases placed <;> simp [eq_comm (a := t.eventType), eq_comm (a := t.storage.id)]

theorem listing_perm (filter : TimelineFilter) (timelines : List Timeline) :
    (listing filter timelines).Perm (timelines.filter filter.admits) :=
  List.mergeSort_perm _ _

/-- What comes first by event type and order comes strictly first if these differ. -/
theorem before_of_precedes (precedes : t.precedes u = true)
    (differ : t.eventType = u.eventType → t.order ≠ u.order) : t.Before u := by
  rw [Timeline.precedes, Bool.or_eq_true, Bool.and_eq_true, decide_eq_true_eq, decide_eq_true_eq,
    decide_eq_true_eq] at precedes
  rcases precedes with less | ⟨same, order⟩
  · exact .inl ((Text.lt_iff_bytes_lt _ _).1 less)
  · exact .inr ⟨same, Nat.lt_of_le_of_ne order (differ same)⟩

theorem OrdersApart.listing (apart : OrdersApart timelines) (filter : TimelineFilter) :
    (listing filter timelines).Pairwise Before := by
  have sorted : (Timeline.listing filter timelines).Pairwise (precedes · · = true) :=
    List.pairwise_mergeSort precedes_trans precedes_total _
  have apart' := (apart.filter filter.admits).perm (listing_perm filter timelines).symm
  exact (sorted.and apart').imp fun both => before_of_precedes both.1 both.2

theorem foldl_later_eq_getLast? {best : Option Timeline}
    (ordered : timelines.Pairwise fun t u => t.order ≤ u.order)
    (above : ∀ b, best = some b → ∀ t ∈ timelines, b.order ≤ t.order) :
    timelines.foldl later best = timelines.getLast?.or best := by
  induction timelines generalizing best with
  | nil => rfl
  | cons t rest ih =>
    obtain ⟨highest, ordered'⟩ := List.pairwise_cons.1 ordered
    have replaced : later best t = some t := by
      cases best with
      | none => rfl
      | some b => exact if_pos (above b rfl t List.mem_cons_self)
    have above' : ∀ b, some t = some b → ∀ u ∈ rest, b.order ≤ u.order := by
      rintro b ⟨⟩
      exact highest
    rw [List.foldl_cons, replaced, ih ordered' above', List.getLast?_cons]
    cases rest.getLast? <;> rfl

theorem activeAmong_filter (e : String) (timelines : List Timeline) :
    activeAmong e (timelines.filter (TimelineFilter.ofEventType e).admits) =
      activeAmong e timelines := by
  rw [activeAmong, activeAmong, List.filter_filter]
  congr 1
  apply List.filter_congr
  intro t inside
  have named := admits_ofEventType (e := e) (t := t)
  cases admitted : (TimelineFilter.ofEventType e).admits t with
  | true => simp
  | false =>
    have other : t.eventType ≠ e := by simpa [admitted] using named
    simp [other]

theorem OrdersApart.activeAmong (apart : OrdersApart timelines) (e : String) :
    activeAmong e timelines =
      ((Timeline.listing (.ofEventType e) timelines).filter (·.isSwitched)).getLast? := by
  have distinct := (apart.filter (TimelineFilter.ofEventType e).admits).distinct
  have listed := activeAmong_of_perm distinct (listing_perm (.ofEventType e) timelines) e
  have switched : (Timeline.listing (.ofEventType e) timelines).filter
        (fun t => t.eventType = e && t.isSwitched) =
      (Timeline.listing (.ofEventType e) timelines).filter (·.isSwitched) := by
    apply List.filter_congr
    intro t inside
    have named := admits_ofEventType.1 (mem_listing.1 inside).2
    simp [named]
  rw [← activeAmong_filter, ← listed, Timeline.activeAmong, switched,
    foldl_later_eq_getLast? (listing_ordered.filter _) (by simp), Option.or_none]

end Timeline

namespace Store

open Timeline (OrdersApart Before)

/-- Where no two timelines of an event type have one order, a listing has each of the timelines that
match its filter once, by the bytes of the event types and then by order. It is the same however the
store walks through its timelines, as is the active timeline of each event type, which is the last
in the listing of the event type that is switched to. -/
theorem listings_determined {s : Store} (apart : OrdersApart s.timelines.values)
    (filter : TimelineFilter) :
    ((∀ t, t ∈ s.listTimelines filter ↔ t ∈ s.timelines.values ∧
        (∀ e, filter.eventType = some e → t.eventType = e) ∧
        ∀ id, filter.storage = some id → t.storage.id = id) ∧
      (s.listTimelines filter).Nodup ∧ (s.listTimelines filter).Pairwise Before) ∧
    (∀ timelines : List Timeline, timelines.Perm s.timelines.values →
      Timeline.listing filter timelines = s.listTimelines filter ∧
        ∀ e, Timeline.activeAmong e timelines = s.active? e) ∧
    ∀ e, s.active? e =
      ((s.listTimelines (.ofEventType e)).filter (·.isSwitched)).getLast? := by
  refine ⟨⟨fun t => ?_, ?_, apart.listing filter⟩, fun timelines perm => ⟨?_, ?_⟩, ?_⟩
  · exact Timeline.mem_listing.trans (and_congr_right fun _ => Timeline.admits_iff)
  · exact Timeline.nodup_listing filter apart.nodup
  · exact Timeline.listing_of_perm apart.distinct perm filter
  · exact Timeline.activeAmong_of_perm apart.distinct perm
  · exact apart.activeAmong

/-- Two event types of which the second one's timelines are stored in the other order; capital
letters are listed first. -/
theorem listings_determined_capital : ∃ s : Store, OrdersApart s.timelines.values ∧
    s.timelines.values = [sample 1 1, { sample 2 0 with eventType := "Orders" }, sample 3 0] ∧
    ∀ timelines : List Timeline, timelines.Perm s.timelines.values →
      Timeline.listing ⟨none, none⟩ timelines =
        [{ sample 2 0 with eventType := "Orders" }, sample 3 0, sample 1 1] ∧
      Timeline.activeAmong "orders" timelines = some (sample 1 1) := by
  let s : Store := Store.empty.afterAll [.create (sample 3 0),
    .create { sample 2 0 with eventType := "Orders" }, .create (sample 1 1)]
  let expected : List Timeline :=
    [{ sample 2 0 with eventType := "Orders" }, sample 3 0, sample 1 1]
  have apart : OrdersApart s.timelines.values := by decide +kernel
  have determined := (listings_determined apart ⟨none, none⟩).2.1
  have sorted : Timeline.listing ⟨none, none⟩ expected = expected :=
    List.mergeSort_of_pairwise (by decide +kernel)
  have listed := (determined expected (by decide +kernel)).1.symm.trans sorted
  have active : s.active? "orders" = some (sample 1 1) := by decide +kernel
  refine ⟨s, apart, by decide +kernel, fun timelines perm => ?_⟩
  exact ⟨(determined timelines perm).1.trans listed,
    ((determined timelines perm).2 "orders").trans active⟩

end Store

end Cutover
