import Cutover.Data.Table.Lemmas
import Cutover.Store.Basic
import Mathlib.Data.String.Basic

set_option autoImplicit false

namespace Cutover

namespace Timeline

variable {e : String} {timelines : List Timeline} {t a : Timeline}

theorem mem_listing {filter : TimelineFilter} :
    t ∈ listing filter timelines ↔ t ∈ timelines ∧ filter.admits t = true := by
  rw [listing, List.mem_mergeSort, List.mem_filter]

theorem admits_ofEventType : (TimelineFilter.ofEventType e).admits t = true ↔ t.eventType = e := by
  rw [TimelineFilter.admits, TimelineFilter.ofEventType]
  simp [eq_comm]

theorem precedes_trans (a b c : Timeline) (first : precedes a b = true)
    (second : precedes b c = true) : precedes a c = true := by
  simp only [precedes, Bool.or_eq_true, Bool.and_eq_true, decide_eq_true_eq] at *
  rcases first with less | ⟨same, order⟩ <;> rcases second with less' | ⟨same', order'⟩
  · exact .inl (less.trans less')
  · exact .inl (same' ▸ less)
  · exact .inl (same ▸ less')
  · exact .inr ⟨same.trans same', order.trans order'⟩

theorem precedes_total (a b : Timeline) : (precedes a b || precedes b a) = true := by
  simp only [precedes, Bool.or_eq_true, Bool.and_eq_true, decide_eq_true_eq]
  rcases lt_trichotomy a.eventType b.eventType with less | same | greater
  · exact .inl (.inl less)
  · rcases Nat.le_total a.order b.order with order | order
    · exact .inl (.inr ⟨same, order⟩)
    · exact .inr (.inr ⟨same.symm, order⟩)
  · exact .inr (.inl greater)

theorem listing_ordered :
    (listing (.ofEventType e) timelines).Pairwise fun a b => a.order ≤ b.order := by
  have sorted := List.pairwise_mergeSort precedes_trans precedes_total
    (timelines.filter (TimelineFilter.ofEventType e).admits)
  refine List.Pairwise.imp_of_mem ?_ sorted
  intro a b inside inside' before
  have named := admits_ofEventType.1 (mem_listing.1 inside).2
  have named' := admits_ofEventType.1 (mem_listing.1 inside').2
  simp only [precedes, Bool.or_eq_true, Bool.and_eq_true, decide_eq_true_eq] at before
  rcases before with less | ⟨_, order⟩
  · rw [named, named'] at less
    exact absurd less (lt_irrefl e)
  · exact order

theorem nodup_listing (filter : TimelineFilter) (distinct : timelines.Nodup) :
    (listing filter timelines).Nodup :=
  (List.mergeSort_perm _ _).nodup_iff.2 (distinct.filter _)

/-- The later of two timelines is one of them, and neither of them has a higher order. -/
theorem later_spec (best : Option Timeline) (t : Timeline) :
    ∃ c, later best t = some c ∧ (best = some c ∨ c = t) ∧
      (∀ b, best = some b → b.order ≤ c.order) ∧ t.order ≤ c.order := by
  cases best with
  | none => exact ⟨t, rfl, .inr rfl, fun _ none => (Option.some_ne_none _ none.symm).elim, le_rfl⟩
  | some b =>
    by_cases order : b.order ≤ t.order
    · refine ⟨t, if_pos order, .inr rfl, fun c same => ?_, le_rfl⟩
      exact Option.some_inj.1 same ▸ order
    · refine ⟨b, if_neg order, .inl rfl, fun c same => ?_, Nat.le_of_not_le order⟩
      exact Option.some_inj.1 same ▸ le_rfl

theorem foldl_later_eq_none {best : Option Timeline} (none : timelines.foldl later best = none) :
    best = .none ∧ timelines = [] := by
  induction timelines generalizing best with
  | nil => exact ⟨none, rfl⟩
  | cons t rest ih =>
    obtain ⟨c, step, _⟩ := later_spec best t
    exact absurd (step.symm.trans (ih none).1) (Option.some_ne_none c)

/-- The latest of some timelines is one of them, and none of them has a higher order. -/
theorem foldl_later {best : Option Timeline} (found : timelines.foldl later best = some a) :
    (best = some a ∨ a ∈ timelines) ∧ (∀ b, best = some b → b.order ≤ a.order) ∧
      ∀ t ∈ timelines, t.order ≤ a.order := by
  induction timelines generalizing best with
  | nil =>
    refine ⟨.inl found, ?_, fun t inside => absurd inside List.not_mem_nil⟩
    intro b same
    obtain rfl := Option.some_inj.1 (same.symm.trans found)
    exact le_rfl
  | cons t rest ih =>
    obtain ⟨from', highest, all⟩ := ih found
    obtain ⟨c, step, which, above, order⟩ := later_spec best t
    have below : c.order ≤ a.order := highest c step
    refine ⟨?_, fun b same => (above b same).trans below, ?_⟩
    · rcases from' with here | later
      · obtain rfl := Option.some_inj.1 (step.symm.trans here)
        rcases which with old | rfl
        · exact .inl old
        · exact .inr List.mem_cons_self
      · exact .inr (List.mem_cons_of_mem t later)
    · intro u inside
      rcases List.mem_cons.1 inside with rfl | other
      · exact order.trans below
      · exact all u other

end Timeline

namespace Store

variable {s s' : Store} {e : String} {t u a next previous : Timeline} {id : Uuid}

/-- The active timeline is a stored and switched one, and no other has a higher order. -/
theorem active_spec (active : s.active? e = some a) :
    a ∈ s.timelines.values ∧ a.eventType = e ∧ a.isSwitched = true ∧
      ∀ t ∈ s.timelines.values, t.eventType = e → t.isSwitched = true → t.order ≤ a.order := by
  obtain ⟨from', _, highest⟩ := Timeline.foldl_later active
  have member := from'.resolve_left fun none => (Option.some_ne_none a none.symm).elim
  rw [List.mem_filter, Bool.and_eq_true, decide_eq_true_eq] at member
  refine ⟨member.1, member.2.1, member.2.2, ?_⟩
  intro t inside named switched
  apply highest t
  rw [List.mem_filter, Bool.and_eq_true, decide_eq_true_eq]
  exact ⟨inside, named, switched⟩

theorem active_none (none : s.active? e = .none) :
    ∀ t ∈ s.timelines.values, t.eventType = e → t.isSwitched = false := by
  intro t inside named
  have empty := (Timeline.foldl_later_eq_none none).2
  rw [List.filter_eq_nil_iff] at empty
  have refused := empty t inside
  rw [Bool.and_eq_true, decide_eq_true_eq, not_and] at refused
  exact Bool.eq_false_iff.2 (refused named)

/-- A switched timeline is the active one if no other of its event type has as high an order. -/
theorem active_of_highest (inside : t ∈ s.timelines.values)
    (switched : t.isSwitched = true) (highest : ∀ u ∈ s.timelines.values,
      u.eventType = t.eventType → u.isSwitched = true → u = t ∨ u.order < t.order) :
    s.active? t.eventType = some t := by
  cases found : s.active? t.eventType with
  | none => exact absurd switched (Bool.eq_false_iff.1 (active_none found t inside rfl))
  | some a =>
    obtain ⟨member, named, switched', above⟩ := active_spec found
    rcases highest a member named switched' with rfl | below
    · rfl
    · exact absurd (above t inside rfl switched) (Nat.not_le.2 below)

def Keyed (s : Store) : Prop := ∀ id t, s.timelines.get? id = some t → t.id = id

theorem Keyed.mem_iff (keyed : s.Keyed) :
    t ∈ s.timelines.values ↔ s.timelines.get? t.id = some t := by
  rw [Table.mem_values_iff]
  constructor
  · rintro ⟨id, found⟩
    rw [keyed id t found, found]
  · exact fun found => ⟨t.id, found⟩

theorem Keyed.eq_of_id (keyed : s.Keyed) (stored : t ∈ s.timelines.values)
    (other : u ∈ s.timelines.values) (same : t.id = u.id) : t = u := by
  rw [keyed.mem_iff] at stored other
  rw [same, other] at stored
  exact (Option.some_inj.1 stored).symm

theorem mem_of_put (inside : t ∈ (s.put u).timelines.values) :
    t = u ∨ t ∈ s.timelines.values := by
  obtain ⟨id, found⟩ := Table.mem_values_iff.1 inside
  by_cases same : id = u.id
  · rw [same, put, Table.get?_insert_self] at found
    exact .inl (Option.some_inj.1 found).symm
  · rw [put, Table.get?_insert_of_ne _ _ same] at found
    exact .inr (Table.mem_values_iff.2 ⟨id, found⟩)

theorem Keyed.put (keyed : s.Keyed) (a : Timeline) : (s.put a).Keyed := by
  intro id t found
  by_cases same : id = a.id
  · rw [same, Store.put, Table.get?_insert_self] at found
    rw [← Option.some_inj.1 found, same]
  · rw [Store.put, Table.get?_insert_of_ne _ _ same] at found
    exact keyed id t found

theorem Keyed.mem_put (keyed : s.Keyed) :
    t ∈ (s.put a).timelines.values ↔ t = a ∨ (t ∈ s.timelines.values ∧ t.id ≠ a.id) := by
  rw [(keyed.put a).mem_iff, keyed.mem_iff, Store.put]
  by_cases same : t.id = a.id
  · rw [same, Table.get?_insert_self, Option.some_inj]
    simp [eq_comm]
  · rw [Table.get?_insert_of_ne _ _ same]
    have apart : t ≠ a := fun equal => same (equal ▸ rfl)
    simp [same, apart]

theorem Keyed.erase (keyed : s.Keyed) (id : Uuid) :
    ({ s with timelines := s.timelines.erase id } : Store).Keyed := by
  intro id' t found
  by_cases same : id' = id
  · rw [same, Table.get?_erase_self] at found
    exact nomatch found
  · exact keyed id' t ((Table.get?_erase_of_ne _ same).symm.trans found)

theorem Keyed.mem_erase (keyed : s.Keyed) (id : Uuid) :
    t ∈ (s.timelines.erase id).values ↔ t ∈ s.timelines.values ∧ t.id ≠ id := by
  rw [(keyed.erase id).mem_iff, keyed.mem_iff]
  by_cases same : t.id = id
  · rw [same, Table.get?_erase_self]
    exact iff_of_false nofun fun both => both.2 rfl
  · rw [Table.get?_erase_of_ne _ same, and_iff_left same]

theorem unstored_of_get? (keyed : s.Keyed) (free : s.timelines.get? id = none) :
    ∀ t ∈ s.timelines.values, t.id ≠ id := by
  rintro t inside rfl
  rw [keyed.mem_iff, free] at inside
  exact nomatch inside

theorem order_free (free : ∀ t ∈ s.timelines.values, t.id ≠ next.id)
    (untaken : next.orderTaken s.timelines.values = false) :
    ∀ t ∈ s.timelines.values, t.eventType = next.eventType → t.order ≠ next.order := by
  intro t inside named order
  rw [Timeline.orderTaken, List.any_eq_false] at untaken
  have refused := untaken t inside
  simp [free t inside, named, order] at refused

theorem orderTaken_spec (taken : next.orderTaken s.timelines.values = true) :
    ∃ t ∈ s.timelines.values, t.eventType = next.eventType ∧ t.order = next.order := by
  rw [Timeline.orderTaken, List.any_eq_true] at taken
  obtain ⟨t, inside, same⟩ := taken
  simp only [Bool.and_eq_true, decide_eq_true_eq] at same
  exact ⟨t, inside, same.1.2, same.2⟩

theorem createTimeline_ok (created : s.createTimeline next = .ok s') :
    s.timelines.get? next.id = none ∧ next.orderTaken s.timelines.values = false ∧
      s' = s.put next := by
  rw [createTimeline] at created
  split at created
  · exact nomatch created
  · next free =>
    split at created
    · exact nomatch created
    · next untaken =>
      refine ⟨?_, Bool.eq_false_iff.2 untaken, (Except.ok.inj created).symm⟩
      simpa [Table.contains] using free

theorem createTimeline_error {error : StoreError} (refused : s.createTimeline next = .error error) :
    (∃ t, s.timelines.get? next.id = some t) ∨ next.orderTaken s.timelines.values = true ∧
      error = .duplicate ("timeline " ++ next.eventType ++ " order " ++ Text.ofNat next.order) := by
  rw [createTimeline] at refused
  split at refused
  · next taken => exact .inl (Option.isSome_iff_exists.1 taken)
  · split at refused
    · next taken => exact .inr ⟨taken, (Except.error.inj refused).symm⟩
    · exact nomatch refused

theorem deleteTimeline_ok (deleted : s.deleteTimeline id = .ok s') :
    s' = { s with timelines := s.timelines.erase id } := by
  rw [deleteTimeline] at deleted
  split at deleted
  · exact nomatch deleted
  · split at deleted
    · exact (Except.ok.inj deleted).symm
    · exact nomatch deleted

theorem commitSwitch_ok {superseded : Option Timeline}
    (committed : s.commitSwitch superseded next = .ok s') :
    s.timelines.get? next.id = none ∧ next.orderTaken s.timelines.values = false ∧
      (s.active? next.eventType).map (·.id) = superseded.map (·.id) ∧
      s' = (superseded.elim s s.put).put next := by
  unfold commitSwitch at committed
  split at committed
  · exact nomatch committed
  · split at committed
    · exact nomatch committed
    · split at committed
      · exact nomatch committed
      · next free =>
        split at committed
        · exact nomatch committed
        · next admitted =>
          rw [not_or, not_not] at admitted
          refine ⟨?_, Bool.eq_false_iff.2 admitted.2, admitted.1, ?_⟩
          · simpa [Table.contains] using free
          · cases superseded with
            | none => exact (Except.ok.inj committed).symm
            | some previous => exact (Except.ok.inj committed).symm

theorem commitSwitch_error {superseded : Option Timeline} {error : StoreError}
    (refused : s.commitSwitch superseded next = .error error) :
    (s.failSwitch = true ∧ error = .database "mock switch failure") ∨
    (∃ previous, superseded = some previous ∧ s.timelines.get? previous.id = none ∧
      error = .timelineNotFound previous.id) ∨
    (∃ t, s.timelines.get? next.id = some t ∧ error = .duplicate ("timeline " ++ next.id.text)) ∨
    (((s.active? next.eventType).map (·.id) ≠ superseded.map (·.id) ∨
      next.orderTaken s.timelines.values = true) ∧ error = .conflict next.eventType) := by
  unfold commitSwitch at refused
  split at refused
  · next failing => exact .inl ⟨failing, (Except.error.inj refused).symm⟩
  split at refused
  · next previous missing =>
    obtain ⟨same, unstored⟩ := Option.filter_eq_some_iff.1 missing
    refine .inr (.inl ⟨previous, same, ?_, (Except.error.inj refused).symm⟩)
    simpa [Table.contains] using unstored
  split at refused
  · next taken =>
    obtain ⟨t, found⟩ := Option.isSome_iff_exists.1 taken
    exact .inr (.inr (.inl ⟨t, found, (Except.error.inj refused).symm⟩))
  split at refused
  · next mismatch => exact .inr (.inr (.inr ⟨mismatch, (Except.error.inj refused).symm⟩))
  · cases superseded with
    | none => cases refused
    | some previous => cases refused

end Store

end Cutover
