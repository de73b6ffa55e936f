import Cutover.Proofs.Timelines.Stored
import Mathlib.Data.List.Induction

set_option autoImplicit false

namespace Cutover.Store

/-- All stored timelines are genuine and switched; those of an event type have orders of their own,
without a gap below any, and a timeline has ended if and only if another follows it. -/
structure Sequenced (s : Store) : Prop where
  keyed : s.Keyed
  genuine : ∀ t ∈ s.timelines.values, t.isSwitched = true ∧ t.fake = false ∧ t.id ≠ .nil
  unique : ∀ t ∈ s.timelines.values, ∀ u ∈ s.timelines.values, t.eventType = u.eventType →
    t.order = u.order → t = u
  connected : ∀ t ∈ s.timelines.values, ∀ k, t.order = k + 1 →
    ∃ u ∈ s.timelines.values, u.eventType = t.eventType ∧ u.order = k
  ended : ∀ t ∈ s.timelines.values, t.lastPosition.isSome = true ↔
    ∃ u ∈ s.timelines.values, u.eventType = t.eventType ∧ u.order = t.order + 1

variable {s s' : Store} {e : String} {t next previous a : Timeline}

theorem sequenced_of_no_timelines (none : s.timelines = .empty) : s.Sequenced := by
  have values : s.timelines.values = [] := by
    rw [none]
    rfl
  refine ⟨?_, ?_, ?_, ?_, ?_⟩
  · intro id t found
    rw [none] at found
    exact nomatch found
  all_goals
    intro t inside
    rw [values] at inside
    exact nomatch inside

theorem Sequenced.of_timelines_eq (sequenced : s.Sequenced) (same : s'.timelines = s.timelines) :
    s'.Sequenced := by
  refine ⟨?_, ?_, ?_, ?_, ?_⟩
  · rw [Keyed, same]
    exact sequenced.keyed
  · rw [same]
    exact sequenced.genuine
  · rw [same]
    exact sequenced.unique
  · rw [same]
    exact sequenced.connected
  · rw [same]
    exact sequenced.ended

theorem Sequenced.below (sequenced : s.Sequenced) (inside : t ∈ s.timelines.values) {k : Nat}
    (below : k ≤ t.order) : ∃ u ∈ s.timelines.values, u.eventType = t.eventType ∧ u.order = k := by
  induction below using Nat.decreasingInduction with
  | self => exact ⟨t, inside, rfl, rfl⟩
  | of_succ k _ ih =>
    obtain ⟨u, stored, named, order⟩ := ih
    obtain ⟨v, stored', named', order'⟩ := sequenced.connected u stored k order
    exact ⟨v, stored', named'.trans named, order'⟩

theorem Sequenced.active_highest (sequenced : s.Sequenced) (active : s.active? e = some a)
    (inside : t ∈ s.timelines.values) (named : t.eventType = e) : t.order ≤ a.order :=
  (active_spec active).2.2.2 t inside named (sequenced.genuine t inside).1

/-- A timeline is the active one if and only if no other of its event type has a higher order. -/
theorem Sequenced.active_iff (sequenced : s.Sequenced) :
    s.active? e = some a ↔ a ∈ s.timelines.values ∧ a.eventType = e ∧
      ∀ t ∈ s.timelines.values, t.eventType = e → t.order ≤ a.order := by
  constructor
  · intro active
    obtain ⟨inside, named, _, _⟩ := active_spec active
    exact ⟨inside, named, fun t stored => sequenced.active_highest active stored⟩
  · rintro ⟨inside, named, highest⟩
    cases active : s.active? e with
    | none =>
      have refused := active_none active a inside named
      rw [(sequenced.genuine a inside).1] at refused
      exact nomatch refused
    | some b =>
      obtain ⟨inside', named', _, _⟩ := active_spec active
      have order := Nat.le_antisymm (highest b inside' named')
        (sequenced.active_highest active inside named)
      rw [sequenced.unique b inside' a inside (named'.trans named.symm) order]

theorem Sequenced.active_none_iff (sequenced : s.Sequenced) :
    s.active? e = none ↔ ∀ t ∈ s.timelines.values, t.eventType ≠ e := by
  constructor
  · intro none t inside named
    have refused := active_none none t inside named
    rw [(sequenced.genuine t inside).1] at refused
    exact nomatch refused
  · intro absent
    rw [Option.eq_none_iff_forall_ne_some]
    intro a active
    obtain ⟨inside, named, _, _⟩ := active_spec active
    exact absent a inside named

theorem Sequenced.active_open (sequenced : s.Sequenced) (active : s.active? e = some a) :
    a.lastPosition = none := by
  obtain ⟨inside, named, _, _⟩ := active_spec active
  cases last : a.lastPosition with
  | none => rfl
  | some position =>
    have ended : a.lastPosition.isSome = true := by rw [last]; rfl
    obtain ⟨u, stored, named', order⟩ := (sequenced.ended a inside).1 ended
    have := sequenced.active_highest active stored (named'.trans named)
    omega

theorem Sequenced.put_first (sequenced : s.Sequenced)
    (new : ∀ t ∈ s.timelines.values, t.id ≠ next.id)
    (free : ∀ t ∈ s.timelines.values, t.eventType = next.eventType → t.order ≠ next.order)
    (first : next.order = 0) (genuine : next.isSwitched = true ∧ next.fake = false ∧ next.id ≠ .nil)
    (unended : next.lastPosition = none) : (s.put next).Sequenced := by
  have absent : ∀ t ∈ s.timelines.values, t.eventType ≠ next.eventType := by
    intro t inside named
    obtain ⟨u, stored, named', order⟩ := sequenced.below inside (Nat.zero_le _)
    exact free u stored (named'.trans named) (order.trans first.symm)
  have stored : ∀ {t}, t ∈ (s.put next).timelines.values ↔ t = next ∨ t ∈ s.timelines.values := by
    intro t
    rw [sequenced.keyed.mem_put]
    exact or_congr_right ⟨fun both => both.1, fun inside => ⟨inside, new t inside⟩⟩
  refine ⟨sequenced.keyed.put next, ?genuine, ?unique, ?connected, ?ended⟩
  case genuine =>
    intro t inside
    rcases stored.1 inside with rfl | old
    · exact genuine
    · exact sequenced.genuine t old
  case unique =>
    intro t inside u inside' named order
    rcases stored.1 inside with rfl | old <;> rcases stored.1 inside' with rfl | old'
    · rfl
    · exact absurd named.symm (absent u old')
    · exact absurd named (absent t old)
    · exact sequenced.unique t old u old' named order
  case connected =>
    intro t inside k order
    rcases stored.1 inside with rfl | old
    · omega
    · obtain ⟨u, below, named, order'⟩ := sequenced.connected t old k order
      exact ⟨u, stored.2 (.inr below), named, order'⟩
  case ended =>
    intro t inside
    rcases stored.1 inside with rfl | old
    · refine iff_of_false (by rw [unended]; exact nofun) ?_
      rintro ⟨u, inside', named, order⟩
      rcases stored.1 inside' with rfl | old'
      · omega
      · exact absent u old' named
    · rw [sequenced.ended t old]
      constructor
      · rintro ⟨u, follows, both⟩
        exact ⟨u, stored.2 (.inr follows), both⟩
      · rintro ⟨u, follows, named, order⟩
        rcases stored.1 follows with rfl | old'
        · exact absurd named.symm (absent t old)
        · exact ⟨u, old', named, order⟩

/-- The store after a switch: the active timeline has ended and the next one is there. -/
def switched (s : Store) (a next : Timeline) (position : Position) : Store :=
  (s.put { a with lastPosition := some position }).put next

theorem Keyed.mem_switched (keyed : s.Keyed) (position : Position)
    (inside : a ∈ s.timelines.values) (new : ∀ t ∈ s.timelines.values, t.id ≠ next.id)
    (t : Timeline) :
    t ∈ (s.switched a next position).timelines.values ↔
      t = next ∨ t = { a with lastPosition := some position } ∨
        (t ∈ s.timelines.values ∧ t ≠ a) := by
  rw [switched, (keyed.put _).mem_put, keyed.mem_put]
  refine or_congr_right ?_
  constructor
  · rintro ⟨rfl | ⟨old, apart⟩, _⟩
    · exact .inl rfl
    · exact .inr ⟨old, fun same => apart (same ▸ rfl)⟩
  · rintro (rfl | ⟨old, apart⟩)
    · exact ⟨.inl rfl, new a inside⟩
    · exact ⟨.inr ⟨old, fun same => apart (keyed.eq_of_id old inside same)⟩, new t old⟩

theorem Keyed.switched_keeps (keyed : s.Keyed) (position : Position)
    (inside : a ∈ s.timelines.values) (new : ∀ t ∈ s.timelines.values, t.id ≠ next.id)
    {u : Timeline} (old : u ∈ s.timelines.values) :
    ∃ v ∈ (s.switched a next position).timelines.values,
      v.eventType = u.eventType ∧ v.order = u.order := by
  have stored := keyed.mem_switched position inside new
  by_cases same : u = a
  · exact ⟨_, (stored _).2 (.inr (.inl rfl)), same ▸ rfl, same ▸ rfl⟩
  · exact ⟨u, (stored u).2 (.inr (.inr ⟨old, same⟩)), rfl, rfl⟩

theorem Sequenced.switched (sequenced : s.Sequenced) (position : Position)
    (active : s.active? next.eventType = some a)
    (new : ∀ t ∈ s.timelines.values, t.id ≠ next.id) (follows : next.order = a.order + 1)
    (genuine : next.isSwitched = true ∧ next.fake = false ∧ next.id ≠ .nil)
    (unended : next.lastPosition = none) : (s.switched a next position).Sequenced := by
  obtain ⟨inside, named, highest⟩ := sequenced.active_iff.1 active
  have stored := sequenced.keyed.mem_switched position inside new
  -- An order above that of the active timeline is that of the next one.
  have above : ∀ t ∈ s.timelines.values, t.eventType = next.eventType → t.order ≠ next.order := by
    intro t old named' order
    have := highest t old named'
    omega
  -- The order of the active timeline is taken by no other.
  have alone : ∀ t ∈ s.timelines.values, t ≠ a → t.eventType = a.eventType → t.order ≠ a.order :=
    fun t old apart named' order => apart (sequenced.unique t old a inside named' order)
  refine ⟨(sequenced.keyed.put _).put next, ?genuine, ?unique, ?connected, ?ended⟩
  case genuine =>
    intro t member
    rcases (stored t).1 member with rfl | rfl | ⟨old, _⟩
    · exact genuine
    · exact sequenced.genuine a inside
    · exact sequenced.genuine t old
  case unique =>
    intro t member u member' named' order
    rcases (stored t).1 member with rfl | rfl | ⟨old, apart⟩ <;>
      rcases (stored u).1 member' with rfl | rfl | ⟨old', apart'⟩
    · rfl
    · exact absurd order.symm (above a inside named)
    · exact absurd order.symm (above u old' named'.symm)
    · exact absurd order (above a inside named)
    · rfl
    · exact absurd order.symm (alone u old' apart' named'.symm)
    · exact absurd order (above t old named')
    · exact absurd order (alone t old apart named')
    · exact sequenced.unique t old u old' named' order
  case connected =>
    intro t member k order
    have connect : ∀ u ∈ s.timelines.values, u.order = k + 1 →
        ∃ v ∈ (s.switched a next position).timelines.values,
          v.eventType = u.eventType ∧ v.order = k := by
      intro u old order'
      obtain ⟨w, below, named', order''⟩ := sequenced.connected u old k order'
      obtain ⟨v, kept, named'', order'''⟩ :=
        sequenced.keyed.switched_keeps position inside new below
      exact ⟨v, kept, named''.trans named', order'''.trans order''⟩
    rcases (stored t).1 member with rfl | rfl | ⟨old, _⟩
    · refine ⟨_, (stored _).2 (.inr (.inl rfl)), named, ?_⟩
      change a.order = k
      omega
    · exact connect a inside order
    · exact connect t old order
  case ended =>
    intro t member
    rcases (stored t).1 member with rfl | rfl | ⟨old, apart⟩
    · refine iff_of_false (by rw [unended]; exact nofun) ?_
      rintro ⟨u, member', named', order⟩
      rcases (stored u).1 member' with rfl | rfl | ⟨old', _⟩
      · omega
      · change a.order = t.order + 1 at order
        omega
      · have := highest u old' named'
        omega
    · exact iff_of_true rfl ⟨next, (stored next).2 (.inl rfl), named.symm, follows⟩
    · rw [sequenced.ended t old]
      constructor
      · rintro ⟨u, old', named', order⟩
        obtain ⟨v, kept, named'', order'⟩ :=
          sequenced.keyed.switched_keeps position inside new old'
        exact ⟨v, kept, named''.trans named', order'.trans order⟩
      · rintro ⟨u, member', named', order⟩
        rcases (stored u).1 member' with rfl | rfl | ⟨old', _⟩
        · refine absurd ?_ (alone t old apart (named'.symm.trans named.symm))
          omega
        · exact ⟨a, inside, named', order⟩
        · exact ⟨u, old', named', order⟩

theorem Sequenced.delete_first (sequenced : s.Sequenced) (active : s.active? e = some a)
    (first : a.order = 0) :
    ({ s with timelines := s.timelines.erase a.id } : Store).Sequenced := by
  obtain ⟨inside, named, highest⟩ := sequenced.active_iff.1 active
  -- No other timeline of the event type is stored.
  have only : ∀ t ∈ s.timelines.values, t.eventType = e → t = a := by
    intro t old named'
    have := highest t old named'
    exact sequenced.unique t old a inside (named'.trans named.symm) (by omega)
  have stored : ∀ t, t ∈ (s.timelines.erase a.id).values ↔
      t ∈ s.timelines.values ∧ t.eventType ≠ e := by
    intro t
    rw [sequenced.keyed.mem_erase]
    refine and_congr_right fun old => not_congr ?_
    constructor
    · intro same
      rw [sequenced.keyed.eq_of_id old inside same, named]
    · exact fun named' => congrArg Timeline.id (only t old named')
  refine ⟨sequenced.keyed.erase a.id, ?genuine, ?unique, ?connected, ?ended⟩
  case genuine =>
    intro t member
    exact sequenced.genuine t ((stored t).1 member).1
  case unique =>
    intro t member u member'
    exact sequenced.unique t ((stored t).1 member).1 u ((stored u).1 member').1
  case connected =>
    intro t member k order
    obtain ⟨old, other⟩ := (stored t).1 member
    obtain ⟨u, below, named', order'⟩ := sequenced.connected t old k order
    exact ⟨u, (stored u).2 ⟨below, named' ▸ other⟩, named', order'⟩
  case ended =>
    intro t member
    obtain ⟨old, other⟩ := (stored t).1 member
    rw [sequenced.ended t old]
    constructor
    · rintro ⟨u, old', named', order⟩
      exact ⟨u, (stored u).2 ⟨old', named' ▸ other⟩, named', order⟩
    · rintro ⟨u, member', both⟩
      exact ⟨u, ((stored u).1 member').1, both⟩

theorem Keyed.nodup_values (keyed : s.Keyed) : s.timelines.values.Nodup := by
  rw [Table.values, List.Nodup, List.pairwise_map]
  refine s.timelines.sorted.imp_of_mem ?_
  rintro ⟨id, t⟩ ⟨id', u⟩ inside inside' before rfl
  have first := keyed id t (Table.get?_eq_some_iff.2 inside)
  have second := keyed id' t (Table.get?_eq_some_iff.2 inside')
  exact Key.ne_of_less before (first.symm.trans second)

/-- Increasing numbers below each of which there is no gap are those from zero on. -/
theorem eq_range {numbers : List Nat} (increasing : numbers.Pairwise (· < ·))
    (closed : ∀ n ∈ numbers, ∀ k ≤ n, k ∈ numbers) : numbers = List.range numbers.length := by
  induction numbers using List.reverseRecOn with
  | nil => rfl
  | append_singleton first last ih =>
    rw [List.pairwise_append] at increasing
    obtain ⟨increasing', _, smaller⟩ := increasing
    have inFirst : ∀ k ∈ first ++ [last], k ≠ last → k ∈ first := by
      intro k inside apart
      rcases List.mem_append.1 inside with early | late
      · exact early
      · exact absurd (List.mem_singleton.1 late) apart
    have beginning : first = List.range first.length := by
      refine ih increasing' fun n inside k below => ?_
      have less := smaller n inside last (List.mem_singleton.2 rfl)
      exact inFirst k (closed n (List.mem_append_left _ inside) k below) (by omega)
    have length : last = first.length := by
      rcases Nat.lt_trichotomy last first.length with less | same | greater
      · have inside : last ∈ first := by
          rw [beginning]
          exact List.mem_range.2 less
        exact absurd (smaller last inside last (List.mem_singleton.2 rfl)) (Nat.lt_irrefl last)
      · exact same
      · have inside := inFirst first.length
          (closed last (List.mem_append_right _ (List.mem_singleton.2 rfl)) _
            (Nat.le_of_lt greater))
          (Nat.ne_of_lt greater)
        rw [beginning, List.mem_range, ← beginning] at inside
        exact absurd inside (Nat.lt_irrefl _)
    rw [List.length_append, List.length_singleton, List.range_succ, ← beginning, length]

/-- The timelines of an event type as they are listed: the stored ones, whose orders count from
zero. All are genuine and switched, all but the last have ended, and the last is the active one. -/
structure Stream (s : Store) (e : String) : Prop where
  stored : (s.listTimelines (.ofEventType e)).Perm
    (s.timelines.values.filter fun t => t.eventType = e)
  orders : (s.listTimelines (.ofEventType e)).map (·.order) =
    List.range (s.listTimelines (.ofEventType e)).length
  genuine : ∀ t ∈ s.listTimelines (.ofEventType e),
    t.isSwitched = true ∧ t.fake = false ∧ t.id ≠ .nil
  ended : ∀ t ∈ s.listTimelines (.ofEventType e),
    t.lastPosition = none ↔ t.order + 1 = (s.listTimelines (.ofEventType e)).length
  active : s.active? e = (s.listTimelines (.ofEventType e)).getLast?

theorem mem_listTimelines : t ∈ s.listTimelines (.ofEventType e) ↔
    t ∈ s.timelines.values ∧ t.eventType = e := by
  rw [listTimelines, Timeline.mem_listing, Timeline.admits_ofEventType]

theorem listTimelines_perm (s : Store) (e : String) : (s.listTimelines (.ofEventType e)).Perm
    (s.timelines.values.filter fun t => t.eventType = e) := by
  have admitted : (TimelineFilter.ofEventType e).admits = fun t => decide (t.eventType = e) := by
    funext t
    rw [Bool.eq_iff_iff, Timeline.admits_ofEventType, decide_eq_true_eq]
  rw [listTimelines, Timeline.listing, admitted]
  exact List.mergeSort_perm _ _

theorem Sequenced.orders (sequenced : s.Sequenced) (e : String) :
    (s.listTimelines (.ofEventType e)).map (·.order) =
      List.range (s.listTimelines (.ofEventType e)).length := by
  have increasing : ((s.listTimelines (.ofEventType e)).map (·.order)).Pairwise (· < ·) := by
    rw [List.pairwise_map]
    have distinct := Timeline.nodup_listing (.ofEventType e) sequenced.keyed.nodup_values
    refine (Timeline.listing_ordered.and distinct).imp_of_mem ?_
    rintro t u inside inside' ⟨order, apart⟩
    obtain ⟨stored, named⟩ := mem_listTimelines.1 inside
    obtain ⟨stored', named'⟩ := mem_listTimelines.1 inside'
    refine Nat.lt_of_le_of_ne order fun same => ?_
    exact apart (sequenced.unique t stored u stored' (named.trans named'.symm) same)
  have whole := eq_range increasing ?_
  · rw [List.length_map] at whole
    exact whole
  · intro n inside k below
    obtain ⟨t, member, rfl⟩ := List.mem_map.1 inside
    obtain ⟨stored, named⟩ := mem_listTimelines.1 member
    obtain ⟨u, stored', named', order⟩ := sequenced.below stored below
    exact List.mem_map.2 ⟨u, mem_listTimelines.2 ⟨stored', named'.trans named⟩, order⟩

theorem Sequenced.stream (sequenced : s.Sequenced) (e : String) : s.Stream e := by
  have orders := sequenced.orders e
  have orderOf : ∀ (i : Nat) (t : Timeline), (s.listTimelines (.ofEventType e))[i]? = some t →
      t.order = i := by
    intro i t found
    have order := congrArg (·[i]?) orders
    obtain ⟨inside, _⟩ := List.getElem?_eq_some_iff.1 found
    simp only [List.getElem?_map, found, Option.map_some, List.getElem?_range inside,
      Option.some_inj] at order
    exact order
  refine ⟨listTimelines_perm s e, orders, ?_, ?_, ?_⟩
  · intro t member
    exact sequenced.genuine t (mem_listTimelines.1 member).1
  · intro t member
    obtain ⟨stored, named⟩ := mem_listTimelines.1 member
    have follows := sequenced.ended t stored
    have inside : t.order < (s.listTimelines (.ofEventType e)).length := by
      obtain ⟨i, inside, rfl⟩ := List.getElem_of_mem member
      rw [orderOf i _ (List.getElem?_eq_getElem inside)]
      exact inside
    rw [← Option.not_isSome_iff_eq_none, follows]
    constructor
    · intro none
      by_contra short
      have later : t.order + 1 < (s.listTimelines (.ofEventType e)).length := by omega
      have found := List.getElem?_eq_getElem later
      obtain ⟨stored', named'⟩ := mem_listTimelines.1 (List.getElem_mem later)
      exact none ⟨_, stored', named'.trans named.symm, orderOf _ _ found⟩
    · rintro last ⟨u, stored', named', order⟩
      have member' := mem_listTimelines.2 ⟨stored', named'.trans named⟩
      obtain ⟨i, inside', rfl⟩ := List.getElem_of_mem member'
      rw [orderOf i _ (List.getElem?_eq_getElem inside')] at order
      omega
  · cases last : (s.listTimelines (.ofEventType e)).getLast? with
    | none =>
      rw [List.getLast?_eq_none_iff] at last
      refine sequenced.active_none_iff.2 fun t stored named => ?_
      have member := mem_listTimelines.2 ⟨stored, named⟩
      rw [last] at member
      exact nomatch member
    | some a =>
      obtain ⟨stored, named⟩ := mem_listTimelines.1 (List.mem_of_getLast? last)
      refine sequenced.active_iff.2 ⟨stored, named, fun t stored' named' => ?_⟩
      have member := mem_listTimelines.2 ⟨stored', named'⟩
      obtain ⟨i, inside, rfl⟩ := List.getElem_of_mem member
      rw [List.getLast?_eq_getElem?] at last
      rw [orderOf _ a last, orderOf i _ (List.getElem?_eq_getElem inside)]
      omega

end Cutover.Store
