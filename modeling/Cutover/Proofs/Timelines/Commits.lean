import Cutover.Proofs.Timelines.Drafts

set_option autoImplicit false

namespace Cutover

namespace Table

variable {κ ν : Type} [Key κ]

def filterValues (t : Table κ ν) (admits : ν → Bool) : Table κ ν :=
  ⟨t.entries.filter fun entry => admits entry.2, t.sorted.filter _⟩

theorem values_filterValues (t : Table κ ν) (admits : ν → Bool) :
    (t.filterValues admits).values = t.values.filter admits := by
  rw [values, values, filterValues, List.filter_map]
  rfl

theorem get?_filterValues (t : Table κ ν) (admits : ν → Bool) (k : κ) :
    (t.filterValues admits).get? k = (t.get? k).filter admits := by
  apply Option.ext
  intro v
  rw [get?_eq_some_iff, filterValues, List.mem_filter, Option.filter_eq_some_iff, get?_eq_some_iff]

end Table

namespace Store

variable {s s' : Store} {e : String} {t a next : Timeline}

/-- The store without the timelines of other event types. -/
def part (s : Store) (e : String) : Store :=
  { s with timelines := s.timelines.filterValues fun t => t.eventType = e }

theorem values_part (s : Store) (e : String) :
    (s.part e).timelines.values = s.timelines.values.filter fun t => t.eventType = e :=
  Table.values_filterValues ..

theorem mem_part :
    t ∈ (s.part e).timelines.values ↔ t ∈ s.timelines.values ∧ t.eventType = e := by
  rw [values_part, List.mem_filter, decide_eq_true_eq]

theorem active?_part (s : Store) (e : String) : (s.part e).active? e = s.active? e := by
  rw [active?, active?, Timeline.activeAmong, Timeline.activeAmong, values_part, List.filter_filter]
  congr 2
  funext t
  cases decide (t.eventType = e) <;> simp

theorem listTimelines_part (s : Store) (e : String) :
    (s.part e).listTimelines (.ofEventType e) = s.listTimelines (.ofEventType e) := by
  rw [listTimelines, listTimelines, Timeline.listing, Timeline.listing, values_part,
    List.filter_filter]
  congr 2
  funext t
  rw [Bool.eq_iff_iff, Bool.and_eq_true, Timeline.admits_ofEventType, decide_eq_true_eq, and_self]

theorem Stream.of_part (stream : (s.part e).Stream e) : s.Stream e where
  stored := listTimelines_perm s e
  orders := listTimelines_part s e ▸ stream.orders
  genuine := listTimelines_part s e ▸ stream.genuine
  ended := listTimelines_part s e ▸ stream.ended
  active := by
    rw [← active?_part, ← listTimelines_part]
    exact stream.active

theorem Sequenced.ended_of_inactive (sequenced : s.Sequenced) (inside : t ∈ s.timelines.values)
    (inactive : s.active? t.eventType ≠ some t) : t.lastPosition.isSome = true := by
  cases found : s.active? t.eventType with
  | none => exact absurd rfl (sequenced.active_none_iff.1 found t inside)
  | some b =>
    obtain ⟨member, named, _⟩ := sequenced.active_iff.1 found
    have highest := sequenced.active_highest found inside rfl
    have apart : t.order ≠ b.order := by
      intro order
      obtain rfl := sequenced.unique t inside b member named.symm order
      exact inactive found
    obtain ⟨u, above, named', order⟩ := sequenced.below member (k := t.order + 1) (by omega)
    exact (sequenced.ended t inside).2 ⟨u, above, named'.trans named, order⟩

theorem part_of_timelines_eq (same : s'.timelines = s.timelines) :
    (s'.part e).timelines = (s.part e).timelines := by
  rw [part, part, same]

theorem part_put (named : t.eventType = e) : (s.put t).part e = (s.part e).put t := by
  rw [part, part, put, put]
  congr 1
  apply Table.eq_of_get?_eq
  intro id
  rw [Table.get?_filterValues]
  by_cases same : id = t.id
  · rw [same, Table.get?_insert_self, Table.get?_insert_self]
    simp [named]
  · rw [Table.get?_insert_of_ne _ _ same, Table.get?_insert_of_ne _ _ same, Table.get?_filterValues]

theorem filter_eventType_eq_none {found : Option Timeline}
    (other : ∀ u, found = some u → u.eventType ≠ e) :
    (found.filter fun t => t.eventType = e) = none := by
  rw [Option.filter_eq_none_iff]
  intro u same
  simpa using other u same

theorem part_put_of_ne (named : t.eventType ≠ e)
    (old : ∀ u, s.timelines.get? t.id = some u → u.eventType ≠ e) :
    ((s.put t).part e).timelines = (s.part e).timelines := by
  apply Table.eq_of_get?_eq
  intro id
  rw [part, part, Table.get?_filterValues, Table.get?_filterValues, put]
  by_cases same : id = t.id
  · have new : ∀ u, some t = some u → u.eventType ≠ e :=
      fun u here => Option.some_inj.1 here ▸ named
    rw [same, Table.get?_insert_self, filter_eventType_eq_none old, filter_eventType_eq_none new]
  · rw [Table.get?_insert_of_ne _ _ same]

theorem part_erase_of_ne {id : Uuid}
    (old : ∀ u, s.timelines.get? id = some u → u.eventType ≠ e) :
    (({ s with timelines := s.timelines.erase id } : Store).part e).timelines =
      (s.part e).timelines := by
  apply Table.eq_of_get?_eq
  intro id'
  rw [part, part, Table.get?_filterValues, Table.get?_filterValues]
  by_cases same : id' = id
  · rw [same, Table.get?_erase_self, filter_eventType_eq_none old, Option.filter_none]
  · rw [Table.get?_erase_of_ne _ same]

theorem Keyed.get?_active (keyed : s.Keyed) {id : Uuid}
    (active : (s.active? e).map (·.id) = some id) :
    ∃ a, s.timelines.get? id = some a ∧ a.eventType = e := by
  obtain ⟨a, found, rfl⟩ := Option.map_eq_some_iff.1 active
  obtain ⟨inside, named, _⟩ := active_spec found
  exact ⟨a, keyed.mem_iff.1 inside, named⟩

theorem Keyed.part_commitSwitch (keyed : s.Keyed) {superseded : Option Timeline}
    (committed : s.commitSwitch superseded next = .ok s')
    (named : ∀ previous, superseded = some previous → previous.eventType = next.eventType)
    (other : e ≠ next.eventType) : (s'.part e).timelines = (s.part e).timelines := by
  obtain ⟨free, -, active, rfl⟩ := commitSwitch_ok committed
  cases superseded with
  | none =>
    apply part_put_of_ne (s := s) (Ne.symm other)
    intro u found
    exact nomatch free.symm.trans found
  | some previous =>
    obtain ⟨a, stored, type⟩ := keyed.get?_active active
    have kept : ((s.put previous).part e).timelines = (s.part e).timelines := by
      apply part_put_of_ne
      · rw [named previous rfl]
        exact Ne.symm other
      · intro u found
        obtain rfl := Option.some_inj.1 (stored.symm.trans found)
        rw [type]
        exact Ne.symm other
    have apart : next.id ≠ previous.id := by
      intro same
      rw [same, stored] at free
      exact nomatch free
    rw [← kept]
    apply part_put_of_ne (Ne.symm other)
    intro u found
    have free' : (s.put previous).timelines.get? next.id = none :=
      (Table.get?_insert_of_ne _ _ apart).trans free
    exact nomatch free'.symm.trans found

theorem Keyed.commitSwitch (keyed : s.Keyed) {superseded : Option Timeline}
    (committed : s.commitSwitch superseded next = .ok s') : s'.Keyed := by
  obtain ⟨-, -, -, rfl⟩ := commitSwitch_ok committed
  cases superseded with
  | none => exact keyed.put next
  | some previous => exact (keyed.put previous).put next

end Store

namespace Timeline

/-- The same timeline, at most with an end that it had not. -/
def Continues (t u : Timeline) : Prop :=
  u = t ∨ t.lastPosition = none ∧ ∃ position, u = { t with lastPosition := some position }

theorem Continues.refl (t : Timeline) : t.Continues t := .inl rfl

theorem Continues.trans {t u v : Timeline} (first : t.Continues u) (second : u.Continues v) :
    t.Continues v := by
  rcases first with rfl | ⟨unended, position, rfl⟩
  · exact second
  · rcases second with rfl | ⟨ended, _⟩
    · exact .inr ⟨unended, position, rfl⟩
    · exact nomatch ended

theorem Continues.eq_of_ended {t u : Timeline} (continues : t.Continues u)
    (ended : t.lastPosition.isSome = true) : u = t := by
  rcases continues with same | ⟨unended, _⟩
  · exact same
  · rw [unended] at ended
    exact nomatch ended

theorem Continues.knows {t u : Timeline} (continues : t.Continues u) :
    t = { u with lastPosition := t.lastPosition } := by
  rcases continues with rfl | ⟨_, position, rfl⟩
  · rfl
  · rfl

/-- A new timeline that comes after another, or after none. -/
structure Succeeds (next : Timeline) (s : Store) (active : Option Timeline) : Prop where
  free : s.timelines.get? next.id = none
  order : next.order = Timeline.orderAfter active
  unended : next.lastPosition = none
  genuine : next.isSwitched = true ∧ next.fake = false ∧ next.id ≠ .nil

end Timeline

namespace Store

variable {s s' : Store} {e : String} {active : Option Timeline} {t a next : Timeline}

/-- What is stored when a new timeline is committed: it comes after the timeline that is active at
that moment, which ends, or there is none. -/
inductive Commits (s : Store) : Option Timeline → Timeline → Store → Prop where
  | first {next : Timeline} (active : s.active? next.eventType = none)
      (succeeds : next.Succeeds s none) : Commits s none next (s.put next)
  | switch {a next : Timeline} (position : Position) (active : s.active? next.eventType = some a)
      (succeeds : next.Succeeds s (some a)) : Commits s (some a) next (s.switched a next position)

namespace Commits

theorem succeeds (commits : s.Commits active next s') : next.Succeeds s active := by
  cases commits with
  | first _ succeeds => exact succeeds
  | switch _ _ succeeds => exact succeeds

theorem keyed (commits : s.Commits active next s') (keyed : s.Keyed) : s'.Keyed := by
  cases commits with
  | first => exact keyed.put next
  | switch => exact (keyed.put _).put next

theorem stored (commits : s.Commits active next s') (keyed : s.Keyed) :
    next ∈ s'.timelines.values := by
  cases commits with
  | first => exact keyed.mem_put.2 (.inl rfl)
  | switch => exact (keyed.put _).mem_put.2 (.inl rfl)

theorem failSwitch (commits : s.Commits active next s') : s'.failSwitch = s.failSwitch := by
  cases commits with
  | first => rfl
  | switch => rfl

theorem part (commits : s.Commits active next s') :
    (s.part next.eventType).Commits active next (s'.part next.eventType) := by
  have succeeds : next.Succeeds (s.part next.eventType) active :=
    { commits.succeeds with
      free := by
        rw [Store.part, Table.get?_filterValues, commits.succeeds.free]
        rfl }
  cases commits with
  | first active =>
    rw [part_put rfl]
    exact .first (by rw [active?_part, active]) succeeds
  | @switch a _ position active =>
    have ended : { a with lastPosition := some position }.eventType = next.eventType :=
      (active_spec active).2.1
    rw [switched, part_put rfl, part_put ended]
    exact .switch position (by rw [active?_part, active]) succeeds

theorem sequenced (commits : s.Commits active next s') (sequenced : s.Sequenced) :
    s'.Sequenced := by
  have new := unstored_of_get? sequenced.keyed commits.succeeds.free
  cases commits with
  | first active succeeds =>
    apply sequenced.put_first new ?_ succeeds.order succeeds.genuine succeeds.unended
    exact fun t inside named => absurd named (sequenced.active_none_iff.1 active t inside)
  | switch position active succeeds =>
    exact sequenced.switched position active new succeeds.order succeeds.genuine succeeds.unended

theorem order_free (commits : s.Commits active next s') (sequenced : s.Sequenced) :
    ∀ t ∈ s.timelines.values, t.eventType = next.eventType → t.order ≠ next.order := by
  intro t inside named
  cases commits with
  | first active => exact absurd named (sequenced.active_none_iff.1 active t inside)
  | @switch a _ _ active succeeds =>
    have highest := sequenced.active_highest active inside named
    have order : next.order = a.order + 1 := succeeds.order
    omega

theorem keeps (commits : s.Commits active next s') (keyed : s.Keyed)
    (sequenced : (s.part next.eventType).Sequenced) (inside : t ∈ s.timelines.values) :
    ∃ u ∈ s'.timelines.values, t.Continues u := by
  have new := unstored_of_get? keyed commits.succeeds.free
  cases commits with
  | first => exact ⟨t, keyed.mem_put.2 (.inr ⟨inside, new t inside⟩), .refl t⟩
  | @switch a _ position active =>
    have member := keyed.mem_switched position (active_spec active).1 new
    by_cases same : t = a
    · subst same
      have unended := sequenced.active_open ((active?_part s _).trans active)
      exact ⟨_, (member _).2 (.inr (.inl rfl)), .inr ⟨unended, position, rfl⟩⟩
    · exact ⟨t, (member t).2 (.inr (.inr ⟨inside, same⟩)), .refl t⟩

/-- What is stored afterwards is the new timeline or was stored before, if for its end. -/
theorem written (commits : s.Commits active next s') (keyed : s.Keyed)
    (inside : t ∈ s'.timelines.values) :
    t = next ∨ ∃ u ∈ s.timelines.values, t.id = u.id := by
  have new := unstored_of_get? keyed commits.succeeds.free
  cases commits with
  | first =>
    rcases keyed.mem_put.1 inside with rfl | ⟨old, _⟩
    · exact .inl rfl
    · exact .inr ⟨t, old, rfl⟩
  | switch position active =>
    have member := keyed.mem_switched position (active_spec active).1 new
    rcases (member t).1 inside with rfl | rfl | ⟨old, _⟩
    · exact .inl rfl
    · exact .inr ⟨_, (active_spec active).1, rfl⟩
    · exact .inr ⟨t, old, rfl⟩

end Commits

end Store

end Cutover
