import Cutover.Proofs.Operation.Alone
import Cutover.Proofs.Timelines.Orders

set_option autoImplicit false

namespace Cutover.Store

open Timeline (OrdersDistinct orderTaken_iff)

variable {s : Store} {e : String} {a next : Timeline} {superseded : Option Timeline}
  {error : StoreError}

/-- A switched timeline of an event type, of the highest order among these. -/
structure IsActive (s : Store) (e : String) (a : Timeline) : Prop where
  stored : a ∈ s.timelines.values
  named : a.eventType = e
  switched : a.isSwitched = true
  highest : ∀ t ∈ s.timelines.values, t.eventType = e → t.isSwitched = true → t.order ≤ a.order

/-- No two switched timelines of an event type share the highest order. -/
def SoleActive (s : Store) (e : String) : Prop := ∀ a b, s.IsActive e a → s.IsActive e b → a = b

theorem isActive_of_active? (found : s.active? e = some a) : s.IsActive e a := by
  obtain ⟨stored, named, switched, highest⟩ := active_spec found
  exact ⟨stored, named, switched, highest⟩

theorem active?_eq_none_iff : s.active? e = none ↔ ∀ a, ¬ s.IsActive e a := by
  constructor
  · intro none a active
    exact absurd active.switched (Bool.eq_false_iff.1 (active_none none a active.stored active.named))
  · intro inactive
    cases found : s.active? e with
    | none => rfl
    | some a => exact absurd (isActive_of_active? found) (inactive a)

theorem active?_eq_some_iff (sole : s.SoleActive e) : s.active? e = some a ↔ s.IsActive e a := by
  refine ⟨isActive_of_active?, fun active => ?_⟩
  cases found : s.active? e with
  | none => exact absurd active (active?_eq_none_iff.1 found a)
  | some b => rw [sole b a (isActive_of_active? found) active]

theorem soleActive_of_ordersDistinct (distinct : OrdersDistinct s.timelines.values) (e : String) :
    s.SoleActive e := by
  intro a b active active'
  apply distinct a active.stored b active'.stored (active.named.trans active'.named.symm)
  apply Nat.le_antisymm
  · exact active'.highest a active.stored active.named active.switched
  · exact active.highest b active'.stored active'.named active'.switched

/-- What is to be superseded is the active timeline, by its id, or is nothing where there is none.
-/
def Current (s : Store) (e : String) : Option Timeline → Prop
  | none => ∀ a, ¬ s.IsActive e a
  | some previous => ∃ a, s.IsActive e a ∧ a.id = previous.id

theorem current_iff (sole : s.SoleActive e) (superseded : Option Timeline) :
    s.Current e superseded ↔ (s.active? e).map (·.id) = superseded.map (·.id) := by
  cases superseded with
  | none => rw [Current, Option.map_none, Option.map_eq_none_iff, active?_eq_none_iff]
  | some previous =>
    rw [Current, Option.map_some, Option.map_eq_some_iff]
    exact exists_congr fun a => and_congr_left fun _ => (active?_eq_some_iff sole).symm

/-- The order of a timeline that is not stored is looked for among all that are. -/
theorem Keyed.orderTaken_iff_of_new (keyed : s.Keyed) (new : s.timelines.contains next.id = false) :
    next.orderTaken s.timelines.values = true ↔
      ∃ t ∈ s.timelines.values, t.eventType = next.eventType ∧ t.order = next.order := by
  have free : s.timelines.get? next.id = none := by simpa [Table.contains] using new
  have apart := unstored_of_get? keyed free
  rw [orderTaken_iff]
  exact exists_congr fun t => and_congr_right fun stored => and_iff_right (apart t stored)

/-- What lets a switch be committed. -/
structure Admits (s : Store) (superseded : Option Timeline) (next : Timeline) : Prop where
  working : s.failSwitch = false
  known : ∀ previous, superseded = some previous → s.timelines.contains previous.id = true
  new : s.timelines.contains next.id = false
  current : s.Current next.eventType superseded
  free : ∀ t ∈ s.timelines.values, t.eventType = next.eventType → t.order ≠ next.order

/-- The store after a switch: the records are as they were given, and nothing else is changed. -/
structure Swapped (s s' : Store) (superseded : Option Timeline) (next : Timeline) : Prop where
  begun : s'.timelines.get? next.id = some next
  ended : ∀ previous, superseded = some previous → s'.timelines.get? previous.id = some previous
  others : ∀ id, id ≠ next.id → (∀ previous, superseded = some previous → id ≠ previous.id) →
    s'.timelines.get? id = s.timelines.get? id
  rest : s' = { s with timelines := s'.timelines }

/-- Why a switch is refused; each reason counts only if none before it does. -/
inductive Refuses (s : Store) (superseded : Option Timeline) (next : Timeline) : StoreError → Prop
  | database (failing : s.failSwitch = true) :
      Refuses s superseded next (.database "mock switch failure")
  | unknown {previous : Timeline} (working : s.failSwitch = false)
      (given : superseded = some previous) (unknown : s.timelines.contains previous.id = false) :
      Refuses s superseded next (.timelineNotFound previous.id)
  | duplicate (working : s.failSwitch = false)
      (known : ∀ previous, superseded = some previous → s.timelines.contains previous.id = true)
      (taken : s.timelines.contains next.id = true) :
      Refuses s superseded next (.duplicate ("timeline " ++ next.id.text))
  | conflict (working : s.failSwitch = false)
      (known : ∀ previous, superseded = some previous → s.timelines.contains previous.id = true)
      (new : s.timelines.contains next.id = false)
      (stale : ¬ s.Current next.eventType superseded ∨
        ∃ t ∈ s.timelines.values, t.eventType = next.eventType ∧ t.order = next.order) :
      Refuses s superseded next (.conflict next.eventType)

theorem filter_unknown (known : ∀ previous, superseded = some previous →
      s.timelines.contains previous.id = true) :
    superseded.filter (fun previous => !s.timelines.contains previous.id) = none := by
  rw [Option.filter_eq_none_iff]
  intro previous given
  simp [known previous given]

theorem Admits.commitSwitch (admits : s.Admits superseded next) (keyed : s.Keyed)
    (sole : s.SoleActive next.eventType) :
    s.commitSwitch superseded next = .ok ((superseded.elim s s.put).put next) := by
  have same := (current_iff sole superseded).1 admits.current
  have untaken : ¬ next.orderTaken s.timelines.values = true := by
    rw [keyed.orderTaken_iff_of_new admits.new]
    rintro ⟨t, stored, named, order⟩
    exact admits.free t stored named order
  unfold Store.commitSwitch
  rw [if_neg (Bool.eq_false_iff.1 admits.working), filter_unknown admits.known]
  dsimp only
  rw [if_neg (Bool.eq_false_iff.1 admits.new), if_neg (not_or.2 ⟨not_not.2 same, untaken⟩)]
  cases superseded <;> rfl

theorem Refuses.commitSwitch (refuses : s.Refuses superseded next error) (keyed : s.Keyed)
    (sole : s.SoleActive next.eventType) : s.commitSwitch superseded next = .error error := by
  unfold Store.commitSwitch
  cases refuses with
  | database failing => rw [if_pos failing]
  | @unknown previous working given unknown =>
    have missing : superseded.filter (fun previous => !s.timelines.contains previous.id) =
        some previous := by
      rw [given]
      simp [unknown]
    rw [if_neg (Bool.eq_false_iff.1 working), missing]
  | duplicate working known taken =>
    rw [if_neg (Bool.eq_false_iff.1 working), filter_unknown known]
    dsimp only
    rw [if_pos taken]
  | conflict working known new stale =>
    have differs : (s.active? next.eventType).map (·.id) ≠ superseded.map (·.id) ∨
        next.orderTaken s.timelines.values = true :=
      stale.imp (mt (current_iff sole superseded).2) (keyed.orderTaken_iff_of_new new).2
    rw [if_neg (Bool.eq_false_iff.1 working), filter_unknown known]
    dsimp only
    rw [if_neg (Bool.eq_false_iff.1 new), if_pos differs]

theorem admits_or_refuses (s : Store) (superseded : Option Timeline) (next : Timeline) :
    s.Admits superseded next ∨ ∃ error, s.Refuses superseded next error := by
  cases working : s.failSwitch with
  | true => exact .inr ⟨_, .database working⟩
  | false =>
    by_cases known : ∀ previous, superseded = some previous →
      s.timelines.contains previous.id = true
    · cases new : s.timelines.contains next.id with
      | true => exact .inr ⟨_, .duplicate working known new⟩
      | false =>
        by_cases stale : ¬ s.Current next.eventType superseded ∨
          ∃ t ∈ s.timelines.values, t.eventType = next.eventType ∧ t.order = next.order
        · exact .inr ⟨_, .conflict working known new stale⟩
        · rw [not_or, not_not] at stale
          refine .inl ⟨working, known, new, stale.1, fun t stored named order => ?_⟩
          exact stale.2 ⟨t, stored, named, order⟩
    · simp only [not_forall, Bool.not_eq_true] at known
      obtain ⟨previous, given, unknown⟩ := known
      exact .inr ⟨_, .unknown working given unknown⟩

theorem Admits.swapped (admits : s.Admits superseded next) :
    s.Swapped ((superseded.elim s s.put).put next) superseded next where
  begun := Table.get?_insert_self ..
  ended previous given := by
    have apart : previous.id ≠ next.id := by
      intro same
      have known := admits.known previous given
      rw [same, admits.new] at known
      exact Bool.false_ne_true known
    rw [given, put, Table.get?_insert_of_ne _ _ apart]
    exact Table.get?_insert_self ..
  others id notNext other := by
    rw [put, Table.get?_insert_of_ne _ _ notNext]
    cases superseded with
    | none => rfl
    | some previous => exact Table.get?_insert_of_ne _ _ (other previous rfl)
  rest := by cases superseded <;> rfl

/-- A switch is a compare and swap: it is committed exactly if it is admitted, then writes what it
was given and nothing else, and is refused otherwise, with everything as it was. -/
structure ComparesAndSwaps (s : Store) (superseded : Option Timeline) (next : Timeline) : Prop where
  ok_iff : (∃ s', s.commitSwitch superseded next = .ok s') ↔ s.Admits superseded next
  written : ∀ s', s.commitSwitch superseded next = .ok s' → s.Swapped s' superseded next
  error_iff : ∀ error, s.commitSwitch superseded next = .error error ↔
    s.Refuses superseded next error
  kept : ∀ (w : World) error, w.store = s → s.commitSwitch superseded next = .error error →
    (Operation.writeStore (·.commitSwitch superseded next)).alone w = (.error (.ofStore error), w)

/-- Whatever is given and whatever is stored, as long as there are no two timelines of the event
type that could be the active one. -/
theorem commitSwitch_comparesAndSwaps (keyed : s.Keyed) (sole : s.SoleActive next.eventType)
    (superseded : Option Timeline) : s.ComparesAndSwaps superseded next where
  ok_iff := by
    refine ⟨?_, fun admits => ⟨_, admits.commitSwitch keyed sole⟩⟩
    rintro ⟨s', committed⟩
    rcases s.admits_or_refuses superseded next with admits | ⟨error, refuses⟩
    · exact admits
    · exact nomatch committed.symm.trans (refuses.commitSwitch keyed sole)
  written s' committed := by
    rcases s.admits_or_refuses superseded next with admits | ⟨error, refuses⟩
    · rw [admits.commitSwitch keyed sole] at committed
      rw [← Except.ok.inj committed]
      exact admits.swapped
    · exact nomatch committed.symm.trans (refuses.commitSwitch keyed sole)
  error_iff error := by
    refine ⟨fun refused => ?_, fun refuses => refuses.commitSwitch keyed sole⟩
    rcases s.admits_or_refuses superseded next with admits | ⟨error', refuses⟩
    · exact nomatch refused.symm.trans (admits.commitSwitch keyed sole)
    · rw [refuses.commitSwitch keyed sole] at refused
      rw [← Except.error.inj refused]
      exact refuses
  kept w error same refused := by
    subst same
    unfold Operation.alone Operation.writeStore Operation.call
    simp only [ExceptT.run_mk, Process.runAlone_perform, refused]

/-- The active timeline is superseded with an end on its record, while another event type has a
timeline too. -/
theorem commitSwitch_comparesAndSwaps_ended : ∃ (s : Store) (previous next : Timeline),
    s.Keyed ∧ s.SoleActive next.eventType ∧ previous.lastPosition.isSome ∧
    s.Admits (some previous) next ∧ s.ComparesAndSwaps (some previous) next := by
  let writes : List TimelineWrite :=
    [.create (sample 2 0), .create { sample 3 1 with eventType := "other" }]
  let previous : Timeline := { sample 2 0 with lastPosition := some (.ofList []) }
  have empty : Store.empty.Keyed := fun id t found => nomatch found
  have keyed := empty.afterAll writes
  have distinct : OrdersDistinct (Store.empty.afterAll writes).timelines.values :=
    (empty.ordersDistinct_afterAll_iff (fun t inside => absurd inside List.not_mem_nil) writes).2
      (by decide +kernel) writes.length
  have sole := soleActive_of_ordersDistinct distinct "orders"
  have swaps : (Store.empty.afterAll writes).ComparesAndSwaps (some previous) (sample 1 1) :=
    commitSwitch_comparesAndSwaps keyed sole (some previous)
  refine ⟨_, previous, sample 1 1, keyed, sole, rfl, swaps.ok_iff.1 ?_, swaps⟩
  exact ⟨_, rfl⟩

end Cutover.Store
