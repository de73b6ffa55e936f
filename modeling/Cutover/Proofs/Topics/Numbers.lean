import Cutover.Data.Table.Lemmas
import Cutover.Text.Cut
import Cutover.Worker.Basic
import Mathlib.Data.Set.Defs

set_option autoImplicit false

namespace Cutover.Worker

def numbered (e : String) (n : Nat) : String := e ++ "-" ++ Text.ofNat n

variable {names : Set String} {e f : String} {w : Worker} {m n : Nat}

theorem toList_numbered (e : String) (n : Nat) :
    (numbered e n).toList = e.toList ++ '-' :: Text.digits n := by
  simp [numbered, Text.ofNat]

/-- A number has no dash, so that the last dash of a numbered topic comes before its number. -/
theorem numbered_injective (same : numbered e m = numbered f n) : e = f ∧ m = n := by
  have cut : ∀ e n, Text.cutLast? '-' (numbered e n).toList = some (e.toList, Text.digits n) :=
    fun e n => Text.cutLast?_eq_some_iff.2 ⟨toList_numbered e n, Text.not_mem_digits rfl n⟩
  have both := cut e m
  rw [same, cut f n] at both
  obtain ⟨name, number⟩ := Prod.mk.inj (Option.some.inj both)
  exact ⟨(String.toList_inj.1 name).symm, (Text.digits_injective number).symm⟩

/-- What a worker lays out for another than a first timeline has the number of its topics. -/
theorem layOut_numbered (w : Worker) (e : String) (partitions : Option Nat) :
    (w.layOut e partitions false).1 = numbered e w.topics.size := rfl

/-- Topics and event types that are called like a numbered topic of one of the event types have
numbers below the number of topics. -/
def Tidy (names : Set String) (w : Worker) : Prop :=
  ∀ e ∈ names, ∀ n, numbered e n ∈ names ∨ w.topics.contains (numbered e n) = true →
    n < w.topics.size

theorem numbered_ne (dashless : '-' ∉ f.toList) (e : String) (n : Nat) : numbered e n ≠ f := by
  rintro rfl
  rw [toList_numbered] at dashless
  exact dashless (List.mem_append_right _ List.mem_cons_self)

theorem tidy_of_dashless (names' : ∀ e ∈ names, '-' ∉ e.toList)
    (topics : ∀ topic ∈ w.topics.keys, '-' ∉ topic.toList) : w.Tidy names := by
  rintro e - n (called | there)
  · exact absurd rfl (numbered_ne (names' _ called) e n)
  · obtain ⟨count, found⟩ := Option.isSome_iff_exists.1 there
    have inside : numbered e n ∈ w.topics.keys :=
      List.mem_map.2 ⟨_, Table.get?_eq_some_iff.1 found, rfl⟩
    exact absurd rfl (numbered_ne (topics _ inside) e n)

namespace Tidy

theorem unused (tidy : w.Tidy names) (named : e ∈ names) :
    numbered e w.topics.size ∉ names ∧ w.topics.get? (numbered e w.topics.size) = none := by
  constructor
  · intro called
    exact Nat.lt_irrefl _ (tidy e named w.topics.size (.inl called))
  · apply Option.not_isSome_iff_eq_none.1
    intro there
    exact Nat.lt_irrefl _ (tidy e named w.topics.size (.inr there))

/-- Topics stay tidy with a new one whose number, if it is a numbered one, is not too high. -/
theorem insertIfNew (tidy : w.Tidy names) {topic : String} {count : Nat}
    (low : ∀ e ∈ names, ∀ n, topic = numbered e n →
      n < (w.topics.insertIfNew topic count).size) (requests : List LayoutRequest) :
    ({ w with topics := w.topics.insertIfNew topic count, requests := requests } : Worker).Tidy
      names := by
  intro e named n taken
  rcases taken with called | there
  · exact Nat.lt_of_lt_of_le (tidy e named n (.inl called)) (Table.size_le_insertIfNew ..)
  · rcases Table.contains_of_insertIfNew there with same | old
    · exact low e named n same.symm
    · exact Nat.lt_of_lt_of_le (tidy e named n (.inr old)) (Table.size_le_insertIfNew ..)

theorem insertName (tidy : w.Tidy names) (named : f ∈ names) (count : Nat)
    (requests : List LayoutRequest) : ({ w with
      topics := w.topics.insertIfNew f count, requests := requests } : Worker).Tidy names := by
  apply tidy.insertIfNew
  rintro e named' n rfl
  exact Nat.lt_of_lt_of_le (tidy e named' n (.inl named)) (Table.size_le_insertIfNew ..)

theorem insertNumbered (tidy : w.Tidy names) (named : e ∈ names) (count : Nat)
    (requests : List LayoutRequest) : ({ w with
      topics := w.topics.insertIfNew (numbered e w.topics.size) count, requests := requests } :
        Worker).Tidy names := by
  apply tidy.insertIfNew
  intro f _ n same
  rw [Table.size_insertIfNew_of_new (tidy.unused named).2, ← (numbered_injective same).2]
  exact Nat.lt_succ_self _

theorem adopt (tidy : w.Tidy names) (named : e ∈ names) : (w.adopt e).Tidy names :=
  tidy.insertName named _ _

theorem layOut (tidy : w.Tidy names) (named : e ∈ names) (partitions : Option Nat) (first : Bool) :
    (w.layOut e partitions first).2.Tidy names := by
  cases first with
  | true => exact tidy.insertName named _ _
  | false => exact tidy.insertNumbered named _ _

end Tidy

theorem layOut_partitions (w : Worker) (e : String) (partitions : Option Nat) (first : Bool) :
    (w.layOut e partitions first).2.partitionsOf (w.layOut e partitions first).1 =
      some ((w.partitionsOf (w.layOut e partitions first).1).getD
        (partitions.getD w.defaultPartitions)) :=
  Table.get?_insertIfNew_self ..

end Cutover.Worker
