import Cutover.Data.Table.Lemmas
import Cutover.Text.Bytes
import Cutover.Worker.Basic
import Mathlib.Data.List.Nodup

set_option autoImplicit false

namespace Cutover

/-- What is done with a worker. -/
inductive WorkerCall where
  | addTopic (topic : String) (partitions : Nat)
  | setPosition (topic : String) (position : Position)
  | failPosition (value : Bool)
  | layOut (eventType : String) (partitions : Option Nat) (firstTimeline : Bool)
  | adopt (eventType : String)

namespace WorkerCall

/-- The position that a call sets for a topic. -/
def position? (topic : String) : WorkerCall → Option Position
  | .setPosition other position => if other = topic then some position else none
  | _ => none

def failure? : WorkerCall → Option Bool
  | .failPosition value => some value
  | _ => none

/-- The last position that was set for a topic. -/
def lastSet? (calls : List WorkerCall) (topic : String) : Option Position :=
  (calls.filterMap (position? topic)).getLast?

/-- Whether the worker was made to fail and not set right again. -/
def failing (calls : List WorkerCall) : Bool := (calls.filterMap failure?).getLast?.getD false

end WorkerCall

/-- The start of each of the partitions, in the order of the bytes of their names. -/
structure Position.Starts (p : Position) (names : List String) : Prop where
  partitions : p.partitions.Perm names
  ordered : p.partitions.Pairwise fun a b => Text.bytes a < Text.bytes b
  zero : ∀ e ∈ p.offsets.entries, e.2 = 0

namespace Worker

open WorkerCall (lastSet? failing)

variable {w : Worker} {topic : String} {m n : Nat}

def after (w : Worker) : WorkerCall → Worker
  | .addTopic topic partitions => { w with topics := w.topics.insert topic partitions }
  | .setPosition topic position => { w with positions := w.positions.insert topic position }
  | .failPosition value => { w with failPosition := value }
  | .layOut eventType partitions firstTimeline => (w.layOut eventType partitions firstTimeline).2
  | .adopt eventType => w.adopt eventType

def afterAll (w : Worker) (calls : List WorkerCall) : Worker := calls.foldl after w

/-- What a worker tells of a topic, by the last position that was set for it. -/
structure Locates (w : Worker) (topic : String) (set : Option Position) (failing : Bool) : Prop where
  names : ∀ {n}, w.partitionsOf topic = some n → ∃ names, w.partitionNames topic = .ok names ∧
    names.length = n ∧ names.Nodup ∧
      (failing = false → set = none → ∃ p, w.latestPosition topic = .ok p ∧ p.Starts names)
  latest : ∀ {p}, failing = false → set = some p → w.latestPosition topic = .ok p
  fails_iff : (∃ error, w.latestPosition topic = .error error) ↔
    failing = true ∨ set = none ∧ w.partitionsOf topic = none

theorem partitionName_injective (same : partitionName m = partitionName n) : m = n := by
  have digits : Text.digits m = Text.digits n := by
    simpa [partitionName, Text.ofNat] using congrArg String.toList same
  exact Text.digits_injective digits

theorem nodup_partitionNames (n : Nat) : ((List.range n).map partitionName).Nodup := by
  apply List.Nodup.map _ List.nodup_range
  intro first second same
  exact partitionName_injective same

/-- Names of partitions that all differ are the keys of the position with all offsets zero. -/
theorem starts_of_nodup {names : List String} (distinct : names.Nodup) :
    (Position.ofList (names.map fun name => (name, 0))).Starts names := by
  have zeros : ∀ name, (Position.ofList (names.map fun name => (name, 0))).offsets.get? name =
      if name ∈ names then some 0 else none :=
    fun name => Table.get?_ofList_map names (fun _ => 0) name
  generalize Position.ofList (names.map fun name => (name, 0)) = p at zeros
  constructor
  · rw [Position.partitions, List.perm_ext_iff_of_nodup p.offsets.nodup_keys distinct]
    intro name
    rw [Table.mem_keys_iff, zeros]
    by_cases member : name ∈ names <;> simp [member]
  · apply List.pairwise_map.2
    apply p.offsets.sorted.imp
    intro first second before
    exact (Text.lt_iff_bytes_lt _ _).1 (of_decide_eq_true before)
  · intro e member
    have found : p.offsets.get? e.1 = some e.2 := Table.get?_eq_some_iff.2 member
    rw [zeros] at found
    split at found
    · exact (Option.some.inj found).symm
    · exact nomatch found

/-- Names come by their bytes, not by their numbers. -/
example : (Position.ofList [("2", 0), ("10", 0)]).partitions = ["10", "2"] := by decide

theorem positions_after (w : Worker) (call : WorkerCall) (topic : String) :
    (w.after call).positions.get? topic =
      (call.position? topic).or (w.positions.get? topic) := by
  cases call with
  | setPosition other position =>
    rw [after, Table.get?_insert, WorkerCall.position?]
    by_cases same : other = topic
    · simp [same]
    · simp [same, Ne.symm same]
  | addTopic other partitions => rfl
  | failPosition value => rfl
  | layOut eventType partitions firstTimeline => rfl
  | adopt eventType => rfl

theorem positions_afterAll (w : Worker) (calls : List WorkerCall) (topic : String) :
    (w.afterAll calls).positions.get? topic =
      (lastSet? calls topic).or (w.positions.get? topic) := by
  induction calls generalizing w with
  | nil => rfl
  | cons call rest ih =>
    have run := ih (w.after call)
    rw [positions_after] at run
    change ((w.after call).afterAll rest).positions.get? topic = _
    rw [run, lastSet?, lastSet?]
    cases set : call.position? topic with
    | none => simp [set]
    | some p =>
      simp only [List.filterMap_cons, set, List.getLast?_cons]
      cases (rest.filterMap (WorkerCall.position? topic)).getLast? <;> rfl

theorem failPosition_after (w : Worker) (call : WorkerCall) :
    (w.after call).failPosition = call.failure?.getD w.failPosition := by
  cases call <;> rfl

theorem failPosition_afterAll (w : Worker) (calls : List WorkerCall) :
    (w.afterAll calls).failPosition =
      (calls.filterMap WorkerCall.failure?).getLast?.getD w.failPosition := by
  induction calls generalizing w with
  | nil => rfl
  | cons call rest ih =>
    have run := ih (w.after call)
    rw [failPosition_after] at run
    change ((w.after call).afterAll rest).failPosition = _
    rw [run]
    cases switched : call.failure? with
    | none => simp [switched]
    | some value => simp [switched, List.getLast?_cons]

theorem latestPosition_of_set {p : Position} (willing : w.failPosition = false)
    (set : w.positions.get? topic = some p) : w.latestPosition topic = .ok p := by
  simp [latestPosition, willing, set]

theorem latestPosition_of_unset (willing : w.failPosition = false)
    (unset : w.positions.get? topic = none) (laidOut : w.partitionsOf topic = some n) :
    w.latestPosition topic =
      .ok (.ofList (((List.range n).map partitionName).map fun name => (name, 0))) := by
  simp only [latestPosition, willing, unset, partitionNames, laidOut]
  rfl

theorem latestPosition_error_iff : (∃ error, w.latestPosition topic = .error error) ↔
    w.failPosition = true ∨ w.positions.get? topic = none ∧ w.partitionsOf topic = none := by
  cases failing : w.failPosition with
  | true => simp [latestPosition, failing]
  | false =>
    cases set : w.positions.get? topic with
    | some p => simp [latestPosition_of_set failing set]
    | none =>
      cases laidOut : w.partitionsOf topic with
      | some n => simp [latestPosition_of_unset failing set laidOut]
      | none => simp [latestPosition, failing, set, partitionNames, laidOut, Except.map]

/-- Whatever was done with a worker, the latest position of a timeline is the last one that was set
for its topic, whatever was set for others; if none was set, it is the start of each partition of
the topic, under names that all differ. There is none just if the worker was made to fail, or if no
position was set for the topic and it has no partitions. -/
theorem latestPosition_determined (storage : Storage) (partitions : Nat) (calls : List WorkerCall)
    (t : Timeline) : ((create storage partitions).afterAll calls).Locates t.topic
      (lastSet? calls t.topic) (failing calls) := by
  have positions : ((create storage partitions).afterAll calls).positions.get? t.topic =
      lastSet? calls t.topic := by
    rw [positions_afterAll]
    exact Option.or_none
  have failure : ((create storage partitions).afterAll calls).failPosition = failing calls :=
    failPosition_afterAll _ calls
  rw [← positions, ← failure]
  constructor
  · intro n laidOut
    refine ⟨(List.range n).map partitionName, ?_, ?_, nodup_partitionNames n, ?_⟩
    · rw [partitionNames, laidOut]
    · simp
    · intro willing unset
      exact ⟨_, latestPosition_of_unset willing unset laidOut,
        starts_of_nodup (nodup_partitionNames n)⟩
  · intro p willing set
    exact latestPosition_of_set willing set
  · exact latestPosition_error_iff

end Worker

end Cutover
