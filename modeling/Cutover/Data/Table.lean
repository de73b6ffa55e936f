import Cutover.Data.Key

set_option autoImplicit false

namespace Cutover

/-- Entries in strictly increasing order of their keys. -/
abbrev Table.Sorted {κ ν : Type} [Key κ] (entries : List (κ × ν)) : Prop :=
  entries.Pairwise fun a b => Key.less a.1 b.1 = true

/-- A finite map; no key occurs twice and the entries are in key order. -/
@[ext] structure Table (κ ν : Type) [Key κ] where
  entries : List (κ × ν)
  sorted : Table.Sorted entries

namespace Table

variable {κ ν : Type} [Key κ]

def empty : Table κ ν := ⟨[], List.Pairwise.nil⟩

instance : Inhabited (Table κ ν) := ⟨empty⟩

instance [DecidableEq κ] [DecidableEq ν] : DecidableEq (Table κ ν) := fun s t =>
  decidable_of_iff (s.entries = t.entries) Table.ext_iff.symm

def keys (t : Table κ ν) : List κ := t.entries.map Prod.fst

def values (t : Table κ ν) : List ν := t.entries.map Prod.snd

def size (t : Table κ ν) : Nat := t.entries.length

/-- The value of the entry with key `k` in a list of entries. -/
def lookup (k : κ) : List (κ × ν) → Option ν
  | [] => none
  | (key, value) :: rest =>
      if Key.less key k then lookup k rest
      else if Key.less k key then none
      else some value

def get? (t : Table κ ν) (k : κ) : Option ν := lookup k t.entries

def contains (t : Table κ ν) (k : κ) : Bool := (t.get? k).isSome

/-- Puts an entry into its place, over an entry with the same key. -/
def place (k : κ) (v : ν) : List (κ × ν) → List (κ × ν)
  | [] => [(k, v)]
  | (key, value) :: rest =>
      if Key.less key k then (key, value) :: place k v rest
      else if Key.less k key then (k, v) :: (key, value) :: rest
      else (k, v) :: rest

theorem mem_place_iff {k : κ} {v : ν} {entries : List (κ × ν)} {e : κ × ν}
    (sorted : Sorted entries) :
    e ∈ place k v entries ↔ e = (k, v) ∨ (e ∈ entries ∧ e.1 ≠ k) := by
  induction entries with
  | nil => simp [place]
  | cons head rest ih =>
    obtain ⟨key, value⟩ := head
    obtain ⟨before, sortedRest⟩ := List.pairwise_cons.1 sorted
    rw [place]
    by_cases smaller : Key.less key k = true
    · rw [if_pos smaller, List.mem_cons, ih sortedRest, List.mem_cons]
      have other := Key.ne_of_less smaller
      grind
    · rw [if_neg smaller]
      by_cases larger : Key.less k key = true
      · rw [if_pos larger]
        have apart : ∀ e ∈ (key, value) :: rest, e.1 ≠ k := by
          intro e member same
          rcases List.mem_cons.1 member with rfl | inRest
          · exact Key.ne_of_less larger same.symm
          · exact Key.ne_of_less (Key.less_trans _ _ _ larger (before e inRest)) same.symm
        grind
      · rw [if_neg larger]
        have same : key = k :=
          Key.eq_of_not_less _ _ (by simpa using smaller) (by simpa using larger)
        subst same
        have apart : ∀ e ∈ rest, e.1 ≠ key := fun e inRest same =>
          Key.ne_of_less (before e inRest) same.symm
        grind

theorem place_sorted {k : κ} {v : ν} {entries : List (κ × ν)} (sorted : Sorted entries) :
    Sorted (place k v entries) := by
  induction entries with
  | nil => simp [place]
  | cons head rest ih =>
    obtain ⟨key, value⟩ := head
    obtain ⟨before, sortedRest⟩ := List.pairwise_cons.1 sorted
    rw [place]
    by_cases smaller : Key.less key k = true
    · rw [if_pos smaller]
      refine List.pairwise_cons.2 ⟨fun e placed => ?_, ih sortedRest⟩
      rcases (mem_place_iff sortedRest).1 placed with rfl | ⟨old, _⟩
      · exact smaller
      · exact before e old
    · rw [if_neg smaller]
      by_cases larger : Key.less k key = true
      · rw [if_pos larger]
        refine List.pairwise_cons.2 ⟨fun e member => ?_, sorted⟩
        rcases List.mem_cons.1 member with rfl | old
        · exact larger
        · exact Key.less_trans _ _ _ larger (before e old)
      · rw [if_neg larger]
        have same : key = k :=
          Key.eq_of_not_less _ _ (by simpa using smaller) (by simpa using larger)
        subst same
        exact List.pairwise_cons.2 ⟨before, sortedRest⟩

/-- Maps `k` to `v`, whatever it was mapped to before. -/
def insert (t : Table κ ν) (k : κ) (v : ν) : Table κ ν :=
  ⟨place k v t.entries, place_sorted t.sorted⟩

/-- Removes the entry of `k`, if there is one. -/
def erase (t : Table κ ν) (k : κ) : Table κ ν :=
  ⟨t.entries.filter fun e => Key.less e.1 k || Key.less k e.1, t.sorted.filter _⟩

/-- Maps `k` to `v` unless it is mapped already. -/
def insertIfNew (t : Table κ ν) (k : κ) (v : ν) : Table κ ν :=
  if t.contains k then t else t.insert k v

def modify (t : Table κ ν) (k : κ) (change : ν → ν) : Table κ ν :=
  match t.get? k with
  | none => t
  | some v => t.insert k (change v)

/-- The table of a list of entries; of two entries with one key the later counts. -/
def ofList (entries : List (κ × ν)) : Table κ ν :=
  entries.foldl (fun t e => t.insert e.1 e.2) empty

end Table

end Cutover
