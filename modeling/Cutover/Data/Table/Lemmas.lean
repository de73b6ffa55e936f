import Cutover.Data.Table

set_option autoImplicit false

namespace Cutover.Table

variable {κ ν : Type} [Key κ]

@[simp] theorem get?_empty (k : κ) : (empty : Table κ ν).get? k = none := rfl

theorem lookup_eq_some_iff {k : κ} {v : ν} {entries : List (κ × ν)} (sorted : Sorted entries) :
    lookup k entries = some v ↔ (k, v) ∈ entries := by
  induction entries with
  | nil => simp [lookup]
  | cons head rest ih =>
    obtain ⟨key, value⟩ := head
    obtain ⟨before, sortedRest⟩ := List.pairwise_cons.1 sorted
    rw [lookup, List.mem_cons]
    by_cases smaller : Key.less key k = true
    · rw [if_pos smaller, ih sortedRest]
      refine ⟨Or.inr, fun found => found.resolve_left ?_⟩
      rintro ⟨⟩
      exact Key.ne_of_less smaller rfl
    · rw [if_neg smaller]
      by_cases larger : Key.less k key = true
      · rw [if_pos larger]
        refine ⟨nofun, fun found => ?_⟩
        rcases found with same | inRest
        · cases same
          exact absurd rfl (Key.ne_of_less larger)
        · have after := Key.less_trans _ _ _ larger (before _ inRest)
          exact absurd rfl (Key.ne_of_less after)
      · rw [if_neg larger]
        have same : key = k :=
          Key.eq_of_not_less _ _ (by simpa using smaller) (by simpa using larger)
        subst same
        constructor
        · rintro ⟨⟩
          exact .inl rfl
        · rintro (found | inRest)
          · cases found
            rfl
          · exact absurd (before _ inRest) (by simp [Key.less_irrefl])

theorem get?_eq_some_iff {t : Table κ ν} {k : κ} {v : ν} :
    t.get? k = some v ↔ (k, v) ∈ t.entries :=
  lookup_eq_some_iff t.sorted

theorem mem_values_iff {t : Table κ ν} {v : ν} : v ∈ t.values ↔ ∃ k, t.get? k = some v := by
  simp [values, get?_eq_some_iff]

@[simp] theorem get?_insert_self (t : Table κ ν) (k : κ) (v : ν) :
    (t.insert k v).get? k = some v := by
  rw [get?_eq_some_iff]
  exact (mem_place_iff t.sorted).2 (.inl rfl)

theorem get?_insert_of_ne (t : Table κ ν) {k other : κ} (v : ν) (apart : other ≠ k) :
    (t.insert k v).get? other = t.get? other := by
  apply Option.ext
  intro found
  rw [get?_eq_some_iff, get?_eq_some_iff]
  exact (mem_place_iff t.sorted).trans (by grind)

theorem get?_insert [DecidableEq κ] (t : Table κ ν) (k other : κ) (v : ν) :
    (t.insert k v).get? other = if other = k then some v else t.get? other := by
  split
  · next same => rw [same, get?_insert_self]
  · next apart => exact get?_insert_of_ne t v apart

@[simp] theorem get?_insertIfNew_self (t : Table κ ν) (k : κ) (v : ν) :
    (t.insertIfNew k v).get? k = some ((t.get? k).getD v) := by
  rw [insertIfNew, contains]
  cases found : t.get? k with
  | none => simp
  | some old => simpa using found

theorem get?_insertIfNew_of_ne (t : Table κ ν) {k other : κ} (v : ν) (apart : other ≠ k) :
    (t.insertIfNew k v).get? other = t.get? other := by
  rw [insertIfNew]
  split
  · rfl
  · exact get?_insert_of_ne t v apart

@[simp] theorem get?_modify_self (t : Table κ ν) (k : κ) (change : ν → ν) :
    (t.modify k change).get? k = (t.get? k).map change := by
  rw [modify]
  cases found : t.get? k with
  | none => exact found
  | some old => exact get?_insert_self t k (change old)

theorem get?_modify_of_get? {t : Table κ ν} {k : κ} {v : ν} (change : ν → ν)
    (found : t.get? k = some v) : (t.modify k change).get? k = some (change v) := by
  rw [get?_modify_self, found, Option.map_some]

theorem get?_modify_of_ne (t : Table κ ν) {k other : κ} (change : ν → ν) (apart : other ≠ k) :
    (t.modify k change).get? other = t.get? other := by
  rw [modify]
  split
  · rfl
  · exact get?_insert_of_ne t _ apart

theorem mem_erase {t : Table κ ν} {k : κ} {e : κ × ν} :
    e ∈ (t.erase k).entries ↔ e ∈ t.entries ∧ e.1 ≠ k := by
  rw [erase, List.mem_filter]
  refine and_congr_right fun _ => ?_
  constructor
  · intro apart same
    simp [same, Key.less_irrefl] at apart
  · intro apart
    rw [Bool.or_eq_true]
    by_cases smaller : Key.less e.1 k = true
    · exact .inl smaller
    · by_cases larger : Key.less k e.1 = true
      · exact .inr larger
      · exact absurd (Key.eq_of_not_less _ _ (by simpa using smaller) (by simpa using larger)) apart

@[simp] theorem get?_erase_self (t : Table κ ν) (k : κ) : (t.erase k).get? k = none := by
  rw [Option.eq_none_iff_forall_ne_some]
  intro v found
  exact (mem_erase.1 (get?_eq_some_iff.1 found)).2 rfl

theorem get?_erase_of_ne (t : Table κ ν) {k other : κ} (apart : other ≠ k) :
    (t.erase k).get? other = t.get? other := by
  apply Option.ext
  intro v
  rw [get?_eq_some_iff, get?_eq_some_iff, mem_erase]
  exact and_iff_left apart

theorem eq_of_mem_iff {entries others : List (κ × ν)} (sorted : Sorted entries)
    (sortedOthers : Sorted others) (alike : ∀ e, e ∈ entries ↔ e ∈ others) : entries = others := by
  induction entries generalizing others with
  | nil =>
    rw [eq_comm, List.eq_nil_iff_forall_not_mem]
    exact fun e member => List.not_mem_nil ((alike e).2 member)
  | cons head rest ih =>
    obtain ⟨before, sortedRest⟩ := List.pairwise_cons.1 sorted
    cases others with
    | nil => exact absurd ((alike head).1 List.mem_cons_self) List.not_mem_nil
    | cons otherHead otherRest =>
      obtain ⟨beforeOther, sortedOtherRest⟩ := List.pairwise_cons.1 sortedOthers
      have same : head = otherHead := by
        rcases List.mem_cons.1 ((alike head).1 List.mem_cons_self) with same | later
        · exact same
        · rcases List.mem_cons.1 ((alike otherHead).2 List.mem_cons_self) with same | earlier
          · exact same.symm
          · have := Key.less_asymm (before _ earlier)
            rw [beforeOther _ later] at this
            exact nomatch this
      subst same
      refine congrArg (head :: ·) (ih sortedRest sortedOtherRest fun e => ?_)
      have apart : ∀ e ∈ rest, e ≠ head := fun e inRest same =>
        Key.ne_of_less (before e inRest) (by rw [same])
      have apartOther : ∀ e ∈ otherRest, e ≠ head := fun e inRest same =>
        Key.ne_of_less (beforeOther e inRest) (by rw [same])
      have := alike e
      grind

theorem eq_of_get?_eq {s t : Table κ ν} (alike : ∀ k, s.get? k = t.get? k) : s = t := by
  refine Table.ext (eq_of_mem_iff s.sorted t.sorted fun e => ?_)
  rw [← get?_eq_some_iff (k := e.1) (v := e.2), alike, get?_eq_some_iff]

theorem erase_of_get?_none {t : Table κ ν} {k : κ} (none : t.get? k = none) : t.erase k = t := by
  refine Table.ext (List.filter_eq_self.2 fun e inside => ?_)
  have apart : e.1 ≠ k := by
    rintro rfl
    exact nomatch none.symm.trans (get?_eq_some_iff.2 inside)
  exact (List.mem_filter.1 (mem_erase.2 ⟨inside, apart⟩)).2

theorem erase_insert (t : Table κ ν) (k : κ) (v : ν) : (t.insert k v).erase k = t.erase k := by
  refine Table.ext (eq_of_mem_iff (erase _ k).sorted (erase t k).sorted fun e => ?_)
  rw [mem_erase, mem_erase]
  refine and_congr_left fun apart => (mem_place_iff t.sorted).trans ?_
  refine ⟨?_, fun inside => .inr ⟨inside, apart⟩⟩
  rintro (rfl | ⟨inside, -⟩)
  · exact absurd rfl apart
  · exact inside

theorem nodup_entries (t : Table κ ν) : t.entries.Nodup :=
  t.sorted.imp fun before same => Key.ne_of_less before (congrArg Prod.fst same)

theorem values_perm {t : Table κ ν} {k : κ} {v : ν} (found : t.get? k = some v) :
    t.values.Perm (v :: (t.erase k).values) := by
  have inside : (k, v) ∈ t.entries := get?_eq_some_iff.1 found
  have distinct : ((k, v) :: (t.erase k).entries).Nodup :=
    List.nodup_cons.2 ⟨fun kept => (mem_erase.1 kept).2 rfl, nodup_entries _⟩
  refine List.Perm.map Prod.snd ((List.perm_ext_iff_of_nodup t.nodup_entries distinct).2 fun e => ?_)
  rw [List.mem_cons, mem_erase]
  constructor
  · intro kept
    by_cases same : e.1 = k
    · have value := get?_eq_some_iff.2 kept
      rw [same, found] at value
      exact .inl (Prod.ext same (Option.some.inj value).symm)
    · exact .inr ⟨kept, same⟩
  · rintro (rfl | kept)
    · exact inside
    · exact kept.1

theorem values_insert_perm (t : Table κ ν) (k : κ) (v : ν) :
    (t.insert k v).values.Perm (v :: (t.erase k).values) := by
  rw [← erase_insert t k v]
  exact values_perm (get?_insert_self t k v)

theorem mem_keys_iff {t : Table κ ν} {k : κ} : k ∈ t.keys ↔ ∃ v, t.get? k = some v := by
  simp [keys, get?_eq_some_iff]

theorem nodup_keys (t : Table κ ν) : t.keys.Nodup :=
  List.pairwise_map.2 (t.sorted.imp Key.ne_of_less)

/-- Entries that are put into a table take the place of others with their keys. -/
theorem get?_foldl_insert_map [DecidableEq κ] (t : Table κ ν) (keys : List κ) (f : κ → ν) (k : κ) :
    ((keys.map fun k => (k, f k)).foldl (fun t e => t.insert e.1 e.2) t).get? k =
      if k ∈ keys then some (f k) else t.get? k := by
  induction keys generalizing t with
  | nil => simp
  | cons key rest ih =>
    rw [List.map_cons, List.foldl_cons, ih, get?_insert]
    by_cases same : k = key
    · simp [same]
    · simp [same]

theorem get?_ofList_map [DecidableEq κ] (keys : List κ) (f : κ → ν) (k : κ) :
    (ofList (keys.map fun k => (k, f k))).get? k = if k ∈ keys then some (f k) else none := by
  rw [ofList, get?_foldl_insert_map, get?_empty]

theorem size_insert_of_new {t : Table κ ν} {k : κ} (new : t.get? k = none) (v : ν) :
    (t.insert k v).size = t.size + 1 := by
  have perm := values_insert_perm t k v
  rw [erase_of_get?_none new] at perm
  simpa [values, size] using perm.length_eq

theorem size_insertIfNew_of_new {t : Table κ ν} {k : κ} (new : t.get? k = none) (v : ν) :
    (t.insertIfNew k v).size = t.size + 1 := by
  rw [insertIfNew, contains, new]
  exact size_insert_of_new new v

theorem size_le_insertIfNew (t : Table κ ν) (k : κ) (v : ν) : t.size ≤ (t.insertIfNew k v).size := by
  cases found : t.get? k with
  | none =>
    rw [size_insertIfNew_of_new found]
    exact Nat.le_succ _
  | some old =>
    rw [insertIfNew, contains, found]
    exact Nat.le_refl _

/-- What a table has after an entry was put into it, it had before, or it is the new key. -/
theorem contains_of_insertIfNew {t : Table κ ν} {k other : κ} {v : ν}
    (there : (t.insertIfNew k v).contains other = true) :
    other = k ∨ t.contains other = true := by
  by_cases same : other = k
  · exact .inl same
  · rw [contains, get?_insertIfNew_of_ne _ _ same] at there
    exact .inr there

end Cutover.Table
