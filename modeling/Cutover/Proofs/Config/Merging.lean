import Cutover.Config.Setting
import Mathlib.Data.List.Basic

set_option autoImplicit false

namespace Cutover

namespace Setting

variable {name key : String} {value : Setting} {values : List Setting}
  {target entries inner : List (String × Setting)}

theorem lookup_assign (name key : String) (value : Setting) (entries : List (String × Setting)) :
    lookup name (assign key value entries) =
      if key = name then some value else lookup name entries := by
  induction entries with
  | nil => rfl
  | cons entry rest ih =>
    obtain ⟨other, old⟩ := entry
    rw [assign]
    by_cases same : other = key
    · subst same
      rw [if_pos rfl, lookup, lookup]
      split <;> rfl
    · rw [if_neg same, lookup, lookup, ih]
      by_cases found : other = name
      · rw [if_pos found, if_pos found, if_neg (found ▸ Ne.symm same)]
      · rw [if_neg found, if_neg found]

/-- What a value makes of the one that it is merged into. -/
def merged (old : Option Setting) : Setting → Setting
  | .table [] => old.getD (.table [])
  | .table (entry :: rest) => .table (putAll (old.getD (.table [])).entries (entry :: rest))
  | value => value

/-- What values make of the one that they are merged into, one after the other. -/
def mergeAll (old : Option Setting) (values : List Setting) : Option Setting :=
  values.foldl (fun old value => some (merged old value)) old

def given (key : String) (entries : List (String × Setting)) : List Setting :=
  entries.filterMap fun entry => if Text.lower entry.1 = key then some entry.2 else none

theorem given_append (key : String) (entries more : List (String × Setting)) :
    given key (entries ++ more) = given key entries ++ given key more := List.filterMap_append

theorem given_cons (key name : String) (value : Setting) (rest : List (String × Setting)) :
    given key ((name, value) :: rest) =
      if Text.lower name = key then value :: given key rest else given key rest := by
  rw [given, List.filterMap_cons]
  split <;> split <;> simp_all [given]

theorem mem_given : value ∈ given key entries ↔ ∃ e ∈ entries, Text.lower e.1 = key ∧ e.2 = value := by
  simp [given]

theorem put_eq (target : List (String × Setting)) (key : String) (value : Setting) :
    put target key value =
      assign (Text.lower key) (merged (lookup (Text.lower key) target) value) target := by
  cases value with
  | table incoming =>
    cases incoming with
    | nil => rw [put, merged]
    | cons entry rest => rw [put, merged]
  | _ => simp only [put, merged]

theorem putAll_append (target entries more : List (String × Setting)) :
    putAll target (entries ++ more) = putAll (putAll target entries) more := by
  induction entries generalizing target with
  | nil => rw [List.nil_append, putAll]
  | cons entry rest ih => rw [List.cons_append, putAll, putAll, ih]

/-- Merging entries merges the values that they give to a key into the value that it had. -/
theorem lookup_putAll (key : String) (target entries : List (String × Setting)) :
    lookup key (putAll target entries) = mergeAll (lookup key target) (given key entries) := by
  induction entries generalizing target with
  | nil => rw [putAll]; rfl
  | cons entry rest ih =>
    obtain ⟨name, value⟩ := entry
    rw [putAll, ih, put_eq, lookup_assign, given_cons]
    by_cases same : Text.lower name = key
    · rw [if_pos same, same, if_pos rfl]
      rfl
    · rw [if_neg same, if_neg same]

def isTable : Setting → Bool
  | .table _ => true
  | _ => false

theorem eq_table (isTable : value.isTable = true) : value = .table value.entries := by
  cases value with
  | table entries => rfl
  | _ => exact nomatch isTable

theorem merged_table (target entries : List (String × Setting)) :
    merged (some (.table target)) (.table entries) = .table (putAll target entries) := by
  cases entries with
  | nil => rw [merged, putAll, Option.getD_some]
  | cons entry rest => rw [merged]; rfl

theorem merged_none (entries : List (String × Setting)) :
    merged none (.table entries) = .table (putAll [] entries) := by
  cases entries with
  | nil => rw [merged, putAll, Option.getD_none]
  | cons entry rest => rw [merged]; rfl

theorem mergeAll_some_tables (tables : ∀ v ∈ values, v.isTable = true)
    (target : List (String × Setting)) :
    mergeAll (some (.table target)) values = some (.table (putAll target (values.flatMap Setting.entries))) := by
  induction values generalizing target with
  | nil => rw [List.flatMap_nil, putAll]; rfl
  | cons value rest ih =>
    have first := eq_table (tables value List.mem_cons_self)
    have others := ih (fun v later => tables v (List.mem_cons_of_mem _ later))
      (putAll target value.entries)
    rw [List.flatMap_cons, putAll_append, ← others, mergeAll, List.foldl_cons, first, merged_table,
      Setting.entries]
    rfl

theorem mergeAll_tables (tables : ∀ v ∈ values, v.isTable = true) (filled : values ≠ []) :
    mergeAll none values = some (.table (putAll [] (values.flatMap Setting.entries))) := by
  cases values with
  | nil => exact absurd rfl filled
  | cons value rest =>
    have first := eq_table (tables value List.mem_cons_self)
    have others := mergeAll_some_tables (fun v later => tables v (List.mem_cons_of_mem _ later))
      (putAll [] value.entries)
    rw [List.flatMap_cons, putAll_append, ← others, mergeAll, List.foldl_cons, first, merged_none,
      Setting.entries]
    rfl

/-- The table that a value is in at the end of some keys. -/
def nested : List String → Setting → Setting
  | [], value => value
  | key :: keys, value => .table [(key, nested keys value)]

/-- A value at the end of a path of keys is merged like the table that it is nested in. -/
theorem putAt_keys (s : Setting) (key : String) (keys : List String) (value : Setting) :
    putAt s ((key :: keys).map .key) value = .table (put s.entries key (nested keys value)) := by
  induction keys generalizing s key with
  | nil => rfl
  | cons next rest ih =>
    have through : putAt s ((key :: next :: rest).map .key) value =
        s.update (fun inner => putAt inner ((next :: rest).map .key) value) (.key key) := rfl
    have within : nested (next :: rest) value = .table [(next, nested rest value)] := rfl
    rw [through, update, ih, within, put_eq s.entries, merged, putAll, putAll]
    cases lookup (Text.lower key) s.entries with
    | none => rfl
    | some old => rfl

end Setting

namespace PathStep

open Cutover.Text

def keys (text : String) : List String :=
  (ofText text).filterMap fun
    | .key name => some name
    | .place _ => none

theorem key?_cases {text rest : List Char} {step : PathStep} (found : key? text = some (step, rest)) :
    (∃ name, step = .key name) ∧ rest <:+ text := by
  rw [key?] at found
  split at found
  · exact nomatch found
  · obtain ⟨rfl, rfl⟩ := Prod.mk.inj (Option.some.inj found)
    exact ⟨⟨_, rfl⟩, List.drop_suffix _ _⟩

theorem more?_keys {fuel : Nat} {text : List Char} {steps : List PathStep} (plain : '[' ∉ text)
    (found : more? fuel text = some steps) : ∃ names : List String, steps = names.map .key := by
  induction fuel generalizing text steps with
  | zero =>
    cases text with
    | nil => exact ⟨[], (Option.some.inj found).symm⟩
    | cons c rest => exact nomatch found
  | succ fuel ih =>
    cases text with
    | nil => exact ⟨[], (Option.some.inj found).symm⟩
    | cons c rest =>
      by_cases point : c = '.'
      · subst point
        obtain ⟨⟨step, rest'⟩, key, found⟩ := Option.bind_eq_some_iff.1 found
        obtain ⟨others, more, same⟩ := Option.bind_eq_some_iff.1 found
        obtain ⟨⟨name, rfl⟩, suffix⟩ := key?_cases key
        have plain' : '[' ∉ rest' := fun inside =>
          plain (List.mem_cons_of_mem _ (suffix.subset inside))
        obtain ⟨names, rfl⟩ := ih plain' more
        exact ⟨name :: names, (Option.some.inj same).symm⟩
      · have bracket : c ≠ '[' := by
          rintro rfl
          exact plain List.mem_cons_self
        have stuck : more? (fuel + 1) (c :: rest) = none := by simp [more?, point, bracket]
        exact nomatch stuck.symm.trans found

theorem ofText_eq (text : String) : ofText text = ((key? text.toList).bind fun first =>
    (more? first.2.length first.2).bind fun rest => some (first.1 :: rest)).getD [.key text] := rfl

theorem ofText_keys {text : String} (plain : '[' ∉ text.toList) :
    ofText text = (keys text).map .key ∧ keys text ≠ [] := by
  have some : ∃ (first : String) (rest : List String), ofText text = (first :: rest).map .key := by
    rw [ofText_eq]
    cases path : (key? text.toList).bind fun first =>
        (more? first.2.length first.2).bind fun rest => some (first.1 :: rest) with
    | none => exact ⟨text, [], rfl⟩
    | some steps =>
      obtain ⟨⟨step, rest⟩, key, path⟩ := Option.bind_eq_some_iff.1 path
      obtain ⟨others, more, same⟩ := Option.bind_eq_some_iff.1 path
      obtain ⟨⟨name, rfl⟩, suffix⟩ := key?_cases key
      have plain' : '[' ∉ rest := fun inside => plain (suffix.subset inside)
      obtain ⟨names, rfl⟩ := more?_keys plain' more
      exact ⟨name, names, (Option.some.inj same).symm⟩
  obtain ⟨first, rest, path⟩ := some
  have names : keys text = first :: rest := by
    rw [keys, path, List.filterMap_map]
    exact List.filterMap_some
  rw [names]
  exact ⟨path, List.cons_ne_nil _ _⟩

end PathStep

namespace Setting

/-- An entry with its key for a path: the table under the first key that the path leads through. -/
def branch (entry : String × Setting) : String × Setting :=
  match PathStep.keys entry.1 with
  | [] => entry
  | key :: rest => (key, nested rest entry.2)

/-- A source whose keys are paths of keys is merged like one of tables in tables. -/
theorem layer_eq {source : List (String × Setting)}
    (plain : ∀ entry ∈ source, '[' ∉ entry.1.toList) (target : List (String × Setting)) :
    layer target source = putAll target (source.map branch) := by
  induction source generalizing target with
  | nil => rw [List.map_nil, putAll]; rfl
  | cons entry rest ih =>
    obtain ⟨path, some⟩ := PathStep.ofText_keys (plain entry List.mem_cons_self)
    have first : (putAt (.table target) (PathStep.ofText entry.1) entry.2).entries =
        put target (branch entry).1 (branch entry).2 := by
      rw [path, branch]
      cases names : PathStep.keys entry.1 with
      | nil => exact absurd names some
      | cons key rest => rw [putAt_keys]; rfl
    rw [layer, List.foldl_cons, first, List.map_cons, putAll, ← ih fun e later =>
      plain e (List.mem_cons_of_mem _ later), layer]

theorem foldl_layer {sources : List (List (String × Setting))}
    (plain : ∀ source ∈ sources, ∀ entry ∈ source, '[' ∉ entry.1.toList)
    (target : List (String × Setting)) :
    sources.foldl layer target = putAll target (sources.flatMap (·.map branch)) := by
  induction sources generalizing target with
  | nil => rw [List.flatMap_nil, putAll]; rfl
  | cons source rest ih =>
    have first := layer_eq (plain source List.mem_cons_self) target
    have others := ih (fun s later => plain s (List.mem_cons_of_mem _ later))
      (putAll target (source.map branch))
    rw [List.foldl_cons, first, others, List.flatMap_cons, putAll_append]

end Setting

end Cutover
