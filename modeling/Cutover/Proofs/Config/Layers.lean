import Cutover.Config.Load
import Cutover.Proofs.Config.Merging
import Mathlib.Data.List.Forall2
import Mathlib.Data.List.Pairwise

set_option autoImplicit false

namespace Cutover

namespace Setting

variable {α : Type} {group field : String} {value old : Setting} {values before after : List Setting}
  {source entries : List (String × Setting)} {sources : List (List (String × Setting))}
  {convert : Setting → Option α} {standard : Option α} {x : α}

/-- The values that a source gives to a field of a group. -/
def valuesAt (group field : String) (source : List (String × Setting)) : List Setting :=
  given field ((given group (source.map branch)).flatMap Setting.entries)

def Names (source : List (String × Setting)) (group : String) : Prop :=
  ∃ entry ∈ source, Text.lower (branch entry).1 = group

instance : Decidable (Names source group) :=
  inferInstanceAs (Decidable (∃ entry ∈ source, Text.lower (branch entry).1 = group))

theorem names_iff : Names source group ↔ given group (source.map branch) ≠ [] := by
  constructor
  · rintro ⟨entry, inside, named⟩
    exact List.ne_nil_of_mem (mem_given.2 ⟨_, List.mem_map_of_mem inside, named, rfl⟩)
  · intro filled
    obtain ⟨value, inside⟩ := List.exists_mem_of_ne_nil _ filled
    obtain ⟨_, among, named, -⟩ := mem_given.1 inside
    obtain ⟨entry, inside', rfl⟩ := List.mem_map.1 among
    exact ⟨entry, inside', named⟩

/-- A source sets a field of a group to a value. An empty table has nothing that could be merged: it
sets nothing. -/
def Sets (source : List (String × Setting)) (group field : String) (value : Setting) : Prop :=
  value ∈ valuesAt group field source ∧ value ≠ .table []

theorem mem_valuesAt : value ∈ valuesAt group field source ↔
    ∃ entry ∈ source, Text.lower (branch entry).1 = group ∧
      ∃ inner ∈ (branch entry).2.entries, Text.lower inner.1 = field ∧ inner.2 = value := by
  simp only [valuesAt, mem_given, List.mem_flatMap, List.mem_map]
  constructor
  · rintro ⟨inner, ⟨_, ⟨_, ⟨entry, inside, rfl⟩, named, rfl⟩, inside'⟩, named', given⟩
    exact ⟨entry, inside, named, inner, inside', named', given⟩
  · rintro ⟨entry, inside, named, inner, inside', named', given⟩
    exact ⟨inner, ⟨_, ⟨_, ⟨entry, inside, rfl⟩, named, rfl⟩, inside'⟩, named', given⟩

/-- No two keys differ only in case. -/
def Apart (entries : List (String × Setting)) : Prop :=
  entries.Pairwise fun a b => Text.lower a.1 ≠ Text.lower b.1

instance : Decidable (Apart entries) := inferInstanceAs (Decidable (entries.Pairwise _))

theorem Apart.eq (apart : Apart entries) {a b : String × Setting} (inside : a ∈ entries)
    (inside' : b ∈ entries) (same : Text.lower a.1 = Text.lower b.1) : a = b := by
  have symmetric : Std.Symm fun a b : String × Setting => Text.lower a.1 ≠ Text.lower b.1 :=
    ⟨fun _ _ differ => differ.symm⟩
  by_contra differ
  exact List.Pairwise.forall apart inside inside' differ same

/-- The keys that a text leads through, in lower case. -/
def path (text : String) : List String := (PathStep.keys text).map Text.lower

def groups : List String := ["coordination", "timelines", "default_storage"]

/-- A source whose keys lead through tables and do not get into each other's way: none of them is
the beginning of another or the same in another case, the groups are tables, and no two keys of one
table differ only in case. -/
@[mk_iff] structure Regular (source : List (String × Setting)) : Prop where
  plain : ∀ entry ∈ source, '[' ∉ entry.1.toList
  paths : source.Pairwise fun a b => ¬ path a.1 <+: path b.1 ∧ ¬ path b.1 <+: path a.1
  tables : ∀ entry ∈ source, Text.lower (branch entry).1 ∈ groups → (branch entry).2.isTable = true
  apart : ∀ entry ∈ source, Apart (branch entry).2.entries ∧
    ∀ inner ∈ (branch entry).2.entries, Apart inner.2.entries

instance : Decidable (Regular source) := decidable_of_iff _ (regular_iff source).symm

/-- What is read of a value that may be missing. -/
def read (convert : Setting → Option α) (standard : Option α) : Option Setting → Option α
  | none => standard
  | some value => convert value

/-- Of a table a conversion takes no more than the name of its only key, in any case. -/
def TakesName (convert : Setting → Option α) : Prop :=
  ∀ entries x, convert (.table entries) = some x → ∃ name value, entries = [(name, value)] ∧
    ∀ other value', Text.lower other = Text.lower name → convert (.table [(other, value')]) = some x

theorem mergeAll_append (old : Option Setting) (values more : List Setting) :
    mergeAll old (values ++ more) = mergeAll (mergeAll old values) more := List.foldl_append

theorem isSome_mergeAll {old : Option Setting} (filled : old.isSome = true ∨ values ≠ []) :
    (mergeAll old values).isSome = true := by
  induction values generalizing old with
  | nil => exact filled.resolve_right fun none => none rfl
  | cons value rest ih => exact ih (.inl rfl)

theorem merged_of_not_table (scalar : value.isTable = false) (old : Option Setting) :
    merged old value = value := by
  cases value with
  | table entries => exact nomatch scalar
  | _ => rfl

theorem mergeAll_scalar (scalar : value.isTable = false)
    (rest : ∀ v ∈ values, v = value ∨ v = .table []) : mergeAll (some value) values = some value := by
  induction values with
  | nil => rfl
  | cons first later ih =>
    have stays : merged (some value) first = value := by
      rcases rest first List.mem_cons_self with rfl | rfl
      · exact merged_of_not_table scalar _
      · rfl
    rw [mergeAll, List.foldl_cons, stays]
    exact ih fun v inside => rest v (List.mem_cons_of_mem _ inside)

theorem merged_entries (filled : entries ≠ []) (old : Option Setting) :
    merged old (.table entries) = .table (putAll (old.getD (.table [])).entries entries) := by
  cases entries with
  | nil => exact absurd rfl filled
  | cons entry rest => rw [merged]

theorem mergeAll_keys (tables : ∀ v ∈ values, v.isTable = true) (filled : entries ≠ [])
    (old : Option Setting) : ∃ merged', mergeAll (some (merged old (.table entries))) values =
        some (.table merged') ∧
      ∀ entry ∈ entries, (lookup (Text.lower entry.1) merged').isSome = true := by
  rw [merged_entries filled, mergeAll_some_tables tables]
  refine ⟨_, rfl, ?_⟩
  intro entry inside
  rw [lookup_putAll, lookup_putAll]
  apply isSome_mergeAll
  left
  apply isSome_mergeAll
  right
  exact List.ne_nil_of_mem (mem_given.2 ⟨entry, inside, rfl, rfl⟩)

/-- The last values that are no empty tables decide what is read: if it can be read at all, then of
each of them the same is read. -/
theorem read_last {last : List Setting} (takes : TakesName convert) (inside : value ∈ last)
    (filled : value ≠ .table []) (apart : Apart value.entries)
    (alike : ∀ v ∈ last, v = value ∨ v.isTable = true ∧ value.isTable = true)
    (rest : ∀ v ∈ after, v = .table [])
    (found : read convert standard (mergeAll none (before ++ last ++ after)) = some x) :
    convert value = some x := by
  obtain ⟨first, others, rfl⟩ := List.append_of_mem inside
  have split : before ++ (first ++ value :: others) ++ after =
      (before ++ first) ++ value :: (others ++ after) := by simp
  rw [split, mergeAll_append, mergeAll, List.foldl_cons, ← mergeAll] at found
  generalize mergeAll none (before ++ first) = old at found
  cases scalar : value.isTable with
  | false =>
    have later : ∀ v ∈ others ++ after, v = value ∨ v = .table [] := by
      intro v member
      rcases List.mem_append.1 member with among | empty
      · have same := alike v (List.mem_append_right _ (List.mem_cons_of_mem _ among))
        exact .inl (same.resolve_right fun both =>
          absurd (scalar.symm.trans both.2) Bool.false_ne_true)
      · exact .inr (rest v empty)
    rw [merged_of_not_table scalar, mergeAll_scalar scalar later] at found
    exact found
  | true =>
    have later : ∀ v ∈ others ++ after, v.isTable = true := by
      intro v member
      rcases List.mem_append.1 member with among | empty
      · rcases alike v (List.mem_append_right _ (List.mem_cons_of_mem _ among)) with rfl | both
        · exact scalar
        · exact both.1
      · rw [rest v empty]
        rfl
    obtain ⟨entries, rfl⟩ : ∃ entries, value = .table entries := ⟨_, eq_table scalar⟩
    have several : entries ≠ [] := fun none => filled (congrArg _ none)
    obtain ⟨whole, same, keys⟩ := mergeAll_keys later several old
    rw [same, read] at found
    obtain ⟨name, inner, rfl, takes⟩ := takes whole x found
    have named : ∀ entry ∈ entries, name = Text.lower entry.1 := by
      intro entry member
      have key := keys entry member
      rw [lookup] at key
      split at key
      · next same => exact same
      · exact absurd key Bool.false_ne_true
    cases entries with
    | nil => exact absurd rfl several
    | cons entry more =>
      cases more with
      | nil =>
        apply takes entry.1 entry.2
        rw [named entry List.mem_cons_self, Text.lower_lower]
      | cons second more =>
        have first := named entry List.mem_cons_self
        have next := named second (List.mem_cons_of_mem _ List.mem_cons_self)
        exact absurd (first.symm.trans next) ((List.pairwise_cons.1 apart).1 second
          List.mem_cons_self)

/-- If nothing is given but empty tables and something can be read, it is the standard. -/
theorem read_unset (takes : TakesName convert) (empty : ∀ v ∈ values, v = .table [])
    (found : read convert standard (mergeAll none values) = some x) : standard = some x := by
  cases values with
  | nil => exact found
  | cons value rest =>
    have tables : ∀ v ∈ value :: rest, v.isTable = true := by
      intro v inside
      rw [empty v inside]
      rfl
    have none : (value :: rest).flatMap Setting.entries = [] := by
      rw [List.flatMap_eq_nil_iff]
      intro v inside
      rw [empty v inside]
      rfl
    rw [mergeAll_tables tables (List.cons_ne_nil _ _), none, putAll, read] at found
    obtain ⟨name, inner, impossible, -⟩ := takes [] x found
    exact absurd impossible.symm (List.cons_ne_nil _ _)

theorem isTable_nested {keys : List String} (deeper : keys ≠ []) (value : Setting) :
    (nested keys value).isTable = true := by
  cases keys with
  | nil => exact absurd rfl deeper
  | cons key rest => rfl

/-- What an entry gives to a field: its path ends at the group, or it goes on to the field, and
perhaps further, where it gives a table. -/
theorem Regular.reaches (regular : Regular source) {entry inner : String × Setting}
    (inside : entry ∈ source) (inside' : inner ∈ (branch entry).2.entries) :
    path entry.1 = [Text.lower (branch entry).1] ∨
      ∃ deeper, path entry.1 = Text.lower (branch entry).1 :: Text.lower inner.1 :: deeper ∧
        (deeper ≠ [] → inner.2.isTable = true) := by
  have filled := (PathStep.ofText_keys (regular.plain entry inside)).2
  rw [branch] at inside' ⊢
  rw [path]
  cases names : PathStep.keys entry.1 with
  | nil => exact absurd names filled
  | cons key rest =>
    rw [names] at inside'
    cases rest with
    | nil => exact .inl rfl
    | cons next deeper =>
      right
      obtain rfl := List.mem_singleton.1 inside'
      refine ⟨deeper.map Text.lower, rfl, fun further => isTable_nested ?_ _⟩
      rintro rfl
      exact further rfl

theorem Regular.alike (regular : Regular source) {v : Setting}
    (inside : value ∈ valuesAt group field source) (inside' : v ∈ valuesAt group field source) :
    v = value ∨ v.isTable = true ∧ value.isTable = true := by
  obtain ⟨a, member, named, i, among, named', rfl⟩ := mem_valuesAt.1 inside
  obtain ⟨b, member', sameGroup, j, among', sameField, rfl⟩ := mem_valuesAt.1 inside'
  by_cases same : a = b
  · subst same
    left
    rw [(regular.apart a member).1.eq among' among (sameField.trans named'.symm)]
  · have symmetric : Std.Symm fun a b : String × Setting =>
        ¬ path a.1 <+: path b.1 ∧ ¬ path b.1 <+: path a.1 := ⟨fun _ _ both => both.symm⟩
    obtain ⟨before, after⟩ := List.Pairwise.forall regular.paths member member' same
    have first := regular.reaches member among
    have second := regular.reaches member' among'
    rw [named, named'] at first
    rw [sameGroup, sameField] at second
    right
    rcases first with ends | ⟨deeper, goesOn, table⟩
    · rcases second with ends' | ⟨deeper', goesOn', -⟩
      · rw [ends, ends'] at before
        exact absurd List.prefix_rfl before
      · rw [ends, goesOn'] at before
        exact absurd (List.prefix_append [group] _) before
    · rcases second with ends' | ⟨deeper', goesOn', table'⟩
      · rw [ends', goesOn] at after
        exact absurd (List.prefix_append [group] _) after
      · rw [goesOn, goesOn'] at before after
        refine ⟨table' ?_, table ?_⟩
        · rintro rfl
          exact after (List.prefix_append [group, field] deeper)
        · rintro rfl
          exact before (List.prefix_append [group, field] deeper')

theorem Regular.apart_of_sets (regular : Regular source)
    (inside : value ∈ valuesAt group field source) : Apart value.entries := by
  obtain ⟨entry, member, -, inner, among, -, rfl⟩ := mem_valuesAt.1 inside
  exact (regular.apart entry member).2 inner among

/-- The value of a field is that of the last source that sets it, converted, or the standard one if
no source does. -/
structure FromLast (sources : List (List (String × Setting))) (group field : String)
    (convert : Setting → Option α) (standard : Option α) (x : α) : Prop where
  last : ∀ before source after value, sources = before ++ source :: after →
    Sets source group field value → (∀ later ∈ after, ∀ v, ¬ Sets later group field v) →
    convert value = some x
  unset : (∀ source ∈ sources, ∀ v, ¬ Sets source group field v) → standard = some x

/-- The value of a field once all sources are merged. -/
def valueOf (sources : List (List (String × Setting))) (group field : String) : Option Setting :=
  mergeAll none (sources.flatMap (valuesAt group field))

theorem eq_empty_of_not_sets (unset : ∀ v, ¬ Sets source group field v) :
    ∀ v ∈ valuesAt group field source, v = .table [] := by
  intro v inside
  by_contra filled
  exact unset v ⟨inside, filled⟩

theorem fromLast (regular : ∀ source ∈ sources, Regular source) (takes : TakesName convert)
    (found : read convert standard (valueOf sources group field) = some x) :
    FromLast sources group field convert standard x where
  last before source after value split sets unset := by
    have member : source ∈ sources := by simp [split]
    have rest : ∀ v ∈ after.flatMap (valuesAt group field), v = .table [] := by
      intro v inside
      obtain ⟨later, among, inside'⟩ := List.mem_flatMap.1 inside
      exact eq_empty_of_not_sets (unset later among) v inside'
    rw [valueOf, split, List.flatMap_append, List.flatMap_cons, ← List.append_assoc] at found
    exact read_last takes sets.1 sets.2 ((regular source member).apart_of_sets sets.1)
      (fun v inside => (regular source member).alike sets.1 inside) rest found
  unset unset := by
    apply read_unset takes _ found
    intro v inside
    obtain ⟨source, among, inside'⟩ := List.mem_flatMap.1 inside
    exact eq_empty_of_not_sets (unset source among) v inside'

/-- The entries of a group once all sources are merged. -/
def groupOf (sources : List (List (String × Setting))) (group : String) :
    List (String × Setting) :=
  putAll [] (sources.flatMap fun source => (given group (source.map branch)).flatMap Setting.entries)

theorem lookup_groupOf (sources : List (List (String × Setting))) (group field : String) :
    lookup field (groupOf sources group) = valueOf sources group field := by
  rw [groupOf, lookup_putAll, given, List.filterMap_flatMap]
  rfl

theorem lookup_merged (regular : ∀ source ∈ sources, Regular source) (group : String) :
    lookup group (Sources.merged sources) =
      mergeAll none (sources.flatMap fun source => given group (source.map branch)) := by
  rw [Sources.merged, foldl_layer fun source member => (regular source member).plain,
    lookup_putAll, given, List.filterMap_flatMap]
  rfl

theorem lookup_unnamed (regular : ∀ source ∈ sources, Regular source)
    (unnamed : ∀ source ∈ sources, ¬ Names source group) :
    lookup group (Sources.merged sources) = none ∧ groupOf sources group = [] := by
  have none : ∀ source ∈ sources, given group (source.map branch) = [] :=
    fun source member => not_not.1 (mt names_iff.2 (unnamed source member))
  rw [lookup_merged regular, groupOf, List.flatMap_eq_nil_iff.2 none, List.flatMap_eq_nil_iff.2]
  · exact ⟨rfl, by rw [putAll]⟩
  · intro source member
    rw [none source member, List.flatMap_nil]

theorem lookup_named (regular : ∀ source ∈ sources, Regular source) (known : group ∈ groups)
    (named : ∃ source ∈ sources, Names source group) :
    lookup group (Sources.merged sources) = some (.table (groupOf sources group)) := by
  have tables : ∀ v ∈ sources.flatMap fun source => given group (source.map branch),
      v.isTable = true := by
    intro v inside
    obtain ⟨source, member, inside'⟩ := List.mem_flatMap.1 inside
    obtain ⟨_, among, same, rfl⟩ := mem_given.1 inside'
    obtain ⟨entry, inside'', rfl⟩ := List.mem_map.1 among
    exact (regular source member).tables entry inside'' (same ▸ known)
  obtain ⟨source, member, names⟩ := named
  obtain ⟨v, inside⟩ := List.exists_mem_of_ne_nil _ (names_iff.1 names)
  have among : v ∈ sources.flatMap fun source => given group (source.map branch) :=
    List.mem_flatMap.2 ⟨source, member, inside⟩
  rw [lookup_merged regular, mergeAll_tables tables (List.ne_nil_of_mem among), groupOf,
    List.flatMap_assoc]

/-- A group with standard values is read from its merged table, empty if no source has it. -/
theorem fieldOr_group (regular : ∀ source ∈ sources, Regular source) (known : group ∈ groups)
    {fields : List String} {ofEntries? : List (String × Setting) → Option α} {normal : α}
    (empty : ofEntries? [] = some normal) :
    fieldOr (fun s => (s.group? fields).bind ofEntries?) normal group (Sources.merged sources) =
      ofEntries? (groupOf sources group) := by
  by_cases named : ∃ source ∈ sources, Names source group
  · rw [fieldOr, lookup_named regular known named]
    rfl
  · have unnamed : ∀ source ∈ sources, ¬ Names source group :=
      fun source member names => named ⟨source, member, names⟩
    rw [fieldOr, (lookup_unnamed regular unnamed).1, (lookup_unnamed regular unnamed).2, empty]

theorem fieldOr_eq (convert : Setting → Option α) (normal : α) (field : String)
    (sources : List (List (String × Setting))) (group : String) :
    fieldOr convert normal field (groupOf sources group) =
      read convert (some normal) (valueOf sources group field) := by
  rw [fieldOr, lookup_groupOf]
  cases valueOf sources group field <;> rfl

theorem takesName_text : TakesName text? := nofun

theorem takesName_unsigned : TakesName unsigned? := nofun

theorem takesName_type : TakesName StorageType.ofSetting? := by
  intro entries x converted
  match entries with
  | [] => exact nomatch converted
  | _ :: _ :: _ => exact nomatch converted
  | [(name, value)] =>
    refine ⟨name, value, rfl, fun other value' same => ?_⟩
    rw [StorageType.ofSetting?] at converted ⊢
    rw [same, converted]

def optionalText? : Setting → Option (Option String)
  | .null => some none
  | value => value.text?.map some

theorem takesName_optionalText : TakesName optionalText? := nofun

end Setting

open Setting

/-- What a file holds. A file that is not asked for holds nothing; one that is asked for exists and
is a document. -/
inductive SourceFile.Holds : Option SourceFile → List (String × Setting) → Prop where
  | absent : Holds none []
  | text {content : String} {entries : List (String × Setting)} :
      Document.read? content = some entries → Holds (some (.text content)) entries

namespace Sources

/-- What the sources hold, in the order in which later ones win: the file in the working directory,
the file given explicitly, the file named by the environment, and the variables. -/
inductive Hold (s : Sources) : List (List (String × Setting)) → Prop where
  | mk {working explicit named : List (String × Setting)} :
      SourceFile.Holds (s.working.map .text) working → SourceFile.Holds s.explicit explicit →
      SourceFile.Holds s.named named →
      Hold s [working, explicit, named, Environment.settings s.environment]

variable {s : Sources} {file : Option SourceFile} {entries : List (String × Setting)}
  {sources others : List (List (String × Setting))}

theorem ofFile_eq_ok : ofFile file = .ok entries ↔ SourceFile.Holds file entries := by
  constructor
  · intro told
    unfold ofFile at told
    split at told
    · obtain rfl := Except.ok.inj told
      exact .absent
    · cases told
    · split at told
      · cases told
      · next read =>
        obtain rfl := Except.ok.inj told
        exact .text read
  · intro holds
    cases holds with
    | absent => rfl
    | text read =>
      unfold ofFile
      simp only [read]

theorem layers_eq_ok : s.layers = .ok sources ↔ s.Hold sources := by
  constructor
  · intro told
    cases working : ofFile (s.working.map .text) with
    | error e => rw [layers, working] at told; cases told
    | ok first =>
      cases explicit : ofFile s.explicit with
      | error e => rw [layers, working, explicit] at told; cases told
      | ok second =>
        cases named : ofFile s.named with
        | error e => rw [layers, working, explicit, named] at told; cases told
        | ok third =>
          rw [layers, working, explicit, named] at told
          obtain rfl := Except.ok.inj told
          exact .mk (ofFile_eq_ok.1 working) (ofFile_eq_ok.1 explicit) (ofFile_eq_ok.1 named)
  · rintro ⟨first, second, third⟩
    rw [layers, ofFile_eq_ok.2 first, ofFile_eq_ok.2 second, ofFile_eq_ok.2 third]
    rfl

theorem Hold.unique (hold : s.Hold sources) (hold' : s.Hold others) : sources = others :=
  Except.ok.inj ((layers_eq_ok.2 hold).symm.trans (layers_eq_ok.2 hold'))

end Sources

variable {sources others : List (List (String × Setting))}

namespace CoordinationConfig

def ofValues? (value : String → Option Setting) : Option CoordinationConfig := do
  let ensemble ← Setting.read text? (some standard.ensemble) (value "ensemble")
  let session ←
    Setting.read unsigned? (some standard.sessionTimeout) (value "session_timeout_ms")
  let connection ←
    Setting.read unsigned? (some standard.connectionTimeout) (value "connection_timeout_ms")
  return ⟨ensemble, session, connection⟩

theorem ofEntries?_groupOf (group : String) :
    ofEntries? (groupOf sources group) = ofValues? (valueOf sources group) := by
  rw [ofEntries?, fieldOr_eq, fieldOr_eq, fieldOr_eq, ofValues?]

end CoordinationConfig

namespace TimelinesConfig

def ofValues? (value : String → Option Setting) : Option TimelinesConfig :=
  (Setting.read unsigned? (some standard.maxCommitTimeout) (value "max_commit_timeout_secs")).map mk

theorem ofEntries?_groupOf (group : String) :
    ofEntries? (groupOf sources group) = ofValues? (valueOf sources group) := by
  rw [ofEntries?, fieldOr_eq, ofValues?]

end TimelinesConfig

namespace DefaultStorage

def ofValues? (value : String → Option Setting) : Option DefaultStorage := do
  let id ← Setting.read text? none (value "id")
  let type ← Setting.read StorageType.ofSetting? none (value "type")
  let zookeeper ← Setting.read optionalText? (some none) (value "zookeeper")
  return ⟨id, type, zookeeper⟩

theorem ofEntries?_groupOf (group : String) :
    ofEntries? (groupOf sources group) = ofValues? (valueOf sources group) := by
  rw [ofEntries?, lookup_groupOf, lookup_groupOf, lookup_groupOf, ofValues?]
  cases valueOf sources group "id" with
  | none => rfl
  | some id =>
    cases valueOf sources group "type" with
    | none => rfl
    | some type =>
      cases valueOf sources group "zookeeper" with
      | none => rfl
      | some zookeeper => cases zookeeper <;> rfl

end DefaultStorage

namespace Config

variable {config : Config}

/-- The definition of a default storage, if there is one. -/
def storageOf? (value : String → Option Setting) (defined : Bool) :
    Option (Option DefaultStorage) :=
  if defined then (DefaultStorage.ofValues? value).map some else some none

def ofValues? (value : String → String → Option Setting) (defined : Bool) : Option Config := do
  let coordination ← CoordinationConfig.ofValues? (value "coordination")
  let timelines ← TimelinesConfig.ofValues? (value "timelines")
  let defaultStorage ← storageOf? (value "default_storage") defined
  return ⟨coordination, timelines, defaultStorage⟩

/-- Whether a source has the group of the default storage. -/
def definesStorage (sources : List (List (String × Setting))) : Bool :=
  sources.any fun source => decide (Names source "default_storage")

theorem definesStorage_eq_false :
    definesStorage sources = false ↔ ∀ source ∈ sources, ¬ Names source "default_storage" := by
  simp [definesStorage]

theorem ofEntries?_merged (regular : ∀ source ∈ sources, Regular source) :
    ofEntries? (Sources.merged sources) = ofValues? (valueOf sources) (definesStorage sources) := by
  have coordination : fieldOr CoordinationConfig.ofSetting? .standard "coordination"
      (Sources.merged sources) = CoordinationConfig.ofValues? (valueOf sources "coordination") := by
    rw [← CoordinationConfig.ofEntries?_groupOf]
    exact fieldOr_group regular (by decide) rfl
  have timelines : fieldOr TimelinesConfig.ofSetting? .standard "timelines"
      (Sources.merged sources) = TimelinesConfig.ofValues? (valueOf sources "timelines") := by
    rw [← TimelinesConfig.ofEntries?_groupOf]
    exact fieldOr_group regular (by decide) rfl
  have defaultStorage : fieldOr DefaultStorage.ofSetting? none "default_storage"
      (Sources.merged sources) =
        storageOf? (valueOf sources "default_storage") (definesStorage sources) := by
    cases defined : definesStorage sources with
    | true =>
      obtain ⟨source, member, names⟩ := List.any_eq_true.1 defined
      have named := lookup_named regular (by decide) ⟨source, member, of_decide_eq_true names⟩
      rw [fieldOr, named, storageOf?, ← DefaultStorage.ofEntries?_groupOf]
      rfl
    | false =>
      have unnamed := definesStorage_eq_false.1 defined
      rw [fieldOr, (lookup_unnamed regular unnamed).1]
      rfl
  rw [ofEntries?, coordination, timelines, defaultStorage, ofValues?]

/-- What a configuration is made of: each field of the last source that sets it. There is a default
storage just if a source has its group. -/
structure Layered (sources : List (List (String × Setting))) (config : Config) : Prop where
  ensemble : FromLast sources "coordination" "ensemble" text?
    (some CoordinationConfig.standard.ensemble) config.coordination.ensemble
  sessionTimeout : FromLast sources "coordination" "session_timeout_ms" unsigned?
    (some CoordinationConfig.standard.sessionTimeout) config.coordination.sessionTimeout
  connectionTimeout : FromLast sources "coordination" "connection_timeout_ms" unsigned?
    (some CoordinationConfig.standard.connectionTimeout) config.coordination.connectionTimeout
  maxCommitTimeout : FromLast sources "timelines" "max_commit_timeout_secs" unsigned?
    (some TimelinesConfig.standard.maxCommitTimeout) config.timelines.maxCommitTimeout
  undefined : config.defaultStorage = none ↔ ∀ source ∈ sources, ¬ Names source "default_storage"
  id : ∀ d, config.defaultStorage = some d →
    FromLast sources "default_storage" "id" text? none d.id
  type : ∀ d, config.defaultStorage = some d →
    FromLast sources "default_storage" "type" StorageType.ofSetting? none d.type
  zookeeper : ∀ d, config.defaultStorage = some d →
    FromLast sources "default_storage" "zookeeper" optionalText? (some none) d.zookeeper

theorem storageOf?_none {value : String → Option Setting} {defined : Bool}
    (found : storageOf? value defined = some none) : defined = false := by
  cases defined with
  | false => rfl
  | true => exact absurd found (by simp [storageOf?])

theorem storageOf?_some {value : String → Option Setting} {defined : Bool} {d : DefaultStorage}
    (found : storageOf? value defined = some (some d)) :
    defined = true ∧ DefaultStorage.ofValues? value = some d := by
  cases defined with
  | false => exact absurd found (by simp [storageOf?])
  | true =>
    obtain ⟨d', read, same⟩ := Option.map_eq_some_iff.1 found
    rw [read, Option.some.inj same]
    exact ⟨rfl, rfl⟩

theorem layered_of_values (regular : ∀ source ∈ sources, Regular source)
    (found : ofValues? (valueOf sources) (definesStorage sources) = some config) :
    config.Layered sources := by
  obtain ⟨coordination, first, found⟩ := Option.bind_eq_some_iff.1 found
  obtain ⟨timelines, second, found⟩ := Option.bind_eq_some_iff.1 found
  obtain ⟨defaultStorage, third, found⟩ := Option.bind_eq_some_iff.1 found
  obtain rfl := Option.some.inj found
  obtain ⟨ensemble, ensembleRead, first⟩ := Option.bind_eq_some_iff.1 first
  obtain ⟨session, sessionRead, first⟩ := Option.bind_eq_some_iff.1 first
  obtain ⟨connection, connectionRead, first⟩ := Option.bind_eq_some_iff.1 first
  obtain rfl := Option.some.inj first
  obtain ⟨timeout, timeoutRead, rfl⟩ := Option.map_eq_some_iff.1 second
  have storage : ∀ d, defaultStorage = some d →
      Setting.read text? none (valueOf sources "default_storage" "id") = some d.id ∧
      Setting.read StorageType.ofSetting? none (valueOf sources "default_storage" "type") =
        some d.type ∧
      Setting.read optionalText? (some none) (valueOf sources "default_storage" "zookeeper") =
        some d.zookeeper := by
    rintro d rfl
    obtain ⟨id, idRead, rest⟩ := Option.bind_eq_some_iff.1 (storageOf?_some third).2
    obtain ⟨type, typeRead, rest⟩ := Option.bind_eq_some_iff.1 rest
    obtain ⟨zookeeper, zookeeperRead, rest⟩ := Option.bind_eq_some_iff.1 rest
    obtain rfl := Option.some.inj rest
    exact ⟨idRead, typeRead, zookeeperRead⟩
  exact {
    ensemble := fromLast regular takesName_text ensembleRead
    sessionTimeout := fromLast regular takesName_unsigned sessionRead
    connectionTimeout := fromLast regular takesName_unsigned connectionRead
    maxCommitTimeout := fromLast regular takesName_unsigned timeoutRead
    undefined := by
      rw [← definesStorage_eq_false]
      cases defaultStorage with
      | none => exact iff_of_true rfl (storageOf?_none third)
      | some d => simp [(storageOf?_some third).1]
    id := fun d same => fromLast regular takesName_text (storage d same).1
    type := fun d same => fromLast regular takesName_type (storage d same).2.1
    zookeeper := fun d same => fromLast regular takesName_optionalText (storage d same).2.2 }

/-- The fields that are read, each with its group. -/
def places : List (String × String) :=
  CoordinationConfig.fields.map ("coordination", ·) ++ TimelinesConfig.fields.map ("timelines", ·) ++
    DefaultStorage.fields.map ("default_storage", ·)

/-- Sources that are alike in all that is read: they give the same values to every field, and both
have the group of the default storage or none of them has. Their other keys may differ. -/
structure Agree (source other : List (String × Setting)) : Prop where
  values : ∀ place ∈ places, valuesAt place.1 place.2 source = valuesAt place.1 place.2 other
  names : Names source "default_storage" ↔ Names other "default_storage"

theorem agree_append (source : List (String × Setting)) {more : List (String × Setting)}
    (outside : ∀ entry ∈ more, Text.lower (branch entry).1 ∉ groups) :
    Agree source (source ++ more) := by
  have nothing (group : String) (known : group ∈ groups) : given group (more.map branch) = [] := by
    apply List.eq_nil_iff_forall_not_mem.2
    intro value inside
    obtain ⟨_, among, rfl, -⟩ := mem_given.1 inside
    obtain ⟨entry, inside', rfl⟩ := List.mem_map.1 among
    exact outside entry inside' known
  constructor
  · intro place known
    have group : place.1 ∈ groups := by
      revert place
      decide
    rw [valuesAt, valuesAt, List.map_append, given_append, nothing place.1 group, List.append_nil]
  · rw [names_iff, names_iff, List.map_append, given_append, nothing _ (by decide),
      List.append_nil]

instance : Std.Refl Agree := ⟨fun _ => ⟨fun _ _ => rfl, .rfl⟩⟩

theorem agree_variables {s : Sources} (hold : s.Hold sources)
    (regular : ∀ source ∈ sources, Regular source) (more : List (String × String))
    (outside : ∀ entry ∈ Environment.settings more, Text.lower (branch entry).1 ∉ groups)
    (apart : Regular (Environment.settings (s.environment ++ more))) :
    ∃ others, ({ s with environment := s.environment ++ more } : Sources).Hold others ∧
      (∀ source ∈ others, Regular source) ∧ List.Forall₂ Agree sources others := by
  have appended : Environment.settings (s.environment ++ more) =
      Environment.settings s.environment ++ Environment.settings more := List.filterMap_append
  obtain @⟨working, explicit, named, first, second, third⟩ := hold
  refine ⟨_, .mk first second third, ?_, ?_⟩
  · simp only [List.forall_mem_cons] at regular ⊢
    exact ⟨regular.1, regular.2.1, regular.2.2.1, apart, by simp⟩
  · rw [appended]
    exact List.rel_append (List.forall₂_refl [working, explicit, named])
      (.cons (agree_append _ outside) .nil)

theorem valueOf_eq (alike : List.Forall₂ Agree sources others) {group field : String}
    (known : (group, field) ∈ places) : valueOf sources group field = valueOf others group field := by
  have values : sources.flatMap (valuesAt group field) = others.flatMap (valuesAt group field) := by
    induction alike with
    | nil => rfl
    | cons agree _ ih => rw [List.flatMap_cons, List.flatMap_cons, ih, agree.values _ known]
  rw [valueOf, valueOf, values]

theorem definesStorage_eq (alike : List.Forall₂ Agree sources others) :
    definesStorage sources = definesStorage others := by
  induction alike with
  | nil => rfl
  | cons agree _ ih =>
    rw [definesStorage, definesStorage, List.any_cons, List.any_cons, ← definesStorage,
      ← definesStorage, ih]
    simp only [agree.names]

theorem ofValues?_eq (alike : List.Forall₂ Agree sources others) :
    ofValues? (valueOf sources) (definesStorage sources) =
      ofValues? (valueOf others) (definesStorage others) := by
  rw [definesStorage_eq alike]
  have same (group field : String) (known : (group, field) ∈ places) :
      valueOf sources group field = valueOf others group field := valueOf_eq alike known
  simp only [ofValues?, CoordinationConfig.ofValues?, TimelinesConfig.ofValues?, storageOf?,
    DefaultStorage.ofValues?, same "coordination" "ensemble" (by decide),
    same "coordination" "session_timeout_ms" (by decide),
    same "coordination" "connection_timeout_ms" (by decide),
    same "timelines" "max_commit_timeout_secs" (by decide),
    same "default_storage" "id" (by decide), same "default_storage" "type" (by decide),
    same "default_storage" "zookeeper" (by decide)]

theorem load_eq {s : Sources} (hold : s.Hold sources)
    (regular : ∀ source ∈ sources, Regular source) :
    load s = match ofValues? (valueOf sources) (definesStorage sources) with
      | none => .error .load
      | some config => .ok config := by
  rw [load, Sources.layers_eq_ok.2 hold, ← ofEntries?_merged regular]
  rfl

theorem exists_hold {s : Sources} (loaded : load s = .ok config) : ∃ sources, s.Hold sources := by
  cases layers : s.layers with
  | error e =>
    rw [load, layers] at loaded
    cases loaded
  | ok sources => exact ⟨sources, Sources.layers_eq_ok.1 layers⟩

/-- If a configuration can be loaded, its four sources can be read, and each field has the value
that the last of them gives it that sets it, converted, or the standard value if none does; there is
a default storage just if a source has its group. Sources that agree in the fields and in that are
loaded alike, whatever other keys they have. -/
theorem load_layered {s : Sources}
    (regular : ∀ sources, s.Hold sources → ∀ source ∈ sources, Regular source) :
    (∀ config, load s = .ok config → ∃ sources, s.Hold sources ∧ config.Layered sources) ∧
    ∀ (s' : Sources) (sources others : List (List (String × Setting))), s.Hold sources →
      s'.Hold others → (∀ source ∈ others, Regular source) → List.Forall₂ Agree sources others →
      load s' = load s := by
  constructor
  · intro config loaded
    obtain ⟨sources, hold⟩ := exists_hold loaded
    rw [load_eq hold (regular sources hold)] at loaded
    split at loaded
    · cases loaded
    · next found =>
      obtain rfl := Except.ok.inj loaded
      exact ⟨sources, hold, layered_of_values (regular sources hold) found⟩
  · intro s' sources others hold hold' regular' alike
    rw [load_eq hold (regular sources hold), load_eq hold' regular', ofValues?_eq alike]

theorem eq_ok {ε α : Type} {result : Except ε α} {a : α} (told : result.toOption = some a) :
    result = .ok a := by
  cases result with
  | error e => cases told
  | ok b => exact congrArg _ (Option.some.inj told)

theorem load_of_layers {s : Sources} (config : Config) (checked : s.layers.toOption.any (fun sources =>
    decide (∀ source ∈ sources, Regular source) &&
      decide (ofValues? (valueOf sources) (definesStorage sources) = some config)) = true) :
    ∃ sources, s.Hold sources ∧ (∀ source ∈ sources, Regular source) ∧ load s = .ok config := by
  obtain ⟨sources, told, checked⟩ := (Option.any_eq_true _ _).1 checked
  obtain ⟨regular, values⟩ := Bool.and_eq_true_iff.1 checked
  have hold := Sources.layers_eq_ok.1 (eq_ok told)
  have regular := of_decide_eq_true regular
  refine ⟨sources, hold, regular, ?_⟩
  -- The fields are decided one by one, as the merged tables would be evaluated anew at every look-up.
  rw [load_eq hold regular, of_decide_eq_true values]

/-- Four sources that overlap: the session timeout is in all of them, the ensemble in the three files
and the connection timeout in two. -/
def overlapping : Sources where
  working := some ("coordination:\n  ensemble: zookeeper://a\n  session_timeout_ms: 1\n" ++
    "  connection_timeout_ms: 2\ntimelines:\n  max_commit_timeout_secs: 3\n")
  explicit := some (.text ("Coordination:\n  ENSEMBLE: zookeeper://b\n" ++
    "  session_timeout_ms: 4\n  connection_timeout_ms: 5\n"))
  named := some (.text "coordination:\n  ensemble: zookeeper://c\n  session_timeout_ms: 6\n")
  environment := [("TIDELINE__COORDINATION__SESSION_TIMEOUT_MS", "7")]

/-- The session timeout is that of the environment, the ensemble that of the named file, the connection
timeout that of the explicit one, and only the file in the working directory has the longest commit.
Another variable changes nothing. -/
theorem load_layered_overlapping : ∃ (s' : Sources) (sources : List (List (String × Setting)))
    (config : Config), (∀ sources, overlapping.Hold sources → ∀ source ∈ sources, Regular source) ∧
    load overlapping = .ok config ∧ config.coordination = ⟨"zookeeper://c", 7, 5⟩ ∧
    config.timelines = ⟨3⟩ ∧ overlapping.Hold sources ∧ config.Layered sources ∧
    s'.environment = overlapping.environment ++ [("TIDELINE__COLOUR", "red")] ∧
    load s' = load overlapping := by
  obtain ⟨sources, hold, regular, loaded⟩ := load_of_layers (s := overlapping)
    ⟨⟨"zookeeper://c", 7, 5⟩, ⟨3⟩, none⟩ (by decide +kernel)
  obtain ⟨others, hold', regular', alike⟩ := agree_variables hold regular
    [("TIDELINE__COLOUR", "red")] (by decide +kernel) (by decide +kernel)
  have regular : ∀ sources, overlapping.Hold sources → ∀ source ∈ sources, Regular source := by
    intro sources' held
    rw [held.unique hold]
    exact regular
  have layered := load_layered regular
  obtain ⟨sources', held, fields⟩ := layered.1 _ loaded
  exact ⟨_, sources', _, regular, loaded, rfl, rfl, held, fields, rfl,
    layered.2 _ sources others hold hold' regular' alike⟩

end Config

end Cutover
