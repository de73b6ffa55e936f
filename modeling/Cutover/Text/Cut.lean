set_option autoImplicit false

namespace Cutover.Text

/-- What stands before and after the last `sep`. -/
def cutLast? (sep : Char) : List Char → Option (List Char × List Char)
  | [] => none
  | c :: rest =>
      match cutLast? sep rest with
      | some (before, after) => some (c :: before, after)
      | none => if c = sep then some ([], rest) else none

theorem cutLast?_eq_none_iff {sep : Char} {text : List Char} :
    cutLast? sep text = none ↔ sep ∉ text := by
  induction text with
  | nil => simp [cutLast?]
  | cons c rest ih =>
    rw [cutLast?, List.mem_cons, not_or, ← ih]
    cases cutLast? sep rest with
    | some found => simp
    | none =>
      rw [eq_comm (a := sep)]
      by_cases same : c = sep <;> simp [same]

theorem cutLast?_eq_some_iff {sep : Char} {text before after : List Char} :
    cutLast? sep text = some (before, after) ↔ text = before ++ sep :: after ∧ sep ∉ after := by
  induction text generalizing before after with
  | nil => simp [cutLast?]
  | cons c rest ih =>
    rw [cutLast?]
    cases found : cutLast? sep rest with
    | some cut =>
      obtain ⟨start, tail⟩ := cut
      constructor
      · rintro ⟨⟩
        obtain ⟨whole, free⟩ := ih.1 found
        exact ⟨congrArg (c :: ·) whole, free⟩
      · rintro ⟨whole, free⟩
        have occurs : sep ∈ rest := by
          refine Decidable.byContradiction fun absent => ?_
          rw [cutLast?_eq_none_iff.2 absent] at found
          exact nomatch found
        cases before with
        | nil =>
          obtain ⟨-, rfl⟩ := List.cons.inj whole
          exact absurd occurs free
        | cons first more =>
          obtain ⟨rfl, wholeRest⟩ := List.cons.inj whole
          have := ih.2 ⟨wholeRest, free⟩
          rw [found] at this
          cases this
          rfl
    | none =>
      have absent := cutLast?_eq_none_iff.1 found
      constructor
      · intro cut
        obtain ⟨same, cut⟩ : c = sep ∧ some ([], rest) = some (before, after) := by
          revert cut
          simp only []
          split <;> simp_all
        cases cut
        exact ⟨congrArg (· :: rest) same, absent⟩
      · rintro ⟨whole, free⟩
        cases before with
        | nil =>
          obtain ⟨rfl, rfl⟩ := List.cons.inj whole
          simp
        | cons first more =>
          obtain ⟨rfl, rfl⟩ := List.cons.inj whole
          simp at absent

/-- What follows `mark` in a text that begins with it. -/
def strip? (mark : List Char) (text : List Char) : Option (List Char) :=
  if mark.isPrefixOf text then some (text.drop mark.length) else none

theorem strip?_eq_some_iff {mark text rest : List Char} :
    strip? mark text = some rest ↔ text = mark ++ rest := by
  rw [strip?]
  split
  · next starts =>
    obtain ⟨tail, rfl⟩ := List.isPrefixOf_iff_prefix.1 starts
    simp
  · next apart =>
    refine ⟨nofun, fun same => absurd ?_ apart⟩
    rw [same, List.isPrefixOf_iff_prefix]
    exact List.prefix_append mark rest

/-- What stands before and after the first `mark`. -/
def cutAt? (mark : List Char) : List Char → Option (List Char × List Char)
  | [] => if mark = [] then some ([], []) else none
  | c :: rest =>
      match strip? mark (c :: rest) with
      | some after => some ([], after)
      | none => (cutAt? mark rest).map fun (before, after) => (c :: before, after)

theorem eq_append_of_cutAt? {mark text before after : List Char}
    (found : cutAt? mark text = some (before, after)) : text = before ++ mark ++ after := by
  induction text generalizing before with
  | nil =>
    rw [cutAt?] at found
    split at found <;> simp_all
  | cons c rest ih =>
    rw [cutAt?] at found
    cases here : strip? mark (c :: rest) with
    | some tail =>
      simp only [here, Option.some.injEq, Prod.mk.injEq] at found
      obtain ⟨rfl, rfl⟩ := found
      exact strip?_eq_some_iff.1 here
    | none =>
      simp only [here] at found
      obtain ⟨⟨start, tail⟩, later, same⟩ := Option.map_eq_some_iff.1 found
      cases same
      rw [ih later, List.cons_append, List.cons_append]

theorem strip?_eq_none_iff {mark text : List Char} : strip? mark text = none ↔ ¬ mark <+: text := by
  rw [strip?, ← List.isPrefixOf_iff_prefix]
  split <;> simp_all

theorem cutAt?_eq_none_iff {mark text : List Char} : cutAt? mark text = none ↔ ¬ mark <:+: text := by
  induction text with
  | nil =>
    rw [cutAt?, List.infix_nil]
    split <;> simp_all
  | cons c rest ih =>
    rw [cutAt?, List.infix_cons_iff, not_or, ← ih, ← strip?_eq_none_iff]
    cases strip? mark (c :: rest) with
    | some after => simp
    | none => simp

/-- The cut is at the first mark: in what stands before it the mark does not even begin. -/
theorem not_infix_of_cutAt? {mark text before after : List Char} (nonempty : mark ≠ [])
    (found : cutAt? mark text = some (before, after)) : ¬ mark <:+: before ++ mark.dropLast := by
  induction text generalizing before with
  | nil => simp [cutAt?, nonempty] at found
  | cons c rest ih =>
    have whole := eq_append_of_cutAt? found
    rw [cutAt?] at found
    cases here : strip? mark (c :: rest) with
    | some tail =>
      simp only [here, Option.some.injEq, Prod.mk.injEq] at found
      obtain ⟨rfl, -⟩ := found
      intro inside
      have bound := inside.length_le
      rw [List.nil_append, List.length_dropLast] at bound
      have := List.length_pos_iff.2 nonempty
      omega
    | none =>
      simp only [here] at found
      obtain ⟨⟨start, tail⟩, later, same⟩ := Option.map_eq_some_iff.1 found
      cases same
      rw [List.cons_append, List.infix_cons_iff, not_or]
      refine ⟨fun starts => strip?_eq_none_iff.1 here (starts.trans ?_), ih later⟩
      rw [whole, List.append_assoc, List.cons_append]
      refine (List.prefix_cons_inj c).2 ((List.prefix_append_right_inj start).2 ?_)
      exact (List.dropLast_prefix mark).trans (List.prefix_append mark tail)

/-- A text is cut at a mark exactly if the mark stands there and nowhere earlier. -/
theorem cutAt?_eq_some_iff {mark text before after : List Char} (nonempty : mark ≠ []) :
    cutAt? mark text = some (before, after) ↔
      text = before ++ mark ++ after ∧ ¬ mark <:+: before ++ mark.dropLast := by
  constructor
  · exact fun found => ⟨eq_append_of_cutAt? found, not_infix_of_cutAt? nonempty found⟩
  · rintro ⟨rfl, first⟩
    induction before with
    | nil =>
      obtain ⟨c, more, rfl⟩ := List.exists_cons_of_ne_nil nonempty
      rw [List.nil_append, List.cons_append, cutAt?,
        strip?_eq_some_iff.2 (List.cons_append ..).symm]
    | cons c start ih =>
      rw [List.cons_append, List.infix_cons_iff, not_or] at first
      have apart : strip? mark (c :: (start ++ mark ++ after)) = none := by
        rw [strip?_eq_none_iff]
        intro starts
        refine first.1 (List.prefix_of_prefix_length_le starts ?_ ?_)
        · rw [List.append_assoc]
          refine (List.prefix_cons_inj c).2 ((List.prefix_append_right_inj start).2 ?_)
          exact (List.dropLast_prefix mark).trans (List.prefix_append mark after)
        · rw [List.length_cons, List.length_append, List.length_dropLast]
          omega
      rw [List.cons_append, List.cons_append, cutAt?, apart]
      simp only [ih first.2, Option.map_some]

theorem cutAt?_append {c : Char} {more before : List Char} (free : c ∉ before) (after : List Char) :
    cutAt? (c :: more) (before ++ (c :: more) ++ after) = some (before, after) := by
  induction before with
  | nil =>
    rw [List.nil_append, List.cons_append, cutAt?, strip?_eq_some_iff.2 (List.cons_append ..).symm]
  | cons first rest ih =>
    rw [List.mem_cons, not_or] at free
    have apart : strip? (c :: more) (first :: (rest ++ (c :: more) ++ after)) = none := by
      rw [strip?, if_neg]
      simp [List.isPrefixOf, free.1]
    rw [List.cons_append, List.cons_append, cutAt?, apart]
    simp only [ih free.2, Option.map_some]

/-- The text without the run of `c` at its end. -/
def trimEnd (c : Char) (text : List Char) : List Char :=
  (text.reverse.dropWhile (· = c)).reverse

end Cutover.Text
