import Cutover.Proofs.Formats.Calendar
import Cutover.Time.Timestamp

set_option autoImplicit false

namespace Cutover

namespace Text

theorem length_digits_le {width n : Nat} (small : n < tenTo (width + 1)) :
    (digits n).length ≤ width + 1 := by
  induction width generalizing n with
  | zero =>
    have single : n < 10 := small
    rw [digits, if_pos single]
    simp
  | succ width ih =>
    by_cases single : n < 10
    · rw [digits, if_pos single]
      simp
    · have split : tenTo (width + 1 + 1) = tenTo (width + 1) * 10 := rfl
      have shorter : n / 10 < tenTo (width + 1) := by omega
      rw [digits, if_neg single, List.length_append, List.length_singleton]
      have rest := ih shorter
      omega

theorem length_padded {width n : Nat} (small : n < tenTo (width + 1)) :
    (padded (width + 1) n).length = width + 1 := by
  have fits := length_digits_le small
  rw [padded, List.length_append, List.length_replicate]
  omega

theorem all_isDigit_padded (width n : Nat) : (padded width n).all isDigit = true := by
  rw [padded, List.all_append, all_isDigit_digits, Bool.and_true, List.all_replicate]
  split <;> simp [isDigit]

theorem value_replicate_append (count : Nat) (text : List Char) :
    value (List.replicate count '0' ++ text) = value text := by
  induction count with
  | zero => rfl
  | succ count ih => 
    rw [List.replicate_succ, List.cons_append, value, List.foldl_cons]
    exact ih

@[simp] theorem value_padded (width n : Nat) : value (padded width n) = n := by
  rw [padded, value_replicate_append, value_digits]

theorem isBlank_of_isDigit {c : Char} (digit : isDigit c = true) : isBlank c = false := by
  simp only [isDigit, Bool.and_eq_true, decide_eq_true_eq] at digit
  have low : 48 ≤ c.toNat := digit.1
  have high : c.toNat ≤ 57 := digit.2
  simp only [isBlank, blankRanges, List.any_cons, List.any_nil, Bool.or_false,
    Bool.or_eq_false_iff, Bool.and_eq_false_iff, decide_eq_false_iff_not]
  omega

theorem padded_ne_nil (width n : Nat) : padded width n ≠ [] := by
  simp [padded, digits_ne_nil]

theorem trimStart_padded (width n : Nat) (rest : List Char) :
    trimStart (padded width n ++ rest) = padded width n ++ rest := by
  have all := all_isDigit_padded width n
  cases shape : padded width n with
  | nil => exact absurd shape (padded_ne_nil width n)
  | cons first more =>
    rw [shape, List.all_cons, Bool.and_eq_true] at all
    have visible : isBlank first = false := isBlank_of_isDigit all.1
    rw [trimStart, List.cons_append, List.dropWhile_cons_of_neg (by simp [visible])]

end Text

namespace Timestamp
open Cutover.Text

theorem field?_padded (width : Nat) {n : Nat} (small : n < tenTo (width + 1))
    (rest : List Char) : field? (width + 1) (padded (width + 1) n ++ rest) = some (n, rest) := by
  have size := length_padded small
  have all := all_isDigit_padded (width + 1) n
  have run : ((padded (width + 1) n ++ rest).takeWhile isDigit).take (width + 1) =
      padded (width + 1) n := by
    rw [List.takeWhile_append_of_pos (List.all_eq_true.1 all), List.take_left' size]
  have nonempty := padded_ne_nil (width + 1) n
  simp only [field?, trimStart_padded, run, if_neg nonempty, value_padded, List.drop_left' rfl]

theorem yearField?_yearText {year : Int} (range : 0 ≤ year ∧ year ≤ 9999) (rest : List Char) :
    yearField? (yearText year ++ rest) = some (year, rest) := by
  have small : year.toNat < tenTo 4 := by
    have : tenTo 4 = 10000 := rfl
    omega
  have back : (year.toNat : Int) = year := Int.toNat_of_nonneg range.1
  have read := field?_padded 3 small rest
  have digits := all_isDigit_padded 4 year.toNat
  rw [yearText, if_pos range, yearField?, trimStart_padded]
  cases shape : padded 4 year.toNat with
  | nil => exact absurd shape (padded_ne_nil 4 _)
  | cons first more =>
    rw [shape] at read digits
    have unsigned : isDigit first = true := by simpa using (List.all_eq_true.1 digits) first
    split
    · next _ same => cases same; cases unsigned
    · next _ same => cases same; cases unsigned
    · rw [read]
      simp only [Option.map_some, back]

theorem mark?_cons {c : Char} (visible : isBlank c = false) (rest : List Char) :
    mark? c (c :: rest) = some rest := by
  have same : trimStart (c :: rest) = c :: rest := by
    rw [trimStart, List.dropWhile_cons_of_neg (by simp [visible])]
  simp [mark?, same]

theorem fraction?_padded {places n : Nat} (room : places ≤ 8) (small : n < tenTo (places + 1)) :
    fraction? ('.' :: padded (places + 1) n ++ ['Z']) = some (n * tenTo (8 - places), ['Z']) := by
  have size := length_padded small
  have all := List.all_eq_true.1 (all_isDigit_padded (places + 1) n)
  have run : (padded (places + 1) n ++ ['Z']).takeWhile isDigit = padded (places + 1) n := by
    rw [List.takeWhile_append_of_pos all]
    simp [isDigit]
  have left : (padded (places + 1) n ++ ['Z']).dropWhile isDigit = ['Z'] := by
    rw [List.dropWhile_append_of_pos all]
    simp [isDigit]
  have kept : (padded (places + 1) n).take 9 = padded (places + 1) n :=
    List.take_of_length_le (by omega)
  have scale : 9 - (places + 1) = 8 - places := by omega
  simp only [fraction?, List.cons_append, run, if_neg (padded_ne_nil _ n), kept, value_padded,
    size, scale, left]

theorem fraction?_fractionText {nanos : Nat} (small : nanos < 1000000000) :
    fraction? (fractionText nanos ++ ['Z']) = some (nanos, ['Z']) := by
  unfold fractionText
  split
  · next zero => simp [zero, fraction?]
  split
  · next whole =>
    have fits : nanos / 1000000 < tenTo (2 + 1) := by
      change _ < 1000
      omega
    have same : nanos / 1000000 * tenTo (8 - 2) = nanos := by
      change _ * 1000000 = _
      omega
    rw [fraction?_padded (by omega) fits, same]
  split
  · next whole =>
    have fits : nanos / 1000 < tenTo (5 + 1) := by
      change _ < 1000000
      omega
    have same : nanos / 1000 * tenTo (8 - 5) = nanos := by
      change _ * 1000 = _
      omega
    rw [fraction?_padded (by omega) fits, same]
  · have fits : nanos < tenTo (8 + 1) := small
    have same : nanos * tenTo (8 - 8) = nanos := Nat.mul_one nanos
    rw [fraction?_padded (by omega) fits, same]

/-- A point in time of the years 0 to 9999 in UTC that is in no leap second. -/
structure Ordinary (t : Timestamp) : Prop where
  year : 0 ≤ (Date.ofDays (t.seconds / 86400)).year ∧ (Date.ofDays (t.seconds / 86400)).year ≤ 9999
  nanos : t.nanos < 1000000000

instance (t : Timestamp) : Decidable t.Ordinary :=
  decidable_of_iff
    ((0 ≤ (Date.ofDays (t.seconds / 86400)).year ∧
      (Date.ofDays (t.seconds / 86400)).year ≤ 9999) ∧ t.nanos < 1000000000)
    ⟨fun ⟨year, nanos⟩ => ⟨year, nanos⟩, fun ordinary => ⟨ordinary.year, ordinary.nanos⟩⟩

theorem field?_two {n : Nat} (small : n < 100) (rest : List Char) :
    field? 2 (padded 2 n ++ rest) = some (n, rest) :=
  field?_padded 1 small rest

theorem read?_fields {date : Date} (hour minute second : Nat) {nanos : Nat}
    (year : 0 ≤ date.year ∧ date.year ≤ 9999) (valid : date.isValid = true)
    (hours : hour < 24) (minutes : minute < 60) (seconds : second < 60)
    (small : nanos < 1000000000)
    (inRange : isYear (Date.ofDays ((date.toDays * 86400 +
      (hour * 3600 + minute * 60 + second : Nat)) / 86400)).year = true) :
    read? (yearText date.year ++ '-' :: (padded 2 date.month ++ '-' :: (padded 2 date.day ++
      'T' :: (padded 2 hour ++ ':' :: (padded 2 minute ++ ':' :: (padded 2 second ++
        (fractionText nanos ++ ['Z']))))))) =
      some ⟨date.toDays * 86400 + (hour * 3600 + minute * 60 + second : Nat), nanos⟩ := by
  have bounds := Date.bounds_of_isValid valid
  have dash : isBlank '-' = false := rfl
  have colon : isBlank ':' = false := rfl
  have utc : offset? ['Z'] = some (0, []) := rfl
  have yearInRange : isYear date.year = true := by
    simp only [isYear, Bool.and_eq_true, decide_eq_true_eq]
    omega
  have noLeap : second ≠ 60 := by omega
  have whole : min second 59 = second := by omega
  have fields : trimStart ([] : List Char) = [] ∧ isYear date.year = true ∧ date.isValid = true ∧
      hour < 24 ∧ minute < 60 ∧ second ≤ 60 := ⟨rfl, yearInRange, valid, hours, minutes, by omega⟩
  rw [read?]
  -- The fields are read one after the other, each up to the mark before the next one.
  refine Option.bind_eq_some_iff.2 ⟨_, yearField?_yearText year _, ?_⟩
  refine Option.bind_eq_some_iff.2 ⟨_, mark?_cons dash _, ?_⟩
  refine Option.bind_eq_some_iff.2 ⟨_, field?_two (by omega) _, ?_⟩
  refine Option.bind_eq_some_iff.2 ⟨_, mark?_cons dash _, ?_⟩
  refine Option.bind_eq_some_iff.2 ⟨_, field?_two (by omega) _, ?_⟩
  refine Option.bind_eq_some_iff.2 ⟨_, rfl, ?_⟩
  refine Option.bind_eq_some_iff.2 ⟨_, field?_two (by omega) _, ?_⟩
  refine Option.bind_eq_some_iff.2 ⟨_, mark?_cons colon _, ?_⟩
  refine Option.bind_eq_some_iff.2 ⟨_, field?_two (by omega) _, ?_⟩
  refine Option.bind_eq_some_iff.2 ⟨_, mark?_cons colon _, ?_⟩
  refine Option.bind_eq_some_iff.2 ⟨_, field?_two (by omega) _, ?_⟩
  refine Option.bind_eq_some_iff.2 ⟨_, fraction?_fractionText small, ?_⟩
  refine Option.bind_eq_some_iff.2 ⟨_, utc, ?_⟩
  dsimp only
  rw [if_pos fields, whole, Int.sub_zero, if_pos inRange, if_neg noLeap, Nat.add_zero]

theorem read?_write {t : Timestamp} (ordinary : t.Ordinary) : read? t.write = some t := by
  obtain ⟨seconds, nanos⟩ := t
  obtain ⟨year, small⟩ := ordinary
  dsimp only at year small
  have noLeap : nanos / 1000000000 = 0 := by omega
  have fraction : nanos % 1000000000 = nanos := by omega
  have clock : (seconds % 86400).toNat / 3600 * 3600 + (seconds % 86400).toNat / 60 % 60 * 60 +
      (seconds % 86400).toNat % 60 = (seconds % 86400).toNat := by omega
  have back : seconds / 86400 * 86400 + (seconds % 86400).toNat = seconds := by omega
  have inRange : isYear (Date.ofDays (seconds / 86400)).year = true := by
    simp only [isYear, Bool.and_eq_true, decide_eq_true_eq]
    omega
  have read := read?_fields ((seconds % 86400).toNat / 3600) ((seconds % 86400).toNat / 60 % 60)
    ((seconds % 86400).toNat % 60) year (Date.isValid_ofDays (seconds / 86400)) (by omega)
    (by omega) (by omega) small (by rw [Date.toDays_ofDays, clock, back]; exact inRange)
  rw [Date.toDays_ofDays, clock, back] at read
  rw [← read, write]
  simp only [noLeap, fraction, Nat.add_zero, List.append_assoc, List.cons_append]

end Timestamp

end Cutover
