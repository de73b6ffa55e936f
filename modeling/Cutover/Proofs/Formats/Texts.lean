import Cutover.Json.Reader
import Cutover.Json.Writer
import Mathlib.Data.List.DropRight

set_option autoImplicit false

namespace Cutover.Json

open Cutover.Text

/-- The characters that a text is written with. -/
def escapes (text : List Char) : List Char := text.flatMap fun c => (escaped c).toList

theorem toList_foldl_escaped (text : List Char) (written : String) :
    (text.foldl (fun written c => written ++ escaped c) written).toList =
      written.toList ++ escapes text := by
  induction text generalizing written with
  | nil => simp [escapes]
  | cons c text ih =>
    rw [List.foldl_cons, ih]
    simp [escapes]

theorem toList_quoted (text : String) :
    (quoted text).toList = '"' :: (escapes text.toList ++ ['"']) := by
  rw [quoted, String.toList_push, toList_foldl_escaped]
  simp

theorem escapedUnit?_hexDigits {n : Nat} (small : n < 0x20) (rest : List Char) :
    escapedUnit? (hexDigits 4 n ++ rest) = some (Char.ofNat n, rest) := by
  have size := length_hexDigits 4 n
  have room : ¬(hexDigits 4 n ++ rest).length < 4 := by
    rw [List.length_append, size]
    omega
  have unit : n % Nat.pow 16 4 = n := Nat.mod_eq_of_lt (by change n < 65536; omega)
  have read : codeUnit? (hexDigits 4 n ++ rest) = some (n, rest) := by
    rw [codeUnit?, if_neg room, List.take_left' size, List.drop_left' size, based?_hexDigits, unit,
      Option.map_some]
  have low : ¬(0xD800 ≤ n ∧ n < 0xDC00) := by omega
  have high : ¬(0xDC00 ≤ n ∧ n < 0xE000) := by omega
  simp only [escapedUnit?, read, Option.bind_eq_bind, Option.bind_some, if_neg low, if_neg high]

theorem quotedRest?_escaped (fuel : Nat) (done : List Char) (c : Char) (rest : List Char) :
    quotedRest? (fuel + 1) done ((escaped c).toList ++ rest) =
      quotedRest? fuel (c :: done) rest := by
  fun_cases escaped c with
  | case8 c _ _ _ _ _ _ _ control =>
    have read := escapedUnit?_hexDigits control rest
    rw [Char.ofNat_toNat] at read
    simp [quotedRest?, read]
  | case9 c quote backslash _ _ _ _ _ visible =>
    have plain : ¬(c = '\\' ∨ c.toNat < 0x20) := not_or.2 ⟨backslash, visible⟩
    simp only [String.toList_singleton, List.cons_append, List.nil_append]
    rw [quotedRest?]
    · rw [if_neg plain]
    · exact quote
    · exact fun _ same _ => backslash same
    · exact fun _ _ same _ => backslash same
  | _ => simp [quotedRest?]

theorem length_escaped_pos (c : Char) : 0 < (escaped c).toList.length := by
  fun_cases escaped c <;> simp

theorem quotedRest?_escapes {fuel : Nat} (done text rest : List Char)
    (enough : (escapes text).length < fuel) :
    quotedRest? fuel done (escapes text ++ '"' :: rest) =
      some (String.ofList (done.reverse ++ text), rest) := by
  induction text generalizing fuel done with
  | nil =>
    obtain ⟨fuel, rfl⟩ := Nat.exists_eq_add_of_lt enough
    simp [escapes, quotedRest?]
  | cons c text ih =>
    have split : escapes (c :: text) = (escaped c).toList ++ escapes text := rfl
    have step := length_escaped_pos c
    rw [split, List.length_append] at enough
    obtain ⟨fuel, rfl⟩ : ∃ more, fuel = more + 1 := ⟨fuel - 1, by omega⟩
    rw [split, List.append_assoc, quotedRest?_escaped, ih (c :: done) (by omega)]
    simp

theorem quotedRest?_quoted (text : String) (rest : List Char) :
    quotedRest? ((escapes text.toList ++ '"' :: rest).length + 1) []
      (escapes text.toList ++ '"' :: rest) = some (text, rest) := by
  rw [quotedRest?_escapes [] text.toList rest (by rw [List.length_append]; omega)]
  simp

theorem isNumberChar_of_mem_integer {n : Int} {c : Char} (member : c ∈ Text.integer n) :
    isNumberChar c = true := by
  have digit : c ∈ digits n.natAbs → isNumberChar c = true := by
    intro inDigits
    have digit := List.all_eq_true.1 (all_isDigit_digits n.natAbs) c inDigits
    simp [isNumberChar, digit]
  unfold Text.integer at member
  split at member
  · rcases List.mem_cons.1 member with rfl | inDigits
    · rfl
    · exact digit inDigits
  · exact digit member

theorem head?_digits_ne_zero {n : Nat} (positive : 0 < n) : (digits n).head? ≠ some '0' := by
  induction n using digits.induct with
  | case1 n small =>
    have digit : ∀ n < 10, 0 < n → digit n ≠ '0' := by decide
    rw [digits, if_pos small]
    simpa using digit n small positive
  | case2 n large ih =>
    have first := ih (by omega)
    rw [digits, if_neg large, List.head?_append_of_ne_nil _ (digits_ne_nil _)]
    exact first

theorem isWholePart_digits (n : Nat) : isWholePart (digits n) = true := by
  have nonempty : (digits n).isEmpty = false := by simp [digits_ne_nil]
  have leading : (digits n).length = 1 ∨ (digits n).head? ≠ some '0' := by
    by_cases zero : n = 0
    · exact .inl (by rw [zero, digits]; rfl)
    · exact .inr (head?_digits_ne_zero (by omega))
  simp only [isWholePart, nonempty, all_isDigit_digits, Bool.not_false, Bool.true_and,
    Bool.or_eq_true, decide_eq_true_eq]
  exact leading

theorem numberOf?_integer {n : Int} (low : -(signedLimit : Int) ≤ n) (high : n < UInt64.size) :
    numberOf? (Text.integer n) = some (.integer n) := by
  have whole : (digits n.natAbs).takeWhile isDigit = digits n.natAbs :=
    List.takeWhile_eq_self_iff.2 (List.all_eq_true.1 (all_isDigit_digits _))
  have rest : (digits n.natAbs).dropWhile isDigit = [] :=
    List.dropWhile_eq_nil_iff.2 (List.all_eq_true.1 (all_isDigit_digits _))
  have exponent : isFractionAndExponent [] = true := rfl
  unfold Text.integer
  split
  · next negative =>
    have range : 0 < n.natAbs ∧ n.natAbs ≤ signedLimit := by omega
    have back : -(n.natAbs : Int) = n := by omega
    generalize n.natAbs = size at whole rest range back ⊢
    simp [numberOf?, whole, rest, isWholePart_digits, exponent, range, back]
  · next natural =>
    have range : n.natAbs < UInt64.size := by omega
    have back : (n.natAbs : Int) = n := by omega
    have unsigned : ∀ more, digits n.natAbs ≠ '-' :: more := by
      intro more same
      have all := all_isDigit_digits n.natAbs
      rw [same] at all
      cases all
    unfold numberOf?
    split
    next shape =>
    split at shape
    · next more same => exact absurd same (unsigned more)
    · cases shape
      generalize n.natAbs = size at whole rest range back ⊢
      simp [whole, rest, isWholePart_digits, exponent, range, back]

/-- The values that reading tells apart by their text: all but the numbers that are kept as text,
and with integers of 64 bits only. -/
inductive Exact : Json → Prop where
  | null : Exact .null
  | bool (value : Bool) : Exact (.bool value)
  | integer (value : Int) (low : -(signedLimit : Int) ≤ value) (high : value < UInt64.size) :
      Exact (.integer value)
  | string (value : String) : Exact (.string value)
  | array (items : List Json) (each : ∀ item ∈ items, Exact item) : Exact (.array items)
  | object (members : List (String × Json)) (each : ∀ m ∈ members, Exact m.2) :
      Exact (.object members)

theorem toList_write_array (items : List Json) :
    (write (.array items)).toList = '[' :: ((writeItems items).toList ++ [']']) := by
  simp [write]

theorem toList_write_object (members : List (String × Json)) :
    (write (.object members)).toList = '\x7b' :: ((writeMembers members).toList ++ ['\x7d']) := by
  simp [write]

theorem toList_writeItems_cons (item next : Json) (rest : List Json) :
    (writeItems (item :: next :: rest)).toList =
      (write item).toList ++ ',' :: (writeItems (next :: rest)).toList := by
  simp [writeItems]

theorem toList_writeMembers_single (key : String) (value : Json) :
    (writeMembers [(key, value)]).toList =
      '"' :: (escapes key.toList ++ '"' :: ':' :: (write value).toList) := by
  simp [writeMembers, toList_quoted]

theorem toList_writeMembers_cons (key : String) (value : Json) (next : String × Json)
    (rest : List (String × Json)) :
    (writeMembers ((key, value) :: next :: rest)).toList =
      '"' :: (escapes key.toList ++ '"' :: ':' :: ((write value).toList ++
        ',' :: (writeMembers (next :: rest)).toList)) := by
  simp [writeMembers, toList_quoted]

/-- The characters that may stand between the parts of a text. -/
def IsBlank (c : Char) : Prop := c = ' ' ∨ c = '\n' ∨ c = '\r' ∨ c = '\t'

theorem skipBlanks_cons {c : Char} (visible : ¬IsBlank c) (rest : List Char) :
    skipBlanks (c :: rest) = c :: rest := by
  have stop : (c = ' ' || c = '\n' || c = '\r' || c = '\t') = false := by
    simpa [IsBlank, and_assoc] using visible
  simp [skipBlanks, stop]

theorem not_isBlank_of_isNumberChar {c : Char} (number : isNumberChar c = true) : ¬IsBlank c := by
  rintro (rfl | rfl | rfl | rfl) <;> cases number

theorem exists_integer_cons (n : Int) :
    ∃ c more, Text.integer n = c :: more ∧ isNumberChar c = true := by
  cases shape : Text.integer n with
  | nil =>
    unfold Text.integer at shape
    split at shape
    · cases shape
    · exact absurd shape (digits_ne_nil _)
  | cons c more => exact ⟨c, more, rfl, isNumberChar_of_mem_integer (n := n) (by simp [shape])⟩

theorem exists_write_cons {json : Json} (exact : Exact json) :
    ∃ c more, (write json).toList = c :: more ∧ c ≠ ']' ∧ ¬IsBlank c := by
  cases exact with
  | null => exact ⟨'n', _, rfl, by decide, by simp [IsBlank]⟩
  | bool value =>
    cases value with
    | true => exact ⟨'t', _, rfl, by decide, by simp [IsBlank]⟩
    | false => exact ⟨'f', _, rfl, by decide, by simp [IsBlank]⟩
  | integer value low high =>
    obtain ⟨c, more, shape, number⟩ := exists_integer_cons value
    have other : c ≠ ']' := by
      rintro rfl
      cases number
    have written : (write (.integer value)).toList = c :: more := by simp [write, shape]
    exact ⟨c, more, written, other, not_isBlank_of_isNumberChar number⟩
  | string value => exact ⟨'"', _, toList_quoted value, by decide, by simp [IsBlank]⟩
  | array items each => exact ⟨'[', _, toList_write_array items, by decide, by simp [IsBlank]⟩
  | object members each =>
    exact ⟨'\x7b', _, toList_write_object members, by decide, by simp [IsBlank]⟩

theorem exists_less {json : Json} (exact : Exact json) {fuel : Nat}
    (enough : (write json).toList.length ≤ fuel) : ∃ less, fuel = less + 1 := by
  obtain ⟨first, more, shape, -, -⟩ := exists_write_cons exact
  rw [shape, List.length_cons] at enough
  exact ⟨fuel - 1, by omega⟩

/-- Reading takes a value back from its text, whatever follows but the characters of numbers. -/
def ReadBack (json : Json) : Prop :=
  ∀ (fuel : Nat) (rest : List Char), (write json).toList.length ≤ fuel →
    rest.head?.all (!isNumberChar ·) →
      readValue? fuel ((write json).toList ++ rest) = some (json, rest)

theorem readItems?_write {items : List Json} (nonempty : items ≠ [])
    (each : ∀ item ∈ items, ReadBack item) (fuel : Nat) (rest : List Char)
    (enough : (writeItems items).toList.length < fuel) :
    readItems? fuel ((writeItems items).toList ++ ']' :: rest) = some (items, rest) := by
  have bracket : ¬IsBlank ']' := by simp [IsBlank]
  have comma : ¬IsBlank ',' := by simp [IsBlank]
  induction items generalizing fuel with
  | nil => exact absurd rfl nonempty
  | cons item others ih =>
    obtain ⟨fuel, rfl⟩ : ∃ less, fuel = less + 1 := ⟨fuel - 1, by omega⟩
    have first := each item List.mem_cons_self
    cases others with
    | nil =>
      have size : (write item).toList.length ≤ fuel := by
        rw [writeItems] at enough
        omega
      rw [readItems?, writeItems, first fuel (']' :: rest) size rfl]
      simp only [Option.bind_eq_bind, Option.bind_some, skipBlanks_cons bracket]
    | cons next more =>
      rw [toList_writeItems_cons] at enough ⊢
      rw [List.length_append, List.length_cons] at enough
      have later := ih (by simp) (fun other member => each other (List.mem_cons_of_mem _ member))
        fuel (by omega)
      rw [readItems?, List.append_assoc, List.cons_append, first fuel _ (by omega) rfl]
      simp only [Option.bind_eq_bind, Option.bind_some, skipBlanks_cons comma, later,
        Option.map_some]

theorem readMembers?_write {members : List (String × Json)} (nonempty : members ≠ [])
    (each : ∀ m ∈ members, ReadBack m.2) (fuel : Nat) (rest : List Char)
    (enough : (writeMembers members).toList.length < fuel) :
    readMembers? fuel ((writeMembers members).toList ++ '\x7d' :: rest) = some (members, rest) := by
  have quote : ¬IsBlank '"' := by simp [IsBlank]
  have colon : ¬IsBlank ':' := by simp [IsBlank]
  have brace : ¬IsBlank '\x7d' := by simp [IsBlank]
  have comma : ¬IsBlank ',' := by simp [IsBlank]
  induction members generalizing fuel with
  | nil => exact absurd rfl nonempty
  | cons member others ih =>
    obtain ⟨fuel, rfl⟩ : ∃ less, fuel = less + 1 := ⟨fuel - 1, by omega⟩
    obtain ⟨key, value⟩ := member
    have first := each (key, value) List.mem_cons_self
    cases others with
    | nil =>
      rw [toList_writeMembers_single] at enough ⊢
      simp only [List.length_append, List.length_cons] at enough
      have read := first fuel ('\x7d' :: rest) (by dsimp only; omega) rfl
      simp only [readMembers?, List.cons_append, List.append_assoc, skipBlanks_cons quote,
        quotedRest?_quoted, Option.bind_eq_bind, Option.bind_some, skipBlanks_cons colon, read,
        skipBlanks_cons brace]
    | cons next more =>
      rw [toList_writeMembers_cons] at enough ⊢
      simp only [List.length_append, List.length_cons] at enough
      have later := ih (by simp) (fun other member => each other (List.mem_cons_of_mem _ member))
        fuel (by omega)
      have read := first fuel (',' :: ((writeMembers (next :: more)).toList ++ '\x7d' :: rest))
        (by dsimp only; omega) rfl
      simp only [readMembers?, List.cons_append, List.append_assoc, skipBlanks_cons quote,
        quotedRest?_quoted, Option.bind_eq_bind, Option.bind_some, skipBlanks_cons colon, read,
        skipBlanks_cons comma, later, Option.map_some]

theorem readBack_integer {value : Int} (low : -(signedLimit : Int) ≤ value)
    (high : value < UInt64.size) : ReadBack (.integer value) := by
  intro fuel rest enough stop
  obtain ⟨first, more, shape, number⟩ := exists_integer_cons value
  have written : (write (.integer value)).toList = Text.integer value := by simp [write]
  have visible := not_isBlank_of_isNumberChar number
  have ends : rest.takeWhile isNumberChar = [] ∧ rest.dropWhile isNumberChar = rest := by
    cases rest with
    | nil => exact ⟨rfl, rfl⟩
    | cons c others =>
      have other : isNumberChar c = false := by simpa using stop
      simp [other]
  have taken : (Text.integer value ++ rest).takeWhile isNumberChar = Text.integer value := by
    rw [List.takeWhile_append_of_pos fun _ => isNumberChar_of_mem_integer, ends.1, List.append_nil]
  have left : (Text.integer value ++ rest).dropWhile isNumberChar = rest := by
    rw [List.dropWhile_append_of_pos fun _ => isNumberChar_of_mem_integer, ends.2]
  rw [written, shape, List.length_cons] at enough
  obtain ⟨fuel, rfl⟩ : ∃ less, fuel = less + 1 := ⟨fuel - 1, by omega⟩
  have skipped : skipBlanks (Text.integer value ++ rest) = Text.integer value ++ rest := by
    rw [shape, List.cons_append, skipBlanks_cons visible]
  have headed : ∀ c tail, Text.integer value ++ rest = c :: tail → isNumberChar c = true := by
    intro c tail same
    rw [shape, List.cons_append] at same
    rw [← (List.cons.inj same).1, number]
  rw [written, readValue?, skipped]
  split
  iterate 6 next same => cases headed _ _ same
  · rw [taken, left, numberOf?_integer low high, Option.map_some]

theorem readBack_array {items : List Json} (exact : ∀ item ∈ items, Exact item)
    (each : ∀ item ∈ items, ReadBack item) : ReadBack (.array items) := by
  intro fuel rest enough stop
  have bracket : ¬IsBlank '[' := by simp [IsBlank]
  rw [toList_write_array, List.length_cons, List.length_append, List.length_singleton] at enough
  obtain ⟨fuel, rfl⟩ : ∃ less, fuel = less + 1 := ⟨fuel - 1, by omega⟩
  rw [toList_write_array, List.cons_append, List.append_assoc, List.singleton_append, readValue?,
    skipBlanks_cons bracket]
  cases items with
  | nil =>
    have close : ¬IsBlank ']' := by simp [IsBlank]
    simp only [writeItems, String.toList_empty, List.nil_append, skipBlanks_cons close]
  | cons item others =>
    obtain ⟨first, more, shape, noEnd, visible⟩ := exists_write_cons (exact item List.mem_cons_self)
    have items := readItems?_write (by simp) each fuel rest (by omega)
    obtain ⟨more, shape⟩ : ∃ more, (writeItems (item :: others)).toList = first :: more := by
      cases others with
      | nil => exact ⟨more, by rw [writeItems, shape]⟩
      | cons next others => exact ⟨_, by rw [toList_writeItems_cons, shape, List.cons_append]⟩
    rw [shape, List.cons_append] at items ⊢
    simp only [skipBlanks_cons visible]
    split
    · next same => exact absurd (List.cons.inj same).1 noEnd
    · rw [items, Option.map_some]

theorem readBack_object {members : List (String × Json)}
    (each : ∀ m ∈ members, ReadBack m.2) : ReadBack (.object members) := by
  intro fuel rest enough stop
  have brace : ¬IsBlank '\x7b' := by simp [IsBlank]
  rw [toList_write_object, List.length_cons, List.length_append, List.length_singleton] at enough
  obtain ⟨fuel, rfl⟩ : ∃ less, fuel = less + 1 := ⟨fuel - 1, by omega⟩
  rw [toList_write_object, List.cons_append, List.append_assoc, List.singleton_append, readValue?,
    skipBlanks_cons brace]
  cases members with
  | nil =>
    have close : ¬IsBlank '\x7d' := by simp [IsBlank]
    simp only [writeMembers, String.toList_empty, List.nil_append, skipBlanks_cons close]
  | cons member others =>
    have quote : ¬IsBlank '"' := by simp [IsBlank]
    have members := readMembers?_write (by simp) each fuel rest (by omega)
    obtain ⟨more, shape⟩ : ∃ more, (writeMembers (member :: others)).toList = '"' :: more := by
      cases others with
      | nil => exact ⟨_, toList_writeMembers_single _ _⟩
      | cons next others => exact ⟨_, toList_writeMembers_cons _ _ _ _⟩
    rw [shape, List.cons_append] at members ⊢
    simp only [skipBlanks_cons quote]
    split
    · next same => exact absurd (List.cons.inj same).1 (by decide)
    · rw [members, Option.map_some]

theorem readBack_of_exact {json : Json} (exact : Exact json) : ReadBack json := by
  induction exact with
  | integer value low high => exact readBack_integer low high
  | array items each ih => exact readBack_array each ih
  | object members each ih => exact readBack_object ih
  | null =>
    intro fuel rest enough stop
    obtain ⟨fuel, rfl⟩ := exists_less .null enough
    have visible : ¬IsBlank 'n' := by simp [IsBlank]
    change readValue? (fuel + 1) ('n' :: 'u' :: 'l' :: 'l' :: rest) = _
    simp only [readValue?, skipBlanks_cons visible]
  | bool value =>
    intro fuel rest enough stop
    obtain ⟨fuel, rfl⟩ := exists_less (.bool value) enough
    cases value with
    | true =>
      have visible : ¬IsBlank 't' := by simp [IsBlank]
      change readValue? (fuel + 1) ('t' :: 'r' :: 'u' :: 'e' :: rest) = _
      simp only [readValue?, skipBlanks_cons visible]
    | false =>
      have visible : ¬IsBlank 'f' := by simp [IsBlank]
      change readValue? (fuel + 1) ('f' :: 'a' :: 'l' :: 's' :: 'e' :: rest) = _
      simp only [readValue?, skipBlanks_cons visible]
  | string value =>
    intro fuel rest enough stop
    obtain ⟨fuel, rfl⟩ := exists_less (.string value) enough
    have visible : ¬IsBlank '"' := by simp [IsBlank]
    have written : (write (.string value)).toList = '"' :: (escapes value.toList ++ ['"']) :=
      toList_quoted value
    rw [written]
    simp only [readValue?, List.cons_append, List.append_assoc, List.nil_append,
      skipBlanks_cons visible, quotedRest?_quoted, Option.map_some]

theorem read?_write {json : Json} (exact : Exact json) : read? (write json) = some json := by
  have room : (write json).toList.length ≤ (write json).length + 1 := by
    rw [String.length_toList]
    omega
  have read := readBack_of_exact exact _ [] room rfl
  rw [List.append_nil] at read
  simp [read?, read, skipBlanks]

end Cutover.Json
