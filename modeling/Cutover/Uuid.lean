import Cutover.Data.Key
import Cutover.Text.Hexadecimal

set_option autoImplicit false

namespace Cutover

structure Uuid where
  bits : BitVec 128
  deriving DecidableEq, Inhabited

namespace Uuid

open Cutover.Text

def nil : Uuid := ⟨0⟩

def less (a b : Uuid) : Bool := decide (a.bits.toNat < b.bits.toNat)

theorem less_irrefl (a : Uuid) : less a a = false := by simp [less]

theorem less_trans (a b c : Uuid) (hab : less a b = true) (hbc : less b c = true) :
    less a c = true := by
  simp only [less, decide_eq_true_eq] at *
  omega

theorem eq_of_not_less (a b : Uuid) (hab : less a b = false) (hba : less b a = false) : a = b := by
  obtain ⟨a⟩ := a
  obtain ⟨b⟩ := b
  simp only [less, decide_eq_false_iff_not] at hab hba
  have same : a.toNat = b.toNat := by omega
  exact congrArg Uuid.mk (BitVec.eq_of_toNat_eq same)

instance : Key Uuid := ⟨less, less_irrefl, less_trans, eq_of_not_less⟩

def groups : List Nat := [8, 4, 4, 4, 12]

/-- The length of the text that groups cut up. -/
def total : List Nat → Nat
  | [] => 0
  | length :: rest => length + total rest

/-- Cuts a text into groups of the given lengths and puts hyphens between them. -/
def hyphenated : List Nat → List Char → List Char
  | [], _ => []
  | [length], text => text.take length
  | length :: rest, text => text.take length ++ '-' :: hyphenated rest (text.drop length)

theorem length_hyphenated {length : Nat} {rest : List Nat} {text : List Char}
    (whole : text.length = total (length :: rest)) :
    (hyphenated (length :: rest) text).length = text.length + rest.length := by
  induction rest generalizing length text with
  | nil =>
    have all : text.take length = text := List.take_of_length_le (Nat.le_of_eq whole)
    rw [hyphenated, all]
    rfl
  | cons second more ih =>
    rw [total] at whole
    have tail : (hyphenated (second :: more) (text.drop length)).length =
        (text.drop length).length + more.length := ih (by rw [List.length_drop]; omega)
    rw [hyphenated, List.length_append, List.length_cons, tail, List.length_drop, List.length_take,
      List.length_cons]
    · omega
    · exact nofun

/-- Takes out the hyphens that stand between groups of the given lengths. -/
def joinGroups? : List Nat → List Char → Option (List Char)
  | [], text => if text = [] then some [] else none
  | [length], text => if text.length = length then some text else none
  | length :: rest, text =>
      match text.drop length with
      | '-' :: more => (joinGroups? rest more).map (text.take length ++ ·)
      | _ => none

theorem joinGroups?_hyphenated {lengths : List Nat} {text : List Char}
    (whole : text.length = total lengths) :
    joinGroups? lengths (hyphenated lengths text) = some text := by
  induction lengths generalizing text with
  | nil =>
    obtain rfl := List.eq_nil_of_length_eq_zero whole
    rfl
  | cons length rest ih =>
    rw [total] at whole
    cases rest with
    | nil =>
      have all : text.take length = text := List.take_of_length_le (Nat.le_of_eq whole)
      rw [hyphenated, joinGroups?, all]
      exact if_pos whole
    | cons second more =>
      have size : (text.take length).length = length := by rw [List.length_take]; omega
      have tail : joinGroups? (second :: more) (hyphenated (second :: more) (text.drop length)) =
          some (text.drop length) := ih (by rw [List.length_drop]; omega)
      rw [hyphenated, joinGroups?]
      · rw [List.drop_left' size, List.take_left' size]
        simp only [tail, Option.map_some, List.take_append_drop]
      all_goals exact nofun

def write (u : Uuid) : List Char := hyphenated groups (hexDigits 32 u.bits.toNat)

def text (u : Uuid) : String := String.ofList u.write

/-- The identifier with the given 32 hexadecimal digits. -/
def ofHex? (digits : List Char) : Option Uuid :=
  if digits.length = 32 then (based? 16 digits).map fun n => ⟨BitVec.ofNat 128 n⟩ else none

theorem ofHex?_hexDigits (u : Uuid) : ofHex? (hexDigits 32 u.bits.toNat) = some u := by
  have small : u.bits.toNat % Nat.pow 16 32 = u.bits.toNat := Nat.mod_eq_of_lt u.bits.isLt
  rw [ofHex?, if_pos (length_hexDigits 32 _), based?_hexDigits, small]
  simp [BitVec.ofNat_toNat]

def ofHyphenated? (text : List Char) : Option Uuid := (joinGroups? groups text).bind ofHex?

def urnMark : List Char := ['u', 'r', 'n', ':', 'u', 'u', 'i', 'd', ':']

def read? (text : List Char) : Option Uuid :=
  if text.length = 32 then ofHex? text
  else if text.length = 36 then ofHyphenated? text
  else if text.length = 38 ∧ text.head? = some '\x7b' ∧ text.getLast? = some '\x7d' then
    ofHyphenated? ((text.drop 1).dropLast)
  else if text.length = 45 ∧ urnMark.isPrefixOf (text.map Char.toLower) then
    ofHyphenated? (text.drop 9)
  else none

@[simp] theorem read?_write (u : Uuid) : read? u.write = some u := by
  have digits := length_hexDigits 32 u.bits.toNat
  have size : u.write.length = 36 := by
    rw [write, groups, length_hyphenated digits, digits]
    rfl
  have joined : ofHyphenated? u.write = some u := by
    rw [ofHyphenated?, write, joinGroups?_hyphenated digits, Option.bind_some, ofHex?_hexDigits]
  rw [read?, if_neg (by omega), if_pos size, joined]

def parse? (text : String) : Option Uuid := read? text.toList

theorem parse?_text (u : Uuid) : parse? u.text = some u := by
  rw [parse?, text, String.toList_ofList, read?_write]

end Uuid

end Cutover
