set_option autoImplicit false

namespace Cutover.Text

def tenTo (n : Nat) : Nat := Nat.pow 10 n

def isDigit (c : Char) : Bool := '0' ≤ c && c ≤ '9'

def digitValue (c : Char) : Nat := c.toNat - '0'.toNat

def digit (n : Nat) : Char := Char.ofNat ('0'.toNat + n)

theorem digitValue_digit {n : Nat} (small : n < 10) : digitValue (digit n) = n := by
  have : ∀ n < 10, digitValue (digit n) = n := by decide
  exact this n small

theorem isDigit_digit {n : Nat} (small : n < 10) : isDigit (digit n) = true := by
  have : ∀ n < 10, isDigit (digit n) = true := by decide
  exact this n small

/-- The decimal digits of `n`, the most significant first. -/
def digits (n : Nat) : List Char :=
  if n < 10 then [digit n] else digits (n / 10) ++ [digit (n % 10)]

/-- The digits of `n` with zeros in front, up to `width` places. -/
def padded (width n : Nat) : List Char :=
  List.replicate (width - (digits n).length) '0' ++ digits n

def value (text : List Char) : Nat :=
  text.foldl (fun sum c => 10 * sum + digitValue c) 0

theorem value_append_singleton (text : List Char) (c : Char) :
    value (text ++ [c]) = 10 * value text + digitValue c := by
  simp [value]

@[simp] theorem value_digits (n : Nat) : value (digits n) = n := by
  induction n using digits.induct with
  | case1 n small => rw [digits, if_pos small]; simp [value, digitValue_digit small]
  | case2 n large ih =>
    rw [digits, if_neg large, value_append_singleton, ih,
      digitValue_digit (Nat.mod_lt n (by decide))]
    omega

theorem all_isDigit_digits (n : Nat) : (digits n).all isDigit = true := by
  induction n using digits.induct with
  | case1 n small => rw [digits, if_pos small]; simp [isDigit_digit small]
  | case2 n large ih =>
    rw [digits, if_neg large, List.all_append, ih]
    simp [isDigit_digit (Nat.mod_lt n (by decide : 0 < 10))]

theorem not_mem_digits {c : Char} (other : isDigit c = false) (n : Nat) : c ∉ digits n := by
  intro member
  have all := List.all_eq_true.1 (all_isDigit_digits n) c member
  simp [other] at all

theorem digits_ne_nil (n : Nat) : digits n ≠ [] := by
  rw [digits]
  split <;> simp

theorem digits_injective {m n : Nat} (same : digits m = digits n) : m = n := by
  rw [← value_digits m, same, value_digits]

/-- Reads one or more digits and nothing else. -/
def number? (text : List Char) : Option Nat :=
  if text ≠ [] ∧ text.all isDigit then some (value text) else none

@[simp] theorem number?_digits (n : Nat) : number? (digits n) = some n := by
  rw [number?, if_pos ⟨digits_ne_nil n, all_isDigit_digits n⟩, value_digits]

/-- Reads digits after an optional plus sign; the value must not exceed `limit`. -/
def unsigned? (limit : Nat) (text : List Char) : Option Nat :=
  let magnitude :=
    match text with
    | '+' :: rest => number? rest
    | _ => number? text
  magnitude.filter (· ≤ limit)

theorem unsigned?_digits (limit n : Nat) :
    unsigned? limit (digits n) = if n ≤ limit then some n else none := by
  have plain : ∀ rest, digits n ≠ '+' :: rest := by
    intro rest same
    have digit := all_isDigit_digits n
    rw [same, List.all_cons] at digit
    exact absurd digit (by simp [show isDigit '+' = false from rfl])
  have magnitude : unsigned? limit (digits n) = (number? (digits n)).filter (· ≤ limit) := by
    rw [unsigned?]
    exact plain
  rw [magnitude, number?_digits, Option.filter_some]
  simp only [decide_eq_true_eq]

/-- The least number that 64 bits in two's complement do not hold. -/
def signedLimit : Nat := 0x8000000000000000

/-- Reads digits after an optional sign; the value must fit 64 bits in two's complement. -/
def signed? (text : List Char) : Option Int :=
  match text with
  | '-' :: rest => (number? rest).bind fun n => if n ≤ signedLimit then some (-n) else none
  | _ => (unsigned? (signedLimit - 1) text).map Int.ofNat

/-- The text of a number that may be negative. -/
def integer (n : Int) : List Char :=
  if n < 0 then '-' :: digits n.natAbs else digits n.natAbs

def ofNat (n : Nat) : String := String.ofList (digits n)

end Cutover.Text
