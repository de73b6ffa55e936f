set_option autoImplicit false

namespace Cutover.Text

def hexDigit (n : Nat) : Char :=
  if n < 10 then Char.ofNat ('0'.toNat + n) else Char.ofNat ('a'.toNat + (n - 10))

def hexValue? (c : Char) : Option Nat :=
  if '0' ≤ c ∧ c ≤ '9' then some (c.toNat - '0'.toNat)
  else if 'a' ≤ c ∧ c ≤ 'f' then some (c.toNat - 'a'.toNat + 10)
  else if 'A' ≤ c ∧ c ≤ 'F' then some (c.toNat - 'A'.toNat + 10)
  else none

theorem hexValue?_hexDigit {n : Nat} (small : n < 16) : hexValue? (hexDigit n) = some n := by
  have : ∀ n < 16, hexValue? (hexDigit n) = some n := by decide
  exact this n small

/-- The last `count` hexadecimal digits of `n`, the most significant first. -/
def hexDigits : Nat → Nat → List Char
  | 0, _ => []
  | count + 1, n => hexDigits count (n / 16) ++ [hexDigit (n % 16)]

@[simp] theorem length_hexDigits (count n : Nat) : (hexDigits count n).length = count := by
  induction count generalizing n with
  | zero => rfl
  | succ count ih => rw [hexDigits, List.length_append, ih, List.length_singleton]

/-- The number that digits of a base denote; `none` if another character is among them. -/
def based? (base : Nat) (text : List Char) : Option Nat :=
  text.foldlM (fun sum c => ((hexValue? c).filter (· < base)).map (base * sum + ·)) 0

theorem based?_append_singleton (base : Nat) (text : List Char) (c : Char) :
    based? base (text ++ [c]) = (based? base text).bind fun sum =>
      ((hexValue? c).filter (· < base)).map (base * sum + ·) := by
  rw [based?, List.foldlM_append]
  simp [based?]

theorem based?_hexDigits (count n : Nat) :
    based? 16 (hexDigits count n) = some (n % Nat.pow 16 count) := by
  induction count generalizing n with
  | zero => simp [hexDigits, based?, Nat.mod_one]
  | succ count ih =>
    have small : n % 16 < 16 := Nat.mod_lt n (by decide)
    have split : n % Nat.pow 16 (count + 1) = 16 * (n / 16 % Nat.pow 16 count) + n % 16 := by
      change n % (Nat.pow 16 count * 16) = _
      rw [Nat.mul_comm, Nat.mod_mul, Nat.add_comm]
    rw [hexDigits, based?_append_singleton, ih, hexValue?_hexDigit small, split]
    simp [small]

end Cutover.Text
