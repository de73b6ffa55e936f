set_option autoImplicit false

namespace Cutover

/-- A strict total order that can be tested. -/
class Key (κ : Type) where
  less : κ → κ → Bool
  less_irrefl : ∀ a, less a a = false
  less_trans : ∀ a b c, less a b = true → less b c = true → less a c = true
  eq_of_not_less : ∀ a b, less a b = false → less b a = false → a = b

namespace Key

variable {κ : Type} [Key κ]

theorem less_asymm {a b : κ} (hab : less a b = true) : less b a = false := by
  cases hba : less b a with
  | false => rfl
  | true => simpa [less_irrefl] using less_trans a b a hab hba

theorem ne_of_less {a b : κ} (hab : less a b = true) : a ≠ b := by
  rintro rfl
  simp [less_irrefl] at hab

end Key

instance : Key Nat where
  less a b := decide (a < b)
  less_irrefl a := by simp
  less_trans a b c hab hbc := by simp at *; omega
  eq_of_not_less a b hab hba := by simp at *; omega

instance : Key String where
  less a b := decide (a < b)
  less_irrefl a := by simp
  less_trans a b c hab hbc := by
    simp only [decide_eq_true_eq] at *
    exact String.lt_trans hab hbc
  eq_of_not_less a b hab hba := by
    simp only [decide_eq_false_iff_not, String.not_lt] at *
    exact String.le_antisymm hba hab

end Cutover
