set_option autoImplicit false

namespace Cutover.Text

/-- Lower case where that is an ASCII letter: for the capital ASCII letters and for the Kelvin sign,
the only other character whose lower case is one. Other characters are left as they are. -/
def lowerChar (c : Char) : Char := if c = '\u212A' then 'k' else c.toLower

def lower (text : String) : String := String.ofList (text.toList.map lowerChar)

theorem toLower_cases (c : Char) : c.toLower = c ∨ 97 ≤ c.toLower.toNat ∧ c.toLower.toNat ≤ 122 := by
  unfold Char.toLower
  split
  · next capital =>
    right
    have least := UInt32.le_iff_toNat_le.1 capital.1
    have most := UInt32.le_iff_toNat_le.1 capital.2
    simp only [Char.toNat, UInt32.toNat_add] at least most ⊢
    simp at least most ⊢
    omega
  · exact .inl rfl

theorem toLower_toLower (c : Char) : c.toLower.toLower = c.toLower := by
  rcases toLower_cases c with same | ⟨small, -⟩
  · rw [same, same]
  · have notCapital : ¬ c.toLower.val ≤ 'Z'.val := by
      intro capital
      have most : c.toLower.toNat ≤ 90 := UInt32.le_iff_toNat_le.1 capital
      omega
    generalize c.toLower = d at notCapital
    unfold Char.toLower
    exact dif_neg fun both => notCapital both.2

theorem lowerChar_lowerChar (c : Char) : lowerChar (lowerChar c) = lowerChar c := by
  unfold lowerChar
  split
  · rfl
  · next other =>
    rw [toLower_toLower]
    split
    · next kelvin =>
      rcases toLower_cases c with same | ⟨-, small⟩
      · exact absurd (same.symm.trans kelvin) other
      · rw [kelvin] at small
        exact absurd small (by decide)
    · rfl

theorem lower_lower (text : String) : lower (lower text) = lower text := by
  rw [lower, lower, String.toList_ofList, List.map_map]
  congr 1
  exact List.map_congr_left fun c _ => lowerChar_lowerChar c

end Cutover.Text
