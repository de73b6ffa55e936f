set_option autoImplicit false

namespace Cutover.Text

def bytes (text : String) : List UInt8 := text.toUTF8.data.toList

/-- Two lists part at a place where the first one has the smaller byte. -/
inductive Parts : List UInt8 → List UInt8 → Prop
  | here {x y : UInt8} (less : x < y) (r s : List UInt8) : Parts (x :: r) (y :: s)
  | later (x : UInt8) {r s : List UInt8} (parts : Parts r s) : Parts (x :: r) (x :: s)

theorem Parts.lt_append {r s : List UInt8} (parts : Parts r s) (rest more : List UInt8) :
    r ++ rest < s ++ more := by
  induction parts with
  | here less r s => exact List.cons_lt_cons_iff.2 (.inl less)
  | later x parts ih => exact List.cons_lt_cons_iff.2 (.inr ⟨rfl, ih⟩)

theorem ofNat_lt {m n : Nat} (less : m < n) (small : n < 256) : UInt8.ofNat m < UInt8.ofNat n := by
  rw [UInt8.lt_iff_toNat_lt, UInt8.toNat_ofNat', UInt8.toNat_ofNat']
  omega

theorem Parts.smaller {m n : Nat} (less : m < n) (small : n < 256) (r s : List UInt8) :
    Parts (UInt8.ofNat m :: r) (UInt8.ofNat n :: s) :=
  .here (ofNat_lt less small) r s

theorem Parts.byte {m n : Nat} {r s : List UInt8} (small : n < 256) (le : m ≤ n)
    (others : m = n → Parts r s) : Parts (UInt8.ofNat m :: r) (UInt8.ofNat n :: s) := by
  rcases Nat.lt_or_eq_of_le le with less | rfl
  · exact .smaller less small r s
  · exact .later _ (others rfl)

theorem parts_last {v u : Nat} (less : v < u) (same : v / 64 = u / 64) :
    Parts [UInt8.ofNat (v % 64 + 128)] [UInt8.ofNat (u % 64 + 128)] :=
  .smaller (by omega) (by omega) _ _

theorem parts_two {v u : Nat} (less : v < u) (same : v / 4096 = u / 4096) :
    Parts [UInt8.ofNat (v / 64 % 64 + 128), UInt8.ofNat (v % 64 + 128)]
      [UInt8.ofNat (u / 64 % 64 + 128), UInt8.ofNat (u % 64 + 128)] :=
  .byte (by omega) (by omega) fun _ => parts_last less (by omega)

theorem parts_three {v u : Nat} (less : v < u) (same : v / 262144 = u / 262144) :
    Parts [UInt8.ofNat (v / 4096 % 64 + 128), UInt8.ofNat (v / 64 % 64 + 128),
        UInt8.ofNat (v % 64 + 128)]
      [UInt8.ofNat (u / 4096 % 64 + 128), UInt8.ofNat (u / 64 % 64 + 128),
        UInt8.ofNat (u % 64 + 128)] :=
  .byte (by omega) (by omega) fun _ => parts_two less (by omega)

/-- The code of a character parts from those of all greater ones: shorter codes have smaller first
bytes, and codes of one length have their bits in order. -/
theorem parts_encode {c d : Char} (less : c < d) :
    Parts (String.utf8EncodeChar c) (String.utf8EncodeChar d) := by
  have values : c.val.toNat < d.val.toNat := UInt32.lt_iff_toNat_lt.1 less
  have bound : d.val.toNat < 1114112 := by
    rcases d.valid with small | ⟨-, small⟩
    · exact Nat.lt_trans small (by decide)
    · exact small
  unfold String.utf8EncodeChar
  generalize c.val.toNat = v at values ⊢
  generalize d.val.toNat = u at values bound ⊢
  dsimp only
  by_cases one : u ≤ 127
  · rw [if_pos one, if_pos (by omega)]
    exact .smaller values (by omega) _ _
  rw [if_neg one]
  by_cases two : u ≤ 2047
  · rw [if_pos two]
    split
    · exact .smaller (by omega) (by omega) _ _
    rw [if_pos (by omega)]
    exact .byte (by omega) (by omega) fun _ => parts_last values (by omega)
  rw [if_neg two]
  by_cases three : u ≤ 65535
  · rw [if_pos three]
    split
    · exact .smaller (by omega) (by omega) _ _
    split
    · exact .smaller (by omega) (by omega) _ _
    rw [if_pos (by omega)]
    exact .byte (by omega) (by omega) fun _ => parts_two values (by omega)
  · rw [if_neg three]
    split
    · exact .smaller (by omega) (by omega) _ _
    split
    · exact .smaller (by omega) (by omega) _ _
    split
    · exact .smaller (by omega) (by omega) _ _
    exact .byte (by omega) (by omega) fun _ => parts_three values (by omega)

theorem bytes_eq (text : String) : bytes text = text.toList.flatMap String.utf8EncodeChar := by
  have spelled : bytes (String.ofList text.toList) =
      text.toList.flatMap String.utf8EncodeChar := by
    rw [bytes, String.toUTF8_eq_toByteArray, String.toByteArray_ofList]
    exact List.toList_data_toByteArray
  rwa [String.ofList_toList] at spelled

theorem flatMap_encode_lt {cs ds : List Char} (less : cs < ds) :
    cs.flatMap String.utf8EncodeChar < ds.flatMap String.utf8EncodeChar := by
  induction cs generalizing ds with
  | nil =>
    cases ds with
    | nil => exact absurd less (List.not_lt_nil _)
    | cons d rest =>
      rw [List.flatMap_nil, List.flatMap_cons]
      cases code : String.utf8EncodeChar d with
      | nil => exact absurd code String.utf8EncodeChar_ne_nil
      | cons x more => exact List.nil_lt_cons _ _
  | cons c rest ih =>
    cases ds with
    | nil => exact absurd less (List.not_lt_nil _)
    | cons d more =>
      rw [List.flatMap_cons, List.flatMap_cons]
      rcases List.cons_lt_cons_iff.1 less with smaller | ⟨rfl, later⟩
      · exact (parts_encode smaller).lt_append _ _
      · exact List.append_left_lt (ih later)

theorem lt_iff_bytes_lt (a b : String) : a < b ↔ bytes a < bytes b := by
  rw [bytes_eq, bytes_eq]
  constructor
  · exact flatMap_encode_lt
  · intro less
    by_cases smaller : a < b
    · exact smaller
    by_cases greater : b < a
    · exact absurd less (List.lt_asymm (flatMap_encode_lt greater))
    · have same := String.le_antisymm (String.not_lt.1 greater) (String.not_lt.1 smaller)
      rw [same] at less
      exact absurd less (List.lt_irrefl _)

end Cutover.Text
