set_option autoImplicit false

namespace Cutover.Text

/-- The pieces between the occurrences of `sep`; a text without one is a single piece. -/
def pieces (sep : Char) : List Char → List (List Char)
  | [] => [[]]
  | c :: rest =>
      if c = sep then [] :: pieces sep rest
      else
        match pieces sep rest with
        | [] => [[c]]
        | first :: others => (c :: first) :: others

theorem pieces_ne_nil (sep : Char) (text : List Char) : pieces sep text ≠ [] := by
  cases text with
  | nil => simp [pieces]
  | cons c rest =>
    rw [pieces]
    split
    · simp
    · split <;> simp

def joined (sep : Char) : List (List Char) → List Char
  | [] => []
  | [piece] => piece
  | piece :: rest => piece ++ sep :: joined sep rest

@[simp] theorem joined_pieces (sep : Char) (text : List Char) :
    joined sep (pieces sep text) = text := by
  induction text with
  | nil => rfl
  | cons c rest ih =>
    rw [pieces]
    split
    · next same =>
      rw [joined, ih, same]
      · rfl
      · exact pieces_ne_nil sep rest
    · split
      · next nothing => exact absurd nothing (pieces_ne_nil sep rest)
      · next first others found =>
        rw [found] at ih
        cases others with
        | nil => simpa [joined] using ih
        | cons second more => simpa [joined] using ih

theorem not_mem_of_mem_pieces {sep : Char} {text piece : List Char}
    (member : piece ∈ pieces sep text) : sep ∉ piece := by
  induction text generalizing piece with
  | nil => simp_all [pieces]
  | cons c rest ih =>
    rw [pieces] at member
    split at member
    · rcases List.mem_cons.1 member with rfl | inRest
      · exact List.not_mem_nil
      · exact ih inRest
    · next apart =>
      split at member
      · next nothing => exact absurd nothing (pieces_ne_nil sep rest)
      · next first others found =>
        rw [found] at ih
        rcases List.mem_cons.1 member with rfl | later
        · rw [List.mem_cons, not_or]
          exact ⟨Ne.symm apart, ih List.mem_cons_self⟩
        · exact ih (List.mem_cons_of_mem _ later)

theorem pieces_of_not_mem {sep : Char} {piece : List Char} (free : sep ∉ piece) :
    pieces sep piece = [piece] := by
  induction piece with
  | nil => rfl
  | cons c rest ih =>
    rw [List.mem_cons, not_or] at free
    rw [pieces, if_neg (Ne.symm free.1), ih free.2]

theorem pieces_append {sep : Char} {piece : List Char} (free : sep ∉ piece) (rest : List Char) :
    pieces sep (piece ++ sep :: rest) = piece :: pieces sep rest := by
  induction piece with
  | nil => simp [pieces]
  | cons c more ih =>
    rw [List.mem_cons, not_or] at free
    rw [List.cons_append, pieces, if_neg (Ne.symm free.1), ih free.2]

theorem pieces_joined {sep : Char} {list : List (List Char)} (nonempty : list ≠ [])
    (free : ∀ piece ∈ list, sep ∉ piece) : pieces sep (joined sep list) = list := by
  induction list with
  | nil => exact absurd rfl nonempty
  | cons piece rest ih =>
    have freePiece := free piece List.mem_cons_self
    cases rest with
    | nil => exact pieces_of_not_mem freePiece
    | cons second more =>
      rw [joined, pieces_append freePiece, ih (List.cons_ne_nil _ _)
        fun p member => free p (List.mem_cons_of_mem _ member)]
      exact nofun

end Cutover.Text
