import TapHold.Text.Blank

namespace TapHold.Text

def pieces (cut : Char → Bool) : List Char → List (List Char)
  | [] => [[]]
  | c :: rest =>
    if cut c then [] :: pieces cut rest
    else match pieces cut rest with
      | [] => [[c]]
      | piece :: others => (c :: piece) :: others

def words (text : List Char) : List (List Char) :=
  (pieces isBlank text).filter (!·.isEmpty)

theorem pieces_ne_nil (cut : Char → Bool) (text : List Char) : pieces cut text ≠ [] := by
  cases text with
  | nil => simp [pieces]
  | cons c rest =>
    unfold pieces
    split
    · simp
    · split <;> simp

theorem pieces_length (cut : Char → Bool) (text : List Char) :
    (pieces cut text).length = text.countP cut + 1 := by
  induction text with
  | nil => rfl
  | cons c rest ih =>
    by_cases here : cut c
    · simp [pieces, here, ih]
    · cases found : pieces cut rest with
      | nil => exact absurd found (pieces_ne_nil cut rest)
      | cons piece others => simpa [pieces, here, found] using ih

end TapHold.Text
