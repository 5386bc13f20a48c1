/-!
Splitting texts at a character and joining them again.

* `splitAtChar` cuts a list of characters at each separator; `join_splitAtChar` is its inverse.
-/

namespace RuleFixtures.Text

/-- The pieces between the separators; there is one piece more than separators. -/
def splitAtChar (separator : Char) : List Char → List (List Char)
  | [] => [[]]
  | c :: rest =>
    if c = separator then [] :: splitAtChar separator rest
    else match splitAtChar separator rest with
      | piece :: pieces => (c :: piece) :: pieces
      | [] => [[c]]

/-- Pieces with a separator between them. -/
def joinWithChar (separator : Char) : List (List Char) → List Char
  | [] => []
  | [piece] => piece
  | piece :: pieces => piece ++ separator :: joinWithChar separator pieces

theorem splitAtChar_ne_nil (separator : Char) (s : List Char) : splitAtChar separator s ≠ [] := by
  cases s with
  | nil => simp [splitAtChar]
  | cons c rest =>
    unfold splitAtChar
    split
    · simp
    · split <;> simp

theorem join_splitAtChar (separator : Char) (s : List Char) :
    joinWithChar separator (splitAtChar separator s) = s := by
  induction s with
  | nil => simp [splitAtChar, joinWithChar]
  | cons c rest ih =>
    have hne := splitAtChar_ne_nil separator rest
    unfold splitAtChar
    cases h : splitAtChar separator rest with
    | nil => exact absurd h hne
    | cons piece pieces =>
      rw [h] at ih
      split
      · next hc => simp [joinWithChar, ih, hc]
      · cases pieces <;> simp_all [joinWithChar]

end RuleFixtures.Text
