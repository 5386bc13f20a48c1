import RuleFixtures.Text.CodeRanges

/-!
White space: the characters with the Unicode property, version 14, and the four information
separators `U+001C` to `U+001F`.

* `isBlank` is the class; `trim` drops it at both ends of a text and `words` cuts a text at it.
* `isBlank_of_isWhitespace`: the class extends the white space of ASCII.
-/

namespace RuleFixtures.Text

/-- The code points of white space. -/
def blankRanges : List (Nat × Nat) :=
  [(0x09, 0x0D), (0x1C, 0x20), (0x85, 0x85), (0xA0, 0xA0), (0x1680, 0x1680), (0x2000, 0x200A),
   (0x2028, 0x2029), (0x202F, 0x202F), (0x205F, 0x205F), (0x3000, 0x3000)]

/-- White space, in any script. -/
def isBlank (c : Char) : Bool :=
  blankRanges.any fun range => range.1 ≤ c.toNat && c.toNat ≤ range.2

/-- The white space of ASCII that separates fields: tab to carriage return, and the space. -/
def isAsciiBlank (c : Char) : Bool := (9 ≤ c.toNat && c.toNat ≤ 13) || c == ' '

theorem isBlank_of_isWhitespace (c : Char) (h : c.isWhitespace = true) : isBlank c = true := by
  simp only [Char.isWhitespace, Bool.or_eq_true, decide_eq_true_eq] at h
  rcases h with ((h | h) | h) | h <;> subst h <;> decide

/-- Drops the characters of a class at both ends. -/
def trimList (drop : Char → Bool) (s : List Char) : List Char :=
  (((s.dropWhile drop).reverse).dropWhile drop).reverse

/-- Drops the characters of a class at both ends of a text. -/
def trimBy (drop : Char → Bool) (s : String) : String := String.ofList (trimList drop s.toList)

/-- Drops white space at both ends of a text. -/
def trim (s : String) : String := trimBy isBlank s

/-- The runs of characters between white space. -/
def words : List Char → List (List Char)
  | [] => []
  | c :: rest =>
    if isBlank c then words rest
    else match rest with
      | [] => [[c]]
      | next :: _ =>
        if isBlank next then [c] :: words rest
        else match words rest with
          | word :: more => (c :: word) :: more
          | [] => [[c]]

end RuleFixtures.Text
