import ElasticGroups.Text.Ranges

/-!
# White space

The characters with the Unicode property `White_Space`, and the trimming of texts by it.
Zero-width spaces and the byte order mark do not have the property, so they are kept.

## Main definitions

* `isBlank`: the character has the property `White_Space`;
* `trimChars`, `trim`: the text without the blanks at its two ends.

## Main results

* `isBlank_of_isWhitespace`: every character that is white space in ASCII is blank.
-/

namespace ElasticGroups.Text

/-- The code points with the property `White_Space`. -/
def blankRanges : CodeRanges :=
  [(0x9, 0xD), (0x20, 0x20), (0x85, 0x85), (0xA0, 0xA0), (0x1680, 0x1680), (0x2000, 0x200A),
   (0x2028, 0x2029), (0x202F, 0x202F), (0x205F, 0x205F), (0x3000, 0x3000)]

/-- The character has the property `White_Space`. -/
def isBlank (c : Char) : Bool :=
  blankRanges.contains c

/-- Remove the blanks at the end of a text. -/
def trimEndChars (cs : List Char) : List Char :=
  (cs.reverse.dropWhile isBlank).reverse

/-- Remove the blanks at both ends of a text. -/
def trimChars (cs : List Char) : List Char :=
  trimEndChars (cs.dropWhile isBlank)

/-- Remove the blanks at both ends of a text. -/
def trim (s : String) : String :=
  String.ofList (trimChars s.toList)

/-- White space in ASCII is blank. -/
theorem isBlank_of_isWhitespace (c : Char) (h : c.isWhitespace = true) : isBlank c = true := by
  simp only [Char.isWhitespace, Bool.or_eq_true, decide_eq_true_eq] at h
  rcases h with ((h | h) | h) | h <;> subst h <;> decide

end ElasticGroups.Text
