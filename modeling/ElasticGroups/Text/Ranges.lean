/-!
# Code point ranges

A character class given by a table of inclusive code point ranges.

## Main definitions

* `CodeRanges`: the table;
* `CodeRanges.contains`: membership of a character in the class.
-/

namespace ElasticGroups.Text

/-- A character class, as a list of inclusive ranges of code points. -/
abbrev CodeRanges := List (Nat × Nat)

/-- A character belongs to the class when its code point lies in one of the ranges. -/
def CodeRanges.contains (ranges : CodeRanges) (c : Char) : Bool :=
  ranges.any fun range => range.1 ≤ c.toNat && c.toNat ≤ range.2

end ElasticGroups.Text
