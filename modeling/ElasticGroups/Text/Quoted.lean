import ElasticGroups.Text.Numeral
import ElasticGroups.Text.Printable

/-!
# Quoted text

The quoted form of a text or of a single character, as messages show it. The enclosing mark and
the backslash are escaped with a backslash, four controls have a letter, and every other character
that is not printable is written by its code point.

## Main definitions

* `escape`: the form of one character inside a given mark;
* `quoteText`, `quoteChar`: the quoted form of a text, in double marks, and of a character, in
  single marks.
-/

namespace ElasticGroups.Text

/-- The code point of a character, in the form of an escape. -/
def escapeCode (c : Char) : String :=
  "\\u\x7b" ++ hexadecimal 1 c.toNat ++ "\x7d"

/-- The form of a character inside a pair of `mark`s. -/
def escape (mark c : Char) : String :=
  if c = '\x00' then "\\0"
  else if c = '\t' then "\\t"
  else if c = '\r' then "\\r"
  else if c = '\n' then "\\n"
  else if c = '\\' ∨ c = mark then String.ofList ['\\', c]
  else if isPrintable c then String.singleton c
  else escapeCode c

/-- A text between double marks. -/
def quoteText (s : String) : String :=
  "\"" ++ String.join (s.toList.map (escape '\x22')) ++ "\""

/-- A character between single marks. -/
def quoteChar (c : Char) : String :=
  "\x27" ++ escape '\x27' c ++ "\x27"

example : quoteText "a\"b\\c\n\x7f" = "\"a\\\"b\\\\c\\n\\u\x7b7f\x7d\"" := by decide +kernel

end ElasticGroups.Text
