/-!
# Numerals

Unsigned decimal numbers that fit a 64-bit word, digits padded with zeros, and hexadecimal digits.

Two forms are read. A *count* is one or more ASCII digits and nothing else. An *unsigned number*
may have one leading plus sign in front of that. Leading zeros are fine in both; a sign, a blank
or an underscore inside is not.

## Main definitions

* `wordLimit`: the numbers of one word are those below it;
* `count?`, `unsigned?`: the two readers;
* `padded`, `fraction`: decimal digits of a least width, and the decimals of a number;
* `hexadecimal`: lower-case hexadecimal digits, padded with zeros to a least width.

## Main results

* `count?_toDigits`: a number that fits a word is read back from its decimal digits.
-/

namespace ElasticGroups.Text

/-- The numbers below this limit fit a 64-bit word. -/
def wordLimit : Nat := 18446744073709551616

/-- Read one or more ASCII digits whose value fits a word. -/
def count? (cs : List Char) : Option Nat :=
  if cs ≠ [] ∧ cs.all Char.isDigit = true ∧ Nat.ofDigitChars 10 cs 0 < wordLimit then
    some (Nat.ofDigitChars 10 cs 0)
  else
    none

/-- Read a count with an optional plus sign in front. -/
def unsigned? : List Char → Option Nat
  | '+' :: cs => count? cs
  | cs => count? cs

/-- The decimal digits of a number, padded on the left with zeros to `width`. -/
def padded (width n : Nat) : String :=
  let digits := Nat.toDigits 10 n
  String.ofList (List.replicate (width - digits.length) '0' ++ digits)

/-- The decimals of a number behind their dot: `n` of the units of which `places` digits count,
without the zeros at their end. Nothing is written when no decimal is left. -/
def fraction (places n : Nat) : String :=
  let shown := ((padded places n).toList.reverse.dropWhile (· = '0')).reverse
  if shown.isEmpty then "" else "." ++ String.ofList shown

/-- The lower-case hexadecimal digits of a number, padded on the left with zeros to `width`. -/
def hexadecimal (width n : Nat) : String :=
  let digits := Nat.toDigits 16 n
  String.ofList (List.replicate (width - digits.length) '0' ++ digits)

/-- The value of a hexadecimal digit of either case. -/
def hexDigit? (c : Char) : Option Nat :=
  if c.isDigit then some (c.toNat - 48)
  else if 'a' ≤ c ∧ c ≤ 'f' then some (c.toNat - 87)
  else if 'A' ≤ c ∧ c ≤ 'F' then some (c.toNat - 55)
  else none

/-- The value of a text of digits of a base up to sixteen, most significant digit first. -/
def digitsValue? (base : Nat) (cs : List Char) : Option Nat :=
  cs.foldlM (fun value c => do
    let digit ← hexDigit? c
    if digit < base then some (base * value + digit) else none) 0

/-- A number that fits a word is read back from its decimal digits. -/
theorem count?_toDigits {n : Nat} (h : n < wordLimit) : count? (Nat.toDigits 10 n) = some n := by
  have hdigits : (Nat.toDigits 10 n).all Char.isDigit = true :=
    List.all_eq_true.mpr fun c hc => Nat.isDigit_of_mem_toDigits (by decide) (by decide) hc
  simp [count?, Nat.toDigits_ne_nil, hdigits, Nat.ofDigitChars_ten_toDigits, h]

end ElasticGroups.Text
