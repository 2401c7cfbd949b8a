import ElasticGroups.Data.Value
import ElasticGroups.Text.Numeral

/-!
# TOML scalars

The scalars of a TOML document that are written without marks: truth values, integers, floats and
moments. Each recogniser takes a whole literal.

Underscores may stand between two digits. A decimal integer has no leading zeros; one in another
base has no sign. Integers fit a signed word. A float may have an exponent of any size, but a
positive one must not round to infinity.

## Main definitions

* `Toml.integer?`, `Toml.isFloat`: the recognisers of numbers;
* `Toml.scalar?`: the value of a literal.
-/

namespace ElasticGroups.Data.Toml

open Text

/-- Take the underscores out of a row of digits, each of which must stand between two digits. -/
def plainDigits? (isDigit : Char → Bool) : List Char → Option (List Char)
  | [] => none
  | [c] => if isDigit c then some [c] else none
  | c :: '_' :: rest => if isDigit c then (plainDigits? isDigit rest).map (c :: ·) else none
  | c :: rest => if isDigit c then (plainDigits? isDigit rest).map (c :: ·) else none

/-- Take an optional sign off a literal. -/
def splitSign : List Char → Bool × List Char
  | '+' :: rest => (false, rest)
  | '-' :: rest => (true, rest)
  | cs => (false, cs)

/-- The digits of a decimal whole number without leading zeros. -/
def wholeDigits? (cs : List Char) : Option (List Char) := do
  let digits ← plainDigits? Char.isDigit cs
  if digits.head? = some '0' ∧ 1 < digits.length then none else some digits

/-! ### Integers -/

/-- A digit of a base. -/
def isDigitOf (base : Nat) (c : Char) : Bool :=
  match hexDigit? c with
  | some d => d < base
  | none => false

/-- An integer that fits a signed word. -/
def signedWord? (n : Int) : Option Int :=
  if -9223372036854775808 ≤ n ∧ n < 9223372036854775808 then some n else none

/-- An integer in a base that a mark announces. -/
def basedInteger? (base : Nat) (cs : List Char) : Option Int := do
  let digits ← plainDigits? (isDigitOf base) cs
  let n ← digitsValue? base digits
  signedWord? n

/-- Read an integer. -/
def integer? : List Char → Option Int
  | '0' :: 'x' :: digits => basedInteger? 16 digits
  | '0' :: 'o' :: digits => basedInteger? 8 digits
  | '0' :: 'b' :: digits => basedInteger? 2 digits
  | cs => do
    let (negative, body) := splitSign cs
    let digits ← wholeDigits? body
    let n := Nat.ofDigitChars 10 digits 0
    signedWord? (if negative then -(n : Int) else n)

/-! ### Floats -/

/-- A decimal number rounds to infinity in double precision: it is at least the greatest finite
double and half a unit in its last place. The number is the value of the digits, the last `places`
of which are decimals, times ten to the given exponent. -/
def overflows (digits : List Char) (places : Nat) (exponent : Int) : Bool :=
  let m := Nat.ofDigitChars 10 digits 0
  let e := exponent - places
  let limit : Nat := Nat.pow 2 1024 - Nat.pow 2 970
  let size := (Nat.toDigits 10 m).length + e
  if m = 0 ∨ size < 300 then false
  else if size > 320 then true
  else if e ≥ 0 then m * Nat.pow 10 e.toNat ≥ limit
  else m ≥ limit * Nat.pow 10 (-e).toNat

/-- The exponent behind its letter: a signed row of digits. -/
def exponent? (cs : List Char) : Option Int := do
  let (negative, body) := splitSign cs
  let digits ← plainDigits? Char.isDigit body
  let n := Nat.ofDigitChars 10 digits 0
  return if negative then -(n : Int) else n

/-- The letter of an exponent. -/
def isExponentMark (c : Char) : Bool := c = 'e' || c = 'E'

/-- A float written in digits, with a fraction, an exponent, or both. -/
def isDecimalFloat (cs : List Char) : Bool :=
  let (negative, body) := splitSign cs
  let significand := body.takeWhile fun c => !isExponentMark c
  let exponentPart := body.dropWhile fun c => !isExponentMark c
  let whole := significand.takeWhile (· ≠ '.')
  let fraction := significand.dropWhile (· ≠ '.')
  let result : Option Bool := do
    let wholeDigits ← wholeDigits? whole
    let decimals ← match fraction with
      | [] => some []
      | _ :: decimals => plainDigits? Char.isDigit decimals
    let exponent ← match exponentPart with
      | [] => some 0
      | _ :: exponent => exponent? exponent
    if fraction = [] ∧ exponentPart = [] then none
    else return negative || !overflows (wholeDigits ++ decimals) decimals.length exponent
  result.getD false

/-- A float: in digits, infinity, or not a number. -/
def isFloat (cs : List Char) : Bool :=
  let (_, body) := splitSign cs
  body = "inf".toList || body = "nan".toList || isDecimalFloat cs

/-! ### Literals -/

/-- The value of a literal. -/
def scalar? (cs : List Char) : Option Value :=
  if cs = "true".toList then some (.bool true)
  else if cs = "false".toList then some (.bool false)
  else
    match Moment.parse? cs with
    | some m => some (.moment m)
    | none => if isFloat cs then some (.scalar (String.ofList cs)) else (integer? cs).map .int

end ElasticGroups.Data.Toml
