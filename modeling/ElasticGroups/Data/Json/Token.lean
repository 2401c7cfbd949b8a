import ElasticGroups.Data.Value
import ElasticGroups.Text.Numeral

/-!
# JSON tokens

The tokens of a strict JSON text: no comments, no raw control characters inside a text, no
leading zeros, no signs but the minus.

A text literal is first taken apart into code units. Those that were written as surrogate escapes
are paired afterwards; a literal with an unpaired one is a token, but denotes no text.

## Main definitions

* `Json.Token`: the tokens;
* `Json.tokens?`: the tokens of a text.
-/

namespace ElasticGroups.Data.Json

open Text

/-- A token of a JSON text. -/
inductive Token
  | openRecord
  | closeRecord
  | openList
  | closeList
  | colon
  | comma
  /-- A scalar, which is a whole value. -/
  | scalar (v : Value)
  deriving Repr, Inhabited

/-- The blanks between tokens. -/
def isGap (c : Char) : Bool :=
  c = ' ' || c = '\n' || c = '\r' || c = '\t'

/-! ### Text literals -/

/-- The character that a one-letter escape stands for. -/
def escaped? : Char → Option Char
  | '\x22' => some '\x22'
  | '\\' => some '\\'
  | '/' => some '/'
  | 'b' => some '\x08'
  | 'f' => some '\x0c'
  | 'n' => some '\n'
  | 'r' => some '\r'
  | 't' => some '\t'
  | _ => none

/-- The code units of a text literal behind its opening mark, and what follows its closing mark. -/
def scanUnits : List Char → Option (List Nat × List Char)
  | [] => none
  | '\\' :: 'u' :: a :: b :: c :: d :: rest => do
    let unit ← digitsValue? 16 [a, b, c, d]
    let (units, rest) ← scanUnits rest
    return (unit :: units, rest)
  | '\\' :: e :: rest => do
    let c ← escaped? e
    let (units, rest) ← scanUnits rest
    return (c.toNat :: units, rest)
  | c :: rest =>
    if c = '\x22' then some ([], rest)
    else if c.toNat < 0x20 || c = '\\' then none
    else do
      let (units, rest) ← scanUnits rest
      return (c.toNat :: units, rest)

/-- A leading surrogate. -/
def isHigh (unit : Nat) : Bool := 0xD800 ≤ unit && unit < 0xDC00

/-- A trailing surrogate. -/
def isLow (unit : Nat) : Bool := 0xDC00 ≤ unit && unit < 0xE000

/-- The characters of a sequence of code units, in which every surrogate must belong to a pair. -/
def joinUnits? : List Nat → Option (List Char)
  | [] => some []
  | [unit] => if isHigh unit || isLow unit then none else some [Char.ofNat unit]
  | high :: low :: rest =>
    if isHigh high then
      if isLow low then
        (joinUnits? rest).map (Char.ofNat (0x10000 + (high - 0xD800) * 0x400 + (low - 0xDC00)) :: ·)
      else none
    else if isLow high then none
    else (joinUnits? (low :: rest)).map (Char.ofNat high :: ·)

/-- The value of the code units of a text literal. -/
def textOfUnits (units : List Nat) : Value :=
  match joinUnits? units with
  | some cs => .text (String.ofList cs)
  | none => .illFormed

/-! ### Numbers and words -/

/-- The characters that occur in numbers. -/
def isNumberChar (c : Char) : Bool :=
  c.isDigit || c = '+' || c = '-' || c = '.' || c = 'e' || c = 'E'

/-- One or more digits. -/
def isDigits (cs : List Char) : Bool := !cs.isEmpty && cs.all Char.isDigit

/-- An exponent, from its letter on. -/
def isExponent : List Char → Bool
  | e :: '+' :: digits => (e = 'e' || e = 'E') && isDigits digits
  | e :: '-' :: digits => (e = 'e' || e = 'E') && isDigits digits
  | e :: digits => (e = 'e' || e = 'E') && isDigits digits
  | [] => false

/-- What may follow the whole part of a number that is not an integer: a fraction, an exponent, or
both. -/
def isFraction : List Char → Bool
  | '.' :: cs =>
    let exponent := cs.dropWhile Char.isDigit
    isDigits (cs.takeWhile Char.isDigit) && (exponent.isEmpty || isExponent exponent)
  | cs => isExponent cs

/-- Read a number. A negative zero is no integer. -/
def number? (cs : List Char) : Option Value :=
  let (negative, body) := match cs with
    | '-' :: body => (true, body)
    | body => (false, body)
  let whole := body.takeWhile Char.isDigit
  let rest := body.dropWhile Char.isDigit
  if whole.isEmpty || (whole.head? = some '0' && whole.length > 1) then none
  else
    let n := Nat.ofDigitChars 10 whole 0
    if rest.isEmpty then
      if negative then
        if n = 0 then some (.scalar (String.ofList cs)) else some (.int (-(n : Int)))
      else some (.int n)
    else if isFraction rest then some (.scalar (String.ofList cs))
    else none

/-- Read one of the three words. -/
def word? (cs : List Char) : Option Value :=
  if cs = "null".toList then some .null
  else if cs = "true".toList then some (.bool true)
  else if cs = "false".toList then some (.bool false)
  else none

/-! ### Tokens -/

/-- The token that starts with the given character, and what follows it. -/
def token? (c : Char) (rest : List Char) : Option (Token × List Char) :=
  if c = '\x7b' then some (.openRecord, rest)
  else if c = '\x7d' then some (.closeRecord, rest)
  else if c = '[' then some (.openList, rest)
  else if c = ']' then some (.closeList, rest)
  else if c = ':' then some (.colon, rest)
  else if c = ',' then some (.comma, rest)
  else if c = '\x22' then (scanUnits rest).map fun (units, rest) =>
    (.scalar (textOfUnits units), rest)
  else if c.isAlpha then
    (word? (c :: rest.takeWhile Char.isAlpha)).map fun v =>
      (.scalar v, rest.dropWhile Char.isAlpha)
  else
    (number? (c :: rest.takeWhile isNumberChar)).map fun v =>
      (.scalar v, rest.dropWhile isNumberChar)

/-- The tokens of a text, in reverse, in front of those already read. The fuel bounds their
number. -/
def tokensFrom? : Nat → List Token → List Char → Option (List Token)
  | _, read, [] => some read
  | 0, _, _ :: _ => none
  | fuel + 1, read, c :: rest =>
    if isGap c then tokensFrom? fuel read rest
    else match token? c rest with
      | some (token, rest) => tokensFrom? fuel (token :: read) rest
      | none => none

/-- The tokens of a text. A text has no more tokens than characters. -/
def tokens? (cs : List Char) : Option (List Token) :=
  (tokensFrom? cs.length [] cs).map List.reverse

end ElasticGroups.Data.Json
