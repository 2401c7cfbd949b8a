import ElasticGroups.Text.Numeral

/-!
# Moments

A date of the calendar, a time of day, or both, with an offset from universal time or without.
Years have four digits, and a minute may have a leap second. A time is kept to the nanosecond:
further decimals are dropped.

A moment may be written in several ways: with `T`, `t` or a blank between its date and its time,
with zeros behind its decimals, or with `z` for universal time. `Moment.text` is the one way in
which it is written here.

## Main definitions

* `Date`, `TimeOfDay`, `Offset`, `Moment`: the parts and the whole;
* `Moment.parse?`, `Moment.text`: reading and writing.
-/

namespace ElasticGroups.Data

open Text

/-- A date. -/
structure Date where
  /-- The year. -/
  year : Nat
  /-- The month, counted from one. -/
  month : Nat
  /-- The day of the month, counted from one. -/
  day : Nat
  deriving DecidableEq, Repr, Inhabited

/-- A time of day. -/
structure TimeOfDay where
  /-- The full hours. -/
  hour : Nat
  /-- The full minutes of the hour. -/
  minute : Nat
  /-- The full seconds of the minute. -/
  second : Nat
  /-- The nanoseconds of the second. -/
  nanos : Nat
  deriving DecidableEq, Repr, Inhabited

/-- An offset from universal time. -/
inductive Offset
  /-- Universal time itself. -/
  | universal
  /-- A number of minutes ahead, or behind if it is negative. -/
  | ahead (minutes : Int)
  deriving DecidableEq, Repr, Inhabited

/-- A date, a time of day, or both. -/
inductive Moment
  /-- A date alone. -/
  | date (d : Date)
  /-- A time of day alone. -/
  | time (t : TimeOfDay)
  /-- A date and a time of day, with an offset or without. -/
  | dateTime (d : Date) (t : TimeOfDay) (offset : Option Offset)
  deriving DecidableEq, Repr, Inhabited

/-! ### Reading -/

namespace Moment

/-- Take a number of exactly `width` digits, in the given range, off the start of a text. -/
def field? (width least greatest : Nat) (cs : List Char) : Option (Nat × List Char) :=
  let digits := cs.take width
  let n := Nat.ofDigitChars 10 digits 0
  if digits.length = width ∧ digits.all Char.isDigit = true ∧ least ≤ n ∧ n ≤ greatest then
    some (n, cs.drop width)
  else none

/-- Take a character off the start of a text. -/
def mark? (c : Char) : List Char → Option (List Char)
  | [] => none
  | d :: rest => if d = c then some rest else none

/-- The number of days of a month. -/
def daysOfMonth (year month : Nat) : Nat :=
  if month = 2 then
    if year % 4 = 0 ∧ (year % 100 ≠ 0 ∨ year % 400 = 0) then 29 else 28
  else if month = 4 ∨ month = 6 ∨ month = 9 ∨ month = 11 then 30
  else 31

/-- Take a date of the calendar off the start of a text. -/
def date? (cs : List Char) : Option (Date × List Char) := do
  let (year, cs) ← field? 4 0 9999 cs
  let cs ← mark? '-' cs
  let (month, cs) ← field? 2 1 12 cs
  let cs ← mark? '-' cs
  let (day, cs) ← field? 2 1 (daysOfMonth year month) cs
  return (⟨year, month, day⟩, cs)

/-- The nanoseconds that the decimals of a second write. -/
def nanosOfDecimals (decimals : List Char) : Nat :=
  let shown := decimals.take 9
  Nat.ofDigitChars 10 (shown ++ List.replicate (9 - shown.length) '0') 0

/-- Take a time of day off the start of a text, with decimals of a second if there are any. -/
def time? (cs : List Char) : Option (TimeOfDay × List Char) := do
  let (hour, cs) ← field? 2 0 23 cs
  let cs ← mark? ':' cs
  let (minute, cs) ← field? 2 0 59 cs
  let cs ← mark? ':' cs
  let (second, cs) ← field? 2 0 60 cs
  -- A dot must be followed by a decimal.
  match cs with
  | '.' :: rest =>
    let decimals := rest.takeWhile Char.isDigit
    if decimals.isEmpty then none
    else return (⟨hour, minute, second, nanosOfDecimals decimals⟩, rest.dropWhile Char.isDigit)
  | cs => return (⟨hour, minute, second, 0⟩, cs)

/-- Read an offset from universal time, or nothing. -/
def offset? : List Char → Option (Option Offset)
  | [] => some none
  | [c] => if c = 'Z' ∨ c = 'z' then some (some .universal) else none
  | sign :: cs => do
    let (hours, cs) ← field? 2 0 23 cs
    let cs ← mark? ':' cs
    let (minutes, cs) ← field? 2 0 59 cs
    let size : Int := hours * 60 + minutes
    match sign, cs with
    | '+', [] => return some (.ahead size)
    | '-', [] => return some (.ahead (-size))
    | _, _ => none

/-- Read a moment. -/
def parse? (cs : List Char) : Option Moment :=
  match date? cs with
  | some (d, []) => some (.date d)
  | some (d, separator :: rest) => do
    if separator ≠ 'T' ∧ separator ≠ 't' ∧ separator ≠ ' ' then none
    else
      let (t, rest) ← time? rest
      return .dateTime d t (← offset? rest)
  | none =>
    match time? cs with
    | some (t, []) => some (.time t)
    | _ => none

end Moment

/-! ### Writing -/

/-- Write a date. -/
def Date.text (d : Date) : String :=
  padded 4 d.year ++ "-" ++ padded 2 d.month ++ "-" ++ padded 2 d.day

/-- Write a time of day, with as few decimals as show it. -/
def TimeOfDay.text (t : TimeOfDay) : String :=
  padded 2 t.hour ++ ":" ++ padded 2 t.minute ++ ":" ++ padded 2 t.second ++ fraction 9 t.nanos

/-- Write an offset. -/
def Offset.text : Offset → String
  | universal => "Z"
  | ahead minutes =>
    let sign := if minutes < 0 then "-" else "+"
    sign ++ padded 2 (minutes.natAbs / 60) ++ ":" ++ padded 2 (minutes.natAbs % 60)

/-- Write a moment. -/
def Moment.text : Moment → String
  | date d => d.text
  | time t => t.text
  | dateTime d t offset => d.text ++ "T" ++ t.text ++ (offset.map Offset.text).getD ""

example : (Moment.parse? "1979-05-27 07:32:00.500-00:30".toList).map Moment.text =
    some "1979-05-27T07:32:00.5-00:30" := by decide +kernel

end ElasticGroups.Data
