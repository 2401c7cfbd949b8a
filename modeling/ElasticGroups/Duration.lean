import ElasticGroups.Text.Blank
import ElasticGroups.Text.Numeral

/-!
# Durations

Spans of time in nanoseconds, and their two written forms. The *configured* form is what a
configuration file holds: a whole number of milliseconds, seconds or minutes. The *exact* form is
what messages show: the largest unit that fits, with all decimals.

## Main definitions

* `Duration`: a span of time;
* `Duration.parse?`, `Duration.format`: reading and writing the configured form;
* `Duration.exactText`: the exact form.
-/

namespace ElasticGroups

open Text

/-- A span of time. -/
structure Duration where
  /-- The length of the span in nanoseconds. -/
  nanos : Nat
  deriving DecidableEq, Repr, Inhabited

namespace Duration

/-- A number of whole seconds. -/
def ofSeconds (n : Nat) : Duration := ⟨n * 1000000000⟩

/-- A number of whole milliseconds. -/
def ofMillis (n : Nat) : Duration := ⟨n * 1000000⟩

/-- The empty span. -/
def zero : Duration := ⟨0⟩

/-- The sum of two spans. -/
def add (a b : Duration) : Duration := ⟨a.nanos + b.nanos⟩

/-- A span repeated a number of times. -/
def times (count : Nat) (d : Duration) : Duration := ⟨count * d.nanos⟩

instance : Add Duration := ⟨add⟩

/-- The whole seconds of a span. -/
def seconds (d : Duration) : Nat := d.nanos / 1000000000

/-- What a span has beyond its whole seconds, in nanoseconds. -/
def subsecondNanos (d : Duration) : Nat := d.nanos % 1000000000

/-- The whole milliseconds of a span. -/
def millis (d : Duration) : Nat := d.nanos / 1000000

@[simp] theorem nanos_add (a b : Duration) : (a + b).nanos = a.nanos + b.nanos := rfl

@[simp] theorem nanos_zero : zero.nanos = 0 := rfl

@[simp] theorem nanos_ofMillis (n : Nat) : (ofMillis n).nanos = n * 1000000 := rfl

@[simp] theorem nanos_ofSeconds (n : Nat) : (ofSeconds n).nanos = n * 1000000000 := rfl

/-! ### The configured form -/

/-- The units of the configured form with their lengths in nanoseconds. The first of them that
ends a text is the unit of the text. -/
def units : List (String × Nat) :=
  [("ms", 1000000), ("s", 1000000000), ("m", 60000000000)]

/-- A number of units, provided that its whole seconds fit a word. -/
def ofUnits? (unit n : Nat) : Option Duration :=
  let d : Duration := ⟨n * unit⟩
  if d.seconds < wordLimit then some d else none

/-- The unit that ends a text, with the text in front of it. -/
def splitUnit? (cs : List Char) : Option (List Char × Nat) :=
  units.findSome? fun unit => (unit.1.toList.isSuffixOf? cs).map (·, unit.2)

/-- Read the configured form: an unsigned number and a unit, blanks around either being ignored. A
number alone counts seconds. -/
def parse? (s : String) : Option Duration :=
  let cs := trimChars s.toList
  match splitUnit? cs with
  | some (number, unit) => (unsigned? (trimChars number)).bind (ofUnits? unit)
  | none => (unsigned? cs).bind (ofUnits? 1000000000)

/-- Write the configured form: in milliseconds if the span has some beyond its whole seconds, in
seconds otherwise. What is shorter than a millisecond is cut off. -/
def format (d : Duration) : String :=
  if d.subsecondNanos / 1000000 ≠ 0 then toString d.millis ++ "ms"
  else toString d.seconds ++ "s"

/-! ### The exact form -/

/-- A decimal number: its whole part, and its decimals, `places` digits of which count. -/
def decimalText (whole decimals places : Nat) : String :=
  toString whole ++ fraction places decimals

/-- Write the exact form: in seconds from one second on, else in milliseconds from one millisecond
on, else in microseconds from one microsecond on, else in nanoseconds. -/
def exactText (d : Duration) : String :=
  if d.nanos ≥ 1000000000 then decimalText d.seconds d.subsecondNanos 9 ++ "s"
  else if d.nanos ≥ 1000000 then decimalText (d.nanos / 1000000) (d.nanos % 1000000) 6 ++ "ms"
  else if d.nanos ≥ 1000 then decimalText (d.nanos / 1000) (d.nanos % 1000) 3 ++ "µs"
  else toString d.nanos ++ "ns"

example : (ofMillis 1500).exactText = "1.5s" ∧ (ofMillis 250).exactText = "250ms" ∧
    zero.exactText = "0ns" := by decide +kernel

end Duration

end ElasticGroups
