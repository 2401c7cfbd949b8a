import ElasticGroups.Data.Moment

/-!
# Document values

The tree that a configuration or fixture document denotes, whatever the notation it was written
in. Records keep their fields in order and may repeat a name: what a repetition means is for the
reader of the record to say.

## Main definitions

* `Value`: the tree;
* `Value.sorted`: the same tree with the fields of every record in the order of their names.
-/

namespace ElasticGroups.Data

/-- What a document denotes. -/
inductive Value
  /-- The absent value. -/
  | null
  /-- A truth value. -/
  | bool (flag : Bool)
  /-- A number written as an integer. -/
  | int (number : Int)
  /-- Any other number by its literal: with a fraction or an exponent, or a negative zero. -/
  | scalar (literal : String)
  /-- A date, a time of day, or both. -/
  | moment (m : Moment)
  /-- A text. -/
  | text (content : String)
  /-- What is written like a value but denotes none: a text literal that escapes an unpaired
  surrogate, or a record with such a name. -/
  | illFormed
  /-- A list. -/
  | list (items : List Value)
  /-- A record with its fields in order. -/
  | record (fields : List (String × Value))
  deriving Repr, Inhabited, BEq

namespace Value

/-- A natural number. -/
abbrev nat (n : Nat) : Value := .int n

/-- A text that may be absent. -/
def textOrNull : Option String → Value
  | none => .null
  | some s => .text s

/-- A natural number that may be absent. -/
def natOrNull : Option Nat → Value
  | none => .null
  | some n => .nat n

/-- A list of texts. -/
def texts (items : List String) : Value := .list (items.map .text)

mutual

/-- The same tree with the fields of every record in the order of their names. -/
def sorted : Value → Value
  | .list items => .list (sortedItems items)
  | .record fields => .record ((sortedFields fields).mergeSort fun a b => a.1 ≤ b.1)
  | v => v

/-- Sort every item of a list. -/
def sortedItems : List Value → List Value
  | [] => []
  | v :: rest => v.sorted :: sortedItems rest

/-- Sort the value of every field. -/
def sortedFields : List (String × Value) → List (String × Value)
  | [] => []
  | (name, v) :: rest => (name, v.sorted) :: sortedFields rest

end

end Value

end ElasticGroups.Data
