import ElasticGroups.Data.Value
import ElasticGroups.Text.Numeral

/-!
# Decoding document values

Readers of the parts of a typed record. A record may be written in two ways: as a record, whose
fields may stand in any order, or as a list of its fields in their declared order, the last of
which may be left off. In a record unknown fields are ignored, repeated or not, but a known field
must not be given twice. A default stands for a missing field only. A moment that stands where a
record should is one without known fields.

An enumeration of names is written as a text, or as a record of one field whose value carries
nothing. What carries nothing, and whether a list of fields may go on behind the last declared
one, depends on the source of the value.

## Main definitions

* `Value.text?`, `Value.word?`, `Value.listOf?`, `Value.orNull?`, `Value.name?`: readers of values;
* `Value.fields?`: the fields of a record in either way of writing it;
* `Convention`: what depends on the source, with `Convention.json`, `Convention.toml` and
  `Convention.plainTable`;
* `required?`, `optional?`: readers of one field.
-/

namespace ElasticGroups.Data

open Text

namespace Value

/-- Read a text. -/
def text? : Value → Option String
  | .text s => some s
  | _ => none

/-- Read a natural number of one word, which must be written as an integer. -/
def word? : Value → Option Nat
  | .int n => if 0 ≤ n ∧ n < wordLimit then some n.toNat else none
  | _ => none

/-- Read a list, given a reader of its items. -/
def listOf? {α : Type} (item : Value → Option α) : Value → Option (List α)
  | .list items => items.mapM item
  | _ => none

/-- Read a value that may be null. -/
def orNull? {α : Type} (present : Value → Option α) : Value → Option (Option α)
  | .null => some none
  | v => (present v).map some

/-- In a notation with a null, null carries nothing. -/
def isNull : Value → Bool
  | .null => true
  | _ => false

/-- In a notation without a null, an empty list or record carries nothing. -/
def isEmpty : Value → Bool
  | .list [] => true
  | .record [] => true
  | _ => false

/-- Read a name of an enumeration, given the values that carry nothing. -/
def name? (carriesNothing : Value → Bool) : Value → Option String
  | .text s => some s
  | .record [(name, v)] => if carriesNothing v then some name else none
  | _ => none

/-- The fields of a record with the given declared names. -/
def fields? (names : List String) : Value → Option (List (String × Value))
  | .record fields =>
    if names.all fun name => (fields.map (·.1)).count name ≤ 1 then some fields else none
  | .list items => if items.length ≤ names.length then some (names.zip items) else none
  | .moment _ => some []
  | _ => none

/-- A list without the items behind a number of them. -/
def clip (count : Nat) : Value → Value
  | .list items => .list (items.take count)
  | v => v

end Value

/-- How the source of a value writes typed records and enumerations. -/
structure Convention where
  /-- The values that carry nothing. -/
  carriesNothing : Value → Bool
  /-- A list of fields may go on behind the last declared one. -/
  clipsLists : Bool

namespace Convention

/-- The convention of a JSON document. -/
def json : Convention := ⟨Value.isNull, false⟩

/-- The convention of a TOML document that is read for the record it holds. -/
def toml : Convention := ⟨Value.isEmpty, true⟩

/-- The convention of a TOML document that was kept as a plain table before. -/
def plainTable : Convention := ⟨Value.isEmpty, false⟩

/-- The fields of a record with the given declared names. -/
def fields? (convention : Convention) (names : List String) (v : Value) :
    Option (List (String × Value)) :=
  (if convention.clipsLists then v.clip names.length else v).fields? names

end Convention

/-- Read a field that must be present. -/
def required? {α : Type} (fields : List (String × Value)) (name : String)
    (read : Value → Option α) : Option α :=
  (fields.lookup name).bind read

/-- Read a field that has a default. -/
def optional? {α : Type} (fields : List (String × Value)) (name : String) (default : α)
    (read : Value → Option α) : Option α :=
  match fields.lookup name with
  | none => some default
  | some v => read v

end ElasticGroups.Data
