import ElasticGroups.Data.Toml.Reader

/-!
# Plain TOML tables

A TOML document may be kept as a table before it is known what it should hold. A table kept in
this way is *plain*: its moments are texts. It also knows a second spelling of a moment, a record
whose first field has a reserved name and holds the moment as a text; what else such a record
holds does not count. The fields of the document itself do not spell a moment.

## Main definitions

* `Toml.plain?`: the plain form of a value;
* `Toml.plainTable?`: the plain table that a document denotes.
-/

namespace ElasticGroups.Data.Toml

/-- The reserved name of the field that spells a moment. -/
def momentField : String := "$__toml_private_datetime"

/-- The value that is to spell a moment, if the fields of a record start with one. -/
def spelling? : List (String × Value) → Option Value
  | (name, v) :: _ => if name = momentField then some v else none
  | [] => none

/-- The plain form of a moment that a value spells. -/
def spelledMoment? : Value → Option Value
  | .text written => (Moment.parse? written.toList).map fun m => .text m.text
  | _ => none

mutual

/-- The plain form of a value. There is none when a record that is to spell a moment spells none. -/
def plain? : Value → Option Value
  | .moment m => some (.text m.text)
  | .list items => (plainItems? items).map .list
  | .record fields =>
    match spelling? fields with
    | some v => spelledMoment? v
    | none => (plainFields? fields).map .record
  | v => some v

/-- The plain forms of the items of a list. -/
def plainItems? : List Value → Option (List Value)
  | [] => some []
  | v :: rest => do return (← plain? v) :: (← plainItems? rest)

/-- The plain forms of the values of fields. -/
def plainFields? : List (String × Value) → Option (List (String × Value))
  | [] => some []
  | (name, v) :: rest => do return (name, ← plain? v) :: (← plainFields? rest)

end

/-- The plain table that a document denotes. -/
def plainTable? (text : String) : Option (List (String × Value)) :=
  (parse? text).bind plainFields?

end ElasticGroups.Data.Toml
