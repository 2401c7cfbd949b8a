import ElasticGroups.Text.Quoted

/-!
# Outlines

The one-line outline of a record: its name and its fields in order, each with its value already
written. An outline that leaves fields out says so with two dots at its end.

## Main definitions

* `Outline`, `Outline.render`: the outline and its text;
* `outlineOption`: the form of a text that may be absent.
-/

namespace ElasticGroups.Text

/-- A record as its outline shows it. -/
structure Outline where
  /-- The name of the record. -/
  name : String
  /-- The shown fields, each with its value in written form. -/
  fields : List (String × String)
  /-- Whether the outline shows all fields. -/
  complete : Bool := true

/-- The text of an outline. -/
def Outline.render (outline : Outline) : String :=
  let shown := outline.fields.map fun field => field.1 ++ ": " ++ field.2
  let parts := if outline.complete then shown else shown ++ [".."]
  outline.name ++ " \x7b " ++ ", ".intercalate parts ++ " \x7d"

/-- A text that may be absent. -/
def outlineOption : Option String → String
  | none => "None"
  | some s => "Some(" ++ quoteText s ++ ")"

end ElasticGroups.Text
