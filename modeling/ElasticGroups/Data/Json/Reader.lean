import ElasticGroups.Data.Json.Token

/-!
# Reading JSON

A push-down automaton over tokens. Its state says what may come next and holds the lists and
records that are still open, innermost first, so a text of any depth is read in one pass.

## Main definitions

* `Json.State`, `Json.State.next?`: the automaton;
* `Json.parse?`: the value of a text that holds one value and nothing else.
-/

namespace ElasticGroups.Data.Json

/-- A field of a record, whose name may be ill-formed. -/
abbrev Field := Option String × Value

/-- The value of a record. One ill-formed name makes the record ill-formed. -/
def recordOf (fields : List Field) : Value :=
  match fields.mapM fun field => field.1.map (·, field.2) with
  | some fields => .record fields
  | none => .illFormed

/-- An open list or record, with what it holds already in reverse. -/
inductive Frame
  | list (before : List Value)
  | record (before : List Field) (name : Option String)
  deriving Repr, Inhabited

/-- What the automaton expects next, inside the open frames. -/
inductive State
  /-- A value. -/
  | value (frames : List Frame)
  /-- The first item of a list, or its end. -/
  | firstItem (frames : List Frame)
  /-- The first name of a record, or its end. -/
  | firstName (frames : List Frame)
  /-- A further name of a record. -/
  | furtherName (frames : List Frame) (before : List Field)
  /-- The colon behind a name. -/
  | colon (frames : List Frame) (before : List Field) (name : Option String)
  /-- What follows a complete value. -/
  | complete (frames : List Frame) (v : Value)
  deriving Repr, Inhabited

namespace State

/-- Start a value. -/
def start? (frames : List Frame) : Token → Option State
  | .scalar v => some (.complete frames v)
  | .openList => some (.firstItem frames)
  | .openRecord => some (.firstName frames)
  | _ => none

/-- The name that a text literal gives to a field. -/
def name? : Value → Option (Option String)
  | .text name => some (some name)
  | .illFormed => some none
  | _ => none

/-- Take one token. -/
def next? : State → Token → Option State
  | .value frames, token => start? frames token
  | .firstItem frames, .closeList => some (.complete frames (.list []))
  | .firstItem frames, token => start? (.list [] :: frames) token
  | .firstName frames, .closeRecord => some (.complete frames (.record []))
  | .firstName frames, .scalar v => (name? v).map (.colon frames [] ·)
  | .furtherName frames before, .scalar v => (name? v).map (.colon frames before ·)
  | .colon frames before name, .colon => some (.value (.record before name :: frames))
  | .complete (.list before :: frames) v, .comma => some (.value (.list (v :: before) :: frames))
  | .complete (.list before :: frames) v, .closeList =>
    some (.complete frames (.list (v :: before).reverse))
  | .complete (.record before name :: frames) v, .comma =>
    some (.furtherName frames ((name, v) :: before))
  | .complete (.record before name :: frames) v, .closeRecord =>
    some (.complete frames (recordOf ((name, v) :: before).reverse))
  | _, _ => none

end State

/-- The value of a text that holds one value and nothing else. -/
def parse? (s : String) : Option Value := do
  let tokens ← tokens? s.toList
  match ← tokens.foldlM State.next? (.value []) with
  | .complete [] v => some v
  | _ => none

end ElasticGroups.Data.Json
