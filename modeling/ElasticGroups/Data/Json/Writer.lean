import ElasticGroups.Data.Value
import ElasticGroups.Text.Numeral

/-!
# Writing JSON

The compact form of a value, and the indented form with two blanks a level. In both, a text
escapes its marks, its backslashes and the controls below U+0020, and nothing else.

## Main definitions

* `Json.render`: the compact form;
* `Json.pretty`: the indented form.
-/

namespace ElasticGroups.Data.Json

open Text

/-- The form of a character inside a text. -/
def escape (c : Char) : String :=
  if c = '\x22' then "\\\""
  else if c = '\\' then "\\\\"
  else if c = '\x08' then "\\b"
  else if c = '\t' then "\\t"
  else if c = '\n' then "\\n"
  else if c = '\x0c' then "\\f"
  else if c = '\r' then "\\r"
  else if c.toNat < 0x20 then "\\u" ++ hexadecimal 4 c.toNat
  else String.singleton c

/-- A text between marks. -/
def quote (s : String) : String :=
  "\"" ++ String.join (s.toList.map escape) ++ "\""

/-- The form of a value that is neither list nor record. A moment is written as a text, and what
denotes no value as null. -/
def renderScalar : Value → String
  | .bool true => "true"
  | .bool false => "false"
  | .int n => toString n
  | .scalar literal => literal
  | .moment m => quote m.text
  | .text s => quote s
  | _ => "null"

mutual

/-- The compact form of a value. -/
def render : Value → String
  | .list items => "[" ++ ",".intercalate (renderItems items) ++ "]"
  | .record fields => "\x7b" ++ ",".intercalate (renderFields fields) ++ "\x7d"
  | v => renderScalar v

/-- The compact forms of the items of a list. -/
def renderItems : List Value → List String
  | [] => []
  | v :: rest => render v :: renderItems rest

/-- The compact forms of the fields of a record. -/
def renderFields : List (String × Value) → List String
  | [] => []
  | (name, v) :: rest => (quote name ++ ":" ++ render v) :: renderFields rest

end

/-- A line break and the indentation of a level. -/
def newline (level : Nat) : String :=
  "\n" ++ String.ofList (List.replicate (2 * level) ' ')

/-- Parts between two brackets, each on a line of its own. -/
def block (level : Nat) (opening closing : String) (parts : List String) : String :=
  if parts.isEmpty then opening ++ closing
  else opening ++ newline (level + 1) ++ ("," ++ newline (level + 1)).intercalate parts ++
    newline level ++ closing

mutual

/-- The indented form of a value at a level. -/
def prettyAt (level : Nat) : Value → String
  | .list items => block level "[" "]" (prettyItems (level + 1) items)
  | .record fields => block level "\x7b" "\x7d" (prettyFields (level + 1) fields)
  | v => renderScalar v

/-- The indented forms of the items of a list. -/
def prettyItems (level : Nat) : List Value → List String
  | [] => []
  | v :: rest => prettyAt level v :: prettyItems level rest

/-- The indented forms of the fields of a record. -/
def prettyFields (level : Nat) : List (String × Value) → List String
  | [] => []
  | (name, v) :: rest => (quote name ++ ": " ++ prettyAt level v) :: prettyFields level rest

end

/-- The indented form of a value. -/
def pretty (v : Value) : String := prettyAt 0 v

end ElasticGroups.Data.Json
