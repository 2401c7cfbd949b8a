import ElasticGroups.Data.Toml.Scalar
import ElasticGroups.Data.Toml.Table

/-!
# Reading TOML

A TOML document is a row of lines, each of which assigns a value to a key, opens a table, or is
blank, and may end with a comment. Line breaks of two characters count as one. The readers below
take what they read off the start of the text. Those that may call themselves are bounded by a
fuel that the length of the document provides; lists and inline tables are bounded in depth as
well.

## Main definitions

* `Toml.basicText?`, `Toml.literalText?`, `Toml.text?`: the four kinds of texts;
* `Toml.keys?`: dotted keys;
* `Toml.value?`: values;
* `Toml.parse?`: the fields of the record that a document denotes.
-/

namespace ElasticGroups.Data.Toml

open Text

/-! ### Characters -/

/-- Write every line break as one character. A lone carriage return stays. -/
def joinLineBreaks : List Char → List Char
  | [] => []
  | '\r' :: '\n' :: rest => '\n' :: joinLineBreaks rest
  | c :: rest => c :: joinLineBreaks rest

/-- A blank within a line. -/
def isSpacing (c : Char) : Bool := c = ' ' || c = '\t'

/-- A blank or a line break. -/
def isSpacingOrBreak (c : Char) : Bool := isSpacing c || c = '\n'

/-- A character that may stand in a comment or a text: no control but the tab. -/
def isPlain (c : Char) : Bool := c = '\t' || (0x20 ≤ c.toNat && c.toNat ≠ 0x7F)

/-- A character that may stand in a bare key. -/
def isKeyChar (c : Char) : Bool := c.isAlphanum || c = '_' || c = '-'

/-- Skip blanks within a line. -/
def skipSpacing (cs : List Char) : List Char := cs.dropWhile isSpacing

/-- Skip a comment, if there is one. -/
def skipComment : List Char → List Char
  | '#' :: rest => rest.dropWhile isPlain
  | cs => cs

/-- Skip blanks, line breaks and comments. -/
def skipGap : Nat → List Char → List Char
  | 0, cs => cs
  | fuel + 1, cs =>
    match cs.dropWhile isSpacingOrBreak with
    | '#' :: rest => skipGap fuel (rest.dropWhile isPlain)
    | rest => rest

/-! ### Texts -/

/-- The character with the code point that the given number of hexadecimal digits writes. -/
def codePoint? (digits : List Char) : Option Char := do
  let n ← digitsValue? 16 digits
  if h : n.isValidChar then some (Char.ofNatAux n h) else none

/-- Read an escape behind its backslash. -/
def escape? : List Char → Option (Char × List Char)
  | 'b' :: rest => some ('\x08', rest)
  | 't' :: rest => some ('\t', rest)
  | 'n' :: rest => some ('\n', rest)
  | 'f' :: rest => some ('\x0c', rest)
  | 'r' :: rest => some ('\r', rest)
  | '\x22' :: rest => some ('\x22', rest)
  | '\\' :: rest => some ('\\', rest)
  | 'u' :: rest => do
    if rest.length < 4 then none
    else return (← codePoint? (rest.take 4), rest.drop 4)
  | 'U' :: rest => do
    if rest.length < 8 then none
    else return (← codePoint? (rest.take 8), rest.drop 8)
  | _ => none

/-- Read a text with escapes, on one line, up to its closing mark. -/
def basicText? : Nat → List Char → Option (List Char × List Char)
  | 0, _ => none
  | _, [] => none
  | _, '\x22' :: rest => some ([], rest)
  | fuel + 1, '\\' :: rest => do
    let (c, rest) ← escape? rest
    let (cs, rest) ← basicText? fuel rest
    return (c :: cs, rest)
  | fuel + 1, c :: rest =>
    if isPlain c then (basicText? fuel rest).map fun (cs, rest) => (c :: cs, rest) else none

/-- Read a text without escapes, on one line, up to its closing mark. -/
def literalText? (cs : List Char) : Option (List Char × List Char) :=
  let isContent := fun c => isPlain c && c ≠ '\x27'
  match cs.dropWhile isContent with
  | '\x27' :: rest => some (cs.takeWhile isContent, rest)
  | _ => none

/-- The end of a text on several lines, behind three of its marks: up to two more marks belong to
the text. -/
def closeLong (mark : Char) (rest : List Char) : List Char × List Char :=
  let extra := min 2 (rest.takeWhile (· = mark)).length
  (List.replicate extra mark, rest.drop extra)

/-- Read a text with escapes, on several lines, up to its closing marks. A backslash at the end of
a line joins the line with the next one that is not blank. -/
def longBasicText? : Nat → List Char → Option (List Char × List Char)
  | 0, _ => none
  | _, [] => none
  | _, '\x22' :: '\x22' :: '\x22' :: rest => some (closeLong '\x22' rest)
  | fuel + 1, '\\' :: rest =>
    match skipSpacing rest with
    | '\n' :: next => longBasicText? fuel (next.dropWhile isSpacingOrBreak)
    | _ => do
      let (c, rest) ← escape? rest
      let (cs, rest) ← longBasicText? fuel rest
      return (c :: cs, rest)
  | fuel + 1, c :: rest =>
    if isPlain c || c = '\n' then
      (longBasicText? fuel rest).map fun (cs, rest) => (c :: cs, rest)
    else none

/-- Read a text without escapes, on several lines, up to its closing marks. -/
def longLiteralText? : List Char → Option (List Char × List Char)
  | [] => none
  | '\x27' :: '\x27' :: '\x27' :: rest => some (closeLong '\x27' rest)
  | c :: rest =>
    if isPlain c || c = '\n' then
      (longLiteralText? rest).map fun (cs, rest) => (c :: cs, rest)
    else none

/-- Skip a line break at the start of a text on several lines. -/
def skipFirstBreak : List Char → List Char
  | '\n' :: rest => rest
  | cs => cs

/-- Read a text of any kind, from its opening marks on. -/
def text? (fuel : Nat) : List Char → Option (List Char × List Char)
  | '\x22' :: '\x22' :: '\x22' :: rest => longBasicText? fuel (skipFirstBreak rest)
  | '\x27' :: '\x27' :: '\x27' :: rest => longLiteralText? (skipFirstBreak rest)
  | '\x22' :: rest => basicText? fuel rest
  | '\x27' :: rest => literalText? rest
  | _ => none

/-! ### Keys -/

/-- Read one key: bare, or a text on one line. -/
def key? (fuel : Nat) : List Char → Option (String × List Char)
  | '\x22' :: rest => (basicText? fuel rest).map fun (cs, rest) => (String.ofList cs, rest)
  | '\x27' :: rest => (literalText? rest).map fun (cs, rest) => (String.ofList cs, rest)
  | cs =>
    let key := cs.takeWhile isKeyChar
    if key.isEmpty then none else some (String.ofList key, cs.dropWhile isKeyChar)

/-- Read keys with dots between them, and the blanks around each of them. -/
def keys? : Nat → List Char → Option (List String × List Char)
  | 0, _ => none
  | fuel + 1, cs => do
    let (key, rest) ← key? fuel (skipSpacing cs)
    match skipSpacing rest with
    | '.' :: rest =>
      let (keys, rest) ← keys? fuel rest
      return (key :: keys, rest)
    | rest => return ([key], rest)

/-! ### Values -/

/-- Lists and inline tables are nested less deep than this, and dotted keys are shorter. -/
def maxDepth : Nat := 80

/-- A character of a literal. -/
def isLiteralChar (c : Char) : Bool :=
  c.isAlphanum || c = '_' || c = '+' || c = '-' || c = '.' || c = ':'

/-- Read a scalar without marks. A blank may stand between a date and a time. -/
def literal? (cs : List Char) : Option (Value × List Char) :=
  let literal := cs.takeWhile isLiteralChar
  let rest := cs.dropWhile isLiteralChar
  let joined := match rest with
    | ' ' :: more => literal ++ ' ' :: more.takeWhile isLiteralChar
    | _ => literal
  -- A date takes the word behind it along only if the two make a moment.
  match Moment.parse? literal, Moment.parse? joined with
  | some (.date _), some m => some (.moment m, cs.drop joined.length)
  | _, _ => (scalar? literal).map (·, rest)

/-- Assign values to keys one after the other, in an inline table. -/
def inlineTable? (pairs : List (List String × Value)) : Option Value := do
  let entries ← pairs.foldlM (fun entries pair => assign? pair.1 pair.2 entries) []
  return .record (Entries.toFields entries)

mutual

/-- Read a value inside the given number of lists and inline tables. -/
def value? (depth : Nat) : Nat → List Char → Option (Value × List Char)
  | 0, _ => none
  | fuel + 1, '[' :: rest =>
    if maxDepth ≤ depth + 1 then none
    else (items? (depth + 1) fuel (skipGap fuel rest)).map fun (items, rest) =>
      (.list items, rest)
  | fuel + 1, '\x7b' :: rest =>
    if maxDepth ≤ depth + 1 then none
    else do
      let (pairs, rest) ← match skipSpacing rest with
        | '\x7d' :: rest => some ([], rest)
        | rest => pairs? (depth + 1) fuel rest
      let table ← inlineTable? pairs
      return (table, rest)
  | fuel + 1, cs =>
    if cs.head? = some '\x22' ∨ cs.head? = some '\x27' then
      (text? fuel cs).map fun (content, rest) => (.text (String.ofList content), rest)
    else literal? cs

/-- Read the items of a list up to its end. A comma may follow the last one. -/
def items? (depth : Nat) : Nat → List Char → Option (List Value × List Char)
  | 0, _ => none
  | _, ']' :: rest => some ([], rest)
  | fuel + 1, cs => do
    let (v, rest) ← value? depth fuel cs
    match skipGap fuel rest with
    | ',' :: rest =>
      let (items, rest) ← items? depth fuel (skipGap fuel rest)
      return (v :: items, rest)
    | ']' :: rest => return ([v], rest)
    | _ => none

/-- Read the pairs of an inline table up to its end. -/
def pairs? (depth : Nat) : Nat → List Char → Option (List (List String × Value) × List Char)
  | 0, _ => none
  | fuel + 1, cs => do
    let (keys, v, rest) ← assignment? depth fuel cs
    match skipSpacing rest with
    | ',' :: rest =>
      let (pairs, rest) ← pairs? depth fuel rest
      return ((keys, v) :: pairs, rest)
    | '\x7d' :: rest => return ([(keys, v)], rest)
    | _ => none

/-- Read a pair of dotted keys and a value. -/
def assignment? (depth : Nat) : Nat → List Char → Option (List String × Value × List Char)
  | 0, _ => none
  | fuel + 1, cs => do
    let (keys, rest) ← keys? fuel cs
    match rest with
    | '=' :: rest =>
      let (v, rest) ← value? depth fuel (skipSpacing rest)
      if keys.length < maxDepth then return (keys, v, rest) else none
    | _ => none

end

/-! ### Lines -/

/-- What the lines read so far have built, and the path of the table that is open. -/
structure Draft where
  /-- The table of the whole document. -/
  root : Entries
  /-- The headers that lead to the open table. -/
  scope : List String
  deriving Inhabited

/-- Read the keys of a header up to its closing brackets. -/
def header? (fuel : Nat) (closing : List Char) (cs : List Char) :
    Option (List String × List Char) := do
  let (keys, rest) ← keys? fuel cs
  let rest ← closing.isPrefixOf? rest
  if keys.length < maxDepth then return (keys, rest) else none

/-- Read what a line holds in front of its comment. -/
def line? (fuel : Nat) (draft : Draft) : List Char → Option (Draft × List Char)
  | '[' :: '[' :: rest => do
    let (keys, rest) ← header? fuel [']', ']'] rest
    let root ← openItem? keys draft.root
    return (⟨root, keys⟩, rest)
  | '[' :: rest => do
    let (keys, rest) ← header? fuel [']'] rest
    let root ← openTable? keys draft.root
    return (⟨root, keys⟩, rest)
  | cs =>
    if cs.isEmpty || cs.head? = some '\n' || cs.head? = some '#' then some (draft, cs)
    else do
      let (keys, v, rest) ← assignment? 0 fuel cs
      let root ← assignIn? draft.scope keys v draft.root
      return ({ draft with root }, rest)

/-- Read lines up to the end of the document. -/
def lines? : Nat → Draft → List Char → Option Entries
  | 0, _, _ => none
  | fuel + 1, draft, cs => do
    let (draft, rest) ← line? fuel draft (skipSpacing cs)
    match skipComment (skipSpacing rest) with
    | [] => return draft.root
    | '\n' :: rest => lines? fuel draft rest
    | _ => none

/-- Remove a byte order mark at the start. -/
def skipByteOrderMark : List Char → List Char
  | '\uFEFF' :: rest => rest
  | cs => cs

/-- The fields of the record that a document denotes. Every reader takes a character off the text
whenever it calls itself, or goes one level up from there, so a fuel of a few units a character is
plenty. -/
def parse? (text : String) : Option (List (String × Value)) :=
  let cs := joinLineBreaks (skipByteOrderMark text.toList)
  (lines? (4 * cs.length + 8) ⟨[], []⟩ cs).map Entries.toFields

end ElasticGroups.Data.Toml
