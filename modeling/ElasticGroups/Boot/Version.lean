import ElasticGroups.Text.Numeral
import ElasticGroups.Text.Quoted

/-!
# Versions

Semantic versions: three numbers with dots between them, then the identifiers of a pre-release
behind a hyphen, then those of the build behind a plus sign, the last two parts being optional.
Numbers have no leading zeros and fit a word. The text of a version determines it, and the other
way round.

## Main definitions

* `Version`, `Version.text`: a version and its text;
* `VersionError`, `VersionError.message`: why a text is no version;
* `Version.parse`: reading a text from left to right, stopping at the first fault.
-/

namespace ElasticGroups.Boot

open Text

/-- The parts of a version. -/
inductive VersionPart
  | major
  | minor
  | patch
  | preRelease
  | build
  deriving DecidableEq, Repr, Inhabited

/-- The words for a part. -/
def VersionPart.label : VersionPart → String
  | major => "major version number"
  | minor => "minor version number"
  | patch => "patch version number"
  | preRelease => "pre-release identifier"
  | build => "build metadata"

/-- Why a text is no version. -/
inductive VersionError
  /-- The text is empty. -/
  | empty
  /-- A number has a zero in front of its first digit. -/
  | leadingZero (part : VersionPart)
  /-- A number does not fit a word. -/
  | overflow (part : VersionPart)
  /-- A part starts with a wrong character. -/
  | unexpectedChar (part : VersionPart) (c : Char)
  /-- A part is followed by a wrong character. -/
  | unexpectedAfter (part : VersionPart) (c : Char)
  /-- The text ends within or behind a part. -/
  | unexpectedEnd (part : VersionPart)
  /-- An identifier is empty. -/
  | emptySegment (part : VersionPart)
  deriving DecidableEq, Repr, Inhabited

/-- The fault in words. -/
def VersionError.message : VersionError → String
  | empty => "empty string, expected a semver version"
  | leadingZero part => "invalid leading zero in " ++ part.label
  | overflow part => "value of " ++ part.label ++ " exceeds u64::MAX"
  | unexpectedChar part c =>
    "unexpected character " ++ quoteChar c ++ " while parsing " ++ part.label
  | unexpectedAfter part c => "unexpected character " ++ quoteChar c ++ " after " ++ part.label
  | unexpectedEnd part => "unexpected end of input while parsing " ++ part.label
  | emptySegment part => "empty identifier segment in " ++ part.label

/-- A semantic version. -/
structure Version where
  /-- The major number. -/
  major : Nat
  /-- The minor number. -/
  minor : Nat
  /-- The patch number. -/
  patch : Nat
  /-- The identifiers of the pre-release; none in a release. -/
  preRelease : List (List Char)
  /-- The identifiers of the build; none without build metadata. -/
  build : List (List Char)
  deriving DecidableEq, Repr, Inhabited

namespace Version

/-- Identifiers with dots between them, behind a mark; nothing if there are none. -/
def identifiersText (mark : Char) (identifiers : List (List Char)) : List Char :=
  if identifiers = [] then [] else mark :: List.intercalate ['.'] identifiers

/-- The text of a version. -/
def text (v : Version) : String :=
  String.ofList (Nat.toDigits 10 v.major ++ '.' :: Nat.toDigits 10 v.minor ++
    '.' :: Nat.toDigits 10 v.patch ++ identifiersText '-' v.preRelease ++
    identifiersText '+' v.build)

/-- The characters of identifiers. -/
def isIdentifierChar (c : Char) : Bool := c.isAlphanum || c = '-'

/-- Read a number at the start of a text. -/
def number (part : VersionPart) (cs : List Char) : Except VersionError (Nat × List Char) :=
  let digits := cs.takeWhile Char.isDigit
  let rest := cs.dropWhile Char.isDigit
  match digits with
  | [] => match rest with
    | [] => .error (.unexpectedEnd part)
    | c :: _ => .error (.unexpectedChar part c)
  | d :: more =>
    if d = '0' ∧ more ≠ [] then .error (.leadingZero part)
    else
      let n := Nat.ofDigitChars 10 digits 0
      if n < wordLimit then .ok (n, rest) else .error (.overflow part)

/-- Take the dot behind a part. -/
def dot (part : VersionPart) : List Char → Except VersionError (List Char)
  | [] => .error (.unexpectedEnd part)
  | c :: rest => if c = '.' then .ok rest else .error (.unexpectedAfter part c)

/-- Close an identifier. One of a pre-release that is a number has no leading zero. -/
def closeIdentifier (part : VersionPart) (identifier : List Char) :
    Except VersionError (List Char) :=
  if identifier = [] then .error (.emptySegment part)
  else if part = .preRelease ∧ identifier.all Char.isDigit = true ∧ 1 < identifier.length ∧
      identifier.head? = some '0' then
    .error (.leadingZero part)
  else .ok identifier

/-- Read identifiers with dots between them at the start of a text, the first of them being read
already up to some point. -/
def identifiers (part : VersionPart) (current : List Char) :
    List Char → Except VersionError (List (List Char) × List Char)
  | [] => do
    let identifier ← closeIdentifier part current
    return ([identifier], [])
  | c :: rest =>
    if isIdentifierChar c then identifiers part (current ++ [c]) rest
    else do
      let identifier ← closeIdentifier part current
      if c = '.' then
        let (more, rest) ← identifiers part [] rest
        return (identifier :: more, rest)
      else return ([identifier], c :: rest)

/-- Read the identifiers behind a mark, if the text starts with it. -/
def optionalIdentifiers (part : VersionPart) (mark : Char) (cs : List Char) :
    Except VersionError (List (List Char) × List Char) :=
  match cs with
  | [] => .ok ([], [])
  | c :: rest => if c = mark then identifiers part [] rest else .ok ([], c :: rest)

/-- The last part of a version that was read. -/
def lastPart (preRelease build : List (List Char)) : VersionPart :=
  if build ≠ [] then .build else if preRelease ≠ [] then .preRelease else .patch

/-- Read a version from left to right. -/
def parse (s : String) : Except VersionError Version := do
  if s = "" then throw .empty
  let (major, rest) ← number .major s.toList
  let rest ← dot .major rest
  let (minor, rest) ← number .minor rest
  let rest ← dot .minor rest
  let (patch, rest) ← number .patch rest
  let (preRelease, rest) ← optionalIdentifiers .preRelease '-' rest
  let (build, rest) ← optionalIdentifiers .build '+' rest
  match rest with
  | [] => return { major, minor, patch, preRelease, build }
  | c :: _ => throw (.unexpectedAfter (lastPart preRelease build) c)

end Version

end ElasticGroups.Boot
