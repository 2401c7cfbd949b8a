import ElasticGroups.Text.Numeral

/-!
# Command line

The two commands of the daemon and their options. Every option takes a value, given as a word of
its own or behind an equals sign, and may be given once. An option that is not given takes its
value from a variable, if the variable is set.

## Main definitions

* `Command`, `Options`: what the command line asks for;
* `Options.parse?`: reading it.
-/

namespace ElasticGroups.Daemon

open Text

/-- What the daemon is asked to do. -/
inductive Command
  /-- Run cycles at a pace of so many seconds until interrupted. -/
  | run (refreshInterval : Nat)
  /-- Run one cycle and print the groups. -/
  | validate
  deriving DecidableEq, Repr, Inhabited

/-- What the command line asks for. -/
structure Options where
  /-- The command. -/
  command : Command
  /-- The name of the cluster, which overrides the one in the configuration file. -/
  clusterName : Option String
  /-- The configuration file. -/
  config : Option String
  /-- The fixture file. -/
  fixture : String
  deriving DecidableEq, Repr, Inhabited

/-- The options of all commands with their variables. -/
def commonOptions : List (String × String) :=
  [("--cluster-name", "GROUPSCALE_CLUSTER_NAME"), ("--config", "GROUPSCALE_CONFIG"),
   ("--fixture", "GROUPSCALE_FIXTURE")]

/-- The option of the pace with its variable. -/
def paceOption : String × String := ("--refresh-interval", "GROUPSCALE_REFRESH_INTERVAL")

/-- The pace without an option. -/
def defaultPace : String := "60"

/-- A word that stands for itself and not for an option. -/
def isPlainWord (word : String) : Bool :=
  match word.toList with
  | '-' :: _ :: _ => false
  | _ => true

/-- An option with its value behind an equals sign. -/
def splitOption? (word : String) : Option (String × String) :=
  match word.toList.dropWhile (· ≠ '=') with
  | [] => none
  | _ :: v => some (String.ofList (word.toList.takeWhile (· ≠ '=')), String.ofList v)

/-- Put an option and its value in front of those given so far. -/
def giveOption? (known : List String) (name v : String) (given : List (String × String)) :
    Option (List (String × String)) :=
  if known.contains name && (given.lookup name).isNone then some ((name, v) :: given) else none

/-- Read the words behind the command. -/
def readOptions? (known : List String) (given : List (String × String)) :
    List String → Option (List (String × String))
  | [] => some given
  | [word] => do
    let (name, v) ← splitOption? word
    giveOption? known name v given
  | word :: next :: rest =>
    match splitOption? word with
    | some (name, v) => (giveOption? known name v given).bind (readOptions? known · (next :: rest))
    | none =>
      if isPlainWord next then
        (giveOption? known word next given).bind (readOptions? known · rest)
      else none

/-- A path must not be empty. -/
def path? (s : String) : Option String := if s = "" then none else some s

namespace Options

/-- Read a command line, given the values of variables. Nothing is returned for a line that is
none. -/
def parse? (lookup : String → Option String) : List String → Option Options
  | [] => none
  | commandWord :: words => do
    let options ←
      if commandWord = "run" then some (commonOptions ++ [paceOption])
      else if commandWord = "validate" then some commonOptions
      else none
    let given ← readOptions? (options.map (·.1)) [] words
    let valueOf := fun (option : String × String) =>
      (given.lookup option.1).orElse fun _ => lookup option.2
    let clusterName := valueOf ("--cluster-name", "GROUPSCALE_CLUSTER_NAME")
    let config ← match valueOf ("--config", "GROUPSCALE_CONFIG") with
      | none => some none
      | some path => (path? path).map some
    let fixture ← (valueOf ("--fixture", "GROUPSCALE_FIXTURE")).bind path?
    let command ←
      if commandWord = "run" then
        (unsigned? ((valueOf paceOption).getD defaultPace).toList).map Command.run
      else some .validate
    return { command, clusterName, config, fixture }

end Options

end ElasticGroups.Daemon
