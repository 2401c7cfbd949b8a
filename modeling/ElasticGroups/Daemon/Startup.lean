import ElasticGroups.Cloud.Snapshot
import ElasticGroups.Daemon.Options
import ElasticGroups.Data.Json.Writer
import ElasticGroups.Data.Toml.Plain
import ElasticGroups.Discovery.Catalog

/-!
# Startup

What happens before the daemon serves: the boot payload is checked, then the settings, then the
fixture is loaded, and one cycle of discovery runs. The first failure ends the daemon.

## Main definitions

* `Surroundings`: the variables and files that the daemon reads;
* `StartupError`: why it ends, with a message and a cause;
* `prepare`: the catalog and the store it starts with;
* `execute`: the outcome of a command line.
-/

namespace ElasticGroups.Daemon

open Boot Cloud Data Discovery

/-- The variables and files that the daemon reads. -/
structure Surroundings where
  /-- The value of a variable. -/
  lookup : String → Option String
  /-- The text of a file, or why it cannot be read. -/
  file : String → Except String String

/-- Why the daemon ends before it serves. -/
inductive StartupError
  /-- There is no boot payload. -/
  | payload (reason : PayloadError)
  /-- The configuration file cannot be read. -/
  | unreadableConfig (path reason : String)
  /-- The configuration file is no table. -/
  | malformedConfig
  /-- The table holds no settings. -/
  | undecodedConfig
  /-- A catalog cannot run with the settings. -/
  | settings (reason : SettingsError)
  /-- The fixture file cannot be read. -/
  | unreadableFixture (path reason : String)
  /-- The fixture file holds no fixture. -/
  | malformedFixture (path : String)
  /-- The first cycle failed. -/
  | discovery (command : Command) (reason : CatalogError)
  deriving DecidableEq, Repr, Inhabited

namespace StartupError

/-- What the daemon was doing. -/
def message : StartupError → String
  | payload _ => "invalid boot configuration"
  | unreadableConfig path _ => "reading config " ++ path
  | malformedConfig => "parsing config"
  | undecodedConfig => "invalid catalog config"
  | settings reason => reason.message
  | unreadableFixture path _ => "reading fixture " ++ path
  | malformedFixture path => "parsing fixture " ++ path
  | discovery (.run _) _ => "initial discovery failed"
  | discovery .validate _ => "discovery failed"

/-- What made it fail, where there is more to say. -/
def cause : StartupError → Option String
  | payload reason => some reason.message
  | unreadableConfig _ reason => some reason
  | unreadableFixture _ reason => some reason
  | discovery _ reason => some reason.message
  | _ => none

end StartupError

/-- Settings from an optional configuration file and an optional cluster name. -/
def readSettings (around : Surroundings) (config clusterName : Option String) :
    Except StartupError Settings := do
  let table ← match config with
    | none => pure none
    | some path =>
      match around.file path with
      | .error reason => throw (.unreadableConfig path reason)
      | .ok text =>
        match Toml.plainTable? text with
        | none => throw .malformedConfig
        | some fields => pure (some fields)
  match Settings.ofTable? table clusterName with
  | none => throw .undecodedConfig
  | some s => return s

/-- A store with the content of a fixture file. -/
def readFixture (around : Surroundings) (path : String) : Except StartupError Store :=
  match around.file path with
  | .error reason => .error (.unreadableFixture path reason)
  | .ok text =>
    match Snapshot.parse? text with
    | none => .error (.malformedFixture path)
    | some s => .ok (.ofSnapshot s)

/-- The catalog and the store that the daemon starts with. -/
def prepare (around : Surroundings) (options : Options) :
    Except StartupError (Catalog × Store) := do
  let payload ← (Payload.ofLookup around.lookup).mapError .payload
  let settings ← readSettings around options.config options.clusterName
  settings.validate.mapError .settings
  let store ← readFixture around options.fixture
  return (⟨settings, payload, {}⟩, store)

/-- The report on a node group. -/
def groupReport (g : Scaling.NodeGroup) : Value :=
  .record [("id", .text g.id), ("min_size", .nat g.bounds.min), ("max_size", .nat g.bounds.max),
    ("template", g.template.toValue)]

/-- The report on a cycle. -/
def cycleReport (c : Catalog) (summary : Summary) : Value :=
  .record [("provider", .text providerName), ("cluster", .text c.settings.clusterName),
    ("instances", .nat summary.instances), ("skipped", .nat summary.skipped),
    ("groups", .list (c.nodeGroups.map groupReport))]

/-- What comes of a command line. -/
inductive Outcome
  /-- The line is none. -/
  | misused
  /-- The daemon ends before it serves. -/
  | failed (error : StartupError)
  /-- The report is printed. -/
  | printed (text : String)
  /-- The daemon serves, running a cycle every so many seconds. -/
  | serving (catalog : Catalog) (store : Store) (refreshInterval : Nat)

/-- The outcome of a command line. -/
def execute (around : Surroundings) (words : List String) : Outcome :=
  match Options.parse? around.lookup words with
  | none => .misused
  | some options =>
    match prepare around options with
    | .error error => .failed error
    | .ok (catalog, store) =>
      let ((result, catalog), world) := catalog.refresh.run .bounded Store.respond ⟨store, .zero⟩
      match result with
      | .error reason => .failed (.discovery options.command reason)
      | .ok summary =>
        match options.command with
        | .validate => .printed (Json.pretty (cycleReport catalog summary).sorted ++ "\n")
        | .run refreshInterval => .serving catalog world.partner refreshInterval

end ElasticGroups.Daemon
