import ElasticGroups.Data.Decode
import ElasticGroups.Session.Poll

/-!
# Settings of discovery

What a catalog is told about its cluster: the name that marks the groups of the cluster, the
prefix for the names of new instances, what to do when members disagree, and how to wait for the
provider.

## Main definitions

* `ConflictPolicy`, `Settings`: the settings;
* `Settings.validate`: whether a catalog can run with them;
* `Settings.toValue`, `Settings.ofValue?`: their document form;
* `Settings.ofTable?`: settings from an optional file and an optional cluster name.
-/

namespace ElasticGroups

open Data Text

namespace Convergence

/-- The document form: both durations in the configured form. -/
def toValue (c : Convergence) : Value :=
  .record [("interval", .text c.interval.format), ("timeout", .text c.timeout.format)]

/-- Read a duration, which must be a text. -/
def durationOfValue? (v : Value) : Option Duration := v.text?.bind Duration.parse?

/-- Read a convergence; missing fields have the values of the default one. -/
def ofValue? (convention : Convention) (v : Value) : Option Convergence := do
  let fields ← convention.fields? ["interval", "timeout"] v
  let interval ← optional? fields "interval" (.ofSeconds 1) durationOfValue?
  let timeout ← optional? fields "timeout" (.ofSeconds 30) durationOfValue?
  return { interval, timeout }

end Convergence

namespace Discovery

/-- What to do when two members report different values of the same standing. -/
inductive ConflictPolicy
  /-- The group gets no template. -/
  | reject
  /-- The value seen first stays. -/
  | keepFirst
  deriving DecidableEq, Repr, Inhabited

namespace ConflictPolicy

/-- The word for a policy. -/
def label : ConflictPolicy → String
  | reject => "reject"
  | keepFirst => "keep_first"

/-- The policy that a word stands for. -/
def ofLabel? (s : String) : Option ConflictPolicy :=
  if s = "reject" then some reject
  else if s = "keep_first" then some keepFirst
  else none

/-- Read a policy. -/
def ofValue? (convention : Convention) (v : Value) : Option ConflictPolicy :=
  (v.name? convention.carriesNothing).bind ofLabel?

end ConflictPolicy

/-- The settings of a catalog. -/
structure Settings where
  /-- The domain name of the cluster. A group of the cluster is named by anything, a dot and this
  name; the parent group is named by this name alone. -/
  clusterName : String
  /-- What the names of new instances start with. -/
  serverNamePrefix : String := "auto."
  /-- What to do when members disagree. -/
  conflictPolicy : ConflictPolicy := .reject
  /-- How to wait for the provider. -/
  convergence : Convergence := {}
  deriving DecidableEq, Repr, Inhabited

/-- The two durations of a convergence. -/
inductive Pace
  | interval
  | timeout
  deriving DecidableEq, Repr, Inhabited

/-- The word for a duration of a convergence. -/
def Pace.label : Pace → String
  | interval => "interval"
  | timeout => "timeout"

/-- Why a catalog cannot run with its settings. -/
inductive SettingsError
  /-- The cluster has no name. -/
  | missingClusterName
  /-- A duration is zero. -/
  | zeroConvergence (pace : Pace)
  deriving DecidableEq, Repr, Inhabited

/-- The cause in words. -/
def SettingsError.message : SettingsError → String
  | missingClusterName =>
    "cluster name must be set to the fully qualified internal domain name of the cluster"
  | zeroConvergence pace => "convergence " ++ pace.label ++ " must be greater than zero"

namespace Settings

/-- Whether a catalog can run with the settings: the cluster has a name, and neither duration is
zero. -/
def validate (s : Settings) : Except SettingsError Unit :=
  if trimChars s.clusterName.toList = [] then .error .missingClusterName
  else if s.convergence.interval = .zero then .error (.zeroConvergence .interval)
  else if s.convergence.timeout = .zero then .error (.zeroConvergence .timeout)
  else .ok ()

/-- What the names of the groups of the cluster end with. -/
def clusterSuffix (s : Settings) : String := "." ++ s.clusterName

/-- The document form of the settings. -/
def toValue (s : Settings) : Value :=
  .record [("cluster_name", .text s.clusterName),
    ("server_name_prefix", .text s.serverNamePrefix),
    ("conflict_policy", .text s.conflictPolicy.label), ("convergence", s.convergence.toValue)]

/-- Read settings. -/
def ofValue? (convention : Convention) (v : Value) : Option Settings := do
  let fields ← convention.fields?
    ["cluster_name", "server_name_prefix", "conflict_policy", "convergence"] v
  let clusterName ← required? fields "cluster_name" Value.text?
  let serverNamePrefix ← optional? fields "server_name_prefix" "auto." Value.text?
  let conflictPolicy ←
    optional? fields "conflict_policy" .reject (ConflictPolicy.ofValue? convention)
  let convergence ← optional? fields "convergence" {} (Convergence.ofValue? convention)
  return { clusterName, serverNamePrefix, conflictPolicy, convergence }

/-- Give a field of a table a new value. -/
def setField (name : String) (v : Value) (table : List (String × Value)) :
    List (String × Value) :=
  (name, v) :: table.filter fun field => field.1 ≠ name

/-- Settings from the plain table of a configuration file, if there is one, and a cluster name that
overrides the one in the table. A name given in neither is empty. -/
def ofTable? (table : Option (List (String × Value))) (clusterName : Option String) :
    Option Settings :=
  let fields := table.getD []
  let fields := match clusterName with
    | some name => setField "cluster_name" (.text name) fields
    | none => fields
  let fields :=
    if (fields.lookup "cluster_name").isSome then fields
    else setField "cluster_name" (.text "") fields
  ofValue? .plainTable (.record fields)

end Settings

end Discovery

end ElasticGroups
