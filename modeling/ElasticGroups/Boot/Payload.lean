import ElasticGroups.Boot.JoinCommand
import ElasticGroups.Boot.Script
import ElasticGroups.Boot.Version
import ElasticGroups.Text.Base64
import ElasticGroups.Text.Blank

/-!
# Boot payload

What a new node boots with: a shell script with the version to install and the join command in
front, in Base64. Both values are checked before a payload exists, so nothing in them can break
out of the quotes they stand in.

## Main definitions

* `Payload`: the two checked values;
* `Payload.make`, `Payload.ofLookup`: the check, of two texts and of two variables;
* `Payload.script`, `Payload.userData`: the script and its Base64 form.
-/

namespace ElasticGroups.Boot

open Text

/-- The variable that holds the version. -/
def versionVariable : String := "GROUPSCALE_KUBE_VERSION"

/-- The variable that holds the join command. -/
def joinCommandVariable : String := "GROUPSCALE_KUBE_JOIN_COMMAND"

/-- Why there is no payload. -/
inductive PayloadError
  /-- A variable is not set. -/
  | missingVariable (name : String)
  /-- The version is none. -/
  | invalidVersion (value : String) (reason : VersionError)
  /-- The join command is none. -/
  | invalidJoinCommand
  deriving DecidableEq, Repr, Inhabited

/-- The cause in words. -/
def PayloadError.message : PayloadError → String
  | missingVariable name => "required environment variable " ++ quoteText name ++ " not set"
  | invalidVersion value reason =>
    "kubernetes version " ++ quoteText value ++ " is not a valid version: " ++ reason.message
  | invalidJoinCommand => "join command does not match the sanitisation pattern"

/-- The checked values of a boot payload. -/
structure Payload where
  /-- The version to install. -/
  version : String
  /-- The command that joins the cluster. -/
  joinCommand : String
  /-- The version is a semantic version. -/
  version_parses : ∃ v, Version.parse version = .ok v
  /-- The join command has the shape of one. -/
  joinCommand_accepted : isJoinCommand joinCommand = true
  deriving DecidableEq

namespace Payload

/-- Check a version and a join command, the version first. -/
def make (version joinCommand : String) : Except PayloadError Payload :=
  match h : Version.parse version with
  | .error reason => .error (.invalidVersion version reason)
  | .ok v =>
    if hj : isJoinCommand joinCommand = true then .ok ⟨version, joinCommand, ⟨v, h⟩, hj⟩
    else .error .invalidJoinCommand

/-- Check the values of the two variables, blanks at their ends being ignored. Of two missing
variables the join command is reported. -/
def ofLookup (lookup : String → Option String) : Except PayloadError Payload :=
  match lookup joinCommandVariable with
  | none => .error (.missingVariable joinCommandVariable)
  | some joinCommand =>
    match lookup versionVariable with
    | none => .error (.missingVariable versionVariable)
    | some version => make (trim version) (trim joinCommand)

/-- The script of a node. -/
def script (p : Payload) : String :=
  "#!/bin/bash\nk8s_version=\"" ++ p.version ++ "\"\nkubeadm_join_command=\"" ++ p.joinCommand ++
    "\"\n" ++ bootstrapText

/-- The script in Base64. -/
def userData (p : Payload) : String := Base64.encodeText p.script

end Payload

end ElasticGroups.Boot
