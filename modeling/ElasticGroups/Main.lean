import ElasticGroups.Daemon.Startup

/-!
# The daemon

The thin layer between the daemon and the system: it reads variables and files, prints, and keeps
time.
-/

namespace ElasticGroups.Daemon

/-- Sleep for a span, in parts that the system can count. -/
def sleepFor (span : Duration) : IO Unit := do
  let part : Nat := 4294967295
  for _ in [0:span.millis / part] do
    IO.sleep (UInt32.ofNat part)
  IO.sleep (UInt32.ofNat (span.millis % part))

/-- Run a cycle every so many seconds, whatever becomes of the cycles. -/
partial def serve (catalog : Discovery.Catalog) (store : Cloud.Store) (refreshInterval : Nat) :
    IO UInt32 := do
  sleepFor (Clock.bounded.lasting (.ofSeconds refreshInterval))
  let ((_, catalog), world) :=
    catalog.refresh.run .bounded Cloud.Store.respond ⟨store, .zero⟩
  serve catalog world.partner refreshInterval

/-- The variables that the daemon may read. -/
def variableNames : List String :=
  [Boot.versionVariable, Boot.joinCommandVariable, paceOption.2] ++ commonOptions.map (·.2)

/-- Read the values of the variables. -/
def readVariables : IO (List (String × String)) :=
  variableNames.filterMapM fun name => do
    return (← IO.getEnv name).map (name, ·)

/-- Read the file that an option or its variable names. -/
def readNamedFile (path : String) : IO (Except String String) := do
  try
    return .ok (← IO.FS.readFile path)
  catch error =>
    match error with
    | .noFileOrDirectory .. => return .error "No such file or directory (os error 2)"
    | _ => return .error (toString error)

/-- The files that a command line names. -/
def namedFiles (options : Options) : List String := options.fixture :: options.config.toList

end ElasticGroups.Daemon

section

open ElasticGroups.Daemon

/-- Run the daemon. -/
def main (words : List String) : IO UInt32 := do
  let values ← readVariables
  let lookup := fun name => values.lookup name
  let paths := ((Options.parse? lookup words).map namedFiles).getD []
  let files ← paths.mapM fun path => do return (path, ← readNamedFile path)
  let file := fun path => (files.lookup path).getD (.error "not read")
  match execute ⟨lookup, file⟩ words with
  | .misused =>
    IO.eprintln "usage: run|validate --fixture FILE [--config FILE] [--cluster-name NAME]"
    return 2
  | .failed error =>
    IO.eprintln ("Error: " ++ error.message)
    if let some cause := error.cause then
      IO.eprintln ("\nCaused by:\n    " ++ cause)
    return 1
  | .printed text =>
    IO.print text
    return 0
  | .serving catalog store refreshInterval => serve catalog store refreshInterval

end
