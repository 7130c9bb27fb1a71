import TrafficGate.CommandLine

/-!
# Main

The program itself.  It gathers the variables and files that a run may look at, lets the run decide
everything, prints what it printed and writes the files that it changed.
-/

open TrafficGate

/-- The variables that are set, of those that settings read. -/
def environmentOfProcess : IO Environment := do
  let names := ["RG_SERVER_DOMAIN", "RG_PROPERTY_FILE", "RG_SERVICE_NAME", "RG_LOG_LEVEL",
    "RG_CONSOLE_OUTPUT", "RG_JSON_LOGS", "RUST_LOG"]
  let found ← names.mapM fun name => return (name, ← IO.getEnv name)
  return fun name => (found.lookup name).join

/-- The files with the one under a path, if there is one. -/
def withFile (files : Files) (path : String) : IO Files := do
  match ← (IO.FS.readBinFile path).toBaseIO with
  | .ok content => return (files.place path (.file content)).toOption.getD files
  | .error _ => return files

/-- Writes the directories and files that are new or changed. -/
def keep (before after : Files) : IO Unit := do
  for (path, node) in after.nodes.entries do
    if before.nodes.get? path ≠ some node then
      match node with
      | .directory => IO.FS.createDirAll path
      | .file content => IO.FS.writeBinFile path content

def main (arguments : List String) : IO UInt32 := do
  let environment ← environmentOfProcess
  let settingsFile := arguments.head?.toList
  let files ← settingsFile.foldlM withFile { home := (← IO.currentDir).toString }
  let settings : Option Settings := match settingsFile with
    | [] => some {}
    | path :: _ => (Settings.load files path).toOption
  let properties := (settings.map fun s => (s.override environment).path).toList
  let files ← properties.foldlM withFile files
  let run := CommandLine.run arguments environment files
  run.output.forM IO.println
  run.failure.forM IO.eprintln
  keep files run.files
  return run.code.toUInt32
