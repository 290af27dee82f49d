import SecretVault.Engine.Record
import SecretVault.Session

/-!
The command line program. It lays out the files that a session may look at, lets the session run,
and carries over what the session has changed. A vault is kept as a text of records.
-/
namespace SecretVault.Main
open SecretVault.Engine SecretVault.Files SecretVault.Text

/-- A file as an entry of the tree: records are a vault. -/
def entryOf (bytes : Utf8.Bytes) : Entry :=
  match Utf8.decode bytes with
  | .ok text =>
    match Tables.ofRecords? (text.splitOn "\n") with
    | some tables => .vault tables
    | none => .bytes bytes
  | .error _ => .bytes bytes

def pathOf (location : Location) : String := "/" ++ "/".intercalate location

/-- Adds what the system has at a location and above it. -/
def withLocation (tree : Tree) (location : Location) : IO Tree := do
  let root ← IO.currentDir
  let mut tree := tree
  for n in List.range location.length do
    let above := location.take (n + 1)
    let path := root / pathOf above
    if ← path.isDir then tree := tree.put above .directory
    else if ← path.pathExists then
      tree := tree.put above (entryOf (← IO.FS.readBinFile path).toList)
  return tree

/-- Writes the entries that are new or have changed. -/
def carryOver (before after : Tree) : IO Unit := do
  let root ← IO.currentDir
  let byDepth := after.entries.mergeSort fun a b => a.1.length ≤ b.1.length
  for (location, entry) in byDepth do
    if before.at? location != some entry then
      let path := root / pathOf location
      match entry with
      | .directory => IO.FS.createDirAll path
      | .bytes content => IO.FS.writeBinFile path ⟨content.toArray⟩
      | .vault tables => IO.FS.writeFile path ("\n".intercalate tables.toRecords)

/-- The variables that a session looks at. -/
def environment : IO Environment := do
  let names := ["HOME", "XDG_DATA_HOME", "XDG_CONFIG_HOME", "VLT_DATABASE"]
  names.filterMapM fun name => do return (← IO.getEnv name).map fun value => (name, value)

partial def readAll (stream : IO.FS.Stream) (before : ByteArray) : IO ByteArray := do
  let bytes ← stream.read 65536
  if bytes.isEmpty then return before else readAll stream (before ++ bytes)

/-- Whether a command reads its input. -/
def readsInput : Command → Bool
  | .save _ _ .input | .set _ .input => true
  | _ => false

/-- The setting of a command line, with the files that it names. -/
def setting (arguments : List String) : IO Setting := do
  let environment ← environment
  let directory := (Path.components (← IO.currentDir).toString)
  let bare : Setting :=
    { tree := ← withLocation ⟨[]⟩ directory, directory, environment, input := [] }
  match Arguments.Invocation.read arguments with
  | .error _ => return bare
  | .ok invocation =>
    let locate (path : String) : Location :=
      Opening.walk (if Path.isAbsolute path then [] else directory) (Path.pieces path)
    let configPath := invocation.config.getD (Locations.ofEnvironment environment).configFile
    let known := { bare with tree := ← withLocation bare.tree (locate configPath) }
    match known.loadConfig invocation.config with
    | .error _ => return known
    | .ok config =>
      let path := invocation.database.getD (config.databasePath environment)
      let tree ← withLocation known.tree (locate (Opening.fileName path))
      let input ←
        if readsInput invocation.command then readAll (← IO.getStdin) .empty else pure .empty
      return { known with tree, input := input.toList }

def run (arguments : List String) : IO UInt32 := do
  let setting ← setting arguments
  let finished := setting.run arguments
  carryOver setting.tree finished.tree
  let output ← IO.getStdout
  output.write ⟨finished.output.toArray⟩
  output.flush
  let errors ← IO.getStderr
  errors.write ⟨finished.errors.toArray⟩
  errors.flush
  return finished.exitCode.toUInt32

end SecretVault.Main

def main (arguments : List String) : IO UInt32 := SecretVault.Main.run arguments
