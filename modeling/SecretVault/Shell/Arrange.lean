import SecretVault.Shell.Utility

/-!
Programs that make, copy, move and remove files and directories.
-/
namespace SecretVault.Shell.Utility
open SecretVault.Files

/-- Works on each of some paths; the status is 1 if one of them fails. `refusal` begins what is
said of a failure. -/
def onPaths (refusal : String) (paths : List String) (change : Tree → String → Except Error Tree) :
    Run Nat :=
  paths.foldlM (fun status path => do
    let m ← get
    match change m.tree path with
    | .ok tree =>
      set { m with tree }
      return status
    | .error e =>
      complain (refusal ++ " '" ++ path ++ "': " ++ e.text)
      return 1) 0

/-- Makes directories: with `-p`, those above them as well, and none that is there already. -/
def mkdir : Utility := fun arguments => do
  let (options, paths) := splitOptions arguments
  let directory := (← get).directory
  onPaths "mkdir: cannot create directory" paths fun tree path =>
    if options.contains "-p" then tree.makeDirectories directory path
    else tree.makeDirectory directory path

/-- Removes files: with `-r`, directories with all that is in them; with `-f`, what is missing is no
failure. -/
def rm : Utility := fun arguments => do
  let (options, paths) := splitOptions arguments
  let letters := (options.map fun o => o.toList.drop 1).flatten
  let directory := (← get).directory
  onPaths "rm: cannot remove" paths fun tree path =>
    match tree.find directory path with
    | .ok (location, .directory) =>
      if letters.contains 'r' then .ok (tree.remove location) else .error .isDirectory
    | .ok (location, _) => .ok (tree.remove location)
    | .error e => if letters.contains 'f' && e = .notFound then .ok tree else .error e

/-- Where a file comes to be: in a directory it keeps its name. -/
def destination (tree : Tree) (directory : Location) (source : Location) (target : String) :
    Except Error Location := do
  let location ← tree.locate directory target
  if tree.isDirectory location then return location ++ source.getLast?.toList
  if !tree.isDirectory location.dropLast then throw .notFound
  return location

/-- Copies a file and, if it moves, removes it where it was. -/
def transfer (name : String) (moves : Bool) : Utility := fun arguments => do
  let (_, paths) := splitOptions arguments
  match paths with
  | [source, target] =>
    let directory := (← get).directory
    onPaths (name ++ ": cannot stat") [source] fun tree source => do
      let (location, entry) ← tree.find directory source
      if entry = .directory then throw .isDirectory
      let place ← destination tree directory location target
      if place = location then return tree
      return (if moves then tree.remove location else tree).put place entry
  | _ =>
    complain (name ++ ": missing file operand")
    return 1

def cp : Utility := transfer "cp" false

def mv : Utility := transfer "mv" true

end SecretVault.Shell.Utility
