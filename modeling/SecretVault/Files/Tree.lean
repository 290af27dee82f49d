import SecretVault.Engine.Tables
import SecretVault.Files.Error
import SecretVault.Files.Path

/-!
A tree of directories and files. A file holds bytes, or the tables of a vault. Entries are kept by
location, the list of names from the root, and a path is followed from a working directory.

Source pin: `create_dir_all`, `read_to_string` and `write` as the program calls them; path resolution
of Linux.
-/
namespace SecretVault.Files
open SecretVault.Text

/-- Names from the root down. -/
abbrev Location := List String

inductive Entry where
  | directory
  | bytes (content : Utf8.Bytes)
  | vault (tables : Engine.Tables)
  deriving DecidableEq

structure Tree where
  entries : List (Location × Entry)

namespace Tree

def at? (tree : Tree) (location : Location) : Option Entry :=
  if location.isEmpty then some .directory else tree.entries.lookup location

/-- Puts an entry at a location, in place of the one there. -/
def put (tree : Tree) (location : Location) (entry : Entry) : Tree :=
  ⟨(location, entry) :: tree.entries.filter fun old => old.1 != location⟩

/-- Removes an entry and all below it. -/
def remove (tree : Tree) (location : Location) : Tree :=
  ⟨tree.entries.filter fun (place, _) => !location.isPrefixOf place⟩

def isDirectory (tree : Tree) (location : Location) : Bool := tree.at? location == some .directory

/-- Adds the directories above a location and the location itself. -/
def withDirectories (tree : Tree) (location : Location) : Tree :=
  (List.range location.length).foldl
    (fun tree n =>
      if (tree.at? (location.take (n + 1))).isSome then tree
      else tree.put (location.take (n + 1)) .directory)
    tree

/-- The most bytes that a name and a path may have. -/
def longestName : Nat := 255
def longestPath : Nat := 4095

/-- Follows the pieces of a path. Whatever is followed by a piece must be a directory. -/
def follow (tree : Tree) (location : Location) : List String → Except Error Location
  | [] => .ok location
  | piece :: rest =>
    match tree.at? location with
    | none => .error .notFound
    | some .directory =>
      if piece = "" ∨ piece = "." then follow tree location rest
      else if piece = ".." then follow tree location.dropLast rest
      else if longestName < piece.utf8ByteSize then .error .nameTooLong
      else follow tree (location ++ [piece]) rest
    | some _ => .error .notDirectory

/-- The location that a path names, whether anything is there or not. -/
def locate (tree : Tree) (directory : Location) (path : String) : Except Error Location :=
  if path.isEmpty then .error .notFound
  else if path.toList.contains '\x00' then .error .nulInName
  else if longestPath < path.utf8ByteSize then .error .nameTooLong
  else follow tree (if Path.isAbsolute path then [] else directory) (Path.pieces path)

/-- What is at a path. -/
def find (tree : Tree) (directory : Location) (path : String) :
    Except Error (Location × Entry) := do
  let location ← tree.locate directory path
  match tree.at? location with
  | some entry => return (location, entry)
  | none => throw .notFound

def pathExists (tree : Tree) (directory : Location) (path : String) : Bool :=
  (tree.find directory path).isOk

def isDirectoryPath (tree : Tree) (directory : Location) (path : String) : Bool :=
  match tree.find directory path with
  | .ok (_, .directory) => true
  | _ => false

/-- The bytes of a file. The bytes of a vault are not modelled: there are none to read. -/
def read (tree : Tree) (directory : Location) (path : String) : Except Error Utf8.Bytes := do
  match ← tree.find directory path with
  | (_, .directory) => throw .isDirectory
  | (_, .bytes content) => return content
  | (_, .vault _) => return []

/-- Writes a file as a whole; the directory that contains it must be there. -/
def write (tree : Tree) (directory : Location) (path : String) (entry : Entry) :
    Except Error Tree := do
  let location ← tree.locate directory path
  if tree.isDirectory location then throw .isDirectory
  if !tree.isDirectory location.dropLast then
    throw (if (tree.at? location.dropLast).isSome then .notDirectory else .notFound)
  return tree.put location entry

def makeDirectory (tree : Tree) (directory : Location) (path : String) : Except Error Tree := do
  let location ← tree.locate directory path
  if (tree.at? location).isSome then throw .exists
  match tree.at? location.dropLast with
  | some .directory => return tree.put location .directory
  | some _ => throw .notDirectory
  | none => throw .notFound

/-- Makes a directory and those above it that are missing, at most `depth` of them. -/
def makeDirectoriesWithin (depth : Nat) (tree : Tree) (directory : Location) (path : String) :
    Except Error Tree :=
  if path.isEmpty then .ok tree
  else
    let already (tree : Tree) (e : Error) : Except Error Tree :=
      if tree.isDirectoryPath directory path then .ok tree else .error e
    match tree.makeDirectory directory path, depth, Path.parent? path with
    | .ok tree, _, _ => .ok tree
    | .error .notFound, depth + 1, some parent =>
      match makeDirectoriesWithin depth tree directory parent with
      | .error e => .error e
      | .ok tree =>
        match tree.makeDirectory directory path with
        | .ok tree => .ok tree
        | .error e => already tree e
    | .error e, _, _ => already tree e

def makeDirectories (tree : Tree) (directory : Location) (path : String) : Except Error Tree :=
  makeDirectoriesWithin (Path.components path).length tree directory path

end Tree
end SecretVault.Files
