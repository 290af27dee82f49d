import SecretVault.Engine.Catalog
import SecretVault.Operation
import SecretVault.Files.Tree
import SecretVault.Text.Radix

/-!
Opening a vault at a path. Missing directories above it are made, and a missing or empty file
becomes an empty vault. The empty name and `:memory:` stand for a vault of one's own that nobody
else can open, and so does a file address that asks for one to be kept in memory.

Source pin: `vlt::schema`: `open` is `openVault`, with what a path means to SQLite 3.46.
-/
namespace SecretVault
open SecretVault.Engine SecretVault.Files SecretVault.Text

/-- Where an open vault is kept. -/
inductive Place where
  | file (location : Location)
  | temporary
  deriving DecidableEq, Repr

structure OpenVault where
  place : Place
  database : Database

namespace Opening

/-- Resolves `%` escapes. What follows an escaped NUL is passed over. -/
def unescape : List Char → List Char
  | '%' :: high :: low :: rest =>
    match Radix.digit? 16 high, Radix.digit? 16 low with
    | some h, some l => if 16 * h + l = 0 then [] else Char.ofNat (16 * h + l) :: unescape rest
    | _, _ => '%' :: unescape (high :: low :: rest)
  | c :: rest => c :: unescape rest
  | [] => []

/-- A file address with the path that it names and the parameters of its query, in order. -/
structure Address where
  name : String
  parameters : List (String × String)

/-- A parameter is a name and, after an equals sign, its value. -/
def parameter (text : List Char) : String × String :=
  (String.ofList (unescape (text.takeWhile (· != '='))),
    String.ofList (unescape ((text.dropWhile (· != '=')).drop 1)))

/-- Reads a path as an address with the scheme `file:`. Its authority and a fragment are passed
over, and parameters without a name. -/
def address? (path : String) : Option Address :=
  if "file:".toList.isPrefixOf path.toList then
    let text :=
      match path.toList.drop 5 with
      | '/' :: '/' :: rest => rest.dropWhile (· != '/')
      | rest => rest
    let text := text.takeWhile (· != '#')
    let query := (text.dropWhile (· != '?')).drop 1
    some {
      name := String.ofList (unescape (text.takeWhile (· != '?')))
      parameters := ((Path.split '&' query).map parameter).filter (!·.1.isEmpty) }
  else none

/-- The value of a parameter, the last one if there are several. -/
def Address.value? (address : Address) (name : String) : Option String :=
  (address.parameters.filter (·.1 == name)).getLast?.map (·.2)

/-- The file name that a path stands for. -/
def fileName (path : String) : String :=
  match address? path with
  | some address => address.name
  | none => path

/-- Whether a path stands for a vault of one's own. Of the parameters of an address only those
matter here that keep it in memory. -/
def isPrivate (path : String) : Bool :=
  (fileName path).isEmpty || fileName path == ":memory:" ||
    (address? path).any fun address =>
      address.value? "mode" == some "memory" || address.value? "vfs" == some "memdb"

/-- Steps along the pieces of a path by their names alone. -/
def walk (location : Location) : List String → Location
  | [] => location
  | piece :: rest =>
    if piece = "" ∨ piece = "." then walk location rest
    else if piece = ".." then walk location.dropLast rest
    else walk (location ++ [piece]) rest

/-- Position of the first NUL in the bytes of a path. -/
def nulPosition? (path : String) : Option Nat := (Utf8.encode path).findIdx? (· == 0)

/-- The most bytes that the whole path of a vault may have. -/
def longestPath : Nat := 504

/-- Whether a location can be that of a vault by the length of its names. -/
def isShortEnough (location : Location) : Bool :=
  location.all (fun name => name.utf8ByteSize ≤ Tree.longestName) &&
    location.foldl (fun size name => size + name.utf8ByteSize + 1) 0 ≤ longestPath

/-- Opens the file at a location and sets up what is in it; `path` is what messages call it. -/
def openFile (tree : Tree) (location : Location) (path : String) :
    Except StoreError OpenVault × Tree :=
  match tree.at? location with
  | some .directory => (.error (.engine (.cannotOpen path)), tree)
  | some (.vault t) => (.ok ⟨.file location, .ofTables (Catalog.ofTables t).create⟩, tree)
  | some (.bytes (_ :: _)) => (.error (.engine .notADatabase), tree)
  | some (.bytes []) =>
    (.ok ⟨.file location, .ofTables Catalog.blank.create⟩,
      tree.put location (.vault Catalog.blank.create))
  | none =>
    if tree.isDirectory location.dropLast && isShortEnough location then
      (.ok ⟨.file location, .ofTables Catalog.blank.create⟩,
        tree.put location (.vault Catalog.blank.create))
    else (.error (.engine (.cannotOpen path)), tree)

/-- Opens the vault at a path, with the directories that this leaves behind. -/
def openVault (tree : Tree) (directory : Location) (path : String) :
    Except StoreError OpenVault × Tree :=
  let parent := (Path.parent? path).getD ""
  match tree.makeDirectories directory parent with
  | .error e => (.error (.files e), tree)
  | .ok tree =>
    match nulPosition? path with
    | some position => (.error (.engine (.nulInPath position)), tree)
    | none =>
      if isPrivate path then (.ok ⟨.temporary, .ofTables Catalog.blank.create⟩, tree)
      else
        let name := fileName path
        let start := if Path.isAbsolute name then [] else directory
        openFile tree (walk start (Path.pieces name)) path

end Opening

/-- Keeps the lasting contents of an open vault where it was opened. -/
def OpenVault.store (vault : OpenVault) (tree : Tree) : Tree :=
  match vault.place with
  | .file location => tree.put location (.vault vault.database.committed)
  | .temporary => tree

end SecretVault
