/-!
File paths as text: components between slashes, joining, and the path of the containing directory.
-/
namespace SecretVault.Files.Path

/-- The pieces between separators, the empty ones too. -/
def split (separator : Char) : List Char → List (List Char)
  | [] => [[]]
  | c :: rest =>
    if c = separator then [] :: split separator rest
    else
      match split separator rest with
      | [] => [[c]]
      | piece :: pieces => (c :: piece) :: pieces

/-- The pieces of a path between slashes. -/
def pieces (path : String) : List String := (split '/' path.toList).map String.ofList

def isAbsolute (path : String) : Bool := path.toList.head? == some '/'

/-- A path below a base, or the path itself if it is absolute. -/
def join (base path : String) : String :=
  if isAbsolute path || base.isEmpty then path
  else if base.toList.getLast? = some '/' then base ++ path
  else base ++ "/" ++ path

/-- The components that name something: repeated slashes and dots drop out, except for a leading
dot. -/
def components (path : String) : List String :=
  let named := (pieces path).filter fun piece => piece != "" && piece != "."
  if (pieces path).head? = some "." then "." :: named else named

/-- The path of the directory that contains the last component; the root and the empty path lie in
none. -/
def parent? (path : String) : Option String :=
  let start := if isAbsolute path then "/" else ""
  match (components path).reverse with
  | [] => none
  | _ :: above => some (start ++ "/".intercalate above.reverse)

end SecretVault.Files.Path
