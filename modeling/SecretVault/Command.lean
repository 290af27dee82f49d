/-!
Commands on a vault, as they are given on the command line.

Source pin: `Commands` of the program, less how they are given.
-/
namespace SecretVault

/-- Where a secret value comes from. -/
inductive ValueSource where
  | given (value : String)
  | input
  | prompt
  deriving DecidableEq, Repr

inductive Command where
  | init (key : Option String)
  | save (name : String) (labels : List String) (value : ValueSource)
  | find (name : Option String) (labels : List String) (json : Bool)
  | «show» (id : Int) (lineEnd : Bool)
  | describe (ids : List Int) (json : Bool)
  | set (id : Int) (value : ValueSource)
  | label (id : Int) (labels : List String)
  | unlabel (id : Int) (patterns : List String)
  | rename (id : Int) (name : String)
  | remove (ids : List Int)
  deriving DecidableEq, Repr

/-- Without a command everything is listed. -/
def Command.listing : Command := .find none [] false

end SecretVault
