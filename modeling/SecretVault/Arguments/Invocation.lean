import SecretVault.Arguments.Reader
import SecretVault.Command

/-!
The commands with their arguments, and a command line as a whole: an optional configuration file,
an optional vault, and a command.

Source pin: `Cli` and `Commands` of the program.
-/
namespace SecretVault.Arguments

structure Invocation where
  config : Option String
  database : Option String
  command : Command
  deriving DecidableEq, Repr

def configOption : Argument := { long := "config", valueName := "CONFIG", reading := .path }
def databaseOption : Argument := { long := "database", valueName := "DATABASE", reading := .path }
def helpFlag : Argument := { long := "help", short := 'h', action := .help }
def versionFlag : Argument := { long := "version", short := 'V', action := .version }

/-- Options that may stand before a command or among its arguments. -/
def sharedOptions : List Argument := [configOption, databaseOption, helpFlag]

def keyOption : Argument := { long := "key", valueName := "KEY" }
def nameOption : Argument := { long := "name", valueName := "NAME" }

def labelOption : Argument :=
  { long := "label", short := 'l', valueName := "LABELS", action := .append }

def inputFlag : Argument := { long := "stdin", action := .flag }
def jsonFlag : Argument := { long := "json", action := .flag }
def bareFlag : Argument := { short := 'n', action := .flag }
def idArgument : Argument := { valueName := "ID", reading := .integer, required := true }

def idsArgument : Argument :=
  { valueName := "IDS", reading := .integer, action := .append, required := true }

def valueArgument : Argument := { valueName := "VALUE" }
def labelsArgument : Argument := { valueName := "LABELS", action := .append, required := true }
def patternsArgument : Argument := { valueName := "PATTERNS", action := .append, required := true }
def nameArgument : Argument := { valueName := "NAME", required := true }

/-- The value of a secret as the arguments give it. -/
def valueSource (r : Reader) : ValueSource :=
  if r.isGiven inputFlag then .input
  else
    match r.texts valueArgument with
    | value :: _ => .given value
    | [] => .prompt

def firstText (r : Reader) (a : Argument) : String := (r.texts a).headD ""

def firstInteger (r : Reader) (a : Argument) : Int := (r.integers a).headD 0

/-- A kind of command: the names it goes by, its arguments, and the command that they make. -/
structure Kind where
  names : List String
  options : List Argument := []
  positionals : List Argument := []
  exclusive : Option (Argument × Argument) := none
  command : Reader → Command

def Kind.signature (k : Kind) : Signature where
  options := k.options ++ sharedOptions
  positionals := k.positionals
  exclusive := k.exclusive

def requiredName : Argument := { nameOption with required := true }
def requiredLabel : Argument := { labelOption with required := true }

def kinds : List Kind := [
  { names := ["init"], options := [keyOption]
    command := fun r => .init (r.texts keyOption).head? },
  { names := ["save"], options := [requiredName, requiredLabel, inputFlag]
    positionals := [valueArgument], exclusive := some (valueArgument, inputFlag)
    command := fun r => .save (firstText r requiredName) (r.texts requiredLabel) (valueSource r) },
  { names := ["find", "ls"], options := [nameOption, labelOption, jsonFlag]
    command := fun r =>
      .find (r.texts nameOption).head? (r.texts labelOption) (r.isGiven jsonFlag) },
  { names := ["show"], options := [bareFlag], positionals := [idArgument]
    command := fun r => .show (firstInteger r idArgument) (!r.isGiven bareFlag) },
  { names := ["describe"], options := [jsonFlag], positionals := [idsArgument]
    command := fun r => .describe (r.integers idsArgument) (r.isGiven jsonFlag) },
  { names := ["set"], options := [inputFlag], positionals := [idArgument, valueArgument]
    exclusive := some (valueArgument, inputFlag)
    command := fun r => .set (firstInteger r idArgument) (valueSource r) },
  { names := ["label"], positionals := [idArgument, labelsArgument]
    command := fun r => .label (firstInteger r idArgument) (r.texts labelsArgument) },
  { names := ["unlabel"], positionals := [idArgument, patternsArgument]
    command := fun r => .unlabel (firstInteger r idArgument) (r.texts patternsArgument) },
  { names := ["rename"], positionals := [idArgument, nameArgument]
    command := fun r => .rename (firstInteger r idArgument) (firstText r nameArgument) },
  { names := ["rm", "remove"], positionals := [idsArgument]
    command := fun r => .remove (r.integers idsArgument) }]

/-- What may stand before a command. -/
def rootSignature : Signature where
  options := sharedOptions ++ [versionFlag]
  commands := "help" :: kinds.flatMap Kind.names

/-- Reads the arguments of a command after its name. -/
def readCommand (name : String) (texts : List String) : Except Halt (Reader × Command) :=
  match kinds.find? (·.names.contains name) with
  | none => .error .help
  | some kind => do
    let (reader, _) ← Reader.read kind.signature { positionals := kind.positionals } texts
    let reader ← reader.finish kind.signature
    return (reader, kind.command reader)

/-- Reads a whole command line. What is given after the name of the command counts more than what
is given before it. -/
def Invocation.read (texts : List String) : Except Halt Invocation := do
  let (root, below) ← Reader.read rootSignature { positionals := [] } texts
  match below with
  | none =>
    let root ← root.finish rootSignature
    return ⟨(root.texts configOption).head?, (root.texts databaseOption).head?, Command.listing⟩
  | some (name, rest) =>
    let (inner, command) ← readCommand name rest
    let root ← root.finish rootSignature
    let pick (a : Argument) := (inner.texts a).head?.or (root.texts a).head?
    return ⟨pick configOption, pick databaseOption, command⟩

end SecretVault.Arguments
