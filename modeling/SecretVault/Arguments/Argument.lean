import SecretVault.Text.Controls
import SecretVault.Text.Decimal

/-!
Arguments of a command line: options and flags with their names, and positional ones. What a user
did wrong with them is an error with a message of its own.

Source pin: the errors of `clap` 4, as the program prints them.
-/
namespace SecretVault.Arguments
open SecretVault.Text

/-- How the text of a value is read. -/
inductive Reading where
  | text
  /-- Text that must not be empty. -/
  | path
  /-- An integer of 64 bits. -/
  | integer
  deriving DecidableEq, Repr

/-- What giving an argument does. -/
inductive Action where
  /-- Its only value is taken. -/
  | set
  /-- Its values are gathered. -/
  | append
  | flag
  /-- Something is shown, and nothing else happens. -/
  | version
  | help
  deriving DecidableEq, Repr

structure Argument where
  long : Option String := none
  short : Option Char := none
  /-- What messages call its value. -/
  valueName : String := ""
  action : Action := .set
  reading : Reading := .text
  required : Bool := false
  deriving DecidableEq, Repr

namespace Argument

def takesValue (a : Argument) : Bool := a.action == .set || a.action == .append

/-- What messages call the argument. -/
def shown (a : Argument) : String :=
  match a.long, a.short with
  | some long, _ => "--" ++ long ++ if a.takesValue then " <" ++ a.valueName ++ ">" else ""
  | none, some short => "-" ++ String.singleton short
  | none, none =>
    let name := if a.required then "<" ++ a.valueName ++ ">" else "[" ++ a.valueName ++ "]"
    if a.action = .append then name ++ "..." else name

end Argument

inductive Error where
  | unexpected (argument : String)
  | unrecognizedCommand (name : String)
  | unexpectedValue (value : String) (argument : Argument)
  | missingValue (argument : Argument)
  | invalidValue (value : String) (argument : Argument) (reason : Decimal.ReadError)
  | repeated (argument : Argument)
  | conflict (argument other : Argument)
  | notProvided (arguments : List Argument)
  deriving DecidableEq, Repr

def inQuotes (text : String) : String := "'" ++ showable text ++ "'"

def Error.message : Error → String
  | .unexpected argument => "unexpected argument " ++ inQuotes argument ++ " found"
  | .unrecognizedCommand name => "unrecognized subcommand " ++ inQuotes name
  | .unexpectedValue value a =>
    "unexpected value " ++ inQuotes value ++ " for " ++ inQuotes a.shown ++
      " found; no more were expected"
  | .missingValue a => "a value is required for " ++ inQuotes a.shown ++ " but none was supplied"
  | .invalidValue value a reason =>
    "invalid value " ++ inQuotes value ++ " for " ++ inQuotes a.shown ++ ": " ++ reason.message
  | .repeated a => "the argument " ++ inQuotes a.shown ++ " cannot be used multiple times"
  | .conflict a other =>
    "the argument " ++ inQuotes a.shown ++ " cannot be used with " ++ inQuotes other.shown
  | .notProvided arguments =>
    "the following required arguments were not provided:" ++
      String.join (arguments.map fun a => "\n  " ++ a.shown)

/-- What keeps a command line from being carried out: an error, or a request for information. -/
inductive Halt where
  | error (e : Error)
  | version
  | help
  deriving DecidableEq, Repr

end SecretVault.Arguments
