import SecretVault.Config.Storage
import SecretVault.Operation
import SecretVault.Program.Supervision

/-!
Why a command failed, and how that is reported: a message and, below it, its causes, indented and
numbered if there are several.

Source pin: the contexts that the program's `cmd_` functions give to errors, laid out as `anyhow`
prints an error that `main` returns. A text that `println!` cannot print ends the process otherwise,
and so does a second interrupt.
-/
namespace SecretVault

inductive Hook where
  | postWrite | postRead
  deriving DecidableEq, Repr

def Hook.name : Hook → String
  | .postWrite => "post_write"
  | .postRead => "post_read"

def Hooks.argv (hooks : Hooks) : Hook → List String
  | .postWrite => hooks.postWrite
  | .postRead => hooks.postRead

inductive Failure where
  | badConfig (error : Config.LoadError)
  | notOpened (path : String) (error : StoreError)
  | notInitialized
  | noMasterKey (error : StoreError)
  | keyNotRead (error : Files.Error)
  | emptyKey
  | valueNotRead (error : Files.Error)
  | inputNotRead
  | emptyValue
  | noSuchSecret (id : Int)
  | notSaved (error : StoreError)
  | store (error : StoreError)
  | hook (hook : Hook) (error : Program.Error)
  /-- The output has refused a text, which no command expects. -/
  | notPrinted (error : Files.Error)
  /-- The output has refused a payload. -/
  | notPassedOn (error : Files.Error)
  /-- The process has been made to quit. -/
  | quit
  deriving DecidableEq, Repr

namespace Failure

/-- The message with the causes below it. -/
def chain : Failure → List String
  | .badConfig e => e.chain
  | .notOpened path e => ("Failed to open vault: " ++ path) :: e.chain
  | .notInitialized => ["Vault not initialized - run 'vlt init' first"]
  | .noMasterKey e => "Failed to read master key" :: e.chain
  | .keyNotRead e => ["Failed to read master key", e.message]
  | .emptyKey => ["Empty master key not allowed"]
  | .valueNotRead e => ["Failed to read secret value", e.message]
  | .inputNotRead => ["Failed to read from stdin", "stream did not contain valid UTF-8"]
  | .emptyValue => ["Empty value not allowed"]
  | .noSuchSecret id => ["Secret not found: " ++ String.ofList (Text.Decimal.ofInt id)]
  | .notSaved e => "Failed to save secret" :: e.chain
  | .store e => e.chain
  | .hook which e => (which.name ++ " hook failed") :: e.chain
  | .notPrinted e => ["failed printing to stdout: " ++ e.message]
  | .notPassedOn e => [e.message]
  | .quit => []

/-- The exit code of the process. -/
def exitCode : Failure → Nat
  | .notPrinted _ => 101
  | .quit | .hook _ .quit => 130
  | _ => 1

end Failure

/-- Puts spaces in front of every line but the first. -/
def indentAfterBreaks (width : Nat) (text : String) : String :=
  String.ofList (text.toList.flatMap fun c =>
    if c = '\n' then '\n' :: List.replicate width ' ' else [c])

/-- A cause after its number. -/
def numberedCause (number : Nat) (cause : String) : String :=
  let digits := toString number
  String.ofList (List.replicate (5 - digits.length) ' ') ++ digits ++ ": " ++
    indentAfterBreaks 7 cause

/-- A message and its causes as a report. -/
def report : List String → String
  | [] => "Error: \n"
  | [message] => "Error: " ++ message ++ "\n"
  | [message, cause] =>
    "Error: " ++ message ++ "\n\nCaused by:\n    " ++ indentAfterBreaks 4 cause ++ "\n"
  | message :: causes =>
    "Error: " ++ message ++ "\n\nCaused by:\n" ++
      String.join (causes.zipIdx.map fun (cause, number) => numberedCause number cause ++ "\n")

/-- What is written of a failure. Of a text that was not printed only the reason is shown here; the
lines around it name a place in the standard library. -/
def Failure.report : Failure → String
  | .quit | .hook _ .quit => ""
  | .notPrinted e => "failed printing to stdout: " ++ e.message ++ "\n"
  | failure => SecretVault.report failure.chain

end SecretVault
