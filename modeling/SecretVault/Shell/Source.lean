import SecretVault.Shell.Line
import SecretVault.Shell.Machine

/-!
Running source texts: in the shell itself, in a copy of it, and in one whose output is kept. An
`Evaluator` is the shell, for the scripts that are inside of what runs.
-/
namespace SecretVault.Shell
open SecretVault.Files SecretVault.Program SecretVault.Text

/-- Runs a script. -/
abbrev Evaluator := List Pipeline → Run Unit

/-- Process numbers of a shell and of what has started it. -/
def ownNumber : String := "4242"
def parentNumber : String := "4241"

def setStatus (status : Nat) : Run Unit := modify fun m => { m with status }

/-- A complaint of the shell about a command. -/
def complainOf (text : String) : Run Unit := do complain ((← get).name ++ ": 1: " ++ text)

/-- What the shell says of a file that does not open. -/
def openMessage (missing : String) (error : Files.Error) : String :=
  if error = .notFound ∨ error = .notDirectory then missing else error.text

def leaveWith (status : Nat) : Run Nat := throw (.ended (.code (status % 256)))

/-- Runs a script and answers the status of its last command. -/
def statusOf (eval : Evaluator) (lines : List Pipeline) : Run Nat := do
  eval lines
  return (← get).status

/-- Runs a source text and answers the status of its last command. -/
def runSource (eval : Evaluator) (source : String) : Run Nat := do
  match script? source with
  | some lines => statusOf eval lines
  | none =>
    complainOf "Syntax error"
    leaveWith 2

/-- Runs an action on a copy of the shell. What it does to files, output and input stays. -/
def isolated {α : Type} (action : Run α) : Run (Except ExitStatus α) := do
  let before ← get
  let result ← tryCatch (do return .ok (← action)) fun
    | .ended status => return .error status
    | .stopped => throw .stopped
  modify fun m =>
    { before with
      tree := m.tree, input := m.input, output := m.output, errors := m.errors, clock := m.clock
      deadline := m.deadline, interruptedAt := m.interruptedAt, abandoned := m.abandoned }
  return result

/-- Runs a program. If its output is refused then it says so and fails. -/
def insisting (complaint : Run Unit) (program : Run Nat) : Run Nat := do
  let before := (← get).refused
  modify ({ · with refused := false })
  let status ← program
  let refused := (← get).refused
  modify ({ · with refused := before })
  if refused then
    complaint
    return 1
  return status

/-- Runs an action on a copy of the shell and keeps what it writes. -/
def captured {α : Type} (action : Run α) : Run (Except ExitStatus α × Utf8.Bytes) := do
  let before ← get
  set { before with output := [], outputSink := .output }
  let result : Except Ending (Except ExitStatus α) ←
    tryCatch (do return .ok (← isolated action)) fun ending => return .error ending
  let written := (← get).output
  modify fun m => { m with output := before.output, outputSink := before.outputSink }
  match result with
  | .ok result => return (result, written)
  | .error ending => throw ending

end SecretVault.Shell
