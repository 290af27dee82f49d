import SecretVault.Program.Status
import SecretVault.Setting

/-!
The machine that commands run on: files, the three standard streams, variables and a clock. A run
may be stopped from outside at a known time; it then ends there, whatever it is doing. The machine
follows `dash` and the small tools of a Linux system, as far as hooks use them.
-/
namespace SecretVault.Shell
open SecretVault.Files SecretVault.Program SecretVault.Text

/-- Where a stream of output goes. -/
inductive Sink where
  | output
  | errors
  | file (location : Location)
  | nowhere
  /-- A device that takes nothing. -/
  | full
  deriving DecidableEq, Repr

/-- How a run ends before its text does. -/
inductive Ending where
  | ended (status : ExitStatus)
  | stopped
  deriving DecidableEq, Repr

structure Machine where
  tree : Tree
  directory : Location
  environment : Environment
  locals : Environment := []
  arguments : List String := []
  /-- What the shell calls itself in messages. -/
  name : String := "sh"
  status : Nat := 0
  /-- Whether the shell ends when a command fails. -/
  endsOnFailure : Bool := false
  /-- What is left to read; none if the input is closed. -/
  input : Option Utf8.Bytes
  output : Utf8.Bytes := []
  errors : Utf8.Bytes := []
  outputSink : Sink := .output
  errorSink : Sink := .errors
  /-- Milliseconds since the start. -/
  clock : Nat := 0
  /-- When the run is stopped from outside, if ever. -/
  deadline : Option Nat := none
  /-- Since when the supervisor has been told to stop the run. -/
  interruptedAt : Option Nat := none
  /-- Whether the supervisor has been made to quit, so that nobody stops the run any more. -/
  abandoned : Bool := false
  /-- Whether output of the program that runs has been refused. -/
  refused : Bool := false
  /-- How the supervisor itself can be started again, if it can. -/
  own : Option Starter := none

abbrev Run := ExceptT Ending (StateM Machine)

namespace Machine

def put (m : Machine) (sink : Sink) (bytes : Utf8.Bytes) : Machine :=
  match sink with
  | .output => { m with output := m.output ++ bytes }
  | .errors => { m with errors := m.errors ++ bytes }
  | .nowhere | .full => m
  | .file location =>
    let before :=
      match m.tree.at? location with
      | some (.bytes content) => content
      | _ => []
    { m with tree := m.tree.put location (.bytes (before ++ bytes)) }

/-- A variable of the shell or of its environment. -/
def lookup? (m : Machine) (name : String) : Option String :=
  (m.locals.lookup name).or (m.environment.lookup name)

def assign (m : Machine) (name value : String) : Machine :=
  if (m.environment.lookup name).isSome then
    { m with environment := (name, value) :: m.environment.filter (·.1 != name) }
  else { m with locals := (name, value) :: m.locals.filter (·.1 != name) }

/-- Assigns to a variable that is passed on to programs. -/
def pass (m : Machine) (name value : String) : Machine :=
  { m with
    locals := m.locals.filter (·.1 != name)
    environment := (name, value) :: m.environment.filter (·.1 != name) }

end Machine

def writeBytes (bytes : Utf8.Bytes) : Run Unit := do
  let m ← get
  let refused := m.refused || (m.outputSink = .full && !bytes.isEmpty)
  set { m.put m.outputSink bytes with refused }

def write (text : String) : Run Unit := writeBytes (Utf8.encode text)

def complain (text : String) : Run Unit := do
  let m ← get
  set (m.put m.errorSink (Utf8.encode (text ++ "\n")))

/-- Lets time pass; if the run is stopped meanwhile, it ends. -/
def advance (milliseconds : Nat) : Run Unit := do
  let m ← get
  let clock := m.clock + milliseconds
  match m.deadline with
  | some deadline =>
    if deadline ≤ clock then
      set { m with clock := deadline }
      throw .stopped
    else set { m with clock }
  | none => set { m with clock }

/-- Takes all that is left of the input. -/
def readInput : Run Utf8.Bytes := do
  let m ← get
  set { m with input := m.input.map fun _ => [] }
  return m.input.getD []

/-- Takes a line of the input without its end; whether there was an end. -/
def readLine : Run (Utf8.Bytes × Bool) := do
  let m ← get
  let bytes := m.input.getD []
  let line := bytes.takeWhile (· != 10)
  let rest := bytes.drop line.length
  set { m with input := m.input.map fun _ => rest.drop 1 }
  return (line, !rest.isEmpty)

/-- The bytes of a file. -/
def readFile (path : String) : Run (Except Files.Error Utf8.Bytes) := do
  let m ← get
  if path = "/dev/null" then return .ok [] else return m.tree.read m.directory path

/-- What is at a path, if anything is. -/
def find? (path : String) : Run (Option Entry) := do
  let m ← get
  return match m.tree.find m.directory path with
    | .ok (_, entry) => some entry
    | .error _ => none

/-- Opens a file for output, emptied unless it is to be added to. -/
def openFile (path : String) (add : Bool) : Run (Except Files.Error Sink) := do
  if path = "/dev/null" then return .ok .nowhere
  if path = "/dev/full" then return .ok .full
  let m ← get
  let before :=
    match m.tree.read m.directory path with
    | .ok content => if add then content else []
    | .error _ => []
  match m.tree.locate m.directory path, m.tree.write m.directory path (.bytes before) with
  | .ok location, .ok tree =>
    set { m with tree }
    return .ok (.file location)
  | .error e, _ | _, .error e => return .error e

end SecretVault.Shell
