import SecretVault.Shell.Evaluation

/-!
Starting a program and watching over it. The program finds the files, the environment and the
input that it is given, and leaves its mark on them.

Source pin: `vlt_core::process`: `run_command` is `run`, `run_command_with_input` is `runWithInput`,
`run_hook` is `runHook`.
-/
namespace SecretVault.Program
open SecretVault.Files SecretVault.Shell SecretVault.Text

/-- What a program is started in. -/
structure Surroundings where
  tree : Tree
  directory : Location
  environment : Environment
  input : Utf8.Bytes
  /-- Whether the token is cancelled from the start. -/
  cancelled : Bool

/-- What becomes of the supervisor while the program runs. -/
structure Supervisor where
  /-- After how many milliseconds an interrupt cancels the token, if ever. -/
  interrupted : Option Nat := none
  /-- How the program can start the supervisor again, if it can. -/
  own : Option Starter := none

/-- What is left when a program has been run. -/
structure Outcome where
  result : Except Error Unit
  tree : Tree
  input : Utf8.Bytes
  output : Utf8.Bytes
  errors : Utf8.Bytes
  /-- Whether the program has made its supervisor quit. -/
  quits : Bool := false

namespace Surroundings

def machine (s : Surroundings) (supervisor : Supervisor := {}) : Machine :=
  let cancelledFrom := if s.cancelled then some 0 else supervisor.interrupted
  { tree := s.tree
    directory := s.directory
    environment := s.environment
    input := some s.input
    deadline := cancelledFrom.map Timeline.lookAfter
    interruptedAt := cancelledFrom
    own := supervisor.own }

/-- Nothing happens but that a program does not start. -/
def refuse (s : Surroundings) (program : String) (fault : StartFault) : Outcome where
  result := .error (.notStarted program fault)
  tree := s.tree
  input := s.input
  output := []
  errors := []

/-- The program of a name, unless something keeps it from starting. -/
def locate (s : Surroundings) (program : String) (arguments : List String) :
    Except StartFault Utility :=
  if (program :: arguments).any (·.toList.contains '\x00') then .error .nulInArguments
  else (locateProgram shell s.machine program).mapError .system

/-- Runs a program to its end, or until it is stopped because its token is cancelled. -/
def run (s : Surroundings) (program : String) (arguments : List String)
    (supervisor : Supervisor := {}) : Outcome :=
  match s.locate program arguments with
  | .error fault => s.refuse program fault
  | .ok utility =>
    let (ending, m) := (do advance 1; utility arguments : Run Nat).run.run (s.machine supervisor)
    let ends :=
      match ending with
      | .ok code => some (m.clock, ExitStatus.code code)
      | .error (.ended status) => some (m.clock, status)
      | .error .stopped => none
    let verdict := (verdict? (Timeline.mk ends m.interruptedAt).looks).getD .cancelled
    let written := if m.input = some [] then Written.complete else .brokenPipe
    ⟨conclude program verdict written, m.tree, m.input.getD [], m.output, m.errors, m.abandoned⟩

/-- Runs a program with an input of its own. -/
def runWithInput (s : Surroundings) (input : Utf8.Bytes) (program : String)
    (arguments : List String) : Outcome :=
  { { s with input }.run program arguments with input := s.input }

/-- Runs a command; an empty one is not run. -/
def runHook (s : Surroundings) (argv : List String) (supervisor : Supervisor := {}) : Outcome :=
  match argv with
  | [] => ⟨.ok (), s.tree, s.input, [], [], false⟩
  | program :: arguments => s.run program arguments supervisor

end Surroundings
end SecretVault.Program
