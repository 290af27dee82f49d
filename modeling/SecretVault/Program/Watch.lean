import SecretVault.Program.Supervision
import SecretVault.Text.Utf8

/-!
Watching over a program, step by step. The program, the thread that writes its input, whoever cancels
the token and the supervisor go on side by side. Who goes on next is left open.

Source pin: `vlt_core::process`: `run_command_with_input` and `wait`, one event for each thing that
can happen.
-/
namespace SecretVault.Program
open SecretVault.Text

/-- The signal that a program is killed by. -/
def killSignal : Nat := 9

/-- What it comes to that a program has ended like this. -/
def ExitStatus.verdict (status : ExitStatus) : Verdict :=
  if status.isSuccess then .succeeded else .failed status

namespace Watch

/-- What the supervisor is about to do. -/
inductive Stage where
  /-- It looks at the program. -/
  | looking
  /-- It has seen the program run, and looks at the token. -/
  | checking
  | killing
  /-- It waits for the program that it has killed. -/
  | reaping
  /-- It waits for the writer. -/
  | joining (verdict : Verdict)
  | returned (result : Except Error Unit)
  deriving Repr

inductive Event where
  /-- The program takes so many bytes out of the pipe. -/
  | reads (count : Nat)
  /-- The program finds that its input is at an end. -/
  | findsEnd
  /-- Nobody is left who could read from the pipe. -/
  | closes
  /-- The program ends by itself. -/
  | exits (status : ExitStatus)
  /-- The program ends because it has been killed. -/
  | dies
  /-- The writer puts so many bytes into the pipe. -/
  | writes (count : Nat)
  /-- The writer has written everything. -/
  | completes
  /-- The writer finds the pipe broken. -/
  | breaks
  /-- The writer fails for another reason. -/
  | fails (error : Files.Error)
  /-- The token is cancelled. -/
  | cancels
  | supervises
  deriving DecidableEq, Repr

end Watch

/-- A program that is watched over while its input is written. -/
structure Watch where
  /-- What is left of the input to be written. -/
  rest : Utf8.Bytes
  /-- What has been written and not been read yet. -/
  pipe : Utf8.Bytes := []
  received : Utf8.Bytes := []
  /-- Whether the pipe can still be read from. -/
  readable : Bool := true
  foundEnd : Bool := false
  ended : Option ExitStatus := none
  /-- How the writing has ended. The pipe is closed to the writer from then on. -/
  written : Option Written := none
  cancelled : Bool := false
  stage : Watch.Stage := .looking
  /-- The looks that have been taken, each at the program and at its token. -/
  looks : List Look := []
  killed : Bool := false
  reaped : Bool := false
  deriving Repr

namespace Watch

/-- A program that has just been started with an input to be written. -/
def start (input : Utf8.Bytes) : Watch where
  rest := input

/-- What the supervisor does next, unless it has to wait. -/
def supervise (program : String) (w : Watch) : Option Watch :=
  match w.stage with
  | .looking =>
    match w.ended with
    | none => some { w with stage := .checking }
    | some status =>
      some { w with
        looks := w.looks ++ [⟨some status, w.cancelled⟩]
        reaped := true
        stage := .joining status.verdict }
  | .checking =>
    some { w with
      looks := w.looks ++ [⟨none, w.cancelled⟩]
      stage := if w.cancelled then .killing else .looking }
  | .killing => some { w with killed := true, stage := .reaping }
  | .reaping =>
    if w.ended.isSome then some { w with reaped := true, stage := .joining .cancelled } else none
  | .joining verdict =>
    w.written.map fun written => { w with stage := .returned (conclude program verdict written) }
  | .returned _ => none

/-- What becomes of it in an event, if this can happen. -/
def step (program : String) (w : Watch) : Event → Option Watch
  | .reads count =>
    if w.ended = none ∧ w.readable = true ∧ 0 < count ∧ count ≤ w.pipe.length then
      some { w with received := w.received ++ w.pipe.take count, pipe := w.pipe.drop count }
    else none
  | .findsEnd =>
    if w.ended = none ∧ w.readable = true ∧ w.pipe = [] ∧ w.written ≠ none then
      some { w with foundEnd := true }
    else none
  | .closes => some { w with readable := false }
  | .exits status => if w.ended = none then some { w with ended := some status } else none
  | .dies =>
    if w.ended = none ∧ w.killed = true then some { w with ended := some (.signal killSignal) }
    else none
  | .writes count =>
    if w.written = none ∧ w.readable = true ∧ 0 < count ∧ count ≤ w.rest.length then
      some { w with pipe := w.pipe ++ w.rest.take count, rest := w.rest.drop count }
    else none
  | .completes =>
    if w.written = none ∧ w.rest = [] then some { w with written := some .complete } else none
  | .breaks =>
    if w.written = none ∧ w.rest ≠ [] ∧ w.readable = false then
      some { w with written := some .brokenPipe }
    else none
  | .fails error =>
    if w.written = none ∧ w.rest ≠ [] then some { w with written := some (.failed error) } else none
  | .cancels => some { w with cancelled := true }
  | .supervises => w.supervise program

/-- What becomes of it in these events, if they can happen one after the other. -/
def run (program : String) (w : Watch) (events : List Event) : Option Watch :=
  events.foldlM (step program) w

end Watch
end SecretVault.Program
