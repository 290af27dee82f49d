import SecretVault.Files.Error
import SecretVault.Program.Status
import SecretVault.Text.Quoted

/-!
Supervision of a running program. The supervisor looks at it at regular times: a program that has
ended settles the matter, and one that still runs is killed once its token is cancelled. Input is
written meanwhile; that the program left some of it unread is no fault.

Source pin: `vlt_core::process`: `wait`, and the result of `run_command_with_input`.
-/
namespace SecretVault.Program
open SecretVault.Text

/-- Why a program did not start. -/
inductive StartFault where
  | system (error : Files.Error)
  | nulInArguments
  deriving DecidableEq, Repr

def StartFault.message : StartFault → String
  | .system error => error.message
  | .nulInArguments => "nul byte found in provided data"

inductive Error where
  | notStarted (program : String) (fault : StartFault)
  | ended (program : String) (status : ExitStatus)
  | cancelled (program : String)
  | notWritten (program : String) (error : Files.Error)
  /-- The supervisor has been made to quit meanwhile, and says nothing more. -/
  | quit
  deriving DecidableEq, Repr

/-- The message with the causes below it. -/
def Error.chain : Error → List String
  | .notStarted program fault =>
    ["Failed to start " ++ QuoteStyle.name.quote program, fault.message]
  | .ended program status => [QuoteStyle.name.quote program ++ " exited with " ++ status.text]
  | .cancelled program => [QuoteStyle.name.quote program ++ " cancelled"]
  | .notWritten program error =>
    ["Failed to write to " ++ QuoteStyle.name.quote program, error.message]
  | .quit => []

/-- What is seen of a program and its token at one look. -/
structure Look where
  ended : Option ExitStatus
  cancelled : Bool
  deriving DecidableEq, Repr

inductive Verdict where
  | succeeded
  | failed (status : ExitStatus)
  | cancelled
  deriving DecidableEq, Repr

/-- What a look settles; nothing while the program runs and the token is live. -/
def Look.verdict? (look : Look) : Option Verdict :=
  match look.ended with
  | some status => some (if status.isSuccess then .succeeded else .failed status)
  | none => if look.cancelled then some .cancelled else none

/-- The verdict of the first look that gives one. -/
def verdict? (looks : List Look) : Option Verdict := looks.findSome? Look.verdict?

/-- How the writing of input ended. -/
inductive Written where
  | complete
  | brokenPipe
  | failed (error : Files.Error)
  deriving DecidableEq, Repr

def Written.toExcept (program : String) : Written → Except Error Unit
  | .complete | .brokenPipe => .ok ()
  | .failed error => .error (.notWritten program error)

/-- The verdict counts before what became of the input. -/
def conclude (program : String) (verdict : Verdict) (written : Written) : Except Error Unit :=
  match verdict with
  | .succeeded => written.toExcept program
  | .failed status => .error (.ended program status)
  | .cancelled => .error (.cancelled program)

/-- Milliseconds between two looks. -/
def lookInterval : Nat := 20

/-- When a program ends, if it is left alone, and when its token is cancelled, in milliseconds. -/
structure Timeline where
  ends : Option (Nat × ExitStatus)
  cancelledFrom : Option Nat
  deriving DecidableEq, Repr

namespace Timeline

def look (line : Timeline) (time : Nat) : Look where
  ended := (line.ends.filter (·.1 ≤ time)).map (·.2)
  cancelled := line.cancelledFrom.any (· ≤ time)

/-- The time of the first look at or after a time. -/
def lookAfter (time : Nat) : Nat := (time + lookInterval - 1) / lookInterval * lookInterval

/-- The looks until the program has ended or its token is cancelled. -/
def looks (line : Timeline) : List Look :=
  let last := max ((line.ends.map (·.1)).getD 0) (line.cancelledFrom.getD 0)
  (List.range (lookAfter last / lookInterval + 1)).map fun k => line.look (k * lookInterval)

end Timeline
end SecretVault.Program
