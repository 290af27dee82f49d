/-!
How a program ends: with a status of its own, or by a signal.

Source pin: the statuses that `vlt_core::process` reports, with the signals of Linux.
-/
namespace SecretVault.Program

/-- Names of the signals from 1 on. -/
def signalNames : List String :=
  ["HUP", "INT", "QUIT", "ILL", "TRAP", "ABRT", "BUS", "FPE", "KILL", "USR1", "SEGV", "USR2",
    "PIPE", "ALRM", "TERM", "STKFLT", "CHLD", "CONT", "STOP", "TSTP", "TTIN", "TTOU", "URG",
    "XCPU", "XFSZ", "VTALRM", "PROF", "WINCH", "IO", "PWR", "SYS"]

def signalName? (signal : Nat) : Option String :=
  if signal = 0 then none else signalNames[signal - 1]?

/-- The signal that a name or a number stands for. -/
def signalNumber? (name : String) : Option Nat :=
  match signalNames.findIdx? (· == name) with
  | some i => some (i + 1)
  | none => name.toNat?

/-- Signals that leave a program running or only suspend it. -/
def isHarmless (signal : Nat) : Bool :=
  signal = 0 || ((signalName? signal).any
    ["CHLD", "CONT", "STOP", "TSTP", "TTIN", "TTOU", "URG", "WINCH"].contains)

inductive ExitStatus where
  | code (n : Nat)
  | signal (n : Nat)
  deriving DecidableEq, Repr

namespace ExitStatus

def isSuccess (status : ExitStatus) : Bool := status == .code 0

def text : ExitStatus → String
  | .code n => "exit status: " ++ toString n
  | .signal n =>
    let name := ((signalName? n).map fun name => " (SIG" ++ name ++ ")").getD ""
    "signal: " ++ toString n ++ name

end ExitStatus
end SecretVault.Program
