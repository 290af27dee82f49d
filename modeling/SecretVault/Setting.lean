import SecretVault.Engine.Connection
import SecretVault.Files.Tree
import SecretVault.Locations

/-!
What a command line finds when it is started, what it leaves, and what comes from outside while it
is carried out: interrupts, and an output that takes no more.

Source pin: `cancel_on_interrupt` of the program. The first interrupt cancels the token of the
session, a second one ends the process. Signals that the process does not handle are left out.
-/
namespace SecretVault
open SecretVault.Engine SecretVault.Files SecretVault.Text

/-- What a command line finds when it is started. -/
structure Setting where
  tree : Tree
  directory : Location
  environment : Environment
  input : Utf8.Bytes

/-- What a command line leaves. -/
structure Finished where
  exitCode : Nat
  tree : Tree
  output : Utf8.Bytes
  errors : Utf8.Bytes

/-- What comes from outside, as seen from the next request on. -/
structure Circumstances where
  /-- The moment from which on the token is cancelled, if ever. -/
  interrupted : Option Nat := none
  /-- How many requests from now a second interrupt ends the process, if ever. -/
  quits : Option Nat := none
  /-- Of each request, how much the output takes of what is passed on there, and why no more. -/
  refusals : Nat → Option (Nat × Files.Error) := fun _ => none

namespace Circumstances

/-- Nothing comes from outside, and the output takes everything. -/
def calm : Circumstances := {}

/-- The output takes nothing at all. -/
def refusing (e : Files.Error) : Circumstances := { refusals := fun _ => some (0, e) }

/-- The process ends here, whatever it is about to do. -/
def isOver (c : Circumstances) : Bool := c.quits == some 0

/-- When tokens are cancelled: there is only one. -/
def schedule (c : Circumstances) : Schedule := fun _ => c.interrupted

/-- The circumstances as seen after one request more. -/
def next (c : Circumstances) : Circumstances where
  interrupted := c.interrupted
  quits := c.quits.map (· - 1)
  refusals request := c.refusals (request + 1)

/-- As seen after so many requests. -/
def after (c : Circumstances) : Nat → Circumstances
  | 0 => c
  | requests + 1 => c.next.after requests

/-- Passes bytes on to the output: whether it takes all of them, and what it takes. -/
def passOn (c : Circumstances) (bytes : Utf8.Bytes) : Except Files.Error Unit × Utf8.Bytes :=
  match c.refusals 0 with
  | some (taken, e) =>
    if taken < bytes.length then (.error e, bytes.take taken) else (.ok (), bytes)
  | none => (.ok (), bytes)

end Circumstances

/-- A way to start the program: what it leaves, and what it leaves of its input. -/
abbrev Starter := Setting → Circumstances → List String → Finished × Utf8.Bytes

end SecretVault
