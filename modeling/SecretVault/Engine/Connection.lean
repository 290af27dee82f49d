import SecretVault.Engine.Database
import SecretVault.Engine.Statement

/-!
A connection and the cancellation of what runs on it. Time is counted in moments: one for looking
at a token when a guard is installed, and one for each look while a statement runs. A guard makes
the engine look at its token; without a guard nothing stops a statement.

Source pin: `vlt::cancel`: `CancelGuard`; the progress handler of SQLite 3.46.
-/
namespace SecretVault.Engine

abbrev Token := Nat

/-- The moment from which on each token is cancelled, if ever. -/
abbrev Schedule := Token → Option Nat

def Schedule.cancelled (schedule : Schedule) (token : Token) (moment : Nat) : Bool :=
  (schedule token).any (· ≤ moment)

/-- A connection that has been set up. -/
structure Connection where
  database : Database
  handler : Option Token
  clock : Nat
  settings : Settings
  isReady : settings.foreignKeys = true

namespace Connection

/-- Opens a connection, and sets it up. -/
def opened (database : Database) : Connection := ⟨database, none, 0, Settings.setUp {}, rfl⟩

theorem settings_eq (c : Connection) : c.settings = .ready :=
  congrArg Settings.mk c.isReady

/-- Lets the engine look at a token from now on, unless the token is cancelled already. -/
def install (schedule : Schedule) (token : Token) (c : Connection) : Bool × Connection :=
  if schedule.cancelled token c.clock then (false, { c with clock := c.clock + 1 })
  else (true, { c with handler := some token, clock := c.clock + 1 })

def uninstall (c : Connection) : Connection := { c with handler := none }

/-- Whether a statement with so many checks is stopped: the last look decides, as a token stays
cancelled. -/
def stops (schedule : Schedule) (checks : Nat) (c : Connection) : Bool :=
  match c.handler with
  | some token => 0 < checks && schedule.cancelled token (c.clock + checks - 1)
  | none => false

/-- Runs a statement. Stopping one that writes ends an open transaction. While the engine still
prepares a statement with hundreds of patterns it looks at the token, too; a stop there leaves an
open transaction as it is, which is what a stop before the statement does: it counts as found by the
look when the guard was installed. -/
def send {α : Type} (schedule : Schedule) (statement : Statement α) (c : Connection) :
    Except Error α × Connection :=
  let later := { c with clock := c.clock + statement.checks }
  if c.stops schedule statement.checks then
    (.error .interrupted,
      if statement.writes then { later with database := c.database.abandon } else later)
  else
    let (answer, database) := c.database.apply (statement.under c.settings)
    (answer, { later with database })

/-- On a connection all statements do what they do once it has been set up. -/
theorem send_eq {α : Type} (schedule : Schedule) (statement : Statement α) (c : Connection) :
    c.send schedule statement =
      let later := { c with clock := c.clock + statement.checks }
      if c.stops schedule statement.checks then
        (.error .interrupted,
          if statement.writes then { later with database := c.database.abandon } else later)
      else
        let (answer, database) := c.database.apply statement.change
        (answer, { later with database }) := by
  have ready : statement.under c.settings = statement.change :=
    congrArg statement.under c.settings_eq
  rw [send, ready]

end Connection
end SecretVault.Engine
