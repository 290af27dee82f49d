import SecretVault.Engine.Tables

/-!
A database with at most one open transaction. Changes made in a transaction are seen by the same
connection at once and last once it is committed; without one, every change lasts at once.

Source pin: transactions of `rusqlite` 0.32: `unchecked_transaction`, `commit`, `rollback`, and
automatic commits.
-/
namespace SecretVault.Engine

structure Database where
  committed : Tables
  working : Option Tables
  deriving DecidableEq, Inhabited

namespace Database

def fresh : Database := ⟨Tables.empty, none⟩

/-- Opens tables that were stored before. -/
def ofTables (t : Tables) : Database := ⟨t, none⟩

/-- What statements see. -/
def current (d : Database) : Tables := d.working.getD d.committed

def inTransaction (d : Database) : Bool := d.working.isSome

/-- Puts changed tables where they belong. -/
def put (d : Database) (t : Tables) : Database :=
  match d.working with
  | some _ => { d with working := some t }
  | none => { d with committed := t }

/-- Forgets an open transaction and what was done in it. -/
def abandon (d : Database) : Database := { d with working := none }

def begin (d : Database) : Except Error Unit × Database :=
  if d.inTransaction then (.error .nestedTransaction, d)
  else (.ok (), { d with working := some d.committed })

def commit (d : Database) : Except Error Unit × Database :=
  match d.working with
  | some t => (.ok (), ofTables t)
  | none => (.error .nothingToCommit, d)

def rollback (d : Database) : Except Error Unit × Database :=
  if d.inTransaction then (.ok (), d.abandon) else (.error .nothingToRollBack, d)

/-- Runs a change as one statement: it takes place as a whole or not at all. -/
def apply {α : Type} (d : Database) (change : Tables → Except Error (α × Tables)) :
    Except Error α × Database :=
  match change d.current with
  | .ok (answer, t) => (.ok answer, d.put t)
  | .error e => (.error e, if e.endsTransaction then d.abandon else d)

end Database
end SecretVault.Engine
