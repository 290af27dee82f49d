import SecretVault.Engine.Database

/-!
The tables that a database has. Any of them may be missing; setting a database up creates those that
are, without rows and with nothing counted, and leaves the others as they are. What setting up
switches on for the connection is told by its settings.

Source pin: `vlt::schema`: `SCHEMA`, of which `init` runs every line; `CREATE TABLE IF NOT EXISTS`
of SQLite 3.46.
-/
namespace SecretVault.Engine

/-- The tables in a database, each missing until it is created. Where ids are counted, the count
comes with the table. -/
structure Catalog where
  masterKey : Option (Option Cell)
  secrets : Option (IdMap StoredSecret × Int)
  labels : Option (IdMap StoredLabel × Int)

namespace Catalog

/-- No table at all: what is in a database that has just been made. -/
def blank : Catalog := ⟨none, none, none⟩

/-- All tables. -/
def ofTables (t : Tables) : Catalog :=
  ⟨some t.masterKey, some (t.secrets, t.secretCount), some (t.labels, t.labelCount)⟩

/-- A table with its count, created if it is missing. -/
def createCounted {α : Type} (table : Option (IdMap α × Int)) : IdMap α × Int :=
  table.getD (IdMap.empty, 0)

/-- Creates the tables that are missing. -/
def create (c : Catalog) : Tables where
  masterKey := c.masterKey.getD none
  secrets := (createCounted c.secrets).1
  labels := (createCounted c.labels).1
  secretCount := (createCounted c.secrets).2
  labelCount := (createCounted c.labels).2

@[simp] theorem create_ofTables (t : Tables) : (ofTables t).create = t := rfl

end Catalog

/-- Creates the tables that are missing from what a connection sees. -/
def Database.setUp (d : Database) : Database := d.put (Catalog.ofTables d.current).create

end SecretVault.Engine
