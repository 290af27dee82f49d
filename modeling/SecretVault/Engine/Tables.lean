import SecretVault.IdMap
import SecretVault.Engine.Error

/-!
The three tables of a vault and the changes that statements make to them. Ids that a table hands
out are above every id it has held: it counts the greatest one. Labels belong to a secret and go
with it, if that is switched on for the connection.

Source pin: the tables of `SCHEMA` in `vlt::schema`, with `AUTOINCREMENT` and `ON DELETE CASCADE` as
SQLite 3.46 has them.
-/
namespace SecretVault.Engine
open SecretVault.Text

/-- What is switched on for a connection. The engine starts with nothing switched on. -/
structure Settings where
  /-- Whether a label needs its secret to be there and goes with it. -/
  foreignKeys : Bool := false
  deriving DecidableEq, Repr

/-- What setting up a connection switches on. -/
def Settings.setUp (s : Settings) : Settings := { s with foreignKeys := true }

/-- The settings of a connection that has been set up. -/
def Settings.ready : Settings := Settings.setUp {}

structure StoredSecret where
  name : Cell
  payload : Cell
  deriving DecidableEq, Repr, Inhabited

structure StoredLabel where
  name : Cell
  secretId : Int
  deriving DecidableEq, Repr, Inhabited

structure Tables where
  masterKey : Option Cell
  secrets : IdMap StoredSecret
  labels : IdMap StoredLabel
  secretCount : Int
  labelCount : Int
  deriving DecidableEq, Inhabited

namespace Tables

def empty : Tables := ⟨none, IdMap.empty, IdMap.empty, 0, 0⟩

/-- The id after every id in use and every id counted; there is none after the greatest. -/
def nextId {α : Type} (rows : IdMap α) (count : Int) : Except Error Int :=
  let last := max count (rows.lastKey?.getD 0)
  if greatestId ≤ last then .error .full else .ok (last + 1)

/-- Keeps the first master key that is put. -/
def putMasterKey (t : Tables) (key : Cell) : Tables :=
  { t with masterKey := some (t.masterKey.getD key) }

def addSecret (t : Tables) (id : Int) (secret : StoredSecret) : Tables :=
  { t with
    secrets := t.secrets.insert id secret
    secretCount := max t.secretCount id }

def addLabel (t : Tables) (id : Int) (label : StoredLabel) : Tables :=
  { t with
    labels := t.labels.insert id label
    labelCount := max t.labelCount id }

def insertSecret (t : Tables) (secret : StoredSecret) : Except Error (Int × Tables) := do
  let id ← nextId t.secrets t.secretCount
  return (id, t.addSecret id secret)

/-- Gives a secret its payload, creating it without a name; answers the number of rows written. -/
def upsertPayload (t : Tables) (id : Int) (payload : Cell) : Nat × Tables :=
  match t.secrets.get? id with
  | some secret => (1, t.addSecret id { secret with payload })
  | none => (1, t.addSecret id ⟨.text "", payload⟩)

/-- Answers the number of secrets renamed. -/
def renameSecret (t : Tables) (id : Int) (name : Cell) : Nat × Tables :=
  match t.secrets.get? id with
  | some secret => (1, { t with secrets := t.secrets.insert id { secret with name } })
  | none => (0, t)

/-- Removes the secrets with the given ids, and all their labels with them; answers the number of
secrets removed. -/
def deleteSecrets (t : Tables) (ids : List Int) (settings : Settings := .ready) : Nat × Tables :=
  ((t.secrets.filter fun id _ => ids.contains id).entries.length,
    { t with
      secrets := t.secrets.filter fun id _ => !ids.contains id
      labels :=
        if settings.foreignKeys then t.labels.filter fun _ label => !ids.contains label.secretId
        else t.labels })

/-- Where labels are held to their secrets, they go with them. -/
theorem labels_deleteSecrets (t : Tables) (ids : List Int) :
    (t.deleteSecrets ids).2.labels = t.labels.filter fun _ label => !ids.contains label.secretId :=
  rfl

/-- The id of the label with a name under a secret. -/
def labelId? (t : Tables) (label : StoredLabel) : Option Int :=
  (t.labels.entries.find? fun entry => entry.2 == label).map (·.1)

/-- Attaches a label under a new id. A label that is there stays as it is, and the id drawn for it
is used up. -/
def attachLabel (t : Tables) (label : StoredLabel) (settings : Settings := .ready) :
    Except Error (Option Int × Tables) := do
  let id ← nextId t.labels t.labelCount
  if (t.labelId? label).isSome then
    return (none, { t with labelCount := id })
  else if t.secrets.contains label.secretId || !settings.foreignKeys then
    return (some id, t.addLabel id label)
  else
    throw .foreignKey

/-- Where labels are held to their secrets, a label is attached to a secret that is there. -/
theorem attachLabel_eq (t : Tables) (label : StoredLabel) : t.attachLabel label = (do
    let id ← nextId t.labels t.labelCount
    if (t.labelId? label).isSome then return (none, { t with labelCount := id })
    else if t.secrets.contains label.secretId then return (some id, t.addLabel id label)
    else throw .foreignKey) := by
  simp [attachLabel, Settings.ready, Settings.setUp]

/-- Removes the given labels; answers their number. -/
def deleteLabels (t : Tables) (selected : Int → StoredLabel → Bool) : Nat × Tables :=
  ((t.labels.filter selected).entries.length,
    { t with labels := t.labels.filter fun id label => !selected id label })

end Tables
end SecretVault.Engine
