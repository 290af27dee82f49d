import SecretVault.IdMap

/-!
Search results: secrets with labels, by id. Rows of one secret and one label each are gathered;
labels keep the order in which they arrive, and the name is that of the first row.

Source pin: `vlt::aggregate`: `SecretLabelRow` is `LabelRow`, `reduce` is `gather`.
-/
namespace SecretVault

structure LabeledSecret where
  name : String
  labels : List String
  deriving DecidableEq, Repr

abbrev LabeledSecrets := IdMap LabeledSecret

/-- One secret together with one of its labels. -/
structure LabelRow where
  id : Int
  name : String
  label : String
  deriving DecidableEq, Repr

namespace LabeledSecrets

/-- Adds the label of a row to its secret, and the secret if it is new. -/
def add (secrets : LabeledSecrets) (row : LabelRow) : LabeledSecrets :=
  match secrets.get? row.id with
  | some secret => secrets.insert row.id { secret with labels := secret.labels ++ [row.label] }
  | none => secrets.insert row.id ⟨row.name, [row.label]⟩

def gather (rows : List LabelRow) : LabeledSecrets :=
  rows.foldl add IdMap.empty

end LabeledSecrets
end SecretVault
