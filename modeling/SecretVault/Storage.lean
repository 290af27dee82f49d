import SecretVault.Operation

/-!
What operations run against. An operation asks for a connection once its arguments are accepted, and
not before; one whose arguments are refused never finds out whether there is one.

Source pin: `vlt::store`: `Executor`, `Store`.
-/
namespace SecretVault
open SecretVault.Engine

/-- What is untouchable has no connection to give. -/
inductive Storage where
  | connection (c : Connection)
  | untouchable

def Storage.connection? : Storage → Option Connection
  | .connection c => some c
  | .untouchable => none

/-- Runs an operation against storage. Nothing comes of it if it asks for a connection that is not
there. -/
def Operation.runOn (op : Operation) (schedule : Schedule) (token : Token) (storage : Storage) :
    Option (Except StoreError op.Answer × Storage) :=
  match op.refusal? with
  | some p => some (.error (.precondition p), storage)
  | none => do
    let (result, c) := op.run schedule token (← storage.connection?)
    return (result, .connection c)

end SecretVault
