import SecretVault.Proofs.History

/-!
What calls send to the engine: the text of each statement and the values bound to it, in the order in
which they are sent.
-/
namespace SecretVault
open SecretVault.Engine

/-- A statement as the engine gets it. -/
structure Sent where
  sql : String
  params : List Param
  deriving DecidableEq, Repr

def Engine.Statement.sent {α : Type} (statement : Statement α) : Sent :=
  ⟨statement.sql, statement.params⟩

/-- The statements that a plan sends. None follows one that fails. -/
def Plan.sent {α : Type} (schedule : Schedule) : Plan α → Connection → List Sent
  | .answer _, _ => []
  | .send statement next, c =>
    statement.sent ::
      match c.send schedule statement with
      | (.ok a, c) => (next a).sent schedule c
      | (.error _, _) => []

/-- The statements that an operation sends when it is run on a connection. -/
def Operation.sent (op : Operation) (schedule : Schedule) (token : Token) (c : Connection) :
    List Sent :=
  match op.refusal? with
  | some _ => []
  | none =>
    match c.install schedule token with
    | (false, _) => []
    | (true, c) => op.plan.sent schedule c

end SecretVault
