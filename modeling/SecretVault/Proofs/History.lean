import SecretVault.Proofs.Performing

/-!
Calls on a connection, one after the other. Each is made with a token of its own, and the next one
is made whatever the answer was.
-/
namespace SecretVault
open SecretVault.Engine

/-- An operation with the token of its caller. -/
structure Call where
  operation : Operation
  token : Token

/-- An operation with what it answered. -/
structure Exchange where
  operation : Operation
  answer : Except StoreError operation.Answer

namespace Engine.Connection

/-- The connection after some calls. -/
def afterCalls (c : Connection) (schedule : Schedule) (calls : List Call) : Connection :=
  calls.foldl (fun c call => (call.operation.run schedule call.token c).2) c

@[simp] theorem afterCalls_nil (c : Connection) (schedule : Schedule) :
    c.afterCalls schedule [] = c := rfl

theorem afterCalls_cons (c : Connection) (schedule : Schedule) (call : Call) (rest : List Call) :
    c.afterCalls schedule (call :: rest) =
      (call.operation.run schedule call.token c).2.afterCalls schedule rest := rfl

theorem afterCalls_append (c : Connection) (schedule : Schedule) (first second : List Call) :
    c.afterCalls schedule (first ++ second) =
      (c.afterCalls schedule first).afterCalls schedule second :=
  List.foldl_append

/-- What some calls answer in turn. -/
def exchanges (c : Connection) (schedule : Schedule) : List Call → List Exchange
  | [] => []
  | call :: rest =>
    ⟨call.operation, (call.operation.run schedule call.token c).1⟩ ::
      (call.operation.run schedule call.token c).2.exchanges schedule rest

end Engine.Connection
end SecretVault
