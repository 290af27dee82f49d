import SecretVault.Command.Failure

/-!
What a command does, step by step: it asks for something, waits for the reply, and goes on. Who
replies is left open, so that the steps of several commands can be put in any order, and any of them
can be made to fail.

Source pin: what the program's `cmd_` functions call: the methods of `Store`,
`unchecked_transaction`, `commit` and the rollback of a dropped transaction, `println!`, `write!`
and `flush` on the standard output, `read_to_string` on the standard input, `prompt_password` and
`run_hook`.
-/
namespace SecretVault

inductive Request where
  | store (operation : Operation)
  | begin
  | commit
  /-- Gives up an open transaction. -/
  | abandon
  | print (text : String)
  /-- Passes on what is held back of the printed texts. -/
  | flush
  /-- Asks for all of the input as text. -/
  | readInput
  | prompt (text : String)
  | runHook (hook : Hook)
  deriving DecidableEq, Repr

abbrev Request.Reply : Request → Type
  | .store operation => Except StoreError operation.Answer
  | .begin | .commit => Except StoreError Unit
  | .abandon => Unit
  | .print _ | .flush => Except Files.Error Unit
  | .readInput => Option String
  | .prompt _ => Except Files.Error String
  | .runHook _ => Except Program.Error Unit

inductive Script (α : Type) where
  | done (a : α)
  | fail (failure : Failure)
  | ask (request : Request) (next : request.Reply → Script α)

namespace Script

def bind {α β : Type} : Script α → (α → Script β) → Script β
  | .done a, next => next a
  | .fail failure, _ => .fail failure
  | .ask request reply, next => .ask request fun r => (reply r).bind next

instance : Monad Script where
  pure := .done
  bind := bind

def request (r : Request) : Script r.Reply := .ask r .done

/-- Goes on with a result, or fails for the reason that its error gives. -/
def orFail {ε α : Type} (reason : ε → Failure) : Except ε α → Script α
  | .ok a => .done a
  | .error e => .fail (reason e)

/-- Asks for an operation; its error is the failure. -/
def store (operation : Operation) : Script operation.Answer := do
  orFail .store (← request (.store operation))

/-- Prints a text. A text that the output refuses ends the process. -/
def print (text : String) : Script Unit := do
  orFail .notPrinted (← request (.print text))

def printLine (text : String) : Script Unit := print (text ++ "\n")

/-- Gives up the open transaction before failing. -/
def abandoning {α : Type} : Script α → Script α
  | .done a => .done a
  | .fail failure => .ask .abandon fun () => .fail failure
  | .ask request reply => .ask request fun r => (reply r).abandoning

/-- Does all of a script in a transaction, or nothing of it. -/
def inTransaction {α : Type} (notCommitted : StoreError → Failure) (body : Script α) :
    Script α := do
  orFail .store (← request .begin)
  abandoning do
    let a ← body
    orFail notCommitted (← request .commit)
    return a

/-- Runs a hook; that it fails is a failure of the command. -/
def runHook (hook : Hook) : Script Unit := do
  orFail (.hook hook) (← request (.runHook hook))

end Script
end SecretVault
