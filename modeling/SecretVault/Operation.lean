import SecretVault.Engine.Connection
import SecretVault.Files.Error

/-!
Operations on a vault. Each checks its arguments before it asks for a connection, then installs a
guard with its token, and sends one statement or two. The guard goes when the operation ends.

Source pin: `vlt::store`: the methods of `Store`. `insert_new_secret` is `insertSecret`, `secret` is
`readPayload`, `secrets_by_column`, `secrets_by_ids` and `secrets_by_labels_and_name` are
`searchColumn`, `searchIds` and `searchLabelsAndName`. `vlt::error`: `StoreError`, `Precondition`,
`Entity`.
-/
namespace SecretVault
open SecretVault.Engine

/-- Arguments that are refused before any storage access. -/
inductive Precondition where
  | noIds | noLabels
  deriving DecidableEq, Repr

def Precondition.message : Precondition → String
  | .noIds => "no IDs provided"
  | .noLabels => "no labels provided"

/-- What a lookup of a single row looked for. -/
inductive Entity where
  | masterKey | secret
  deriving DecidableEq, Repr

def Entity.noun : Entity → String
  | .masterKey => "master key"
  | .secret => "secret"

inductive StoreError where
  | precondition (p : Precondition)
  | notFound (e : Entity)
  | cancelled
  | engine (e : Engine.Error)
  | files (e : Files.Error)
  deriving DecidableEq, Repr

namespace StoreError

def message : StoreError → String
  | .precondition p => p.message
  | .notFound e => e.noun ++ " not found"
  | .cancelled => "operation cancelled"
  | .engine e => e.message
  | .files e => "IO error: " ++ e.message

/-- The message with the causes below it. -/
def chain (e : StoreError) : List String :=
  e.message :: match e with
    | .engine cause => cause.cause?.toList
    | .files cause => [cause.message]
    | .precondition _ | .notFound _ | .cancelled => []

def isNotFound : StoreError → Bool
  | .notFound _ => true
  | _ => false

/-- A stopped statement means that the operation was cancelled. -/
def ofEngine : Engine.Error → StoreError
  | .interrupted => .cancelled
  | e => .engine e

end StoreError

inductive Operation where
  | insertMasterKey (key : String)
  | queryMasterKey
  | insertSecret (name payload : String)
  | upsertSecret (id : Int) (payload : String)
  | readPayload (id : Int)
  | renameSecret (id : Int) (name : String)
  | deleteSecrets (ids : List Int)
  | insertLabel (name : String) (secretId : Int)
  | deleteLabels (secretId : Int) (patterns : List String)
  | searchColumn (column : Column) (patterns : List String)
  | searchIds (ids : List Int)
  | searchLabelsAndName (name : String) (labels : List String)
  deriving DecidableEq, Repr

/-- The statements of an operation: an answer, or a statement and what follows its answer. -/
inductive Plan (α : Type) : Type 1 where
  | answer (result : Except StoreError α)
  | send {β : Type} (statement : Statement β) (next : β → Plan α)

namespace Plan

/-- A single statement whose answer is that of the operation. -/
def single {α : Type} (statement : Statement α) : Plan α := .send statement fun a => .answer (.ok a)

/-- Sends the statements in turn; an error of one is that of the operation. -/
def run {α : Type} (schedule : Schedule) :
    Plan α → Connection → Except StoreError α × Connection
  | .answer result, c => (result, c)
  | .send statement next, c =>
    match c.send schedule statement with
    | (.ok a, c) => (next a).run schedule c
    | (.error e, c) => (.error (.ofEngine e), c)

end Plan

namespace Operation

abbrev Answer : Operation → Type
  | .insertMasterKey _ | .renameSecret .. => Unit
  | .queryMasterKey | .readPayload _ => String
  | .insertSecret .. | .insertLabel .. => Int
  | .upsertSecret .. | .deleteSecrets _ | .deleteLabels .. => Nat
  | .searchColumn .. | .searchIds _ | .searchLabelsAndName .. => LabeledSecrets

/-- The precondition that the arguments fail, if any. -/
def refusal? : Operation → Option Precondition
  | .deleteSecrets ids | .searchIds ids => if ids.isEmpty then some .noIds else none
  | .deleteLabels _ patterns => if patterns.isEmpty then some .noLabels else none
  | .searchLabelsAndName _ labels => if labels.isEmpty then some .noLabels else none
  | _ => none

def orNotFound {α : Type} (entity : Entity) (found : Option α) : Plan α :=
  .answer (found.elim (.error (.notFound entity)) .ok)

def plan : (op : Operation) → Plan op.Answer
  | .insertMasterKey key => .single (Statement.insertMasterKey key)
  | .queryMasterKey => .send Statement.selectMasterKey (orNotFound .masterKey)
  | .insertSecret name payload => .single (Statement.insertSecret name payload)
  | .upsertSecret id payload => .single (Statement.upsertSecret id payload)
  | .readPayload id => .send (Statement.selectPayload id) (orNotFound .secret)
  | .renameSecret id name =>
    .send (Statement.renameSecret id name) fun renamed =>
      .answer (if renamed = 0 then .error (.notFound .secret) else .ok ())
  | .deleteSecrets ids => .single (Statement.deleteSecrets ids)
  | .insertLabel name secretId =>
    .send (Statement.insertLabel name secretId) fun
      | some id => .answer (.ok id)
      | none => .single (Statement.selectLabelId name secretId)
  | .deleteLabels secretId patterns => .single (Statement.deleteLabels secretId patterns)
  | .searchColumn column patterns => .single (Statement.search [.globAny column patterns])
  | .searchIds ids => .single (Statement.search [.idIn .secretId ids])
  | .searchLabelsAndName name labels =>
    .single (Statement.search [.globAny .label labels, .globAny .secretName [name]])

/-- Runs an operation with a token on a connection. -/
def run (op : Operation) (schedule : Schedule) (token : Token) (c : Connection) :
    Except StoreError op.Answer × Connection :=
  match op.refusal? with
  | some p => (.error (.precondition p), c)
  | none =>
    match c.install schedule token with
    | (false, c) => (.error .cancelled, c)
    | (true, c) =>
      let (result, c) := op.plan.run schedule c
      (result, c.uninstall)

end Operation
end SecretVault
