import SecretVault.Engine.Search

/-!
Statements: the text sent to the engine, the values bound to it, and what it does. The text depends
on the kind of statement and on the number of its values alone.

Source pin: `vlt::store`: the statements `INSERT_MASTER_KEY` to `SECRETS_JOIN_LABELS`, and the text
that `delete_secrets` and `delete_labels` put together.
-/
namespace SecretVault.Engine

/-- A statement with an answer. While it runs, the engine looks up `checks` times whether to
stop it. -/
structure Statement (α : Type) where
  sql : String
  params : List Param
  writes : Bool
  checks : Nat
  /-- What it does under the settings of a connection. -/
  under : Settings → Tables → Except Error (α × Tables)

namespace Statement

/-- What a statement does on a connection that has been set up. -/
def change {α : Type} (statement : Statement α) : Tables → Except Error (α × Tables) :=
  statement.under .ready

/-- A statement that changes nothing. -/
def reading {α : Type} (sql : String) (params : List Param) (answer : Tables → Except Error α) :
    Statement α :=
  ⟨sql, params, false, 1, fun _ t => (answer t).map fun a => (a, t)⟩

theorem change_reading {α : Type} (sql : String) (params : List Param)
    (answer : Tables → Except Error α) :
    (reading sql params answer).change = fun t => (answer t).map fun a => (a, t) := rfl

def writing {α : Type} (sql : String) (params : List Param)
    (change : Tables → Except Error (α × Tables)) : Statement α :=
  ⟨sql, params, true, 1, fun _ => change⟩

/-- A statement that writes what the settings decide upon. -/
def writingUnder {α : Type} (sql : String) (params : List Param)
    (under : Settings → Tables → Except Error (α × Tables)) : Statement α :=
  ⟨sql, params, true, 1, under⟩

def insertMasterKey (key : String) : Statement Unit :=
  .writing
    "\n    INSERT INTO master_key (id, key)\n    VALUES (0, ?)\n    ON CONFLICT (id) DO NOTHING\n"
    [.text key] fun t => .ok ((), t.putMasterKey (.text key))

def selectMasterKey : Statement (Option String) :=
  .reading "SELECT key FROM master_key WHERE id = 0" [] fun t =>
    t.masterKey.mapM fun key => key.read 0 "key"

def insertSecret (name payload : String) : Statement Int :=
  .writing "INSERT INTO secrets (name, secret) VALUES (?, ?)" [.text name, .text payload] fun t =>
    t.insertSecret ⟨.text name, .text payload⟩

def upsertSecret (id : Int) (payload : String) : Statement Nat :=
  .writing
    ("\n    INSERT INTO secrets (id, secret)\n    VALUES (?, ?)\n" ++
      "    ON CONFLICT (id) DO UPDATE SET secret = excluded.secret\n")
    [.int id, .text payload] fun t => .ok (t.upsertPayload id (.text payload))

def selectPayload (id : Int) : Statement (Option String) :=
  .reading "SELECT secret FROM secrets WHERE id = ?" [.int id] fun t =>
    (t.secrets.get? id).mapM fun secret => secret.payload.read 0 "secret"

def renameSecret (id : Int) (name : String) : Statement Nat :=
  .writing "UPDATE secrets SET name = ? WHERE id = ?" [.text name, .int id] fun t =>
    .ok (t.renameSecret id (.text name))

/-- Answers the new id, or nothing when the label is there already. -/
def insertLabel (name : String) (secretId : Int) : Statement (Option Int) :=
  .writingUnder
    ("\n    INSERT INTO labels (name, secret_id)\n    VALUES (?, ?)\n" ++
      "    ON CONFLICT (name, secret_id) DO NOTHING\n")
    [.text name, .int secretId] fun settings t => t.attachLabel ⟨.text name, secretId⟩ settings

def selectLabelId (name : String) (secretId : Int) : Statement Int :=
  .reading "SELECT id FROM labels WHERE name = ? AND secret_id = ?" [.text name, .int secretId]
    fun t => ((t.labelId? ⟨.text name, secretId⟩).elim (.error .noRows) .ok)

/-- Refuses a query beyond the limits: a condition too deep, a join adding one level to it, or too
many values. The text of the query and each of the values are taken to be within the 10^9 bytes that
the engine accepts. -/
def withinLimits (q : Query) (joins : Bool) : Except Error Unit :=
  if maxDepth < q.depth + (if joins then 1 else 0) then .error .tooDeep
  else if maxParams < q.params.length then
    .error (.tooManyParams q.sql (placeholderOffset maxParams 0 q.sql.toList))
  else .ok ()

def deleteSecretsQuery (ids : List Int) : Query :=
  (Query.ofTemplate "DELETE FROM secrets AS s").filter (.idIn .secretId ids)

def deleteSecrets (ids : List Int) : Statement Nat :=
  let q := deleteSecretsQuery ids
  .writingUnder q.sql q.params fun settings t => do
    withinLimits q false
    return t.deleteSecrets ids settings

def deleteLabelsQuery (secretId : Int) (patterns : List String) : Query :=
  ((Query.ofTemplate "DELETE FROM labels AS l").filter (.idIn .labelSecretId [secretId])).filter
    (.globAny .label patterns)

def deleteLabels (secretId : Int) (patterns : List String) : Statement Nat :=
  let q := deleteLabelsQuery secretId patterns
  .writing q.sql q.params fun t => do
    withinLimits q false
    let selected ← matchingLabels t secretId (.globAny .label patterns)
    let ids := selected.map (·.1)
    return t.deleteLabels fun id _ => ids.contains id

/-- Secrets with their labels, secrets in the order of their ids and labels in that of theirs. -/
def searchQuery (clauses : List Clause) : Query :=
  (clauses.foldl Query.filter (Query.ofTemplate
    ("\n    SELECT\n        s.id,\n        s.name,\n        l.name\n" ++
      "    FROM\n        secrets s\n" ++
      "        JOIN labels l ON s.id = l.secret_id\n"))).orderBy "s.id, l.id"

def search (clauses : List Clause) : Statement LabeledSecrets :=
  let q := searchQuery clauses
  .reading q.sql q.params fun t => do
    withinLimits q true
    Engine.search t clauses

/-- Steps of the engine for each number of a recursive sum, and between two looks whether to
stop. -/
def stepsPerNumber : Nat := 12
def stepsPerCheck : Nat := 1000

/-- The sum of the numbers from 1 to `n`, one at least, computed one by one. -/
def sumTo (n : Nat) : Statement Int :=
  ⟨"WITH RECURSIVE n(x) AS (SELECT 1 UNION ALL SELECT x + 1 FROM n WHERE x < ?) " ++
      "SELECT sum(x) FROM n",
    [.int n], false, stepsPerNumber * n / stepsPerCheck,
    fun _ t => .ok ((max 1 n * (max 1 n + 1) / 2 : Nat), t)⟩

end Statement
end SecretVault.Engine
