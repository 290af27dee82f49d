import SecretVault.Command
import SecretVault.Command.Script
import SecretVault.Json.Printer

/-!
The commands as scripts. All but the first need a master key. A command that writes reports its
success before its hook runs.

Source pin: `run`, `dispatch`, `require_master_key`, `read_value`, `read_piped_value`, `show_to`,
the `cmd_` functions and `print_secrets` of the program; `read_piped_value` is in `readValue`, and
each `cmd_` function has the name of its command here.
-/
namespace SecretVault
open SecretVault.Text

/-- A text filled up with spaces to a width. -/
def column (width : Nat) (text : String) : String :=
  text ++ String.ofList (List.replicate (width - text.length) ' ')

def tableRow (id name labels : String) : String :=
  column 6 id ++ " " ++ column 24 name ++ " " ++ labels

namespace LabeledSecrets

/-- A header, and a line for each secret. -/
def table (secrets : LabeledSecrets) : List String :=
  tableRow "ID" "NAME" "LABELS" :: secrets.entries.map fun (id, secret) =>
    tableRow (String.ofList (Decimal.ofInt id)) secret.name (", ".intercalate secret.labels)

end LabeledSecrets

/-- An id as messages write it. -/
def idText (id : Int) : String := String.ofList (Decimal.ofInt id)

/-- The text without one line end, if it has one. -/
def dropLineEnd (text : String) : String :=
  match text.toList.reverse with
  | '\n' :: '\r' :: rest | '\n' :: rest => String.ofList rest.reverse
  | _ => text

namespace Script

def requireMasterKey : Script Unit := do
  match ← request (.store .queryMasterKey) with
  | .ok _ => return ()
  | .error (.notFound _) => .fail .notInitialized
  | .error e => .fail (.noMasterKey e)

def readValue (source : ValueSource) : Script String := do
  let value ←
    match source with
    | .given value => pure value
    | .input =>
      match ← request .readInput with
      | some text => pure (dropLineEnd text)
      | none => .fail .inputNotRead
    | .prompt => do orFail .valueNotRead (← request (.prompt "Enter secret value: "))
  if value.isEmpty then .fail .emptyValue else return value

def readKey : Option String → Script String
  | some key => .done key
  | none => do orFail .keyNotRead (← request (.prompt "Choose master key: "))

def insertLabels (id : Int) : List String → Script Unit
  | [] => .done ()
  | label :: labels => do
    let _ ← store (.insertLabel label id)
    insertLabels id labels

/-- Asks for an operation on a secret that has to be there. -/
def storeAt (id : Int) (operation : Operation) : Script operation.Answer := do
  let reason : StoreError → Failure
    | .notFound _ => .noSuchSecret id
    | e => .store e
  orFail reason (← request (.store operation))

def printSecrets (secrets : LabeledSecrets) (json : Bool) : Script Unit :=
  if json then printLine (String.ofList (Json.Layout.pretty.print secrets))
  else if secrets.entries.isEmpty then printLine "No matching secrets."
  else print (String.join (secrets.table.map (· ++ "\n")))

def setUp (key : Option String) : Script Unit := do
  match ← request (.store .queryMasterKey) with
  | .ok _ => printLine "warning: Vault already initialized"
  | .error (.notFound _) =>
    let key ← readKey key
    if key.isEmpty then .fail .emptyKey
    else
      store (.insertMasterKey key)
      printLine "success: Vault initialized"
      runHook .postWrite
  | .error e => .fail (.store e)

def save (name : String) (labels : List String) (source : ValueSource) : Script Unit := do
  let payload ← readValue source
  let id ← inTransaction .notSaved do
    let id ← store (.insertSecret name payload)
    insertLabels id labels
    return id
  printLine ("success: Secret saved: " ++ idText id ++ " (" ++ name ++ ")")
  runHook .postWrite

/-- The search that finds the secrets a listing is about. -/
def search (name : Option String) (labels : List String) : Script LabeledSecrets :=
  match name, labels with
  | some name, label :: labels => store (.searchLabelsAndName name (label :: labels))
  | none, label :: labels => store (.searchColumn .label (label :: labels))
  | some name, [] => store (.searchColumn .secretName [name])
  | none, [] => store (.searchColumn .label [])

/-- A search by labels finds the matching labels only, so the secrets are looked up once more. -/
def find (name : Option String) (labels : List String) (json : Bool) : Script Unit := do
  let found ← search name labels
  let secrets ←
    if labels.isEmpty || found.entries.isEmpty then pure found
    else store (.searchIds (found.entries.map (·.1)))
  printSecrets secrets json

/-- The payload is passed on before the hook runs, which writes to the same output. -/
def «show» (id : Int) (lineEnd : Bool) : Script Unit := do
  let payload ← storeAt id (.readPayload id)
  orFail .notPassedOn (← request (.print (if lineEnd then payload ++ "\n" else payload)))
  orFail .notPassedOn (← request .flush)
  runHook .postRead

def describe (ids : List Int) (json : Bool) : Script Unit := do
  printSecrets (← store (.searchIds ids)) json

def set (id : Int) (source : ValueSource) : Script Unit := do
  let payload ← readValue source
  let _ ← store (.upsertSecret id payload)
  printLine ("success: Secret updated: " ++ idText id)
  runHook .postWrite

def label (id : Int) (labels : List String) : Script Unit := do
  inTransaction .store (insertLabels id labels)
  printLine ("success: Labeled " ++ idText id ++ ": " ++ ", ".intercalate labels)
  runHook .postWrite

def unlabel (id : Int) (patterns : List String) : Script Unit := do
  let removed ← store (.deleteLabels id patterns)
  printLine ("success: Removed " ++ toString removed ++ " label(s) from " ++ idText id)
  runHook .postWrite

def rename (id : Int) (name : String) : Script Unit := do
  storeAt id (.renameSecret id name)
  printLine ("success: Renamed " ++ idText id ++ " to " ++ name)
  runHook .postWrite

def remove (ids : List Int) : Script Unit := do
  let removed ← store (.deleteSecrets ids)
  printLine ("success: Deleted " ++ toString removed ++ " secret(s)")
  runHook .postWrite

end Script

/-- What a command does in a vault with a master key. -/
def Command.action : Command → Script Unit
  | .init key => Script.setUp key
  | .save name labels value => Script.save name labels value
  | .find name labels json => Script.find name labels json
  | .show id lineEnd => Script.show id lineEnd
  | .describe ids json => Script.describe ids json
  | .set id value => Script.set id value
  | .label id labels => Script.label id labels
  | .unlabel id patterns => Script.unlabel id patterns
  | .rename id name => Script.rename id name
  | .remove ids => Script.remove ids

/-- What a command does. -/
def Command.script : Command → Script Unit
  | .init key => Script.setUp key
  | command => do
    Script.requireMasterKey
    command.action

end SecretVault
