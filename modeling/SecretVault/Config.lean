import SecretVault.Yaml.Node
import SecretVault.Yaml.Scalar

/-!
The configuration: where the vault is, and the commands to run after writing to it and after
reading a secret. It is kept as a document with two fields, both optional; fields of other names
are passed over.

Source pin: `vlt_core::config`: `Config`, `Hooks`, `Config::database_path`; the document as
`serde_yaml` 0.9 takes it (`Config.parse`) and writes it (`Config.render`).
-/
namespace SecretVault
open SecretVault.Text SecretVault.Yaml

/-- Commands as programs with their arguments; an empty one is never run. -/
structure Hooks where
  postWrite : List String := []
  postRead : List String := []
  deriving DecidableEq, Repr

structure Config where
  database : Option String := none
  hooks : Hooks := {}
  deriving DecidableEq, Repr

namespace Config

/-- The tag of a scalar that is null. -/
def nullTag : Utf8.Bytes := Utf8.encode "tag:yaml.org,2002:null"

/-- Fields by name; none if the name of one is no scalar. -/
def fields? (anchors : List (Nat × Node)) (entries : List (Node × Node)) :
    Option (List (String × Node)) :=
  entries.mapM fun (key, value) =>
    match key.resolve anchors with
    | .scalar _ name _ => some (name, value.resolve anchors)
    | _ => none

/-- Reads a field, or takes what stands for it where it is missing; refused if it is there twice. -/
def readField? {α : Type} (fields : List (String × Node)) (name : String) (missing : α)
    (read : Node → Option α) : Option α :=
  match fields.filter (·.1 == name) with
  | [] => some missing
  | [(_, value)] => read value
  | _ => none

/-- A path, or null: unquoted, a missing value and a word for null, unless another tag makes it
text. -/
def path? : Node → Option (Option String)
  | .scalar tag text plain =>
    let isNull := plain && Yaml.isNull text.toList
    match tag with
    | none => if isNull || (plain && text.isEmpty) then some none else some (some text)
    | some tag =>
      if !plain || tag != nullTag then some (some text) else if isNull then some none else none
  | _ => none

def texts? (anchors : List (Nat × Node)) : Node → Option (List String)
  | .sequence items =>
    items.mapM fun item =>
      match item.resolve anchors with
      | .scalar _ text _ => some text
      | _ => none
  | .scalar _ text plain => if plain && text.isEmpty then some [] else none
  | _ => none

/-- The fields of a mapping; a missing value has none. -/
def mapping? (anchors : List (Nat × Node)) : Node → Option (List (String × Node))
  | .mapping entries => fields? anchors entries
  | .scalar _ text plain => if plain && text.isEmpty then some [] else none
  | _ => none

def hooks? (anchors : List (Nat × Node)) (node : Node) : Option Hooks := do
  let fields ← mapping? anchors node
  return {
    postWrite := ← readField? fields "post_write" [] (texts? anchors)
    postRead := ← readField? fields "post_read" [] (texts? anchors) }

def ofNode? (node : Node) : Option Config := do
  let anchors := node.anchors
  let fields ← mapping? anchors (node.resolve anchors)
  return {
    database := ← readField? fields "database" none path?
    hooks := ← readField? fields "hooks" {} (hooks? anchors) }

/-- Reads the text of a configuration. -/
def parse? (text : String) : Option Config := do ofNode? (← document? text.toList)

/-- A list of commands, each on a line of its own. -/
def writeTexts (texts : List String) : List Char :=
  if texts.isEmpty then " []\n".toList
  else '\n' :: texts.flatMap fun text => "  - ".toList ++ writeScalar 4 text.toList

/-- The text of a configuration; a vault at its usual place is not mentioned. -/
def render (config : Config) : String :=
  let database :=
    match config.database with
    | none => []
    | some path => "database: ".toList ++ writeScalar 2 path.toList
  String.ofList (database ++ "hooks:\n  post_write:".toList ++ writeTexts config.hooks.postWrite ++
    "  post_read:".toList ++ writeTexts config.hooks.postRead)

end Config
end SecretVault
