import SecretVault.Config
import SecretVault.Files.Tree
import SecretVault.Text.Quoted

/-!
Configuration files. Where there is none the configuration is the default one.

Source pin: `vlt_core::config`: `Config::load_from` is `load`, `Config::save_to` is `save`.
-/
namespace SecretVault.Config
open SecretVault.Files SecretVault.Text

/-- Why a configuration file was not read, with its path. -/
inductive LoadError where
  | unreadable (path : String) (error : Files.Error)
  | notText (path : String)
  | malformed (path : String)
  deriving DecidableEq, Repr

/-- The message, and its causes except for what is wrong inside the file. -/
def LoadError.chain : LoadError → List String
  | .unreadable path error =>
    ["Failed to read config from " ++ QuoteStyle.path.quote path, error.message]
  | .notText path =>
    ["Failed to read config from " ++ QuoteStyle.path.quote path,
      "stream did not contain valid UTF-8"]
  | .malformed path => ["Failed to parse config from " ++ QuoteStyle.path.quote path]

def load (tree : Tree) (directory : Location) (path : String) : Except LoadError Config :=
  if !tree.pathExists directory path then .ok {}
  else
    match tree.read directory path with
    | .error e => .error (.unreadable path e)
    | .ok bytes =>
      match Utf8.decode bytes with
      | .error _ => .error (.notText path)
      | .ok text =>
        match parse? text with
        | some config => .ok config
        | none => .error (.malformed path)

/-- Writes a configuration to a file, in a directory that is made if need be. -/
def save (config : Config) (tree : Tree) (directory : Location) (path : String) :
    Except Files.Error Tree := do
  let tree ←
    match Path.parent? path with
    | some parent => tree.makeDirectories directory parent
    | none => .ok tree
  tree.write directory path (.bytes (Utf8.encode config.render))

end SecretVault.Config
