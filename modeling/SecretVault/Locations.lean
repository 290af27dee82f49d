import SecretVault.Config
import SecretVault.Files.Path

/-!
Where the vault and the configuration are kept: below the home directory, unless the environment
names other directories.

Source pin: `vlt_core::paths`: `Paths`, with the directories as `dirs` 5 finds them.
-/
namespace SecretVault
open SecretVault.Files

/-- Values of environment variables by name. -/
abbrev Environment := List (String × String)

structure Locations where
  data : String
  config : String
  deriving DecidableEq, Repr

namespace Locations

/-- A directory that a variable names, if the name is absolute; otherwise one below home. -/
def baseDirectory (env : Environment) (name belowHome : String) : String :=
  match env.lookup name with
  | some path =>
    if Path.isAbsolute path then path else Path.join ((env.lookup "HOME").getD "") belowHome
  | none => Path.join ((env.lookup "HOME").getD "") belowHome

def ofEnvironment (env : Environment) : Locations where
  data := Path.join (baseDirectory env "XDG_DATA_HOME" ".local/share") "vlt"
  config := Path.join (baseDirectory env "XDG_CONFIG_HOME" ".config") "vlt"

def database (l : Locations) : String := Path.join l.data "vault.db"

def configFile (l : Locations) : String := Path.join l.config "config.yaml"

end Locations

/-- The path of the vault: from the environment, else as configured, else the usual one. -/
def Config.databasePath (config : Config) (env : Environment) : String :=
  match (env.lookup "VLT_DATABASE").filter (!·.isEmpty) with
  | some path => path
  | none => config.database.getD (Locations.ofEnvironment env).database

end SecretVault
