import SecretVault.Proofs.Files.Vaults
import SecretVault.Session

/-!
How a session starts. The vault that is opened holds what was kept in its place before, and nothing
else has happened yet.
-/
namespace SecretVault
open SecretVault.Engine SecretVault.Files

/-- What a vault in this place has in it. Nothing is kept of a vault of one's own. -/
def Place.tables (place : Place) (tree : Tree) : Tables :=
  match place with
  | .file location => tree.tablesAt location
  | .temporary => Tables.empty

namespace Opening

/-- Opening a file opens it where it is. -/
theorem place_openFile {tree tree' : Tree} {location : Location} {path : String}
    {vault : OpenVault} (opened : openFile tree location path = (.ok vault, tree')) :
    vault.place = .file location := by
  unfold openFile at opened
  split at opened
  · cases opened
  · cases opened
    rfl
  · cases opened
  · cases opened
    rfl
  · split at opened
    · cases opened
      rfl
    · cases opened

/-- Where the vault is that a path stands for, unless it is one's own. -/
def vaultLocation (directory : Location) (path : String) : Location :=
  walk (if Path.isAbsolute (fileName path) then [] else directory) (Path.pieces (fileName path))

/-- A vault that is opened is one's own and new, or it is opened where its path leads. The
directories above it have been made before. -/
theorem openVault_eq_ok {tree tree' : Tree} {directory : Location} {path : String}
    {vault : OpenVault} (opened : openVault tree directory path = (.ok vault, tree')) :
    ∃ made, tree.makeDirectories directory ((Path.parent? path).getD "") = .ok made ∧
      nulPosition? path = none ∧
      (isPrivate path = true ∧ vault = ⟨.temporary, .fresh⟩ ∧ tree' = made ∨
        isPrivate path = false ∧
          openFile made (vaultLocation directory path) path = (.ok vault, tree')) := by
  unfold openVault at opened
  dsimp only at opened
  split at opened
  · cases opened
  · rename_i made making
    refine ⟨made, making, ?_⟩
    split at opened
    · cases opened
    · rename_i noNul
      refine ⟨noNul, ?_⟩
      split at opened
      · rename_i own
        cases opened
        exact .inl ⟨own, rfl, rfl⟩
      · rename_i shared
        exact .inr ⟨Bool.eq_false_iff.2 shared, opened⟩

/-- An opened vault holds what is kept in its place. -/
theorem database_openVault {tree tree' : Tree} {directory : Location} {path : String}
    {vault : OpenVault} (opened : openVault tree directory path = (.ok vault, tree')) :
    vault.database = .ofTables (vault.place.tables tree) := by
  have found := finds_openVault tree directory path
  rw [opened] at found
  obtain ⟨t, database, keeps⟩ := found.2 vault rfl
  obtain ⟨made, -, -, ⟨-, rfl, -⟩ | ⟨-, openedFile⟩⟩ := openVault_eq_ok opened
  · rfl
  · rw [place_openFile openedFile] at keeps ⊢
    rw [database, Place.tables, keeps.2]

end Opening

namespace Setting
variable {s : Setting} {invocation : Arguments.Invocation}

/-- The path that a command line opens its vault at, under a configuration. -/
def vaultPath (s : Setting) (invocation : Arguments.Invocation) (config : Config) : String :=
  invocation.database.getD (config.databasePath s.environment)

/-- A session that has started has read a configuration and opened a vault. -/
theorem start_eq_ok {session : Session} (started : s.start invocation = .ok session) :
    ∃ config vault tree, s.loadConfig invocation.config = .ok config ∧
      Opening.openVault s.tree s.directory (s.vaultPath invocation config) = (.ok vault, tree) ∧
      session = {
        tree, directory := s.directory, environment := s.environment, input := s.input
        output := [], errors := [], config, place := vault.place
        connection := Connection.opened vault.database, own } := by
  unfold start startWith at started
  cases loaded : s.loadConfig invocation.config with
  | error e =>
    rw [loaded] at started
    cases started
  | ok config =>
    rw [loaded] at started
    dsimp only at started
    cases opened : Opening.openVault s.tree s.directory (s.vaultPath invocation config) with
    | mk result tree =>
      rw [vaultPath] at opened
      rw [opened] at started
      cases result with
      | error e => cases started
      | ok vault =>
        cases started
        exact ⟨config, vault, tree, rfl, opened, rfl⟩

/-- With a configuration read and a vault opened a session starts. -/
theorem start_of_opened {config : Config} {vault : OpenVault} {tree : Tree}
    (loaded : s.loadConfig invocation.config = .ok config)
    (opened : Opening.openVault s.tree s.directory (s.vaultPath invocation config) =
      (.ok vault, tree)) :
    s.start invocation = .ok {
      tree, directory := s.directory, environment := s.environment, input := s.input
      output := [], errors := [], config, place := vault.place
      connection := Connection.opened vault.database, own } := by
  rw [vaultPath] at opened
  simp only [start, startWith, loaded, opened]

/-- A session has a vault of its own or one in a file, as its path says. -/
theorem place_start {session : Session} (started : s.start invocation = .ok session) :
    let path := s.vaultPath invocation session.config
    Opening.isPrivate path = true ∧ session.place = .temporary ∧
        session.connection.database = .fresh ∨
      Opening.isPrivate path = false ∧
        session.place = .file (Opening.vaultLocation s.directory path) := by
  obtain ⟨config, vault, tree, -, opened, rfl⟩ := start_eq_ok started
  obtain ⟨_, -, -, ⟨own, rfl, -⟩ | ⟨shared, openedFile⟩⟩ := Opening.openVault_eq_ok opened
  · exact .inl ⟨own, rfl, rfl⟩
  · exact .inr ⟨shared, Opening.place_openFile openedFile⟩

/-- A session starts on what is kept in its place. -/
theorem database_start {session : Session} (started : s.start invocation = .ok session) :
    session.connection.database = .ofTables (session.place.tables s.tree) := by
  obtain ⟨config, vault, tree, -, opened, rfl⟩ := start_eq_ok started
  exact Opening.database_openVault opened

theorem idle_start {session : Session} (started : s.start invocation = .ok session) :
    session.connection.database.inTransaction = false := by
  rw [database_start started]
  rfl

/-- A session has the configuration that its command line has loaded. -/
theorem config_start {session : Session} {config : Config}
    (started : s.start invocation = .ok session)
    (loaded : s.loadConfig invocation.config = .ok config) : session.config = config := by
  obtain ⟨_, _, _, found, -, rfl⟩ := start_eq_ok started
  exact Except.ok.inj (found.symm.trans loaded)

/-- Nothing has been printed when a session starts. -/
theorem output_start {session : Session} (started : s.start invocation = .ok session) :
    session.output = [] := by
  obtain ⟨config, vault, tree, -, -, rfl⟩ := start_eq_ok started
  rfl

/-- A command that has a session ends as its script does. -/
theorem executeAmid_started {session : Session} (started : s.start invocation = .ok session)
    (c : Circumstances) :
    let ran := Session.carryOutAmid invocation.command.script c session
    s.executeAmid c invocation = ran.2.finish ran.1 := by
  intro ran
  rw [start] at started
  rw [executeAmid, executeWith, started]

/-- Without a session there is nothing but the reason for it. -/
theorem executeAmid_refused {failure : Failure} {tree : Tree}
    (refused : s.start invocation = .error (failure, tree)) (c : Circumstances) :
    s.executeAmid c invocation =
      ⟨failure.exitCode, tree, [], Text.Utf8.encode failure.report⟩ := by
  rw [start] at refused
  rw [executeAmid, executeWith, refused]

end Setting

namespace Failure

theorem exitCode_ne_zero (failure : Failure) : failure.exitCode ≠ 0 := by
  unfold exitCode
  split <;> nofun

/-- The exit code of refused arguments is no other. -/
theorem exitCode_ne_two (failure : Failure) : failure.exitCode ≠ 2 := by
  unfold exitCode
  split <;> nofun

end Failure

namespace Session

theorem tree_finish (s : Session) (result : Except Failure Unit) :
    (s.finish result).tree = s.tree := by
  cases result <;> rfl

theorem output_finish (s : Session) (result : Except Failure Unit) :
    (s.finish result).output = s.output := by
  cases result <;> rfl

theorem exitCode_finish (s : Session) (result : Except Failure Unit) :
    (s.finish result).exitCode = 0 ↔ result = .ok () := by
  cases result with
  | ok done => exact ⟨fun _ => rfl, fun _ => rfl⟩
  | error failure => exact ⟨fun zero => absurd zero failure.exitCode_ne_zero, nofun⟩

end Session

namespace Setting
variable {s : Setting} {invocation : Arguments.Invocation}

/-- With nothing coming from outside a command ends as its script does. -/
theorem execute_eq_finish {session : Session} (started : s.start invocation = .ok session) :
    let ran := Session.carryOut invocation.command.script session
    s.execute invocation = ran.2.finish ran.1 :=
  executeAmid_started started .calm

/-- A command that is carried out succeeds if its script does, and leaves what it leaves. -/
theorem execute_started {session : Session} (started : s.start invocation = .ok session) :
    let ran := Session.carryOut invocation.command.script session
    ((s.execute invocation).exitCode = 0 ↔ ran.1 = .ok ()) ∧
      (s.execute invocation).tree = ran.2.tree ∧
      (s.execute invocation).output = ran.2.output := by
  intro ran
  rw [execute_eq_finish started]
  exact ⟨Session.exitCode_finish _ _, Session.tree_finish _ _, Session.output_finish _ _⟩

end Setting
end SecretVault
