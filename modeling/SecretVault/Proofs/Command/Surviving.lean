import SecretVault.Proofs.Command.Refusing
import SecretVault.Proofs.Reopening

/-!
What is left of a write when its process has ended. In a vault that is kept in a file the next
command line finds it; in a vault of one's own it is lost, although it has been reported.
-/
namespace SecretVault
open SecretVault.Engine SecretVault.Files SecretVault.Text

/-- In a new vault all commands are refused but the one that sets it up. -/
theorem Command.carryOut_of_fresh {command : Command} (sets : ∀ key, command ≠ .init key)
    {s : Session} (new : s.connection.database = .fresh) :
    (Session.carryOut command.script s).1 = .error .notInitialized := by
  have required : Script.requireMasterKey.Reads .fresh _ "" :=
    Script.reads_requireMasterKey represents_empty
  rcases command.script_cases with ⟨key, rfl⟩ | requires
  · exact absurd rfl (sets key)
  · rw [requires]
    exact (required.bind_fail _ s new).1

/-- The only command that succeeds in a new vault sets it up with a key that is given. -/
theorem Command.init_of_succeeds {command : Command} {s s' : Session}
    (new : s.connection.database = .fresh) (succeeds : command.script.Succeeds s () s') :
    ∃ key, command = .init (some key) := by
  by_cases sets : ∃ key, command = .init key
  · obtain ⟨key, rfl⟩ := sets
    have represented : Represents s.connection.database.current .empty := by
      rw [new]
      exact represents_empty
    have idle : s.connection.database.inTransaction = false := by
      rw [new]
      rfl
    obtain ⟨_, -, given, rfl, -⟩ := Command.wrote_of_succeeds represented idle succeeds
    exact ⟨given, rfl⟩
  · have refused := Command.carryOut_of_fresh (not_exists.1 sets) new
    rw [succeeds] at refused
    cases refused

/-- What a command line has written is there for the next one exactly if the path of the vault does
not stand for one of one's own. It is then found in the same file, and nothing says that the vault
has not been set up. Otherwise it can only have been set up, and the next one finds it new. -/
theorem writes_survive_iff {s later : Setting} {first second : Arguments.Invocation}
    (consecutive : s.Consecutive later first second) :
    ∃ session ended reopened, s.start first = .ok session ∧
      Session.carryOut first.command.script session = (.ok (), ended) ∧
      later.start second = .ok reopened ∧
      let path := s.vaultPath first session.config
      let next := (Session.carryOut second.command.script reopened).1
      (reopened.connection.database = ended.connection.database ↔
        Opening.isPrivate path = false) ∧
      (Opening.isPrivate path = false →
        (∃ location, session.place = .file location ∧ reopened.place = .file location) ∧
        next ≠ .error .notInitialized ∧
        ∀ v, Represents session.connection.database.current v →
          ∃ v', Represents reopened.connection.database.current v' ∧
            first.command.Wrote session.input v v') ∧
      (Opening.isPrivate path = true →
        (∃ key, first.command = .init (some key)) ∧
        ((∀ key, second.command ≠ .init key) → next = .error .notInitialized)) := by
  obtain ⟨session, ended, reopened, started, ran, startedAgain, place, database⟩ :=
    consecutive.reopens
  have idle := Setting.idle_start started
  have keyed := Command.isKeyed_of_succeeds idle ran
  have last := Database.eq_ofTables (Command.idle_of_succeeds idle ran)
  refine ⟨session, ended, reopened, started, ran, startedAgain, ?_⟩
  intro path next
  rcases Setting.place_start started with ⟨own, temporary, new⟩ | ⟨shared, file⟩
  · rw [temporary] at database
    have apart : reopened.connection.database ≠ ended.connection.database := by
      intro same
      rw [← same, database] at keyed
      exact keyed.current rfl
    refine ⟨⟨fun same => absurd same apart, fun shared => ?_⟩, fun shared => ?_, fun _ => ?_⟩
    · exact nomatch own.symm.trans shared
    · exact nomatch own.symm.trans shared
    · exact ⟨Command.init_of_succeeds new ran, fun sets => Command.carryOut_of_fresh sets database⟩
  · have same : reopened.connection.database = ended.connection.database := by
      rw [database, file, last]
      rfl
    refine ⟨⟨fun _ => shared, fun _ => same⟩, fun _ => ⟨⟨_, file, place.trans file⟩, ?_, ?_⟩,
      fun own => nomatch own.symm.trans shared⟩
    · refine second.command.carryOut_ne_notInitialized ?_
      rw [same]
      exact keyed.current
    · intro v represented
      rw [same]
      exact Command.wrote_of_succeeds represented idle ran

/-- A vault is configured and nothing else. -/
def Setting.configured (database : String) : Setting where
  tree := ⟨[(["config.yaml"], .bytes (Utf8.encode ("database: " ++ database ++ "\n")))]⟩
  directory := []
  environment := [("HOME", "/home")]
  input := []

theorem writes_survive_iff_configured :
    let s := Setting.configured "/vault.db"
    let first : Arguments.Invocation := ⟨some "/config.yaml", none, .init (some "k")⟩
    let second := { first with command := Command.listing }
    let later := { s with tree := (s.execute first).tree }
    s.Consecutive later first second ∧
      ∃ session reopened, s.start first = .ok session ∧ later.start second = .ok reopened ∧
        reopened.place = session.place ∧
        (Session.carryOut second.command.script reopened).1 ≠ .error .notInitialized := by
  intro s first second later
  have loads : s.loadConfig first.config = .ok { database := some "/vault.db" } := by
    decide +kernel
  have consecutive : s.Consecutive later first second := by
    refine ⟨by decide +kernel, ?_, rfl, rfl, rfl, rfl, by decide +kernel⟩
    intro session started
    refine Session.hooksLeaveFiles_of_none _ fun hook => ?_
    obtain ⟨config, vault, tree, loaded, -, rfl⟩ := Setting.start_eq_ok started
    obtain rfl := Except.ok.inj (loads.symm.trans loaded)
    cases hook <;> rfl
  obtain ⟨session, ended, reopened, started, -, startedAgain, -, shared, -⟩ :=
    writes_survive_iff consecutive
  obtain ⟨config, vault, tree, loaded, -, rfl⟩ := Setting.start_eq_ok started
  obtain rfl := Except.ok.inj (loads.symm.trans loaded)
  have inFile : Opening.isPrivate (s.vaultPath first { database := some "/vault.db" }) = false := by
    decide +kernel
  obtain ⟨⟨location, file, reopenedFile⟩, initialized, -⟩ := shared inFile
  exact ⟨consecutive, _, reopened, started, startedAgain, reopenedFile.trans file.symm, initialized⟩

/-- With an empty path configured, a vault is reported to have been set up that is not there for the
next command line. -/
theorem writes_lost_at_empty_path :
    let s := Setting.configured "\"\""
    let init := s.run ["--config", "/config.yaml", "init", "--key", "k"]
    let list := { s with tree := init.tree }.run ["--config", "/config.yaml", "ls"]
    init.exitCode = 0 ∧ init.output = Utf8.encode "success: Vault initialized\n" ∧
      list.exitCode = 1 ∧
      list.errors = Utf8.encode "Error: Vault not initialized - run 'vlt init' first\n" := by
  decide +kernel

end SecretVault
