import SecretVault.Proofs.Command.Gate
import SecretVault.Proofs.Command.Showing

/-!
Copying a secret by a pipe. A secret is shown with a line end, and the value that another is set to
is read without one. A line end is a line feed with or without a carriage return before it, so the
value comes back unless it ends in a carriage return, which is then taken for a part of the line end.
-/
namespace SecretVault
open SecretVault.Engine SecretVault.Files SecretVault.Text

/-- A value is the line that it makes without the end, unless a carriage return is its last
character. -/
theorem dropLineEnd_line_iff {value : String} :
    dropLineEnd (value ++ "\n") = value ↔ value.toList.getLast? ≠ some '\r' := by
  refine ⟨fun kept ends => ?_, fun bare => dropLineEnd_of_lineOf (.lineFeed bare)⟩
  obtain ⟨front, ends⟩ := List.getLast?_eq_some_iff.1 ends
  have line : value ++ "\n" = String.ofList front ++ "\r\n" := by
    rw [← String.toList_inj]
    simp [ends]
  rw [line, dropLineEnd_of_lineOf (.carriageReturn _)] at kept
  rw [← kept] at ends
  simp at ends

namespace Script
variable {s : Session} {v : Vault}

/-- The line that reports a secret set. -/
def setReport (id : Int) : String := "success: Secret updated: " ++ idText id ++ "\n"

/-- A value that is given is stored under the id, and reported. -/
theorem carryOut_set (represented : Represents s.connection.database.current v)
    (initialized : v.masterKey ≠ none) {source : ValueSource} {value : String}
    (gives : source.Gives s.input value) (given : value ≠ "") (id : Int) :
    ∃ stored : Session, s.Quiet stored ∧
      stored.connection.database = s.connection.database.put
        (s.connection.database.current.upsertPayload id (.text value)).2 ∧
      Session.carryOut (Command.set id source).script s = Session.carryOut (do
        print (setReport id)
        runHook .postWrite) stored := by
  have requires : (Command.set id source).script = (do requireMasterKey; set id source) := rfl
  obtain ⟨keyed, ⟨tree, connection, rfl⟩, same, goesOn⟩ :=
    carryOut_initialized represented initialized requires
  obtain ⟨input, read⟩ := carryOut_readValue (s := { s with tree, connection }) gives
  rw [if_neg (by simpa using given)] at read
  have reading : (readValue source).Succeeds { s with tree, connection } value
    { s with tree, connection, input } := read
  rw [← same] at represented ⊢
  have performed := Operation.perform_upsertSecret represented id value
  have storing := succeeds_store (s := { s with tree, connection, input }) .store
    (congrArg Prod.fst performed)
  obtain ⟨-, database, onlyVault⟩ :=
    Session.reply_store { s with tree, connection, input } (.upsertSecret id value)
  have quiet := onlyVault.quiet
  exact ⟨_, ⟨quiet.output, quiet.errors, quiet.config⟩,
    database.trans (congrArg Prod.snd performed),
    goesOn.trans ((reading.carryOut_bind _).trans (storing.carryOut_bind _))⟩

end Script

/-- Of two command lines on one vault the first shows a secret, and all that it prints is the input
of the second, which sets a secret to it. No hook prints anything after the secret. -/
structure Setting.Copies (shows sets : Setting) (reading writing : Arguments.Invocation)
    (s s' : Session) (id other : Int) : Prop where
  opened : shows.start reading = .ok s
  shown : reading.command = .show id true
  noHook : s.config.hooks.postRead = []
  openedThen : sets.start writing = .ok s'
  set : writing.command = .set other .input
  sameVault : s'.connection.database = s.connection.database
  piped : sets.input = (shows.execute reading).output

/-- A secret that is shown and set again by a pipe is stored exactly as it was, unless its last
character is a carriage return. -/
theorem copied_unless_carriage_return {shows sets : Setting}
    {reading writing : Arguments.Invocation} {s s' : Session} {id other : Int}
    (copies : shows.Copies sets reading writing s s' id other)
    (reachable : s.connection.database.Reachable) :
    ∃ v, Represents s.connection.database.current v ∧
      (v.masterKey ≠ none → ∀ e, v.entries.get? id = some e → e.payload ≠ "" →
        (shows.execute reading).exitCode = 0 ∧
        (shows.execute reading).output = Utf8.encode (e.payload ++ "\n") ∧
        (dropLineEnd (e.payload ++ "\n") = e.payload ↔ e.payload.toList.getLast? ≠ some '\r') ∧
        (e.payload.toList.getLast? ≠ some '\r' →
          (s'.config.hooks.postWrite = [] → (sets.execute writing).exitCode = 0) ∧
          ∃ stored, (Session.carryOut writing.command.script s').2.connection.database =
              .ofTables stored ∧
            ((Operation.readPayload other).perform (.ofTables stored)).1 = .ok e.payload)) := by
  obtain ⟨opened, shown, noHook, openedThen, set, sameVault, piped⟩ := copies
  obtain ⟨v, represented⟩ := reachable.isVault.current
  refine ⟨v, represented, fun initialized e found given => ?_⟩
  have prints := Script.printsThenRuns_show represented initialized found true
  rw [← shown] at prints
  obtain ⟨succeeds, output, -⟩ := prints.prints noHook
  obtain ⟨code, -, printed⟩ := Setting.execute_started opened
  rw [output, Setting.output_start opened, List.nil_append] at printed
  refine ⟨code.2 succeeds, printed, dropLineEnd_line_iff, fun bare => ?_⟩
  have gives : ValueSource.input.Gives s'.input e.payload := by
    obtain ⟨_, _, _, -, -, rfl⟩ := Setting.start_eq_ok openedThen
    exact ⟨e.payload ++ "\n", piped.trans printed, .lineFeed bare⟩
  rw [← sameVault] at represented
  obtain ⟨stored, quiet, put, goesOn⟩ :=
    Script.carryOut_set represented initialized gives given other
  rw [← set] at goesOn
  have reported := Script.printsThenRuns_of_quiet quiet goesOn
  refine ⟨fun noHook => (Setting.execute_started openedThen).1.2 (reported.prints noHook).1, ?_⟩
  have last := Script.connection_runHook (stored.print (Script.setReport other)) .postWrite
  have database : (Session.carryOut writing.command.script s').2.connection.database = _ :=
    (congrArg (·.2.connection.database) goesOn).trans
      ((congrArg Connection.database last).trans put)
  rw [Database.eq_ofTables (Setting.idle_start openedThen)] at represented database
  have represents := (represented.upsertPayload other e.payload).2
  refine ⟨_, database, ?_⟩
  rw [Operation.perform_readPayload (d := .ofTables _) represents]
  simp [Vault.put]

/-- A payload that ends in a line end of its own is copied to a new secret. -/
theorem copied_unless_carriage_return_lineEnd :
    let d := Database.fresh.after [.insertMasterKey "k", .insertSecret "mail" "a\r\n"]
    let tree : Tree := ⟨[(["vault.db"], .vault d.committed)]⟩
    let reading := CommandLine.fileInvocation (.show 1 true)
    let writing := CommandLine.fileInvocation (.set 2 .input)
    let shows := (CommandLine.onFile ["show", "1"]).on tree
    let sets : Setting :=
      { (CommandLine.onFile ["set", "2", "--stdin"]).on tree with
        input := (shows.execute reading).output }
    Arguments.Invocation.read (CommandLine.onFile ["show", "1"]).arguments = .ok reading ∧
      Arguments.Invocation.read (CommandLine.onFile ["set", "2", "--stdin"]).arguments =
        .ok writing ∧
      ∃ s s', shows.Copies sets reading writing s s' 1 2 ∧ s.connection.database.Reachable ∧
        (shows.execute reading).output = Utf8.encode "a\r\n\n" ∧
        (sets.execute writing).exitCode = 0 ∧
        ∃ stored, (Session.carryOut writing.command.script s').2.connection.database =
            .ofTables stored ∧
          ((Operation.readPayload 2).perform (.ofTables stored)).1 = .ok "a\r\n" := by
  intro d tree reading writing shows sets
  have reads : Arguments.Invocation.read (CommandLine.onFile ["show", "1"]).arguments =
      .ok reading := by decide +kernel
  have writes : Arguments.Invocation.read (CommandLine.onFile ["set", "2", "--stdin"]).arguments =
      .ok writing := by decide +kernel
  refine ⟨reads, writes, ?_⟩
  obtain ⟨s, opened, place⟩ := shows.starts_onFile (.show 1 true) rfl (by decide +kernel)
  obtain ⟨s', openedThen, place'⟩ := sets.starts_onFile (.set 2 .input) rfl (by decide +kernel)
  have database : s.connection.database = .ofTables d.committed := by
    rw [Setting.database_start opened, place]
    rfl
  have database' : s'.connection.database = .ofTables d.committed := by
    rw [Setting.database_start openedThen, place']
    rfl
  have config : s.config = {} := Setting.config_start opened (by decide +kernel)
  have config' : s'.config = {} := Setting.config_start openedThen (by decide +kernel)
  have reachable : s.connection.database.Reachable := by
    rw [database]
    exact .reopen (.after .fresh _)
  have copies : shows.Copies sets reading writing s s' 1 2 :=
    ⟨opened, rfl, by rw [config], openedThen, rfl, database'.trans database.symm, rfl⟩
  obtain ⟨v, represented, copied⟩ := copied_unless_carriage_return copies reachable
  rw [database] at represented
  have initialized : v.masterKey ≠ none := by
    intro none
    have keyed := represented.masterKey
    rw [none] at keyed
    exact absurd keyed (by decide +kernel)
  have stored := represented.secrets 1
  cases found : v.entries.get? 1 with
  | none =>
    rw [found] at stored
    exact absurd stored (by decide +kernel)
  | some e =>
    have payload : e.payload = "a\r\n" := by
      rw [found] at stored
      have same : some (StoredSecret.mk (.text "mail") (.text "a\r\n")) = some e.stored := stored
      exact (Cell.text.inj (congrArg StoredSecret.payload (Option.some.inj same))).symm
    obtain ⟨-, output, -, copy⟩ := copied initialized e found (by rw [payload]; decide)
    rw [payload] at output copy
    obtain ⟨succeeds, left⟩ := copy (by decide)
    exact ⟨s, s', copies, reachable, output, succeeds (by rw [config']), left⟩

/-- A carriage return at the end of a payload is lost on the way. -/
theorem carriage_return_not_copied :
    let tree := (⟨[]⟩ : Tree).afterLines
      ([["init", "--key", "k"], ["save", "--name", "n", "-l", "l", "a\r"]].map CommandLine.onFile)
    let shown := (CommandLine.onFile ["show", "1"]).finish tree
    let copied := { CommandLine.onFile ["set", "2", "--stdin"] with
      input := shown.output }.finish shown.tree
    let payload (id : Int) :=
      ((copied.tree.tablesAt ["vault.db"]).secrets.get? id).map StoredSecret.payload
    shown.exitCode = 0 ∧ shown.output = Utf8.encode ("a\r" ++ "\n") ∧ copied.exitCode = 0 ∧
      payload 1 = some (.text "a\r") ∧ payload 2 = some (.text "a") ∧
      dropLineEnd ("a\r" ++ "\n") ≠ "a\r" := by
  decide +kernel

end SecretVault
