import SecretVault.Proofs.Command.Lines
import SecretVault.Proofs.Secrecy.Commands
import SecretVault.Proofs.Secrecy.Files

/-!
What a command line lets be seen of secret texts. Whoever sees the exit code, what is printed and
what is complained about learns of no payload and of no master key, unless a secret is shown; and
learns nothing of a value or of a key that is stored, but that it is not empty.
-/
namespace SecretVault
open SecretVault.Engine SecretVault.Files SecretVault.Text

variable {hidden : Location → Spot → Bool}

/-- What is left in the place of two vaults is alike if their tables are. -/
theorem Place.Leaves.alike {place : Place} {tree tree' left left' : Tree} {t t' : Tables}
    (leaves : place.Leaves tree t left) (leaves' : place.Leaves tree' t' left')
    (trees : tree.Alike hidden tree')
    (tables : t.veiled (place.hides hidden) = t'.veiled (place.hides hidden)) :
    left.Alike hidden left' := by
  intro other
  cases place with
  | temporary =>
    rw [leaves other, leaves' other]
    exact trees other
  | file location =>
    rw [leaves.2 other, leaves'.2 other]
    split
    · rename_i here
      rw [here]
      exact congrArg (fun t => some (Entry.vault t)) tables
    · exact trees other

/-- The same is seen of two command lines, and they leave files that differ in nothing but hidden
texts. -/
structure Finished.Alike (hidden : Location → Spot → Bool) (finished finished' : Finished) :
    Prop where
  exitCode : finished.exitCode = finished'.exitCode
  output : finished.output = finished'.output
  errors : finished.errors = finished'.errors
  tree : finished.tree.Alike hidden finished'.tree

namespace Setting
variable {s s' : Setting} {invocation invocation' : Arguments.Invocation}

/-- No hooks are configured. -/
def IsQuiet (s : Setting) (invocation : Arguments.Invocation) : Prop :=
  ∀ config, s.loadConfig invocation.config = .ok config → ∀ hook, config.hooks.argv hook = []

/-- The settings differ in nothing but hidden texts in vaults, and in the input. -/
structure Alike (hidden : Location → Spot → Bool) (s s' : Setting) : Prop where
  tree : s.tree.Alike hidden s'.tree
  directory : s.directory = s'.directory
  environment : s.environment = s'.environment

/-- Sessions that have started alike, each with its own input. -/
structure StartsAlike (hidden : Location → Spot → Bool) (s s' : Setting)
    (session session' : Session) : Prop where
  place : session.place = session'.place
  tree : session.tree.Alike hidden session'.tree
  alike : session.Alike (session.place.hides hidden) session'
  leaves : session.place.Leaves session.tree session.connection.database.committed session.tree
  leaves' : session'.place.Leaves session'.tree session'.connection.database.committed session'.tree
  input : session.input = s.input
  input' : session'.input = s'.input

/-- With the same options for the configuration and the vault, sessions start alike or fail to start
for the same reason. -/
theorem start_alike (alike : s.Alike hidden s') (quiet : s.IsQuiet invocation)
    (config : invocation.config = invocation'.config)
    (database : invocation.database = invocation'.database) :
    (∃ failure tree tree', s.start invocation = .error (failure, tree) ∧
        s'.start invocation' = .error (failure, tree') ∧ tree.Alike hidden tree') ∨
      ∃ session session', s.start invocation = .ok session ∧
        s'.start invocation' = .ok session' ∧ s.StartsAlike hidden s' session session' := by
  obtain ⟨trees, directory, environment⟩ := alike
  have loads : s.loadConfig invocation.config = s'.loadConfig invocation'.config := by
    rw [loadConfig, loadConfig, environment, directory, config]
    exact trees.load _ _
  unfold start startWith
  rw [← loads, ← database, ← directory, ← environment]
  cases loaded : s.loadConfig invocation.config with
  | error e => exact .inl ⟨_, _, _, rfl, rfl, trees⟩
  | ok config =>
    dsimp only
    have opens := Opening.openVault_alike trees s.directory
      (invocation.database.getD (config.databasePath s.environment))
    cases opening : Opening.openVault s.tree s.directory
        (invocation.database.getD (config.databasePath s.environment)) with
    | mk result tree =>
      cases opening' : Opening.openVault s'.tree s.directory
          (invocation.database.getD (config.databasePath s.environment)) with
      | mk result' tree' =>
        rw [opening, opening'] at opens
        obtain ⟨results, left⟩ := opens
        cases results with
        | error e => exact .inl ⟨_, tree, tree', rfl, rfl, left⟩
        | ok together =>
          refine .inr ⟨_, _, rfl, rfl, together.place, left, ?_, Opening.leaves_openVault opening,
            Opening.leaves_openVault opening', rfl, rfl⟩
          exact ⟨congrArg Connection.opened together.database, rfl, rfl, quiet config loaded,
            quiet config loaded⟩

/-- Commands that are counterparts, if the texts that they write are hidden. -/
theorem execute_alike (alike : s.Alike hidden s') (quiet : s.IsQuiet invocation)
    (config : invocation.config = invocation'.config)
    (database : invocation.database = invocation'.database)
    (counterpart : Command.Counterpart s.input s'.input invocation.command invocation'.command)
    (covers : ∀ session, s.start invocation = .ok session → ∀ spot,
      invocation.command.spot? session.connection.database.current = some spot →
        session.place.hides hidden spot = true) :
    (s.execute invocation).Alike hidden (s'.execute invocation') := by
  rcases start_alike alike quiet config database with
    ⟨failure, tree, tree', started, started', left⟩ | ⟨session, session', started, started', starts⟩
  · rw [execute, execute, executeAmid_refused started, executeAmid_refused started']
    exact ⟨rfl, rfl, rfl, left⟩
  · obtain ⟨place, trees, sessions, leaves, leaves', input, input'⟩ := starts
    rw [← input, ← input'] at counterpart
    obtain ⟨ends, later⟩ :=
      counterpart.agreesAt (idle_start started) sessions (covers session started)
    obtain ⟨-, left⟩ := Session.leaves_carryOut invocation.command.script leaves
      (Session.hooksLeaveFiles_of_none _ sessions.quiet)
    obtain ⟨-, left'⟩ := Session.leaves_carryOut invocation'.command.script leaves'
      (Session.hooksLeaveFiles_of_none _ sessions.quiet')
    rw [← place] at left'
    obtain ⟨databases, -⟩ := Connection.eq_of_veiled later.connection
    have files := left.alike left' trees (congrArg Database.committed databases)
    rw [execute_eq_finish started, execute_eq_finish started']
    generalize Session.carryOut invocation.command.script session = ended,
      Session.carryOut invocation'.command.script session' = ended' at ends later files ⊢
    obtain ⟨result, ended⟩ := ended
    obtain ⟨result', ended'⟩ := ended'
    cases ends with
    | ok _ => exact ⟨rfl, later.output, later.errors, files⟩
    | error failure =>
      exact ⟨rfl, later.output, congrArg (· ++ Utf8.encode failure.report) later.errors, files⟩

/-- The text that a command line is to write, in the file of its vault. -/
def writes (s : Setting) (invocation : Arguments.Invocation) (location : Location) (spot : Spot) :
    Bool :=
  match s.start invocation with
  | .ok session => session.place = .file location &&
      invocation.command.spot? session.connection.database.current = some spot
  | .error _ => false

end Setting

/-- Of vaults that differ in nothing but the texts of payloads and of the master key, every
operation that does not ask for such a text is answered alike, searches among them, and leaves
vaults that differ in nothing else. Of every command line that does not show a secret the same is
seen in both: the exit code, what is printed and what is complained about. Nor is anything seen of a
value that is saved or set, given as an argument or as input, or of a key that a vault is set up
with, if it is not empty: with another one the same is seen, and the files that are left differ in
that text at most. No hooks are configured for the command lines, as a hook may do anything. -/
theorem secret_texts_never_show :
    (∀ (hidden : Spot → Bool) (op : Operation) (schedule : Schedule) (token : Token)
        (c c' : Connection), ¬ op.Reveals → c.veiled hidden = c'.veiled hidden →
      (op.run schedule token c).1 = (op.run schedule token c').1 ∧
        (op.run schedule token c).2.veiled hidden = (op.run schedule token c').2.veiled hidden) ∧
    (∀ (s s' : Setting) (arguments : List String), s.Alike (fun _ _ => true) s' →
      s.input = s'.input →
      (∀ invocation, Arguments.Invocation.read arguments = .ok invocation →
        s.IsQuiet invocation ∧ ∀ id lineEnd, invocation.command ≠ .show id lineEnd) →
      (s.run arguments).Alike (fun _ _ => true) (s'.run arguments)) ∧
    ∀ (s s' : Setting) (arguments arguments' : List String)
        (invocation invocation' : Arguments.Invocation),
      Arguments.Invocation.read arguments = .ok invocation →
      Arguments.Invocation.read arguments' = .ok invocation' →
      s.tree = s'.tree → s.directory = s'.directory → s.environment = s'.environment →
      invocation.config = invocation'.config → invocation.database = invocation'.database →
      s.IsQuiet invocation →
      Command.Counterpart s.input s'.input invocation.command invocation'.command →
      (s.run arguments).Alike (s.writes invocation) (s'.run arguments') := by
  refine ⟨fun hidden op schedule token c c' conceals left =>
    Operation.run_concealing conceals left schedule token, ?_, ?_⟩
  · intro s s' arguments alike input conceals
    cases understood : Arguments.Invocation.read arguments with
    | error halt =>
      simp only [Setting.run, Setting.runAmid, Setting.runWith, understood]
      cases halt <;> exact ⟨rfl, rfl, rfl, alike.tree⟩
    | ok invocation =>
      obtain ⟨quiet, noShow⟩ := conceals invocation understood
      rw [s.run_accepted understood, s'.run_accepted understood]
      refine Setting.execute_alike alike quiet rfl rfl (.same _ noShow input)
        fun session _ spot _ => ?_
      cases session.place <;> rfl
  · intro s s' arguments arguments' invocation invocation' understood understood' tree directory
      environment config database quiet counterpart
    rw [s.run_accepted understood, s'.run_accepted understood']
    refine Setting.execute_alike ⟨tree ▸ .refl _, directory, environment⟩ quiet config database
      counterpart fun session started spot written => ?_
    cases place : session.place with
    | temporary => rfl
    | file location => simp [Place.hides, Setting.writes, started, place, written]

/-- A vault with one secret. -/
def Setting.ofTexts (key payload : String) (input : String) : Setting where
  tree := (⟨[]⟩ : Tree).put ["vault.db"] (.vault {
    masterKey := some (.text key)
    secrets := IdMap.empty.insert 1 ⟨.text "mail", .text payload⟩
    labels := IdMap.empty.insert 1 ⟨.text "work", 1⟩
    secretCount := 1
    labelCount := 1 })
  directory := []
  environment := []
  input := Utf8.encode input

/-- The vaults differ in their keys and payloads, the command lines in the values that they set. -/
theorem secret_texts_never_show_set :
    let list := (CommandLine.onFile ["ls"]).arguments
    let set (arguments : List String) := (CommandLine.onFile (["set", "1"] ++ arguments)).arguments
    let invocation (value : ValueSource) : Arguments.Invocation :=
      ⟨some "/config.yaml", some "/vault.db", .set 1 value⟩
    let s := Setting.ofTexts "k" "p" ""
    let s' := Setting.ofTexts "other" "q" ""
    let c (s : Setting) := Connection.opened (.ofTables (s.tree.tablesAt ["vault.db"]))
    let found (s : Setting) :=
      (Operation.searchColumn .label ["w*"]).run Session.live Session.token (c s)
    let given := s.run (set ["v"])
    let read := (Setting.ofTexts "k" "p" "w\n").run (set ["--stdin"])
    let payload (finished : Finished) :=
      ((finished.tree.tablesAt ["vault.db"]).secrets.get? 1).map StoredSecret.payload
    (found s).1 = (found s').1 ∧
      (s.run list).Alike (fun _ _ => true) (s'.run list) ∧ (s.run list).exitCode = 0 ∧
      given.Alike (s.writes (invocation (.given "v"))) read ∧ given.exitCode = 0 ∧
      payload given = some (.text "v") ∧ payload read = some (.text "w") := by
  intro list set invocation s s' c found given read payload
  have quiet (invocation : Arguments.Invocation) (named : invocation.config = some "/config.yaml") :
      s.IsQuiet invocation := by
    intro config loaded hook
    have noConfig : s.loadConfig (some "/config.yaml") = .ok {} := by decide +kernel
    rw [named, noConfig] at loaded
    obtain rfl := Except.ok.inj loaded
    cases hook <;> rfl
  have lists : Arguments.Invocation.read list =
      .ok ⟨some "/config.yaml", some "/vault.db", .listing⟩ := by decide +kernel
  have sets : Arguments.Invocation.read (set ["v"]) =
      .ok (invocation (.given "v")) := by decide +kernel
  have reads : Arguments.Invocation.read (set ["--stdin"]) =
      .ok (invocation .input) := by decide +kernel
  have alike : s.Alike (fun _ _ => true) s' := by
    have below : (["vault.db"] : Location) ≠ [] := nofun
    exact ⟨(Tree.Alike.refl ⟨[]⟩).put below rfl, rfl, rfl⟩
  obtain ⟨searches, listings, values⟩ := secret_texts_never_show
  have tables := (searches (fun _ => true) (.searchColumn .label ["w*"]) Session.live Session.token
    (c s) (c s') not_false rfl).1
  refine ⟨tables, ?_, by decide +kernel, ?_, by decide +kernel, by decide +kernel,
    by decide +kernel⟩
  · refine listings s s' list alike rfl fun invocation understood => ?_
    obtain rfl := Except.ok.inj (lists.symm.trans understood)
    exact ⟨quiet _ rfl, nofun⟩
  · have gives : (ValueSource.given "v").Gives s.input "v" := rfl
    have gives' : ValueSource.input.Gives (Setting.ofTexts "k" "p" "w\n").input "w" :=
      ⟨"w\n", rfl, lineOf_iff.2 (by decide +kernel)⟩
    exact values s (Setting.ofTexts "k" "p" "w\n") _ _ _ _ sets reads rfl rfl rfl rfl rfl
      (quiet _ rfl) (.set 1 gives (by decide) gives' (by decide))

end SecretVault
