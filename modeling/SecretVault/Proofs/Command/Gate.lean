import SecretVault.Proofs.Command.Initializing
import SecretVault.Proofs.Command.Lines
import SecretVault.Proofs.Command.Refusing

/-!
Vaults that have not been set up. Every command but the one that sets a vault up looks for a master
key first, and without one asks for nothing more. So nothing is stored in a new vault before it has
been set up.
-/
namespace SecretVault
open SecretVault.Engine SecretVault.Files SecretVault.Text

/-- Without a master key there is none to be found. -/
theorem Operation.perform_queryMasterKey_of_none {d : Database}
    (missing : d.current.masterKey = none) :
    queryMasterKey.perform d = (.error (.notFound .masterKey), d) := by
  have stored : d.current.masterKey = (none : Option String).map .text := missing
  exact perform_queryMasterKey_of_text stored

namespace Session
variable {s : Session}

/-- Looking for a master key where there is none. -/
theorem reply_queryMasterKey_of_none (missing : s.connection.database.current.masterKey = none) :
    (s.reply (.store .queryMasterKey)).1 = .error (.notFound .masterKey) ∧
      (s.reply (.store .queryMasterKey)).2.connection.database = s.connection.database ∧
      s.OnlyVault (s.reply (.store .queryMasterKey)).2 := by
  obtain ⟨answer, database, onlyVault⟩ := s.reply_store .queryMasterKey
  rw [Operation.perform_queryMasterKey_of_none missing] at answer database
  exact ⟨answer, database, onlyVault⟩

/-- Without a master key a command that needs one ends with its first look, which is all that it
asks for. -/
theorem refused_without_key {command : Command} (sets : ∀ key, command ≠ .init key)
    (missing : s.connection.database.current.masterKey = none) :
    requests command.script s = [.store .queryMasterKey] ∧
      carryOut command.script s =
        (.error .notInitialized, (s.reply (.store .queryMasterKey)).2) := by
  obtain ⟨answer, -⟩ := reply_queryMasterKey_of_none missing
  rcases command.script_cases with ⟨key, rfl⟩ | requires
  · exact absurd rfl (sets key)
  · rw [requires]
    generalize command.action = action
    obtain ⟨next, asks, refused⟩ : ∃ next : (Request.store .queryMasterKey).Reply → Script Unit,
        (do Script.requireMasterKey; action) =
          Script.ask (.store .queryMasterKey) (fun reply => (next reply).bind fun _ => action) ∧
        next (.error (.notFound .masterKey)) = .fail .notInitialized :=
      ⟨_, rfl, rfl⟩
    rw [asks, requests, carryOut_ask, answer, refused]
    exact ⟨rfl, rfl⟩

/-- A key that is stored is reported, whatever becomes of the hook, and nothing else can fail. -/
theorem carryOut_storeKey (s : Session) (key : String) :
    let ended := carryOut (Script.storeKey key) s
    s.output ++ Utf8.encode setUpReport <+: ended.2.output ∧
      ∀ failure, ended.1 = .error failure → ¬ failure.IsOwn := by
  intro ended
  obtain ⟨answer, -, tree, connection, stored⟩ := s.reply_store (.insertMasterKey key)
  have answered : (s.reply (.store (.insertMasterKey key))).1 = .ok () := answer
  have goesOn : ended = carryOut (Script.runHook .postWrite)
      ((s.reply (.store (.insertMasterKey key))).2.reply (.print setUpReport)).2 := by
    have asked : ended = carryOut _ _ := carryOut_ask (.store (.insertMasterKey key)) _ s
    rw [asked, answered]
    rfl
  rw [goesOn, stored]
  have reported := passedOn_carryOut (Script.runHook .postWrite)
    (Session.print { s with tree, connection } setUpReport)
  have none := heldBack_line s.held "success: Vault initialized"
  rw [passedOn_of_none_held none] at reported
  refine ⟨reported, fun failure => ?_⟩
  have only : (Script.runHook .postWrite).FailsOnly (¬ Failure.IsOwn ·) := fun reply => by
    cases reply with
    | ok done => trivial
    | error e => exact fun own => own
  exact only.carryOut

/-- Setting a vault up that has no master key: the key that is given is reported, or there is none
and the vault stays as it is. -/
theorem carryOut_setUp_of_none (missing : s.connection.database.current.masterKey = none)
    (key : Option String) :
    let ended := carryOut (Script.setUp key) s
    (∃ given, key = some given ∧ given ≠ "" ∧
        s.output ++ Utf8.encode setUpReport <+: ended.2.output ∧
        ∀ failure, ended.1 = .error failure → ¬ failure.IsOwn) ∨
      ended.2 = (s.reply (.store .queryMasterKey)).2 := by
  obtain ⟨answer, -, tree, connection, looked⟩ := reply_queryMasterKey_of_none missing
  intro ended
  have goesOn : ended = carryOut (do
      let key ← Script.readKey key
      if key.isEmpty then .fail .emptyKey else Script.storeKey key)
      (s.reply (.store .queryMasterKey)).2 := by
    have asked : ended = carryOut _ _ := carryOut_ask (.store .queryMasterKey) _ s
    rw [asked, answer]
    rfl
  cases key with
  | none => exact .inr (congrArg Prod.snd goesOn)
  | some given =>
    have checks : ended = carryOut (if given.isEmpty then .fail .emptyKey
        else Script.storeKey given) (s.reply (.store .queryMasterKey)).2 := goesOn
    by_cases empty : given.isEmpty
    · rw [if_pos empty] at checks
      exact .inr (congrArg Prod.snd checks)
    · rw [if_neg empty, looked] at checks
      refine .inl ⟨given, rfl, by simpa using empty, ?_⟩
      rw [checks]
      exact carryOut_storeKey { s with tree, connection } given

end Session

/-- There is nothing in the tables, not even a master key. -/
structure Engine.Tables.IsUnused (t : Tables) : Prop where
  masterKey : t.masterKey = none
  secrets : t.secrets = IdMap.empty
  labels : t.labels = IdMap.empty

namespace Setting
variable {s : Setting} {invocation : Arguments.Invocation} {session : Session}

/-- A session on a vault without a master key finds none. -/
theorem missing_start (started : s.start invocation = .ok session)
    (missing : (session.place.tables s.tree).masterKey = none) :
    session.connection.database.current.masterKey = none := by
  rw [database_start started]
  exact missing

/-- The first look of a session changes no vault. -/
theorem tablesAt_look (started : s.start invocation = .ok session) :
    (session.reply (.store .queryMasterKey)).2.tree.tablesAt = s.tree.tablesAt := by
  have starts := holds_start s invocation
  rw [started] at starts
  obtain ⟨same, holds⟩ := starts
  exact (Session.tablesAt_reply_reading (idle_start started) holds.follows.kept rfl).trans same

/-- Without a master key a command that needs one is refused and does nothing else. -/
theorem execute_refused (started : s.start invocation = .ok session)
    (missing : (session.place.tables s.tree).masterKey = none)
    (sets : ∀ key, invocation.command ≠ .init key) :
    let finished := s.execute invocation
    finished.exitCode = 1 ∧ finished.output = [] ∧
      finished.errors =
        Utf8.encode "Error: Vault not initialized - run 'vlt init' first\n" ∧
      finished.tree.tablesAt = s.tree.tablesAt := by
  intro finished
  have looked := Session.reply_queryMasterKey_of_none (missing_start started missing)
  obtain ⟨-, -, _, _, same⟩ := looked
  obtain ⟨-, ran⟩ := Session.refused_without_key sets (missing_start started missing)
  have ends : finished = ⟨1, (session.reply (.store .queryMasterKey)).2.tree, [],
      Utf8.encode (report Failure.notInitialized.chain)⟩ := by
    have silent := output_start started
    have quiet := errors_start started
    have said := congrArg Session.output same
    have wrote := congrArg Session.errors same
    rw [silent] at said
    rw [quiet] at wrote
    simp only [finished, execute_eq_finish started, ran, Session.finish, said, wrote,
      List.nil_append]
    rfl
  rw [ends]
  exact ⟨rfl, rfl, rfl, tablesAt_look started⟩

end Setting

namespace CommandLine
variable {line : CommandLine} {tree : Tree} {location : Location}

/-- The command line has set a vault up with a key that was given, and has said so. If it has not
succeeded then only its hook has failed. -/
def SetsUp (line : CommandLine) (tree : Tree) : Prop :=
  ∃ invocation key, Arguments.Invocation.read line.arguments = .ok invocation ∧
    invocation.command = .init (some key) ∧ key ≠ "" ∧
    Utf8.encode setUpReport <+: (line.finish tree).output ∧
    ((line.finish tree).exitCode = 0 ∨
      (line.on tree).OnlyHookFails invocation (line.finish tree))

/-- A vault that has not been used is not used by a command line either, unless this sets it up. -/
theorem sets_up_or_unused (opens : line.OpensOnly tree location)
    (unused : (tree.tablesAt location).IsUnused) :
    line.SetsUp tree ∨ ((line.finish tree).tree.tablesAt location).IsUnused := by
  have stays {tree' : Tree} (same : tree'.tablesAt = tree.tablesAt) :
      (tree'.tablesAt location).IsUnused := by
    rw [same]
    exact unused
  cases understood : Arguments.Invocation.read line.arguments with
  | error halt =>
    exact .inr (stays (congrArg Tree.tablesAt ((line.on tree).run_of_halt understood)))
  | ok invocation =>
    have finished : line.finish tree = (line.on tree).execute invocation :=
      (line.on tree).run_accepted understood
    cases started : (line.on tree).start invocation with
    | error refusal =>
      rw [finished]
      exact .inr (stays ((line.on tree).tablesAt_execute_of_error started))
    | ok session =>
      have place := opens invocation session understood started
      have missing : (session.place.tables (line.on tree).tree).masterKey = none := by
        rw [place]
        exact unused.masterKey
      by_cases sets : ∃ key, invocation.command = .init key
      · obtain ⟨key, asked⟩ := sets
        obtain ⟨code, left, output⟩ := Setting.execute_started started
        have ways := Session.carryOut_setUp_of_none (Setting.missing_start started missing) key
        have script : invocation.command.script = Script.setUp key := by
          rw [asked]
          rfl
        rw [← script] at ways
        rcases ways with ⟨given, rfl, nonempty, reported, ownNot⟩ | same
        · rw [← output, Setting.output_start started, List.nil_append] at reported
          refine .inl ⟨invocation, given, understood, asked, nonempty, ?_, ?_⟩
          · rw [finished]
            exact reported
          · rw [finished]
            cases ended : (Session.carryOut invocation.command.script session).1 with
            | ok _ => exact .inl (code.2 ended)
            | error failure =>
              exact .inr (Setting.onlyHookFails_of_not_own started ended (ownNot failure ended))
        · rw [same] at left
          rw [finished]
          exact .inr (stays ((congrArg Tree.tablesAt left).trans (Setting.tablesAt_look started)))
      · rw [finished]
        exact .inr (stays
          (Setting.execute_refused started missing (not_exists.1 sets)).2.2.2)

/-- A command line that names the file of its vault opens no other. -/
theorem opensOnly_of_named {invocation : Arguments.Invocation} {path : String}
    (understood : Arguments.Invocation.read line.arguments = .ok invocation)
    (named : invocation.database = some path) (shared : Opening.isPrivate path = false)
    (tree : Tree) : line.OpensOnly tree (Opening.vaultLocation line.directory path) := by
  intro same session accepted started
  obtain rfl := Except.ok.inj (understood.symm.trans accepted)
  have chosen : (line.on tree).vaultPath invocation session.config = path := by
    simp [Setting.vaultPath, named]
  rcases Setting.place_start started with ⟨own, -⟩ | ⟨-, place⟩
  · rw [chosen] at own
    cases own.symm.trans shared
  · rw [chosen] at place
    exact place

end CommandLine

/-- A vault that has not been used stays so until a command line sets it up. -/
theorem Files.Tree.unused_until_set_up {location : Location} {lines : List CommandLine}
    {tree : Tree} (unused : (tree.tablesAt location).IsUnused)
    (works : tree.WorkOnlyAt location lines) :
    ((tree.afterLines lines).tablesAt location).IsUnused ∨
      ∃ before line after, lines = before ++ line :: after ∧
        ((tree.afterLines before).tablesAt location).IsUnused ∧
        line.SetsUp (tree.afterLines before) := by
  induction lines generalizing tree with
  | nil => exact .inl unused
  | cons line rest ih =>
    obtain ⟨opens, later⟩ := works
    rcases CommandLine.sets_up_or_unused opens unused with sets | unused'
    · exact .inr ⟨[], line, rest, rfl, unused, sets⟩
    · rcases ih unused' later with stays | ⟨before, first, after, rfl, unusedThen, sets⟩
      · exact .inl stays
      · exact .inr ⟨line :: before, first, after, rfl, unusedThen, sets⟩

/-- In a vault without a master key, whatever else is in it, every command but the one that sets it
up asks for the key and for nothing more: no other operation is performed, no input is read, no hook
is run. It fails, prints nothing, reports that the vault has not been set up, and changes no vault.
A vault that command lines work on from its beginning has neither secrets nor labels until one of
them has set it up, with a key, and has said so. -/
theorem nothing_works_before_set_up :
    (∀ (s : Setting) (arguments : List String) (invocation : Arguments.Invocation)
        (session : Session), Arguments.Invocation.read arguments = .ok invocation →
      s.start invocation = .ok session → (session.place.tables s.tree).masterKey = none →
      (∀ key, invocation.command ≠ .init key) →
      Session.requests invocation.command.script session = [.store .queryMasterKey] ∧
        (s.run arguments).exitCode = 1 ∧ (s.run arguments).output = [] ∧
        (s.run arguments).errors =
          Utf8.encode "Error: Vault not initialized - run 'vlt init' first\n" ∧
        (s.run arguments).tree.tablesAt = s.tree.tablesAt) ∧
    ∀ (tree : Tree) (location : Location) (lines : List CommandLine),
      (tree.tablesAt location).IsUnused → tree.WorkOnlyAt location lines →
      ((tree.afterLines lines).tablesAt location).IsUnused ∨
        ∃ before line after, lines = before ++ line :: after ∧
          ((tree.afterLines before).tablesAt location).IsUnused ∧
          line.SetsUp (tree.afterLines before) := by
  constructor
  · intro s arguments invocation session understood started missing sets
    rw [s.run_accepted understood]
    obtain ⟨asks, -⟩ := Session.refused_without_key sets (Setting.missing_start started missing)
    exact ⟨asks, Setting.execute_refused started missing sets⟩
  · intro tree location lines unused works
    exact tree.unused_until_set_up unused works

/-- A vault without a master key but with a secret, and a hook to run after a write. -/
def Setting.keyless : Setting where
  tree := ⟨[
    (["config.yaml"], .bytes (Utf8.encode "hooks:\n  post_write: [\"false\"]\n")),
    (["vault.db"], .vault {
      masterKey := none
      secrets := IdMap.empty.insert 1 ⟨.text "mail", .text "p"⟩
      labels := IdMap.empty.insert 1 ⟨.text "work", 1⟩
      secretCount := 1
      labelCount := 1 })]⟩
  directory := []
  environment := []
  input := []

theorem CommandLine.opensOnly_onFile (arguments : List String) (command : Command)
    (understood : Arguments.Invocation.read (onFile arguments).arguments =
      .ok (fileInvocation command)) (tree : Tree) :
    (onFile arguments).OpensOnly tree ["vault.db"] := by
  have named : (fileInvocation command).database = some "/vault.db" := rfl
  exact opensOnly_of_named understood named rfl tree

/-- A command line that names a file for its vault opens it there. -/
theorem Setting.starts_onFile (s : Setting) (command : Command) (directory : s.directory = [])
    (starts : (s.start (CommandLine.fileInvocation command)).isOk) :
    ∃ session, s.start (CommandLine.fileInvocation command) = .ok session ∧
      session.place = .file ["vault.db"] := by
  cases started : s.start (CommandLine.fileInvocation command) with
  | error refusal =>
    rw [started] at starts
    cases starts
  | ok session =>
    have path : s.vaultPath (CommandLine.fileInvocation command) session.config = "/vault.db" := rfl
    have opened := Setting.place_start started
    simp only [path, directory] at opened
    rcases opened with ⟨own, -⟩ | ⟨-, place⟩
    · cases own
    · exact ⟨session, rfl, place⟩

/-- An empty value is not what a command without a master key fails for. A secret is saved after the
vault has been set up, and not before. -/
theorem nothing_works_before_set_up_emptyValue :
    let line := CommandLine.onFile ["set", "1", ""]
    let s := line.on Setting.keyless.tree
    (s.run line.arguments).errors =
        Utf8.encode "Error: Vault not initialized - run 'vlt init' first\n" ∧
      (s.run line.arguments).tree.tablesAt = s.tree.tablesAt ∧
      let lines := [["init", "--key", ""], ["save", "--name", "n", "-l", "l", "p"],
        ["init", "--key", "k"], ["save", "--name", "n", "-l", "l", "p"]].map CommandLine.onFile
      (((⟨[]⟩ : Tree).afterLines lines).tablesAt ["vault.db"]).secrets.keys = [1] ∧
        ∃ before line after, lines = before ++ line :: after ∧
          line.SetsUp ((⟨[]⟩ : Tree).afterLines before) := by
  intro line s
  have understood : Arguments.Invocation.read line.arguments =
      .ok (CommandLine.fileInvocation (.set 1 (.given ""))) := by decide +kernel
  obtain ⟨session, started, place⟩ := s.starts_onFile (.set 1 (.given "")) rfl (by decide +kernel)
  obtain ⟨-, -, -, complains, unchanged⟩ := nothing_works_before_set_up.1 s line.arguments _
    session understood started (by rw [place]; rfl) nofun
  refine ⟨complains, unchanged, ?_⟩
  intro lines
  have saved : (((⟨[]⟩ : Tree).afterLines lines).tablesAt ["vault.db"]).secrets.keys = [1] := by
    decide +kernel
  have fresh : ((⟨[]⟩ : Tree).tablesAt ["vault.db"]).IsUnused := ⟨rfl, rfl, rfl⟩
  have init (key : String) :=
    CommandLine.opensOnly_onFile ["init", "--key", key] (.init (some key))
  have save := CommandLine.opensOnly_onFile ["save", "--name", "n", "-l", "l", "p"]
    (.save "n" ["l"] (.given "p")) (by decide +kernel)
  have works : (⟨[]⟩ : Tree).WorkOnlyAt ["vault.db"] lines :=
    ⟨init "" (by decide +kernel) _, save _, init "k" (by decide +kernel) _, save _, trivial⟩
  refine ⟨saved, ?_⟩
  rcases nothing_works_before_set_up.2 _ _ _ fresh works with
    unused | ⟨before, first, after, same, -, sets⟩
  · rw [unused.secrets] at saved
    cases saved
  · exact ⟨before, first, after, same, sets⟩

end SecretVault
