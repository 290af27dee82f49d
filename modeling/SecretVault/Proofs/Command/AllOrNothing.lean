import SecretVault.Proofs.Command.Disturbed
import SecretVault.Proofs.Starting

/-!
Commands that fail, whatever comes from outside. A command that fails has changed no row in any
vault, unless all that failed comes when everything is written: the hook, or the report of what has
been written.
-/
namespace SecretVault
open SecretVault.Engine SecretVault.Files SecretVault.Text

namespace Files.Tree

/-- No row is changed in any vault. -/
def SameRows (tree tree' : Tree) : Prop :=
  ∀ location, (tree.tablesAt location).SameRows (tree'.tablesAt location)

theorem sameRows_of_tablesAt {tree tree' : Tree} (same : tree'.tablesAt = tree.tablesAt) :
    tree.SameRows tree' := by
  intro location
  rw [same]
  exact .refl _

theorem SameRows.trans {tree tree' tree'' : Tree} (first : tree.SameRows tree')
    (second : tree'.SameRows tree'') : tree.SameRows tree'' :=
  fun location => (first location).trans (second location)

end Files.Tree

namespace Setting

/-- Starting a session, whether it succeeds or not, changes no vault. A session that is started
stands before its write. -/
theorem holds_start (s : Setting) (invocation : Arguments.Invocation) :
    match s.start invocation with
    | .ok session => session.tree.tablesAt = s.tree.tablesAt ∧ Phase.before.Holds session session
    | .error (_, tree) => tree.tablesAt = s.tree.tablesAt := by
  unfold start startWith
  cases s.loadConfig invocation.config with
  | error e => rfl
  | ok config =>
    have found := Opening.finds_openVault s.tree s.directory
      (invocation.database.getD (config.databasePath s.environment))
    dsimp only
    cases opened : Opening.openVault s.tree s.directory
        (invocation.database.getD (config.databasePath s.environment)) with
    | mk result tree =>
      rw [opened] at found
      cases result with
      | error e => exact found.1
      | ok vault =>
        obtain ⟨t, database, kept⟩ := found.2 vault rfl
        refine ⟨found.1, ⟨rfl, rfl, fun _ _ => rfl, ?_⟩, ?_⟩
        · simp only [Connection.opened, database]
          exact kept.congr found.1
        · simp only [Connection.opened, database]
          exact ⟨rfl, .refl _⟩

/-- The command has done everything but to report and to run its hook, as it does it where no hook
is run and nothing comes from outside. What it has written is kept, with no transaction open. -/
structure WritesAll (s : Setting) (invocation : Arguments.Invocation) (session written : Session) :
    Prop where
  started : s.start invocation = .ok session
  opened : session.tree.tablesAt = s.tree.tablesAt
  complete : Session.carryOut invocation.command.script session.hookless = (.ok (), written.hookless)
  follows : written.Follows session
  idle : written.connection.database.inTransaction = false

/-- Everything is written and kept, and then the hook of the command fails. -/
def HookFails (s : Setting) (c : Circumstances) (invocation : Arguments.Invocation)
    (finished : Finished) : Prop :=
  ∃ (session written : Session) (hook : Hook) (n : Nat) (e : Program.Error),
    s.WritesAll invocation session written ∧
    let ran := written.runHookAmid (c.after n) hook
    ran.1 = .error e ∧ finished = ran.2.finish (.error (.hook hook e))

/-- A hook that fails does not end the process as a refused report does. -/
theorem HookFails.exitCode_ne {s : Setting} {c : Circumstances}
    {invocation : Arguments.Invocation} {finished : Finished}
    (fails : s.HookFails c invocation finished) : finished.exitCode ≠ 101 := by
  obtain ⟨_, _, hook, _, e, _, _, rfl⟩ := fails
  cases e <;> nofun

/-- Everything is written and kept, and then the output refuses the report, or the process is made to
quit before its hook has been run or after it. -/
def IsCutShort (s : Setting) (c : Circumstances) (invocation : Arguments.Invocation)
    (finished : Finished) : Prop :=
  ∃ (session written ended : Session) (failure : Failure),
    s.WritesAll invocation session written ∧ failure.CutsShort c ∧
    finished = ended.finish (.error failure) ∧
    (ended.tree = written.tree ∨
      ∃ hook n, failure = .quit ∧ ended = (written.runHookAmid (c.after n) hook).2)

/-- With nothing coming from outside, only the hook can fail when everything is written. -/
def OnlyHookFails (s : Setting) (invocation : Arguments.Invocation) (finished : Finished) : Prop :=
  ∃ (session written : Session) (hook : Hook) (e : Program.Error),
    s.WritesAll invocation session written ∧ (written.runHook hook).1 = .error e ∧
    finished = (written.runHook hook).2.finish (.error (.hook hook e))

theorem sameRows_of_unwritten {opened s : Session} (first : opened.Follows opened)
    (unwritten : opened.Unwritten s) : opened.tree.SameRows s.tree := by
  intro location
  obtain ⟨⟨-, place, elsewhere, kept⟩, sameRows⟩ := unwritten
  by_cases here : opened.place = .file location
  · rw [here] at place
    have keptFirst := first.kept
    rw [here] at keptFirst
    rw [place] at kept
    rw [keptFirst.2, kept.2]
    exact sameRows
  · rw [elsewhere location here]
    exact .refl _

/-- A command that fails changes no row of any vault, or only what comes last fails. -/
theorem executeAmid_fails (s : Setting) (c : Circumstances) (invocation : Arguments.Invocation)
    (failed : (s.executeAmid c invocation).exitCode ≠ 0) :
    s.tree.SameRows (s.executeAmid c invocation).tree ∨
      s.HookFails c invocation (s.executeAmid c invocation) ∨
      s.IsCutShort c invocation (s.executeAmid c invocation) := by
  have starts := holds_start s invocation
  cases started : s.start invocation with
  | error refusal =>
    rw [started] at starts
    rw [executeAmid_refused started]
    exact .inl (Tree.sameRows_of_tablesAt starts)
  | ok session =>
    rw [started] at starts
    obtain ⟨same, holds⟩ := starts
    rw [executeAmid_started started] at failed ⊢
    cases Session.endsAmid_of_command invocation.command holds c with
    | unwritten result ended ran unwritten none asCalm =>
      refine .inl ((Tree.sameRows_of_tablesAt same).trans ?_)
      rw [ran, Session.tree_finish]
      exact sameRows_of_unwritten holds.follows unwritten
    | unreported failure ended ran cut after none a output input held complete =>
      rw [ran]
      obtain ⟨config, place, elsewhere, kept⟩ := after.follows
      exact .inr (.inr ⟨session, { ended with output, input, held }, ended, failure,
        ⟨started, same, complete, ⟨config, place, elsewhere, kept⟩, after.allows⟩, cut, rfl,
        .inl rfl⟩)
    | hooked a hook found stands complete n running ran one =>
      have writes : s.WritesAll invocation session found :=
        ⟨started, same, complete, stands.follows, hook.settled_phase.idle stands.allows⟩
      rw [ran, Session.carryOutAmid_runHook running] at failed ⊢
      cases quitting : (c.after n).next.isOver with
      | true =>
        simp only [quitting, if_true] at failed ⊢
        exact .inr (.inr ⟨session, found, _, .quit, writes,
          Circumstances.quits_of_isOver (n := n + 1) (by rwa [Circumstances.after_succ]), rfl,
          .inr ⟨hook, n, rfl, rfl⟩⟩)
      | false =>
        simp only [quitting, Bool.false_eq_true, if_false] at failed ⊢
        cases fails : (found.runHookAmid (c.after n) hook).1 with
        | ok _ =>
          rw [fails] at failed
          exact absurd rfl failed
        | error e =>
          exact .inr (.inl ⟨session, found, hook, n, e, writes, fails, rfl⟩)

/-- What a command line does that is understood, and one that is not. -/
theorem runAmid_accepted (s : Setting) (c : Circumstances) {arguments : List String}
    {invocation : Arguments.Invocation}
    (accepted : Arguments.Invocation.read arguments = .ok invocation) :
    s.runAmid c arguments = s.executeAmid c invocation := by
  rw [runAmid, runWith, accepted]
  rfl

theorem run_accepted (s : Setting) {arguments : List String} {invocation : Arguments.Invocation}
    (accepted : Arguments.Invocation.read arguments = .ok invocation) :
    s.run arguments = s.execute invocation :=
  s.runAmid_accepted .calm accepted

theorem runAmid_refused (s : Setting) (c : Circumstances) {arguments : List String}
    {e : Arguments.Error} (refused : Arguments.Invocation.read arguments = .error (.error e)) :
    s.runAmid c arguments = ⟨2, s.tree, [], Utf8.encode (usageReport e)⟩ := by
  rw [runAmid, runWith, refused]

theorem exitCode_executeAmid (s : Setting) (c : Circumstances)
    (invocation : Arguments.Invocation) : (s.executeAmid c invocation).exitCode ≠ 2 := by
  cases started : s.start invocation with
  | error refusal =>
    rw [executeAmid_refused started]
    exact refusal.1.exitCode_ne_two
  | ok session =>
    rw [executeAmid_started started]
    cases (Session.carryOutAmid invocation.command.script c session).1 with
    | ok done => nofun
    | error failure => exact failure.exitCode_ne_two

/-- A command that is understood never ends with the exit code of one that is not. -/
theorem runAmid_exitCode_two (s : Setting) (c : Circumstances) {arguments : List String}
    (code : (s.runAmid c arguments).exitCode = 2) :
    ∃ e, Arguments.Invocation.read arguments = .error (.error e) := by
  cases understood : Arguments.Invocation.read arguments with
  | ok invocation =>
    rw [s.runAmid_accepted c understood] at code
    exact absurd code (s.exitCode_executeAmid c invocation)
  | error halt =>
    rw [runAmid, runWith, understood] at code
    cases halt with
    | error e => exact ⟨e, rfl⟩
    | version | help => cases code

theorem executeAmid_badConfig (s : Setting) (c : Circumstances)
    {invocation : Arguments.Invocation} {e : Config.LoadError}
    (unread : s.loadConfig invocation.config = .error e) :
    s.executeAmid c invocation = ⟨1, s.tree, [], Utf8.encode (report e.chain)⟩ := by
  have refused : s.start invocation = .error (.badConfig e, s.tree) := by
    rw [start, startWith, unread]
  exact executeAmid_refused refused c

end Setting

/-- A command line that fails leaves every row of every vault as it was, or it does all that it does
where no hook is run and nothing comes from outside, and only then its hook fails, its report is
refused, or it is made to quit. This is so whatever comes from outside: whenever the token is
cancelled, whatever the output refuses and whenever the process is made to quit. Arguments that are
refused, and these alone are told by the exit code 2, and a configuration that is not read leave all
files as they were: no vault has been opened or made. -/
theorem failed_command_all_or_nothing (s : Setting) (c : Circumstances) (arguments : List String)
    (failed : (s.runAmid c arguments).exitCode ≠ 0) :
    (s.tree.SameRows (s.runAmid c arguments).tree ∨
      ∃ invocation, Arguments.Invocation.read arguments = .ok invocation ∧
        (s.HookFails c invocation (s.runAmid c arguments) ∨
          s.IsCutShort c invocation (s.runAmid c arguments))) ∧
    ((s.runAmid c arguments).exitCode = 2 ↔
      ∃ e, Arguments.Invocation.read arguments = .error (.error e)) ∧
    (∀ e, Arguments.Invocation.read arguments = .error (.error e) →
      s.runAmid c arguments = ⟨2, s.tree, [], Utf8.encode (Setting.usageReport e)⟩) ∧
    ∀ invocation e, Arguments.Invocation.read arguments = .ok invocation →
      s.loadConfig invocation.config = .error e →
      s.runAmid c arguments = ⟨1, s.tree, [], Utf8.encode (report e.chain)⟩ := by
  refine ⟨?_, ⟨s.runAmid_exitCode_two c, ?_⟩, fun e => s.runAmid_refused c, ?_⟩
  · cases understood : Arguments.Invocation.read arguments with
    | error halt =>
      have kept : (s.runAmid c arguments).tree = s.tree := by
        rw [Setting.runAmid, Setting.runWith, understood]
        cases halt <;> rfl
      exact .inl (Tree.sameRows_of_tablesAt (congrArg Tree.tablesAt kept))
    | ok invocation =>
      rw [s.runAmid_accepted c understood] at failed ⊢
      rcases s.executeAmid_fails c invocation failed with same | last
      · exact .inl same
      · exact .inr ⟨invocation, rfl, last⟩
  · rintro ⟨e, refused⟩
    rw [s.runAmid_refused c refused]
  · intro invocation e accepted unread
    rw [s.runAmid_accepted c accepted, s.executeAmid_badConfig c unread]

/-- A vault with one secret that has no label, and a hook that always fails. -/
def Setting.failingHook : Setting where
  tree := ⟨[
    (["config.yaml"], .bytes (Utf8.encode "hooks:\n  post_write: [\"false\"]\n")),
    (["vault.db"], .vault {
      masterKey := some (.text "k")
      secrets := IdMap.empty.insert 1 ⟨.text "mail", .text "p"⟩
      labels := IdMap.empty
      secretCount := 1
      labelCount := greatestId - 1 })]⟩
  directory := []
  environment := []
  input := []

/-- A label is attached before the hook fails. Of two labels neither is attached, as there is an id
for the first one only, and no label is attached if the token is cancelled while the first one is. -/
theorem failed_command_all_or_nothing_labels :
    let s := Setting.failingHook
    let line := ["--config", "/config.yaml", "--database", "/vault.db", "label", "1", "work"]
    let one := s.runAmid .calm line
    let two := s.runAmid .calm (line ++ ["home"])
    let stopped := s.runAmid { interrupted := some 3 } line
    one.exitCode ≠ 0 ∧ (one.tree.tablesAt ["vault.db"]).labels.values = [⟨.text "work", 1⟩] ∧
      (∃ invocation, Arguments.Invocation.read line = .ok invocation ∧
        (s.HookFails .calm invocation one ∨ s.IsCutShort .calm invocation one)) ∧
      two.exitCode ≠ 0 ∧ two.tree.tablesAt ["vault.db"] = s.tree.tablesAt ["vault.db"] ∧
      stopped.errors = Utf8.encode "Error: operation cancelled\n" ∧
      stopped.tree.tablesAt ["vault.db"] = s.tree.tablesAt ["vault.db"] := by
  intro s line one two stopped
  have failed : one.exitCode ≠ 0 := by decide +kernel
  have written : (one.tree.tablesAt ["vault.db"]).labels.values = [⟨.text "work", 1⟩] := by
    decide +kernel
  have nothing : (s.tree.tablesAt ["vault.db"]).labels.values = [] := by decide +kernel
  refine ⟨failed, written, ?_, by decide +kernel, by decide +kernel, by decide +kernel,
    by decide +kernel⟩
  refine (failed_command_all_or_nothing s .calm line failed).1.resolve_left fun same => ?_
  have labels : (one.tree.tablesAt ["vault.db"]).labels = (s.tree.tablesAt ["vault.db"]).labels :=
    (same ["vault.db"]).labels
  rw [labels, nothing] at written
  cases written

/-- The output takes nothing. The label is attached, the report is refused, and the hook has not
failed: it has not been run. -/
theorem failed_command_not_only_hook :
    let s := Setting.failingHook
    let line := ["--config", "/config.yaml", "--database", "/vault.db", "label", "1", "work"]
    let finished := s.runAmid (.refusing .noSpace) line
    finished.exitCode = 101 ∧
      ¬ (s.tree.SameRows finished.tree ∨
        ∃ invocation, s.HookFails (.refusing .noSpace) invocation finished) := by
  intro s line finished
  have code : finished.exitCode = 101 := by decide +kernel
  refine ⟨code, ?_⟩
  rintro (same | ⟨invocation, fails⟩)
  · have nothing : (s.tree.tablesAt ["vault.db"]).labels.values = [] := by decide +kernel
    have written : (finished.tree.tablesAt ["vault.db"]).labels.values = [⟨.text "work", 1⟩] := by
      decide +kernel
    have labels : (finished.tree.tablesAt ["vault.db"]).labels =
        (s.tree.tablesAt ["vault.db"]).labels := (same ["vault.db"]).labels
    rw [labels, nothing] at written
    cases written
  · exact fails.exitCode_ne code

end SecretVault
