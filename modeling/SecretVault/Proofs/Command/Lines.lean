import SecretVault.Proofs.Command.AllOrNothing
import SecretVault.Proofs.Starting

/-!
Command lines, one after the other. Each finds the files as the one before has left them. What a
command line asks for while it runs is told in turn.
-/
namespace SecretVault
open SecretVault.Engine SecretVault.Files SecretVault.Text

namespace Session

/-- What a script asks for in a session, in turn. -/
def requests {α : Type} : Script α → Session → List Request
  | .done _, _ | .fail _, _ => []
  | .ask request next, s => request :: requests (next (s.reply request).1) (s.reply request).2

/-- Output that goes on from what has been passed on, and holds back no more than is new. -/
theorem passedOn_isPrefix {s s' : Session} (starts : s.passedOn <+: s'.output)
    (fits : s.output.length - s.held ≤ s'.output.length - s'.held) : s.passedOn <+: s'.passedOn :=
  List.prefix_take_iff.2 ⟨starts, Nat.le_trans (List.length_take_le _ _) fits⟩

/-- What has been passed on stays where it is. -/
theorem passedOn_reply (s : Session) (request : Request) :
    s.passedOn <+: (s.reply request).2.passedOn := by
  have shown : s.passedOn <+: s.output := List.take_prefix _ _
  cases request with
  | print text =>
    have replied : (s.reply (.print text)).2 = s.print text := rfl
    rw [replied]
    refine passedOn_isPrefix (shown.trans (List.prefix_append _ _)) ?_
    have held := heldBack_le s.held (Utf8.encode text)
    simp only [print, List.length_append]
    omega
  | flush => exact passedOn_isPrefix shown (Nat.sub_le_sub_left (Nat.zero_le _) _)
  | runHook hook =>
    refine passedOn_isPrefix ((List.prefix_append _ _).trans (List.prefix_append _ _)) ?_
    simp only [reply, replyAmid, runHookAmid, passedOn, heldPart, List.length_append,
      List.length_take, List.length_drop]
    omega
  | _ => exact List.prefix_rfl

/-- What has been passed on is at the start of the output in the end. -/
theorem passedOn_carryOut {α : Type} (script : Script α) (s : Session) :
    s.passedOn <+: (carryOut script s).2.output := by
  induction script generalizing s with
  | done a => exact List.take_prefix _ _
  | fail failure => exact List.take_prefix _ _
  | ask request next ih => exact (s.passedOn_reply request).trans (ih _ _)

/-- What is kept once more changes no vault. -/
theorem tablesAt_keep {s : Session}
    (kept : s.place.Keeps s.tree s.connection.database.committed) :
    s.keep.tree.tablesAt = s.tree.tablesAt := by
  unfold keep OpenVault.store
  cases here : s.place with
  | temporary => rfl
  | file location =>
    rw [here] at kept
    obtain ⟨below, same⟩ := kept
    exact Tree.tablesAt_put_same below same.symm

/-- Looking something up changes no vault. -/
theorem tablesAt_reply_reading {s : Session}
    (idle : s.connection.database.inTransaction = false)
    (kept : s.place.Keeps s.tree s.connection.database.committed) {op : Operation}
    (reads : op.writes = false) :
    (s.reply (.store op)).2.tree.tablesAt = s.tree.tablesAt := by
  have unchanged := Operation.database_run_reading idle reads live token
  refine tablesAt_keep (s := { s with connection := (op.run live token s.connection).2 }) ?_
  rw [unchanged]
  exact kept

end Session

/-- A command line, with what it finds besides the files. -/
structure CommandLine where
  directory : Location
  environment : Environment
  input : Utf8.Bytes
  arguments : List String

namespace CommandLine

/-- The command line where the files are like this. -/
def on (line : CommandLine) (tree : Tree) : Setting :=
  ⟨tree, line.directory, line.environment, line.input⟩

/-- What becomes of the command line. -/
def finish (line : CommandLine) (tree : Tree) : Finished := (line.on tree).run line.arguments

/-- If the command line opens a vault, then the one that is kept here. -/
def OpensOnly (line : CommandLine) (tree : Tree) (location : Location) : Prop :=
  ∀ invocation session, Arguments.Invocation.read line.arguments = .ok invocation →
    (line.on tree).start invocation = .ok session → session.place = .file location

/-- A command line on a vault in a file of its own. -/
def onFile (arguments : List String) : CommandLine where
  directory := []
  environment := []
  input := []
  arguments := ["--config", "/config.yaml", "--database", "/vault.db"] ++ arguments

/-- What a command line on a vault in a file of its own asks for. -/
def fileInvocation (command : Command) : Arguments.Invocation :=
  ⟨some "/config.yaml", some "/vault.db", command⟩

end CommandLine

namespace Files.Tree

/-- What command lines leave of the files, one after the other. -/
def afterLines (tree : Tree) (lines : List CommandLine) : Tree :=
  lines.foldl (fun tree line => (line.finish tree).tree) tree

@[simp] theorem afterLines_nil (tree : Tree) : tree.afterLines [] = tree := rfl

@[simp] theorem afterLines_cons (tree : Tree) (line : CommandLine) (rest : List CommandLine) :
    tree.afterLines (line :: rest) = (line.finish tree).tree.afterLines rest := rfl

/-- The command lines work on the vault that is kept here and on no other. -/
def WorkOnlyAt (tree : Tree) (location : Location) : List CommandLine → Prop
  | [] => True
  | line :: rest =>
    line.OpensOnly tree location ∧ (line.finish tree).tree.WorkOnlyAt location rest

end Files.Tree

namespace Setting

/-- A command line that is not understood leaves the files alone. -/
theorem run_of_halt (s : Setting) {arguments : List String} {halt : Arguments.Halt}
    (halted : Arguments.Invocation.read arguments = .error halt) :
    (s.run arguments).tree = s.tree := by
  rw [run, runAmid, runWith, halted]
  cases halt <;> rfl

/-- A command line that cannot start changes no vault. -/
theorem tablesAt_execute_of_error (s : Setting) {invocation : Arguments.Invocation}
    {refusal : Failure × Tree} (refused : s.start invocation = .error refusal) :
    (s.execute invocation).tree.tablesAt = s.tree.tablesAt := by
  have starts := holds_start s invocation
  rw [refused] at starts
  rw [execute, executeAmid_refused refused]
  exact starts

/-- Nothing has been complained about when a session starts. -/
theorem errors_start {s : Setting} {invocation : Arguments.Invocation} {session : Session}
    (started : s.start invocation = .ok session) : session.errors = [] := by
  obtain ⟨config, vault, tree, -, -, rfl⟩ := start_eq_ok started
  rfl

/-- A command that fails for its hook has done everything else. -/
theorem onlyHookFails_of_not_own {s : Setting} {invocation : Arguments.Invocation}
    {session : Session} {failure : Failure} (started : s.start invocation = .ok session)
    (failed : (Session.carryOut invocation.command.script session).1 = .error failure)
    (notOwn : ¬ failure.IsOwn) : s.OnlyHookFails invocation (s.execute invocation) := by
  have starts := holds_start s invocation
  rw [started] at starts
  obtain ⟨same, holds⟩ := starts
  cases Session.endsAmid_of_command invocation.command holds .calm with
  | unwritten result ended ran unwritten none asCalm =>
    rcases asCalm with ⟨disturbed, -⟩ | ⟨own, -, -⟩
    · exact absurd rfl disturbed
    · have same : Except.error failure = result := failed.symm.trans (congrArg Prod.fst ran)
      exact absurd (own failure same.symm) notOwn
  | unreported cause ended ran cut => exact absurd cut cause.not_cutsShort_calm
  | hooked a hook found stands complete n running ran one =>
    have writes : s.WritesAll invocation session found :=
      ⟨started, same, complete, stands.follows, hook.settled_phase.idle stands.allows⟩
    rw [Circumstances.after_calm, Session.carryOutAmid_runHook rfl] at ran
    rw [execute, executeAmid_started started, ran]
    cases fails : (found.runHook hook).1 with
    | ok done =>
      have succeeds := failed.symm.trans (congrArg Prod.fst ran)
      rw [show (found.runHookAmid .calm hook).1 = .ok done from fails] at succeeds
      cases succeeds
    | error e =>
      rw [show (found.runHookAmid .calm hook).1 = .error e from fails]
      exact ⟨session, found, hook, e, writes, fails, rfl⟩

end Setting
end SecretVault
