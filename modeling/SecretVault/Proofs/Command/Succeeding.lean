import SecretVault.Proofs.Failing
import SecretVault.Proofs.Sessions

/-!
Scripts that succeed. What a session is like after a script that has succeeded is read off its
parts, since each of them has succeeded.
-/
namespace SecretVault
open SecretVault.Engine SecretVault.Text

/-- Nothing has been printed, and the configuration is the same. -/
structure Session.Quiet (s s' : Session) : Prop where
  output : s'.output = s.output
  errors : s'.errors = s.errors
  config : s'.config = s.config

theorem Session.OnlyVault.quiet {s s' : Session} (onlyVault : s.OnlyVault s') : s.Quiet s' := by
  obtain ⟨_, _, rfl⟩ := onlyVault
  exact ⟨rfl, rfl, rfl⟩

theorem Session.Quiet.trans {s s' s'' : Session} (first : s.Quiet s') (second : s'.Quiet s'') :
    s.Quiet s'' :=
  ⟨second.output.trans first.output, second.errors.trans first.errors,
    second.config.trans first.config⟩

/-- A transaction begins with what is stored. -/
theorem Engine.Database.current_begin (d : Database) : d.begin.2.current = d.current := by
  unfold begin
  split
  · rfl
  · rename_i idle
    have none := working_of_idle (Bool.eq_false_iff.2 idle)
    simp [current, none]

/-- A commit stores what was seen in the transaction. -/
theorem Engine.Database.commit_eq_ofTables {d : Database} {done : Unit}
    (committed : d.commit.1 = .ok done) : d.commit.2 = .ofTables d.current := by
  unfold commit at committed ⊢
  cases opened : d.working with
  | none =>
    rw [opened] at committed
    cases committed
  | some t => simp [current, opened]

namespace Script
variable {α β : Type} {s s' : Session}

/-- The script succeeds in the session with this answer and leaves it like this. -/
def Succeeds (script : Script α) (s : Session) (a : α) (s' : Session) : Prop :=
  Session.carryOut script s = (.ok a, s')

@[simp] theorem succeeds_done (a b : α) : (done a).Succeeds s b s' ↔ a = b ∧ s = s' := by
  simp [Succeeds, Session.carryOut_done]

@[simp] theorem not_succeeds_fail (failure : Failure) (a : α) :
    ¬ (fail failure).Succeeds s a s' := by
  simp [Succeeds, Session.carryOut_fail]

@[simp] theorem succeeds_ask {r : Request} {next : r.Reply → Script α} {a : α} :
    (ask r next).Succeeds s a s' ↔ (next (s.reply r).1).Succeeds (s.reply r).2 a s' :=
  Iff.rfl

theorem succeeds_bind {script : Script α} {next : α → Script β} {b : β} :
    (script >>= next).Succeeds s b s' ↔
      ∃ a between, script.Succeeds s a between ∧ (next a).Succeeds between b s' := by
  rw [Succeeds, Session.carryOut_bind]
  constructor
  · intro ran
    split at ran
    · rename_i a between first
      exact ⟨a, between, first, ran⟩
    · cases ran
  · rintro ⟨a, between, first, later⟩
    rw [first]
    exact later

@[simp] theorem succeeds_orFail {ε : Type} {reason : ε → Failure} {result : Except ε α} {a : α} :
    (orFail reason result).Succeeds s a s' ↔ result = .ok a ∧ s = s' := by
  cases result with
  | ok b => simp [orFail]
  | error e => simp [orFail]

/-- Giving up a transaction takes no part in a success. -/
theorem succeeds_abandoning {script : Script α} {a : α} :
    (abandoning script).Succeeds s a s' ↔ script.Succeeds s a s' := by
  induction script generalizing s with
  | done b => rfl
  | fail failure => simp [abandoning]
  | ask request next ih => exact ih _

/-- What follows a script that succeeds. -/
theorem Succeeds.carryOut_bind {script : Script α} {a : α} (succeeds : script.Succeeds s a s')
    (next : α → Script β) :
    Session.carryOut (script >>= next) s = Session.carryOut (next a) s' := by
  rw [Session.carryOut_bind, succeeds]

/-- An operation succeeds if it answers. -/
theorem succeeds_store {op : Operation} (reason : StoreError → Failure) {a : op.Answer}
    (answers : (op.perform s.connection.database).1 = .ok a) :
    (request (.store op) >>= orFail reason).Succeeds s a (s.reply (.store op)).2 := by
  have answered : (s.reply (.store op)).1 = .ok a := (s.reply_store op).1.trans answers
  exact succeeds_bind.2 ⟨_, _, rfl, succeeds_orFail.2 ⟨answered, rfl⟩⟩

/-- An operation that has succeeded. -/
theorem Succeeds.of_store {op : Operation} {reason : StoreError → Failure} {a : op.Answer}
    (succeeds : (request (.store op) >>= orFail reason).Succeeds s a s') :
    op.perform s.connection.database = (.ok a, s'.connection.database) ∧ s.OnlyVault s' := by
  obtain ⟨answer, database, onlyVault⟩ := s.reply_store op
  have answered : (orFail reason (s.reply (.store op)).1).Succeeds (s.reply (.store op)).2 a s' :=
    succeeds
  obtain ⟨ok, same⟩ := succeeds_orFail.1 answered
  rw [answer] at ok
  rw [same] at database onlyVault
  exact ⟨Prod.ext ok database.symm, onlyVault⟩

/-- A transaction that has succeeded: its body has, in a session that sees the same tables, and
afterwards all that was seen there is stored. -/
theorem Succeeds.of_inTransaction {notCommitted : StoreError → Failure} {body : Script α} {a : α}
    (succeeds : (inTransaction notCommitted body).Succeeds s a s') :
    ∃ begun ended, s.OnlyVault begun ∧
      begun.connection.database.current = s.connection.database.current ∧
      body.Succeeds begun a ended ∧ ended.OnlyVault s' ∧
      s'.connection.database = .ofTables ended.connection.database.current := by
  have asked : (orFail .store (s.reply .begin).1 >>= fun _ => abandoning do
      let a ← body
      orFail notCommitted (← request .commit)
      return a).Succeeds (s.reply .begin).2 a s' := succeeds
  obtain ⟨_, begun, begins, inside⟩ := succeeds_bind.1 asked
  obtain ⟨-, rfl⟩ := succeeds_orFail.1 begins
  obtain ⟨b, ended, ran, commits⟩ := succeeds_bind.1 (succeeds_abandoning.1 inside)
  have asked : (orFail notCommitted (ended.reply .commit).1 >>= fun _ => done b).Succeeds
      (ended.reply .commit).2 a s' := commits
  obtain ⟨_, left, committed, returned⟩ := succeeds_bind.1 asked
  obtain ⟨answered, rfl⟩ := succeeds_orFail.1 committed
  obtain ⟨rfl, rfl⟩ := (succeeds_done _ _).1 returned
  refine ⟨_, ended, ⟨_, _, rfl⟩, Database.current_begin _, ran, ⟨_, _, rfl⟩, ?_⟩
  have replied : (ended.connection.database.commit.1).mapError StoreError.engine = .ok _ := answered
  cases result : ended.connection.database.commit.1 with
  | ok done => exact Database.commit_eq_ofTables result
  | error e =>
    rw [result] at replied
    cases replied

/-- In the session the script prints a text and then runs a hook, which is its end. -/
def PrintsThenRuns (script : Script Unit) (s : Session) (text : String) (hook : Hook) : Prop :=
  ∃ printed : Session, printed.output = s.output ++ Utf8.encode text ∧ printed.errors = s.errors ∧
    printed.config = s.config ∧
    Session.carryOut script s = Session.carryOut (runHook hook) printed

theorem printsThenRuns_of_quiet {script : Script Unit} {text : String} {hook : Hook}
    (quiet : s.Quiet s')
    (goesOn : Session.carryOut script s =
      Session.carryOut (do print text; runHook hook) s') :
    script.PrintsThenRuns s text hook :=
  ⟨s'.print text, congrArg (· ++ Utf8.encode text) quiet.output, quiet.errors, quiet.config, goesOn⟩

/-- Where the hook is no command, that is all that happens. -/
theorem PrintsThenRuns.prints {script : Script Unit} {text : String} {hook : Hook}
    (prints : script.PrintsThenRuns s text hook) (noHook : s.config.hooks.argv hook = []) :
    (Session.carryOut script s).1 = .ok () ∧
      (Session.carryOut script s).2.output = s.output ++ Utf8.encode text ∧
      (Session.carryOut script s).2.errors = s.errors := by
  obtain ⟨printed, output, errors, config, ends⟩ := prints
  have nothing : printed.reply (.runHook hook) = (.ok (), printed) :=
    Session.runHook_of_nil (by rw [config, noHook])
  have ran : (runHook hook).Succeeds printed () printed :=
    succeeds_ask.2 (by rw [nothing]; exact (succeeds_done _ _).2 ⟨rfl, rfl⟩)
  rw [ends, ran]
  exact ⟨rfl, output, errors⟩

end Script
end SecretVault
