import SecretVault.Proofs.Changes
import SecretVault.Proofs.Command.Asking

/-!
What commands fail for. That a vault has not been set up is reported by the check for a master key
and by nothing else. A master key that is there stays, and no command succeeds without one.
-/
namespace SecretVault
open SecretVault.Engine

namespace Script
variable {α : Type} {allowed : Failure → Prop}

/-- Whatever is replied, the script fails for no other reasons. -/
def FailsOnly (allowed : Failure → Prop) : Script α → Prop
  | .done _ => True
  | .fail failure => allowed failure
  | .ask _ next => ∀ reply, (next reply).FailsOnly allowed

theorem FailsOnly.carryOut {script : Script α} (only : script.FailsOnly allowed) {s : Session}
    {failure : Failure} (failed : (Session.carryOut script s).1 = .error failure) :
    allowed failure := by
  induction script generalizing s with
  | done a => cases failed
  | fail other =>
    cases failed
    exact only
  | ask request next ih => exact ih _ (only _) failed

theorem Asks.failsOnly {asked : Request → Prop} {answers : α → Prop} {script : Script α}
    (asks : script.Asks (fun _ _ => True) asked allowed answers) : script.FailsOnly allowed := by
  induction script with
  | done a => trivial
  | fail failure => exact asks
  | ask request next ih => exact fun reply => ih reply (asks.2 reply trivial)

/-- In a vault that has been set up nothing is refused because it has not. -/
theorem failsOnly_action (command : Command) :
    command.action.FailsOnly (· ≠ .notInitialized) :=
  (asks_action (fun _ apart => apart) command).failsOnly

end Script

/-- There is a master key, whether it can be read or not. -/
def Engine.Tables.IsKeyed (t : Tables) : Prop := t.masterKey ≠ none

/-- A master key that is there is found, or cannot be read. -/
theorem Operation.perform_queryMasterKey_of_some {d : Database} {key : Cell}
    (stored : d.current.masterKey = some key) {e : StoreError}
    (failed : (queryMasterKey.perform d).1 = .error e) : ∃ cause, e = .ofEngine cause := by
  have read : Statement.selectMasterKey.change d.current =
      ((key.read 0 "key").map some).map (·, d.current) := by
    simp only [Statement.selectMasterKey, Statement.change_reading, stored]
    rfl
  cases text : key.read 0 "key" with
  | error cause =>
    rw [text] at read
    have performed : queryMasterKey.perform d = _ := Plan.perform_send_of_error read
    rw [performed] at failed
    exact ⟨cause, (Except.error.inj failed).symm⟩
  | ok text' =>
    rw [text] at read
    have performed : queryMasterKey.perform d = _ := Plan.perform_send_of_ok read
    rw [performed] at failed
    cases failed

theorem Script.carryOut_requireMasterKey_ne {s : Session}
    (keyed : s.connection.database.current.IsKeyed) :
    (Session.carryOut requireMasterKey s).1 ≠ .error .notInitialized := by
  obtain ⟨key, stored⟩ := Option.ne_none_iff_exists'.1 keyed
  obtain ⟨answer, -⟩ := s.reply_store .queryMasterKey
  intro refused
  have asked : (Session.carryOut (.ask (.store .queryMasterKey) _) s).1 = .error .notInitialized :=
    refused
  rw [Session.carryOut_ask, answer] at asked
  cases performed : (Operation.queryMasterKey.perform s.connection.database).1 with
  | ok text =>
    rw [performed] at asked
    cases asked
  | error e =>
    rw [performed] at asked
    obtain ⟨cause, rfl⟩ := Operation.perform_queryMasterKey_of_some stored performed
    cases cause <;> cases asked

/-- With a master key no command reports that the vault has not been set up. -/
theorem Command.carryOut_ne_notInitialized (command : Command) {s : Session}
    (keyed : s.connection.database.current.IsKeyed) :
    (Session.carryOut command.script s).1 ≠ .error .notInitialized := by
  intro refused
  have acts {between : Session}
      (failed : (Session.carryOut command.action between).1 = .error .notInitialized) : False :=
    (Script.failsOnly_action command).carryOut failed rfl
  rcases command.script_cases with ⟨key, rfl⟩ | requires
  · exact acts refused
  · rw [requires, Session.carryOut_bind] at refused
    split at refused
    · exact acts refused
    · rename_i failure ended ran
      refine Script.carryOut_requireMasterKey_ne keyed ?_
      rw [ran]
      exact refused

theorem Engine.Tables.IsKeyed.changed {t t' : Tables} (keyed : t.IsKeyed) (changed : t.Changed t') :
    t'.IsKeyed := by
  cases changed with
  | putMasterKey key => exact nofun
  | _ => exact keyed

/-- What an operation keeps, a session that is asked for it keeps. -/
theorem Session.holds_reply {P : Tables → Prop} {s : Session}
    (holds : s.connection.database.Holds P) (request : Request)
    (keeps : ∀ op, request = .store op → op.plan.Keeps P) :
    (s.reply request).2.connection.database.Holds P := by
  cases request with
  | store op => exact Operation.holds_run (fun _ => keeps op rfl) holds live token
  | begin => exact holds.begin
  | commit => exact holds.commit
  | abandon => exact holds.rollback
  | print _ | flush | readInput | prompt _ | runHook _ => exact holds

/-- What every change keeps, a session keeps. -/
theorem Session.holds_carryOut {α : Type} {P : Tables → Prop}
    (keeps : ∀ t t', P t → t.Changed t' → P t') (script : Script α) {s : Session}
    (holds : s.connection.database.Holds P) :
    (carryOut script s).2.connection.database.Holds P := by
  induction script generalizing s with
  | done a => exact holds
  | fail failure => exact holds
  | ask request next ih =>
    exact ih _ (holds_reply holds request fun op _ => op.keeps_of_changed keeps)

/-- A key that has been found is there. -/
theorem Operation.isKeyed_of_found {d : Database} {text : String}
    (found : (queryMasterKey.perform d).1 = .ok text) : d.current.IsKeyed := by
  intro missing
  have stored : d.current.masterKey = (none : Option String).map .text := missing
  rw [Operation.perform_queryMasterKey_of_text stored] at found
  cases found

/-- After a command that has succeeded there is a master key. -/
theorem Command.isKeyed_of_succeeds {command : Command} {s s' : Session}
    (idle : s.connection.database.inTransaction = false)
    (succeeds : command.script.Succeeds s () s') :
    s'.connection.database.Holds Tables.IsKeyed := by
  have kept {text : String}
      (found : (Operation.queryMasterKey.perform s.connection.database).1 = .ok text) :
      s.connection.database.Holds Tables.IsKeyed := by
    have keyed := Operation.isKeyed_of_found found
    rw [Database.eq_ofTables idle]
    exact Database.holds_ofTables keyed
  rcases command.script_cases with ⟨key, rfl⟩ | requires
  · rcases Script.Succeeds.setUp_cases idle succeeds with
      ⟨text, found, same⟩ | ⟨_, given, between, ended, -, -, -, same, wrote, last⟩
    · rw [same]
      exact kept found
    · obtain ⟨performed, -⟩ := wrote.of_store
      have stored : (Operation.insertMasterKey given).perform between.connection.database = _ :=
        Plan.perform_send_of_ok rfl
      rw [stored, same, Database.eq_ofTables idle] at performed
      have database : _ = ended.connection.database := congrArg Prod.snd performed
      rw [last, ← database]
      exact Database.holds_ofTables nofun
  · have ran := succeeds
    rw [requires] at ran
    obtain ⟨_, _, required, -⟩ := Script.succeeds_bind.1 ran
    obtain ⟨⟨text, found⟩, -⟩ := required.of_requireMasterKey idle
    have ends := Session.holds_carryOut (fun _ _ => Tables.IsKeyed.changed) command.script
      (kept found)
    rw [succeeds] at ends
    exact ends

end SecretVault
