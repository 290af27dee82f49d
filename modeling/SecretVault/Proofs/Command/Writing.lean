import SecretVault.Proofs.Command.Listing
import SecretVault.Proofs.Command.Showing

/-!
What commands write. A command that has succeeded in a session on a vault has made of it what its
kind says, whatever the vault was like; the commands that only show something leave it as it was.
-/
namespace SecretVault
open SecretVault.Engine SecretVault.Text

/-- The value that a source yields with this input. -/
def ValueSource.Yields (source : ValueSource) (input : Utf8.Bytes) (value : String) : Prop :=
  match source with
  | .given argument => argument = value
  | .input => ∃ text, Utf8.decode input = .ok text ∧ LineOf text value
  | .prompt => False

/-- What a command has made of a vault if it has succeeded with this input. -/
def Command.Wrote (input : Utf8.Bytes) (v v' : Vault) : Command → Prop
  | .init key =>
    match v.masterKey with
    | some _ => v' = v
    | none =>
      ∃ given, key = some given ∧ given ≠ "" ∧ v.Performs (.insertMasterKey given) (.ok ()) v'
  | .save name labels source =>
    ∃ value id e, source.Yields input value ∧ value ≠ "" ∧ (∀ used ∈ v.entries.keys, used < id) ∧
      (e.name = name ∧ e.payload = value ∧ e.labels = labels.eraseDups) ∧ v' = v.put id e
  | .set id source =>
    ∃ value, source.Yields input value ∧ value ≠ "" ∧
      ∃ stored, v.Performs (.upsertSecret id value) (.ok stored) v'
  | .label id labels =>
    labels = [] ∧ v' = v ∨
      ∃ e, v.entries.get? id = some e ∧ v' = v.put id (labels.foldl Vault.Entry.attach e)
  | .unlabel id patterns => ∃ removed, v.Performs (.deleteLabels id patterns) (.ok removed) v'
  | .rename id name => v.Performs (.renameSecret id name) (.ok ()) v'
  | .remove ids => ∃ removed, v.Performs (.deleteSecrets ids) (.ok removed) v'
  | .find .. | .show .. | .describe .. => v' = v

/-- Putting an entry that is there changes nothing. -/
theorem Vault.put_of_get? (v : Vault) {id : Int} {e : Vault.Entry}
    (found : v.entries.get? id = some e) : v.put id e = v := by
  have entries : v.entries.insert id e = v.entries := by
    refine IdMap.ext_get? fun other => ?_
    rw [IdMap.get?_insert]
    split
    · rename_i here
      rw [here, found]
    · rfl
  rw [put, entries]

namespace Script
variable {α : Type} {s s' : Session} {v : Vault}

/-- An operation that has succeeded, on a vault. -/
theorem Succeeds.performs {op : Operation} {reason : StoreError → Failure} {a : op.Answer}
    (represented : Represents s.connection.database.current v)
    (succeeds : (request (.store op) >>= orFail reason).Succeeds s a s') :
    ∃ v', v.Performs op (.ok a) v' ∧ Represents s'.connection.database.current v' := by
  obtain ⟨performed, -⟩ := succeeds.of_store
  obtain ⟨follows, -⟩ := Operation.follows represented op
  rw [performed] at follows
  exact follows (not_limitMet_ok a)

/-- What comes after a report and a hook has been there before. -/
theorem Succeeds.of_reported {script : Script α} {text : α → String} {hook : Hook}
    (succeeds : Succeeds (do
      let a ← script
      print (text a)
      runHook hook) s () s') :
    ∃ a stored, script.Succeeds s a stored ∧ s'.connection = stored.connection := by
  obtain ⟨a, stored, ran, reported⟩ := succeeds_bind.1 succeeds
  obtain ⟨_, printed, printing, hooking⟩ := succeeds_bind.1 reported
  have hooked := connection_runHook printed hook
  have ends : Session.carryOut (runHook hook) printed = (.ok (), s') := hooking
  obtain rfl : _ = printed := congrArg Prod.snd printing
  rw [ends] at hooked
  exact ⟨a, stored, ran, hooked⟩

/-- A secret that has been shown has been read. -/
theorem Succeeds.of_show {id : Int} {lineEnd : Bool}
    (succeeds : («show» id lineEnd).Succeeds s () s') :
    ∃ payload found, (storeAt id (.readPayload id)).Succeeds s payload found ∧
      s'.connection = found.connection := by
  rw [show_eq] at succeeds
  obtain ⟨payload, found, read, shown⟩ := succeeds_bind.1 succeeds
  let printed := found.print (payload ++ if lineEnd then "\n" else "")
  have hooked := connection_runHook { printed with held := 0 } .postRead
  have ends : Session.carryOut (runHook .postRead) { printed with held := 0 } = (.ok (), s') :=
    shown
  rw [ends] at hooked
  exact ⟨payload, found, read, hooked⟩

/-- An operation that is reported has been performed. -/
theorem Succeeds.of_performed {op : Operation} {reason : StoreError → Failure}
    {text : op.Answer → String} {hook : Hook}
    (represented : Represents s.connection.database.current v)
    (succeeds : Succeeds (do
      let a ← request (.store op) >>= orFail reason
      print (text a)
      runHook hook) s () s') :
    ∃ a v', v.Performs op (.ok a) v' ∧ Represents s'.connection.database.current v' := by
  obtain ⟨a, stored, ran, last⟩ := succeeds.of_reported
  obtain ⟨v', performs, represents⟩ := ran.performs represented
  rw [last]
  exact ⟨a, v', performs, represents⟩

/-- A key is found, and nothing changes. -/
theorem Succeeds.of_requireMasterKey (idle : s.connection.database.inTransaction = false)
    (succeeds : requireMasterKey.Succeeds s () s') :
    (∃ text, (Operation.queryMasterKey.perform s.connection.database).1 = .ok text) ∧
      s.OnlyVault s' ∧ s'.connection.database = s.connection.database := by
  obtain ⟨answer, database, onlyVault⟩ := s.reply_store .queryMasterKey
  rw [Operation.database_perform_reading idle rfl] at database
  have asked := succeeds_ask.1 succeeds
  rw [answer] at asked
  cases found : (Operation.queryMasterKey.perform s.connection.database).1 with
  | ok text =>
    rw [found] at asked
    obtain ⟨-, rfl⟩ := (succeeds_done _ _).1 asked
    exact ⟨⟨text, rfl⟩, onlyVault, database⟩
  | error e =>
    rw [found] at asked
    cases e <;> exact absurd asked (not_succeeds_fail _ _)

/-- A value that has been read is what the source yields, and not empty. -/
theorem Succeeds.of_readValue {source : ValueSource} {value : String}
    (succeeds : (readValue source).Succeeds s value s') :
    source.Yields s.input value ∧ value ≠ "" ∧ s'.connection = s.connection := by
  have taken {given : String} {between : Session}
      (takes : (takeValue given).Succeeds between value s') :
      given = value ∧ value ≠ "" ∧ s' = between := by
    have ran := carryOut_takeValue given between
    rw [takes] at ran
    by_cases empty : given.isEmpty
    · simp [empty] at ran
    · simp only [empty, Bool.false_eq_true, if_false, Prod.mk.injEq, Except.ok.injEq] at ran
      obtain ⟨rfl, rfl⟩ := ran
      exact ⟨rfl, by simpa using empty, rfl⟩
  cases source with
  | given argument =>
    obtain ⟨same, given, rfl⟩ := taken succeeds
    exact ⟨same, given, rfl⟩
  | input =>
    rw [readValue_input] at succeeds
    have asked := succeeds_ask.1 succeeds
    cases decoded : Utf8.decode s.input with
    | error e =>
      have reply : (s.reply .readInput).1 = none := congrArg Except.toOption decoded
      rw [reply] at asked
      exact absurd asked (not_succeeds_fail _ _)
    | ok text =>
      have reply : (s.reply .readInput).1 = some text := congrArg Except.toOption decoded
      rw [reply] at asked
      obtain ⟨same, given, rfl⟩ := taken asked
      exact ⟨⟨text, decoded, lineOf_iff.2 same⟩, given, rfl⟩
  | prompt => exact absurd (succeeds_ask.1 succeeds) (not_succeeds_fail _ _)

/-- A script that only reads leaves the database as it is. -/
theorem Succeeds.of_reads {script : Script α} {a : α} {ending : Except Failure α}
    {printed : String} (succeeds : script.Succeeds s a s')
    (reads : script.Reads s.connection.database ending printed) :
    s'.connection.database = s.connection.database := by
  obtain ⟨-, -, unchanged⟩ := reads s rfl
  rw [succeeds] at unchanged
  exact unchanged

/-- With a key found, setting up changes nothing. Otherwise the key is stored that is given, and not
empty. -/
theorem Succeeds.setUp_cases {key : Option String}
    (idle : s.connection.database.inTransaction = false) (succeeds : (setUp key).Succeeds s () s') :
    let asked := Operation.queryMasterKey.perform s.connection.database
    (∃ text, asked.1 = .ok text ∧ s'.connection.database = s.connection.database) ∨
      ∃ entity given between ended, asked.1 = .error (.notFound entity) ∧
        key = some given ∧ given ≠ "" ∧
        between.connection.database = s.connection.database ∧
        (store (.insertMasterKey given)).Succeeds between () ended ∧
        s'.connection = ended.connection := by
  intro asked
  obtain ⟨answer, database, -⟩ := s.reply_store .queryMasterKey
  rw [Operation.database_perform_reading idle rfl] at database
  have goesOn := succeeds_ask.1 succeeds
  rw [answer] at goesOn
  cases answered : asked.1 with
  | ok text =>
    rw [answered] at goesOn
    have warns : (print ("warning: Vault already initialized" ++ "\n")).Succeeds _ () s' := goesOn
    exact .inl ⟨text, rfl, (warns.of_reads (reads_print _)).trans database⟩
  | error e =>
    rw [answered] at goesOn
    cases e with
    | notFound entity =>
      cases key with
      | none => exact absurd (succeeds_ask.1 goesOn) (not_succeeds_fail _ _)
      | some given =>
        have stores : Succeeds (if given.isEmpty then fail .emptyKey else do
            store (.insertMasterKey given)
            printLine "success: Vault initialized"
            runHook .postWrite) _ () s' := goesOn
        by_cases empty : given.isEmpty
        · rw [if_pos empty] at stores
          exact absurd stores (not_succeeds_fail _ _)
        · rw [if_neg empty] at stores
          obtain ⟨_, ended, wrote, last⟩ := stores.of_reported
          have nonempty : given ≠ "" := by simpa using empty
          exact .inr ⟨entity, given, _, ended, rfl, rfl, nonempty, database, wrote, last⟩
    | _ => exact absurd goesOn (not_succeeds_fail _ _)

theorem Succeeds.of_setUp {key : Option String}
    (represented : Represents s.connection.database.current v)
    (idle : s.connection.database.inTransaction = false)
    (succeeds : (setUp key).Succeeds s () s') :
    ∃ v', Represents s'.connection.database.current v' ∧ (Command.init key).Wrote s.input v v' := by
  have ways := succeeds.setUp_cases idle
  rw [Operation.perform_queryMasterKey represented] at ways
  rcases ways with ⟨text, found, same⟩ | ⟨entity, given, between, ended, missing, keyed⟩
  · cases key : v.masterKey with
    | none =>
      rw [key] at found
      cases found
    | some _ =>
      rw [← same] at represented
      exact ⟨v, represented, by simp [Command.Wrote, key]⟩
  · cases key : v.masterKey with
    | some _ =>
      rw [key] at missing
      cases missing
    | none =>
      obtain ⟨rfl, nonempty, same, wrote, last⟩ := keyed
      rw [← same] at represented
      obtain ⟨v', performs, represents⟩ := wrote.performs represented
      rw [last]
      refine ⟨v', represents, ?_⟩
      rw [Command.Wrote, key]
      exact ⟨given, rfl, nonempty, performs⟩

/-- Labels that have been inserted one by one belong to an entry. -/
theorem Succeeds.of_insertLabels_of_represents {id : Int} {labels : List String}
    (represented : Represents s.connection.database.current v)
    (succeeds : (insertLabels id labels).Succeeds s () s') (input : Utf8.Bytes) :
    ∃ v', Represents s'.connection.database.current v' ∧
      (Command.label id labels).Wrote input v v' := by
  cases labels with
  | nil =>
    obtain ⟨-, rfl⟩ := (succeeds_done _ _).1 succeeds
    exact ⟨v, represented, .inl ⟨rfl, rfl⟩⟩
  | cons first others =>
    obtain ⟨_, between, inserted, -⟩ := succeeds_bind.1 succeeds
    obtain ⟨_, performs, -⟩ := inserted.performs represented
    cases found : v.entries.get? id with
    | none => simp [Vault.Performs, found] at performs
    | some e =>
      rw [← v.put_of_get? found] at represented
      obtain ⟨-, represents⟩ := succeeds.of_insertLabels represented
      exact ⟨_, represents, .inr ⟨e, found, rfl⟩⟩

theorem Succeeds.of_save {name : String} {labels : List String} {source : ValueSource}
    (represented : Represents s.connection.database.current v)
    (succeeds : (save name labels source).Succeeds s () s') :
    ∃ v', Represents s'.connection.database.current v' ∧
      (Command.save name labels source).Wrote s.input v v' := by
  obtain ⟨value, reading, read, saved⟩ := succeeds_bind.1 succeeds
  obtain ⟨yields, given, same⟩ := read.of_readValue
  rw [← same] at represented
  obtain ⟨id, stored, transaction, last⟩ := saved.of_reported
  obtain ⟨_, _, _, _, _, _, database⟩ := transaction.of_inTransaction
  obtain ⟨-, ⟨-, fresh⟩, ⟨e, made, represents⟩, -⟩ := transaction.of_saving represented
  rw [last]
  rw [database] at represents ⊢
  exact ⟨_, represents, value, id, e, yields, given, fresh, made, rfl⟩

/-- Finding secrets only reads. -/
theorem Succeeds.of_find {name : Option String} {labels : List String} {json : Bool}
    (idle : s.connection.database.inTransaction = false)
    (succeeds : (find name labels json).Succeeds s () s') :
    s'.connection.database = s.connection.database := by
  rw [find_eq] at succeeds
  obtain ⟨secrets, between, finding, printing⟩ := succeeds_bind.1 succeeds
  obtain ⟨ending, reads, -⟩ := looks_findSecrets idle name labels
  have same := printing.of_reads (reads_printSecrets secrets json _)
  exact same.trans (finding.of_reads reads)

/-- Step by step a script that succeeds leads to a database as its last phase has it. -/
theorem Orderly.allows_of_succeeds {α : Type} {script : Script α} {p q : Phase}
    (orderly : script.Orderly p q) {t : Tables} {s s' : Session} {a : α}
    (allows : p.Allows t s.connection.database) (succeeds : script.Succeeds s a s') :
    q.Allows t s'.connection.database := by
  induction orderly generalizing s with
  | done b =>
    obtain ⟨-, rfl⟩ := (succeeds_done _ _).1 succeeds
    exact allows
  | stop b =>
    obtain ⟨-, rfl⟩ := (succeeds_done _ _).1 succeeds
    exact allows.1
  | fail own => exact absurd succeeds (not_succeeds_fail _ _)
  | @talk _ request _ talks later spoiled ih =>
    refine ih _ ?_ (succeeds_ask.1 succeeds)
    cases request with
    | print _ | flush | readInput | prompt _ => exact allows
    | _ => cases talks
  | look reads later spoiled ih =>
    exact ih _ (Phase.allows_look allows reads Session.live Session.token) (succeeds_ask.1 succeeds)
  | @write _ op next written refused spoiled ihWritten ihRefused =>
    have goesOn := succeeds_ask.1 succeeds
    cases answered : (s.reply (.store op)).1 with
    | ok b =>
      rw [answered] at goesOn
      exact ihWritten b (Phase.allows_written allows op Session.live Session.token) goesOn
    | error e =>
      rw [answered] at goesOn
      have failed : (op.run Session.live Session.token s.connection).1 = .error e := answered
      exact ihRefused e (Phase.allows_refused allows failed) goesOn
  | begin begun refused ihBegun ihRefused =>
    obtain ⟨begins, inside⟩ := Phase.allows_begin allows
    have answered : (s.reply .begin).1 = .ok () :=
      congrArg (Except.mapError StoreError.engine) begins
    have goesOn := succeeds_ask.1 succeeds
    rw [answered] at goesOn
    exact ihBegun inside goesOn
  | @step _ op next taken refused spoiled ihTaken ihRefused =>
    have broken := Phase.allows_step allows op Session.live Session.token
    have goesOn := succeeds_ask.1 succeeds
    cases answered : (s.reply (.store op)).1 with
    | ok b =>
      rw [answered] at goesOn
      have took : (op.run Session.live Session.token s.connection).1 = .ok b := answered
      exact ihTaken b (Phase.allows_taken allows took) goesOn
    | error e =>
      rw [answered] at goesOn
      exact ihRefused e broken goesOn
  | commit committed refused ihCommitted ihRefused =>
    obtain ⟨commits, after⟩ := Phase.allows_commit allows
    have answered : (s.reply .commit).1 = .ok () :=
      congrArg (Except.mapError StoreError.engine) commits
    have goesOn := succeeds_ask.1 succeeds
    rw [answered] at goesOn
    exact ihCommitted after goesOn
  | abandon abandoned ih => exact ih (Phase.allows_abandon allows) (succeeds_ask.1 succeeds)
  | @report _ text next printed refused ih =>
    have goesOn := succeeds_ask.1 succeeds
    exact ih (s := s.print text) allows goesOn
  | @hook p hook next b due succeeded fails =>
    obtain rfl := due
    have goesOn := succeeds_ask.1 succeeds
    cases ending : (s.reply (.runHook hook)).1 with
    | ok _ =>
      rw [ending, succeeded] at goesOn
      obtain ⟨-, rfl⟩ := (succeeds_done _ _).1 goesOn
      exact hook.settled_phase.idle allows
    | error e =>
      rw [ending, fails] at goesOn
      exact absurd goesOn (not_succeeds_fail _ _)

end Script

/-- After a command that has succeeded no transaction is open. -/
theorem Command.idle_of_succeeds {command : Command} {s s' : Session}
    (idle : s.connection.database.inTransaction = false)
    (succeeds : command.script.Succeeds s () s') :
    s'.connection.database.inTransaction = false := by
  have before : Phase.before.Allows s.connection.database.committed s.connection.database :=
    ⟨idle, .refl _⟩
  have ends := command.orderly_to_lastPhase.allows_of_succeeds before succeeds
  cases command with
  | find _ _ _ | describe _ _ => exact ends.1
  | _ => exact ends

theorem Command.wrote_of_action {command : Command} {s s' : Session} {v : Vault}
    (represented : Represents s.connection.database.current v)
    (idle : s.connection.database.inTransaction = false)
    (succeeds : command.action.Succeeds s () s') :
    ∃ v', Represents s'.connection.database.current v' ∧ command.Wrote s.input v v' := by
  cases command with
  | init key => exact Script.Succeeds.of_setUp represented idle succeeds
  | save name labels source => exact Script.Succeeds.of_save represented succeeds
  | find name labels json =>
    have same := Script.Succeeds.of_find idle succeeds
    rw [same]
    exact ⟨v, represented, rfl⟩
  | «show» id lineEnd =>
    obtain ⟨payload, found, read, last⟩ := Script.Succeeds.of_show succeeds
    obtain ⟨v', performs, represents⟩ := read.performs represented
    rw [last]
    exact ⟨v', represents, performs.2⟩
  | describe ids json =>
    obtain ⟨secrets, between, finding, printing⟩ := Script.succeeds_bind.1 succeeds
    obtain ⟨v', performs, represents⟩ := finding.performs represented
    have same := printing.of_reads (Script.reads_printSecrets secrets json _)
    rw [same]
    exact ⟨v', represents, performs.2⟩
  | set id source =>
    obtain ⟨value, reading, read, setting⟩ := Script.succeeds_bind.1 succeeds
    obtain ⟨yields, given, same⟩ := read.of_readValue
    rw [← same] at represented
    obtain ⟨stored, v', performs, represents⟩ :=
      Script.Succeeds.of_performed represented setting
    exact ⟨v', represents, value, yields, given, stored, performs⟩
  | label id labels =>
    obtain ⟨_, stored, transaction, last⟩ := Script.Succeeds.of_reported succeeds
    obtain ⟨begun, ended, -, sees, body, -, database⟩ := transaction.of_inTransaction
    rw [← sees] at represented
    rw [last, database]
    exact body.of_insertLabels_of_represents represented s.input
  | unlabel id patterns =>
    obtain ⟨removed, v', performs, represents⟩ :=
      Script.Succeeds.of_performed represented succeeds
    exact ⟨v', represents, removed, performs⟩
  | rename id name =>
    obtain ⟨_, v', performs, represents⟩ := Script.Succeeds.of_performed represented succeeds
    exact ⟨v', represents, performs⟩
  | remove ids =>
    obtain ⟨removed, v', performs, represents⟩ :=
      Script.Succeeds.of_performed represented succeeds
    exact ⟨v', represents, removed, performs⟩

/-- All commands but the one that sets a vault up need a master key before they act. -/
theorem Command.script_cases (command : Command) :
    (∃ key, command = .init key) ∨
      command.script = (do Script.requireMasterKey; command.action) := by
  cases command with
  | init key => exact .inl ⟨key, rfl⟩
  | _ => exact .inr rfl

/-- A command that has succeeded has written what its kind says. -/
theorem Command.wrote_of_succeeds {command : Command} {s s' : Session} {v : Vault}
    (represented : Represents s.connection.database.current v)
    (idle : s.connection.database.inTransaction = false)
    (succeeds : command.script.Succeeds s () s') :
    ∃ v', Represents s'.connection.database.current v' ∧ command.Wrote s.input v v' := by
  rcases command.script_cases with ⟨key, rfl⟩ | requires
  · exact Command.wrote_of_action represented idle succeeds
  · rw [requires] at succeeds
    obtain ⟨_, keyed, required, acted⟩ := Script.succeeds_bind.1 succeeds
    obtain ⟨-, ⟨tree, connection, rfl⟩, same⟩ := required.of_requireMasterKey idle
    rw [← same] at represented idle
    have wrote := Command.wrote_of_action represented idle acted
    exact wrote

end SecretVault
