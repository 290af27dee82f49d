import SecretVault.Proofs.Command.Succeeding
import SecretVault.Proofs.Issuing
import SecretVault.Proofs.Text.Utf8
import SecretVault.Proofs.Vault.Refinement

/-!
What a save stores: the value that it is given, under a new id, with each label once. The value may
come by the input, as a line whose end is no part of it.
-/
namespace SecretVault
open SecretVault.Engine SecretVault.Text

/-- The text is the value and a single line end, or the value as it is where the text has none. -/
inductive LineOf : String → String → Prop where
  | lineFeed {value : String} (bare : value.toList.getLast? ≠ some '\r') :
      LineOf (value ++ "\n") value
  | carriageReturn (value : String) : LineOf (value ++ "\r\n") value
  | bare {value : String} (bare : value.toList.getLast? ≠ some '\n') : LineOf value value

theorem dropLineEnd_of_lineOf {text value : String} (line : LineOf text value) :
    dropLineEnd text = value := by
  cases line with
  | lineFeed bare =>
    rw [← List.head?_reverse] at bare
    have ends : (value ++ "\n").toList.reverse = '\n' :: value.toList.reverse := by simp
    rw [dropLineEnd, ends]
    split
    · rename_i rest split
      rw [(List.cons.inj split).2] at bare
      exact absurd rfl bare
    · rename_i rest _ split
      rw [← (List.cons.inj split).2]
      simp
    · rename_i _ other
      exact absurd rfl (other _)
  | carriageReturn => simp [dropLineEnd]
  | bare bare =>
    rw [← List.head?_reverse] at bare
    rw [dropLineEnd]
    split
    · rename_i split
      rw [split] at bare
      exact absurd rfl bare
    · rename_i split
      rw [split] at bare
      exact absurd rfl bare
    · rfl

theorem lineOf_dropLineEnd (text : String) : LineOf text (dropLineEnd text) := by
  have reversed : text = String.ofList text.toList.reverse.reverse := by simp
  rw [dropLineEnd]
  split
  · rename_i rest split
    rw [split] at reversed
    have line : text = String.ofList rest.reverse ++ "\r\n" := by
      rw [reversed, ← String.toList_inj]
      simp
    rw [line]
    exact .carriageReturn _
  · rename_i rest noReturn split
    rw [split] at reversed
    have line : text = String.ofList rest.reverse ++ "\n" := by
      rw [reversed, ← String.toList_inj]
      simp
    rw [line]
    refine .lineFeed fun ends => ?_
    rw [String.toList_ofList, List.getLast?_reverse] at ends
    obtain ⟨_, returns⟩ := List.head?_eq_some_iff.1 ends
    exact noReturn _ returns
  · rename_i noLine
    refine .bare fun ends => ?_
    rw [← List.head?_reverse] at ends
    obtain ⟨_, feeds⟩ := List.head?_eq_some_iff.1 ends
    exact noLine _ feeds

/-- Every text is the line of one value, and that is what is left of it. -/
theorem lineOf_iff {text value : String} : LineOf text value ↔ dropLineEnd text = value :=
  ⟨dropLineEnd_of_lineOf, fun same => same ▸ lineOf_dropLineEnd text⟩

/-- The value that a source gives in a session with this input. -/
def ValueSource.Gives (source : ValueSource) (input : Utf8.Bytes) (value : String) : Prop :=
  match source with
  | .given argument => argument = value
  | .input => ∃ text, input = Utf8.encode text ∧ LineOf text value
  | .prompt => False

namespace Vault

theorem put_put (v : Vault) (id : Int) (e e' : Entry) : (v.put id e).put id e' = v.put id e' := by
  have entries : ((v.entries.insert id e).insert id e') = v.entries.insert id e' := by
    refine IdMap.ext_get? fun other => ?_
    simp only [IdMap.get?_insert]
    split <;> rfl
  rw [put, put, put, entries]

/-- Attaching labels in turn puts those that are new at the end, each of them once. -/
theorem Entry.labels_foldl_attach (labels : List String) (e : Entry) :
    (labels.foldl attach e).labels =
      e.labels ++ (labels.filter fun label => label ∉ e.labels).eraseDups := by
  induction labels generalizing e with
  | nil => simp
  | cons label rest ih =>
    rw [List.foldl_cons, ih, labels_attach]
    by_cases held : label ∈ e.labels
    · simp [held]
    · have others : (rest.filter fun other => other ∉ e.labels ++ [label]) =
          (rest.filter fun other => other ∉ e.labels).filter fun other => !other == label := by
        rw [List.filter_filter]
        refine List.filter_congr fun other _ => ?_
        rw [Bool.eq_iff_iff]
        simp [and_comm]
      simp only [held, if_false, others, List.filter_cons, not_false_eq_true, decide_true, if_true,
        List.eraseDups_cons, List.append_assoc, List.singleton_append]

theorem Entry.secret_foldl_attach (labels : List String) (e : Entry) :
    (labels.foldl attach e).name = e.name ∧ (labels.foldl attach e).payload = e.payload := by
  induction labels generalizing e with
  | nil => exact ⟨rfl, rfl⟩
  | cons label rest ih => exact ih (e.attach label)

end Vault

namespace Script
variable {s s' : Session} {v : Vault}

theorem succeeds_requireMasterKey_of_found {key : String}
    (found : (Operation.queryMasterKey.perform s.connection.database).1 = .ok key) :
    requireMasterKey.Succeeds s () (s.reply (.store .queryMasterKey)).2 := by
  refine succeeds_ask.2 ?_
  rw [(s.reply_store .queryMasterKey).1, found]
  exact (succeeds_done _ _).2 ⟨rfl, rfl⟩

theorem succeeds_requireMasterKey (represented : Represents s.connection.database.current v)
    (initialized : v.masterKey ≠ none) :
    ∃ s', requireMasterKey.Succeeds s () s' ∧ s.OnlyVault s' ∧
      s'.connection.database = s.connection.database := by
  obtain ⟨-, database, onlyVault⟩ := s.reply_store .queryMasterKey
  obtain ⟨key, initialized⟩ := Option.ne_none_iff_exists'.1 initialized
  have found := Operation.perform_queryMasterKey represented
  rw [initialized] at found
  rw [found] at database
  exact ⟨_, succeeds_requireMasterKey_of_found (congrArg Prod.fst found), onlyVault, database⟩

/-- Takes a value that is not empty. -/
def takeValue (value : String) : Script String :=
  if value.isEmpty then .fail .emptyValue else .done value

theorem carryOut_takeValue (value : String) (s : Session) :
    Session.carryOut (takeValue value) s =
      (if value.isEmpty then .error .emptyValue else .ok value, s) := by
  unfold takeValue
  cases value.isEmpty <;> rfl

theorem readValue_input : readValue .input = .ask .readInput fun input =>
    input.elim (.fail .inputNotRead) fun text => takeValue (dropLineEnd text) := by
  refine congrArg (Script.ask .readInput) (funext fun input => ?_)
  cases input <;> rfl

/-- A value is read if it is not empty. -/
theorem carryOut_readValue {source : ValueSource} {value : String}
    (gives : source.Gives s.input value) :
    ∃ input, Session.carryOut (readValue source) s =
      (if value.isEmpty then .error .emptyValue else .ok value, { s with input }) := by
  cases source with
  | given argument =>
    obtain rfl : argument = value := gives
    exact ⟨s.input, carryOut_takeValue argument s⟩
  | input =>
    obtain ⟨text, input, line⟩ := gives
    have reply : s.reply .readInput = (some text, { s with input := [] }) := by
      simp only [Session.reply, Session.replyAmid, input, Utf8.decode_encode]
      rfl
    refine ⟨[], ?_⟩
    rw [readValue_input, Session.carryOut_ask, reply, ← lineOf_iff.1 line]
    exact carryOut_takeValue _ _
  | prompt => cases gives

/-- Labels that are inserted are attached in turn. -/
theorem Succeeds.of_insertLabels {id : Int} {labels : List String} {e : Vault.Entry}
    (represented : Represents s.connection.database.current (v.put id e))
    (succeeds : (insertLabels id labels).Succeeds s () s') :
    s.OnlyVault s' ∧ Represents s'.connection.database.current
      (v.put id (labels.foldl Vault.Entry.attach e)) := by
  induction labels generalizing s e with
  | nil =>
    obtain ⟨-, rfl⟩ := (succeeds_done _ _).1 succeeds
    exact ⟨.refl s, represented⟩
  | cons label rest ih =>
    obtain ⟨labelId, between, first, later⟩ := succeeds_bind.1 succeeds
    obtain ⟨performed, onlyVault⟩ := first.of_store
    have answered : ((Operation.insertLabel label id).perform s.connection.database).1 =
        .ok labelId := congrArg Prod.fst performed
    obtain ⟨follows, -⟩ := Operation.follows represented (.insertLabel label id)
    obtain ⟨v', performs, represents⟩ := follows (by rw [answered]; exact not_limitMet_ok _)
    have found : (v.put id e).entries.get? id = some e := by simp [Vault.put]
    rw [performed] at represents
    rw [Vault.Performs, found] at performs
    rw [performs.2, Vault.put_put] at represents
    obtain ⟨others, represents⟩ := ih represents later
    exact ⟨onlyVault.trans others, represents⟩

/-- With a master key, what a command does is its action, in a session that has printed nothing. -/
theorem carryOut_initialized (represented : Represents s.connection.database.current v)
    (initialized : v.masterKey ≠ none) {command : Command} {action : Script Unit}
    (requires : command.script = do requireMasterKey; action) :
    ∃ keyed, s.OnlyVault keyed ∧ keyed.connection.database = s.connection.database ∧
      Session.carryOut command.script s = Session.carryOut action keyed := by
  obtain ⟨keyed, required, onlyVault, same⟩ := succeeds_requireMasterKey represented initialized
  rw [requires]
  exact ⟨keyed, onlyVault, same, required.carryOut_bind _⟩

/-- Running a hook does nothing to the database. -/
theorem connection_runHook (s : Session) (hook : Hook) :
    (Session.carryOut (runHook hook) s).2.connection = s.connection := by
  have ran : Session.carryOut (runHook hook) s =
      Session.carryOut (orFail (.hook hook) (s.runHook hook).1) (s.runHook hook).2 := rfl
  rw [ran]
  cases (s.runHook hook).1 <;> rfl

/-- Inserts a secret with its labels in turn, and answers its id. -/
def insertLabelled (name value : String) (labels : List String) : Script Int := do
  let id ← store (.insertSecret name value)
  insertLabels id labels
  return id

/-- The line that reports a save. -/
def saveReport (name : String) (id : Int) : String :=
  "success: Secret saved: " ++ idText id ++ " (" ++ name ++ ")" ++ "\n"

/-- What a save does with the value that it has read. -/
def saveValue (name : String) (labels : List String) (value : String) : Script Unit := do
  let id ← inTransaction .notSaved (insertLabelled name value labels)
  printLine ("success: Secret saved: " ++ idText id ++ " (" ++ name ++ ")")
  runHook .postWrite

/-- A value is read first, and an empty one is not saved. -/
theorem carryOut_save (represented : Represents s.connection.database.current v)
    (initialized : v.masterKey ≠ none) {source : ValueSource} {value : String}
    (gives : source.Gives s.input value) (name : String) (labels : List String) :
    ∃ reading : Session, s.Quiet reading ∧
      reading.connection.database = s.connection.database ∧
      Session.carryOut (Command.save name labels source).script s =
        if value = "" then (.error .emptyValue, reading)
        else Session.carryOut (saveValue name labels value) reading := by
  have requires : (Command.save name labels source).script =
    (do requireMasterKey; save name labels source) := rfl
  obtain ⟨keyed, ⟨tree, connection, rfl⟩, same, goesOn⟩ :=
    carryOut_initialized represented initialized requires
  have parts : save name labels source = readValue source >>= saveValue name labels := rfl
  obtain ⟨input, read⟩ := carryOut_readValue (s := { s with tree, connection }) gives
  refine ⟨{ s with tree, connection, input }, ⟨rfl, rfl, rfl⟩, same, goesOn.trans ?_⟩
  rw [parts, Session.carryOut_bind, read]
  by_cases empty : value = "" <;> simp [empty]

variable {name value : String} {labels : List String} {id : Int}

/-- A secret that is inserted with labels in turn has each of them once. -/
theorem Succeeds.of_insertLabelled (represented : Represents s.connection.database.current v)
    (succeeds : (insertLabelled name value labels).Succeeds s id s') :
    s.OnlyVault s' ∧
      (s.connection.database.current.secretCount < id ∧ ∀ used ∈ v.entries.keys, used < id) ∧
      ∃ e : Vault.Entry, (e.name = name ∧ e.payload = value ∧ e.labels = labels.eraseDups) ∧
        Represents s'.connection.database.current (v.put id e) := by
  obtain ⟨drawn, between, inserting, labelling⟩ := succeeds_bind.1 succeeds
  obtain ⟨_, attached, attaching, returned⟩ := succeeds_bind.1 labelling
  obtain ⟨rfl, rfl⟩ := (succeeds_done _ _).1 returned
  obtain ⟨performed, onlyVault⟩ := inserting.of_store
  obtain ⟨t, created, stored⟩ := Operation.insertSecret_of_perform performed
  obtain ⟨above, represents⟩ := represented.insertSecret created
  obtain ⟨next, -⟩ := Tables.eq_of_nextId (Tables.nextId_of_insertSecret created)
  have current : between.connection.database.current = t := by rw [stored, Database.current_put]
  rw [← current] at represents
  obtain ⟨others, final⟩ := attaching.of_insertLabels represents
  refine ⟨onlyVault.trans others, ⟨by omega, above⟩, _, ?_, final⟩
  obtain ⟨sameName, samePayload⟩ :=
    Vault.Entry.secret_foldl_attach labels (.unlabelled name value)
  refine ⟨sameName, samePayload, ?_⟩
  rw [Vault.Entry.labels_foldl_attach]
  simp [Vault.Entry.unlabelled]

/-- The transaction of a save stores the secret. Its id is reported, and then the hook runs. -/
theorem Succeeds.of_saving {stored : Session}
    (represented : Represents s.connection.database.current v)
    (succeeds : (inTransaction .notSaved (insertLabelled name value labels)).Succeeds s id stored) :
    s.Quiet stored ∧
      (s.connection.database.current.secretCount < id ∧ ∀ used ∈ v.entries.keys, used < id) ∧
      (∃ e : Vault.Entry, (e.name = name ∧ e.payload = value ∧ e.labels = labels.eraseDups) ∧
        Represents stored.connection.database.committed (v.put id e)) ∧
      Session.carryOut (saveValue name labels value) s = Session.carryOut (do
        print (saveReport name id)
        runHook .postWrite) stored := by
  obtain ⟨begun, ended, beginning, sees, body, committing, database⟩ :=
    succeeds.of_inTransaction
  rw [← sees] at represented
  obtain ⟨inserting, fresh, e, made, represents⟩ := body.of_insertLabelled represented
  rw [sees] at fresh
  refine ⟨((beginning.trans inserting).trans committing).quiet, fresh, ⟨e, made, ?_⟩,
    succeeds.carryOut_bind _⟩
  rw [database]
  exact represents

/-- A save that succeeds stores the secret, says so under its id, and then runs its hook. -/
theorem Succeeds.of_saveValue (represented : Represents s.connection.database.current v)
    (succeeds : (saveValue name labels value).Succeeds s () s') :
    ∃ (id : Int) (e : Vault.Entry) (stored : Session), s.Quiet stored ∧
      (s.connection.database.current.secretCount < id ∧ ∀ used ∈ v.entries.keys, used < id) ∧
      (e.name = name ∧ e.payload = value ∧ e.labels = labels.eraseDups) ∧
      Represents s'.connection.database.committed (v.put id e) ∧
      Session.carryOut (saveValue name labels value) s = Session.carryOut (do
        print (saveReport name id)
        runHook .postWrite) stored := by
  obtain ⟨id, stored, transaction, reported⟩ := succeeds_bind.1 succeeds
  obtain ⟨quiet, fresh, ⟨e, made, represents⟩, goesOn⟩ := transaction.of_saving represented
  -- Neither the report nor the hook does anything to the database.
  have last : s'.connection = stored.connection := by
    obtain ⟨_, printed, printing, hooking⟩ := succeeds_bind.1 reported
    have hooked := connection_runHook printed .postWrite
    have ran : Session.carryOut (runHook .postWrite) printed = (.ok (), s') := hooking
    obtain rfl : _ = printed := congrArg Prod.snd printing
    rw [ran] at hooked
    exact hooked
  rw [← last] at represents
  exact ⟨id, e, stored, quiet, fresh, made, represents, goesOn⟩

end Script
end SecretVault
