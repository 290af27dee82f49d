import SecretVault.Proofs.Command.Initializing
import SecretVault.Proofs.Secrecy.Scripts

/-!
Commands in two sessions that differ in nothing but secret texts. No command but the one that shows
a secret tells them apart, and neither do values and keys that are given, if they are not empty.
-/
namespace SecretVault
open SecretVault.Engine SecretVault.Text

/-- The secret text in a vault that a command writes, if any. -/
def Command.spot? (t : Tables) : Command → Option Spot
  | .init _ => some .masterKey
  | .save .. => (Tables.nextId t.secrets t.secretCount).toOption.map .payload
  | .set id _ => some (.payload id)
  | _ => none

/-- Commands, each with its input, that do not show a secret and differ at most in a value or in a
key that is given to them and is not empty. -/
inductive Command.Counterpart (input input' : Utf8.Bytes) : Command → Command → Prop where
  | same (command : Command) (noShow : ∀ id lineEnd, command ≠ .show id lineEnd)
      (sameInput : input = input') : Counterpart input input' command command
  | init {key key' : String} (given : key ≠ "") (given' : key' ≠ "") :
      Counterpart input input' (.init (some key)) (.init (some key'))
  | save (name : String) (labels : List String) {source source' : ValueSource}
      {value value' : String} (gives : source.Gives input value) (given : value ≠ "")
      (gives' : source'.Gives input' value') (given' : value' ≠ "") :
      Counterpart input input' (.save name labels source) (.save name labels source')
  | set (id : Int) {source source' : ValueSource} {value value' : String}
      (gives : source.Gives input value) (given : value ≠ "")
      (gives' : source'.Gives input' value') (given' : value' ≠ "") :
      Counterpart input input' (.set id source) (.set id source')

/-- A secret that is saved is written under the next id. -/
theorem Command.covers_save {hidden : Spot → Bool} {t : Tables} {name : String}
    {labels : List String} {source : ValueSource} {id : Int}
    (covers : ∀ spot, (save name labels source).spot? t = some spot → hidden spot = true)
    (drawn : Tables.nextId t.secrets t.secretCount = .ok id) : hidden (.payload id) = true :=
  covers _ (by rw [spot?, drawn]; rfl)

variable {hidden : Spot → Bool} {s s' : Session}

theorem Session.Alike.inTransaction (alike : s.Alike hidden s') :
    s.connection.database.inTransaction = s'.connection.database.inTransaction := by
  obtain ⟨database, -⟩ := Connection.eq_of_veiled alike.connection
  rw [← Database.inTransaction_veiled s.connection.database, database,
    Database.inTransaction_veiled]

namespace Script

/-- A value is read from the same source and the same input. -/
theorem agreesAt_readValue (source : ValueSource) (sameInput : s.input = s'.input)
    (alike : s.Alike hidden s') :
    (readValue source).AgreesAt hidden (fun _ _ => True) s s' (readValue source) := by
  have takes (value : String) : (takeValue value).Agrees hidden (fun _ _ => True)
      (takeValue value) := by
    unfold takeValue
    split
    · exact agrees_fail _
    · exact agrees_done trivial
  cases source with
  | given value => exact takes value s s' alike
  | input =>
    rw [readValue_input]
    have read : (s.reply .readInput).2.Alike hidden (s'.reply .readInput).2 :=
      ⟨alike.connection, alike.output, alike.errors, alike.quiet, alike.quiet'⟩
    have answer : (s'.reply .readInput).1 = (s.reply .readInput).1 :=
      congrArg (fun input => (Utf8.decode input).toOption) sameInput.symm
    rw [AgreesAt, Session.carryOut_ask, Session.carryOut_ask, answer]
    cases (s.reply .readInput).1 with
    | none => exact agrees_fail _ _ _ read
    | some text => exact takes _ _ _ read
  | prompt =>
    -- There is no terminal to prompt on.
    exact ⟨.error (Failure.valueNotRead .noDevice), alike⟩

/-- Values that are given and not empty are read, whatever they are. -/
theorem agreesAt_readValue_given {source source' : ValueSource} {value value' : String}
    (gives : source.Gives s.input value) (given : value ≠ "")
    (gives' : source'.Gives s'.input value') (given' : value' ≠ "") (alike : s.Alike hidden s') :
    (readValue source).AgreesAt hidden (fun _ _ => True) s s' (readValue source') := by
  obtain ⟨input, read⟩ := carryOut_readValue gives
  obtain ⟨input', read'⟩ := carryOut_readValue gives'
  rw [AgreesAt, read, read', if_neg (by simpa using given), if_neg (by simpa using given')]
  exact ⟨.ok trivial, alike.connection, alike.output, alike.errors, alike.quiet, alike.quiet'⟩

/-- Different values are saved if both stay hidden. -/
theorem agreesAt_saveValue (name : String) (labels : List String) (value value' : String)
    (covers : ∀ id, Tables.nextId s.connection.database.current.secrets
      s.connection.database.current.secretCount = .ok id → hidden (.payload id) = true)
    (alike : s.Alike hidden s') :
    (saveValue name labels value).AgreesAt hidden Eq s s' (saveValue name labels value') := by
  have stores : (inTransaction .notSaved (insertLabelled name value labels)).AgreesAt hidden Eq s s'
      (inTransaction .notSaved (insertLabelled name value' labels)) := by
    refine agreesAt_inTransaction .notSaved alike fun between between' current alike => ?_
    have plans := Operation.alikeAt_insertSecret name value value' (current ▸ covers)
    have inserts := (agreesAt_operation (.insertSecret name value)
      (.insertSecret name value') plans rfl alike).bind fun _ _ _ _ _ _ same later =>
      agrees_orFail .store same _ _ later
    refine inserts.bind fun id id' _ _ _ _ same later => ?_
    rw [same]
    exact ((agrees_insertLabels id' labels).bind_same fun _ => agrees_done rfl) _ _ later
  refine stores.bind fun id id' _ _ _ _ same later => ?_
  rw [same]
  exact ((agrees_print _).bind_same fun _ => agrees_runHook _) _ _ later

/-- Different keys are stored if both stay hidden. -/
theorem agrees_storeKey {key key' : String} (covers : hidden .masterKey = true) :
    (storeKey key).Agrees hidden Eq (storeKey key') := by
  have stores := agrees_storing (.insertMasterKey key) (.insertMasterKey key') .store
    (fun _ => Operation.alikeAt_insertMasterKey covers key key') rfl
  exact stores.bind_same fun _ => (agrees_print _).bind_same fun _ => agrees_runHook _

/-- Setting a vault up, with keys that agree in whether they are empty. -/
theorem agrees_setUp {key key' : Option String} (covers : hidden .masterKey = true)
    (same : key = key' ∨ ∃ given given', key = some given ∧ key' = some given' ∧
      given ≠ "" ∧ given' ≠ "") : (setUp key).Agrees hidden Eq (setUp key') := by
  refine (agrees_operation .queryMasterKey .queryMasterKey
    (fun _ => Operation.alikeAt_queryMasterKey) rfl).bind
    fun reply reply' found => ?_
  cases found with
  | ok _ => exact agrees_print _
  | error e =>
    cases e with
    | notFound entity =>
      have stores {key key' : String} (same : key = key' ∨ key ≠ "" ∧ key' ≠ "") :
          Agrees hidden Eq (if key.isEmpty then .fail .emptyKey else storeKey key)
            (if key'.isEmpty then .fail .emptyKey else storeKey key') := by
        have bothEmpty : key.isEmpty = key'.isEmpty := by
          rcases same with rfl | ⟨given, given'⟩
          · rfl
          · have nonempty : key.isEmpty = false := by simpa using given
            have nonempty' : key'.isEmpty = false := by simpa using given'
            rw [nonempty, nonempty']
        rw [bothEmpty]
        split
        · exact agrees_fail _
        · exact agrees_storeKey covers
      rcases same with rfl | ⟨given, given', rfl, rfl, nonempty, nonempty'⟩
      · cases key with
        | some given => exact stores (.inl rfl)
        | none =>
          exact ((agrees_prompt _).bind_same fun _ =>
            agrees_orFail .keyNotRead (.of_eq rfl)).bind_same fun _ => stores (.inl rfl)
      · exact stores (.inr ⟨nonempty, nonempty'⟩)
    | _ => exact agrees_fail _

/-- Different values are set if both stay hidden. -/
theorem agrees_set (id : Int) (value value' : String) (covers : hidden (.payload id) = true) :
    Agrees hidden Eq
      (do
        let _ ← store (.upsertSecret id value)
        printLine ("success: Secret updated: " ++ idText id)
        runHook .postWrite)
      (do
        let _ ← store (.upsertSecret id value')
        printLine ("success: Secret updated: " ++ idText id)
        runHook .postWrite) := by
  have stores := agrees_storing (.upsertSecret id value) (.upsertSecret id value') .store
    (fun _ => Operation.alikeAt_upsertSecret covers value value') rfl
  exact stores.bind_same fun _ => (agrees_print _).bind_same fun _ => agrees_runHook _

variable {s : Session}

/-- Where the first look for a master key is answered alike, a script goes on with the input and the
tables of the beginning. -/
theorem agreesAt_keyed {action action' : Script Unit} (alike : s.Alike hidden s')
    (idle : s.connection.database.inTransaction = false)
    (agrees : ∀ between between', s.OnlyVault between → s'.OnlyVault between' →
      between.connection.database = s.connection.database → between.Alike hidden between' →
      action.AgreesAt hidden Eq between between' action') :
    (do requireMasterKey; action : Script Unit).AgreesAt hidden Eq s s'
      (do requireMasterKey; action') := by
  refine (agrees_requireMasterKey s s' alike).bind fun _ _ between between' ran ran' _ later => ?_
  obtain ⟨-, only, database⟩ := ran.of_requireMasterKey idle
  obtain ⟨-, only', -⟩ := ran'.of_requireMasterKey (alike.inTransaction.symm.trans idle)
  exact agrees between between' only only' database later

/-- Once a value has been read, what is done with it sees the tables of the beginning. -/
theorem agreesAt_keyed_value {source source' : ValueSource} {next : String → Script Unit}
    (alike : s.Alike hidden s') (idle : s.connection.database.inTransaction = false)
    (reads : ∀ between between' : Session, between.input = s.input → between'.input = s'.input →
      between.Alike hidden between' →
      (readValue source).AgreesAt hidden (fun _ _ => True) between between' (readValue source'))
    (goesOn : ∀ value value' (reading reading' : Session),
      reading.connection.database = s.connection.database → reading.Alike hidden reading' →
      (next value).AgreesAt hidden Eq reading reading' (next value')) :
    (do requireMasterKey; readValue source >>= next : Script Unit).AgreesAt hidden Eq s s'
      (do requireMasterKey; readValue source' >>= next) := by
  refine agreesAt_keyed alike idle fun between between' only only' database later => ?_
  obtain ⟨tree, connection, rfl⟩ := only
  obtain ⟨tree', connection', rfl⟩ := only'
  have first := reads { s with tree, connection }
    { s' with tree := tree', connection := connection' } rfl rfl later
  refine first.bind fun value value' reading reading' ran _ _ later => ?_
  refine goesOn value value' reading reading' ?_ later
  rw [ran.of_readValue.2.2]
  exact database

end Script

namespace Command

/-- The same command, unless it shows a secret, with the same input. -/
theorem agreesAt_same {command : Command} (noShow : ∀ id lineEnd, command ≠ .show id lineEnd)
    (sameInput : s.input = s'.input) (idle : s.connection.database.inTransaction = false)
    (alike : s.Alike hidden s')
    (covers : ∀ spot, command.spot? s.connection.database.current = some spot →
      hidden spot = true) :
    command.script.AgreesAt hidden Eq s s' command.script := by
  have always {action : Script Unit} (agrees : action.Agrees hidden Eq action) :
      (do Script.requireMasterKey; action : Script Unit).AgreesAt hidden Eq s s'
        (do Script.requireMasterKey; action) :=
    Script.agreesAt_keyed alike idle fun _ _ _ _ _ later => agrees _ _ later
  have reads (source : ValueSource) (between between' : Session) (input : between.input = s.input)
      (input' : between'.input = s'.input) (later : between.Alike hidden between') :
      (Script.readValue source).AgreesAt hidden (fun _ _ => True) between between'
        (Script.readValue source) :=
    Script.agreesAt_readValue source (input.trans (sameInput.trans input'.symm)) later
  cases command with
  | init key => exact Script.agrees_setUp (covers _ rfl) (.inl rfl) s s' alike
  | save name labels source =>
    exact Script.agreesAt_keyed_value alike idle (reads source)
      fun value value' _ _ database later =>
        Script.agreesAt_saveValue name labels value value'
          (fun id drawn => covers_save covers (database ▸ drawn)) later
  | find name labels json => exact always (Script.agrees_find name labels json)
  | «show» id lineEnd => exact absurd rfl (noShow id lineEnd)
  | describe ids json =>
    exact always ((Script.agrees_store (.searchIds ids) not_false).bind_same fun secrets =>
      Script.agrees_printSecrets secrets json)
  | set id source =>
    exact Script.agreesAt_keyed_value alike idle (reads source) fun value value' _ _ _ later =>
      Script.agrees_set id value value' (covers _ rfl) _ _ later
  | label id labels =>
    refine always (Script.Agrees.reported (fun s s' alike => ?_) _ _)
    exact Script.agreesAt_inTransaction .store alike fun _ _ _ later =>
      Script.agrees_insertLabels id labels _ _ later
  | unlabel id patterns =>
    exact always ((Script.agrees_store (.deleteLabels id patterns) not_false).reported _ _)
  | rename id name =>
    exact always ((Script.agrees_storeAt id (.renameSecret id name) not_false).reported _ _)
  | remove ids =>
    exact always ((Script.agrees_store (.deleteSecrets ids) not_false).reported _ _)

/-- Commands that are counterparts end alike in sessions that are, if what they write is hidden. -/
theorem Counterpart.agreesAt {command command' : Command}
    (counterpart : Counterpart s.input s'.input command command')
    (idle : s.connection.database.inTransaction = false) (alike : s.Alike hidden s')
    (covers : ∀ spot, command.spot? s.connection.database.current = some spot →
      hidden spot = true) :
    command.script.AgreesAt hidden Eq s s' command'.script := by
  cases counterpart with
  | same command noShow sameInput => exact agreesAt_same noShow sameInput idle alike covers
  | init given given' =>
    exact Script.agrees_setUp (covers _ rfl) (.inr ⟨_, _, rfl, rfl, given, given'⟩) s s' alike
  | save name labels gives given gives' given' =>
    refine Script.agreesAt_keyed_value alike idle (fun between between' input input' later => ?_)
      fun value value' _ _ database later => Script.agreesAt_saveValue name labels value value'
        (fun id drawn => covers_save covers (database ▸ drawn)) later
    exact Script.agreesAt_readValue_given (input ▸ gives) given (input' ▸ gives') given' later
  | set id gives given gives' given' =>
    refine Script.agreesAt_keyed_value alike idle (fun between between' input input' later => ?_)
      fun value value' _ _ _ later => Script.agrees_set id value value' (covers _ rfl) _ _ later
    exact Script.agreesAt_readValue_given (input ▸ gives) given (input' ▸ gives') given' later

end Command
end SecretVault
