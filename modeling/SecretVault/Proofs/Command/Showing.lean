import SecretVault.Proofs.Command.Room
import SecretVault.Proofs.Vault.Finding

/-!
What is saved is shown. The value that is saved comes back exactly as it was given, and so do the
name and the labels, each label once; nothing else in the vault changes.
-/
namespace SecretVault
open SecretVault.Engine SecretVault.Text

namespace Script
variable {s : Session} {v : Vault}

theorem show_eq (id : Int) (lineEnd : Bool) : «show» id lineEnd = (do
    let payload ← storeAt id (.readPayload id)
    orFail .notPassedOn (← request (.print (payload ++ if lineEnd then "\n" else "")))
    orFail .notPassedOn (← request .flush)
    runHook .postRead) := by
  cases lineEnd with
  | true => rfl
  | false =>
    refine congrArg (storeAt id (.readPayload id) >>= ·) (funext fun payload => ?_)
    exact congrArg (fun text => do
      orFail .notPassedOn (← request (.print text))
      orFail .notPassedOn (← request .flush)
      runHook .postRead) (String.append_empty (s := payload)).symm

/-- A secret is shown as it is stored. -/
theorem printsThenRuns_show {id : Int} {e : Vault.Entry}
    (represented : Represents s.connection.database.current v) (initialized : v.masterKey ≠ none)
    (found : v.entries.get? id = some e) (lineEnd : Bool) :
    (Command.show id lineEnd).script.PrintsThenRuns s
      (e.payload ++ if lineEnd then "\n" else "") .postRead := by
  have requires : (Command.show id lineEnd).script = (do requireMasterKey; «show» id lineEnd) := rfl
  obtain ⟨keyed, keying, same, goesOn⟩ := carryOut_initialized represented initialized requires
  rw [← same] at represented
  have performed : ((Operation.readPayload id).perform keyed.connection.database).1 =
      .ok e.payload := by
    rw [Operation.perform_readPayload represented, found]
    rfl
  have read : (storeAt id (.readPayload id)).Succeeds keyed e.payload
      (keyed.reply (.store (.readPayload id))).2 := succeeds_store _ performed
  have reading := (keyed.reply_store (.readPayload id)).2.2
  have quiet := (keying.trans reading).quiet
  refine ⟨{ Session.print _ _ with held := 0 }, congrArg (· ++ _) quiet.output, quiet.errors,
    quiet.config, goesOn.trans ?_⟩
  rw [show_eq]
  exact read.carryOut_bind _

theorem reads_describe {d : Database} {id : Int} {e : Vault.Entry}
    (represented : Represents d.current v) (initialized : v.masterKey ≠ none)
    (found : v.entries.get? id = some e) (labelled : e.labels ≠ []) (json : Bool) :
    (Command.describe [id] json).script.Reads d (.ok ())
      (LabeledSecrets.printed (IdMap.empty.insert id ⟨e.name, e.labels⟩) json) := by
  have required := reads_requireMasterKey represented
  obtain ⟨key, keyed⟩ := Option.ne_none_iff_exists'.1 initialized
  rw [keyed] at required
  have looked := reads_lookup represented (List.cons_ne_nil id []) (show 1 ≤ maxParams by decide)
  have listed : v.listed [id].contains = IdMap.empty.insert id ⟨e.name, e.labels⟩ := by
    refine IdMap.ext_get? fun other => ?_
    rw [Vault.listed, IdMap.get?_filterMap, IdMap.get?_insert]
    split
    · rename_i own
      simp [own, found, labelled]
    · rename_i apart
      simp [apart, IdMap.get?, IdMap.empty]
  rw [listed] at looked
  exact required.bind (looked.bind (reads_printSecrets _ json d))

end Script

/-- A value that is not empty is saved under an id above all that the vault has had, if ids are left
for it and its labels. Later the secret is shown exactly as it was given, with a line end or
without, and described with each of its labels once, in the order in which they were given first.
All other secrets and the master key are as they were. An empty value is not saved. -/
theorem saved_secrets_come_back {s : Session} (reachable : s.connection.database.Reachable) :
    ∃ v, Represents s.connection.database.current v ∧
      (v.masterKey ≠ none → ∀ (name : String) (labels : List String) (source : ValueSource)
        (value : String), labels ≠ [] → source.Gives s.input value →
        let save := (Command.save name labels source).script
        let ran := Session.carryOut save s
        (value = "" → ran.1 = .error .emptyValue ∧ ran.2.output = s.output ∧
          ran.2.connection.database = s.connection.database) ∧
        (value ≠ "" → s.connection.database.inTransaction = false →
          s.connection.database.current.secretCount < greatestId →
          s.connection.database.current.labelCount + labels.length ≤ greatestId →
          ∃ id, save.PrintsThenRuns s (Script.saveReport name id) .postWrite) ∧
        (value ≠ "" → ran.1 = .ok () → ∃ (id : Int) (v' : Vault) (e : Vault.Entry),
          (s.connection.database.current.secretCount < id ∧ ∀ used ∈ v.entries.keys, used < id) ∧
          save.PrintsThenRuns s (Script.saveReport name id) .postWrite ∧
          Represents ran.2.connection.database.committed v' ∧
          v'.masterKey = v.masterKey ∧ v'.entries.get? id = some e ∧
          (e.name = name ∧ e.payload = value ∧ e.labels = labels.eraseDups) ∧
          (∀ other, other ≠ id → v'.entries.get? other = v.entries.get? other) ∧
          ∀ later : Session,
            later.connection.database = .ofTables ran.2.connection.database.committed →
            (Command.show id false).script.PrintsThenRuns later value .postRead ∧
            (Command.show id true).script.PrintsThenRuns later (value ++ "\n") .postRead ∧
            ∀ json, (Command.describe [id] json).script.Reads later.connection.database (.ok ())
              (LabeledSecrets.printed (IdMap.empty.insert id ⟨name, labels.eraseDups⟩) json))) := by
  obtain ⟨v, represented⟩ := reachable.isVault.current
  refine ⟨v, represented, fun initialized name labels source value labelled gives => ?_⟩
  dsimp only
  obtain ⟨reading, quiet, same, goesOn⟩ :=
    Script.carryOut_save represented initialized gives name labels
  refine ⟨fun empty => ?_, fun given => ?_, fun given succeeds => ?_⟩
  · rw [goesOn, if_pos empty]
    exact ⟨rfl, quiet.output, same⟩
  · rw [if_neg given] at goesOn
    rw [← same] at reachable represented ⊢
    intro idle secretLeft labelsLeft
    obtain ⟨id, stored, storing, reports⟩ := Script.carryOut_saveValue_of_room reachable represented
      idle secretLeft labelsLeft name value
    exact ⟨id, Script.printsThenRuns_of_quiet (quiet.trans storing) (goesOn.trans reports)⟩
  rw [if_neg given] at goesOn
  rw [goesOn] at succeeds ⊢
  have saved : (Script.saveValue name labels value).Succeeds reading () _ := Prod.ext succeeds rfl
  rw [← same] at represented
  obtain ⟨id, e, stored, storing, fresh, made, represents, reports⟩ := saved.of_saveValue represented
  obtain ⟨rfl, rfl, distinct⟩ := made
  have found : (v.put id e).entries.get? id = some e := by simp [Vault.put]
  rw [same] at fresh
  refine ⟨id, v.put id e, e, fresh, Script.printsThenRuns_of_quiet (quiet.trans storing)
    (goesOn.trans reports), represents, rfl, found, ⟨rfl, rfl, distinct⟩, ?_, ?_⟩
  · intro other apart
    simp [Vault.put, apart]
  · intro later stores
    have represents : Represents later.connection.database.current (v.put id e) := by
      rw [stores]
      exact represents
    have shows := Script.printsThenRuns_show represents initialized found
    have unterminated := shows false
    rw [if_neg Bool.false_ne_true, String.append_empty] at unterminated
    have some : e.labels ≠ [] := by
      obtain ⟨first, others, rfl⟩ := List.exists_cons_of_ne_nil labelled
      rw [distinct, List.eraseDups_cons]
      exact List.cons_ne_nil _ _
    rw [← distinct]
    exact ⟨unterminated, shows true, Script.reads_describe represents initialized found some⟩

/-- A value that comes by the input with a line end of two characters, and a label given twice. -/
theorem saved_secrets_come_back_piped :
    let s := { Session.opened .mail with input := Utf8.encode ("a\x00b\n" ++ "\r\n") }
    let ran := Session.carryOut (Command.save "bank" ["work", "", "work"] .input).script s
    s.connection.database.Reachable ∧ ran.1 = .ok () ∧
      ran.2.output = Utf8.encode "success: Secret saved: 2 (bank)\n" ∧
      ∃ id : Int, ∀ later : Session, later.config.hooks.postRead = [] →
        later.connection.database = .ofTables ran.2.connection.database.committed →
        (Session.carryOut (Command.show id false).script later).2.output =
          later.output ++ Utf8.encode "a\x00b\n" ∧
        (Session.carryOut (Command.describe [id] true).script later).2.output =
          later.output ++ Utf8.encode
            (LabeledSecrets.printed (IdMap.empty.insert id ⟨"bank", ["work", ""]⟩) true) := by
  intro s ran
  have reachable : s.connection.database.Reachable := .after .fresh _
  have output : ran.2.output = Utf8.encode "success: Secret saved: 2 (bank)\n" := by
    decide +kernel
  have keyed : s.connection.database.current.masterKey ≠ none := by decide +kernel
  have idle : s.connection.database.inTransaction = false := rfl
  have secretLeft : s.connection.database.current.secretCount < greatestId := by decide +kernel
  have labelsLeft : s.connection.database.current.labelCount + 3 ≤ greatestId := by decide +kernel
  have noHook : s.config.hooks.postWrite = [] := rfl
  have gives : ValueSource.input.Gives s.input "a\x00b\n" := ⟨_, rfl, .carriageReturn _⟩
  clear_value s
  obtain ⟨v, represented, saves⟩ := saved_secrets_come_back reachable
  have initialized : v.masterKey ≠ none := by
    intro none
    rw [represented.masterKey, none] at keyed
    exact keyed rfl
  obtain ⟨-, room, saved⟩ := saves initialized "bank" ["work", "", "work"] .input "a\x00b\n"
    (List.cons_ne_nil _ _) gives
  obtain ⟨_, prints⟩ := room (by decide) idle secretLeft labelsLeft
  obtain ⟨succeeds, -⟩ := prints.prints noHook
  obtain ⟨id, v', e, -, -, -, -, -, -, -, shown⟩ := saved (by decide) succeeds
  refine ⟨reachable, succeeds, output, id, fun later noHook stores => ?_⟩
  obtain ⟨shows, -, describes⟩ := shown later stores
  exact ⟨(shows.prints noHook).2.1, (describes true later rfl).2.1⟩

end SecretVault
