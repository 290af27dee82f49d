import SecretVault.Proofs.History
import SecretVault.Proofs.Search.Reference
import SecretVault.Proofs.Vault.Invariant

/-!
Operations on tables are operations on the vault that the tables represent. The answers agree over
every run, as long as no limit of the engine is met.
-/
namespace SecretVault
open SecretVault.Engine SecretVault.Glob

namespace Operation

/-- The operation answers and changes tables as it does the vault that they represent, unless it
meets a limit; it meets none if its arguments fit. -/
def Follows (op : Operation) (v : Vault) (d : Database) : Prop :=
  (¬ LimitMet (op.perform d).1 →
    ∃ v', v.Performs op (op.perform d).1 v' ∧ Represents (op.perform d).2.current v') ∧
  (op.Fits d.current → ¬ LimitMet (op.perform d).1)

variable {v : Vault} {d : Database}

theorem follows_of_performs {op : Operation} {v' : Vault}
    {performed : Except StoreError op.Answer × Database} (equal : op.perform d = performed)
    (performs : v.Performs op performed.1 v') (represented : Represents performed.2.current v')
    (unlimited : ¬ LimitMet performed.1) : op.Follows v d := by
  rw [Follows, equal]
  exact ⟨fun _ => ⟨v', performs, represented⟩, fun _ => unlimited⟩

/-- A change that is put where it belongs. -/
theorem follows_of_changed {op : Operation} {v' : Vault} {answer : op.Answer} {t : Tables}
    (performed : op.perform d = (.ok answer, d.put t)) (performs : v.Performs op (.ok answer) v')
    (represents : Represents t v') : op.Follows v d := by
  refine follows_of_performs performed performs ?_ (not_limitMet_ok answer)
  rw [Database.current_put]
  exact represents

/-- A limit that is met because the arguments do not fit. -/
theorem follows_of_limit {op : Operation} {e : Engine.Error} {d' : Database}
    (performed : op.perform d = (.error (.ofEngine e), d')) (isLimit : e.isLimit = true)
    (exceeds : ¬ op.Fits d.current) : op.Follows v d := by
  have limit : LimitMet (op.perform d).1 := by
    rw [performed]
    exact limitMet_ofEngine isLimit
  exact ⟨fun unlimited => absurd limit unlimited, fun fits => absurd fits exceeds⟩

theorem not_limitMet_elim {α : Type} (entity : Entity) (found : Option α) :
    ¬ LimitMet (found.elim (.error (.notFound entity)) .ok : Except StoreError α) := by
  cases found with
  | none => exact not_limitMet_notFound entity
  | some a => exact not_limitMet_ok a

theorem follows_insertMasterKey (represented : Represents d.current v) (key : String) :
    (insertMasterKey key).Follows v d := by
  have performed : (insertMasterKey key).perform d =
      (.ok (), d.put (d.current.putMasterKey (.text key))) :=
    Plan.perform_send_of_ok rfl
  exact follows_of_changed performed ⟨rfl, rfl⟩ (represented.putMasterKey key)

theorem perform_queryMasterKey (represented : Represents d.current v) :
    queryMasterKey.perform d = (v.masterKey.elim (.error (.notFound .masterKey)) .ok, d) :=
  perform_queryMasterKey_of_text represented.masterKey

theorem follows_queryMasterKey (represented : Represents d.current v) :
    queryMasterKey.Follows v d :=
  follows_of_performs (perform_queryMasterKey represented) ⟨rfl, rfl⟩ represented
    (not_limitMet_elim _ _)

theorem follows_insertSecret (represented : Represents d.current v) (name payload : String) :
    (insertSecret name payload).Follows v d := by
  cases created : d.current.insertSecret ⟨.text name, .text payload⟩ with
  | error e =>
    obtain ⟨exhausted, rfl⟩ := Tables.exhausted_of_insertSecret created
    have failed : (Statement.insertSecret name payload).change d.current = .error .full := created
    have performed : (insertSecret name payload).perform d =
        (.error (.ofEngine .full), d.abandon) :=
      Plan.perform_send_of_error failed
    exact follows_of_limit performed rfl exhausted
  | ok result =>
    obtain ⟨id, t⟩ := result
    have performed : (insertSecret name payload).perform d = (.ok id, d.put t) :=
      Plan.perform_send_of_ok created
    obtain ⟨above, represents⟩ := represented.insertSecret created
    exact follows_of_changed performed ⟨id, above, rfl, rfl⟩ represents

theorem perform_upsertSecret (represented : Represents d.current v) (id : Int) (payload : String) :
    (upsertSecret id payload).perform d =
      (.ok 1, d.put (d.current.upsertPayload id (.text payload)).2) := by
  rw [← (represented.upsertPayload id payload).1]
  exact Plan.perform_send_of_ok rfl

theorem follows_upsertSecret (represented : Represents d.current v) (id : Int)
    (payload : String) : (upsertSecret id payload).Follows v d :=
  follows_of_changed (perform_upsertSecret represented id payload) ⟨rfl, rfl⟩
    (represented.upsertPayload id payload).2

theorem perform_readPayload (represented : Represents d.current v) (id : Int) :
    (readPayload id).perform d =
      (((v.entries.get? id).map Vault.Entry.payload).elim (.error (.notFound .secret)) .ok, d) := by
  have read : (Statement.selectPayload id).change d.current =
      .ok ((v.entries.get? id).map Vault.Entry.payload, d.current) := by
    simp only [Statement.selectPayload, Statement.change_reading, represented.secrets]
    cases v.entries.get? id <;> rfl
  refine (Plan.perform_send_of_ok read).trans ?_
  rw [Database.put_current]
  rfl

theorem follows_readPayload (represented : Represents d.current v) (id : Int) :
    (readPayload id).Follows v d :=
  follows_of_performs (perform_readPayload represented id) ⟨rfl, rfl⟩ represented
    (not_limitMet_elim _ _)

theorem follows_renameSecret (represented : Represents d.current v) (id : Int) (name : String) :
    (renameSecret id name).Follows v d := by
  have renamed := represented.renameSecret id name
  have performed : (renameSecret id name).perform d =
      (if (d.current.renameSecret id (.text name)).1 = 0 then .error (.notFound .secret)
        else .ok (), d.put (d.current.renameSecret id (.text name)).2) :=
    Plan.perform_send_of_ok rfl
  cases found : v.entries.get? id with
  | none =>
    rw [found] at renamed
    rw [renamed, Database.put_current] at performed
    refine follows_of_performs performed ?_ represented (not_limitMet_notFound _)
    simp [Vault.Performs, found]
  | some e =>
    rw [found] at renamed
    rw [renamed.1] at performed
    refine follows_of_changed performed ?_ renamed.2
    simp [Vault.Performs, found]

theorem follows_deleteSecrets (represented : Represents d.current v) (ids : List Int) :
    (deleteSecrets ids).Follows v d := by
  cases ids with
  | nil =>
    exact follows_of_performs rfl ⟨rfl, rfl⟩ represented (not_limitMet_precondition _)
  | cons first others =>
    rcases represented.change_deleteSecrets (first :: others) with
      ⟨e, failed, isLimit, exceeds⟩ | ⟨t, deleted, represents⟩
    · have performed : (deleteSecrets (first :: others)).perform d = _ :=
        Plan.perform_send_of_error failed
      exact follows_of_limit performed isLimit exceeds
    · have performed : (deleteSecrets (first :: others)).perform d = (.ok _, d.put t) :=
        Plan.perform_send_of_ok deleted
      exact follows_of_changed performed ⟨rfl, rfl⟩ represents

/-- A label is attached under a new id, or answered with the id under which it is there. -/
theorem perform_insertLabel {name : String} {id : Int} {answer : Option Int} {t : Tables}
    (changed : d.current.attachLabel ⟨.text name, id⟩ = .ok (answer, t))
    (there : answer = none → ∃ labelId, t.labelId? ⟨.text name, id⟩ = some labelId) :
    ∃ labelId, (insertLabel name id).perform d = (.ok labelId, d.put t) := by
  have sent : (Statement.insertLabel name id).change d.current = .ok (answer, t) := changed
  cases answer with
  | some labelId => exact ⟨labelId, Plan.perform_send_of_ok sent⟩
  | none =>
    obtain ⟨labelId, known⟩ := there rfl
    have read : (Statement.selectLabelId name id).change (d.put t).current =
        .ok (labelId, (d.put t).current) := by
      simp only [Statement.selectLabelId, Statement.change_reading, Database.current_put, known]
      rfl
    refine ⟨labelId, (Plan.perform_send_of_ok sent).trans ?_⟩
    refine (Plan.perform_send_of_ok read).trans ?_
    rw [Database.put_current]
    rfl

theorem follows_insertLabel (represented : Represents d.current v) (name : String) (id : Int) :
    (insertLabel name id).Follows v d := by
  rcases represented.attachLabel id name with ⟨exhausted, full⟩ | attached
  · have failed : (Statement.insertLabel name id).change d.current = .error .full := full
    have performed : (insertLabel name id).perform d = (.error (.ofEngine .full), d.abandon) :=
      Plan.perform_send_of_error failed
    exact follows_of_limit performed rfl exhausted
  cases found : v.entries.get? id with
  | none =>
    rw [found] at attached
    have failed : (Statement.insertLabel name id).change d.current = .error .foreignKey := attached
    have performed : (insertLabel name id).perform d = (.error (.engine .foreignKey), d) :=
      Plan.perform_send_of_error failed
    refine follows_of_performs performed ?_ represented (not_limitMet_engine rfl)
    simp [Vault.Performs, found]
  | some e =>
    rw [found] at attached
    obtain ⟨answer, t, changed, represents, there⟩ := attached
    obtain ⟨labelId, performed⟩ := perform_insertLabel changed there
    refine follows_of_changed performed ?_ represents
    simp [Vault.Performs, found]

theorem follows_deleteLabels (represented : Represents d.current v) (id : Int)
    (patterns : List String) : (deleteLabels id patterns).Follows v d := by
  cases patterns with
  | nil =>
    exact follows_of_performs rfl ⟨rfl, rfl⟩ represented (not_limitMet_precondition _)
  | cons first others =>
    rcases represented.change_deleteLabels id (List.cons_ne_nil first others) with
      ⟨e, failed, isLimit, exceeds⟩ | ⟨t, deleted, represents⟩
    · have performed : (deleteLabels id (first :: others)).perform d = _ :=
        Plan.perform_send_of_error failed
      exact follows_of_limit performed isLimit exceeds
    · have performed : (deleteLabels id (first :: others)).perform d = (.ok _, d.put t) :=
        Plan.perform_send_of_ok deleted
      exact follows_of_changed performed ⟨rfl, rfl⟩ represents

theorem follows_searchIds (represented : Represents d.current v) (ids : List Int) :
    (searchIds ids).Follows v d := by
  cases ids with
  | nil =>
    exact follows_of_performs rfl ⟨rfl, rfl⟩ represented (not_limitMet_precondition _)
  | cons first others =>
    have given : first :: others ≠ [] := List.cons_ne_nil first others
    obtain ⟨answered, fitting⟩ := answers_searchIds represented.readable given
    rw [represented.listing_listed] at answered
    obtain ⟨unchanged, -⟩ := perform_search represented.readable [.idIn .secretId (first :: others)]
    rw [← perform_searchIds given] at unchanged
    refine ⟨fun unlimited => ⟨v, ⟨answered unlimited, rfl⟩, ?_⟩, fitting⟩
    rw [unchanged]
    exact represented

theorem follows_searchColumn (represented : Represents d.current v) (column : Column)
    (patterns : List String) : (searchColumn column patterns).Follows v d := by
  obtain ⟨unchanged, -, accepted⟩ := perform_search represented.readable [.globAny column patterns]
  rw [← perform_searchColumn] at unchanged accepted
  refine ⟨fun _ => ⟨v, rfl, by rw [unchanged]; exact represented⟩, fun fits => ?_⟩
  rw [accepted (Statement.accepts_searchColumn fits)]
  exact not_limitMet_ok _

theorem follows_searchLabelsAndName (represented : Represents d.current v) (name : String)
    (labels : List String) : (searchLabelsAndName name labels).Follows v d := by
  cases labels with
  | nil =>
    refine ⟨fun _ => ⟨v, rfl, represented⟩, fun _ => not_limitMet_precondition _⟩
  | cons first others =>
    obtain ⟨unchanged, -, accepted⟩ := perform_search represented.readable
      [.globAny .label (first :: others), .globAny .secretName [name]]
    rw [← perform_searchLabelsAndName (List.cons_ne_nil first others)] at unchanged accepted
    refine ⟨fun _ => ⟨v, rfl, by rw [unchanged]; exact represented⟩, fun fits => ?_⟩
    rw [accepted (Statement.accepts_searchLabelsAndName fits)]
    exact not_limitMet_ok _

/-- One operation on tables is one operation on the vault that they represent. -/
theorem follows (represented : Represents d.current v) : (op : Operation) → op.Follows v d
  | .insertMasterKey key => follows_insertMasterKey represented key
  | .queryMasterKey => follows_queryMasterKey represented
  | .insertSecret name payload => follows_insertSecret represented name payload
  | .upsertSecret id payload => follows_upsertSecret represented id payload
  | .readPayload id => follows_readPayload represented id
  | .renameSecret id name => follows_renameSecret represented id name
  | .deleteSecrets ids => follows_deleteSecrets represented ids
  | .insertLabel name id => follows_insertLabel represented name id
  | .deleteLabels id patterns => follows_deleteLabels represented id patterns
  | .searchColumn column patterns => follows_searchColumn represented column patterns
  | .searchIds ids => follows_searchIds represented ids
  | .searchLabelsAndName name labels => follows_searchLabelsAndName represented name labels

end Operation

/-- Operations on a vault in turn, with their answers. -/
inductive Vault.Runs : Vault → List Exchange → Vault → Prop where
  | nil (v : Vault) : Runs v [] v
  | cons {v v' v'' : Vault} {exchange : Exchange} {rest : List Exchange}
      (performs : v.Performs exchange.operation exchange.answer v') (later : Runs v' rest v'') :
      Runs v (exchange :: rest) v''

/-- Each call has a token that is live until the call has ended, and its arguments fit or it at
least does not answer that a limit was met. -/
def Engine.Connection.Undisturbed (c : Connection) (schedule : Schedule) : List Call → Prop
  | [] => True
  | call :: rest =>
    call.operation.EndsLive schedule call.token c ∧
    (call.operation.Fits c.database.current ∨
      ¬ LimitMet (call.operation.run schedule call.token c).1) ∧
    (call.operation.run schedule call.token c).2.Undisturbed schedule rest

instance Engine.Connection.decidableUndisturbed (schedule : Schedule) (c : Connection) :
    (calls : List Call) → Decidable (c.Undisturbed schedule calls)
  | [] => isTrue trivial
  | call :: rest =>
    have := decidableUndisturbed schedule (call.operation.run schedule call.token c).2 rest
    inferInstanceAs (Decidable (call.operation.EndsLive schedule call.token c ∧
      (call.operation.Fits c.database.current ∨
        ¬ LimitMet (call.operation.run schedule call.token c).1) ∧
      (call.operation.run schedule call.token c).2.Undisturbed schedule rest))

/-- Under live tokens every run of operations within the limits answers what the vault answers that
the tables represent, and leaves tables that represent the vault after the run. A new vault is
empty, and the tables of every vault in use represent one. -/
theorem runs_refine_vault :
    Represents .empty .empty ∧
    (∀ d : Database, d.Reachable → ∃ v, Represents d.current v) ∧
    ∀ (schedule : Schedule) (calls : List Call) (c : Connection) (v : Vault),
      Represents c.database.current v → c.Undisturbed schedule calls →
      ∃ v', v.Runs (c.exchanges schedule calls) v' ∧
        Represents (c.afterCalls schedule calls).database.current v' := by
  refine ⟨represents_empty, fun d reachable => reachable.isVault.current,
    fun schedule calls c v represented undisturbed => ?_⟩
  induction calls generalizing c v with
  | nil => exact ⟨v, .nil v, represented⟩
  | cons call rest ih =>
    obtain ⟨live, within, later⟩ := undisturbed
    obtain ⟨answer, database⟩ := Operation.run_of_live live
    obtain ⟨performs, fitting⟩ := Operation.follows represented call.operation
    rw [← answer] at performs fitting
    rw [← database] at performs
    have unmet : ¬ LimitMet (call.operation.run schedule call.token c).1 :=
      within.elim fitting id
    obtain ⟨v', step, represents⟩ := performs unmet
    obtain ⟨v'', run, final⟩ := ih _ v' represents later
    exact ⟨v'', .cons step run, final⟩

/-- A label that is attached twice and one that is removed and attached again. -/
theorem runs_refine_vault_relabelled :
    let calls : List Call := [
      ⟨.insertMasterKey "k", 0⟩, ⟨.insertSecret "n" "p", 0⟩, ⟨.insertLabel "a" 1, 0⟩,
      ⟨.insertLabel "b" 1, 0⟩, ⟨.insertLabel "b" 1, 0⟩, ⟨.deleteLabels 1 ["[a]"], 0⟩,
      ⟨.insertLabel "a" 1, 0⟩, ⟨.upsertSecret 7 "q", 0⟩, ⟨.searchIds [7, 1, 1], 0⟩,
      ⟨.insertLabel "c" 9, 0⟩, ⟨.deleteSecrets [7, 7, 9], 0⟩]
    let c := Connection.opened .fresh
    c.Undisturbed (fun _ => none) calls ∧
      (c.afterCalls (fun _ => none) calls).database.current.labelCells 1 = [.text "b", .text "a"] ∧
      ∃ v', Vault.empty.Runs (c.exchanges (fun _ => none) calls) v' ∧
        Represents (c.afterCalls (fun _ => none) calls).database.current v' := by
  intro calls c
  have undisturbed : c.Undisturbed (fun _ => none) calls := by decide +kernel
  refine ⟨undisturbed, by decide +kernel, ?_⟩
  exact runs_refine_vault.2.2 (fun _ => none) calls c .empty represents_empty undisturbed

end SecretVault
