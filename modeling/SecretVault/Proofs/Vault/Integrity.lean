import SecretVault.Engine.Catalog
import SecretVault.Opening
import SecretVault.Proofs.Counting
import SecretVault.Proofs.Search.Reference
import SecretVault.Proofs.Vault.Invariant

/-!
What holds of the tables of every vault in use, whatever has failed or was stopped on the way: ids
and pairs of a name and a secret are there once, every label has its secret, and counts are not
below ids. So gathering the rows of a search never puts a label twice under a secret.
-/
namespace SecretVault
open SecretVault.Engine SecretVault.Files

namespace Engine.Tables

/-- The rows of the table of the master key. Its only id is 0. -/
def masterKeyRows (t : Tables) : List (Int × Cell) := t.masterKey.toList.map fun key => (0, key)

structure Intact (t : Tables) : Prop where
  oneMasterKey : t.masterKeyRows.length ≤ 1 ∧ ∀ row ∈ t.masterKeyRows, row.1 = 0
  secretIds : t.secrets.keys.Nodup
  labelIds : t.labels.keys.Nodup
  /-- No two labels have the same name and the same secret. -/
  labels : t.labels.values.Nodup
  owners : ∀ label ∈ t.labels.values, t.secrets.contains label.secretId = true
  counted : t.Counted

theorem oneMasterKey (t : Tables) :
    t.masterKeyRows.length ≤ 1 ∧ ∀ row ∈ t.masterKeyRows, row.1 = 0 := by
  unfold masterKeyRows
  cases t.masterKey <;> simp

/-- It is a setting of the connection that holds a new label to its secret. -/
theorem attachLabel_of_missing {t : Tables} {label : StoredLabel} {id : Int}
    (drawn : nextId t.labels t.labelCount = .ok id) (new : t.labelId? label = none)
    (missing : t.secrets.contains label.secretId = false) (settings : Settings) :
    t.attachLabel label settings =
      if settings.foreignKeys then .error .foreignKey else .ok (some id, t.addLabel id label) := by
  cases on : settings.foreignKeys <;>
    simp [attachLabel, drawn, new, missing, on, bind, Except.bind, pure, Except.pure, throw,
      throwThe, MonadExceptOf.throw]

/-- A label is attached, or found to be there, only under a secret that is there. -/
theorem Intact.contains_of_attachLabel {t t' : Tables} (intact : t.Intact) {label : StoredLabel}
    {answer : Option Int} (attached : t.attachLabel label = .ok (answer, t')) :
    t.secrets.contains label.secretId = true := by
  by_contra unknown
  have new : t.labelId? label = none := by
    refine Option.not_isSome_iff_eq_none.1 fun there => unknown ?_
    obtain ⟨labelId, held⟩ := mem_labelCells.1 (labelId?_isSome.1 there)
    exact intact.owners label (List.mem_map.2 ⟨_, held, rfl⟩)
  cases drawn : nextId t.labels t.labelCount with
  | error e =>
    rw [attachLabel_eq, drawn] at attached
    cases attached
  | ok id =>
    rw [attachLabel_of_missing drawn new (Bool.eq_false_iff.2 unknown)] at attached
    cases attached

end Engine.Tables

namespace Represents
variable {t : Tables} {v : Vault}

theorem labelCells_nodup (represented : Represents t v) (id : Int) : (t.labelCells id).Nodup := by
  rw [represented.labels, Vault.labels]
  refine List.Nodup.map (fun _ _ => Cell.text.inj) ?_
  cases v.entries.get? id with
  | none => exact List.nodup_nil
  | some e => exact e.distinct

theorem intact (represented : Represents t v) (counted : t.Counted) : t.Intact where
  oneMasterKey := t.oneMasterKey
  secretIds := t.secrets.nodup_keys
  labelIds := t.labels.nodup_keys
  labels := by
    refine List.Nodup.map_on ?_ (List.Nodup.of_map _ t.labels.nodup_keys)
    intro a heldA b heldB same
    have distinct := represented.labelCells_nodup a.2.secretId
    refine List.inj_on_of_nodup_map distinct ?_ ?_ (congrArg StoredLabel.name same)
    · exact List.mem_filter.2 ⟨heldA, beq_self_eq_true _⟩
    · exact List.mem_filter.2 ⟨heldB, beq_iff_eq.2 (congrArg StoredLabel.secretId same).symm⟩
  owners label member := by
    obtain ⟨⟨labelId, label⟩, held, rfl⟩ := List.mem_map.1 member
    obtain ⟨s, among, -⟩ := represented.label_of_mem held
    rw [represented.contains, IdMap.contains_iff]
    cases found : v.entries.get? label.secretId with
    | none => simp [Vault.labels, found] at among
    | some e => exact ⟨e, rfl⟩
  counted := counted

/-- Whatever rows are selected, a listing has each label once. -/
theorem nodup_of_listing (represented : Represents t v) {selects : JoinedRow → Bool} {id : Int}
    {secret : LabeledSecret} (listed : (t.listing selects).get? id = some secret) :
    secret.labels.Nodup := by
  have distinct (stored : StoredSecret) : (t.selectedLabels selects id stored).Nodup := by
    have among : (t.selectedLabels selects id stored).Sublist
        ((t.labelCells id).map Cell.shown) := by
      simp only [Tables.selectedLabels, Tables.labelCells, List.map_map]
      refine (List.monotone_filter_right _ fun entry selected => ?_).map _
      exact (Bool.and_eq_true_iff.1 selected).1
    refine among.nodup ?_
    rw [represented.labels, List.map_map]
    have shown := represented.labelCells_nodup id
    rw [represented.labels] at shown
    exact (List.map_id (v.labels id)).symm ▸ shown.of_map _
  rw [Tables.get?_listing] at listed
  obtain ⟨stored, -, shown⟩ := Option.bind_eq_some_iff.1 listed
  have nodup := distinct stored
  split at shown
  · cases shown
  · cases shown
    exact nodup

end Represents

theorem Engine.Database.Reachable.intact {d : Database} (reachable : d.Reachable) :
    d.Holds Tables.Intact where
  committed := by
    obtain ⟨v, represented⟩ := reachable.isVault.committed
    exact represented.intact reachable.counted.committed
  working t opened := by
    obtain ⟨v, represented⟩ := reachable.isVault.working t opened
    exact represented.intact (reachable.counted.working t opened)

/-- A row for a label is refused if its secret is not there. -/
theorem Engine.Tables.contains_of_insertRow {t : Tables} {id name owner : Value}
    {answer : Int × Tables} (inserted : t.insertRow (.label id name owner) = .ok answer) :
    ∃ secretId, owner.toInteger? = some secretId ∧ t.secrets.contains secretId = true := by
  simp only [insertRow, bind, Except.bind, throw, throwThe, MonadExceptOf.throw, pure,
    Except.pure] at inserted
  -- The checks come one after the other, and each that fails is the answer.
  split at inserted
  · cases inserted
  split at inserted
  · cases inserted
  split at inserted
  · cases inserted
  split at inserted
  · cases inserted
  split at inserted
  · cases inserted
  rename_i secretId known
  split at inserted
  · cases inserted
  split at inserted
  · cases inserted
  rename_i stored
  exact ⟨secretId, known, by simpa using stored⟩

/-- The file of a vault holds what was kept there. Opening it creates nothing. -/
theorem Opening.openFile_store (d : Database) (tree : Tree) {location : Location}
    (below : location ≠ []) (path : String) :
    let kept := OpenVault.store ⟨.file location, d⟩ tree
    openFile kept location path = (.ok ⟨.file location, .ofTables d.committed⟩, kept) := by
  have found : (tree.put location (.vault d.committed)).at? location =
      some (.vault d.committed) := by
    simp [Tree.at?, Tree.put, below]
  simp [openFile, OpenVault.store, found]

namespace Operation

/-- What an operation lists, if it is a search. -/
def listing? : (op : Operation) → op.Answer → Option LabeledSecrets
  | .searchColumn .., found | .searchIds _, found | .searchLabelsAndName .., found => some found
  | .insertMasterKey _, _ | .queryMasterKey, _ | .insertSecret .., _ | .upsertSecret .., _
  | .readPayload _, _ | .renameSecret .., _ | .deleteSecrets _, _ | .insertLabel .., _
  | .deleteLabels .., _ => none

variable {d d' : Database}

/-- Whichever operation it is that lists, it answers a listing. -/
theorem eq_listing (readable : d.current.Readable) {op : Operation} {answer : op.Answer}
    (answered : op.perform d = (.ok answer, d')) {found : LabeledSecrets}
    (lists : op.listing? answer = some found) : ∃ selects, found = d.current.listing selects := by
  cases op with
  | searchColumn column patterns =>
    cases lists
    exact eq_listing_of_search readable (congrArg Prod.fst answered)
  | searchIds ids =>
    cases lists
    by_cases given : ids = []
    · subst given
      cases answered
    · rw [perform_searchIds given] at answered
      exact eq_listing_of_search readable (congrArg Prod.fst answered)
  | searchLabelsAndName name labels =>
    cases lists
    by_cases given : labels = []
    · subst given
      cases answered
    · rw [perform_searchLabelsAndName given] at answered
      exact eq_listing_of_search readable (congrArg Prod.fst answered)
  | _ => cases lists

theorem contains_of_insertLabel (intact : d.current.Intact) {name : String} {id labelId : Int}
    (answered : (insertLabel name id).perform d = (.ok labelId, d')) :
    d.current.secrets.contains id = true := by
  cases attached : d.current.attachLabel ⟨.text name, id⟩ with
  | ok result => exact intact.contains_of_attachLabel attached
  | error e =>
    have failed : (Statement.insertLabel name id).change d.current = .error e := attached
    have performed : (insertLabel name id).perform d = _ := Plan.perform_send_of_error failed
    cases answered.symm.trans performed

end Operation

/-- In every vault in use the stored tables and those of an open transaction are intact. Setting the
database up once more changes nothing, and whoever opens the file of the vault finds the stored
tables, counts included. No label comes under a secret that is not there, neither by an operation
nor as a row of its own, and no search lists a label twice under a secret. -/
theorem vaults_stay_intact {d : Database} (reachable : d.Reachable) :
    d.Holds Tables.Intact ∧ d.setUp = d ∧
    (∀ (tree : Tree) (location : Location) (path : String), location ≠ [] →
      let kept := OpenVault.store ⟨.file location, d⟩ tree
      Opening.openFile kept location path = (.ok ⟨.file location, .ofTables d.committed⟩, kept)) ∧
    (∀ id name owner answer, d.current.insertRow (.label id name owner) = .ok answer →
      ∃ secretId, owner.toInteger? = some secretId ∧
        d.current.secrets.contains secretId = true) ∧
    ∀ c : Connection, c.database = d → ∀ (schedule : Schedule) (token : Token),
      (∀ name id labelId, ((Operation.insertLabel name id).run schedule token c).1 = .ok labelId →
        d.current.secrets.contains id = true) ∧
      ∀ (op : Operation) answer found, (op.run schedule token c).1 = .ok answer →
        op.listing? answer = some found →
        ∀ id secret, found.get? id = some secret → secret.labels.Nodup := by
  have intact := reachable.intact
  obtain ⟨v, represented⟩ := reachable.isVault.current
  refine ⟨intact, by simp [Database.setUp], fun tree location path below =>
    Opening.openFile_store d tree below path, fun id name owner answer =>
    Tables.contains_of_insertRow, ?_⟩
  rintro c rfl schedule token
  refine ⟨fun name id labelId answered => ?_, fun op answer found answered lists id secret => ?_⟩
  · exact Operation.contains_of_insertLabel intact.current (Operation.perform_of_run answered)
  · obtain ⟨selects, rfl⟩ := Operation.eq_listing represented.readable
      (Operation.perform_of_run answered) lists
    exact represented.nodup_of_listing

/-- A label is attached twice in an open transaction, and the second time nothing is added. -/
theorem vaults_stay_intact_reattached :
    let run (op : Operation) (d : Database) := (op.run (fun _ => none) 0 (.opened d)).2.database
    let stored := run (.insertLabel "work" 1) (run (.insertSecret "mail" "p") .fresh)
    let d := run (.insertLabel "home" 1) (run (.insertLabel "home" 1) stored.begin.2)
    d.Reachable ∧ d.inTransaction = true ∧
      d.current.labels.values = [⟨.text "work", 1⟩, ⟨.text "home", 1⟩] ∧
      d.current.Intact ∧ d.committed.Intact ∧ d.setUp = d := by
  intro run stored d
  have kept : stored.Reachable :=
    .operate (c := .opened _) _ _ _ (.operate (c := .opened .fresh) _ _ _ .fresh)
  have reachable : d.Reachable :=
    .operate (c := .opened _) _ _ _ (.operate (c := .opened _) _ _ _ (.begin kept))
  obtain ⟨intact, setUp, -⟩ := vaults_stay_intact reachable
  exact ⟨reachable, by decide +kernel, by decide +kernel, intact.current, intact.committed, setUp⟩

end SecretVault
