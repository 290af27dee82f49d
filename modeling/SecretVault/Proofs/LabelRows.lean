import SecretVault.Proofs.Limits
import SecretVault.Proofs.Search.Listing

/-!
Rows of the label table by the secret that they belong to, and how changes of the table show in
them. Ids that are drawn for new rows are above all ids in use.
-/
namespace SecretVault
open SecretVault.Engine SecretVault.Glob

/-- Some pattern matches what a cell holds. -/
def Engine.Cell.matchesAny (patterns : List String) (cell : Cell) : Bool :=
  patterns.any fun pattern => matchesCodes pattern cell.codes

namespace Engine.Tables

/-- The names of the labels that belong to an id, in the order of the label ids. -/
def labelCells (t : Tables) (id : Int) : List Cell :=
  (t.labels.entries.filter fun entry => entry.2.secretId == id).map (·.2.name)

theorem mem_labelCells {t : Tables} {id : Int} {name : Cell} :
    name ∈ t.labelCells id ↔ ∃ labelId, (labelId, ⟨name, id⟩) ∈ t.labels.entries := by
  simp only [labelCells, List.mem_map, List.mem_filter, beq_iff_eq]
  constructor
  · intro among
    obtain ⟨⟨labelId, label⟩, ⟨member, rfl⟩, rfl⟩ := among
    exact ⟨labelId, member⟩
  · intro among
    obtain ⟨labelId, member⟩ := among
    exact ⟨_, ⟨member, rfl⟩, rfl⟩

/-- Of the labels of an id those stay that are kept by their names. -/
theorem labelCells_filter {t t' : Tables} (keep : StoredLabel → Bool)
    (labels : t'.labels = t.labels.filter fun _ label => keep label) (id : Int) :
    t'.labelCells id = (t.labelCells id).filter fun name => keep ⟨name, id⟩ := by
  simp only [labelCells, labels, IdMap.filter, List.filter_map, List.filter_filter]
  refine congrArg _ (List.filter_congr fun entry _ => ?_)
  cases own : entry.2.secretId == id with
  | false => simp
  | true =>
    have owner : entry.2 = ⟨entry.2.name, id⟩ := by rw [← eq_of_beq own]
    simp only [Bool.true_and, Function.comp_apply, Bool.and_true]
    exact congrArg keep owner

/-- A label added under an id above all others comes last. -/
theorem labelCells_addLabel {t : Tables} {labelId : Int}
    (above : ∀ entry ∈ t.labels.entries, entry.1 < labelId) (label : StoredLabel) (id : Int) :
    (t.addLabel labelId label).labelCells id =
      if id = label.secretId then t.labelCells id ++ [label.name] else t.labelCells id := by
  simp only [labelCells, addLabel, IdMap.entries_insert_of_above label above, List.filter_append,
    List.map_append]
  split
  · rename_i equal
    simp [equal]
  · rename_i different
    simp [Ne.symm different]

theorem labelId?_isSome {t : Tables} {name : Cell} {id : Int} :
    (t.labelId? ⟨name, id⟩).isSome = true ↔ name ∈ t.labelCells id := by
  rw [labelId?, Option.isSome_map, List.find?_isSome, mem_labelCells]
  constructor
  · intro among
    obtain ⟨⟨labelId, label⟩, member, equal⟩ := among
    rw [beq_iff_eq] at equal
    exact ⟨labelId, equal ▸ member⟩
  · intro among
    obtain ⟨labelId, member⟩ := among
    exact ⟨_, member, beq_self_eq_true _⟩

/-- A drawn id is above all ids in use. -/
theorem nextId_above {α : Type} {rows : IdMap α} {count id : Int}
    (drawn : nextId rows count = .ok id) : ∀ entry ∈ rows.entries, entry.1 < id := by
  intro entry member
  have last := IdMap.le_lastKey member
  dsimp only [nextId] at drawn
  split at drawn <;> cases drawn
  omega

/-- Drawing an id fails only when none is left. -/
theorem exhausted_of_nextId {α : Type} {rows : IdMap α} {count : Int} {e : Engine.Error}
    (failed : nextId rows count = .error e) : ¬ HasNextId rows count ∧ e = .full := by
  dsimp only [nextId] at failed
  split at failed <;> cases failed
  exact ⟨by rw [HasNextId]; omega, rfl⟩

theorem exhausted_of_insertSecret {t : Tables} {secret : StoredSecret} {e : Engine.Error}
    (failed : t.insertSecret secret = .error e) :
    ¬ HasNextId t.secrets t.secretCount ∧ e = .full := by
  unfold insertSecret at failed
  cases drawn : nextId t.secrets t.secretCount with
  | error cause =>
    rw [drawn] at failed
    cases failed
    exact exhausted_of_nextId drawn
  | ok id =>
    rw [drawn] at failed
    cases failed

/-- The labels that match are selected by their ids, which tell them from all others. -/
theorem contains_selected {t : Tables} (selected : Int × StoredLabel → Bool)
    {entry : Int × StoredLabel} (member : entry ∈ t.labels.entries) :
    ((t.labels.entries.filter selected).map (·.1)).contains entry.1 = selected entry := by
  rw [Bool.eq_iff_iff, List.contains_iff_mem, List.mem_map]
  constructor
  · intro among
    obtain ⟨other, held, same⟩ := among
    obtain ⟨stored, isSelected⟩ := List.mem_filter.1 held
    have found := IdMap.get?_eq_some_iff.2 stored
    rw [same, IdMap.get?_eq_some_iff.2 member] at found
    have equal : other = entry := Prod.ext same (Option.some.inj found).symm
    exact equal ▸ isSelected
  · intro isSelected
    exact ⟨entry, List.mem_filter.2 ⟨member, isSelected⟩, rfl⟩

theorem mem_labels_deleteLabels {t : Tables} {selected : Int → StoredLabel → Bool}
    {entry : Int × StoredLabel} : entry ∈ (t.deleteLabels selected).2.labels.entries ↔
      entry ∈ t.labels.entries ∧ selected entry.1 entry.2 = false := by
  simp [deleteLabels, IdMap.filter, List.mem_filter]

theorem deleteLabels_selected (t : Tables) (selected : Int × StoredLabel → Bool) :
    (t.deleteLabels fun id _ => ((t.labels.entries.filter selected).map (·.1)).contains id) =
      t.deleteLabels fun id label => selected (id, label) := by
  have kept : (t.labels.entries.filter fun entry =>
        ((t.labels.entries.filter selected).map (·.1)).contains entry.1) =
      t.labels.entries.filter selected :=
    List.filter_congr fun entry member => contains_selected selected member
  have others : (t.labels.entries.filter fun entry =>
        !((t.labels.entries.filter selected).map (·.1)).contains entry.1) =
      t.labels.entries.filter fun entry => !selected entry :=
    List.filter_congr fun entry member => by rw [contains_selected selected member]
  simp only [deleteLabels, IdMap.filter, kept, others]

end Engine.Tables

namespace Engine

/-- Matching selects the labels of a secret whose names some pattern matches, unless a pattern is
too long. -/
theorem matchingLabels_selects (t : Tables) (id : Int) {patterns : List String}
    (given : patterns ≠ []) :
    UnlessTooLong (∃ pattern ∈ patterns, tooLong pattern = true)
      (matchingLabels t id (.globAny .label patterns))
      (t.labels.entries.filter fun entry =>
        entry.2.secretId == id && entry.2.name.matchesAny patterns) := by
  obtain ⟨first, others, rfl⟩ := List.exists_cons_of_ne_nil given
  let clause : Clause := .globAny .label (first :: others)
  have selected := sequence_selectRows (clause.test ·) (clause.holds ·)
    (joinedRows t id ((t.secrets.get? id).getD default))
    fun row _ => Clause.test_selects row clause
  have chosen : ((joinedRows t id ((t.secrets.get? id).getD default)).filter clause.holds).map
      (fun row => (row.labelId, row.label)) =
        t.labels.entries.filter fun entry =>
          entry.2.secretId == id && entry.2.name.matchesAny (first :: others) := by
    simp only [joinedRows, List.filter_map, List.map_map, List.filter_filter, Function.comp_def,
      List.map_id', Bool.and_comm]
    rfl
  rw [← chosen]
  exact selected.bind (.of_ok _ _)

/-- The statement that deletes labels is refused at a limit, or removes the labels of the secret that
some pattern matches. -/
theorem Statement.change_deleteLabels_cases (t : Tables) (id : Int) {patterns : List String}
    (given : patterns ≠ []) :
    (∃ e, (Statement.deleteLabels id patterns).change t = .error e ∧ e.isLimit = true ∧
        ¬ (Operation.deleteLabels id patterns).Fits t) ∨
      (Statement.deleteLabels id patterns).change t = .ok (t.deleteLabels fun _ label =>
        label.secretId == id && label.name.matchesAny patterns) := by
  have change := Statement.change_deleteLabels id patterns t
  cases limits : Statement.withinLimits (Statement.deleteLabelsQuery id patterns) false with
  | error e =>
    rw [limits] at change
    refine .inl ⟨e, change, (Statement.isLimit_of_withinLimits limits).1, fun fits => ?_⟩
    cases limits.symm.trans (Statement.withinLimits_deleteLabels fits.1)
  | ok =>
    rw [limits] at change
    rcases matchingLabels_selects t id given with selected | ⟨⟨pattern, tried, long⟩, met⟩
    · rw [selected] at change
      exact .inr (change.trans (congrArg Except.ok (Tables.deleteLabels_selected t _)))
    · rw [met] at change
      refine .inl ⟨.patternTooLong, change, rfl, fun fits => ?_⟩
      cases long.symm.trans (fits.2 pattern tried)

end Engine
end SecretVault
