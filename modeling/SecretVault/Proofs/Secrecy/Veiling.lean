import SecretVault.Proofs.IdMap
import SecretVault.Proofs.Search.Selection

/-!
Tables with secret texts covered. Whether two tables differ in nothing but such texts shows in what
is left of them then. A search finds the same in what is left.
-/
namespace SecretVault
open SecretVault.Engine

namespace IdMap
variable {α β : Type}

/-- Other values for the same ids. -/
def map (m : IdMap α) (f : Int → α → β) : IdMap β where
  entries := m.entries.map fun entry => (entry.1, f entry.1 entry.2)
  ascending := List.pairwise_map.2 m.ascending

variable (m : IdMap α) (f : Int → α → β)

@[simp] theorem keys_map : (m.map f).keys = m.keys := by simp [map, keys, Function.comp_def]

@[simp] theorem lastKey?_map : (m.map f).lastKey? = m.lastKey? := by
  rw [lastKey?, keys_map, lastKey?]

@[simp] theorem get?_map (id : Int) : (m.map f).get? id = (m.get? id).map (f id) := by
  obtain ⟨entries, ascending⟩ := m
  simp only [get?, map]
  clear ascending
  induction entries with
  | nil => rfl
  | cons entry rest ih =>
    obtain ⟨first, value⟩ := entry
    simp only [List.map_cons, List.lookup_cons, ih]
    by_cases here : id = first
    · simp [here]
    · simp [beq_false_of_ne here]

@[simp] theorem contains_map (id : Int) : (m.map f).contains id = m.contains id := by
  simp [contains]

theorem map_insert (id : Int) (value : α) :
    (m.insert id value).map f = (m.map f).insert id (f id value) := by
  refine ext_get? fun other => ?_
  simp only [get?_map, get?_insert]
  split
  · rename_i here
    rw [here]
    rfl
  · rfl

/-- A test that does not look at what is changed. -/
theorem map_filter {keep : Int → α → Bool} {keep' : Int → β → Bool}
    (same : ∀ id value, keep' id (f id value) = keep id value) :
    (m.filter keep).map f = (m.map f).filter keep' := by
  refine ext_get? fun id => ?_
  rw [get?_map, get?_filter, get?_filter, get?_map]
  cases m.get? id with
  | none => rfl
  | some value =>
    rw [Option.map_some, Option.filter_some, Option.filter_some, same]
    split <;> rfl

theorem length_map : (m.map f).entries.length = m.entries.length := List.length_map ..

end IdMap

/-- A secret text in a vault. -/
inductive Spot where
  | masterKey
  | payload (id : Int)
  deriving DecidableEq

/-- What is left of a cell if its text is covered. -/
def Engine.Cell.veiled (covered : Bool) : Cell → Cell
  | .text s => .text (if covered then "" else s)
  | cell => cell

/-- What is left of a secret if the text of its payload is covered. -/
def Engine.StoredSecret.veiled (covered : Bool) (secret : StoredSecret) : StoredSecret :=
  { secret with payload := secret.payload.veiled covered }

namespace Engine.Tables

/-- What is left of the tables if hidden texts are covered. -/
def veiled (t : Tables) (hidden : Spot → Bool) : Tables :=
  { t with
    masterKey := t.masterKey.map (Cell.veiled (hidden .masterKey))
    secrets := t.secrets.map fun id secret => secret.veiled (hidden (.payload id)) }

variable (t : Tables) (hidden : Spot → Bool)

@[simp] theorem labels_veiled : (t.veiled hidden).labels = t.labels := rfl

@[simp] theorem veiled_empty : Tables.empty.veiled hidden = .empty := rfl

theorem veiled_addSecret (id : Int) (secret : StoredSecret) :
    (t.addSecret id secret).veiled hidden =
      (t.veiled hidden).addSecret id (secret.veiled (hidden (.payload id))) := by
  simp only [veiled, addSecret, IdMap.map_insert]

theorem nextId_veiled :
    nextId (t.veiled hidden).secrets (t.veiled hidden).secretCount =
      nextId t.secrets t.secretCount := by
  simp [nextId, veiled]

theorem veiled_deleteSecrets (ids : List Int) :
    ((t.deleteSecrets ids).1, (t.deleteSecrets ids).2.veiled hidden) =
      (t.veiled hidden).deleteSecrets ids := by
  have same (keep : Int → Bool) :
      (t.secrets.filter fun id _ => keep id).map
          (fun id secret => secret.veiled (hidden (.payload id))) =
        (t.veiled hidden).secrets.filter fun id _ => keep id :=
    IdMap.map_filter _ _ fun _ _ => rfl
  simp only [deleteSecrets, ← same, IdMap.length_map]
  simp only [veiled]

end Engine.Tables

namespace Engine.JoinedRow

def veiled (hidden : Spot → Bool) (row : JoinedRow) : JoinedRow :=
  { row with secret := row.secret.veiled (hidden (.payload row.secretId)) }

variable (hidden : Spot → Bool) (row : JoinedRow)

/-- No column of a search is secret. -/
@[simp] theorem cell_veiled (column : Column) :
    (row.veiled hidden).cell column = row.cell column := by
  cases column <;> rfl

@[simp] theorem read_veiled : (row.veiled hidden).read = row.read := rfl

end Engine.JoinedRow

namespace Clause
variable (hidden : Spot → Bool) (row : JoinedRow)

@[simp] theorem test_veiled (clause : Clause) :
    clause.test (row.veiled hidden) = clause.test row := by
  cases clause <;> simp only [test, JoinedRow.cell_veiled]

@[simp] theorem visits_veiled (column : Column) (pattern : String) :
    visits (row.veiled hidden) column pattern = visits row column pattern := by
  simp only [visits, JoinedRow.cell_veiled]

@[simp] theorem testGuiding_veiled (clause : Clause) :
    clause.testGuiding (row.veiled hidden) = clause.testGuiding row := by
  have samePart (column : Column) :
      testPart (row.veiled hidden) column = testPart row column := by
    funext pattern
    simp only [testPart, visits_veiled, JoinedRow.cell_veiled]
  have sameParts (column : Column) (tried : List String) :
      testParts (row.veiled hidden) column tried = testParts row column tried := by
    induction tried with
    | nil => rfl
    | cons pattern others ih => simp only [testParts, samePart, ih]
  unfold testGuiding
  split
  · simp only [samePart]
  · simp only [findInParts, visits_veiled, JoinedRow.cell_veiled, sameParts]
  · exact test_veiled hidden row _

@[simp] theorem testAll_veiled (guide : Option Clause) (clauses : List Clause) :
    testAll guide (row.veiled hidden) clauses = testAll guide row clauses := by
  induction clauses with
  | nil => rfl
  | cons clause rest ih => simp only [testAll, testUnder, testGuiding_veiled, test_veiled, ih]

end Clause

namespace Engine
variable (t : Tables) (hidden : Spot → Bool)

theorem joinedRows_veiled (id : Int) (secret : StoredSecret) :
    joinedRows (t.veiled hidden) id (secret.veiled (hidden (.payload id))) =
      (joinedRows t id secret).map (JoinedRow.veiled hidden) := by
  simp only [joinedRows, Tables.labels_veiled, List.map_map]
  rfl

/-- A test that does not look at what is covered selects the same rows. -/
theorem selectRows_veiled (test : JoinedRow → Except Error Bool)
    (same : ∀ row, test (row.veiled hidden) = test row) (rows : List JoinedRow) :
    selectRows test (rows.map (JoinedRow.veiled hidden)) =
      (selectRows test rows).map (Except.map (JoinedRow.veiled hidden)) := by
  rw [selectRows, List.filterMap_map, selectRows, List.map_filterMap]
  congr 1
  funext row
  simp only [Function.comp_apply, same]
  cases test row with
  | error e => rfl
  | ok selected => cases selected <;> rfl

theorem visitSecret_veiled (clauses : List Clause) (id : Int) (secret : StoredSecret) :
    visitSecret (t.veiled hidden) clauses id (secret.veiled (hidden (.payload id))) =
      (visitSecret t clauses id secret).map (Except.map (JoinedRow.veiled hidden)) := by
  have alone : secretRow id (secret.veiled (hidden (.payload id))) =
      (secretRow id secret).veiled hidden := rfl
  have selected (tested : List Clause) (rows : List JoinedRow) :=
    selectRows_veiled hidden (Clause.testAll (guide? clauses) · tested)
      (Clause.testAll_veiled hidden · (guide? clauses) tested) rows
  simp only [visitSecret, joinedRows_veiled, alone, Clause.testAll_veiled, selected]
  split
  · rfl
  · split <;> rfl

theorem select_veiled (clauses : List Clause) :
    select (t.veiled hidden) clauses =
      (select t clauses).map (Except.map (JoinedRow.veiled hidden)) := by
  simp only [select, Tables.veiled, IdMap.map, List.flatMap_map, List.map_flatMap]
  congr 1
  funext entry
  exact visitSecret_veiled t hidden clauses entry.1 entry.2

theorem sequence_map {α β : Type} (f : α → β) (results : List (Except Error α)) :
    sequence (results.map (Except.map f)) = (sequence results).map (List.map f) := by
  induction results with
  | nil => rfl
  | cons result rest ih =>
    rw [List.map_cons, sequence_cons, sequence_cons, ih]
    cases result with
    | error e => rfl
    | ok value => cases sequence rest <;> rfl

/-- A search does not see what is covered. -/
theorem search_veiled (clauses : List Clause) :
    search (t.veiled hidden) clauses = search t clauses := by
  have rows : searchRows (t.veiled hidden) clauses = searchRows t clauses := by
    simp only [searchRows, select_veiled, sequence_map, List.map_map]
    split
    · cases sequence (select t clauses) with
      | error e => rfl
      | ok rows =>
        simp only [Except.map, bind, Except.bind, List.map_map]
        rfl
    · congr 2
      funext result
      cases result <;> rfl
  rw [search, rows, search]

theorem matchingLabels_veiled (id : Int) (clause : Clause) :
    matchingLabels (t.veiled hidden) id clause = matchingLabels t id clause := by
  have same : ((t.veiled hidden).secrets.get? id).getD default =
      ((t.secrets.get? id).getD default).veiled (hidden (.payload id)) := by
    simp only [Tables.veiled, IdMap.get?_map]
    cases t.secrets.get? id with
    | none => cases hidden (.payload id) <;> rfl
    | some secret => rfl
  simp only [matchingLabels, same, joinedRows_veiled,
    selectRows_veiled hidden (Clause.test · clause) (Clause.test_veiled hidden · clause),
    sequence_map]
  cases sequence (selectRows (Clause.test · clause) _) with
  | error e => rfl
  | ok rows =>
    simp only [Except.map, bind, Except.bind, List.map_map]
    rfl

end Engine
end SecretVault
