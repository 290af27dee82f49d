import SecretVault.Proofs.Search.Listing

/-!
Searching readable tables. No row fails to be read, so a search answers the listing of the rows that
it finds; only a pattern that is too long can stand in the way.
-/
namespace SecretVault.Engine
open SecretVault.Glob

theorem mem_of_mem_selectRows {test : JoinedRow → Except Error Bool} {rows : List JoinedRow}
    {row : JoinedRow} (member : .ok row ∈ selectRows test rows) : row ∈ rows := by
  obtain ⟨tried, held, kept⟩ := List.mem_filterMap.1 member
  split at kept
  · cases kept
    exact held
  · cases kept
  · cases kept

/-- A search yields only rows of the join. -/
theorem mem_joinedRows_of_mem_select {t : Tables} {clauses : List Clause} {row : JoinedRow}
    (member : .ok row ∈ select t clauses) :
    ∃ entry ∈ t.secrets.entries, row ∈ joinedRows t entry.1 entry.2 := by
  obtain ⟨entry, held, visited⟩ := List.mem_flatMap.1 member
  refine ⟨entry, held, ?_⟩
  unfold visitSecret at visited
  dsimp only at visited
  split at visited
  · exact mem_of_mem_selectRows visited
  · split at visited
    · simp at visited
    · cases visited
    · exact mem_of_mem_selectRows visited

theorem read_eq_shown {t : Tables} (readable : t.Readable) {id : Int} {secret : StoredSecret}
    (stored : (id, secret) ∈ t.secrets.entries) {row : JoinedRow}
    (member : row ∈ joinedRows t id secret) : row.read = .ok row.shown := by
  obtain ⟨-, sameSecret, -, labelStored⟩ := mem_joinedRows member
  have name := (readable.secretNames _ stored).read_eq 1 "name"
  have label := (readable.labelNames _ labelStored).read_eq 2 "name"
  simp only [JoinedRow.read, sameSecret, name, label, JoinedRow.shown]
  rfl

/-- Every column of a readable row is text, an id as its decimal text. -/
theorem cell_isText {t : Tables} (readable : t.Readable) {id : Int} {secret : StoredSecret}
    (stored : (id, secret) ∈ t.secrets.entries) {row : JoinedRow}
    (member : row ∈ joinedRows t id secret) (column : Column) : (row.cell column).IsText := by
  obtain ⟨-, sameSecret, -, labelStored⟩ := mem_joinedRows member
  cases column with
  | label => exact readable.labelNames _ labelStored
  | secretName =>
    rw [JoinedRow.cell, sameSecret]
    exact readable.secretNames _ stored
  | secretId => exact ⟨_, rfl⟩
  | labelSecretId => exact ⟨_, rfl⟩

theorem sequence_map_read {rows : List JoinedRow}
    (readable : ∀ row ∈ rows, row.read = .ok row.shown) :
    sequence (rows.map JoinedRow.read) = .ok (rows.map JoinedRow.shown) := by
  induction rows with
  | nil => rfl
  | cons row rest ih =>
    rw [List.map_cons, sequence_cons, readable row (by simp),
      ih fun other member => readable other (by simp [member])]
    rfl

theorem eq_map_ok_of_sequence {α : Type} {results : List (Except Error α)} {values : List α}
    (answered : sequence results = .ok values) : results = values.map .ok := by
  induction results generalizing values with
  | nil =>
    cases answered
    rfl
  | cons result rest ih =>
    rw [sequence_cons] at answered
    cases result with
    | error e => cases answered
    | ok value =>
      cases later : sequence rest with
      | error e =>
        rw [later] at answered
        cases answered
      | ok others =>
        rw [later] at answered
        cases answered
        rw [List.map_cons, ← ih later]

theorem mem_of_sequence {α : Type} {results : List (Except Error α)} {values : List α}
    (answered : sequence results = .ok values) {value : α} (member : value ∈ values) :
    .ok value ∈ results := by
  rw [eq_map_ok_of_sequence answered]
  exact List.mem_map_of_mem member

/-- Reading each row as soon as it is selected is reading them all at the end, if none fails. -/
theorem sequence_map_bind_read {results : List (Except Error JoinedRow)}
    (readable : ∀ row, .ok row ∈ results → row.read = .ok row.shown) :
    sequence (results.map fun result => result >>= JoinedRow.read) =
      (sequence results).map (·.map JoinedRow.shown) := by
  induction results with
  | nil => rfl
  | cons result rest ih =>
    have tail := ih fun row member => readable row (List.mem_cons_of_mem _ member)
    rw [List.map_cons, sequence_cons, sequence_cons, tail]
    cases result with
    | error e => rfl
    | ok row =>
      have read : (Except.ok row >>= JoinedRow.read : Except Error LabelRow) = .ok row.shown :=
        readable row List.mem_cons_self
      rw [read]
      cases sequence rest <;> rfl

theorem searchRows_eq {t : Tables} (readable : t.Readable) (clauses : List Clause) :
    searchRows t clauses = (sequence (select t clauses)).map (·.map JoinedRow.shown) := by
  have readAll : ∀ row, .ok row ∈ select t clauses → row.read = .ok row.shown := by
    intro row member
    obtain ⟨entry, stored, joined⟩ := mem_joinedRows_of_mem_select member
    exact read_eq_shown readable stored joined
  unfold searchRows
  split
  · cases selected : sequence (select t clauses) with
    | error e => rfl
    | ok rows =>
      exact sequence_map_read fun row member =>
        readAll row (mem_of_sequence selected member)
  · exact sequence_map_bind_read readAll

/-- A search answers the listing of the rows that it finds. -/
theorem search_selects {t : Tables} (readable : t.Readable) (clauses : List Clause) :
    UnlessTooLong (Clause.AnyLongPattern clauses) (search t clauses)
      (t.listing (finds clauses)) := by
  unfold search
  rw [searchRows_eq readable]
  rcases select_selects t clauses with selected | ⟨long, selected⟩
  · rw [selected, ← gather_selected]
    exact .of_ok _ _
  · rw [selected]
    exact .inr ⟨long, rfl⟩

theorem JoinedRow.id_of_read {row : JoinedRow} {shown : LabelRow} (read : row.read = .ok shown) :
    shown.id = row.secretId := by
  unfold JoinedRow.read at read
  cases name : row.secret.name.read 1 "name" with
  | error e =>
    rw [name] at read
    cases read
  | ok text =>
    cases label : row.label.name.read 2 "name" with
    | error e =>
      rw [name, label] at read
      cases read
    | ok labelText =>
      rw [name, label] at read
      cases read
      rfl

/-- Whatever can be read, a row that a search answers has the id of a stored secret. -/
theorem mem_keys_of_mem_searchRows {t : Tables} {clauses : List Clause} {rows : List LabelRow}
    (answered : searchRows t clauses = .ok rows) {row : LabelRow} (member : row ∈ rows) :
    row.id ∈ t.secrets.keys := by
  have stored {joined : JoinedRow} (selected : .ok joined ∈ select t clauses)
      (read : joined.read = .ok row) : row.id ∈ t.secrets.keys := by
    obtain ⟨entry, held, own⟩ := mem_joinedRows_of_mem_select selected
    obtain ⟨sameId, -, -, -⟩ := mem_joinedRows own
    rw [JoinedRow.id_of_read read, sameId]
    exact List.mem_map.2 ⟨entry, held, rfl⟩
  unfold searchRows at answered
  split at answered
  · cases selected : sequence (select t clauses) with
    | error e =>
      rw [selected] at answered
      cases answered
    | ok found =>
      rw [selected] at answered
      obtain ⟨joined, among, read⟩ := List.mem_map.1 (mem_of_sequence answered member)
      exact stored (mem_of_sequence selected among) read
  · obtain ⟨result, among, read⟩ := List.mem_map.1 (mem_of_sequence answered member)
    cases result with
    | error e => cases read
    | ok joined => exact stored among read

/-- A search answers no other ids than those of stored secrets. -/
theorem mem_keys_of_search {t : Tables} {clauses : List Clause} {found : LabeledSecrets}
    (answered : search t clauses = .ok found) {id : Int} (member : id ∈ found.keys) :
    id ∈ t.secrets.keys := by
  unfold search at answered
  cases read : searchRows t clauses with
  | error e =>
    rw [read] at answered
    cases answered
  | ok rows =>
    rw [read] at answered
    cases answered
    obtain ⟨row, among, rfl⟩ := LabeledSecrets.mem_keys_gather.1 member
    exact mem_keys_of_mem_searchRows read among

end SecretVault.Engine
