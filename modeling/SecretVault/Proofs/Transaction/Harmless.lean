import SecretVault.Operation
import SecretVault.Proofs.Limits

/-!
Errors that leave a transaction open. Reading, searching and the limits on statements undo no more
than their own statement; the only error of a statement that ends a transaction is that no id is
left to draw.
-/
namespace SecretVault.Engine
open SecretVault.Glob
variable {α β : Type}

/-- A result that is not an error which ends a transaction. -/
def Harmless (result : Except Error α) : Prop :=
  ∀ e, result = .error e → e.endsTransaction = false

theorem harmless_ok (a : α) : Harmless (.ok a) := nofun

theorem harmless_error {e : Error} (stays : e.endsTransaction = false) :
    Harmless (.error e : Except Error α) := by
  intro other equal
  cases equal
  exact stays

theorem Harmless.bind {result : Except Error α} {next : α → Except Error β}
    (first : Harmless result) (later : ∀ a, Harmless (next a)) : Harmless (result >>= next) := by
  cases result with
  | error e => exact harmless_error (first e rfl)
  | ok a => exact later a

theorem Harmless.map {result : Except Error α} (harmless : Harmless result) (f : α → β) :
    Harmless (result.map f) := by
  cases result with
  | error e => exact harmless_error (harmless e rfl)
  | ok a => exact harmless_ok _

theorem Harmless.sequence {results : List (Except Error α)}
    (each : ∀ result ∈ results, Harmless result) : Harmless (sequence results) := by
  induction results with
  | nil => exact harmless_ok []
  | cons result rest ih =>
    rw [sequence_cons]
    refine (each result (by simp)).bind fun value => ?_
    exact (ih fun other member => each other (by simp [member])).bind fun values => harmless_ok _

theorem harmless_read (cell : Cell) (index : Nat) (column : String) :
    Harmless (cell.read index column) := by
  unfold Cell.read
  split
  · exact harmless_ok _
  · split
    · exact harmless_ok _
    · exact harmless_error rfl
  · exact harmless_error rfl

theorem harmless_withinLimits (q : Query) (joins : Bool) :
    Harmless (Statement.withinLimits q joins) :=
  fun _ refused => (Statement.isLimit_of_withinLimits refused).2

theorem harmless_testPatterns (value : List Code) (tried : List String) :
    Harmless (Clause.testPatterns value tried) := by
  induction tried with
  | nil => exact harmless_ok false
  | cons pattern others ih =>
    unfold Clause.testPatterns
    split
    · exact harmless_error rfl
    · split
      · exact harmless_ok true
      · exact ih

theorem harmless_test (row : JoinedRow) (clause : Clause) : Harmless (clause.test row) := by
  cases clause with
  | unfiltered => exact harmless_ok true
  | glob column first others => exact harmless_testPatterns _ (first :: others)
  | among column first others => exact harmless_ok _

theorem harmless_testPart (row : JoinedRow) (column : Column) (pattern : String) :
    Harmless (Clause.testPart row column pattern) := by
  unfold Clause.testPart
  split
  · exact harmless_ok false
  · split
    · exact harmless_ok true
    · exact harmless_testPatterns _ [pattern]

theorem harmless_testParts (row : JoinedRow) (column : Column) (tried : List String) :
    Harmless (Clause.testParts row column tried) := by
  induction tried with
  | nil => exact harmless_ok false
  | cons pattern others ih =>
    exact (harmless_testPart row column pattern).bind fun _ => ih.bind fun _ => harmless_ok _

theorem harmless_testGuiding (row : JoinedRow) (clause : Clause) :
    Harmless (clause.testGuiding row) := by
  unfold Clause.testGuiding
  split
  · exact harmless_testPart row _ _
  · refine Harmless.bind ?_ fun found => ?_
    · unfold Clause.findInParts
      split
      · exact harmless_ok _
      · exact harmless_testParts row _ _
    · split
      · exact harmless_testPatterns _ _
      · exact harmless_ok false
  · exact harmless_test row _

theorem harmless_testAll (guide : Option Clause) (row : JoinedRow) (clauses : List Clause) :
    Harmless (Clause.testAll guide row clauses) := by
  induction clauses with
  | nil => exact harmless_ok true
  | cons clause others ih =>
    unfold Clause.testAll
    split
    · exact ih
    · unfold Clause.testUnder
      split
      · exact harmless_testGuiding row clause
      · exact harmless_test row clause

theorem harmless_of_mem_selectRows {test : JoinedRow → Except Error Bool}
    (each : ∀ row, Harmless (test row)) {rows : List JoinedRow} {result : Except Error JoinedRow}
    (member : result ∈ selectRows test rows) : Harmless result := by
  obtain ⟨row, -, selected⟩ := List.mem_filterMap.1 member
  have tested := each row
  cases outcome : test row with
  | error e =>
    rw [outcome] at selected tested
    cases selected
    exact harmless_error (tested e rfl)
  | ok accepted =>
    rw [outcome] at selected
    cases accepted <;> cases selected
    exact harmless_ok row

theorem harmless_of_mem_select {t : Tables} {clauses : List Clause}
    {result : Except Error JoinedRow} (member : result ∈ select t clauses) : Harmless result := by
  obtain ⟨⟨id, secret⟩, -, visited⟩ := List.mem_flatMap.1 member
  dsimp only [visitSecret] at visited
  split at visited
  · exact harmless_of_mem_selectRows (fun row => harmless_testAll _ row _) visited
  · split at visited
    · rename_i e failed
      rw [List.mem_singleton.1 visited]
      exact harmless_error (harmless_testAll _ _ _ e failed)
    · cases visited
    · exact harmless_of_mem_selectRows (fun row => harmless_testAll _ row _) visited

theorem harmless_readRow (row : JoinedRow) : Harmless row.read :=
  (harmless_read _ _ _).bind fun _ => (harmless_read _ _ _).bind fun _ => harmless_ok _

theorem harmless_search (t : Tables) (clauses : List Clause) : Harmless (search t clauses) := by
  refine Harmless.map ?_ _
  unfold searchRows
  split
  · refine (Harmless.sequence fun result => harmless_of_mem_select).bind fun rows => ?_
    refine Harmless.sequence fun result member => ?_
    obtain ⟨row, -, rfl⟩ := List.mem_map.1 member
    exact harmless_readRow row
  · refine Harmless.sequence fun result member => ?_
    obtain ⟨selected, held, rfl⟩ := List.mem_map.1 member
    exact (harmless_of_mem_select held).bind harmless_readRow

theorem harmless_matchingLabels (t : Tables) (secretId : Int) (clause : Clause) :
    Harmless (matchingLabels t secretId clause) := by
  refine (Harmless.sequence fun result member => ?_).bind fun rows => harmless_ok _
  exact harmless_of_mem_selectRows (fun row => harmless_test row clause) member

theorem harmless_mapM_read (cell? : Option α) (cell : α → Cell) (index : Nat) (column : String) :
    Harmless (cell?.mapM fun a => (cell a).read index column) := by
  cases cell? with
  | none => exact harmless_ok none
  | some a => exact (harmless_read (cell a) index column).map some

theorem harmless_elim_noRows (found : Option α) :
    Harmless (found.elim (.error .noRows) .ok) := by
  cases found with
  | none => exact harmless_error rfl
  | some a => exact harmless_ok a

/-- A result whose only error that ends a transaction is that no id is left to draw. -/
def OnlyFull (result : Except Error α) : Prop :=
  ∀ e, result = .error e → e.endsTransaction = true → e = .full

theorem Harmless.onlyFull {result : Except Error α} (harmless : Harmless result) :
    OnlyFull result := by
  intro e failed ends
  rw [harmless e failed] at ends
  cases ends

theorem OnlyFull.bind {result : Except Error α} {next : α → Except Error β}
    (first : OnlyFull result) (later : ∀ a, OnlyFull (next a)) : OnlyFull (result >>= next) := by
  cases result with
  | error e =>
    intro other equal ends
    cases equal
    exact first e rfl ends
  | ok a => exact later a

theorem onlyFull_nextId (rows : IdMap α) (count : Int) : OnlyFull (Tables.nextId rows count) := by
  intro e failed _
  dsimp only [Tables.nextId] at failed
  split at failed <;> cases failed
  rfl

theorem onlyFull_insertSecret (t : Tables) (secret : StoredSecret) :
    OnlyFull (t.insertSecret secret) :=
  (onlyFull_nextId _ _).bind fun _ => (harmless_ok _).onlyFull

theorem onlyFull_attachLabel (t : Tables) (label : StoredLabel) :
    OnlyFull (t.attachLabel label) := by
  refine (onlyFull_nextId _ _).bind fun id => Harmless.onlyFull ?_
  split
  · exact harmless_ok _
  · split
    · exact harmless_ok _
    · exact harmless_error rfl

end SecretVault.Engine
