import SecretVault.Proofs.Search.Selection

/-!
What a search selects of the rows of the join. The rows that it yields are those, in the order of
secret ids and label ids, that are found by all its conditions.
-/
namespace SecretVault
open SecretVault.Engine SecretVault.Glob

namespace Clause

/-- A condition on the secret does not look at the label of a row. -/
theorem cell_eq_of_onSecret {column : Column} (onSecret : column.onSecret = true)
    {row other : JoinedRow} (sameId : row.secretId = other.secretId)
    (sameSecret : row.secret = other.secret) : row.cell column = other.cell column := by
  cases column with
  | secretName => simp [JoinedRow.cell, sameSecret]
  | secretId => simp [JoinedRow.cell, sameId]
  | label => cases onSecret
  | labelSecretId => cases onSecret

theorem holds_eq_of_onSecret {clause : Clause} (onSecret : clause.onSecret = true)
    {row other : JoinedRow} (sameId : row.secretId = other.secretId)
    (sameSecret : row.secret = other.secret) : clause.holds row = clause.holds other := by
  cases clause with
  | unfiltered => rfl
  | glob column first others =>
    have sameCell : row.cell column = other.cell column :=
      cell_eq_of_onSecret onSecret sameId sameSecret
    simp only [holds, sameCell]
  | among column first others =>
    have sameCell : row.cell column = other.cell column :=
      cell_eq_of_onSecret onSecret sameId sameSecret
    simp only [holds, sameCell]

theorem finds_eq_of_onSecret (guide : Option Clause) {clause : Clause}
    (onSecret : clause.onSecret = true) {row other : JoinedRow}
    (sameId : row.secretId = other.secretId) (sameSecret : row.secret = other.secret) :
    clause.finds guide row = clause.finds guide other := by
  have sameHolds := holds_eq_of_onSecret onSecret sameId sameSecret
  have sameGuides : clause.guidesTo row = clause.guidesTo other := by
    cases clause with
    | unfiltered => rfl
    | among column first others => exact sameHolds
    | glob column first others =>
      have sameCell : row.cell column = other.cell column :=
        cell_eq_of_onSecret onSecret sameId sameSecret
      have samePart : inPart row column = inPart other column := by
        funext pattern
        simp only [inPart, visits, sameCell]
      cases others with
      | nil => exact congrFun samePart first
      | cons second others => simp only [guidesTo, inParts, visits, sameCell, samePart, sameHolds]
  simp only [finds, sameGuides, sameHolds]

/-- Conditions find a row together in any order, those on the secret and those on the label apart. -/
theorem allFind_split (guide : Option Clause) (clauses : List Clause) (row : JoinedRow) :
    allFind guide clauses row =
      (allFind guide (clauses.filter onSecret) row &&
        allFind guide (clauses.filter fun clause => !clause.onSecret) row) := by
  rw [Bool.eq_iff_iff, Bool.and_eq_true]
  simp only [allFind, List.all_eq_true]
  constructor
  · intro all
    exact ⟨fun clause member => all clause (List.mem_filter.1 member).1,
      fun clause member => all clause (List.mem_filter.1 member).1⟩
  · rintro ⟨secretSide, labelSide⟩ clause member
    cases side : clause.onSecret with
    | true => exact secretSide clause (List.mem_filter.2 ⟨member, side⟩)
    | false => exact labelSide clause (List.mem_filter.2 ⟨member, by simp [side]⟩)

theorem anyLongPattern_of_subset {some all : List Clause} (included : some ⊆ all) :
    AnyLongPattern some → AnyLongPattern all :=
  fun ⟨clause, member, long⟩ => ⟨clause, included member, long⟩

end Clause

namespace Engine
open Clause

theorem mem_joinedRows {t : Tables} {id : Int} {secret : StoredSecret} {row : JoinedRow}
    (member : row ∈ joinedRows t id secret) :
    row.secretId = id ∧ row.secret = secret ∧ row.label.secretId = id ∧
      (row.labelId, row.label) ∈ t.labels.entries := by
  obtain ⟨entry, held, rfl⟩ := List.mem_map.1 member
  obtain ⟨held, own⟩ := List.mem_filter.1 held
  exact ⟨rfl, rfl, beq_iff_eq.1 own, held⟩

/-- Whether a search finds a row, with no pattern too long. -/
def finds (clauses : List Clause) : JoinedRow → Bool := allFind (guide? clauses) clauses

/-- The rows of a secret that a search finds. -/
def selectedRows (t : Tables) (clauses : List Clause) (id : Int) (secret : StoredSecret) :
    List JoinedRow :=
  (joinedRows t id secret).filter (finds clauses)

private theorem selects_label_first (t : Tables) (clauses : List Clause) (id : Int)
    (secret : StoredSecret) :
    UnlessTooLong (AnyLongPattern clauses)
      (sequence (selectRows
        (testAll (guide? clauses) ·
          ((clauses.filter fun clause => !clause.onSecret) ++ clauses.filter onSecret))
        (joinedRows t id secret)))
      (selectedRows t clauses id secret) := by
  refine sequence_selectRows _ _ _ fun row _ => ?_
  have reordered : finds clauses row = allFind (guide? clauses)
      ((clauses.filter fun clause => !clause.onSecret) ++ clauses.filter onSecret) row := by
    rw [finds, allFind_split _ clauses row, Bool.and_comm]
    simp only [allFind, List.all_append]
  rw [reordered]
  refine (testAll_selects _ row _).mono (anyLongPattern_of_subset ?_)
  intro clause member
  rcases List.mem_append.1 member with member | member
  · exact (List.mem_filter.1 member).1
  · exact (List.mem_filter.1 member).1

private theorem selects_secret_first (t : Tables) (clauses : List Clause) (id : Int)
    (secret : StoredSecret) :
    UnlessTooLong (AnyLongPattern clauses)
      (sequence (match testAll (guide? clauses) (secretRow id secret) (clauses.filter onSecret) with
        | .error e => [.error e]
        | .ok false => []
        | .ok true =>
          selectRows (testAll (guide? clauses) · (clauses.filter fun clause => !clause.onSecret))
            (joinedRows t id secret)))
      (selectedRows t clauses id secret) := by
  -- One test of the secret stands for the tests of all its rows.
  have onAll : ∀ row ∈ joinedRows t id secret,
      allFind (guide? clauses) (clauses.filter onSecret) row =
        allFind (guide? clauses) (clauses.filter onSecret) (secretRow id secret) := by
    intro row member
    obtain ⟨sameId, sameSecret, -, -⟩ := mem_joinedRows member
    rw [Bool.eq_iff_iff]
    simp only [allFind, List.all_eq_true]
    refine forall₂_congr fun clause held => ?_
    have same : clause.finds (guide? clauses) row =
        clause.finds (guide? clauses) (secretRow id secret) :=
      finds_eq_of_onSecret _ (List.mem_filter.1 held).2 sameId sameSecret
    rw [same]
  rcases testAll_selects (guide? clauses) (secretRow id secret) (clauses.filter onSecret) with
    tested | ⟨long, tested⟩
  · rw [tested]
    cases found : allFind (guide? clauses) (clauses.filter onSecret) (secretRow id secret) with
    | false =>
      have nothing : selectedRows t clauses id secret = [] := by
        refine List.filter_eq_nil_iff.2 fun row member => ?_
        rw [finds, allFind_split, onAll row member, found]
        simp
      rw [nothing]
      exact .of_ok _ []
    | true =>
      refine sequence_selectRows _ _ _ fun row member => ?_
      have rest : finds clauses row =
          allFind (guide? clauses) (clauses.filter fun clause => !clause.onSecret) row := by
        rw [finds, allFind_split, onAll row member, found, Bool.true_and]
      rw [rest]
      exact (testAll_selects _ row _).mono
        (anyLongPattern_of_subset fun clause held => (List.mem_filter.1 held).1)
  · rw [tested]
    refine .inr ⟨?_, rfl⟩
    exact anyLongPattern_of_subset (fun clause held => (List.mem_filter.1 held).1) long

theorem mem_of_guide {clauses : List Clause} {clause : Clause}
    (guided : guide? clauses = some clause) :
    clause ∈ clauses ∧ clause.usesIndex = true := by
  rw [← List.mem_filter]
  unfold guide? at guided
  split at guided
  · cases guided
  · rename_i only equal
    rw [equal]
    cases guided
    simp
  · rename_i first second rest equal
    rw [equal]
    cases guided
    split <;> simp

/-- What a search meets at one secret is what it selects of the secret's rows. -/
theorem visitSecret_selects (t : Tables) (clauses : List Clause) (id : Int)
    (secret : StoredSecret) :
    UnlessTooLong (AnyLongPattern clauses) (sequence (visitSecret t clauses id secret))
      (selectedRows t clauses id secret) := by
  unfold visitSecret
  dsimp only
  split
  · exact selects_label_first t clauses id secret
  · exact selects_secret_first t clauses id secret

theorem select_selects (t : Tables) (clauses : List Clause) :
    UnlessTooLong (AnyLongPattern clauses) (sequence (select t clauses))
      (t.secrets.entries.flatMap fun entry => selectedRows t clauses entry.1 entry.2) :=
  sequence_flatMap _ _ _ fun entry _ => visitSecret_selects t clauses entry.1 entry.2

end Engine
end SecretVault
