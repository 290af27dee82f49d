import SecretVault.Engine.Search
import SecretVault.Proofs.IdMap

/-!
Which rows a search selects. Errors aside, a row is selected if it is found by every condition,
whatever the order in which conditions are tested and whether those on the secret are tested once for
it or for each of its rows. A condition that guides the search finds the rows that the parts of the
index yield; every other condition finds the rows that satisfy it. The only error that a test can
meet is a pattern that is too long.
-/
namespace SecretVault
open SecretVault.Engine SecretVault.Glob SecretVault.Text

namespace Engine
variable {α β : Type}

/-- The result is the given value, unless a pattern too long to be tried was met. -/
def UnlessTooLong (long : Prop) (result : Except Error α) (value : α) : Prop :=
  result = .ok value ∨ long ∧ result = .error .patternTooLong

theorem UnlessTooLong.of_ok (long : Prop) (value : α) : UnlessTooLong long (.ok value) value :=
  .inl rfl

theorem UnlessTooLong.mono {long longer : Prop} {result : Except Error α} {value : α}
    (h : UnlessTooLong long result value) (implies : long → longer) :
    UnlessTooLong longer result value :=
  h.imp_right fun ⟨met, equal⟩ => ⟨implies met, equal⟩

theorem UnlessTooLong.congr {long : Prop} {result : Except Error α} {value other : α}
    (h : UnlessTooLong long result value) (same : value = other) :
    UnlessTooLong long result other := same ▸ h

theorem UnlessTooLong.bind {long : Prop} {result : Except Error α} {value : α}
    {next : α → Except Error β} {final : β} (h : UnlessTooLong long result value)
    (later : UnlessTooLong long (next value) final) :
    UnlessTooLong long (result >>= next) final := by
  rcases h with rfl | ⟨met, rfl⟩
  · exact later
  · exact .inr ⟨met, rfl⟩

@[simp] theorem sequence_nil : sequence ([] : List (Except Error α)) = .ok [] := rfl

theorem sequence_cons (result : Except Error α) (rest : List (Except Error α)) :
    sequence (result :: rest) =
      result >>= fun value => sequence rest >>= fun values => .ok (value :: values) := by
  simp only [sequence, List.mapM_cons, id_eq]
  rfl

theorem sequence_append (first second : List (Except Error α)) :
    sequence (first ++ second) =
      sequence first >>= fun a => sequence second >>= fun b => .ok (a ++ b) := by
  induction first with
  | nil =>
    rw [List.nil_append, sequence_nil]
    cases sequence second <;> rfl
  | cons result rest ih =>
    rw [List.cons_append, sequence_cons, sequence_cons, ih]
    cases result with
    | error e => rfl
    | ok value =>
      cases sequence rest with
      | error e => rfl
      | ok values => cases sequence second <;> rfl

theorem sequence_flatMap {long : Prop} (items : List β) (results : β → List (Except Error α))
    (values : β → List α)
    (each : ∀ item ∈ items, UnlessTooLong long (sequence (results item)) (values item)) :
    UnlessTooLong long (sequence (items.flatMap results)) (items.flatMap values) := by
  induction items with
  | nil => exact .of_ok long []
  | cons item rest ih =>
    rw [List.flatMap_cons, List.flatMap_cons, sequence_append]
    refine (each item (by simp)).bind ?_
    refine (ih fun other member => each other (by simp [member])).bind ?_
    exact .of_ok long _

/-- Selecting by a test keeps the rows that a total test accepts. -/
theorem sequence_selectRows {long : Prop} (test : JoinedRow → Except Error Bool)
    (accepts : JoinedRow → Bool) (rows : List JoinedRow)
    (each : ∀ row ∈ rows, UnlessTooLong long (test row) (accepts row)) :
    UnlessTooLong long (sequence (selectRows test rows)) (rows.filter accepts) := by
  induction rows with
  | nil => exact .of_ok long []
  | cons row rest ih =>
    have tail := ih fun other member => each other (by simp [member])
    rcases each row (by simp) with tested | ⟨met, tested⟩
    · cases accepted : accepts row with
      | false =>
        rw [accepted] at tested
        simpa [selectRows, tested, accepted] using tail
      | true =>
        rw [accepted] at tested
        have first : selectRows test (row :: rest) = .ok row :: selectRows test rest := by
          simp [selectRows, tested]
        rw [first, List.filter_cons_of_pos accepted, sequence_cons]
        exact tail.bind (.of_ok long _)
    · have first :
          selectRows test (row :: rest) = .error .patternTooLong :: selectRows test rest := by
        simp [selectRows, tested]
      rw [first, sequence_cons]
      exact .inr ⟨met, rfl⟩

end Engine

namespace Clause

def patterns : Clause → List String
  | .glob _ first others => first :: others
  | .unfiltered | .among .. => []

def HasLongPattern (clause : Clause) : Prop := ∃ pattern ∈ clause.patterns, tooLong pattern = true

/-- Whether a row satisfies a condition, with no pattern being too long. -/
def holds (row : JoinedRow) : Clause → Bool
  | .unfiltered => true
  | .glob column first others =>
    (first :: others).any fun pattern => matchesCodes pattern (row.cell column).codes
  | .among column first others =>
    (first :: others).any fun id =>
      row.cell column == .text (String.ofList (Decimal.ofInt id))

theorem testPatterns_selects (value : List Code) (tried : List String) :
    UnlessTooLong (∃ pattern ∈ tried, tooLong pattern = true) (testPatterns value tried)
      (tried.any fun pattern => matchesCodes pattern value) := by
  induction tried with
  | nil => exact .of_ok _ false
  | cons pattern others ih =>
    rw [testPatterns, List.any_cons]
    split
    · rename_i long
      exact .inr ⟨⟨pattern, by simp, long⟩, rfl⟩
    · split
      · rename_i matched
        rw [matched]
        exact .of_ok _ true
      · rename_i mismatched
        rw [Bool.eq_false_iff.2 mismatched, Bool.false_or]
        exact ih.mono fun ⟨other, member, long⟩ => ⟨other, by simp [member], long⟩

theorem test_selects (row : JoinedRow) (clause : Clause) :
    UnlessTooLong clause.HasLongPattern (clause.test row) (clause.holds row) := by
  cases clause with
  | unfiltered => exact .of_ok _ true
  | among column first others => exact .of_ok _ _
  | glob column first others => exact testPatterns_selects _ (first :: others)

/-- Whether a row satisfies all conditions. -/
def allHold (clauses : List Clause) (row : JoinedRow) : Bool := clauses.all (holds row)

def AnyLongPattern (clauses : List Clause) : Prop := ∃ clause ∈ clauses, clause.HasLongPattern

/-- Whether the part of an index that belongs to a pattern yields a row. -/
def inPart (row : JoinedRow) (column : Column) (pattern : String) : Bool :=
  visits row column pattern &&
    (endsInRun pattern || matchesCodes pattern (row.cell column).codes)

/-- Whether some of the parts that belong to several patterns yields a row. -/
def inParts (row : JoinedRow) (column : Column) (first : String) (others : List String) : Bool :=
  if others.map literalText = [literalText first] then
    visits row column first && !(row.cell column).isBlob
  else (first :: others).any (inPart row column)

/-- Whether a search that a condition guides finds a row by it. -/
def guidesTo (row : JoinedRow) : Clause → Bool
  | .glob column first [] => inPart row column first
  | .glob column first (second :: others) =>
    inParts row column first (second :: others) &&
      holds row (.glob column first (second :: others))
  | clause => clause.holds row

/-- Whether a search finds a row by one of its conditions. -/
def finds (guide : Option Clause) (row : JoinedRow) (clause : Clause) : Bool :=
  if guide = some clause then clause.guidesTo row else clause.holds row

def allFind (guide : Option Clause) (clauses : List Clause) (row : JoinedRow) : Bool :=
  clauses.all (finds guide row)

theorem testPart_selects (row : JoinedRow) (column : Column) (pattern : String) :
    UnlessTooLong (tooLong pattern = true) (testPart row column pattern)
      (inPart row column pattern) := by
  unfold testPart inPart
  cases visits row column pattern with
  | false => exact .of_ok _ false
  | true =>
    cases endsInRun pattern with
    | true => exact .of_ok _ true
    | false =>
      refine ((testPatterns_selects (row.cell column).codes [pattern]).mono ?_).congr ?_
      · rintro ⟨tried, member, long⟩
        rwa [List.mem_singleton.1 member] at long
      · simp

theorem testParts_selects (row : JoinedRow) (column : Column) (tried : List String) :
    UnlessTooLong (∃ pattern ∈ tried, tooLong pattern = true) (testParts row column tried)
      (tried.any (inPart row column)) := by
  induction tried with
  | nil => exact .of_ok _ false
  | cons pattern others ih =>
    have here := (testPart_selects row column pattern).mono
      fun long => (⟨pattern, by simp, long⟩ : ∃ tried ∈ pattern :: others, tooLong tried = true)
    refine here.bind ((ih.mono ?_).bind (.of_ok _ _))
    rintro ⟨other, member, long⟩
    exact ⟨other, by simp [member], long⟩

theorem findInParts_selects (row : JoinedRow) (column : Column) (first : String)
    (others : List String) :
    UnlessTooLong (∃ pattern ∈ first :: others, tooLong pattern = true)
      (findInParts row column first others) (inParts row column first others) := by
  unfold findInParts inParts
  split
  · exact .of_ok _ _
  · exact testParts_selects row column (first :: others)

theorem testGuiding_selects (row : JoinedRow) (clause : Clause) :
    UnlessTooLong clause.HasLongPattern (clause.testGuiding row) (clause.guidesTo row) := by
  cases clause with
  | unfiltered => exact .of_ok _ true
  | among column first others => exact .of_ok _ _
  | glob column first others =>
    cases others with
    | nil =>
      exact (testPart_selects row column first).mono fun long => ⟨first, by simp [patterns], long⟩
    | cons second others =>
      refine (findInParts_selects row column first (second :: others)).bind ?_
      simp only [guidesTo]
      cases inParts row column first (second :: others) with
      | false => exact .of_ok _ false
      | true => exact testPatterns_selects _ (first :: second :: others)

theorem testUnder_selects (guide : Option Clause) (row : JoinedRow) (clause : Clause) :
    UnlessTooLong clause.HasLongPattern (clause.testUnder guide row) (clause.finds guide row) := by
  unfold testUnder finds
  split
  · exact testGuiding_selects row clause
  · exact test_selects row clause

/-- Testing all conditions selects the rows that are found by all of them. -/
theorem testAll_selects (guide : Option Clause) (row : JoinedRow) (clauses : List Clause) :
    UnlessTooLong (AnyLongPattern clauses) (testAll guide row clauses)
      (allFind guide clauses row) := by
  induction clauses with
  | nil => exact .of_ok _ true
  | cons clause others ih =>
    have later : UnlessTooLong (AnyLongPattern (clause :: others)) (testAll guide row others)
        (allFind guide others row) :=
      ih.mono fun ⟨other, member, long⟩ => ⟨other, by simp [member], long⟩
    rcases testUnder_selects guide row clause with tested | ⟨long, tested⟩
    · cases found : clause.finds guide row with
      | false =>
        rw [found] at tested
        refine .inl ?_
        simp [testAll, allFind, tested, found]
      | true =>
        rw [found] at tested
        simpa [testAll, allFind, tested, found] using later
    · refine .inr ⟨⟨clause, by simp, long⟩, ?_⟩
      simp [testAll, tested]

end Clause
end SecretVault
