import SecretVault.Engine.Search
import SecretVault.Proofs.Glob.Literal
import SecretVault.Proofs.Search.Visiting
import SecretVault.Proofs.Text.Decimal
import SecretVault.Proofs.Text.Utf8

/-!
What a search through an index finds. Of texts it finds those that begin with the literal text of a
pattern, byte by byte, and are matched by the same pattern. So where codes tell characters apart it
finds every row that satisfies the guiding condition, and no other. On an id column a condition that
narrows the search is satisfied by no row at all: no decimal text begins with it.
-/
namespace SecretVault
open SecretVault.Engine SecretVault.Glob SecretVault.Text

namespace Engine.Value

theorem digit_properties (d : Nat) (below : d < 10) :
    isNumberBlank (Decimal.digitChar d) = false ∧ Decimal.digitChar d ≠ '-' ∧
      Decimal.digitChar d ≠ '+' ∧ (Decimal.digitChar d).toNat < 128 := by
  match d, below with
  | 0, _ | 1, _ | 2, _ | 3, _ | 4, _ | 5, _ | 6, _ | 7, _ | 8, _ | 9, _ => decide

theorem splitDigits_of_digits {ds : List Char}
    (digits : ∀ c ∈ ds, ∃ d, d < 10 ∧ c = Decimal.digitChar d) :
    ∃ values, splitDigits ds = (values, []) ∧ values.length = ds.length := by
  induction ds with
  | nil => exact ⟨[], rfl, rfl⟩
  | cons c rest ih =>
    obtain ⟨d, below, rfl⟩ := digits c (by simp)
    obtain ⟨values, split, length⟩ := ih fun x member => digits x (by simp [member])
    refine ⟨d :: values, ?_, by simp [length]⟩
    simp [splitDigits, Decimal.digit?_digitChar d below, split]

/-- Digits after an optional minus are a numeral. -/
theorem numeral?_isSome_of_digits {sign ds : List Char} (isSign : sign = [] ∨ sign = ['-'])
    (digits : ∀ c ∈ ds, ∃ d, d < 10 ∧ c = Decimal.digitChar d) (nonempty : ds ≠ []) :
    (numeral? (sign ++ ds)).isSome = true := by
  obtain ⟨values, split, length⟩ := splitDigits_of_digits digits
  have hasValues : values.isEmpty = false := by
    cases values with
    | nil => exact absurd (List.length_eq_zero_iff.1 length.symm) nonempty
    | cons => rfl
  obtain ⟨first, rest, rfl⟩ := List.exists_cons_of_ne_nil nonempty
  obtain ⟨d, below, rfl⟩ := digits first (by simp)
  obtain ⟨notBlank, notMinus, notPlus, -⟩ := digit_properties d below
  rcases isSign with rfl | rfl
  · have noSign : splitSign (Decimal.digitChar d :: rest) =
        (false, Decimal.digitChar d :: rest) := by
      unfold splitSign
      split
      · rename_i equal
        exact absurd (List.cons.inj equal).1 notMinus
      · rename_i equal
        exact absurd (List.cons.inj equal).1 notPlus
      · rfl
    simp [numeral?, notBlank, noSign, split, hasValues]
  · have blank : isNumberBlank '-' = false := by decide
    simp [numeral?, blank, splitSign, split, hasValues]

/-- Every start of a decimal text but the minus alone is a numeral. -/
theorem numeral?_isSome_of_isPrefix {n : Int} {start : List Char}
    (starts : start <+: Decimal.ofInt n) (nonempty : start ≠ []) (notMinus : start ≠ ['-']) :
    (numeral? start).isSome = true := by
  obtain ⟨sign, ds, shape, isSign, digits⟩ := Decimal.ofInt_shape n
  rw [shape] at starts
  rcases isSign with rfl | rfl
  · exact numeral?_isSome_of_digits (.inl rfl)
      (fun c member => digits c (starts.subset member)) nonempty
  · obtain ⟨first, rest, rfl⟩ := List.exists_cons_of_ne_nil nonempty
    obtain ⟨rfl, within⟩ := List.cons_prefix_cons.1 starts
    refine @numeral?_isSome_of_digits ['-'] _ (.inr rfl)
      (fun c member => digits c (within.subset member)) ?_
    rintro rfl
    exact notMinus rfl

end Engine.Value

theorem decimal_ascii {n : Int} {c : Char} (member : c ∈ Decimal.ofInt n) : c.toNat < 128 := by
  obtain ⟨sign, ds, shape, isSign, digits⟩ := Decimal.ofInt_shape n
  rw [shape] at member
  rcases List.mem_append.1 member with member | member
  · rcases isSign with rfl | rfl
    · cases member
    · rw [List.mem_singleton.1 member]
      decide
  · obtain ⟨d, below, rfl⟩ := digits c member
    exact (Engine.Value.digit_properties d below).2.2.2

namespace Clause

/-- A pattern that narrows a search by id matches no id. -/
theorem not_matches_of_narrows {column : Column} (isId : column.holdsText = false)
    {pattern : String} (narrow : narrows column pattern = true) (n : Int) :
    matchesCodes pattern (codes (String.ofList (Decimal.ofInt n))) = false := by
  rw [Bool.eq_false_iff]
  intro matched
  simp only [narrows, isId, Bool.false_or, Bool.and_eq_true, Bool.not_eq_true',
    bne_iff_ne] at narrow
  obtain ⟨nonempty, ⟨notMinus, noNumeral⟩, -⟩ := narrow
  have starts : literalText pattern <+: Decimal.ofInt n := by
    have within := literal_isPrefix_of_apart (fun c _ d hd same => ?_) matched
    · rwa [String.toList_ofList] at within
    · have ascii := decimal_ascii (by rwa [String.toList_ofList] at hd)
      exact eq_of_codeOf_eq_toNat ascii (same.trans (codeOf_of_ascii ascii))
  have numeral := Engine.Value.numeral?_isSome_of_isPrefix starts
    (by simpa using nonempty) notMinus
  rw [Option.isNone_iff_eq_none.1 noNumeral] at numeral
  cases numeral

/-- Codes tell the literal starts of a condition's patterns from the text in its column. Ids need no
such thing. -/
def TellsApart (row : JoinedRow) : Clause → Prop
  | .glob column first others =>
    column.holdsText = true →
      ∃ s, row.cell column = .text s ∧ ∀ pattern ∈ first :: others, Apart pattern s
  | .unfiltered | .among .. => True

theorem encode_isPrefix {a b : List Char} (starts : a <+: b) :
    (Utf8.encode (String.ofList a)).isPrefixOf (Utf8.encode (String.ofList b)) = true := by
  obtain ⟨rest, rfl⟩ := starts
  simp only [Utf8.encode, String.toList_ofList, List.flatMap_append, List.isPrefixOf_iff_prefix]
  exact List.prefix_append _ _

/-- A text lies in the part of an index that belongs to a pattern if it begins with the pattern's
literal text. -/
theorem visits_iff_isPrefix {row : JoinedRow} {column : Column} (isText : column.holdsText = true)
    {s : String} (cell : row.cell column = .text s) (pattern : String) :
    visits row column pattern = true ↔ literalText pattern <+: s.toList := by
  simp only [visits, isText, cell, Cell.bytes, Bool.true_and]
  constructor
  · intro starts
    exact Utf8.isPrefix_of_encode_isPrefix (List.isPrefixOf_iff_prefix.1 starts)
  · intro starts
    have bytes := encode_isPrefix starts
    rwa [String.ofList_toList] at bytes

/-- A text that the part of a pattern yields is matched by the pattern, be it tested or not. -/
theorem inPart_of_text {row : JoinedRow} {column : Column} {s : String}
    (cell : row.cell column = .text s) (pattern : String) :
    inPart row column pattern =
      (visits row column pattern && matchesCodes pattern (row.cell column).codes) := by
  unfold inPart
  cases visited : visits row column pattern with
  | false => rfl
  | true =>
    cases run : endsInRun pattern with
    | false => rfl
    | true =>
      have isText : column.holdsText = true := by
        rw [visits, Bool.and_eq_true] at visited
        exact visited.1
      have starts := (visits_iff_isPrefix isText cell pattern).1 visited
      have matched : matchesCodes pattern (row.cell column).codes = true := by
        rw [cell]
        exact matches_of_endsInRun run starts
      rw [matched]
      rfl

/-- A condition that guides a search finds a text through one of its patterns: the text begins with
the literal text of this pattern and is matched by it. -/
theorem guidesTo_iff_of_text {row : JoinedRow} {column : Column} {s : String}
    (cell : row.cell column = .text s) (first : String) (others : List String) :
    (glob column first others).guidesTo row = true ↔
      ∃ pattern ∈ first :: others, visits row column pattern = true ∧
        matchesCodes pattern (row.cell column).codes = true := by
  have part (pattern : String) : inPart row column pattern = true ↔
      visits row column pattern = true ∧ matchesCodes pattern (row.cell column).codes = true := by
    rw [inPart_of_text cell, Bool.and_eq_true]
  cases others with
  | nil => simp only [guidesTo, part, List.mem_singleton, exists_eq_left]
  | cons second others =>
    have satisfied : holds row (.glob column first (second :: others)) = true ↔
        ∃ pattern ∈ first :: second :: others,
          matchesCodes pattern (row.cell column).codes = true := by
      simp only [holds, List.any_eq_true]
    simp only [guidesTo, inParts, Bool.and_eq_true, satisfied]
    split
    · -- Two patterns with the same literal text share one part.
      rename_i shared
      obtain ⟨sameText, rfl⟩ : literalText second = literalText first ∧ others = [] := by
        simpa using shared
      have sameVisit : visits row column second = visits row column first := by
        simp only [visits, sameText]
      have noBlob : (row.cell column).isBlob = false := by rw [cell, Cell.isBlob]
      simp only [List.mem_cons, List.not_mem_nil, or_false, exists_eq_or_imp, exists_eq_left,
        sameVisit, noBlob, Bool.not_false, Bool.and_true, and_or_left]
    · simp only [List.any_eq_true, part]
      constructor
      · rintro ⟨found, -⟩
        exact found
      · rintro ⟨pattern, tried, visited, matched⟩
        exact ⟨⟨pattern, tried, visited, matched⟩, pattern, tried, matched⟩

/-- A condition that guides a search finds no text that does not satisfy it. -/
theorem holds_of_guidesTo {clause : Clause} {row : JoinedRow}
    (text : ∀ column, clause.column? = some column → ∃ s, row.cell column = .text s)
    (found : clause.guidesTo row = true) : clause.holds row = true := by
  cases clause with
  | unfiltered => rfl
  | among column first others => exact found
  | glob column first others =>
    obtain ⟨s, cell⟩ := text column rfl
    obtain ⟨pattern, tried, -, matched⟩ := (guidesTo_iff_of_text cell first others).1 found
    exact List.any_eq_true.2 ⟨pattern, tried, matched⟩

/-- A search finds no texts that do not satisfy its conditions. -/
theorem allHold_of_allFind {guide : Option Clause} {clauses : List Clause} {row : JoinedRow}
    (texts : ∀ clause ∈ clauses, ∀ column, clause.column? = some column →
      ∃ s, row.cell column = .text s)
    (found : allFind guide clauses row = true) : allHold clauses row = true := by
  refine List.all_eq_true.2 fun clause member => ?_
  have foundBy := List.all_eq_true.1 found clause member
  unfold finds at foundBy
  split at foundBy
  · exact holds_of_guidesTo (texts clause member) foundBy
  · exact foundBy

/-- No part of an index by id yields a row, and no row satisfies a condition that narrows a search by
id. -/
theorem guidesTo_eq_holds_of_id {column : Column} (isId : column.holdsText = false)
    {first : String} {others : List String} (usable : (glob column first others).usesIndex = true)
    (row : JoinedRow) :
    (glob column first others).guidesTo row = (glob column first others).holds row := by
  have notVisited (pattern : String) : visits row column pattern = false := by simp [visits, isId]
  have unmatched : (glob column first others).holds row = false := by
    rw [holds, List.any_eq_false]
    intro pattern member
    simp only [usesIndex, Bool.and_eq_true, List.all_eq_true] at usable
    have none := not_matches_of_narrows isId (usable.1 pattern member)
    cases column with
    | label => cases isId
    | secretName => cases isId
    | secretId => simp [JoinedRow.cell, Cell.codes, none]
    | labelSecretId => simp [JoinedRow.cell, Cell.codes, none]
  rw [unmatched]
  cases others with
  | nil => simp [guidesTo, inPart, notVisited]
  | cons second others => simp [guidesTo, unmatched]

/-- Where codes tell characters apart, a condition that guides a search finds what satisfies it. -/
theorem guidesTo_eq_holds {clause : Clause} {row : JoinedRow} (apart : clause.TellsApart row)
    (usable : clause.usesIndex = true) : clause.guidesTo row = clause.holds row := by
  cases clause with
  | unfiltered => rfl
  | among column first others => rfl
  | glob column first others =>
    cases isText : column.holdsText with
    | false => exact guidesTo_eq_holds_of_id isText usable row
    | true =>
      obtain ⟨s, cell, patternsApart⟩ := apart isText
      rw [Bool.eq_iff_iff, guidesTo_iff_of_text cell, holds, List.any_eq_true]
      refine exists_congr fun pattern => and_congr_right fun member =>
        and_iff_right_of_imp fun matched => ?_
      rw [cell] at matched
      exact (visits_iff_isPrefix isText cell pattern).2
        (literal_isPrefix_of_apart (patternsApart pattern member) matched)

/-- Where codes tell characters apart, a search finds the rows that satisfy its conditions, whichever
of them guides it. -/
theorem allFind_eq_allHold {guide : Option Clause} {clauses : List Clause} {row : JoinedRow}
    (usable : ∀ clause, guide = some clause → clause.usesIndex = true)
    (apart : ∀ clause ∈ clauses, clause.TellsApart row) :
    allFind guide clauses row = allHold clauses row := by
  rw [Bool.eq_iff_iff, allFind, allHold, List.all_eq_true, List.all_eq_true]
  refine forall₂_congr fun clause member => ?_
  unfold finds
  split
  · rename_i guided
    rw [guidesTo_eq_holds (apart clause member) (usable clause guided)]
  · rfl

end Clause

namespace Engine

theorem finds_eq_allHold_of_unguided {clauses : List Clause} (unguided : guide? clauses = none) :
    finds clauses = Clause.allHold clauses := by
  rw [finds, unguided]
  rfl

theorem finds_eq_allHold {clauses : List Clause} {row : JoinedRow}
    (apart : ∀ clause ∈ clauses, clause.TellsApart row) :
    finds clauses row = Clause.allHold clauses row :=
  Clause.allFind_eq_allHold (fun _ guided => (mem_of_guide guided).2) apart

end Engine
end SecretVault
