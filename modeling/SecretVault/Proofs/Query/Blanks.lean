import SecretVault.Proofs.Query.Meaning

/-!
Queries with their values left blank. The text of a query is that of its blank, whatever the values
are; and the text tells the blank, so a query can be told from its text and its values.
-/
namespace SecretVault

/-- Texts that tell where they end, whatever follows, and some key of what they were written for. -/
def Tells {α β : Type} (text : α → List Char) (key : α → β) : Prop :=
  ∀ a b rest rest', text a ++ rest = text b ++ rest' → key a = key b ∧ rest = rest'

/-- Texts put together with a separator tell the keys in their order, if what follows cannot be
taken for a separator. -/
theorem Tells.intercalate {α β : Type} {text : α → List Char} {key : α → β}
    (tells : Tells text key) {c : Char} {separator : List Char} {a b : α} {as bs : List α}
    {rest rest' : List Char} (ends : rest.head? ≠ some c) (ends' : rest'.head? ≠ some c)
    (same : (c :: separator).intercalate ((a :: as).map text) ++ rest =
      (c :: separator).intercalate ((b :: bs).map text) ++ rest') :
    (a :: as).map key = (b :: bs).map key ∧ rest = rest' := by
  induction as generalizing a b bs with
  | nil =>
    cases bs with
    | nil =>
      obtain ⟨sameKey, sameRest⟩ := tells a b rest rest' (by simpa using same)
      exact ⟨by simp [sameKey], sameRest⟩
    | cons b' bs =>
      simp only [List.map_cons, List.map_nil, List.intercalate_singleton,
        List.intercalate_cons_cons, List.append_assoc] at same
      obtain ⟨-, separated⟩ := tells _ _ _ _ same
      rw [separated] at ends
      exact absurd rfl ends
  | cons a' as ih =>
    cases bs with
    | nil =>
      simp only [List.map_cons, List.map_nil, List.intercalate_singleton,
        List.intercalate_cons_cons, List.append_assoc] at same
      obtain ⟨-, separated⟩ := tells _ _ _ _ same
      rw [← separated] at ends'
      exact absurd rfl ends'
    | cons b' bs =>
      simp only [List.map_cons, List.intercalate_cons_cons, List.append_assoc] at same
      obtain ⟨sameKey, separated⟩ := tells _ _ _ _ same
      have later : (c :: separator).intercalate ((a' :: as).map text) ++ rest =
          (c :: separator).intercalate ((b' :: bs).map text) ++ rest' :=
        List.append_cancel_left separated
      obtain ⟨sameKeys, sameRest⟩ := ih later
      exact ⟨congrArg₂ List.cons sameKey sameKeys, sameRest⟩

/-- A column and the space after it. -/
theorem tells_column : Tells (fun column : Column => column.sql.toList ++ [' ']) id := by
  intro column column' rest rest' same
  cases column <;> cases column' <;> simp_all [Column.sql]

namespace Clause

/-- The clause with its values left blank: kind, column and number of values stay. -/
def blank : Clause → Clause
  | .unfiltered => .unfiltered
  | .glob column _ others => .glob column "" (others.map fun _ => "")
  | .among column _ others => .among column 0 (others.map fun _ => 0)

@[simp] theorem predicate?_blank (clause : Clause) : clause.blank.predicate? = clause.predicate? := by
  cases clause <;> simp only [blank, predicate?, List.map_cons, List.map_map, Function.comp_def]

@[simp] theorem isUnfiltered_blank (clause : Clause) :
    clause.blank.isUnfiltered = clause.isUnfiltered := by
  cases clause <;> rfl

/-- A clause is its blank with its values. -/
theorem eq_of_blank {clause clause' : Clause} (same : clause.blank = clause'.blank)
    (params : clause.params = clause'.params) : clause = clause' := by
  cases clause with
  | unfiltered =>
    cases clause' with
    | unfiltered => rfl
    | glob _ _ _ | among _ _ _ => cases same
  | glob column first others =>
    cases clause' with
    | glob column' first' others' =>
      obtain rfl : column = column' := (Clause.glob.inj same).1
      have values := (List.map_inj_right fun _ _ => Param.text.inj).1 params
      rw [(List.cons.inj values).1, (List.cons.inj values).2]
    | unfiltered | among _ _ _ => cases same
  | among column first others =>
    cases clause' with
    | among column' first' others' =>
      obtain rfl : column = column' := (Clause.among.inj same).1
      have values := (List.map_inj_right fun _ _ => Param.int.inj).1 params
      rw [(List.cons.inj values).1, (List.cons.inj values).2]
    | unfiltered | glob _ _ _ => cases same

theorem length_params_blank (clause : Clause) :
    clause.blank.params.length = clause.params.length := by
  cases clause <;> simp [blank, params]

/-- Clauses that have the same blanks are the same if all their values are. -/
theorem eq_of_blanks {clauses clauses' : List Clause}
    (same : clauses.map blank = clauses'.map blank)
    (params : clauses.flatMap Clause.params = clauses'.flatMap Clause.params) :
    clauses = clauses' := by
  induction clauses generalizing clauses' with
  | nil => exact (List.map_eq_nil_iff.1 same.symm).symm
  | cons clause rest ih =>
    cases clauses' with
    | nil => cases same
    | cons clause' rest' =>
      obtain ⟨sameBlank, sameBlanks⟩ := List.cons.inj same
      rw [List.flatMap_cons, List.flatMap_cons] at params
      have length : clause.params.length = clause'.params.length := by
        rw [← length_params_blank, sameBlank, length_params_blank]
      obtain ⟨own, others⟩ := List.append_inj params length
      rw [eq_of_blank sameBlank own, ih sameBlanks others]

end Clause

/-- A test of a column against a pattern. -/
theorem tells_glob :
    Tells (fun column : Column => (column.sql ++ " GLOB ?").toList) id := by
  intro column column' rest rest' same
  obtain ⟨sameColumn, sameRest⟩ := tells_column column column'
    ("GLOB ?".toList ++ rest) ("GLOB ?".toList ++ rest') (by simpa using same)
  exact ⟨sameColumn, List.append_cancel_left sameRest⟩

namespace Clause

/-- The text of tests against patterns, in parentheses. -/
theorem toList_enclosed_glob (column : Column) (first : String) (others : List String) :
    (Query.enclosed (.glob column first others)).toList =
      '(' :: (" OR ".toList.intercalate ((column :: others.map fun _ => column).map fun column =>
        (column.sql ++ " GLOB ?").toList) ++ [')']) := by
  simp only [Query.enclosed, predicate?, Option.getD_some, String.toList_append,
    String.toList_intercalate, List.map_cons, List.map_map, Function.comp_def]
  rfl

/-- The text of a test against ids, in parentheses. -/
theorem toList_enclosed_among (column : Column) (first : Int) (others : List Int) :
    (Query.enclosed (.among column first others)).toList =
      '(' :: ((column.sql.toList ++ [' ']) ++ ("IN (".toList ++
        (", ".toList.intercalate ((() :: others.map fun _ => ()).map fun _ => ['?']) ++
          [')', ')']))) := by
  simp only [Query.enclosed, predicate?, Option.getD_some, String.toList_append,
    String.toList_intercalate, List.map_cons, List.map_map, Function.comp_def, List.append_assoc]
  rfl

/-- The column of a clause, and the letter that begins what is tested about it. -/
def kind : Clause → Option (Column × Char)
  | .unfiltered => none
  | .glob column _ _ => some (column, 'G')
  | .among column _ _ => some (column, 'I')

theorem toList_enclosed (clause : Clause) :
    match clause.kind with
    | none => (Query.enclosed clause).toList = ['(', ')']
    | some (column, letter) => ∃ rest,
      (Query.enclosed clause).toList = '(' :: ((column.sql.toList ++ [' ']) ++ letter :: rest) := by
  cases clause with
  | unfiltered => rfl
  | glob column first others =>
    rw [kind, toList_enclosed_glob]
    cases others with
    | nil => exact ⟨"LOB ?)".toList, by simp⟩
    | cons second others =>
      rw [List.map_cons, List.map_cons, List.map_cons, List.intercalate_cons_cons]
      simp only [String.toList_append, List.append_assoc]
      exact ⟨_, rfl⟩
  | among column first others => exact ⟨_, toList_enclosed_among column first others⟩

/-- No other clause in parentheses begins as one that filters nothing. -/
theorem kind_eq_none_of_enclosed {clause clause' : Clause} {rest rest' : List Char}
    (same : (Query.enclosed clause).toList ++ rest = (Query.enclosed clause').toList ++ rest')
    (none : clause.kind = none) : clause'.kind = Option.none := by
  have text := clause.toList_enclosed
  have text' := clause'.toList_enclosed
  rw [none] at text
  cases kind' : clause'.kind with
  | none => rfl
  | some opening =>
    obtain ⟨column, letter⟩ := opening
    rw [kind'] at text'
    obtain ⟨tail, text'⟩ := text'
    rw [text, text'] at same
    cases column <;> simp [Column.sql] at same

/-- A clause in parentheses tells its kind. -/
theorem kind_of_enclosed {clause clause' : Clause} {rest rest' : List Char}
    (same : (Query.enclosed clause).toList ++ rest = (Query.enclosed clause').toList ++ rest') :
    clause.kind = clause'.kind := by
  cases kind : clause.kind with
  | none => exact (kind_eq_none_of_enclosed same kind).symm
  | some opening =>
    cases kind' : clause'.kind with
    | none => cases kind.symm.trans (kind_eq_none_of_enclosed same.symm kind')
    | some opening' =>
      have text := clause.toList_enclosed
      have text' := clause'.toList_enclosed
      rw [kind] at text
      rw [kind'] at text'
      obtain ⟨tail, text⟩ := text
      obtain ⟨tail', text'⟩ := text'
      rw [text, text'] at same
      simp only [List.cons_append, List.cons.injEq, true_and, List.append_assoc] at same
      obtain ⟨column, letters⟩ := tells_column _ _ _ _ (by simpa using same)
      have letter := (List.cons.inj letters).1
      exact congrArg some (Prod.ext column letter)

/-- A clause in parentheses tells its blank. -/
theorem tells_enclosed : Tells (fun clause => (Query.enclosed clause).toList) blank := by
  intro clause clause' rest rest' same
  dsimp only at same
  have kinds := kind_of_enclosed same
  cases clause with
  | unfiltered =>
    cases clause' with
    | unfiltered => exact ⟨rfl, List.append_cancel_left same⟩
    | glob _ _ _ | among _ _ _ => cases kinds
  | glob column first others =>
    cases clause' with
    | glob column' first' others' =>
      cases kinds
      rw [toList_enclosed_glob, toList_enclosed_glob] at same
      simp only [List.cons_append, List.append_assoc, List.cons.injEq, true_and] at same
      obtain ⟨columns, sameRest⟩ := tells_glob.intercalate (c := ' ') (by simp) (by simp) same
      refine ⟨?_, by simpa using sameRest⟩
      have lengths : others.length = others'.length := by simpa using congrArg List.length columns
      simp [blank, lengths, List.map_const']
    | unfiltered | among _ _ _ => cases kinds
  | among column first others =>
    cases clause' with
    | among column' first' others' =>
      cases kinds
      rw [toList_enclosed_among, toList_enclosed_among] at same
      simp only [List.cons_append, List.append_assoc, List.cons.injEq, true_and,
        List.append_cancel_left_eq] at same
      have marks : Tells (fun _ : Unit => ['?']) id := fun _ _ _ _ same => ⟨rfl, by simpa using same⟩
      obtain ⟨placeholders, sameRest⟩ := marks.intercalate (c := ',') (by simp) (by simp) same
      refine ⟨?_, by simpa using sameRest⟩
      have lengths : others.length = others'.length := by
        simpa using congrArg List.length placeholders
      simp [blank, lengths, List.map_const']
    | unfiltered | glob _ _ _ => cases kinds

end Clause

namespace Query
variable {q q' : Query}

/-- The query with all its values left blank. -/
def blank (q : Query) : Query := { q with clauses := q.clauses.map Clause.blank }

@[simp] theorem enclosed_blank (clause : Clause) : enclosed clause.blank = enclosed clause := by
  rw [enclosed, enclosed, Clause.predicate?_blank]

@[simp] theorem filters_blank (q : Query) : q.blank.filters = q.filters.map Clause.blank := by
  simp [filters, blank, List.filter_map, Function.comp_def]

/-- The text of a query is that of its blank. -/
theorem sql_blank (q : Query) : q.blank.sql = q.sql := by
  have conditions : q.blank.conditions = q.conditions := by
    simp [conditions_eq, Function.comp_def]
  rw [sql, sql, filterText, filterText, conditions]
  rfl

/-- With the same template and the same order, the text tells the part that filters. -/
theorem filterText_of_sql (template : q.template = q'.template) (order : q.order = q'.order)
    (same : q.sql = q'.sql) : q.filterText = q'.filterText := by
  have orderText : q.orderText = q'.orderText := by rw [Query.orderText, Query.orderText, order]
  rw [sql, sql, template, orderText, ← String.toList_inj] at same
  simp only [String.toList_append, List.append_cancel_left_eq, List.append_cancel_right_eq] at same
  exact String.toList_inj.1 same

/-- Where there is a condition, there is text. -/
theorem no_filters_iff : q.filters = [] ↔ q.filterText = "" := by
  constructor
  · exact filterText_of_no_filters
  · intro silent
    by_contra filtered
    rw [filterText_of_filters filtered, String.append_eq_empty_iff] at silent
    exact absurd silent.1 (by decide)

/-- With the same template and the same order, the text tells the blanks of all clauses that filter
anything. -/
theorem blanks_of_sql (template : q.template = q'.template) (order : q.order = q'.order)
    (same : q.sql = q'.sql) : q.filters.map Clause.blank = q'.filters.map Clause.blank := by
  have text := filterText_of_sql template order same
  have both : q.filters = [] ↔ q'.filters = [] := by rw [no_filters_iff, no_filters_iff, text]
  cases filters : q.filters with
  | nil => rw [both.1 filters]
  | cons clause others =>
    cases filters' : q'.filters with
    | nil => cases filters.symm.trans (both.2 filters')
    | cons clause' others' =>
      rw [filterText_of_filters (by simp [filters]), filterText_of_filters (by simp [filters']),
        conditions_eq, conditions_eq, filters, filters', ← String.toList_inj] at text
      simp only [String.toList_append, List.append_cancel_left_eq, String.toList_intercalate,
        List.map_map] at text
      -- nothing follows the last condition
      have ends : ([] : List Char).head? ≠ some ' ' := by simp
      exact (Clause.tells_enclosed.intercalate (c := ' ') ends ends (congrArg (· ++ []) text)).1

/-- With the same template and the same order, the text and the values tell all clauses that filter
anything. -/
theorem filters_of_sql (template : q.template = q'.template) (order : q.order = q'.order)
    (same : q.sql = q'.sql) (params : q.params = q'.params) : q.filters = q'.filters := by
  rw [params_eq, params_eq] at params
  exact Clause.eq_of_blanks (blanks_of_sql template order same) params

end Query
end SecretVault
