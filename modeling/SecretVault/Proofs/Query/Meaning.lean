import Mathlib.Data.List.Induction
import Mathlib.Data.List.TakeWhile
import SecretVault.Proofs.Query.Composing

/-!
Queries as they are put together, call by call. What is left of the calls are the clauses that
filter anything, in their order, and the last order of the rows.
-/
namespace SecretVault
open SecretVault.Sql

namespace Query

/-- A step in putting a query together. -/
inductive Call where
  | filter (clause : Clause)
  | orderBy (order : String)
  deriving DecidableEq, Repr

def call (q : Query) : Call → Query
  | .filter clause => q.filter clause
  | .orderBy order => q.orderBy order

def compose (template : String) (calls : List Call) : Query :=
  calls.foldl call (ofTemplate template)

namespace Call

def clause? : Call → Option Clause
  | .filter clause => some clause
  | .orderBy _ => none

def order? : Call → Option String
  | .filter _ => none
  | .orderBy order => some order

/-- The clauses that filter anything. -/
def filters (calls : List Call) : List Clause :=
  (calls.filterMap clause?).filter fun clause => !clause.isUnfiltered

/-- The order that is given last. -/
def lastOrder (calls : List Call) : Option String := (calls.filterMap order?).getLast?

end Call

/-- The query without an order. -/
def unordered (q : Query) : Query := { q with order := none }

theorem compose_eq (template : String) (calls : List Call) :
    compose template calls = ⟨template, calls.filterMap Call.clause?, Call.lastOrder calls⟩ := by
  induction calls using List.reverseRecOn with
  | nil => rfl
  | append_singleton calls last ih =>
    rw [compose, List.foldl_append, ← compose, ih]
    cases last with
    | filter clause => simp [call, filter, Call.clause?, Call.order?, Call.lastOrder]
    | orderBy order => simp [call, orderBy, Call.clause?, Call.order?, Call.lastOrder]

/-- The clauses of a query that filter anything. -/
def filters (q : Query) : List Clause := q.clauses.filter fun clause => !clause.isUnfiltered

theorem params_eq (q : Query) : q.params = q.filters.flatMap Clause.params := by
  rw [params, filters]
  induction q.clauses with
  | nil => rfl
  | cons clause others ih =>
    cases clause with
    | unfiltered => simpa [Clause.isUnfiltered, Clause.params] using ih
    | glob _ _ _ | among _ _ _ => simpa [Clause.isUnfiltered] using ih

/-- A clause in parentheses. -/
def enclosed (clause : Clause) : String := "(" ++ clause.predicate?.getD "" ++ ")"

theorem conditions_eq (q : Query) : q.conditions = q.filters.map enclosed := by
  rw [conditions, filters]
  induction q.clauses with
  | nil => rfl
  | cons clause others ih =>
    cases clause with
    | unfiltered => exact ih
    | glob column first values => exact congrArg (enclosed (.glob column first values) :: ·) ih
    | among column first values => exact congrArg (enclosed (.among column first values) :: ·) ih

theorem expresses_enclosed {clause : Clause} (filtered : clause.isUnfiltered = false) :
    Expresses .test (enclosed clause).toList clause.params (fun row => clause.Accepts row) := by
  have given : ∃ predicate, clause.predicate? = some predicate := by
    cases clause with
    | unfiltered => cases filtered
    | glob _ _ _ | among _ _ _ => exact ⟨_, rfl⟩
  obtain ⟨predicate, given⟩ := given
  have text : (enclosed clause).toList = '(' :: (predicate.toList ++ [')']) := by
    simp [enclosed, given]
  rw [text]
  exact (Clause.expresses_predicate given).group

/-- The conditions together, if there are any. -/
theorem expresses_conditions {q : Query} (filtered : q.filters ≠ []) :
    Expresses (.joined .or) (" AND ".intercalate q.conditions).toList q.params
      (fun row => ∀ clause ∈ q.filters, clause.Accepts row) := by
  have each : ∀ clause ∈ q.filters, clause.isUnfiltered = false := by
    intro clause member
    simpa using (List.mem_filter.1 member).2
  rw [params_eq, conditions_eq]
  cases clauses : q.filters with
  | nil => exact absurd clauses filtered
  | cons first others =>
    rw [clauses] at each
    exact (Expresses.intercalate .and fun clause member =>
      expresses_enclosed (each clause member)).joined .or

end Query

namespace Sql
variable {s : Scanner} {text : List Char}

/-- Without a question mark there is no placeholder. -/
theorem placeholders_scan (noMark : '?' ∉ text) :
    (s.scan text).2.placeholders = s.placeholders := by
  have started (n : Nat) {c : Char} (other : c ≠ '?') :
      (Scanner.start n c).2.placeholders = n := by
    unfold Scanner.start
    repeat' split
    all_goals rfl
  induction text generalizing s with
  | nil => rfl
  | cons c rest ih =>
    have other : c ≠ '?' := fun same => noMark (same ▸ List.mem_cons_self)
    refine (ih fun member => noMark (List.mem_cons_of_mem c member)).trans ?_
    unfold Scanner.step
    split
    · exact started _ other
    all_goals (try split) <;> first | rfl | exact started _ other

theorem scans_of_opens {text : String} (opens : Opens text) (noMark : '?' ∉ text.toList) :
    Scans ⟨.between, 0⟩ (text.toList ++ ['\n']) (tokens text) ⟨.between, 0⟩ := by
  have none : '?' ∉ text.toList ++ ['\n'] := by simpa using noMark
  have count := placeholders_scan (s := ⟨.between, 0⟩) none
  have ends : (Scanner.scan ⟨.between, 0⟩ (text.toList ++ ['\n'])).2 = ⟨.between, 0⟩ :=
    calc (Scanner.scan ⟨.between, 0⟩ (text.toList ++ ['\n'])).2
      _ = ⟨_, _⟩ := rfl
      _ = ⟨.between, 0⟩ := by rw [opens.1, count]
  exact Prod.ext rfl ends

section
variable {head : List Token} (opening : ∀ token ∈ head, token.is "WHERE" = false)
include opening

theorem afterWhere_append (rest : List Token) :
    afterWhere (head ++ .word "WHERE".toList :: rest) = some rest := by
  have dropped : (head ++ .word "WHERE".toList :: rest).dropWhile (fun token => !token.is "WHERE") =
      .word "WHERE".toList :: rest := by
    rw [List.dropWhile_append_of_pos fun token member => by simp [opening token member]]
    rfl
  rw [afterWhere, dropped]

theorem afterWhere_eq_none : afterWhere head = none := by
  have dropped : head.dropWhile (fun token => !token.is "WHERE") = [] :=
    List.dropWhile_eq_nil_iff.2 fun token member => by simp [opening token member]
  rw [afterWhere, dropped]

end

/-- What an order reads as. -/
def orderTokens (placeholders : Nat) : Option String → List Token
  | none => []
  | some order => .word "ORDER".toList :: .word "BY".toList :: tokensFrom placeholders order

theorem ends_orderTokens (level : Level) (n : Nat) (order : Option String) :
    level.Ends (orderTokens n order) := by
  cases order with
  | none => exact level.ends_nil
  | some order => exact Level.ends_of_other (fun joint => by cases joint <;> rfl) level _

end Sql

namespace Query
variable {q : Query}

theorem scans_orderText (q : Query) (n : Nat) :
    ∃ s, Scans ⟨.between, n⟩ (q.orderText.toList ++ ['\n']) (orderTokens n q.order) s := by
  rw [orderText]
  cases q.order with
  | none => exact ⟨⟨.between, n⟩, rfl⟩
  | some order =>
    have head : Scans ⟨.between, n⟩ "\nORDER BY ".toList
      [.word "ORDER".toList, .word "BY".toList] ⟨.between, n⟩ := rfl
    have tail : Scans ⟨.between, n⟩ (order.toList ++ ['\n']) (tokensFrom n order) _ := rfl
    have whole := head.append tail
    rw [← List.append_assoc, ← String.toList_append] at whole
    exact ⟨_, whole⟩

theorem filterText_of_filters (filtered : q.filters ≠ []) :
    q.filterText = "\nWHERE " ++ " AND ".intercalate q.conditions := by
  have some : q.conditions ≠ [] := by simpa [conditions_eq] using filtered
  rw [filterText, if_neg (by simpa using some)]

theorem filterText_of_no_filters (unfiltered : q.filters = []) : q.filterText = "" := by
  rw [filterText, conditions_eq, unfiltered]
  rfl

section
variable (opens : Opens (Text.trimEnd q.template)) (noMark : '?' ∉ (Text.trimEnd q.template).toList)
include opens noMark

/-- A query with a filter has a condition, and behind it nothing but its order. -/
theorem means_of_filters (filtered : q.filters ≠ []) :
    ∃ condition, Means q.sql condition (orderTokens q.params.length q.order) ∧
      condition.Binds 0 q.params fun row => ∀ clause ∈ q.filters, clause.Accepts row := by
  obtain ⟨ts, condition, scans, reads, binds⟩ := (expresses_conditions filtered).reads 0
  rw [Nat.zero_add] at scans
  obtain ⟨s, order⟩ := q.scans_orderText q.params.length
  have keyword : Scans ⟨.between, 0⟩ "WHERE ".toList [.word "WHERE".toList] ⟨.between, 0⟩ := rfl
  have whole := (scans_of_opens opens noMark).append (keyword.append (scans.append order))
  have read : tokens q.sql = tokens (Text.trimEnd q.template) ++
      .word "WHERE".toList :: (ts ++ orderTokens q.params.length q.order) := by
    rw [tokens, tokensFrom, sql, filterText_of_filters filtered]
    have text := congrArg Prod.fst whole
    simpa using text
  refine ⟨condition, ⟨_, ?_, reads _ (ends_orderTokens _ _ _)⟩, binds⟩
  rw [read]
  exact afterWhere_append opens.2 _

/-- Without an order a query has `WHERE` exactly if it has a filter. -/
theorem afterWhere_unordered :
    afterWhere (tokens q.unordered.sql) = none ↔ q.filters = [] := by
  constructor
  · intro missing
    by_contra filtered
    obtain ⟨condition, ⟨ts, found, -⟩, -⟩ :=
      means_of_filters (q := q.unordered) opens noMark filtered
    rw [missing] at found
    cases found
  · intro unfiltered
    have text : q.unordered.sql = Text.trimEnd q.template := by
      rw [sql, filterText_of_no_filters (q := q.unordered) unfiltered, orderText]
      simp [unordered]
    rw [text]
    exact afterWhere_eq_none opens.2

omit opens in
theorem count_sql :
    q.sql.toList.count '?' = q.params.length + q.order.elim 0 (·.toList.count '?') := by
  have order : q.orderText.toList.count '?' = q.order.elim 0 (·.toList.count '?') := by
    rw [orderText]
    cases q.order with
    | none => rfl
    | some order => simp
  have filters : q.filterText.toList.count '?' = q.params.length := by
    by_cases filtered : q.filters = []
    · rw [filterText_of_no_filters filtered, params_eq, filtered]
      rfl
    · rw [filterText_of_filters filtered, String.toList_append, List.count_append,
        (expresses_conditions filtered).count]
      simp
  rw [sql, String.toList_append, String.toList_append, List.count_append, List.count_append, order,
    filters, List.count_eq_zero_of_not_mem noMark, Nat.zero_add]

end

theorem sql_eq (q : Query) : q.sql = q.unordered.sql ++ q.order.elim "" ("\nORDER BY " ++ ·) := by
  have without : q.unordered.orderText = "" := rfl
  rw [sql, sql, without, String.append_empty, orderText]
  cases q.order <;> rfl

/-- The text and the values depend on the filters and the order alone. -/
theorem sql_congr {q q' : Query} (template : q'.template = q.template)
    (filters : q'.filters = q.filters) (order : q'.order = q.order) :
    q'.sql = q.sql ∧ q'.params = q.params := by
  have conditions : q'.conditions = q.conditions := by
    rw [conditions_eq, conditions_eq, filters]
  constructor
  · rw [sql, sql, filterText, filterText, orderText, orderText, template, conditions, order]
  · rw [params_eq, params_eq, filters]

end Query

theorem Text.not_mem_trimEnd {c : Char} {text : String} (other : c ∉ text.toList) :
    c ∉ (Text.trimEnd text).toList := by
  intro member
  rw [Text.trimEnd, String.toList_ofList, List.mem_reverse] at member
  exact other (List.mem_reverse.1 (List.dropWhile_subset _ member))

/-- However filters and orders are added to a template, the composed text has one reading. There is
a condition behind `WHERE` if there are clauses that filter anything, and it is true of the rows
that all of them accept; its placeholders have the numbers of the values, patterns being bound to
texts and ids to numbers. Then comes the order that was given last. Calls that add the same clauses
and the same last order compose the same query. -/
theorem composed_query_means {template : String} (opens : Opens (Text.trimEnd template))
    (noMark : '?' ∉ template.toList) (calls : List Query.Call) :
    let q := Query.compose template calls
    let filters := Query.Call.filters calls
    let order := Query.Call.lastOrder calls
    q.sql = q.unordered.sql ++ order.elim "" ("\nORDER BY " ++ ·) ∧
    (afterWhere (tokens q.unordered.sql) = none ↔ filters = []) ∧
    (filters ≠ [] → ∃ condition,
      (∀ read rest, Means q.sql read rest ↔
        read = condition ∧ rest = orderTokens q.params.length order) ∧
      (∀ row, condition.Holds row q.params ↔ ∀ clause ∈ filters, clause.Accepts row) ∧
      condition.numbers = List.range q.params.length ∧ condition.Typed q.params) ∧
    q.sql.toList.count '?' = q.params.length + order.elim 0 (·.toList.count '?') ∧
    ∀ other, Query.Call.filters other = filters → Query.Call.lastOrder other = order →
      (Query.compose template other).sql = q.sql ∧
        (Query.compose template other).params = q.params := by
  intro q filters order
  have composed : q = ⟨template, calls.filterMap Query.Call.clause?, order⟩ :=
    Query.compose_eq template calls
  have sameOrder : q.order = order := by rw [composed]
  have sameFilters : q.filters = filters := by rw [composed]; rfl
  have sameTemplate : q.template = template := by rw [composed]
  rw [← sameOrder, ← sameFilters]
  rw [← sameTemplate] at opens noMark
  have noMark := Text.not_mem_trimEnd noMark
  refine ⟨q.sql_eq, Query.afterWhere_unordered opens noMark, fun filtered => ?_,
    Query.count_sql noMark, fun other otherFilters otherOrder => ?_⟩
  · obtain ⟨condition, means, binds⟩ := Query.means_of_filters opens noMark filtered
    have whole : At 0 q.params q.params := ⟨[], [], by simp, rfl⟩
    refine ⟨condition, fun read rest => ?_, fun row => binds.holds row _ whole, ?_,
      binds.typed _ whole⟩
    · constructor
      · intro reads
        exact means.unique reads
      · rintro ⟨rfl, rfl⟩
        exact means
    · rw [binds.numbers, List.range_eq_range']
  · have otherComposed := Query.compose_eq template other
    refine Query.sql_congr ?_ ?_ ?_
    · rw [otherComposed, sameTemplate]
    · rw [otherComposed, ← otherFilters]
      rfl
    · rw [otherComposed, ← otherOrder]

/-- Two filters, with a clause that filters nothing and two orders between them. -/
theorem composed_query_means_twoFilters :
    let template := "SELECT s.id FROM secrets AS s JOIN labels AS l -- with labels only\n"
    let calls : List Query.Call := [
      .orderBy "l.id", .filter (.globAny .label ["work", "p*"]), .filter (.globAny .secretName []),
      .orderBy "s.id", .filter (.idIn .secretId [1, -2])]
    let q := Query.compose template calls
    Opens (Text.trimEnd template) ∧ '?' ∉ template.toList ∧
      q.params = [.text "work", .text "p*", .int 1, .int (-2)] ∧
      ∃ condition, Means q.sql condition (orderTokens 4 (some "s.id")) ∧
        ∀ row, condition.Holds row q.params ↔
          (row.globs "l.name" (.text "work") ∨ row.globs "l.name" (.text "p*")) ∧
            (row.equals "s.id" (.int 1) ∨ row.equals "s.id" (.int (-2))) := by
  intro template calls q
  have opens : Opens (Text.trimEnd template) := by decide +kernel
  have noMark : '?' ∉ template.toList := by decide +kernel
  obtain ⟨-, -, filtered, -⟩ := composed_query_means opens noMark calls
  obtain ⟨condition, means, holds, -⟩ := filtered (List.cons_ne_nil _ _)
  refine ⟨opens, noMark, rfl, condition, (means _ _).2 ⟨rfl, rfl⟩, fun row => (holds row).trans ?_⟩
  have filters : Query.Call.filters calls =
    [.glob .label "work" ["p*"], .among .secretId 1 [-2]] := rfl
  rw [filters]
  simp [Clause.Accepts, Column.sql]

end SecretVault
