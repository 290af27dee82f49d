import SecretVault.Proofs.Calls.Sending
import SecretVault.Proofs.Limits
import SecretVault.Proofs.Query.Blanks

/-!
What callers can change about the text that the engine gets. A text is settled by the kind of the
call, the column and the number of values; the values themselves are bound to the statement, each as
it was given and in their order, and nowhere else.
-/
namespace SecretVault
open SecretVault.Engine

/-- What is given for one filter: patterns or ids for a column, or nothing. -/
inductive Given where
  | patterns (column : Column) (values : List String)
  | ids (column : Column) (values : List Int)
  | nothing
  deriving DecidableEq

namespace Given

def clause : Given → Clause
  | .patterns column values => .globAny column values
  | .ids column values => .idIn column values
  | .nothing => .unfiltered

def values : Given → List Param
  | .patterns _ values => values.map .text
  | .ids _ values => values.map .int
  | .nothing => []

/-- Whether there are any values. -/
def bears (given : Given) : Bool := !given.values.isEmpty

/-- The values are left blank; kind, column and number of values stay. -/
def blank : Given → Given
  | .patterns column values => .patterns column (values.map fun _ => "")
  | .ids column values => .ids column (values.map fun _ => 0)
  | .nothing => .nothing

end Given

namespace Clause

@[simp] theorem params_globAny (column : Column) (patterns : List String) :
    (globAny column patterns).params = patterns.map .text := by
  cases patterns <;> rfl

@[simp] theorem params_idIn (column : Column) (ids : List Int) :
    (idIn column ids).params = ids.map .int := by
  cases ids <;> rfl

theorem blank_globAny (column : Column) (patterns : List String) :
    (globAny column patterns).blank = globAny column (patterns.map fun _ => "") := by
  cases patterns <;> rfl

theorem blank_idIn (column : Column) (ids : List Int) :
    (idIn column ids).blank = idIn column (ids.map fun _ => 0) := by
  cases ids <;> rfl

/-- What a clause was made from, if it filters anything. -/
def given : Clause → Given
  | .unfiltered => .nothing
  | .glob column first others => .patterns column (first :: others)
  | .among column first others => .ids column (first :: others)

end Clause

namespace Given

@[simp] theorem params_clause (given : Given) : given.clause.params = given.values := by
  cases given with
  | patterns column values => exact Clause.params_globAny column values
  | ids column values => exact Clause.params_idIn column values
  | nothing => rfl

theorem clause_blank (given : Given) : given.blank.clause = given.clause.blank := by
  cases given with
  | patterns column values => exact (Clause.blank_globAny column values).symm
  | ids column values => exact (Clause.blank_idIn column values).symm
  | nothing => rfl

theorem isUnfiltered_clause (given : Given) : (!given.clause.isUnfiltered) = given.bears := by
  cases given with
  | patterns column values | ids column values => cases values <;> rfl
  | nothing => rfl

theorem given_clause {given : Given} (bears : given.bears = true) : given.clause.given = given := by
  cases given with
  | patterns column values | ids column values =>
    cases values with
    | nil => cases bears
    | cons first others => rfl
  | nothing => cases bears

end Given

namespace Query

/-- The query for what is given, filter by filter, on a template and in an order. -/
def asked (template : String) (given : List Given) (order : Option String) : Query :=
  compose template (given.map (fun g => .filter g.clause) ++ order.toList.map .orderBy)

theorem asked_eq (template : String) (given : List Given) (order : Option String) :
    asked template given order = ⟨template, given.map Given.clause, order⟩ := by
  rw [asked, compose_eq]
  have none : (order.toList.map Call.orderBy).filterMap Call.clause? = [] := by cases order <;> rfl
  have clauses : (given.map fun g => Call.filter g.clause).filterMap Call.clause? =
      given.map Given.clause := by
    simp [List.filterMap_map, Function.comp_def, Call.clause?]
  have noOrder : (given.map fun g => Call.filter g.clause).filterMap Call.order? = [] := by
    simp [List.filterMap_map, Function.comp_def, Call.order?]
  have last : Call.lastOrder (given.map (fun g => .filter g.clause) ++
      order.toList.map .orderBy) = order := by
    rw [Call.lastOrder, List.filterMap_append, noOrder]
    cases order <;> rfl
  rw [List.filterMap_append, clauses, none, last, List.append_nil]

variable {template : String} {given given' : List Given} {order : Option String}

theorem blank_asked : (asked template given order).blank =
    asked template (given.map Given.blank) order := by
  rw [asked_eq, asked_eq, blank]
  simp [Function.comp_def, Given.clause_blank]

theorem params_asked : (asked template given order).params = given.flatMap Given.values := by
  rw [asked_eq, params, List.flatMap_map]
  simp

theorem filters_asked : (asked template given order).filters =
    (given.filter Given.bears).map Given.clause := by
  rw [asked_eq, filters, List.filter_map]
  simp [Function.comp_def, Given.isUnfiltered_clause]

/-- The text and the values of a query tell all that was given for it. -/
theorem asked_iff :
    (asked template given order).sql = (asked template given' order).sql ∧
        (asked template given order).params = (asked template given' order).params ↔
      given.filter Given.bears = given'.filter Given.bears := by
  have template_eq (given : List Given) : (asked template given order).template = template := by
    rw [asked_eq]
  have order_eq (given : List Given) : (asked template given order).order = order := by
    rw [asked_eq]
  constructor
  · rintro ⟨text, params⟩
    have filters := filters_of_sql ((template_eq _).trans (template_eq _).symm)
      ((order_eq _).trans (order_eq _).symm) text params
    rw [filters_asked, filters_asked] at filters
    have back (given : List Given) :
        ((given.filter Given.bears).map Given.clause).map Clause.given =
          given.filter Given.bears := by
      rw [List.map_map]
      exact (List.map_congr_left fun g member =>
        Given.given_clause (List.mem_filter.1 member).2).trans (List.map_id _)
    rw [← back given, filters, back]
  · intro same
    refine sql_congr ((template_eq _).trans (template_eq _).symm) ?_
      ((order_eq _).trans (order_eq _).symm)
    rw [filters_asked, filters_asked, same]

end Query

namespace Operation

/-- The data of a call in the order of the placeholders. -/
def values : Operation → List Param
  | .insertMasterKey key => [.text key]
  | .queryMasterKey => []
  | .insertSecret name payload => [.text name, .text payload]
  | .upsertSecret id payload => [.int id, .text payload]
  | .readPayload id => [.int id]
  | .renameSecret id name => [.text name, .int id]
  | .deleteSecrets ids | .searchIds ids => ids.map .int
  | .insertLabel name secretId => [.text name, .int secretId]
  | .deleteLabels secretId patterns => .int secretId :: patterns.map .text
  | .searchColumn _ patterns => patterns.map .text
  | .searchLabelsAndName name labels => labels.map .text ++ [.text name]

/-- The data are left blank; the operation, the column and the lengths of lists stay. -/
def blank : Operation → Operation
  | .insertMasterKey _ => .insertMasterKey ""
  | .queryMasterKey => .queryMasterKey
  | .insertSecret .. => .insertSecret "" ""
  | .upsertSecret .. => .upsertSecret 0 ""
  | .readPayload _ => .readPayload 0
  | .renameSecret .. => .renameSecret 0 ""
  | .deleteSecrets ids => .deleteSecrets (ids.map fun _ => 0)
  | .insertLabel .. => .insertLabel "" 0
  | .deleteLabels _ patterns => .deleteLabels 0 (patterns.map fun _ => "")
  | .searchColumn column patterns => .searchColumn column (patterns.map fun _ => "")
  | .searchIds ids => .searchIds (ids.map fun _ => 0)
  | .searchLabelsAndName _ labels => .searchLabelsAndName "" (labels.map fun _ => "")

/-- The statements of an operation in their order. Not all of them need be sent. -/
def statements : Operation → List Sent
  | .insertMasterKey key => [(Statement.insertMasterKey key).sent]
  | .queryMasterKey => [Statement.selectMasterKey.sent]
  | .insertSecret name payload => [(Statement.insertSecret name payload).sent]
  | .upsertSecret id payload => [(Statement.upsertSecret id payload).sent]
  | .readPayload id => [(Statement.selectPayload id).sent]
  | .renameSecret id name => [(Statement.renameSecret id name).sent]
  | .deleteSecrets ids => [(Statement.deleteSecrets ids).sent]
  | .insertLabel name secretId =>
    [(Statement.insertLabel name secretId).sent, (Statement.selectLabelId name secretId).sent]
  | .deleteLabels secretId patterns => [(Statement.deleteLabels secretId patterns).sent]
  | .searchColumn column patterns => [(Statement.search [.globAny column patterns]).sent]
  | .searchIds ids => [(Statement.search [.idIn .secretId ids]).sent]
  | .searchLabelsAndName name labels =>
    [(Statement.search [.globAny .label labels, .globAny .secretName [name]]).sent]

/-- The texts of its statements. -/
def texts (op : Operation) : List String := op.statements.map Sent.sql

end Operation

/-- However a plan runs, it sends these statements from the first one on. -/
def Plan.Sends {α : Type} : Plan α → List Sent → Prop
  | .answer _, _ => True
  | .send _ _, [] => False
  | .send statement next, sent :: later => statement.sent = sent ∧ ∀ a, (next a).Sends later

theorem Plan.Sends.sent {α : Type} {plan : Plan α} {statements : List Sent}
    (sends : plan.Sends statements) (schedule : Schedule) (c : Connection) :
    plan.sent schedule c <+: statements := by
  induction plan generalizing statements c with
  | answer result => exact List.nil_prefix
  | send statement next ih =>
    cases statements with
    | nil => exact sends.elim
    | cons first later =>
      obtain ⟨rfl, rest⟩ := sends
      rw [Plan.sent]
      refine List.cons_prefix_cons.2 ⟨rfl, ?_⟩
      cases c.send schedule statement with
      | mk result c' =>
        cases result with
        | ok a => exact ih a (rest a) c'
        | error e => exact List.nil_prefix

theorem Plan.sent_ne_nil {α β : Type} (statement : Statement β) (next : β → Plan α)
    (schedule : Schedule) (c : Connection) : (Plan.send statement next).sent schedule c ≠ [] := by
  rw [Plan.sent]
  exact List.cons_ne_nil _ _

namespace Operation

theorem sends_statements (op : Operation) : op.plan.Sends op.statements := by
  cases op with
  | insertLabel name secretId =>
    refine ⟨rfl, fun answer => ?_⟩
    cases answer with
    | some id => trivial
    | none => exact ⟨rfl, fun _ => trivial⟩
  | _ => exact ⟨rfl, fun _ => trivial⟩

theorem sent_prefix (op : Operation) (schedule : Schedule) (token : Token) (c : Connection) :
    op.sent schedule token c <+: op.statements := by
  unfold sent
  split
  · exact List.nil_prefix
  · split
    · exact List.nil_prefix
    · exact op.sends_statements.sent schedule _

/-- A call that is accepted and whose token is live when it begins sends something. -/
theorem sent_ne_nil {op : Operation} {schedule : Schedule} {token : Token} {c : Connection}
    (accepted : op.refusal? = none) (live : schedule.cancelled token c.clock = false) :
    op.sent schedule token c ≠ [] := by
  simp only [sent, accepted, Connection.install, live, Bool.false_eq_true, if_false]
  cases op with
  | _ => exact Plan.sent_ne_nil _ _ schedule _

end Operation

namespace Engine.Statement

theorem searchQuery_blank (clauses : List Clause) :
    searchQuery (clauses.map Clause.blank) = (searchQuery clauses).blank := by
  simp [searchQuery, Query.foldl_filter, Query.blank, Query.orderBy, Query.ofTemplate]

theorem sql_search_blank (clauses : List Clause) :
    (search (clauses.map Clause.blank)).sql = (search clauses).sql := by
  have text := Query.sql_blank (searchQuery clauses)
  rw [← searchQuery_blank] at text
  exact text

theorem deleteSecretsQuery_blank (ids : List Int) :
    deleteSecretsQuery (ids.map fun _ => 0) = (deleteSecretsQuery ids).blank := by
  simp [deleteSecretsQuery, Query.blank, Query.filter, Query.ofTemplate, Clause.blank_idIn]

theorem deleteLabelsQuery_blank (secretId : Int) (patterns : List String) :
    deleteLabelsQuery 0 (patterns.map fun _ => "") = (deleteLabelsQuery secretId patterns).blank := by
  simp [deleteLabelsQuery, Query.blank, Query.filter, Query.ofTemplate, Clause.blank_idIn,
    Clause.blank_globAny]

end Engine.Statement

theorem Param.texts_inj {values values' : List String} :
    values.map Param.text = values'.map Param.text ↔ values = values' :=
  List.map_inj_right fun _ _ => Param.text.inj

theorem Param.ints_inj {values values' : List Int} :
    values.map Param.int = values'.map Param.int ↔ values = values' :=
  List.map_inj_right fun _ _ => Param.int.inj

namespace Operation

/-- The texts of an operation are those of its blank. -/
theorem texts_blank (op : Operation) : op.blank.texts = op.texts := by
  cases op with
  | deleteSecrets ids =>
    have text : (Statement.deleteSecrets (ids.map fun _ => 0)).sql =
        (Statement.deleteSecrets ids).sql := by
      rw [Statement.deleteSecrets, Statement.deleteSecretsQuery_blank]
      exact Query.sql_blank _
    exact congrArg ([·]) text
  | deleteLabels secretId patterns =>
    have text : (Statement.deleteLabels 0 (patterns.map fun _ => "")).sql =
        (Statement.deleteLabels secretId patterns).sql := by
      rw [Statement.deleteLabels, Statement.deleteLabelsQuery_blank secretId]
      exact Query.sql_blank _
    exact congrArg ([·]) text
  | searchColumn column patterns =>
    have text := Statement.sql_search_blank [.globAny column patterns]
    simp only [List.map_cons, List.map_nil, Clause.blank_globAny] at text
    exact congrArg ([·]) text
  | searchIds ids =>
    have text := Statement.sql_search_blank [.idIn .secretId ids]
    simp only [List.map_cons, List.map_nil, Clause.blank_idIn] at text
    exact congrArg ([·]) text
  | searchLabelsAndName name labels =>
    have text := Statement.sql_search_blank [.globAny .label labels, .globAny .secretName [name]]
    simp only [List.map_cons, List.map_nil, Clause.blank_globAny] at text
    exact congrArg ([·]) text
  | _ => rfl

/-- Every statement of an operation has its data as its values, as they were given. -/
theorem params_of_statements {op : Operation} {sent : Sent} (among : sent ∈ op.statements) :
    sent.params = op.values := by
  cases op with
  | deleteSecrets ids =>
    obtain rfl := List.mem_singleton.1 among
    simp [Statement.sent, Statement.deleteSecrets, Statement.writingUnder,
      Statement.deleteSecretsQuery, Query.params, Query.filter, Query.ofTemplate, values]
  | deleteLabels secretId patterns =>
    obtain rfl := List.mem_singleton.1 among
    simp [Statement.sent, Statement.deleteLabels, Statement.writing, Statement.deleteLabelsQuery,
      Query.params, Query.filter, Query.ofTemplate, values]
  | searchColumn _ _ | searchIds _ | searchLabelsAndName _ _ =>
    obtain rfl := List.mem_singleton.1 among
    simp [Statement.sent, Statement.search, Statement.reading, Query.params,
      Query.clauses_searchQuery, values]
  | insertLabel name secretId =>
    rcases List.mem_cons.1 among with rfl | later
    · rfl
    · obtain rfl := List.mem_singleton.1 later
      rfl
  | _ =>
    obtain rfl := List.mem_singleton.1 among
    rfl

/-- An operation is its blank with its data. -/
theorem eq_of_blank {op op' : Operation} (same : op.blank = op'.blank)
    (values : op.values = op'.values) : op = op' := by
  cases op <;> cases op' <;> first | (cases same; done) | skip
  all_goals simp_all [blank, Operation.values, Param.texts_inj, Param.ints_inj]

end Operation

/-- What callers give never becomes text. A query has the same text whatever the values are that are
given for its filters, as long as these agree in kind, column and number of values; its values are
exactly those that are given, in their order; and the text and the values together tell all that was
given. All that a call sends has the texts of the same call with its data left blank, from the first
statement on, and exactly its data as values, and one that is accepted while its token is live sends
something; and the blank and the data together are the call. -/
theorem values_never_reach_text :
    (∀ (template : String) (order : Option String) (given given' : List Given),
      let q := Query.asked template given order
      let q' := Query.asked template given' order
      (given.map Given.blank = given'.map Given.blank → q.sql = q'.sql) ∧
        q.params = given.flatMap Given.values ∧
        (q.sql = q'.sql ∧ q.params = q'.params ↔
          given.filter Given.bears = given'.filter Given.bears)) ∧
    ∀ op : Operation,
      (∀ (schedule : Schedule) (token : Token) (c : Connection),
        (op.sent schedule token c).map Sent.sql <+: op.blank.texts ∧
          (op.refusal? = none → schedule.cancelled token c.clock = false →
            op.sent schedule token c ≠ []) ∧
          ∀ sent ∈ op.sent schedule token c, sent.params = op.values) ∧
      ∀ op' : Operation, op.blank = op'.blank ∧ op.values = op'.values ↔ op = op' := by
  refine ⟨fun template order given given' => ⟨fun alike => ?_, Query.params_asked,
    Query.asked_iff⟩, fun op => ⟨fun schedule token c =>
      ⟨?_, Operation.sent_ne_nil, fun sent member => ?_⟩,
    fun op' => ⟨fun same => Operation.eq_of_blank same.1 same.2, ?_⟩⟩⟩
  · rw [← Query.sql_blank, Query.blank_asked, alike, ← Query.blank_asked, Query.sql_blank]
  · rw [Operation.texts_blank]
    exact (op.sent_prefix schedule token c).map Sent.sql
  · exact Operation.params_of_statements ((op.sent_prefix schedule token c).subset member)
  · rintro rfl
    exact ⟨rfl, rfl⟩

/-- A pattern written to be read as a condition of its own, in a query and in a call that has its
statement sent. -/
theorem values_never_reach_text_hostile :
    let hostile := "x') OR 1=1; DROP TABLE secrets; --"
    let q (pattern : String) := Query.asked "SELECT 1 FROM labels l"
      [.patterns .label [pattern], .nothing, .ids .secretId [1, 2]] (some "l.id")
    let op := Operation.deleteLabels 7 [hostile, "a"]
    let sent := op.sent (fun _ => none) 0 (.opened .fresh)
    (q hostile).sql = (q "a").sql ∧ (q hostile).params = [.text hostile, .int 1, .int 2] ∧
      (q hostile).sql = "SELECT 1 FROM labels l\nWHERE (l.name GLOB ?) AND (s.id IN (?, ?))" ++
        "\nORDER BY l.id" ∧
      sent ≠ [] ∧ sent.map Sent.sql <+: (Operation.deleteLabels 0 ["", ""]).texts ∧
      ∀ s ∈ sent, s.params = [.int 7, .text hostile, .text "a"] := by
  intro hostile q op sent
  obtain ⟨queries, calls⟩ := values_never_reach_text
  obtain ⟨sameText, params, -⟩ := queries "SELECT 1 FROM labels l" (some "l.id")
    [.patterns .label [hostile], .nothing, .ids .secretId [1, 2]]
    [.patterns .label ["a"], .nothing, .ids .secretId [1, 2]]
  obtain ⟨runs, -⟩ := calls op
  obtain ⟨texts, sends, values⟩ := runs (fun _ => none) 0 (.opened .fresh)
  exact ⟨sameText rfl, params, by decide +kernel, sends rfl rfl, texts, values⟩

end SecretVault
