import SecretVault.Operation
import SecretVault.Proofs.Search.Selection

/-!
Limits of the engine: how deep a condition nests, how many values a statement binds, how long a
pattern is, and how far ids count. An operation whose arguments fit never meets one of them.
-/
namespace SecretVault
open SecretVault.Engine SecretVault.Glob

/-- Errors that say that a limit was met. -/
def Engine.Error.isLimit : Engine.Error → Bool
  | .full | .tooManyParams .. | .tooDeep | .patternTooLong => true
  | .notNull .. | .check _ | .unique _ | .sameId _ | .foreignKey | .idType | .interrupted | .noRows
  | .notText .. | .malformedText .. | .nestedTransaction | .nothingToCommit | .nothingToRollBack
  | .cannotOpen _ | .notADatabase | .nulInPath _ => false

/-- The answer is that a limit was met. -/
def LimitMet {α : Type} (answer : Except StoreError α) : Prop :=
  ∃ e : Engine.Error, e.isLimit = true ∧ answer = .error (.engine e)

theorem StoreError.ofEngine_of_isLimit {e : Engine.Error} (isLimit : e.isLimit = true) :
    ofEngine e = .engine e := by
  cases e with
  | interrupted => cases isLimit
  | _ => rfl

theorem limitMet_ofEngine {α : Type} {e : Engine.Error} (isLimit : e.isLimit = true) :
    LimitMet (.error (.ofEngine e) : Except StoreError α) :=
  ⟨e, isLimit, by rw [StoreError.ofEngine_of_isLimit isLimit]⟩

theorem not_limitMet_ok {α : Type} (a : α) : ¬ LimitMet (.ok a : Except StoreError α) := by
  intro limit
  obtain ⟨e, -, equal⟩ := limit
  cases equal

theorem not_limitMet_notFound {α : Type} (entity : Entity) :
    ¬ LimitMet (.error (.notFound entity) : Except StoreError α) := by
  intro limit
  obtain ⟨e, -, equal⟩ := limit
  cases equal

theorem not_limitMet_precondition {α : Type} (p : Precondition) :
    ¬ LimitMet (.error (.precondition p) : Except StoreError α) := by
  intro limit
  obtain ⟨e, -, equal⟩ := limit
  cases equal

theorem not_limitMet_engine {α : Type} {e : Engine.Error} (other : e.isLimit = false) :
    ¬ LimitMet (.error (.engine e) : Except StoreError α) := by
  intro limit
  obtain ⟨cause, isLimit, equal⟩ := limit
  cases equal
  cases other.symm.trans isLimit

instance {α : Type} : (answer : Except StoreError α) → Decidable (LimitMet answer)
  | .ok a => isFalse (not_limitMet_ok a)
  | .error (.engine e) =>
    if isLimit : e.isLimit = true then isTrue ⟨e, isLimit, rfl⟩
    else isFalse (not_limitMet_engine (Bool.eq_false_iff.2 isLimit))
  | .error (.notFound entity) => isFalse (not_limitMet_notFound entity)
  | .error (.precondition p) => isFalse (not_limitMet_precondition p)
  | .error .cancelled | .error (.files _) => isFalse fun ⟨_, _, equal⟩ => nomatch equal

/-- There is an id after all those that a table has counted or holds. -/
def HasNextId {α : Type} (rows : IdMap α) (count : Int) : Prop :=
  max count (rows.lastKey?.getD 0) < greatestId

/-- The arguments of an operation are within all limits. -/
def Operation.Fits (t : Tables) : Operation → Prop
  | .insertSecret .. => HasNextId t.secrets t.secretCount
  | .insertLabel .. => HasNextId t.labels t.labelCount
  | .deleteSecrets ids | .searchIds ids => ids.length ≤ maxParams
  | .deleteLabels _ patterns | .searchColumn _ patterns =>
    patterns.length + 3 ≤ maxDepth ∧ ∀ pattern ∈ patterns, tooLong pattern = false
  | .searchLabelsAndName name labels =>
    labels.length + 4 ≤ maxDepth ∧ ∀ pattern ∈ name :: labels, tooLong pattern = false
  | .insertMasterKey _ | .queryMasterKey | .upsertSecret .. | .readPayload _
  | .renameSecret .. => True

instance {α : Type} (rows : IdMap α) (count : Int) : Decidable (HasNextId rows count) :=
  inferInstanceAs (Decidable (max count (rows.lastKey?.getD 0) < greatestId))

instance (t : Tables) : (op : Operation) → Decidable (op.Fits t)
  | .insertSecret .. => inferInstanceAs (Decidable (HasNextId t.secrets t.secretCount))
  | .insertLabel .. => inferInstanceAs (Decidable (HasNextId t.labels t.labelCount))
  | .deleteSecrets ids | .searchIds ids => inferInstanceAs (Decidable (ids.length ≤ maxParams))
  | .deleteLabels _ patterns | .searchColumn _ patterns =>
    inferInstanceAs (Decidable
      (patterns.length + 3 ≤ maxDepth ∧ ∀ pattern ∈ patterns, tooLong pattern = false))
  | .searchLabelsAndName name labels =>
    inferInstanceAs (Decidable
      (labels.length + 4 ≤ maxDepth ∧ ∀ pattern ∈ name :: labels, tooLong pattern = false))
  | .insertMasterKey _ | .queryMasterKey | .upsertSecret .. | .readPayload _
  | .renameSecret .. => inferInstanceAs (Decidable True)

/-- An operation answers what is expected of it unless it meets a limit, and meets none if its
arguments fit. -/
def Operation.Answers (op : Operation) (t : Tables) (answer : Except StoreError op.Answer)
    (expected : op.Answer) : Prop :=
  (¬ LimitMet answer → answer = .ok expected) ∧ (op.Fits t → ¬ LimitMet answer)

theorem Operation.answers_of {op : Operation} {t : Tables} {answer : Except StoreError op.Answer}
    {expected : op.Answer} (answered : answer = .ok expected ∨ LimitMet answer)
    (fitting : op.Fits t → answer = .ok expected) : op.Answers t answer expected := by
  refine ⟨answered.resolve_right, fun fits limit => ?_⟩
  obtain ⟨e, -, met⟩ := limit
  rw [fitting fits] at met
  cases met

namespace Query

theorem foldl_filter (clauses : List Clause) (q : Query) :
    clauses.foldl Query.filter q = { q with clauses := q.clauses ++ clauses } := by
  induction clauses generalizing q with
  | nil => simp
  | cons clause rest ih => rw [List.foldl_cons, ih]; simp [Query.filter]

theorem clauses_foldl_filter (clauses : List Clause) (q : Query) :
    (clauses.foldl Query.filter q).clauses = q.clauses ++ clauses := by
  rw [foldl_filter]

theorem clauses_searchQuery (clauses : List Clause) :
    (Statement.searchQuery clauses).clauses = clauses := by
  simp [Statement.searchQuery, Query.orderBy, clauses_foldl_filter, Query.ofTemplate]

end Query

namespace Clause

theorem length_params_globAny (column : Column) (patterns : List String) :
    (globAny column patterns).params.length = patterns.length := by
  cases patterns <;> simp [globAny, params]

theorem length_params_idIn (column : Column) (ids : List Int) :
    (idIn column ids).params.length = ids.length := by
  cases ids <;> simp [idIn, params]

theorem patterns_globAny (column : Column) (tried : List String) :
    (globAny column tried).patterns = tried := by
  cases tried <;> rfl

theorem patterns_idIn (column : Column) (ids : List Int) : (idIn column ids).patterns = [] := by
  cases ids <;> rfl

end Clause

namespace Engine.Statement

theorem change_search (clauses : List Clause) (t : Tables) :
    (search clauses).change t = (withinLimits (searchQuery clauses) true >>= fun _ =>
      Engine.search t clauses).map fun found => (found, t) := rfl

theorem change_deleteSecrets (ids : List Int) (t : Tables) :
    (deleteSecrets ids).change t =
      (withinLimits (deleteSecretsQuery ids) false >>= fun _ => .ok (t.deleteSecrets ids)) := rfl

theorem change_deleteLabels (id : Int) (patterns : List String) (t : Tables) :
    (deleteLabels id patterns).change t =
      (withinLimits (deleteLabelsQuery id patterns) false >>=
        fun _ => matchingLabels t id (.globAny .label patterns) >>= fun selected =>
          .ok (t.deleteLabels fun labelId _ => (selected.map (·.1)).contains labelId)) := rfl

theorem withinLimits_of_le {q : Query} {joins : Bool}
    (depth : q.depth + (if joins then 1 else 0) ≤ maxDepth)
    (values : q.params.length ≤ maxParams) : withinLimits q joins = .ok () := by
  rw [withinLimits, if_neg (Nat.not_lt.2 depth), if_neg (Nat.not_lt.2 values)]

/-- The message has the whole statement, and the place of the first value that cannot be bound. -/
theorem withinLimits_of_lt {q : Query} {joins : Bool}
    (depth : q.depth + (if joins then 1 else 0) ≤ maxDepth) (values : maxParams < q.params.length) :
    withinLimits q joins =
      .error (.tooManyParams q.sql (placeholderOffset maxParams 0 q.sql.toList)) := by
  rw [withinLimits, if_neg (Nat.not_lt.2 depth), if_pos values]

/-- Only limits refuse a query, and such a refusal leaves a transaction open. -/
theorem isLimit_of_withinLimits {q : Query} {joins : Bool} {e : Error}
    (refused : withinLimits q joins = .error e) :
    e.isLimit = true ∧ e.endsTransaction = false := by
  unfold withinLimits at refused
  by_cases deep : maxDepth < q.depth + (if joins then 1 else 0)
  · rw [if_pos deep] at refused
    cases refused
    exact ⟨rfl, rfl⟩
  · rw [if_neg deep] at refused
    by_cases many : maxParams < q.params.length
    · rw [if_pos many] at refused
      cases refused
      exact ⟨rfl, rfl⟩
    · rw [if_neg many] at refused
      cases refused

private theorem params_le {q : Query} {clauses : List Clause} (equal : q.clauses = clauses)
    (values : (clauses.flatMap Clause.params).length ≤ maxParams) :
    q.params.length ≤ maxParams := by
  rwa [Query.params, equal]

theorem withinLimits_searchColumn {column : Column} {patterns : List String}
    (fits : patterns.length + 3 ≤ maxDepth) :
    withinLimits (searchQuery [.globAny column patterns]) true = .ok () := by
  refine withinLimits_of_le ?_ (params_le (Query.clauses_searchQuery _) ?_)
  · rw [Query.depth, Query.clauses_searchQuery]
    cases patterns with
    | nil => simp [Clause.globAny, Clause.isUnfiltered, maxDepth]
    | cons first others =>
      simp only [List.length_cons] at fits
      simp [Clause.globAny, Clause.isUnfiltered, Clause.depth]
      omega
  · simp only [List.flatMap_cons, List.flatMap_nil, List.length_append, List.length_nil,
      Clause.length_params_globAny]
    simp only [maxDepth, maxParams] at fits ⊢
    omega

theorem depth_searchIds (ids : List Int) :
    (searchQuery [.idIn .secretId ids]).depth + 1 ≤ maxDepth := by
  rw [Query.depth, Query.clauses_searchQuery]
  cases ids with
  | nil => simp [Clause.idIn, Clause.isUnfiltered, maxDepth]
  | cons first others => simp [Clause.idIn, Clause.isUnfiltered, Clause.depth, maxDepth]

theorem length_params_searchIds (ids : List Int) :
    (searchQuery [.idIn .secretId ids]).params.length = ids.length := by
  rw [Query.params, Query.clauses_searchQuery]
  simp [Clause.length_params_idIn]

theorem withinLimits_searchIds {ids : List Int} (fits : ids.length ≤ maxParams) :
    withinLimits (searchQuery [.idIn .secretId ids]) true = .ok () :=
  withinLimits_of_le (depth_searchIds ids) (by rwa [length_params_searchIds])

/-- How a search by more ids than a statement binds is refused. -/
def tooManyIds (ids : List Int) : Error :=
  let q := searchQuery [.idIn .secretId ids]
  .tooManyParams q.sql (placeholderOffset maxParams 0 q.sql.toList)

theorem withinLimits_searchIds_of_lt {ids : List Int} (exceeds : maxParams < ids.length) :
    withinLimits (searchQuery [.idIn .secretId ids]) true = .error (tooManyIds ids) :=
  withinLimits_of_lt (depth_searchIds ids) (by rwa [length_params_searchIds])

theorem withinLimits_searchLabelsAndName {name : String} {labels : List String}
    (fits : labels.length + 4 ≤ maxDepth) :
    withinLimits (searchQuery [.globAny .label labels, .globAny .secretName [name]]) true =
      .ok () := by
  refine withinLimits_of_le ?_ (params_le (Query.clauses_searchQuery _) ?_)
  · rw [Query.depth, Query.clauses_searchQuery]
    cases labels with
    | nil => simp [Clause.globAny, Clause.isUnfiltered, Clause.depth, maxDepth]
    | cons first others =>
      simp only [List.length_cons] at fits
      simp [Clause.globAny, Clause.isUnfiltered, Clause.depth]
      omega
  · simp only [List.flatMap_cons, List.flatMap_nil, List.length_append, List.length_nil,
      Clause.length_params_globAny, List.length_singleton]
    simp only [maxDepth, maxParams] at fits ⊢
    omega

/-- The engine accepts a search with these conditions and can try each of their patterns. -/
def Accepts (clauses : List Clause) : Prop :=
  withinLimits (searchQuery clauses) true = .ok () ∧ ¬ Clause.AnyLongPattern clauses

theorem accepts_searchColumn {t : Tables} {column : Column} {patterns : List String}
    (fits : (Operation.searchColumn column patterns).Fits t) :
    Accepts [.globAny column patterns] := by
  refine ⟨withinLimits_searchColumn fits.1, ?_⟩
  intro anyLong
  obtain ⟨clause, member, pattern, tried, long⟩ := anyLong
  rw [List.mem_singleton.1 member, Clause.patterns_globAny] at tried
  rw [fits.2 pattern tried] at long
  cases long

theorem accepts_searchIds {t : Tables} {ids : List Int} (fits : (Operation.searchIds ids).Fits t) :
    Accepts [.idIn .secretId ids] := by
  refine ⟨withinLimits_searchIds fits, ?_⟩
  intro anyLong
  obtain ⟨clause, member, pattern, tried, -⟩ := anyLong
  rw [List.mem_singleton.1 member, Clause.patterns_idIn] at tried
  cases tried

theorem accepts_searchLabelsAndName {t : Tables} {name : String} {labels : List String}
    (fits : (Operation.searchLabelsAndName name labels).Fits t) :
    Accepts [.globAny .label labels, .globAny .secretName [name]] := by
  refine ⟨withinLimits_searchLabelsAndName fits.1, ?_⟩
  intro anyLong
  obtain ⟨clause, member, pattern, tried, long⟩ := anyLong
  have among : pattern ∈ name :: labels := by
    rcases List.mem_cons.1 member with rfl | member
    · rw [Clause.patterns_globAny] at tried
      exact List.mem_cons_of_mem _ tried
    · rw [List.mem_singleton.1 member, Clause.patterns_globAny] at tried
      rw [List.mem_singleton.1 tried]
      exact List.mem_cons_self
  rw [fits.2 pattern among] at long
  cases long

theorem clauses_deleteSecretsQuery (ids : List Int) :
    (deleteSecretsQuery ids).clauses = [.idIn .secretId ids] := rfl

theorem clauses_deleteLabelsQuery (secretId : Int) (patterns : List String) :
    (deleteLabelsQuery secretId patterns).clauses =
      [.idIn .labelSecretId [secretId], .globAny .label patterns] := rfl

theorem withinLimits_deleteSecrets {ids : List Int} (fits : ids.length ≤ maxParams) :
    withinLimits (deleteSecretsQuery ids) false = .ok () := by
  refine withinLimits_of_le ?_ (params_le (clauses_deleteSecretsQuery ids) ?_)
  · rw [Query.depth, clauses_deleteSecretsQuery]
    cases ids with
    | nil => simp [Clause.idIn, Clause.isUnfiltered]
    | cons first others => simp [Clause.idIn, Clause.isUnfiltered, Clause.depth, maxDepth]
  · simpa [Clause.length_params_idIn] using fits

theorem withinLimits_deleteLabels {secretId : Int} {patterns : List String}
    (fits : patterns.length + 3 ≤ maxDepth) :
    withinLimits (deleteLabelsQuery secretId patterns) false = .ok () := by
  refine withinLimits_of_le ?_ (params_le (clauses_deleteLabelsQuery secretId patterns) ?_)
  · rw [Query.depth, clauses_deleteLabelsQuery]
    cases patterns with
    | nil => simp [Clause.idIn, Clause.globAny, Clause.isUnfiltered, Clause.depth, maxDepth]
    | cons first others =>
      simp only [List.length_cons] at fits
      simp [Clause.idIn, Clause.globAny, Clause.isUnfiltered, Clause.depth]
      omega
  · simp only [List.flatMap_cons, List.flatMap_nil, List.length_append, List.length_nil,
      Clause.length_params_globAny, Clause.length_params_idIn, List.length_singleton]
    simp only [maxDepth, maxParams] at fits ⊢
    omega

end Engine.Statement
end SecretVault
