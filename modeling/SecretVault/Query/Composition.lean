import SecretVault.Query.Clause
import SecretVault.Text.Blank

/-!
Queries: a fixed template, the conditions added to it, and an order. Conditions are put in
parentheses and joined by conjunction, and their values follow in the order of the placeholders.

Source pin: `vlt::query`: `Query`; `Query::new` is `ofTemplate`.
-/
namespace SecretVault

structure Query where
  template : String
  clauses : List Clause
  order : Option String
  deriving DecidableEq, Repr

namespace Query

def ofTemplate (template : String) : Query := ⟨template, [], none⟩

def filter (q : Query) (clause : Clause) : Query := { q with clauses := q.clauses ++ [clause] }

/-- Orders the rows; a later order replaces an earlier one. -/
def orderBy (q : Query) (order : String) : Query := { q with order := some order }

def params (q : Query) : List Param := q.clauses.flatMap Clause.params

/-- The texts of the conditions that filter anything, each in parentheses. -/
def conditions (q : Query) : List String :=
  (q.clauses.filterMap Clause.predicate?).map fun predicate => "(" ++ predicate ++ ")"

def filterText (q : Query) : String :=
  if q.conditions.isEmpty then "" else "\nWHERE " ++ " AND ".intercalate q.conditions

def orderText (q : Query) : String :=
  match q.order with
  | some order => "\nORDER BY " ++ order
  | none => ""

def sql (q : Query) : String := Text.trimEnd q.template ++ q.filterText ++ q.orderText

/-- How deep the conjunction of the conditions nests. -/
def depth (q : Query) : Nat :=
  match q.clauses.filter fun clause => !clause.isUnfiltered with
  | [] => 0
  | first :: others => others.foldl (fun depth clause => max depth clause.depth + 1) first.depth

end Query

/-- The deepest condition that a statement may have. -/
def maxDepth : Nat := 1000

/-- The greatest number of values that may be bound to a statement. -/
def maxParams : Nat := 32766

/-- The byte offset of the placeholder after the first `skipped` ones. -/
def placeholderOffset (skipped offset : Nat) : List Char → Nat
  | [] => offset
  | c :: rest =>
    if c = '?' then
      match skipped with
      | 0 => offset
      | skipped + 1 => placeholderOffset skipped (offset + 1) rest
    else placeholderOffset skipped (offset + c.utf8Size) rest

end SecretVault
