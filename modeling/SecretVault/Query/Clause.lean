import SecretVault.Text.Decimal

/-!
Conditions on the rows of a search. A condition names a column and the values that it is compared
with; its text holds one placeholder per value and never a value itself.

Source pin: `vlt::query`: `Column`, `Param`, `Clause`; `glob_or` is `globAny`, `id_in` is `idIn`.
-/
namespace SecretVault

/-- The columns of the secrets, `s`, and of the labels, `l`. -/
inductive Column where
  | label | secretName | secretId | labelSecretId
  deriving DecidableEq, Repr

def Column.sql : Column → String
  | .label => "l.name"
  | .secretName => "s.name"
  | .secretId => "s.id"
  | .labelSecretId => "l.secret_id"

/-- A value bound to a placeholder. -/
inductive Param where
  | text (value : String)
  | int (value : Int)
  deriving DecidableEq, Repr

/-- A condition that lists values has at least one; with no values it filters nothing. -/
inductive Clause where
  | unfiltered
  | glob (column : Column) (first : String) (others : List String)
  | among (column : Column) (first : Int) (others : List Int)
  deriving DecidableEq, Repr

namespace Clause

/-- Some pattern matches the column. -/
def globAny (column : Column) : List String → Clause
  | [] => .unfiltered
  | first :: others => .glob column first others

/-- The column is one of the ids. -/
def idIn (column : Column) : List Int → Clause
  | [] => .unfiltered
  | first :: others => .among column first others

def isUnfiltered : Clause → Bool
  | .unfiltered => true
  | .glob .. | .among .. => false

def params : Clause → List Param
  | .unfiltered => []
  | .glob _ first others => (first :: others).map .text
  | .among _ first others => (first :: others).map .int

/-- The condition as text, if it filters anything. -/
def predicate? : Clause → Option String
  | .unfiltered => none
  | .glob column first others =>
    some (" OR ".intercalate ((first :: others).map fun _ => column.sql ++ " GLOB ?"))
  | .among column first others =>
    some (column.sql ++ " IN (" ++ ", ".intercalate ((first :: others).map fun _ => "?") ++ ")")

/-- The condition as a filter of its own, empty if it filters nothing. -/
def whereText (clause : Clause) : String :=
  match clause.predicate? with
  | some predicate => "WHERE " ++ predicate
  | none => ""

/-- How deep the condition nests. A pattern test is three deep, with the qualified column below it,
and each further pattern adds a disjunction. -/
def depth : Clause → Nat
  | .unfiltered => 0
  | .glob _ _ others => others.length + 3
  | .among .. => 3

end Clause
end SecretVault
