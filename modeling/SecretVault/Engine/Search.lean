import SecretVault.Labeled
import SecretVault.Glob.Match
import SecretVault.Query.Composition
import SecretVault.Engine.Row

/-!
Searching secrets joined with their labels. The order of the tests shows in which error is met
first. Where every pattern on a column begins with literal text, the search visits only the parts of
the ordered index that begin with these texts; otherwise it visits every secret and its labels in the
order of their ids, and reads each row as soon as it is selected.

Source pin: `vlt::store`: `secrets_join_labels`; the query plan of SQLite 3.46 (`isLikeOrGlob` and
the OR optimization of its planner).
-/
namespace SecretVault.Engine
open SecretVault.Glob SecretVault.Text

/-- A secret with one of its labels. -/
structure JoinedRow where
  secretId : Int
  secret : StoredSecret
  labelId : Int
  label : StoredLabel
  deriving DecidableEq, Repr

/-- What patterns see of a column: a cell, or the decimal text of an id. -/
def JoinedRow.cell (row : JoinedRow) : Column → Cell
  | .label => row.label.name
  | .secretName => row.secret.name
  | .secretId => .text (String.ofList (Decimal.ofInt row.secretId))
  | .labelSecretId => .text (String.ofList (Decimal.ofInt row.label.secretId))

end SecretVault.Engine

namespace SecretVault
open SecretVault.Engine SecretVault.Glob SecretVault.Text

/-- Whether a column belongs to the secret and not to the label. -/
def Column.onSecret : Column → Bool
  | .secretName | .secretId => true
  | .label | .labelSecretId => false

def Column.holdsText : Column → Bool
  | .label | .secretName => true
  | .secretId | .labelSecretId => false

namespace Clause

def column? : Clause → Option Column
  | .unfiltered => none
  | .glob column .. | .among column .. => some column

def onSecret (clause : Clause) : Bool := clause.column?.any Column.onSecret

/-- Tests patterns from left to right up to the first that matches. -/
def testPatterns (value : List Code) : List String → Except Engine.Error Bool
  | [] => .ok false
  | pattern :: others =>
    if tooLong pattern then .error .patternTooLong
    else if matchesCodes pattern value then .ok true
    else testPatterns value others

def test (row : JoinedRow) : Clause → Except Engine.Error Bool
  | .unfiltered => .ok true
  | .glob column first others => testPatterns (row.cell column).codes (first :: others)
  | .among column first others =>
    .ok ((first :: others).any fun id =>
      row.cell column == .text (String.ofList (Decimal.ofInt id)))

/-- Whether a pattern on this column narrows the search to a part of an index. On an id column the
part must not border on a number. -/
def narrows (column : Column) (pattern : String) : Bool :=
  let start := literalText pattern
  !start.isEmpty &&
    (column.holdsText ||
      (start != ['-'] && (Value.numeral? start).isNone &&
        (Value.numeral? (successor start)).isNone))

/-- Whether the parts of an index are still cheaper to visit than the whole table. The costs are summed
up with rounding: of eight parts the first two decide, which cost more if they are not tested. -/
def partsWorthwhile (column : Column) (patterns : List String) : Bool :=
  match column with
  | .secretName | .secretId =>
    patterns.length ≤ if (patterns.take 2).any endsInRun then 7 else 8
  | .label | .labelSecretId => true

def usesIndex : Clause → Bool
  | .glob column first others =>
    (first :: others).all (narrows column) && partsWorthwhile column (first :: others)
  | .unfiltered | .among .. => false

/-- Whether a row lies in the part of an index that belongs to a pattern: its column begins with the
bytes of the literal text. By id none does, since every number sorts before every text. -/
def visits (row : JoinedRow) (column : Column) (pattern : String) : Bool :=
  column.holdsText &&
    (Utf8.encode (String.ofList (literalText pattern))).isPrefixOf (row.cell column).bytes

/-- Tests a row in the part of the index that belongs to a pattern. Where only a run follows the
literal text, lying there counts as a match. -/
def testPart (row : JoinedRow) (column : Column) (pattern : String) : Except Engine.Error Bool :=
  if !visits row column pattern then .ok false
  else if endsInRun pattern then .ok true
  else testPatterns (row.cell column).codes [pattern]

/-- Tests a row in the parts of all patterns, also where an earlier one has found it. -/
def testParts (row : JoinedRow) (column : Column) : List String → Except Engine.Error Bool
  | [] => .ok false
  | pattern :: others => do
    let here ← testPart row column pattern
    let elsewhere ← testParts row column others
    return here || elsewhere

/-- Looks for a row in the parts of several patterns. Two patterns with the same literal text have
one part between them, which is visited without a test and leaves out plain bytes. -/
def findInParts (row : JoinedRow) (column : Column) (first : String) (others : List String) :
    Except Engine.Error Bool :=
  if others.map literalText = [literalText first] then
    .ok (visits row column first && !(row.cell column).isBlob)
  else testParts row column (first :: others)

/-- Tests a row by the condition that guides the search. What the part of a single pattern yields is
taken as it is; what several parts yield is tested by the whole condition again. -/
def testGuiding (row : JoinedRow) : Clause → Except Engine.Error Bool
  | .glob column first [] => testPart row column first
  | .glob column first others => do
    if ← findInParts row column first others then
      testPatterns (row.cell column).codes (first :: others)
    else return false
  | clause => clause.test row

/-- Tests a row by a condition of a search, which another one may guide. -/
def testUnder (guide : Option Clause) (row : JoinedRow) (clause : Clause) :
    Except Engine.Error Bool :=
  if guide = some clause then clause.testGuiding row else clause.test row

/-- Tests conditions from left to right up to the first that fails. -/
def testAll (guide : Option Clause) (row : JoinedRow) : List Clause → Except Engine.Error Bool
  | [] => .ok true
  | clause :: others =>
    match clause.testUnder guide row with
    | .ok true => testAll guide row others
    | result => result

end Clause

namespace Engine

/-- The condition whose index guides the search. Of two, the one with many parts yields. -/
def guide? (clauses : List Clause) : Option Clause :=
  match clauses.filter Clause.usesIndex with
  | [] => none
  | [clause] => some clause
  | first :: second :: _ => some (if first.params.length ≤ 3 then first else second)

/-- The rows of one secret, in the order of the label ids. -/
def joinedRows (t : Tables) (id : Int) (secret : StoredSecret) : List JoinedRow :=
  (t.labels.entries.filter fun entry => entry.2.secretId == id).map fun entry =>
    ⟨id, secret, entry.1, entry.2⟩

/-- A row with a label that does not matter, to test conditions on a secret alone. -/
def secretRow (id : Int) (secret : StoredSecret) : JoinedRow := ⟨id, secret, 0, ⟨.text "", id⟩⟩

/-- The selected rows, and the errors of tests among them. -/
def selectRows (test : JoinedRow → Except Error Bool) (rows : List JoinedRow) :
    List (Except Error JoinedRow) :=
  rows.filterMap fun row =>
    match test row with
    | .ok true => some (.ok row)
    | .ok false => none
    | .error e => some (.error e)

/-- Visits one secret: where conditions on the secret come first, they are tested once for it, also
if it has no label. -/
def visitSecret (t : Tables) (clauses : List Clause) (id : Int) (secret : StoredSecret) :
    List (Except Error JoinedRow) :=
  let guide := guide? clauses
  let onSecret := clauses.filter Clause.onSecret
  let onLabel := clauses.filter fun clause => !clause.onSecret
  let rows := joinedRows t id secret
  if guide.any fun clause => !clause.onSecret then
    selectRows (Clause.testAll guide · (onLabel ++ onSecret)) rows
  else
    match Clause.testAll guide (secretRow id secret) onSecret with
    | .error e => [.error e]
    | .ok false => []
    | .ok true => selectRows (Clause.testAll guide · onLabel) rows

/-- All rows that a search selects, by secret id and label id, with the errors that it meets. -/
def select (t : Tables) (clauses : List Clause) : List (Except Error JoinedRow) :=
  t.secrets.entries.flatMap fun entry => visitSecret t clauses entry.1 entry.2

/-- Reads a selected row, the secret's name before the label. -/
def JoinedRow.read (row : JoinedRow) : Except Error LabelRow := do
  let name ← row.secret.name.read 1 "name"
  let label ← row.label.name.read 2 "name"
  return ⟨row.secretId, name, label⟩

/-- The first error in a list, or all its values. -/
def sequence {α : Type} : List (Except Error α) → Except Error (List α)
  | results => results.mapM id

/-- Reads the selected rows. Rows found through an index are sorted before the first is read, so
that an error of any test comes first. -/
def searchRows (t : Tables) (clauses : List Clause) : Except Error (List LabelRow) :=
  if (guide? clauses).isSome then do
    let rows ← sequence (select t clauses)
    sequence (rows.map JoinedRow.read)
  else sequence ((select t clauses).map fun row => row >>= JoinedRow.read)

def search (t : Tables) (clauses : List Clause) : Except Error LabeledSecrets :=
  (searchRows t clauses).map LabeledSecrets.gather

/-- Selects the labels of a secret that some pattern matches. -/
def matchingLabels (t : Tables) (secretId : Int) (clause : Clause) :
    Except Error (List (Int × StoredLabel)) := do
  let secret := (t.secrets.get? secretId).getD default
  let rows ← sequence (selectRows (clause.test ·) (joinedRows t secretId secret))
  return rows.map fun row => (row.labelId, row.label)

end Engine
end SecretVault
