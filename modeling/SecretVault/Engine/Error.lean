import SecretVault.Engine.Cell

/-!
Errors of the storage engine: constraints, limits, transaction control, and values that cannot be
read as text. Each has a message; most also have a numbered cause.

Source pin: messages of SQLite 3.46, as `rusqlite` 0.32 hands them on.
-/
namespace SecretVault.Engine
open SecretVault.Text

inductive Error where
  | notNull (table column : String)
  | check (condition : String)
  | unique (columns : List String)
  | sameId (table : String)
  | foreignKey
  | idType
  | full
  | tooManyParams (sql : String) (offset : Nat)
  | tooDeep
  | patternTooLong
  | interrupted
  | noRows
  | notText (index : Nat) (column : String)
  | malformedText (index : Nat) (fault : Utf8.Malformed)
  | nestedTransaction
  | nothingToCommit
  | nothingToRollBack
  | cannotOpen (path : String)
  | notADatabase
  | nulInPath (position : Nat)
  deriving DecidableEq, Repr

namespace Error

def message : Error → String
  | .notNull table column => "NOT NULL constraint failed: " ++ table ++ "." ++ column
  | .check condition => "CHECK constraint failed: " ++ condition
  | .unique columns => "UNIQUE constraint failed: " ++ ", ".intercalate columns
  | .sameId table => "UNIQUE constraint failed: " ++ table ++ ".id"
  | .foreignKey => "FOREIGN KEY constraint failed"
  | .idType => "datatype mismatch"
  | .full => "database or disk is full"
  | .tooManyParams sql offset =>
    "too many SQL variables in " ++ sql ++ " at offset " ++ toString offset
  | .tooDeep => "Expression tree is too large (maximum depth 1000)"
  | .patternTooLong => "LIKE or GLOB pattern too complex"
  | .interrupted => "interrupted"
  | .noRows => "Query returned no rows"
  | .notText index column =>
    "Invalid column type Blob at index: " ++ toString index ++ ", name: " ++ column
  | .malformedText index fault =>
    "Conversion error from type Text at index: " ++ toString index ++ ", " ++ fault.message
  | .nestedTransaction => "cannot start a transaction within a transaction"
  | .nothingToCommit => "cannot commit - no transaction is active"
  | .nothingToRollBack => "cannot rollback - no transaction is active"
  | .cannotOpen path => "unable to open database file: " ++ path
  | .notADatabase => "file is not a database"
  | .nulInPath position => "nul byte found in provided data at position: " ++ toString position

/-- The cause that stands below the message. -/
def cause? : Error → Option String
  | .notNull .. => some "Error code 1299: A NOT NULL constraint failed"
  | .check _ => some "Error code 275: A CHECK constraint failed"
  | .unique _ => some "Error code 2067: A UNIQUE constraint failed"
  | .sameId _ => some "Error code 1555: A PRIMARY KEY constraint failed"
  | .foreignKey => some "Error code 787: Foreign key constraint failed"
  | .idType => some "Error code 20: Data type mismatch"
  | .full => some "Error code 13: Insertion failed because database is full"
  | .tooManyParams .. | .tooDeep | .patternTooLong | .nestedTransaction | .nothingToCommit
  | .nothingToRollBack => some "Error code 1: SQL error or missing database"
  | .interrupted => some "Error code 9: Operation terminated by sqlite3_interrupt()"
  | .noRows | .notText .. => none
  | .malformedText _ fault => some fault.message
  | .cannotOpen _ => some "Error code 14: Unable to open the database file"
  | .notADatabase => some "Error code 26: File opened that is not a database file"
  | .nulInPath position =>
    some ("nul byte found in provided data at position: " ++ toString position)

/-- Errors that end an open transaction and undo all of it; every other error undoes only its own
statement. -/
def endsTransaction : Error → Bool
  | .full | .interrupted => true
  | _ => false

end Error

/-- Reads a cell as a text. -/
def Cell.read (cell : Cell) (index : Nat) (column : String) : Except Error String :=
  match cell with
  | .text s => .ok s
  | .malformed bytes =>
    match Utf8.decode bytes with
    | .ok s => .ok s
    | .error fault => .error (.malformedText index fault)
  | .blob _ => .error (.notText index column)

end SecretVault.Engine
