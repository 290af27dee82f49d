import SecretVault.Engine.Tables

/-!
Inserting a row given column by column on a connection that has been set up, with all checks in the
order in which they are made: the id, missing values, conditions, ids in use, other unique columns,
and last the reference from a label to its secret.

Source pin: constraints and affinities of SQLite 3.46 for the tables of `vlt::schema`.
-/
namespace SecretVault.Engine
open SecretVault.Text

/-- What may be given for a column. -/
inductive Value where
  | null
  | integer (n : Int)
  | cell (c : Cell)
  deriving DecidableEq, Repr, Inhabited

inductive Row where
  | masterKey (id key : Value)
  | secret (id name payload : Value)
  | label (id name secretId : Value)
  deriving DecidableEq, Repr

namespace Value

/-- What a text column holds of the value; an integer becomes its decimal text. -/
def toText? : Value → Option Cell
  | .null => none
  | .integer n => some (.text (String.ofList (Decimal.ofInt n)))
  | .cell c => some c

/-- White space that may surround a number. -/
def isNumberBlank (c : Char) : Bool := c == ' ' || ('\t' ≤ c && c ≤ '\r')

/-- Splits a run of digits, as values, from what follows it. -/
def splitDigits : List Char → List Nat × List Char
  | [] => ([], [])
  | c :: rest =>
    match Decimal.digit? c with
    | none => ([], c :: rest)
    | some d => (d :: (splitDigits rest).1, (splitDigits rest).2)

def digitsValue (digits : List Nat) : Nat := digits.foldl (fun value d => 10 * value + d) 0

/-- A sign, a minus being true, and what follows it. -/
def splitSign : List Char → Bool × List Char
  | '-' :: rest => (true, rest)
  | '+' :: rest => (false, rest)
  | cs => (false, cs)

/-- A decimal number: digits, how many of them stand after the point, and an exponent. -/
structure Numeral where
  negative : Bool
  digits : List Nat
  places : Nat
  exponent : Int

/-- Reads a whole text as a decimal number with an optional fraction and exponent. -/
def numeral? (cs : List Char) : Option Numeral :=
  let (negative, cs) := splitSign (cs.dropWhile isNumberBlank)
  let (whole, cs) := splitDigits cs
  let (fraction, cs) :=
    match cs with
    | '.' :: rest => splitDigits rest
    | cs => ([], cs)
  let exponent? : Option (Int × List Char) :=
    match cs with
    | mark :: rest =>
      if mark = 'e' ∨ mark = 'E' then
        let (down, rest) := splitSign rest
        let (digits, rest) := splitDigits rest
        if digits.isEmpty then none
        else
          let size := digitsValue digits
          some (if down then -(size : Int) else size, rest)
      else some (0, cs)
    | [] => some (0, [])
  match exponent? with
  | none => none
  | some (exponent, cs) =>
    if (whole ++ fraction).isEmpty || !(cs.all isNumberBlank) then none
    else some ⟨negative, whole ++ fraction, fraction.length, exponent⟩

/-- The value of a number that is whole. -/
def Numeral.whole? (n : Numeral) : Option Int :=
  let value := digitsValue n.digits
  let scale := n.exponent - n.places
  let size? : Option Nat :=
    if value = 0 then some 0
    else if 40 < scale ∨ scale < -(n.digits.length : Int) then none
    else if 0 ≤ scale then some (value * Nat.pow 10 scale.toNat)
    else if value % Nat.pow 10 (-scale).toNat = 0 then some (value / Nat.pow 10 (-scale).toNat)
    else none
  size?.map fun size => if n.negative then -(size : Int) else size

/-- The integer that the value stands for: text counts by the number that it spells, if that is
whole and in bounds. -/
def toInteger? : Value → Option Int
  | .integer n => some n
  | .cell (.text s) =>
    match (numeral? s.toList).bind Numeral.whole? with
    | some n => if leastId ≤ n ∧ n ≤ greatestId then some n else none
    | none => none
  | .null | .cell _ => none

end Value

namespace Tables

/-- The id given for a row, or the next one where none is given. -/
def idOrNext (given : Value) (next : Except Error Int) : Except Error Int :=
  match given with
  | .null => next
  | given =>
    match given.toInteger? with
    | some id => .ok id
    | none => .error .idType

def required (table column : String) (value : Option Cell) : Except Error Cell :=
  match value with
  | some cell => .ok cell
  | none => .error (.notNull table column)

/-- Inserts a row; answers its id. -/
def insertRow (t : Tables) : Row → Except Error (Int × Tables)
  | .masterKey id key => do
    let id ← idOrNext id (.ok 1)
    let key ← required "master_key" "key" key.toText?
    if id ≠ 0 then throw (.check "id = 0")
    if t.masterKey.isSome then throw (.sameId "master_key")
    return (id, { t with masterKey := some key })
  | .secret id name payload => do
    let id ← idOrNext id (nextId t.secrets t.secretCount)
    let name ← required "secrets" "name" name.toText?
    let payload ← required "secrets" "secret" payload.toText?
    if t.secrets.contains id then throw (.sameId "secrets")
    return (id, t.addSecret id ⟨name, payload⟩)
  | .label id name secretId => do
    let id ← idOrNext id (nextId t.labels t.labelCount)
    let name ← required "labels" "name" name.toText?
    if secretId = .null then throw (.notNull "labels" "secret_id")
    if t.labels.contains id then throw (.sameId "labels")
    match secretId.toInteger? with
    | none => throw .foreignKey
    | some secretId =>
      if (t.labelId? ⟨name, secretId⟩).isSome then
        throw (.unique ["labels.name", "labels.secret_id"])
      if !t.secrets.contains secretId then throw .foreignKey
      return (id, t.addLabel id ⟨name, secretId⟩)

end Tables
end SecretVault.Engine
