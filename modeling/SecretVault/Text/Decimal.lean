/-!
Decimal text of integers: writing, and reading within bounds. A reader goes from left to right and
stops at the first character that is no digit or takes the value out of its bounds.
-/
namespace SecretVault.Text.Decimal

/-- The character of a digit below ten. -/
def digitChar (d : Nat) : Char := Char.ofNat (48 + d)

/-- Decimal digits, most significant first. -/
def digits (n : Nat) : List Char :=
  if n < 10 then [digitChar n] else digits (n / 10) ++ [digitChar (n % 10)]

/-- Decimal text with a minus sign below zero. -/
def ofInt (n : Int) : List Char :=
  if n < 0 then '-' :: digits n.natAbs else digits n.natAbs

/-- The value of a digit. -/
def digit? (c : Char) : Option Nat :=
  if '0' ≤ c ∧ c ≤ '9' then some (c.toNat - 48) else none

def splitDigits (cs : List Char) : List Char × List Char := cs.span fun c => (digit? c).isSome

/-- The number that digits give. -/
def digitsValue (cs : List Char) : Nat := cs.foldl (fun n c => 10 * n + (digit? c).getD 0) 0

theorem digit?_digitChar (d : Nat) (h : d < 10) : digit? (digitChar d) = some d := by
  match d, h with
  | 0, _ | 1, _ | 2, _ | 3, _ | 4, _ | 5, _ | 6, _ | 7, _ | 8, _ | 9, _ => rfl

inductive ReadError where
  | empty | invalidDigit | tooLarge | tooSmall
  deriving DecidableEq, Repr

def ReadError.message : ReadError → String
  | .empty => "cannot parse integer from empty string"
  | .invalidDigit => "invalid digit found in string"
  | .tooLarge => "number too large to fit in target type"
  | .tooSmall => "number too small to fit in target type"

/-- Continues a value that counts upwards, refusing to pass `greatest`. -/
def readUp (greatest : Int) (value : Int) : List Char → Except ReadError Int
  | [] => .ok value
  | c :: rest =>
    match digit? c with
    | none => .error .invalidDigit
    | some d =>
      if greatest < 10 * value + d then .error .tooLarge
      else readUp greatest (10 * value + d) rest

/-- Continues a value that counts downwards, refusing to pass `least`. -/
def readDown (least : Int) (value : Int) : List Char → Except ReadError Int
  | [] => .ok value
  | c :: rest =>
    match digit? c with
    | none => .error .invalidDigit
    | some d =>
      if 10 * value - d < least then .error .tooSmall
      else readDown least (10 * value - d) rest

/-- Reads an integer with an optional sign; a sign alone is no number. -/
def read (least greatest : Int) : List Char → Except ReadError Int
  | [] => .error .empty
  | ['+'] | ['-'] => .error .invalidDigit
  | '+' :: rest => readUp greatest 0 rest
  | '-' :: rest => readDown least 0 rest
  | cs => readUp greatest 0 cs

end SecretVault.Text.Decimal
