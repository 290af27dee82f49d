import SecretVault.Text.Decimal
import SecretVault.Text.Magnitude
import SecretVault.Text.Radix

/-!
Plain scalars that stand for something other than text: null, the truth values and numbers. A text
that reads as one of them has to be quoted.

Source pin: `serde_yaml` 0.9: its reading of plain scalars.
-/
namespace SecretVault.Yaml
open SecretVault.Text

def isNull (text : List Char) : Bool :=
  text == "null".toList || text == "Null".toList || text == "NULL".toList || text == "~".toList

def isBoolean (text : List Char) : Bool :=
  ["true", "True", "TRUE", "false", "False", "FALSE"].any (text == ·.toList)

/-- The text after a sign, if it has one of the given signs. -/
def dropSign (signs : List Char) : List Char → List Char
  | c :: rest => if signs.contains c then rest else c :: rest
  | [] => []

/-- Whether a text is an integer of 128 bits to base 16, 8 or 2, after a mark for the base. -/
def isMarkedInteger (text : List Char) : Bool :=
  let limit := if text.head? == some '-' then Nat.pow 2 127 else Nat.pow 2 128 - 1
  let within (base : Nat) (digits : List Char) := (Radix.read? base digits).any (· ≤ limit)
  match dropSign ['+', '-'] text with
  | '0' :: 'x' :: digits => within 16 digits
  | '0' :: 'o' :: digits => within 8 digits
  | '0' :: 'b' :: digits => within 2 digits
  | _ => false

/-- A decimal number without its sign: its digits, and the power of ten of the last of them. -/
def decimal? (text : List Char) : Option (Nat × Int) := do
  let (whole, rest) := Decimal.splitDigits text
  let (fraction, rest) :=
    if rest.head? = some '.' then Decimal.splitDigits rest.tail else ([], rest)
  if whole.isEmpty && fraction.isEmpty then none
  let digits := Decimal.digitsValue (whole ++ fraction)
  match rest with
  | [] => return (digits, -(fraction.length : Int))
  | mark :: rest =>
    let (exponent, after) := Decimal.splitDigits (dropSign ['+', '-'] rest)
    if (mark ≠ 'e' ∧ mark ≠ 'E') ∨ exponent.isEmpty ∨ !after.isEmpty then none
    let size : Int := Decimal.digitsValue exponent
    return (digits, (if rest.head? = some '-' then -size else size) - fraction.length)

/-- Whether a text is a decimal number that 64-bit floating point can hold. -/
def isDecimal (text : List Char) : Bool :=
  (decimal? (dropSign ['+', '-'] text)).any fun (digits, exponent) =>
    !Magnitude.isTooLarge digits exponent

/-- Whether a text is a zero and further digits; such a text is no number but looks like one. -/
def hasLeadingZero (text : List Char) : Bool :=
  match dropSign ['+', '-'] text with
  | '0' :: digit :: rest => (digit :: rest).all fun c => (Decimal.digit? c).isSome
  | _ => false

/-- Infinity with or without a sign, and what is not a number, which has none. -/
def isSpecialNumber (text : List Char) : Bool :=
  [".inf", ".Inf", ".INF"].any (dropSign ['+', '-'] text == ·.toList) ||
    [".nan", ".NaN", ".NAN"].any (text == ·.toList)

/-- Whether a text would be taken for something else if it were not quoted. -/
def needsQuotes (text : List Char) : Bool :=
  text.isEmpty || isNull text || isBoolean text || isMarkedInteger text || isDecimal text ||
    hasLeadingZero text || isSpecialNumber text

end SecretVault.Yaml
