import SecretVault.Glob.Pattern
import SecretVault.Text.Utf8
import SecretVault.Text.Decimal

/-!
Contents of a text column. Besides text, a column may hold text whose bytes are malformed and
plain bytes; neither can be read as a text, but patterns still see codes in them.

Source pin: values of SQLite 3.46 under `TEXT` affinity; codes as its `patternCompare` reads them.
-/
namespace SecretVault.Engine
open SecretVault.Text SecretVault.Glob

inductive Cell where
  | text (s : String)
  | malformed (bytes : Utf8.Bytes)
  | blob (bytes : Utf8.Bytes)
  deriving DecidableEq, Repr, Inhabited

namespace Cell

/-- Text given by its bytes. -/
def ofTextBytes (bytes : Utf8.Bytes) : Cell :=
  match Utf8.decode bytes with
  | .ok s => .text s
  | .error _ => .malformed bytes

def bytes : Cell → Utf8.Bytes
  | .text s => Utf8.encode s
  | .malformed bytes => bytes
  | .blob bytes => bytes

def isBlob : Cell → Bool
  | .text _ | .malformed _ => false
  | .blob _ => true

end Cell

/-- The code that a first byte begins. -/
def leadCode (b : Nat) : Code :=
  if b < 0xE0 then b - 0xC0
  else if b < 0xF0 then b - 0xE0
  else if b < 0xF8 then b - 0xF0
  else if b < 0xFC then b - 0xF8
  else if b = 0xFD then 1
  else 0

/-- A code read from several bytes; overlong forms and surrogates count as the replacement
character. -/
def wideCode (code : Code) : Code :=
  if code < 0x80 ∨ (0xD800 ≤ code ∧ code ≤ 0xDFFF) then 0xFFFD else normalCode code

/-- The codes of arbitrary bytes up to the first NUL. A byte from 0xC0 takes all continuation bytes
after it, however many; one that stands alone counts as itself. -/
def looseCodes (unfinished : Option Code) : Utf8.Bytes → List Code
  | [] => unfinished.toList.map wideCode
  | b :: rest =>
    match unfinished with
    | some code =>
      if 0x80 ≤ b.toNat ∧ b.toNat < 0xC0 then
        looseCodes (some ((code * 64 + b.toNat % 64) % 0x100000000)) rest
      else if b = 0 then [wideCode code]
      else if b.toNat < 0xC0 then wideCode code :: b.toNat :: looseCodes none rest
      else wideCode code :: looseCodes (some (leadCode b.toNat)) rest
    | none =>
      if b = 0 then []
      else if b.toNat < 0xC0 then b.toNat :: looseCodes none rest
      else looseCodes (some (leadCode b.toNat)) rest

/-- What a pattern sees of a cell. -/
def Cell.codes : Cell → List Code
  | .text s => Glob.codes s
  | .malformed bytes | .blob bytes => looseCodes none bytes

end SecretVault.Engine
