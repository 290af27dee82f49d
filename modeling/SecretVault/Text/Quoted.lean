import SecretVault.Text.Glyphless

/-!
Quoted text in messages: names between double quotes, with escapes for what would not show.

Source pin: the `Debug` form of strings.
-/
namespace SecretVault.Text

/-- What a quoted text escapes besides the quote, the backslash and glyphless characters. -/
structure QuoteStyle where
  escapesApostrophe : Bool
  deriving DecidableEq, Repr

/-- Program names leave an apostrophe alone. -/
def QuoteStyle.name : QuoteStyle := ⟨false⟩

/-- File paths escape an apostrophe too. -/
def QuoteStyle.path : QuoteStyle := ⟨true⟩

/-- A code point in lower-case hexadecimal between braces. -/
def codeEscape (c : Char) : List Char :=
  "\\u\x7b".toList ++ Nat.toDigits 16 c.toNat ++ "\x7d".toList

def QuoteStyle.escape (style : QuoteStyle) (c : Char) : List Char :=
  match c with
  | '\x00' => ['\\', '0']
  | '\t' => ['\\', 't']
  | '\n' => ['\\', 'n']
  | '\r' => ['\\', 'r']
  | '"' => ['\\', '"']
  | '\\' => ['\\', '\\']
  | c =>
    if c = '\'' then (if style.escapesApostrophe then ['\\', c] else [c])
    else if isGlyphless c then codeEscape c else [c]

/-- The text between double quotes. -/
def QuoteStyle.quote (style : QuoteStyle) (s : String) : String :=
  String.ofList ('"' :: s.toList.flatMap style.escape ++ ['"'])

end SecretVault.Text
