import SecretVault.Labeled

/-!
Search results as JSON text, on one line or laid out over several. Ids are keys in decimal, and a
secret has its name before its labels. Text escapes only the quote, the backslash and controls.

Source pin: `print_secrets` of the program, through `serde_json` 1.
-/
namespace SecretVault.Json
open SecretVault.Text

/-- The last four bits as a lower-case hexadecimal digit. -/
def hexDigit (n : Nat) : Char := Nat.digitChar (n % 16)

def escape (c : Char) : List Char :=
  match c with
  | '"' => ['\\', '"']
  | '\\' => ['\\', '\\']
  | '\x08' => ['\\', 'b']
  | '\x0c' => ['\\', 'f']
  | '\n' => ['\\', 'n']
  | '\r' => ['\\', 'r']
  | '\t' => ['\\', 't']
  | c =>
    if c.toNat < 0x20 then ['\\', 'u', '0', '0', hexDigit (c.toNat / 16), hexDigit c.toNat] else [c]

def quote (cs : List Char) : List Char := '"' :: cs.flatMap escape ++ ['"']

/-- What stands before each member at a depth and before the closing bracket, and between a key and
its value. -/
structure Layout where
  lineBreak : Nat → List Char
  colon : List Char

def Layout.compact : Layout := ⟨fun _ => [], [':']⟩

/-- Members on lines of their own, indented by two spaces a level. -/
def Layout.pretty : Layout := ⟨fun depth => '\n' :: List.replicate (2 * depth) ' ', [':', ' ']⟩

/-- Members between brackets at a depth; no layout between brackets with nothing in them. -/
def Layout.enclose (layout : Layout) (opening closing : Char) (depth : Nat)
    (members : List (List Char)) : List Char :=
  if members.isEmpty then [opening, closing]
  else
    opening ::
      [','].intercalate (members.map fun member => layout.lineBreak (depth + 1) ++ member) ++
        layout.lineBreak depth ++ [closing]

def Layout.member (layout : Layout) (key value : List Char) : List Char :=
  quote key ++ layout.colon ++ value

def Layout.labels (layout : Layout) (depth : Nat) (labels : List String) : List Char :=
  layout.enclose '[' ']' depth (labels.map fun label => quote label.toList)

def Layout.secret (layout : Layout) (depth : Nat) (secret : LabeledSecret) : List Char :=
  layout.enclose '\x7b' '\x7d' depth
    [layout.member "name".toList (quote secret.name.toList),
      layout.member "labels".toList (layout.labels (depth + 1) secret.labels)]

/-- The whole mapping as text. -/
def Layout.print (layout : Layout) (secrets : LabeledSecrets) : List Char :=
  layout.enclose '\x7b' '\x7d' 0
    (secrets.entries.map fun entry =>
      layout.member (Decimal.ofInt entry.1) (layout.secret 1 entry.2))

end SecretVault.Json
