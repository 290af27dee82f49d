import SecretVault.Yaml.Input
import SecretVault.Yaml.Number

/-!
Writing text as a scalar: plain where that reads back as the same text, else between single quotes,
else between double quotes. Text with line feeds is written as a literal block if it can be.

Source pin: `libyaml` 0.2.5: its emitter; the style as `serde_yaml` 0.9 chooses it.
-/
namespace SecretVault.Yaml
open SecretVault.Text

/-- Characters that need no escape. -/
def isPrintable (c : Char) : Bool :=
  let n := c.toNat
  n == 0x0A || (0x20 ≤ n && n ≤ 0x7E) || (0xA0 ≤ n && n != 0xFEFF && n != 0xFFFE && n != 0xFFFF)

/-- Whether two characters that stand side by side satisfy two tests. -/
def hasAdjacent (first second : Char → Bool) : List Char → Bool
  | c :: d :: rest => (first c && second d) || hasAdjacent first second (d :: rest)
  | _ => false

def isSpace (c : Char) : Bool := c == ' '

/-- Whether a text begins with white space, a line break or a NUL, or is empty. -/
def gapFollows : List Char → Bool
  | [] => true
  | c :: _ => isBlank c || isBreak c || c == '\x00'

/-- Whether a colon comes before a gap, or a comment mark after one. -/
def hasInnerIndicator (afterGap : Bool) : List Char → Bool
  | [] => false
  | c :: rest =>
    (c == ':' && gapFollows rest) || (c == '#' && afterGap) ||
      hasInnerIndicator (gapFollows [c]) rest

/-- Whether a text could not be told from other tokens if it were plain. -/
def hasIndicator (text : List Char) : Bool :=
  "---".toList.isPrefixOf text || "...".toList.isPrefixOf text || hasInnerIndicator true text ||
    match text with
    | [] => false
    | c :: rest =>
      "#,[]\x7b\x7d&*!|>'\"%@\x60".toList.contains c || ((c == '?' || c == '-') && gapFollows rest)

def allowsPlain (text : List Char) : Bool :=
  text.all (fun c => isPrintable c && !isBreak c) && text.head? != some ' ' &&
    text.getLast? != some ' ' && !hasIndicator text

def allowsSingle (text : List Char) : Bool :=
  text.all isPrintable && !hasAdjacent isSpace isBreak text && !hasAdjacent isBreak isSpace text

def allowsLiteral (text : List Char) : Bool :=
  text.all isPrintable && text.getLast? != some ' ' && !hasAdjacent isSpace isBreak text

inductive ScalarStyle where
  | plain | single | double | literal
  deriving DecidableEq, Repr

def ScalarStyle.of (text : List Char) : ScalarStyle :=
  if text.contains '\n' then (if allowsLiteral text then .literal else .double)
  else if !needsQuotes text && allowsPlain text then .plain
  else if allowsSingle text then .single
  else .double

/-- Puts spaces in front of what follows a line break. -/
def indentLines (indent : Nat) (afterBreak : Bool) : List Char → List Char
  | [] => []
  | c :: rest =>
    if isBreak c then c :: indentLines indent true rest
    else
      (if afterBreak then List.replicate indent ' ' else []) ++ c :: indentLines indent false rest

def endsWithBreak (text : List Char) : Bool := text.getLast?.any isBreak

def writeSingle (indent : Nat) (text : List Char) : List Char :=
  let doubled := text.flatMap fun c => if c = '\'' then ['\'', '\''] else [c]
  '\'' :: indentLines indent false doubled ++
    (if endsWithBreak text then List.replicate indent ' ' else []) ++ ['\'']

def writeCode (c : Char) : List Char :=
  let n := c.toNat
  if n ≤ 0xFF then 'x' :: Radix.hexDigits 2 n
  else if n ≤ 0xFFFF then 'u' :: Radix.hexDigits 4 n
  else 'U' :: Radix.hexDigits 8 n

/-- The letter of an escape, or the code of the character. -/
def escapeName (c : Char) : List Char :=
  match c with
  | '\x00' => ['0']
  | '\x07' => ['a']
  | '\x08' => ['b']
  | '\t' => ['t']
  | '\n' => ['n']
  | '\x0b' => ['v']
  | '\x0c' => ['f']
  | '\r' => ['r']
  | '\x1b' => ['e']
  | '"' => ['"']
  | '\\' => ['\\']
  | c =>
    if c = nextLine then ['N'] else if c = lineSeparator then ['L']
    else if c = paragraphSeparator then ['P'] else writeCode c

def writeDouble (text : List Char) : List Char :=
  let escape c :=
    if !isPrintable c || isBreak c || c == '"' || c == '\\' then '\\' :: escapeName c else [c]
  '"' :: text.flatMap escape ++ ['"']

/-- What the header of a literal block says of the line breaks at its end. -/
def chompingMark (text : List Char) : List Char :=
  match text.reverse with
  | [] => ['-']
  | [last] => if isBreak last then ['+'] else ['-']
  | last :: before :: _ =>
    if !isBreak last then ['-'] else if isBreak before then ['+'] else []

/-- A literal block with its last line end. The header gives the indentation, two columns, if the
first line would not show it. -/
def writeLiteral (indent : Nat) (text : List Char) : List Char :=
  let hint := if text.head?.any fun c => isSpace c || isBreak c then ['2'] else []
  '|' :: hint ++ chompingMark text ++ '\n' :: indentLines indent true text ++
    (if endsWithBreak text then [] else ['\n'])

/-- A scalar up to the end of its last line; further lines are indented as given. -/
def writeScalar (indent : Nat) (text : List Char) : List Char :=
  match ScalarStyle.of text with
  | .plain => text ++ ['\n']
  | .single => writeSingle indent text ++ ['\n']
  | .double => writeDouble text ++ ['\n']
  | .literal => writeLiteral indent text

end SecretVault.Yaml
