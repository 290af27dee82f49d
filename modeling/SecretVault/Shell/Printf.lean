import SecretVault.Text.Utf8

/-!
Formatted output: a format with escapes and conversions, used again until all arguments have been
written.
-/
namespace SecretVault.Shell
open SecretVault.Text

def isOctal (c : Char) : Bool := '0' ≤ c && c ≤ '7'

def octalValue (digits : List Char) : Nat :=
  digits.foldl (fun n c => 8 * n + (c.toNat - '0'.toNat)) 0

/-- The byte that a letter after a backslash stands for. -/
def escapedByte? : Char → Option UInt8
  | 'a' => some 7
  | 'b' => some 8
  | 'f' => some 12
  | 'n' => some 10
  | 'r' => some 13
  | 't' => some 9
  | 'v' => some 11
  | '\\' => some 92
  | _ => none

/-- Reads an escape after its backslash: up to `digits` octal digits after `mark`, or a letter. An
unknown one stands for itself. -/
def readEscape (mark : Bool) (text : List Char) : Utf8.Bytes × List Char :=
  let octal (text : List Char) : Utf8.Bytes × List Char :=
    let digits := (text.take 3).takeWhile isOctal
    ([(octalValue digits).toUInt8], text.drop digits.length)
  match text with
  | [] => ([92], [])
  | c :: rest =>
    if mark && c == '0' then octal rest
    else if !mark && isOctal c then octal text
    else
      match escapedByte? c with
      | some byte => ([byte], rest)
      | none => (92 :: Utf8.encodeChar c, rest)

/-- Writes an argument with its escapes resolved; whether it goes on after it. `fuel` bounds its
length. -/
def unescape (fuel : Nat) (text : List Char) : Utf8.Bytes × Bool :=
  match fuel, text with
  | _, [] | 0, _ => ([], true)
  | _, '\\' :: 'c' :: _ => ([], false)
  | fuel + 1, '\\' :: rest =>
    let (bytes, rest) := readEscape true rest
    let (more, goesOn) := unescape fuel rest
    (bytes ++ more, goesOn)
  | fuel + 1, c :: rest =>
    let (more, goesOn) := unescape fuel rest
    (Utf8.encodeChar c ++ more, goesOn)

/-- Fills a text up with spaces to a width. -/
def pad (left : Bool) (width : Nat) (bytes : Utf8.Bytes) : Utf8.Bytes :=
  let fill := List.replicate (width - bytes.length) 32
  if left then bytes ++ fill else fill ++ bytes

/-- An argument as a conversion writes it; none if the conversion is unknown. -/
def convert? (conversion : Char) (argument : Option String) : Option Utf8.Bytes :=
  let text := argument.getD ""
  match conversion with
  | 's' => some (Utf8.encode text)
  | 'b' => some (unescape (text.length + 1) text.toList).1
  | 'c' => some ((Utf8.encode text).take 1)
  | 'd' | 'i' | 'u' => some (Utf8.encode (toString (text.toInt?.getD 0)))
  | 'o' => some (Utf8.encode (String.ofList (Nat.toDigits 8 (text.toNat?.getD 0))))
  | 'x' => some (Utf8.encode (String.ofList (Nat.toDigits 16 (text.toNat?.getD 0))))
  | _ => none

structure Formatted where
  bytes : Utf8.Bytes
  arguments : List String
  /-- Whether any conversion was met. -/
  converts : Bool

/-- Writes a format once. `fuel` bounds its length. -/
def formatOnce (fuel : Nat) (arguments : List String) (text : List Char) : Option Formatted :=
  match fuel, text with
  | _, [] | 0, _ => some ⟨[], arguments, false⟩
  | fuel + 1, '\\' :: rest =>
    let (bytes, rest) := readEscape false rest
    (formatOnce fuel arguments rest).map fun f => { f with bytes := bytes ++ f.bytes }
  | fuel + 1, '%' :: '%' :: rest =>
    (formatOnce fuel arguments rest).map fun f => { f with bytes := 37 :: f.bytes }
  | fuel + 1, '%' :: rest => do
    let left := rest.head? == some '-'
    let rest := if left then rest.tail else rest
    let width := (String.ofList (rest.takeWhile Char.isDigit)).toNat?.getD 0
    match rest.dropWhile Char.isDigit with
    | conversion :: rest =>
      let bytes ← convert? conversion arguments.head?
      let f ← formatOnce fuel arguments.tail rest
      return { f with bytes := pad left width bytes ++ f.bytes, converts := true }
    | [] => none
  | fuel + 1, c :: rest =>
    (formatOnce fuel arguments rest).map fun f => { f with bytes := Utf8.encodeChar c ++ f.bytes }

/-- Writes a format as often as the arguments ask for. `fuel` bounds how often. -/
def format (fuel : Nat) (arguments : List String) (text : List Char) : Option Utf8.Bytes :=
  match fuel with
  | 0 => some []
  | fuel + 1 => do
    let f ← formatOnce (text.length + 1) arguments text
    if f.arguments.isEmpty || !f.converts then return f.bytes
    return f.bytes ++ (← format fuel f.arguments text)

end SecretVault.Shell
