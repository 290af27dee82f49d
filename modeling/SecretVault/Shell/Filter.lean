import SecretVault.Shell.Utility

/-!
Programs that pass on what they read, changed or in part.
-/
namespace SecretVault.Shell.Utility
open SecretVault.Text

/-- The lines of a text with their ends; the last one may lack it. -/
def linesOf (bytes : Utf8.Bytes) : List Utf8.Bytes :=
  let (later, first) := bytes.foldr
    (fun b (later, current) =>
      if b = 10 then (if current.isEmpty then later else current :: later, [b])
      else (later, b :: current))
    ([], [])
  if first.isEmpty then later else first :: later

def withoutEnd (line : Utf8.Bytes) : Utf8.Bytes :=
  if line.getLast? = some 10 then line.dropLast else line

/-- The lines of all files that can be read, or of the input where there is none to name. -/
def gatherLines (files : List String) : Run (List Utf8.Bytes) := do
  if files.isEmpty then return linesOf (← readInput)
  let texts ← files.mapM fun file => do return (← readFile file).toOption.getD []
  return texts.flatMap linesOf

/-- The last bytes or lines. -/
def tail : Utility := fun arguments => do
  let (unit, size, files) := sizeOption arguments
  onFiles "tail" files fun _ bytes =>
    if unit = 'c' then writeBytes (bytes.drop (bytes.length - size))
    else
      let lines := linesOf bytes
      writeBytes (lines.drop (lines.length - size)).flatten

/-- The lines in the order of their bytes: reversed with `-r`, each once with `-u`. -/
def sort : Utility := fun arguments => do
  let (options, files) := splitOptions arguments
  let letters := (options.map fun o => o.toList.drop 1).flatten
  let lines := (← gatherLines files).map withoutEnd
  let sorted := lines.mergeSort fun a b => a ≤ b
  let chosen := if letters.contains 'u' then sorted.eraseReps else sorted
  let ordered := if letters.contains 'r' then chosen.reverse else chosen
  writeBytes (ordered.flatMap (· ++ [10]))
  return 0

/-- The bytes from one character to another. -/
def between (a b : Char) : Utf8.Bytes :=
  (List.range (b.toNat + 1 - a.toNat)).map fun n => (a.toNat + n).toUInt8

/-- The bytes of a set, in which a range stands between two characters. `fuel` bounds its length. -/
def bytesOfSet (fuel : Nat) (text : List Char) : Utf8.Bytes :=
  match fuel, text with
  | 0, _ | _, [] => []
  | fuel + 1, '[' :: ':' :: rest =>
    let name := String.ofList (rest.takeWhile (· != ':'))
    let members :=
      match name with
      | "upper" => between 'A' 'Z'
      | "lower" => between 'a' 'z'
      | "digit" => between '0' '9'
      | "alpha" => between 'A' 'Z' ++ between 'a' 'z'
      | "alnum" => between '0' '9' ++ between 'A' 'Z' ++ between 'a' 'z'
      | "space" => between '\t' '\r' ++ [32]
      | _ => []
    members ++ bytesOfSet fuel (rest.drop (name.length + 2))
  | fuel + 1, '\\' :: rest =>
    let (bytes, rest) := readEscape false rest
    bytes ++ bytesOfSet fuel rest
  | fuel + 1, a :: '-' :: b :: rest => between a b ++ bytesOfSet fuel rest
  | fuel + 1, c :: rest => Utf8.encodeChar c ++ bytesOfSet fuel rest

def setOf (text : String) : Utf8.Bytes := bytesOfSet text.length text.toList

/-- Replaces bytes of one set by those of another, whose last one counts for all that it lacks;
with `-d`, takes them out. -/
def tr : Utility := fun arguments => do
  match arguments with
  | ["-d", removed] =>
    let set := setOf removed
    writeBytes ((← readInput).filter (!set.contains ·))
    return 0
  | [before, after] =>
    let set := setOf before
    let others := setOf after
    let replace (b : UInt8) : UInt8 :=
      match set.idxOf? b with
      | some i => ((others[i]?).or others.getLast?).getD b
      | none => b
    writeBytes ((← readInput).map replace)
    return 0
  | _ =>
    complain "tr: missing operand"
    return 1

/-- Whether a pattern of literal text, which may be held to the start or the end, fits a line. -/
def fits (pattern line : List Char) : Bool :=
  let atStart := pattern.head? == some '^'
  let pattern := if atStart then pattern.tail else pattern
  let atEnd := pattern.getLast? == some '$'
  let pattern := if atEnd then pattern.dropLast else pattern
  if atStart && atEnd then line == pattern
  else if atStart then pattern.isPrefixOf line
  else if atEnd then pattern.isSuffixOf line
  else (List.range (line.length + 1)).any fun n => pattern.isPrefixOf (line.drop n)

/-- The lines that a pattern fits: silent with `-q`, the others with `-v`, their number with
`-c`. -/
def grep : Utility := fun arguments => do
  let (options, rest) := splitOptions arguments
  let letters := (options.map fun o => o.toList.drop 1).flatten
  match rest with
  | [] => return 2
  | pattern :: files =>
    let chosen := (← gatherLines files).filter fun line =>
      let text := ((Utf8.decode (withoutEnd line)).toOption.getD "").toList
      fits pattern.toList text != letters.contains 'v'
    if letters.contains 'c' then write (toString chosen.length ++ "\n")
    else if !letters.contains 'q' then
      writeBytes (chosen.flatMap fun line => withoutEnd line ++ [10])
    return if chosen.isEmpty then 1 else 0

end SecretVault.Shell.Utility
