import SecretVault.Shell.Machine
import SecretVault.Shell.Printf

/-!
Small programs that commands can name. Each takes its arguments, works on the machine and answers
its exit status.
-/
namespace SecretVault.Shell
open SecretVault.Files SecretVault.Text

abbrev Utility := List String → Run Nat

namespace Utility

def succeed : Utility := fun _ => return 0

def fail : Utility := fun _ => return 1

def lineOf (arguments : List String) (ended : Bool) : String :=
  " ".intercalate arguments ++ (if ended then "\n" else "")

/-- Whether an argument of `echo` is a group of options. -/
def isEchoOption (argument : String) : Bool :=
  match argument.toList with
  | '-' :: letter :: letters => (letter :: letters).all "neE".toList.contains
  | _ => false

/-- Writes its arguments; escapes stay as they are unless an option asks for them. -/
def echo : Utility := fun arguments => do
  let options := ((arguments.takeWhile isEchoOption).map String.toList).flatten
  let arguments := arguments.dropWhile isEchoOption
  let ended := !options.contains 'n'
  if options.contains 'e' then
    let text := (lineOf arguments false).toList
    let (bytes, goesOn) := unescape (text.length + 1) text
    writeBytes (bytes ++ if ended && goesOn then [10] else [])
  else write (lineOf arguments ended)
  return 0

def printf : Utility := fun arguments => do
  match arguments with
  | [] =>
    complain "printf: missing operand"
    return 1
  | text :: arguments =>
    match format (arguments.length + 1) arguments text.toList with
    | some bytes =>
      writeBytes bytes
      return 0
    | none =>
      complain ("printf: " ++ text ++ ": invalid directive")
      return 1

/-- Runs an action on the bytes of each file, or on the input where there is none to name. The
status is 1 if a file could not be read. -/
def onFiles (program : String) (files : List String) (action : String → Utf8.Bytes → Run Unit) :
    Run Nat := do
  if files.isEmpty then
    if (← get).input.isNone then
      complain (program ++ ": -: Bad file descriptor")
      return 1
    action "" (← readInput)
    return 0
  files.foldlM (fun status file => do
    if file = "-" then
      action file (← readInput)
      return status
    match ← readFile file with
    | .ok bytes =>
      action file bytes
      return status
    | .error e =>
      complain (program ++ ": " ++ file ++ ": " ++ e.text)
      return 1) 0

def cat : Utility := fun files => onFiles "cat" files fun _ bytes => writeBytes bytes

/-- Splits off options, which begin with a dash. -/
def splitOptions (arguments : List String) : List String × List String :=
  let isOption (argument : String) := argument.startsWith "-" && argument != "-"
  (arguments.takeWhile isOption, arguments.dropWhile isOption)

/-- Counts of lines, words and bytes. -/
def counts (bytes : Utf8.Bytes) : List Nat :=
  let isGap (b : UInt8) := b == 32 || (9 ≤ b && b ≤ 13)
  let starts := (bytes.zip (32 :: bytes)).countP fun (b, before) => !isGap b && isGap before
  [bytes.count 10, starts, bytes.length]

def wc : Utility := fun arguments => do
  let (options, files) := splitOptions arguments
  let letters := (options.map fun o => o.toList.drop 1).flatten
  let chosen := if letters.isEmpty then ['l', 'w', 'c'] else letters
  onFiles "wc" files fun file bytes => do
    let columns := (['l', 'w', 'c'].zip (counts bytes)).filter fun (letter, _) =>
      chosen.contains letter
    let texts := columns.map fun (_, n) =>
      let text := toString n
      if 1 < columns.length && file.isEmpty then
        String.ofList (List.replicate (7 - text.length) ' ') ++ text
      else text
    write (lineOf (if file.isEmpty then texts else texts ++ [file]) true)

/-- Splits off how much is wanted: a number of bytes, `'c'`, or of lines, `'n'`. -/
def sizeOption (arguments : List String) : Char × Nat × List String :=
  match arguments with
  | "-c" :: n :: files => ('c', n.toNat?.getD 0, files)
  | "-n" :: n :: files => ('n', n.toNat?.getD 0, files)
  | argument :: files =>
    match argument.toList with
    | '-' :: 'c' :: n => ('c', (String.ofList n).toNat?.getD 0, files)
    | '-' :: 'n' :: n => ('n', (String.ofList n).toNat?.getD 0, files)
    | '-' :: n => ('n', (String.ofList n).toNat?.getD 10, files)
    | _ => ('n', 10, arguments)
  | [] => ('n', 10, [])

/-- The first bytes or lines. -/
def head : Utility := fun arguments => do
  let (unit, size, files) := sizeOption arguments
  onFiles "head" files fun _ bytes =>
    if unit = 'c' then writeBytes (bytes.take size)
    else
      let rec lines (n : Nat) : Utf8.Bytes → Utf8.Bytes
        | [] => []
        | b :: rest =>
          if n = 0 then [] else b :: lines (if b = 10 then n - 1 else n) rest
      writeBytes (lines size bytes)

/-- Names of what a directory holds, without hidden ones, in order. -/
def children (tree : Tree) (location : Location) : List String :=
  let names := tree.entries.filterMap fun (place, _) =>
    if place.dropLast = location ∧ place ≠ [] then place.getLast? else none
  (names.filter fun name => !name.startsWith ".").mergeSort fun a b => a ≤ b

def ls : Utility := fun arguments => do
  let (_, paths) := splitOptions arguments
  let paths := if paths.isEmpty then ["."] else paths
  paths.foldlM (fun status path => do
    let m ← get
    match m.tree.find m.directory path with
    | .ok (location, .directory) =>
      (children m.tree location).forM fun name => write (name ++ "\n")
      return status
    | .ok _ =>
      write (path ++ "\n")
      return status
    | .error e =>
      complain ("ls: cannot access '" ++ path ++ "': " ++ e.text)
      return 2) 0

def pwd : Utility := fun _ => do
  write ("/" ++ "/".intercalate (← get).directory ++ "\n")
  return 0

/-- Milliseconds given in seconds, perhaps with a fraction or a letter for another unit. -/
def milliseconds? (text : String) : Option Nat := do
  let cs := text.toList
  let (cs, unit) :=
    match cs.getLast? with
    | some 's' => (cs.dropLast, 1)
    | some 'm' => (cs.dropLast, 60)
    | some 'h' => (cs.dropLast, 3600)
    | some 'd' => (cs.dropLast, 86400)
    | _ => (cs, 1)
  let whole := cs.takeWhile Char.isDigit
  let fraction := (cs.drop whole.length).drop 1
  if (whole ++ fraction).isEmpty || !fraction.all Char.isDigit then none
  if (cs[whole.length]?).any (· != '.') then none
  let digits := whole ++ (fraction ++ ['0', '0', '0']).take 3
  return unit * (← (String.ofList digits).toNat?)

def sleep : Utility := fun arguments => do
  match arguments.mapM milliseconds? with
  | some times =>
    advance (times.foldl (· + ·) 0)
    return 0
  | none =>
    complain "sleep: invalid time interval"
    return 1

/-- Writes the input to the output and to files. -/
def tee : Utility := fun arguments => do
  let (options, files) := splitOptions arguments
  let bytes ← readInput
  writeBytes bytes
  files.foldlM (fun status file => do
    match ← openFile file (options.contains "-a") with
    | .ok sink =>
      modify fun m => m.put sink bytes
      return status
    | .error e =>
      complain ("tee: " ++ file ++ ": " ++ e.text)
      return 1) 0

/-- Makes files that are missing. -/
def touch : Utility := fun files => do
  files.foldlM (fun status file => do
    if (← find? file).isSome then return status
    match ← openFile file true with
    | .ok _ => return status
    | .error e =>
      complain ("touch: cannot touch '" ++ file ++ "': " ++ e.text)
      return 1) 0

/-- The truth of a condition; none if it is malformed. -/
def holds? (condition : List String) : Run (Option Bool) := do
  match condition with
  | [] => return some false
  | ["!", text] => return some text.isEmpty
  | [text] => return some (!text.isEmpty)
  | ["-n", text] => return some (!text.isEmpty)
  | ["-z", text] => return some text.isEmpty
  | ["-e", path] => return some (← find? path).isSome
  | ["-d", path] => return some ((← find? path).any (· == .directory))
  | ["-f", path] => return some ((← find? path).any (· != .directory))
  | ["-s", path] => return some ((← find? path).any (· != .bytes []))
  | [a, operator, b] =>
    let compare (test : Int → Int → Bool) : Option Bool := do
      return test (← a.toInt?) (← b.toInt?)
    match operator with
    | "=" => return some (a == b)
    | "!=" => return some (a != b)
    | "-eq" => return compare (· == ·)
    | "-ne" => return compare (· != ·)
    | "-lt" => return compare (· < ·)
    | "-le" => return compare (· ≤ ·)
    | "-gt" => return compare (· > ·)
    | "-ge" => return compare (· ≥ ·)
    | _ => return none
  | _ => return none

def test : Utility := fun condition => do
  let (negated, condition) :=
    match condition with
    | "!" :: a :: b :: rest => (true, a :: b :: rest)
    | condition => (false, condition)
  match ← holds? condition with
  | some true => return if negated then 1 else 0
  | some false => return if negated then 0 else 1
  | none =>
    complain "test: unexpected operator"
    return 2

/-- A condition between brackets. -/
def bracket : Utility := fun arguments => do
  if arguments.getLast? = some "]" then test arguments.dropLast
  else
    complain "[: missing ]"
    return 2

end Utility
end SecretVault.Shell
