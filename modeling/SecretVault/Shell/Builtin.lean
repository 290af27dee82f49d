import SecretVault.Program.Supervision
import SecretVault.Shell.Source
import SecretVault.Shell.Utility

/-!
Commands of the shell itself, which change its variables, its streams or its course.
-/
namespace SecretVault.Shell
open SecretVault.Files SecretVault.Program SecretVault.Text

/-- Interrupts the supervisor. The first time it stops the run at its next look; before that look a
later interrupt makes it quit. Two interrupts at one time count as one. -/
def interrupt (m : Machine) : Machine :=
  let first :=
    { m with interruptedAt := some m.clock, deadline := some (Timeline.lookAfter m.clock) }
  match m.interruptedAt with
  | none => first
  | some time =>
    -- An interrupt from outside may be known already that is still to come.
    if m.clock < time then first
    else if time < m.clock then { m with abandoned := true, deadline := none }
    else m

/-- Sends a signal to the shell or to what supervises it. -/
def sendSignal (signal : Nat) (target : String) : Run Nat := do
  if target = ownNumber then
    if !isHarmless signal then throw (.ended (.signal signal))
    return 0
  else if target = parentNumber && !(← get).abandoned then
    if signal = 2 then modify interrupt
    return 0
  else
    complainOf "kill: No such process"
    return 1

def kill : Utility := fun arguments => do
  let (signal, targets) :=
    match arguments with
    | "-s" :: name :: targets => (signalNumber? name.toUpper, targets)
    | argument :: targets =>
      match argument.toList with
      | '-' :: name => (signalNumber? (String.ofList name).toUpper, targets)
      | _ => (some 15, arguments)
    | [] => (none, [])
  match signal with
  | none =>
    complainOf "kill: Illegal option"
    return 2
  | some signal => targets.foldlM (fun _ target => sendSignal signal target) 0

/-- Divides a line among variables; the last one takes what is left. -/
def divideLine : List String → List Char → List (String × String)
  | [], _ => []
  | [name], text =>
    let isGap c := " \t".toList.contains c
    [(name, String.ofList ((text.dropWhile isGap).reverse.dropWhile isGap).reverse)]
  | name :: names, text =>
    let isGap c := " \t".toList.contains c
    let text := text.dropWhile isGap
    (name, String.ofList (text.takeWhile (!isGap ·))) ::
      divideLine names (text.dropWhile (!isGap ·))

def dropBackslashes : List Char → List Char
  | '\\' :: c :: rest => c :: dropBackslashes rest
  | c :: rest => c :: dropBackslashes rest
  | [] => []

/-- Reads a line into variables. -/
def readVariables : Utility := fun arguments => do
  let raw := arguments.head? == some "-r"
  let names := if raw then arguments.tail else arguments
  let (bytes, ended) ← readLine
  let line := ((Utf8.decode bytes).toOption.getD "").toList
  let line := if raw then line else dropBackslashes line
  for (name, value) in divideLine names line do
    modify (·.assign name value)
  return if ended then 0 else 1

/-- The shell's own way of writing: escapes count, and only the first argument can be an option. -/
def writeWords : Utility := fun arguments => do
  let ended := arguments.head? != some "-n"
  let text := (Utility.lineOf (if ended then arguments else arguments.tail) false).toList
  let (bytes, goesOn) := unescape (text.length + 1) text
  writeBytes (bytes ++ if ended && goesOn then [10] else [])
  return 0

def changeDirectory : Utility := fun arguments => do
  let m ← get
  let path := arguments.head?.getD ((m.lookup? "HOME").getD "")
  match m.tree.find m.directory path with
  | .ok (location, .directory) =>
    set { m with directory := location }
    return 0
  | _ =>
    complainOf ("cd: can't cd to " ++ path)
    return 2

/-- Ends the script with a status, which may be given in digits. -/
def leave (name : String) : Utility := fun arguments => do
  match arguments with
  | [] => leaveWith (← get).status
  | text :: _ =>
    let digits := text.toList
    if digits.isEmpty || !digits.all Char.isDigit then
      complainOf (name ++ ": Illegal number: " ++ text)
      leaveWith 2
    else leaveWith (Decimal.digitsValue digits)

/-- Sets options of the shell: `-e` makes it end when a command fails. -/
def setOptions : Utility := fun arguments => do
  for argument in arguments do
    if argument.toList.contains 'e' then
      modify ({ · with endsOnFailure := argument.startsWith "-" })
  return 0

/-- Leaves out the first arguments of the script. -/
def shift : Utility := fun arguments => do
  modify fun m =>
    { m with arguments := m.arguments.drop ((arguments.head?.bind String.toNat?).getD 1) }
  return 0

def unsetVariables : Utility := fun names => do
  modify fun m =>
    { m with
      locals := m.locals.filter (!names.contains ·.1)
      environment := m.environment.filter (!names.contains ·.1) }
  return 0

/-- Passes variables on to programs. -/
def exportVariables : Utility := fun arguments => do
  for argument in arguments do
    let cs := argument.toList
    let name := String.ofList (cs.takeWhile (· != '='))
    modify fun m =>
      m.pass name
        (if cs.contains '=' then String.ofList ((cs.dropWhile (· != '=')).drop 1)
        else (m.lookup? name).getD "")
  return 0

/-- Commands of the shell itself. -/
def ownCommand? (eval : Evaluator) : String → Option Utility
  | ":" | "true" | "wait" | "umask" | "ulimit" => some Utility.succeed
  | "false" => some Utility.fail
  | "exit" => some (leave "exit")
  | "return" => some (leave "return")
  | "eval" => some fun arguments => runSource eval (" ".intercalate arguments)
  | "set" => some setOptions
  | "shift" => some shift
  | "unset" => some unsetVariables
  | "kill" => some kill
  | "read" => some readVariables
  | "test" => some Utility.test
  | "[" => some Utility.bracket
  | "echo" => some writeWords
  | "printf" => some Utility.printf
  | "cd" => some changeDirectory
  | "pwd" => some Utility.pwd
  | "export" => some exportVariables
  | _ => none

end SecretVault.Shell
