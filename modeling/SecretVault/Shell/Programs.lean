import SecretVault.Shell.Arrange
import SecretVault.Shell.Filter
import SecretVault.Shell.Source

/-!
Programs by name and by path, and running them as children of the shell.
-/
namespace SecretVault.Shell
open SecretVault.Files SecretVault.Program SecretVault.Text

/-- The shell as a program: it takes its source from an argument, a file or the input. -/
def shellProgram (eval : Evaluator) : Utility := fun arguments => do
  let start (source name : String) (arguments : List String) (endsOnFailure : Bool) : Run Nat := do
    modify fun m => { m with locals := [], status := 0, name, arguments, endsOnFailure }
    runSource eval source
  let strict := arguments.head? == some "-e" || arguments.head? == some "-ec"
  match arguments with
  | "-c" :: source :: name :: arguments | "-ec" :: source :: name :: arguments
  | "-e" :: "-c" :: source :: name :: arguments => start source name arguments strict
  | ["-c", source] | ["-ec", source] | ["-e", "-c", source] => start source "sh" [] strict
  | file :: arguments =>
    match ← readFile file with
    | .ok bytes => start ((Utf8.decode bytes).toOption.getD "") file arguments false
    | .error e =>
      complain ("sh: 0: cannot open " ++ file ++ ": " ++ openMessage "No such file" e)
      return 2
  | [] => start ((Utf8.decode (← readInput)).toOption.getD "") "sh" [] false

/-- The programs that can be started by name, apart from the shell itself. -/
def utility? : String → Option Utility
  | "true" => some Utility.succeed
  | "false" => some Utility.fail
  | "echo" => some Utility.echo
  | "printf" => some Utility.printf
  | "cat" => some Utility.cat
  | "wc" => some Utility.wc
  | "head" => some Utility.head
  | "ls" => some Utility.ls
  | "pwd" => some Utility.pwd
  | "sleep" => some Utility.sleep
  | "tail" => some Utility.tail
  | "tr" => some Utility.tr
  | "sort" => some Utility.sort
  | "grep" => some Utility.grep
  | "tee" => some Utility.tee
  | "touch" => some Utility.touch
  | "mkdir" => some Utility.mkdir
  | "cp" => some Utility.cp
  | "mv" => some Utility.mv
  | "rm" => some Utility.rm
  | "test" => some Utility.test
  | "[" => some Utility.bracket
  | _ => none

/-- The program of a name. -/
def program? (eval : Evaluator) (name : String) : Option Utility :=
  if name = "sh" then some (shellProgram eval) else utility? name

/-- Directories in which programs are found by their names. -/
def programDirectories : List String := ["/bin/", "/usr/bin/"]

/-- Directories and files outside the tree that are no programs. -/
def systemDirectories : List String := ["/bin", "/dev", "/etc", "/home", "/usr", "/usr/bin", "/var"]
def systemFiles : List String :=
  ["/dev/full", "/dev/null", "/dev/zero", "/etc/hosts", "/etc/passwd"]

/-- The path of the program that has started the shell. -/
def ownPath : String := "/proc/" ++ parentNumber ++ "/exe"

/-- Starts the supervisor once more. It works on the same files, reads and writes the same
streams, and fails if its output is refused. -/
def startAgain (own : Starter) : Utility := fun arguments => do
  let m ← get
  let circumstances :=
    if m.outputSink = .full then Circumstances.refusing .noSpace else Circumstances.calm
  let (finished, input) :=
    own ⟨m.tree, m.directory, m.environment, m.input.getD []⟩ circumstances arguments
  set { m with tree := finished.tree, input := m.input.map fun _ => input }
  modify fun m => (m.put m.outputSink finished.output).put m.errorSink finished.errors
  return finished.exitCode

/-- Finds a program by its path. Files of the tree are no programs. -/
def programAt (eval : Evaluator) (m : Machine) (path : String) : Except Files.Error Utility :=
  let known := programDirectories.findSome? fun directory =>
    if path.startsWith directory then
      program? eval (String.ofList (path.toList.drop directory.length))
    else none
  match known.or (m.own.bind fun own => if path = ownPath then some (startAgain own) else none) with
  | some program => .ok program
  | none =>
    if (systemDirectories ++ systemFiles).contains path then .error .permissionDenied
    else if systemFiles.any fun file => path.startsWith (file ++ "/") then .error .notDirectory
    else
      match m.tree.find m.directory path with
      | .ok _ => .error .permissionDenied
      | .error e => .error e

/-- Finds a program by its name or, if there is a slash in it, by its path. The names that each
directory has for itself and its parent are found, but are no programs. -/
def locateProgram (eval : Evaluator) (m : Machine) (name : String) : Except Files.Error Utility :=
  if name.toList.contains '/' then programAt eval m name
  else if name = "." ∨ name = ".." then .error .permissionDenied
  else
    match program? eval name with
    | some program => .ok program
    | none => .error .notFound

/-- Runs a program as a child. -/
def child (name : String) (program : Utility) (arguments : List String) : Run ExitStatus := do
  advance 1
  let complaint := complain (name ++ ": write error: " ++ Files.Error.noSpace.text)
  match ← isolated (insisting complaint (program arguments)) with
  | .ok code => return .code code
  | .error status => return status

/-- Runs a program and answers how it ended. -/
def runProgram (eval : Evaluator) (name : String) (arguments : List String) : Run ExitStatus := do
  match locateProgram eval (← get) name with
  | .ok program => child name program arguments
  | .error e =>
    let missing := e = .notFound ∨ e = .notDirectory
    complainOf (name ++ ": " ++ if missing then "not found" else e.text)
    return .code (if missing then 127 else 126)

end SecretVault.Shell
