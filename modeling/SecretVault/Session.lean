import SecretVault.Arguments.Invocation
import SecretVault.Command.Actions
import SecretVault.Locations
import SecretVault.Opening
import SecretVault.Program.Launch

/-!
A session: one command line carried out from start to end. The arguments are read first, then the
configuration, and then the vault is opened; an error leaves everything after it undone.

Source pin: `main` and `App` of the program. The token of a session is looked at by its operations
and while a hook runs.
-/
namespace SecretVault
open SecretVault.Engine SecretVault.Files SecretVault.Text

structure Session where
  tree : Tree
  directory : Location
  environment : Environment
  input : Utf8.Bytes
  output : Utf8.Bytes
  errors : Utf8.Bytes
  config : Config
  place : Place
  connection : Connection
  /-- How many bytes at the end of the output may not have been passed on. -/
  held : Nat := 0
  /-- How a hook can start the program again, if it can. -/
  own : Option Starter := none

namespace Session

/-- The token of a session. -/
def token : Token := 0

/-- Keeps what has been committed where the vault is. -/
def keep (s : Session) : Session :=
  { s with tree := OpenVault.store ⟨s.place, s.connection.database⟩ s.tree }

/-- Changes the database outside of operations. -/
def withDatabase (s : Session) (change : Database → Except Engine.Error Unit × Database) :
    Except StoreError Unit × Session :=
  let (result, database) := change s.connection.database
  (result.mapError .engine, keep { s with connection := { s.connection with database } })

/-- How many bytes are held back after some more are printed. Whole lines are passed on; of a line
that is not at its end nothing needs to be. -/
def heldBack (held : Nat) (printed : Utf8.Bytes) : Nat :=
  let begun := printed.reverse.takeWhile (· != 0x0A)
  if begun.length < printed.length then begun.length else held + printed.length

def print (s : Session) (text : String) : Session :=
  { s with
    output := s.output ++ Utf8.encode text, held := heldBack s.held (Utf8.encode text) }

/-- What is certain to be in the output already. -/
def passedOn (s : Session) : Utf8.Bytes := s.output.take (s.output.length - s.held)

/-- What may be held back of the output. -/
def heldPart (s : Session) : Utf8.Bytes := s.output.drop (s.output.length - s.held)

/-- Prints a text, or the part of it that the output takes. -/
def printAmid (c : Circumstances) (s : Session) (text : String) :
    Except Files.Error Unit × Session :=
  match c.passOn (Utf8.encode text) with
  | (.ok (), _) => (.ok (), s.print text)
  | (.error e, taken) => (.error e, { s with output := s.output ++ taken })

/-- Passes on what is held back, or the part of it that the output takes. -/
def flushAmid (c : Circumstances) (s : Session) : Except Files.Error Unit × Session :=
  match c.passOn s.heldPart with
  | (.ok (), _) => (.ok (), { s with held := 0 })
  | (.error e, taken) => (.error e, { s with output := s.passedOn ++ taken, held := 0 })

/-- What becomes of the session while a hook runs: the program looks at the token at regular times,
and moments go on from one look to the next. -/
def supervisor (c : Circumstances) (s : Session) : Program.Supervisor where
  interrupted := c.interrupted.map fun moment =>
    (moment - s.connection.clock) * Program.lookInterval
  own := s.own

/-- Runs a hook with the rest of the input. What it writes comes before what is held back. -/
def runHookAmid (c : Circumstances) (s : Session) (hook : Hook) :
    Except Program.Error Unit × Session :=
  let outcome := (Program.Surroundings.mk s.tree s.directory s.environment s.input false).runHook
    (s.config.hooks.argv hook) (s.supervisor c)
  (if outcome.quits then .error .quit else outcome.result,
    { s with
      tree := outcome.tree, input := outcome.input
      output := s.passedOn ++ outcome.output ++ s.heldPart
      errors := s.errors ++ outcome.errors })

/-- Replies to a request. There is no terminal to prompt on. -/
def replyAmid (c : Circumstances) (s : Session) : (r : Request) → r.Reply × Session
  | .store operation =>
    let (result, connection) := operation.run c.schedule token s.connection
    (result, keep { s with connection })
  | .begin => s.withDatabase Database.begin
  | .commit => s.withDatabase Database.commit
  | .abandon => ((), (s.withDatabase Database.rollback).2)
  | .print text => s.printAmid c text
  | .flush => s.flushAmid c
  | .readInput => ((Utf8.decode s.input).toOption, { s with input := [] })
  | .prompt _ => (.error .noDevice, s)
  | .runHook hook => s.runHookAmid c hook

/-- Carries out a script by replying to its requests, unless the process is made to quit. -/
def carryOutAmid {α : Type} : Script α → Circumstances → Session → Except Failure α × Session
  | .done a, c, s => (if c.isOver then .error .quit else .ok a, s)
  | .fail failure, c, s => (.error (if c.isOver then .quit else failure), s)
  | .ask request next, c, s =>
    if c.isOver then (.error .quit, s)
    else
      let (r, s) := s.replyAmid c request
      carryOutAmid (next r) c.next s

/-- What is left when a session has ended like this. -/
def finish (s : Session) : Except Failure Unit → Finished
  | .ok () => ⟨0, s.tree, s.output, s.errors⟩
  | .error failure =>
    ⟨failure.exitCode, s.tree, s.output, s.errors ++ Utf8.encode failure.report⟩

/-! With nothing coming from outside: no token is cancelled, and everything is printed. -/

def live : Schedule := Circumstances.calm.schedule

def runHook (s : Session) (hook : Hook) : Except Program.Error Unit × Session :=
  s.runHookAmid .calm hook

def reply (s : Session) (r : Request) : r.Reply × Session := s.replyAmid .calm r

def carryOut {α : Type} (script : Script α) (s : Session) : Except Failure α × Session :=
  carryOutAmid script .calm s

end Session

namespace Setting

/-- Loads the configuration that is named, or the usual one. -/
def loadConfig (s : Setting) (path : Option String) : Except Config.LoadError Config :=
  Config.load s.tree s.directory
    (path.getD (Locations.ofEnvironment s.environment).configFile)

/-- Opens the vault and starts a session; without one, what went wrong and the files as they are. -/
def startWith (own : Option Starter) (s : Setting) (invocation : Arguments.Invocation) :
    Except (Failure × Tree) Session :=
  match s.loadConfig invocation.config with
  | .error e => .error (.badConfig e, s.tree)
  | .ok config =>
    let path := invocation.database.getD (config.databasePath s.environment)
    match Opening.openVault s.tree s.directory path with
    | (.error e, tree) => .error (.notOpened path e, tree)
    | (.ok vault, tree) =>
      .ok {
        tree, directory := s.directory, environment := s.environment, input := s.input
        output := [], errors := [], config, place := vault.place
        connection := Connection.opened vault.database, own }

/-- Carries out a command, and tells what is left of the input. -/
def executeWith (own : Option Starter) (s : Setting) (c : Circumstances)
    (invocation : Arguments.Invocation) : Finished × Utf8.Bytes :=
  match s.startWith own invocation with
  | .error (failure, tree) =>
    (⟨failure.exitCode, tree, [], Utf8.encode failure.report⟩, s.input)
  | .ok session =>
    let (result, s) := Session.carryOutAmid invocation.command.script c session
    (s.finish result, s.input)

def versionText : String := "vlt 0.1.0\n"

/-- A line for each kind of command. -/
def helpText : String :=
  "Labeled secrets in a local vault\n\nUsage: vlt [OPTIONS] [COMMAND]\n\nCommands:\n" ++
    String.join (Arguments.kinds.map fun kind => "  " ++ kind.names.headD "" ++ "\n")

def usageReport (e : Arguments.Error) : String :=
  "error: " ++ e.message ++ "\n\nFor more information, try '--help'.\n"

/-- Carries out a command line, and tells what is left of the input. -/
def runWith (own : Option Starter) (s : Setting) (c : Circumstances) (arguments : List String) :
    Finished × Utf8.Bytes :=
  match Arguments.Invocation.read arguments with
  | .ok invocation => s.executeWith own c invocation
  | .error .version => (⟨0, s.tree, Utf8.encode versionText, []⟩, s.input)
  | .error .help => (⟨0, s.tree, Utf8.encode helpText, []⟩, s.input)
  | .error (.error e) => (⟨2, s.tree, [], Utf8.encode (usageReport e)⟩, s.input)

/-- The program as its own hooks can start it, so many times inside of one another. -/
def starter : Nat → Option Starter
  | 0 => none
  | depth + 1 => some (runWith (starter depth))

/-- Hooks may start the program that has started them, up to sixteen times inside of one another;
where this would go on without end, it fails to start in the end. -/
def own : Option Starter := starter 16

def start (s : Setting) (invocation : Arguments.Invocation) : Except (Failure × Tree) Session :=
  s.startWith own invocation

/-- Carries out a command while this comes from outside. -/
def executeAmid (c : Circumstances) (s : Setting) (invocation : Arguments.Invocation) : Finished :=
  (s.executeWith own c invocation).1

/-- Carries out a command line while this comes from outside. -/
def runAmid (c : Circumstances) (s : Setting) (arguments : List String) : Finished :=
  (s.runWith own c arguments).1

/-- Carries out a command with nothing coming from outside. -/
def execute (s : Setting) (invocation : Arguments.Invocation) : Finished :=
  s.executeAmid .calm invocation

/-- Carries out a command line with nothing coming from outside. -/
def run (s : Setting) (arguments : List String) : Finished := s.runAmid .calm arguments

end Setting
end SecretVault
