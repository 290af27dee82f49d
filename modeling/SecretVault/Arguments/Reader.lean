import SecretVault.Arguments.Argument
import SecretVault.IdMap

/-!
Reading the arguments of a command. The values of an argument are settled when the next known
argument comes or the command line ends; until then an unknown argument is the first error to be
reported.

Source pin: the parser of `clap` 4, as far as `Cli` uses it.
-/
namespace SecretVault.Arguments
open SecretVault.Text

/-- What a command takes, and the names of the commands below it. -/
structure Signature where
  options : List Argument := []
  positionals : List Argument := []
  /-- Two arguments that must not be given together. -/
  exclusive : Option (Argument × Argument) := none
  commands : List String := []

inductive Value where
  | text (s : String)
  | integer (n : Int)
  deriving DecidableEq, Repr

/-- An argument with values that are not settled yet. -/
structure Pending where
  argument : Argument
  values : List String
  deriving DecidableEq, Repr

structure Reader where
  /-- Settled arguments with their values, in order of first use. -/
  settled : List (Argument × List Value) := []
  pending : Option Pending := none
  /-- Whether the pending argument is an option whose value comes next. -/
  awaits : Bool := false
  /-- Positional arguments that are to come. -/
  positionals : List Argument
  /-- Whether only positional arguments follow. -/
  onlyPositionals : Bool := false

def Reading.read (reading : Reading) (a : Argument) (text : String) : Except Halt Value :=
  match reading with
  | .text => .ok (.text text)
  | .path => if text.isEmpty then .error (.error (.missingValue a)) else .ok (.text text)
  | .integer =>
    match Decimal.read leastId greatestId text.toList with
    | .ok n => .ok (.integer n)
    | .error reason => .error (.error (.invalidValue text a reason))

namespace Reader

/-- Enters an argument with its values. -/
def settle (r : Reader) (a : Argument) (texts : List String) : Except Halt Reader := do
  if a.takesValue && texts.isEmpty then throw (.error (.missingValue a))
  match a.action with
  | .version => throw .version
  | .help => throw .help
  | .set | .flag =>
    if r.settled.any (·.1 == a) then throw (.error (.repeated a))
    let values ← texts.mapM (a.reading.read a)
    return { r with settled := r.settled ++ [(a, values)] }
  | .append =>
    let values ← texts.mapM (a.reading.read a)
    if r.settled.any (·.1 == a) then
      let add entry := if entry.1 == a then (entry.1, entry.2 ++ values) else entry
      return { r with settled := r.settled.map add }
    return { r with settled := r.settled ++ [(a, values)] }

def settlePending (r : Reader) : Except Halt Reader :=
  match r.pending with
  | some p => { r with pending := none, awaits := false }.settle p.argument p.values
  | none => .ok r

/-- An argument with a value attached to it, or one whose value is to come. -/
def useOption (r : Reader) (a : Argument) (attached : Option String) : Except Halt Reader := do
  let r ← r.settlePending
  match attached with
  | some value => r.settle a [value]
  | none => return { r with pending := some ⟨a, []⟩, awaits := true }

def useFlag (r : Reader) (a : Argument) : Except Halt Reader := do (← r.settlePending).settle a []

/-- Splits a long name from the value attached to it. -/
def splitLong (text : List Char) : String × Option String :=
  let name := text.takeWhile (· != '=')
  (String.ofList name, (text.drop name.length).tail?.map String.ofList)

def readLong (s : Signature) (r : Reader) (text : List Char) : Except Halt Reader :=
  let (name, attached) := splitLong text
  match s.options.find? (·.long == some name) with
  | none => .error (.error (.unexpected ("--" ++ name)))
  | some a =>
    if a.takesValue then r.useOption a attached
    else
      match attached with
      | some value => .error (.error (.unexpectedValue value a))
      | none => r.useFlag a

/-- Reads short names that are written together; the first that takes a value takes the rest. -/
def readShort (s : Signature) (r : Reader) : List Char → Except Halt Reader
  | [] => .ok r
  | c :: rest =>
    match s.options.find? (·.short == some c) with
    | none => .error (.error (.unexpected ("-" ++ String.singleton c)))
    | some a =>
      if a.takesValue then
        let attached := if rest.head? = some '=' then rest.tail else rest
        r.useOption a (if rest.isEmpty then none else some (String.ofList attached))
      else
        match r.useFlag a with
        | .ok r => readShort s r rest
        | .error halt => .error halt

/-- The error of a text for which there is no positional argument. -/
def surplus (s : Signature) (r : Reader) (text : String) : Error :=
  if s.commands.isEmpty || (r.onlyPositionals && s.commands.contains text) then .unexpected text
  else .unrecognizedCommand text

def readPositional (s : Signature) (r : Reader) (text : String) : Except Halt Reader :=
  match r.positionals with
  | [] => .error (.error (r.surplus s text))
  | a :: rest =>
    match r.pending with
    | some p =>
      if p.argument = a ∧ a.action = .append then
        .ok { r with pending := some ⟨a, p.values ++ [text]⟩ }
      else r.settlePending.map (start · a rest)
    | none => .ok (start r a rest)
where
  start (r : Reader) (a : Argument) (rest : List Argument) : Reader :=
    { r with
      pending := some ⟨a, [text]⟩
      positionals := if a.action = .append then a :: rest else rest }

/-- Gives a value to the option that awaits it. -/
def giveValue (r : Reader) (text : String) : Reader :=
  { r with awaits := false, pending := r.pending.map fun p => { p with values := [text] } }

/-- Reads arguments up to the name of a command below, which is returned with the arguments after
it. -/
def read (s : Signature) (r : Reader) :
    List String → Except Halt (Reader × Option (String × List String))
  | [] => .ok (r, none)
  | text :: rest =>
    if r.onlyPositionals then
      match r.readPositional s text with
      | .ok r => read s r rest
      | .error halt => .error halt
    else if !r.awaits && s.commands.contains text then .ok (r, some (text, rest))
    else
      let next : Except Halt Reader :=
        match text.toList with
        | ['-', '-'] => .ok { r with onlyPositionals := true }
        | '-' :: '-' :: long => r.readLong s long
        | '-' :: c :: short => r.readShort s (c :: short)
        | _ => if r.awaits then .ok (r.giveValue text) else r.readPositional s text
      match next with
      | .ok r => read s r rest
      | .error halt => .error halt

/-- The argument that must not be given together with another one. -/
def rival? (s : Signature) (a : Argument) : Option Argument :=
  match s.exclusive with
  | some (x, y) => if a = x then some y else if a = y then some x else none
  | none => none

/-- Settles what is pending and checks that the arguments fit together. -/
def finish (s : Signature) (r : Reader) : Except Halt Reader := do
  let r ← r.settlePending
  let used := r.settled.map (·.1)
  for a in used do
    if let some other := rival? s a then
      if used.contains other then throw (.error (.conflict a other))
  let missing := (s.options ++ s.positionals).filter fun a => a.required && !used.contains a
  if missing.isEmpty then return r else throw (.error (.notProvided missing))

def values (r : Reader) (a : Argument) : List Value := (r.settled.lookup a).getD []

def texts (r : Reader) (a : Argument) : List String :=
  (r.values a).filterMap fun
    | .text s => some s
    | .integer _ => none

def integers (r : Reader) (a : Argument) : List Int :=
  (r.values a).filterMap fun
    | .integer n => some n
    | .text _ => none

def isGiven (r : Reader) (a : Argument) : Bool := r.settled.any (·.1 == a)

end Reader
end SecretVault.Arguments
