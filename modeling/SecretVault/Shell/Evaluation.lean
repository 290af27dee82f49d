import SecretVault.Shell.Builtin
import SecretVault.Shell.Expansion
import SecretVault.Shell.Programs

/-!
Running scripts. A command is one of the shell's own, a construction of other scripts, or the name
of a program, which runs as a child and changes nothing of the shell.
-/
namespace SecretVault.Shell
open SecretVault.Program SecretVault.Text

/-- Runs the fields of a command. -/
def runFields (eval : Evaluator) : List String → Run Nat
  | [] => do return (← get).status
  | ["exec"] => return 0
  | "exec" :: name :: arguments => do throw (.ended (← runProgram eval name arguments))
  | name :: arguments =>
    match ownCommand? eval name with
    | some utility =>
      insisting (complainOf (name ++ ": " ++ name ++ ": I/O error")) (utility arguments)
    | none => do
      match ← runProgram eval name arguments with
      | .code n => return n
      | .signal n => return 128 + n

/-- Whether a command only changes the streams of the shell. -/
def isPermanent (fields : List String) : Bool := fields == ["exec"]

/-- Opens what a redirection names; whether it opens. -/
def redirect (descriptor : Nat) (redirection : Redirection) (target : String) : Run Bool := do
  let sinkTo (sink : Sink) : Run Unit :=
    modify fun m =>
      if descriptor = 1 then { m with outputSink := sink }
      else if descriptor = 2 then { m with errorSink := sink }
      else m
  match redirection with
  | .duplicate =>
    let m ← get
    match target with
    | "1" => sinkTo m.outputSink
    | "2" => sinkTo m.errorSink
    | _ => if descriptor = 0 then set { m with input := none } else sinkTo .nowhere
    return true
  | .read =>
    match ← readFile target with
    | .ok bytes =>
      modify fun m => if descriptor = 0 then { m with input := some bytes } else m
      return true
    | .error e =>
      complainOf ("cannot open " ++ target ++ ": " ++ openMessage "No such file" e)
      return false
  | .write | .append =>
    match ← openFile target (redirection = .append) with
    | .ok sink =>
      sinkTo sink
      return true
    | .error e =>
      complainOf ("cannot create " ++ target ++ ": " ++ openMessage "Directory nonexistent" e)
      return false

def wordsOf (items : List Item) : List Word :=
  items.filterMap fun
    | .word word => some word
    | .redirect .. => none

/-- Makes the redirections of a command in turn, up to one that fails. -/
def redirectAll (eval : Evaluator) (items : List Item) : Run Bool :=
  items.foldlM (fun opened item => do
    match item with
    | .redirect descriptor redirection target =>
      if opened then redirect descriptor redirection (← textOf eval target) else return false
    | .word _ => return opened) true

def readsElsewhere (items : List Item) : Bool :=
  items.any fun
    | .redirect 0 _ _ => true
    | _ => false

/-- Runs an action with streams redirected; if that fails, the action is not run. With `stays`,
they are still redirected afterwards. -/
def withRedirections (eval : Evaluator) (items : List Item) (stays : Bool) (action : Run Nat) :
    Run Nat := do
  let before ← get
  let opened ← redirectAll eval items
  let status ← if opened then action else pure 2
  if !(opened && stays) then
    modify fun m =>
      { m with
        outputSink := before.outputSink, errorSink := before.errorSink
        input := if readsElsewhere items then before.input else m.input }
  return status

/-- Runs one command and answers its status. -/
def runSimple (eval : Evaluator) (items : List Item) : Run Nat := do
  let words := wordsOf items
  let assignments := (words.map assignment?).takeWhile Option.isSome |>.filterMap id
  if words.isEmpty then setStatus 0
  let lists ← (words.drop assignments.length).mapM (fieldsOf eval)
  let fields := lists.flatten
  withRedirections eval items (isPermanent fields) do
    let before ← get
    for (name, value) in assignments do
      let text ← textOf eval value
      modify fun m => if fields.isEmpty then m.assign name text else m.pass name text
    let status ← runFields eval fields
    if !fields.isEmpty && !assignments.isEmpty then
      modify ({ · with locals := before.locals, environment := before.environment })
    return status

/-- Runs a script whose failures do not end the shell, and tells whether it succeeds. -/
def holds (eval : Evaluator) (test : List Pipeline) : Run Bool := do
  let before ← get
  set { before with endsOnFailure := false }
  let status ← statusOf eval test
  modify ({ · with endsOnFailure := before.endsOnFailure })
  return status = 0

/-- Runs a script as long as a test has the outcome that is wanted. Each round takes time, and
`rounds` bounds how many there may be. -/
def repeatWhile (eval : Evaluator) (wanted : Bool) (test body : List Pipeline) (rounds : Nat)
    (status : Nat) : Run Nat := do
  match rounds with
  | 0 => return status
  | rounds + 1 =>
    advance 1
    if (← holds eval test) == wanted then
      repeatWhile eval wanted test body rounds (← statusOf eval body)
    else return status

def runCompound (eval : Evaluator) : Compound → Run Nat
  | .group body => statusOf eval body
  | .subshell body => do
    match ← isolated (statusOf eval body) with
    | .ok status | .error (.code status) => return status
    | .error (.signal n) => throw (.ended (.signal n))
  | .branch test body otherwise => do
    if ← holds eval test then statusOf eval body
    else if otherwise.isEmpty then return 0
    else statusOf eval otherwise
  | .repeated failing test body => repeatWhile eval (!failing) test body 1000000 0
  | .each name words body => do
    let lists ← words.mapM (fieldsOf eval)
    lists.flatten.foldlM (fun _ field => do
      modify (·.assign name field)
      statusOf eval body) 0

def runCommand (eval : Evaluator) : Command → Run Nat
  | .simple items => runSimple eval items
  | .compound body items => withRedirections eval items false (runCompound eval body)

/-- Runs commands each of which reads what the one before it writes. -/
def runPiped (eval : Evaluator) : List Command → Run Nat
  | [] => return 0
  | [command] => runCommand eval command
  | command :: rest => do
    let (_, written) ← captured (runCommand eval command)
    let input := (← get).input
    modify fun m => { m with input := some written }
    let result ← isolated (runPiped eval rest)
    modify fun m => { m with input }
    match result with
    | .ok status | .error (.code status) => return status
    | .error (.signal n) => throw (.ended (.signal n))

/-- Runs a pipeline in its place before others. A failure that nothing asks about may end the
shell. -/
def runPipeline (eval : Evaluator) (rest : List Pipeline) : Pipeline → Run Unit
  | .mk condition negated commands => do
    let status := (← get).status
    let due :=
      match condition with
      | .always => true
      | .ifDone => status == 0
      | .ifFailed => status != 0
    if due then
      let status ← runPiped eval commands
      setStatus (if negated then (if status = 0 then 1 else 0) else status)
      let asked := negated || rest.head?.any (·.condition != .always)
      if status != 0 && !asked && (← get).endsOnFailure then
        let _ ← leaveWith status

/-- Runs the pipelines of a script. -/
def runPipelines (eval : Evaluator) : List Pipeline → Run Unit
  | [] => return ()
  | pipeline :: rest => do
    runPipeline eval rest pipeline
    runPipelines eval rest

/-- The shell. `fuel` bounds how deep scripts may be inside one another. -/
def evaluate (fuel : Nat) : Evaluator :=
  match fuel with
  | 0 => fun _ => throw (.ended (.code 2))
  | fuel + 1 => runPipelines (evaluate fuel)

/-- A shell in which up to a hundred scripts may be nested. -/
def shell : Evaluator := evaluate 100

end SecretVault.Shell
