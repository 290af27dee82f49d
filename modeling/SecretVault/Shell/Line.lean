import SecretVault.Shell.Word

/-!
Command lines: pipelines of commands, each run whatever happened before, or only if what came
before has succeeded, or only if it has failed. A command may hold command lines in its turn.
-/
namespace SecretVault.Shell

inductive Item where
  | word (word : Word)
  | redirect (descriptor : Nat) (redirection : Redirection) (target : Word)
  deriving DecidableEq, Repr

/-- When a pipeline is run, given how the one before it ended. -/
inductive Condition where
  | always | ifDone | ifFailed
  deriving DecidableEq, Repr

mutual

inductive Command where
  | simple (items : List Item)
  | compound (body : Compound) (redirections : List Item)

inductive Compound where
  | group (body : List Pipeline)
  | subshell (body : List Pipeline)
  | branch (test body otherwise : List Pipeline)
  /-- Repeated as long as the test succeeds or, with `failing`, as long as it fails. -/
  | repeated (failing : Bool) (test body : List Pipeline)
  | each (name : String) (words : List Word) (body : List Pipeline)

/-- Commands each of which reads what the one before it writes. If it is negated, failure counts
as success and success as failure. -/
inductive Pipeline where
  | mk (condition : Condition) (negated : Bool) (commands : List Command)

end

def Pipeline.condition : Pipeline → Condition
  | .mk condition _ _ => condition

/-- The text of a word that holds nothing else and no quotes. -/
def plainText? (word : Word) : Option String :=
  let texts := word.mapM fun
    | Fragment.text text false => some text
    | _ => none
  texts.map fun texts => String.ofList texts.flatten

/-- Words that end the lines inside a construction. -/
def endWords : List String := ["then", "else", "elif", "fi", "do", "done", "\x7d"]

/-- Words that begin constructions which are not offered here. -/
def refusedWords : List String := ["case", "esac", "function"]

/-- The reserved word at the head of a text, if any. -/
def headWord? : List Token → Option String
  | .word word :: _ => plainText? word
  | _ => none

/-- The text after a reserved word. -/
def skipWord (word : String) (tokens : List Token) : Option (List Token) :=
  if headWord? tokens = some word then some tokens.tail else none

def skipSeparators (tokens : List Token) : List Token := tokens.dropWhile (· == .separator)

/-- Reads words and redirections. -/
def readItems : List Token → Option (List Item × List Token)
  | .word word :: rest => (readItems rest).map fun (items, rest) => (.word word :: items, rest)
  | .redirect descriptor redirection :: .word target :: rest =>
    (readItems rest).map fun (items, rest) =>
      (.redirect descriptor redirection target :: items, rest)
  | .redirect .. :: _ => none
  | tokens => some ([], tokens)

/-- The words that are gone through in turn; without any, the arguments of the script. -/
def readChosen (tokens : List Token) : Option (List Word × List Token) :=
  match skipWord "in" tokens with
  | none => some ([[.parameter "@" true]], tokens)
  | some rest => do
    let (items, rest) ← readItems rest
    let words ← items.mapM fun
      | .word word => some word
      | .redirect .. => none
    return (words, rest)

mutual

/-- Reads lines up to a word that ends them, a closing parenthesis or the end of the text. -/
def readLines (fuel : Nat) (condition : Condition) (tokens : List Token) :
    Option (List Pipeline × List Token) :=
  match fuel with
  | 0 => none
  | fuel + 1 =>
    let tokens := skipSeparators tokens
    if tokens.isEmpty || tokens.head? == some .closing ||
        (headWord? tokens).any endWords.contains then
      if condition = .always then some ([], tokens) else none
    else do
      let negated := headWord? tokens = some "!"
      let (commands, rest) ← readPiped fuel (if negated then tokens.tail else tokens)
      let pipeline := Pipeline.mk condition negated commands
      let goOn (condition : Condition) (rest : List Token) := do
        let (lines, rest) ← readLines fuel condition rest
        return (pipeline :: lines, rest)
      match rest with
      | .separator :: rest => goOn .always rest
      | .ifDone :: rest => goOn .ifDone rest
      | .ifFailed :: rest => goOn .ifFailed rest
      | rest => return ([pipeline], rest)

def readPiped (fuel : Nat) (tokens : List Token) : Option (List Command × List Token) :=
  match fuel with
  | 0 => none
  | fuel + 1 => do
    let (command, rest) ← readCommand fuel tokens
    match rest with
    | .pipe :: rest => do
      let (commands, rest) ← readPiped fuel rest
      return (command :: commands, rest)
    | rest => return ([command], rest)

def readCommand (fuel : Nat) (tokens : List Token) : Option (Command × List Token) :=
  match fuel with
  | 0 => none
  | fuel + 1 => do
    let compound (body : Compound) (rest : List Token) : Option (Command × List Token) := do
      let (items, rest) ← readItems rest
      if items.any (· matches .word _) then none
      return (.compound body items, rest)
    let block (endWord : String) (rest : List Token) := do
      let (lines, rest) ← readBody fuel rest
      return (lines, ← skipWord endWord rest)
    match tokens, headWord? tokens with
    | .opening :: rest, _ =>
      match ← readBody fuel rest with
      | (body, .closing :: rest) => compound (.subshell body) rest
      | _ => none
    | _, some "\x7b" =>
      let (body, rest) ← block "\x7d" tokens.tail
      compound (.group body) rest
    | _, some "if" =>
      let (body, rest) ← readBranch fuel tokens.tail
      compound body rest
    | .word _ :: .word name :: rest, some "for" =>
      let (words, rest) ← readChosen rest
      let (body, rest) ← block "done" (← skipWord "do" (skipSeparators rest))
      compound (.each (← plainText? name) words body) rest
    | _, some word =>
      if word = "while" ∨ word = "until" then
        let (test, rest) ← block "do" tokens.tail
        let (body, rest) ← block "done" rest
        compound (.repeated (word = "until") test body) rest
      else if word = "for" ∨ word = "!" ∨ refusedWords.contains word then none
      else simple tokens
    | _, none => simple tokens
where
  simple (tokens : List Token) : Option (Command × List Token) := do
    let (items, rest) ← readItems tokens
    if items.isEmpty then none
    return (.simple items, rest)

/-- Reads lines of which there must be some. -/
def readBody (fuel : Nat) (tokens : List Token) : Option (List Pipeline × List Token) :=
  match fuel with
  | 0 => none
  | fuel + 1 => do
    let (lines, rest) ← readLines fuel .always tokens
    if lines.isEmpty then none
    return (lines, rest)

/-- Reads a choice after its first word. -/
def readBranch (fuel : Nat) (tokens : List Token) : Option (Compound × List Token) :=
  match fuel with
  | 0 => none
  | fuel + 1 => do
    let (test, rest) ← readBody fuel tokens
    let (body, rest) ← readBody fuel (← skipWord "then" rest)
    match headWord? rest with
    | some "elif" =>
      let (inner, rest) ← readBranch fuel rest.tail
      return (.branch test body [.mk .always false [.compound inner []]], rest)
    | some "else" =>
      let (otherwise, rest) ← readBody fuel rest.tail
      return (.branch test body otherwise, ← skipWord "fi" rest)
    | _ => return (.branch test body [], ← skipWord "fi" rest)

end

/-- Reads a whole script; none if it is malformed or asks for more than is offered here. -/
def script? (source : String) : Option (List Pipeline) := do
  let tokens ← tokens? (source.toList.length + 1) source.toList
  match ← readLines (5 * tokens.length + 5) .always tokens with
  | (lines, []) => return lines
  | _ => none

end SecretVault.Shell
