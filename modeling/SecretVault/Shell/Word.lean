/-!
Words and other tokens of a command line. A word is made of fragments: text, parameters and
commands whose output stands in their place. What is quoted is not divided into fields later.
-/
namespace SecretVault.Shell

inductive Fragment where
  | text (text : List Char) (quoted : Bool)
  | parameter (name : String) (quoted : Bool)
  | command (source : List Char) (quoted : Bool)
  deriving DecidableEq, Repr

abbrev Word := List Fragment

/-- What a redirection does with a descriptor. -/
inductive Redirection where
  | read | write | append | duplicate
  deriving DecidableEq, Repr

inductive Token where
  | word (word : Word)
  | redirect (descriptor : Nat) (redirection : Redirection)
  | separator
  | pipe
  | ifDone
  | ifFailed
  | opening
  | closing
  deriving DecidableEq, Repr

def isNameStart (c : Char) : Bool := c.isAlpha || c == '_'

def isNameChar (c : Char) : Bool := c.isAlphanum || c == '_'

/-- Characters that end a word unless they are quoted. -/
def endsWord (c : Char) : Bool := " \t\n;&|<>()".toList.contains c

/-- Splits a text before the parenthesis that closes it, which is dropped. -/
def untilClosed (depth : Nat) (quote : Option Char) (escaped : Bool) :
    List Char → Option (List Char × List Char)
  | [] => none
  | c :: rest =>
    let keep (depth : Nat) (quote : Option Char) (escaped : Bool) :=
      (untilClosed depth quote escaped rest).map fun (inner, rest) => (c :: inner, rest)
    if escaped then keep depth quote false
    else if c = '\\' ∧ quote ≠ some '\'' then keep depth quote true
    else if quote.isSome then keep depth (if quote = some c then none else quote) false
    else if c = '\'' ∨ c = '"' then keep depth (some c) false
    else if c = '(' then keep (depth + 1) none false
    else if c = ')' then (if depth = 0 then some ([], rest) else keep (depth - 1) none false)
    else keep depth none false

/-- Splits a text before the next of a character, which is dropped. -/
def untilChar (mark : Char) (text : List Char) : Option (List Char × List Char) :=
  match text.dropWhile (· != mark) with
  | [] => none
  | _ :: rest => some (text.takeWhile (· != mark), rest)

/-- Reads what stands after a dollar sign; if nothing fits, the sign stands for itself. -/
def readDollar (quoted : Bool) (text : List Char) : Option (Fragment × List Char) :=
  match text with
  | '(' :: rest =>
    (untilClosed 0 none false rest).map fun (source, rest) => (.command source quoted, rest)
  | '\x7b' :: rest =>
    (untilChar '\x7d' rest).map fun (name, rest) => (.parameter (String.ofList name) quoted, rest)
  | c :: rest =>
    if isNameStart c then
      some (.parameter (String.ofList (text.takeWhile isNameChar)) quoted,
        text.dropWhile isNameChar)
    else if c.isDigit || "?$#@*".toList.contains c then
      some (.parameter (String.singleton c) quoted, rest)
    else some (.text ['$'] quoted, text)
  | [] => some (.text ['$'] quoted, [])

/-- Reads a word, or the part of one up to its closing quote. `fuel` bounds its length. -/
def readWord (fuel : Nat) (quoted : Bool) (text : List Char) : Option (Word × List Char) :=
  match fuel with
  | 0 => none
  | fuel + 1 =>
    let after (fragment : Fragment) (rest : List Char) :=
      (readWord fuel quoted rest).map fun (word, rest) => (fragment :: word, rest)
    match text with
    | [] => if quoted then none else some ([], [])
    | '\\' :: c :: rest =>
      if c = '\n' then readWord fuel quoted rest
      else if quoted && !("$\x60\"\\".toList.contains c) then after (.text ['\\', c] true) rest
      else after (.text [c] true) rest
    | '$' :: rest => do
      let (fragment, rest) ← readDollar quoted rest
      after fragment rest
    | '\x60' :: rest => do
      let (source, rest) ← untilChar '\x60' rest
      after (.command source quoted) rest
    | c :: rest =>
      if quoted then (if c = '"' then some ([], rest) else after (.text [c] true) rest)
      else if endsWord c then some ([], text)
      else if c = '\'' then do
        let (inner, rest) ← untilChar '\'' rest
        after (.text inner true) rest
      else if c = '"' then do
        let (inner, rest) ← readWord fuel true rest
        let (word, rest) ← readWord fuel false rest
        some (if inner = [.parameter "@" true] then inner ++ word
          else .text [] true :: inner ++ word, rest)
      else after (.text [c] false) rest

/-- Reads a redirection after its descriptor. -/
def readRedirection (text : List Char) : Option (Redirection × List Char) :=
  match text with
  | '<' :: '<' :: _ => none
  | '<' :: '&' :: rest | '>' :: '&' :: rest => some (.duplicate, rest)
  | '<' :: rest => some (.read, rest)
  | '>' :: '>' :: rest => some (.append, rest)
  | '>' :: '|' :: rest => some (.write, rest)
  | '>' :: rest => some (.write, rest)
  | _ => none

def isAngle (c : Char) : Bool := c == '<' || c == '>'

/-- The tokens of a text; none if it is malformed or asks for more than is offered here. `fuel`
bounds their number. -/
def tokens? (fuel : Nat) (text : List Char) : Option (List Token) :=
  match fuel with
  | 0 => none
  | fuel + 1 =>
    let after (token : Token) (rest : List Char) := (tokens? fuel rest).map (token :: ·)
    let redirected (descriptor : Nat) (text : List Char) := do
      let (redirection, rest) ← readRedirection text
      after (.redirect descriptor redirection) rest
    match text with
    | [] => some []
    | '&' :: '&' :: rest => after .ifDone rest
    | '|' :: '|' :: rest => after .ifFailed rest
    | '|' :: rest => after .pipe rest
    | c :: rest =>
      if c = ' ' ∨ c = '\t' then tokens? fuel rest
      else if c = '\n' ∨ c = ';' then after .separator rest
      else if c = '#' then tokens? fuel (rest.dropWhile (· != '\n'))
      else if c = '(' then after .opening rest
      else if c = ')' then after .closing rest
      else if c = '<' then redirected 0 text
      else if c = '>' then redirected 1 text
      else if c.isDigit && rest.head?.any isAngle then redirected (c.toNat - '0'.toNat) rest
      else if endsWord c then none
      else do
        let (word, rest) ← readWord (text.length + 1) false text
        after (.word word) rest

end SecretVault.Shell
