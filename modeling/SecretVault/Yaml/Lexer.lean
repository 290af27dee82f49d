import SecretVault.Yaml.Block
import SecretVault.Yaml.Plain
import SecretVault.Yaml.Quoted
import SecretVault.Yaml.Token

/-!
From text to tokens. Indentation opens and closes block collections. A key is known as one only at
its colon, so the lexer keeps in mind where the last possible key began and puts the token in
front of it afterwards; such a key is on one line and at most 1024 characters long.

Source pin: `libyaml` 0.2.5: its scanner.
-/
namespace SecretVault.Yaml

/-- Where a key may have begun. -/
structure PossibleKey where
  /-- Whether nothing but a key can stand here. -/
  required : Bool
  tokensBefore : Nat
  start : Placed
  deriving DecidableEq, Repr

/-- Whether text at a place is too far away to belong to the key. -/
def PossibleKey.expired (key : PossibleKey) (p : Placed) : Bool :=
  key.start.line < p.line || key.start.index + 1024 < p.index

structure Lexer where
  input : Input
  /-- Tokens so far, latest first. -/
  tokens : List Token
  count : Nat
  /-- Column of the innermost block collection, below zero if there is none. -/
  indent : Int
  outerIndents : List Int
  /-- Whether a key may begin here. -/
  keyAllowed : Bool
  key : Option PossibleKey
  /-- Possible keys outside the flow collections that are open, innermost first. -/
  outerKeys : List (Option PossibleKey)

/-- Passes over spaces, comments and line ends. Says too whether a key may begin afterwards; where
one may, a tab is not passed over. -/
def passGaps (inFlow inComment keyAllowed : Bool) : Input → Bool × Input
  | [] => (keyAllowed, [])
  | p :: rest =>
    if isBreak p.char then passGaps inFlow false (keyAllowed || !inFlow) rest
    else if inComment || p.char == '#' then passGaps inFlow true keyAllowed rest
    else if p.char == ' ' || (p.char == '\t' && (inFlow || !keyAllowed)) ||
        (p.char == byteOrderMark && p.column == 0) then
      passGaps inFlow false keyAllowed rest
    else (keyAllowed, p :: rest)

/-- Whether a plain scalar starts with a character, given what follows it. -/
def startsPlain (inFlow : Bool) (p : Placed) (rest : Input) : Bool :=
  if p.char == '-' then !rest.char?.any isBlank
  else if p.char == '?' || p.char == ':' then !inFlow && !rest.atGap
  else !(Input.atGap (p :: rest)) && !",[]\x7b\x7d#&*!|>'\"%@\x60".toList.contains p.char

namespace Lexer

def start (text : List Char) : Lexer :=
  { input := place text, tokens := [], count := 0, indent := -1, outerIndents := [],
    keyAllowed := true, key := none, outerKeys := [] }

def inFlow (s : Lexer) : Bool := !s.outerKeys.isEmpty

def emit (s : Lexer) (token : Token) : Lexer :=
  { s with tokens := token :: s.tokens, count := s.count + 1 }

/-- Adds a token in front of all but the first ones. -/
def insert (s : Lexer) (tokensBefore : Nat) (token : Token) : Lexer :=
  { s with
    tokens := s.tokens.insertIdx (s.count - tokensBefore) token
    count := s.count + 1 }

/-- Closes the block collections that are further to the right than a column. -/
def closeBlocks (s : Lexer) (column : Int) : Lexer :=
  if s.inFlow then s else go s.indent s.outerIndents s
where
  go (indent : Int) : List Int → Lexer → Lexer
    | outer :: rest, s =>
      if column < indent then go outer rest (s.emit .blockEnd)
      else { s with indent := indent, outerIndents := outer :: rest }
    | [], s => { s with indent := indent, outerIndents := [] }

/-- Opens a block collection at a column that is to the right of the innermost one. -/
def openBlock (s : Lexer) (column tokensBefore : Nat) (token : Token) : Lexer :=
  if s.inFlow || column ≤ s.indent then s
  else
    { s.insert tokensBefore token with
      indent := column, outerIndents := s.indent :: s.outerIndents }

/-- Gives up the possible key; refused if there has to be one. -/
def dropKey? (s : Lexer) : Option Lexer :=
  if s.key.any (·.required) then none else some { s with key := none }

/-- Keeps in mind that a key may begin at a place. -/
def noteKey? (s : Lexer) (p : Placed) : Option Lexer :=
  if s.keyAllowed then
    s.dropKey?.map fun s =>
      { s with key := some ⟨!s.inFlow && s.indent == p.column, s.count, p⟩ }
  else some s

/-- Gives up the possible keys that are too far away from a place. -/
def expireKeys? (s : Lexer) (p : Placed) : Option Lexer :=
  if (s.key :: s.outerKeys).any (·.any fun key => key.required && key.expired p) then none
  else
    let keep : Option PossibleKey → Option PossibleKey := Option.filter (!·.expired p)
    some { s with key := keep s.key, outerKeys := s.outerKeys.map keep }

/-- A directive or a document marker ends whatever is open. -/
def betweenDocuments? (s : Lexer) (token : Token) (rest : Input) : Option Lexer :=
  (s.closeBlocks (-1)).dropKey?.map fun s =>
    { s.emit token with input := rest, keyAllowed := false }

def openFlow? (s : Lexer) (p : Placed) (token : Token) (rest : Input) : Option Lexer :=
  (s.noteKey? p).map fun s =>
    { s.emit token with
      input := rest, keyAllowed := true, key := none, outerKeys := s.key :: s.outerKeys }

def closeFlow? (s : Lexer) (token : Token) (rest : Input) : Option Lexer :=
  s.dropKey?.map fun s =>
    { s.emit token with
      input := rest, keyAllowed := false
      key := s.outerKeys.head?.getD none, outerKeys := s.outerKeys.tail }

/-- An indicator of a block collection; it opens one if need be. -/
def blockIndicator? (s : Lexer) (p : Placed) (collection token : Token) (rest : Input) :
    Option Lexer := do
  if !s.inFlow && !s.keyAllowed then none
  let s ← (s.openBlock p.column s.count collection).dropKey?
  return { s.emit token with input := rest }

/-- The colon between a key and its value. -/
def value? (s : Lexer) (p : Placed) (rest : Input) : Option Lexer :=
  match s.key with
  | some key =>
    let s := s.insert key.tokensBefore .key
    let s := s.openBlock key.start.column key.tokensBefore .blockMapping
    some { s.emit .value with input := rest, keyAllowed := false, key := none }
  | none =>
    if !s.inFlow && !s.keyAllowed then none
    else
      let s := s.openBlock p.column s.count .blockMapping
      some { s.emit .value with input := rest, keyAllowed := !s.inFlow }

/-- Anything that may be a key or begin one, once its token has been read. -/
def content? (s : Lexer) (p : Placed) (read : Option (Token × Input)) : Option Lexer := do
  let s ← s.noteKey? p
  let (token, rest) ← read
  return { s.emit token with input := rest, keyAllowed := false }

def blockScalar? (s : Lexer) (literal : Bool) (rest : Input) : Option Lexer := do
  let s ← s.dropKey?
  let (text, rest) ← readBlock literal s.indent rest
  return { s.emit (.scalar (String.ofList text) false) with input := rest, keyAllowed := true }

/-- After a line end a key may follow a plain scalar. -/
def plainScalar? (s : Lexer) (p : Placed) (rest : Input) : Option Lexer := do
  let s ← s.noteKey? p
  let scalar ← readPlain ⟨s.inFlow, (s.indent + 1).toNat⟩ [] .none (p :: rest)
  let s := s.emit (.scalar (String.ofList scalar.text) true)
  return { s with input := scalar.rest, keyAllowed := scalar.endsLine }

/-- Reads one token, given the character that comes next. -/
def next? (s : Lexer) (p : Placed) (rest : Input) : Option Lexer :=
  let quoted (read : Option (List Char × Input)) :=
    read.map fun (text, rest) => (Token.scalar (String.ofList text) false, rest)
  if p.column = 0 ∧ p.char = '%' then do
    let (token, rest) ← readDirective? rest
    s.betweenDocuments? token rest
  else if Input.marker '-' (p :: rest) then s.betweenDocuments? .documentStart (rest.drop 2)
  else if Input.marker '.' (p :: rest) then s.betweenDocuments? .documentEnd (rest.drop 2)
  else if p.char = '[' then s.openFlow? p .flowSequence rest
  else if p.char = '\x7b' then s.openFlow? p .flowMapping rest
  else if p.char = ']' then s.closeFlow? .flowSequenceEnd rest
  else if p.char = '\x7d' then s.closeFlow? .flowMappingEnd rest
  else if p.char = ',' then
    s.dropKey?.map fun s => { s.emit .flowEntry with input := rest, keyAllowed := true }
  else if p.char = '-' ∧ rest.atGap then
    (s.blockIndicator? p .blockSequence .blockEntry rest).map fun s => { s with keyAllowed := true }
  else if p.char = '?' ∧ (s.inFlow ∨ rest.atGap) then
    (s.blockIndicator? p .blockMapping .key rest).map fun s => { s with keyAllowed := !s.inFlow }
  else if p.char = ':' ∧ (s.inFlow ∨ rest.atGap) then s.value? p rest
  else if p.char = '*' then
    s.content? p ((readName? rest).map fun (name, rest) => (.alias name, rest))
  else if p.char = '&' then
    s.content? p ((readName? rest).map fun (name, rest) => (.anchor name, rest))
  else if p.char = '!' then
    s.content? p ((readTag? s.inFlow (p :: rest)).map fun (name, rest) => (.tag name, rest))
  else if p.char = '|' ∧ !s.inFlow then s.blockScalar? true rest
  else if p.char = '>' ∧ !s.inFlow then s.blockScalar? false rest
  else if p.char = '\'' then s.content? p (quoted (readSingle [] .none rest))
  else if p.char = '"' then s.content? p (quoted (readDouble [] .none rest))
  else if startsPlain s.inFlow p rest then s.plainScalar? p rest
  else none

/-- The end of the text closes all block collections. -/
def finish? (s : Lexer) : Option (List Token) :=
  (s.closeBlocks (-1)).dropKey?.map (·.tokens.reverse)

/-- Reads the remaining tokens. `fuel` bounds their number. -/
def run? (fuel : Nat) (s : Lexer) : Option (List Token) :=
  match fuel with
  | 0 => none
  | fuel + 1 =>
    let (keyAllowed, input) := passGaps s.inFlow false s.keyAllowed s.input
    let s := { s with keyAllowed, input }
    match input with
    | [] => s.finish?
    | p :: rest => do
      let s ← s.expireKeys? p
      run? fuel (← (s.closeBlocks p.column).next? p rest)

end Lexer

/-- The tokens of a text; none if it is malformed or holds a character that it must not hold. -/
def tokens? (text : List Char) : Option (List Token) :=
  if text.all isAllowed then (Lexer.start text).run? (text.length + 1) else none

end SecretVault.Yaml
