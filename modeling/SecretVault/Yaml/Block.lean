import SecretVault.Yaml.Input

/-!
Block scalars: text on lines of their own, indented below the line that announces it. A literal
keeps its line breaks; a folded one joins lines that are neither indented further nor empty. The
header may give the indentation and say what becomes of the line breaks at the end.

Source pin: `libyaml` 0.2.5, which `serde_yaml` 0.9 carries: its scanner.
-/
namespace SecretVault.Yaml

/-- What becomes of the line breaks at the end: one stays, none, or all. -/
inductive Chomping where
  | clip | strip | keep
  deriving DecidableEq, Repr

structure BlockHeader where
  chomping : Chomping
  /-- Columns of indentation below the parent, 0 if the text shows them. -/
  increment : Nat
  deriving DecidableEq, Repr

def readChomping? (input : Input) : Option (Chomping × Input) :=
  match input with
  | p :: rest =>
    if p.char = '+' then some (.keep, rest) else if p.char = '-' then some (.strip, rest) else none
  | [] => none

/-- An indentation digit; 0 is no indentation. -/
def readIncrement? (input : Input) : Option (Nat × Input) :=
  match input with
  | p :: rest => if '0' ≤ p.char ∧ p.char ≤ '9' then some (p.char.toNat - '0'.toNat, rest) else none
  | [] => none

/-- Reads a header after its indicator, with the rest of its line. -/
def readHeader? (input : Input) : Option (BlockHeader × Input) := do
  let (header, rest, zero) :=
    match readChomping? input with
    | some (chomping, rest) =>
      match readIncrement? rest with
      | some (n, rest) => ((⟨chomping, n⟩ : BlockHeader), rest, n == 0)
      | none => (⟨chomping, 0⟩, rest, false)
    | none =>
      match readIncrement? input with
      | some (n, rest) =>
        match readChomping? rest with
        | some (chomping, rest) => (⟨chomping, n⟩, rest, n == 0)
        | none => (⟨.clip, n⟩, rest, n == 0)
      | none => (⟨.clip, 0⟩, input, false)
  if zero then none
  else (rest.dropLineEnd?).map fun rest => (header, rest)

/-- Empty lines and indentation in front of a line of text. -/
structure Margin where
  breaks : List Char
  /-- The greatest column that was reached. -/
  widest : Nat
  rest : Input

/-- Passes over empty lines and indentation: as far as `indent`, or as far as there are spaces if
it is not known. A tab must not stand in the indentation. -/
def readMargin (indent : Option Nat) (breaks : List Char) (widest : Nat) (input : Input) :
    Option Margin :=
  match input with
  | [] => some ⟨breaks, widest, []⟩
  | p :: rest =>
    let inside := indent.all (p.column < ·)
    let widest := max widest p.column
    if inside && p.char == ' ' then readMargin indent breaks widest rest
    else if inside && p.char == '\t' then none
    else
      match h : Input.takeBreak? (p :: rest) with
      | some (text, after) =>
        have := Input.takeBreak?_length h
        readMargin indent (breaks ++ text) widest after
      | none => some ⟨breaks, widest, p :: rest⟩
termination_by input.length
decreasing_by all_goals simp only [List.length_cons] at *; omega

/-- What lies between the last line of a block scalar and the next one. -/
structure BlockGap where
  first : List Char
  more : List Char
  /-- Whether the last line begins with a blank. -/
  afterBlank : Bool

/-- The line breaks in front of a further line, which begins with a blank or not. -/
def BlockGap.text (gap : BlockGap) (literal beforeBlank : Bool) : List Char :=
  if !literal && gap.first.head? == some '\n' && !gap.afterBlank && !beforeBlank then
    (if gap.more.isEmpty then [' '] else gap.more)
  else gap.first ++ gap.more

/-- The line breaks after the last line. -/
def BlockGap.last (gap : BlockGap) : Chomping → List Char
  | .strip => []
  | .clip => gap.first
  | .keep => gap.first ++ gap.more

/-- Whether the next character is at the given column. -/
def Input.atColumn (input : Input) (column : Nat) : Bool :=
  match input with
  | [] => false
  | p :: _ => p.column == column

/-- Reads the lines of a block scalar, with what has been read, latest first. `fuel` bounds their
number. -/
def readLines (literal : Bool) (chomping : Chomping) (indent : Nat) (before : List Char)
    (gap : BlockGap) (fuel : Nat) (input : Input) : Option (List Char × Input) :=
  match fuel with
  | 0 => none
  | fuel + 1 =>
    if !input.atColumn indent then some (before.reverse ++ gap.last chomping, input)
    else do
      let beginsBlank := input.char?.any isBlank
      let (line, rest) := input.takeWhile fun c => !isBreak c
      let before := line.reverse ++ (gap.text literal beginsBlank).reverse ++ before
      let (first, rest) := rest.takeBreak?.getD ([], rest)
      let margin ← readMargin (some indent) [] 0 rest
      readLines literal chomping indent before ⟨first, margin.breaks, beginsBlank⟩ fuel margin.rest

/-- Reads a block scalar after its indicator. `parent` is the column of the enclosing collection,
below zero if there is none. -/
def readBlock (literal : Bool) (parent : Int) (input : Input) : Option (List Char × Input) := do
  let (header, rest) ← readHeader? input
  let given :=
    if header.increment = 0 then none else some ((max parent 0).toNat + header.increment)
  let margin ← readMargin given [] 0 rest
  let indent := given.getD (max margin.widest (max (parent + 1).toNat 1))
  readLines literal header.chomping indent [] ⟨[], margin.breaks, false⟩ (rest.length + 1)
    margin.rest

end SecretVault.Yaml
