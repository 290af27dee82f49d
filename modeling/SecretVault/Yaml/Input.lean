/-!
Text with positions. Every character carries its line, its column and its index, so that reading
needs no counters. A line ends with a carriage return, a line feed, both together, or one of three
further breaks.

Source pin: `libyaml` 0.2.5: its reader and its marks.
-/
namespace SecretVault.Yaml

structure Placed where
  char : Char
  line : Nat
  column : Nat
  index : Nat
  deriving DecidableEq, Repr

abbrev Input := List Placed

def nextLine : Char := Char.ofNat 0x85
def lineSeparator : Char := Char.ofNat 0x2028
def paragraphSeparator : Char := Char.ofNat 0x2029
def byteOrderMark : Char := Char.ofNat 0xFEFF

def isBreak (c : Char) : Bool :=
  c == '\r' || c == '\n' || c == nextLine || c == lineSeparator || c == paragraphSeparator

def isBlank (c : Char) : Bool := c == ' ' || c == '\t'

/-- Gives every character its place, the first one the given one. -/
def placeFrom (line column index : Nat) : List Char → Input
  | [] => []
  | c :: rest =>
    let endsLine := isBreak c && !(c == '\r' && rest.head? == some '\n')
    ⟨c, line, column, index⟩ ::
      if endsLine then placeFrom (line + 1) 0 (index + 1) rest
      else placeFrom line (column + 1) (index + 1) rest

def place (text : List Char) : Input := placeFrom 0 0 0 text

/-- Characters that may stand in a text. -/
def isAllowed (c : Char) : Bool :=
  let n := c.toNat
  n == 0x09 || n == 0x0A || n == 0x0D || (0x20 ≤ n && n ≤ 0x7E) || n == 0x85 ||
    (0xA0 ≤ n && n ≤ 0xD7FF) || (0xE000 ≤ n && n ≤ 0xFFFD) || 0x10000 ≤ n

namespace Input

def char? (input : Input) : Option Char := input.head?.map Placed.char

def startsWith (input : Input) (c : Char) : Bool := input.char? == some c

/-- Whether white space, a line end or the end of the text comes first. -/
def atGap : Input → Bool
  | [] => true
  | p :: _ => isBlank p.char || isBreak p.char

/-- Whether a line starts here with three such characters and a gap. -/
def marker (c : Char) : Input → Bool
  | p :: q :: r :: rest =>
    p.column == 0 && p.char == c && q.char == c && r.char == c && atGap rest
  | _ => false

/-- Whether a document starts or ends here. -/
def atDocumentMarker (input : Input) : Bool := input.marker '-' || input.marker '.'

/-- Splits off a line break, with the text that it stands for: all but two of the breaks count as
a line feed. -/
def takeBreak? : Input → Option (List Char × Input)
  | [] => none
  | p :: rest =>
    if p.char = '\r' then
      match rest with
      | q :: after => if q.char = '\n' then some (['\n'], after) else some (['\n'], rest)
      | [] => some (['\n'], [])
    else if p.char = '\n' ∨ p.char = nextLine then some (['\n'], rest)
    else if p.char = lineSeparator ∨ p.char = paragraphSeparator then some ([p.char], rest)
    else none

theorem takeBreak?_length {input rest : Input} {text : List Char}
    (h : takeBreak? input = some (text, rest)) : rest.length < input.length := by
  unfold takeBreak? at h
  grind

/-- Splits off the longest start whose characters satisfy a test. -/
def takeWhile (test : Char → Bool) (input : Input) : List Char × Input :=
  ((List.takeWhile (fun p => test p.char) input).map Placed.char,
    List.dropWhile (fun p => test p.char) input)

/-- What follows the longest start whose characters satisfy a test. -/
def dropWhile (test : Char → Bool) (input : Input) : Input :=
  List.dropWhile (fun p => test p.char) input

/-- Passes over blanks and a comment to the end of the line; none if anything else is there. -/
def dropLineEnd? (input : Input) : Option Input :=
  let rest := input.dropWhile isBlank
  let rest := if rest.startsWith '#' then rest.dropWhile (fun c => !isBreak c) else rest
  match rest with
  | [] => some []
  | rest => rest.takeBreak?.map (·.2)

end Input
end SecretVault.Yaml
