/-!
Patterns over text. A pattern is read into items: `*` is any run of characters, `?` one character,
a bracket one character of a set, and every other character stands for itself. Text is compared by
codes, and both a pattern and a value end at their first NUL.

Source pin: the patterns that `patternCompare` of SQLite 3.46 reads under `GLOB`; its bound on their
length.
-/
namespace SecretVault.Glob

/-- The number by which a character is compared. -/
abbrev Code := Nat

/-- The noncharacters U+FFFE and U+FFFF count as the replacement character. -/
def normalCode (code : Code) : Code :=
  if code = 0xFFFE ∨ code = 0xFFFF then 0xFFFD else code

/-- The codes of a text up to its first NUL. -/
def codes (s : String) : List Code :=
  (s.toList.takeWhile (· != '\x00')).map fun c => normalCode c.toNat

/-- The codes that stand for something else in a pattern, and those that shape a bracket. -/
def star : Code := '*'.toNat
def question : Code := '?'.toNat
def openBracket : Code := '['.toNat
def closeBracket : Code := ']'.toNat
def caret : Code := '^'.toNat
def dash : Code := '-'.toNat

/-- A set of codes given by closed ranges, or the complement of one. -/
structure Bracket where
  negated : Bool
  ranges : List (Code × Code)
  deriving DecidableEq, Repr

def Bracket.contains (b : Bracket) (code : Code) : Bool :=
  (b.ranges.any fun range => range.1 ≤ code && code ≤ range.2) != b.negated

/-- Reads the members of a bracket up to its closing bracket; none if it never closes. `before` is
the member that a following dash would extend to a range, 0 if there is none. -/
def readRanges (ranges : List (Code × Code)) (before : Code) :
    List Code → Option (List (Code × Code) × List Code)
  | [] => none
  | c :: rest =>
    if c = closeBracket then some (ranges, rest)
    else if c = dash ∧ 0 < before then
      match rest with
      | [] => none
      | last :: after =>
        if last = closeBracket then some ((c, c) :: ranges, after)
        else readRanges ((before, last) :: ranges) 0 after
    else readRanges ((c, c) :: ranges) c rest

/-- Reads what follows an opening bracket: a caret negates, and a closing bracket that comes first
is a member. -/
def Bracket.read (cs : List Code) : Option (Bracket × List Code) :=
  let negated := cs.head? == some caret
  let cs := if negated then cs.tail else cs
  let ranges := if cs.head? = some closeBracket then [(closeBracket, closeBracket)] else []
  let cs := if cs.head? = some closeBracket then cs.tail else cs
  (readRanges ranges 0 cs).map fun (ranges, rest) => (⟨negated, ranges⟩, rest)

theorem readRanges_length {ranges : List (Code × Code)} {before : Code} {cs : List Code}
    {result : List (Code × Code) × List Code} (h : readRanges ranges before cs = some result) :
    result.2.length < cs.length := by
  fun_induction readRanges ranges before cs <;> grind

theorem Bracket.read_length {cs : List Code} {result : Bracket × List Code}
    (h : Bracket.read cs = some result) : result.2.length < cs.length := by
  simp only [Bracket.read, Option.map_eq_some_iff] at h
  obtain ⟨pair, hpair, rfl⟩ := h
  have := readRanges_length hpair
  grind

/-- One step of a pattern. An unclosed bracket matches no character at all. -/
inductive Item where
  | run
  | one
  | set (b : Bracket)
  | unclosed
  | code (c : Code)
  deriving DecidableEq, Repr

/-- The items of a pattern. Nothing after an unclosed bracket can matter. -/
def items : List Code → List Item
  | [] => []
  | c :: rest =>
    if c = star then .run :: items rest
    else if c = question then .one :: items rest
    else if c = openBracket then
      match h : Bracket.read rest with
      | none => [.unclosed]
      | some (b, after) =>
        have : after.length < rest.length := Bracket.read_length h
        .set b :: items after
    else .code c :: items rest
termination_by cs => cs.length

/-- The characters before the first wildcard, bracket or NUL. -/
def literalText (pattern : String) : List Char :=
  pattern.toList.takeWhile fun c => c != '\x00' && c != '*' && c != '?' && c != '['

/-- Whether a pattern is its literal text and one run. -/
def endsInRun (pattern : String) : Bool :=
  match pattern.toList.drop (literalText pattern).length with
  | '*' :: rest => rest.head?.all (· == '\x00')
  | _ => false

/-- A text with its last character replaced by the next one. -/
def successor : List Char → List Char
  | [] => []
  | [c] => [Char.ofNat (c.toNat + 1)]
  | c :: rest => c :: successor rest

/-- Longer patterns, in bytes, are refused instead of being tried. -/
def maxPatternBytes : Nat := 50000

def tooLong (pattern : String) : Bool := maxPatternBytes < pattern.utf8ByteSize

end SecretVault.Glob
