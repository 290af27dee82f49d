import SecretVault.Query.Composition

/-!
How SQL reads the text of a query. A text is cut into tokens first, where quoted texts and comments
are passed over as wholes and the placeholders are numbered from left to right. Behind `WHERE`
stands a condition: a disjunction of conjunctions of tests, so that `AND` binds tighter than `OR`
unless there are parentheses.
-/
namespace SecretVault.Sql

inductive Token where
  | word (text : List Char)
  | placeholder (number : Nat)
  /-- A text or a name in quotation marks. -/
  | quoted
  | symbol (c : Char)
  deriving DecidableEq, Repr

/-- Keywords are words, in capital letters or small ones. -/
def Token.is (keyword : String) : Token → Bool
  | .word text => text.map Char.toUpper == keyword.toList
  | .placeholder _ | .quoted | .symbol _ => false

/-- Where in a token a text has been left. -/
inductive Mode where
  | between
  | word (text : List Char)
  | quoted (closing : Char)
  | dash
  | lineComment
  | slash
  | blockComment
  /-- After an asterisk in a comment. -/
  | asterisk
  deriving DecidableEq, Repr

/-- How far a text has been cut, with the number of placeholders so far. -/
structure Scanner where
  mode : Mode
  placeholders : Nat
  deriving DecidableEq, Repr

def isBlank (c : Char) : Bool := [' ', '\t', '\n', '\x0c', '\r'].contains c

def isWordChar (c : Char) : Bool := c.isAlphanum || c == '_' || c == '$' || 128 ≤ c.toNat

namespace Scanner

/-- A character between two tokens. -/
def start (placeholders : Nat) (c : Char) : List Token × Scanner :=
  if isBlank c then ([], ⟨.between, placeholders⟩)
  else if isWordChar c then ([], ⟨.word [c], placeholders⟩)
  else if c = '?' then ([.placeholder placeholders], ⟨.between, placeholders + 1⟩)
  else if ['\x22', '\x27', '\x60'].contains c then ([], ⟨.quoted c, placeholders⟩)
  else if c = '[' then ([], ⟨.quoted ']', placeholders⟩)
  else if c = '-' then ([], ⟨.dash, placeholders⟩)
  else if c = '/' then ([], ⟨.slash, placeholders⟩)
  else ([.symbol c], ⟨.between, placeholders⟩)

/-- A character behind a token that it does not belong to. -/
def startAfter (token : Token) (placeholders : Nat) (c : Char) : List Token × Scanner :=
  (token :: (start placeholders c).1, (start placeholders c).2)

/-- The next character, with the tokens that it ends. A doubled quotation mark ends one quoted text
and starts another, which makes no difference to what comes after. -/
def step (s : Scanner) (c : Char) : List Token × Scanner :=
  match s.mode with
  | .between => start s.placeholders c
  | .word text =>
    if isWordChar c then ([], { s with mode := .word (text ++ [c]) })
    else startAfter (.word text) s.placeholders c
  | .quoted closing =>
    if c = closing then ([.quoted], { s with mode := .between }) else ([], s)
  | .dash =>
    if c = '-' then ([], { s with mode := .lineComment })
    else startAfter (.symbol '-') s.placeholders c
  | .lineComment => ([], if c = '\n' then { s with mode := .between } else s)
  | .slash =>
    if c = '*' then ([], { s with mode := .blockComment })
    else startAfter (.symbol '/') s.placeholders c
  | .blockComment => ([], if c = '*' then { s with mode := .asterisk } else s)
  | .asterisk =>
    ([], { s with
      mode := if c = '/' then .between else if c = '*' then .asterisk else .blockComment })

def scan : Scanner → List Char → List Token × Scanner
  | s, [] => ([], s)
  | s, c :: rest =>
    ((s.step c).1 ++ (scan (s.step c).2 rest).1, (scan (s.step c).2 rest).2)

end Scanner

/-- The tokens of a text from here on. The end of a text ends what the end of a line does. -/
def tokensFrom (placeholders : Nat) (text : String) : List Token :=
  (Scanner.scan ⟨.between, placeholders⟩ (text.toList ++ ['\n'])).1

def tokens (text : String) : List Token := tokensFrom 0 text

/-- What stands behind the first `WHERE`. -/
def afterWhere (tokens : List Token) : Option (List Token) :=
  match tokens.dropWhile fun token => !token.is "WHERE" with
  | [] => none
  | _ :: rest => some rest

/-- A text that can be followed by `WHERE`: it has none, and all its quoted texts and comments are
closed. -/
def Opens (text : String) : Prop :=
  (Scanner.scan ⟨.between, 0⟩ (text.toList ++ ['\n'])).2.mode = .between ∧
    ∀ token ∈ tokens text, token.is "WHERE" = false

instance (text : String) : Decidable (Opens text) := inferInstanceAs (Decidable (_ ∧ _))

/-- How conditions are joined. -/
inductive Joint where
  | and | or
  deriving DecidableEq, Repr

def Joint.keyword : Joint → String
  | .and => "AND"
  | .or => "OR"

/-- A condition as it is read, with the numbers of its placeholders. -/
inductive Condition where
  | glob (column : String) (number : Nat)
  | among (column : String) (numbers : List Nat)
  | joined (joint : Joint) (first second : Condition)
  deriving DecidableEq, Repr

inductive Level where
  | test
  | joined (joint : Joint)
  deriving DecidableEq, Repr

/-- What is joined: tests to a conjunction, and conjunctions to a disjunction. -/
def Joint.operand : Joint → Level
  | .and => .test
  | .or => .joined .and

/-- The text goes on with something else than this keyword. -/
def Stops (keyword : String) (tokens : List Token) : Prop :=
  ∀ token ∈ tokens.head?, token.is keyword = false

/-- Placeholders separated by commas, up to a closing parenthesis. -/
inductive ReadsNumbers : List Token → List Nat → List Token → Prop where
  | last {number : Nat} {rest : List Token} :
      ReadsNumbers (.placeholder number :: .symbol ')' :: rest) [number] rest
  | more {number : Nat} {numbers : List Nat} {ts rest : List Token}
      (others : ReadsNumbers ts numbers rest) :
      ReadsNumbers (.placeholder number :: .symbol ',' :: ts) (number :: numbers) rest

/-- A column with the table that it belongs to. -/
def qualified (table name : List Char) : String := String.ofList (table ++ '.' :: name)

/-- The grammar of conditions: what is read at the start of a text, and what is left of it. -/
inductive Reads : Level → List Token → Condition → List Token → Prop where
  | glob {table name : List Char} {keyword : Token} {number : Nat} {rest : List Token}
      (is : keyword.is "GLOB" = true) :
      Reads .test
        (.word table :: .symbol '.' :: .word name :: keyword :: .placeholder number :: rest)
        (.glob (qualified table name) number) rest
  | among {table name : List Char} {keyword : Token} {numbers : List Nat} {ts rest : List Token}
      (is : keyword.is "IN" = true) (list : ReadsNumbers ts numbers rest) :
      Reads .test
        (.word table :: .symbol '.' :: .word name :: keyword :: .symbol '(' :: ts)
        (.among (qualified table name) numbers) rest
  | group {ts rest : List Token} {c : Condition}
      (inner : Reads (.joined .or) ts c (.symbol ')' :: rest)) :
      Reads .test (.symbol '(' :: ts) c rest
  | last {joint : Joint} {ts rest : List Token} {c : Condition}
      (only : Reads joint.operand ts c rest) (stops : Stops joint.keyword rest) :
      Reads (.joined joint) ts c rest
  | join {joint : Joint} {ts later rest : List Token} {keyword : Token} {c d : Condition}
      (first : Reads joint.operand ts c (keyword :: later))
      (is : keyword.is joint.keyword = true) (second : Reads (.joined joint) later d rest) :
      Reads (.joined joint) ts (.joined joint c d) rest

/-- The text has this condition, and this is left behind it. -/
def Means (text : String) (condition : Condition) (rest : List Token) : Prop :=
  ∃ ts, afterWhere (tokens text) = some ts ∧ Reads (.joined .or) ts condition rest

/-- A row, by the comparisons of its columns with values. -/
structure Row where
  globs : String → Param → Prop
  equals : String → Param → Prop

def Joint.Holds : Joint → Prop → Prop → Prop
  | .and => And
  | .or => Or

namespace Condition

/-- A condition is true of a row, the placeholders being bound to the values with their numbers. -/
def Holds (row : Row) (values : List Param) : Condition → Prop
  | .glob column number => ∃ value, values[number]? = some value ∧ row.globs column value
  | .among column numbers =>
    ∃ number ∈ numbers, ∃ value, values[number]? = some value ∧ row.equals column value
  | .joined joint first second => joint.Holds (first.Holds row values) (second.Holds row values)

/-- The placeholders from left to right. -/
def numbers : Condition → List Nat
  | .glob _ number => [number]
  | .among _ numbers => numbers
  | .joined _ first second => first.numbers ++ second.numbers

/-- Patterns are bound to texts and members of lists to numbers. -/
def Typed (values : List Param) : Condition → Prop
  | .glob _ number => ∃ text, values[number]? = some (.text text)
  | .among _ numbers => ∀ number ∈ numbers, ∃ id, values[number]? = some (.int id)
  | .joined _ first second => first.Typed values ∧ second.Typed values

end Condition

/-! There is one way to read a condition. -/

theorem ReadsNumbers.unique {ts rest rest' : List Token} {numbers numbers' : List Nat}
    (first : ReadsNumbers ts numbers rest) (second : ReadsNumbers ts numbers' rest') :
    numbers' = numbers ∧ rest' = rest := by
  induction first generalizing numbers' with
  | last =>
    cases second with
    | last => exact ⟨rfl, rfl⟩
  | more others ih =>
    cases second with
    | more others' =>
      obtain ⟨rfl, rfl⟩ := ih others'
      exact ⟨rfl, rfl⟩

theorem not_stops {keyword : String} {token : Token} {rest : List Token}
    (is : token.is keyword = true) : ¬ Stops keyword (token :: rest) := by
  intro stops
  have other := stops token rfl
  rw [is] at other
  cases other

theorem Reads.unique {level : Level} {ts rest rest' : List Token} {c c' : Condition}
    (first : Reads level ts c rest) (second : Reads level ts c' rest') : c' = c ∧ rest' = rest := by
  induction first generalizing c' rest' with
  | glob is =>
    cases second with
    | glob _ => exact ⟨rfl, rfl⟩
  | among is list =>
    cases second with
    | among _ list' =>
      obtain ⟨rfl, rfl⟩ := list.unique list'
      exact ⟨rfl, rfl⟩
  | group inner ih =>
    cases second with
    | group inner' =>
      obtain ⟨rfl, same⟩ := ih inner'
      exact ⟨rfl, (List.cons.inj same).2⟩
  | last only stops ih =>
    cases second with
    | last only' _ => exact ih only'
    | join first' is' _ =>
      obtain ⟨-, rfl⟩ := ih first'
      exact absurd stops (not_stops is')
  | join first is second ihFirst ihSecond =>
    cases second with
    | last only' stops' =>
      obtain ⟨-, rfl⟩ := ihFirst only'
      exact absurd stops' (not_stops is)
    | join first' _ second' =>
      obtain ⟨rfl, same⟩ := ihFirst first'
      obtain ⟨-, rfl⟩ := List.cons.inj same
      obtain ⟨rfl, rfl⟩ := ihSecond second'
      exact ⟨rfl, rfl⟩

/-- A text has at most one condition. -/
theorem Means.unique {text : String} {c c' : Condition} {rest rest' : List Token}
    (first : Means text c rest) (second : Means text c' rest') : c' = c ∧ rest' = rest := by
  obtain ⟨ts, found, reads⟩ := first
  obtain ⟨ts', found', reads'⟩ := second
  obtain rfl := Option.some.inj (found.symm.trans found')
  exact reads.unique reads'

end SecretVault.Sql
