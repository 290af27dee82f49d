import SecretVault.Labeled
import SecretVault.Text.Magnitude
import SecretVault.Text.Radix

/-!
Reading JSON text as search results. A text is read from left to right, and the first fault decides
whether it is malformed, of the wrong shape, or cut short. Members that a secret does not have are
passed over, and a secret may be given as an array of its name and its labels. A reader answers what
it has read and the text after it.

Source pin: `serde_json` 1, for `LabeledSecrets` in `vlt::aggregate`.
-/
namespace SecretVault.Json
open SecretVault.Text

inductive Fault where
  | malformed | mismatch | truncated
  deriving DecidableEq, Repr

def isBlank (c : Char) : Bool := c == ' ' || c == '\n' || c == '\t' || c == '\r'

def skipBlanks (cs : List Char) : List Char := cs.dropWhile isBlank

/-- The number that four hexadecimal digits give. -/
def hexFour? (a b c d : Char) : Option Nat := Radix.read? 16 [a, b, c, d]

/-- The fault where four hexadecimal digits should stand: the text is cut short if fewer than four
bytes are left. -/
def hexFault (cs : List Char) : Fault :=
  if cs.foldl (fun size c => size + c.utf8Size) 0 < 4 then .truncated else .malformed

/-- The character of an escape with one letter. -/
def unescape? : Char → Option Char
  | '"' => some '"'
  | '\\' => some '\\'
  | '/' => some '/'
  | 'b' => some '\x08'
  | 'f' => some '\x0c'
  | 'n' => some '\n'
  | 'r' => some '\r'
  | 't' => some '\t'
  | _ => none

def isHighSurrogate (n : Nat) : Bool := 0xD800 ≤ n && n ≤ 0xDBFF
def isLowSurrogate (n : Nat) : Bool := 0xDC00 ≤ n && n ≤ 0xDFFF

/-- Reads text after its opening quote, with the characters before, latest first. A surrogate needs
its partner. -/
def readQuoted (before : List Char) :
    List Char → Except Fault (List Char × List Char)
  | [] => .error .truncated
  | '"' :: rest => .ok (before.reverse, rest)
  | ['\\'] => .error .truncated
  | '\\' :: 'u' :: a :: b :: c :: d :: rest =>
    match hexFour? a b c d with
    | none => .error .malformed
    | some code =>
      if isLowSurrogate code then .error .malformed
      else if isHighSurrogate code then
        match rest with
        | [] => .error .truncated
        | ['\\'] => .error .truncated
        | '\\' :: 'u' :: e :: f :: g :: h :: rest =>
          match hexFour? e f g h with
          | none => .error .malformed
          | some low =>
            if isLowSurrogate low then
              let full := 0x10000 + (code - 0xD800) * 0x400 + (low - 0xDC00)
              readQuoted (Char.ofNat full :: before) rest
            else .error .malformed
        | '\\' :: 'u' :: rest => .error (hexFault rest)
        | _ => .error .malformed
      else readQuoted (Char.ofNat code :: before) rest
  | '\\' :: 'u' :: rest => .error (hexFault rest)
  | '\\' :: letter :: rest =>
    match unescape? letter with
    | some c => readQuoted (c :: before) rest
    | none => .error .malformed
  | c :: rest => if c.toNat < 0x20 then .error .malformed else readQuoted (c :: before) rest

/-- Passes over text after its opening quote; surrogates are not checked. -/
def skipQuoted : List Char → Except Fault (List Char)
  | [] => .error .truncated
  | '"' :: rest => .ok rest
  | ['\\'] => .error .truncated
  | '\\' :: 'u' :: a :: b :: c :: d :: rest =>
    if (hexFour? a b c d).isSome then skipQuoted rest else .error .malformed
  | '\\' :: 'u' :: rest => .error (hexFault rest)
  | '\\' :: letter :: rest =>
    if (unescape? letter).isSome then skipQuoted rest else .error .malformed
  | c :: rest => if c.toNat < 0x20 then .error .malformed else skipQuoted rest

/-- Expects the letters of a word. -/
def readWord : List Char → List Char → Except Fault (List Char)
  | [], cs => .ok cs
  | _ :: _, [] => .error .truncated
  | letter :: word, c :: rest => if c = letter then readWord word rest else .error .malformed

/-- Reads the digits that a point or an exponent calls for. -/
def readDigits (cs : List Char) : Except Fault (List Char × List Char) :=
  match Decimal.splitDigits cs with
  | ([], []) => .error .truncated
  | ([], _ :: _) => .error .malformed
  | (digits, rest) => .ok (digits, rest)

/-- Reads an exponent after its mark. -/
def readExponent (cs : List Char) : Except Fault (Int × List Char) :=
  let (down, cs) :=
    match cs with
    | '-' :: rest => (true, rest)
    | '+' :: rest => (false, rest)
    | cs => (false, cs)
  (readDigits cs).map fun (digits, rest) =>
    (if down then -(Decimal.digitsValue digits : Int) else (Decimal.digitsValue digits : Int), rest)

/-- Reads a number; its value if it is written as an integer other than negative zero. -/
def readNumber (cs : List Char) : Except Fault (Option Int × List Char) := do
  let negative := cs.head? == some '-'
  let cs := if negative then cs.tail else cs
  let (whole, rest) ← readDigits cs
  if whole.head? = some '0' ∧ whole.length ≠ 1 then throw Fault.malformed
  let hasPoint := rest.head? == some '.'
  let (fraction, rest) ← if hasPoint then readDigits rest.tail else .ok ([], rest)
  let hasExponent := rest.head? == some 'e' || rest.head? == some 'E'
  let (exponent, rest) ← if hasExponent then readExponent rest.tail else .ok (0, rest)
  let digits := Decimal.digitsValue (whole ++ fraction)
  if Magnitude.isTooLarge digits (exponent - fraction.length) then throw Fault.malformed
  if hasPoint || hasExponent || (negative && digits == 0) then return (none, rest)
  return (some (if negative then -(digits : Int) else (digits : Int)), rest)

/-- The fault of a value of another kind than is wanted. It is read as far as to see what it is. -/
def wrongKind : List Char → Fault
  | [] => .malformed
  | 'n' :: rest => either (readWord "ull".toList rest)
  | 't' :: rest => either (readWord "rue".toList rest)
  | 'f' :: rest => either (readWord "alse".toList rest)
  | '"' :: rest => either (readQuoted [] rest)
  | '[' :: _ | '\x7b' :: _ => .mismatch
  | c :: rest =>
    if c = '-' ∨ (Decimal.digit? c).isSome then either (readNumber (c :: rest)) else .malformed
where
  either {α : Type} : Except Fault α → Fault
    | .error fault => fault
    | .ok _ => .mismatch

/-- Passes over the digits of a number that is not needed. -/
def skipDigits (cs : List Char) : Except Fault (List Char) :=
  match Decimal.splitDigits cs with
  | ([], _) => .error .malformed
  | (_, rest) => .ok rest

/-- Passes over a number that is not needed, after its sign. -/
def skipNumber (cs : List Char) : Except Fault (List Char) := do
  let (whole, rest) := Decimal.splitDigits cs
  if whole.isEmpty || (whole.head? == some '0' && whole.length != 1) then throw Fault.malformed
  let rest ← if rest.head? = some '.' then skipDigits rest.tail else .ok rest
  if rest.head? = some 'e' ∨ rest.head? = some 'E' then
    let rest := rest.tail
    skipDigits (if rest.head? = some '-' ∨ rest.head? = some '+' then rest.tail else rest)
  else return rest

/-- What may come next between brackets: the closing one, or a member. A comma stands between two
members and not before the closing bracket. -/
inductive Next where
  | closed (rest : List Char)
  | member (cs : List Char)

def readNext (closing : Char) (isFirst : Bool) (cs : List Char) : Except Fault Next :=
  match skipBlanks cs with
  | [] => .error .truncated
  | c :: rest =>
    if c = closing then .ok (.closed rest)
    else if isFirst then .ok (.member (c :: rest))
    else if c = ',' then
      match skipBlanks rest with
      | [] => .error .truncated
      | c :: rest => if c = closing then .error .malformed else .ok (.member (c :: rest))
    else .error .malformed

/-- Expects the colon after a key. -/
def readColon (cs : List Char) : Except Fault (List Char) :=
  match skipBlanks cs with
  | [] => .error .truncated
  | ':' :: rest => .ok rest
  | _ => .error .malformed

/-- Expects the quote that opens a key. -/
def openKey : List Char → Except Fault (List Char)
  | '"' :: rest => .ok rest
  | _ => .error .malformed

mutual
/-- Passes over a value of any kind; `fuel` bounds its members and depth. -/
def skipValue (fuel : Nat) (cs : List Char) : Except Fault (List Char) :=
  match fuel with
  | 0 => .error .truncated
  | fuel + 1 =>
    match skipBlanks cs with
    | [] => .error .truncated
    | 'n' :: rest => readWord "ull".toList rest
    | 't' :: rest => readWord "rue".toList rest
    | 'f' :: rest => readWord "alse".toList rest
    | '"' :: rest => skipQuoted rest
    | '-' :: rest => skipNumber rest
    | '[' :: rest => skipElements fuel true rest
    | '\x7b' :: rest => skipMembers fuel true rest
    | c :: rest => if (Decimal.digit? c).isSome then skipNumber (c :: rest) else .error .malformed

def skipElements (fuel : Nat) (isFirst : Bool) (cs : List Char) : Except Fault (List Char) :=
  match fuel with
  | 0 => .error .truncated
  | fuel + 1 => do
    match ← readNext ']' isFirst cs with
    | .closed rest => return rest
    | .member cs => skipElements fuel false (← skipValue fuel cs)

def skipMembers (fuel : Nat) (isFirst : Bool) (cs : List Char) : Except Fault (List Char) :=
  match fuel with
  | 0 => .error .truncated
  | fuel + 1 => do
    match ← readNext '\x7d' isFirst cs with
    | .closed rest => return rest
    | .member cs =>
      let rest ← readColon (← skipQuoted (← openKey cs))
      skipMembers fuel false (← skipValue fuel rest)
end

def readText (cs : List Char) : Except Fault (String × List Char) :=
  match skipBlanks cs with
  | [] => .error .truncated
  | '"' :: rest => (readQuoted [] rest).map fun (text, rest) => (String.ofList text, rest)
  | cs => .error (wrongKind cs)

/-- Reads the labels after their opening bracket, with those before, latest first. -/
def readLabelsFrom (fuel : Nat) (before : List String) (cs : List Char) :
    Except Fault (List String × List Char) :=
  match fuel with
  | 0 => .error .truncated
  | fuel + 1 => do
    match ← readNext ']' before.isEmpty cs with
    | .closed rest => return (before.reverse, rest)
    | .member cs =>
      let (label, rest) ← readText cs
      readLabelsFrom fuel (label :: before) rest

def readLabels (cs : List Char) : Except Fault (List String × List Char) :=
  match skipBlanks cs with
  | [] => .error .truncated
  | '[' :: rest => readLabelsFrom (rest.length + 1) [] rest
  | cs => .error (wrongKind cs)

/-- Reads the members of a secret, each of its own once, with those read before. -/
def readSecretFrom (fuel : Nat) (isFirst : Bool) (name : Option String)
    (labels : Option (List String)) (cs : List Char) : Except Fault (LabeledSecret × List Char) :=
  match fuel with
  | 0 => .error .truncated
  | fuel + 1 => do
    match ← readNext '\x7d' isFirst cs with
    | .closed rest =>
      match name, labels with
      | some name, some labels => return (⟨name, labels⟩, rest)
      | _, _ => throw Fault.mismatch
    | .member cs =>
      let (key, rest) ← readQuoted [] (← openKey cs)
      if key = "name".toList then
        if name.isSome then throw Fault.mismatch
        let (text, rest) ← readText (← readColon rest)
        readSecretFrom fuel false (some text) labels rest
      else if key = "labels".toList then
        if labels.isSome then throw Fault.mismatch
        let (texts, rest) ← readLabels (← readColon rest)
        readSecretFrom fuel false name (some texts) rest
      else
        let rest ← skipValue (rest.length + 1) (← readColon rest)
        readSecretFrom fuel false name labels rest

/-- Reads a secret given as an array, after the opening bracket. -/
def readSecretArray (cs : List Char) : Except Fault (LabeledSecret × List Char) := do
  match ← readNext ']' true cs with
  | .closed _ => throw Fault.mismatch
  | .member cs =>
    let (name, rest) ← readText cs
    match ← readNext ']' false rest with
    | .closed _ => throw Fault.mismatch
    | .member cs =>
      let (labels, rest) ← readLabels cs
      match skipBlanks rest with
      | [] => throw Fault.truncated
      | ']' :: rest => return (⟨name, labels⟩, rest)
      | _ => throw Fault.malformed

def readSecret (cs : List Char) : Except Fault (LabeledSecret × List Char) :=
  match skipBlanks cs with
  | [] => .error .truncated
  | '[' :: rest => readSecretArray rest
  | '\x7b' :: rest => readSecretFrom (rest.length + 1) true none none rest
  | cs => .error (wrongKind cs)

/-- Reads an id as a key after its opening quote, with the closing one. -/
def readId (cs : List Char) : Except Fault (Int × List Char) :=
  match cs with
  | [] => .error .malformed
  | c :: _ =>
    if c = '-' ∨ (Decimal.digit? c).isSome then do
      let (value?, rest) ← readNumber cs
      match value? with
      | none => throw Fault.mismatch
      | some id =>
        if id < leastId ∨ greatestId < id then throw Fault.mismatch
        match rest with
        | '"' :: rest => return (id, rest)
        | _ => throw Fault.malformed
    else .error .malformed

/-- Reads the secrets of a mapping after its opening bracket; of two with one id the later stays. -/
def readSecretsFrom (fuel : Nat) (isFirst : Bool) (before : LabeledSecrets) (cs : List Char) :
    Except Fault (LabeledSecrets × List Char) :=
  match fuel with
  | 0 => .error .truncated
  | fuel + 1 => do
    match ← readNext '\x7d' isFirst cs with
    | .closed rest => return (before, rest)
    | .member cs =>
      let (id, rest) ← readId (← openKey cs)
      let (secret, rest) ← readSecret (← readColon rest)
      readSecretsFrom fuel false (before.insert id secret) rest

def readSecrets (cs : List Char) : Except Fault (LabeledSecrets × List Char) :=
  match skipBlanks cs with
  | [] => .error .truncated
  | '\x7b' :: rest => readSecretsFrom (rest.length + 1) true IdMap.empty rest
  | cs => .error (wrongKind cs)

/-- Reads a text to its end, blanks aside. -/
def readWhole {α : Type} (read : List Char → Except Fault (α × List Char)) (text : String) :
    Except Fault α := do
  let (value, rest) ← read text.toList
  if (skipBlanks rest).isEmpty then return value else throw Fault.malformed

/-- Decodes a mapping of secrets. -/
def decodeSecrets (text : String) : Except Fault LabeledSecrets := readWhole readSecrets text

/-- Decodes a single secret. -/
def decodeSecret (text : String) : Except Fault LabeledSecret := readWhole readSecret text

end SecretVault.Json
