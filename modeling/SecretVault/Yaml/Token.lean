import SecretVault.Yaml.Input
import SecretVault.Text.Radix
import SecretVault.Text.Utf8

/-!
Tokens of a document, and the names in them: anchors, tags and directives.

Source pin: `libyaml` 0.2.5: the tokens of its scanner.
-/
namespace SecretVault.Yaml
open SecretVault.Text

/-- A tag as written: a handle that a directive may define, and the rest as bytes. Without a handle
the rest is the whole tag. -/
structure TagName where
  handle : Option String
  suffix : Utf8.Bytes
  deriving DecidableEq, Repr

inductive Token where
  | version (major minor : Nat)
  | tagDirective (handle : String) (meaning : Utf8.Bytes)
  | documentStart
  | documentEnd
  | blockSequence
  | blockMapping
  | blockEnd
  | flowSequence
  | flowSequenceEnd
  | flowMapping
  | flowMappingEnd
  | blockEntry
  | flowEntry
  | key
  | value
  | alias (name : String)
  | anchor (name : String)
  | tag (name : TagName)
  | scalar (text : String) (plain : Bool)
  deriving DecidableEq, Repr

/-- Letters, digits, the underscore and the dash. -/
def isNameChar (c : Char) : Bool :=
  ('0' ≤ c && c ≤ '9') || ('A' ≤ c && c ≤ 'Z') || ('a' ≤ c && c ≤ 'z') || c == '_' || c == '-'

/-- Reads the name of an anchor or alias, which must end where other text may begin. -/
def readName? (input : Input) : Option (String × Input) :=
  let (name, rest) := Input.takeWhile isNameChar input
  let ends := Input.atGap rest || (Input.char? rest).any ("?:,]\x7d%@\x60".toList.contains ·)
  if name.isEmpty || !ends then none else some (String.ofList name, rest)

/-- Reads so many bytes given by `%` and two digits each, all of them continuation bytes. -/
def readTailBytes? : Nat → Input → Option (Utf8.Bytes × Input)
  | 0, input => some ([], input)
  | n + 1, mark :: high :: low :: rest => do
    if mark.char ≠ '%' then none
    let byte := 16 * (← Radix.digit? 16 high.char) + (← Radix.digit? 16 low.char)
    if byte / 64 ≠ 2 then none
    let (bytes, rest) ← readTailBytes? n rest
    return (byte.toUInt8 :: bytes, rest)
  | _ + 1, _ => none

/-- Reads one character given by `%` escapes: a first byte and the continuation bytes that it
calls for. -/
def readByteEscapes? (input : Input) : Option (Utf8.Bytes × Input) :=
  match input with
  | _ :: high :: low :: rest => do
    let byte := 16 * (← Radix.digit? 16 high.char) + (← Radix.digit? 16 low.char)
    let tails ←
      if byte < 0x80 then some 0
      else if 0xC0 ≤ byte ∧ byte < 0xE0 then some 1
      else if 0xE0 ≤ byte ∧ byte < 0xF0 then some 2
      else if 0xF0 ≤ byte ∧ byte < 0xF8 then some 3
      else none
    let (bytes, rest) ← readTailBytes? tails rest
    return (byte.toUInt8 :: bytes, rest)
  | _ => none

/-- Characters of a tag; some are punctuation of flow collections and stand only in a tag between
angle brackets or in a directive. -/
def isTagChar (verbatim : Bool) (c : Char) : Bool :=
  isNameChar c || ";/?:@&=+$.%!~*'()".toList.contains c || (verbatim && ",[]".toList.contains c)

/-- Reads the bytes of a tag, with those read before, latest first. `fuel` bounds their number. -/
def readTagBytes? (verbatim : Bool) (before : Utf8.Bytes) (fuel : Nat) (input : Input) :
    Option (Utf8.Bytes × Input) :=
  match fuel, input with
  | fuel + 1, p :: rest =>
    if p.char = '%' then
      match readByteEscapes? input with
      | some (bytes, rest) => readTagBytes? verbatim (bytes.reverse ++ before) fuel rest
      | none => none
    else if isTagChar verbatim p.char then
      readTagBytes? verbatim ((Utf8.encodeChar p.char).reverse ++ before) fuel rest
    else some (before.reverse, input)
  | _, input => some (before.reverse, input)

def readTagText? (verbatim : Bool) (input : Input) : Option (Utf8.Bytes × Input) :=
  readTagBytes? verbatim [] (input.length + 1) input

/-- Reads `!`, a name and perhaps another `!`; whether there is another. -/
def readHandle? (input : Input) : Option (String × Bool × Input) :=
  match input with
  | p :: rest =>
    if p.char ≠ '!' then none
    else
      let (name, rest) := Input.takeWhile isNameChar rest
      if Input.startsWith rest '!' then
        some (String.ofList ('!' :: name ++ ['!']), true, rest.drop 1)
      else some (String.ofList ('!' :: name), false, rest)
  | [] => none

/-- Reads a tag: between angle brackets, after a handle with two marks, or after a single mark. A
mark alone is a tag without a handle. -/
def readTag? (inFlow : Bool) (input : Input) : Option (TagName × Input) := do
  let (name, rest) ←
    if Input.startsWith (input.drop 1) '<' then do
      let (suffix, rest) ← readTagText? true (input.drop 2)
      if suffix.isEmpty || !rest.startsWith '>' then none
      else some ((⟨none, suffix⟩ : TagName), rest.drop 1)
    else do
      let (handle, closed, rest) ← readHandle? input
      if closed then do
        let (suffix, rest) ← readTagText? false rest
        if suffix.isEmpty then none else some (⟨some handle, suffix⟩, rest)
      else do
        let (suffix, rest) ← readTagText? false rest
        let suffix := Utf8.encode (String.ofList (handle.toList.drop 1)) ++ suffix
        if suffix.isEmpty then some (⟨none, Utf8.encode "!"⟩, rest)
        else some (⟨some "!", suffix⟩, rest)
  if (inFlow && Input.startsWith rest ',') || Input.atGap rest then return (name, rest) else none

/-- Reads a number of at most nine digits. -/
def readVersionNumber? (input : Input) : Option (Nat × Input) :=
  let (digits, rest) := input.takeWhile fun c => '0' ≤ c && c ≤ '9'
  if digits.isEmpty || 9 < digits.length then none
  else some (digits.foldl (fun n c => 10 * n + (c.toNat - '0'.toNat)) 0, rest)

/-- Reads a directive after its mark, with the rest of its line. -/
def readDirective? (input : Input) : Option (Token × Input) := do
  let (name, rest) := input.takeWhile isNameChar
  if name.isEmpty || !rest.atGap then none
  let (token, rest) ←
    if name = "YAML".toList then do
      let (major, rest) ← readVersionNumber? (rest.dropWhile isBlank)
      if !rest.startsWith '.' then none
      let (minor, rest) ← readVersionNumber? (rest.drop 1)
      some (Token.version major minor, rest)
    else if name = "TAG".toList then do
      let (handle, closed, rest) ← readHandle? (rest.dropWhile isBlank)
      if !closed && handle != "!" then none
      if !(rest.char?.any isBlank) then none
      let (meaning, rest) ← readTagText? true (rest.dropWhile isBlank)
      if meaning.isEmpty || !rest.atGap then none
      some (Token.tagDirective handle meaning, rest)
    else none
  let rest ← rest.dropLineEnd?
  return (token, rest)

end SecretVault.Yaml
