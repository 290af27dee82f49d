/-!
Text without what would steer a terminal: control characters other than white space, and escape
sequences.

Source pin: what `clap` 4 strips from what it prints, where the output is no terminal.
-/
namespace SecretVault.Text

/-- What of an escape sequence has been read: its first character, characters that may follow it
at once, its parameters, or text that goes on until the next escape. -/
inductive EscapeState where
  | none | begun | intermediate | parameters | string
  deriving DecidableEq, Repr

def isControl (c : Char) : Bool := c.toNat < 0x20 || c.toNat == 0x7F

/-- Control characters that stay. -/
def isPlainControl (c : Char) : Bool := "\t\n\x0c\r".toList.contains c

/-- What a character does inside an escape sequence. -/
def EscapeState.next (state : EscapeState) (c : Char) : EscapeState :=
  let n := c.toNat
  match state with
  | .none => .none
  | .begun =>
    if c = '[' then .parameters
    else if "]PX^_".toList.contains c then .string
    else if 0x20 ≤ n ∧ n ≤ 0x2F then .intermediate
    else .none
  | .intermediate => if 0x30 ≤ n ∧ n ≤ 0x7E then .none else .intermediate
  | .parameters => if 0x40 ≤ n ∧ n ≤ 0x7E then .none else .parameters
  | .string => if c = '\x07' then .none else .string

def withoutControls (state : EscapeState) : List Char → List Char
  | [] => []
  | c :: rest =>
    if c = '\x1b' then withoutControls .begun rest
    else if isPlainControl c && state != .string then c :: withoutControls .none rest
    else if state != .none then withoutControls (state.next c) rest
    else if isControl c then withoutControls .none rest
    else c :: withoutControls .none rest

/-- A text as it may be shown on a terminal. -/
def showable (text : String) : String := String.ofList (withoutControls .none text.toList)

end SecretVault.Text
