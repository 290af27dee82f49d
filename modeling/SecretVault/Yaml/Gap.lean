import SecretVault.Yaml.Input

/-!
White space inside a scalar that goes over several lines. On one line it stays. Around line breaks
blanks drop out, and a single line feed becomes a space.

Source pin: `libyaml` 0.2.5: the scanner's folding of lines.
-/
namespace SecretVault.Yaml

/-- White space since the last other character: blanks, or the first line break and those after
it. An escaped first break stands for nothing. -/
inductive Gap where
  | blanks (text : List Char)
  | breaks (first more : List Char)
  deriving DecidableEq, Repr

namespace Gap

def none : Gap := .blanks []

/-- Adds a blank; after a line break it drops out. -/
def addBlank (c : Char) : Gap → Gap
  | .blanks text => .blanks (text ++ [c])
  | .breaks first more => .breaks first more

def addBreak (text : List Char) : Gap → Gap
  | .blanks _ => .breaks text []
  | .breaks first more => .breaks first (more ++ text)

/-- The text that the gap stands for. -/
def text : Gap → List Char
  | .blanks text => text
  | .breaks first more =>
    if first.head? = some '\n' then (if more.isEmpty then [' '] else more) else first ++ more

def hasBreak : Gap → Bool
  | .blanks _ => false
  | .breaks .. => true

end Gap
end SecretVault.Yaml
