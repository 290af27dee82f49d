import SecretVault.Yaml.Gap

/-!
Plain scalars: text without quotes. It ends before a colon that a gap follows, before a comment,
before a line that is indented too little, and in flow collections before their punctuation.

Source pin: `libyaml` 0.2.5: the scanner's plain scalars.
-/
namespace SecretVault.Yaml

/-- Punctuation of flow collections. -/
def isFlowPunctuation (c : Char) : Bool :=
  c == ',' || c == '[' || c == ']' || c == '\x7b' || c == '\x7d'

/-- Where a plain scalar is read: in a flow collection or not, and the least column of its further
lines. -/
structure PlainContext where
  inFlow : Bool
  indent : Nat
  deriving DecidableEq, Repr

namespace PlainContext

/-- Whether the scalar ends before the character that comes next. -/
def stopsAt (ctx : PlainContext) (gap : Gap) (p : Placed) (rest : Input) : Bool :=
  (gap != .none &&
    (Input.atDocumentMarker (p :: rest) || p.char == '#' ||
      (!ctx.inFlow && p.column < ctx.indent))) ||
  (p.char == ':' && rest.atGap) ||
  (ctx.inFlow && isFlowPunctuation p.char)

/-- Whether the next character makes the scalar malformed: a colon before punctuation in a flow
collection, or a tab where a further line has to be indented. -/
def refuses (ctx : PlainContext) (gap : Gap) (p : Placed) (rest : Input) : Bool :=
  (ctx.inFlow && p.char == ':' &&
    match rest.char? with
    | some c => isFlowPunctuation c || c == '?'
    | none => false) ||
  (gap.hasBreak && p.char == '\t' && p.column < ctx.indent)

end PlainContext

/-- A plain scalar with what follows it, and whether a line break stands in between. -/
structure PlainText where
  text : List Char
  endsLine : Bool
  rest : Input

/-- Reads a plain scalar, with what has been read, latest first. -/
def readPlain (ctx : PlainContext) (before : List Char) (gap : Gap) (input : Input) :
    Option PlainText :=
  match input with
  | [] => some ⟨before.reverse, gap.hasBreak, []⟩
  | p :: rest =>
    if isBlank p.char then
      if ctx.refuses gap p rest then none else readPlain ctx before (gap.addBlank p.char) rest
    else
      match h : Input.takeBreak? (p :: rest) with
      | some (text, after) =>
        have := Input.takeBreak?_length h
        readPlain ctx before (gap.addBreak text) after
      | none =>
        if ctx.stopsAt gap p rest then some ⟨before.reverse, gap.hasBreak, p :: rest⟩
        else if ctx.refuses gap p rest then none
        else readPlain ctx (p.char :: (gap.text.reverse ++ before)) .none rest
termination_by input.length
decreasing_by all_goals simp only [List.length_cons] at *; omega

end SecretVault.Yaml
