import SecretVault.Yaml.Gap
import SecretVault.Text.Radix

/-!
Quoted scalars, read after their opening quote. In single quotes a quote is written twice; double
quotes have escapes. Line breaks are folded as in plain scalars, and no document marker may come at
the start of a line.

Source pin: `libyaml` 0.2.5: the scanner's flow scalars.
-/
namespace SecretVault.Yaml
open SecretVault.Text

/-- Reads a single-quoted scalar, with what has been read, latest first. -/
def readSingle (before : List Char) (gap : Gap) (input : Input) : Option (List Char × Input) :=
  match input with
  | [] => none
  | p :: rest =>
    if isBlank p.char then readSingle before (gap.addBlank p.char) rest
    else
      match h : Input.takeBreak? (p :: rest) with
      | some (text, after) =>
        have := Input.takeBreak?_length h
        readSingle before (gap.addBreak text) after
      | none =>
        if Input.atDocumentMarker (p :: rest) then none
        else
          let before := gap.text.reverse ++ before
          if p.char = '\'' then
            match rest with
            | [] => some (before.reverse, [])
            | q :: after =>
              if q.char = '\'' then readSingle ('\'' :: before) .none after
              else some (before.reverse, q :: after)
          else readSingle (p.char :: before) .none rest
termination_by input.length
decreasing_by all_goals simp only [List.length_cons] at *; omega

/-- The character of an escape with one letter. -/
def letterEscape? : Char → Option Char
  | '0' => some '\x00'
  | 'a' => some '\x07'
  | 'b' => some '\x08'
  | 't' | '\t' => some '\t'
  | 'n' => some '\n'
  | 'v' => some '\x0b'
  | 'f' => some '\x0c'
  | 'r' => some '\r'
  | 'e' => some '\x1b'
  | ' ' => some ' '
  | '"' => some '"'
  | '/' => some '/'
  | '\\' => some '\\'
  | 'N' => some nextLine
  | '_' => some (Char.ofNat 0xA0)
  | 'L' => some lineSeparator
  | 'P' => some paragraphSeparator
  | _ => none

/-- How many hexadecimal digits follow an escape letter. -/
def codeLength? : Char → Option Nat
  | 'x' => some 2
  | 'u' => some 4
  | 'U' => some 8
  | _ => none

/-- The character whose code so many hexadecimal digits give. -/
def codeChar? (digits : List Char) : Option Char := do
  let code ← Radix.read? 16 digits
  if (0xD800 ≤ code ∧ code ≤ 0xDFFF) ∨ 0x10FFFF < code then none else some (Char.ofNat code)

/-- Reads an escape after its backslash: a character, or nothing for an escaped line break. -/
def readEscape? (input : Input) : Option (Option Char × Input) :=
  match input with
  | [] => none
  | p :: rest =>
    match codeLength? p.char with
    | some n =>
      if rest.length < n then none
      else (codeChar? ((rest.take n).map Placed.char)).map fun c => (some c, rest.drop n)
    | none =>
      match letterEscape? p.char with
      | some c => some (some c, rest)
      | none => input.takeBreak?.map fun (_, rest) => (none, rest)

theorem readEscape?_length {input rest : Input} {c : Option Char}
    (h : readEscape? input = some (c, rest)) : rest.length < input.length := by
  unfold readEscape? at h
  cases input with
  | nil => simp at h
  | cons p tail =>
    simp only at h
    split at h
    · split at h
      · simp at h
      · simp only [Option.map_eq_some_iff, Prod.mk.injEq] at h
        obtain ⟨_, _, _, rfl⟩ := h
        simp only [List.length_drop, List.length_cons]
        omega
    · split at h
      · simp only [Option.some.injEq, Prod.mk.injEq] at h
        simp [← h.2]
      · simp only [Option.map_eq_some_iff, Prod.mk.injEq] at h
        obtain ⟨pair, hpair, _, rfl⟩ := h
        exact Input.takeBreak?_length hpair

/-- Reads a double-quoted scalar, with what has been read, latest first. -/
def readDouble (before : List Char) (gap : Gap) (input : Input) : Option (List Char × Input) :=
  match input with
  | [] => none
  | p :: rest =>
    if isBlank p.char then readDouble before (gap.addBlank p.char) rest
    else
      match h : Input.takeBreak? (p :: rest) with
      | some (text, after) =>
        have := Input.takeBreak?_length h
        readDouble before (gap.addBreak text) after
      | none =>
        if Input.atDocumentMarker (p :: rest) then none
        else
          let before := gap.text.reverse ++ before
          if p.char = '"' then some (before.reverse, rest)
          else if p.char = '\\' then
            match h : readEscape? rest with
            | none => none
            | some (some c, after) =>
              have := readEscape?_length h
              readDouble (c :: before) .none after
            | some (none, after) =>
              have := readEscape?_length h
              readDouble before (.breaks [] []) after
          else readDouble (p.char :: before) .none rest
termination_by input.length
decreasing_by all_goals simp only [List.length_cons] at *; omega

end SecretVault.Yaml
