import SecretVault.Yaml.Lexer
import SecretVault.Yaml.Scalar

/-!
Where the characters of a written text stand. What is written unescaped ends a line only with a
character that ends it whatever follows, so a place depends on nothing but the text in front of it.
Readers are followed up to such a place: they leave a text, and the column at which it begins.
-/
namespace SecretVault.Yaml

/-- A break that ends a line whatever follows it, and that stands for itself where it is kept. -/
def IsLineEnd (c : Char) : Prop := c = '\n' ∨ c = lineSeparator ∨ c = paragraphSeparator

theorem IsLineEnd.isBreak {c : Char} (ends : IsLineEnd c) : isBreak c = true := by
  rcases ends with rfl | rfl | rfl <;> decide

theorem IsLineEnd.visible {c : Char} (ends : IsLineEnd c) : isBlank c = false := by
  rcases ends with rfl | rfl | rfl <;> decide

/-- No other break is written without an escape. -/
theorem isLineEnd_of_isPrintable {c : Char} (printable : isPrintable c = true)
    (breaks : isBreak c = true) : IsLineEnd c := by
  simp only [isBreak, Bool.or_eq_true, beq_iff_eq] at breaks
  rcases breaks with (((rfl | rfl) | rfl) | rfl) | rfl
  · exact absurd printable (by decide)
  · exact .inl rfl
  · exact absurd printable (by decide)
  · exact .inr (.inl rfl)
  · exact .inr (.inr rfl)

/-- The only blank that is written without an escape is the space. -/
theorem isBlank_of_isPrintable {c : Char} (printable : isPrintable c = true) :
    isBlank c = isSpace c := by
  have noTab : c ≠ '\t' := by
    rintro rfl
    exact absurd printable (by decide)
  simp [isBlank, isSpace, noTab]

theorem not_isBlank_of_isPrintable {c : Char} (printable : isPrintable c = true)
    (noSpace : c ≠ ' ') : isBlank c = false := by
  rw [isBlank_of_isPrintable printable, isSpace, beq_eq_false_iff_ne]
  exact noSpace

theorem isAllowed_of_isPrintable {c : Char} (printable : isPrintable c = true) :
    isAllowed c = true := by
  have valid : c.toNat < 0xD800 ∨ 0xDFFF < c.toNat ∧ c.toNat < 0x110000 := c.valid
  simp only [isPrintable, isAllowed, Bool.or_eq_true, Bool.and_eq_true, decide_eq_true_eq,
    beq_iff_eq, bne_iff_ne, ne_eq] at printable ⊢
  omega

section
variable {line column index : Nat} {c : Char}

/-- Most characters move one column on. -/
theorem placeFrom_cons (rest : List Char) (goesOn : isBreak c = false) :
    placeFrom line column index (c :: rest) =
      ⟨c, line, column, index⟩ :: placeFrom line (column + 1) (index + 1) rest := by
  simp [placeFrom, goesOn]

/-- A line end moves to the first column. -/
theorem placeFrom_lineEnd (rest : List Char) (ends : IsLineEnd c) :
    placeFrom line column index (c :: rest) =
      ⟨c, line, column, index⟩ :: placeFrom (line + 1) 0 (index + 1) rest := by
  have noReturn : c ≠ '\r' := by
    rcases ends with rfl | rfl | rfl <;> decide
  simp [placeFrom, ends.isBreak, noReturn]

end

theorem length_placeFrom (line column index : Nat) (text : List Char) :
    (placeFrom line column index text).length = text.length := by
  induction text generalizing line column index with
  | nil => rfl
  | cons c rest ih =>
    unfold placeFrom
    dsimp only
    split <;> simp [ih]

theorem map_char_placeFrom (line column index : Nat) (text : List Char) :
    (placeFrom line column index text).map Placed.char = text := by
  induction text generalizing line column index with
  | nil => rfl
  | cons c rest ih =>
    unfold placeFrom
    dsimp only
    split <;> simp [ih]

/-- A text on one line and what follows it there. -/
theorem placeFrom_append {line column index : Nat} {text : List Char} (rest : List Char)
    (onLine : ∀ c ∈ text, isBreak c = false) :
    placeFrom line column index (text ++ rest) = placeFrom line column index text ++
      placeFrom line (column + text.length) (index + text.length) rest := by
  induction text generalizing column index with
  | nil => rfl
  | cons c text ih =>
    have goesOn := onLine c List.mem_cons_self
    rw [List.cons_append, placeFrom_cons _ goesOn, placeFrom_cons _ goesOn,
      ih fun d member => onLine d (List.mem_cons_of_mem c member), List.length_cons,
      Nat.add_right_comm column, Nat.add_right_comm index]
    rfl

namespace Input

/-- The text stands in front of a reader, and begins at the column. -/
def IsAt (input : Input) (column : Nat) (text : List Char) : Prop :=
  ∃ line index, input = placeFrom line column index text

theorem isAt_placeFrom (line column index : Nat) (text : List Char) :
    IsAt (placeFrom line column index text) column text := ⟨line, index, rfl⟩

/-- A line end is taken off a text as itself. -/
theorem takeBreak?_lineEnd {p : Placed} (rest : Input) (ends : IsLineEnd p.char) :
    takeBreak? (p :: rest) = some ([p.char], rest) := by
  rcases ends with same | same | same
  all_goals simp [takeBreak?, same, nextLine, lineSeparator, paragraphSeparator]

/-- Nothing but a break is taken off. -/
theorem takeBreak?_of_not_isBreak {p : Placed} (rest : Input) (goesOn : isBreak p.char = false) :
    takeBreak? (p :: rest) = none := by
  simp only [isBreak, Bool.or_eq_false_iff, beq_eq_false_iff_ne, ne_eq] at goesOn
  simp [takeBreak?, goesOn]

theorem marker_of_ne {p : Placed} {c : Char} (rest : Input) (other : p.char ≠ c) :
    marker c (p :: rest) = false := by
  unfold marker
  split
  · rename_i same
    cases same
    simp [other]
  · rfl

/-- Document markers stand in the first column only. -/
theorem marker_of_column {p : Placed} (c : Char) (rest : Input) (inside : 0 < p.column) :
    marker c (p :: rest) = false := by
  have column : (p.column == 0) = false := beq_eq_false_iff_ne.2 (by omega)
  unfold marker
  split
  · rename_i same
    cases same
    simp [column]
  · rfl

theorem atDocumentMarker_of_column {p : Placed} (rest : Input) (inside : 0 < p.column) :
    atDocumentMarker (p :: rest) = false := by
  rw [atDocumentMarker, marker_of_column '-' rest inside, marker_of_column '.' rest inside,
    Bool.or_false]

end Input

/-- A character that may begin a token: no white space, comment mark or byte order mark. -/
structure BeginsToken (c : Char) : Prop where
  visible : isBlank c = false
  onLine : isBreak c = false
  noComment : c ≠ '#'
  noMark : c ≠ byteOrderMark

instance (c : Char) : Decidable (BeginsToken c) :=
  decidable_of_iff
    (isBlank c = false ∧ isBreak c = false ∧ c ≠ '#' ∧ c ≠ byteOrderMark)
    ⟨fun ⟨h₁, h₂, h₃, h₄⟩ => ⟨h₁, h₂, h₃, h₄⟩, fun ⟨h₁, h₂, h₃, h₄⟩ => ⟨h₁, h₂, h₃, h₄⟩⟩

/-- What stands after the line end of a scalar: nothing, or a line that is indented so far, with
what it begins with. -/
inductive NextLine (column : Nat) : List Char → List Char → Prop where
  | none : NextLine column [] []
  | line {c : Char} (rest : List Char) (begins : BeginsToken c) :
    NextLine column (List.replicate column ' ' ++ c :: rest) (c :: rest)

section
variable {inFlow allowed : Bool} {line column index : Nat}

theorem passGaps_space (rest : List Char) :
    passGaps inFlow false allowed (placeFrom line column index (' ' :: rest)) =
      passGaps inFlow false allowed (placeFrom line (column + 1) (index + 1) rest) := by
  rw [placeFrom_cons rest (by decide), passGaps, if_neg (by simp [isBreak, nextLine, lineSeparator,
    paragraphSeparator]), if_neg (by simp), if_pos (by simp)]

theorem passGaps_lineFeed (rest : List Char) :
    passGaps inFlow false allowed (placeFrom line column index ('\n' :: rest)) =
      passGaps inFlow false (allowed || !inFlow) (placeFrom (line + 1) 0 (index + 1) rest) := by
  rw [placeFrom_lineEnd rest (.inl rfl), passGaps, if_pos (by simp [isBreak])]

/-- A token stops the passing of gaps. -/
theorem passGaps_token {c : Char} (rest : List Char) (begins : BeginsToken c) :
    passGaps inFlow false allowed (placeFrom line column index (c :: rest)) =
      (allowed, placeFrom line column index (c :: rest)) := by
  obtain ⟨visible, onLine, noComment, noMark⟩ := begins
  simp only [isBlank, Bool.or_eq_false_iff, beq_eq_false_iff_ne] at visible
  rw [placeFrom_cons rest onLine]
  simp [passGaps, onLine, visible, noComment, noMark]

/-- Indentation is passed over up to a token. -/
theorem passGaps_spaces {c : Char} (n : Nat) (rest : List Char) (begins : BeginsToken c) :
    passGaps inFlow false allowed
        (placeFrom line column index (List.replicate n ' ' ++ c :: rest)) =
      (allowed, placeFrom line (column + n) (index + n) (c :: rest)) := by
  induction n generalizing column index with
  | zero => exact passGaps_token rest begins
  | succ n ih =>
    rw [List.replicate_succ, List.cons_append, passGaps_space, ih, Nat.add_right_comm column,
      Nat.add_right_comm index]
    rfl

/-- A line end is passed over with the indentation of the next line, where a key may begin. -/
theorem passGaps_nextLine {indent : Nat} {text rest : List Char}
    (next : NextLine indent text rest) :
    ∃ input : Input, input.IsAt indent rest ∧
      passGaps false false allowed (placeFrom line column index ('\n' :: text)) =
        (true, input) := by
  rw [passGaps_lineFeed, Bool.not_false, Bool.or_true]
  cases next with
  | none => exact ⟨[], ⟨0, 0, rfl⟩, rfl⟩
  | line rest begins =>
    refine ⟨_, ?_, passGaps_spaces indent rest begins⟩
    rw [Nat.zero_add]
    exact Input.isAt_placeFrom ..

end

end SecretVault.Yaml
