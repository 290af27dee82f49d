import SecretVault.Proofs.Text.Radix
import SecretVault.Proofs.Yaml.Placing

/-!
Quoted text is read back. Between single quotes the breaks that do not count as a line feed stay,
and the indentation after them drops out; the closing quote is indented like any other character.
Between double quotes everything is on one line, since every break is escaped.
-/
namespace SecretVault.Yaml
open SecretVault.Text SecretVault.Yaml.Input

/-! ## Indentation -/

theorem isBreak_getLast? {c : Char} {text : List Char} (afterBreak : Bool) :
    (((c :: text).getLast?.map isBreak).getD afterBreak) =
      ((text.getLast?.map isBreak).getD (isBreak c)) := by
  cases text with
  | nil => rfl
  | cons d text => rw [List.getLast?_cons_cons, List.getLast?_cons]; rfl

theorem indentLines_break (indent : Nat) (afterBreak : Bool) {c : Char} (rest : List Char)
    (breaks : isBreak c = true) :
    indentLines indent afterBreak (c :: rest) = c :: indentLines indent true rest := by
  rw [indentLines, if_pos breaks]

theorem indentLines_char (indent : Nat) (afterBreak : Bool) {c : Char} (rest : List Char)
    (onLine : isBreak c = false) :
    indentLines indent afterBreak (c :: rest) =
      (if afterBreak then List.replicate indent ' ' else []) ++
        c :: indentLines indent false rest := by
  rw [indentLines, if_neg (by simp [onLine])]

/-- Text is indented in pieces; the second piece follows a break if the first one ends with one. -/
theorem indentLines_append (indent : Nat) (afterBreak : Bool) (text more : List Char) :
    indentLines indent afterBreak (text ++ more) = indentLines indent afterBreak text ++
      indentLines indent ((text.getLast?.map isBreak).getD afterBreak) more := by
  induction text generalizing afterBreak with
  | nil => rfl
  | cons c text ih =>
    rw [isBreak_getLast?, List.cons_append]
    cases breaks : isBreak c with
    | true => rw [indentLines_break _ _ _ breaks, indentLines_break _ _ _ breaks, ih]; rfl
    | false =>
      rw [indentLines_char _ _ _ breaks, indentLines_char _ _ _ breaks, ih, List.append_assoc]
      rfl

section
variable {before : List Char} {gap : Gap} {p : Placed} {rest : Input}

/-! ## Single quotes -/

theorem readSingle_space (space : p.char = ' ') :
    readSingle before gap (p :: rest) = readSingle before (gap.addBlank ' ') rest := by
  rw [readSingle]
  simp [space, isBlank]

theorem readSingle_lineEnd (ends : IsLineEnd p.char) :
    readSingle before gap (p :: rest) = readSingle before (gap.addBreak [p.char]) rest := by
  rw [readSingle, if_neg (by simp [ends.visible])]
  split
  · rename_i taken
    rw [takeBreak?_lineEnd rest ends] at taken
    cases taken
    rfl
  · rename_i taken
    rw [takeBreak?_lineEnd rest ends] at taken
    cases taken

/-- Two quotes stand for one. -/
theorem readSingle_twoQuotes {q : Placed} (inside : 0 < p.column) (first : p.char = '\'')
    (second : q.char = '\'') :
    readSingle before gap (p :: q :: rest) =
      readSingle ('\'' :: (gap.text.reverse ++ before)) .none rest := by
  have onLine : isBreak p.char = false := by rw [first]; decide
  rw [readSingle, if_neg (by rw [first]; decide)]
  split
  · rename_i taken
    rw [takeBreak?_of_not_isBreak _ onLine] at taken
    cases taken
  · simp [atDocumentMarker_of_column _ inside, first, second]

/-- Any other quote closes the scalar. -/
theorem readSingle_close {q : Placed} (inside : 0 < p.column) (first : p.char = '\'')
    (second : q.char ≠ '\'') :
    readSingle before gap (p :: q :: rest) =
      some (before.reverse ++ gap.text, q :: rest) := by
  have onLine : isBreak p.char = false := by rw [first]; decide
  rw [readSingle, if_neg (by rw [first]; decide)]
  split
  · rename_i taken
    rw [takeBreak?_of_not_isBreak _ onLine] at taken
    cases taken
  · simp [atDocumentMarker_of_column _ inside, first, second]

theorem readSingle_char (visible : isBlank p.char = false) (onLine : isBreak p.char = false)
    (inside : 0 < p.column) (noQuote : p.char ≠ '\'') :
    readSingle before gap (p :: rest) =
      readSingle (p.char :: (gap.text.reverse ++ before)) .none rest := by
  rw [readSingle, if_neg (by simp [visible])]
  split
  · rename_i taken
    rw [takeBreak?_of_not_isBreak _ onLine] at taken
    cases taken
  · simp [atDocumentMarker_of_column _ inside, noQuote]

end

/-- The gap at some place in a quoted text: blanks on a line, which no break follows, or breaks that
stay, which no space follows. -/
inductive GapAt : Gap → (afterBreak : Bool) → List Char → Prop where
  | blanks {text : List Char} (blanks : List Char)
    (noBreak : blanks ≠ [] → text.head?.all (fun c => !isBreak c) = true) :
    GapAt (.blanks blanks) false text
  | breaks {text : List Char} (first more : List Char) (stays : first.head? ≠ some '\n')
    (noSpace : text.head?.all (fun c => !isSpace c) = true) :
    GapAt (.breaks first more) true text

namespace GapAt
variable {gap : Gap} {afterBreak : Bool} {c : Char} {text : List Char}

theorem none : GapAt .none false text := .blanks [] (absurd rfl)

/-- A break that stays is added to a gap. -/
theorem addBreak (at' : GapAt gap afterBreak (c :: text)) (breaks : isBreak c = true)
    (noFeed : c ≠ '\n') (noSpace : text.head?.all (fun d => !isSpace d) = true) :
    GapAt (gap.addBreak [c]) true text ∧ (gap.addBreak [c]).text = gap.text ++ [c] := by
  cases at' with
  | blanks blanks noBreak =>
    have noBlanks : blanks = [] := by
      refine Decidable.byContradiction fun some => ?_
      simpa [breaks] using noBreak some
    refine ⟨.breaks [c] [] (by simpa using noFeed) noSpace, ?_⟩
    simp [Gap.text, Gap.addBreak, noFeed, noBlanks]
  | breaks first more stays =>
    refine ⟨.breaks first (more ++ [c]) stays noSpace, ?_⟩
    simp [Gap.text, Gap.addBreak, stays]

/-- A space is added to blanks on a line; no space comes after a break. -/
theorem addSpace (at' : GapAt gap afterBreak (' ' :: text))
    (noBreak : text.head?.all (fun d => !isBreak d) = true) :
    afterBreak = false ∧ GapAt (gap.addBlank ' ') false text ∧
      (gap.addBlank ' ').text = gap.text ++ [' '] := by
  cases at' with
  | blanks blanks => exact ⟨rfl, .blanks (blanks ++ [' ']) fun _ => noBreak, rfl⟩
  | breaks _ _ _ noSpace => exact absurd noSpace (by simp [isSpace])

end GapAt

theorem hasAdjacent_cons {first second : Char → Bool} {c : Char} {text : List Char}
    (apart : hasAdjacent first second (c :: text) = false) :
    (first c = true → text.head?.all (fun d => !second d) = true) ∧
      hasAdjacent first second text = false := by
  cases text with
  | nil => exact ⟨fun _ => rfl, rfl⟩
  | cons d text => simpa [hasAdjacent] using apart

/-- A quote is written twice. -/
def doubleQuotes (text : List Char) : List Char :=
  text.flatMap fun c => if c = '\'' then ['\'', '\''] else [c]

theorem doubleQuotes_cons (c : Char) (text : List Char) :
    doubleQuotes (c :: text) = (if c = '\'' then ['\'', '\''] else [c]) ++ doubleQuotes text := by
  rw [doubleQuotes, List.flatMap_cons]
  rfl

/-- A quote is indented once. -/
theorem indentLines_doubled (indent : Nat) (afterBreak : Bool) {c : Char} (more : List Char)
    (onLine : isBreak c = false) :
    indentLines indent afterBreak ((if c = '\'' then ['\'', '\''] else [c]) ++ more) =
      (if afterBreak then List.replicate indent ' ' else []) ++
        c :: ((if c = '\'' then ['\''] else []) ++ indentLines indent false more) := by
  split
  · rename_i quote
    subst quote
    rw [List.cons_append, List.singleton_append, indentLines_char _ _ _ onLine,
      indentLines_char _ false _ onLine]
    rfl
  · rw [List.singleton_append, indentLines_char _ _ _ onLine]
    rfl

theorem endsWithBreak_doubleQuotes (text : List Char) :
    ((doubleQuotes text).getLast?.map isBreak).getD false = endsWithBreak text := by
  rcases List.eq_nil_or_concat text with rfl | ⟨before, c, rfl⟩
  · rfl
  · rw [List.concat_eq_append, doubleQuotes, List.flatMap_append, List.flatMap_singleton]
    by_cases quote : c = '\''
    · subst quote
      simp [endsWithBreak, isBreak, nextLine, lineSeparator, paragraphSeparator]
    · simp [endsWithBreak, quote]

/-- The closing quote is indented like the text. -/
theorem writeSingle_eq (indent : Nat) (text : List Char) :
    writeSingle indent text = '\'' :: indentLines indent false (doubleQuotes text ++ ['\'']) := by
  rw [indentLines_append, endsWithBreak_doubleQuotes, indentLines_char _ _ [] (by decide)]
  simp [writeSingle, doubleQuotes, indentLines]

section
variable (line column index : Nat) (before tail : List Char)

/-- Indentation drops out. -/
theorem readSingle_spaces (first more : List Char) (n : Nat) :
    readSingle before (.breaks first more)
        (placeFrom line column index (List.replicate n ' ' ++ tail)) =
      readSingle before (.breaks first more)
        (placeFrom line (column + n) (index + n) tail) := by
  induction n generalizing column index with
  | zero => rfl
  | succ n ih =>
    rw [List.replicate_succ, List.cons_append, placeFrom_cons _ (by decide),
      readSingle_space rfl, Gap.addBlank, ih, Nat.add_right_comm column, Nat.add_right_comm index]
    rfl

/-- Behind the indentation that a character needs, it is not in the first column. -/
theorem readSingle_indented {indent : Nat} {gap : Gap} {afterBreak : Bool} {text : List Char}
    (positive : 0 < indent) (at' : GapAt gap afterBreak text)
    (inside : afterBreak = false → 0 < column) :
    ∃ column' index', 0 < column' ∧
      readSingle before gap (placeFrom line column index
          ((if afterBreak then List.replicate indent ' ' else []) ++ tail)) =
        readSingle before gap (placeFrom line column' index' tail) := by
  cases at' with
  | blanks => exact ⟨column, index, inside rfl, rfl⟩
  | breaks first more => exact ⟨column + indent, index + indent, by omega, readSingle_spaces ..⟩

/-- Reading the written form of a character adds it to what has been read or to the gap. -/
theorem readSingle_step {indent : Nat} {gap : Gap} {afterBreak : Bool} {c : Char}
    {text : List Char} (positive : 0 < indent) (printable : isPrintable c = true)
    (noFeed : c ≠ '\n')
    (noBreak : isSpace c = true → text.head?.all (fun d => !isBreak d) = true)
    (noSpace : isBreak c = true → text.head?.all (fun d => !isSpace d) = true)
    (at' : GapAt gap afterBreak (c :: text)) (inside : afterBreak = false → 0 < column)
    (more : List Char) :
    ∃ before' gap' line' column' index',
      readSingle before gap (placeFrom line column index
          (indentLines indent afterBreak ((if c = '\'' then ['\'', '\''] else [c]) ++ more) ++
            tail)) =
        readSingle before' gap' (placeFrom line' column' index'
          (indentLines indent (isBreak c) more ++ tail)) ∧
      before'.reverse ++ gap'.text = before.reverse ++ (gap.text ++ [c]) ∧
      GapAt gap' (isBreak c) text ∧ (isBreak c = false → 0 < column') := by
  cases breaks : isBreak c with
  | true =>
    have ends := isLineEnd_of_isPrintable printable breaks
    have noQuote : c ≠ '\'' := by
      rintro rfl
      exact absurd breaks (by decide)
    obtain ⟨at'', added⟩ := at'.addBreak breaks noFeed (noSpace breaks)
    refine ⟨before, gap.addBreak [c], line + 1, 0, index + 1, ?_, by rw [added], at'', nofun⟩
    rw [if_neg noQuote, List.singleton_append, indentLines_break _ _ _ breaks, List.cons_append,
      placeFrom_lineEnd _ ends, readSingle_lineEnd ends]
  | false =>
    obtain ⟨column', index', inside', indented⟩ := readSingle_indented line column index before
      (c :: ((if c = '\'' then ['\''] else []) ++ (indentLines indent false more ++ tail)))
      positive at' inside
    rw [indentLines_doubled _ _ _ breaks, List.append_assoc, List.cons_append, List.append_assoc,
      indented, placeFrom_cons _ breaks]
    by_cases quote : c = '\''
    · subst quote
      refine ⟨'\'' :: (gap.text.reverse ++ before), .none, line, column' + 1 + 1, index' + 1 + 1,
        ?_, by simp [Gap.none, Gap.text], .none, fun _ => by omega⟩
      rw [if_pos rfl, List.singleton_append, placeFrom_cons _ breaks,
        readSingle_twoQuotes inside' rfl rfl]
    rw [if_neg quote, List.nil_append]
    by_cases space : c = ' '
    · subst space
      obtain ⟨-, at'', added⟩ := at'.addSpace (noBreak rfl)
      exact ⟨before, gap.addBlank ' ', line, column' + 1, index' + 1, readSingle_space rfl,
        by rw [added], at'', fun _ => by omega⟩
    · have visible := not_isBlank_of_isPrintable printable space
      exact ⟨c :: (gap.text.reverse ++ before), .none, line, column' + 1, index' + 1,
        readSingle_char visible breaks inside' quote, by simp [Gap.none, Gap.text], .none,
        fun _ => by omega⟩

/-- Text between single quotes is read with its gaps, up to the quote that closes it. -/
theorem readSingle_text {indent : Nat} {gap : Gap} {afterBreak : Bool} {text : List Char}
    (positive : 0 < indent) (printable : ∀ c ∈ text, isPrintable c = true) (noFeed : '\n' ∉ text)
    (noSpaceBreak : hasAdjacent isSpace isBreak text = false)
    (noBreakSpace : hasAdjacent isBreak isSpace text = false) (at' : GapAt gap afterBreak text)
    (inside : afterBreak = false → 0 < column) :
    ∃ line' column' index',
      readSingle before gap (placeFrom line column index
          (indentLines indent afterBreak (doubleQuotes text ++ ['\'']) ++ '\n' :: tail)) =
        some (before.reverse ++ (gap.text ++ text),
          placeFrom line' column' index' ('\n' :: tail)) := by
  induction text generalizing line column index gap afterBreak before with
  | nil =>
    rw [doubleQuotes, List.flatMap_nil, List.nil_append, indentLines_char _ _ [] (by decide),
      List.append_assoc]
    obtain ⟨column', index', inside', read⟩ := readSingle_indented line column index before
      ('\'' :: '\n' :: tail) positive at' inside
    refine ⟨line, column' + 1, index' + 1, ?_⟩
    rw [List.cons_append, indentLines, List.nil_append, read, placeFrom_cons _ (by decide),
      placeFrom_lineEnd _ (.inl rfl), readSingle_close inside' rfl (by simp)]
    simp
  | cons c text ih =>
    obtain ⟨spaceBreak, noSpaceBreak'⟩ := hasAdjacent_cons noSpaceBreak
    obtain ⟨breakSpace, noBreakSpace'⟩ := hasAdjacent_cons noBreakSpace
    obtain ⟨before', gap', line', column', index', step, added, at'', inside'⟩ :=
      readSingle_step line column index before ('\n' :: tail) positive
        (printable c List.mem_cons_self)
        (fun same => noFeed (same ▸ List.mem_cons_self)) spaceBreak breakSpace at' inside
        (doubleQuotes text ++ ['\''])
    obtain ⟨line'', column'', index'', read⟩ := ih line' column' index' before'
      (fun d member => printable d (List.mem_cons_of_mem c member))
      (fun member => noFeed (List.mem_cons_of_mem c member)) noSpaceBreak' noBreakSpace' at''
      inside'
    refine ⟨line'', column'', index'', ?_⟩
    rw [doubleQuotes_cons, List.append_assoc, step, read, ← List.append_assoc, added]
    simp

/-- A text that may stand between single quotes is read back from its line. -/
theorem readSingle_written {indent : Nat} {text : List Char} (positive : 0 < indent)
    (inside : 0 < column) (allowed : allowsSingle text = true) (noFeed : '\n' ∉ text) :
    ∃ line' column' index',
      readSingle [] .none (placeFrom line column index
          ((writeSingle indent text).tail ++ '\n' :: tail)) =
        some (text, placeFrom line' column' index' ('\n' :: tail)) := by
  simp only [allowsSingle, Bool.and_eq_true, List.all_eq_true, Bool.not_eq_true'] at allowed
  rw [writeSingle_eq]
  exact readSingle_text _ _ _ _ _ positive allowed.1.1 noFeed allowed.1.2 allowed.2 .none
    fun _ => inside

end

/-! ## Double quotes -/

/-- The written form of a character between double quotes. -/
def escaped (c : Char) : List Char :=
  if !isPrintable c || isBreak c || c == '"' || c == '\\' then '\\' :: escapeName c else [c]

theorem writeDouble_eq (text : List Char) :
    writeDouble text = '"' :: text.flatMap escaped ++ ['"'] :=
  rfl

section
variable {before : List Char} {gap : Gap} {p : Placed} {rest : Input}

theorem readDouble_space (space : p.char = ' ') :
    readDouble before gap (p :: rest) = readDouble before (gap.addBlank ' ') rest := by
  rw [readDouble]
  simp [space, isBlank]

section
variable (inside : 0 < p.column)
include inside

theorem readDouble_close (quote : p.char = '"') :
    readDouble before gap (p :: rest) = some (before.reverse ++ gap.text, rest) := by
  have onLine : isBreak p.char = false := by rw [quote]; decide
  rw [readDouble, if_neg (by rw [quote]; decide)]
  split
  · rename_i taken
    rw [takeBreak?_of_not_isBreak _ onLine] at taken
    cases taken
  · simp [atDocumentMarker_of_column _ inside, quote]

/-- An escape stands for its character. -/
theorem readDouble_escape {c : Char} {after : Input} (backslash : p.char = '\\')
    (escape : readEscape? rest = some (some c, after)) :
    readDouble before gap (p :: rest) =
      readDouble (c :: (gap.text.reverse ++ before)) .none after := by
  have onLine : isBreak p.char = false := by rw [backslash]; decide
  rw [readDouble, if_neg (by rw [backslash]; decide)]
  split
  · rename_i taken
    rw [takeBreak?_of_not_isBreak _ onLine] at taken
    cases taken
  · rw [atDocumentMarker_of_column _ inside, if_neg (by decide), if_neg (by rw [backslash]; decide),
      if_pos backslash]
    split
    · rename_i failed
      rw [escape] at failed
      cases failed
    · rename_i found
      rw [escape] at found
      cases found
      rfl
    · rename_i found
      rw [escape] at found
      cases found

theorem readDouble_char (visible : isBlank p.char = false) (onLine : isBreak p.char = false)
    (noQuote : p.char ≠ '"') (noBackslash : p.char ≠ '\\') :
    readDouble before gap (p :: rest) =
      readDouble (p.char :: (gap.text.reverse ++ before)) .none rest := by
  rw [readDouble, if_neg (by simp [visible])]
  split
  · rename_i taken
    rw [takeBreak?_of_not_isBreak _ onLine] at taken
    cases taken
  · rw [atDocumentMarker_of_column _ inside, if_neg (by decide), if_neg noQuote,
      if_neg noBackslash]

end
end

theorem codeChar?_hexDigits {width : Nat} {c : Char} (positive : 0 < width)
    (fits : c.toNat < 16 ^ width) : codeChar? (Radix.hexDigits width c.toNat) = some c := by
  have valid : c.toNat < 0xD800 ∨ 0xDFFF < c.toNat ∧ c.toNat < 0x110000 := c.valid
  have noSurrogate : ¬ ((0xD800 ≤ c.toNat ∧ c.toNat ≤ 0xDFFF) ∨ 0x10FFFF < c.toNat) := by omega
  simp only [codeChar?, Radix.read?_hexDigits positive fits, Option.bind_eq_bind, Option.bind_some,
    if_neg noSurrogate, Char.ofNat_toNat]

theorem isBreak_hexDigits {width n : Nat} {c : Char} (member : c ∈ Radix.hexDigits width n) :
    isBreak c = false := by
  have all : ∀ value < 16, isBreak (Radix.hexDigit value) = false := by decide
  obtain ⟨value, small, rfl⟩ := Radix.mem_hexDigits member
  exact all value small

section
variable (line column index : Nat)

/-- A character is read from its code. -/
theorem readEscape?_code {width : Nat} {letter c : Char} (rest : List Char)
    (length : codeLength? letter = some width) (onLine : isBreak letter = false)
    (positive : 0 < width) (fits : c.toNat < 16 ^ width) :
    readEscape? (placeFrom line column index
        (letter :: Radix.hexDigits width c.toNat ++ rest)) =
      some (some c, placeFrom line (column + (width + 1)) (index + (width + 1)) rest) := by
  have code : (placeFrom line (column + 1) (index + 1) (Radix.hexDigits width c.toNat)).length =
      width := by rw [length_placeFrom, Radix.length_hexDigits]
  rw [List.cons_append, placeFrom_cons _ onLine,
    placeFrom_append rest fun _ member => isBreak_hexDigits member, Radix.length_hexDigits]
  simp only [readEscape?, length]
  rw [if_neg (by rw [List.length_append, code]; omega), List.take_left' code,
    List.drop_left' code, map_char_placeFrom, codeChar?_hexDigits positive fits, Option.map_some,
    Nat.add_right_comm column, Nat.add_right_comm index]
  rfl

/-- A character is read from a letter. -/
theorem readEscape?_letter {letter c : Char} (rest : List Char)
    (noCode : codeLength? letter = none) (escape : letterEscape? letter = some c)
    (onLine : isBreak letter = false) :
    readEscape? (placeFrom line column index (letter :: rest)) =
      some (some c, placeFrom line (column + 1) (index + 1) rest) := by
  rw [placeFrom_cons _ onLine]
  simp [readEscape?, noCode, escape]

/-- A character is read from the name of its escape. -/
theorem readEscape?_escapeName (c : Char) (rest : List Char) :
    ∃ column' index', column < column' ∧
      readEscape? (placeFrom line column index (escapeName c ++ rest)) =
        some (some c, placeFrom line column' index' rest) := by
  have valid : c.toNat < 0xD800 ∨ 0xDFFF < c.toNat ∧ c.toNat < 0x110000 := c.valid
  have letter {name : Char} (noCode : codeLength? name = none)
      (escape : letterEscape? name = some c) (onLine : isBreak name = false) :
      ∃ column' index', column < column' ∧
        readEscape? (placeFrom line column index ([name] ++ rest)) =
          some (some c, placeFrom line column' index' rest) :=
    ⟨column + 1, index + 1, by omega, readEscape?_letter _ _ _ rest noCode escape onLine⟩
  have code {width : Nat} {name : Char} (length : codeLength? name = some width)
      (onLine : isBreak name = false) (positive : 0 < width) (fits : c.toNat < 16 ^ width) :
      ∃ column' index', column < column' ∧
        readEscape? (placeFrom line column index
            (name :: Radix.hexDigits width c.toNat ++ rest)) =
          some (some c, placeFrom line column' index' rest) :=
    ⟨column + (width + 1), index + (width + 1), by omega,
      readEscape?_code _ _ _ rest length onLine positive fits⟩
  unfold escapeName
  split
  case h_12 =>
    split
    · rename_i same
      exact letter (by decide) (by rw [same]; decide) (by decide)
    split
    · rename_i same
      exact letter (by decide) (by rw [same]; decide) (by decide)
    split
    · rename_i same
      exact letter (by decide) (by rw [same]; decide) (by decide)
    · unfold writeCode
      dsimp only
      split
      · exact code (by decide) (by decide) (by decide) (by omega)
      split
      · exact code (by decide) (by decide) (by decide) (by omega)
      · exact code (by decide) (by decide) (by decide) (by omega)
  all_goals exact letter (by decide) (by decide) (by decide)

/-- Reading the written form of a character adds it to what has been read or to the blanks. -/
theorem readDouble_step (before blanks : List Char) (c : Char) (rest : List Char)
    (inside : 0 < column) :
    ∃ before' blanks' column' index', 0 < column' ∧
      readDouble before (.blanks blanks) (placeFrom line column index (escaped c ++ rest)) =
        readDouble before' (.blanks blanks') (placeFrom line column' index' rest) ∧
      before'.reverse ++ blanks' = before.reverse ++ (blanks ++ [c]) := by
  unfold escaped
  split
  · obtain ⟨column', index', moves, escape⟩ :=
      readEscape?_escapeName line (column + 1) (index + 1) c rest
    refine ⟨c :: (blanks.reverse ++ before), [], column', index', by omega, ?_, by simp⟩
    rw [List.cons_append, placeFrom_cons _ (by decide), readDouble_escape inside rfl escape]
    rfl
  · rename_i unescaped
    simp only [Bool.or_eq_true, Bool.not_eq_true', beq_iff_eq, not_or, Bool.not_eq_false,
      Bool.not_eq_true] at unescaped
    obtain ⟨⟨⟨printable, onLine⟩, noQuote⟩, noBackslash⟩ := unescaped
    rw [List.singleton_append, placeFrom_cons _ onLine]
    by_cases space : c = ' '
    · subst space
      exact ⟨before, blanks ++ [' '], column + 1, index + 1, by omega, readDouble_space rfl, rfl⟩
    · have visible := not_isBlank_of_isPrintable printable space
      exact ⟨c :: (blanks.reverse ++ before), [], column + 1, index + 1, by omega,
        readDouble_char inside visible onLine noQuote noBackslash, by simp⟩

/-- Text between double quotes is read up to the quote that closes it. -/
theorem readDouble_text (before blanks text tail : List Char) (inside : 0 < column) :
    ∃ column' index',
      readDouble before (.blanks blanks)
          (placeFrom line column index (text.flatMap escaped ++ '"' :: tail)) =
        some (before.reverse ++ (blanks ++ text), placeFrom line column' index' tail) := by
  induction text generalizing column index before blanks with
  | nil =>
    refine ⟨column + 1, index + 1, ?_⟩
    rw [List.flatMap_nil, List.nil_append, placeFrom_cons _ (by decide),
      readDouble_close inside rfl, List.append_nil]
    rfl
  | cons c text ih =>
    rw [List.flatMap_cons, List.append_assoc]
    obtain ⟨before', blanks', column', index', inside', step, added⟩ :=
      readDouble_step line column index before blanks c (text.flatMap escaped ++ '"' :: tail) inside
    obtain ⟨column'', index'', read⟩ := ih column' index' before' blanks' inside'
    refine ⟨column'', index'', ?_⟩
    rw [step, read, ← List.append_assoc, added]
    simp

/-- Every text is read back from between double quotes. -/
theorem readDouble_written (text tail : List Char) (inside : 0 < column) :
    ∃ column' index',
      readDouble [] .none (placeFrom line column index ((writeDouble text).tail ++ tail)) =
        some (text, placeFrom line column' index' tail) := by
  have written : (writeDouble text).tail ++ tail = text.flatMap escaped ++ '"' :: tail := by
    simp [writeDouble_eq]
  rw [written]
  exact readDouble_text line column index [] [] text tail inside

end

end SecretVault.Yaml
