import SecretVault.Proofs.Yaml.Quotes

/-!
Literal blocks are read back. A text that ends with a break is cut into lines, each with the breaks
at its end; the indentation of a line is a margin that reading passes over. What the header says of
the last breaks is what becomes of them.
-/
namespace SecretVault.Yaml
open SecretVault.Yaml.Input

/-! ## Lines -/

/-- A line of text with the breaks that follow it, empty lines included. -/
structure BlockLine where
  text : List Char
  ends : List Char
  text_ne_nil : text ≠ []
  onLine : ∀ c ∈ text, isBreak c = false
  ends_ne_nil : ends ≠ []
  breaks : ∀ c ∈ ends, IsLineEnd c

namespace BlockLine

def written (line : BlockLine) : List Char := line.text ++ line.ends

def indented (indent : Nat) (line : BlockLine) : List Char :=
  List.replicate indent ' ' ++ line.written

end BlockLine

/-- Every text that ends with a break consists of breaks and lines. -/
theorem exists_lines {text : List Char} (printable : ∀ c ∈ text, isPrintable c = true)
    (ends : text.getLast?.all isBreak = true) :
    ∃ (breaks : List Char) (lines : List BlockLine), (∀ c ∈ breaks, IsLineEnd c) ∧
      text = breaks ++ lines.flatMap BlockLine.written := by
  induction text with
  | nil => exact ⟨[], [], nofun, rfl⟩
  | cons c text ih =>
    have printable' := fun d member => printable d (List.mem_cons_of_mem c member)
    have ends' : text.getLast?.all isBreak = true := by
      cases text with
      | nil => rfl
      | cons d text => rwa [List.getLast?_cons_cons] at ends
    obtain ⟨breaks, lines, areEnds, rfl⟩ := ih printable' ends'
    cases isEnd : isBreak c with
    | true =>
      have endC := isLineEnd_of_isPrintable (printable c List.mem_cons_self) isEnd
      exact ⟨c :: breaks, lines, List.forall_mem_cons.2 ⟨endC, areEnds⟩, rfl⟩
    | false =>
      cases breaks with
      | cons b breaks =>
        -- The character is a line of its own.
        exact ⟨[], ⟨[c], b :: breaks, nofun, by simpa using isEnd, nofun, areEnds⟩ :: lines, nofun,
          by simp [BlockLine.written]⟩
      | nil =>
        cases lines with
        | nil => simp [isEnd] at ends
        | cons line lines =>
          -- The character is the first one of the line that follows.
          have onLine : ∀ d ∈ c :: line.text, isBreak d = false :=
            List.forall_mem_cons.2 ⟨isEnd, line.onLine⟩
          exact ⟨[], ⟨c :: line.text, line.ends, nofun, onLine, line.ends_ne_nil, line.breaks⟩ ::
            lines, nofun, by simp [BlockLine.written]⟩

/-- Breaks at the start of a line are not indented. -/
theorem indentLines_breaks (indent : Nat) {breaks : List Char} (rest : List Char)
    (areEnds : ∀ c ∈ breaks, IsLineEnd c) :
    indentLines indent true (breaks ++ rest) = breaks ++ indentLines indent true rest := by
  induction breaks with
  | nil => rfl
  | cons b breaks ih =>
    have isEnd := (areEnds b List.mem_cons_self).isBreak
    rw [List.cons_append, indentLines_break _ _ _ isEnd,
      ih fun c member => areEnds c (List.mem_cons_of_mem b member)]
    rfl

/-- Characters on a line are not indented. -/
theorem indentLines_onLine (indent : Nat) {text : List Char} (rest : List Char)
    (onLine : ∀ c ∈ text, isBreak c = false) :
    indentLines indent false (text ++ rest) = text ++ indentLines indent false rest := by
  induction text with
  | nil => rfl
  | cons c text ih =>
    rw [List.cons_append, indentLines_char _ _ _ (onLine c List.mem_cons_self),
      if_neg (by decide), ih fun d member => onLine d (List.mem_cons_of_mem c member)]
    rfl

/-- Every line is indented in front. -/
theorem indentLines_lines (indent : Nat) (lines : List BlockLine) :
    indentLines indent true (lines.flatMap BlockLine.written) =
      lines.flatMap (BlockLine.indented indent) := by
  induction lines with
  | nil => rfl
  | cons line lines ih =>
    obtain ⟨c, text, shape⟩ := List.exists_cons_of_ne_nil line.text_ne_nil
    obtain ⟨e, ends, shape'⟩ := List.exists_cons_of_ne_nil line.ends_ne_nil
    have onLine := line.onLine
    have breaks := line.breaks
    rw [shape] at onLine
    rw [shape'] at breaks
    rw [List.flatMap_cons, List.flatMap_cons, ← ih, BlockLine.indented, BlockLine.written, shape,
      shape', List.append_assoc, List.cons_append,
      indentLines_char _ _ _ (onLine c List.mem_cons_self),
      indentLines_onLine _ _ fun d member => onLine d (List.mem_cons_of_mem c member),
      List.cons_append, indentLines_break _ _ _ (breaks e List.mem_cons_self).isBreak,
      indentLines_breaks _ _ fun d member => breaks d (List.mem_cons_of_mem e member)]
    simp

/-! ## Margins -/

section
variable (line column index : Nat) (before : List Char) (widest : Nat) (rest : List Char)

theorem readMargin_space (given : Option Nat) (inside : given.all (column < ·) = true) :
    readMargin given before widest (placeFrom line column index (' ' :: rest)) =
      readMargin given before (max widest column)
        (placeFrom line (column + 1) (index + 1) rest) := by
  rw [placeFrom_cons rest (by decide), readMargin]
  simp [inside]

theorem readMargin_break (given : Option Nat) {c : Char} (ends : IsLineEnd c) :
    readMargin given before widest (placeFrom line column index (c :: rest)) =
      readMargin given (before ++ [c]) (max widest column)
        (placeFrom (line + 1) 0 (index + 1) rest) := by
  have noSpace : c ≠ ' ' ∧ c ≠ '\t' := by simpa [isBlank] using ends.visible
  rw [placeFrom_lineEnd rest ends, readMargin]
  simp only [beq_eq_false_iff_ne.2 noSpace.1, beq_eq_false_iff_ne.2 noSpace.2, Bool.and_false,
    Bool.false_eq_true, if_false]
  split
  · rename_i taken
    rw [takeBreak?_lineEnd _ ends] at taken
    cases taken
    rfl
  · rename_i taken
    rw [takeBreak?_lineEnd _ ends] at taken
    cases taken

/-- A margin ends with text, which begins with no blank or where the margin is wide enough. -/
theorem readMargin_stop (given : Option Nat) {c : Char} (onLine : isBreak c = false)
    (stops : isBlank c = false ∨ given.all (column < ·) = false) :
    readMargin given before widest (placeFrom line column index (c :: rest)) =
      some ⟨before, max widest column, placeFrom line column index (c :: rest)⟩ := by
  have noSpace : (given.all (column < ·) && c == ' ') = false ∧
      (given.all (column < ·) && c == '\t') = false := by
    rcases stops with visible | wide
    · have noBlank : c ≠ ' ' ∧ c ≠ '\t' := by simpa [isBlank] using visible
      simp [noBlank]
    · simp [wide]
  rw [placeFrom_cons rest onLine, readMargin]
  simp only [noSpace, Bool.false_eq_true, if_false]
  split
  · rename_i taken
    rw [takeBreak?_of_not_isBreak _ onLine] at taken
    cases taken
  · rfl

/-- Spaces inside a margin are passed over. -/
theorem readMargin_spaces (given : Option Nat) (n : Nat)
    (inside : given.all (column + n ≤ ·) = true) :
    ∃ widest', widest' ≤ max widest (column + n) ∧
      readMargin given before widest
          (placeFrom line column index (List.replicate n ' ' ++ rest)) =
        readMargin given before widest' (placeFrom line (column + n) (index + n) rest) := by
  induction n generalizing column index widest with
  | zero => exact ⟨widest, by omega, rfl⟩
  | succ n ih =>
    have here : given.all (column < ·) = true := by
      cases given with
      | none => rfl
      | some indent =>
        have : column + (n + 1) ≤ indent := by simpa using inside
        simpa using by omega
    obtain ⟨widest', small, read⟩ := ih (column + 1) (index + 1) (max widest column)
      (by rwa [Nat.add_assoc, Nat.add_comm 1])
    refine ⟨widest', by omega, ?_⟩
    rw [List.replicate_succ, List.cons_append, readMargin_space _ _ _ _ _ _ given here, read,
      Nat.add_right_comm column, Nat.add_right_comm index]
    rfl

/-- Breaks at the start of a line are gathered. -/
theorem readMargin_breaks (given : Option Nat) {breaks : List Char}
    (areEnds : ∀ c ∈ breaks, IsLineEnd c) :
    ∃ line' index' widest',
      readMargin given before widest (placeFrom line 0 index (breaks ++ rest)) =
        readMargin given (before ++ breaks) widest' (placeFrom line' 0 index' rest) := by
  induction breaks generalizing line index before widest with
  | nil => exact ⟨line, index, widest, by simp⟩
  | cons b breaks ih =>
    obtain ⟨line', index', widest', read⟩ := ih (line + 1) (index + 1) (before ++ [b])
      (max widest 0) fun c member => areEnds c (List.mem_cons_of_mem b member)
    refine ⟨line', index', widest', ?_⟩
    rw [List.cons_append, readMargin_break _ _ _ _ _ _ given (areEnds b List.mem_cons_self), read]
    simp

/-- The margin of a line of the block. -/
theorem readMargin_line {indent : Nat} {breaks : List Char} (areEnds : ∀ c ∈ breaks, IsLineEnd c)
    {c : Char} (onLine : isBreak c = false) :
    ∃ line' index' widest',
      readMargin (some indent) before widest (placeFrom line 0 index
          (breaks ++ (List.replicate indent ' ' ++ c :: rest))) =
        some ⟨before ++ breaks, widest', placeFrom line' indent index' (c :: rest)⟩ := by
  obtain ⟨line', index', widest', read⟩ := readMargin_breaks line index before widest
    (List.replicate indent ' ' ++ c :: rest) (some indent) areEnds
  obtain ⟨widest'', -, read'⟩ := readMargin_spaces line' 0 index' (before ++ breaks) widest'
    (c :: rest) (some indent) indent (by simp)
  refine ⟨line', index' + indent, max widest'' indent, ?_⟩
  rw [read, read', Nat.zero_add, readMargin_stop _ _ _ _ _ _ (some indent) onLine (.inr (by simp))]

/-- The margin after the last line of the block, up to a line that does not belong to it. -/
theorem readMargin_nextLine {indent column : Nat} {breaks tail rest : List Char}
    (areEnds : ∀ c ∈ breaks, IsLineEnd c) (next : NextLine column tail rest)
    (outside : column < indent) :
    ∃ input widest', Input.IsAt input column rest ∧
      readMargin (some indent) before widest (placeFrom line 0 index (breaks ++ tail)) =
        some ⟨before ++ breaks, widest', input⟩ := by
  obtain ⟨line', index', widest', read⟩ := readMargin_breaks line index before widest
    tail (some indent) areEnds
  rw [read]
  cases next with
  | none => exact ⟨[], widest', ⟨0, 0, rfl⟩, by rw [placeFrom, readMargin]⟩
  | line rest begins =>
    obtain ⟨widest'', -, read'⟩ := readMargin_spaces line' 0 index' (before ++ breaks) widest'
      (_ :: rest) (some indent) column (by simpa using by omega)
    rw [read', Nat.zero_add,
      readMargin_stop _ _ _ _ _ _ (some indent) begins.onLine (.inl begins.visible)]
    exact ⟨_, _, isAt_placeFrom .., rfl⟩

end

/-! ## The lines of a block -/

/-- What a block gives: the lines as they are, but for the breaks at the end. -/
def chomped (chomping : Chomping) (first more : List Char) : List BlockLine → List Char
  | [] => (⟨first, more, false⟩ : BlockGap).last chomping
  | line :: rest =>
    first ++ more ++ line.text ++ chomped chomping (line.ends.take 1) (line.ends.drop 1) rest

theorem not_atColumn {input : Input} {column indent : Nat} {rest : List Char}
    (at' : input.IsAt column rest) (outside : column < indent) : input.atColumn indent = false := by
  obtain ⟨line, index, rfl⟩ := at'
  cases rest with
  | nil => rfl
  | cons c rest =>
    have apart : column ≠ indent := by omega
    simpa [placeFrom, atColumn] using apart

/-- A line is split off at its break. -/
theorem takeWhile_line {line column index : Nat} {text : List Char} {e : Char} (rest : List Char)
    (onLine : ∀ c ∈ text, isBreak c = false) (ends : IsLineEnd e) :
    (placeFrom line column index (text ++ e :: rest)).takeWhile (fun c => !isBreak c) =
      (text, placeFrom line (column + text.length) (index + text.length) (e :: rest)) := by
  have all : ∀ p ∈ placeFrom line column index text, (!isBreak p.char) = true := by
    intro p member
    have written : p.char ∈ text := by
      rw [← map_char_placeFrom line column index text]
      exact List.mem_map_of_mem member
    simp [onLine _ written]
  rw [placeFrom_append _ onLine, placeFrom_lineEnd _ ends, Input.takeWhile,
    List.takeWhile_append_of_pos all, List.dropWhile_append_of_pos all,
    List.takeWhile_cons_of_neg (by simp [ends.isBreak]),
    List.dropWhile_cons_of_neg (by simp [ends.isBreak]), List.append_nil, map_char_placeFrom]

/-- One line is read, and the margin of the next one. -/
theorem readLines_line {chomping : Chomping} {indent line index fuel : Nat}
    {before text rest : List Char} {gap : BlockGap} {c e : Char} {margin : Margin}
    (onLine : ∀ d ∈ c :: text, isBreak d = false) (ends : IsLineEnd e)
    (read : readMargin (some indent) [] 0
      (placeFrom (line + 1) 0 (index + (c :: text).length + 1) rest) = some margin) :
    readLines true chomping indent before gap (fuel + 1)
        (placeFrom line indent index (c :: text ++ e :: rest)) =
      readLines true chomping indent
        ((c :: text).reverse ++ ((gap.first ++ gap.more).reverse ++ before))
        ⟨[e], margin.breaks, isBlank c⟩ fuel margin.rest := by
  have atIndent : Input.atColumn (placeFrom line indent index (c :: text ++ e :: rest)) indent := by
    simp [placeFrom, atColumn]
  have begins : (Input.char? (placeFrom line indent index (c :: text ++ e :: rest))).any isBlank =
      isBlank c := by simp [placeFrom, char?]
  have taken (column index : Nat) : takeBreak? (placeFrom line column index (e :: rest)) =
      some ([e], placeFrom (line + 1) 0 (index + 1) rest) := by
    rw [placeFrom_lineEnd rest ends]
    exact takeBreak?_lineEnd _ ends
  rw [readLines, atIndent]
  simp only [Bool.not_true, Bool.false_eq_true, if_false, begins, takeWhile_line rest onLine ends,
    taken, Option.getD_some, read, Option.bind_eq_bind, Option.bind_some, BlockGap.text,
    Bool.false_and, List.append_assoc]

/-- The lines of a block are read from a margin on, up to a line that does not belong to it. -/
theorem readLines_lines (chomping : Chomping) {indent column : Nat} {tail rest : List Char}
    (next : NextLine column tail rest) (outside : column < indent) (lines : List BlockLine)
    (line index : Nat) {breaks : List Char} (areEnds : ∀ c ∈ breaks, IsLineEnd c) :
    ∃ margin, readMargin (some indent) [] 0 (placeFrom line 0 index
        (breaks ++ (lines.flatMap (BlockLine.indented indent) ++ tail))) = some margin ∧
      ∀ before first blank fuel, lines.length < fuel →
        ∃ input, Input.IsAt input column rest ∧
          readLines true chomping indent before ⟨first, margin.breaks, blank⟩ fuel margin.rest =
            some (before.reverse ++ chomped chomping first breaks lines, input) := by
  induction lines generalizing line index breaks with
  | nil =>
    obtain ⟨input, widest, at', read⟩ := readMargin_nextLine line index [] 0 areEnds next outside
    refine ⟨_, read, fun before first blank fuel enough => ⟨input, at', ?_⟩⟩
    obtain ⟨fuel, rfl⟩ := Nat.exists_eq_succ_of_ne_zero (by omega : fuel ≠ 0)
    rw [readLines, not_atColumn at' outside]
    rfl
  | cons ln lines ih =>
    obtain ⟨c, text, shape⟩ := List.exists_cons_of_ne_nil ln.text_ne_nil
    obtain ⟨e, ends, shape'⟩ := List.exists_cons_of_ne_nil ln.ends_ne_nil
    have onLine := ln.onLine
    have breaks' := ln.breaks
    rw [shape] at onLine
    rw [shape'] at breaks'
    have endsLine := breaks' e List.mem_cons_self
    obtain ⟨line', index', widest, read⟩ := readMargin_line line index [] 0
      (text ++ e :: (ends ++ (lines.flatMap (BlockLine.indented indent) ++ tail)))
      areEnds (onLine c List.mem_cons_self)
    obtain ⟨margin, readMore, more⟩ := ih (line' + 1) (index' + (c :: text).length + 1)
      fun d member => breaks' d (List.mem_cons_of_mem e member)
    have written : breaks ++ ((ln :: lines).flatMap (BlockLine.indented indent) ++ tail) =
        breaks ++ (List.replicate indent ' ' ++ c :: (text ++ e :: (ends ++
          (lines.flatMap (BlockLine.indented indent) ++ tail)))) := by
      simp [BlockLine.indented, BlockLine.written, shape, shape']
    refine ⟨⟨[] ++ breaks, widest, _⟩, written ▸ read, fun before first blank fuel enough => ?_⟩
    obtain ⟨fuel, rfl⟩ := Nat.exists_eq_succ_of_ne_zero (by omega : fuel ≠ 0)
    obtain ⟨input, at', lines'⟩ :=
      more ((c :: text).reverse ++ ((first ++ breaks).reverse ++ before)) [e] (isBlank c) fuel
        (by simpa using enough)
    refine ⟨input, at', ?_⟩
    rw [← List.cons_append, readLines_line onLine endsLine readMore]
    refine lines'.trans ?_
    simp [chomped, shape, shape']

/-! ## The breaks at the end -/

theorem chomped_concat (chomping : Chomping) (first more : List Char) (lines : List BlockLine)
    (last : BlockLine) :
    chomped chomping first more (lines ++ [last]) =
      first ++ more ++ (lines.flatMap BlockLine.written ++ (last.text ++
        (⟨last.ends.take 1, last.ends.drop 1, false⟩ : BlockGap).last chomping)) := by
  induction lines generalizing first more with
  | nil => simp [chomped]
  | cons line lines ih =>
    have whole : line.ends.take 1 ++ line.ends.drop 1 = line.ends := List.take_append_drop ..
    rw [List.cons_append, chomped, ih, whole, List.flatMap_cons, BlockLine.written]
    simp only [List.append_assoc]

/-- With all breaks kept, a block gives its lines. -/
theorem chomped_keep (first more : List Char) (lines : List BlockLine) :
    chomped .keep first more lines = first ++ more ++ lines.flatMap BlockLine.written := by
  induction lines generalizing first more with
  | nil => simp [chomped, BlockGap.last]
  | cons line lines ih =>
    have whole : line.ends.take 1 ++ line.ends.drop 1 = line.ends := List.take_append_drop ..
    rw [chomped, ih, whole, List.flatMap_cons, BlockLine.written]
    simp only [List.append_assoc]

/-- A single break at the end is kept or not, as the header says. -/
theorem chomped_single {breaks before : List Char} {lines : List BlockLine} {c b : Char}
    (areEnds : ∀ d ∈ breaks, IsLineEnd d) (onLine : isBreak c = false)
    (shape : breaks ++ lines.flatMap BlockLine.written = before ++ [c] ++ [b])
    (chomping : Chomping) :
    chomped chomping [] breaks lines =
      before ++ [c] ++ (⟨[b], [], false⟩ : BlockGap).last chomping := by
  have noEnd : ¬ IsLineEnd c := fun ends => by simp [ends.isBreak] at onLine
  rcases List.eq_nil_or_concat lines with rfl | ⟨lines, last, rfl⟩
  · have member : c ∈ breaks := by
      rw [List.flatMap_nil, List.append_nil] at shape
      simp [shape]
    exact absurd (areEnds c member) noEnd
  · rw [List.concat_eq_append] at shape ⊢
    obtain empty | ⟨ends, e, ends_eq⟩ := List.eq_nil_or_concat last.ends
    · exact absurd empty last.ends_ne_nil
    rw [List.concat_eq_append] at ends_eq
    have split : (breaks ++ lines.flatMap BlockLine.written ++ last.text ++ ends) ++ [e] =
        (before ++ [c]) ++ [b] := by
      rw [← shape]
      simp [BlockLine.written, ends_eq]
    obtain ⟨front, single⟩ := List.append_inj' split rfl
    cases single
    -- The character in front of the break belongs to the last line, so the break is its only one.
    have only : ends = [] := by
      obtain rfl | ⟨ends, d, rfl⟩ := List.eq_nil_or_concat ends
      · rfl
      · rw [List.concat_eq_append, ← List.append_assoc] at front
        obtain ⟨-, same⟩ := List.append_inj' front rfl
        cases same
        exact absurd (last.breaks _ (by simp [ends_eq])) noEnd
    subst only
    rw [chomped_concat, ends_eq, ← front]
    simp

/-- What the header says of the breaks, from the end of the text. -/
theorem chompingMark_cases {text : List Char} (some : text ≠ []) :
    (endsWithBreak text = false ∧ chompingMark text = ['-'] ∧
        ∃ before c, text = before ++ [c] ∧ isBreak c = false) ∨
      (endsWithBreak text = true ∧ chompingMark text = ['+']) ∨
      (endsWithBreak text = true ∧ chompingMark text = [] ∧
        ∃ before c b, text = before ++ [c] ++ [b] ∧ isBreak c = false) := by
  obtain rfl | ⟨before, b, rfl⟩ := List.eq_nil_or_concat text
  · exact absurd rfl some
  rw [List.concat_eq_append]
  have last : endsWithBreak (before ++ [b]) = isBreak b := by simp [endsWithBreak]
  rw [last]
  cases isEnd : isBreak b with
  | false =>
    refine .inl ⟨rfl, ?_, before, b, rfl, isEnd⟩
    rw [chompingMark, List.reverse_append]
    cases before.reverse <;> simp [isEnd]
  | true =>
    obtain rfl | ⟨before, c, rfl⟩ := List.eq_nil_or_concat before
    · exact .inr (.inl ⟨rfl, by simp [chompingMark, isEnd]⟩)
    rw [List.concat_eq_append]
    cases onLine : isBreak c with
    | true => exact .inr (.inl ⟨rfl, by simp [chompingMark, isEnd, onLine]⟩)
    | false =>
      exact .inr (.inr ⟨rfl, by simp [chompingMark, isEnd, onLine], before, c, b, rfl, onLine⟩)

/-- A text with a line end after its last line, as a block has it. -/
def terminated (text : List Char) : List Char :=
  text ++ if endsWithBreak text then [] else ['\n']

theorem isPrintable_terminated {text : List Char} (printable : ∀ c ∈ text, isPrintable c = true) :
    ∀ c ∈ terminated text, isPrintable c = true := by
  intro c member
  rcases List.mem_append.1 member with member | member
  · exact printable c member
  · split at member
    · cases member
    · rw [List.mem_singleton.1 member]
      decide

theorem getLast?_terminated {text : List Char} (some : text ≠ []) :
    (terminated text).getLast?.all isBreak = true := by
  unfold terminated
  cases ends : endsWithBreak text with
  | false => simp [isBreak]
  | true =>
    rw [endsWithBreak, List.getLast?_eq_some_getLast some] at ends
    rw [if_pos rfl, List.append_nil, List.getLast?_eq_some_getLast some]
    exact ends

def Chomping.mark : Chomping → List Char
  | .clip => []
  | .strip => ['-']
  | .keep => ['+']

/-- Under its own header, the lines of a text give the text. -/
theorem chomped_written {text breaks : List Char} {lines : List BlockLine} (some : text ≠ [])
    (areEnds : ∀ d ∈ breaks, IsLineEnd d)
    (shape : breaks ++ lines.flatMap BlockLine.written = terminated text) :
    ∃ chomping : Chomping, chompingMark text = chomping.mark ∧
      chomped chomping [] breaks lines = text := by
  rcases chompingMark_cases some with ⟨ends, mark, before, c, rfl, onLine⟩ | ⟨ends, mark⟩ |
    ⟨ends, mark, before, c, b, rfl, onLine⟩
  · refine ⟨.strip, mark, ?_⟩
    rw [terminated, ends] at shape
    rw [chomped_single areEnds onLine shape]
    simp [BlockGap.last]
  · refine ⟨.keep, mark, ?_⟩
    rw [chomped_keep, List.nil_append, shape, terminated, ends]
    simp
  · refine ⟨.clip, mark, ?_⟩
    rw [terminated, ends, if_pos rfl, List.append_nil] at shape
    rw [chomped_single areEnds onLine shape]
    simp [BlockGap.last]

/-! ## Whole blocks -/

/-- Whether the header has to give the indentation. -/
def needsHint (text : List Char) : Bool := text.head?.any fun c => isSpace c || isBreak c

theorem writeLiteral_eq (indent : Nat) (text : List Char) :
    writeLiteral indent text = '|' :: ((if needsHint text then ['2'] else []) ++
      (chompingMark text ++ '\n' :: indentLines indent true (terminated text))) := by
  have last (afterBreak : Bool) :
      indentLines indent afterBreak (if endsWithBreak text then [] else ['\n']) =
        if endsWithBreak text then [] else ['\n'] := by
    split
    · rfl
    · exact indentLines_break _ _ _ (by decide)
  rw [terminated, indentLines_append, last, writeLiteral, needsHint]
  simp only [List.cons_append, List.append_assoc]

section
variable (line column index : Nat) (rest : List Char)

theorem dropLineEnd?_lineFeed :
    dropLineEnd? (placeFrom line column index ('\n' :: rest)) =
      some (placeFrom (line + 1) 0 (index + 1) rest) := by
  rw [placeFrom_lineEnd rest (.inl rfl)]
  simp [dropLineEnd?, Input.dropWhile, startsWith, char?, isBlank, takeBreak?]

/-- A chomping mark is read if there is one, up to the end of the line. -/
theorem readChomping?_mark (chomping : Chomping) :
    readChomping? (placeFrom line column index (chomping.mark ++ '\n' :: rest)) =
      if chomping = .clip then none
      else some (chomping, placeFrom line (column + 1) (index + 1) ('\n' :: rest)) := by
  cases chomping with
  | clip =>
    rw [Chomping.mark, List.nil_append, placeFrom_lineEnd rest (.inl rfl)]
    rfl
  | strip =>
    rw [Chomping.mark, List.singleton_append, placeFrom_cons _ (by decide)]
    rfl
  | keep =>
    rw [Chomping.mark, List.singleton_append, placeFrom_cons _ (by decide)]
    rfl

theorem readIncrement?_lineFeed :
    readIncrement? (placeFrom line column index ('\n' :: rest)) = none := by
  rw [placeFrom_lineEnd rest (.inl rfl)]
  simp [readIncrement?]

theorem readIncrement?_two :
    readIncrement? (placeFrom line column index ('2' :: rest)) =
      some (2, placeFrom line (column + 1) (index + 1) rest) := by
  rw [placeFrom_cons rest (by decide)]
  rfl

theorem readChomping?_two : readChomping? (placeFrom line column index ('2' :: rest)) = none := by
  rw [placeFrom_cons rest (by decide)]
  rfl

/-- A header is read with its line. -/
theorem readHeader?_written (hinted : Bool) (chomping : Chomping) :
    ∃ index', readHeader? (placeFrom line column index
        ((if hinted then ['2'] else []) ++ (chomping.mark ++ '\n' :: rest))) =
      some (⟨chomping, if hinted then 2 else 0⟩, placeFrom (line + 1) 0 index' rest) := by
  cases hinted with
  | true =>
    rw [if_pos rfl, if_pos rfl, List.singleton_append, readHeader?, readChomping?_two,
      readIncrement?_two]
    simp only [readChomping?_mark]
    cases chomping with
    | clip => exact ⟨index + 1 + 1, by simp [Chomping.mark, dropLineEnd?_lineFeed]⟩
    | strip => exact ⟨index + 1 + 1 + 1, by simp [dropLineEnd?_lineFeed]⟩
    | keep => exact ⟨index + 1 + 1 + 1, by simp [dropLineEnd?_lineFeed]⟩
  | false =>
    rw [if_neg (by decide), if_neg (by decide), List.nil_append, readHeader?, readChomping?_mark]
    cases chomping with
    | clip =>
      exact ⟨index + 1, by simp [Chomping.mark, readIncrement?_lineFeed, dropLineEnd?_lineFeed]⟩
    | strip => exact ⟨index + 1 + 1, by simp [readIncrement?_lineFeed, dropLineEnd?_lineFeed]⟩
    | keep => exact ⟨index + 1 + 1, by simp [readIncrement?_lineFeed, dropLineEnd?_lineFeed]⟩

/-- The indentation of a line that begins with no blank is found whether it is given or not. -/
theorem readMargin_shown {given : Option Nat} {indent : Nat} {c : Char}
    (inside : given.all (indent ≤ ·) = true) (visible : isBlank c = false)
    (onLine : isBreak c = false) :
    readMargin given [] 0 (placeFrom line 0 index (List.replicate indent ' ' ++ c :: rest)) =
      some ⟨[], indent, placeFrom line indent (index + indent) (c :: rest)⟩ := by
  obtain ⟨widest, small, read⟩ :=
    readMargin_spaces line 0 index [] 0 (c :: rest) given indent (by rwa [Nat.zero_add])
  have reached : max widest indent = indent := by omega
  rw [read, readMargin_stop _ _ _ _ _ _ given onLine (.inl visible), Nat.zero_add, reached]

end

theorem length_le_length_lines (indent : Nat) (lines : List BlockLine) :
    lines.length ≤ (lines.flatMap (BlockLine.indented indent)).length := by
  induction lines with
  | nil => exact Nat.le_refl 0
  | cons line lines ih =>
    have positive := List.length_pos_iff.2 line.text_ne_nil
    simp only [List.flatMap_cons, List.length_append, List.length_cons, BlockLine.indented,
      BlockLine.written]
    omega

/-- Without a hint, the first character is that of the first line. -/
theorem first_of_not_needsHint {text breaks : List Char} {lines : List BlockLine}
    (some : text ≠ []) (printable : ∀ c ∈ text, isPrintable c = true)
    (unhinted : needsHint text = false) (areEnds : ∀ d ∈ breaks, IsLineEnd d)
    (shape : terminated text = breaks ++ lines.flatMap BlockLine.written) :
    breaks = [] ∧ ∃ line more c rest, lines = line :: more ∧ line.text = c :: rest ∧
      isBlank c = false ∧ isBreak c = false := by
  obtain ⟨c, text, rfl⟩ := List.exists_cons_of_ne_nil some
  simp only [needsHint, List.head?_cons, Option.any_some, Bool.or_eq_false_iff] at unhinted
  have visible : isBlank c = false := by
    rw [isBlank_of_isPrintable (printable c List.mem_cons_self)]
    exact unhinted.1
  cases breaks with
  | cons b breaks =>
    obtain ⟨rfl, -⟩ := List.cons.inj shape
    simp [(areEnds c List.mem_cons_self).isBreak] at unhinted
  | nil =>
    cases lines with
    | nil => cases shape
    | cons line more =>
      obtain ⟨d, rest, first⟩ := List.exists_cons_of_ne_nil line.text_ne_nil
      rw [List.flatMap_cons, BlockLine.written, first] at shape
      obtain ⟨rfl, -⟩ := List.cons.inj shape
      exact ⟨rfl, line, more, c, rest, rfl, first, visible, unhinted.2⟩

/-- Without a hint, the margin of the block is found as it is with the indentation given. -/
theorem readMargin_of_not_needsHint (line index : Nat) {indent : Nat} {text breaks : List Char}
    (tail : List Char) {lines : List BlockLine} {margin : Margin} (some : text ≠ [])
    (printable : ∀ c ∈ text, isPrintable c = true) (unhinted : needsHint text = false)
    (areEnds : ∀ d ∈ breaks, IsLineEnd d)
    (shape : terminated text = breaks ++ lines.flatMap BlockLine.written)
    (read : readMargin (.some indent) [] 0 (placeFrom line 0 index
      (breaks ++ (lines.flatMap (BlockLine.indented indent) ++ tail))) = .some margin) :
    readMargin none [] 0 (placeFrom line 0 index
        (breaks ++ (lines.flatMap (BlockLine.indented indent) ++ tail))) = .some margin ∧
      margin.widest = indent := by
  obtain ⟨rfl, ln, more, c, rest, rfl, first, visible, onLine⟩ :=
    first_of_not_needsHint some printable unhinted areEnds shape
  have unfolded : [] ++ ((ln :: more).flatMap (BlockLine.indented indent) ++ tail) =
      List.replicate indent ' ' ++ c :: (rest ++ (ln.ends ++
        (more.flatMap (BlockLine.indented indent) ++ tail))) := by
    simp [BlockLine.indented, BlockLine.written, first]
  have shown (given : Option Nat) (inside : given.all (indent ≤ ·) = true) :=
    readMargin_shown line index (rest ++ (ln.ends ++
      (more.flatMap (BlockLine.indented indent) ++ tail))) inside visible onLine
  rw [unfolded, shown (.some indent) (by simp)] at read
  cases read
  rw [unfolded, shown none rfl]
  exact ⟨rfl, rfl⟩

/-- A text that may be a literal block is read back from its lines. The header is followed as far as
it gives the indentation, and otherwise the first line is. -/
theorem readBlock_written {parent : Int} {indent column : Nat} {text tail rest : List Char}
    (line start index : Nat) (deeper : (max parent 0).toNat + 2 = indent)
    (allowed : allowsLiteral text = true) (feed : '\n' ∈ text) (next : NextLine column tail rest)
    (outside : column < indent) :
    ∃ input, Input.IsAt input column rest ∧
      readBlock true parent (placeFrom line start index ((writeLiteral indent text).tail ++ tail)) =
        some (text, input) := by
  have some : text ≠ [] := List.ne_nil_of_mem feed
  simp only [allowsLiteral, Bool.and_eq_true, List.all_eq_true] at allowed
  obtain ⟨breaks, lines, areEnds, shape⟩ :=
    exists_lines (isPrintable_terminated allowed.1.1) (getLast?_terminated some)
  obtain ⟨chomping, mark, kept⟩ := chomped_written some areEnds shape.symm
  obtain ⟨index', header⟩ := readHeader?_written line start index
    (breaks ++ (lines.flatMap (BlockLine.indented indent) ++ tail)) (needsHint text) chomping
  obtain ⟨margin, read, more⟩ :=
    readLines_lines chomping next outside lines (line + 1) index' areEnds
  have enough : lines.length <
      (placeFrom (line + 1) 0 index'
        (breaks ++ (lines.flatMap (BlockLine.indented indent) ++ tail))).length + 1 := by
    have := length_le_length_lines indent lines
    simp only [length_placeFrom, List.length_append]
    omega
  obtain ⟨input, at', lines'⟩ := more [] [] false _ enough
  rw [kept, List.reverse_nil, List.nil_append] at lines'
  have written : (writeLiteral indent text).tail ++ tail =
      (if needsHint text then ['2'] else []) ++ (chomping.mark ++ '\n' ::
        (breaks ++ (lines.flatMap (BlockLine.indented indent) ++ tail))) := by
    rw [writeLiteral_eq, shape, indentLines_breaks _ _ areEnds, indentLines_lines, mark]
    simp
  refine ⟨input, at', ?_⟩
  rw [written, readBlock, header]
  cases hinted : needsHint text with
  | true =>
    simp only [if_true, Option.bind_eq_bind, Option.bind_some]
    rw [if_neg (by decide), deeper, read]
    exact lines'
  | false =>
    obtain ⟨same, width⟩ := readMargin_of_not_needsHint (line + 1) index' tail some allowed.1.1
      hinted areEnds shape read
    have reached : max margin.widest (max (parent + 1).toNat 1) = indent := by omega
    simp only [Bool.false_eq_true, if_false, if_true, Option.bind_eq_bind, Option.bind_some, same,
      Option.getD_none, reached]
    exact lines'

end SecretVault.Yaml
