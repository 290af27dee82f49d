import SecretVault.Proofs.Yaml.Placing

/-!
Plain text is read back. A text that may be plain has no colon in front of a gap and no comment mark
after one, so it is read up to its line end; the next line is indented too little to belong to it.
-/
namespace SecretVault.Yaml
open SecretVault.Yaml.Input

section
variable {ctx : PlainContext} {before : List Char} {gap : Gap} {p : Placed} {rest : Input}

theorem readPlain_space (space : p.char = ' ') :
    readPlain ctx before gap (p :: rest) = readPlain ctx before (gap.addBlank ' ') rest := by
  rw [readPlain]
  simp [space, isBlank, PlainContext.refuses]

theorem readPlain_lineEnd (ends : IsLineEnd p.char) :
    readPlain ctx before gap (p :: rest) = readPlain ctx before (gap.addBreak [p.char]) rest := by
  rw [readPlain, if_neg (by simp [ends.visible])]
  split
  · rename_i taken
    rw [takeBreak?_lineEnd rest ends] at taken
    cases taken
    rfl
  · rename_i taken
    rw [takeBreak?_lineEnd rest ends] at taken
    cases taken

section
variable (visible : isBlank p.char = false) (onLine : isBreak p.char = false)
include visible onLine

/-- The scalar ends in front of a character that stops it. -/
theorem readPlain_stop (stops : ctx.stopsAt gap p rest = true) :
    readPlain ctx before gap (p :: rest) = some ⟨before.reverse, gap.hasBreak, p :: rest⟩ := by
  rw [readPlain, if_neg (by simp [visible])]
  split
  · rename_i taken
    rw [takeBreak?_of_not_isBreak rest onLine] at taken
    cases taken
  · rw [if_pos stops]

/-- Any other character belongs to it, with the gap in front. -/
theorem readPlain_char (block : ctx.inFlow = false) (goesOn : ctx.stopsAt gap p rest = false) :
    readPlain ctx before gap (p :: rest) =
      readPlain ctx (p.char :: (gap.text.reverse ++ before)) .none rest := by
  have noTab : p.char ≠ '\t' := by
    intro same
    rw [same] at visible
    exact absurd visible (by decide)
  rw [readPlain, if_neg (by simp [visible])]
  split
  · rename_i taken
    rw [takeBreak?_of_not_isBreak rest onLine] at taken
    cases taken
  · rw [if_neg (by simp [goesOn]), if_neg (by simp [PlainContext.refuses, block, noTab])]

end
end

/-- Where a reader is at a gap, a text begins with one. -/
theorem gapFollows_of_atGap {line column index : Nat} {text tail : List Char}
    (gap : (placeFrom line column index (text ++ tail)).atGap = true) : gapFollows text = true := by
  cases text with
  | nil => rfl
  | cons c text =>
    have atGap : isBlank c = true ∨ isBreak c = true := by
      simpa [placeFrom, atGap] using gap
    rcases atGap with blank | breaks
    · simp [gapFollows, blank]
    · simp [gapFollows, breaks]

/-- A text of a plain scalar from some place on, after a gap or not: it ends with no space, and
nothing in it ends the scalar. -/
structure IsPlainRest (afterGap : Bool) (text : List Char) : Prop where
  onLine : ∀ c ∈ text, isPrintable c = true ∧ isBreak c = false
  noSpace : text.getLast? ≠ some ' '
  noIndicator : hasInnerIndicator afterGap text = false

namespace IsPlainRest
variable {afterGap : Bool} {c : Char} {text : List Char}

theorem tail (plain : IsPlainRest afterGap (c :: text)) : IsPlainRest (c == ' ') text := by
  obtain ⟨onLine, noSpace, noIndicator⟩ := plain
  refine ⟨fun d member => onLine d (List.mem_cons_of_mem c member), ?_, ?_⟩
  · cases text with
    | nil => nofun
    | cons d text => rwa [List.getLast?_cons_cons] at noSpace
  · obtain ⟨printable, goesOn⟩ := onLine c List.mem_cons_self
    have noNul : (c == '\x00') = false := by
      rw [beq_eq_false_iff_ne]
      rintro rfl
      exact absurd printable (by decide)
    simp only [hasInnerIndicator, Bool.or_eq_false_iff] at noIndicator
    have after := noIndicator.2
    rwa [gapFollows, isBlank_of_isPrintable printable, goesOn, noNul, Bool.or_false,
      Bool.or_false] at after

/-- A space is not the last character. -/
theorem ne_nil_of_space (plain : IsPlainRest afterGap (' ' :: text)) : text ≠ [] := by
  rintro rfl
  exact plain.noSpace rfl

end IsPlainRest

section
variable {ctx : PlainContext} {line column index : Nat} {before tail : List Char}

/-- Nothing in a plain text ends it: no comment or marker behind blanks, and no colon before a
gap. -/
theorem not_stopsAt_of_plain (block : ctx.inFlow = false) {blanks : List Char} {c : Char}
    {text : List Char} {afterGap : Bool} (plain : IsPlainRest afterGap (c :: text))
    (inGap : blanks ≠ [] → afterGap = true)
    (inside : blanks ≠ [] → 0 < column ∧ ctx.indent ≤ column) :
    ctx.stopsAt (.blanks blanks) ⟨c, line, column, index⟩
      (placeFrom line (column + 1) (index + 1) (text ++ tail)) = false := by
  have noIndicator := plain.noIndicator
  simp only [hasInnerIndicator, Bool.or_eq_false_iff, Bool.and_eq_false_iff] at noIndicator
  simp only [PlainContext.stopsAt, block, Bool.or_eq_false_iff, Bool.false_and, Bool.not_false,
    Bool.true_and, Bool.and_eq_false_iff, decide_eq_false_iff_not, Nat.not_lt]
  refine ⟨⟨?_, ?_⟩, trivial⟩
  · by_cases noBlanks : blanks = []
    · exact .inl (by simp [noBlanks, Gap.none])
    · obtain ⟨positive, far⟩ := inside noBlanks
      refine .inr ⟨⟨atDocumentMarker_of_column _ positive, ?_⟩, far⟩
      simpa [inGap noBlanks] using noIndicator.1.2
  · rcases noIndicator.1.1 with noColon | noGap
    · exact .inl noColon
    · refine .inr (Bool.eq_false_iff.2 fun gap => ?_)
      rw [gapFollows_of_atGap gap] at noGap
      cases noGap

/-- Plain text is read to its end, whatever follows. A text with spaces must not begin to the left
of the least column of further lines, or in the first column. -/
theorem readPlain_text (block : ctx.inFlow = false) {text : List Char} (blanks : List Char)
    {afterGap : Bool} (plain : IsPlainRest afterGap text) (present : blanks ≠ [] → text ≠ [])
    (inGap : blanks ≠ [] → afterGap = true)
    (inside : blanks ≠ [] ∨ ' ' ∈ text → 0 < column ∧ ctx.indent ≤ column) :
    readPlain ctx before (.blanks blanks) (placeFrom line column index (text ++ tail)) =
      readPlain ctx (text.reverse ++ (blanks.reverse ++ before)) .none
        (placeFrom line (column + text.length) (index + text.length) tail) := by
  induction text generalizing column index before blanks afterGap with
  | nil =>
    have noBlanks : blanks = [] := Decidable.byContradiction fun some => present some rfl
    rw [noBlanks]
    rfl
  | cons c text ih =>
    obtain ⟨printable, goesOn⟩ := plain.onLine c List.mem_cons_self
    have moved : column + 1 + text.length = column + (c :: text).length ∧
        index + 1 + text.length = index + (c :: text).length := by
      simp only [List.length_cons]
      omega
    rw [List.cons_append, placeFrom_cons _ goesOn]
    by_cases space : c = ' '
    · subst space
      have far := inside (.inr List.mem_cons_self)
      rw [readPlain_space rfl, Gap.addBlank, ih (blanks ++ [' ']) plain.tail
        (fun _ => plain.ne_nil_of_space) (fun _ => rfl) (fun _ => by omega), moved.1, moved.2]
      simp
    · have visible := not_isBlank_of_isPrintable printable space
      have goesOn' : ctx.stopsAt (.blanks blanks) ⟨c, line, column, index⟩
          (placeFrom line (column + 1) (index + 1) (text ++ tail)) = false :=
        not_stopsAt_of_plain block plain inGap fun some => inside (.inl some)
      rw [readPlain_char visible goesOn block goesOn', Gap.text, Gap.none, ih [] plain.tail
        (absurd rfl) (absurd rfl) (fun some => by
          have far := inside (.inr (List.mem_cons_of_mem c (by simpa using some)))
          omega), moved.1, moved.2]
      simp [Gap.none]

/-- After a line break, spaces drop out. -/
theorem readPlain_spaces (first more : List Char) (n : Nat) :
    readPlain ctx before (.breaks first more)
        (placeFrom line column index (List.replicate n ' ' ++ tail)) =
      readPlain ctx before (.breaks first more) (placeFrom line (column + n) (index + n) tail) := by
  induction n generalizing column index with
  | zero => rfl
  | succ n ih =>
    rw [List.replicate_succ, List.cons_append, placeFrom_cons _ (by decide), readPlain_space rfl,
      Gap.addBlank, ih, Nat.add_right_comm column, Nat.add_right_comm index]
    rfl

/-- A line end ends the scalar if the next line is indented too little. -/
theorem readPlain_nextLine {indent : Nat} {rest : List Char} (block : ctx.inFlow = false)
    (next : NextLine indent tail rest) (outside : indent < ctx.indent) :
    ∃ input : Input, input.IsAt indent rest ∧
      readPlain ctx before .none (placeFrom line column index ('\n' :: tail)) =
        some ⟨before.reverse, true, input⟩ := by
  rw [placeFrom_lineEnd tail (.inl rfl), readPlain_lineEnd (.inl rfl), Gap.none, Gap.addBreak]
  cases next with
  | none =>
    refine ⟨[], ⟨0, 0, rfl⟩, ?_⟩
    rw [placeFrom, readPlain]
    rfl
  | @line c rest begins =>
    refine ⟨placeFrom (line + 1) indent (index + 1 + indent) (c :: rest), isAt_placeFrom .., ?_⟩
    rw [readPlain_spaces, Nat.zero_add, placeFrom_cons rest begins.onLine,
      readPlain_stop begins.visible begins.onLine]
    · rfl
    · simp [PlainContext.stopsAt, block, outside, Gap.none]

/-- A text that may be plain is read back from its line. -/
theorem readPlain_written {indent : Nat} {text rest : List Char} (block : ctx.inFlow = false)
    (plain : IsPlainRest true text) (inside : 0 < column ∧ ctx.indent ≤ column)
    (next : NextLine indent tail rest) (outside : indent < ctx.indent) :
    ∃ input : Input, input.IsAt indent rest ∧
      readPlain ctx [] .none (placeFrom line column index (text ++ '\n' :: tail)) =
        some ⟨text, true, input⟩ := by
  rw [Gap.none, readPlain_text block [] plain (absurd rfl) (absurd rfl) fun _ => inside]
  obtain ⟨input, begins, read⟩ := readPlain_nextLine block next outside
  exact ⟨input, begins, read.trans (by simp)⟩

end

end SecretVault.Yaml
