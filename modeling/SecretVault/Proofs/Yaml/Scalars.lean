import SecretVault.Proofs.Yaml.Rounds

/-!
Written scalars are read back, in whichever style. One round reads the scalar, and behind it the
next line stands at its column. Only a scalar in plain style is read as a plain one.
-/
namespace SecretVault.Yaml
open SecretVault.Yaml.Input

/-! ## Styles -/

/-- Whether a text is written without quotes. -/
def isPlain (text : List Char) : Bool := ScalarStyle.of text == .plain

theorem style_cases (text : List Char) :
    (ScalarStyle.of text = .literal ∧ allowsLiteral text = true ∧ '\n' ∈ text) ∨
      (ScalarStyle.of text = .plain ∧ needsQuotes text = false ∧ allowsPlain text = true) ∨
      (ScalarStyle.of text = .single ∧ allowsSingle text = true ∧ '\n' ∉ text) ∨
      ScalarStyle.of text = .double := by
  unfold ScalarStyle.of
  by_cases feed : '\n' ∈ text
  · by_cases literal : allowsLiteral text = true
    · simp [feed, literal]
    · simp [feed, literal]
  · by_cases plain : (!needsQuotes text && allowsPlain text) = true
    · simp_all
    · by_cases single : allowsSingle text = true
      · simp [feed, plain, single]
      · simp [feed, plain, single]

/-- Characters that plain text does not begin with. -/
def indicators : List Char := "#,[]\x7b\x7d&*!|>'\"%@\x60".toList

/-- How plain text begins. -/
structure BeginsPlain (c : Char) (rest : List Char) : Prop where
  begins : BeginsToken c
  other : ∀ d ∈ indicators, c ≠ d
  noGap : c = '-' ∨ c = '?' ∨ c = ':' → gapFollows rest = false

theorem isPlainRest_of_allowsPlain {text : List Char} (allowed : allowsPlain text = true) :
    IsPlainRest true text := by
  simp only [allowsPlain, hasIndicator, Bool.and_eq_true, List.all_eq_true, bne_iff_ne, ne_eq,
    Bool.not_eq_true', Bool.or_eq_false_iff] at allowed
  exact ⟨allowed.1.1.1, allowed.1.2, allowed.2.1.2⟩

theorem beginsPlain_of_allowsPlain {c : Char} {rest : List Char}
    (allowed : allowsPlain (c :: rest) = true) : BeginsPlain c rest := by
  obtain ⟨onLine, -, noInner⟩ := isPlainRest_of_allowsPlain allowed
  obtain ⟨printable, goesOn⟩ := onLine c List.mem_cons_self
  simp only [allowsPlain, hasIndicator, Bool.and_eq_true, bne_iff_ne, ne_eq, Bool.not_eq_true',
    Bool.or_eq_false_iff, List.head?_cons] at allowed
  simp only [hasInnerIndicator, Bool.or_eq_false_iff, Bool.and_eq_false_iff] at noInner
  have noSpace : c ≠ ' ' := fun same => allowed.1.1.2 (congrArg some same)
  have notContained : indicators.contains c = false := allowed.2.2.1
  have noMark : c ∉ indicators := by simpa using notContained
  refine ⟨⟨?_, goesOn, ?_, ?_⟩, ?_, ?_⟩
  · exact not_isBlank_of_isPrintable printable noSpace
  · rintro rfl
    exact noMark (by decide)
  · rintro rfl
    exact absurd printable (by decide)
  · rintro d member rfl
    exact noMark member
  · rintro (rfl | rfl | rfl)
    · simpa using allowed.2.2.2
    · simpa using allowed.2.2.2
    · simpa using noInner.1.1

/-- Where a gap would make an indicator of the first character, the reader is at none. -/
theorem BeginsPlain.atGap {c : Char} {text : List Char} (begins : BeginsPlain c text)
    (indicator : c = '-' ∨ c = '?' ∨ c = ':') (line column index : Nat) (tail : List Char) :
    (placeFrom line column index (text ++ tail)).atGap = false := by
  refine Bool.eq_false_iff.2 fun gap => ?_
  have follows := gapFollows_of_atGap gap
  rw [begins.noGap indicator] at follows
  cases follows

theorem startsPlain_of_begins {c : Char} {text : List Char} (begins : BeginsPlain c text)
    (line column index : Nat) (tail : List Char) :
    startsPlain false ⟨c, line, column, index⟩
      (placeFrom line (column + 1) (index + 1) (text ++ tail)) = true := by
  unfold startsPlain
  split
  · rename_i dash
    have noGap := begins.atGap (.inl (by simpa using dash)) line (column + 1) (index + 1) tail
    cases ahead : placeFrom line (column + 1) (index + 1) (text ++ tail) with
    | nil => rfl
    | cons q rest =>
      rw [ahead] at noGap
      simp only [atGap, Bool.or_eq_false_iff] at noGap
      simp [char?, noGap.1]
  split
  · rename_i mark
    have indicator : c = '?' ∨ c = ':' := by simpa using mark
    simp [begins.atGap (.inr indicator) line (column + 1) (index + 1) tail]
  · have absent : ",[]\x7b\x7d#&*!|>'\"%@\x60".toList.contains c = false := by
      have spelled : ",[]\x7b\x7d#&*!|>'\"%@\x60".toList = [',', '[', ']', '\x7b', '\x7d', '#', '&',
          '*', '!', '|', '>', '\'', '"', '%', '@', '\x60'] := rfl
      have other (d : Char) (member : d ∈ indicators) : (c == d) = false :=
        beq_eq_false_iff_ne.2 (begins.other d member)
      rw [spelled]
      simp only [List.contains_cons, List.contains_nil, Bool.or_false, Bool.or_eq_false_iff]
      exact ⟨other _ (by decide), other _ (by decide), other _ (by decide), other _ (by decide),
        other _ (by decide), other _ (by decide), other _ (by decide), other _ (by decide),
        other _ (by decide), other _ (by decide), other _ (by decide), other _ (by decide),
        other _ (by decide), other _ (by decide), other _ (by decide), other _ (by decide)⟩
    rw [atGap, begins.begins.visible, begins.begins.onLine, absent]
    rfl

namespace Lexer
variable {s : Lexer} {line column index : Nat}

/-- Plain text is read as a plain scalar. -/
theorem next?_plain {c : Char} {text : List Char} (tail : List Char) (block : s.inFlow = false)
    (begins : BeginsPlain c text) (noMarker : 0 < column ∨ c ≠ '-' ∧ c ≠ '.') :
    s.next? ⟨c, line, column, index⟩ (placeFrom line (column + 1) (index + 1) (text ++ tail)) =
      s.plainScalar? ⟨c, line, column, index⟩
        (placeFrom line (column + 1) (index + 1) (text ++ tail)) := by
  have other (d : Char) (member : d ∈ indicators) : ¬ c = d := begins.other d member
  have marker (d : Char) (mark : d = '-' ∨ d = '.') : Input.marker d (⟨c, line, column, index⟩ ::
      placeFrom line (column + 1) (index + 1) (text ++ tail)) = false := by
    rcases noMarker with inside | ⟨noDash, noDot⟩
    · exact marker_of_column d _ inside
    · rcases mark with rfl | rfl
      · exact marker_of_ne _ noDash
      · exact marker_of_ne _ noDot
  have noIndicator (d : Char) (mark : d = '-' ∨ d = '?' ∨ d = ':') :
      ¬ (c = d ∧ (placeFrom line (column + 1) (index + 1) (text ++ tail)).atGap = true) := by
    rintro ⟨rfl, gap⟩
    rw [begins.atGap mark] at gap
    cases gap
  unfold next?
  dsimp only
  rw [if_neg (fun h => other '%' (by decide) h.2), if_neg (by simp [marker]),
    if_neg (by simp [marker]), if_neg (other '[' (by decide)), if_neg (other '\x7b' (by decide)),
    if_neg (other ']' (by decide)), if_neg (other '\x7d' (by decide)),
    if_neg (other ',' (by decide)), if_neg (noIndicator '-' (by simp)),
    if_neg (by simpa [block] using noIndicator '?' (by simp)),
    if_neg (by simpa [block] using noIndicator ':' (by simp)), if_neg (other '*' (by decide)),
    if_neg (other '&' (by decide)), if_neg (other '!' (by decide)),
    if_neg (fun h => other '|' (by decide) h.1), if_neg (fun h => other '>' (by decide) h.1),
    if_neg (other '\'' (by decide)), if_neg (other '"' (by decide)), block,
    if_pos (startsPlain_of_begins begins line column index tail)]

section
variable (inside : 0 < column) (rest : Input)
include inside

theorem next?_single :
    s.next? ⟨'\'', line, column, index⟩ rest =
      s.content? ⟨'\'', line, column, index⟩ ((readSingle [] .none rest).map fun (text, rest) =>
        (.scalar (String.ofList text) false, rest)) := by
  have noMarker (c : Char) : Input.marker c (⟨'\'', line, column, index⟩ :: rest) = false :=
    marker_of_column c rest inside
  simp [next?, noMarker]

theorem next?_double :
    s.next? ⟨'"', line, column, index⟩ rest =
      s.content? ⟨'"', line, column, index⟩ ((readDouble [] .none rest).map fun (text, rest) =>
        (.scalar (String.ofList text) false, rest)) := by
  have noMarker (c : Char) : Input.marker c (⟨'"', line, column, index⟩ :: rest) = false :=
    marker_of_column c rest inside
  simp [next?, noMarker]

theorem next?_literal (block : s.inFlow = false) :
    s.next? ⟨'|', line, column, index⟩ rest = s.blockScalar? true rest := by
  have noMarker (c : Char) : Input.marker c (⟨'|', line, column, index⟩ :: rest) = false :=
    marker_of_column c rest inside
  simp [next?, noMarker, block]

end

/-- Behind a line end, the next line stands at its column. -/
theorem standsAt_nextLine {nextColumn : Nat} {tail rest : List Char}
    (next : NextLine nextColumn tail rest) (input : s.input.IsAt column ('\n' :: tail)) :
    s.StandsAt true nextColumn rest := by
  obtain ⟨line, index, same⟩ := input
  rw [StandsAt, same]
  exact passGaps_nextLine next

/-- Where the line begins already, there is no gap to pass. -/
theorem standsAt_of_isAt {nextColumn : Nat} {tail rest : List Char}
    (next : NextLine nextColumn tail rest) (allowed : s.keyAllowed = true)
    (input : s.input.IsAt nextColumn rest) : s.StandsAt true nextColumn rest := by
  refine ⟨s.input, input, ?_⟩
  obtain ⟨line, index, same⟩ := input
  rw [same, allowed]
  cases next with
  | none => rfl
  | line rest begins => exact passGaps_token rest begins

/-- The token of a text. -/
def scalarToken (text : List Char) : Token := .scalar (String.ofList text) (isPlain text)

section
variable {read : List Token} {parent nextColumn : Nat} {outer : List Int}
  {text tail rest : List Char}
variable (collected : s.Collected read parent outer) (free : s.KeyFree) (inside : parent < column)
  (next : NextLine nextColumn tail rest)
include collected free inside next

/-- A plain scalar is read to the line end. -/
theorem next?_plain_written {c : Char} (outside : nextColumn ≤ parent)
    (style : ScalarStyle.of (c :: text) = .plain) (allowed : allowsPlain (c :: text) = true) :
    ∃ s', s.next? ⟨c, line, column, index⟩
        (placeFrom line (column + 1) (index + 1) (text ++ '\n' :: tail)) = some s' ∧
      s'.AtLine (scalarToken (c :: text) :: read) parent outer nextColumn rest := by
  have begins := beginsPlain_of_allowsPlain allowed
  have plain := isPlainRest_of_allowsPlain allowed
  have least : (s.indent + 1).toNat = parent + 1 := by rw [collected.indent]; omega
  obtain ⟨input, at', written⟩ : ∃ input : Input, input.IsAt nextColumn rest ∧
      readPlain ⟨s.inFlow, (s.indent + 1).toNat⟩ [] .none
          (placeFrom line column index (c :: text ++ '\n' :: tail)) =
        some ⟨c :: text, true, input⟩ :=
    readPlain_written collected.inFlow plain (by dsimp only; omega) next (by dsimp only; omega)
  rw [List.cons_append, placeFrom_cons _ begins.begins.onLine] at written
  have noted := free.noted (p := ⟨c, line, column, index⟩) (by rw [collected.indent]; simpa)
  refine ⟨(s.noted ⟨c, line, column, index⟩).passed (.scalar (String.ofList (c :: text)) true)
    input true, ?_, ?_, noted.passed _ _ _, standsAt_of_isAt next rfl at'⟩
  · rw [next?_plain _ collected.inFlow begins (.inl (by omega)),
      plainScalar?_of_free free written]
  · rw [scalarToken, isPlain, style]
    exact (collected.noted _).passed _ _ _

/-- A quoted scalar is read to its closing quote. -/
theorem atLine_quoted (quote : Char) {input : Input} (style : ScalarStyle.of text ≠ .plain)
    {end' : Nat} (stands : input.IsAt end' ('\n' :: tail)) :
    ((s.noted ⟨quote, line, column, index⟩).passed (.scalar (String.ofList text) false)
      input false).AtLine (scalarToken text :: read) parent outer nextColumn rest := by
  have plain : isPlain text = false := by simpa [isPlain] using style
  have noted := free.noted (p := ⟨quote, line, column, index⟩) (by rw [collected.indent]; simpa)
  refine ⟨?_, noted.passed _ _ _, standsAt_nextLine next stands⟩
  rw [scalarToken, plain]
  exact (collected.noted _).passed _ _ _

theorem next?_single_written (style : ScalarStyle.of text = .single)
    (allowed : allowsSingle text = true) (feed : '\n' ∉ text) :
    ∃ s', s.next? ⟨'\'', line, column, index⟩ (placeFrom line (column + 1) (index + 1)
        ((writeSingle (parent + 2) text).tail ++ '\n' :: tail)) = some s' ∧
      s'.AtLine (scalarToken text :: read) parent outer nextColumn rest := by
  obtain ⟨line', column', index', written⟩ := readSingle_written line (column + 1) (index + 1) tail
    (Nat.succ_pos (parent + 1)) (Nat.succ_pos column) allowed feed
  refine ⟨(s.noted ⟨'\'', line, column, index⟩).passed (.scalar (String.ofList text) false)
    (placeFrom line' column' index' ('\n' :: tail)) false, ?_,
    atLine_quoted collected free inside next '\'' (by simp [style]) (isAt_placeFrom ..)⟩
  rw [next?_single (by omega), written]
  exact content?_of_free free _ _ _

theorem next?_double_written (style : ScalarStyle.of text = .double) :
    ∃ s', s.next? ⟨'"', line, column, index⟩ (placeFrom line (column + 1) (index + 1)
        ((writeDouble text).tail ++ '\n' :: tail)) = some s' ∧
      s'.AtLine (scalarToken text :: read) parent outer nextColumn rest := by
  obtain ⟨column', index', written⟩ :=
    readDouble_written line (column + 1) (index + 1) text ('\n' :: tail) (Nat.succ_pos column)
  refine ⟨(s.noted ⟨'"', line, column, index⟩).passed (.scalar (String.ofList text) false)
    (placeFrom line column' index' ('\n' :: tail)) false, ?_,
    atLine_quoted collected free inside next '"' (by simp [style]) (isAt_placeFrom ..)⟩
  rw [next?_double (by omega), written]
  exact content?_of_free free _ _ _

/-- A literal block is read to the next line. -/
theorem next?_literal_written (outside : nextColumn ≤ parent)
    (style : ScalarStyle.of text = .literal) (allowed : allowsLiteral text = true)
    (feed : '\n' ∈ text) :
    ∃ s', s.next? ⟨'|', line, column, index⟩ (placeFrom line (column + 1) (index + 1)
        ((writeLiteral (parent + 2) text).tail ++ tail)) = some s' ∧
      s'.AtLine (scalarToken text :: read) parent outer nextColumn rest := by
  obtain ⟨input, at', written⟩ : ∃ input : Input, input.IsAt nextColumn rest ∧
      readBlock true s.indent (placeFrom line (column + 1) (index + 1)
        ((writeLiteral (parent + 2) text).tail ++ tail)) = some (text, input) := by
    refine readBlock_written line (column + 1) (index + 1) ?_ allowed feed next ?_
    · rw [collected.indent]
      omega
    · omega
  refine ⟨s.unkeyed.passed (.scalar (String.ofList text) false) input true, ?_, ?_,
    free.unkeyed.passed _ _ _, standsAt_of_isAt next rfl at'⟩
  · rw [next?_literal (by omega) _ collected.inFlow, blockScalar?_of_free free written]
  · have plain : isPlain text = false := by simp [isPlain, style]
    rw [scalarToken, plain]
    exact collected.unkeyed.passed _ _ _

/-- Every written scalar is read back, whichever its style. -/
theorem next?_written (outside : nextColumn ≤ parent) :
    ∃ c more s', writeScalar (parent + 2) text = c :: more ∧
      s.next? ⟨c, line, column, index⟩ (placeFrom line (column + 1) (index + 1) (more ++ tail)) =
        some s' ∧
      s'.AtLine (scalarToken text :: read) parent outer nextColumn rest := by
  rcases style_cases text with ⟨style, allowed, feed⟩ | ⟨style, quotes, allowed⟩ |
    ⟨style, allowed, feed⟩ | style
  · obtain ⟨s', next', read'⟩ :=
      next?_literal_written collected free inside next outside style allowed feed
    refine ⟨'|', _, s', ?_, next', read'⟩
    rw [writeScalar, style, writeLiteral_eq]
    rfl
  · cases text with
    | nil => cases quotes
    | cons c text =>
      obtain ⟨s', next', read'⟩ :=
        next?_plain_written collected free inside next outside style allowed
      refine ⟨c, text ++ ['\n'], s', ?_, ?_, read'⟩
      · rw [writeScalar, style]
        rfl
      · rw [List.append_assoc]
        exact next'
  · obtain ⟨s', next', read'⟩ := next?_single_written collected free inside next style allowed feed
    refine ⟨'\'', (writeSingle (parent + 2) text).tail ++ ['\n'], s', ?_, ?_, read'⟩
    · rw [writeScalar, style, writeSingle_eq]
      rfl
    · rw [List.append_assoc]
      exact next'
  · obtain ⟨s', next', read'⟩ := next?_double_written collected free inside next style
    refine ⟨'"', (writeDouble text).tail ++ ['\n'], s', ?_, ?_, read'⟩
    · rw [writeScalar, style, writeDouble_eq]
      rfl
    · rw [List.append_assoc]
      exact next'

end

end Lexer

end SecretVault.Yaml
