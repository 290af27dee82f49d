import SecretVault.Proofs.Yaml.Scalars

/-!
Lines of a document are read one after the other: a key with its colon, a scalar behind it, an entry
of a sequence, and an empty sequence. Each takes a fixed number of rounds, adds its tokens, and
leaves the lexer at the next line.
-/
namespace SecretVault.Yaml
open SecretVault.Yaml.Input

namespace Lexer
variable {s : Lexer} {read : List Token} {outer : List Int}

/-- A round at a token that stands behind a gap. -/
theorem leadsIn_token {indent : Int} {allowed : Bool} {column : Nat} {c : Char} {more : List Char}
    (collected : s.Collected read indent outer) (free : s.KeyFree) (inside : indent ≤ column)
    (begins : BeginsToken c) (stands : s.StandsAt allowed column (c :: more)) :
    ∃ line index, ∀ s',
      (s.ready allowed ⟨c, line, column, index⟩
          (placeFrom line (column + 1) (index + 1) more)).next? ⟨c, line, column, index⟩
        (placeFrom line (column + 1) (index + 1) more) = some s' → LeadsIn 1 s s' := by
  obtain ⟨input, ⟨line, index, rfl⟩, gaps⟩ := stands
  rw [placeFrom_cons _ begins.onLine] at gaps
  refine ⟨line, index, fun s' next => leadsIn_round (.inr ?_) ?_ (free.fresh _) next⟩
  · rw [collected.indent]
    exact inside
  · rw [collected.inFlow]
    exact gaps

/-- A written scalar begins with a token. -/
theorem writeScalar_begins (indent : Nat) (text : List Char) :
    ∃ c more, writeScalar indent text = c :: more ∧ BeginsToken c := by
  unfold writeScalar
  rcases style_cases text with ⟨style, -⟩ | ⟨style, quotes, allowed⟩ | ⟨style, -⟩ | style
  · rw [style]
    exact ⟨'|', _, writeLiteral_eq indent text, by decide⟩
  · cases text with
    | nil => cases quotes
    | cons c text =>
      rw [style]
      exact ⟨c, text ++ ['\n'], rfl, (beginsPlain_of_allowsPlain allowed).begins⟩
  · rw [style, writeSingle_eq]
    exact ⟨'\'', _, rfl, by decide⟩
  · rw [style, writeDouble_eq]
    exact ⟨'"', _, rfl, by decide⟩

/-- A written scalar that stands behind a gap is read in one round. -/
theorem leadsIn_scalar {allowed : Bool} {parent column nextColumn : Nat}
    {text tail rest : List Char}
    (collected : s.Collected read parent outer) (free : s.KeyFree) (inside : parent < column)
    (next : NextLine nextColumn tail rest) (outside : nextColumn ≤ parent)
    (stands : s.StandsAt allowed column (writeScalar (parent + 2) text ++ tail)) :
    ∃ s', LeadsIn 1 s s' ∧ s'.AtLine (scalarToken text :: read) parent outer nextColumn rest := by
  obtain ⟨c, more, shape, begins⟩ := writeScalar_begins (parent + 2) text
  rw [shape, List.cons_append] at stands
  obtain ⟨line, index, round⟩ := leadsIn_token collected free (by omega) begins stands
  obtain ⟨c', more', s', shape', next', read'⟩ :=
    next?_written (collected.ready allowed ⟨c, line, column, index⟩ _)
      (free.ready allowed ⟨c, line, column, index⟩ _) inside next outside
  obtain ⟨rfl, rfl⟩ := List.cons.inj (shape.symm.trans shape')
  exact ⟨s', round s' next', read'⟩

/-! ## Keys -/

/-- A word that can be a key wherever it stands. -/
structure IsKeyWord (c : Char) (word : List Char) : Prop where
  plain : allowsPlain (c :: word) = true
  noSpace : ' ' ∉ c :: word
  noMarker : c ≠ '-' ∧ c ≠ '.'
  short : (c :: word).length ≤ 1024

/-- Whether a colon before a text ends a plain scalar. -/
def beginsGap (text : List Char) : Bool := text.head?.all fun c => isBlank c || isBreak c

theorem atGap_of_beginsGap {text : List Char} (gap : beginsGap text = true)
    (line column index : Nat) : (placeFrom line column index text).atGap = true := by
  cases text with
  | nil => rfl
  | cons c text => simpa [beginsGap, placeFrom, atGap] using gap

/-- What a key leaves in front of its colon: its scalar, and where it began. -/
structure AtColon (s : Lexer) (read : List Token) (indent : Int) (outer : List Int) (column : Nat)
    (word rest : List Char) : Prop where
  collected : s.Collected (.scalar (String.ofList word) true :: read) indent outer
  notAllowed : s.keyAllowed = false
  noted : ∃ required c line index, s.key = some ⟨required, read.length, ⟨c, line, column, index⟩⟩ ∧
    s.input = placeFrom line (column + word.length) (index + word.length) (':' :: rest)

/-- The collection that a key opens if it is further to the right than the innermost one. -/
def opened (indent : Int) (column : Nat) : List Token :=
  if indent < column then [.blockMapping] else []

/-- What a key leaves behind its colon. -/
structure AtValue (s : Lexer) (read : List Token) (indent : Int) (outer : List Int)
    (column : Nat) (word rest : List Char) : Prop where
  collected : s.Collected (.value :: .scalar (String.ofList word) true :: .key ::
    (opened indent column ++ read)) column (if indent < column then indent :: outer else outer)
  free : s.KeyFree
  notAllowed : s.keyAllowed = false
  input : ∃ start, column < start ∧ s.input.IsAt start rest

variable {indent : Int} {column : Nat} {c : Char} {word rest : List Char}

/-- A word is read up to its colon. -/
theorem readPlain_key {ctx : PlainContext} (line index : Nat) (block : ctx.inFlow = false)
    (key : IsKeyWord c word) (gap : beginsGap rest = true) :
    readPlain ctx [] .none (placeFrom line column index (c :: word ++ ':' :: rest)) =
      some ⟨c :: word, false, placeFrom line (column + (c :: word).length)
        (index + (c :: word).length) (':' :: rest)⟩ := by
  have onLine : isBreak ':' = false := by decide
  have visible : isBlank ':' = false := by decide
  rw [Gap.none, readPlain_text block [] (isPlainRest_of_allowsPlain key.plain) (absurd rfl)
    (absurd rfl) (by simp [key.noSpace]), placeFrom_cons rest onLine, readPlain_stop visible onLine]
  · simp [Gap.hasBreak, Gap.none]
  · simp [PlainContext.stopsAt, atGap_of_beginsGap gap]

/-- The word of a key is read as a plain scalar, and where it began is kept in mind. -/
theorem next?_word (line index : Nat) (collected : s.Collected read indent outer)
    (free : s.KeyFree) (allowed : s.keyAllowed = true) (key : IsKeyWord c word)
    (gap : beginsGap rest = true) :
    ∃ s', s.next? ⟨c, line, column, index⟩
        (placeFrom line (column + 1) (index + 1) (word ++ ':' :: rest)) = some s' ∧
      s'.AtColon read indent outer column (c :: word) rest := by
  have begins := beginsPlain_of_allowsPlain key.plain
  have written : readPlain ⟨s.inFlow, (s.indent + 1).toNat⟩ [] .none
      (placeFrom line column index (c :: word ++ ':' :: rest)) = _ :=
    readPlain_key line index collected.inFlow key gap
  rw [List.cons_append, placeFrom_cons _ begins.begins.onLine] at written
  refine ⟨(s.noted ⟨c, line, column, index⟩).passed (.scalar (String.ofList (c :: word)) true)
    (placeFrom line (column + (c :: word).length) (index + (c :: word).length) (':' :: rest)) false,
    ?_, ?_⟩
  · rw [next?_plain _ collected.inFlow begins (.inr key.noMarker)]
    exact plainScalar?_of_free free written
  · refine ⟨(collected.noted _).passed _ _ _, rfl, s.indent == column, c, line, index, ?_, rfl⟩
    simp [Lexer.passed, emit, Lexer.noted, allowed, collected.count, collected.inFlow]

/-- The word of a key is read in one round. -/
theorem leadsIn_word (key : IsKeyWord c word) (gap : beginsGap rest = true)
    (inside : indent ≤ column)
    (line : s.AtLine read indent outer column (c :: word ++ ':' :: rest)) :
    ∃ s', LeadsIn 1 s s' ∧ s'.AtColon read indent outer column (c :: word) rest := by
  obtain ⟨lineNo, index, round⟩ := leadsIn_token line.collected line.free inside
    (beginsPlain_of_allowsPlain key.plain).begins line.stands
  obtain ⟨s', next, atColon⟩ := next?_word lineNo index (line.collected.ready true _ _)
    (line.free.ready true _ _) rfl key gap
  exact ⟨s', round s' next, atColon⟩

/-- A token is put in front of the last one. -/
theorem Collected.insert (token : Token) {last : Token}
    (collected : s.Collected (last :: read) indent outer) :
    (s.insert read.length token).Collected (last :: token :: read) indent outer := by
  refine ⟨?_, ?_, collected.indent, collected.outerIndents, collected.outerKeys⟩
  · simp [Lexer.insert, collected.tokens, collected.count]
  · simp [Lexer.insert, collected.count]

/-- A collection is opened in front of its first key, unless it is open already. -/
theorem Collected.openBlock {first second : Token}
    (collected : s.Collected (first :: second :: read) indent outer) (inside : indent ≤ column) :
    (s.openBlock column read.length .blockMapping).Collected
      (first :: second :: (opened indent column ++ read)) column
      (if indent < column then indent :: outer else outer) := by
  unfold Lexer.openBlock opened
  rw [collected.inFlow, collected.indent, Bool.false_or]
  by_cases opens : indent < column
  · rw [if_neg (by simpa using opens), if_pos opens, if_pos opens]
    have behind : read.length + 1 + 1 - read.length = 2 := by omega
    refine ⟨?_, ?_, rfl, congrArg (indent :: ·) collected.outerIndents, collected.outerKeys⟩
    · simp [Lexer.insert, collected.tokens, collected.count, behind]
    · simp [Lexer.insert, collected.count]
  · have same : indent = column := by omega
    rw [if_pos (by simp [same]), if_neg opens, if_neg opens, ← same]
    exact collected

theorem next?_colon {line column index : Nat} {after : Input} (gap : after.atGap = true) :
    s.next? ⟨':', line, column, index⟩ after = s.value? ⟨':', line, column, index⟩ after := by
  have noMarker : Input.marker '-' (⟨':', line, column, index⟩ :: after) = false ∧
      Input.marker '.' (⟨':', line, column, index⟩ :: after) = false :=
    ⟨marker_of_ne _ (by simp), marker_of_ne _ (by simp)⟩
  simp [next?, noMarker, gap]

/-- The colon of a key makes it one. -/
theorem value?_of_key {required : Bool} {start : Placed} (p : Placed) {after : Input}
    (collected : s.Collected (.scalar (String.ofList word) true :: read) indent outer)
    (inside : indent ≤ start.column) (noted : s.key = some ⟨required, read.length, start⟩)
    (begins : start.column < p.column + 1) (input : after.IsAt (p.column + 1) rest) :
    ∃ s', s.value? p after = some s' ∧ s'.AtValue read indent outer start.column word rest := by
  have opened := ((collected.insert .key).openBlock inside).passed .value after false
  exact ⟨_, by rw [value?, noted]; rfl, opened.unkeyed, opened.keyFree_unkeyed, rfl, p.column + 1,
    begins, input⟩

theorem leadsIn_colon (gap : beginsGap rest = true) (inside : indent ≤ column)
    (short : word.length ≤ 1024) (colon : s.AtColon read indent outer column word rest) :
    ∃ s', LeadsIn 1 s s' ∧ s'.AtValue read indent outer column word rest := by
  obtain ⟨collected, notAllowed, required, c, line, index, noted, input⟩ := colon
  have fresh : PossibleKey.expired ⟨required, read.length, ⟨c, line, column, index⟩⟩
      ⟨':', line, column + word.length, index + word.length⟩ = false := by
    simp [PossibleKey.expired]
    omega
  have gaps : passGaps s.inFlow false s.keyAllowed s.input =
      (false, ⟨':', line, column + word.length, index + word.length⟩ ::
        placeFrom line (column + word.length + 1) (index + word.length + 1) rest) := by
    rw [collected.inFlow, notAllowed, input, passGaps_token rest (by decide),
      placeFrom_cons rest (by decide)]
  have stillNoted : (s.ready false ⟨':', line, column + word.length, index + word.length⟩
      (placeFrom line (column + word.length + 1) (index + word.length + 1) rest)).key =
        some ⟨required, read.length, ⟨c, line, column, index⟩⟩ := by
    simp [Lexer.ready, noted, fresh]
  have begins : column < column + word.length + 1 := by omega
  obtain ⟨s', value, atValue⟩ := value?_of_key
    ⟨':', line, column + word.length, index + word.length⟩ (collected.ready false _ _) inside
    stillNoted begins (isAt_placeFrom line _ (index + word.length + 1) rest)
  rw [← next?_colon (atGap_of_beginsGap gap ..)] at value
  refine ⟨s', leadsIn_round (.inr ?_) gaps (by simp [noted, fresh, collected.outerKeys]) value,
    atValue⟩
  rw [collected.indent]
  dsimp only
  omega

/-- A key with its colon is read in two rounds. -/
theorem leadsIn_key (key : IsKeyWord c word) (gap : beginsGap rest = true)
    (inside : indent ≤ column)
    (line : s.AtLine read indent outer column (c :: word ++ ':' :: rest)) :
    ∃ s', LeadsIn 2 s s' ∧ s'.AtValue read indent outer column (c :: word) rest := by
  obtain ⟨s', first, colon⟩ := leadsIn_word key gap inside line
  obtain ⟨s'', second, value⟩ := leadsIn_colon gap inside key.short colon
  exact ⟨s'', first.trans second, value⟩

/-! ## Values -/

section
variable {nextColumn : Nat} {text tail : List Char}

/-- The value of a key may stand on a line of its own. -/
theorem AtValue.nextLine (value : s.AtValue read indent outer column word ('\n' :: tail))
    (next : NextLine nextColumn tail rest) :
    s.AtLine (.value :: .scalar (String.ofList word) true :: .key :: (opened indent column ++ read))
      column (if indent < column then indent :: outer else outer) nextColumn rest := by
  obtain ⟨start, -, input⟩ := value.input
  exact ⟨value.collected, value.free, standsAt_nextLine next input⟩

/-- A token stands behind a space. -/
theorem standsAt_space {start : Nat} (begins : BeginsToken c)
    (input : s.input.IsAt start (' ' :: c :: rest)) :
    s.StandsAt s.keyAllowed (start + 1) (c :: rest) := by
  obtain ⟨line, index, same⟩ := input
  refine ⟨_, isAt_placeFrom line (start + 1) (index + 1) (c :: rest), ?_⟩
  rw [same, passGaps_space, passGaps_token rest begins]

/-- The value of a key may be a scalar behind its colon. -/
theorem AtValue.scalar
    (value : s.AtValue read indent outer column word
      (' ' :: (writeScalar (column + 2) text ++ tail)))
    (next : NextLine nextColumn tail rest) (outside : nextColumn ≤ column) :
    ∃ s', LeadsIn 1 s s' ∧ s'.AtLine (scalarToken text :: .value ::
        .scalar (String.ofList word) true :: .key :: (opened indent column ++ read))
      column (if indent < column then indent :: outer else outer) nextColumn rest := by
  obtain ⟨start, behind, input⟩ := value.input
  obtain ⟨c, more, shape, begins⟩ := writeScalar_begins (column + 2) text
  have stands : s.StandsAt s.keyAllowed (start + 1) (writeScalar (column + 2) text ++ tail) := by
    rw [shape] at input ⊢
    exact standsAt_space begins input
  exact leadsIn_scalar value.collected value.free (by omega) next outside stands

/-! ## Sequences -/

theorem next?_dash {line index : Nat} {after : Input} (inside : 0 < column)
    (gap : after.atGap = true) :
    s.next? ⟨'-', line, column, index⟩ after =
      (s.blockIndicator? ⟨'-', line, column, index⟩ .blockSequence .blockEntry after).map fun s =>
        { s with keyAllowed := true } := by
  have noMarker (c : Char) : Input.marker c (⟨'-', line, column, index⟩ :: after) = false :=
    marker_of_column c after inside
  simp [next?, noMarker, gap]

/-- In a mapping that is open at its column, a dash begins an entry of a sequence. -/
theorem next?_entry {line index : Nat} {after : Input} (positive : 0 < column)
    (collected : s.Collected read column outer) (free : s.KeyFree)
    (allowed : s.keyAllowed = true) (gap : after.atGap = true) :
    s.next? ⟨'-', line, column, index⟩ after =
      some (s.unkeyed.passed .blockEntry after true) := by
  have stays : s.openBlock column s.count .blockSequence = s := by
    rw [Lexer.openBlock, if_pos (by simp [collected.indent])]
  rw [next?_dash positive gap, blockIndicator?, if_neg (by simp [allowed]), stays]
  simp [dropKey?_of_free free, Lexer.passed, emit]

/-- The dash of an entry is read in one round. -/
theorem AtLine.dash (positive : 0 < column) (begins : BeginsToken c)
    (line : s.AtLine read column outer column ('-' :: ' ' :: c :: rest)) :
    ∃ s', LeadsIn 1 s s' ∧
      s'.AtLine (.blockEntry :: read) column outer (column + 1 + 1) (c :: rest) := by
  obtain ⟨lineNo, index, round⟩ :=
    leadsIn_token line.collected line.free (Int.le_refl _) (by decide) line.stands
  have gap : beginsGap (' ' :: c :: rest) = true := by simp [beginsGap, isBlank]
  have collected := line.collected.ready true ⟨'-', lineNo, column, index⟩
    (placeFrom lineNo (column + 1) (index + 1) (' ' :: c :: rest))
  have free := line.free.ready true ⟨'-', lineNo, column, index⟩
    (placeFrom lineNo (column + 1) (index + 1) (' ' :: c :: rest))
  refine ⟨_, round _ (next?_entry positive collected free rfl (atGap_of_beginsGap gap ..)),
    collected.unkeyed.passed _ _ _, free.unkeyed.passed _ _ _, ?_⟩
  exact standsAt_space begins (isAt_placeFrom lineNo (column + 1) (index + 1) (' ' :: c :: rest))

/-- An entry of a sequence is read in two rounds. -/
theorem AtLine.entry (positive : 0 < column)
    (line : s.AtLine read column outer column
      ('-' :: ' ' :: (writeScalar (column + 2) text ++ tail)))
    (next : NextLine nextColumn tail rest) (outside : nextColumn ≤ column) :
    ∃ s', LeadsIn 2 s s' ∧
      s'.AtLine (scalarToken text :: .blockEntry :: read) column outer nextColumn rest := by
  obtain ⟨c, more, shape, begins⟩ := writeScalar_begins (column + 2) text
  rw [shape, List.cons_append] at line
  obtain ⟨s', first, ⟨collected, free, stands⟩⟩ := line.dash positive begins
  rw [← List.cons_append, ← shape] at stands
  obtain ⟨s'', second, atLine⟩ := leadsIn_scalar collected free (by omega) next outside stands
  exact ⟨s'', first.trans second, atLine⟩

/-- The tokens of the entries of a sequence, latest first. -/
def entryTokens (texts : List (List Char)) : List Token :=
  texts.reverse.flatMap fun text => [scalarToken text, .blockEntry]

/-- Entries of a sequence, each on lines of its own. -/
def writeEntries (column : Nat) (texts : List (List Char)) : List Char :=
  texts.flatMap fun text =>
    List.replicate column ' ' ++ '-' :: ' ' :: writeScalar (column + 2) text

/-- The entries of a sequence are read in two rounds each. -/
theorem AtLine.entries (positive : 0 < column) (next : NextLine nextColumn tail rest)
    (outside : nextColumn ≤ column) (texts : List (List Char)) :
    ∃ firstColumn first, NextLine firstColumn (writeEntries column texts ++ tail) first ∧
      firstColumn ≤ column ∧
      ∀ (s : Lexer) (read : List Token), s.AtLine read column outer firstColumn first →
        ∃ s', LeadsIn (2 * texts.length) s s' ∧
          s'.AtLine (entryTokens texts ++ read) column outer nextColumn rest := by
  induction texts with
  | nil => exact ⟨nextColumn, rest, next, outside, fun s read line => ⟨s, fun _ => rfl, line⟩⟩
  | cons text texts ih =>
    obtain ⟨firstColumn, first, next', outside', more⟩ := ih
    refine ⟨column, '-' :: ' ' :: (writeScalar (column + 2) text ++
      (writeEntries column texts ++ tail)), ?_, Nat.le_refl _, fun s read line => ?_⟩
    · have begins : BeginsToken '-' := by decide
      have written : writeEntries column (text :: texts) ++ tail = List.replicate column ' ' ++
          '-' :: ' ' :: (writeScalar (column + 2) text ++ (writeEntries column texts ++ tail)) := by
        simp [writeEntries]
      rw [written]
      exact .line _ begins
    · obtain ⟨s', leads, line'⟩ := line.entry positive next' outside'
      obtain ⟨s'', leads', line''⟩ := more s' _ line'
      refine ⟨s'', ?_, ?_⟩
      · rw [List.length_cons, Nat.mul_add, Nat.mul_one, Nat.add_comm]
        exact leads.trans leads'
      · simpa [entryTokens] using line''

/-- Inside of the brackets of a sequence. -/
structure InBrackets (s : Lexer) (read : List Token) (column : Int) (outer : List Int)
    (rest : List Char) : Prop where
  tokens : s.tokens = read
  count : s.count = read.length
  indent : s.indent = column
  outerIndents : s.outerIndents = outer
  outerKey : ∃ key, s.outerKeys = [key]
  free : s.KeyFree
  input : ∃ start, 0 < start ∧ s.input.IsAt start rest

theorem next?_openBracket {line index : Nat} {after : Input} (positive : 0 < column)
    (free : s.KeyFree) (notAllowed : s.keyAllowed = false) :
    s.next? ⟨'[', line, column, index⟩ after = some { s.emit .flowSequence with
      input := after, keyAllowed := true, key := none, outerKeys := s.key :: s.outerKeys } := by
  have noMarker (c : Char) : Input.marker c (⟨'[', line, column, index⟩ :: after) = false :=
    marker_of_column c after positive
  simp [next?, noMarker, openFlow?, noteKey?_of_free free, Lexer.noted, notAllowed, emit]

/-- The bracket of a sequence behind a key is read in one round. -/
theorem AtValue.bracket (value : s.AtValue read indent outer column word (' ' :: '[' :: rest)) :
    ∃ s', LeadsIn 1 s s' ∧ s'.InBrackets (.flowSequence :: .value ::
        .scalar (String.ofList word) true :: .key :: (opened indent column ++ read))
      column (if indent < column then indent :: outer else outer) rest := by
  obtain ⟨start, behind, input⟩ := value.input
  obtain ⟨line, index, round⟩ := leadsIn_token value.collected value.free (by omega) (by decide)
    (standsAt_space (by decide) input)
  have collected := value.collected.ready s.keyAllowed ⟨'[', line, start + 1, index⟩
    (placeFrom line (start + 1 + 1) (index + 1) rest)
  have free := value.free.ready s.keyAllowed ⟨'[', line, start + 1, index⟩
    (placeFrom line (start + 1 + 1) (index + 1) rest)
  obtain ⟨tokens, count, indent', outerIndents, outerKeys⟩ := collected.passed .flowSequence [] true
  refine ⟨_, round _ (next?_openBracket (by omega) free value.notAllowed), tokens, count, indent',
    outerIndents, ⟨_, congrArg _ collected.outerKeys⟩, ?_, start + 1 + 1, by omega,
    isAt_placeFrom ..⟩
  simpa [KeyFree] using free

theorem next?_closeBracket {line index : Nat} {after : Input} (positive : 0 < column)
    (free : s.KeyFree) :
    s.next? ⟨']', line, column, index⟩ after = some { s.emit .flowSequenceEnd with
      input := after, keyAllowed := false
      key := s.outerKeys.head?.getD none, outerKeys := s.outerKeys.tail } := by
  have noMarker (c : Char) : Input.marker c (⟨']', line, column, index⟩ :: after) = false :=
    marker_of_column c after positive
  simp [next?, noMarker, closeFlow?, dropKey?_of_free free, unkeyed, emit]

/-- The bracket that closes an empty sequence is read in one round. -/
theorem InBrackets.close {indent : Int} (inside : s.InBrackets read indent outer (']' :: rest)) :
    ∃ s', LeadsIn 1 s s' ∧ s'.Collected (.flowSequenceEnd :: read) indent outer ∧ s'.KeyFree ∧
      ∃ column, s'.input.IsAt column rest := by
  obtain ⟨tokens, count, indent', outerIndents, ⟨key, outerKeys⟩, free, column, positive,
    line, index, input⟩ := inside
  have inFlow : s.inFlow = true := by simp [Lexer.inFlow, outerKeys]
  have gaps : passGaps s.inFlow false s.keyAllowed s.input = (s.keyAllowed,
      ⟨']', line, column, index⟩ :: placeFrom line (column + 1) (index + 1) rest) := by
    rw [input, passGaps_token rest (by decide), placeFrom_cons rest (by decide)]
  have free' := free.ready s.keyAllowed ⟨']', line, column, index⟩
    (placeFrom line (column + 1) (index + 1) rest)
  refine ⟨_, leadsIn_round (.inl inFlow) gaps (free.fresh _) (next?_closeBracket positive free'),
    ⟨?_, ?_, indent', outerIndents, ?_⟩, ?_, column + 1, isAt_placeFrom ..⟩
  · simp [Lexer.ready, emit, tokens]
  · simp [Lexer.ready, emit, count]
  · simp [Lexer.ready, outerKeys]
  · simp only [KeyFree, List.any_cons, Bool.or_eq_false_iff] at free'
    simpa [KeyFree, Lexer.ready, outerKeys] using free'.2

/-- An empty sequence behind a key is read in two rounds. -/
theorem AtValue.emptySequence
    (value : s.AtValue read indent outer column word (' ' :: '[' :: ']' :: '\n' :: tail))
    (next : NextLine nextColumn tail rest) :
    ∃ s', LeadsIn 2 s s' ∧ s'.AtLine (.flowSequenceEnd :: .flowSequence :: .value ::
        .scalar (String.ofList word) true :: .key :: (opened indent column ++ read))
      column (if indent < column then indent :: outer else outer) nextColumn rest := by
  obtain ⟨s', first, inside⟩ := value.bracket
  obtain ⟨s'', second, collected, free, start, input⟩ := inside.close
  exact ⟨s'', first.trans second, collected, free, standsAt_nextLine next input⟩

end

/-! ## The end -/

/-- Closing two nested collections adds a token for each. -/
theorem Collected.closeBoth {nested : Nat} (collected : s.Collected read nested [0, -1])
    (free : s.KeyFree) :
    (s.closeBlocks (-1)).tokens = .blockEnd :: .blockEnd :: read ∧
      (s.closeBlocks (-1)).KeyFree := by
  obtain ⟨tokens, -, indent, outerIndents, outerKeys⟩ := collected
  have noFlow : s.inFlow = false := by simp [Lexer.inFlow, outerKeys]
  have outside : (-1 : Int) < nested := by omega
  rw [closeBlocks, noFlow, if_neg (by decide), outerIndents, indent]
  simp only [closeBlocks.go, outside, if_true, emit, tokens]
  exact ⟨rfl, free⟩

/-- The end of a document closes the collections that are open. -/
theorem AtLine.finish {nested : Nat} (line : s.AtLine read nested [0, -1] column []) (fuel : Nat) :
    s.run? (fuel + 1) = some (.blockEnd :: .blockEnd :: read).reverse := by
  obtain ⟨collected, free, input, ⟨lineNo, index, rfl⟩, gaps⟩ := line
  have collected' : Collected { s with keyAllowed := true, input := [] } read nested [0, -1] :=
    ⟨collected.tokens, collected.count, collected.indent, collected.outerIndents,
      collected.outerKeys⟩
  obtain ⟨tokens, free'⟩ := collected'.closeBoth free
  rw [run?, collected.inFlow, gaps]
  simp only [placeFrom, finish?, dropKey?_of_free free', Option.map_some, unkeyed, tokens]

end Lexer

end SecretVault.Yaml
