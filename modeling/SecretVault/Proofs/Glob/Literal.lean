import SecretVault.Glob.Match
import Mathlib.Data.List.Infix
import Mathlib.Data.List.TakeWhile

/-!
The literal start of a pattern. Whatever a pattern matches begins with the codes of its literal
start. Codes tell all characters apart but two noncharacters; where these do not come together with
the replacement character, a text that is matched begins with the literal start itself.
-/
namespace SecretVault.Glob

/-- The code by which a character is compared. -/
def codeOf (c : Char) : Code := normalCode c.toNat

/-- Codes tell the characters before a pattern's first wildcard from those of a text. Only U+FFFE
and U+FFFF are ever confused, with each other and with the replacement character. -/
def Apart (pattern s : String) : Prop :=
  ∀ c ∈ literalText pattern, ∀ d ∈ s.toList, codeOf c = codeOf d → c = d

instance (pattern s : String) : Decidable (Apart pattern s) :=
  decidable_of_iff
    ((literalText pattern).all fun c => s.toList.all fun d => codeOf c != codeOf d || c == d) <| by
      simp only [List.all_eq_true, Bool.or_eq_true, bne_iff_ne, beq_iff_eq, Apart, imp_iff_not_or,
        ne_eq]

theorem codes_eq_map (s : String) : codes s = (s.toList.takeWhile (· != '\x00')).map codeOf := rfl

theorem codeOf_of_ascii {c : Char} (ascii : c.toNat < 128) : codeOf c = c.toNat := by
  refine if_neg ?_
  rintro (equal | equal) <;> exact absurd (equal ▸ ascii) (by decide)

/-- No other character is compared as an ASCII character is. -/
theorem eq_of_codeOf_eq_toNat {c d : Char} (ascii : d.toNat < 128) (same : codeOf c = d.toNat) :
    c = d := by
  unfold codeOf normalCode at same
  split at same
  · exact absurd (same ▸ ascii) (by decide)
  · exact Char.toNat_inj.1 same

/-- Texts whose characters are told apart compare by codes as they do by characters. -/
theorem isPrefix_of_map_codeOf {a b : List Char}
    (apart : ∀ c ∈ a, ∀ d ∈ b, codeOf c = codeOf d → c = d)
    (starts : a.map codeOf <+: b.map codeOf) : a <+: b := by
  induction a generalizing b with
  | nil => exact List.nil_prefix
  | cons c rest ih =>
    cases b with
    | nil => simp at starts
    | cons d others =>
      simp only [List.map_cons, List.cons_prefix_cons] at starts
      have equal : c = d := apart c (by simp) d (by simp) starts.1
      have tails := ih (fun x hx y hy => apart x (by simp [hx]) y (by simp [hy])) starts.2
      simpa [equal] using tails

/-- A character with a meaning of its own in a pattern. -/
private def isSpecial (c : Code) : Prop := c = star ∨ c = question ∨ c = openBracket

private theorem not_special_of_literal {c : Char}
    (literal : (c != '\x00' && c != '*' && c != '?' && c != '[') = true) :
    ¬ isSpecial (codeOf c) := by
  simp only [Bool.and_eq_true, bne_iff_ne, ne_eq] at literal
  obtain ⟨⟨⟨-, notStar⟩, notQuestion⟩, notBracket⟩ := literal
  rintro (equal | equal | equal)
  · exact notStar (eq_of_codeOf_eq_toNat (by decide) equal)
  · exact notQuestion (eq_of_codeOf_eq_toNat (by decide) equal)
  · exact notBracket (eq_of_codeOf_eq_toNat (by decide) equal)

private theorem items_append_of_literal (literal rest : List Code)
    (plain : ∀ c ∈ literal, ¬ isSpecial c) :
    items (literal ++ rest) = literal.map .code ++ items rest := by
  induction literal with
  | nil => rfl
  | cons c others ih =>
    have notSpecial := plain c (by simp)
    simp only [isSpecial, not_or] at notSpecial
    obtain ⟨notStar, notQuestion, notBracket⟩ := notSpecial
    rw [List.cons_append, items, if_neg notStar, if_neg notQuestion, if_neg notBracket,
      ih fun x member => plain x (by simp [member])]
    rfl

theorem compare_code_cons (c x : Code) (rest : List Item) (value : List Code) :
    compare (.code c :: rest) (x :: value) =
      if c = x then compare rest value else .mismatch := by
  by_cases equal : c = x <;> simp [compare, Item.takes, equal]

private theorem isPrefix_of_compare_codes {literal : List Code} {rest : List Item}
    {value : List Code} (matched : compare (literal.map .code ++ rest) value = .matched) :
    literal <+: value := by
  induction literal generalizing value with
  | nil => exact List.nil_prefix
  | cons c others ih =>
    cases value with
    | nil => simp [compare] at matched
    | cons x value =>
      rw [List.map_cons, List.cons_append, compare_code_cons] at matched
      split at matched
      · rename_i equal
        exact List.cons_prefix_cons.2 ⟨equal, ih matched⟩
      · cases matched

private theorem compare_codes_append (literal : List Code) (rest : List Item) (value : List Code) :
    compare (literal.map .code ++ rest) (literal ++ value) = compare rest value := by
  induction literal with
  | nil => rfl
  | cons c others ih =>
    rw [List.map_cons, List.cons_append, List.cons_append, compare_code_cons, if_pos rfl, ih]

private theorem literalText_chars {pattern : String} :
    ∀ c ∈ literalText pattern, (c != '\x00' && c != '*' && c != '?' && c != '[') = true := by
  intro c member
  rw [literalText] at member
  have admitted := List.mem_takeWhile_imp member
  exact admitted

private theorem literalText_noNul {pattern : String} :
    ∀ c ∈ literalText pattern, (c != '\x00') = true := by
  intro c member
  have admitted := literalText_chars c member
  simp only [Bool.and_eq_true] at admitted
  exact admitted.1.1.1

/-- The items of a pattern are those of its literal text and of what follows it. -/
private theorem items_codes (pattern : String) :
    items (codes pattern) = ((literalText pattern).map codeOf).map .code ++
      items (((pattern.toList.drop (literalText pattern).length).takeWhile
        (· != '\x00')).map codeOf) := by
  have split : pattern.toList =
      literalText pattern ++ pattern.toList.drop (literalText pattern).length :=
    (List.prefix_iff_eq_append.1 (List.takeWhile_prefix _)).symm
  have noSpecial : ∀ code ∈ (literalText pattern).map codeOf, ¬ isSpecial code := by
    intro code member
    obtain ⟨c, held, rfl⟩ := List.mem_map.1 member
    exact not_special_of_literal (literalText_chars c held)
  rw [← items_append_of_literal _ _ noSpecial, ← List.map_append,
    ← List.takeWhile_append_of_pos literalText_noNul, ← split, codes_eq_map]

/-- What a pattern matches begins with the codes of its literal start. -/
theorem literal_isPrefix_of_matches {pattern : String} {value : List Code}
    (matched : matchesCodes pattern value = true) :
    (literalText pattern).map codeOf <+: value := by
  rw [matchesCodes, items_codes, beq_iff_eq] at matched
  exact isPrefix_of_compare_codes matched

/-- A pattern that is its literal text and a run matches every text that begins with this. -/
theorem matches_of_endsInRun {pattern s : String} (run : endsInRun pattern = true)
    (starts : literalText pattern <+: s.toList) : matchesCodes pattern (codes s) = true := by
  have onlyRun : items (((pattern.toList.drop (literalText pattern).length).takeWhile
      (· != '\x00')).map codeOf) = [.run] := by
    unfold endsInRun at run
    split at run
    · rename_i rest after
      have text : ('*' :: rest).takeWhile (· != '\x00') = ['*'] := by
        cases rest with
        | nil => rfl
        | cons c others =>
          obtain rfl : c = '\x00' := by simpa using run
          rfl
      rw [after, text, List.map_singleton, items, if_pos (by decide), items]
    · cases run
  obtain ⟨rest, text⟩ := starts
  rw [matchesCodes, items_codes, onlyRun, codes_eq_map, ← text,
    List.takeWhile_append_of_pos literalText_noNul, List.map_append, compare_codes_append]
  rfl

/-- A text that a pattern matches begins with the pattern's literal start, if codes tell the
characters of the two apart. -/
theorem literal_isPrefix_of_apart {pattern s : String} (apart : Apart pattern s)
    (matched : matchesCodes pattern (codes s) = true) : literalText pattern <+: s.toList := by
  have starts := literal_isPrefix_of_matches matched
  rw [codes_eq_map] at starts
  have withinText := List.takeWhile_prefix (l := s.toList) (· != '\x00')
  refine (isPrefix_of_map_codeOf (fun c hc d hd => ?_) starts).trans withinText
  exact apart c hc d (withinText.subset hd)

end SecretVault.Glob
