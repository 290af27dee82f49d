import SecretVault.Proofs.Yaml.Scalars

/-!
Whatever is written as a scalar may stand in a text: characters that may not are escaped, and what
writing adds are letters, digits, quotes and spaces.
-/
namespace SecretVault.Yaml
open SecretVault.Text

/-- A text that holds allowed characters only. -/
def AllAllowed (text : List Char) : Prop := ∀ c ∈ text, isAllowed c = true

section
variable {text more : List Char} {c : Char}

theorem allAllowed_nil : AllAllowed [] := nofun

theorem AllAllowed.cons (first : isAllowed c = true) (rest : AllAllowed text) :
    AllAllowed (c :: text) := List.forall_mem_cons.2 ⟨first, rest⟩

theorem AllAllowed.append (first : AllAllowed text) (rest : AllAllowed more) :
    AllAllowed (text ++ more) := List.forall_mem_append.2 ⟨first, rest⟩

theorem allAllowed_of_printable (printable : ∀ c ∈ text, isPrintable c = true) : AllAllowed text :=
  fun c member => isAllowed_of_isPrintable (printable c member)

theorem allAllowed_spaces (n : Nat) : AllAllowed (List.replicate n ' ') := by
  intro c member
  rw [List.eq_of_mem_replicate member]
  decide

theorem AllAllowed.indentLines (allowed : AllAllowed text) (indent : Nat) (afterBreak : Bool) :
    AllAllowed (indentLines indent afterBreak text) := by
  induction text generalizing afterBreak with
  | nil => exact allAllowed_nil
  | cons c text ih =>
    obtain ⟨first, rest⟩ := List.forall_mem_cons.1 allowed
    cases breaks : isBreak c with
    | true =>
      rw [indentLines_break _ _ _ breaks]
      exact .cons first (ih rest true)
    | false =>
      rw [indentLines_char _ _ _ breaks]
      refine .append ?_ (.cons first (ih rest false))
      split
      · exact allAllowed_spaces indent
      · exact allAllowed_nil

theorem allAllowed_hexDigits (width n : Nat) : AllAllowed (Radix.hexDigits width n) := by
  have all : ∀ value < 16, isAllowed (Radix.hexDigit value) = true := by decide
  intro c member
  obtain ⟨value, small, rfl⟩ := Radix.mem_hexDigits member
  exact all value small

theorem allAllowed_writeCode (c : Char) : AllAllowed (writeCode c) := by
  unfold writeCode
  dsimp only
  split
  · exact .cons (by decide) (allAllowed_hexDigits _ _)
  split
  · exact .cons (by decide) (allAllowed_hexDigits _ _)
  · exact .cons (by decide) (allAllowed_hexDigits _ _)

theorem allAllowed_escapeName (c : Char) : AllAllowed (escapeName c) := by
  unfold escapeName
  split
  case h_12 =>
    split
    · exact .cons (by decide) allAllowed_nil
    split
    · exact .cons (by decide) allAllowed_nil
    split
    · exact .cons (by decide) allAllowed_nil
    · exact allAllowed_writeCode c
  all_goals exact .cons (by decide) allAllowed_nil

theorem allAllowed_escaped (c : Char) : AllAllowed (escaped c) := by
  unfold escaped
  split
  · exact .cons (by decide) (allAllowed_escapeName c)
  · rename_i unescaped
    simp only [Bool.or_eq_true, Bool.not_eq_true', not_or, Bool.not_eq_false] at unescaped
    exact .cons (isAllowed_of_isPrintable unescaped.1.1.1) allAllowed_nil

theorem allAllowed_doubleQuotes (allowed : AllAllowed text) : AllAllowed (doubleQuotes text) := by
  intro c member
  obtain ⟨d, memberD, memberC⟩ := List.mem_flatMap.1 member
  have same : c = d := by
    split at memberC
    · rename_i quote
      rw [quote]
      simpa using memberC
    · simpa using memberC
  rw [same]
  exact allowed d memberD

/-- A written scalar may stand in a text, whatever the scalar holds. -/
theorem allAllowed_writeScalar (indent : Nat) (text : List Char) :
    AllAllowed (writeScalar indent text) := by
  have lineEnd : AllAllowed ['\n'] := .cons (by decide) allAllowed_nil
  unfold writeScalar
  rcases style_cases text with ⟨style, allowed, feed⟩ | ⟨style, -, allowed⟩ |
    ⟨style, allowed, -⟩ | style
  · simp only [allowsLiteral, Bool.and_eq_true, List.all_eq_true] at allowed
    have mark : AllAllowed (chompingMark text) := by
      rcases chompingMark_cases (List.ne_nil_of_mem feed) with ⟨-, mark, -⟩ | ⟨-, mark⟩ |
        ⟨-, mark, -⟩
      · rw [mark]
        exact .cons (by decide) allAllowed_nil
      · rw [mark]
        exact .cons (by decide) allAllowed_nil
      · rw [mark]
        exact allAllowed_nil
    rw [style, writeLiteral_eq]
    refine .cons (by decide) (.append ?_ (.append mark (.cons (by decide)
      (AllAllowed.indentLines (allAllowed_of_printable (isPrintable_terminated allowed.1.1)) _ _))))
    split
    · exact .cons (by decide) allAllowed_nil
    · exact allAllowed_nil
  · have plain := isPlainRest_of_allowsPlain allowed
    rw [style]
    exact .append (allAllowed_of_printable fun c member => (plain.onLine c member).1) lineEnd
  · simp only [allowsSingle, Bool.and_eq_true, List.all_eq_true] at allowed
    rw [style, writeSingle_eq]
    refine .append (.cons (by decide) (AllAllowed.indentLines (.append ?_ ?_) _ _)) lineEnd
    · exact allAllowed_doubleQuotes (allAllowed_of_printable allowed.1.1)
    · exact .cons (by decide) allAllowed_nil
  · rw [style, writeDouble_eq]
    refine .append (.cons (by decide) (.append ?_ (.cons (by decide) allAllowed_nil))) lineEnd
    intro c member
    obtain ⟨d, -, memberC⟩ := List.mem_flatMap.1 member
    exact allAllowed_escaped d c memberC

end

end SecretVault.Yaml
