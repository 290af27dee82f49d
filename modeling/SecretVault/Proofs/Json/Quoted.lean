import SecretVault.Json.Printer
import SecretVault.Json.Reader
import SecretVault.Proofs.Text.Decimal
import Mathlib.Tactic.NormNum

/-!
Quoted text and ids of a written mapping are read back. Every character has one written form, and
after it the reader goes on with the character; an id that fits its range is a number without point
or exponent.
-/
namespace SecretVault.Json
open SecretVault.Text

/-- The two digits of an escaped control. -/
theorem hexFour?_control {n : Nat} (below : n < 0x20) :
    hexFour? '0' '0' (hexDigit (n / 16)) (hexDigit n) = some n := by
  have all : ∀ n < 0x20, hexFour? '0' '0' (hexDigit (n / 16)) (hexDigit n) = some n := by
    decide
  exact all n below

/-- A character that needs no escape stands for itself. -/
theorem readQuoted_plain (before : List Char) {c : Char} (rest : List Char) (quote : c ≠ '"')
    (backslash : c ≠ '\\') (visible : ¬ c.toNat < 0x20) :
    readQuoted before (c :: rest) = readQuoted (c :: before) rest := by
  rw [readQuoted.eq_def]
  split <;> simp_all

/-- The written form of a character is read as the character. -/
theorem readQuoted_escape (before : List Char) (c : Char) (rest : List Char) :
    readQuoted before (escape c ++ rest) = readQuoted (c :: before) rest := by
  unfold escape
  split
  case h_8 quote backslash _ _ _ _ _ =>
    split
    · rename_i control
      have code := hexFour?_control control
      have noLow : isLowSurrogate c.toNat = false := by
        simp only [isLowSurrogate, Bool.and_eq_false_iff, decide_eq_false_iff_not]
        omega
      have noHigh : isHighSurrogate c.toNat = false := by
        simp only [isHighSurrogate, Bool.and_eq_false_iff, decide_eq_false_iff_not]
        omega
      simp [readQuoted, code, noLow, noHigh, Char.ofNat_toNat]
    · rename_i visible
      exact readQuoted_plain before rest quote backslash visible
  all_goals simp [readQuoted, unescape?]

theorem readQuoted_flatMap_escape (before cs rest : List Char) :
    readQuoted before (cs.flatMap escape ++ '"' :: rest) = .ok (before.reverse ++ cs, rest) := by
  induction cs generalizing before with
  | nil => simp [readQuoted]
  | cons c cs ih =>
    rw [List.flatMap_cons, List.append_assoc, readQuoted_escape, ih]
    simp

/-- No id is near the end of the range of floating-point numbers. -/
theorem not_isTooLarge {n : Nat} (small : n ≤ 9223372036854775808) :
    Magnitude.isTooLarge n 0 = false := by
  have far : 9223372036854775808 < Magnitude.limit := by decide +kernel
  have below : ¬ Magnitude.limit ≤ n := by omega
  simp [Magnitude.isTooLarge, below]

theorem readDigits_digits (n : Nat) (rest : List Char) :
    readDigits (Decimal.digits n ++ '"' :: rest) = .ok (Decimal.digits n, '"' :: rest) := by
  have noDigit : Decimal.digit? '"' = none := by decide
  obtain ⟨first, others, written⟩ := List.exists_cons_of_ne_nil (Decimal.digits_ne_nil n)
  rw [readDigits, Decimal.splitDigits_digits n noDigit, written]

/-- A number has no zero in front of another digit. -/
theorem length_digits_of_head? {n : Nat} (zero : (Decimal.digits n).head? = some '0') :
    (Decimal.digits n).length = 1 := by
  have isZero : n = 0 := by
    by_contra positive
    exact Decimal.head?_digits (Nat.pos_of_ne_zero positive) zero
  rw [isZero, Decimal.digits, if_pos (by decide)]
  rfl

/-- An id is read up to the quote after it. -/
theorem readNumber_ofInt {n : Int} (least : leastId ≤ n) (greatest : n ≤ greatestId)
    (rest : List Char) :
    readNumber (Decimal.ofInt n ++ '"' :: rest) = .ok (some n, '"' :: rest) := by
  have small : Magnitude.isTooLarge n.natAbs 0 = false := by
    apply not_isTooLarge
    simp only [leastId, greatestId] at least greatest
    omega
  have zeros : ¬ ((Decimal.digits n.natAbs).head? = some '0' ∧
      (Decimal.digits n.natAbs).length ≠ 1) := by
    rintro ⟨zero, long⟩
    exact long (length_digits_of_head? zero)
  unfold Decimal.ofInt
  split
  · rename_i negative
    have value : n.natAbs ≠ 0 := by omega
    rw [List.cons_append]
    unfold readNumber
    simp only [List.head?_cons, beq_self_eq_true, if_true, List.tail_cons, readDigits_digits,
      bind, Except.bind, if_neg zeros]
    simp [Decimal.digitsValue_digits, small, value, abs_of_neg negative, pure,
      Except.pure]
  · rename_i positive
    have whole : (n.natAbs : Int) = n := by omega
    have noSign : ((Decimal.digits n.natAbs ++ '"' :: rest).head? == some '-') = false := by
      obtain ⟨first, others, written⟩ := List.exists_cons_of_ne_nil
        (Decimal.digits_ne_nil n.natAbs)
      have apart : first ≠ '-' := by
        rintro rfl
        exact Decimal.minus_notMem_digits n.natAbs (written ▸ List.mem_cons_self)
      simp [written, apart]
    unfold readNumber
    simp only [noSign, readDigits_digits, bind, Except.bind, if_neg zeros, Bool.false_eq_true,
      if_false]
    simp [Decimal.digitsValue_digits, small, whole, pure, Except.pure]

/-- Nothing in the text of an id is escaped. -/
theorem flatMap_escape_ofInt (n : Int) : (Decimal.ofInt n).flatMap escape = Decimal.ofInt n := by
  have digit : ∀ d < 10, escape (Decimal.digitChar d) = [Decimal.digitChar d] := by decide
  have plain : ∀ c ∈ Decimal.ofInt n, escape c = [c] := by
    obtain ⟨sign, ds, shape, isSign, digits⟩ := Decimal.ofInt_shape n
    intro c member
    rw [shape] at member
    rcases List.mem_append.1 member with member | member
    · rcases isSign with rfl | rfl
      · cases member
      · rw [List.mem_singleton.1 member]
        rfl
    · obtain ⟨d, below, rfl⟩ := digits c member
      exact digit d below
  rw [List.flatMap_def, List.map_congr_left plain, ← List.flatMap_def]
  simp

/-- A key is read with the quote that closes it. -/
theorem readId_ofInt {n : Int} (least : leastId ≤ n) (greatest : n ≤ greatestId)
    (rest : List Char) :
    readId (Decimal.ofInt n ++ '"' :: rest) = .ok (n, rest) := by
  have within : ¬ (n < leastId ∨ greatestId < n) := by omega
  have number := readNumber_ofInt least greatest rest
  obtain ⟨c, cs, written, starts⟩ := Decimal.ofInt_starts n
  rw [written, List.cons_append] at number ⊢
  simp [readId, starts, number, within, bind, Except.bind, pure, Except.pure]

end SecretVault.Json
