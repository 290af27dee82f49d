import SecretVault.Text.Decimal
import Mathlib.Data.List.TakeDrop
import Mathlib.Data.Nat.Basic

/-!
Decimal text of an integer consists of digits after an optional minus, and determines the integer.
-/
namespace SecretVault.Text.Decimal

/-- Every character of decimal digits is a digit. -/
theorem digit?_of_mem_digits {n : Nat} {c : Char} (member : c ∈ digits n) :
    ∃ d, d < 10 ∧ c = digitChar d := by
  induction n using digits.induct with
  | case1 n below =>
    rw [digits, if_pos below] at member
    exact ⟨n, below, by simpa using member⟩
  | case2 n above ih =>
    rw [digits, if_neg above] at member
    rcases List.mem_append.1 member with member | member
    · exact ih member
    · exact ⟨n % 10, Nat.mod_lt _ (by decide), by simpa using member⟩

theorem digitsValue_append_digitChar (cs : List Char) (d : Nat) (below : d < 10) :
    digitsValue (cs ++ [digitChar d]) = 10 * digitsValue cs + d := by
  simp [digitsValue, digit?_digitChar d below]

/-- Digits spell the number that they were made from. -/
theorem digitsValue_digits (n : Nat) : digitsValue (digits n) = n := by
  induction n using digits.induct with
  | case1 n below =>
    rw [digits, if_pos below]
    exact (digitsValue_append_digitChar [] n below).trans (by simp [digitsValue])
  | case2 n above ih =>
    rw [digits, if_neg above, digitsValue_append_digitChar _ _ (Nat.mod_lt _ (by decide)), ih]
    exact Nat.div_add_mod n 10

theorem minus_notMem_digits (n : Nat) : '-' ∉ digits n := by
  intro member
  obtain ⟨d, below, equal⟩ := digit?_of_mem_digits member
  have spelled := digit?_digitChar d below
  rw [← equal] at spelled
  cases spelled

theorem ofInt_injective {a b : Int} (same : ofInt a = ofInt b) : a = b := by
  have ofDigits {m n : Nat} (equal : digits m = digits n) : m = n := by
    rw [← digitsValue_digits m, equal, digitsValue_digits]
  have mixed {m n : Nat} : '-' :: digits m ≠ digits n := by
    intro equal
    exact minus_notMem_digits n (equal ▸ List.mem_cons_self)
  unfold ofInt at same
  split at same <;> split at same
  · have := ofDigits (List.cons.inj same).2
    omega
  · exact absurd same mixed
  · exact absurd same.symm mixed
  · have := ofDigits same
    omega

/-- Every character is a digit, but for the minus in front of a negative number. -/
theorem ofInt_shape (n : Int) :
    ∃ sign ds, ofInt n = sign ++ ds ∧ (sign = [] ∨ sign = ['-']) ∧
      ∀ c ∈ ds, ∃ d, d < 10 ∧ c = digitChar d := by
  unfold ofInt
  split
  · exact ⟨['-'], _, rfl, .inr rfl, fun c member => digit?_of_mem_digits member⟩
  · exact ⟨[], _, rfl, .inl rfl, fun c member => digit?_of_mem_digits member⟩

theorem digits_ne_nil (n : Nat) : digits n ≠ [] := by
  unfold digits
  split <;> simp

/-- Decimal text starts with a digit or the minus. -/
theorem ofInt_starts (n : Int) :
    ∃ c cs, ofInt n = c :: cs ∧ (c = '-' ∨ (digit? c).isSome = true) := by
  unfold ofInt
  split
  · exact ⟨'-', _, rfl, .inl rfl⟩
  · obtain ⟨first, others, written⟩ := List.exists_cons_of_ne_nil (digits_ne_nil n.natAbs)
    have member : first ∈ digits n.natAbs := written ▸ List.mem_cons_self
    obtain ⟨d, below, rfl⟩ := digit?_of_mem_digits member
    refine ⟨_, others, written, .inr ?_⟩
    rw [digit?_digitChar d below]
    rfl

/-- Only the number zero is written with a zero in front. -/
theorem head?_digits {n : Nat} (positive : 0 < n) : (digits n).head? ≠ some '0' := by
  induction n using digits.induct with
  | case1 n below =>
    have all : ∀ d < 10, 0 < d → digitChar d ≠ '0' := by decide
    rw [digits, if_pos below]
    simpa using all n below positive
  | case2 n above ih =>
    obtain ⟨first, others, written⟩ := List.exists_cons_of_ne_nil (digits_ne_nil (n / 10))
    have first_ne := ih (by omega)
    rw [digits, if_neg above, written]
    rw [written] at first_ne
    exact first_ne

/-- Digits that are written are split off up to the next character that is none. -/
theorem splitDigits_digits (n : Nat) {c : Char} (noDigit : digit? c = none) (rest : List Char) :
    splitDigits (digits n ++ c :: rest) = (digits n, c :: rest) := by
  have all : ∀ x ∈ digits n, (digit? x).isSome = true := by
    intro x member
    obtain ⟨d, below, rfl⟩ := digit?_of_mem_digits member
    rw [digit?_digitChar d below]
    rfl
  rw [splitDigits, List.span_eq_takeWhile_dropWhile, List.takeWhile_append_of_pos all,
    List.dropWhile_append_of_pos all]
  simp [noDigit]

end SecretVault.Text.Decimal
