import SecretVault.Text.Radix
import Mathlib.Algebra.Group.Nat.Defs

/-!
Hexadecimal digits give back their number, up to the width that they were written with.
-/
namespace SecretVault.Text.Radix

/-- The digit that is written for a value. -/
def hexDigit (value : Nat) : Char := "0123456789ABCDEF".toList.getD value '0'

theorem digit?_hexDigit : ∀ value < 16, digit? 16 (hexDigit value) = some value := by decide

theorem hexDigits_zero (n : Nat) : hexDigits 0 n = [] := rfl

/-- The first digit counts most. -/
theorem hexDigits_succ (width n : Nat) :
    hexDigits (width + 1) n = hexDigit (n / 16 ^ width % 16) :: hexDigits width n := by
  simp [hexDigits, hexDigit, List.range_succ]

@[simp] theorem length_hexDigits (width n : Nat) : (hexDigits width n).length = width := by
  simp [hexDigits]

theorem mem_hexDigits {width n : Nat} {c : Char} (member : c ∈ hexDigits width n) :
    ∃ value < 16, c = hexDigit value := by
  induction width with
  | zero => cases member
  | succ width ih =>
    rw [hexDigits_succ] at member
    rcases List.mem_cons.1 member with rfl | member
    · exact ⟨_, Nat.mod_lt _ (by decide), rfl⟩
    · exact ih member

/-- Reading goes on with a number moved to the left by the width. -/
theorem foldlM_hexDigits (width n before : Nat) :
    (hexDigits width n).foldlM (fun n c => (digit? 16 c).map (16 * n + ·)) before =
      some (before * 16 ^ width + n % 16 ^ width) := by
  induction width generalizing before with
  | zero => simp [hexDigits_zero, Nat.mod_one]
  | succ width ih =>
    have small : n / 16 ^ width % 16 < 16 := Nat.mod_lt _ (by decide)
    rw [hexDigits_succ, List.foldlM_cons, digit?_hexDigit _ small, Option.map_some,
      Option.bind_eq_bind, Option.bind_some, ih, Nat.mod_pow_succ, Nat.pow_succ]
    congr 1
    rw [Nat.add_mul, Nat.add_assoc, Nat.mul_comm (n / 16 ^ width % 16),
      Nat.add_comm (n % 16 ^ width), Nat.mul_comm 16 before, Nat.mul_assoc, Nat.mul_comm 16]

/-- A number is read from its digits if there are enough of them. -/
theorem read?_hexDigits {width n : Nat} (positive : 0 < width) (fits : n < 16 ^ width) :
    read? 16 (hexDigits width n) = some n := by
  have some : hexDigits width n ≠ [] := by
    rw [← List.length_pos_iff, length_hexDigits]
    exact positive
  rw [read?, if_neg (by simpa using some), foldlM_hexDigits, Nat.zero_mul, Nat.zero_add,
    Nat.mod_eq_of_lt fits]

end SecretVault.Text.Radix
