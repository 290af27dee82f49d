/-!
Digits to a base of at most sixteen. Letters stand for the digits from ten, in either case; what is
written has capital letters.
-/
namespace SecretVault.Text.Radix

/-- The value of a digit, which is below the base. -/
def digit? (base : Nat) (c : Char) : Option Nat :=
  let value? :=
    if '0' ≤ c ∧ c ≤ '9' then some (c.toNat - '0'.toNat)
    else if 'a' ≤ c ∧ c ≤ 'f' then some (c.toNat - 'a'.toNat + 10)
    else if 'A' ≤ c ∧ c ≤ 'F' then some (c.toNat - 'A'.toNat + 10)
    else none
  value?.filter (· < base)

/-- The number that digits give, the first one counting most; none without digits. -/
def read? (base : Nat) (cs : List Char) : Option Nat :=
  if cs.isEmpty then none
  else cs.foldlM (fun n c => (digit? base c).map (base * n + ·)) 0

/-- So many hexadecimal digits of a number. -/
def hexDigits (width n : Nat) : List Char :=
  let digits := "0123456789ABCDEF".toList
  ((List.range width).map fun i => digits.getD (n / Nat.pow 16 i % 16) '0').reverse

end SecretVault.Text.Radix
