/-!
Decimal numbers and the range of 64-bit floating-point numbers.

Source pin: `serde_yaml` 0.9: texts that it quotes because they would read as numbers.
-/
namespace SecretVault.Text.Magnitude

/-- The least number that rounds to infinity in 64 bits. -/
def limit : Nat := Nat.pow 2 1024 - Nat.pow 2 970

/-- Whether `digits * 10 ^ exponent` is too large for a 64-bit floating-point number. -/
def isTooLarge (digits : Nat) (exponent : Int) : Bool :=
  digits != 0 &&
    (308 < exponent ||
      if 0 ≤ exponent then limit ≤ digits * Nat.pow 10 exponent.toNat
      else (-exponent).toNat ≤ Nat.log2 digits && limit * Nat.pow 10 (-exponent).toNat ≤ digits)

end SecretVault.Text.Magnitude
