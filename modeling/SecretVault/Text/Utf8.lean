/-!
Bytes of a text. Writing follows the encoding's four widths; reading reports where the first
malformed character starts and how many of its bytes can be told to be wrong.

Source pin: `String::from_utf8`, with its message.
-/
namespace SecretVault.Text.Utf8

abbrev Bytes := List UInt8

def encodeChar (c : Char) : Bytes :=
  let n := c.toNat
  if n < 0x80 then [n.toUInt8]
  else if n < 0x800 then [(0xC0 + n / 64).toUInt8, (0x80 + n % 64).toUInt8]
  else if n < 0x10000 then
    [(0xE0 + n / 4096).toUInt8, (0x80 + n / 64 % 64).toUInt8, (0x80 + n % 64).toUInt8]
  else
    [(0xF0 + n / 262144).toUInt8, (0x80 + n / 4096 % 64).toUInt8, (0x80 + n / 64 % 64).toUInt8,
      (0x80 + n % 64).toUInt8]

def encode (s : String) : Bytes := s.toList.flatMap encodeChar

/-- The first malformed character: where it starts, and the width of what cannot be continued;
no width when the bytes end inside it. -/
structure Malformed where
  start : Nat
  width : Option Nat
  deriving DecidableEq, Repr

def Malformed.message (m : Malformed) : String :=
  match m.width with
  | some width =>
    "invalid utf-8 sequence of " ++ toString width ++ " bytes from index " ++ toString m.start
  | none => "incomplete utf-8 byte sequence from index " ++ toString m.start

/-- The six bits that a continuation byte carries. -/
def tail? (b : UInt8) : Option Nat :=
  if 0x80 ≤ b.toNat ∧ b.toNat ≤ 0xBF then some (b.toNat - 0x80) else none

/-- The bits of a second byte: the first byte narrows it, so that no character has two encodings
and no surrogate or code point above U+10FFFF has one. -/
def second? (first b : UInt8) : Option Nat :=
  if first = 0xE0 ∧ b.toNat < 0xA0 then none
  else if first = 0xED ∧ 0xA0 ≤ b.toNat then none
  else if first = 0xF0 ∧ b.toNat < 0x90 then none
  else if first = 0xF4 ∧ 0x90 ≤ b.toNat then none
  else tail? b

/-- Reads on at byte `start` with the characters before it, latest first. -/
def decodeFrom (start : Nat) (before : List Char) : Bytes → Except Malformed (List Char)
  | [] => .ok before.reverse
  | a :: rest =>
    if a.toNat < 0x80 then decodeFrom (start + 1) (Char.ofNat a.toNat :: before) rest
    else if a.toNat < 0xC2 ∨ 0xF4 < a.toNat then .error ⟨start, some 1⟩
    else match rest with
      | [] => .error ⟨start, none⟩
      | b :: rest =>
        match second? a b with
        | none => .error ⟨start, some 1⟩
        | some y =>
          if a.toNat < 0xE0 then
            decodeFrom (start + 2) (Char.ofNat ((a.toNat - 0xC0) * 64 + y) :: before) rest
          else match rest with
            | [] => .error ⟨start, none⟩
            | c :: rest =>
              match tail? c with
              | none => .error ⟨start, some 2⟩
              | some z =>
                if a.toNat < 0xF0 then
                  decodeFrom (start + 3)
                    (Char.ofNat ((a.toNat - 0xE0) * 4096 + y * 64 + z) :: before) rest
                else match rest with
                  | [] => .error ⟨start, none⟩
                  | d :: rest =>
                    match tail? d with
                    | none => .error ⟨start, some 3⟩
                    | some w =>
                      decodeFrom (start + 4)
                        (Char.ofNat ((a.toNat - 0xF0) * 262144 + y * 4096 + z * 64 + w) :: before)
                        rest

def decode (bytes : Bytes) : Except Malformed String :=
  (decodeFrom 0 [] bytes).map String.ofList

end SecretVault.Text.Utf8
