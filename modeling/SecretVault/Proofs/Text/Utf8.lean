import SecretVault.Text.Utf8

/-!
Reading back the bytes of a text. Each character is read from its one to four bytes, whatever
follows them, so every text is read back from its bytes.
-/
namespace SecretVault.Text.Utf8

theorem toNat_toUInt8 {n : Nat} (small : n < 256) : n.toUInt8.toNat = n := by
  simp [Nat.mod_eq_of_lt small]

/-- A character is outside of the surrogates and below the end of the code points. -/
theorem toNat_range (c : Char) : c.toNat < 0xD800 ∨ 0xDFFF < c.toNat ∧ c.toNat < 0x110000 :=
  c.valid

theorem tail?_of_continuation {n : Nat} (small : n < 64) :
    tail? (0x80 + n).toUInt8 = some n := by
  have value : (0x80 + n).toUInt8.toNat = 0x80 + n := toNat_toUInt8 (by omega)
  rw [tail?, value, if_pos (by omega), Nat.add_sub_cancel_left]

/-- A second byte carries its bits after every first byte that admits them. -/
theorem second?_of_continuation {a n : Nat} (first : a < 256) (small : n < 64)
    (admitted : (a = 0xE0 → 0x20 ≤ n) ∧ (a = 0xED → n < 0x20) ∧ (a = 0xF0 → 0x10 ≤ n) ∧
      (a = 0xF4 → n < 0x10)) :
    second? a.toUInt8 (0x80 + n).toUInt8 = some n := by
  have value : (0x80 + n).toUInt8.toNat = 0x80 + n := toNat_toUInt8 (by omega)
  have byte {k : Nat} (small : k < 256) : a.toUInt8 = k.toUInt8 ↔ a = k := by
    rw [← UInt8.toNat_inj, toNat_toUInt8 first, toNat_toUInt8 small]
  have notE0 : ¬ (a.toUInt8 = 0xE0 ∧ 0x80 + n < 0xA0) := by
    rintro ⟨same, below⟩
    have := admitted.1 ((byte (by decide)).1 same)
    omega
  have notED : ¬ (a.toUInt8 = 0xED ∧ 0xA0 ≤ 0x80 + n) := by
    rintro ⟨same, above⟩
    have := admitted.2.1 ((byte (by decide)).1 same)
    omega
  have notF0 : ¬ (a.toUInt8 = 0xF0 ∧ 0x80 + n < 0x90) := by
    rintro ⟨same, below⟩
    have := admitted.2.2.1 ((byte (by decide)).1 same)
    omega
  have notF4 : ¬ (a.toUInt8 = 0xF4 ∧ 0x90 ≤ 0x80 + n) := by
    rintro ⟨same, above⟩
    have := admitted.2.2.2 ((byte (by decide)).1 same)
    omega
  rw [second?, value, if_neg notE0, if_neg notED, if_neg notF0, if_neg notF4,
    tail?_of_continuation small]

/-- A character is read from its bytes. -/
theorem decodeFrom_encodeChar (c : Char) (start : Nat) (before : List Char) (rest : Bytes) :
    ∃ next, decodeFrom start before (encodeChar c ++ rest) = decodeFrom next (c :: before) rest := by
  have range := toNat_range c
  have back {n : Nat} (same : n = c.toNat) : Char.ofNat n = c := by
    rw [same, Char.ofNat_toNat]
  unfold encodeChar
  dsimp only
  split
  · rename_i one
    have lead : c.toNat.toUInt8.toNat = c.toNat := toNat_toUInt8 (by omega)
    refine ⟨start + 1, ?_⟩
    rw [List.singleton_append, decodeFrom.eq_def]
    simp only [lead, one, if_true, Char.ofNat_toNat]
  split
  · rename_i two
    have lead : (0xC0 + c.toNat / 64).toUInt8.toNat = 0xC0 + c.toNat / 64 :=
      toNat_toUInt8 (by omega)
    have second := second?_of_continuation (a := 0xC0 + c.toNat / 64) (n := c.toNat % 64)
      (by omega) (by omega) (by omega)
    refine ⟨start + 2, ?_⟩
    rw [List.cons_append, List.singleton_append, decodeFrom.eq_def]
    simp only [lead, second]
    rw [if_neg (by omega), if_neg (by omega), if_pos (by omega), back (by omega)]
  split
  · rename_i three
    have lead : (0xE0 + c.toNat / 4096).toUInt8.toNat = 0xE0 + c.toNat / 4096 :=
      toNat_toUInt8 (by omega)
    have second := second?_of_continuation (a := 0xE0 + c.toNat / 4096) (n := c.toNat / 64 % 64)
      (by omega) (by omega) (by omega)
    have third := tail?_of_continuation (n := c.toNat % 64) (by omega)
    refine ⟨start + 3, ?_⟩
    rw [List.cons_append, List.cons_append, List.singleton_append, decodeFrom.eq_def]
    simp only [lead, second, third]
    rw [if_neg (by omega), if_neg (by omega), if_neg (by omega), if_pos (by omega),
      back (by omega)]
  · have lead : (0xF0 + c.toNat / 262144).toUInt8.toNat = 0xF0 + c.toNat / 262144 :=
      toNat_toUInt8 (by omega)
    have second := second?_of_continuation (a := 0xF0 + c.toNat / 262144)
      (n := c.toNat / 4096 % 64) (by omega) (by omega) (by omega)
    have third := tail?_of_continuation (n := c.toNat / 64 % 64) (by omega)
    have fourth := tail?_of_continuation (n := c.toNat % 64) (by omega)
    refine ⟨start + 4, ?_⟩
    rw [List.cons_append, List.cons_append, List.cons_append, List.singleton_append,
      decodeFrom.eq_def]
    simp only [lead, second, third, fourth]
    rw [if_neg (by omega), if_neg (by omega), if_neg (by omega), if_neg (by omega),
      back (by omega)]

/-- The characters of a text are read first, whatever bytes follow theirs. -/
theorem decodeFrom_encode_append (cs : List Char) (start : Nat) (before : List Char)
    (rest : Bytes) :
    ∃ next, decodeFrom start before (cs.flatMap encodeChar ++ rest) =
      decodeFrom next (cs.reverse ++ before) rest := by
  induction cs generalizing start before with
  | nil => exact ⟨start, rfl⟩
  | cons c others ih =>
    obtain ⟨next, read⟩ :=
      decodeFrom_encodeChar c start before (others.flatMap encodeChar ++ rest)
    obtain ⟨last, readAll⟩ := ih next (c :: before)
    refine ⟨last, ?_⟩
    rw [List.flatMap_cons, List.append_assoc, read, readAll, List.reverse_cons, List.append_assoc]
    rfl

theorem decodeFrom_encode (cs : List Char) (start : Nat) (before : List Char) :
    decodeFrom start before (cs.flatMap encodeChar) = .ok (before.reverse ++ cs) := by
  obtain ⟨next, read⟩ := decodeFrom_encode_append cs start before []
  rw [List.append_nil] at read
  rw [read, decodeFrom, List.reverse_append, List.reverse_reverse]

/-- A text is read back from its bytes. -/
@[simp] theorem decode_encode (s : String) : decode (encode s) = .ok s := by
  rw [decode, encode, decodeFrom_encode]
  simp [Except.map]

/-- What has been read stays in front of what is read on. -/
theorem reverse_isPrefix_of_decodeFrom {start : Nat} {before : List Char} {bytes : Bytes}
    {cs : List Char} (read : decodeFrom start before bytes = .ok cs) : before.reverse <+: cs := by
  have shorter {c : Char} {before : List Char} (longer : (c :: before).reverse <+: cs) :
      before.reverse <+: cs := by
    rw [List.reverse_cons] at longer
    exact (List.prefix_append _ _).trans longer
  fun_induction decodeFrom start before bytes with
  | case1 => exact Except.ok.inj read ▸ List.prefix_refl _
  | _ => grind

/-- A text begins with the characters of another if its bytes do with theirs. -/
theorem isPrefix_of_encode_isPrefix {literal : List Char} {s : String}
    (starts : encode (String.ofList literal) <+: encode s) : literal <+: s.toList := by
  obtain ⟨rest, bytes⟩ := starts
  have whole := decodeFrom_encode s.toList 0 []
  obtain ⟨next, read⟩ := decodeFrom_encode_append literal 0 [] rest
  rw [encode, String.toList_ofList] at bytes
  rw [bytes, encode, whole] at read
  simpa using reverse_isPrefix_of_decodeFrom read.symm

end SecretVault.Text.Utf8
